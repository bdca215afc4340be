import StoreLink.Text.Blank

/-!
# What is trimmed

A line is trimmed of blanks at both ends, of line ends at its end, and searched for what opens it
and for its first word. Each of these cuts a text in parts, and each is determined by its parts:

* `eq_of_trim` and `trim_eq_of_append`: blanks, a text that is `Trimmed`, blanks; where the text
  starts with no blank, those behind it alone (`eq_of_trim_back`);
* `eq_of_dropLineEnds` and `dropLineEnds_eq_of_append`: a text that ends in no line end, line ends;
  `trim_dropLineEnds` says that trimming drops them too;
* `dropPrefix?_eq_some_iff`, `dropPrefix?_eq_none_iff`: what opens the text, and the rest;
* `firstWord_eq`, `firstWord_spec`: blanks, the first word, and a rest that starts with a blank.
-/

namespace StoreLink.Text

/-! ## 1. Cuts at the end of a list -/

section DropEnd

variable {α : Type} {p : α → Bool} {l tail : List α}

theorem of_mem_takeWhile {x : α} (hx : x ∈ l.takeWhile p) : p x = true :=
  List.all_eq_true.mp List.all_takeWhile x hx

/-- A list that does not end inside the class is what is left of it and a tail inside the class. -/
theorem dropEnd_append (hlast : ∀ x ∈ l.getLast?, p x = false) (htail : ∀ x ∈ tail, p x = true) :
    ((l ++ tail).reverse.dropWhile p).reverse = l := by
  rw [List.reverse_eq_iff]
  refine dropWhile_eq_of_append p tail.reverse (List.reverse_append).symm ?_ ?_
  · rw [List.all_reverse, List.all_eq_true]
    exact htail
  · rw [List.head?_reverse]
    cases hl : l.getLast? with
    | none => rfl
    | some x => exact hlast x (by rw [hl]; rfl)

theorem exists_dropEnd (p : α → Bool) (l : List α) :
    ∃ tail, (∀ x ∈ tail, p x = true) ∧ l = (l.reverse.dropWhile p).reverse ++ tail := by
  refine ⟨(l.reverse.takeWhile p).reverse, fun x hx => ?_, ?_⟩
  · exact of_mem_takeWhile (List.mem_reverse.mp hx)
  · rw [← List.reverse_append, List.takeWhile_append_dropWhile, List.reverse_reverse]

theorem head?_dropWhile (p : α → Bool) (l : List α) : ∀ x ∈ (l.dropWhile p).head?, p x = false := by
  intro x hx
  have h := List.head?_dropWhile_not p l
  rw [hx] at h
  exact h

theorem getLast?_dropEnd (p : α → Bool) (l : List α) :
    ∀ x ∈ ((l.reverse.dropWhile p).reverse).getLast?, p x = false := by
  rw [List.getLast?_reverse]
  exact head?_dropWhile p l.reverse

/-- What is left of a list after both its ends are cut ends in neither. -/
theorem ends_strip (p : α → Bool) (l : List α) :
    (∀ x ∈ ((l.dropWhile p).reverse.dropWhile p).reverse.head?, p x = false) ∧
      ∀ x ∈ ((l.dropWhile p).reverse.dropWhile p).reverse.getLast?, p x = false := by
  refine ⟨fun x hx => ?_, getLast?_dropEnd p _⟩
  obtain ⟨tail, -, hl⟩ := exists_dropEnd p (l.dropWhile p)
  refine head?_dropWhile p l x ?_
  rw [hl, List.head?_append, hx]
  rfl

/-- A list is two parts inside the class and what is left after both its ends are cut. -/
theorem exists_strip (p : α → Bool) (l : List α) :
    ∃ front back, (∀ x ∈ front, p x = true) ∧ (∀ x ∈ back, p x = true) ∧
      l = front ++ ((l.dropWhile p).reverse.dropWhile p).reverse ++ back := by
  obtain ⟨back, hback, hl⟩ := exists_dropEnd p (l.dropWhile p)
  refine ⟨l.takeWhile p, back, fun x hx => of_mem_takeWhile hx, hback, ?_⟩
  rw [List.append_assoc, ← hl, List.takeWhile_append_dropWhile]

/-- **Cutting both ends takes off what is inside the class**, and nothing else. -/
theorem strip_append {front back : List α} (hfront : ∀ x ∈ front, p x = true)
    (hfirst : ∀ x ∈ l.head?, p x = false) (hlast : ∀ x ∈ l.getLast?, p x = false)
    (hback : ∀ x ∈ back, p x = true) :
    (((front ++ l ++ back).dropWhile p).reverse.dropWhile p).reverse = l := by
  have hall : front.all p = true := List.all_eq_true.mpr hfront
  rw [List.append_assoc]
  cases l with
  | nil =>
    have hnone : (front ++ ([] ++ back)).dropWhile p = [] := by
      refine dropWhile_eq_of_append p (front ++ back) (List.append_nil _) ?_ rfl
      rw [List.all_append, hall, Bool.true_and]
      exact List.all_eq_true.mpr hback
    rw [hnone]
    rfl
  | cons x xs =>
    have hhead : (x :: xs ++ back).head?.any p = false := hfirst x rfl
    rw [dropWhile_eq_of_append p front rfl hall hhead]
    exact dropEnd_append hlast hback

/-- What opens a whole from outside the class opens what is left without a tail inside the class. -/
theorem prefix_of_append {front : List α} (h : front <+: l ++ tail)
    (hfront : ∀ x ∈ front, p x = false) (htail : ∀ x ∈ tail, p x = true) : front <+: l := by
  obtain ⟨rest, hrest⟩ := h
  rcases List.append_eq_append_iff.mp hrest with ⟨more, hl, -⟩ | ⟨both, hboth, htail'⟩
  · exact ⟨more, hl.symm⟩
  · cases both with
    | nil => exact ⟨[], by rw [hboth, List.append_nil, List.append_nil]⟩
    | cons x xs =>
      have hout := hfront x (by rw [hboth]; exact List.mem_append_right _ List.mem_cons_self)
      rw [htail x (by rw [htail']; exact List.mem_cons_self)] at hout
      cases hout

end DropEnd

/-! ## 2. Trimming -/

/-- The text holds nothing but blanks. -/
def Blanks (s : String) : Prop := ∀ c ∈ s.toList, isBlank c = true

instance (s : String) : Decidable (Blanks s) :=
  decidable_of_iff (s.toList.all isBlank = true) List.all_eq_true

@[simp] theorem blanks_append {s t : String} : Blanks (s ++ t) ↔ Blanks s ∧ Blanks t := by
  simp only [Blanks, String.toList_append, List.forall_mem_append]

@[simp] theorem blanks_ofList {l : List Char} :
    Blanks (String.ofList l) ↔ ∀ c ∈ l, isBlank c = true := by
  simp only [Blanks, String.toList_ofList]

/-- The text neither starts nor ends with a blank. -/
structure Trimmed (s : String) : Prop where
  first : ∀ c ∈ s.toList.head?, isBlank c = false
  last : ∀ c ∈ s.toList.getLast?, isBlank c = false

theorem trimmed_iff {s : String} :
    (s.toList.head?.any isBlank = false ∧ s.toList.getLast?.any isBlank = false) ↔ Trimmed s := by
  constructor
  · intro h
    obtain ⟨hfirst, hlast⟩ := h
    exact ⟨(Option.any_eq_false _ _).mp hfirst, (Option.any_eq_false _ _).mp hlast⟩
  · intro h
    exact ⟨(Option.any_eq_false _ _).mpr h.first, (Option.any_eq_false _ _).mpr h.last⟩

instance (s : String) : Decidable (Trimmed s) :=
  decidable_of_iff _ trimmed_iff

theorem trimmed_of_forall {s : String} (h : ∀ c ∈ s.toList, isBlank c = false) : Trimmed s where
  first c hc := h c (List.mem_of_mem_head? hc)
  last c hc := h c (List.mem_of_mem_getLast? hc)

/-- A text of two parts is trimmed if the first starts and the second ends without a blank. -/
theorem trimmed_append_iff {s t : String} (hs : s ≠ "") (ht : t ≠ "") :
    Trimmed (s ++ t) ↔ (∀ c ∈ s.toList.head?, isBlank c = false) ∧
      ∀ c ∈ t.toList.getLast?, isBlank c = false := by
  have hhead : (s ++ t).toList.head? = s.toList.head? := by
    rw [String.toList_append]
    cases hchars : s.toList with
    | nil => exact absurd (String.toList_eq_nil_iff.mp hchars) hs
    | cons x rest => rfl
  have hlast : (s ++ t).toList.getLast? = t.toList.getLast? := by
    rw [String.toList_append, List.getLast?_append]
    cases hchars : t.toList.getLast? with
    | none => exact absurd (String.toList_eq_nil_iff.mp (List.getLast?_eq_none_iff.mp hchars)) ht
    | some y => rfl
  constructor
  · intro h
    exact ⟨hhead ▸ h.first, hlast ▸ h.last⟩
  · intro h
    exact ⟨hhead ▸ h.1, hlast ▸ h.2⟩

theorem space_not_mem {s : String} (h : ∀ c ∈ s.toList, isBlank c = false) : ' ' ∉ s.toList :=
  fun hc => absurd (h ' ' hc) (by decide)

/-- A space between two texts stands between their characters. -/
theorem toList_append_space (s t : String) :
    (s ++ " " ++ t).toList = s.toList ++ ' ' :: t.toList := by
  simp

/-- **A text is blanks, what trimming leaves of it, and blanks.** -/
theorem eq_of_trim (s : String) :
    ∃ front back, Blanks front ∧ Blanks back ∧ s = front ++ trim s ++ back := by
  obtain ⟨front, back, hfront, hback, hs⟩ := exists_strip isBlank s.toList
  refine ⟨String.ofList front, String.ofList back, blanks_ofList.mpr hfront,
    blanks_ofList.mpr hback, ?_⟩
  simpa [← String.toList_inj, toList_trim] using hs

@[simp] theorem trimmed_trim (s : String) : Trimmed (trim s) := by
  obtain ⟨hfirst, hlast⟩ := ends_strip isBlank s.toList
  rw [← toList_trim] at hfirst hlast
  exact ⟨hfirst, hlast⟩

/-- **Trimming takes off the blanks around a text that is trimmed**, and nothing else. -/
theorem trim_eq_of_append {front s back : String} (hfront : Blanks front) (hs : Trimmed s)
    (hback : Blanks back) : trim (front ++ s ++ back) = s := by
  simpa only [← String.toList_inj, toList_trim, String.toList_append] using
    strip_append hfront hs.first hs.last hback

/-- Blanks are taken off the end alone of a text that starts with none. -/
theorem eq_of_trim_back {s : String} (h : ∀ c ∈ s.toList.head?, isBlank c = false) :
    ∃ back, Blanks back ∧ s = trim s ++ back := by
  obtain ⟨front, back, hfront, hback, hs⟩ := eq_of_trim s
  have hnone : front = "" := by
    cases hchars : front.toList with
    | nil => exact String.toList_eq_nil_iff.mp hchars
    | cons c rest =>
      have hc : c ∈ s.toList.head? := by
        rw [hs]
        simp [hchars]
      have hblank := hfront c (by rw [hchars]; exact List.mem_cons_self)
      rw [h c hc] at hblank
      cases hblank
  rw [hnone, String.empty_append] at hs
  exact ⟨back, hback, hs⟩

theorem trim_of_trimmed {s : String} (hs : Trimmed s) : trim s = s := by
  have hnone : Blanks "" := fun c hc => absurd hc List.not_mem_nil
  have h := trim_eq_of_append hnone hs hnone
  simpa using h

/-- Trimming twice is trimming once. -/
@[simp] theorem trim_trim (s : String) : trim (trim s) = trim s :=
  trim_of_trimmed (trimmed_trim s)

theorem mem_of_mem_trim {s : String} {c : Char} (h : c ∈ (trim s).toList) : c ∈ s.toList := by
  obtain ⟨front, back, -, -, hs⟩ := eq_of_trim s
  rw [hs]
  simp [h]

/-- **Trimming leaves every character that is no blank.** -/
theorem mem_trim_of_mem {s : String} {c : Char} (h : c ∈ s.toList) (hc : isBlank c = false) :
    c ∈ (trim s).toList := by
  obtain ⟨front, back, hfront, hback, hs⟩ := eq_of_trim s
  rw [hs] at h
  simp only [String.toList_append, List.mem_append] at h
  rcases h with (h | h) | h
  · rw [hfront c h] at hc
    cases hc
  · exact h
  · rw [hback c h] at hc
    cases hc

/-- Trimming leaves what opens a text, if there are no blanks in it. -/
theorem prefix_trim {opening : List Char} {s : String} (h : opening <+: s.toList)
    (hopening : opening.any isBlank = false) : opening <+: (trim s).toList := by
  have hnone : ∀ c ∈ opening, isBlank c = false := fun c hc =>
    Bool.eq_false_iff.mpr (List.any_eq_false.mp hopening c hc)
  cases opening with
  | nil => exact List.nil_prefix
  | cons c cs =>
    have hfront : s.toList.dropWhile isBlank = s.toList := by
      obtain ⟨rest, hrest⟩ := h
      rw [← hrest, List.cons_append, List.dropWhile_cons, hnone c List.mem_cons_self]
      rfl
    obtain ⟨tail, htail, hs⟩ := exists_dropEnd isBlank (s.toList.dropWhile isBlank)
    rw [← toList_trim, hfront] at hs
    exact prefix_of_append (hs ▸ h) hnone htail

/-! ## 3. Line ends -/

theorem isLineEnd_eq_false {c : Char} (hc : isBlank c = false) : isLineEnd c = false := by
  cases hend : isLineEnd c with
  | false => rfl
  | true =>
    rw [isBlank_of_isLineEnd hend] at hc
    cases hc

/-- The text holds nothing but line ends. -/
def LineEnds (s : String) : Prop := ∀ c ∈ s.toList, isLineEnd c = true

instance (s : String) : Decidable (LineEnds s) :=
  decidable_of_iff (s.toList.all isLineEnd = true) List.all_eq_true

@[simp] theorem lineEnds_append {s t : String} : LineEnds (s ++ t) ↔ LineEnds s ∧ LineEnds t := by
  simp only [LineEnds, String.toList_append, List.forall_mem_append]

theorem LineEnds.blanks {s : String} (h : LineEnds s) : Blanks s :=
  fun c hc => isBlank_of_isLineEnd (h c hc)

/-- **Line ends are dropped from the end of a text that ends in none**, and nothing else. -/
theorem dropLineEnds_eq_of_append {s ends : String}
    (hs : ∀ c ∈ s.toList.getLast?, isLineEnd c = false) (hends : LineEnds ends) :
    dropLineEnds (s ++ ends) = s := by
  simpa only [← String.toList_inj, toList_dropLineEnds, String.toList_append] using
    dropEnd_append hs hends

/-- The line ends behind a trimmed text are no part of it. -/
theorem dropLineEnds_of_trimmed {s ends : String} (hs : Trimmed s) (hends : LineEnds ends) :
    dropLineEnds (s ++ ends) = s :=
  dropLineEnds_eq_of_append (fun c hc => isLineEnd_eq_false (hs.last c hc)) hends

/-- **A text is what dropping its line ends leaves of it, and line ends.** -/
theorem eq_of_dropLineEnds (s : String) : ∃ ends, LineEnds ends ∧ s = dropLineEnds s ++ ends := by
  obtain ⟨tail, htail, hs⟩ := exists_dropEnd isLineEnd s.toList
  refine ⟨String.ofList tail, ?_, ?_⟩
  · simpa [LineEnds] using htail
  · simpa [← String.toList_inj, toList_dropLineEnds] using hs

theorem mem_of_mem_dropLineEnds {s : String} {c : Char} (h : c ∈ (dropLineEnds s).toList) :
    c ∈ s.toList := by
  obtain ⟨ends, -, hs⟩ := eq_of_dropLineEnds s
  rw [hs]
  simp [h]

/-- Line ends behind a text make no difference to what is left of it. -/
theorem dropLineEnds_append {ends : String} (s : String) (hends : LineEnds ends) :
    dropLineEnds (s ++ ends) = dropLineEnds s := by
  obtain ⟨own, hown, hs⟩ := eq_of_dropLineEnds s
  have hlast : ∀ c ∈ (dropLineEnds s).toList.getLast?, isLineEnd c = false := by
    rw [toList_dropLineEnds]
    exact getLast?_dropEnd isLineEnd s.toList
  have h := dropLineEnds_eq_of_append hlast (lineEnds_append.mpr ⟨hown, hends⟩)
  rw [← String.append_assoc, ← hs] at h
  exact h

/-- **Line ends are blanks**, so trimming is the same with them and without. -/
@[simp] theorem trim_dropLineEnds (s : String) : trim (dropLineEnds s) = trim s := by
  obtain ⟨ends, hends, hs⟩ := eq_of_dropLineEnds s
  obtain ⟨front, back, hfront, hback, hparts⟩ := eq_of_trim (dropLineEnds s)
  have hall : Blanks (back ++ ends) := blanks_append.mpr ⟨hback, hends.blanks⟩
  have h := trim_eq_of_append hfront (trimmed_trim (dropLineEnds s)) hall
  rw [← String.append_assoc, ← hparts, ← hs] at h
  exact h.symm

/-- What opens a text stays when the line ends go, if there are none in it. -/
theorem prefix_dropLineEnds {opening : List Char} {s : String} (h : opening <+: s.toList)
    (hopening : opening.any isLineEnd = false) : opening <+: (dropLineEnds s).toList := by
  obtain ⟨tail, htail, hs⟩ := exists_dropEnd isLineEnd s.toList
  rw [← toList_dropLineEnds] at hs
  refine prefix_of_append (hs ▸ h) (fun c hc => ?_) htail
  exact Bool.eq_false_iff.mpr (List.any_eq_false.mp hopening c hc)

/-! ## 4. What opens a text -/

theorem dropPrefix?_eq_none_iff {s opening : String} :
    s.dropPrefix? opening = none ↔ ∀ rest, s ≠ opening ++ rest := by
  rw [String.dropPrefix?_eq_dropPrefix?_toSlice, String.Slice.dropPrefix?_eq_none_iff,
    String.Slice.startsWith_string_eq_false_iff, String.copy_toSlice]
  constructor
  · rintro h rest rfl
    exact h (by simp)
  · rintro h ⟨rest, hrest⟩
    refine h (String.ofList rest) ?_
    simp [← String.toList_inj, hrest]

/-- **A text opens with another exactly when it is the other and a rest**, and this is the rest. -/
theorem dropPrefix?_eq_some_iff {s opening rest : String} :
    (∃ slice, s.dropPrefix? opening = some slice ∧ slice.copy = rest) ↔ s = opening ++ rest := by
  constructor
  · intro h
    obtain ⟨slice, hslice, rfl⟩ := h
    exact String.eq_append_of_dropPrefix?_string_eq_some hslice
  · intro h
    cases hslice : s.dropPrefix? opening with
    | none => exact absurd h (dropPrefix?_eq_none_iff.mp hslice rest)
    | some slice =>
      refine ⟨slice, rfl, ?_⟩
      have hs := String.eq_append_of_dropPrefix?_string_eq_some hslice
      rw [h, String.append_right_inj] at hs
      exact hs.symm

/-! ## 5. The first word -/

/-- The word is the first one of the text: no blank is in it, nothing but blanks stands before it,
    and a blank or nothing behind it. -/
structure FirstWord (word s : String) : Prop where
  ne_empty : word ≠ ""
  plain : ∀ c ∈ word.toList, isBlank c = false
  parts : ∃ front back, Blanks front ∧ (∀ c ∈ back.toList.head?, isBlank c = true) ∧
    s = front ++ word ++ back

/-- **A text has no other first word.** -/
theorem firstWord_eq {word s : String} (h : FirstWord word s) : firstWord s = word := by
  obtain ⟨front, back, hfront, hback, rfl⟩ := h.parts
  have hstart : (word.toList ++ back.toList).head?.any isBlank = false := by
    cases hw : word.toList with
    | nil => exact absurd (String.toList_inj.mp (by rw [hw]; rfl)) h.ne_empty
    | cons c cs => exact h.plain c (by rw [hw]; exact List.mem_cons_self)
  have hend : back.toList.takeWhile (fun c => !isBlank c) = [] := by
    cases hb : back.toList with
    | nil => rfl
    | cons c cs =>
      have hc : isBlank c = true := hback c (by rw [hb]; rfl)
      rw [List.takeWhile_cons, hc]
      rfl
  have hplain : ∀ c ∈ word.toList, (!isBlank c) = true := fun c hc => by rw [h.plain c hc]; rfl
  have hlist : (front ++ word ++ back).toList
      = front.toList ++ (word.toList ++ back.toList) := by simp
  rw [← String.toList_inj, toList_firstWord, hlist, dropWhile_eq_of_append isBlank front.toList rfl
      (List.all_eq_true.mpr hfront) hstart, List.takeWhile_append_of_pos hplain, hend,
    List.append_nil]

theorem firstWord_spec {s : String} (h : firstWord s ≠ "") : FirstWord (firstWord s) s where
  ne_empty := h
  plain c hc := by
    rw [toList_firstWord] at hc
    simpa using of_mem_takeWhile hc
  parts := by
    refine ⟨String.ofList (s.toList.takeWhile isBlank),
      String.ofList ((s.toList.dropWhile isBlank).dropWhile (fun c => !isBlank c)), ?_, ?_, ?_⟩
    · exact blanks_ofList.mpr fun c hc => of_mem_takeWhile hc
    · intro c hc
      rw [String.toList_ofList] at hc
      simpa using head?_dropWhile _ _ c hc
    · simp [← String.toList_inj, toList_firstWord]

/-- A text with a character that is not blank has a first word. -/
theorem firstWord_ne_empty {s : String} {c : Char} (hc : c ∈ s.toList) (hword : isBlank c = false) :
    firstWord s ≠ "" := by
  intro hnone
  have hlist := toList_firstWord s
  rw [hnone] at hlist
  cases hrest : s.toList.dropWhile isBlank with
  | nil =>
    have hall := List.takeWhile_append_dropWhile (p := isBlank) (l := s.toList)
    rw [hrest, List.append_nil] at hall
    rw [← hall] at hc
    rw [of_mem_takeWhile hc] at hword
    cases hword
  | cons d rest =>
    have hd := head?_dropWhile isBlank s.toList d (by rw [hrest]; rfl)
    rw [hrest, List.takeWhile_cons, hd] at hlist
    cases hlist

/-- The first word of what is left after trimming is that of the whole text. -/
theorem firstWord_of_trim {word s : String} (h : FirstWord word (trim s)) : FirstWord word s where
  ne_empty := h.ne_empty
  plain := h.plain
  parts := by
    obtain ⟨front, back, hfront, hback, hs⟩ := eq_of_trim s
    obtain ⟨front', back', hfront', hback', htrim⟩ := h.parts
    refine ⟨front ++ front', back' ++ back, blanks_append.mpr ⟨hfront, hfront'⟩, fun c hc => ?_, ?_⟩
    · rw [String.toList_append, List.head?_append] at hc
      cases hnone : back'.toList.head? with
      | none =>
        rw [hnone] at hc
        exact hback c (List.mem_of_mem_head? hc)
      | some d =>
        rw [hnone] at hc
        cases hc
        exact hback' c hnone
    · rw [hs, htrim]
      simp only [String.append_assoc]

/-- **Trimming keeps the first word.** -/
@[simp] theorem firstWord_trim_iff {word s : String} :
    FirstWord word (trim s) ↔ FirstWord word s := by
  constructor
  · exact firstWord_of_trim
  · intro h
    obtain ⟨front, back, -, -, hparts⟩ := h.parts
    cases hw : word.toList with
    | nil => exact absurd (String.toList_inj.mp (by rw [hw]; rfl)) h.ne_empty
    | cons c cs =>
      have hplain : isBlank c = false := h.plain c (by rw [hw]; exact List.mem_cons_self)
      have hmem : c ∈ s.toList := by
        rw [hparts]
        simp [hw]
      have hleft := mem_trim_of_mem hmem hplain
      have hspec := firstWord_spec (firstWord_ne_empty hleft hplain)
      rw [← firstWord_eq h, firstWord_eq (firstWord_of_trim hspec)]
      exact hspec

end StoreLink.Text
