import StoreLink.Text.Quoted
import StoreLink.Text.Decimal

/-!
# What a quoted text shows, and what it keeps

A quoted text stands on one line whatever it quotes, and it can be read back: where it ends and what
it quotes follow from its characters, whatever comes behind.

* `Harmless` says which characters can neither end a line nor pass for something else in it, and
  `AllHarmless` says it of a text; `allHarmless_quote`: quoted texts are such texts;
* `value_hexDigits`: the digits of a number are read back as it;
* `WrittenAs` says how a character is written between the quotation marks, and `writtenAs_escape`
  that it is written so; `WrittenAs.unique`: no written form opens another;
* **`quote_append_inj`**: a quoted text and what follows it are told apart in one way only.
-/

namespace StoreLink.Text

/-! ## 1. Harmless characters -/

/-- The character stands in a line as a letter does: it is no control, it separates neither lines
    nor paragraphs, and it is no blank but the space. -/
structure Harmless (c : Char) : Prop where
  control : isControl c = false
  line : c ≠ '\u2028'
  paragraph : c ≠ '\u2029'
  blank : isBlank c = true → c = ' '

/-- Each character of the text is harmless. -/
def AllHarmless (s : String) : Prop := ∀ c ∈ s.toList, Harmless c

/-- The two separators are blanks, so two classes of characters decide. -/
theorem harmless_of_classes {c : Char} (hcontrol : isControl c = false)
    (hblank : isBlank c = true → c = ' ') : Harmless c where
  control := hcontrol
  line := by
    rintro rfl
    exact absurd (hblank (by decide)) (by decide)
  paragraph := by
    rintro rfl
    exact absurd (hblank (by decide)) (by decide)
  blank := hblank

/-- The test of it. -/
def isHarmless (c : Char) : Bool :=
  !isControl c && (!isBlank c || c == ' ')

theorem isHarmless_iff {c : Char} : isHarmless c = true ↔ Harmless c := by
  rw [isHarmless, Bool.and_eq_true, Bool.or_eq_true, Bool.not_eq_true', Bool.not_eq_true',
    beq_iff_eq]
  constructor
  · intro h
    exact harmless_of_classes h.1 fun hblank =>
      h.2.resolve_left (Bool.not_eq_false _ ▸ hblank)
  · intro h
    cases hblank : isBlank c with
    | false => exact ⟨h.control, .inl rfl⟩
    | true => exact ⟨h.control, .inr (h.blank hblank)⟩

instance (c : Char) : Decidable (Harmless c) :=
  decidable_of_iff _ isHarmless_iff

instance (s : String) : Decidable (AllHarmless s) :=
  decidable_of_iff (s.toList.all isHarmless = true)
    (List.all_eq_true.trans (forall₂_congr fun _ _ => isHarmless_iff))

section Harmless

variable {c : Char} {s t : String}

/-- The characters of ASCII from the space on are harmless, but for the last. -/
theorem harmless_of_ascii (hle : 0x20 ≤ c.val) (hlt : c.val < 0x7F) : Harmless c := by
  have hcontrol : isControl c = false := by
    rw [isControl, Bool.or_eq_false_iff, Bool.and_eq_false_iff]
    exact ⟨decide_eq_false (UInt32.not_lt.mpr hle),
      .inl (decide_eq_false (UInt32.not_le.mpr hlt))⟩
  refine harmless_of_classes hcontrol fun hblank => ?_
  have hsmall : c.val < 0x80 := UInt32.lt_trans hlt (by decide)
  rw [isBlank, if_pos hsmall, Bool.or_eq_true, beq_iff_eq, Bool.and_eq_true, decide_eq_true_eq,
    decide_eq_true_eq] at hblank
  rcases hblank with hspace | ⟨-, htab⟩
  · exact Char.ext hspace
  · exact absurd (UInt32.le_trans hle htab) (by decide)

/-- **A character that stands for itself is harmless.** -/
theorem harmless_of_isShown (h : isShown c = true) : Harmless c := by
  unfold isShown at h
  split at h
  · rename_i hlt
    simp only [Bool.and_eq_true, decide_eq_true_eq] at h
    exact harmless_of_ascii h.1.1 hlt
  · simp only [Bool.not_eq_true', Bool.or_eq_false_iff] at h
    obtain ⟨⟨⟨⟨⟨hcontrol, hblank⟩, -⟩, -⟩, -⟩, -⟩ := h
    exact harmless_of_classes hcontrol fun h => absurd (hblank.symm.trans h) Bool.false_ne_true

theorem harmless_of_isDigit (h : c.isDigit = true) : Harmless c := by
  rw [Char.isDigit, Bool.and_eq_true, decide_eq_true_eq, decide_eq_true_eq] at h
  exact harmless_of_ascii (UInt32.le_trans (by decide) h.1) (UInt32.lt_of_le_of_lt h.2 (by decide))

@[simp] theorem allHarmless_append : AllHarmless (s ++ t) ↔ AllHarmless s ∧ AllHarmless t := by
  simp only [AllHarmless, String.toList_append, List.forall_mem_append]

@[simp] theorem allHarmless_render (n : Nat) : AllHarmless (Decimal.render n) := by
  intro c hc
  rw [Decimal.render, String.toList_ofList] at hc
  exact harmless_of_isDigit (Nat.isDigit_of_mem_toDigits (by decide) (by decide) hc)

end Harmless

/-! ## 2. Digits in base 16 -/

/-- The value of a digit. -/
def hexValue (digit : Char) : Nat :=
  if digit.toNat < 0x61 then digit.toNat - 0x30 else digit.toNat - 0x57

/-- The number that digits stand for. -/
def valueOfHex (digits : List Char) : Nat :=
  digits.foldl (fun n digit => 16 * n + hexValue digit) 0

/-- A number below 16 has one digit. -/
theorem hexDigits_of_lt {n : Nat} (h : n < 16) : hexDigits n = [Nat.digitChar n] :=
  Nat.toDigits_of_lt_base h

/-- Any other number ends with the digit of what is left over. -/
theorem hexDigits_of_le {n : Nat} (h : 16 ≤ n) :
    hexDigits n = hexDigits (n / 16) ++ [Nat.digitChar (n % 16)] :=
  Nat.toDigits_of_base_le (by decide) h

theorem valueOfHex_append (digits : List Char) (last : Char) :
    valueOfHex (digits ++ [last]) = 16 * valueOfHex digits + hexValue last := by
  rw [valueOfHex, List.foldl_append]
  rfl

theorem hexValue_digitChar : ∀ d < 16, hexValue (Nat.digitChar d) = d := by decide

/-- **The digits of a number are read back as it.** -/
theorem value_hexDigits (n : Nat) : valueOfHex (hexDigits n) = n := by
  induction n using Nat.strongRecOn with
  | ind n ih =>
    by_cases h : n < 16
    · rw [hexDigits_of_lt h, ← List.nil_append [_], valueOfHex_append, hexValue_digitChar n h]
      exact Nat.zero_add n
    · have hle : 16 ≤ n := Nat.le_of_not_lt h
      rw [hexDigits_of_le hle, valueOfHex_append, ih _ (by omega),
        hexValue_digitChar _ (Nat.mod_lt n (by decide))]
      omega

/-- Each digit is that of a number below 16. -/
theorem exists_of_mem_hexDigits (n : Nat) :
    ∀ digit ∈ hexDigits n, ∃ d < 16, digit = Nat.digitChar d := by
  induction n using Nat.strongRecOn with
  | ind n ih =>
    intro digit hdigit
    by_cases h : n < 16
    · rw [hexDigits_of_lt h, List.mem_singleton] at hdigit
      exact ⟨n, h, hdigit⟩
    · rw [hexDigits_of_le (Nat.le_of_not_lt h), List.mem_append, List.mem_singleton] at hdigit
      rcases hdigit with hfirst | hlast
      · exact ih _ (by omega) digit hfirst
      · exact ⟨n % 16, Nat.mod_lt n (by decide), hlast⟩

theorem harmless_digitChar : ∀ d < 16, Harmless (Nat.digitChar d) := by decide

theorem brace_not_mem_hexDigits (n : Nat) : '\x7d' ∉ hexDigits n := by
  intro h
  obtain ⟨d, hd, hdigit⟩ := exists_of_mem_hexDigits n _ h
  have hne : ∀ d < 16, '\x7d' ≠ Nat.digitChar d := by decide
  exact hne d hd hdigit

/-! ## 3. Written forms -/

/-- A character divides a list in one way where it stands for the first time. -/
theorem append_cons_inj {x : Char} {front front' rest rest' : List Char} (h : x ∉ front)
    (h' : x ∉ front') (heq : front ++ x :: rest = front' ++ x :: rest') :
    front = front' ∧ rest = rest' := by
  have hall : ∀ {cs : List Char}, x ∉ cs → cs.all (· != x) = true := fun hcs =>
    List.all_eq_true.mpr fun y hy => bne_iff_ne.mpr fun hyx => hcs (hyx ▸ hy)
  have hhead : ∀ cs : List Char, (x :: cs).head?.any (· != x) = false := fun cs => by
    rw [List.head?_cons, Option.any_some, bne_self_eq_false]
  have htail := dropWhile_eq_of_append _ front heq (hall h) (hhead rest)
  rw [dropWhile_eq_of_append _ front' rfl (hall h') (hhead rest')] at htail
  rw [htail] at heq
  exact ⟨List.append_cancel_right heq, (List.cons.inj htail).2.symm⟩

/-- The characters that are written as a backslash and a letter, with their letters. -/
def letters : List (Char × Char) :=
  [('\x00', '0'), ('\t', 't'), ('\n', 'n'), ('\r', 'r'), ('"', '"'), ('\\', '\\')]

/-- How a character is written: as itself, as a backslash and a letter, or by its number. -/
inductive WrittenAs (c : Char) : List Char → Prop where
  | itself (h : isShown c = true) : WrittenAs c [c]
  | letter {l : Char} (h : (c, l) ∈ letters) : WrittenAs c ['\\', l]
  | number : WrittenAs c ('\\' :: 'u' :: '\x7b' :: (hexDigits c.toNat ++ ['\x7d']))

/-- **Each character has its written form.** -/
theorem writtenAs_escape (c : Char) : WrittenAs c (escape c) := by
  unfold escape
  iterate 6
    split
    · rename_i h
      subst h
      exact .letter (by decide)
  split
  · rename_i h
    exact .itself h
  · exact .number

section WrittenForms

variable {c c' : Char} {w w' rest rest' : List Char}

/-- What is written between quotation marks is harmless. -/
theorem WrittenAs.harmless (h : WrittenAs c w) : ∀ x ∈ w, Harmless x := by
  cases h with
  | itself h => exact List.forall_mem_singleton.mpr (harmless_of_isShown h)
  | letter h =>
    have hletters : ∀ p ∈ letters, Harmless p.2 := by decide
    exact List.forall_mem_cons.mpr ⟨by decide, List.forall_mem_singleton.mpr (hletters _ h)⟩
  | number =>
    intro x hx
    rw [List.mem_cons, List.mem_cons, List.mem_cons, List.mem_append, List.mem_singleton] at hx
    rcases hx with rfl | rfl | rfl | hdigit | rfl
    · decide
    · decide
    · decide
    · obtain ⟨d, hd, rfl⟩ := exists_of_mem_hexDigits _ x hdigit
      exact harmless_digitChar d hd
    · decide

/-- Neither a quotation mark nor a backslash stands for itself. -/
theorem ne_of_isShown (h : isShown c = true) : c ≠ '"' ∧ c ≠ '\\' := by
  constructor
  · rintro rfl
    exact absurd h (by decide)
  · rintro rfl
    exact absurd h (by decide)

/-- No written form opens with a quotation mark. -/
theorem WrittenAs.ne_mark (h : WrittenAs c w) : w ++ rest ≠ '"' :: rest' := by
  intro heq
  cases h with
  | itself h => exact (ne_of_isShown h).1 (List.cons.inj heq).1
  | letter h => exact absurd (List.cons.inj heq).1 (by decide)
  | number => exact absurd (List.cons.inj heq).1 (by decide)

/-- A letter behind a backslash stands for one character. -/
theorem letters_inj {l : Char} (h : (c, l) ∈ letters) (h' : (c', l) ∈ letters) : c = c' := by
  have hall : ∀ p ∈ letters, ∀ q ∈ letters, p.2 = q.2 → p.1 = q.1 := by decide
  exact hall _ h _ h' rfl

/-- And none of these letters opens a number. -/
theorem letter_ne_u {l : Char} (h : (c, l) ∈ letters) : l ≠ 'u' := by
  have hall : ∀ p ∈ letters, p.2 ≠ 'u' := by decide
  exact hall _ h

/-- **No written form opens another**: the form and what follows it are told apart in one way. -/
theorem WrittenAs.unique (h : WrittenAs c w) (h' : WrittenAs c' w')
    (heq : w ++ rest = w' ++ rest') : c = c' ∧ rest = rest' := by
  cases h with
  | itself h =>
    have hne := (ne_of_isShown h).2
    cases h' with
    | itself h' => exact List.cons.inj heq
    | letter h' => exact absurd (List.cons.inj heq).1 hne
    | number => exact absurd (List.cons.inj heq).1 hne
  | letter h =>
    cases h' with
    | itself h' => exact absurd (List.cons.inj heq).1.symm (ne_of_isShown h').2
    | letter h' =>
      obtain ⟨rfl, hrest⟩ := List.cons.inj (List.cons.inj heq).2
      exact ⟨letters_inj h h', hrest⟩
    | number => exact absurd (List.cons.inj (List.cons.inj heq).2).1 (letter_ne_u h)
  | number =>
    cases h' with
    | itself h' => exact absurd (List.cons.inj heq).1.symm (ne_of_isShown h').2
    | letter h' => exact absurd (List.cons.inj (List.cons.inj heq).2).1.symm (letter_ne_u h')
    | number =>
      simp only [List.cons_append, List.append_assoc, List.nil_append, List.cons.injEq,
        true_and] at heq
      -- the brace behind the digits is none of them, so both numbers end there
      obtain ⟨hdigits, hrest⟩ := append_cons_inj (brace_not_mem_hexDigits _)
        (brace_not_mem_hexDigits _) heq
      have hnumber : c.toNat = c'.toNat := by
        rw [← value_hexDigits c.toNat, hdigits, value_hexDigits]
      exact ⟨Char.toNat_inj.mp hnumber, hrest⟩

end WrittenForms

/-! ## 4. Quoted texts -/

/-- **A quoted text is harmless**, whatever it quotes. -/
@[simp] theorem allHarmless_quote (s : String) : AllHarmless (quote s) := by
  intro x hx
  rw [toList_quote, List.cons_append, List.mem_cons, List.mem_append, List.mem_flatMap,
    List.mem_singleton] at hx
  rcases hx with rfl | ⟨c, -, hwritten⟩ | rfl
  · decide
  · exact (writtenAs_escape c).harmless x hwritten
  · decide

/-- The characters up to a quotation mark are told apart in one way. -/
theorem flatMap_escape_inj : ∀ {cs cs' rest rest' : List Char},
    cs.flatMap escape ++ '"' :: rest = cs'.flatMap escape ++ '"' :: rest' →
      cs = cs' ∧ rest = rest'
  | [], [], _, _, h => ⟨rfl, (List.cons.inj h).2⟩
  | [], c' :: cs', _, _, h => by
    rw [List.flatMap_cons, List.append_assoc] at h
    exact absurd h.symm (writtenAs_escape c').ne_mark
  | c :: cs, [], _, _, h => by
    rw [List.flatMap_cons, List.append_assoc] at h
    exact absurd h (writtenAs_escape c).ne_mark
  | c :: cs, c' :: cs', _, _, h => by
    rw [List.flatMap_cons, List.flatMap_cons, List.append_assoc, List.append_assoc] at h
    obtain ⟨rfl, htail⟩ := (writtenAs_escape c).unique (writtenAs_escape c') h
    obtain ⟨rfl, hrest⟩ := flatMap_escape_inj htail
    exact ⟨rfl, hrest⟩

/-- **A quoted text and what follows it are told apart in one way**, also where the text looks like
    the end of a quotation or what follows looks like a part of one. -/
theorem quote_append_inj {s t rest rest' : String} (h : quote s ++ rest = quote t ++ rest') :
    s = t ∧ rest = rest' := by
  have hlists := congrArg String.toList h
  simp only [String.toList_append, toList_quote, List.cons_append, List.append_assoc,
    List.nil_append, List.cons.injEq, true_and] at hlists
  obtain ⟨hs, hrest⟩ := flatMap_escape_inj hlists
  exact ⟨String.toList_inj.mp hs, String.toList_inj.mp hrest⟩

@[simp] theorem quote_inj {s t : String} : quote s = quote t ↔ s = t := by
  constructor
  · intro h
    exact (quote_append_inj (congrArg (· ++ "") h)).1
  · exact congrArg quote

end StoreLink.Text
