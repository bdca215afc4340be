import Mathlib.Data.List.Basic
import StoreLink.Endpoint
import StoreLink.Proofs.Numerals

/-!
# Endpoints and their texts

A text names an endpoint, and an endpoint is written as a text. Reading takes back what was written
for each endpoint that a text can name, and for no other.

* `parseHostPort_of_parts`: what a text is read as that is divided at its last colon, and
  `exists_parts`: a text with a colon in it is;
* `Denotes` says which texts name an endpoint; `parse_eq_ok_iff`: they are read as it;
* `Nameable` says which endpoints a text can name: `nameable_of_denotes`, `denotes_display`;
* `pathComponents_append_blanks`: a path with blanks behind it is another path, also when paths are
  compared by their components;
* `endpoints_read_back`: both directions.
-/

namespace StoreLink.Endpoint

open Text

/-! ## 1. Dividing at the last colon -/

section Dividing

variable {c : Char} {front back l : List Char}

/-- **A list is divided at the last place of a character**: it does not come again behind. -/
theorem splitAtLast_eq_some_iff :
    splitAtLast c l = some (front, back) ↔ l = front ++ c :: back ∧ c ∉ back := by
  constructor
  · intro h
    unfold splitAtLast at h
    split at h
    · cases h
    · rename_i x before hdrop
      cases h
      have hx : x = c := by
        have hhead := head?_dropWhile (· != c) l.reverse x (by rw [hdrop]; rfl)
        simpa using hhead
      have hl := List.takeWhile_append_dropWhile (p := (· != c)) (l := l.reverse)
      rw [hdrop, hx] at hl
      constructor
      · have hback := congrArg List.reverse hl
        rw [List.reverse_append, List.reverse_cons, List.reverse_reverse, List.append_assoc]
          at hback
        exact hback.symm
      · intro hc
        have hbehind := of_mem_takeWhile (List.mem_reverse.mp hc)
        simp at hbehind
  · intro h
    obtain ⟨rfl, hback⟩ := h
    have hall : ∀ x ∈ back.reverse, (x != c) = true := by
      intro x hx
      rw [bne_iff_ne]
      rintro rfl
      exact hback (List.mem_reverse.mp hx)
    have hrev : (front ++ c :: back).reverse = back.reverse ++ c :: front.reverse := by simp
    unfold splitAtLast
    rw [hrev, List.dropWhile_append_of_pos hall, List.takeWhile_append_of_pos hall]
    simp

end Dividing

/-! ## 2. What a text names -/

/-- The text names the endpoint, with blanks around it: a path behind `unix:`, or, if it does not
    open so, a host, a colon, and a numeral of the port. -/
inductive Denotes (text : String) : Endpoint → Prop where
  | unix {path : String} (hpath : path ≠ "") (h : trim text = unixPrefix ++ path) :
      Denotes text (.unix path)
  | tcp {host numeral : String} {n : Nat} (hplain : ∀ rest, trim text ≠ unixPrefix ++ rest)
      (hhost : host ≠ "") (h : trim text = host ++ ":" ++ numeral)
      (hnumeral : Decimal.Numeral numeral n) (hn : n ≤ 65535) :
      Denotes text (.tcp host n.toUInt16)

section Reading

variable {text : String} {e : Endpoint}

/-- Behind `unix:` stands a path. -/
theorem parse_of_opening {path : String} (h : trim text = unixPrefix ++ path) :
    parse text = if path = "" then .error .missingPath else .ok (.unix path) := by
  obtain ⟨slice, hslice, rfl⟩ := dropPrefix?_eq_some_iff.mpr h
  simp only [parse, hslice, ← String.Slice.isEmpty_copy, String.isEmpty_iff]

theorem parse_of_no_opening (h : ∀ rest, trim text ≠ unixPrefix ++ rest) :
    parse text = parseHostPort (trim text) := by
  simp only [parse, dropPrefix?_eq_none_iff.mpr h]

/-- A text without a colon has no port. -/
theorem parseHostPort_of_no_colon (h : ':' ∉ text.toList) :
    parseHostPort text = .error (.missingPort text) := by
  have hsplit : splitAtLast ':' text.toList = none := by
    cases hparts : splitAtLast ':' text.toList with
    | none => rfl
    | some parts =>
      obtain ⟨hlist, -⟩ := splitAtLast_eq_some_iff.mp hparts
      rw [hlist] at h
      exact absurd (List.mem_append_right _ List.mem_cons_self) h
  unfold parseHostPort
  rw [hsplit]

/-- **Before the last colon stands the host, and behind it the port**; a host that is missing is
    noticed first. -/
theorem parseHostPort_of_parts {host port : String} (htext : text = host ++ ":" ++ port)
    (hport : ':' ∉ port.toList) :
    parseHostPort text
      = if host = "" then .error (.missingHost text)
        else
          match Decimal.parse 65535 port with
          | .ok n => .ok (.tcp host n.toUInt16)
          | .error fault => .error (.invalidPort text fault) := by
  have hlist : text.toList = host.toList ++ ':' :: port.toList := by simp [htext]
  unfold parseHostPort
  rw [splitAtLast_eq_some_iff.mpr ⟨hlist, hport⟩]
  cases hchars : host.toList with
  | nil => rw [if_pos (String.toList_eq_nil_iff.mp hchars)]
  | cons c rest =>
    have hhost : host ≠ "" := fun hempty => by simp [hempty] at hchars
    have hread : String.ofList (c :: rest) = host := by rw [← hchars, String.ofList_toList]
    simp only [if_neg hhost, hread]
    rfl

/-- A text with a colon in it is divided at the last one. -/
theorem exists_parts (h : ':' ∈ text.toList) :
    ∃ host port, text = host ++ ":" ++ port ∧ ':' ∉ port.toList := by
  obtain ⟨back, front, hrev, hback⟩ := List.eq_append_cons_of_mem (List.mem_reverse.mpr h)
  have hlist : text.toList = front.reverse ++ ':' :: back.reverse := by
    rw [← List.reverse_reverse text.toList, hrev]
    simp
  refine ⟨String.ofList front.reverse, String.ofList back.reverse, ?_, ?_⟩
  · rw [← String.toList_inj, hlist]
    simp
  · rw [String.toList_ofList]
    exact fun hmem => hback (List.mem_reverse.mp hmem)

theorem colon_not_mem_numeral {numeral : String} {n : Nat} (h : Decimal.Numeral numeral n) :
    ':' ∉ numeral.toList := by
  intro hc
  rcases h.sign_or_digit hc with hplus | hdigit
  · exact absurd hplus (by decide)
  · exact absurd hdigit (by decide)

/-- **A host and a port are read where a colon divides them**, and what stands behind the last one
    is a numeral of the port. -/
theorem parseHostPort_eq_ok_iff :
    parseHostPort text = .ok e ↔ ∃ host numeral n, host ≠ "" ∧ text = host ++ ":" ++ numeral ∧
      Decimal.Numeral numeral n ∧ n ≤ 65535 ∧ e = .tcp host n.toUInt16 := by
  refine ⟨fun h => ?_, fun h => ?_⟩
  · by_cases hcolon : ':' ∈ text.toList
    · obtain ⟨host, port, htext, hport⟩ := exists_parts hcolon
      rw [parseHostPort_of_parts htext hport] at h
      split at h
      · cases h
      · rename_i hhost
        split at h
        · rename_i n hread
          cases h
          obtain ⟨hnumeral, hn⟩ := Decimal.parse_eq_ok_iff.mp hread
          exact ⟨host, port, n, hhost, htext, hnumeral, hn, rfl⟩
        · cases h
    · rw [parseHostPort_of_no_colon hcolon] at h
      cases h
  · obtain ⟨host, numeral, n, hhost, htext, hnumeral, hn, rfl⟩ := h
    rw [parseHostPort_of_parts htext (colon_not_mem_numeral hnumeral), if_neg hhost,
      Decimal.parse_eq_ok_iff.mpr ⟨hnumeral, hn⟩]

/-- **A text is read as the endpoint that it names**, and as nothing if it names none. -/
theorem parse_eq_ok_iff : parse text = .ok e ↔ Denotes text e := by
  by_cases hopens : ∃ path, trim text = unixPrefix ++ path
  · obtain ⟨path, htext⟩ := hopens
    rw [parse_of_opening htext]
    constructor
    · intro h
      split at h
      · cases h
      · rename_i hpath
        cases h
        exact .unix hpath htext
    · intro h
      cases h with
      | @unix path' hpath htext' =>
        have hsame : path = path' := (String.append_right_inj _).mp (htext.symm.trans htext')
        rw [hsame, if_neg hpath]
      | tcp hplain => exact absurd htext (hplain path)
  · have hplain : ∀ rest, trim text ≠ unixPrefix ++ rest := not_exists.mp hopens
    rw [parse_of_no_opening hplain, parseHostPort_eq_ok_iff]
    constructor
    · intro h
      obtain ⟨host, numeral, n, hhost, htext, hnumeral, hn, rfl⟩ := h
      exact .tcp hplain hhost htext hnumeral hn
    · intro h
      cases h with
      | @unix path hpath htext => exact absurd htext (hplain path)
      | @tcp host numeral n hplain hhost htext hnumeral hn =>
        exact ⟨host, numeral, n, hhost, htext, hnumeral, hn, rfl⟩

end Reading

/-! ## 3. What an endpoint is written as -/

/-- A text can name the endpoint. The host is not empty, does not start with a blank and does not
    look like the opening of a path; the path is not empty and does not end with a blank. -/
def Nameable : Endpoint → Prop
  | .tcp host _ => host ≠ "" ∧ (∀ c ∈ host.toList.head?, isBlank c = false) ∧ host ≠ "unix" ∧
      ∀ rest, host ≠ "unix:" ++ rest
  | .unix path => path ≠ "" ∧ ∀ c ∈ path.toList.getLast?, isBlank c = false

section Writing

variable {text : String} {e : Endpoint}

/-- A host and a colon open as a path does only if the host alone would. -/
theorem host_ne_opening {host back rest : String} (hunix : host ≠ "unix")
    (hplain : ∀ rest, host ≠ "unix:" ++ rest) : host ++ ":" ++ back ≠ unixPrefix ++ rest := by
  intro h
  have hopening : "unix:".toList = "unix".toList ++ [':'] := by decide
  have hlists := congrArg String.toList h
  simp only [unixPrefix, String.toList_append, hopening, List.append_assoc] at hlists
  rcases List.append_eq_append_iff.mp hlists with ⟨more, hlong, hcolon⟩ | ⟨more, hlong, hcolon⟩
  · cases more with
    | nil =>
      rw [List.append_nil] at hlong
      exact hunix (String.toList_inj.mp hlong).symm
    | cons x more =>
      -- the name of the scheme has no colon in it
      obtain ⟨rfl, -⟩ := List.cons.inj hcolon
      have hmem : ':' ∈ "unix".toList := by
        rw [hlong]
        exact List.mem_append_right _ List.mem_cons_self
      exact absurd hmem (by decide)
  · cases more with
    | nil =>
      rw [List.append_nil] at hlong
      exact hunix (String.toList_inj.mp hlong)
    | cons x more =>
      obtain ⟨rfl, -⟩ := List.cons.inj hcolon
      refine hplain (String.ofList more) (String.toList_inj.mp ?_)
      simp [hlong, hopening]

/-- **Whatever a text names can be named**: it is trimmed, so neither a host starts nor a path ends
    with a blank. -/
theorem nameable_of_denotes (h : Denotes text e) : Nameable e := by
  have htrimmed := trimmed_trim text
  cases h with
  | @unix path hpath htext =>
    rw [htext] at htrimmed
    exact ⟨hpath, ((trimmed_append_iff (by decide) hpath).mp htrimmed).2⟩
  | @tcp host numeral n hplain hhost htext hnumeral hn =>
    rw [htext, String.append_assoc] at htrimmed
    have hback : ":" ++ numeral ≠ "" := by simp
    refine ⟨hhost, ((trimmed_append_iff hhost hback).mp htrimmed).1, ?_, ?_⟩
    · rintro rfl
      exact hplain numeral htext
    · rintro rest rfl
      refine hplain (rest ++ ":" ++ numeral) ?_
      rw [htext, unixPrefix]
      simp only [String.append_assoc]

/-- **An endpoint that can be named is named by its own text.** -/
theorem denotes_display (h : Nameable e) : Denotes (display e) e := by
  cases e with
  | unix path =>
    obtain ⟨hpath, hlast⟩ := h
    have hopening : Trimmed unixPrefix := by decide
    have htrimmed : Trimmed (unixPrefix ++ path) :=
      (trimmed_append_iff (by decide) hpath).mpr ⟨hopening.first, hlast⟩
    exact .unix hpath (trim_of_trimmed htrimmed)
  | tcp host port =>
    obtain ⟨hhost, hfirst, hunix, hplain⟩ := h
    have hnumeral := Decimal.numeral_render port.toNat
    have htrimmed : Trimmed (host ++ ":" ++ Decimal.render port.toNat) := by
      rw [String.append_assoc]
      have hback : ":" ++ Decimal.render port.toNat ≠ "" := by simp
      refine (trimmed_append_iff hhost hback).mpr ⟨hfirst, ?_⟩
      rw [String.toList_append, List.getLast?_append_of_ne_nil _ hnumeral.toList_ne_nil]
      exact hnumeral.trimmed.last
    have htext : trim (display (.tcp host port)) = host ++ ":" ++ Decimal.render port.toNat :=
      trim_of_trimmed htrimmed
    have hport : port = port.toNat.toUInt16 := UInt16.ofNat_toNat.symm
    have hle : port.toNat ≤ 65535 := Nat.le_of_lt_succ port.toNat_lt
    have hread := Denotes.tcp (fun rest => htext ▸ host_ne_opening hunix hplain) hhost htext
      hnumeral hle
    rwa [← hport] at hread

end Writing

/-! ## 4. Paths with blanks behind them -/

theorem piecesAt_plain {c : Char} {l : List Char} (h : c ∉ l) : piecesAt c l = [l] := by
  induction l with
  | nil => rfl
  | cons x rest ih =>
    have hx : x ≠ c := fun heq => h (heq ▸ List.mem_cons_self)
    have hrest : c ∉ rest := fun hc => h (List.mem_cons_of_mem x hc)
    simp [piecesAt, hx, ih hrest]

/-- The pieces of a list, the last of which takes up what is added. -/
theorem piecesAt_append (c : Char) (l : List Char) :
    ∃ first last, piecesAt c l = first ++ [last] ∧
      ∀ tail, c ∉ tail → piecesAt c (l ++ tail) = first ++ [last ++ tail] := by
  induction l with
  | nil => exact ⟨[], [], rfl, fun tail => piecesAt_plain⟩
  | cons x rest ih =>
    obtain ⟨first, last, hrest, htail⟩ := ih
    by_cases hx : x = c
    · refine ⟨[] :: first, last, ?_, fun tail h => ?_⟩
      · simp [piecesAt, hx, hrest]
      · simp [piecesAt, hx, htail tail h]
    · cases first with
      | nil =>
        refine ⟨[], x :: last, ?_, fun tail h => ?_⟩
        · simp [piecesAt, hx, hrest]
        · simp [piecesAt, hx, htail tail h]
      | cons piece first =>
        refine ⟨(x :: piece) :: first, last, ?_, fun tail h => ?_⟩
        · simp [piecesAt, hx, hrest]
        · simp [piecesAt, hx, htail tail h]

/-- The piece is the name of a place. -/
def isName (piece : List Char) : Bool :=
  piece != [] && piece != ['.']

theorem isName_iff {piece : List Char} : isName piece = true ↔ piece ≠ [] ∧ piece ≠ ['.'] := by
  rw [isName, Bool.and_eq_true, bne_iff_ne, bne_iff_ne]

/-- The components that the pieces of a path count for. -/
def namesOf (pieces : List (List Char)) : List (List Char) :=
  if pieces.head? == some ['.'] then ['.'] :: pieces.filter isName else pieces.filter isName

theorem pathComponents_eq (path : String) :
    pathComponents path = (path.startsWith '/', namesOf (piecesAt '/' path.toList)) := rfl

/-- Only the first piece can count as `.`, so pieces behind others count if they are names. -/
theorem namesOf_append {first : List (List Char)} (hfirst : first ≠ [])
    (pieces : List (List Char)) :
    namesOf (first ++ pieces) = namesOf first ++ pieces.filter isName := by
  cases first with
  | nil => exact absurd rfl hfirst
  | cons piece first =>
    unfold namesOf
    rw [List.filter_append, List.cons_append, List.head?_cons, List.head?_cons]
    split
    · rw [List.cons_append]
    · rfl

/-- **A last piece that is a name is the last component**; any other counts for itself or for
    nothing. -/
theorem namesOf_last (first : List (List Char)) (last : List Char) {more : List Char}
    (hmore : isName more = true) : ∃ names, namesOf (first ++ [more]) = names ++ [more] ∧
      (namesOf (first ++ [last]) = names ∨ namesOf (first ++ [last]) = names ++ [last]) := by
  by_cases hfirst : first = []
  · subst hfirst
    obtain ⟨-, hdot⟩ := isName_iff.mp hmore
    refine ⟨[], by simp [namesOf, hmore, hdot], ?_⟩
    by_cases hlast : last = ['.']
    · simp [namesOf, hlast, isName]
    · cases hname : isName last with
      | false => simp [namesOf, hlast, hname]
      | true => simp [namesOf, hlast, hname]
  · refine ⟨namesOf first, ?_, ?_⟩
    · rw [namesOf_append hfirst]
      simp [hmore]
    · rw [namesOf_append hfirst]
      cases hlast : isName last with
      | false => simp [hlast]
      | true => simp [hlast]

/-- **A path with blanks behind it is another path**, also by its components. -/
theorem pathComponents_append_blanks {path blanks : String} (hne : blanks ≠ "")
    (hblanks : Blanks blanks) : pathComponents (path ++ blanks) ≠ pathComponents path := by
  have hslash : '/' ∉ blanks.toList := fun h => absurd (hblanks '/' h) (by decide)
  have htail : blanks.toList ≠ [] := String.toList_eq_nil_iff.not.mpr hne
  obtain ⟨first, last, hpath, happend⟩ := piecesAt_append '/' path.toList
  have hname : isName (last ++ blanks.toList) = true := by
    refine isName_iff.mpr ⟨List.append_ne_nil_of_right_ne_nil last htail, fun hdot => ?_⟩
    have hlast := congrArg List.getLast? hdot
    rw [List.getLast?_append_of_ne_nil last htail] at hlast
    exact absurd (hblanks '.' (List.mem_of_mem_getLast? hlast)) (by decide)
  obtain ⟨names, hwith, hwithout⟩ := namesOf_last first last hname
  intro h
  rw [pathComponents_eq, pathComponents_eq, String.toList_append, happend _ hslash, hpath, hwith]
    at h
  have hnames := (Prod.mk.inj h).2
  rcases hwithout with hwithout | hwithout
  · rw [hwithout, List.append_right_eq_self] at hnames
    exact List.cons_ne_nil _ _ hnames
  · rw [hwithout] at hnames
    obtain ⟨hsame, -⟩ := List.cons.inj (List.append_cancel_left hnames)
    exact htail (List.append_right_eq_self.mp hsame)

/-! ## 5. Reading back -/

theorem agrees_self (e : Endpoint) : agrees e e = true := by
  cases e <;> simp [agrees]

/-- A path is read without the blanks behind it. -/
theorem exists_blanks_of_denotes {path read : String}
    (h : Denotes (unixPrefix ++ path) (.unix read)) :
    ∃ blanks, Blanks blanks ∧ path = read ++ blanks := by
  cases h with
  | unix _ htrim =>
    have hfirst : ∀ c ∈ (unixPrefix ++ path).toList.head?, isBlank c = false := by
      intro c hc
      simp [unixPrefix] at hc
      subst hc
      decide
    obtain ⟨blanks, hblanks, htext⟩ := eq_of_trim_back hfirst
    rw [htrim, String.append_assoc, String.append_right_inj] at htext
    exact ⟨blanks, hblanks, htext⟩

/-- **What is read where an endpoint was written agrees with it only if a text can name it.** -/
theorem nameable_of_agrees {e read : Endpoint} (hread : parse (display e) = .ok read)
    (h : agrees read e = true) : Nameable e := by
  have hdenotes := parse_eq_ok_iff.mp hread
  have hnameable := nameable_of_denotes hdenotes
  cases e with
  | tcp host port =>
    cases read with
    | tcp host' port' =>
      simp only [agrees, Bool.and_eq_true, beq_iff_eq] at h
      obtain ⟨rfl, rfl⟩ := h
      exact hnameable
    | unix path => simp [agrees] at h
  | unix path =>
    cases read with
    | tcp host port => simp [agrees] at h
    | unix path' =>
      obtain ⟨blanks, hblanks, rfl⟩ := exists_blanks_of_denotes hdenotes
      by_cases hnone : blanks = ""
      · rwa [hnone, String.append_empty]
      · simp only [agrees, beq_iff_eq] at h
        exact absurd h.symm (pathComponents_append_blanks hnone hblanks)

/-- **Writing and reading are inverse on the endpoints that a text can name**, and on no others. An
    endpoint is read back from its text, up to the spelling of a path, exactly when a text can name
    it, and then it is read back as it is. Whatever a text is read as can be named, so that it is
    read back from its own text, which is not changed by reading and writing it again. -/
theorem endpoints_read_back :
    (∀ e, (∃ read, parse (display e) = .ok read ∧ agrees read e = true) ↔ Nameable e) ∧
    (∀ e, parse (display e) = .ok e ↔ Nameable e) ∧
    (∀ text e, parse text = .ok e → Nameable e ∧ parse (display e) = .ok e ∧
      (parse (display e)).map display = .ok (display e)) := by
  have hback : ∀ e, Nameable e → parse (display e) = .ok e :=
    fun e h => parse_eq_ok_iff.mpr (denotes_display h)
  refine ⟨fun e => ⟨?_, fun h => ⟨e, hback e h, agrees_self e⟩⟩,
    fun e => ⟨fun h => nameable_of_agrees h (agrees_self e), hback e⟩, ?_⟩
  · rintro ⟨read, hread, hagrees⟩
    exact nameable_of_agrees hread hagrees
  · intro text e h
    have hnameable := nameable_of_denotes (parse_eq_ok_iff.mp h)
    refine ⟨hnameable, hback e hnameable, ?_⟩
    rw [hback e hnameable]
    rfl

/-- A host with colons in it, in a text with blanks and a leading zero. -/
theorem parse_bracketed : parse " [::1]:09000\n" = .ok (.tcp "[::1]" 9000) := by
  have htrim : trim (" " ++ "[::1]:09000" ++ "\n") = "[::1]" ++ ":" ++ "09000" :=
    trim_eq_of_append (by decide) (by decide) (by decide)
  have hhost : ∀ rest, "[::1]" ≠ "unix:" ++ rest := by
    intro rest h
    have hhead := congrArg (fun s => s.toList.head?) h
    simp at hhead
  have hplain : ∀ rest, trim (" " ++ "[::1]:09000" ++ "\n") ≠ unixPrefix ++ rest := by
    rw [htrim]
    exact fun rest => host_ne_opening (by decide) hhost
  have hnumeral : Decimal.parse 65535 "09000" = .ok 9000 := by decide
  obtain ⟨hnumeral, hn⟩ := Decimal.parse_eq_ok_iff.mp hnumeral
  exact parse_eq_ok_iff.mpr (.tcp hplain (by decide) htrim hnumeral hn)

/-- It is read back from its own text, in which neither stands any more; a path that ends with a
    blank is not. -/
theorem endpoints_read_back_bracketed :
    parse "[::1]:9000" = .ok (.tcp "[::1]" 9000) ∧
    ¬ ∃ read, parse (display (.unix "/a ")) = .ok read ∧ agrees read (.unix "/a ") = true := by
  obtain ⟨hiff, -, hread⟩ := endpoints_read_back
  constructor
  · exact (hread _ _ parse_bracketed).2.1
  · rw [hiff]
    intro h
    exact absurd (h.2 ' ' (by decide)) (by decide)

end StoreLink.Endpoint
