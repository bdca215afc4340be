import StoreLink.Text.Decimal
import StoreLink.Proofs.Trimming

/-!
# What is read as a number

A text is read as a number exactly when it is a numeral of it, and the number is not past the bound.

* `Numeral` says which texts are numerals of a number, with nothing said about bounds;
* `readDigits_eq_ok_iff`: the digits read onto a number, by induction on them;
* **`parse_eq_ok_iff`**: what a whole text is read as, and `parse_eq_error_iff`: what is wrong with
  any other (`Refuses`);
* `Numeral.trimmed`: no blank stands in a numeral, and `Numeral.unique`: it is one of one number;
* `numeral_render`: what a number is written as is a numeral of it.
-/

namespace StoreLink.Text.Decimal

/-- The text is a numeral of the number: a sign `+` or none, and then digits, one at least. Zeros
    may stand first. -/
def Numeral (text : String) (n : Nat) : Prop :=
  ∃ sign digits, (sign = [] ∨ sign = ['+']) ∧ digits ≠ [] ∧ (∀ c ∈ digits, c.isDigit = true) ∧
    text.toList = sign ++ digits ∧ n = Nat.ofDigitChars 10 digits 0

/-! ## 1. Digits -/

theorem digit?_eq_some_iff {c : Char} {d : Nat} :
    digit? c = some d ↔ c.isDigit = true ∧ d = c.toNat - '0'.toNat := by
  have hdigit : c.isDigit = true ↔ '0' ≤ c ∧ c ≤ '9' := by
    rw [Char.isDigit, Bool.and_eq_true, decide_eq_true_eq, decide_eq_true_eq]
    rfl
  rw [digit?, hdigit]
  split
  · rename_i h
    rw [Option.some.injEq, eq_comm]
    exact ⟨fun hd => ⟨h, hd⟩, fun hd => hd.2⟩
  · rename_i h
    exact ⟨nofun, fun hd => absurd hd.1 h⟩

/-- Digits only add to a number. -/
theorem le_ofDigitChars (digits : List Char) (n : Nat) : n ≤ Nat.ofDigitChars 10 digits n := by
  rw [Nat.ofDigitChars_eq_ofDigitChars_zero]
  have hpow : 0 < 10 ^ digits.length := Nat.pow_pos (by decide)
  have hle := Nat.le_mul_of_pos_left n hpow
  omega

/-- **Characters are read onto a number exactly when they are digits** and stay within the bound. -/
theorem readDigits_eq_ok_iff {max n : Nat} : ∀ {cs : List Char} {acc : Nat}, acc ≤ max →
    (readDigits max acc cs = .ok n ↔
      (∀ c ∈ cs, c.isDigit = true) ∧ n = Nat.ofDigitChars 10 cs acc ∧ n ≤ max)
  | [], acc, hacc => by
    rw [readDigits, Except.ok.injEq, Nat.ofDigitChars_nil]
    constructor
    · intro h
      subst h
      exact ⟨List.forall_mem_nil _, rfl, hacc⟩
    · intro h
      exact h.2.1.symm
  | c :: cs, acc, hacc => by
    rw [readDigits, List.forall_mem_cons, Nat.ofDigitChars_cons, Nat.mul_comm 10]
    cases hc : digit? c with
    | none =>
      constructor
      · intro h
        cases h
      · intro h
        have hsome := digit?_eq_some_iff.mpr ⟨h.1.1, rfl⟩
        rw [hc] at hsome
        cases hsome
    | some d =>
      obtain ⟨hdigit, rfl⟩ := digit?_eq_some_iff.mp hc
      by_cases hfits : acc * 10 + (c.toNat - '0'.toNat) ≤ max
      · simp only [if_pos hfits, readDigits_eq_ok_iff hfits, hdigit, true_and]
      · have hmore := le_ofDigitChars cs (acc * 10 + (c.toNat - '0'.toNat))
        simp only [if_neg hfits]
        constructor
        · intro h
          cases h
        · intro h
          omega

/-! ## 2. Numerals -/

section Numerals

variable {max n : Nat} {text : String}

theorem not_isDigit_plus : ¬ ('+').isDigit = true := by decide

/-- Behind a sign stand the digits. -/
theorem numeral_signed_iff {digits : List Char} (h : text.toList = '+' :: digits) :
    Numeral text n ↔
      digits ≠ [] ∧ (∀ c ∈ digits, c.isDigit = true) ∧ n = Nat.ofDigitChars 10 digits 0 := by
  constructor
  · rintro ⟨sign, digits', hsign, hne, hdigits, htext, hn⟩
    rw [h] at htext
    rcases hsign with rfl | rfl
    · rw [List.nil_append] at htext
      exact absurd (hdigits '+' (htext ▸ List.mem_cons_self)) not_isDigit_plus
    · rw [(List.cons.inj htext).2]
      exact ⟨hne, hdigits, hn⟩
  · rintro ⟨hne, hdigits, hn⟩
    exact ⟨['+'], digits, .inr rfl, hne, hdigits, h, hn⟩

/-- Without a sign all of the text is digits. -/
theorem numeral_unsigned_iff (h : ∀ digits, text.toList ≠ '+' :: digits) :
    Numeral text n ↔ text.toList ≠ [] ∧ (∀ c ∈ text.toList, c.isDigit = true) ∧
      n = Nat.ofDigitChars 10 text.toList 0 := by
  constructor
  · rintro ⟨sign, digits, hsign, hne, hdigits, htext, hn⟩
    rcases hsign with rfl | rfl
    · rw [htext]
      exact ⟨hne, hdigits, hn⟩
    · exact absurd htext (h digits)
  · rintro ⟨hne, hdigits, hn⟩
    exact ⟨[], text.toList, .inl rfl, hne, hdigits, rfl, hn⟩

/-- **A text is read as a number exactly when it is a numeral of it within the bound.** -/
theorem parse_eq_ok_iff : parse max text = .ok n ↔ Numeral text n ∧ n ≤ max := by
  rw [parse, parseList.eq_def]
  split
  · rename_i htext
    rw [numeral_unsigned_iff (by rw [htext]; nofun), htext]
    exact ⟨nofun, fun h => absurd rfl h.1.1⟩
  · rename_i htext
    rw [numeral_signed_iff htext]
    exact ⟨nofun, fun h => absurd rfl h.1.1⟩
  · rename_i digits hne htext
    rw [numeral_signed_iff htext, readDigits_eq_ok_iff (Nat.zero_le max), and_assoc, and_assoc]
    exact ⟨fun h => ⟨hne, h⟩, fun h => h.2⟩
  · rename_i hne _ hunsigned
    rw [numeral_unsigned_iff hunsigned, readDigits_eq_ok_iff (Nat.zero_le max), and_assoc,
      and_assoc]
    exact ⟨fun h => ⟨hne, h⟩, fun h => h.2⟩

/-- The same, where it does not matter what is wrong with a text. -/
theorem toOption_parse_eq_some_iff :
    (parse max text).toOption = some n ↔ Numeral text n ∧ n ≤ max := by
  rw [← parse_eq_ok_iff]
  cases parse max text with
  | ok m => rw [Except.toOption, Option.some.injEq, Except.ok.injEq]
  | error fault => exact ⟨nofun, nofun⟩

/-! ## 3. Faults -/

/-- Digits that stand first take the number `acc` past the bound, whatever follows them. -/
def Passes (max acc : Nat) (cs : List Char) : Prop :=
  ∃ digits rest, cs = digits ++ rest ∧ (∀ c ∈ digits, c.isDigit = true) ∧
    max < Nat.ofDigitChars 10 digits acc

/-- Digits that stand first in the text, behind a sign or none, are past the bound. -/
def Overflows (max : Nat) (text : String) : Prop :=
  ∃ sign cs, (sign = [] ∨ sign = ['+']) ∧ text.toList = sign ++ cs ∧ Passes max 0 cs

/-- What is wrong with a text that is no numeral within the bound. -/
inductive Refuses (max : Nat) (text : String) : Fault → Prop where
  | empty (h : text = "") : Refuses max text .empty
  | tooLarge (h : Overflows max text) : Refuses max text .tooLarge
  | invalidDigit (hne : text ≠ "") (hfits : ¬ Overflows max text)
      (hnone : ∀ n, ¬ Numeral text n) : Refuses max text .invalidDigit

/-- No digits at all leave the number within the bound. -/
theorem not_passes_nil {acc : Nat} (hacc : acc ≤ max) : ¬ Passes max acc [] := by
  intro h
  obtain ⟨digits, rest, hnil, -, hpast⟩ := h
  rw [(List.append_eq_nil_iff.mp hnil.symm).1, Nat.ofDigitChars_nil] at hpast
  omega

/-- The digit that stands first is taken onto the number, and then those behind it. -/
theorem passes_cons_iff {c : Char} {cs : List Char} {acc : Nat} (hacc : acc ≤ max) :
    Passes max acc (c :: cs) ↔
      c.isDigit = true ∧ Passes max (acc * 10 + (c.toNat - '0'.toNat)) cs := by
  unfold Passes
  refine ⟨fun h => ?_, fun h => ?_⟩
  · obtain ⟨digits, rest, hcs, hdigits, hpast⟩ := h
    cases digits with
    | nil =>
      rw [Nat.ofDigitChars_nil] at hpast
      omega
    | cons d digits =>
      obtain ⟨rfl, rfl⟩ := List.cons.inj hcs
      obtain ⟨hdigit, hdigits⟩ := List.forall_mem_cons.mp hdigits
      rw [Nat.ofDigitChars_cons, Nat.mul_comm 10] at hpast
      exact ⟨hdigit, digits, rest, rfl, hdigits, hpast⟩
  · obtain ⟨hdigit, digits, rest, rfl, hdigits, hpast⟩ := h
    refine ⟨c :: digits, rest, rfl, List.forall_mem_cons.mpr ⟨hdigit, hdigits⟩, ?_⟩
    rw [Nat.ofDigitChars_cons, Nat.mul_comm 10]
    exact hpast

/-- **Characters are refused as too large exactly when digits that stand first are**, even if what
    follows is no digit. -/
theorem readDigits_eq_tooLarge_iff {cs : List Char} {acc : Nat} (hacc : acc ≤ max) :
    readDigits max acc cs = .error .tooLarge ↔ Passes max acc cs := by
  induction cs generalizing acc with
  | nil =>
    refine iff_of_false ?_ (not_passes_nil hacc)
    intro h
    cases h
  | cons c cs ih =>
    rw [readDigits, passes_cons_iff hacc]
    cases hc : digit? c with
    | none =>
      refine iff_of_false ?_ ?_
      · intro h
        cases h
      · intro h
        have hsome := digit?_eq_some_iff.mpr ⟨h.1, rfl⟩
        rw [hc] at hsome
        cases hsome
    | some d =>
      obtain ⟨hdigit, rfl⟩ := digit?_eq_some_iff.mp hc
      by_cases hfits : acc * 10 + (c.toNat - '0'.toNat) ≤ max
      · simp only [if_pos hfits, ih hfits, hdigit, true_and]
      · have hpast : Passes max (acc * 10 + (c.toNat - '0'.toNat)) cs :=
          ⟨[], cs, rfl, List.forall_mem_nil _, Nat.lt_of_not_le hfits⟩
        simp only [if_neg hfits, hdigit, hpast, and_self]

theorem readDigits_ne_empty (cs : List Char) (acc : Nat) :
    readDigits max acc cs ≠ .error .empty := by
  induction cs generalizing acc with
  | nil =>
    intro h
    cases h
  | cons c cs ih =>
    unfold readDigits
    split
    · intro h
      cases h
    · split
      · exact ih _
      · intro h
        cases h

theorem parse_eq_empty_iff : parse max text = .error .empty ↔ text = "" := by
  rw [← String.toList_eq_nil_iff, parse, parseList.eq_def]
  split
  · rename_i htext
    exact ⟨fun _ => htext, fun _ => rfl⟩
  · rename_i htext
    rw [htext]
    exact ⟨nofun, nofun⟩
  · rename_i htext
    rw [htext]
    exact ⟨fun h => absurd h (readDigits_ne_empty _ _), nofun⟩
  · rename_i hne _ _
    exact ⟨fun h => absurd h (readDigits_ne_empty _ _), fun h => absurd h hne⟩

/-- Behind a sign, the digits are those after it. -/
theorem overflows_signed_iff {cs : List Char} (h : text.toList = '+' :: cs) :
    Overflows max text ↔ Passes max 0 cs := by
  refine ⟨fun hpast => ?_, fun hpast => ⟨['+'], cs, .inr rfl, h, hpast⟩⟩
  obtain ⟨sign, cs', hsign, htext, hpast⟩ := hpast
  rw [h] at htext
  rcases hsign with rfl | rfl
  · rw [List.nil_append] at htext
    rw [← htext, passes_cons_iff (Nat.zero_le max)] at hpast
    exact absurd hpast.1 not_isDigit_plus
  · rw [(List.cons.inj htext).2]
    exact hpast

/-- Without a sign they stand first. -/
theorem overflows_unsigned_iff (h : ∀ cs, text.toList ≠ '+' :: cs) :
    Overflows max text ↔ Passes max 0 text.toList := by
  refine ⟨fun hpast => ?_, fun hpast => ⟨[], text.toList, .inl rfl, rfl, hpast⟩⟩
  obtain ⟨sign, cs, hsign, htext, hpast⟩ := hpast
  rcases hsign with rfl | rfl
  · rw [htext]
    exact hpast
  · exact absurd htext (h cs)

theorem parse_eq_tooLarge_iff : parse max text = .error .tooLarge ↔ Overflows max text := by
  have hnone := not_passes_nil (Nat.zero_le max)
  rw [parse, parseList.eq_def]
  split
  · rename_i htext
    rw [overflows_unsigned_iff (by rw [htext]; nofun), htext]
    exact ⟨nofun, fun h => absurd h hnone⟩
  · rename_i htext
    rw [overflows_signed_iff htext]
    exact ⟨nofun, fun h => absurd h hnone⟩
  · rename_i htext
    rw [overflows_signed_iff htext, readDigits_eq_tooLarge_iff (Nat.zero_le max)]
  · rename_i hunsigned
    rw [overflows_unsigned_iff hunsigned, readDigits_eq_tooLarge_iff (Nat.zero_le max)]

/-- A numeral past the bound is too large: it is not cut off, nor taken round the bound. -/
theorem overflows_of_numeral (h : Numeral text n) (hn : max < n) : Overflows max text := by
  obtain ⟨sign, digits, hsign, -, hdigits, htext, rfl⟩ := h
  exact ⟨sign, digits, hsign, htext, digits, [], (List.append_nil digits).symm, hdigits, hn⟩

/-- **What is wrong with a text that is not read.** -/
theorem parse_eq_error_iff {fault : Fault} :
    parse max text = .error fault ↔ Refuses max text fault := by
  refine ⟨fun h => ?_, fun h => ?_⟩
  · cases fault with
    | empty => exact .empty (parse_eq_empty_iff.mp h)
    | tooLarge => exact .tooLarge (parse_eq_tooLarge_iff.mp h)
    | invalidDigit =>
      have hfits : ¬ Overflows max text := by
        rw [← parse_eq_tooLarge_iff, h]
        exact nofun
      have hne : text ≠ "" := by
        intro hempty
        rw [parse_eq_empty_iff.mpr hempty] at h
        cases h
      refine .invalidDigit hne hfits fun n hn => ?_
      have hle : n ≤ max := Nat.le_of_not_lt fun hpast => hfits (overflows_of_numeral hn hpast)
      rw [parse_eq_ok_iff.mpr ⟨hn, hle⟩] at h
      cases h
  · cases h with
    | empty h => exact parse_eq_empty_iff.mpr h
    | tooLarge h => exact parse_eq_tooLarge_iff.mpr h
    | invalidDigit hne hfits hnone =>
      cases hread : parse max text with
      | ok n => exact absurd (parse_eq_ok_iff.mp hread).1 (hnone n)
      | error fault =>
        cases fault with
        | empty => exact absurd (parse_eq_empty_iff.mp hread) hne
        | tooLarge => exact absurd (parse_eq_tooLarge_iff.mp hread) hfits
        | invalidDigit => rfl

end Numerals

theorem isBlank_of_isDigit {c : Char} (h : c.isDigit = true) : isBlank c = false := by
  have hten : ∀ k : Fin 10, isBlank (Char.ofNat (48 + k.val)) = false := by decide
  rw [Char.isDigit, Bool.and_eq_true, decide_eq_true_eq, decide_eq_true_eq] at h
  have hlow : 48 ≤ c.toNat := h.1
  have hhigh : c.toNat ≤ 57 := h.2
  have hc := hten ⟨c.toNat - 48, by omega⟩
  rw [Nat.add_sub_cancel' hlow, Char.ofNat_toNat] at hc
  exact hc

/-- A numeral holds nothing but its sign and its digits. -/
theorem Numeral.sign_or_digit {text : String} {n : Nat} (h : Numeral text n) {c : Char}
    (hc : c ∈ text.toList) : c = '+' ∨ c.isDigit = true := by
  obtain ⟨sign, digits, hsign, -, hdigits, htext, -⟩ := h
  rw [htext, List.mem_append] at hc
  rcases hc with hc | hc
  · rcases hsign with rfl | rfl
    · exact absurd hc List.not_mem_nil
    · exact .inl (List.mem_singleton.mp hc)
  · exact .inr (hdigits c hc)

/-- No blank stands in a numeral. -/
theorem Numeral.trimmed {text : String} {n : Nat} (h : Numeral text n) : Trimmed text := by
  refine trimmed_of_forall fun c hc => ?_
  rcases h.sign_or_digit hc with rfl | hdigit
  · decide
  · exact isBlank_of_isDigit hdigit

theorem Numeral.toList_ne_nil {text : String} {n : Nat} (h : Numeral text n) :
    text.toList ≠ [] := by
  obtain ⟨sign, digits, -, hne, -, htext, -⟩ := h
  rw [htext]
  exact List.append_ne_nil_of_right_ne_nil sign hne

/-- **A text is a numeral of one number at most.** -/
theorem Numeral.unique {text : String} {n m : Nat} (h : Numeral text n) (h' : Numeral text m) :
    n = m := by
  have hn : parse (max n m) text = .ok n := parse_eq_ok_iff.mpr ⟨h, Nat.le_max_left n m⟩
  have hm : parse (max n m) text = .ok m := parse_eq_ok_iff.mpr ⟨h', Nat.le_max_right n m⟩
  rw [hn, Except.ok.injEq] at hm
  exact hm

/-- **What a number is written as is a numeral of it.** -/
theorem numeral_render (n : Nat) : Numeral (render n) n :=
  ⟨[], Nat.toDigits 10 n, .inl rfl, Nat.toDigits_ne_nil,
    fun _ hc => Nat.isDigit_of_mem_toDigits (by decide) (by decide) hc, String.toList_ofList,
    Nat.ofDigitChars_ten_toDigits.symm⟩

end StoreLink.Text.Decimal
