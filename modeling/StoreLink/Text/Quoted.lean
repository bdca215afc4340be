import StoreLink.Text.Blank
import StoreLink.Text.Category

/-!
# Quoted text

A message that shows foreign text shows it in double quotes, with every character escaped that could
be taken for something else: the quotation mark and the backslash, the controls, every blank but the
space, and each character that has no shape of its own. So a message stays on one line whatever it
quotes.

* `isShown c` says that `c` stands for itself between the quotes;
* `escape c` is the written form of one character, `quote s` that of a text.
-/

namespace StoreLink.Text

/-! ## 1. Which characters stand for themselves -/

/-- The character stands for itself between quotes: it is neither a quotation mark nor a backslash,
    no control, no blank but the space, and has a shape of its own. -/
def isShown (c : Char) : Bool :=
  if c.val < 0x7F then 0x20 ≤ c.val && c != '"' && c != '\\'
  else
    !(isControl c || isBlank c || isFormat c || isUnassigned c || isFiller c || isExtendingMark c)

/-! ## 2. The written form -/

/-- The digits of a number in base 16, in lower case and without leading zeros. -/
def hexDigits (n : Nat) : List Char :=
  Nat.toDigits 16 n

/-- The written form of one character: itself when it is shown, a backslash and a letter for the
    usual controls, the quotation mark and the backslash, else its number in base 16. -/
def escape (c : Char) : List Char :=
  if c = '\x00' then ['\\', '0']
  else if c = '\t' then ['\\', 't']
  else if c = '\n' then ['\\', 'n']
  else if c = '\r' then ['\\', 'r']
  else if c = '"' then ['\\', '"']
  else if c = '\\' then ['\\', '\\']
  else if isShown c then [c]
  else ['\\', 'u', '\x7b'] ++ hexDigits c.toNat ++ ['\x7d']

/-- Appends the written form of one character. -/
def pushEscaped (written : String) (c : Char) : String :=
  if isShown c then written.push c else written ++ String.ofList (escape c)

/-- The text in double quotes, each character in its written form. -/
def quote (s : String) : String :=
  (s.foldl pushEscaped "\"").push '"'

/-! ## 3. The written form, character by character -/

/-- A character that is shown is its own written form. -/
theorem escape_of_isShown {c : Char} (h : isShown c = true) : escape c = [c] := by
  unfold escape
  have h0 : c ≠ '\x00' := by rintro rfl; exact absurd h (by decide)
  have h1 : c ≠ '\t' := by rintro rfl; exact absurd h (by decide)
  have h2 : c ≠ '\n' := by rintro rfl; exact absurd h (by decide)
  have h3 : c ≠ '\r' := by rintro rfl; exact absurd h (by decide)
  have h4 : c ≠ '"' := by rintro rfl; exact absurd h (by decide)
  have h5 : c ≠ '\\' := by rintro rfl; exact absurd h (by decide)
  simp only [h0, h1, h2, h3, h4, h5, if_false, h, if_true]

theorem toList_pushEscaped (written : String) (c : Char) :
    (pushEscaped written c).toList = written.toList ++ escape c := by
  unfold pushEscaped
  split
  · rename_i h
    rw [escape_of_isShown h, String.toList_push]
  · rw [String.toList_append, String.toList_ofList]

theorem toList_foldl_pushEscaped (cs : List Char) (written : String) :
    (cs.foldl pushEscaped written).toList = written.toList ++ cs.flatMap escape := by
  induction cs generalizing written with
  | nil => simp
  | cons c cs ih =>
    rw [List.foldl_cons, ih, toList_pushEscaped, List.flatMap_cons, List.append_assoc]

/-- **A quoted text is the written forms of its characters between two quotation marks.** -/
@[simp] theorem toList_quote (s : String) :
    (quote s).toList = '"' :: s.toList.flatMap escape ++ ['"'] := by
  unfold quote
  rw [String.toList_push, String.foldl_eq_foldl_toList, toList_foldl_pushEscaped]
  rfl

end StoreLink.Text
