import StoreLink.Text.Cut

/-!
# Blank characters, control characters and the ends of lines

Every line that crosses the link is trimmed somewhere, and a key is refused for the blanks it holds.
This module fixes the classes of characters and the cuts made with them:

* `isBlank` is the Unicode property White_Space, `isControl` the general category Cc;
* `trim` takes blanks off both ends, `dropLineEnds` line feeds and carriage returns off the end;
* `firstWord` is the first run of characters that are not blank.

Main statements: each cut is the cut of the list of characters (`toList_trim`,
`toList_dropLineEnds`, `toList_firstWord`).
-/

namespace StoreLink.Text

/-! ## 1. Classes of characters -/

/-- The Unicode property White_Space: 0009-000D, 0020, 0085, 00A0, 1680, 2000-200A, 2028, 2029,
    202F, 205F and 3000. -/
def isBlank (c : Char) : Bool :=
  let v := c.val
  if v < 0x80 then v == 0x20 || (0x09 ≤ v && v ≤ 0x0D)
  else v == 0x85 || v == 0xA0 || v == 0x1680 || (0x2000 ≤ v && v ≤ 0x200A) || v == 0x2028
    || v == 0x2029 || v == 0x202F || v == 0x205F || v == 0x3000

/-- The general category Cc: 0000-001F and 007F-009F. -/
def isControl (c : Char) : Bool :=
  let v := c.val
  v < 0x20 || (0x7F ≤ v && v ≤ 0x9F)

/-- The two characters that end a line: line feed and carriage return. -/
def isLineEnd (c : Char) : Bool :=
  c == '\n' || c == '\r'

theorem isBlank_of_isLineEnd {c : Char} (h : isLineEnd c = true) : isBlank c = true := by
  simp only [isLineEnd, Bool.or_eq_true, beq_iff_eq] at h
  rcases h with rfl | rfl <;> decide

/-! ## 2. Cuts -/

/-- The text without the blanks at its two ends. -/
def trim (s : String) : String :=
  ((s.dropWhile isBlank).dropEndWhile isBlank).copy

/-- The text without its trailing run of line feeds and carriage returns. -/
def dropLineEnds (s : String) : String :=
  (s.dropEndWhile isLineEnd).copy

/-- The first run of characters that are not blank, empty when there is none. -/
def firstWord (s : String) : String :=
  ((s.dropWhile isBlank).takeWhile (fun c => !isBlank c)).copy

/-! ## 3. The cuts on the list of characters -/

/-- **Trimming drops blanks from the front and from the end.** -/
theorem toList_trim (s : String) :
    (trim s).toList = ((s.toList.dropWhile isBlank).reverse.dropWhile isBlank).reverse := by
  have h := toList_dropWhile isBlank s.toSlice
  rw [String.copy_toSlice] at h
  rw [← h]
  exact toList_dropEndWhile isBlank _

theorem toList_dropLineEnds (s : String) :
    (dropLineEnds s).toList = (s.toList.reverse.dropWhile isLineEnd).reverse := by
  have h := toList_dropEndWhile isLineEnd s.toSlice
  rw [String.copy_toSlice] at h
  exact h

theorem toList_firstWord (s : String) :
    (firstWord s).toList = (s.toList.dropWhile isBlank).takeWhile (fun c => !isBlank c) := by
  have h := toList_dropWhile isBlank s.toSlice
  rw [String.copy_toSlice] at h
  rw [← h]
  exact toList_takeWhile _ _

end StoreLink.Text
