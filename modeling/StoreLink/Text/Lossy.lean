/-!
# Reading bytes as text

Bytes that are UTF-8 are read as they are. Of other bytes, each maximal piece that can start no
character, or that breaks one off, is read as one replacement character (U+FFFD).

* `invalidLength` is the length of such a piece;
* `lossy` reads any bytes, and agrees with the strict reading where that is defined
  (`lossy_of_isValidUTF8`).
-/

namespace StoreLink.Text

/-- The byte stands inside a character: 80-BF. -/
def isContinuation (b : UInt8) : Bool :=
  0x80 ≤ b && b ≤ 0xBF

/-- The bytes that may stand second in a character of three or four bytes that starts with `first`.
    The ends of the range keep out overlong forms, surrogates and numbers past 10FFFF. -/
def isSecond (first second : UInt8) : Bool :=
  if first == 0xE0 then 0xA0 ≤ second && second ≤ 0xBF
  else if first == 0xED then 0x80 ≤ second && second ≤ 0x9F
  else if first == 0xF0 then 0x90 ≤ second && second ≤ 0xBF
  else if first == 0xF4 then 0x80 ≤ second && second ≤ 0x8F
  else isContinuation second

/-- How many bytes of a character that is not whole belong to one invalid piece, when the first of
    them and the (at most two) bytes after it are given. -/
def invalidLength (first : UInt8) (second third : Option UInt8) : Nat :=
  if 0xE0 ≤ first && first ≤ 0xEF then
    if second.any (isSecond first) then 2 else 1
  else if 0xF0 ≤ first && first ≤ 0xF4 then
    if second.any (isSecond first) then
      if third.any isContinuation then 3 else 2
    else 1
  else 1

theorem invalidLength_pos (first : UInt8) (second third : Option UInt8) :
    0 < invalidLength first second third := by
  unfold invalidLength
  repeat' split
  all_goals decide

/-- Reads the bytes from place `i` on, after the text read before. -/
def lossyFrom (b : ByteArray) (i : Nat) (read : String) : String :=
  if h : i < b.size then
    match b.utf8DecodeChar? i with
    | some c => lossyFrom b (i + c.utf8Size) (read.push c)
    | none => lossyFrom b (i + invalidLength b[i] b[i + 1]? b[i + 2]?) (read.push '\uFFFD')
  else read
termination_by b.size - i
decreasing_by
  · have := c.utf8Size_pos
    omega
  · have := invalidLength_pos b[i] b[i + 1]? b[i + 2]?
    omega

/-- The text of any bytes, with a replacement character for each invalid piece. -/
def lossy (b : ByteArray) : String :=
  if h : b.IsValidUTF8 then String.fromUTF8 b h else lossyFrom b 0 ""

/-- **Bytes that are UTF-8 are read as they are.** -/
theorem lossy_of_isValidUTF8 {b : ByteArray} (h : b.IsValidUTF8) :
    lossy b = String.fromUTF8 b h := by
  simp [lossy, h]

/-- The bytes of a text are read as that text. -/
theorem lossy_toUTF8 (s : String) : lossy s.toUTF8 = s := by
  have h : s.toUTF8.IsValidUTF8 := s.isValidUTF8
  rw [lossy_of_isValidUTF8 h]
  rfl

end StoreLink.Text
