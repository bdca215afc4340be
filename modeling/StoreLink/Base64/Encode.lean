import StoreLink.Base64.Alphabet

/-!
# Writing bytes in base64

Three bytes are written as four symbols of six bits each. Of a last group that is not full, two
bytes are written as three symbols and one byte as two; the sign `=` fills it up to four.
-/

namespace StoreLink.Base64

/-- The six high bits of a byte. -/
@[inline] def first (a : UInt8) : UInt8 := a >>> 2

/-- The two low bits of a byte before the four high bits of the next. -/
@[inline] def second (a b : UInt8) : UInt8 := ((a &&& 3) <<< 4) ||| (b >>> 4)

/-- The four low bits of a byte before the two high bits of the next. -/
@[inline] def third (b c : UInt8) : UInt8 := ((b &&& 15) <<< 2) ||| (c >>> 6)

/-- The six low bits of a byte. -/
@[inline] def fourth (c : UInt8) : UInt8 := c &&& 63

/-- Appends the symbol of a number of six bits. -/
@[inline] def pushSymbol (written : String) (v : UInt8) : String :=
  written.push (Char.ofUInt8 (symbol v))

/-- Appends the sign that fills up the last group. -/
@[inline] def pushPad (written : String) : String :=
  written.push (Char.ofUInt8 pad)

/-- Writes the bytes from place `i` on, after what was written before. -/
def encodeFrom (bytes : ByteArray) (i : Nat) (written : String) : String :=
  if h : i + 2 < bytes.size then
    let a := bytes[i]
    let b := bytes[i + 1]
    let c := bytes[i + 2]
    encodeFrom bytes (i + 3)
      (pushSymbol (pushSymbol (pushSymbol (pushSymbol written (first a)) (second a b)) (third b c))
        (fourth c))
  else if h : i + 1 < bytes.size then
    let a := bytes[i]
    let b := bytes[i + 1]
    pushPad (pushSymbol (pushSymbol (pushSymbol written (first a)) (second a b)) (third b 0))
  else if h : i < bytes.size then
    let a := bytes[i]
    pushPad (pushPad (pushSymbol (pushSymbol written (first a)) (second a 0)))
  else written
termination_by bytes.size - i

/-- The base64 form of any bytes. -/
def encode (bytes : ByteArray) : String :=
  encodeFrom bytes 0 ""

end StoreLink.Base64
