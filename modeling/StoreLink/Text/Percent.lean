/-!
# Percent-encoded bytes

A byte of a path may be written as `%` and two hexadecimal digits. Decoding is done once, from the
left; a `%` that two digits do not follow stands for itself.
-/

namespace StoreLink.Text.Percent

/-- The sign that opens a written byte. -/
def sign : UInt8 := 0x25

/-- The value of a hexadecimal digit, of either case. -/
def digit? (b : UInt8) : Option UInt8 :=
  if 0x30 ≤ b ∧ b ≤ 0x39 then some (b - 0x30)
  else if 0x41 ≤ b ∧ b ≤ 0x46 then some (b - 0x41 + 10)
  else if 0x61 ≤ b ∧ b ≤ 0x66 then some (b - 0x61 + 10)
  else none

/-- The byte written by two digits after a sign. -/
def byte? (high low : UInt8) : Option UInt8 :=
  match digit? high, digit? low with
  | some a, some b => some (a * 16 + b)
  | _, _ => none

/-- The bytes that a percent-encoded text stands for. -/
def decode : List UInt8 → List UInt8
  | [] => []
  | b :: rest =>
    if b = sign then
      match rest with
      | high :: low :: after =>
        match byte? high low with
        | some v => v :: decode after
        | none => b :: decode (high :: low :: after)
      | short => b :: decode short
    else b :: decode rest

theorem decode_nil : decode [] = [] := by
  rw [decode]

/-- A byte that is no sign stands for itself. -/
theorem decode_cons_of_ne {b : UInt8} (h : b ≠ sign) (rest : List UInt8) :
    decode (b :: rest) = b :: decode rest := by
  rw [decode.eq_def]
  simp [h]

/-- **A sign and two digits stand for the byte they write.** -/
theorem decode_written {high low v : UInt8} (h : byte? high low = some v) (rest : List UInt8) :
    decode (sign :: high :: low :: rest) = v :: decode rest := by
  rw [decode.eq_def]
  simp [h]

end StoreLink.Text.Percent
