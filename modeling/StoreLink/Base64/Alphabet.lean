/-!
# The alphabet of base64

Sixty-four ASCII symbols stand for the numbers of six bits: `A-Z`, `a-z`, `0-9`, `+` and `/`, in
this order. The sign `=` is none of them; it fills up the last group.

Main statements: each symbol has the value it stands for (`value?_symbol`), and no other byte has a
value (`symbol_of_value?`).
-/

namespace StoreLink.Base64

/-- The sign that fills up the last group. -/
def pad : UInt8 := 0x3D

/-- The symbol of a number of six bits. -/
@[inline] def symbol (v : UInt8) : UInt8 :=
  if v < 26 then v + 0x41
  else if v < 52 then v - 26 + 0x61
  else if v < 62 then v - 52 + 0x30
  else if v = 62 then 0x2B
  else 0x2F

/-- The number that a symbol stands for, `none` for a byte outside of the alphabet. -/
@[inline] def value? (b : UInt8) : Option UInt8 :=
  if 0x41 ≤ b ∧ b ≤ 0x5A then some (b - 0x41)
  else if 0x61 ≤ b ∧ b ≤ 0x7A then some (b - 0x61 + 26)
  else if 0x30 ≤ b ∧ b ≤ 0x39 then some (b - 0x30 + 52)
  else if b = 0x2B then some 62
  else if b = 0x2F then some 63
  else none

set_option maxRecDepth 4096 in
/-- **A symbol has the value it stands for.** -/
theorem value?_symbol : ∀ v : UInt8, v < 64 → value? (symbol v) = some v := by
  have h : ∀ n : Fin 256, UInt8.ofNat n.val < 64 →
      value? (symbol (UInt8.ofNat n.val)) = some (UInt8.ofNat n.val) := by decide +kernel
  intro v hv
  have hn := h ⟨v.toNat, v.toNat_lt⟩
  simpa [hv] using hn

set_option maxRecDepth 4096 in
/-- **Only a symbol has a value**, and it is the symbol of that value. -/
theorem symbol_of_value? : ∀ b v : UInt8, value? b = some v → v < 64 ∧ symbol v = b := by
  have h : ∀ n : Fin 256, (value? (UInt8.ofNat n.val)).all
      (fun v => decide (v < 64) && symbol v == UInt8.ofNat n.val) = true := by decide +kernel
  intro b v hv
  have hn := h ⟨b.toNat, b.toNat_lt⟩
  simp only [UInt8.ofNat_toNat] at hn
  rw [hv] at hn
  simpa using hn

end StoreLink.Base64
