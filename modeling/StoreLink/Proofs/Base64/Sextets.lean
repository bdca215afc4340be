import StoreLink.Base64.Encode
import StoreLink.Base64.Decode
import StoreLink.Proofs.Bytes

/-!
# Bytes and numbers of six bits

Three bytes and four numbers of six bits are the same twenty-four bits, cut in two ways.

* `firstByte_first`, `secondByte_second`, `thirdByte_third`: cutting into numbers and joining them
  again gives the bytes;
* `first_firstByte`, `second_firstByte`, `third_secondByte`, `fourth_thirdByte`: joining numbers and
  cutting again gives the numbers;
* `second_last`, `third_last`: the same for a last number none of whose bits are left over.
-/

namespace StoreLink.Base64

/-! ## 1. Bit by bit -/

theorem eq_of_bits {a b : UInt8} (h : ∀ i (hi : i < 8), a.toBitVec[i] = b.toBitVec[i]) : a = b :=
  UInt8.toBitVec_inj.1 (BitVec.eq_of_getElem_eq h)

/-- A number has six bits exactly when the two high bits of its byte are not set. -/
theorem lt_iff_highBits (a : UInt8) :
    a < 64 ↔ a.toBitVec[6] = false ∧ a.toBitVec[7] = false := by
  revert a
  exact Bytes.forall_of_fin (by decide +kernel)

theorem first_lt (a : UInt8) : first a < 64 := by
  rw [lt_iff_highBits, first]
  simp

theorem second_lt (a b : UInt8) : second a b < 64 := by
  rw [lt_iff_highBits, second]
  simp

theorem third_lt (b c : UInt8) : third b c < 64 := by
  rw [lt_iff_highBits, third]
  simp

theorem fourth_lt (c : UInt8) : fourth c < 64 := by
  rw [lt_iff_highBits, fourth]
  simp

/-! ## 2. From bytes to numbers and back -/

@[simp] theorem firstByte_first (a b : UInt8) : firstByte (first a) (second a b) = a := by
  refine eq_of_bits fun i hi => ?_
  unfold firstByte first second
  match i, hi with
  | 0, _ | 1, _ | 2, _ | 3, _ | 4, _ | 5, _ | 6, _ | 7, _ => simp

@[simp] theorem secondByte_second (a b c : UInt8) : secondByte (second a b) (third b c) = b := by
  refine eq_of_bits fun i hi => ?_
  unfold secondByte second third
  match i, hi with
  | 0, _ | 1, _ | 2, _ | 3, _ | 4, _ | 5, _ | 6, _ | 7, _ => simp

@[simp] theorem thirdByte_third (b c : UInt8) : thirdByte (third b c) (fourth c) = c := by
  refine eq_of_bits fun i hi => ?_
  unfold thirdByte third fourth
  match i, hi with
  | 0, _ | 1, _ | 2, _ | 3, _ | 4, _ | 5, _ | 6, _ | 7, _ => simp

/-- A single last byte leaves no bit over. -/
@[simp] theorem second_zero_shift (a : UInt8) : second a 0 <<< 4 = 0 := by
  refine eq_of_bits fun i hi => ?_
  unfold second
  match i, hi with
  | 0, _ | 1, _ | 2, _ | 3, _ | 4, _ | 5, _ | 6, _ | 7, _ => simp

/-- Two last bytes leave no bit over. -/
@[simp] theorem third_zero_shift (b : UInt8) : third b 0 <<< 6 = 0 := by
  refine eq_of_bits fun i hi => ?_
  unfold third
  match i, hi with
  | 0, _ | 1, _ | 2, _ | 3, _ | 4, _ | 5, _ | 6, _ | 7, _ => simp

/-! ## 3. From numbers to bytes and back -/

section Join

variable {a b c d : UInt8}

theorem first_firstByte (ha : a < 64) (hb : b < 64) : first (firstByte a b) = a := by
  obtain ⟨ha₆, ha₇⟩ := (lt_iff_highBits a).mp ha
  obtain ⟨hb₆, hb₇⟩ := (lt_iff_highBits b).mp hb
  refine eq_of_bits fun i hi => ?_
  unfold first firstByte
  match i, hi with
  | 0, _ | 1, _ | 2, _ | 3, _ | 4, _ | 5, _ | 6, _ | 7, _ => simp [ha₆, ha₇, hb₆, hb₇]

theorem second_firstByte (hb : b < 64) (hc : c < 64) :
    second (firstByte a b) (secondByte b c) = b := by
  obtain ⟨hb₆, hb₇⟩ := (lt_iff_highBits b).mp hb
  obtain ⟨hc₆, hc₇⟩ := (lt_iff_highBits c).mp hc
  refine eq_of_bits fun i hi => ?_
  unfold second firstByte secondByte
  match i, hi with
  | 0, _ | 1, _ | 2, _ | 3, _ | 4, _ | 5, _ | 6, _ | 7, _ => simp [hb₆, hb₇, hc₆, hc₇]

theorem third_secondByte (hc : c < 64) (hd : d < 64) :
    third (secondByte b c) (thirdByte c d) = c := by
  obtain ⟨hc₆, hc₇⟩ := (lt_iff_highBits c).mp hc
  obtain ⟨hd₆, hd₇⟩ := (lt_iff_highBits d).mp hd
  refine eq_of_bits fun i hi => ?_
  unfold third secondByte thirdByte
  match i, hi with
  | 0, _ | 1, _ | 2, _ | 3, _ | 4, _ | 5, _ | 6, _ | 7, _ => simp [hc₆, hc₇, hd₆, hd₇]

theorem fourth_thirdByte (hd : d < 64) : fourth (thirdByte c d) = d := by
  obtain ⟨hd₆, hd₇⟩ := (lt_iff_highBits d).mp hd
  refine eq_of_bits fun i hi => ?_
  unfold fourth thirdByte
  match i, hi with
  | 0, _ | 1, _ | 2, _ | 3, _ | 4, _ | 5, _ | 6, _ | 7, _ => simp [hd₆, hd₇]

/-- The second number is the last one, and its low bits belong to no byte. -/
theorem second_last (hb : b < 64) (hover : b <<< 4 = 0) : second (firstByte a b) 0 = b := by
  have hzero : secondByte b 0 = 0 := by
    rw [secondByte, hover]
    decide
  have h := second_firstByte (a := a) hb (show (0 : UInt8) < 64 by decide)
  rw [hzero] at h
  exact h

/-- The third number is the last one, and its low bits belong to no byte. -/
theorem third_last (hc : c < 64) (hover : c <<< 6 = 0) : third (secondByte b c) 0 = c := by
  have hzero : thirdByte c 0 = 0 := by
    rw [thirdByte, hover]
    decide
  have h := third_secondByte (b := b) hc (show (0 : UInt8) < 64 by decide)
  rw [hzero] at h
  exact h

end Join

end StoreLink.Base64
