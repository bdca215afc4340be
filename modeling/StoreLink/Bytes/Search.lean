/-!
# Searching bytes

The end of a line is searched in pieces of any size. `findIdx?_eq_some` says what the search of the
standard library finds: the first place from the start on whose byte is of the class. `newlineFrom?`
is the search for a line feed.
-/

namespace StoreLink.Bytes

/-- Where the search stands at a place of the class it ends there, else it goes on. -/
theorem findIdx?_step (b : ByteArray) (p : UInt8 → Bool) (i : Nat) :
    b.findIdx? p i
      = if h : i < b.size then (if p b[i] then some i else b.findIdx? p (i + 1)) else none := by
  unfold ByteArray.findIdx?
  rw [ByteArray.findIdx?.loop]

/-- **The search finds the first place of the class.** -/
theorem findIdx?_eq_some {b : ByteArray} {p : UInt8 → Bool} {i j : Nat}
    (h : b.findIdx? p i = some j) :
    i ≤ j ∧ ∃ hj : j < b.size, p b[j] = true ∧ ∀ k (hk : k < j), i ≤ k → p b[k] = false := by
  induction hn : b.size - i generalizing i with
  | zero =>
    rw [findIdx?_step, dif_neg (by omega)] at h
    cases h
  | succ n ih =>
    have hi : i < b.size := by omega
    rw [findIdx?_step, dif_pos hi] at h
    by_cases hp : p b[i] = true
    · rw [if_pos hp] at h
      cases h
      exact ⟨Nat.le_refl _, hi, hp, fun k hk hik => absurd hik (by omega)⟩
    · rw [if_neg hp] at h
      obtain ⟨hle, hj, hpj, hmin⟩ := ih h (by omega)
      refine ⟨by omega, hj, hpj, fun k hk hik => ?_⟩
      rcases Nat.eq_or_lt_of_le hik with rfl | hlt
      · exact Bool.not_eq_true _ ▸ hp
      · exact hmin k hk hlt

/-- The byte that ends a line. -/
def newline : UInt8 := 0x0A

/-- The first place of a line feed from place `i` on. -/
def newlineFrom? (b : ByteArray) (i : Nat) : Option Nat :=
  b.findIdx? (· == newline) i

theorem le_of_newlineFrom? {b : ByteArray} {i j : Nat} (h : newlineFrom? b i = some j) :
    i ≤ j ∧ j < b.size :=
  have hs := findIdx?_eq_some h
  ⟨hs.1, hs.2.1⟩

end StoreLink.Bytes
