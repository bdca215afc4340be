import StoreLink.LinkError

/-!
# Keys

A key is a text that can stand in the middle of a request line: it is not empty and holds neither a
blank nor a control character, so it can end neither its own field nor the line.
-/

namespace StoreLink

/-- The character may stand in a key. -/
def Key.allows (c : Char) : Bool :=
  !(Text.isBlank c || Text.isControl c)

/-- A text that may be a key. -/
def Key.isValid (text : String) : Bool :=
  !text.isEmpty && text.all Key.allows

/-- A key of the store. -/
structure Key where
  text : String
  valid : Key.isValid text = true
  deriving DecidableEq

namespace Key

/-- The key with this text; any other text is refused and reported whole. -/
def ofText (text : String) : Except LinkError Key :=
  if h : isValid text = true then .ok ⟨text, h⟩ else .error (.invalidKey text)

/-- **A text is a key exactly when it is not empty and each of its characters is allowed.** -/
theorem isValid_iff {text : String} :
    isValid text = true ↔ text ≠ "" ∧ ∀ c ∈ text.toList, allows c = true := by
  unfold isValid
  rw [String.all_bool_eq, Bool.and_eq_true, List.all_eq_true, Bool.not_eq_true',
    ← Bool.not_eq_true, String.isEmpty_iff]

/-- A key is its text. -/
@[simp] theorem text_inj {k key : Key} : k.text = key.text ↔ k = key := by
  cases k
  cases key
  simp only [Key.mk.injEq]

theorem ofText_eq_ok_iff {text : String} {k : Key} : ofText text = .ok k ↔ k.text = text := by
  unfold ofText
  constructor
  · intro h
    split at h
    · cases h; rfl
    · cases h
  · rintro rfl
    rw [dif_pos k.valid]

theorem ofText_eq_error_iff {text : String} {e : LinkError} :
    ofText text = .error e ↔ isValid text = false ∧ e = .invalidKey text := by
  unfold ofText
  split
  · rename_i h
    constructor
    · intro hk; cases hk
    · intro hk; rw [h] at hk; cases hk.1
  · rename_i h
    constructor
    · intro hk; cases hk; exact ⟨Bool.not_eq_true _ ▸ h, rfl⟩
    · rintro ⟨-, rfl⟩; rfl

end Key

end StoreLink
