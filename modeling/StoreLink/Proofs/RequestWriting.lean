import StoreLink.Stream
import StoreLink.Proofs.Bytes

/-!
# Writing in pieces

A stream may take what is written to it in any pieces, and fail at any time. What it has taken is
then what its writes before the failure had room for, and all of it if nothing stopped them.

* `WriteItem.stop?` is the failure with which a write ends the writing, `WriteItem.room` how much
  one takes at most; `writeFrom_cons` says what one write does;
* `Halts`: the writes end before all is written; `LetsThrough`: they do not;
  `letsThrough_or_halts` says that there is no third;
* `writeFrom_of_halts`, `writeFrom_of_letsThrough`: what became of the writing, by induction on the
  writes, and `writeAll_failed_iff`, `writeAll_sent_iff`: which of the two it was.
-/

namespace StoreLink

/-- The failure with which a write ends the writing: it fails for good, or it takes nothing. -/
def WriteItem.stop? : WriteItem → Option IoError
  | .accept atMost => if atMost = 0 then some Stream.writeZero else none
  | .failure e => if e.isInterrupted then none else some e

/-- The bytes that a write takes at most. -/
def WriteItem.room : WriteItem → Nat
  | .accept atMost => atMost
  | .failure _ => 0

namespace Stream

/-! ## 1. One write -/

theorem isEmpty_of_size_pos {bytes : ByteArray} (h : 0 < bytes.size) : bytes.isEmpty = false := by
  rw [ByteArray.isEmpty, beq_eq_false_iff_ne]
  omega

/-- With nothing left to write, the writing is over. -/
@[simp] theorem writeFrom_empty (taken : ByteArray) (writes : List WriteItem) :
    writeFrom taken .empty writes = ⟨taken, none⟩ := by
  cases writes with
  | nil => rw [writeFrom, ByteArray.append_empty]
  | cons write rest => cases write <;> rfl

/-- **One write ends the writing, or takes what it has room for** and leaves the rest. -/
theorem writeFrom_cons {left : ByteArray} (hleft : 0 < left.size) (taken : ByteArray)
    (write : WriteItem) (rest : List WriteItem) :
    writeFrom taken left (write :: rest)
      = match write.stop? with
        | some e => ⟨taken, some e⟩
        | none => writeFrom (taken ++ left.extract 0 write.room)
            (left.extract write.room left.size) rest := by
  cases write with
  | accept atMost =>
    rw [writeFrom, isEmpty_of_size_pos hleft, if_neg Bool.false_ne_true, WriteItem.stop?]
    split <;> rfl
  | failure e =>
    rw [writeFrom, isEmpty_of_size_pos hleft, if_neg Bool.false_ne_true, WriteItem.stop?,
      WriteItem.room, ByteArray.extract_same, ByteArray.append_empty, ByteArray.extract_zero_size]
    split <;> rfl

/-! ## 2. Where the writing ends -/

/-- None of the writes ends the writing. -/
def Passes (writes : List WriteItem) : Prop :=
  ∀ write ∈ writes, write.stop? = none

/-- The bytes that the writes take together at most. -/
def roomOf : List WriteItem → Nat
  | [] => 0
  | write :: later => write.room + roomOf later

/-- The writing of so many bytes ends with this failure: a write stops it, and those before it have
    room for `n` bytes only. -/
structure Halts (writes : List WriteItem) (size n : Nat) (e : IoError) : Prop where
  parts : ∃ front write later, writes = front ++ write :: later ∧ Passes front ∧
    write.stop? = some e ∧ roomOf front = n
  short : n < size

/-- The writes take so many bytes: no write stops them before there was room for all. -/
def LetsThrough (writes : List WriteItem) (size : Nat) : Prop :=
  ∃ front later, writes = front ++ later ∧ Passes front ∧ (later = [] ∨ size ≤ roomOf front)

theorem letsThrough_or_halts (writes : List WriteItem) (size : Nat) :
    LetsThrough writes size ∨ ∃ n e, Halts writes size n e := by
  cases hstop : writes.findSome? WriteItem.stop? with
  | none =>
    rw [List.findSome?_eq_none_iff] at hstop
    exact .inl ⟨writes, [], (List.append_nil _).symm, hstop, .inl rfl⟩
  | some e =>
    obtain ⟨front, write, later, hwrites, hwrite, hfront⟩ := List.findSome?_eq_some_iff.mp hstop
    by_cases hroom : size ≤ roomOf front
    · exact .inl ⟨front, write :: later, hwrites, hfront, .inr hroom⟩
    · exact .inr ⟨_, e, ⟨front, write, later, hwrites, hfront, hwrite, rfl⟩, Nat.lt_of_not_le hroom⟩

/-! ## 3. What became of the writing -/

section Writing

variable {write : WriteItem} {front : List WriteItem} {taken left : ByteArray}

@[simp] theorem passes_cons : Passes (write :: front) ↔ write.stop? = none ∧ Passes front :=
  List.forall_mem_cons

@[simp] theorem roomOf_nil : roomOf [] = 0 := rfl

@[simp] theorem roomOf_cons (write : WriteItem) (front : List WriteItem) :
    roomOf (write :: front) = write.room + roomOf front := rfl

/-- Writes that stop nothing take what they have room for, and leave the rest to those after. -/
theorem writeFrom_passed (later : List WriteItem) :
    ∀ {front : List WriteItem} {taken left : ByteArray}, Passes front → roomOf front < left.size →
      writeFrom taken left (front ++ later)
        = writeFrom (taken ++ left.extract 0 (roomOf front))
            (left.extract (roomOf front) left.size) later
  | [], taken, left, _, _ => by simp
  | write :: front, taken, left, hpasses, hroom => by
    obtain ⟨hwrite, hfront⟩ := passes_cons.mp hpasses
    rw [roomOf_cons] at hroom ⊢
    have hleft : roomOf front < (left.extract write.room left.size).size := by
      rw [ByteArray.size_extract, Nat.min_self]
      omega
    obtain ⟨htaken, hrest⟩ := Bytes.extract_add (Nat.le_of_lt hroom)
    rw [List.cons_append, writeFrom_cons (by omega), hwrite]
    show writeFrom (taken ++ left.extract 0 write.room) (left.extract write.room left.size)
      (front ++ later) = _
    rw [writeFrom_passed later hfront hleft, ByteArray.append_assoc, htaken, hrest]

/-- **Writes that halt have taken what those before the failure had room for.** -/
theorem writeFrom_of_halts {writes : List WriteItem} {n : Nat} {e : IoError}
    (h : Halts writes left.size n e) :
    writeFrom taken left writes = ⟨taken ++ left.extract 0 n, some e⟩ := by
  obtain ⟨front, write, later, rfl, hfront, hwrite, rfl⟩ := h.parts
  have hleft : 0 < (left.extract (roomOf front) left.size).size := by
    have hshort := h.short
    rw [ByteArray.size_extract, Nat.min_self]
    omega
  rw [writeFrom_passed _ hfront h.short, writeFrom_cons hleft, hwrite]

/-- **Writes that let all of the bytes through have taken them**, whatever comes later. -/
theorem writeFrom_of_letsThrough {later : List WriteItem} :
    ∀ {front : List WriteItem} {taken left : ByteArray}, Passes front →
      (later = [] ∨ left.size ≤ roomOf front) →
        writeFrom taken left (front ++ later) = ⟨taken ++ left, none⟩
  | [], taken, left, _, hall => by
    rcases hall with rfl | hnone
    · rfl
    · simp [ByteArray.size_eq_zero_iff.mp (Nat.le_zero.mp hnone)]
  | write :: front, taken, left, hpasses, hall => by
    obtain ⟨hwrite, hfront⟩ := passes_cons.mp hpasses
    rcases Nat.eq_zero_or_pos left.size with hnone | hleft
    · simp [ByteArray.size_eq_zero_iff.mp hnone]
    · have hrest : later = [] ∨ (left.extract write.room left.size).size ≤ roomOf front := by
        refine hall.imp id fun hroom => ?_
        rw [roomOf_cons] at hroom
        rw [ByteArray.size_extract, Nat.min_self]
        omega
      rw [List.cons_append, writeFrom_cons hleft, hwrite]
      show writeFrom (taken ++ left.extract 0 write.room) (left.extract write.room left.size)
        (front ++ later) = _
      rw [writeFrom_of_letsThrough hfront hrest, ByteArray.append_assoc, Bytes.extract_append_rest]

end Writing

section WriteAll

variable {bytes : ByteArray} {writes : List WriteItem} {n : Nat} {e : IoError}

theorem writeAll_of_letsThrough (h : LetsThrough writes bytes.size) :
    writeAll bytes writes = ⟨bytes, none⟩ := by
  obtain ⟨front, later, rfl, hfront, hall⟩ := h
  rw [writeAll, writeFrom_of_letsThrough hfront hall, ByteArray.empty_append]

theorem writeAll_of_halts (h : Halts writes bytes.size n e) :
    writeAll bytes writes = ⟨bytes.extract 0 n, some e⟩ := by
  rw [writeAll, writeFrom_of_halts h, ByteArray.empty_append]

/-- **All is written exactly when the writes let it through.** -/
theorem writeAll_sent_iff :
    (writeAll bytes writes).failure = none ↔ LetsThrough writes bytes.size := by
  constructor
  · intro h
    rcases letsThrough_or_halts writes bytes.size with hthrough | ⟨n, e, hhalts⟩
    · exact hthrough
    · rw [writeAll_of_halts hhalts] at h
      cases h
  · intro h
    rw [writeAll_of_letsThrough h]

/-- **The writing fails exactly where the writes halt.** -/
theorem writeAll_failed_iff :
    (writeAll bytes writes).failure = some e ↔ ∃ n, Halts writes bytes.size n e := by
  constructor
  · intro h
    rcases letsThrough_or_halts writes bytes.size with hthrough | ⟨n, e', hhalts⟩
    · rw [writeAll_of_letsThrough hthrough] at h
      cases h
    · rw [writeAll_of_halts hhalts] at h
      cases h
      exact ⟨n, hhalts⟩
  · intro h
    obtain ⟨n, hhalts⟩ := h
    rw [writeAll_of_halts hhalts]

/-- Writes that do not fail take all that there is to write. -/
theorem taken_of_sent (h : (writeAll bytes writes).failure = none) :
    (writeAll bytes writes).taken = bytes := by
  rw [writeAll_of_letsThrough (writeAll_sent_iff.mp h)]

end WriteAll

end Stream

end StoreLink
