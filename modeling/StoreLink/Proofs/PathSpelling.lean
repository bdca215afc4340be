import StoreLink.Gateway
import StoreLink.Proofs.Bytes

/-!
# How bytes are spelled in a path

A byte of a path stands for itself or is written as a sign and two digits, so the same bytes have
many spellings. Decoding brings the bytes back from each of them.

* `Spelled` says which bytes are spelled how; `decode_of_spelled`: they come back;
* `Spelled.append`: spellings in a row spell the bytes in a row;
* `target_of_spelled`: a spelling behind a slash is the path of a target, whatever query follows;
* `spelled_writtenOut` and `spelled_self`: bytes have a spelling in ASCII, and one that is
  themselves unless a sign or an end of the path is among them.
-/

namespace StoreLink.Gateway

open Text

/-! ## 1. Spellings -/

/-- The byte may stand for itself in a path: it is none of `%`, `?` and `#`. -/
def Literal (b : UInt8) : Prop :=
  b ≠ 0x25 ∧ b ≠ 0x3F ∧ b ≠ 0x23

instance (b : UInt8) : Decidable (Literal b) :=
  inferInstanceAs (Decidable (_ ∧ _))

/-- What stands for a number of four bits: a digit, or a letter in either case. -/
def hexDigits (v : UInt8) : List UInt8 :=
  if v < 10 then [v + 0x30] else [v - 10 + 0x41, v - 10 + 0x61]

/-- A spelling of bytes: each stands for itself, or is written as `%` and two digits. -/
inductive Spelled : List UInt8 → List UInt8 → Prop where
  | nil : Spelled [] []
  | literal {b : UInt8} {spelling bytes : List UInt8} (hb : Literal b)
      (h : Spelled spelling bytes) : Spelled (b :: spelling) (b :: bytes)
  | written {high low b : UInt8} {spelling bytes : List UInt8} (hhigh : high ∈ hexDigits (b >>> 4))
      (hlow : low ∈ hexDigits (b &&& 15)) (h : Spelled spelling bytes) :
      Spelled (0x25 :: high :: low :: spelling) (b :: bytes)

theorem endsPath_iff {b : UInt8} : Target.endsPath b = true ↔ b = 0x3F ∨ b = 0x23 := by
  rw [Target.endsPath, Bool.or_eq_true, beq_iff_eq, beq_iff_eq]

theorem Literal.not_endsPath {b : UInt8} (h : Literal b) : Target.endsPath b = false := by
  rw [Bool.eq_false_iff, Ne, endsPath_iff]
  exact not_or.mpr h.2

/-- **The digits of a byte are read as it**, each in either case. -/
theorem byte?_of_mem {b high low : UInt8} (hhigh : high ∈ hexDigits (b >>> 4))
    (hlow : low ∈ hexDigits (b &&& 15)) : Percent.byte? high low = some b := by
  have hall : ∀ b : UInt8, ((hexDigits (b >>> 4)).all fun high => (hexDigits (b &&& 15)).all
      fun low => Percent.byte? high low == some b) = true :=
    Bytes.forall_of_fin (by decide +kernel)
  have hlows := List.all_eq_true.mp (hall b) high hhigh
  exact beq_iff_eq.mp (List.all_eq_true.mp hlows low hlow)

theorem not_endsPath_of_mem {b digit : UInt8}
    (h : digit ∈ hexDigits (b >>> 4) ++ hexDigits (b &&& 15)) :
    Target.endsPath digit = false := by
  have hall : ∀ b : UInt8, ((hexDigits (b >>> 4) ++ hexDigits (b &&& 15)).all
      fun digit => Target.endsPath digit == false) = true :=
    Bytes.forall_of_fin (by decide +kernel)
  exact beq_iff_eq.mp (List.all_eq_true.mp (hall b) digit h)

section Spellings

variable {spelling bytes spelling' bytes' : List UInt8}

/-- **Decoding brings the bytes back**, however they are spelled. -/
theorem decode_of_spelled (h : Spelled spelling bytes) : Percent.decode spelling = bytes := by
  induction h with
  | nil => exact Percent.decode_nil
  | literal hb _ ih => rw [Percent.decode_cons_of_ne hb.1, ih]
  | written hhigh hlow _ ih =>
    rw [← Percent.sign, Percent.decode_written (byte?_of_mem hhigh hlow), ih]

theorem Spelled.append (h : Spelled spelling bytes) (h' : Spelled spelling' bytes') :
    Spelled (spelling ++ spelling') (bytes ++ bytes') := by
  induction h with
  | nil => exact h'
  | literal hb _ ih => exact .literal hb ih
  | written hhigh hlow _ ih => exact .written hhigh hlow ih

/-- **No byte of a spelling ends the path.** -/
theorem not_endsPath_of_spelled (h : Spelled spelling bytes) :
    ∀ b ∈ spelling, Target.endsPath b = false := by
  induction h with
  | nil => exact List.forall_mem_nil _
  | literal hb _ ih => exact List.forall_mem_cons.mpr ⟨hb.not_endsPath, ih⟩
  | written hhigh hlow _ ih =>
    exact List.forall_mem_cons.mpr ⟨rfl, List.forall_mem_cons.mpr
      ⟨not_endsPath_of_mem (List.mem_append_left _ hhigh), List.forall_mem_cons.mpr
        ⟨not_endsPath_of_mem (List.mem_append_right _ hlow), ih⟩⟩⟩

/-! ## 2. Targets -/

/-- The path ends where a query or a fragment begins. -/
theorem pathOf_append {path query : List UInt8} (hpath : ∀ b ∈ path, Target.endsPath b = false)
    (hquery : ∀ b ∈ query.head?, b = 0x3F ∨ b = 0x23) :
    Target.pathOf (path ++ query) = path := by
  have hall : ∀ b ∈ path, (!Target.endsPath b) = true := fun b hb => by rw [hpath b hb]; rfl
  have hnone : query.takeWhile (fun b => !Target.endsPath b) = [] := by
    cases query with
    | nil => rfl
    | cons b rest =>
      rw [List.takeWhile_cons, endsPath_iff.mpr (hquery b rfl)]
      rfl
  rw [Target.pathOf, List.takeWhile_append_of_pos hall, hnone, List.append_nil]

/-- **A spelling behind a slash is the path of a target**, whatever query follows. -/
theorem target_of_spelled {text : String} {query : List UInt8}
    (htext : text.toUTF8.data.toList = Target.slash :: (spelling ++ query))
    (h : Spelled spelling bytes) (hquery : ∀ b ∈ query.head?, b = 0x3F ∨ b = 0x23) :
    Target.ofText text = .path (Target.slash :: spelling) := by
  have hpath : ∀ b ∈ Target.slash :: spelling, Target.endsPath b = false :=
    List.forall_mem_cons.mpr ⟨rfl, not_endsPath_of_spelled h⟩
  rw [Target.ofText, htext]
  show Target.path (Target.pathOf (Target.slash :: spelling ++ query)) = _
  rw [pathOf_append hpath hquery]

/-! ## 3. Two spellings -/

/-- Bytes that may all stand for themselves are a spelling of themselves. -/
theorem spelled_self : ∀ {bytes : List UInt8}, (∀ b ∈ bytes, Literal b) → Spelled bytes bytes
  | [], _ => .nil
  | b :: _, h => .literal (h b (.head _)) (spelled_self fun x hx => h x (.tail _ hx))

/-- The digit of a number of four bits, in upper case. -/
def hexDigit (v : UInt8) : UInt8 :=
  if v < 10 then v + 0x30 else v - 10 + 0x41

/-- The spelling with every byte written by its digits. -/
def writtenOut : List UInt8 → List UInt8
  | [] => []
  | b :: rest => 0x25 :: hexDigit (b >>> 4) :: hexDigit (b &&& 15) :: writtenOut rest

theorem hexDigit_mem (v : UInt8) : hexDigit v ∈ hexDigits v := by
  rw [hexDigit, hexDigits]
  split
  · exact .head _
  · exact .head _

theorem hexDigit_lt : ∀ b : UInt8, hexDigit (b >>> 4) < 128 ∧ hexDigit (b &&& 15) < 128 :=
  Bytes.forall_of_fin (by decide +kernel)

theorem spelled_writtenOut : ∀ bytes : List UInt8, Spelled (writtenOut bytes) bytes
  | [] => .nil
  | _ :: rest => .written (hexDigit_mem _) (hexDigit_mem _) (spelled_writtenOut rest)

theorem writtenOut_lt : ∀ bytes : List UInt8, ∀ x ∈ writtenOut bytes, x < 128
  | [] => List.forall_mem_nil _
  | b :: rest => List.forall_mem_cons.mpr ⟨by decide, List.forall_mem_cons.mpr
      ⟨(hexDigit_lt b).1, List.forall_mem_cons.mpr ⟨(hexDigit_lt b).2, writtenOut_lt rest⟩⟩⟩

end Spellings

end StoreLink.Gateway
