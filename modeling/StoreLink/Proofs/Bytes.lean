import StoreLink.Bytes.Search

/-!
# Bytes as lists

The programs search and cut byte arrays, the proofs reason about lists of bytes. The statements here
carry one to the other:

* `findIdx?_eq_drop`: a search of the bytes is a search of their list;
* `newlineFrom?_append`: the first line feed of a whole that comes in two parts;
* `newlineFrom?_split`: what stands on the two sides of the line feed that is found;
* `ascii_mem_toUTF8`: a text has an ASCII character exactly when it has its byte, such as
  (`newline_mem_toUTF8`) a line feed;
* `toUTF8_eq_of_ascii`: the bytes of a text of ASCII characters;
* `fromUTF8?_eq_some_iff`: the bytes that are read as a text are the bytes of it.
-/

namespace StoreLink.Bytes

/-! ## 1. Lists of bytes -/

/-- What holds of the 256 bytes, one by one, holds of every byte. -/
theorem forall_of_fin {p : UInt8 → Prop} (h : ∀ n : Fin 256, p (UInt8.ofNat n.val)) (x : UInt8) :
    p x := by
  have hx := h ⟨x.toNat, x.toNat_lt⟩
  rw [UInt8.ofNat_toNat] at hx
  exact hx

theorem length_toList (b : ByteArray) : b.data.toList.length = b.size := by
  rw [Array.length_toList]
  rfl

@[simp] theorem toByteArray_toList (b : ByteArray) : b.data.toList.toByteArray = b :=
  ByteArray.ext (by rw [List.data_toByteArray, Array.toArray_toList])

/-- Bytes are those of a list exactly when it is their list. -/
theorem toByteArray_eq_iff {l : List UInt8} {b : ByteArray} :
    l.toByteArray = b ↔ l = b.data.toList := by
  constructor
  · intro h
    simp [← h]
  · intro h
    simp [h]

theorem toList_eq_nil_iff {b : ByteArray} : b.data.toList = [] ↔ b.isEmpty = true := by
  rw [← List.length_eq_zero_iff, length_toList, ByteArray.isEmpty, beq_iff_eq]

/-- The list from a place on starts with the byte at that place. -/
theorem drop_toList {b : ByteArray} {i : Nat} (hi : i < b.size) :
    b.data.toList.drop i = b[i] :: b.data.toList.drop (i + 1) :=
  List.drop_eq_getElem_cons (by rw [length_toList]; exact hi)

theorem getElem?_toList (b : ByteArray) (i : Nat) : b.data.toList[i]? = b[i]? := by
  by_cases hi : i < b.size
  · rw [getElem?_pos b i hi, List.getElem?_eq_getElem (by rw [length_toList]; exact hi)]
    rfl
  · rw [getElem?_neg b i hi, List.getElem?_eq_none (by rw [length_toList]; omega)]

theorem toList_extract (b : ByteArray) (i j : Nat) :
    (b.extract i j).data.toList = (b.data.toList.drop i).take (j - i) := by
  rw [ByteArray.data_extract, Array.toList_extract, List.extract_eq_take_drop]

/-- As many bytes as are left from a place on are all of them. -/
@[simp] theorem take_drop_toList (b : ByteArray) (i : Nat) :
    (b.data.toList.drop i).take (b.size - i) = b.data.toList.drop i := by
  rw [← length_toList, ← List.length_drop, List.take_length]

/-- What is left of the bytes from a place on. -/
theorem toList_extract_size (b : ByteArray) (i : Nat) :
    (b.extract i b.size).data.toList = b.data.toList.drop i := by
  simp

/-- What is cut off the front of a whole after its first part. -/
theorem extract_zero_append (a b : ByteArray) (n : Nat) :
    (a ++ b).extract 0 (a.size + n) = a ++ b.extract 0 n := by
  rw [ByteArray.extract_append, Nat.zero_sub, Nat.add_sub_cancel_left]
  congr 1
  rw [← Nat.max_eq_left (Nat.le_add_right a.size n), ByteArray.extract_zero_max_size]

/-- What is cut off the front and what is left are all there was. -/
theorem extract_append_rest (b : ByteArray) (n : Nat) :
    b.extract 0 n ++ b.extract n b.size = b := by
  rw [ByteArray.extract_append_extract, Nat.zero_min]
  simp

/-- Two parts that are cut off the front, one after the other. -/
theorem extract_add {b : ByteArray} {m n : Nat} (h : m + n ≤ b.size) :
    b.extract 0 m ++ (b.extract m b.size).extract 0 n = b.extract 0 (m + n) ∧
      (b.extract m b.size).extract n (b.extract m b.size).size = b.extract (m + n) b.size := by
  rw [ByteArray.extract_extract, ByteArray.extract_extract, Nat.add_zero, Nat.min_eq_left h,
    ByteArray.extract_append_extract, Nat.zero_min, Nat.max_eq_right (Nat.le_add_right m n),
    ByteArray.size_extract, Nat.min_self, Nat.add_sub_cancel' (by omega), Nat.min_self]
  exact ⟨rfl, rfl⟩

/-! ## 2. Searching -/

/-- **A search of the bytes is a search of their list.** -/
theorem findIdx?_eq_drop (b : ByteArray) (p : UInt8 → Bool) (i : Nat) :
    b.findIdx? p i = ((b.data.toList.drop i).findIdx? p).map (i + ·) := by
  induction hn : b.size - i generalizing i with
  | zero =>
    have hi : b.data.toList.length ≤ i := by
      rw [length_toList]
      omega
    rw [findIdx?_step, dif_neg (by omega), List.drop_of_length_le hi]
    rfl
  | succ n ih =>
    have hi : i < b.size := by omega
    rw [findIdx?_step, dif_pos hi, drop_toList hi, List.findIdx?_cons]
    by_cases hp : p b[i] = true
    · rw [if_pos hp, if_pos hp]
      rfl
    · rw [if_neg hp, if_neg hp, ih (i + 1) (by omega), Option.map_map]
      congr 1
      funext k
      simp only [Function.comp_apply]
      omega

theorem newlineFrom?_zero (b : ByteArray) :
    newlineFrom? b 0 = b.data.toList.findIdx? (· == newline) := by
  rw [newlineFrom?, findIdx?_eq_drop, List.drop_zero]
  simp

@[simp] theorem newlineFrom?_empty : newlineFrom? .empty 0 = none := by
  rw [newlineFrom?_zero]
  rfl

/-- The first line feed of a whole stands in its first part, or else in the second. -/
theorem newlineFrom?_append (a b : ByteArray) :
    newlineFrom? (a ++ b) 0
      = (newlineFrom? a 0).or ((newlineFrom? b 0).map (a.size + ·)) := by
  simp only [newlineFrom?_zero, ByteArray.toList_data_append, List.findIdx?_append, length_toList]
  congr 2
  funext i
  omega

/-- **The search finds a place exactly when it is the first one that holds a line feed.** -/
theorem newlineFrom?_eq_some_iff {b : ByteArray} {i : Nat} :
    newlineFrom? b 0 = some i ↔
      ∃ hi : i < b.size, b[i] = newline ∧ ∀ j (hj : j < b.size), j < i → b[j] ≠ newline := by
  rw [newlineFrom?_zero, List.findIdx?_eq_some_iff_getElem]
  simp only [length_toList, beq_iff_eq]
  constructor
  · intro h
    obtain ⟨hi, hat, hfirst⟩ := h
    exact ⟨hi, hat, fun j hj hji => hfirst j hji⟩
  · intro h
    obtain ⟨hi, hat, hfirst⟩ := h
    exact ⟨hi, hat, fun j hji => hfirst j (Nat.lt_trans hji hi) hji⟩

theorem newlineFrom?_eq_none_iff {b : ByteArray} :
    newlineFrom? b 0 = none ↔ newline ∉ b.data.toList := by
  rw [newlineFrom?_zero, List.findIdx?_eq_none_iff]
  simp only [beq_eq_false_iff_ne]
  constructor
  · intro h hm
    exact h newline hm rfl
  · intro h x hx hxn
    exact h (hxn ▸ hx)

/-- A byte stands in the list of the bytes exactly when it stands at a place of theirs. -/
theorem mem_toList_iff {b : ByteArray} {x : UInt8} :
    x ∈ b.data.toList ↔ ∃ i, ∃ hi : i < b.size, b[i] = x := by
  rw [List.mem_iff_getElem]
  simp only [length_toList]
  rfl

/-- **A line feed that is found divides what is searched**, and none stands before it. -/
theorem newlineFrom?_split {b : ByteArray} {i j : Nat} (h : newlineFrom? b i = some j) :
    newline ∉ (b.extract i j).data.toList ∧
      b.data.toList.drop i
        = (b.extract i j).data.toList ++ newline :: b.data.toList.drop (j + 1) := by
  obtain ⟨hij, hj, hat, hfirst⟩ := findIdx?_eq_some h
  constructor
  · rw [mem_toList_iff]
    intro hmem
    obtain ⟨k, hk, hkat⟩ := hmem
    rw [ByteArray.getElem_extract] at hkat
    rw [ByteArray.size_extract] at hk
    have hbefore := hfirst (i + k) (by omega) (by omega)
    rw [hkat] at hbefore
    exact absurd hbefore (by decide)
  · have hsplit := List.take_append_drop (j - i) (b.data.toList.drop i)
    rw [List.drop_drop, Nat.add_sub_cancel' hij, drop_toList hj, beq_iff_eq.mp hat,
      ← toList_extract] at hsplit
    exact hsplit.symm

theorem newline_not_mem_of_none {b : ByteArray} {i : Nat} (h : newlineFrom? b i = none) :
    newline ∉ b.data.toList.drop i := by
  rw [newlineFrom?, findIdx?_eq_drop, Option.map_eq_none_iff, List.findIdx?_eq_none_iff] at h
  intro hmem
  exact absurd (h newline hmem) (by decide)

/-! ## 3. The bytes of a text -/

attribute [simp] String.toByteArray_inj

/-- An ASCII character is one byte. -/
theorem utf8EncodeChar_ofUInt8 :
    ∀ x : UInt8, x < 128 → String.utf8EncodeChar (Char.ofUInt8 x) = [x] :=
  forall_of_fin (by decide +kernel)

theorem eq_ofNat_iff {x : UInt8} {n : Nat} : x = UInt8.ofNat n ↔ n % 256 = x.toNat := by
  rw [eq_comm, UInt8.ofNat_eq_iff_mod_eq_toNat]

/-- A character that is written as several bytes is written without small ones. -/
theorem ascii_mem_utf8EncodeChar {x : UInt8} (hx : x < 128) {c : Char} :
    x ∈ String.utf8EncodeChar c ↔ c = Char.ofUInt8 x := by
  have hsmall : x.toNat < 128 := hx
  constructor
  · intro h
    refine Char.ext (UInt32.toNat_inj.mp ?_)
    show c.val.toNat = x.toUInt32.toNat
    rw [UInt8.toNat_toUInt32]
    simp only [String.utf8EncodeChar] at h
    split at h
    · rw [List.mem_singleton, eq_ofNat_iff] at h
      omega
    -- each byte has its first bit set
    · exfalso
      split at h
      · simp only [List.mem_cons, List.not_mem_nil, or_false, eq_ofNat_iff] at h
        omega
      · split at h
        · simp only [List.mem_cons, List.not_mem_nil, or_false, eq_ofNat_iff] at h
          omega
        · simp only [List.mem_cons, List.not_mem_nil, or_false, eq_ofNat_iff] at h
          omega
  · intro h
    rw [h, utf8EncodeChar_ofUInt8 x hx]
    exact List.mem_singleton_self x

theorem newline_mem_utf8EncodeChar {c : Char} :
    newline ∈ String.utf8EncodeChar c ↔ c = '\n' :=
  ascii_mem_utf8EncodeChar (by decide)

/-- The bytes of a text are those of its characters in turn. -/
theorem toList_toUTF8 (s : String) :
    s.toUTF8.data.toList = s.toList.flatMap String.utf8EncodeChar := by
  rw [String.toUTF8_eq_toByteArray, ← String.utf8Encode_toList, List.utf8Encode,
    List.data_toByteArray]

/-- **A text has an ASCII character exactly when it has its byte.** -/
theorem ascii_mem_toUTF8 {x : UInt8} (hx : x < 128) {s : String} :
    x ∈ s.toUTF8.data.toList ↔ Char.ofUInt8 x ∈ s.toList := by
  rw [toList_toUTF8, List.mem_flatMap]
  constructor
  · intro h
    obtain ⟨c, hc, h⟩ := h
    exact (ascii_mem_utf8EncodeChar hx).mp h ▸ hc
  · intro h
    exact ⟨_, h, (ascii_mem_utf8EncodeChar hx).mpr rfl⟩

/-- A text has a line feed among its bytes exactly when it has one among its characters. -/
theorem newline_mem_toUTF8 {s : String} : newline ∈ s.toUTF8.data.toList ↔ '\n' ∈ s.toList :=
  ascii_mem_toUTF8 (by decide)

/-- ASCII characters are one byte each. -/
theorem utf8Encode_map_ofUInt8 : ∀ {l : List UInt8}, (∀ x ∈ l, x < 128) →
    (l.map Char.ofUInt8).utf8Encode = l.toByteArray
  | [], _ => rfl
  | x :: rest, h => by
    rw [List.map_cons, List.utf8Encode_cons, List.utf8Encode_singleton,
      utf8EncodeChar_ofUInt8 x (h x List.mem_cons_self),
      utf8Encode_map_ofUInt8 fun y hy => h y (List.mem_cons_of_mem x hy),
      ← List.toByteArray_append]
    rfl

/-- **A text of ASCII characters is these bytes.** -/
theorem toUTF8_eq_of_ascii {s : String} {l : List UInt8} (hs : s.toList = l.map Char.ofUInt8)
    (hl : ∀ x ∈ l, x < 128) : s.toUTF8 = l.toByteArray := by
  rw [String.toUTF8_eq_toByteArray, ← String.utf8Encode_toList, hs, utf8Encode_map_ofUInt8 hl]

/-- **Bytes are read as a text exactly when they are its bytes.** -/
theorem fromUTF8?_eq_some_iff {b : ByteArray} {s : String} :
    String.fromUTF8? b = some s ↔ b = s.toUTF8 := by
  unfold String.fromUTF8?
  constructor
  · intro h
    split at h
    · cases h
      rfl
    · cases h
  · intro h
    subst h
    have hvalid : s.toUTF8.IsValidUTF8 := s.isValidUTF8
    rw [dif_pos hvalid]
    rfl

end StoreLink.Bytes
