import StoreLink.Text.Lossy
import StoreLink.Proofs.Bytes

/-!
# What a lossy reading tells of its bytes

Any bytes are read as a text, and what is no text in them shows: each piece that is part of no
character becomes one replacement character. So bytes that are damaged can be told from the text
alone, and the ends of lines stay where they are.

* `Reading` relates bytes to the characters that they are read as, piece by piece, and
  `reading_lossy` says that `lossy` is such a reading;
* **`replacement_mem_lossy`**: bytes that are not UTF-8 leave a replacement character;
* `Reading.count_newline`, `Reading.getLast?_newline`: the line feeds of a reading are those of its
  bytes, and **`lossy_line`** says so of a whole line.
-/

namespace StoreLink.Text

/-! ## 1. Readings -/

/-- The bytes are read as these characters: a character from its own bytes, and a replacement
    character from a piece that is none. No line feed is lost in such a piece. -/
inductive Reading : List UInt8 → List Char → Prop where
  | nil : Reading [] []
  | char (c : Char) {rest : List UInt8} {cs : List Char} (h : Reading rest cs) :
      Reading (String.utf8EncodeChar c ++ rest) (c :: cs)
  | broken {piece rest : List UInt8} {cs : List Char} (hpiece : piece ≠ [])
      (hline : Bytes.newline ∉ piece) (h : Reading rest cs) :
      Reading (piece ++ rest) ('\uFFFD' :: cs)

/-- The bytes of characters are read as these characters. -/
theorem reading_utf8Encode (cs : List Char) : Reading (cs.flatMap String.utf8EncodeChar) cs := by
  induction cs with
  | nil => exact .nil
  | cons c cs ih =>
    rw [List.flatMap_cons]
    exact .char c ih

/-- **A reading without replacement characters is read from the bytes of its characters.** -/
theorem Reading.eq_utf8Encode {bytes : List UInt8} {cs : List Char} (h : Reading bytes cs)
    (hnone : '\uFFFD' ∉ cs) : bytes = cs.flatMap String.utf8EncodeChar := by
  induction h with
  | nil => rfl
  | char c _ ih =>
    have hrest := ih fun hmem => hnone (List.mem_cons_of_mem c hmem)
    rw [hrest, List.flatMap_cons]
  | broken _ _ _ _ => exact absurd List.mem_cons_self hnone

theorem count_newline_utf8EncodeChar (c : Char) :
    (String.utf8EncodeChar c).count Bytes.newline = [c].count '\n' := by
  by_cases hc : c = '\n'
  · subst hc
    decide
  · have hnone : Bytes.newline ∉ String.utf8EncodeChar c :=
      fun hmem => hc (Bytes.newline_mem_utf8EncodeChar.mp hmem)
    have hother : '\n' ∉ [c] := fun hmem => hc (List.mem_singleton.mp hmem).symm
    rw [List.count_eq_zero_of_not_mem hnone, List.count_eq_zero_of_not_mem hother]

/-- **There are as many line feeds in a reading as in its bytes.** -/
theorem Reading.count_newline {bytes : List UInt8} {cs : List Char} (h : Reading bytes cs) :
    cs.count '\n' = bytes.count Bytes.newline := by
  induction h with
  | nil => rfl
  | char c _ ih =>
    rw [List.count_append, count_newline_utf8EncodeChar, ← ih, ← List.count_append]
    rfl
  | broken _ hline _ ih =>
    have hother : '\uFFFD' ≠ '\n' := by decide
    rw [List.count_append, List.count_eq_zero_of_not_mem hline, Nat.zero_add, ← ih,
      List.count_cons_of_ne hother]

/-- Nothing is read from no bytes. -/
theorem Reading.eq_nil {bytes : List UInt8} {cs : List Char} (h : Reading bytes cs)
    (hnone : bytes = []) : cs = [] := by
  cases h with
  | nil => rfl
  | char c _ => exact absurd (List.append_eq_nil_iff.mp hnone).1 String.utf8EncodeChar_ne_nil
  | broken hpiece _ _ => exact absurd (List.append_eq_nil_iff.mp hnone).1 hpiece

/-- What stands last in two parts stands last in the second, or in the first if that is all. -/
theorem getLast?_append_eq_some {piece rest : List UInt8} {x : UInt8}
    (h : (piece ++ rest).getLast? = some x) : rest.getLast? = some x ∨ rest = [] ∧ x ∈ piece := by
  rw [List.getLast?_append] at h
  cases hrest : rest.getLast? with
  | some y =>
    rw [hrest, Option.some_or] at h
    exact .inl h
  | none =>
    rw [hrest, Option.none_or] at h
    exact .inr ⟨List.getLast?_eq_none_iff.mp hrest, List.mem_of_getLast? h⟩

/-- **A line feed at the end of the bytes ends the reading.** -/
theorem Reading.getLast?_newline {bytes : List UInt8} {cs : List Char} (h : Reading bytes cs)
    (hlast : bytes.getLast? = some Bytes.newline) : cs.getLast? = some '\n' := by
  induction h with
  | nil => cases hlast
  | char c h ih =>
    rcases getLast?_append_eq_some hlast with hrest | ⟨hrest, hmem⟩
    · rw [List.getLast?_cons, ih hrest, Option.getD_some]
    · rw [h.eq_nil hrest, Bytes.newline_mem_utf8EncodeChar.mp hmem]
      rfl
  | broken hpiece hline h ih =>
    rcases getLast?_append_eq_some hlast with hrest | ⟨-, hmem⟩
    · rw [List.getLast?_cons, ih hrest, Option.getD_some]
    · exact absurd hmem hline

/-! ## 2. Pieces that are part of no character -/

theorem isSecond_newline (first : UInt8) : isSecond first Bytes.newline = false := by
  unfold isSecond
  repeat' split
  all_goals rfl

/-- One byte more is taken, and it is of a class to which the other does not belong. -/
theorem not_mem_take_succ {l : List UInt8} {n : Nat} {x : UInt8} {p : UInt8 → Bool}
    (h : x ∉ l.take n) (hnext : l[n]?.any p = true) (hx : p x = false) : x ∉ l.take (n + 1) := by
  obtain ⟨y, hy, hp⟩ := (Option.any_eq_true _ _).mp hnext
  have hne : x ≠ y := by
    rintro rfl
    rw [hx] at hp
    cases hp
  rw [List.take_add_one, hy, Option.toList_some, List.mem_append, List.mem_singleton]
  exact not_or.mpr ⟨h, hne⟩

/-- **A piece that does not start with a line feed has none**: none of its bytes ends a line. -/
theorem newline_not_mem_invalid {first : UInt8} (hfirst : first ≠ Bytes.newline)
    (rest : List UInt8) :
    Bytes.newline ∉ (first :: rest).take (invalidLength first rest[0]? rest[1]?) := by
  have hone : Bytes.newline ∉ (first :: rest).take 1 := by
    simpa using Ne.symm hfirst
  have htwo (h : rest[0]?.any (isSecond first) = true) :
      Bytes.newline ∉ (first :: rest).take 2 :=
    not_mem_take_succ hone h (isSecond_newline first)
  have hthree (h : rest[0]?.any (isSecond first) = true)
      (h' : rest[1]?.any isContinuation = true) : Bytes.newline ∉ (first :: rest).take 3 :=
    not_mem_take_succ (htwo h) h' (by decide)
  -- the cases are those of the length: one byte, or more where the next ones belong to it
  unfold invalidLength
  split
  · split
    · exact htwo (by assumption)
    · exact hone
  · split
    · split
      · split
        · exact hthree (by assumption) (by assumption)
        · exact htwo (by assumption)
      · exact hone
    · exact hone

/-- A line feed is a character, so it does not stand where none starts. -/
theorem ne_newline_of_decode_none {b : ByteArray} {i : Nat} (hi : i < b.size)
    (hnone : b.utf8DecodeChar? i = none) : b[i] ≠ Bytes.newline := by
  intro hat
  have hfirst : b.extract i b.size
      = (String.utf8EncodeChar '\n').toByteArray ++ b.extract (i + 1) b.size := by
    refine ByteArray.ext (Array.toList_inj.mp ?_)
    rw [ByteArray.toList_data_append, Bytes.toList_extract_size, Bytes.toList_extract_size,
      Bytes.drop_toList hi, hat]
    rfl
  rw [ByteArray.utf8DecodeChar?_eq_utf8DecodeChar?_extract, hfirst,
    ByteArray.utf8DecodeChar?_utf8EncodeChar_append] at hnone
  cases hnone

/-! ## 3. The lossy reading -/

/-- A character that is found stands first among the bytes, and the bytes after its own follow. -/
theorem drop_of_decode_some {b : ByteArray} {i : Nat} {c : Char}
    (h : b.utf8DecodeChar? i = some c) :
    b.data.toList.drop i
      = String.utf8EncodeChar c ++ b.data.toList.drop (i + c.utf8Size) := by
  rw [ByteArray.utf8DecodeChar?_eq_utf8DecodeChar?_extract] at h
  have hparts := congrArg (fun x => x.data.toList) (ByteArray.eq_of_utf8DecodeChar?_eq_some h)
  simp only [ByteArray.toList_data_append, Bytes.toList_extract_size, List.data_toByteArray,
    List.drop_drop] at hparts
  exact hparts

/-- **What is read from a place on is a reading of the bytes from there.** -/
theorem reading_lossyFrom (b : ByteArray) (i : Nat) (read : String) :
    ∃ cs, Reading (b.data.toList.drop i) cs ∧
      (lossyFrom b i read).toList = read.toList ++ cs := by
  fun_induction lossyFrom b i read with
  | case1 i read hi c hc ih =>
    obtain ⟨cs, hcs, hread⟩ := ih
    refine ⟨c :: cs, ?_, ?_⟩
    · rw [drop_of_decode_some hc]
      exact .char c hcs
    · rw [hread, String.toList_push, List.append_assoc]
      rfl
  | case2 i read hi hnone ih =>
    obtain ⟨cs, hcs, hread⟩ := ih
    have hlength := invalidLength_pos b[i] b[i + 1]? b[i + 2]?
    have hpiece : (b.data.toList.drop i).take (invalidLength b[i] b[i + 1]? b[i + 2]?) ≠ [] := by
      rw [ne_eq, List.take_eq_nil_iff, Bytes.drop_toList hi]
      simp [Nat.ne_of_gt hlength]
    have hline := newline_not_mem_invalid (ne_newline_of_decode_none hi hnone)
      (b.data.toList.drop (i + 1))
    rw [List.getElem?_drop, List.getElem?_drop, Bytes.getElem?_toList, Bytes.getElem?_toList,
      ← Bytes.drop_toList hi] at hline
    have hparts := List.take_append_drop (invalidLength b[i] b[i + 1]? b[i + 2]?)
      (b.data.toList.drop i)
    rw [List.drop_drop] at hparts
    refine ⟨'\uFFFD' :: cs, ?_, ?_⟩
    · rw [← hparts]
      exact .broken hpiece hline hcs
    · rw [hread, String.toList_push, List.append_assoc]
      rfl
  | case3 i read hi =>
    have hend : b.data.toList.length ≤ i := by
      rw [Bytes.length_toList]
      omega
    rw [List.drop_of_length_le hend]
    exact ⟨[], .nil, (List.append_nil _).symm⟩

/-- **The lossy reading of bytes is a reading of them.** -/
theorem reading_lossy (b : ByteArray) : Reading b.data.toList (lossy b).toList := by
  by_cases hvalid : b.IsValidUTF8
  · obtain ⟨s, rfl⟩ : ∃ s : String, b = s.toUTF8 := ⟨String.fromUTF8 b hvalid, rfl⟩
    rw [lossy_toUTF8, Bytes.toList_toUTF8]
    exact reading_utf8Encode s.toList
  · obtain ⟨cs, hcs, hread⟩ := reading_lossyFrom b 0 ""
    rw [List.drop_zero] at hcs
    rw [lossy, dif_neg hvalid, hread]
    exact hcs

/-! ## 4. What the reading tells -/

/-- **Bytes that are not UTF-8 leave a replacement character.** -/
theorem replacement_mem_lossy {b : ByteArray} (h : ¬ b.IsValidUTF8) :
    '\uFFFD' ∈ (lossy b).toList := by
  refine Classical.byContradiction fun hnone => h ?_
  have hbytes := (reading_lossy b).eq_utf8Encode hnone
  refine ⟨(lossy b).toList, ?_⟩
  rw [List.utf8Encode, ← hbytes, Bytes.toByteArray_toList]

/-- **A line is read as a line**: its line feed stays at the end, and there is no other. -/
theorem lossy_line {b : ByteArray} {front : List UInt8}
    (hb : b.data.toList = front ++ [Bytes.newline]) (hfront : Bytes.newline ∉ front) :
    ∃ text, lossy b = text ++ "\n" ∧ '\n' ∉ text.toList := by
  have hreading := reading_lossy b
  rw [hb] at hreading
  obtain ⟨text, htext⟩ :=
    List.getLast?_eq_some_iff.mp (hreading.getLast?_newline List.getLast?_concat)
  refine ⟨String.ofList text, ?_, ?_⟩
  · simp [← String.toList_inj, htext]
  · have hcount := hreading.count_newline
    rw [htext, List.count_append, List.count_append, List.count_eq_zero_of_not_mem hfront] at hcount
    rw [String.toList_ofList, ← List.count_eq_zero]
    simpa using hcount

end StoreLink.Text
