import StoreLink.Session.Input
import StoreLink.Proofs.ReplyFraming

/-!
# The lines of an input

However an input is cut into reads, its lines are those of the bytes that arrive.

* `wholeLines` are the lines of some bytes and of the failure after them, with nothing said about
  reads; `wholeLines_cons` and `wholeLines_unended` are its two equations;
* `cutFrom_wholeLines`: cutting a chunk takes lines off the front, whatever follows the chunk;
* **`lines_eq_wholeLines`**: the lines of an input are those of the bytes that arrive;
  `lines_eq_of_ended` says it of whole lines, when reads may bring nothing;
* `newline_not_mem_wholeLines`, `newline_not_mem_lines`: no line feed stands in a line.
-/

namespace StoreLink.Input

/-! ## 1. The lines of some bytes -/

/-- A line without the carriage return at its end. -/
def withoutReturn (line : List UInt8) : List UInt8 :=
  if line.getLast? = some carriageReturn then line.dropLast else line

/-- What a line that was begun comes to when a failure, or the end of the input, follows it. -/
def unendedLine (begun : List UInt8) : Option IoError → List Line
  | some e => [.failed e]
  | none => if begun = [] then [] else [.text begun.toByteArray]

/-- The lines of some bytes, and of the failure after them: a line is a piece that a line feed ends,
    and what follows the last line feed is a line only if the input ends there by itself. -/
def wholeLines (bytes : List UInt8) (breakdown : Option IoError) : List Line :=
  let pieces := bytes.splitOn Bytes.newline
  pieces.dropLast.map (fun piece => .text (withoutReturn piece).toByteArray)
    ++ unendedLine (pieces.getLast (List.splitOn_ne_nil _ _)) breakdown

theorem wholeLines_unended {begun : List UInt8} (h : Bytes.newline ∉ begun)
    (breakdown : Option IoError) : wholeLines begun breakdown = unendedLine begun breakdown := by
  simp only [wholeLines, List.splitOn_eq_singleton h, List.dropLast_singleton, List.map_nil,
    List.nil_append, List.getLast_singleton]

/-- **The first line feed ends the first line.** -/
theorem wholeLines_cons {front : List UInt8} (h : Bytes.newline ∉ front) (rest : List UInt8)
    (breakdown : Option IoError) :
    wholeLines (front ++ Bytes.newline :: rest) breakdown
      = .text (withoutReturn front).toByteArray :: wholeLines rest breakdown := by
  have hne : rest.splitOn Bytes.newline ≠ [] := List.splitOn_ne_nil _ _
  simp only [wholeLines, List.splitOn_append_cons_self_of_not_mem h,
    List.dropLast_cons_of_ne_nil hne, List.map_cons, List.getLast_cons hne, List.cons_append]

theorem mem_of_mem_withoutReturn {x : UInt8} {line : List UInt8} (h : x ∈ withoutReturn line) :
    x ∈ line := by
  unfold withoutReturn at h
  split at h
  · exact (List.dropLast_sublist line).subset h
  · exact h

theorem mem_unendedLine {begun : List UInt8} {breakdown : Option IoError} {bytes : ByteArray}
    (h : Line.text bytes ∈ unendedLine begun breakdown) : bytes.data.toList = begun := by
  cases breakdown with
  | some e =>
    rw [unendedLine, List.mem_singleton] at h
    cases h
  | none =>
    rw [unendedLine] at h
    split at h
    · exact absurd h List.not_mem_nil
    · rw [List.mem_singleton] at h
      cases h
      rw [List.data_toByteArray]

/-- **No line feed stands in a line.** -/
theorem newline_not_mem_wholeLines {bytes : List UInt8} {breakdown : Option IoError}
    {line : ByteArray} (h : Line.text line ∈ wholeLines bytes breakdown) :
    Bytes.newline ∉ line.data.toList := by
  induction hn : bytes.length using Nat.strongRecOn generalizing bytes with
  | ind n ih =>
    by_cases hmem : Bytes.newline ∈ bytes
    · obtain ⟨front, rest, rfl, hfront⟩ := List.eq_append_cons_of_mem hmem
      rw [wholeLines_cons hfront, List.mem_cons] at h
      rcases h with h | h
      · cases h
        rw [List.data_toByteArray]
        exact fun hline => hfront (mem_of_mem_withoutReturn hline)
      · rw [List.length_append, List.length_cons] at hn
        exact ih rest.length (by omega) h rfl
    · rw [wholeLines_unended hmem] at h
      rw [mem_unendedLine h]
      exact hmem

/-! ## 2. Chunks -/

theorem toList_dropReturn (bytes : ByteArray) :
    (dropReturn bytes).data.toList = withoutReturn bytes.data.toList := by
  rw [dropReturn, withoutReturn, List.getLast?_eq_getElem?, Bytes.getElem?_toList,
    Bytes.length_toList]
  split
  · rw [Bytes.toList_extract, List.drop_zero, Nat.sub_zero, List.dropLast_eq_take,
      Bytes.length_toList]
  · rfl

theorem dropReturn_eq (bytes : ByteArray) :
    dropReturn bytes = (withoutReturn bytes.data.toList).toByteArray := by
  rw [← toList_dropReturn, Bytes.toByteArray_toList]

/-- The line that a cut leaves begun is not ended. -/
theorem newline_not_mem_cutFrom (chunk : ByteArray) (i : Nat) (begun : ByteArray)
    (lines : Array Line) (hbegun : Bytes.newline ∉ begun.data.toList) :
    Bytes.newline ∉ (cutFrom chunk i begun lines).begun.data.toList := by
  fun_induction cutFrom chunk i begun lines with
  | case1 i begun lines j hj ih => exact ih List.not_mem_nil
  | case2 i begun lines hnone =>
    have hleft := Bytes.newline_not_mem_of_none hnone
    simp [hbegun, hleft]

/-- **Cutting a chunk takes lines off the front of the whole**, whatever follows the chunk. -/
theorem cutFrom_wholeLines (chunk : ByteArray) (i : Nat) (begun : ByteArray) (lines : Array Line)
    (hbegun : Bytes.newline ∉ begun.data.toList) (rest : List UInt8) (breakdown : Option IoError) :
    (cutFrom chunk i begun lines).lines.toList
        ++ wholeLines ((cutFrom chunk i begun lines).begun.data.toList ++ rest) breakdown
      = lines.toList
        ++ wholeLines (begun.data.toList ++ (chunk.data.toList.drop i ++ rest)) breakdown := by
  fun_induction cutFrom chunk i begun lines with
  | case1 i begun lines j hj ih =>
    obtain ⟨hpiece, hdrop⟩ := Bytes.newlineFrom?_split hj
    have hfront : Bytes.newline ∉ (begun ++ chunk.extract i j).data.toList := by
      rw [ByteArray.toList_data_append, List.mem_append]
      exact not_or.mpr ⟨hbegun, hpiece⟩
    have hwhole : begun.data.toList ++ (chunk.data.toList.drop i ++ rest)
        = (begun ++ chunk.extract i j).data.toList
          ++ Bytes.newline :: (chunk.data.toList.drop (j + 1) ++ rest) := by
      rw [hdrop]
      simp
    rw [ih List.not_mem_nil, hwhole, wholeLines_cons hfront, dropReturn_eq, Array.toList_push,
      List.append_assoc]
    rfl
  | case2 i begun lines hnone => simp

/-- The bytes are whole lines: there are none, or a line feed comes last. -/
def Ended (bytes : List UInt8) : Prop :=
  ∀ x ∈ bytes.getLast?, x = Bytes.newline

theorem ended_of_append {front back : List UInt8} (h : Ended (front ++ back)) : Ended back := by
  intro x hx
  refine h x ?_
  rw [List.getLast?_append, hx]
  rfl

/-- Whole lines are none when no line feed stands in them. -/
theorem eq_nil_of_ended {bytes : List UInt8} (h : Ended bytes) (hnone : Bytes.newline ∉ bytes) :
    bytes = [] := by
  cases hlast : bytes.getLast? with
  | none => exact List.getLast?_eq_none_iff.mp hlast
  | some x => exact absurd (h x hlast ▸ List.mem_of_mem_getLast? hlast) hnone

/-- When whole lines are cut off the front of whole lines, whole lines are left. -/
theorem ended_cutFrom (chunk : ByteArray) (i : Nat) (begun : ByteArray) (lines : Array Line)
    {rest : List UInt8}
    (hended : Ended (begun.data.toList ++ (chunk.data.toList.drop i ++ rest))) :
    Ended ((cutFrom chunk i begun lines).begun.data.toList ++ rest) := by
  fun_induction cutFrom chunk i begun lines with
  | case1 i begun lines j hj ih =>
    obtain ⟨-, hdrop⟩ := Bytes.newlineFrom?_split hj
    rw [hdrop, List.append_assoc, List.cons_append] at hended
    have hlater := ended_of_append (ended_of_append hended)
    rw [← List.singleton_append] at hlater
    exact ih (ended_of_append hlater)
  | case2 i begun lines hnone =>
    simpa using hended

/-! ## 3. The whole input -/

/-- **The lines from here on are those of the line begun before and of the bytes that arrive**, if
    no read brings nothing, or if the bytes are whole lines. -/
theorem linesFrom_eq_wholeLines : ∀ (reads : List ReadItem) (begun : ByteArray),
    ((∀ bytes, ReadItem.chunk bytes ∈ reads → bytes.isEmpty = false) ∨
      Ended (begun.data.toList ++ (Stream.arriving reads).data.toList)) →
    Bytes.newline ∉ begun.data.toList →
      linesFrom begun reads
        = wholeLines (begun.data.toList ++ (Stream.arriving reads).data.toList)
            (Stream.breakdown? reads)
  | [], begun, _, hbegun => by
    show (if begun.isEmpty then [] else [.text begun]) = wholeLines (begun.data.toList ++ []) none
    rw [List.append_nil, wholeLines_unended hbegun, unendedLine, Bytes.toByteArray_toList]
    simp only [Bytes.toList_eq_nil_iff]
  | .failure e :: rest, begun, hreads, hbegun => by
    rw [Stream.arriving] at hreads
    rw [linesFrom, Stream.arriving, Stream.breakdown?]
    cases hinterrupted : e.isInterrupted with
    | true =>
      rw [hinterrupted, if_pos rfl] at hreads
      have hrest := hreads.imp_left fun hchunks bytes (h : .chunk bytes ∈ rest) =>
        hchunks bytes (List.mem_cons_of_mem _ h)
      exact linesFrom_eq_wholeLines rest begun hrest hbegun
    | false =>
      show [Line.failed e] = wholeLines (begun.data.toList ++ []) (some e)
      rw [List.append_nil, wholeLines_unended hbegun, unendedLine]
  | .chunk bytes :: rest, begun, hreads, hbegun => by
    rw [Stream.arriving] at hreads
    rw [linesFrom, Stream.arriving, Stream.breakdown?]
    cases hempty : bytes.isEmpty with
    | true =>
      -- whole lines have come before a read that brings nothing, so no line was begun
      rw [hempty, if_pos rfl] at hreads
      have hended : Ended (begun.data.toList ++ []) :=
        hreads.resolve_left fun hchunks => by
          rw [hchunks bytes List.mem_cons_self] at hempty
          cases hempty
      rw [List.append_nil] at hended
      have hnil := eq_nil_of_ended hended hbegun
      have hnone : begun.isEmpty = true := Bytes.toList_eq_nil_iff.mp hnil
      show (if begun.isEmpty then [] else .text begun :: linesFrom .empty rest)
        = wholeLines (begun.data.toList ++ []) none
      rw [if_pos hnone, hnil]
      rfl
    | false =>
      rw [hempty, if_neg Bool.false_ne_true] at hreads
      have hlater : (∀ b, ReadItem.chunk b ∈ rest → b.isEmpty = false) ∨
          Ended ((cutFrom bytes 0 begun #[]).begun.data.toList
            ++ (Stream.arriving rest).data.toList) := by
        refine hreads.imp (fun hchunks b h => hchunks b (List.mem_cons_of_mem _ h)) ?_
        intro hended
        exact ended_cutFrom bytes 0 begun #[] (by simpa using hended)
      have hrest := linesFrom_eq_wholeLines rest _ hlater
        (newline_not_mem_cutFrom bytes 0 begun #[] hbegun)
      have hcut := cutFrom_wholeLines bytes 0 begun #[] hbegun (Stream.arriving rest).data.toList
        (Stream.breakdown? rest)
      rw [← hrest] at hcut
      rw [if_neg Bool.false_ne_true, if_neg Bool.false_ne_true, if_neg Bool.false_ne_true]
      simpa [cut] using hcut

/-- **The lines of an input are those of the bytes that arrive**, however they arrive. -/
theorem lines_eq_wholeLines {reads : List ReadItem}
    (hchunks : ∀ bytes, ReadItem.chunk bytes ∈ reads → bytes.isEmpty = false) :
    lines reads = wholeLines (Stream.arriving reads).data.toList (Stream.breakdown? reads) :=
  linesFrom_eq_wholeLines reads .empty (.inl hchunks) List.not_mem_nil

/-- And so they are, with reads that bring nothing, when whole lines arrive. -/
theorem lines_eq_of_ended {reads : List ReadItem}
    (hended : Ended (Stream.arriving reads).data.toList) :
    lines reads = wholeLines (Stream.arriving reads).data.toList (Stream.breakdown? reads) :=
  linesFrom_eq_wholeLines reads .empty (.inr hended) List.not_mem_nil

/-! ## 4. Reads that bring nothing -/

/-- The lines that a cut takes off are lines of the whole. -/
theorem newline_not_mem_cut {chunk begun line : ByteArray}
    (hbegun : Bytes.newline ∉ begun.data.toList)
    (h : Line.text line ∈ (cut begun chunk).lines.toList) : Bytes.newline ∉ line.data.toList := by
  have hcut := cutFrom_wholeLines chunk 0 begun #[] hbegun [] none
  have hmem := List.mem_append_left (wholeLines
    ((cutFrom chunk 0 begun #[]).begun.data.toList ++ []) none) h
  rw [cut, hcut] at hmem
  exact newline_not_mem_wholeLines hmem

theorem newline_not_mem_linesFrom {line : ByteArray} : ∀ (reads : List ReadItem)
    {begun : ByteArray}, Bytes.newline ∉ begun.data.toList →
      Line.text line ∈ linesFrom begun reads → Bytes.newline ∉ line.data.toList
  | [], begun, hbegun, h => by
    rw [linesFrom] at h
    split at h
    · exact absurd h List.not_mem_nil
    · cases List.mem_singleton.mp h
      exact hbegun
  | .failure e :: rest, begun, hbegun, h => by
    rw [linesFrom] at h
    split at h
    · exact newline_not_mem_linesFrom rest hbegun h
    · cases List.mem_singleton.mp h
  | .chunk bytes :: rest, begun, hbegun, h => by
    rw [linesFrom] at h
    split at h
    · split at h
      · exact absurd h List.not_mem_nil
      · rcases List.mem_cons.mp h with hhere | hlater
        · cases hhere
          exact hbegun
        · exact newline_not_mem_linesFrom rest List.not_mem_nil hlater
    · rcases List.mem_append.mp h with hhere | hlater
      · exact newline_not_mem_cut hbegun hhere
      · exact newline_not_mem_linesFrom rest
          (newline_not_mem_cutFrom bytes 0 begun #[] hbegun) hlater

/-- **No line feed stands in a line of an input**, also when reads bring nothing. -/
theorem newline_not_mem_lines {reads : List ReadItem} {line : ByteArray}
    (h : Line.text line ∈ lines reads) : Bytes.newline ∉ line.data.toList :=
  newline_not_mem_linesFrom reads List.not_mem_nil h

end StoreLink.Input
