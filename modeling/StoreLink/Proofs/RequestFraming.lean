import StoreLink.RequestLine
import StoreLink.Proofs.Base64.Canonical
import StoreLink.Proofs.Bytes
import StoreLink.Proofs.Trimming

/-!
# One request to a line

No request can carry a second one: a line feed ends the line of a request and stands nowhere else in
it, whether the request came from an operator or from a command.

* `IsLine`: a text that has a word and no line end, the invariant of the text of a request;
* `isLine_textOf`, `ofText_eq_ok_iff`: both ways to build a request keep it;
* `one_request_per_line`: what follows for a request, and for the bytes of any number of them.
-/

namespace StoreLink.RequestLine

/-! ## 1. The text of a line -/

/-- No line end stands in the text. -/
def OneLine (s : String) : Prop := ∀ c ∈ s.toList, Text.isLineEnd c = false

instance (s : String) : Decidable (OneLine s) :=
  decidable_of_iff (s.toList.any Text.isLineEnd = false) (by
    simp only [OneLine, List.any_eq_false, Bool.not_eq_true])

/-- A text that makes a request: some character is not blank, and none ends a line. -/
structure IsLine (s : String) : Prop where
  word : ∃ c ∈ s.toList, Text.isBlank c = false
  oneLine : OneLine s

instance (s : String) : Decidable (IsLine s) :=
  decidable_of_iff (s.toList.any (fun c => !Text.isBlank c) = true ∧ OneLine s) (by
    rw [List.any_eq_true]
    simp only [Bool.not_eq_true']
    exact ⟨fun h => ⟨h.1, h.2⟩, fun h => ⟨h.word, h.oneLine⟩⟩)

theorem oneLine_iff {s : String} : OneLine s ↔ ∀ c ∈ s.toList, c ≠ '\n' ∧ c ≠ '\r' := by
  simp only [OneLine, Text.isLineEnd, Bool.or_eq_false_iff, beq_eq_false_iff_ne]

theorem OneLine.newline_not_mem {s : String} (h : OneLine s) : '\n' ∉ s.toList :=
  fun hmem => (oneLine_iff.mp h '\n' hmem).1 rfl

theorem OneLine.return_not_mem {s : String} (h : OneLine s) : '\r' ∉ s.toList :=
  fun hmem => (oneLine_iff.mp h '\r' hmem).2 rfl

@[simp] theorem oneLine_append {s t : String} : OneLine (s ++ t) ↔ OneLine s ∧ OneLine t := by
  simp only [OneLine, String.toList_append, List.forall_mem_append]

/-- A text without blanks is on one line. -/
theorem oneLine_of_forall {s : String} (h : ∀ c ∈ s.toList, Text.isBlank c = false) :
    OneLine s :=
  fun c hc => Text.isLineEnd_eq_false (h c hc)

theorem isLine_append {s t : String} (hs : IsLine s) (ht : OneLine t) : IsLine (s ++ t) where
  word := by
    obtain ⟨c, hc, hword⟩ := hs.word
    exact ⟨c, by simp [hc], hword⟩
  oneLine := oneLine_append.mpr ⟨hs.oneLine, ht⟩

theorem ne_empty_of_isLine {s : String} (hs : IsLine s) : s ≠ "" := by
  rintro rfl
  obtain ⟨c, hc, -⟩ := hs.word
  exact absurd hc List.not_mem_nil

/-! ## 2. The line of a text -/

/-- The line feed that ends a line is no part of its text. -/
theorem text_terminated_of_last {s : String} (hs : ∀ c ∈ s.toList.getLast?, c ≠ '\n') :
    (terminated s).text = s := by
  have htext : (terminated s).text = ((s ++ "\n").toSlice.dropEndWhile (· == '\n')).copy :=
    congrArg String.Slice.copy String.Slice.dropEndWhile_char_eq_dropEndWhile_beq
  rw [htext, ← String.toList_inj, Text.toList_dropEndWhile, String.copy_toSlice,
    String.toList_append]
  refine Text.dropEnd_append (fun c hc => beq_eq_false_iff_ne.mpr (hs c hc)) fun c hc => ?_
  rw [List.mem_singleton.mp hc]
  rfl

theorem text_terminated {s : String} (hs : OneLine s) : (terminated s).text = s :=
  text_terminated_of_last fun c hc => (oneLine_iff.mp hs c (List.mem_of_mem_getLast? hc)).1

@[simp] theorem terminated_inj {s t : String} : terminated s = terminated t ↔ s = t := by
  rw [terminated, terminated, RequestLine.mk.injEq, String.push_inj, and_iff_left rfl]

theorem bytes_terminated (s : String) :
    (terminated s).bytes = s.toUTF8 ++ [Bytes.newline].toByteArray := by
  show (s.push '\n').toByteArray = s.toByteArray ++ [Bytes.newline].toByteArray
  rw [String.toByteArray_push]
  rfl

/-- A line has a first word. -/
theorem firstWord_ne_empty {s : String} (hs : IsLine s) : Text.firstWord s ≠ "" := by
  obtain ⟨c, hc, hword⟩ := hs.word
  exact Text.firstWord_ne_empty hc hword

/-! ## 3. The two ways to build a request -/

@[simp] theorem key_ne_empty (key : Key) : key.text ≠ "" :=
  (Key.isValid_iff.mp key.valid).1

/-- No blank stands in a key. -/
theorem not_blank_key (key : Key) : ∀ c ∈ key.text.toList, Text.isBlank c = false := by
  intro c hc
  have hallows := (Key.isValid_iff.mp key.valid).2 c hc
  rw [Key.allows, Bool.not_eq_true', Bool.or_eq_false_iff] at hallows
  exact hallows.1

@[simp] theorem oneLine_key (key : Key) : OneLine key.text :=
  oneLine_of_forall (not_blank_key key)

@[simp] theorem oneLine_encode (bytes : ByteArray) : OneLine (Base64.encode bytes) :=
  oneLine_of_forall fun _ hc => (Base64.plain_of_mem_encode hc).1

theorem isLine_name (name : CommandName) : IsLine name.text := by
  cases name <;> decide

@[simp] theorem name_ne_empty (name : CommandName) : name.text ≠ "" :=
  ne_empty_of_isLine (isLine_name name)

/-- **The text of a command makes a request**, whatever its key and its value. -/
theorem isLine_textOf (command : Command) : IsLine (textOf command) := by
  have hspace : OneLine " " := by decide
  have hname (name : CommandName) : IsLine (name.text ++ " ") :=
    isLine_append (isLine_name name) hspace
  cases command with
  | get key => exact isLine_append (hname .get) (oneLine_key key)
  | set key value =>
    have hfields : OneLine (key.text ++ " " ++ Base64.encode value) := by simp [hspace]
    have hline := isLine_append (hname .set) hfields
    simpa [textOf, String.append_assoc] using hline
  | delete key => exact isLine_append (hname .delete) (oneLine_key key)
  | usage => exact isLine_name .usage
  | quit => exact isLine_name .quit

@[simp] theorem text_ofCommand (command : Command) : (ofCommand command).text = textOf command :=
  text_terminated (isLine_textOf command).oneLine

/-- What is left after trimming starts with a character that is not blank. -/
theorem isLine_trim {s : String} (hne : Text.trim s ≠ "") (hone : OneLine (Text.trim s)) :
    IsLine (Text.trim s) where
  word := by
    cases hl : (Text.trim s).toList with
    | nil => exact absurd (String.toList_inj.mp (by rw [hl]; rfl)) hne
    | cons c rest =>
      exact ⟨c, List.mem_cons_self, (Text.trimmed_trim s).first c (by rw [hl]; rfl)⟩
  oneLine := hone

/-- **A text is a request exactly when something on one line is left after trimming.** -/
theorem ofText_eq_ok_iff {s : String} {r : RequestLine} :
    ofText s = .ok r ↔
      Text.trim s ≠ "" ∧ OneLine (Text.trim s) ∧ r = terminated (Text.trim s) := by
  have hany : (Text.trim s).any Text.isLineEnd = (Text.trim s).toList.any Text.isLineEnd :=
    String.contains_bool_eq
  have hone : (Text.trim s).any Text.isLineEnd = false ↔ OneLine (Text.trim s) := by
    rw [hany, List.any_eq_false]
    simp only [OneLine, Bool.not_eq_true]
  unfold ofText
  by_cases hempty : (Text.trim s).isEmpty = true
  · rw [if_pos hempty]
    constructor
    · intro h
      cases h
    · intro h
      obtain ⟨hne, -, -⟩ := h
      exact absurd (String.isEmpty_iff.mp hempty) hne
  · rw [if_neg hempty]
    have hne : Text.trim s ≠ "" := fun h => hempty (String.isEmpty_iff.mpr h)
    cases hends : (Text.trim s).any Text.isLineEnd with
    | true =>
      rw [if_pos rfl]
      constructor
      · intro h
        cases h
      · intro h
        obtain ⟨-, hline, -⟩ := h
        rw [hone.mpr hline] at hends
        cases hends
    | false =>
      rw [if_neg Bool.false_ne_true]
      constructor
      · intro h
        cases h
        exact ⟨hne, hone.mp hends, rfl⟩
      · intro h
        obtain ⟨-, -, rfl⟩ := h
        rfl

/-- The requests that can be built. -/
inductive Built : RequestLine → Prop where
  | ofText {s : String} {r : RequestLine} (h : RequestLine.ofText s = .ok r) : Built r
  | ofCommand (command : Command) : Built (RequestLine.ofCommand command)

/-- **A request is the line of a text that makes a request.** -/
theorem exists_isLine {r : RequestLine} (hr : Built r) : ∃ s, IsLine s ∧ r = terminated s := by
  cases hr with
  | ofText h =>
    obtain ⟨hne, hone, rfl⟩ := ofText_eq_ok_iff.mp h
    exact ⟨_, isLine_trim hne hone, rfl⟩
  | ofCommand command => exact ⟨_, isLine_textOf command, rfl⟩

/-! ## 4. Many requests -/

/-- **Lines are told apart by the line feeds at their ends.** -/
theorem splitOn_lines : ∀ {lines : List String}, (∀ s ∈ lines, OneLine s) →
    (lines.flatMap fun s => (terminated s).bytes.data.toList).splitOn Bytes.newline
      = lines.map (fun s => s.toUTF8.data.toList) ++ [[]]
  | [], _ => rfl
  | s :: rest, h => by
    have hnone : Bytes.newline ∉ s.toUTF8.data.toList := by
      rw [Bytes.newline_mem_toUTF8]
      exact (h s List.mem_cons_self).newline_not_mem
    have hfirst : (terminated s).bytes.data.toList = s.toUTF8.data.toList ++ [Bytes.newline] := by
      simp [bytes_terminated]
    rw [List.flatMap_cons, hfirst, List.append_assoc, List.singleton_append,
      List.splitOn_append_cons_self_of_not_mem hnone,
      splitOn_lines fun t ht => h t (List.mem_cons_of_mem s ht)]
    rfl

theorem terminated_text {r : RequestLine} (hr : Built r) : terminated r.text = r := by
  obtain ⟨s, hs, rfl⟩ := exists_isLine hr
  rw [text_terminated hs.oneLine]

theorem isLine_text {r : RequestLine} (hr : Built r) : IsLine r.text := by
  obtain ⟨s, hs, rfl⟩ := exists_isLine hr
  rw [text_terminated hs.oneLine]
  exact hs

/-- The bytes of requests in a row are those of the lines of their texts. -/
theorem flatMap_bytes : ∀ {rs : List RequestLine}, (∀ r ∈ rs, Built r) →
    (rs.flatMap fun r => r.bytes.data.toList)
      = (rs.map text).flatMap fun s => (terminated s).bytes.data.toList
  | [], _ => rfl
  | r :: rest, h => by
    rw [List.flatMap_cons, List.map_cons, List.flatMap_cons,
      terminated_text (h r List.mem_cons_self),
      flatMap_bytes fun t ht => h t (List.mem_cons_of_mem r ht)]

/-- **No request carries a second one.** A request is its text and the line feed after it; the text
    has a first word, and no line end stands in it. So the bytes of any requests in a row, cut at
    the line feeds, are their texts again, with nothing after the last line feed. A text that an
    operator typed is a request exactly when something on one line is left after trimming, and this
    is its text. -/
theorem one_request_per_line :
    (∀ r, Built r →
      r.bytes = r.text.toUTF8 ++ [Bytes.newline].toByteArray ∧ r.text ≠ "" ∧
      (∀ c ∈ r.text.toList, c ≠ '\n' ∧ c ≠ '\r') ∧ r.firstWord ≠ "") ∧
    (∀ rs : List RequestLine, (∀ r ∈ rs, Built r) →
      (rs.flatMap fun r => r.bytes.data.toList).splitOn Bytes.newline
        = rs.map (fun r => r.text.toUTF8.data.toList) ++ [[]]) ∧
    (∀ s, ((∃ r, ofText s = .ok r) ↔
        Text.trim s ≠ "" ∧ ∀ c ∈ (Text.trim s).toList, c ≠ '\n' ∧ c ≠ '\r') ∧
      ∀ r, ofText s = .ok r → r.text = Text.trim s) := by
  refine ⟨fun r hr => ?_, fun rs hrs => ?_, fun s => ⟨?_, fun r hr => ?_⟩⟩
  · have htext := isLine_text hr
    refine ⟨?_, ne_empty_of_isLine htext, oneLine_iff.mp htext.oneLine, firstWord_ne_empty htext⟩
    rw [← bytes_terminated, terminated_text hr]
  · have hlines : ∀ s ∈ rs.map text, OneLine s := by
      intro s hs
      obtain ⟨r, hr, rfl⟩ := List.mem_map.mp hs
      exact (isLine_text (hrs r hr)).oneLine
    rw [flatMap_bytes hrs, splitOn_lines hlines, List.map_map]
    rfl
  · rw [← oneLine_iff]
    constructor
    · intro h
      obtain ⟨r, hr⟩ := h
      obtain ⟨hne, hone, -⟩ := ofText_eq_ok_iff.mp hr
      exact ⟨hne, hone⟩
    · intro h
      obtain ⟨hne, hone⟩ := h
      exact ⟨_, ofText_eq_ok_iff.mpr ⟨hne, hone, rfl⟩⟩
  · obtain ⟨-, hone, rfl⟩ := ofText_eq_ok_iff.mp hr
    exact text_terminated hone

theorem isValid_k : Key.isValid "k" = true :=
  Key.isValid_iff.mpr ⟨by decide, List.all_eq_true.mp (by decide)⟩

/-- The request to store a line feed. -/
def lineFeedStored : RequestLine :=
  ofCommand (.set ⟨"k", isValid_k⟩ "\n".toUTF8)

theorem text_lineFeedStored : lineFeedStored.text = "SET k Cg==" := by
  have hvalue : Base64.encode "\n".toUTF8 = "Cg==" := by
    rw [← String.toList_inj, Base64.toList_encode]
    decide
  rw [lineFeedStored, text_ofCommand, textOf, hvalue]
  rfl

/-- A typed line with blanks around it, then a value that is a line feed; a second line that was
    typed with the first is refused. -/
theorem one_request_per_line_typed_and_set :
    ofText "\t GET  a\r\n" = .ok (terminated "GET  a") ∧
    (terminated "GET  a").firstWord ≠ "" ∧
    ([terminated "GET  a", lineFeedStored].flatMap
        fun r => r.bytes.data.toList).splitOn Bytes.newline
      = ["GET  a".toUTF8.data.toList, "SET k Cg==".toUTF8.data.toList, []] ∧
    ¬ ∃ r, ofText "GET a\nDELETE a" = .ok r := by
  obtain ⟨hline, hmany, htyped⟩ := one_request_per_line
  have htrim : Text.trim "\t GET  a\r\n" = "GET  a" := by
    rw [← String.toList_inj, Text.toList_trim]
    decide
  have hone : OneLine "GET  a" := by decide
  have hget : ofText "\t GET  a\r\n" = .ok (terminated "GET  a") := by
    rw [ofText_eq_ok_iff, htrim]
    exact ⟨by decide, hone, rfl⟩
  refine ⟨hget, (hline _ (.ofText hget)).2.2.2, ?_, ?_⟩
  · rw [hmany _ fun r hr => ?_]
    · rw [List.map_cons, List.map_cons, List.map_nil, text_terminated hone, text_lineFeedStored,
        List.cons_append, List.cons_append, List.nil_append]
    · rcases List.mem_cons.mp hr with rfl | hr
      · exact .ofText hget
      · rw [List.mem_singleton.mp hr]
        exact .ofCommand _
  · rw [(htyped "GET a\nDELETE a").1]
    intro h
    obtain ⟨-, hplain⟩ := h
    have htwo : Text.trim "GET a\nDELETE a" = "GET a\nDELETE a" :=
      Text.trim_of_trimmed (by decide)
    rw [htwo] at hplain
    exact (hplain '\n' (by decide)).1 rfl

end StoreLink.RequestLine
