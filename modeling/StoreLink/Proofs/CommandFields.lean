import StoreLink.Reply
import StoreLink.Proofs.RequestFraming

/-!
# Commands read back from their lines

The line of a command can be taken apart again: between its spaces stand the name of the command and
its arguments, and two commands have never the same line.

* `partsAt` cuts a text at a class of characters; `partsAt_intercalate`: parts without characters of
  the class come back from the text that they make;
* `pieces` and `words`: what stands between the spaces of a text, and its runs of characters that
  are not blank;
* `Spells`: the fields as which a command is spelled, and `Spells.unique`;
* `commands_read_back`: the pieces of the line of a command spell it, and no other.
-/

namespace StoreLink.RequestLine

/-! ## 1. Cutting a text -/

/-- The parts of a text between the characters of a class, empty parts included. -/
def partsAt (p : Char → Bool) (s : String) : List String :=
  (s.toList.splitOnP p).map String.ofList

/-- The parts of a text between its spaces. -/
def pieces (s : String) : List String :=
  partsAt (· == ' ') s

/-- The runs of characters that are not blank. -/
def words (s : String) : List String :=
  (partsAt Text.isBlank s).filter (· != "")

section Cutting

variable {p : Char → Bool}

/-- A text without characters of the class is one part. -/
theorem partsAt_plain {s : String} (hs : ∀ c ∈ s.toList, p c = false) : partsAt p s = [s] := by
  simp [partsAt, List.splitOnP_eq_singleton hs]

/-- A part and the character of the class behind it are cut off. -/
theorem partsAt_append {part : String} (hpart : ∀ c ∈ part.toList, p c = false)
    (hspace : p ' ' = true) (rest : String) :
    partsAt p (part ++ " " ++ rest) = part :: partsAt p rest := by
  rw [partsAt, Text.toList_append_space,
    List.splitOnP_append_cons_of_forall_mem hpart ' ' hspace]
  simp [partsAt]

/-- **Parts come back from the text that they make with spaces between them**, when the class holds
    the space and no character of theirs. -/
theorem partsAt_intercalate (hspace : p ' ' = true) : ∀ {parts : List String}, parts ≠ [] →
    (∀ part ∈ parts, ∀ c ∈ part.toList, p c = false) →
      partsAt p (" ".intercalate parts) = parts
  | [], hne, _ => absurd rfl hne
  | [part], _, hparts => by
    rw [String.intercalate_singleton]
    exact partsAt_plain (hparts part (.head _))
  | part :: next :: rest, _, hparts => by
    rw [String.intercalate_cons_cons, partsAt_append (hparts part (.head _)) hspace,
      partsAt_intercalate hspace (List.cons_ne_nil next rest) fun q hq => hparts q (.tail _ hq)]

end Cutting

/-! ## 2. The fields of a command -/

/-- The name of a command and its arguments, a value in base64. -/
def fieldsOf : Command → List String
  | .get key => [CommandName.get.text, key.text]
  | .set key value => [CommandName.set.text, key.text, Base64.encode value]
  | .delete key => [CommandName.delete.text, key.text]
  | .usage => [CommandName.usage.text]
  | .quit => [CommandName.quit.text]

theorem textOf_eq (command : Command) : textOf command = " ".intercalate (fieldsOf command) := by
  cases command <;> simp [fieldsOf, textOf, String.append_assoc]

theorem fieldsOf_ne_nil (command : Command) : fieldsOf command ≠ [] := by
  cases command <;> exact List.cons_ne_nil _ _

theorem not_blank_name (name : CommandName) : ∀ c ∈ name.text.toList, Text.isBlank c = false := by
  have hall : name.text.toList.all (fun c => Text.isBlank c == false) = true := by
    cases name <;> decide
  intro c hc
  exact beq_iff_eq.mp (List.all_eq_true.mp hall c hc)

/-- **No field of a command has a blank in it**, whatever its key and its value. -/
theorem not_blank_field (command : Command) :
    ∀ field ∈ fieldsOf command, ∀ c ∈ field.toList, Text.isBlank c = false := by
  have hvalue : ∀ value, ∀ c ∈ (Base64.encode value).toList, Text.isBlank c = false :=
    fun _ _ hc => (Base64.plain_of_mem_encode hc).1
  have hnone : ∀ field ∈ ([] : List String), ∀ c ∈ field.toList, Text.isBlank c = false :=
    List.forall_mem_nil _
  cases command with
  | get key =>
    exact List.forall_mem_cons.mpr ⟨not_blank_name .get,
      List.forall_mem_cons.mpr ⟨not_blank_key key, hnone⟩⟩
  | set key value =>
    exact List.forall_mem_cons.mpr ⟨not_blank_name .set, List.forall_mem_cons.mpr
      ⟨not_blank_key key, List.forall_mem_cons.mpr ⟨hvalue value, hnone⟩⟩⟩
  | delete key =>
    exact List.forall_mem_cons.mpr ⟨not_blank_name .delete,
      List.forall_mem_cons.mpr ⟨not_blank_key key, hnone⟩⟩
  | usage => exact List.forall_mem_cons.mpr ⟨not_blank_name .usage, hnone⟩
  | quit => exact List.forall_mem_cons.mpr ⟨not_blank_name .quit, hnone⟩

@[simp] theorem pieces_textOf (command : Command) : pieces (textOf command) = fieldsOf command := by
  rw [textOf_eq]
  refine partsAt_intercalate rfl (fieldsOf_ne_nil command) fun field hfield c hc => ?_
  rw [beq_eq_false_iff_ne]
  rintro rfl
  exact absurd (not_blank_field command field hfield ' ' hc) (by decide)

@[simp] theorem words_textOf (command : Command) :
    words (textOf command) = (fieldsOf command).filter (· != "") := by
  rw [textOf_eq, words, partsAt_intercalate rfl (fieldsOf_ne_nil command) (not_blank_field command)]

/-! ## 3. What the fields say -/

/-- The fields as which a command is spelled: its name, its key, and a payload that is read as its
    value. -/
inductive Spells : Command → List String → Prop where
  | get (key : Key) : Spells (.get key) ["GET", key.text]
  | set (key : Key) {value : ByteArray} {payload : String} (h : decodeValue payload = .ok value) :
      Spells (.set key value) ["SET", key.text, payload]
  | delete (key : Key) : Spells (.delete key) ["DELETE", key.text]
  | usage : Spells .usage ["USAGE"]
  | quit : Spells .quit ["QUIT"]

theorem spells_fieldsOf (command : Command) : Spells command (fieldsOf command) := by
  cases command with
  | get key => exact .get key
  | set key value =>
    have hread : decodeValue (Base64.encode value) = .ok value := by
      rw [decodeValue, Base64.decode_eq_ok_iff.mpr rfl]
    exact .set key hread
  | delete key => exact .delete key
  | usage => exact .usage
  | quit => exact .quit

/-- **Fields spell one command.** -/
theorem Spells.unique {command command' : Command} {fields fields' : List String}
    (h : Spells command fields) (h' : Spells command' fields') (heq : fields = fields') :
    command = command' := by
  cases h with
  | get key =>
    cases h' with
    | get key' => simpa using heq
    | _ => simp at heq
  | set key hread =>
    cases h' with
    | set key' hread' =>
      obtain ⟨rfl, rfl⟩ : key = key' ∧ _ = _ := by simpa using heq
      rw [hread'] at hread
      cases hread
      rfl
    | _ => simp at heq
  | delete key =>
    cases h' with
    | delete key' => simpa using heq
    | _ => simp at heq
  | usage =>
    cases h' with
    | usage => rfl
    | _ => simp at heq
  | quit =>
    cases h' with
    | quit => rfl
    | _ => simp at heq

/-! ## 4. The words of a line -/

/-- The line of a command is its name, and what a space divides from it. -/
theorem exists_textOf (command : Command) :
    ∃ back, textOf command = command.name.text ++ back ∧
      ∀ c ∈ back.toList.head?, Text.isBlank c = true := by
  have hhead : ∀ rest : String, ∀ c ∈ (" " ++ rest).toList.head?, Text.isBlank c = true := by
    intro rest c hc
    have hblank : ' ' = c := by simpa using hc
    rw [← hblank]
    decide
  have hnone : ∀ c ∈ "".toList.head?, Text.isBlank c = true := nofun
  cases command with
  | get key => exact ⟨" " ++ key.text, String.append_assoc, hhead _⟩
  | set key value =>
    refine ⟨" " ++ (key.text ++ " " ++ Base64.encode value), ?_, hhead _⟩
    simp only [textOf, Command.name, String.append_assoc]
  | delete key => exact ⟨" " ++ key.text, String.append_assoc, hhead _⟩
  | usage => exact ⟨"", String.append_empty.symm, hnone⟩
  | quit => exact ⟨"", String.append_empty.symm, hnone⟩

/-- **The first word of the line of a command is its name.** -/
theorem firstWord_ofCommand (command : Command) :
    (ofCommand command).firstWord = command.name.text := by
  obtain ⟨back, htext, hback⟩ := exists_textOf command
  rw [firstWord, text_ofCommand, htext]
  refine Text.firstWord_eq ⟨name_ne_empty _, not_blank_name _, "", back,
    fun c hc => absurd hc List.not_mem_nil, hback, ?_⟩
  rw [String.empty_append]

/-- **Only an empty value is a piece of a line and no word of it.** -/
theorem words_eq_pieces_iff (command : Command) :
    words (textOf command) = pieces (textOf command) ↔ ∀ key, command ≠ .set key .empty := by
  rw [words_textOf, pieces_textOf, List.filter_eq_self]
  cases command <;> simp [fieldsOf]

/-- **The line of a command can be read back.** Cut at its spaces, it is the fields as which the
    command is spelled: its name, its key where it has one, and for a value a payload that is read
    as it, empty for no bytes. The name comes first, also as a word. No other command has the same
    line. And the pieces between the spaces are the words of the line, but for a value of no
    bytes. -/
theorem commands_read_back :
    (∀ command, Spells command (pieces (ofCommand command).text) ∧
      (pieces (ofCommand command).text).head? = some command.name.text ∧
      (ofCommand command).firstWord = command.name.text ∧
      (words (ofCommand command).text = pieces (ofCommand command).text ↔
        ∀ key, command ≠ .set key .empty)) ∧
    Function.Injective fun command => (ofCommand command).text := by
  refine ⟨fun command => ⟨?_, ?_, firstWord_ofCommand command, ?_⟩, fun command command' h => ?_⟩
  · rw [text_ofCommand, pieces_textOf]
    exact spells_fieldsOf command
  · rw [text_ofCommand, pieces_textOf]
    cases command <;> rfl
  · rw [text_ofCommand]
    exact words_eq_pieces_iff command
  · have htext : textOf command = textOf command' := by
      rw [← text_ofCommand, ← text_ofCommand]
      exact h
    have hfields : fieldsOf command = fieldsOf command' := by
      rw [← pieces_textOf, ← pieces_textOf, htext]
    exact (spells_fieldsOf command).unique (spells_fieldsOf command') hfields

example : pieces "SET k " = ["SET", "k", ""] ∧ words "SET k " = ["SET", "k"] := by decide

end StoreLink.RequestLine
