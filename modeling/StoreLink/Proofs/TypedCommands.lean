import StoreLink.Proofs.CommandFields
import StoreLink.Proofs.SessionDeeds

/-!
# Commands that are typed

The line of a command can also be typed. What a session then sends is the request for the command,
but that an empty value loses the space before it, and that a session does not send `QUIT`.

* `RequestLine.trimmed_textOf_iff`: the line of a command has no blanks around it, unless it ends in
  an empty value;
* `RequestLine.ofText_ofCommand_iff`: so it makes this request again, and `RequestLine.ofText_text`
  says the same of any request that was typed;
* `Silent`: a part of a session that sends nothing, such as showing an answer (`silent_present`);
* `lines_ofCommand`, `wish_textOf`: the bytes of a request are one line, and what it asks for;
* **`typed_commands_sent_alike`**: a session that is given the line of a command.
-/

namespace StoreLink

/-! ## 1. The line of a command as a text -/

namespace RequestLine

/-- What starts with the name of a command does not start with a blank. -/
theorem first_name_append (name : CommandName) (back : String) :
    ∀ c ∈ (name.text ++ back).toList.head?, Text.isBlank c = false := by
  intro c hc
  rw [String.toList_append] at hc
  cases name <;> cases hc <;> rfl

/-- Between the name of a command and its last field may stand anything. -/
theorem trimmed_append_field {name : CommandName} {field : String} (middle : String)
    (hne : field ≠ "") (hfield : ∀ c ∈ field.toList, Text.isBlank c = false) :
    Text.Trimmed (name.text ++ middle ++ field) := by
  have hfront : name.text ++ middle ≠ "" := by simp
  rw [Text.trimmed_append_iff hfront hne]
  exact ⟨first_name_append name middle, fun c hc => hfield c (List.mem_of_mem_getLast? hc)⟩

/-- With an empty value, the line ends in the space before it. -/
theorem textOf_set_empty (key : Key) :
    textOf (.set key .empty) = CommandName.set.text ++ " " ++ key.text ++ " " := by
  simp [textOf]

/-- And without the space it has no blanks around it. -/
theorem trim_textOf_set_empty (key : Key) :
    Text.trim (textOf (.set key .empty)) = CommandName.set.text ++ " " ++ key.text := by
  have hfield : Text.Trimmed (CommandName.set.text ++ " " ++ key.text) :=
    trimmed_append_field " " (key_ne_empty key) (not_blank_key key)
  have hnone : Text.Blanks "" := by decide
  have htrim := Text.trim_eq_of_append hnone hfield (show Text.Blanks " " by decide)
  rw [String.empty_append] at htrim
  rw [textOf_set_empty, htrim]

/-- **The line of a command has no blanks around it, unless it ends in an empty value.** -/
theorem trimmed_textOf_iff (command : Command) :
    Text.Trimmed (textOf command) ↔ ∀ key, command ≠ .set key .empty := by
  cases command with
  | get key =>
    exact iff_of_true (trimmed_append_field " " (key_ne_empty key) (not_blank_key key)) nofun
  | delete key =>
    exact iff_of_true (trimmed_append_field " " (key_ne_empty key) (not_blank_key key)) nofun
  | usage => exact iff_of_true (Text.trimmed_of_forall (not_blank_name .usage)) nofun
  | quit => exact iff_of_true (Text.trimmed_of_forall (not_blank_name .quit)) nofun
  | set key value =>
    constructor
    · intro h key' heq
      cases heq
      have hsame := trim_textOf_set_empty key
      rw [Text.trim_of_trimmed h, textOf_set_empty] at hsame
      simp at hsame
    · intro hvalue
      have hne : Base64.encode value ≠ "" := fun h =>
        hvalue key (by rw [Base64.encode_eq_empty_iff.mp h])
      have htext : textOf (.set key value)
          = CommandName.set.text ++ (" " ++ key.text ++ " ") ++ Base64.encode value := by
        simp only [textOf, String.append_assoc]
      rw [htext]
      exact trimmed_append_field _ hne fun c hc => (Base64.plain_of_mem_encode hc).1

/-- **The line of a command makes a request again**: without the blanks around it. -/
theorem ofText_textOf (command : Command) :
    ofText (textOf command) = .ok (terminated (Text.trim (textOf command))) := by
  obtain ⟨c, hc, hword⟩ := (isLine_textOf command).word
  refine ofText_eq_ok_iff.mpr ⟨?_, ?_, rfl⟩
  · intro hnone
    have hmem := Text.mem_trim_of_mem hc hword
    rw [hnone] at hmem
    exact absurd hmem List.not_mem_nil
  · exact fun d hd => (isLine_textOf command).oneLine d (Text.mem_of_mem_trim hd)

/-- It is the request for the command, unless its value is empty. -/
theorem ofText_ofCommand_iff (command : Command) :
    ofText (ofCommand command).text = .ok (ofCommand command) ↔
      ∀ key, command ≠ .set key .empty := by
  rw [text_ofCommand, ofText_textOf, Except.ok.injEq, ofCommand, terminated_inj,
    ← trimmed_textOf_iff]
  constructor
  · intro h
    rw [← h]
    exact Text.trimmed_trim _
  · exact Text.trim_of_trimmed

/-- Only what is left after trimming counts. -/
theorem ofText_trim (text : String) : ofText (Text.trim text) = ofText text := by
  simp only [ofText, Text.trim_trim]

/-- **What was typed can be typed again.** -/
theorem ofText_text {text : String} {request : RequestLine} (h : ofText text = .ok request) :
    ofText request.text = .ok request := by
  obtain ⟨-, hone, hrequest⟩ := ofText_eq_ok_iff.mp h
  have htext : request.text = Text.trim text := by
    rw [hrequest, text_terminated hone]
  rw [htext, ofText_trim, h]

/-- The request is the one for the command, byte for byte, but that an empty value has lost the
    space before it. -/
structure SentAs (command : Command) (request : RequestLine) : Prop where
  same : (∀ key, command ≠ .set key .empty) → request.bytes = (ofCommand command).bytes
  shorter : ∀ key, command = .set key .empty →
    request.bytes = ("SET " ++ key.text ++ "\n").toUTF8 ∧
      (ofCommand command).bytes = ("SET " ++ key.text ++ " \n").toUTF8

/-- **So is the request that the line of a command makes.** -/
theorem sentAs_textOf (command : Command) :
    SentAs command (terminated (Text.trim (textOf command))) where
  same h := by
    rw [Text.trim_of_trimmed ((trimmed_textOf_iff command).mpr h), ofCommand]
  shorter key h := by
    have hname : CommandName.set.text ++ " " = "SET " := by decide
    have hend : " \n" = " " ++ "\n" := by decide
    rw [h, trim_textOf_set_empty, ofCommand, textOf_set_empty, hname, hend, ← String.append_assoc]
    exact ⟨rfl, rfl⟩

end RequestLine

namespace Session

variable {σ : Type}

/-! ## 2. Parts of a session that send nothing -/

/-- The state that a part of a session leaves, whether it goes on or ends the session. -/
def stateOf {α : Type} : EStateM.Result SessionEnd (SessionState σ) α → SessionState σ
  | .ok _ s => s
  | .error _ s => s

/-- Whatever the outputs take or refuse, this part of a session sends nothing. -/
def Silent {α : Type} (x : Session σ α) : Prop :=
  ∀ s, (stateOf (x s)).requests = s.requests ∧ (stateOf (x s)).peer = s.peer

section Silence

variable {α β : Type}

theorem stateOf_orFail (failure : Option IoError) (s : SessionState σ) :
    stateOf (orFail failure s) = s := by
  cases failure <;> rfl

/-- A deed sends nothing unless it asks. -/
theorem silent_deed (exchange : Exchange σ Answer) (deed : Deed) (h : deed.request? = none) :
    Silent (deed.perform exchange) := by
  intro s
  rw [Deed.perform_eq, stateOf_orFail]
  cases deed with
  | say _ | flushOut | report _ | flushErr => exact ⟨rfl, rfl⟩
  | ask request => cases h

theorem silent_stop (ending : SessionEnd) : Silent (stop ending : Session σ α) :=
  fun _ => ⟨rfl, rfl⟩

/-- Two parts that send nothing send nothing together. -/
theorem Silent.bind {x : Session σ α} {f : α → Session σ β} (hx : Silent x)
    (hf : ∀ a, Silent (f a)) : Silent (x >>= f) := by
  intro s
  have hfirst := hx s
  cases hdone : x s with
  | error ending s' =>
    rw [hdone] at hfirst
    rw [bind_of_error hdone]
    exact hfirst
  | ok a s' =>
    rw [hdone] at hfirst
    rw [bind_of_ok hdone]
    exact ⟨(hf a s').1.trans hfirst.1, (hf a s').2.trans hfirst.2⟩

theorem silent_say_flush (exchange : Exchange σ Answer) (line : String) :
    Silent (do say line; flushOut : Session σ Unit) := by
  have hsay : Silent (say line : Session σ Unit) := silent_deed exchange (.say line) rfl
  exact hsay.bind fun _ => silent_deed exchange .flushOut rfl

/-- **Nothing is sent when an answer is shown or reported**, also when the outputs fail. -/
theorem silent_present (exchange : Exchange σ Answer) (answer : Answer) :
    Silent (present answer : Session σ Unit) := by
  cases answer with
  | ok reply => exact silent_say_flush exchange _
  | error e =>
    by_cases hmalformed : ∃ line reason, e = .malformedResponse line reason
    · obtain ⟨line, reason, rfl⟩ := hmalformed
      exact silent_say_flush exchange line
    · rw [present_error fun line reason he => hmalformed ⟨line, reason, he⟩]
      have hreport : Silent (report e : Session σ Unit) := silent_deed exchange (.report e) rfl
      have hflush : Silent (flushErr : Session σ Unit) := silent_deed exchange .flushErr rfl
      refine hreport.bind fun _ => ?_
      split
      · exact hflush.bind fun _ => silent_stop _
      · exact silent_deed exchange .flushOut rfl

/-- Nor is anything sent when the input ends, in whichever way, where a line would begin. -/
theorem silent_unended (exchange : Exchange σ Answer) (breakdown : Option IoError) :
    Silent (steps exchange (Input.unendedLine [] breakdown)) := by
  cases breakdown with
  | none => exact fun _ => ⟨rfl, rfl⟩
  | some e => exact fun _ => ⟨rfl, rfl⟩

end Silence

/-! ## 3. The line of a command in the input -/

/-- **The bytes of the request for a command are one line of the input.** -/
theorem lines_ofCommand {reads : List ReadItem} {command : Command}
    (h : Stream.arriving reads = (RequestLine.ofCommand command).bytes) :
    Input.lines reads = typedLine (RequestLine.textOf command)
      :: Input.unendedLine [] (Stream.breakdown? reads) := by
  have hone := (RequestLine.isLine_textOf command).oneLine
  have hbytes : (Stream.arriving reads).data.toList
      = (RequestLine.textOf command).toUTF8.data.toList ++ [Bytes.newline] := by
    simp [h, RequestLine.ofCommand, RequestLine.bytes_terminated]
  have hfeed : Bytes.newline ∉ (RequestLine.textOf command).toUTF8.data.toList :=
    mt Bytes.newline_mem_toUTF8.mp hone.newline_not_mem
  have hreturn : Input.carriageReturn ∉ (RequestLine.textOf command).toUTF8.data.toList :=
    mt (Bytes.ascii_mem_toUTF8 (by decide)).mp hone.return_not_mem
  have hkept : Input.withoutReturn (RequestLine.textOf command).toUTF8.data.toList
      = (RequestLine.textOf command).toUTF8.data.toList :=
    if_neg fun hlast => hreturn (List.mem_of_mem_getLast? hlast)
  have hended : Input.Ended (Stream.arriving reads).data.toList := by
    intro x hx
    rw [hbytes, List.getLast?_concat] at hx
    exact (Option.some.inj hx).symm
  rw [Input.lines_eq_of_ended hended, hbytes, Input.wholeLines_cons hfeed, hkept,
    Bytes.toByteArray_toList, Input.wholeLines_unended List.not_mem_nil]
  rfl

theorem spellsQuit_name_iff (name : CommandName) : SpellsQuit name.text ↔ name = .quit := by
  rw [spellsQuit_iff]
  cases name <;> decide

/-- The line of a command asks to quit only if the command does. -/
theorem quits_textOf_iff (command : Command) :
    Quits (RequestLine.textOf command) ↔ command = .quit := by
  have hfirst : Text.firstWord (RequestLine.textOf command) = command.name.text := by
    rw [← RequestLine.text_ofCommand]
    exact RequestLine.firstWord_ofCommand command
  have hname : command.name = .quit ↔ command = .quit := by
    cases command <;> simp [Command.name]
  rw [quits_iff, hfirst, spellsQuit_name_iff, hname]

/-- The line of any other command asks to send the request that it makes. -/
theorem wish_textOf {command : Command} (h : command ≠ .quit) :
    wish (RequestLine.textOf command)
      = .send (RequestLine.terminated (Text.trim (RequestLine.textOf command))) := by
  have hline := (RequestLine.isLine_textOf command).oneLine.newline_not_mem
  refine wish_of_request hline (mt (quits_textOf_iff command).mp h) ?_
  rw [← ofText_trim_eq_ok_iff hline, RequestLine.ofText_trim]
  exact RequestLine.ofText_textOf command

/-! ## 4. The session -/

/-- The output takes what is shown before the first line is read. -/
def Greets (s : SessionState σ) : Prop :=
  ∃ s', (do say banner; flushOut : Session σ Unit) s = .ok () s'

section Run

variable {exchange : Exchange σ Answer} {reads : List ReadItem} {s s' : SessionState σ}
  {command : Command}

theorem state_outcomeOf (result : EStateM.Result SessionEnd (SessionState σ) Unit) :
    (outcomeOf result).state = stateOf result := by
  cases result <;> rfl

/-- `QUIT` ends the session, and nothing is sent. -/
theorem run_of_quit (hgreets : Greets s)
    (h : Stream.arriving reads = (RequestLine.ofCommand .quit).bytes) :
    (run exchange reads s).ending = .quit ∧
      (run exchange reads s).state.requests = s.requests ∧
      (run exchange reads s).state.peer = s.peer := by
  obtain ⟨s', hs'⟩ := hgreets
  have hsilent := silent_say_flush exchange banner s
  rw [hs'] at hsilent
  have hstep := step_of_quits (s := s') exchange ((quits_textOf_iff .quit).mpr rfl)
  rw [run_of_greeted hs', lines_ofCommand h, steps_of_error exchange hstep]
  exact ⟨rfl, hsilent⟩

/-- **Any other line of a command is one exchange**, of the request that it makes. -/
theorem run_of_command (hgreets : Greets s) (hcommand : command ≠ .quit)
    (h : Stream.arriving reads = (RequestLine.ofCommand command).bytes) :
    let request := RequestLine.terminated (Text.trim (RequestLine.textOf command))
    (run exchange reads s).state.requests = s.requests.push request ∧
      (run exchange reads s).state.peer = (exchange request s.peer).2 := by
  intro request
  obtain ⟨s', hs'⟩ := hgreets
  have hsilent := silent_say_flush exchange banner s
  rw [hs'] at hsilent
  obtain ⟨hrequests, hpeer⟩ : s'.requests = s.requests ∧ s'.peer = s.peer := hsilent
  let rest := steps exchange (Input.unendedLine [] (Stream.breakdown? reads))
  have hask : ask exchange request s'
      = .ok (exchange request s'.peer).1 (s'.asked exchange request) := rfl
  have hsteps : steps exchange (Input.lines reads) s'
      = (present (exchange request s'.peer).1 >>= fun _ => rest) (s'.asked exchange request) := by
    rw [lines_ofCommand h, steps, step_text, wish_textOf hcommand, fulfil, bind_assoc,
      bind_of_ok hask]
  have hlater := (silent_present exchange (exchange request s'.peer).1).bind
    (fun _ => silent_unended exchange (Stream.breakdown? reads)) (s'.asked exchange request)
  rw [run_of_greeted hs', state_outcomeOf, hsteps, ← hrequests, ← hpeer]
  exact hlater

end Run

/-- **A command reaches the store alike, whether it is called or typed.** Give a session the bytes
    of the request for a command as its input, in any pieces, and let the exchange answer whatever
    it likes. `QUIT` ends the session and is not sent. For any other command there is one exchange,
    of the request for it byte for byte; only an empty value loses the space before it. As a text,
    the line of a command makes its own request again but for this one case, and the line of a
    request that was typed always does. -/
theorem typed_commands_sent_alike :
    (∀ {σ : Type} (exchange : Exchange σ Answer) (reads : List ReadItem) (s : SessionState σ)
        (command : Command), Greets s →
      Stream.arriving reads = (RequestLine.ofCommand command).bytes →
        let outcome := run exchange reads s
        (command = .quit → outcome.ending = .quit ∧ outcome.state.requests = s.requests ∧
          outcome.state.peer = s.peer) ∧
        (command ≠ .quit → ∃ request, outcome.state.requests = s.requests.push request ∧
          outcome.state.peer = (exchange request s.peer).2 ∧
          RequestLine.SentAs command request)) ∧
    (∀ command, RequestLine.ofText (RequestLine.ofCommand command).text
        = .ok (RequestLine.ofCommand command) ↔ ∀ key, command ≠ .set key .empty) ∧
    (∀ text request, RequestLine.ofText text = .ok request →
      RequestLine.ofText request.text = .ok request) := by
  refine ⟨?_, RequestLine.ofText_ofCommand_iff, fun _ _ => RequestLine.ofText_text⟩
  intro σ exchange reads s command hgreets harriving
  refine ⟨?_, ?_⟩
  · intro hquit
    subst hquit
    exact run_of_quit hgreets harriving
  · intro hcommand
    obtain ⟨hrequests, hpeer⟩ := run_of_command hgreets hcommand harriving
    exact ⟨_, hrequests, hpeer, RequestLine.sentAs_textOf command⟩

/-- An empty value that is typed, cut before its space; then the input fails. -/
def typedEmptyValue : List ReadItem :=
  [.chunk "SET k".toUTF8, .failure (.ofKind .interrupted), .chunk " \n".toUTF8,
    .failure (.ofKind .other)]

theorem typed_commands_sent_alike_emptyValue :
    ((run granting typedEmptyValue { peer := [] }).state.requests.toList.map RequestLine.bytes
        = ["SET k\n".toUTF8]) ∧
      (run granting [.chunk "QUIT\n".toUTF8] { peer := [] }).ending = .quit ∧
      RequestLine.ofText (RequestLine.terminated "SET k").text
        = .ok (RequestLine.terminated "SET k") := by
  have hgreets : Greets ({ peer := [] } : SessionState (List String)) := ⟨_, rfl⟩
  obtain ⟨hrun, -, hagain⟩ := typed_commands_sent_alike
  refine ⟨?_, ?_, ?_⟩
  · let command : Command := .set ⟨"k", RequestLine.isValid_k⟩ .empty
    have harriving : Stream.arriving typedEmptyValue = (RequestLine.ofCommand command).bytes := by
      rw [((RequestLine.sentAs_textOf command).shorter _ rfl).2]
      decide
    obtain ⟨request, hrequests, -, hsent⟩ :=
      (hrun granting typedEmptyValue { peer := [] } command hgreets harriving).2 nofun
    rw [hrequests, Array.toList_push]
    exact congrArg (fun bytes => [bytes]) (hsent.shorter _ rfl).1
  · exact ((hrun granting [.chunk "QUIT\n".toUTF8] { peer := [] } .quit hgreets (by decide)).1
      rfl).1
  · have hget : Text.trim "SET k" = "SET k" := Text.trim_of_trimmed (by decide)
    refine hagain "SET k" (RequestLine.terminated "SET k") ?_
    rw [RequestLine.ofText_eq_ok_iff, hget]
    exact ⟨by decide, by decide, rfl⟩

end Session
end StoreLink
