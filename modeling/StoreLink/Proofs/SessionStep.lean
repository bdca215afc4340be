import StoreLink.Session
import StoreLink.Proofs.RequestFraming

/-!
# One line of a session

As long as its outputs take what they are given, a line of a session does one of five things, and
says which it is before anything is sent.

* `SessionState.shown`, `reported`, `asked` and `presented` are the states that the parts of a step
  lead to, and `say_eq`, `report_eq`, `present_eq` say that they do;
* `Lost` are the answers that end a session, `Quits` the lines that do, `request?` is what any other
  line asks to send;
* `step_of_failed`, `step_of_noText`, `step_of_quits`, `step_of_request`, `step_of_none`: what a
  line does, case by case.
-/

namespace StoreLink

/-! ## 1. Outputs that take everything -/

/-- The output takes whatever it is given. -/
structure Output.Unfailing (output : Output) : Prop where
  room : output.room = none
  flushes : output.flushes = none

/-- The output after it took some bytes more. -/
def Output.took (output : Output) (bytes : ByteArray) : Output :=
  { output with taken := output.taken ++ bytes }

@[simp] theorem Output.write_eq {output : Output} (h : output.Unfailing) (bytes : ByteArray) :
    output.write bytes = (none, output.took bytes) := by
  simp [write, h.room, took]

@[simp] theorem Output.flush_eq {output : Output} (h : output.Unfailing) :
    output.flush = (none, output) := by
  simp [flush, h.flushes]

@[simp] theorem Output.taken_took (output : Output) (bytes : ByteArray) :
    (output.took bytes).taken = output.taken ++ bytes := rfl

@[simp] theorem Output.unfailing_took {output : Output} {bytes : ByteArray} :
    (output.took bytes).Unfailing ↔ output.Unfailing :=
  ⟨fun h => ⟨h.room, h.flushes⟩, fun h => ⟨h.room, h.flushes⟩⟩

namespace SessionState

variable {σ : Type}

/-- Both outputs take whatever they are given. -/
structure Unfailing (s : SessionState σ) : Prop where
  out : s.out.Unfailing
  err : s.err.Unfailing

/-- The state after a line was shown. -/
def shown (s : SessionState σ) (line : String) : SessionState σ :=
  { s with out := s.out.took (line.push '\n').toUTF8 }

/-- The state after a failure was reported. -/
def reported (s : SessionState σ) (e : LinkError) : SessionState σ :=
  { s with err := s.err.took (("error: " ++ e.message).push '\n').toUTF8 }

/-- The state after a request was sent. -/
def asked (s : SessionState σ) (exchange : Exchange σ Answer) (request : RequestLine) :
    SessionState σ :=
  { s with peer := (exchange request s.peer).2, requests := s.requests.push request }

/-- The state after an answer was shown or reported. -/
def presented (s : SessionState σ) : Answer → SessionState σ
  | .ok reply => s.shown (Session.shown reply)
  | .error (.malformedResponse line _) => s.shown line
  | .error e => s.reported e

/-! Each of these states is the one before in all but what it is named for. -/

section Fields

variable (s : SessionState σ) (line : String) (e : LinkError) (exchange : Exchange σ Answer)
  (request : RequestLine) (answer : Answer)

@[simp] theorem shown_out : (s.shown line).out = s.out.took (line.push '\n').toUTF8 := rfl
@[simp] theorem shown_err : (s.shown line).err = s.err := rfl
@[simp] theorem shown_peer : (s.shown line).peer = s.peer := rfl
@[simp] theorem shown_requests : (s.shown line).requests = s.requests := rfl

@[simp] theorem reported_out : (s.reported e).out = s.out := rfl
@[simp] theorem reported_err :
    (s.reported e).err = s.err.took (("error: " ++ e.message).push '\n').toUTF8 := rfl
@[simp] theorem reported_peer : (s.reported e).peer = s.peer := rfl
@[simp] theorem reported_requests : (s.reported e).requests = s.requests := rfl

@[simp] theorem asked_out : (s.asked exchange request).out = s.out := rfl
@[simp] theorem asked_err : (s.asked exchange request).err = s.err := rfl
@[simp] theorem asked_peer : (s.asked exchange request).peer = (exchange request s.peer).2 := rfl
@[simp] theorem asked_requests :
    (s.asked exchange request).requests = s.requests.push request := rfl

/-- An answer is shown as a line, or reported as a failure. -/
theorem exists_presented :
    (∃ line, s.presented answer = s.shown line) ∨ ∃ e, s.presented answer = s.reported e := by
  cases answer with
  | ok reply => exact .inl ⟨_, rfl⟩
  | error e =>
    cases e with
    | malformedResponse line reason => exact .inl ⟨_, rfl⟩
    | connect | io | protocolStatus | invalidKey | invalidRequest | config => exact .inr ⟨_, rfl⟩

@[simp] theorem presented_peer : (s.presented answer).peer = s.peer := by
  rcases s.exists_presented answer with ⟨line, h⟩ | ⟨e, h⟩ <;> simp [h]

@[simp] theorem presented_requests : (s.presented answer).requests = s.requests := by
  rcases s.exists_presented answer with ⟨line, h⟩ | ⟨e, h⟩ <;> simp [h]

end Fields

section Unfailing

variable {s : SessionState σ} {line : String} {e : LinkError} {exchange : Exchange σ Answer}
  {request : RequestLine} {answer : Answer}

theorem unfailing_iff : s.Unfailing ↔ s.out.Unfailing ∧ s.err.Unfailing :=
  ⟨fun h => ⟨h.out, h.err⟩, fun h => ⟨h.1, h.2⟩⟩

@[simp] theorem unfailing_shown : (s.shown line).Unfailing ↔ s.Unfailing := by
  simp [unfailing_iff]

@[simp] theorem unfailing_reported : (s.reported e).Unfailing ↔ s.Unfailing := by
  simp [unfailing_iff]

@[simp] theorem unfailing_asked : (s.asked exchange request).Unfailing ↔ s.Unfailing := by
  simp [unfailing_iff]

@[simp] theorem unfailing_presented : (s.presented answer).Unfailing ↔ s.Unfailing := by
  rcases s.exists_presented answer with ⟨line, h⟩ | ⟨e, h⟩ <;> simp [h]

end Unfailing

end SessionState

namespace Session

variable {σ : Type} {s : SessionState σ}

/-! ## 2. The parts of a step -/

theorem bind_of_ok {α β : Type} {x : Session σ α} {f : α → Session σ β} {a : α}
    {s' : SessionState σ} (h : x s = .ok a s') : (x >>= f) s = f a s' := by
  show EStateM.bind x f s = f a s'
  rw [EStateM.bind, h]

theorem bind_of_error {α β : Type} {x : Session σ α} {f : α → Session σ β} {ending : SessionEnd}
    {s' : SessionState σ} (h : x s = .error ending s') : (x >>= f) s = .error ending s' := by
  show EStateM.bind x f s = .error ending s'
  rw [EStateM.bind, h]

@[simp] theorem orFail_none : orFail none s = .ok () s := rfl

@[simp] theorem say_eq (h : s.out.Unfailing) (line : String) :
    say line s = .ok () (s.shown line) := by
  simp [say, h, SessionState.shown]

@[simp] theorem flushOut_eq (h : s.out.Unfailing) : flushOut s = .ok () s := by
  simp [flushOut, h]

@[simp] theorem report_eq (h : s.err.Unfailing) (e : LinkError) :
    report e s = .ok () (s.reported e) := by
  simp [report, h, SessionState.reported]

@[simp] theorem flushErr_eq (h : s.err.Unfailing) : flushErr s = .ok () s := by
  simp [flushErr, h]

/-- A line that is shown is flushed. -/
@[simp] theorem say_flush_eq (h : s.out.Unfailing) (line : String) :
    (do say line; flushOut : Session σ Unit) s = .ok () (s.shown line) := by
  rw [bind_of_ok (say_eq h line)]
  simp [h]

/-! ## 3. Answers -/

/-- The answer says that the connection failed: while connecting, writing or reading. -/
def Lost (answer : Answer) : Prop :=
  ∃ e, answer = .error e ∧
    ((∃ address source, e = .connect address source) ∨ ∃ source, e = .io source)

theorem not_lost_ok (reply : Reply) : ¬ Lost (.ok reply) := by
  intro h
  obtain ⟨e, he, -⟩ := h
  cases he

theorem lost_error_iff {e : LinkError} : Lost (.error e) ↔ e.isTransport = true := by
  cases e <;> simp [Lost, LinkError.isTransport]

/-- A failure is reported, unless it brings a line that can be shown. -/
theorem present_error : ∀ {e : LinkError}, (∀ line reason, e ≠ .malformedResponse line reason) →
    (present (.error e) : Session σ Unit)
      = (do report e; if e.isTransport then do flushErr; stop .transportLost else flushOut)
  | .malformedResponse line reason, h => absurd rfl (h line reason)
  | .connect _ _, _ | .io _, _ | .protocolStatus _, _ | .invalidKey _, _ | .invalidRequest _, _
  | .config _, _ => rfl

theorem presented_error : ∀ {e : LinkError}, (∀ line reason, e ≠ .malformedResponse line reason) →
    s.presented (.error e) = s.reported e
  | .malformedResponse line reason, h => absurd rfl (h line reason)
  | .connect _ _, _ | .io _, _ | .protocolStatus _, _ | .invalidKey _, _ | .invalidRequest _, _
  | .config _, _ => rfl

/-- **An answer is shown or reported, and ends the session exactly if the connection failed.** -/
theorem present_eq (h : s.Unfailing) (answer : Answer) :
    (Lost answer ∧ present answer s = .error .transportLost (s.presented answer)) ∨
      (¬ Lost answer ∧ present answer s = .ok () (s.presented answer)) := by
  cases answer with
  | ok reply => exact .inr ⟨not_lost_ok reply, say_flush_eq h.out _⟩
  | error e =>
    rw [lost_error_iff]
    by_cases hmalformed : ∃ line reason, e = .malformedResponse line reason
    · obtain ⟨line, reason, rfl⟩ := hmalformed
      exact .inr ⟨Bool.false_ne_true, say_flush_eq h.out line⟩
    · have hother : ∀ line reason, e ≠ .malformedResponse line reason :=
        fun line reason he => hmalformed ⟨line, reason, he⟩
      rw [present_error hother, presented_error hother, bind_of_ok (report_eq h.err e)]
      cases e.isTransport with
      | true =>
        have hflush : flushErr (s.reported e) = .ok () (s.reported e) := by simp [h.err]
        rw [if_pos rfl, bind_of_ok hflush]
        exact .inl ⟨rfl, rfl⟩
      | false =>
        have hflush : flushOut (s.reported e) = .ok () (s.reported e) := flushOut_eq h.out
        exact .inr ⟨Bool.false_ne_true, hflush⟩

/-! ## 4. Lines -/

theorem toNat_toLower (c : Char) :
    c.toLower.toNat = if 65 ≤ c.toNat ∧ c.toNat ≤ 90 then c.toNat + 32 else c.toNat := by
  have hcapital : (c.val ≥ 'A'.val ∧ c.val ≤ 'Z'.val) ↔ 65 ≤ c.toNat ∧ c.toNat ≤ 90 := Iff.rfl
  unfold Char.toLower
  by_cases h : 65 ≤ c.toNat ∧ c.toNat ≤ 90
  · rw [dif_pos (hcapital.mpr h), if_pos h]
    have hle : c.val.toNat ≤ 90 := h.2
    show (c.val.toNat + 32) % 4294967296 = c.val.toNat + 32
    omega
  · rw [dif_neg (mt hcapital.mp h), if_neg h]

/-- A character has the small letter of a capital exactly when it is the one or the other. -/
theorem toLower_eq_iff {c d : Char} (hd : 65 ≤ d.toNat ∧ d.toNat ≤ 90) :
    c.toLower = d.toLower ↔ c = d ∨ c = d.toLower := by
  have hc := toNat_toLower c
  have hsmall := toNat_toLower d
  rw [if_pos hd] at hsmall
  rw [← Char.toNat_inj, ← Char.toNat_inj, ← Char.toNat_inj, hc, hsmall]
  split <;> omega

/-- The word is spelled `QUIT`, in capitals, small letters or both. -/
def SpellsQuit (word : String) : Prop :=
  ∃ q u i t, word.toList = [q, u, i, t] ∧
    (q = 'Q' ∨ q = 'q') ∧ (u = 'U' ∨ u = 'u') ∧ (i = 'I' ∨ i = 'i') ∧ (t = 'T' ∨ t = 't')

theorem spellsQuit_iff {word : String} :
    SpellsQuit word ↔ word.toList.map Char.toLower = ['q', 'u', 'i', 't'] := by
  have hQ (c : Char) : c.toLower = 'q' ↔ c = 'Q' ∨ c = 'q' := toLower_eq_iff (d := 'Q') (by decide)
  have hU (c : Char) : c.toLower = 'u' ↔ c = 'U' ∨ c = 'u' := toLower_eq_iff (d := 'U') (by decide)
  have hI (c : Char) : c.toLower = 'i' ↔ c = 'I' ∨ c = 'i' := toLower_eq_iff (d := 'I') (by decide)
  have hT (c : Char) : c.toLower = 't' ↔ c = 'T' ∨ c = 't' := toLower_eq_iff (d := 'T') (by decide)
  simp only [List.map_eq_cons_iff, List.map_eq_nil_iff, hQ, hU, hI, hT]
  constructor
  · intro h
    obtain ⟨q, u, i, t, hword, hq, hu, hi, ht⟩ := h
    exact ⟨q, _, hword, hq, u, _, rfl, hu, i, _, rfl, hi, t, _, rfl, ht, rfl⟩
  · intro h
    obtain ⟨q, _, hword, hq, u, _, rfl, hu, i, _, rfl, hi, t, _, rfl, ht, rfl⟩ := h
    exact ⟨q, u, i, t, hword, hq, hu, hi, ht⟩

theorem sameLetters_quit_iff {word : String} :
    sameLetters word CommandName.quit.text = true ↔ SpellsQuit word := by
  have hquit : (CommandName.quit.text.map Char.toLower).toList = ['q', 'u', 'i', 't'] := by
    rw [String.toList_map]
    decide
  rw [sameLetters, beq_iff_eq, ← String.toList_inj, hquit, String.toList_map, spellsQuit_iff]

/-- The first word of the line asks to quit. -/
def Quits (typed : String) : Prop :=
  ∃ word, Text.FirstWord word typed ∧ SpellsQuit word

theorem quits_iff {typed : String} : Quits typed ↔ SpellsQuit (Text.firstWord typed) := by
  constructor
  · intro h
    obtain ⟨word, hfirst, hspells⟩ := h
    rw [Text.firstWord_eq hfirst]
    exact hspells
  · intro h
    have hne : Text.firstWord typed ≠ "" := by
      obtain ⟨q, u, i, t, hword, -⟩ := h
      intro hnone
      rw [hnone] at hword
      cases hword
    exact ⟨_, Text.firstWord_spec hne, h⟩

instance (typed : String) : Decidable (Quits typed) :=
  decidable_of_iff (((typed.toList.dropWhile Text.isBlank).takeWhile (fun c => !Text.isBlank c)).map
      Char.toLower = ['q', 'u', 'i', 't']) (by
    rw [quits_iff, spellsQuit_iff, Text.toList_firstWord])

/-- The request of a line that does not ask to quit: what is left after trimming, unless this is
    nothing or a carriage return stands in it. -/
def request? (typed : String) : Option RequestLine :=
  if Text.trim typed ≠ "" ∧ '\r' ∉ (Text.trim typed).toList then
    some (RequestLine.terminated (Text.trim typed))
  else none

theorem text_of_request {typed : String} {request : RequestLine}
    (h : request? typed = some request) : request.text = Text.trim typed := by
  rw [request?] at h
  split at h
  · cases h
    refine RequestLine.text_terminated_of_last fun c hc heq => ?_
    subst heq
    exact absurd ((Text.trimmed_trim typed).last _ hc) (by decide)
  · cases h

/-- Trimming does not hide the word that asks to quit. -/
theorem asksToQuit_trim_iff {typed : String} :
    asksToQuit (Text.trim typed) = true ↔ Quits typed := by
  rw [asksToQuit, sameLetters_quit_iff, ← quits_iff, Quits, Quits]
  simp only [Text.firstWord_trim_iff]

section Wish

variable {typed : String}

theorem trim_ne_empty_of_quits (h : Quits typed) : Text.trim typed ≠ "" := by
  obtain ⟨word, hfirst, -⟩ := h
  obtain ⟨front, back, -, -, htrim⟩ := (Text.firstWord_trim_iff.mpr hfirst).parts
  intro hnone
  rw [hnone, eq_comm, String.append_eq_empty_iff, String.append_eq_empty_iff] at htrim
  exact hfirst.ne_empty htrim.1.2

theorem wish_of_quits (h : Quits typed) : wish typed = .quit := by
  have hne : ¬ (Text.trim typed).isEmpty = true :=
    fun hempty => trim_ne_empty_of_quits h (String.isEmpty_iff.mp hempty)
  simp only [wish, if_neg hne, if_pos (asksToQuit_trim_iff.mpr h)]

/-- A line that was ended by its line feed makes a request if no carriage return is left in it. -/
theorem ofText_trim_eq_ok_iff (hline : '\n' ∉ typed.toList) {request : RequestLine} :
    RequestLine.ofText (Text.trim typed) = .ok request ↔ request? typed = some request := by
  have hnone : '\n' ∉ (Text.trim typed).toList := mt Text.mem_of_mem_trim hline
  have hone : RequestLine.OneLine (Text.trim typed) ↔ '\r' ∉ (Text.trim typed).toList := by
    refine ⟨RequestLine.OneLine.return_not_mem, fun h => ?_⟩
    rw [RequestLine.oneLine_iff]
    intro c hc
    exact ⟨fun hn => hnone (hn ▸ hc), fun hr => h (hr ▸ hc)⟩
  rw [RequestLine.ofText_eq_ok_iff, Text.trim_trim, hone, request?]
  split
  · rename_i h
    rw [Option.some.injEq]
    exact ⟨fun hr => hr.2.2.symm, fun hr => ⟨h.1, h.2, hr.symm⟩⟩
  · rename_i h
    exact ⟨fun hr => absurd ⟨hr.1, hr.2.1⟩ h, fun hr => by cases hr⟩

theorem wish_of_request (hline : '\n' ∉ typed.toList) (hquit : ¬ Quits typed)
    {request : RequestLine} (h : request? typed = some request) : wish typed = .send request := by
  have hok := (ofText_trim_eq_ok_iff hline).mpr h
  obtain ⟨hne, -⟩ := RequestLine.ofText_eq_ok_iff.mp hok
  rw [Text.trim_trim] at hne
  have hempty : ¬ (Text.trim typed).isEmpty = true := fun h => hne (String.isEmpty_iff.mp h)
  simp only [wish, if_neg hempty, if_neg (mt asksToQuit_trim_iff.mp hquit), hok]

theorem wish_of_blank (h : Text.trim typed = "") : wish typed = .nothing := by
  have hempty : (Text.trim typed).isEmpty = true := String.isEmpty_iff.mpr h
  simp only [wish, if_pos hempty]

theorem wish_of_fault (hblank : Text.trim typed ≠ "") (hquit : ¬ Quits typed)
    {fault : RequestLine.Fault} (h : RequestLine.ofText (Text.trim typed) = .error fault) :
    wish typed = .refused fault := by
  have hempty : ¬ (Text.trim typed).isEmpty = true := fun h => hblank (String.isEmpty_iff.mp h)
  simp only [wish, if_neg hempty, if_neg (mt asksToQuit_trim_iff.mp hquit), h]

/-- A line that makes no request is skipped or refused. -/
theorem wish_of_none (hline : '\n' ∉ typed.toList) (hquit : ¬ Quits typed)
    (h : request? typed = none) : wish typed = .nothing ∨ ∃ fault, wish typed = .refused fault := by
  by_cases hblank : Text.trim typed = ""
  · exact .inl (wish_of_blank hblank)
  · cases htext : RequestLine.ofText (Text.trim typed) with
    | ok request =>
      rw [(ofText_trim_eq_ok_iff hline).mp htext] at h
      cases h
    | error fault => exact .inr ⟨fault, wish_of_fault hblank hquit htext⟩

end Wish

/-! ## 5. What a line does -/

/-- The line of the input that holds this text. -/
def typedLine (typed : String) : Input.Line :=
  .text typed.toUTF8

section Step

variable (exchange : Exchange σ Answer) {typed : String}

theorem steps_of_ok {line : Input.Line} {s' : SessionState σ}
    (h : step exchange line s = .ok () s') (later : List Input.Line) :
    steps exchange (line :: later) s = steps exchange later s' := by
  rw [steps, bind_of_ok h]

theorem steps_of_error {line : Input.Line} {ending : SessionEnd} {s' : SessionState σ}
    (h : step exchange line s = .error ending s') (later : List Input.Line) :
    steps exchange (line :: later) s = .error ending s' := by
  rw [steps, bind_of_error h]

theorem step_of_failed (e : IoError) : step exchange (.failed e) s = .error (.failed e) s := rfl

theorem step_of_noText {bytes : ByteArray} (h : ¬ bytes.IsValidUTF8) :
    step exchange (.text bytes) s = .error (.failed notText) s := by
  have hnone : String.fromUTF8? bytes = none := by rw [String.fromUTF8?, dif_neg h]
  simp only [step, hnone]
  rfl

theorem step_text (typed : String) :
    step exchange (typedLine typed) = fulfil exchange (wish typed) := by
  simp only [typedLine, step, Bytes.fromUTF8?_eq_some_iff.mpr rfl]

theorem step_of_quits (h : Quits typed) :
    step exchange (typedLine typed) s = .error .quit s := by
  rw [step_text, wish_of_quits h]
  rfl

/-- **A line that makes a request sends it, once**, and what comes back decides whether the session
    goes on. -/
theorem step_of_request (hs : s.Unfailing) (hline : '\n' ∉ typed.toList) (hquit : ¬ Quits typed)
    {request : RequestLine} (h : request? typed = some request) :
    let answer := (exchange request s.peer).1
    let s' := (s.asked exchange request).presented answer
    (Lost answer ∧ step exchange (typedLine typed) s = .error .transportLost s') ∨
      (¬ Lost answer ∧ step exchange (typedLine typed) s = .ok () s') := by
  rw [step_text, wish_of_request hline hquit h]
  exact present_eq (SessionState.unfailing_asked.mpr hs) _

/-- A line that makes no request is skipped, or the reason is reported. -/
theorem step_of_none (hs : s.Unfailing) (hline : '\n' ∉ typed.toList) (hquit : ¬ Quits typed)
    (h : request? typed = none) :
    step exchange (typedLine typed) s = .ok () s ∨
      ∃ fault : RequestLine.Fault,
        step exchange (typedLine typed) s = .ok () (s.reported fault.toError) := by
  rw [step_text]
  rcases wish_of_none hline hquit h with hwish | ⟨fault, hwish⟩
  · rw [hwish]
    exact .inl rfl
  · rw [hwish]
    exact .inr ⟨fault, report_eq hs.err _⟩

end Step

end Session

end StoreLink
