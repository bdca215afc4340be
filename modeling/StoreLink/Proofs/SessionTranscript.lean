import StoreLink.Proofs.Delivery
import StoreLink.Proofs.LossyReading
import StoreLink.Proofs.ReplyGrammar
import StoreLink.Proofs.SessionRequests

/-!
# What an operator sees

As long as its outputs take what they are given, a session shows the banner and then one line for
each answer that can be shown, in the order of the requests; and it reports every other failure, and
every line that is no request, in the order of the lines.

* `shown?` and `reported?` are what an answer comes to, `refusal?` what a line does that is no
  request, and `failuresOf` are the failures of lines in a row;
* `Told`: what the outputs took between two states; `told_presented` says it of an answer,
  `told_step` of a line that is passed and `told_stop` of the end of a session;
* `newline_not_mem_status`, `newline_not_mem_malformed`: what comes through a stream is one line,
  and `lost_iff_not_brings`: the connection is lost exactly when no whole line comes;
* **`operator_sees_every_answer`**: the whole of it, for a session.
-/

namespace StoreLink.Session

open Exchange (inTurn through Brings)

variable {σ : Type}

/-! ## 1. Lines and reports -/

/-- The line that is shown for an answer. -/
def shown? : Answer → Option String
  | .ok (.value bytes) => some (Text.lossy bytes)
  | .ok (.status text) => some text
  | .error (.malformedResponse line _) => some line
  | .error _ => none

/-- The failure that is reported for an answer: any but a value that cannot be read. -/
def reported? : Answer → Option LinkError
  | .ok _ => none
  | .error (.malformedResponse _ _) => none
  | .error e => some e

/-- The failure that is reported for a line: the reason why it is no request, unless it is blank. -/
def refusal? (typed : String) : Option LinkError :=
  if Text.trim typed = "" then none
  else
    match RequestLine.ofText (Text.trim typed) with
    | .error fault => some fault.toError
    | .ok _ => none

/-- The failure of one line: that of the line itself, or of its answer. -/
def failuresAt (exchange : Exchange σ Answer) (peer : σ) (typed : String) : List LinkError :=
  (refusal? typed).toList ++ (inTurn exchange (request? typed).toList peer).1.filterMap reported?

/-- The failures of lines in a row, line by line. -/
def failuresOf (exchange : Exchange σ Answer) (peer : σ) : List String → List LinkError
  | [] => []
  | typed :: later =>
    failuresAt exchange peer typed ++ failuresOf exchange (peerAfter exchange peer typed) later

/-- These lines, each with its line feed. -/
def asLines (lines : List String) : String :=
  String.join (lines.map (· ++ "\n"))

/-- These failures as they are reported, a line each. -/
def asReports (failures : List LinkError) : String :=
  asLines (failures.map fun e => "error: " ++ e.message)

@[simp] theorem asLines_nil : asLines [] = "" := rfl

@[simp] theorem asLines_singleton (line : String) : asLines [line] = line.push '\n' := by
  simp [asLines, String.push_eq_append]

@[simp] theorem asLines_append (front back : List String) :
    asLines (front ++ back) = asLines front ++ asLines back := by
  simp [asLines, String.join_append]

@[simp] theorem asReports_nil : asReports [] = "" := rfl

@[simp] theorem asReports_singleton (e : LinkError) :
    asReports [e] = ("error: " ++ e.message).push '\n' := by
  simp [asReports]

@[simp] theorem asReports_append (front back : List LinkError) :
    asReports (front ++ back) = asReports front ++ asReports back := by
  simp [asReports]

/-! ## 2. What was told -/

/-- From the first state to the second, these lines were shown and these failures reported. -/
structure Told (s s' : SessionState σ) (lines : List String) (failures : List LinkError) :
    Prop where
  out : s'.out.taken = s.out.taken ++ (asLines lines).toUTF8
  err : s'.err.taken = s.err.taken ++ (asReports failures).toUTF8

section Told

variable {s s' s'' : SessionState σ} {lines lines' : List String}
  {failures failures' : List LinkError}

theorem told_nothing (s : SessionState σ) : Told s s [] [] where
  out := by simp
  err := by simp

/-- **What is told in two parts is told in a row.** -/
theorem Told.trans (h : Told s s' lines failures) (h' : Told s' s'' lines' failures') :
    Told s s'' (lines ++ lines') (failures ++ failures') where
  out := by simp [h'.out, h.out, ByteArray.append_assoc]
  err := by simp [h'.err, h.err, ByteArray.append_assoc]

theorem told_shown (s : SessionState σ) (line : String) : Told s (s.shown line) [line] [] where
  out := by simp
  err := by simp

theorem told_reported (s : SessionState σ) (e : LinkError) : Told s (s.reported e) [] [e] where
  out := by simp
  err := by simp

/-- **An answer is shown or reported.** -/
theorem told_presented (s : SessionState σ) : ∀ answer : Answer,
    Told s (s.presented answer) (shown? answer).toList (reported? answer).toList
  | .ok (.value _) | .ok (.status _) | .error (.malformedResponse _ _) => told_shown s _
  | .error (.connect _ _) | .error (.io _) | .error (.protocolStatus _) | .error (.invalidKey _)
  | .error (.invalidRequest _) | .error (.config _) => told_reported s _

/-- What is told is a text. -/
theorem Told.isValidUTF8 (h : Told s s' lines failures) (hout : s.out.taken.IsValidUTF8)
    (herr : s.err.taken.IsValidUTF8) :
    s'.out.taken.IsValidUTF8 ∧ s'.err.taken.IsValidUTF8 := by
  rw [h.out, h.err]
  exact ⟨hout.append (String.isValidUTF8 _), herr.append (String.isValidUTF8 _)⟩

end Told

/-! ## 3. Lines -/

section Lines

variable {exchange : Exchange σ Answer} {s s' : SessionState σ} {typed : String}

theorem told_asked (s : SessionState σ) (request : RequestLine) :
    Told s (s.asked exchange request) [] [] where
  out := by simp
  err := by simp

/-- An answer that was asked for is shown or reported. -/
theorem told_answer (s : SessionState σ) (request : RequestLine) :
    Told s ((s.asked exchange request).presented (exchange request s.peer).1)
      ((inTurn exchange [request] s.peer).1.filterMap shown?)
      ((inTurn exchange [request] s.peer).1.filterMap reported?) := by
  have h := (told_asked s request).trans
    (told_presented (s.asked exchange request) (exchange request s.peer).1)
  simpa [filterMap_cons_toList] using h

/-- A line that makes no request tells why, unless it is blank. -/
theorem told_of_none (hs : s.Unfailing) (hline : '\n' ∉ typed.toList) (hquit : ¬ Quits typed)
    (hnone : request? typed = none) (hstep : step exchange (typedLine typed) s = .ok () s') :
    Told s s' [] (refusal? typed).toList := by
  rw [step_text] at hstep
  by_cases hblank : Text.trim typed = ""
  · rw [wish_of_blank hblank] at hstep
    cases hstep
    rw [refusal?, if_pos hblank]
    exact told_nothing s
  · rw [refusal?, if_neg hblank]
    cases htext : RequestLine.ofText (Text.trim typed) with
    | ok request =>
      rw [(ofText_trim_eq_ok_iff hline).mp htext] at hnone
      cases hnone
    | error fault =>
      have hreport := report_eq hs.err fault.toError
      rw [wish_of_fault hblank hquit htext, fulfil, hreport] at hstep
      cases hstep
      exact told_reported s fault.toError

/-- **A line that is passed tells its answer, or why it is no request.** -/
theorem told_step (hs : s.Unfailing) (hline : '\n' ∉ typed.toList) (hquit : ¬ Quits typed)
    (hstep : step exchange (typedLine typed) s = .ok () s') :
    Told s s' ((inTurn exchange (request? typed).toList s.peer).1.filterMap shown?)
      (failuresAt exchange s.peer typed) := by
  rw [failuresAt]
  cases hrequest : request? typed with
  | none =>
    simpa using told_of_none hs hline hquit hrequest hstep
  | some request =>
    have hok := (ofText_trim_eq_ok_iff hline).mpr hrequest
    have hrefusal : refusal? typed = none := by
      rw [refusal?, hok]
      split <;> rfl
    rw [hrefusal, Option.toList_none, List.nil_append, Option.toList_some]
    rcases step_of_request exchange hs hline hquit hrequest with ⟨-, hstop⟩ | ⟨-, hgoes⟩
    · rw [hstop] at hstep
      cases hstep
    · rw [hgoes] at hstep
      cases hstep
      exact told_answer s request

/-- **What ends a session tells the answer by which it ends**, if there is one. -/
theorem told_stop (hs : s.Unfailing) {lines : List Input.Line} {ending : SessionEnd}
    {last : List RequestLine} (h : Stops exchange s.peer lines ending last)
    (hlines : ∀ bytes, Input.Line.text bytes ∈ lines → Bytes.newline ∉ bytes.data.toList) :
    Told s (outcomeOf (steps exchange lines s)).state
      ((inTurn exchange last s.peer).1.filterMap shown?)
      ((inTurn exchange last s.peer).1.filterMap reported?) := by
  cases h with
  | endOfInput => exact told_nothing s
  | failed e later =>
    rw [steps_of_error exchange (step_of_failed exchange e)]
    exact told_nothing s
  | noText hinvalid later =>
    rw [steps_of_error exchange (step_of_noText exchange hinvalid)]
    exact told_nothing s
  | quit hquit later =>
    rw [steps_of_error exchange (step_of_quits exchange hquit)]
    exact told_nothing s
  | @transportLost typed request hquit hrequest hlost later =>
    have hline : '\n' ∉ typed.toList :=
      mt Bytes.newline_mem_toUTF8.mpr (hlines typed.toUTF8 List.mem_cons_self)
    rcases step_of_request exchange hs hline hquit hrequest with ⟨-, hstop⟩ | ⟨hkept, -⟩
    · rw [steps_of_error exchange hstop]
      exact told_answer s request
    · exact absurd hlost hkept

/-- **Lines that are passed tell their answers and failures in their order.** -/
theorem told_passed : ∀ {passed : List String} {s : SessionState σ}, s.Unfailing →
    (∀ typed ∈ passed, '\n' ∉ typed.toList) → GoesOn exchange s.peer passed →
      ∃ s', (∀ rest, steps exchange (passed.map typedLine ++ rest) s = steps exchange rest s') ∧
        s'.Unfailing ∧ s'.peer = (inTurn exchange (passed.filterMap request?) s.peer).2 ∧
        Told s s' ((inTurn exchange (passed.filterMap request?) s.peer).1.filterMap shown?)
          (failuresOf exchange s.peer passed)
  | [], s, hs, _, _ => ⟨s, fun _ => rfl, hs, rfl, told_nothing s⟩
  | typed :: passed, s, hs, hlines, hgoes => by
    obtain ⟨hquit, hkept, hlater⟩ := goesOn_cons_iff.mp hgoes
    have hline := hlines typed List.mem_cons_self
    obtain ⟨s₁, hstep, hs₁, -, hpeer⟩ := step_goesOn hs hline hquit hkept
    rw [← hpeer] at hlater
    obtain ⟨s', hsteps, hs', hpeer', htold⟩ :=
      told_passed hs₁ (fun t ht => hlines t (List.mem_cons_of_mem _ ht)) hlater
    have hfirst := told_step hs hline hquit hstep
    rw [inTurn_passed_cons, ← hpeer, List.filterMap_append, failuresOf, ← hpeer]
    exact ⟨s', fun rest => (steps_of_ok exchange hstep _).trans (hsteps rest), hs', hpeer',
      hfirst.trans htold⟩

end Lines

/-! ## 4. What comes through a stream -/

section Streams

variable {stream : Stream} {request : RequestLine}

/-- **What is read from one line has no line feed in it.** -/
theorem newline_not_mem_kept {bytes : ByteArray} (h : Exchange.WholeLine bytes) :
    '\n' ∉ (Text.dropLineEnds (Text.lossy bytes)).toList := by
  obtain ⟨front, hbytes, hfront⟩ := h
  obtain ⟨text, hread, htext⟩ := Text.lossy_line hbytes hfront
  rw [hread, Text.dropLineEnds_append text (by decide)]
  exact mt Text.mem_of_mem_dropLineEnds htext

/-- **A whole line is answered by a value, by one line, or by a failure that keeps one line.** -/
theorem answer_of_line {bytes : ByteArray} (h : Brings stream request bytes) :
    (∃ v, (through stream request).answer = .ok (.value v)) ∨
      (∃ text, (through stream request).answer = .ok (.status text) ∧ '\n' ∉ text.toList) ∨
      ∃ line reason, (through stream request).answer = .error (.malformedResponse line reason) ∧
        '\n' ∉ line.toList := by
  have hkept := newline_not_mem_kept h.whole
  rw [Exchange.answer_of_brings h]
  rcases Reply.decode_cases (Text.lossy bytes) with ⟨v, hvalue⟩ | hstatus | ⟨reason, hmalformed⟩
  · exact .inl ⟨v, hvalue⟩
  · exact .inr (.inl ⟨_, hstatus, mt Text.mem_of_mem_trim hkept⟩)
  · exact .inr (.inr ⟨_, reason, hmalformed, hkept⟩)

/-- A status that comes through a stream is one line. -/
theorem newline_not_mem_status {text : String}
    (h : (through stream request).answer = .ok (.status text)) : '\n' ∉ text.toList := by
  rcases Exchange.brings_or_fails stream request with ⟨bytes, hbrings⟩ | ⟨e, hanswer⟩
  · rcases answer_of_line hbrings with ⟨v, hanswer⟩ | ⟨t, hanswer, hline⟩ | ⟨l, r, hanswer, -⟩ <;>
      rw [hanswer] at h <;> cases h
    exact hline
  · rw [hanswer] at h
    cases h

/-- A value that cannot be read keeps one line. -/
theorem newline_not_mem_malformed {line reason : String}
    (h : (through stream request).answer = .error (.malformedResponse line reason)) :
    '\n' ∉ line.toList := by
  rcases Exchange.brings_or_fails stream request with ⟨bytes, hbrings⟩ | ⟨e, hanswer⟩
  · rcases answer_of_line hbrings with ⟨v, hanswer⟩ | ⟨t, hanswer, -⟩ | ⟨l, r, hanswer, hline⟩ <;>
      rw [hanswer] at h <;> cases h
    exact hline
  · rw [hanswer] at h
    cases h

/-- **The connection is lost exactly when no whole line comes**, whatever its bytes are. -/
theorem lost_iff_not_brings :
    Lost (through stream request).answer ↔ ¬ ∃ bytes, Brings stream request bytes := by
  constructor
  · rintro hlost ⟨bytes, hbrings⟩
    rcases answer_of_line hbrings with ⟨v, hanswer⟩ | ⟨t, hanswer, -⟩ | ⟨l, r, hanswer, -⟩ <;>
      rw [hanswer] at hlost
    · exact not_lost_ok _ hlost
    · exact not_lost_ok _ hlost
    · exact absurd (lost_error_iff.mp hlost) Bool.false_ne_true
  · intro hnone
    rcases Exchange.brings_or_fails stream request with hbrings | ⟨e, hanswer⟩
    · exact absurd hbrings hnone
    · rw [hanswer]
      exact lost_error_iff.mpr rfl

end Streams

/-! ## 5. A whole session -/

/-- The answer by which a session ends says that the connection failed. -/
theorem lost_of_stops {exchange : Exchange σ Answer} {peer : σ} {lines : List Input.Line}
    {ending : SessionEnd} {last : List RequestLine} (h : Stops exchange peer lines ending last) :
    (ending = .transportLost → last ≠ []) ∧
      ∀ answer ∈ (inTurn exchange last peer).1, Lost answer := by
  cases h with
  | endOfInput | failed | noText | quit =>
    exact ⟨nofun, fun _ h => absurd h List.not_mem_nil⟩
  | transportLost _ _ hlost _ =>
    refine ⟨fun _ => List.cons_ne_nil _ _, fun answer h => ?_⟩
    rw [List.mem_singleton.mp h]
    exact hlost

/-- **The operator sees each answer once, in the order of the requests.** Whatever the input is and
    whatever the exchange answers, a session whose outputs take everything shows the banner and a
    line for each answer that can be shown; and it reports the other failures and the lines that are
    no requests, in the order of the lines up to the one at which it ends. All of it is text. What
    an exchange through a stream brings back is one line, and a session ends by an answer only if
    no whole line came. -/
theorem operator_sees_every_answer (exchange : Exchange σ Answer) (reads : List ReadItem)
    (s : SessionState σ) (hs : s.Unfailing) :
    let outcome := run exchange reads s
    (∃ passed rest last,
      let before := inTurn exchange (passed.filterMap request?) s.peer
      let final := (inTurn exchange last before.2).1
      Course exchange s (Input.lines reads) outcome passed rest last ∧
      Told s outcome.state (banner :: (before.1 ++ final).filterMap shown?)
        (failuresOf exchange s.peer passed ++ final.filterMap reported?) ∧
      (outcome.ending = .transportLost → last ≠ []) ∧ ∀ answer ∈ final, Lost answer) ∧
    (s.out.taken.IsValidUTF8 → s.err.taken.IsValidUTF8 →
      outcome.state.out.taken.IsValidUTF8 ∧ outcome.state.err.taken.IsValidUTF8) ∧
    (∀ stream request text, (through stream request).answer = .ok (.status text) →
      '\n' ∉ text.toList) ∧
    (∀ stream request line reason,
      (through stream request).answer = .error (.malformedResponse line reason) →
        '\n' ∉ line.toList) ∧
    ∀ stream request, Lost (through stream request).answer ↔
      ¬ ∃ bytes, Brings stream request bytes := by
  intro outcome
  have hlines : ∀ bytes, Input.Line.text bytes ∈ Input.lines reads →
      Bytes.newline ∉ bytes.data.toList := fun _ h => Input.newline_not_mem_lines h
  have hrun : outcome = outcomeOf (steps exchange (Input.lines reads) (s.shown banner)) :=
    run_of_unfailing hs reads
  have hbanner : (s.shown banner).Unfailing := by simp [hs]
  obtain ⟨passed, rest, last, hcourse⟩ :=
    steps_course (Input.lines reads) (s.shown banner) hbanner hlines
  rw [← hrun] at hcourse
  have hpassed : ∀ typed ∈ passed, '\n' ∉ typed.toList := by
    intro typed h
    refine mt Bytes.newline_mem_toUTF8.mpr (hlines typed.toUTF8 ?_)
    rw [hcourse.lines_eq]
    exact List.mem_append_left _ (List.mem_map_of_mem h)
  have hrest : ∀ bytes, Input.Line.text bytes ∈ rest → Bytes.newline ∉ bytes.data.toList := by
    intro bytes h
    refine hlines bytes ?_
    rw [hcourse.lines_eq]
    exact List.mem_append_right _ h
  obtain ⟨s', hsteps, hs', hpeer, htold⟩ := told_passed hbanner hpassed hcourse.goesOn
  have hstops := hcourse.stops
  rw [← hpeer] at hstops
  have hfinal := told_stop hs' hstops hrest
  rw [← hsteps rest, ← hcourse.lines_eq, ← hrun, hpeer] at hfinal
  have hwhole := (told_shown s banner).trans (htold.trans hfinal)
  rw [← List.filterMap_append] at hwhole
  have hlost := lost_of_stops hcourse.stops
  refine ⟨⟨passed, rest, last, ?_, hwhole, hlost⟩, hwhole.isValidUTF8, ?_, ?_, ?_⟩
  · exact ⟨hcourse.lines_eq, hcourse.goesOn, hcourse.stops, hcourse.requests, hcourse.peer⟩
  · exact fun _ _ _ => newline_not_mem_status
  · exact fun _ _ _ _ => newline_not_mem_malformed
  · exact fun _ _ => lost_iff_not_brings

theorem operator_sees_every_answer_until_quit :
    (run granting typedUntilQuit { peer := [] }).state.out.taken
      = (asLines [banner, "OK", "OK"]).toUTF8 := by
  obtain ⟨⟨passed, rest, last, hcourse, htold, -⟩, -⟩ :=
    operator_sees_every_answer granting typedUntilQuit { peer := [] } ⟨⟨rfl, rfl⟩, ⟨rfl, rfl⟩⟩
  have hlines := hcourse.lines_eq
  rw [Input.lines_eq_wholeLines chunks_typedUntilQuit] at hlines
  obtain ⟨rfl, rfl⟩ := passed_unique (hlines.symm.trans course_untilQuit.lines_eq) hcourse.goesOn
    course_untilQuit.goesOn hcourse.stops course_untilQuit.stops
  obtain ⟨-, rfl⟩ := stops_unique hcourse.stops course_untilQuit.stops
  have hout := htold.out
  rw [heard_passedUntilQuit] at hout
  exact hout.trans ByteArray.empty_append

end StoreLink.Session
