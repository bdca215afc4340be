import StoreLink.Proofs.InputLines
import StoreLink.Proofs.InTurn
import StoreLink.Proofs.SessionStep

/-!
# What a session sends

As long as its outputs take what they are given, a session is determined by its lines and by the
answers that it gets: it sends what its lines ask for, each line once and in order, up to the first
line that ends it.

* `Stops` are the five ways in which a session comes to its end, `GoesOn` are lines that do not end
  it, and a `Course` is a whole session: lines that it passes, and the stop;
* `step_goesOn`: a line that is passed sends what it asks for, and no more;
* `steps_course`: every session has a course, and `Course.unique`: it has only one;
* **`sent_line_by_line`**: the two together, for the lines of an input.
-/

namespace StoreLink.Session

open Exchange (inTurn)

variable {σ : Type}

/-! ## 1. The course of a session -/

/-- What ends a session at the first of these lines, and the request that is sent for it. -/
inductive Stops (exchange : Exchange σ Answer) (peer : σ) :
    List Input.Line → SessionEnd → List RequestLine → Prop where
  | endOfInput : Stops exchange peer [] .endOfInput []
  | failed (e : IoError) (later : List Input.Line) :
      Stops exchange peer (.failed e :: later) (.failed e) []
  | noText {bytes : ByteArray} (h : ¬ bytes.IsValidUTF8) (later : List Input.Line) :
      Stops exchange peer (.text bytes :: later) (.failed notText) []
  | quit {typed : String} (h : Quits typed) (later : List Input.Line) :
      Stops exchange peer (typedLine typed :: later) .quit []
  | transportLost {typed : String} {request : RequestLine} (hquit : ¬ Quits typed)
      (hrequest : request? typed = some request) (hlost : Lost (exchange request peer).1)
      (later : List Input.Line) :
      Stops exchange peer (typedLine typed :: later) .transportLost [request]

/-- None of these lines ends a session that begins with them. -/
structure GoesOn (exchange : Exchange σ Answer) (peer : σ) (passed : List String) : Prop where
  noQuit : ∀ typed ∈ passed, ¬ Quits typed
  kept : ∀ answer ∈ (inTurn exchange (passed.filterMap request?) peer).1, ¬ Lost answer

/-- A whole session, from the state `s` to its outcome: it passes the lines `passed`, and ends at
    the first of the lines `rest`, for which it still sends `last`. What it sends is what the lines
    that it passes ask for, and then `last`; and these are the exchanges that are made. -/
structure Course (exchange : Exchange σ Answer) (s : SessionState σ) (lines : List Input.Line)
    (outcome : Outcome σ) (passed : List String) (rest : List Input.Line)
    (last : List RequestLine) : Prop where
  lines_eq : lines = passed.map typedLine ++ rest
  goesOn : GoesOn exchange s.peer passed
  stops : Stops exchange (inTurn exchange (passed.filterMap request?) s.peer).2 rest
    outcome.ending last
  requests : outcome.state.requests.toList
    = s.requests.toList ++ passed.filterMap request? ++ last
  peer : outcome.state.peer = (inTurn exchange (passed.filterMap request? ++ last) s.peer).2

/-! ## 2. Lines that are passed -/

section Passed

variable {exchange : Exchange σ Answer} {peer : σ} {typed : String} {passed : List String}

/-- What the exchange comes to by one line. -/
def peerAfter (exchange : Exchange σ Answer) (peer : σ) (typed : String) : σ :=
  (inTurn exchange (request? typed).toList peer).2

/-- What is chosen from a list is what its first item gives, and then the rest. -/
theorem filterMap_cons_toList {α β : Type} (f : α → Option β) (x : α) (l : List α) :
    (x :: l).filterMap f = (f x).toList ++ l.filterMap f := by
  rw [List.filterMap_cons]
  cases f x <;> rfl

/-- The exchanges for lines in a row are those for the first line and those for the others. -/
theorem inTurn_passed_cons (exchange : Exchange σ Answer) (peer : σ) (typed : String)
    (passed : List String) :
    inTurn exchange ((typed :: passed).filterMap request?) peer
      = ((inTurn exchange (request? typed).toList peer).1
            ++ (inTurn exchange (passed.filterMap request?) (peerAfter exchange peer typed)).1,
          (inTurn exchange (passed.filterMap request?) (peerAfter exchange peer typed)).2) := by
  rw [filterMap_cons_toList, Exchange.inTurn_append]
  rfl

theorem goesOn_nil : GoesOn exchange peer [] where
  noQuit _ h := absurd h List.not_mem_nil
  kept _ h := absurd h List.not_mem_nil

/-- **Lines are passed when the first one is, and then the others.** -/
theorem goesOn_cons_iff :
    GoesOn exchange peer (typed :: passed) ↔
      ¬ Quits typed ∧
      (∀ request, request? typed = some request → ¬ Lost (exchange request peer).1) ∧
      GoesOn exchange (peerAfter exchange peer typed) passed := by
  have hfirst : (∀ answer ∈ (inTurn exchange (request? typed).toList peer).1, ¬ Lost answer) ↔
      ∀ request, request? typed = some request → ¬ Lost (exchange request peer).1 := by
    cases request? typed with
    | none => simp
    | some request => simp
  constructor
  · intro h
    have hkept := h.kept
    rw [inTurn_passed_cons] at hkept
    exact ⟨h.noQuit _ List.mem_cons_self,
      hfirst.mp fun answer ha => hkept answer (List.mem_append_left _ ha),
      fun t ht => h.noQuit t (List.mem_cons_of_mem _ ht),
      fun answer ha => hkept answer (List.mem_append_right _ ha)⟩
  · intro h
    obtain ⟨hquit, hkept, hrest⟩ := h
    refine ⟨fun t ht => ?_, fun answer ha => ?_⟩
    · rcases List.mem_cons.mp ht with rfl | ht
      · exact hquit
      · exact hrest.noQuit t ht
    · rw [inTurn_passed_cons] at ha
      rcases List.mem_append.mp ha with ha | ha
      · exact hfirst.mpr hkept answer ha
      · exact hrest.kept answer ha

/-- **A line that is passed sends what it asks for, and no more.** -/
theorem step_goesOn {s : SessionState σ} (hs : s.Unfailing) (hline : '\n' ∉ typed.toList)
    (hquit : ¬ Quits typed)
    (hkept : ∀ request, request? typed = some request → ¬ Lost (exchange request s.peer).1) :
    ∃ s', step exchange (typedLine typed) s = .ok () s' ∧ s'.Unfailing ∧
      s'.requests.toList = s.requests.toList ++ (request? typed).toList ∧
      s'.peer = peerAfter exchange s.peer typed := by
  cases hrequest : request? typed with
  | none =>
    rcases step_of_none exchange hs hline hquit hrequest with hstep | ⟨fault, hstep⟩
    · exact ⟨s, hstep, by simp [hs, peerAfter, hrequest]⟩
    · exact ⟨_, hstep, by simp [hs, peerAfter, hrequest]⟩
  | some request =>
    rcases step_of_request exchange hs hline hquit hrequest with ⟨hlost, -⟩ | ⟨-, hstep⟩
    · exact absurd hlost (hkept request hrequest)
    · exact ⟨_, hstep, by simp [hs, peerAfter, hrequest]⟩

end Passed

/-! ## 3. Every session has a course -/

/-- How a session ended that came to its end, or to the end of its lines. -/
def outcomeOf : EStateM.Result SessionEnd (SessionState σ) Unit → Outcome σ
  | .ok _ s => ⟨.endOfInput, s⟩
  | .error ending s => ⟨ending, s⟩

theorem run_eq (exchange : Exchange σ Answer) (reads : List ReadItem) (s : SessionState σ) :
    run exchange reads s = outcomeOf (converse exchange reads s) := by
  unfold run outcomeOf
  rfl

section Run

variable {exchange : Exchange σ Answer} {s : SessionState σ} {lines : List Input.Line}

/-- Once the banner is shown, a session does what its lines do. -/
theorem run_of_greeted {reads : List ReadItem} {s' : SessionState σ}
    (h : (do say banner; flushOut : Session σ Unit) s = .ok () s') :
    run exchange reads s = outcomeOf (steps exchange (Input.lines reads) s') := by
  have hconverse : converse exchange reads
      = (do (do say banner; flushOut); steps exchange (Input.lines reads)) :=
    (bind_assoc _ _ _).symm
  rw [run_eq, hconverse, bind_of_ok h]

theorem run_of_unfailing (hs : s.Unfailing) (reads : List ReadItem) :
    run exchange reads s = outcomeOf (steps exchange (Input.lines reads) (s.shown banner)) :=
  run_of_greeted (say_flush_eq hs.out banner)

/-- A stop at the first line is a course that passes none. -/
theorem course_of_stops {outcome : Outcome σ} {last : List RequestLine}
    (h : Stops exchange s.peer lines outcome.ending last)
    (hrequests : outcome.state.requests.toList = s.requests.toList ++ last)
    (hpeer : outcome.state.peer = (inTurn exchange last s.peer).2) :
    Course exchange s lines outcome [] lines last where
  lines_eq := rfl
  goesOn := goesOn_nil
  stops := h
  requests := by rw [hrequests, List.filterMap_nil, List.append_nil]
  peer := hpeer

/-- A line that is passed stands before the course of the lines after it. -/
theorem Course.cons {s' : SessionState σ} {typed : String} {outcome : Outcome σ}
    {passed : List String} {rest : List Input.Line} {last : List RequestLine}
    (h : Course exchange s' lines outcome passed rest last) (hquit : ¬ Quits typed)
    (hkept : ∀ request, request? typed = some request → ¬ Lost (exchange request s.peer).1)
    (hrequests : s'.requests.toList = s.requests.toList ++ (request? typed).toList)
    (hpeer : s'.peer = peerAfter exchange s.peer typed) :
    Course exchange s (typedLine typed :: lines) outcome (typed :: passed) rest last where
  lines_eq := by rw [h.lines_eq]; rfl
  goesOn := goesOn_cons_iff.mpr ⟨hquit, hkept, hpeer ▸ h.goesOn⟩
  stops := by
    rw [inTurn_passed_cons, ← hpeer]
    exact h.stops
  requests := by
    rw [h.requests, hrequests, filterMap_cons_toList, List.append_assoc s.requests.toList]
  peer := by
    rw [h.peer, hpeer, filterMap_cons_toList, List.append_assoc,
      Exchange.inTurn_append exchange (request? typed).toList]
    rfl

/-- **The lines of a session come to an end, and the session has a course.** -/
theorem steps_course : ∀ (lines : List Input.Line) (s : SessionState σ), s.Unfailing →
    (∀ bytes, Input.Line.text bytes ∈ lines → Bytes.newline ∉ bytes.data.toList) →
      ∃ passed rest last,
        Course exchange s lines (outcomeOf (steps exchange lines s)) passed rest last
  | [], s, _, _ => ⟨_, _, _, course_of_stops .endOfInput (List.append_nil _).symm rfl⟩
  | .failed e :: later, s, _, _ => by
    rw [steps_of_error exchange (step_of_failed exchange e)]
    exact ⟨_, _, _, course_of_stops (.failed e later) (List.append_nil _).symm rfl⟩
  | .text bytes :: later, s, hs, hlines => by
    by_cases hvalid : bytes.IsValidUTF8
    · obtain ⟨typed, rfl⟩ : ∃ typed : String, bytes = typed.toUTF8 :=
        ⟨String.fromUTF8 bytes hvalid, rfl⟩
      have hline : '\n' ∉ typed.toList := by
        rw [← Bytes.newline_mem_toUTF8]
        exact hlines _ List.mem_cons_self
      show ∃ passed rest last, Course exchange s (typedLine typed :: later)
        (outcomeOf (steps exchange (typedLine typed :: later) s)) passed rest last
      by_cases hquit : Quits typed
      · rw [steps_of_error exchange (step_of_quits exchange hquit)]
        exact ⟨_, _, _, course_of_stops (.quit hquit later) (List.append_nil _).symm rfl⟩
      · by_cases hlost : ∃ request, request? typed = some request ∧ Lost (exchange request s.peer).1
        · obtain ⟨request, hrequest, hlost⟩ := hlost
          rcases step_of_request exchange hs hline hquit hrequest with ⟨-, hstep⟩ | ⟨hkept, -⟩
          · rw [steps_of_error exchange hstep]
            exact ⟨_, _, _, course_of_stops (.transportLost hquit hrequest hlost later)
              (by simp [outcomeOf]) (by simp [outcomeOf])⟩
          · exact absurd hlost hkept
        · have hkept : ∀ request, request? typed = some request →
              ¬ Lost (exchange request s.peer).1 :=
            fun request hrequest hl => hlost ⟨request, hrequest, hl⟩
          obtain ⟨s', hstep, hs', hrequests, hpeer⟩ := step_goesOn hs hline hquit hkept
          obtain ⟨passed, rest, last, hcourse⟩ :=
            steps_course later s' hs' fun b hb => hlines b (List.mem_cons_of_mem _ hb)
          rw [steps_of_ok exchange hstep]
          exact ⟨_, _, _, hcourse.cons hquit hkept hrequests hpeer⟩
    · rw [steps_of_error exchange (step_of_noText exchange hvalid)]
      exact ⟨_, _, _, course_of_stops (.noText hvalid later) (List.append_nil _).symm rfl⟩

end Run

/-! ## 4. A session has only one course -/

section Unique

variable {exchange : Exchange σ Answer} {peer : σ} {lines : List Input.Line}

theorem typedLine_inj {typed typed' : String} (h : typedLine typed = typedLine typed') :
    typed = typed' := by
  simpa [typedLine] using h

/-- A line that is a text ends a session in one of two ways. -/
theorem stops_typedLine {typed : String} {later : List Input.Line} {ending : SessionEnd}
    {last : List RequestLine} (h : Stops exchange peer (typedLine typed :: later) ending last) :
    (Quits typed ∧ ending = .quit ∧ last = []) ∨
      ∃ request, ¬ Quits typed ∧ request? typed = some request ∧ Lost (exchange request peer).1 ∧
        ending = .transportLost ∧ last = [request] := by
  generalize hlines : typedLine typed :: later = lines at h
  cases h with
  | endOfInput => cases hlines
  | failed e later => cases hlines
  | noText hinvalid later =>
    cases hlines
    exact absurd typed.isValidUTF8 hinvalid
  | quit hquit later =>
    rw [typedLine_inj (List.cons.inj hlines).1]
    exact .inl ⟨hquit, rfl, rfl⟩
  | transportLost hquit hrequest hlost later =>
    rw [typedLine_inj (List.cons.inj hlines).1]
    exact .inr ⟨_, hquit, hrequest, hlost, rfl, rfl⟩

/-- A line that is no text ends a session in one way. -/
theorem stops_noText {bytes : ByteArray} (hinvalid : ¬ bytes.IsValidUTF8)
    {later : List Input.Line} {ending : SessionEnd} {last : List RequestLine}
    (h : Stops exchange peer (.text bytes :: later) ending last) :
    ending = .failed notText ∧ last = [] := by
  generalize hlines : Input.Line.text bytes :: later = lines at h
  cases h with
  | endOfInput => cases hlines
  | failed e later => cases hlines
  | noText _ later => exact ⟨rfl, rfl⟩
  | quit _ later =>
    cases hlines
    exact absurd (String.isValidUTF8 _) hinvalid
  | transportLost _ _ _ later =>
    cases hlines
    exact absurd (String.isValidUTF8 _) hinvalid

/-- **A session stops at a line in one way at most.** -/
theorem stops_unique {ending ending' : SessionEnd} {last last' : List RequestLine}
    (h : Stops exchange peer lines ending last) (h' : Stops exchange peer lines ending' last') :
    ending = ending' ∧ last = last' := by
  cases h with
  | endOfInput =>
    cases h'
    exact ⟨rfl, rfl⟩
  | failed e later =>
    cases h'
    exact ⟨rfl, rfl⟩
  | noText hinvalid later =>
    obtain ⟨hending, hlast⟩ := stops_noText hinvalid h'
    exact ⟨hending.symm, hlast.symm⟩
  | quit hquit later =>
    rcases stops_typedLine h' with ⟨-, hending, hlast⟩ | ⟨request, hno, -⟩
    · exact ⟨hending.symm, hlast.symm⟩
    · exact absurd hquit hno
  | transportLost hquit hrequest hlost later =>
    rcases stops_typedLine h' with ⟨hquits, -⟩ | ⟨request, -, hrequest', -, hending, hlast⟩
    · exact absurd hquits hquit
    · rw [hrequest, Option.some.injEq] at hrequest'
      rw [hrequest', hending, hlast]
      exact ⟨rfl, rfl⟩

/-- A session does not stop at a line that it passes. -/
theorem not_stops_of_goesOn {typed : String} {passed : List String} {later : List Input.Line}
    {ending : SessionEnd} {last : List RequestLine}
    (hgoes : GoesOn exchange peer (typed :: passed)) :
    ¬ Stops exchange peer (typedLine typed :: later) ending last := by
  obtain ⟨hquit, hkept, -⟩ := goesOn_cons_iff.mp hgoes
  intro h
  rcases stops_typedLine h with ⟨hquits, -⟩ | ⟨request, -, hrequest, hlost, -⟩
  · exact hquit hquits
  · exact hkept request hrequest hlost

/-- **Two courses of the same lines pass the same of them.** -/
theorem passed_unique : ∀ {passed passed' : List String} {rest rest' : List Input.Line} {peer : σ}
    {ending ending' : SessionEnd} {last last' : List RequestLine},
    passed.map typedLine ++ rest = passed'.map typedLine ++ rest' →
    GoesOn exchange peer passed → GoesOn exchange peer passed' →
    Stops exchange (inTurn exchange (passed.filterMap request?) peer).2 rest ending last →
    Stops exchange (inTurn exchange (passed'.filterMap request?) peer).2 rest' ending' last' →
      passed = passed' ∧ rest = rest'
  | [], [], _, _, _, _, _, _, _, hlines, _, _, _, _ => ⟨rfl, hlines⟩
  | [], typed :: passed', _, _, _, _, _, _, _, hlines, _, hgoes', hstops, _ => by
    subst hlines
    exact absurd hstops (not_stops_of_goesOn hgoes')
  | typed :: passed, [], _, _, _, _, _, _, _, hlines, hgoes, _, _, hstops' => by
    subst hlines
    exact absurd hstops' (not_stops_of_goesOn hgoes)
  | typed :: passed, typed' :: passed', _, _, _, _, _, _, _, hlines, hgoes, hgoes', hstops,
      hstops' => by
    obtain ⟨hfirst, hothers⟩ := List.cons.inj hlines
    obtain rfl := typedLine_inj hfirst
    rw [inTurn_passed_cons] at hstops hstops'
    obtain ⟨rfl, hrest⟩ := passed_unique hothers (goesOn_cons_iff.mp hgoes).2.2
      (goesOn_cons_iff.mp hgoes').2.2 hstops hstops'
    exact ⟨rfl, hrest⟩

/-- **The course of a session says how it ends, what it sends, and what the exchange comes to.** -/
theorem Course.unique {s : SessionState σ} {outcome outcome' : Outcome σ}
    {passed passed' : List String} {rest rest' : List Input.Line} {last last' : List RequestLine}
    (h : Course exchange s lines outcome passed rest last)
    (h' : Course exchange s lines outcome' passed' rest' last') :
    outcome.ending = outcome'.ending ∧
      outcome.state.requests = outcome'.state.requests ∧
      outcome.state.peer = outcome'.state.peer := by
  obtain ⟨rfl, rfl⟩ := passed_unique (h.lines_eq.symm.trans h'.lines_eq) h.goesOn h'.goesOn
    h.stops h'.stops
  obtain ⟨hending, rfl⟩ := stops_unique h.stops h'.stops
  refine ⟨hending, ?_, ?_⟩
  · rw [← Array.toList_inj, h.requests, h'.requests]
  · rw [h.peer, h'.peer]

end Unique

/-! ## 5. The session of an input -/

/-- **Every session has a course**, whose lines are those of the bytes that arrive. -/
theorem exists_course (exchange : Exchange σ Answer) {reads : List ReadItem}
    (hchunks : ∀ bytes, ReadItem.chunk bytes ∈ reads → bytes.isEmpty = false)
    {s : SessionState σ} (hs : s.Unfailing) :
    ∃ passed rest last, Course exchange s
      (Input.wholeLines (Stream.arriving reads).data.toList (Stream.breakdown? reads))
      (run exchange reads s) passed rest last := by
  obtain ⟨passed, rest, last, h⟩ := steps_course
    (Input.wholeLines (Stream.arriving reads).data.toList (Stream.breakdown? reads))
    (s.shown banner) (by simp [hs]) fun bytes hbytes => Input.newline_not_mem_wholeLines hbytes
  rw [run_of_unfailing hs, Input.lines_eq_wholeLines hchunks]
  exact ⟨passed, rest, last, h.lines_eq, h.goesOn, h.stops, h.requests, h.peer⟩

/-- **A session sends what its lines ask for, line by line.** Its lines are those of the bytes that
    arrive, however they are cut into reads. Every session has a course, and no other: it passes
    lines that neither quit nor lose the connection, sends for each what is left after trimming, and
    ends at the first line that is no text, that asks to quit or that loses the connection, at the
    failure of a read, or with the input. -/
theorem sent_line_by_line (exchange : Exchange σ Answer) (reads : List ReadItem)
    (hchunks : ∀ bytes, ReadItem.chunk bytes ∈ reads → bytes.isEmpty = false)
    (s : SessionState σ) (hs : s.Unfailing) :
    let lines := Input.wholeLines (Stream.arriving reads).data.toList (Stream.breakdown? reads)
    (∃ passed rest last, Course exchange s lines (run exchange reads s) passed rest last) ∧
    (∀ outcome passed rest last, Course exchange s lines outcome passed rest last →
      (run exchange reads s).ending = outcome.ending ∧
      (run exchange reads s).state.requests = outcome.state.requests ∧
      (run exchange reads s).state.peer = outcome.state.peer) ∧
    (∀ typed request, request? typed = some request → request.text = Text.trim typed) ∧
    notText.kind = .invalidData := by
  intro lines
  have hcourse : ∃ passed rest last,
      Course exchange s lines (run exchange reads s) passed rest last :=
    exists_course exchange hchunks hs
  refine ⟨hcourse, fun outcome passed rest last h => ?_, fun _ _ => text_of_request, rfl⟩
  obtain ⟨passed', rest', last', h'⟩ := hcourse
  exact h'.unique h

/-- An exchange that grants every request and keeps what it was asked. -/
def granting : Exchange (List String) Answer :=
  fun request heard => (.ok (.status "OK"), heard ++ [request.text])

/-- Four lines, one of them blank and one with a carriage return inside, and then one that quits;
    they come in two reads, which cut a line. -/
def typedUntilQuit : List ReadItem :=
  [.chunk "GET a\r\n \nS".toUTF8, .failure (.ofKind .interrupted),
    .chunk "ET\rb\nDEL b\n Quit\rnow\nGET c".toUTF8]

theorem chunks_typedUntilQuit :
    ∀ bytes, ReadItem.chunk bytes ∈ typedUntilQuit → bytes.isEmpty = false := by
  intro bytes h
  simp only [typedUntilQuit, List.mem_cons, List.not_mem_nil, or_false, ReadItem.chunk.injEq,
    reduceCtorEq, false_or] at h
  rcases h with rfl | rfl <;> rfl

/-- The lines of it that are passed. -/
def passedUntilQuit : List String :=
  ["GET a", " ", "SET\rb", "DEL b"]

theorem requests_passedUntilQuit :
    passedUntilQuit.filterMap request?
      = [RequestLine.terminated "GET a", RequestLine.terminated "DEL b"] := by
  have hget : Text.trim "GET a" = "GET a" := Text.trim_of_trimmed (by decide)
  have hblank : Text.trim " " = "" := by
    rw [← String.toList_inj, Text.toList_trim]
    decide
  have hset : Text.trim "SET\rb" = "SET\rb" := Text.trim_of_trimmed (by decide)
  have hdel : Text.trim "DEL b" = "DEL b" := Text.trim_of_trimmed (by decide)
  simp only [passedUntilQuit, List.filterMap_cons, request?, hget, hblank, hset, hdel]
  rfl

theorem heard_passedUntilQuit :
    inTurn granting (passedUntilQuit.filterMap request?) []
      = ([.ok (.status "OK"), .ok (.status "OK")], ["GET a", "DEL b"]) := by
  have hget : (RequestLine.terminated "GET a").text = "GET a" :=
    RequestLine.text_terminated (by decide)
  have hdel : (RequestLine.terminated "DEL b").text = "DEL b" :=
    RequestLine.text_terminated (by decide)
  simp only [requests_passedUntilQuit, inTurn, granting, hget, hdel]
  rfl

theorem course_untilQuit :
    Course granting { peer := [] }
      (Input.wholeLines (Stream.arriving typedUntilQuit).data.toList
        (Stream.breakdown? typedUntilQuit))
      { ending := .quit
        state :=
          { peer := ["GET a", "DEL b"]
            requests := #[RequestLine.terminated "GET a", RequestLine.terminated "DEL b"] } }
      passedUntilQuit [typedLine " Quit\rnow", typedLine "GET c"] [] where
  lines_eq := rfl
  goesOn :=
    { noQuit := by decide
      kept := by
        rw [heard_passedUntilQuit]
        intro answer h
        simp only [List.mem_cons, List.not_mem_nil, or_false, or_self] at h
        rw [h]
        exact not_lost_ok _ }
  stops := .quit (by decide) _
  requests := by rw [requests_passedUntilQuit]; rfl
  peer := by rw [List.append_nil, heard_passedUntilQuit]

theorem ending_untilQuit : (run granting typedUntilQuit { peer := [] }).ending = .quit := by
  have hfree : ({ peer := [] } : SessionState (List String)).Unfailing :=
    ⟨⟨rfl, rfl⟩, ⟨rfl, rfl⟩⟩
  obtain ⟨_, _, _, h⟩ := exists_course granting chunks_typedUntilQuit hfree
  exact (h.unique course_untilQuit).1

theorem sent_line_by_line_until_quit :
    (∀ bytes, ReadItem.chunk bytes ∈ typedUntilQuit → bytes.isEmpty = false) ∧
    (run granting typedUntilQuit { peer := [] }).ending = .quit ∧
    (run granting typedUntilQuit { peer := [] }).state.peer = ["GET a", "DEL b"] := by
  obtain ⟨-, hone, -⟩ := sent_line_by_line granting typedUntilQuit chunks_typedUntilQuit
    { peer := [] } ⟨⟨rfl, rfl⟩, ⟨rfl, rfl⟩⟩
  obtain ⟨hending, -, hpeer⟩ := hone _ _ _ _ course_untilQuit
  exact ⟨chunks_typedUntilQuit, hending, hpeer⟩

end StoreLink.Session
