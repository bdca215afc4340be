import StoreLink.Proofs.SessionDeeds

/-!
# Sessions whose outputs fail

A session with an output that fails is compared with the same session when no output fails: it does
the same up to the failure, and then nothing more. So what the outputs took and what was sent is the
beginning of what they would have taken and what would have been sent.

* `Twin`: two states that differ in what their outputs will still take, and in nothing else, where
  one of them will take everything; `Behind`: what one state has is the beginning of what the other
  has;
* `twin_after`, `behind_after`: what one deed does to two such states;
* `performAll_twin`: what deeds in a row do to them;
* **`failing_outputs_lose_nothing_before`**: what follows for a whole session.
-/

namespace StoreLink

/-! ## 1. What an output takes -/

namespace Output

/-- The output, but that it takes whatever it is given. -/
def unlimited (output : Output) : Output :=
  { output with room := none, flushes := none }

variable {output : Output} {bytes : ByteArray}

/-- **A write that fails takes a beginning of its bytes.** -/
theorem taken_write_prefix (output : Output) (bytes : ByteArray) :
    (output.write bytes).2.taken.data.toList <+: (output.taken ++ bytes).data.toList := by
  rw [write]
  split
  · exact List.prefix_rfl
  · rename_i room _
    have hroom : (bytes.extract 0 room).data.toList <+: bytes.data.toList := by
      rw [Bytes.toList_extract]
      exact List.take_prefix _ _
    simpa using hroom

/-- A write that does not fail takes all. -/
theorem taken_write (h : (output.write bytes).1 = none) :
    (output.write bytes).2.taken = output.taken ++ bytes := by
  rw [write] at h ⊢
  split at h
  · rfl
  · rename_i room _
    have hfits : bytes.size ≤ room := by
      by_cases hfits : bytes.size ≤ room
      · exact hfits
      · simp [if_neg hfits] at h
    show output.taken ++ bytes.extract 0 room = output.taken ++ bytes
    rw [← Nat.max_eq_left hfits, ByteArray.extract_zero_max_size]

@[simp] theorem taken_flush (output : Output) : output.flush.2.taken = output.taken := by
  rw [flush]
  split <;> rfl

end Output

/-- The session's state, but that its outputs take whatever they are given. -/
def SessionState.unlimited {σ : Type} (s : SessionState σ) : SessionState σ :=
  { s with out := s.out.unlimited, err := s.err.unlimited }

theorem SessionState.unfailing_unlimited {σ : Type} (s : SessionState σ) :
    s.unlimited.Unfailing :=
  ⟨⟨rfl, rfl⟩, ⟨rfl, rfl⟩⟩

namespace Session

open Exchange (inTurn)
open Deed (performAll Strikes)

variable {σ : Type} {exchange : Exchange σ Answer} {s s' u : SessionState σ}

/-! ## 2. Two states, one of which takes everything -/

/-- The states have the same, and the outputs of the second take whatever they are given. -/
structure Twin (s u : SessionState σ) : Prop where
  free : u.Unfailing
  out : s.out.taken = u.out.taken
  err : s.err.taken = u.err.taken
  requests : s.requests = u.requests
  peer : s.peer = u.peer

/-- What the first state has is the beginning of what the second has. -/
structure Behind (s u : SessionState σ) : Prop where
  out : s.out.taken.data.toList <+: u.out.taken.data.toList
  err : s.err.taken.data.toList <+: u.err.taken.data.toList
  requests : s.requests.toList <+: u.requests.toList

theorem Twin.behind (h : Twin s u) : Behind s u where
  out := h.out ▸ List.prefix_rfl
  err := h.err ▸ List.prefix_rfl
  requests := h.requests ▸ List.prefix_rfl

theorem Behind.trans {v : SessionState σ} (h : Behind s u) (h' : Behind u v) : Behind s v where
  out := h.out.trans h'.out
  err := h.err.trans h'.err
  requests := h.requests.trans h'.requests

theorem twin_unlimited (s : SessionState σ) : Twin s s.unlimited where
  free := s.unfailing_unlimited
  out := rfl
  err := rfl
  requests := rfl
  peer := rfl

/-! ## 3. One deed -/

section Free

variable (h : u.Unfailing)

include h

/-- No deed fails on outputs that take everything. -/
@[simp] theorem failure?_of_unfailing (deed : Deed) : deed.failure? u = none := by
  cases deed <;> simp [Deed.failure?, h.out, h.err]

@[simp] theorem after_say (line : String) : (Deed.say line).after exchange u = u.shown line := by
  simp [Deed.after, h.out, SessionState.shown]

@[simp] theorem after_report (e : LinkError) :
    (Deed.report e).after exchange u = u.reported e := by
  simp [Deed.after, h.err, SessionState.reported]

@[simp] theorem after_flushOut : Deed.flushOut.after exchange u = u := by
  simp [Deed.after, h.out]

@[simp] theorem after_flushErr : Deed.flushErr.after exchange u = u := by
  simp [Deed.after, h.err]

end Free

@[simp] theorem after_ask (request : RequestLine) :
    (Deed.ask request).after exchange s = s.asked exchange request := rfl

/-- After a deed, outputs that take everything still do, and have what they had before. -/
theorem free_after (exchange : Exchange σ Answer) (h : u.Unfailing) (deed : Deed) :
    (deed.after exchange u).Unfailing ∧ Behind u (deed.after exchange u) := by
  constructor
  · cases deed <;> simp [h]
  · constructor <;> cases deed <;> simp [h]

/-- **A deed that does not fail does the same to both.** -/
theorem twin_after (h : Twin s u) {deed : Deed} (hnone : deed.failure? s = none) :
    Twin (deed.after exchange s) (deed.after exchange u) := by
  have hfree := (free_after exchange h.free deed).1
  cases deed with
  | say line =>
    have hwritten : ((Deed.say line).after exchange s).out.taken
        = s.out.taken ++ (line.push '\n').toUTF8 := Output.taken_write hnone
    exact ⟨hfree, by simp [hwritten, h.free, h.out], h.err, h.requests, h.peer⟩
  | report e =>
    have hwritten : ((Deed.report e).after exchange s).err.taken
        = s.err.taken ++ (("error: " ++ e.message).push '\n').toUTF8 := Output.taken_write hnone
    exact ⟨hfree, h.out, by simp [hwritten, h.free, h.err], h.requests, h.peer⟩
  | flushOut => exact ⟨hfree, by simp [Deed.after, h.out], h.err, h.requests, h.peer⟩
  | flushErr => exact ⟨hfree, h.out, by simp [Deed.after, h.err], h.requests, h.peer⟩
  | ask request =>
    exact ⟨hfree, h.out, h.err, by simp [h.requests], by simp [h.peer]⟩

/-- **A deed that fails does a part of it.** -/
theorem behind_after (h : Twin s u) (deed : Deed) :
    Behind (deed.after exchange s) (deed.after exchange u) := by
  cases deed with
  | say line =>
    refine ⟨?_, h.behind.err, h.behind.requests⟩
    simpa [Deed.after, h.free.out, h.out] using s.out.taken_write_prefix (line.push '\n').toUTF8
  | report e =>
    refine ⟨h.behind.out, ?_, h.behind.requests⟩
    simpa [Deed.after, h.free.err, h.err] using
      s.err.taken_write_prefix (("error: " ++ e.message).push '\n').toUTF8
  | flushOut => exact ⟨by simp [Deed.after, h.out], h.behind.err, h.behind.requests⟩
  | flushErr => exact ⟨h.behind.out, by simp [Deed.after, h.err], h.behind.requests⟩
  | ask request => exact (twin_after h rfl).behind

/-! ## 4. Deeds in a row -/

/-- Deeds in a row do not fail on outputs that take everything. -/
theorem performAll_free : ∀ (deeds : List Deed) {u : SessionState σ}, u.Unfailing →
    ∃ u', performAll exchange deeds u = .ok () u' ∧ Behind u u'
  | [], u, _ => ⟨u, rfl, List.prefix_rfl, List.prefix_rfl, List.prefix_rfl⟩
  | deed :: later, u, h => by
    obtain ⟨hafter, hgrows⟩ := free_after exchange h deed
    obtain ⟨u', hdone, hbehind⟩ := performAll_free later hafter
    rw [Deed.performAll_of_none (failure?_of_unfailing h deed)]
    exact ⟨u', hdone, hgrows.trans hbehind⟩

/-- **Deeds in a row do the same to both**, unless one fails, and then a part of it. -/
theorem performAll_twin (exchange : Exchange σ Answer) : ∀ (deeds : List Deed)
    {s u : SessionState σ}, Twin s u →
    ∃ u', performAll exchange deeds u = .ok () u' ∧
      match performAll exchange deeds s with
      | .ok _ s' => Twin s' u'
      | .error _ s' => Behind s' u'
  | [], _, u, h => ⟨u, rfl, h⟩
  | deed :: later, s, u, h => by
    rw [Deed.performAll_of_none (failure?_of_unfailing h.free deed)]
    cases hfailure : deed.failure? s with
    | none =>
      rw [Deed.performAll_of_none hfailure]
      exact performAll_twin exchange later (twin_after h hfailure)
    | some e =>
      rw [Deed.performAll_of_some hfailure]
      obtain ⟨u', hdone, hgrows⟩ :=
        performAll_free later (free_after exchange h.free deed).1
      exact ⟨u', hdone, (behind_after h deed).trans hgrows⟩

/-! ## 5. A whole session -/

/-- What a session does, whatever its outputs take or refuse: the banner, which is flushed, and the
    deeds that its lines and the answers come to. -/
def script (deeds : List Deed) : List Deed :=
  .say banner :: .flushOut :: deeds

/-- **A session is a list of deeds and an ending**, and neither depends on its outputs. -/
theorem exists_script (exchange : Exchange σ Answer) (reads : List ReadItem) (peer : σ) :
    ∃ deeds ending, ∀ s : SessionState σ, s.peer = peer →
      run exchange reads s
        = outcomeOf ((do performAll exchange (script deeds); stop ending : Session σ Unit) s) := by
  obtain ⟨deeds, conclusion, hdeeds⟩ := scripted_steps (Input.lines reads) peer
  have hopening : Does exchange peer (do say banner; flushOut : Session σ Unit)
      [.say banner, .flushOut] (.ok ()) :=
    does_bind (does_deed (.say banner)) (does_deed .flushOut)
  have hwhole : Does exchange peer (converse exchange reads) (script deeds) conclusion := by
    have h := does_bind hopening (f := fun _ => steps exchange (Input.lines reads)) hdeeds
    rw [bind_assoc] at h
    exact h
  cases conclusion with
  | error ending =>
    refine ⟨deeds, ending, fun s hs => ?_⟩
    rw [run_eq, hwhole s hs]
    rfl
  | ok _ =>
    refine ⟨deeds, .endOfInput, fun s hs => ?_⟩
    rw [run_eq, hwhole s hs]
    cases hdone : performAll exchange (script deeds) s with
    | ok _ s' =>
      rw [bind_of_ok hdone, bind_of_ok hdone]
      rfl
    | error ending s' => rw [bind_of_error hdone, bind_of_error hdone]

section Outcomes

variable {reads : List ReadItem} {deeds : List Deed} {ending : SessionEnd}

/-- **A deed that fails ends the session with its failure**, and nothing is asked after it. -/
theorem outcome_of_strikes
    (hrun : run exchange reads s
      = outcomeOf ((do performAll exchange (script deeds); stop ending : Session σ Unit) s))
    {s₁ : SessionState σ} {e : IoError} (h : Strikes exchange (script deeds) s s₁ e) :
    (run exchange reads s).ending = .failed e ∧
      (run exchange reads s).state.requests = s₁.requests ∧
      (run exchange reads s).state.peer = s₁.peer := by
  obtain ⟨s', hdone, hrequests, hpeer⟩ := Deed.performAll_of_strikes h
  rw [hrun, bind_of_error hdone]
  exact ⟨rfl, hrequests, hpeer⟩

/-- A session without a deed that fails ends as its script does. -/
theorem outcome_of_done
    (hrun : run exchange reads s
      = outcomeOf ((do performAll exchange (script deeds); stop ending : Session σ Unit) s))
    (hdone : performAll exchange (script deeds) s = .ok () s') :
    run exchange reads s = ⟨ending, s'⟩ := by
  rw [hrun, bind_of_ok hdone]
  rfl

end Outcomes

/-- **A failing output ends a session at once, and nothing before it is lost.** What the outputs
    took and what was sent is the beginning of what it is when no output fails, and the exchanges
    made are those for what was sent. Whatever the outputs are, the session goes through the same
    deeds. If one of them fails, the session ends with just this failure, and nothing is asked
    after it; if none does, the session is the one in which no output fails. When the banner cannot
    be shown, nothing is sent. -/
theorem failing_outputs_lose_nothing_before (exchange : Exchange σ Answer) (reads : List ReadItem)
    (s : SessionState σ) :
    let outcome := run exchange reads s
    let free := run exchange reads s.unlimited
    let shown := s.out.write (banner.push '\n').toUTF8
    Behind outcome.state free.state ∧
    (∃ made, outcome.state.requests.toList = s.requests.toList ++ made ∧
      outcome.state.peer = (inTurn exchange made s.peer).2) ∧
    (∃ deeds ending,
      (∀ s' : SessionState σ, s'.peer = s.peer → run exchange reads s'
        = outcomeOf ((do performAll exchange (script deeds); stop ending : Session σ Unit) s')) ∧
      (∀ s₁ e, Strikes exchange (script deeds) s s₁ e →
        outcome.ending = .failed e ∧ outcome.state.requests = s₁.requests ∧
          outcome.state.peer = s₁.peer) ∧
      ((∀ s₁ e, ¬ Strikes exchange (script deeds) s s₁ e) →
        outcome.ending = free.ending ∧ Twin outcome.state free.state)) ∧
    (∀ e, shown.1 = some e ∨ shown.1 = none ∧ shown.2.flush.1 = some e →
      outcome.ending = .failed e ∧ outcome.state.requests = s.requests ∧
        outcome.state.peer = s.peer) := by
  intro outcome free shown
  obtain ⟨deeds, ending, hscript⟩ := exists_script exchange reads s.peer
  have hrun := hscript s rfl
  obtain ⟨u, hfree, hcompared⟩ :=
    performAll_twin exchange (script deeds) (twin_unlimited s)
  have hends : free = ⟨ending, u⟩ := outcome_of_done (hscript s.unlimited rfl) hfree
  have hstruck : ∀ s₁ e, Strikes exchange (script deeds) s s₁ e →
      outcome.ending = .failed e ∧ outcome.state.requests = s₁.requests ∧
        outcome.state.peer = s₁.peer := fun _ _ h => outcome_of_strikes hrun h
  have hspared : (∀ s₁ e, ¬ Strikes exchange (script deeds) s s₁ e) →
      ∃ s', performAll exchange (script deeds) s = .ok () s' ∧ outcome = ⟨ending, s'⟩ := by
    intro hnone
    obtain ⟨s', hdone⟩ := Deed.performAll_of_no_strike (script deeds) s hnone
    exact ⟨s', hdone, outcome_of_done hrun hdone⟩
  refine ⟨?_, ?_, ⟨deeds, ending, hscript, hstruck, ?_⟩, ?_⟩
  · rw [hends]
    show Behind (run exchange reads s).state u
    rw [hrun]
    cases hdone : performAll exchange (script deeds) s with
    | ok _ s' =>
      rw [hdone] at hcompared
      rw [bind_of_ok hdone]
      exact hcompared.behind
    | error _ s' =>
      rw [hdone] at hcompared
      rw [bind_of_error hdone]
      exact hcompared
  · by_cases hstrikes : ∃ s₁ e, Strikes exchange (script deeds) s s₁ e
    · obtain ⟨s₁, e, h⟩ := hstrikes
      obtain ⟨-, hrequests, hpeer⟩ := hstruck s₁ e h
      obtain ⟨front, hfront⟩ := h.done
      rw [hrequests, hpeer]
      exact ⟨_, Deed.sent_of_performAll hfront⟩
    · obtain ⟨s', hdone, houtcome⟩ := hspared fun s₁ e h => hstrikes ⟨s₁, e, h⟩
      rw [houtcome]
      exact ⟨_, Deed.sent_of_performAll hdone⟩
  · intro hnone
    obtain ⟨s', hdone, houtcome⟩ := hspared hnone
    rw [hdone] at hcompared
    rw [houtcome, hends]
    exact ⟨rfl, hcompared⟩
  · intro e hbanner
    rcases hbanner with hwrite | ⟨hwrite, hflush⟩
    · have hsay : (Deed.say banner).failure? s = some e := hwrite
      exact hstruck s e (.here hsay _)
    · have hsay : (Deed.say banner).failure? s = none := hwrite
      have hflushed : Deed.flushOut.failure? ((Deed.say banner).after exchange s) = some e := hflush
      exact hstruck ((Deed.say banner).after exchange s) e (.later hsay (.here hflushed _))

/-- A session whose output grants one flush: that of the banner. -/
def oneFlush : SessionState (List String) where
  peer := []
  out := { flushes := some 1 }

/-- `GET a` is sent then, but its answer cannot be flushed. -/
theorem run_oneFlush : ∃ s', run granting typedUntilQuit oneFlush = ⟨.failed (.ofKind .other), s'⟩ ∧
    s'.requests = #[.terminated "GET a"] := by
  have htrim : Text.trim "GET a" = "GET a" := Text.trim_of_trimmed (by decide)
  have hwish : wish "GET a" = .send (.terminated "GET a") :=
    wish_of_request (by decide) (by decide) (by simp [request?, htrim])
  have hlines := course_untilQuit.lines_eq
  rw [← Input.lines_eq_wholeLines chunks_typedUntilQuit] at hlines
  rw [run_of_greeted rfl, hlines]
  show ∃ s', outcomeOf (steps granting (typedLine "GET a" :: _) _) = _ ∧ _
  rw [steps, step_text, hwish]
  exact ⟨_, rfl, rfl⟩

/-- The output takes five bytes, and the session ends within the banner; or it grants one flush, and
    the session ends at the first answer, which it has asked for. -/
theorem failing_outputs_lose_nothing_before_five :
    let short := run granting typedUntilQuit { peer := [], out := { room := some 5 } }
    let unflushed := run granting typedUntilQuit oneFlush
    (short.ending = .failed (.ofKind .other) ∧ short.state.requests = #[] ∧
      short.state.peer = []) ∧
    ∃ deeds s₁ e, Strikes granting (script deeds) oneFlush s₁ e ∧
      s₁.requests = #[.terminated "GET a"] ∧ unflushed.ending = .failed e ∧
      unflushed.state.requests = s₁.requests ∧ unflushed.state.peer = s₁.peer := by
  intro short unflushed
  constructor
  · obtain ⟨-, -, -, hbanner⟩ := failing_outputs_lose_nothing_before granting typedUntilQuit
      { peer := [], out := { room := some 5 } }
    exact hbanner (.ofKind .other) (.inl rfl)
  · obtain ⟨-, -, ⟨deeds, _, -, hstruck, hspared⟩, -⟩ :=
      failing_outputs_lose_nothing_before granting typedUntilQuit oneFlush
    obtain ⟨s', hrun, hrequests⟩ := run_oneFlush
    -- had no deed failed, the session would have ended as it does when no output fails
    have hstrikes : ∃ s₁ e, Strikes granting (script deeds) oneFlush s₁ e := by
      refine Classical.byContradiction fun hnone => ?_
      obtain ⟨hending, -⟩ := hspared fun s₁ e h => hnone ⟨s₁, e, h⟩
      have hquit : (run granting typedUntilQuit oneFlush.unlimited).ending = .quit :=
        ending_untilQuit
      rw [hrun, hquit] at hending
      cases hending
    obtain ⟨s₁, e, hstrikes⟩ := hstrikes
    obtain ⟨hending, hsame, hpeer⟩ := hstruck s₁ e hstrikes
    refine ⟨deeds, s₁, e, hstrikes, ?_, hending, hsame, hpeer⟩
    rw [← hsame, hrun]
    exact hrequests

end Session

end StoreLink
