import StoreLink.Proofs.SessionRequests

/-!
# What a session does

Whatever its outputs take or refuse, a session does one thing after the other to the world outside:
it shows, reports, flushes and asks. Which things these are, and in which order, depends on the
lines and on the answers alone; an output that fails only decides how far the session gets.

* `Deed` is one such thing, `Deed.perform` does it, and `Deed.perform_eq` says what it does: it
  leaves `Deed.after`, and fails with `Deed.failure?`;
* `Strikes`: the first of some deeds that fails. `performAll_of_strikes` and
  `performAll_of_no_strike` say what becomes of deeds in a row with it and without;
* `Does`: a part of a session is some deeds and a conclusion, whatever the outputs are, and
  **`scripted_step`**, **`scripted_steps`**: each line is that, and so are all of them.
-/

namespace StoreLink.Session

open Exchange (inTurn)

variable {σ : Type}

/-! ## 1. Deeds -/

/-- One thing that a session does to the world outside. -/
inductive Deed where
  | say (line : String)
  | flushOut
  | report (e : LinkError)
  | flushErr
  | ask (request : RequestLine)

namespace Deed

/-- Does it. -/
def perform (exchange : Exchange σ Answer) : Deed → Session σ Unit
  | .say line => Session.say line
  | .flushOut => Session.flushOut
  | .report e => Session.report e
  | .flushErr => Session.flushErr
  | .ask request => do
    let _ ← Session.ask exchange request
    return ()

/-- What it fails with: the failure of the write or flush that it is. -/
def failure? (s : SessionState σ) : Deed → Option IoError
  | .say line => (s.out.write (line.push '\n').toUTF8).1
  | .flushOut => s.out.flush.1
  | .report e => (s.err.write (("error: " ++ e.message).push '\n').toUTF8).1
  | .flushErr => s.err.flush.1
  | .ask _ => none

/-- The state that it leaves, also when it fails. -/
def after (exchange : Exchange σ Answer) (s : SessionState σ) : Deed → SessionState σ
  | .say line => { s with out := (s.out.write (line.push '\n').toUTF8).2 }
  | .flushOut => { s with out := s.out.flush.2 }
  | .report e => { s with err := (s.err.write (("error: " ++ e.message).push '\n').toUTF8).2 }
  | .flushErr => { s with err := s.err.flush.2 }
  | .ask request => s.asked exchange request

/-- The request that it sends. -/
def request? : Deed → Option RequestLine
  | .ask request => some request
  | _ => none

variable {exchange : Exchange σ Answer} {s s' s₁ : SessionState σ} {e : IoError}

theorem perform_eq (deed : Deed) (s : SessionState σ) :
    deed.perform exchange s = orFail (deed.failure? s) (deed.after exchange s) := by
  cases deed <;> rfl

theorem perform_of_none {deed : Deed} (h : deed.failure? s = none) :
    deed.perform exchange s = .ok () (deed.after exchange s) := by
  rw [perform_eq, h]
  rfl

theorem perform_of_some {deed : Deed} (h : deed.failure? s = some e) :
    deed.perform exchange s = .error (.failed e) (deed.after exchange s) := by
  rw [perform_eq, h]
  rfl

/-- Nothing is asked by a deed that fails. -/
theorem after_of_some {deed : Deed} (h : deed.failure? s = some e) :
    (deed.after exchange s).requests = s.requests ∧ (deed.after exchange s).peer = s.peer := by
  cases deed with
  | say _ | flushOut | report _ | flushErr => exact ⟨rfl, rfl⟩
  | ask _ => cases h

/-! ## 2. Deeds in a row -/

/-- Does them, one after the other, until one fails. -/
def performAll (exchange : Exchange σ Answer) : List Deed → Session σ Unit
  | [] => pure ()
  | deed :: later => do deed.perform exchange; performAll exchange later

/-- The requests that they send. -/
def requestsOf (deeds : List Deed) : List RequestLine :=
  deeds.filterMap request?

/-- Done from the state `s`, the first of these deeds that fails finds the state `s₁`, and fails
    with `e`. -/
inductive Strikes (exchange : Exchange σ Answer) :
    List Deed → SessionState σ → SessionState σ → IoError → Prop where
  | here {deed : Deed} {s : SessionState σ} {e : IoError} (h : deed.failure? s = some e)
      (later : List Deed) : Strikes exchange (deed :: later) s s e
  | later {deed : Deed} {later : List Deed} {s s₁ : SessionState σ} {e : IoError}
      (h : deed.failure? s = none) (hlater : Strikes exchange later (deed.after exchange s) s₁ e) :
      Strikes exchange (deed :: later) s s₁ e

theorem performAll_of_none {deed : Deed} (h : deed.failure? s = none) (later : List Deed) :
    performAll exchange (deed :: later) s = performAll exchange later (deed.after exchange s) := by
  rw [performAll, bind_of_ok (perform_of_none h)]

theorem performAll_of_some {deed : Deed} (h : deed.failure? s = some e) (later : List Deed) :
    performAll exchange (deed :: later) s = .error (.failed e) (deed.after exchange s) := by
  rw [performAll, bind_of_error (perform_of_some h)]

theorem performAll_append (front back : List Deed) :
    performAll exchange (front ++ back)
      = (do performAll exchange front; performAll exchange back) := by
  induction front with
  | nil => rfl
  | cons deed front ih =>
    rw [List.cons_append, performAll, performAll, ih]
    exact (bind_assoc _ _ _).symm

/-- **A deed that fails ends deeds in a row**, with its failure and where it stands. -/
theorem performAll_of_strikes {deeds : List Deed} (h : Strikes exchange deeds s s₁ e) :
    ∃ s', performAll exchange deeds s = .error (.failed e) s' ∧
      s'.requests = s₁.requests ∧ s'.peer = s₁.peer := by
  induction h with
  | here h later => exact ⟨_, performAll_of_some h later, after_of_some h⟩
  | later h _ ih =>
    rw [performAll_of_none h]
    exact ih

/-- Deeds in a row come to their end unless one fails. -/
theorem performAll_of_no_strike : ∀ (deeds : List Deed) (s : SessionState σ),
    (∀ s₁ e, ¬ Strikes exchange deeds s s₁ e) → ∃ s', performAll exchange deeds s = .ok () s'
  | [], s, _ => ⟨s, rfl⟩
  | deed :: later, s, hnone => by
    cases hfailure : deed.failure? s with
    | some e => exact absurd (.here hfailure later) (hnone s e)
    | none =>
      rw [performAll_of_none hfailure]
      exact performAll_of_no_strike later _ fun s₁ e h => hnone s₁ e (.later hfailure h)

/-- **Deeds that are done have sent what they ask for**, and made these exchanges. -/
theorem sent_of_performAll : ∀ {deeds : List Deed} {s s' : SessionState σ},
    performAll exchange deeds s = .ok () s' →
      s'.requests.toList = s.requests.toList ++ requestsOf deeds ∧
        s'.peer = (inTurn exchange (requestsOf deeds) s.peer).2
  | [], s, s', h => by
    cases h
    exact ⟨(List.append_nil _).symm, rfl⟩
  | deed :: later, s, s', h => by
    cases hfailure : deed.failure? s with
    | some e =>
      rw [performAll_of_some hfailure] at h
      cases h
    | none =>
      rw [performAll_of_none hfailure] at h
      have hlater := sent_of_performAll h
      cases deed with
      | say _ | flushOut | report _ | flushErr => exact hlater
      | ask request =>
        have hpushed : (s.asked exchange request).requests.toList
            = s.requests.toList ++ [request] := Array.toList_push
        refine ⟨?_, hlater.2⟩
        rw [hlater.1, after, hpushed, List.append_assoc]
        rfl

/-- What stands before a deed that fails was done. -/
theorem Strikes.done {deeds : List Deed} (h : Strikes exchange deeds s s₁ e) :
    ∃ front, performAll exchange front s = .ok () s₁ := by
  induction h with
  | here _ _ => exact ⟨[], rfl⟩
  | @later deed _ _ _ _ hfailure _ ih =>
    obtain ⟨front, hfront⟩ := ih
    refine ⟨deed :: front, ?_⟩
    rw [performAll_of_none hfailure, hfront]

end Deed

/-! ## 3. Parts of a session -/

open Deed (performAll requestsOf)

/-- What a part of a session comes to: a result, or the end of the session. -/
def conclude {α : Type} : Except SessionEnd α → Session σ α
  | .ok a => pure a
  | .error ending => stop ending

/-- Whenever the exchange is in this state, this part of a session is these deeds and this
    conclusion, whatever the outputs take or refuse. -/
def Does (exchange : Exchange σ Answer) (peer : σ) {α : Type} (x : Session σ α) (deeds : List Deed)
    (conclusion : Except SessionEnd α) : Prop :=
  ∀ s : SessionState σ, s.peer = peer →
    x s = (do performAll exchange deeds; conclude conclusion : Session σ α) s

/-- A part of a session is some deeds and a conclusion. -/
def Scripted (exchange : Exchange σ Answer) {α : Type} (x : Session σ α) : Prop :=
  ∀ peer, ∃ deeds conclusion, Does exchange peer x deeds conclusion

section Parts

variable {exchange : Exchange σ Answer} {peer : σ} {α β : Type}

theorem does_bind {x : Session σ α} {f : α → Session σ β} {deeds later : List Deed} {a : α}
    {conclusion : Except SessionEnd β} (hx : Does exchange peer x deeds (.ok a))
    (hf : Does exchange (inTurn exchange (requestsOf deeds) peer).2 (f a) later conclusion) :
    Does exchange peer (x >>= f) (deeds ++ later) conclusion := by
  intro s hs
  have hxs := hx s hs
  rw [Deed.performAll_append, bind_assoc]
  cases hdone : performAll exchange deeds s with
  | error ending s' =>
    rw [bind_of_error hdone] at hxs
    rw [bind_of_error hxs, bind_of_error hdone]
  | ok _ s' =>
    have hpeer := (Deed.sent_of_performAll hdone).2
    rw [hs] at hpeer
    rw [bind_of_ok hdone] at hxs
    rw [bind_of_ok hxs, bind_of_ok hdone]
    exact hf s' hpeer

theorem does_bind_stop {x : Session σ α} {deeds : List Deed} {ending : SessionEnd}
    (hx : Does exchange peer x deeds (.error ending)) (f : α → Session σ β) :
    Does exchange peer (x >>= f) deeds (.error ending) := by
  intro s hs
  have hxs := hx s hs
  cases hdone : performAll exchange deeds s with
  | error ending' s' =>
    rw [bind_of_error hdone] at hxs
    rw [bind_of_error hxs, bind_of_error hdone]
  | ok _ s' =>
    rw [bind_of_ok hdone] at hxs
    have hstop : x s = .error ending s' := hxs
    rw [bind_of_error hstop, bind_of_ok hdone]
    rfl

theorem does_deed (deed : Deed) : Does exchange peer (deed.perform exchange) [deed] (.ok ()) := by
  intro s _
  simp only [performAll, conclude, bind_pure_unit]

theorem does_ask (request : RequestLine) :
    Does exchange peer (ask exchange request) [.ask request] (.ok (exchange request peer).1) := by
  rintro s rfl
  rfl

/-- **Parts in a row are a part**: their deeds follow each other. -/
theorem Scripted.bind {x : Session σ α} {f : α → Session σ β} (hx : Scripted exchange x)
    (hf : ∀ a, Scripted exchange (f a)) : Scripted exchange (x >>= f) := by
  intro peer
  obtain ⟨deeds, conclusion, hdeeds⟩ := hx peer
  cases conclusion with
  | error ending => exact ⟨deeds, .error ending, does_bind_stop hdeeds f⟩
  | ok a =>
    obtain ⟨later, conclusion, hlater⟩ := hf a (inTurn exchange (requestsOf deeds) peer).2
    exact ⟨deeds ++ later, conclusion, does_bind hdeeds hlater⟩

theorem scripted_pure (a : α) : Scripted exchange (pure a : Session σ α) :=
  fun _ => ⟨[], .ok a, fun _ _ => rfl⟩

theorem scripted_stop (ending : SessionEnd) : Scripted exchange (stop ending : Session σ α) :=
  fun _ => ⟨[], .error ending, fun _ _ => rfl⟩

theorem scripted_deed (deed : Deed) : Scripted exchange (deed.perform exchange) :=
  fun _ => ⟨[deed], .ok (), does_deed deed⟩

theorem scripted_ask (request : RequestLine) : Scripted exchange (ask exchange request) :=
  fun peer => ⟨[.ask request], .ok (exchange request peer).1, does_ask request⟩

/-- A line that is shown and flushed. -/
theorem scripted_say_flush (line : String) :
    Scripted exchange (do say line; flushOut : Session σ Unit) :=
  (scripted_deed (.say line)).bind fun _ => scripted_deed .flushOut

/-! ## 4. Lines -/

theorem scripted_present (answer : Answer) : Scripted exchange (present answer) := by
  cases answer with
  | ok reply => exact scripted_say_flush _
  | error e =>
    by_cases hmalformed : ∃ line reason, e = .malformedResponse line reason
    · obtain ⟨line, reason, rfl⟩ := hmalformed
      exact scripted_say_flush line
    · rw [present_error fun line reason he => hmalformed ⟨line, reason, he⟩]
      refine (scripted_deed (.report e)).bind fun _ => ?_
      split
      · exact (scripted_deed .flushErr).bind fun _ => scripted_stop _
      · exact scripted_deed .flushOut

theorem scripted_fulfil : ∀ asked : Wish, Scripted exchange (fulfil exchange asked)
  | .nothing => scripted_pure ()
  | .quit => scripted_stop .quit
  | .refused fault => scripted_deed (.report fault.toError)
  | .send request => (scripted_ask request).bind scripted_present

/-- **What a line does is some deeds and a conclusion.** -/
theorem scripted_step (line : Input.Line) : Scripted exchange (step exchange line) := by
  cases line with
  | failed e => exact scripted_stop (.failed e)
  | text bytes =>
    rw [step]
    split
    · exact scripted_stop (.failed notText)
    · exact scripted_fulfil _

/-- **And so is what lines in a row do.** -/
theorem scripted_steps (lines : List Input.Line) : Scripted exchange (steps exchange lines) := by
  induction lines with
  | nil => exact scripted_pure ()
  | cons line later ih => exact (scripted_step line).bind fun _ => ih

end Parts

end StoreLink.Session
