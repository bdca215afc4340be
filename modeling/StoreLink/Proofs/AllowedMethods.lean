import StoreLink.Proofs.GatewayExchanges

/-!
# Which methods a path allows

A request whose method is not allowed is answered with the status 405 and names of methods. `HEAD`
has a handler of its own that refuses it and names `GET` and `POST`; any other method is refused for
want of a handler, and the methods that have one are named, `HEAD` among them.

* `Allowed`, `Refused`: what is told of a method on a target, whatever else comes with it;
  `status_eq_iff`: on a path behind the root exactly `GET` and `POST` are not refused;
* `NamesAllowed`: a response names the methods that are allowed and no other;
  `namesAllowed_headRefused`, `names_methodUnknown`: what the two refusals name;
* `allow_of_refused`: of both, only the refusal of `HEAD` names the methods that are allowed.
-/

namespace StoreLink.Gateway

/-! ## 1. Methods on a target -/

/-- The method is allowed on the target: no request with both is answered with 405. -/
def Allowed (target method : String) : Prop :=
  ∀ {σ : Type} (exchange : Exchange σ Attempt) (request : Request) (s : σ),
    request.target = target → request.method = method →
      (handle exchange request s).1.response.status ≠ 405

/-- The method is refused on the target: every request with both is answered with 405. -/
def Refused (target method : String) : Prop :=
  ∀ {σ : Type} (exchange : Exchange σ Attempt) (request : Request) (s : σ),
    request.target = target → request.method = method →
      (handle exchange request s).1.response.status = 405

section Methods

variable {σ : Type} {request : Request} {tail : List UInt8} {response : Response}

/-- What is told of an exchange is no refusal of a method. -/
theorem status_ne_of_answered {method : String} {outcome : Attempt}
    (h : Answered method outcome response) : response.status ≠ 405 := by
  intro hstatus
  cases h with
  | found => cases hstatus
  | missing => cases hstatus
  | stored => cases hstatus
  | failed => cases hstatus

theorem status_respond_ne (question : Question) (outcome : Attempt) :
    (question.respond outcome).status ≠ 405 := by
  cases question with
  | fetch key => exact status_ne_of_answered (answered_fetch rfl key outcome)
  | put key value => exact status_ne_of_answered (answered_put rfl key value outcome)

theorem handle_of_answer (exchange : Exchange σ Attempt) (s : σ)
    (h : plan request = .answer response) :
    handle exchange request s = (⟨response, none⟩, s) := by
  simp only [handle, h]

/-- A refusal of a method is told without the store. -/
theorem status_eq_iff_plan (exchange : Exchange σ Attempt) (s : σ) :
    (handle exchange request s).1.response.status = 405 ↔
      ∃ response, plan request = .answer response ∧ response.status = 405 := by
  constructor
  · intro h
    cases hplan : plan request with
    | answer response =>
      rw [handle_of_answer exchange s hplan] at h
      exact ⟨response, rfl, h⟩
    | ask question =>
      simp only [handle, hplan] at h
      exact absurd h (status_respond_ne question _)
  · intro h
    obtain ⟨response, hanswer, hstatus⟩ := h
    rw [handle_of_answer exchange s hanswer]
    exact hstatus

/-- The refusal of a method: `HEAD` is refused by its handler, any other for want of one. -/
def methodRefusal (method : String) : Response :=
  if method = "HEAD" then headRefused else methodUnknown

theorem status_methodRefusal (method : String) : (methodRefusal method).status = 405 := by
  rw [methodRefusal]
  split <;> rfl

/-- **A method other than `GET` and `POST` is refused on every path behind the root.** -/
theorem plan_of_other (hpath : Target.ofText request.target = .path (Target.slash :: tail))
    (hroot : tail ≠ []) (hget : request.method ≠ "GET") (hpost : request.method ≠ "POST") :
    plan request = .answer (methodRefusal request.method) := by
  rw [plan_of_path hpath, planPath, if_neg (by rwa [List.isEmpty_iff]), if_neg hget, if_neg hpost,
    methodRefusal]
  split <;> rfl

/-- **The status tells exactly of that**: the method decides, whatever the body, the store and the
    path behind the root are. -/
theorem status_eq_iff (exchange : Exchange σ Attempt) (s : σ)
    (hpath : Target.ofText request.target = .path (Target.slash :: tail)) :
    (handle exchange request s).1.response.status = 405 ↔
      tail ≠ [] ∧ request.method ≠ "GET" ∧ request.method ≠ "POST" := by
  rw [status_eq_iff_plan]
  constructor
  · intro h
    obtain ⟨response, hanswer, hstatus⟩ := h
    rw [plan_of_path hpath, planPath] at hanswer
    split at hanswer
    · -- at the root every method is answered alike
      unfold answerTo at hanswer
      split at hanswer <;> cases hanswer <;> exact absurd hstatus (by decide)
    · rename_i hroot
      refine ⟨fun h => hroot (List.isEmpty_iff.mpr h), fun hget => ?_, fun hpost => ?_⟩
      · rw [if_pos hget] at hanswer
        rw [planGet_refused hanswer] at hstatus
        exact absurd hstatus (by decide)
      · rw [if_neg (hpost ▸ by decide), if_pos hpost] at hanswer
        rcases planPost_refused hanswer with h | h <;> rw [h] at hstatus <;>
          exact absurd hstatus (by decide)
  · intro h
    obtain ⟨hroot, hget, hpost⟩ := h
    exact ⟨_, plan_of_other hpath hroot hget hpost, status_methodRefusal _⟩

end Methods

/-! ## 2. What a refusal names -/

/-- The response names the methods that are allowed on the target, and no other. -/
def NamesAllowed (target : String) (response : Response) : Prop :=
  ∀ method, method ∈ response.allow ↔ Allowed target method

section Names

variable {target : String} {tail : List UInt8}

/-- On a path behind the root exactly two methods are allowed. -/
theorem allowed_iff (hpath : Target.ofText target = .path (Target.slash :: tail))
    (hroot : tail ≠ []) (method : String) :
    Allowed target method ↔ method = "GET" ∨ method = "POST" := by
  constructor
  · intro h
    by_contra hother
    rw [not_or] at hother
    -- any exchange will do, and this one breaks off
    exact h (fun _ s => (.panicked, s)) { method, target } () rfl rfl
      ((status_eq_iff _ _ hpath).mpr ⟨hroot, hother⟩)
  · rintro h σ exchange request s rfl rfl hstatus
    obtain ⟨-, hget, hpost⟩ := (status_eq_iff exchange s hpath).mp hstatus
    exact h.elim hget hpost

/-- And any other is refused. -/
theorem allowed_or_refused (hpath : Target.ofText target = .path (Target.slash :: tail))
    (hroot : tail ≠ []) (method : String) :
    Allowed target method ∨ Refused target method := by
  rw [allowed_iff hpath hroot]
  by_cases h : method = "GET" ∨ method = "POST"
  · exact .inl h
  · rw [not_or] at h
    refine .inr ?_
    rintro σ exchange request s rfl rfl
    exact (status_eq_iff exchange s hpath).mpr ⟨hroot, h⟩

/-- **The refusal of `HEAD` names what is allowed.** -/
theorem namesAllowed_headRefused (hpath : Target.ofText target = .path (Target.slash :: tail))
    (hroot : tail ≠ []) : NamesAllowed target headRefused := by
  intro method
  rw [allowed_iff hpath hroot]
  show method ∈ ["GET", "POST"] ↔ _
  rw [List.mem_cons, List.mem_singleton]

/-- **The refusal of an unknown method names one more**: `HEAD`, which has a handler. -/
theorem names_methodUnknown (hpath : Target.ofText target = .path (Target.slash :: tail))
    (hroot : tail ≠ []) (method : String) :
    method ∈ methodUnknown.allow ↔ Allowed target method ∨ method = "HEAD" := by
  rw [allowed_iff hpath hroot]
  show method ∈ ["GET", "HEAD", "POST"] ↔ _
  rw [List.mem_cons, List.mem_cons, List.mem_singleton, or_assoc, or_comm (a := method = "HEAD")]

theorem not_namesAllowed_methodUnknown
    (hpath : Target.ofText target = .path (Target.slash :: tail)) (hroot : tail ≠ []) :
    ¬ NamesAllowed target methodUnknown := by
  intro h
  have hhead : Allowed target "HEAD" := (h "HEAD").mp (by decide)
  rw [allowed_iff hpath hroot] at hhead
  exact absurd hhead (by decide)

theorem headers_headRefused :
    headRefused.headers = [("allow", "GET,POST"), ("content-length", "0")] := by
  decide

theorem headers_methodUnknown :
    methodUnknown.headers = [("allow", "GET,HEAD,POST"), ("content-length", "0")] := by
  decide

end Names

/-! ## 3. The methods that a refused request learns of -/

/-- **Only the refusal of `HEAD` names the methods that are allowed.** Where a request is answered
    with 405, `GET` and `POST` are allowed on its target, and every other method is refused there,
    whatever comes with it. The header names exactly these two if the method was `HEAD`; for any
    other it names `HEAD` as well, though this is refused, and is right in all else. -/
theorem allow_of_refused {σ : Type} (exchange : Exchange σ Attempt) (request : Request) (s : σ)
    (hrooted : Rooted request) (h : (handle exchange request s).1.response.status = 405) :
    (∀ method, Allowed request.target method ↔ method = "GET" ∨ method = "POST") ∧
    (∀ method, Allowed request.target method ∨ Refused request.target method) ∧
    (NamesAllowed request.target (handle exchange request s).1.response ↔
      request.method = "HEAD") ∧
    (request.method = "HEAD" → (handle exchange request s).1.response.headers
      = [("allow", "GET,POST"), ("content-length", "0")]) ∧
    (request.method ≠ "HEAD" → (handle exchange request s).1.response.headers
        = [("allow", "GET,HEAD,POST"), ("content-length", "0")] ∧
      ∀ method, method ∈ (handle exchange request s).1.response.allow ↔
        Allowed request.target method ∨ method = "HEAD") := by
  obtain ⟨tail, hpath⟩ := hrooted
  obtain ⟨hroot, hget, hpost⟩ := (status_eq_iff exchange s hpath).mp h
  rw [handle_of_answer exchange s (plan_of_other hpath hroot hget hpost)]
  refine ⟨allowed_iff hpath hroot, allowed_or_refused hpath hroot, ?_⟩
  by_cases hhead : request.method = "HEAD"
  · rw [methodRefusal, if_pos hhead]
    exact ⟨iff_of_true (namesAllowed_headRefused hpath hroot) hhead,
      fun _ => headers_headRefused, fun hne => absurd hhead hne⟩
  · rw [methodRefusal, if_neg hhead]
    exact ⟨iff_of_false (not_namesAllowed_methodUnknown hpath hroot) hhead,
      fun heq => absurd heq hhead,
      fun _ => ⟨headers_methodUnknown, names_methodUnknown hpath hroot⟩⟩

/-- `PUT` of the key `k`. -/
def putK : Request := { method := "PUT", target := "/k" }

/-- `HEAD` is told the truth, and `PUT` is told that `HEAD` is allowed. -/
theorem allow_of_refused_headK :
    NamesAllowed "/k" (handle Script.attempt headK []).1.response ∧
    (handle Script.attempt putK []).1.response.headers
      = [("allow", "GET,HEAD,POST"), ("content-length", "0")] ∧
    "HEAD" ∈ (handle Script.attempt putK []).1.response.allow ∧ Refused "/k" "HEAD" := by
  obtain ⟨-, -, htrue, -, -⟩ := allow_of_refused Script.attempt headK [] ⟨_, rfl⟩ rfl
  obtain ⟨hallowed, heither, -, -, hmore⟩ :=
    allow_of_refused Script.attempt putK [] ⟨_, rfl⟩ rfl
  obtain ⟨hheaders, hnames⟩ := hmore (by decide)
  have hnot : ¬ Allowed "/k" "HEAD" := fun h => absurd ((hallowed "HEAD").mp h) (by decide)
  exact ⟨htrue.mpr rfl, hheaders, (hnames "HEAD").mpr (.inr rfl),
    (heither "HEAD").resolve_left hnot⟩

/-- So a refusal does not always name what is allowed: that of `PUT` does not. -/
theorem putK_names_refused :
    ¬ ∀ request : Request, Rooted request →
      (handle Script.attempt request []).1.response.status = 405 →
        NamesAllowed request.target (handle Script.attempt request []).1.response := by
  intro h
  have hnot : ¬ NamesAllowed putK.target methodUnknown :=
    not_namesAllowed_methodUnknown rfl (List.cons_ne_nil _ _)
  exact hnot (h putK ⟨_, rfl⟩ rfl)

end StoreLink.Gateway
