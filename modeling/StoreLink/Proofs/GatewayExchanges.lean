import Mathlib.Data.List.Forall2
import StoreLink.Proofs.GatewayResponses
import StoreLink.Proofs.InTurn

/-!
# The exchanges of the gateway

Requests come in one after the other. Those that are due at the store make one exchange each, in
their order, and are answered by what became of it; all others are answered without the store.

* `PassedOn`: a request was passed on as it should be, or refused;
* `TellsOfGet`, `TellsOfPost`: what the response says of what became of the exchange;
* `Served`: what holds of requests in a row; `served_of_due` and `served_of_refused` put one more
  request in front;
* `one_exchange_per_due_request`: through any exchange, requests in a row are served.
-/

namespace StoreLink.Gateway

/-! ## 1. One request -/

/-- The response to a request that is not passed on to the store. -/
def refusal (request : Request) : Response :=
  match plan request with
  | .answer response => response
  | .ask _ => badGateway

/-- The request was passed on with the line that is due for it; if none is, it was refused, for what
    it is and as bad, for its method or for its length. -/
structure PassedOn (request : Request) (handled : Handled) : Prop where
  line : ∀ line, handled.sent = some line ↔ Due request line
  refused : handled.sent = none → handled.response = refusal request ∧
    (handled.response.status = 400 ∨ handled.response.status = 405 ∨
      handled.response.status = 413)

/-- The response to `GET` and what became of the exchange. -/
structure TellsOfGet (outcome : Attempt) (response : Response) : Prop where
  found : response.status = 200 ↔ ∃ bytes, outcome = .finished (.ok (.value bytes))
  bytes : ∀ bytes, outcome = .finished (.ok (.value bytes)) →
    response.body = bytes ∧ ("content-type", "application/octet-stream") ∈ response.headers
  missing : response.status = 404 ↔ outcome = .finished (.ok (.status "NOT_FOUND"))
  failed : response.status = 502 ↔ (∀ bytes, outcome ≠ .finished (.ok (.value bytes))) ∧
    outcome ≠ .finished (.ok (.status "NOT_FOUND"))

/-- The response to `POST` and what became of the exchange. -/
structure TellsOfPost (outcome : Attempt) (response : Response) : Prop where
  stored : response.status = 204 ↔
    ∃ text, text.startsWith "OK" = true ∧ outcome = .finished (.ok (.status text))
  empty : response.status = 204 → response.body = .empty
  failed : response.status = 502 ↔
    ∀ text, text.startsWith "OK" = true → outcome ≠ .finished (.ok (.status text))

/-- The response to a request that was passed on tells of what became of the exchange. -/
structure Tells (request : Request) (outcome : Attempt) (response : Response) : Prop where
  get : request.method = "GET" → TellsOfGet outcome response
  post : request.method = "POST" → TellsOfPost outcome response

section OneRequest

variable {request : Request} {line line' : RequestLine} {outcome : Attempt} {response : Response}

theorem ne_value_of_fails (h : Fails "GET" outcome) (bytes : ByteArray) :
    outcome ≠ .finished (.ok (.value bytes)) := by
  intro heq
  subst heq
  cases h with
  | value hpost => exact get_ne_post rfl hpost

theorem mem_headers_found (bytes : ByteArray) :
    ("content-type", "application/octet-stream") ∈ (found bytes).headers :=
  List.mem_append_right _ (List.mem_singleton.mpr rfl)

theorem tellsOfGet_of_answered (h : Answered "GET" outcome response) :
    TellsOfGet outcome response := by
  cases h with
  | found _ bytes =>
    refine ⟨iff_of_true rfl ⟨bytes, rfl⟩, ?_, iff_of_false ?_ ?_, iff_of_false ?_ ?_⟩
    · intro read hread
      cases hread
      exact ⟨rfl, mem_headers_found bytes⟩
    · exact fun hstatus : 200 = 404 => absurd hstatus (by decide)
    · intro hread
      cases hread
    · exact fun hstatus : 200 = 502 => absurd hstatus (by decide)
    · exact fun hnone => hnone.1 bytes rfl
  | missing hmissing =>
    obtain ⟨-⟩ := hmissing
    refine ⟨iff_of_false (by decide) ?_, ?_, iff_of_true rfl rfl,
      iff_of_false (by decide) fun hnone => hnone.2 rfl⟩
    · intro hvalue
      obtain ⟨bytes, hread⟩ := hvalue
      cases hread
    · intro bytes hread
      cases hread
  | stored hgranted =>
    obtain ⟨hpost, -⟩ := hgranted
    exact (get_ne_post rfl hpost).elim
  | failed hfails =>
    have hno := ne_value_of_fails hfails
    have hknown : outcome ≠ .finished (.ok (.status "NOT_FOUND")) := by
      intro heq
      subst heq
      exact not_fails_of_missing ⟨rfl⟩ hfails
    refine ⟨iff_of_false (by decide) ?_, fun bytes h => absurd h (hno bytes),
      iff_of_false (by decide) hknown, iff_of_true rfl ⟨hno, hknown⟩⟩
    intro hvalue
    obtain ⟨bytes, hread⟩ := hvalue
    exact hno bytes hread

theorem tellsOfPost_of_answered (h : Answered "POST" outcome response) :
    TellsOfPost outcome response := by
  cases h with
  | found hget => exact (get_ne_post hget rfl).elim
  | missing hmissing =>
    obtain ⟨hget⟩ := hmissing
    exact (get_ne_post hget rfl).elim
  | stored hgranted =>
    obtain ⟨-, htext⟩ := hgranted
    exact ⟨iff_of_true rfl ⟨_, htext, rfl⟩, fun _ => rfl,
      iff_of_false (by decide) fun hnone => hnone _ htext rfl⟩
  | failed hfails =>
    have hno : ∀ text, text.startsWith "OK" = true → outcome ≠ .finished (.ok (.status text)) := by
      intro text htext heq
      subst heq
      exact not_fails_of_granted ⟨rfl, htext⟩ hfails
    refine ⟨iff_of_false (by decide) ?_, fun hstatus => absurd hstatus (by decide),
      iff_of_true rfl hno⟩
    intro hgranted
    obtain ⟨text, htext, heq⟩ := hgranted
    exact hno text htext heq

theorem tells_of_answered (h : Answered request.method outcome response) :
    Tells request outcome response where
  get hmethod := tellsOfGet_of_answered (hmethod ▸ h)
  post hmethod := tellsOfPost_of_answered (hmethod ▸ h)

/-- At most one line is due for a request. -/
theorem due_unique (h : Due request line) (h' : Due request line') : line = line' := by
  obtain ⟨response, -, hhandle⟩ := handle_of_due (fun _ s => (.panicked, s)) () h
  obtain ⟨response', -, hhandle'⟩ := handle_of_due (fun _ s => (.panicked, s)) () h'
  rw [hhandle] at hhandle'
  cases hhandle'
  rfl

theorem passedOn_of_due (h : Due request line) (response : Response) :
    PassedOn request ⟨response, some line⟩ where
  line line' := by
    rw [Option.some.injEq]
    constructor
    · intro heq
      exact heq ▸ h
    · exact due_unique h
  refused hnone := absurd hnone (Option.some_ne_none line)

theorem passedOn_of_refused (hrooted : Rooted request) (h : ∀ line, ¬ Due request line)
    (hplan : plan request = .answer response) : PassedOn request ⟨response, none⟩ where
  line line := iff_of_false (fun hsent => absurd hsent.symm (Option.some_ne_none line)) (h line)
  refused _ := by
    have hrefusal : response = refusal request := by rw [refusal, hplan]
    exact ⟨hrefusal, refused_status hrooted hplan⟩

end OneRequest

/-! ## 2. Requests in a row -/

/-- The lines that were sent. -/
def sentLines (handled : List Handled) : List RequestLine :=
  handled.filterMap Handled.sent

/-- The requests that were passed on, with what they got. -/
def passedOn (requests : List Request) (handled : List Handled) : List (Request × Handled) :=
  (requests.zip handled).filter fun pair => pair.2.sent.isSome

section InTurn

variable {σ : Type} {exchange : Exchange σ Attempt} {request : Request} {rest : List Request}
  {handled : List Handled} {s last : σ}

/-- Requests in a row were served: each was passed on or refused; the lines that were sent are those
    of the requests that were passed on, in their order; there was one exchange for each of these
    lines and no other; and each response tells of its own exchange. -/
structure Served (exchange : Exchange σ Attempt) (requests : List Request) (s : σ)
    (handled : List Handled) (last : σ) : Prop where
  each : List.Forall₂ PassedOn requests handled
  lines : List.Forall₂ (fun pair line => Due pair.1 line) (passedOn requests handled)
    (sentLines handled)
  exchanges : last = (exchange.inTurn (sentLines handled) s).2
  responses : List.Forall₂ (fun pair outcome => Tells pair.1 outcome pair.2.response)
    (passedOn requests handled) (exchange.inTurn (sentLines handled) s).1

/-- A request that is passed on comes before the rest with its exchange. -/
theorem served_of_due {line : RequestLine} {response : Response} (hdue : Due request line)
    (hanswered : Answered request.method (exchange line s).1 response)
    (h : Served exchange rest (exchange line s).2 handled last) :
    Served exchange (request :: rest) s (⟨response, some line⟩ :: handled) last where
  each := .cons (passedOn_of_due hdue response) h.each
  lines := .cons hdue h.lines
  exchanges := h.exchanges
  responses := .cons (tells_of_answered hanswered) h.responses

/-- A request that is refused leaves the exchanges to the rest. -/
theorem served_of_refused {response : Response} (hpassed : PassedOn request ⟨response, none⟩)
    (h : Served exchange rest s handled last) :
    Served exchange (request :: rest) s (⟨response, none⟩ :: handled) last where
  each := .cons hpassed h.each
  lines := h.lines
  exchanges := h.exchanges
  responses := h.responses

/-- **One exchange for each request that is due at the store, and no other.** Whatever requests with
    paths come in a row, and whatever becomes of the exchanges: a request is passed on exactly when
    a line is due for it, with this line; the exchanges that are made are one for each of these
    lines, in their order; a request that was passed on is answered by what became of its own
    exchange; and any other is refused for what it is, with 400, 405 or 413. -/
theorem one_exchange_per_due_request (exchange : Exchange σ Attempt) :
    ∀ {requests : List Request} (s : σ), (∀ request ∈ requests, Rooted request) →
      Served exchange requests s (handleAll exchange requests s).1
        (handleAll exchange requests s).2
  | [], _, _ => ⟨.nil, .nil, rfl, .nil⟩
  | request :: rest, s, hrooted => by
    have hrest : ∀ request ∈ rest, Rooted request := fun r hr => hrooted r (.tail _ hr)
    rw [handleAll_cons]
    by_cases hdue : ∃ line, Due request line
    · obtain ⟨line, hdue⟩ := hdue
      obtain ⟨response, hanswered, hhandle⟩ := handle_of_due exchange s hdue
      rw [hhandle]
      exact served_of_due hdue hanswered (one_exchange_per_due_request exchange _ hrest)
    · have hnone : ∀ line, ¬ Due request line := not_exists.mp hdue
      obtain ⟨response, hplan, hhandle⟩ := handle_of_not_due hnone
      rw [hhandle exchange s]
      exact served_of_refused (passedOn_of_refused (hrooted request (.head _)) hnone hplan)
        (one_exchange_per_due_request exchange s hrest)

end InTurn

/-! ## 3. A run -/

/-- `HEAD` of the key `k`. -/
def headK : Request := { method := "HEAD", target := "/k" }

theorem not_due_headK : ∀ line, ¬ Due headK line := by
  intro line h
  cases h with
  | get hmethod => exact absurd hmethod (by decide)
  | post hmethod => exact absurd hmethod (by decide)

/-- A `GET` of a key that is not stored, a `HEAD`, and a `POST` whose exchange breaks off: the store
    sees two lines. -/
theorem one_exchange_per_due_request_played :
    (∀ request ∈ [fetchK, headK, storeK], Rooted request) ∧
    sentLines (handleAll Script.attempt [fetchK, headK, storeK] [.line "NOT_FOUND\n", .panic]).1
      = [.terminated "GET k", .terminated "SET k Cg=="] ∧
    (handleAll Script.attempt [fetchK, headK, storeK] [.line "NOT_FOUND\n", .panic]).2 = [] := by
  have hrooted : ∀ request ∈ [fetchK, headK, storeK], Rooted request := by
    intro request h
    rcases List.mem_cons.mp h with rfl | h
    · exact ⟨_, rfl⟩
    · rcases List.mem_cons.mp h with rfl | h
      · exact ⟨_, rfl⟩
      · rw [List.mem_singleton.mp h]
        exact ⟨_, rfl⟩
  have hserved := one_exchange_per_due_request Script.attempt [.line "NOT_FOUND\n", .panic] hrooted
  have hlast := hserved.exchanges
  have heach := hserved.each
  generalize handleAll Script.attempt [fetchK, headK, storeK] [.line "NOT_FOUND\n", .panic] = run
    at hlast heach ⊢
  obtain ⟨handled, last⟩ := run
  have hsent : sentLines handled = [.terminated "GET k", .terminated "SET k Cg=="] := by
    cases heach with
    | @cons _ first _ _ hfetch heach =>
      cases heach with
      | @cons _ second _ _ hhead heach =>
        cases heach with
        | @cons _ third _ _ hstore heach =>
          cases heach
          have hnone : second.sent = none :=
            Option.eq_none_iff_forall_ne_some.mpr fun line h => not_due_headK line
              ((hhead.line line).mp h)
          simp only [sentLines, List.filterMap_cons, (hfetch.line _).mpr due_fetchK, hnone,
            (hstore.line _).mpr due_storeK, List.filterMap_nil]
  refine ⟨hrooted, hsent, ?_⟩
  rw [hlast, hsent]
  rfl

end StoreLink.Gateway
