import StoreLink.Script
import StoreLink.Proofs.GatewayPaths

/-!
# What the gateway tells its clients

The response to a request that reached the store follows from the method and from what became of
the exchange. What went wrong at the store, or on the way there, is not told.

* `Fails`, `Missing`, `Granted`: what the outcome of an exchange means for a method;
* `Answered`: the response that belongs to an outcome; `handle_of_due` says that it is given;
* `Alike`: outcomes of which a client is told the same; `handleAll_eq_of_alike` says that over two
  exchanges with such outcomes any requests in a row get the same responses;
* `failures_leak_nothing`: failures cannot be told apart.
-/

namespace StoreLink.Gateway

/-! ## 1. Outcomes and their responses -/

/-- What became of an exchange is a failure for the method. -/
inductive Fails (method : String) : Attempt → Prop where
  | panicked : Fails method .panicked
  | error (e : LinkError) : Fails method (.finished (.error e))
  /-- `GET` knows of one status only. -/
  | status {text : String} (hmethod : method = "GET") (h : text ≠ "NOT_FOUND") :
      Fails method (.finished (.ok (.status text)))
  /-- `POST` needs a status that begins with `OK`. -/
  | ungranted {text : String} (hmethod : method = "POST") (h : text.startsWith "OK" = false) :
      Fails method (.finished (.ok (.status text)))
  | value (hmethod : method = "POST") (bytes : ByteArray) :
      Fails method (.finished (.ok (.value bytes)))

/-- `GET` learns that the key is not stored. -/
inductive Missing (method : String) : Attempt → Prop where
  | intro (hmethod : method = "GET") : Missing method (.finished (.ok (.status "NOT_FOUND")))

/-- `POST` learns that the value was stored. -/
inductive Granted (method : String) : Attempt → Prop where
  | intro {text : String} (hmethod : method = "POST") (h : text.startsWith "OK" = true) :
      Granted method (.finished (.ok (.status text)))

/-- The response that belongs to what became of an exchange. -/
inductive Answered (method : String) : Attempt → Response → Prop where
  | found (hmethod : method = "GET") (bytes : ByteArray) :
      Answered method (.finished (.ok (.value bytes))) (found bytes)
  | missing {outcome : Attempt} (h : Missing method outcome) : Answered method outcome notFound
  | stored {outcome : Attempt} (h : Granted method outcome) : Answered method outcome stored
  | failed {outcome : Attempt} (h : Fails method outcome) : Answered method outcome badGateway

theorem headers_badGateway : badGateway.headers
    = [("content-length", "11"), ("content-type", "text/plain; charset=utf-8")] := by
  decide

section Outcomes

variable {method : String} {outcome : Attempt} {response : Response}

theorem answered_fetch (hmethod : method = "GET") (key : Key) (outcome : Attempt) :
    Answered method outcome ((Question.fetch key).respond outcome) := by
  cases outcome with
  | panicked => exact .failed .panicked
  | finished answer =>
    cases answer with
    | error e => exact .failed (.error e)
    | ok reply =>
      cases reply with
      | value bytes => exact .found hmethod bytes
      | status text =>
        by_cases htext : text = "NOT_FOUND"
        · subst htext
          exact .missing ⟨hmethod⟩
        · have hmissing : (Reply.status text).saysMissing = false := by simp [htext]
          have hrespond : (Question.fetch key).respond (.finished (.ok (.status text)))
              = fetched (if (Reply.status text).saysMissing then .ok none
                  else .error (Client.misfit (.status text))) := rfl
          rw [hrespond, hmissing]
          exact .failed (.status hmethod htext)

theorem answered_put (hmethod : method = "POST") (key : Key) (value : ByteArray)
    (outcome : Attempt) :
    Answered method outcome ((Question.put key value).respond outcome) := by
  cases outcome with
  | panicked => exact .failed .panicked
  | finished answer =>
    cases answer with
    | error e => exact .failed (.error e)
    | ok reply =>
      cases reply with
      | value bytes => exact .failed (.value hmethod bytes)
      | status text =>
        have hrespond : (Question.put key value).respond (.finished (.ok (.status text)))
            = putDone (if text.startsWith "OK" then .ok ()
                else .error (Client.misfit (.status text))) := rfl
        rw [hrespond]
        cases htext : text.startsWith "OK" with
        | true => exact .stored ⟨hmethod, htext⟩
        | false => exact .failed (.ungranted hmethod htext)

theorem get_ne_post (hget : method = "GET") (hpost : method = "POST") : False :=
  absurd (hget.symm.trans hpost) (by decide)

theorem not_fails_of_missing (h : Missing method outcome) : ¬ Fails method outcome := by
  obtain ⟨hget⟩ := h
  intro hfails
  cases hfails with
  | status _ htext => exact htext rfl
  | ungranted hpost => exact get_ne_post hget hpost

theorem not_fails_of_granted (h : Granted method outcome) : ¬ Fails method outcome := by
  obtain ⟨hpost, htext⟩ := h
  intro hfails
  cases hfails with
  | status hget => exact get_ne_post hget hpost
  | ungranted _ hno => exact absurd (htext.symm.trans hno) (by decide)

theorem not_missing_of_granted (h : Granted method outcome) : ¬ Missing method outcome := by
  obtain ⟨hpost, -⟩ := h
  intro hmissing
  cases hmissing with
  | intro hget => exact get_ne_post hget hpost

/-- **Every failure gets the one response.** -/
theorem eq_badGateway_of_fails (h : Answered method outcome response)
    (hfails : Fails method outcome) : response = badGateway := by
  cases h with
  | failed => rfl
  | found hget bytes =>
    cases hfails with
    | value hpost => exact (get_ne_post hget hpost).elim
  | missing hmissing => exact absurd hfails (not_fails_of_missing hmissing)
  | stored hgranted => exact absurd hfails (not_fails_of_granted hgranted)

theorem eq_notFound_of_missing (h : Answered method outcome response)
    (hmissing : Missing method outcome) : response = notFound := by
  cases h with
  | missing => rfl
  | found => cases hmissing
  | stored hgranted => exact absurd hmissing (not_missing_of_granted hgranted)
  | failed hfails => exact absurd hfails (not_fails_of_missing hmissing)

theorem eq_stored_of_granted (h : Answered method outcome response)
    (hgranted : Granted method outcome) : response = stored := by
  cases h with
  | stored => rfl
  | found => cases hgranted
  | missing hmissing => exact absurd hmissing (not_missing_of_granted hgranted)
  | failed hfails => exact absurd hfails (not_fails_of_granted hgranted)

end Outcomes

/-! ## 2. Handling a request -/

section Handling

variable {σ τ : Type} {exchange : Exchange σ Attempt} {exchange' : Exchange τ Attempt}
  {request : Request} {line : RequestLine}

/-- A request for which a line is due is handled by one exchange of this line, and answered by what
    became of it. -/
theorem handle_of_due (exchange : Exchange σ Attempt) (s : σ) (h : Due request line) :
    ∃ response, Answered request.method (exchange line s).1 response ∧
      handle exchange request s = (⟨response, some line⟩, (exchange line s).2) := by
  cases h with
  | @get tail key hmethod hpath hroot hnames =>
    have hplan : plan request = .ask (.fetch key) :=
      (plan_eq_ask_iff hpath).mpr ⟨hroot, key, hnames, .inl ⟨hmethod, rfl⟩⟩
    refine ⟨_, answered_fetch hmethod key _, ?_⟩
    rw [← request_fetch]
    simp only [handle, hplan]
  | @post tail key hmethod hpath hroot hnames hbody =>
    have hplan : plan request = .ask (.put key request.body) :=
      (plan_eq_ask_iff hpath).mpr ⟨hroot, key, hnames, .inr ⟨hmethod, hbody, rfl⟩⟩
    refine ⟨_, answered_put hmethod key request.body _, ?_⟩
    rw [← request_put]
    simp only [handle, hplan]

/-- A request for which no line is due is answered without the store. -/
theorem handle_of_not_due (h : ∀ line, ¬ Due request line) :
    ∃ response, plan request = .answer response ∧ ∀ {σ : Type} (exchange : Exchange σ Attempt) s,
      handle exchange request s = (⟨response, none⟩, s) := by
  cases hplan : plan request with
  | ask question => exact absurd (due_of_ask hplan) (h question.request)
  | answer response =>
    refine ⟨response, rfl, fun exchange s => ?_⟩
    simp only [handle, hplan]

end Handling

/-! ## 3. Two exchanges -/

section Alike

variable {σ τ : Type} {exchange : Exchange σ Attempt} {exchange' : Exchange τ Attempt}

/-- Outcomes that mean the same to a client. -/
inductive Alike (method : String) : Attempt → Attempt → Prop where
  | same (outcome : Attempt) : Alike method outcome outcome
  | failed {outcome outcome' : Attempt} (h : Fails method outcome) (h' : Fails method outcome') :
      Alike method outcome outcome'
  | stored {outcome outcome' : Attempt} (h : Granted method outcome)
      (h' : Granted method outcome') : Alike method outcome outcome'

/-- **Outcomes that mean the same get the same response.** -/
theorem response_unique {method : String} {outcome outcome' : Attempt}
    {response response' : Response} (halike : Alike method outcome outcome')
    (h : Answered method outcome response) (h' : Answered method outcome' response') :
    response = response' := by
  cases halike with
  -- each of the two kinds has one response, whatever the outcome says
  | failed hfails hfails' =>
    rw [eq_badGateway_of_fails h hfails, eq_badGateway_of_fails h' hfails']
  | stored hgranted hgranted' =>
    rw [eq_stored_of_granted h hgranted, eq_stored_of_granted h' hgranted']
  | same =>
    cases h with
    | found hget bytes =>
      cases h' with
      | found => rfl
      | missing hmissing => cases hmissing
      | stored hgranted => cases hgranted
      | failed hfails => exact eq_badGateway_of_fails (.found hget bytes) hfails
    | missing hmissing => exact (eq_notFound_of_missing h' hmissing).symm
    | stored hgranted => exact (eq_stored_of_granted h' hgranted).symm
    | failed hfails => exact (eq_badGateway_of_fails h' hfails).symm

/-- Over two exchanges, requests in a row have outcomes that mean the same. -/
inductive AlikeInTurn (exchange : Exchange σ Attempt) (exchange' : Exchange τ Attempt) :
    List Request → σ → τ → Prop where
  | done (s : σ) (s' : τ) : AlikeInTurn exchange exchange' [] s s'
  | refused {request : Request} {rest : List Request} {s : σ} {s' : τ}
      (h : ∀ line, ¬ Due request line) (hrest : AlikeInTurn exchange exchange' rest s s') :
      AlikeInTurn exchange exchange' (request :: rest) s s'
  | asked {request : Request} {line : RequestLine} {rest : List Request} {s : σ} {s' : τ}
      (hdue : Due request line)
      (h : Alike request.method (exchange line s).1 (exchange' line s').1)
      (hrest : AlikeInTurn exchange exchange' rest (exchange line s).2 (exchange' line s').2) :
      AlikeInTurn exchange exchange' (request :: rest) s s'

@[simp] theorem handleAll_cons (exchange : Exchange σ Attempt) (request : Request) (rest : List Request)
    (s : σ) :
    handleAll exchange (request :: rest) s
      = ((handle exchange request s).1 :: (handleAll exchange rest (handle exchange request s).2).1,
        (handleAll exchange rest (handle exchange request s).2).2) := rfl

/-- **Over two exchanges whose outcomes mean the same**, requests in a row are handled in the same
    way. -/
theorem handleAll_eq_of_alike {requests : List Request} {s : σ} {s' : τ}
    (h : AlikeInTurn exchange exchange' requests s s') :
    (handleAll exchange requests s).1 = (handleAll exchange' requests s').1 := by
  induction h with
  | done => rfl
  | refused h _ ih =>
    obtain ⟨response, -, hhandle⟩ := handle_of_not_due h
    simp [hhandle exchange, hhandle exchange', ih]
  | @asked request line rest s s' hdue halike _ ih =>
    obtain ⟨response, hanswered, hhandle⟩ := handle_of_due exchange s hdue
    obtain ⟨response', hanswered', hhandle'⟩ := handle_of_due exchange' s' hdue
    have hsame := response_unique halike hanswered hanswered'
    simp [hhandle, hhandle', ih, hsame]

/-- **Failures at the store leak nothing.** Take any two exchanges, with whatever states, and any
    two requests that reach the store. If both exchanges fail for their methods, both clients get
    the same response; so do two that ask for keys which are not stored, and two whose values were
    stored. And over exchanges whose outcomes mean the same in turn, any requests in a row are
    handled in the same way. -/
theorem failures_leak_nothing (exchange : Exchange σ Attempt) (exchange' : Exchange τ Attempt) :
    (∀ {request request' : Request} {line line' : RequestLine} (s : σ) (s' : τ),
      Due request line → Due request' line' →
      (Fails request.method (exchange line s).1 → Fails request'.method (exchange' line' s').1 →
        (handle exchange request s).1.response = (handle exchange' request' s').1.response ∧
        (handle exchange request s).1.response.status = 502 ∧
        (handle exchange request s).1.response.headers
          = [("content-length", "11"), ("content-type", "text/plain; charset=utf-8")] ∧
        (handle exchange request s).1.response.body = "Bad Gateway".toUTF8) ∧
      (Missing request.method (exchange line s).1 →
        Missing request'.method (exchange' line' s').1 →
        (handle exchange request s).1.response = (handle exchange' request' s').1.response ∧
        (handle exchange request s).1.response.status = 404) ∧
      (Granted request.method (exchange line s).1 →
        Granted request'.method (exchange' line' s').1 →
        (handle exchange request s).1.response = (handle exchange' request' s').1.response ∧
        (handle exchange request s).1.response.status = 204)) ∧
    ∀ {requests : List Request} {s : σ} {s' : τ}, AlikeInTurn exchange exchange' requests s s' →
      (handleAll exchange requests s).1 = (handleAll exchange' requests s').1 := by
  refine ⟨?_, handleAll_eq_of_alike⟩
  intro request request' line line' s s' hdue hdue'
  obtain ⟨response, hanswered, hhandle⟩ := handle_of_due exchange s hdue
  obtain ⟨response', hanswered', hhandle'⟩ := handle_of_due exchange' s' hdue'
  rw [hhandle, hhandle']
  refine ⟨fun h h' => ?_, fun h h' => ?_, fun h h' => ?_⟩
  · rw [eq_badGateway_of_fails hanswered h, eq_badGateway_of_fails hanswered' h']
    exact ⟨rfl, rfl, headers_badGateway, rfl⟩
  · rw [eq_notFound_of_missing hanswered h, eq_notFound_of_missing hanswered' h']
    exact ⟨rfl, rfl⟩
  · rw [eq_stored_of_granted hanswered h, eq_stored_of_granted hanswered' h']
    exact ⟨rfl, rfl⟩

/-- A `GET` that breaks off and one that gets a status with a detail, a key that is missing twice,
    a value that is stored twice; and a run where the store cannot be reached beside one where it
    refuses. -/
theorem failures_leak_nothing_played :
    (handle Script.attempt fetchK [.panic]).1.response
        = (handle Script.attempt fetchK [.answer (.ok (.status "ERR disk 7 is full"))]).1.response ∧
    (handle Script.attempt fetchK [.answer (.ok (.status "NOT_FOUND"))]).1.response.status = 404 ∧
    (handle Script.attempt storeK [.answer (.ok (.status "OK 12"))]).1.response
        = (handle Script.attempt storeK [.answer (.ok (.status "OKAY"))]).1.response ∧
    (handleAll Script.attempt [fetchK, storeK] [.panic, .panic]).1
        = (handleAll Script.attempt [fetchK, storeK]
            [.answer (.ok (.status "ERR disk 7 is full")), .answer (.ok (.value .empty))]).1 := by
  obtain ⟨hone, hall⟩ := failures_leak_nothing Script.attempt Script.attempt
  have hfull : Fails "GET" (.finished (.ok (.status "ERR disk 7 is full"))) :=
    .status rfl (by decide)
  refine ⟨((hone [.panic] [.answer (.ok (.status "ERR disk 7 is full"))]
    due_fetchK due_fetchK).1 .panicked hfull).1, ?_, ?_, hall ?_⟩
  · exact ((hone [.answer (.ok (.status "NOT_FOUND"))] [.answer (.ok (.status "NOT_FOUND"))]
      due_fetchK due_fetchK).2.1 ⟨rfl⟩ ⟨rfl⟩).2
  · have hok : ∀ text, text.startsWith "OK" = true →
        Granted "POST" (.finished (.ok (.status text))) := fun _ h => ⟨rfl, h⟩
    exact ((hone [.answer (.ok (.status "OK 12"))] [.answer (.ok (.status "OKAY"))]
      due_storeK due_storeK).2.2 (hok _ (String.startsWith_string_iff.mpr (by decide)))
        (hok _ (String.startsWith_string_iff.mpr (by decide)))).1
  · refine .asked due_fetchK (.failed .panicked hfull) ?_
    exact .asked due_storeK (.failed .panicked (.value rfl _)) (.done _ _)

end Alike

end StoreLink.Gateway
