import StoreLink.Proofs.ConformingStore
import StoreLink.Proofs.Delivery
import StoreLink.Proofs.GatewayResponses
import StoreLink.Proofs.ValueLines

/-!
# What is stored comes back

A body that the gateway accepts can be fetched again, whatever its bytes: the store has only to give
back the payload of the line that it was sent.

* `GivesBack`: two exchanges with such a store, through streams;
* `size_valueLine_lt`: the reply with the longest body that is accepted is no line too long;
* `accepted_body_comes_back`: the body that is fetched is the body that was stored.
-/

namespace StoreLink.Gateway

/-! ## 1. A store that gives back -/

/-- Two exchanges through streams. In the first the store is sent a line and grants it; in the
    second it replies with the payload of that line, which is its third field. -/
structure GivesBack {σ : Type} (exchange : Exchange σ Attempt) (setLine getLine : RequestLine)
    (s s' : σ) (setStream getStream : Stream) : Prop where
  set : (exchange setLine s).1 = .finished (Exchange.through setStream setLine).answer
  granted : ∃ status, status.startsWith "OK" = true ∧
    (Exchange.through setStream setLine).answer = .ok (.status status)
  get : (exchange getLine s').1 = .finished (Exchange.through getStream getLine).answer
  returned : ∃ received name key payload,
    (Exchange.through setStream setLine).written = (received ++ "\n").toUTF8 ∧
    fields received = [name, key, payload] ∧
    Exchange.Delivers getStream getLine ("VALUE " ++ payload)

/-! ## 2. The reply -/

/-- **The reply to a `GET` never fills the limit**: base64 makes four bytes of three, and the limit
    is twice the longest body. -/
theorem size_valueLine_lt {bytes : ByteArray} (hbody : bytes.size ≤ maxBody) :
    ("VALUE " ++ Base64.encode bytes ++ "\n").toUTF8.size < Exchange.maxResponseLine := by
  have hend : "\n".toUTF8.size = 1 := rfl
  rw [Reply.size_valueLine, hend]
  unfold maxBody at hbody
  unfold Exchange.maxResponseLine
  omega

/-! ## 3. There and back -/

section RoundTrip

variable {σ : Type} {exchange : Exchange σ Attempt} {key : Key} {body : ByteArray}
  {getLine : RequestLine} {s s' : σ} {setStream getStream : Stream}

/-- What the store received is the text of the line that was sent. -/
theorem received_eq {text received : String} {stream : Stream} {reply : Reply}
    (hanswer : (Exchange.through stream (.terminated text)).answer = .ok reply)
    (hwritten : (Exchange.through stream (.terminated text)).written = (received ++ "\n").toUTF8) :
    received = text := by
  have hbytes : (text ++ "\n").toByteArray = (received ++ "\n").toByteArray :=
    (Exchange.written_of_answer hanswer).symm.trans hwritten
  exact ((String.append_left_inj "\n").mp (String.toByteArray_inj.mp hbytes)).symm

/-- The payload that the store gives back is the body in base64. -/
theorem delivers_of_givesBack
    (h : GivesBack exchange (Question.put key body).request getLine s s' setStream getStream) :
    Exchange.Delivers getStream getLine ("VALUE " ++ Base64.encode body) := by
  obtain ⟨status, -, hanswer⟩ := h.granted
  obtain ⟨received, name, field, payload, hwritten, hfields, hdelivers⟩ := h.returned
  have hreceived : received = RequestLine.textOf (.set key body) := received_eq hanswer hwritten
  have hsent : fields (RequestLine.textOf (.set key body))
      = ["SET", key.text, Base64.encode body] := by
    rw [← RequestLine.text_ofCommand]
    exact fields_set key body
  -- so the third field that the store found is the body in base64
  rw [hreceived, hsent] at hfields
  cases hfields
  exact hdelivers

/-- The exchange of the `GET` brings the body, and its reply has ended in time. -/
theorem outcome_of_givesBack (hbody : body.size ≤ maxBody)
    (h : GivesBack exchange (Question.put key body).request getLine s s' setStream getStream) :
    (exchange getLine s').1 = .finished (.ok (.value body)) ∧
      ∃ line, (Stream.readLine Exchange.maxResponseLine getStream.reads).ending = .line line ∧
        line.size < Exchange.maxResponseLine := by
  have hdelivers := delivers_of_givesBack h
  have hline := Reply.newline_not_mem_valueLine body
  have hsize := size_valueLine_lt hbody
  constructor
  · have hread : Reply.decode ("VALUE " ++ Base64.encode body ++ "\n") = .ok (.value body) :=
      Reply.decode_encode body (by decide)
    rw [h.get, Exchange.answer_of_delivers hdelivers hline (Nat.le_of_lt hsize), hread]
  · exact ⟨_, Exchange.ending_of_delivers hdelivers hline (Nat.le_of_lt hsize), hsize⟩

/-- **What the gateway accepts it can give back unchanged.** Take a path that names a key, and any
    body that is not too long. `POST` and `GET` of this path send lines about this one key; and
    whenever the store grants the first and gives its payload back for the second, in a reply that
    is cut anywhere and may have more behind it, `POST` is answered with 204 and `GET` with 200 and
    the same body. The reply never runs into the limit of a line. -/
theorem accepted_body_comes_back {post get : Request} {tail : List UInt8}
    (hpost : post.method = "POST") (hget : get.method = "GET")
    (hpostPath : Target.ofText post.target = .path (Target.slash :: tail))
    (hgetPath : Target.ofText get.target = .path (Target.slash :: tail))
    (hnames : Names tail key) (hbody : post.body.size ≤ 33554432)
    (hstore : GivesBack exchange
      (.terminated ("SET " ++ key.text ++ " " ++ Base64.encode post.body))
      (.terminated ("GET " ++ key.text)) s s' setStream getStream) :
    (handle exchange post s).1.sent
        = some (.terminated ("SET " ++ key.text ++ " " ++ Base64.encode post.body)) ∧
      (handle exchange get s').1.sent = some (.terminated ("GET " ++ key.text)) ∧
      (handle exchange post s).1.response.status = 204 ∧
      (handle exchange get s').1.response.status = 200 ∧
      (handle exchange get s').1.response.body = post.body ∧
      ∃ line, (Stream.readLine Exchange.maxResponseLine getStream.reads).ending = .line line ∧
        line.size < Exchange.maxResponseLine := by
  have hroot := ne_nil_of_names hnames
  obtain ⟨status, hok, hanswer⟩ := hstore.granted
  obtain ⟨houtcome, hended⟩ := outcome_of_givesBack hbody (request_put key post.body ▸ hstore)
  obtain ⟨stored, hstored, hpostHandled⟩ :=
    handle_of_due exchange s (.post hpost hpostPath hroot hnames hbody)
  obtain ⟨found, hfound, hgetHandled⟩ :=
    handle_of_due exchange s' (.get hget hgetPath hroot hnames)
  rw [hstore.set, hanswer] at hstored
  rw [houtcome] at hfound
  rw [hpostHandled, hgetHandled, eq_stored_of_granted hstored ⟨hpost, hok⟩,
    response_unique (.same _) hfound (.found hget post.body)]
  exact ⟨rfl, rfl, rfl, rfl, rfl, hended⟩

/-- `GET` of the path of `storeK`, with a query behind. -/
def fetchStoredK : Request := { method := "GET", target := "/k?again" }

/-- A stream on which the store grants. -/
def granting : Stream where
  reads := [.chunk "O".toUTF8, .chunk "K stored\n".toUTF8]

/-- A stream on which the store gives a line feed back, in pieces and with more behind it. -/
def returning : Stream where
  reads := [.chunk "VALUE C".toUTF8, .failure (.ofKind .interrupted), .chunk "g=".toUTF8,
    .chunk "=\nmore".toUTF8]

theorem givesBack_k : GivesBack Script.attempt
    (.terminated ("SET " ++ keyK.text ++ " " ++ Base64.encode storeK.body))
    (.terminated ("GET " ++ keyK.text)) [.stream granting, .stream returning] [.stream returning]
    granting returning := by
  have hline : "SET " ++ keyK.text ++ " " ++ "Cg==" = "SET k Cg==" := by decide
  rw [encode_storeK, hline]
  have hgranting : Exchange.Delivers granting (.terminated "SET k Cg==") "OK stored" :=
    ⟨rfl, rfl, .empty, by decide⟩
  have hanswer : (Exchange.through granting (.terminated "SET k Cg==")).answer
      = .ok (.status "OK stored") := by
    rw [Exchange.answer_of_delivers hgranting (by decide) (by decide)]
    exact Reply.decode_status (by decide) ⟨_, rfl⟩ (by decide) (by decide)
  exact
    { set := rfl
      granted := ⟨"OK stored", String.startsWith_string_iff.mpr (by decide), hanswer⟩
      get := rfl
      returned := ⟨"SET k Cg==", "SET", "k", "Cg==", Exchange.written_of_answer hanswer, by decide,
        rfl, rfl, "more".toUTF8, by decide⟩ }

/-- A line feed is stored under `k` and fetched again. -/
theorem accepted_body_comes_back_lineFeed :
    (handle Script.attempt storeK [.stream granting, .stream returning]).1.response.status = 204 ∧
    (handle Script.attempt fetchStoredK [.stream returning]).1.response.status = 200 ∧
    (handle Script.attempt fetchStoredK [.stream returning]).1.response.body = "\n".toUTF8 := by
  have hpost : storeK.method = "POST" := rfl
  have hget : fetchStoredK.method = "GET" := rfl
  obtain ⟨-, -, hstored, hfound, hbody, -⟩ :=
    accepted_body_comes_back hpost hget rfl rfl names_storeK (by decide) givesBack_k
  exact ⟨hstored, hfound, hbody⟩

end RoundTrip

end StoreLink.Gateway
