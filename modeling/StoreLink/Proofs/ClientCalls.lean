import StoreLink.Proofs.ConformingStore
import StoreLink.Proofs.InTurn
import StoreLink.Proofs.Numerals

/-!
# What a call tells of its reply

A call is one exchange, and its result is read off the answer alone. It is a success only where the
store said so, on a line that carries no value, or, for a `GET`, with a value.

* `decode_eq_status_iff`, `heldBytes?_status_iff`: what a line says that is no value line;
* `Reads`: how a call reads its answers, in four clauses; `reads_get`, `reads_set`, `reads_delete`
  and `reads_usage` say it of the four calls, and `Reads.ok_iff` and `Reads.failure` draw the
  conclusions for the lines of replies;
* `ClientCall.makeAll_eq`: calls in a row make the exchanges for their own commands, and each has
  the result of its own answer;
* **`calls_report_what_was_answered`**: all of it.
-/

namespace StoreLink

open Text (Blanks dropLineEnds trim)

/-! ## 1. What a line says -/

namespace Reply

/-- The text reports a count of bytes: the word for it, and a numeral of the count in blanks. The
    count fits 64 bits. -/
def Counts (text : String) (n : Nat) : Prop :=
  ∃ front numeral back, Blanks front ∧ Blanks back ∧ Text.Decimal.Numeral numeral n ∧
    n < 18446744073709551616 ∧ text = usagePrefix ++ front ++ numeral ++ back

theorem decode_of_statusLine {line : String} (h : StatusLine line) :
    decode line = .ok (.status (trim line)) := by
  rw [decode_statusLine h, Text.trim_dropLineEnds]

/-- **A line is read as a status exactly when it carries no value**, and the status is the line
    trimmed. -/
theorem decode_eq_status_iff {line text : String} :
    decode line = .ok (.status text) ↔ StatusLine line ∧ trim line = text := by
  by_cases hline : StatusLine line
  · rw [decode_of_statusLine hline, Except.ok.injEq, Reply.status.injEq, and_iff_right hline]
  · refine ⟨fun h => ?_, fun h => absurd h.1 hline⟩
    rcases decode_of_not_statusLine hline with ⟨bytes, hread⟩ | ⟨reason, hread⟩ <;>
      rw [hread] at h <;> cases h

/-- **The count of a status is the one that it reports.** -/
theorem heldBytes?_status_iff {text : String} {n : Nat} :
    (Reply.status text).heldBytes? = some n ↔ Counts text n := by
  have hbound : n ≤ Text.Decimal.maxWord ↔ n < 18446744073709551616 := by
    show n ≤ 18446744073709551615 ↔ n < 18446744073709551616
    omega
  cases hprefix : text.dropPrefix? usagePrefix with
  | none =>
    have hnone := Text.dropPrefix?_eq_none_iff.mp hprefix
    simp only [heldBytes?, status?, hprefix]
    constructor
    · intro h
      cases h
    · rintro ⟨front, numeral, back, -, -, -, -, htext⟩
      rw [String.append_assoc, String.append_assoc] at htext
      exact absurd htext (hnone _)
  | some slice =>
    have htext := Text.dropPrefix?_eq_some_iff.mp ⟨slice, hprefix, rfl⟩
    simp only [heldBytes?, status?, hprefix, Text.Decimal.toOption_parse_eq_some_iff, hbound]
    constructor
    · rintro ⟨hnumeral, hfits⟩
      obtain ⟨front, back, hfront, hback, hparts⟩ := Text.eq_of_trim slice.copy
      refine ⟨front, trim slice.copy, back, hfront, hback, hnumeral, hfits, ?_⟩
      rw [hparts] at htext
      rw [htext]
      simp only [String.append_assoc]
    · rintro ⟨front, numeral, back, hfront, hback, hnumeral, hfits, hwhole⟩
      have hcount : slice.copy = front ++ numeral ++ back := by
        rw [hwhole, String.append_assoc, String.append_assoc] at htext
        rw [String.append_assoc]
        exact (String.append_right_inj usagePrefix).mp htext.symm
      rw [hcount, Text.trim_eq_of_append hfront hnumeral.trimmed hback]
      exact ⟨hnumeral, hfits⟩

end Reply

/-! ## 2. How a call reads its answers -/

/-- The failure of a value that no one asked for. -/
def unexpectedValue (bytes : ByteArray) : LinkError :=
  .protocolStatus ("unexpected VALUE reply (" ++ Text.Decimal.render bytes.size ++ " bytes)")

/-- What there is, or else this failure. -/
def orFailure {α : Type} : Option α → LinkError → Except LinkError α
  | some a, _ => .ok a
  | none, e => .error e

@[simp] theorem orFailure_eq_ok_iff {α : Type} {found : Option α} {e : LinkError} {a : α} :
    orFailure found e = .ok a ↔ found = some a := by
  cases found with
  | none => exact ⟨nofun, nofun⟩
  | some b =>
    rw [orFailure, Except.ok.injEq, Option.some.injEq]

theorem eq_of_orFailure_eq_error {α : Type} {found : Option α} {e e' : LinkError}
    (h : orFailure found e = .error e') : e' = e := by
  cases found with
  | none => exact (Except.error.inj h).symm
  | some b => cases h

/-- The call reads its answers so: a failure stays as it is; a value is what `fromValue` makes of
    it, and else it was not expected; a status is what `fromStatus` makes of it, and else the
    failure. -/
structure Reads {α : Type} (call : Call α) (fromValue : ByteArray → Option α)
    (fromStatus : String → Option α) : Prop where
  failed : ∀ e, call.result (.error e) = .error e
  value : ∀ bytes,
    call.result (.ok (.value bytes)) = orFailure (fromValue bytes) (unexpectedValue bytes)
  status : ∀ text,
    call.result (.ok (.status text)) = orFailure (fromStatus text) (.protocolStatus text)

section Reads

variable {α : Type} {call : Call α} {fromValue : ByteArray → Option α}
  {fromStatus : String → Option α}

/-- **What makes a call a success**: a value that it can use, or a line without one that means
    it. -/
theorem Reads.ok_iff (h : Reads call fromValue fromStatus) {line : String} {a : α} :
    call.result (Reply.decode line) = .ok a ↔
      (∃ bytes, Reply.decode line = .ok (.value bytes) ∧ fromValue bytes = some a) ∨
        Reply.StatusLine line ∧ fromStatus (trim line) = some a := by
  by_cases hline : Reply.StatusLine line
  · rw [Reply.decode_of_statusLine hline, h.status, orFailure_eq_ok_iff, and_iff_right hline]
    refine ⟨.inr, ?_⟩
    rintro (⟨bytes, hread, -⟩ | hsome)
    · cases hread
    · exact hsome
  · rw [or_iff_left fun hstatus => hline hstatus.1]
    rcases Reply.decode_of_not_statusLine hline with ⟨bytes, hread⟩ | ⟨reason, hread⟩
    · rw [hread, h.value, orFailure_eq_ok_iff]
      refine ⟨fun hsome => ⟨bytes, rfl, hsome⟩, ?_⟩
      rintro ⟨bytes', hsame, hsome⟩
      cases hsame
      exact hsome
    · rw [hread, h.failed]
      refine ⟨nofun, ?_⟩
      rintro ⟨bytes, hother, -⟩
      cases hother

/-- **What fails on a line without a value keeps the line**, trimmed. -/
theorem Reads.failure (h : Reads call fromValue fromStatus) {line : String}
    (hline : Reply.StatusLine line) {e : LinkError}
    (hfailed : call.result (Reply.decode line) = .error e) : e = .protocolStatus (trim line) := by
  rw [Reply.decode_of_statusLine hline, h.status] at hfailed
  exact eq_of_orFailure_eq_error hfailed

/-- A value that the call cannot use is its failure. -/
theorem Reads.unexpected (h : Reads call fromValue fromStatus) {bytes : ByteArray}
    (hnone : fromValue bytes = none) :
    call.result (.ok (.value bytes)) = .error (unexpectedValue bytes) := by
  rw [h.value, hnone]
  rfl

end Reads

/-! ## 3. The four calls -/

section Calls

variable (key : Key) (value : ByteArray)

theorem reads_get : Reads (Client.get key) (fun bytes => some (some bytes))
    (fun text => if text = "NOT_FOUND" then some none else none) where
  failed _ := rfl
  value _ := rfl
  status text := by
    show (if (Reply.status text).saysMissing then Except.ok none else _) = _
    by_cases htext : text = "NOT_FOUND"
    · simp [htext, orFailure]
    · simp [htext, orFailure, Client.misfit]

theorem reads_set : Reads (Client.set key value) (fun _ => none)
    (fun text => if text.startsWith "OK" then some () else none) where
  failed _ := rfl
  value _ := rfl
  status text := by
    show (if (Reply.status text).grants then Except.ok () else _) = _
    cases htext : text.startsWith "OK" <;> simp [htext, orFailure, Client.misfit]

theorem reads_delete : Reads (Client.delete key) (fun _ => none)
    (fun text =>
      if text.startsWith "OK" ∨ text = "DELETED" then some true
      else if text = "NOT_FOUND" then some false
      else none) where
  failed _ := rfl
  value _ := rfl
  status text := by
    rw [ConformingStore.delete_result]
    simp only [Reply.grants_status, Reply.saysRemoved_status, Reply.saysMissing_status,
      Bool.or_eq_true, beq_iff_eq]
    split
    · rfl
    · split <;> rfl

theorem reads_usage : Reads Client.usage (fun _ => none)
    (fun text => (Reply.status text).heldBytes?) where
  failed _ := rfl
  value _ := rfl
  status text := by
    simp only [Call.result, Client.usage]
    cases (Reply.status text).heldBytes? <;> rfl

end Calls

/-! ## 4. Calls in a row -/

/-- A call of a client: one about a key, or for the bytes held. -/
inductive ClientCall where
  | onKey (op : Operation)
  | usage

/-- The result of such a call. -/
inductive ClientCall.Result where
  | onKey (result : Operation.Result)
  | counted (result : Except LinkError Nat)

namespace ClientCall

open Exchange (inTurn)

variable {σ : Type}

/-- The failure of a call. -/
def Result.failure? : Result → Option LinkError
  | .onKey result => result.failure?
  | .counted result => failureOf? result

/-- The command of a call. -/
def command : ClientCall → Command
  | .onKey (.get key) => .get key
  | .onKey (.set key value) => .set key value
  | .onKey (.delete key) => .delete key
  | .usage => .usage

/-- The result of a call, given the answer. -/
def resultOf : ClientCall → Answer → Result
  | .onKey (.get key), answer => .onKey (.read ((Client.get key).result answer))
  | .onKey (.set key value), answer => .onKey (.stored ((Client.set key value).result answer))
  | .onKey (.delete key), answer => .onKey (.removed ((Client.delete key).result answer))
  | .usage, answer => .counted (Client.usage.result answer)

/-- Makes the call through an exchange. -/
def make (exchange : Exchange σ Answer) (s : σ) : ClientCall → Result × σ
  | .onKey op => (op.perform exchange s).map .onKey id
  | .usage => (Client.usage.run exchange s).map .counted id

/-- Makes calls in a row. -/
def makeAll (exchange : Exchange σ Answer) (s : σ) : List ClientCall → List Result × σ
  | [] => ([], s)
  | call :: later =>
    let (result, s') := call.make exchange s
    let (results, last) := makeAll exchange s' later
    (result :: results, last)

/-- The requests that calls in a row send: for each the line of its own command. -/
def requests (calls : List ClientCall) : List RequestLine :=
  calls.map fun call => RequestLine.ofCommand call.command

/-- **One call is one exchange**, and its result is read off the answer. -/
theorem make_eq (exchange : Exchange σ Answer) (s : σ) (call : ClientCall) :
    call.make exchange s
      = (call.resultOf (exchange (RequestLine.ofCommand call.command) s).1,
          (exchange (RequestLine.ofCommand call.command) s).2) := by
  cases call with
  | onKey op => cases op <;> rfl
  | usage => rfl

/-- **Calls in a row are these exchanges in a row**, and each has the result of its own answer. -/
theorem makeAll_eq (exchange : Exchange σ Answer) : ∀ (calls : List ClientCall) (s : σ),
    makeAll exchange s calls
      = (List.zipWith resultOf calls (inTurn exchange (requests calls) s).1,
          (inTurn exchange (requests calls) s).2)
  | [], _ => rfl
  | call :: later, s => by
    simp only [makeAll, make_eq, makeAll_eq exchange later]
    rfl

/-! ## 5. Failures -/

/-- **A failed exchange is the failure of the call**, whatever it is. -/
theorem failure_of_error (e : LinkError) :
    ∀ call : ClientCall, (call.resultOf (.error e)).failure? = some e
  | .onKey (.get _) | .onKey (.set _ _) | .onKey (.delete _) | .usage => rfl

/-- **A line without a value that is no success is the failure**, trimmed. -/
theorem failure_of_statusLine {line : String} (hline : Reply.StatusLine line) {e : LinkError} :
    ∀ call : ClientCall, (call.resultOf (Reply.decode line)).failure? = some e →
      e = .protocolStatus (trim line)
  | .onKey (.get key), h => (reads_get key).failure hline (failureOf?_eq_some_iff.mp h)
  | .onKey (.set key value), h => (reads_set key value).failure hline (failureOf?_eq_some_iff.mp h)
  | .onKey (.delete key), h => (reads_delete key).failure hline (failureOf?_eq_some_iff.mp h)
  | .usage, h => reads_usage.failure hline (failureOf?_eq_some_iff.mp h)

/-- **Only a `GET` expects a value.** -/
theorem failure_of_value (bytes : ByteArray) : ∀ call : ClientCall,
    (∀ key, call ≠ .onKey (.get key)) →
      (call.resultOf (.ok (.value bytes))).failure? = some (unexpectedValue bytes)
  | .onKey (.get key), h => absurd rfl (h key)
  | .onKey (.set key value), _ => failureOf?_eq_some_iff.mpr ((reads_set key value).unexpected rfl)
  | .onKey (.delete key), _ => failureOf?_eq_some_iff.mpr ((reads_delete key).unexpected rfl)
  | .usage, _ => failureOf?_eq_some_iff.mpr (reads_usage.unexpected rfl)

/-! ## 6. Successes -/

section Successes

variable {key : Key} {value bytes : ByteArray} {line : String}

theorem get_some_iff :
    (Client.get key).result (Reply.decode line) = .ok (some bytes) ↔
      Reply.decode line = .ok (.value bytes) := by
  rw [(reads_get key).ok_iff]
  constructor
  · rintro (⟨bytes', hread, hsame⟩ | ⟨-, hnone⟩)
    · cases hsame
      exact hread
    · split at hnone <;> cases hnone
  · exact fun hread => .inl ⟨bytes, hread, rfl⟩

theorem get_none_iff :
    (Client.get key).result (Reply.decode line) = .ok none ↔
      Reply.StatusLine line ∧ trim line = "NOT_FOUND" := by
  rw [(reads_get key).ok_iff]
  simp

theorem set_ok_iff :
    (Client.set key value).result (Reply.decode line) = .ok () ↔
      Reply.StatusLine line ∧ (trim line).startsWith "OK" = true := by
  rw [(reads_set key value).ok_iff]
  simp

theorem delete_true_iff :
    (Client.delete key).result (Reply.decode line) = .ok true ↔
      Reply.StatusLine line ∧ ((trim line).startsWith "OK" = true ∨ trim line = "DELETED") := by
  have hother : (if trim line = "NOT_FOUND" then some false else none) ≠ some true := by
    split <;> simp
  rw [(reads_delete key).ok_iff, ite_eq_left_iff]
  simp only [hother, imp_false, Classical.not_not, reduceCtorEq, and_false, exists_false, false_or]

/-- The word for a key that is not stored neither grants nor says that it was removed. -/
theorem delete_false_iff :
    (Client.delete key).result (Reply.decode line) = .ok false ↔
      Reply.StatusLine line ∧ trim line = "NOT_FOUND" := by
  have hother : trim line = "NOT_FOUND" →
      ¬ ((trim line).startsWith "OK" = true ∨ trim line = "DELETED") := by
    intro htext
    have hgrants : "NOT_FOUND".startsWith "OK" = false :=
      String.startsWith_string_eq_false_iff.mpr (by decide)
    rw [htext, hgrants]
    decide
  rw [(reads_delete key).ok_iff]
  by_cases htext : trim line = "NOT_FOUND"
  · rw [if_neg (hother htext)]
    simp [htext]
  · simp [htext]

theorem usage_ok_iff {n : Nat} :
    Client.usage.result (Reply.decode line) = .ok n ↔
      Reply.StatusLine line ∧ Reply.Counts (trim line) n := by
  rw [reads_usage.ok_iff, Reply.heldBytes?_status_iff]
  simp

end Successes

/-- **A call reports what the store answered, and no success without it.** Calls in a row make one
    exchange each, with the line of their own command, and each has the result of its own answer.
    Where the answer is a failure, so is the result, and the same. Where it is read off a line: a
    `GET` gives the value of a value line, and nothing exactly for the word that says so; a `SET`
    succeeds on `OK`, a `DELETE` on `OK` or the word for a key removed, and says that there was no
    key exactly on the word for that; a count is the one that the line reports. Any other line
    without a value is a failure that keeps it trimmed, and a value that was not asked for is one
    that tells its size. -/
theorem calls_report_what_was_answered :
    (∀ {σ : Type} (exchange : Exchange σ Answer) (calls : List ClientCall) (s : σ),
      let carried := inTurn exchange (requests calls) s
      makeAll exchange s calls = (List.zipWith resultOf calls carried.1, carried.2) ∧
        carried.1.length = calls.length) ∧
    (∀ (call : ClientCall) e, (call.resultOf (.error e)).failure? = some e) ∧
    (∀ key line,
      (∀ bytes, (Client.get key).result (Reply.decode line) = .ok (some bytes) ↔
        Reply.decode line = .ok (.value bytes)) ∧
      ((Client.get key).result (Reply.decode line) = .ok none ↔
        Reply.StatusLine line ∧ trim line = "NOT_FOUND")) ∧
    (∀ key value line, (Client.set key value).result (Reply.decode line) = .ok () ↔
      Reply.StatusLine line ∧ (trim line).startsWith "OK" = true) ∧
    (∀ key line,
      ((Client.delete key).result (Reply.decode line) = .ok true ↔
        Reply.StatusLine line ∧ ((trim line).startsWith "OK" = true ∨ trim line = "DELETED")) ∧
      ((Client.delete key).result (Reply.decode line) = .ok false ↔
        Reply.StatusLine line ∧ trim line = "NOT_FOUND")) ∧
    (∀ line n, Client.usage.result (Reply.decode line) = .ok n ↔
      Reply.StatusLine line ∧ Reply.Counts (trim line) n) ∧
    (∀ (call : ClientCall) line e, Reply.StatusLine line →
      (call.resultOf (Reply.decode line)).failure? = some e → e = .protocolStatus (trim line)) ∧
    ∀ (call : ClientCall) bytes, (∀ key, call ≠ .onKey (.get key)) →
      (call.resultOf (.ok (.value bytes))).failure?
        = some (.protocolStatus
            ("unexpected VALUE reply (" ++ Text.Decimal.render bytes.size ++ " bytes)")) := by
  refine ⟨fun exchange calls s => ⟨makeAll_eq exchange calls s, ?_⟩, ?_, ?_, ?_, ?_, ?_, ?_, ?_⟩
  · rw [Exchange.length_inTurn, requests, List.length_map]
  · exact fun call e => failure_of_error e call
  · exact fun _ _ => ⟨fun _ => get_some_iff, get_none_iff⟩
  · exact fun _ _ _ => set_ok_iff
  · exact fun _ _ => ⟨delete_true_iff, delete_false_iff⟩
  · exact fun _ _ => usage_ok_iff
  · exact fun call line e hline h => failure_of_statusLine hline call h
  · exact fun call bytes h => failure_of_value bytes call h

/-- The count has a blank before it, a sign, and a zero in front. -/
theorem calls_report_what_was_answered_usage :
    Client.usage.result (Reply.decode "USAGE  +07\r\n") = .ok 7 := by
  obtain ⟨-, -, -, -, -, husage, -⟩ := calls_report_what_was_answered
  have htrim : trim "USAGE  +07\r\n" = "USAGE  +07" := by
    have hline : "USAGE  +07\r\n" = "" ++ "USAGE  +07" ++ "\r\n" := by decide
    rw [hline]
    exact Text.trim_eq_of_append (by decide) (by decide) (by decide)
  have hopening : ['U'] <+: "USAGE  +07\r\n".toList := ⟨_, rfl⟩
  refine (husage _ _).mpr ⟨?_, ?_⟩
  · exact Reply.ne_valueLine (Text.prefix_dropLineEnds hopening (by decide)) (by decide)
  · have hnumeral : Text.Decimal.Numeral "+07" 7 :=
      ⟨['+'], ['0', '7'], .inr rfl, by decide, by simp, rfl, rfl⟩
    rw [htrim]
    exact ⟨" ", "+07", "", by decide, by decide, hnumeral, by decide, by decide⟩

end ClientCall

end StoreLink
