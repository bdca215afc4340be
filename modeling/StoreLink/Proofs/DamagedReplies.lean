import StoreLink.Proofs.ClientCalls
import StoreLink.Proofs.Delivery
import StoreLink.Proofs.GatewayResponses
import StoreLink.Proofs.LossyReading

/-!
# Damaged replies

A reply that is not UTF-8 is read all the same, but it is never taken for data, nor for the news
that there is none. What makes the difference is the replacement character that the reading leaves:
it is no blank, so it stays when the line is trimmed, and it stands in no spelling of a value, in no
word and in no numeral.

* `Text.Intact`: a text without replacement characters; `intact_of_blanks`, `intact_encode` and
  `Numeral.intact` are the texts that are;
* `intact_of_value`, `intact_of_counts`: a line that carries a value or reports a count is intact;
* `Damaged`: what is left for a damaged line to say, and `damaged_of_brings` that it says no more;
* **`damaged_lines_are_never_data`**: what follows for the calls and for the gateway.
-/

namespace StoreLink

/-! ## 1. Texts without replacement characters -/

namespace Text

/-- No replacement character stands in the text. -/
def Intact (s : String) : Prop := '\uFFFD' ∉ s.toList

instance (s : String) : Decidable (Intact s) :=
  inferInstanceAs (Decidable ('\uFFFD' ∉ s.toList))

section Intact

variable {s t : String}

@[simp] theorem intact_append : Intact (s ++ t) ↔ Intact s ∧ Intact t := by
  simp only [Intact, String.toList_append, List.mem_append, not_or]

theorem intact_of_blanks (h : Blanks s) : Intact s := by
  intro hmem
  exact absurd (h _ hmem) (by decide)

/-- The line ends behind a text make no difference. -/
theorem intact_of_dropLineEnds (h : Intact (dropLineEnds s)) : Intact s := by
  obtain ⟨ends, hends, hs⟩ := eq_of_dropLineEnds s
  rw [hs, intact_append]
  exact ⟨h, intact_of_blanks hends.blanks⟩

/-- And no more do the blanks around it. -/
theorem intact_of_trim (h : Intact (trim s)) : Intact s := by
  obtain ⟨front, back, hfront, hback, hs⟩ := eq_of_trim s
  rw [hs]
  simp [h, intact_of_blanks hfront, intact_of_blanks hback]

/-- **What is written in base64 is intact**: its characters are all small. -/
@[simp] theorem intact_encode (bytes : ByteArray) : Intact (Base64.encode bytes) := by
  have hsmall : ∀ x : UInt8, Char.ofUInt8 x ≠ '\uFFFD' := Bytes.forall_of_fin (by decide +kernel)
  intro h
  rw [Base64.toList_encode, List.mem_map] at h
  obtain ⟨x, -, hx⟩ := h
  exact hsmall x hx

theorem Decimal.Numeral.intact {n : Nat} (h : Decimal.Numeral s n) : Intact s := by
  intro hmem
  rcases h.sign_or_digit hmem with hplus | hdigit
  · exact absurd hplus (by decide)
  · exact absurd hdigit (by decide)

/-- **Bytes that are read as an intact text are the bytes of it.** -/
theorem eq_toUTF8_of_intact {b : ByteArray} (h : Intact (lossy b)) : b = (lossy b).toUTF8 := by
  have hvalid : b.IsValidUTF8 :=
    Classical.byContradiction fun hno => h (replacement_mem_lossy hno)
  obtain ⟨s, rfl⟩ : ∃ s : String, b = s.toUTF8 := ⟨String.fromUTF8 b hvalid, rfl⟩
  rw [lossy_toUTF8]

end Intact

end Text

open Text (Blanks Intact lossy trim)

/-! ## 2. What an intact line can say -/

namespace Reply

/-- **A line that carries a value is intact.** -/
theorem intact_of_value {line : String} {bytes : ByteArray}
    (h : decode line = .ok (.value bytes)) : Intact line := by
  obtain ⟨front, back, hfront, hback, hline⟩ := decode_eq_value_iff.mp h
  have hopening : Intact valuePrefix := by decide
  refine Text.intact_of_dropLineEnds ?_
  rw [hline]
  simp [hopening, Text.intact_of_blanks hfront, Text.intact_of_blanks hback]

/-- **A text that reports a count is intact.** -/
theorem intact_of_counts {text : String} {n : Nat} (h : Counts text n) : Intact text := by
  obtain ⟨front, numeral, back, hfront, hback, hnumeral, -, rfl⟩ := h
  have hopening : Intact usagePrefix := by decide
  simp [hopening, Text.intact_of_blanks hfront, hnumeral.intact, Text.intact_of_blanks hback]

/-- The whole line of a value, line ends and all. -/
theorem parts_of_value {line : String} {bytes : ByteArray}
    (h : decode line = .ok (.value bytes)) :
    ∃ front back, Blanks front ∧ Blanks back ∧
      line = valuePrefix ++ front ++ Base64.encode bytes ++ back := by
  obtain ⟨front, back, hfront, hback, hline⟩ := decode_eq_value_iff.mp h
  obtain ⟨ends, hends, hparts⟩ := Text.eq_of_dropLineEnds line
  refine ⟨front, back ++ ends, hfront, Text.blanks_append.mpr ⟨hback, hends.blanks⟩, ?_⟩
  rw [hparts, hline, String.append_assoc]

end Reply

/-! ## 3. What a damaged line says -/

section Damaged

open Exchange (through Brings)

variable {stream : Stream} {request : RequestLine} {bytes : ByteArray} {answer : Answer}

/-- The answer is a failure, or a status that is not intact. -/
def Damaged (answer : Answer) : Prop :=
  (∃ e, answer = .error e) ∨ ∃ text, answer = .ok (.status text) ∧ ¬ Intact text

/-- **A damaged line is answered by a failure, or by a status that still shows the damage.** -/
theorem damaged_of_brings (h : Brings stream request bytes) (hbytes : ¬ bytes.IsValidUTF8) :
    Damaged (through stream request).answer := by
  have hline : ¬ Intact (lossy bytes) := fun hintact => hintact (Text.replacement_mem_lossy hbytes)
  rw [Exchange.answer_of_brings h]
  rcases Reply.decode_cases (lossy bytes) with ⟨v, hvalue⟩ | hstatus | ⟨reason, hfails⟩
  · exact absurd (Reply.intact_of_value hvalue) hline
  · rw [Text.trim_dropLineEnds] at hstatus
    exact .inr ⟨_, hstatus, mt Text.intact_of_trim hline⟩
  · exact .inl ⟨_, hfails⟩

theorem Damaged.ne_value (h : Damaged answer) (v : ByteArray) : answer ≠ .ok (.value v) := by
  rintro rfl
  rcases h with ⟨e, he⟩ | ⟨text, htext, -⟩
  · cases he
  · cases htext

/-- A damaged status is neither of the two words, and no count. -/
theorem Damaged.status {text : String} (h : Damaged (.ok (.status text))) :
    text ≠ "NOT_FOUND" ∧ text ≠ "DELETED" ∧ ∀ n, ¬ Reply.Counts text n := by
  rcases h with ⟨e, he⟩ | ⟨text', htext, hdamaged⟩
  · cases he
  · cases htext
    have hmissing : Intact "NOT_FOUND" := by decide
    have hremoved : Intact "DELETED" := by decide
    exact ⟨fun heq => hdamaged (heq ▸ hmissing), fun heq => hdamaged (heq ▸ hremoved),
      fun n hn => hdamaged (Reply.intact_of_counts hn)⟩

/-- **For `GET` a damaged answer is a failure.** -/
theorem Damaged.fails (h : Damaged answer) : Gateway.Fails "GET" (.finished answer) := by
  rcases h with ⟨e, rfl⟩ | ⟨text, rfl, hdamaged⟩
  · exact .error e
  · exact .status rfl (Damaged.status (.inr ⟨text, rfl, hdamaged⟩)).1

/-- The status that comes through a stream is the line, trimmed. -/
theorem status_of_brings (h : Brings stream request bytes) {text : String}
    (hanswer : (through stream request).answer = .ok (.status text)) :
    text = trim (lossy bytes) := by
  rw [Exchange.answer_of_brings h] at hanswer
  exact (Reply.decode_eq_status_iff.mp hanswer).2.symm

end Damaged

/-! ## 4. What the calls make of it -/

section Calls

variable {answer : Answer}

/-- A call that finds nothing in a damaged status fails. -/
theorem Reads.error_of_damaged {α : Type} {call : Call α} {fromValue : ByteArray → Option α}
    {fromStatus : String → Option α} (hcall : Reads call fromValue fromStatus)
    (h : Damaged answer)
    (hnone : ∀ text, answer = .ok (.status text) → fromStatus text = none) :
    ∃ e, call.result answer = .error e := by
  rcases h with ⟨e, rfl⟩ | ⟨text, rfl, -⟩
  · exact ⟨e, hcall.failed e⟩
  · refine ⟨.protocolStatus text, ?_⟩
    rw [hcall.status, hnone text rfl]
    rfl

theorem get_error_of_damaged (h : Damaged answer) (key : Key) :
    ∃ e, (Client.get key).result answer = .error e := by
  refine (reads_get key).error_of_damaged h ?_
  rintro text rfl
  exact if_neg h.status.1

theorem usage_error_of_damaged (h : Damaged answer) :
    ∃ e, Client.usage.result answer = .error e := by
  refine reads_usage.error_of_damaged h ?_
  rintro text rfl
  refine Option.eq_none_iff_forall_ne_some.mpr fun n hn => ?_
  exact h.status.2.2 n (Reply.heldBytes?_status_iff.mp hn)

theorem set_error_of_damaged (h : Damaged answer) (key : Key) (value : ByteArray)
    (hok : ∀ text, answer = .ok (.status text) → text.startsWith "OK" = false) :
    ∃ e, (Client.set key value).result answer = .error e := by
  refine (reads_set key value).error_of_damaged h ?_
  rintro text rfl
  simp [hok text rfl]

theorem delete_error_of_damaged (h : Damaged answer) (key : Key)
    (hok : ∀ text, answer = .ok (.status text) → text.startsWith "OK" = false) :
    ∃ e, (Client.delete key).result answer = .error e := by
  refine (reads_delete key).error_of_damaged h ?_
  rintro text rfl
  obtain ⟨hmissing, hremoved, -⟩ := h.status
  simp [hok text rfl, hmissing, hremoved]

end Calls

/-! ## 5. The whole of it -/

open Exchange (through Brings)

/-- **A reply that is not UTF-8 is never taken for data, or for the news that there is none.** Take
    any line that a stream brings, in whatever pieces. When its bytes are not UTF-8 the answer is no
    value, and none of the statuses that say that a key is missing or removed or how much is held.
    So `GET` and `USAGE` fail, and so do `SET` and `DELETE` unless the line, read and trimmed,
    begins with `OK`; and the gateway answers `GET` with 502. On the other side, a value comes only
    from the bytes of its one spelling, with blanks around it. -/
theorem damaged_lines_are_never_data :
    (∀ stream request bytes, Brings stream request bytes → ¬ bytes.IsValidUTF8 →
      let answer := (through stream request).answer
      (∀ v, answer ≠ .ok (.value v)) ∧
      (∀ text, answer = .ok (.status text) →
        text ≠ "NOT_FOUND" ∧ text ≠ "DELETED" ∧ ∀ n, ¬ Reply.Counts text n) ∧
      (∀ key, ∃ e, (Client.get key).result answer = .error e) ∧
      (∃ e, Client.usage.result answer = .error e) ∧
      ((trim (lossy bytes)).startsWith "OK" = false →
        (∀ key, ∃ e, (Client.delete key).result answer = .error e) ∧
        ∀ key value, ∃ e, (Client.set key value).result answer = .error e) ∧
      ∀ {σ : Type} (exchange : Exchange σ Attempt) (s : σ) (asked : Gateway.Request),
        asked.method = "GET" → Gateway.Due asked request →
        (exchange request s).1 = .finished answer →
          (Gateway.handle exchange asked s).1.response = Gateway.badGateway ∧
            Gateway.badGateway.status = 502) ∧
    ∀ stream request v, (through stream request).answer = .ok (.value v) →
      ∃ bytes front back, Brings stream request bytes ∧ Blanks front ∧ Blanks back ∧
        bytes = ("VALUE " ++ front ++ Base64.encode v ++ back).toUTF8 := by
  constructor
  · intro stream request bytes hbrings hbytes answer
    have hdamaged : Damaged answer := damaged_of_brings hbrings hbytes
    refine ⟨hdamaged.ne_value, fun text htext => ?_, get_error_of_damaged hdamaged,
      usage_error_of_damaged hdamaged, fun hok => ?_, ?_⟩
    · rw [htext] at hdamaged
      exact hdamaged.status
    · have hstatus : ∀ text, answer = .ok (.status text) → text.startsWith "OK" = false := by
        intro text htext
        rw [status_of_brings hbrings htext]
        exact hok
      exact ⟨fun key => delete_error_of_damaged hdamaged key hstatus,
        fun key value => set_error_of_damaged hdamaged key value hstatus⟩
    · intro σ exchange s asked hmethod hdue hexchange
      obtain ⟨response, hanswered, hhandle⟩ := Gateway.handle_of_due exchange s hdue
      rw [hexchange, hmethod] at hanswered
      rw [hhandle]
      exact ⟨Gateway.eq_badGateway_of_fails hanswered hdamaged.fails, rfl⟩
  · intro stream request v hvalue
    rcases Exchange.brings_or_fails stream request with ⟨bytes, hbrings⟩ | ⟨e, hfails⟩
    · rw [Exchange.answer_of_brings hbrings] at hvalue
      obtain ⟨front, back, hfront, hback, hline⟩ := Reply.parts_of_value hvalue
      refine ⟨bytes, front, back, hbrings, hfront, hback, ?_⟩
      have hopening : valuePrefix = "VALUE " := rfl
      rw [← hopening, ← hline]
      exact Text.eq_toUTF8_of_intact (Reply.intact_of_value hvalue)
    · rw [hfails] at hvalue
      cases hvalue

/-- A reply that says that a key is missing, but for one byte behind it. It comes in three pieces.
    -/
def damagedMissing : Stream where
  reads := [.chunk "NOT_".toUTF8, .chunk "FOUND".toUTF8, .chunk ⟨#[0xC3, 0x0A]⟩]

theorem brings_damagedMissing :
    Brings damagedMissing (Client.get ConformingStore.letter).request
      ("NOT_FOUND".toUTF8 ++ ⟨#[0xC3, 0x0A]⟩) where
  sent := by decide
  flushed := rfl
  whole := ⟨"NOT_FOUND".toUTF8.data.toList ++ [0xC3], by decide, by decide⟩
  fits := by decide
  arrives := ⟨.empty, by decide⟩

theorem damaged_lines_are_never_data_missing :
    ∃ e, (Client.get ConformingStore.letter).result
      (through damagedMissing (Client.get ConformingStore.letter).request).answer = .error e := by
  obtain ⟨hdamaged, -⟩ := damaged_lines_are_never_data
  obtain ⟨-, -, hget, -⟩ := hdamaged _ _ _ brings_damagedMissing (by decide)
  exact hget ConformingStore.letter

end StoreLink
