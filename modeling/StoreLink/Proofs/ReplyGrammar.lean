import StoreLink.Reply
import StoreLink.Proofs.Base64.Canonical
import StoreLink.Proofs.Trimming

/-!
# The grammar of reply lines

A reply line is a value line, a malformed value line, or a status, and the first word decides. Of a
value there is one spelling but for the blanks around it.

* `decode_valueLine`, `decode_statusLine`: what is read from a line of either kind, and
  `decode_cases`: there is no third;
* `decode_eq_value_iff`: the lines of a value;
* `decode_status`, `decode_granted`: the statuses that the calls look for;
* `reply_grammar`: which lines are read as which reply.
-/

namespace StoreLink.Reply

open Text (Blanks LineEnds Trimmed dropLineEnds trim)

/-! ## 1. The two kinds of lines -/

/-- A line that opens as a value line is one, whatever follows. -/
theorem decode_valueLine {line payload : String}
    (h : dropLineEnds line = valuePrefix ++ payload) :
    decode line = ((Base64.decode (trim payload)).map .value).mapError
      fun fault => .malformedResponse (dropLineEnds line) fault.message := by
  obtain ⟨slice, hslice, rfl⟩ := Text.dropPrefix?_eq_some_iff.mpr h
  simp only [decode, hslice]
  cases Base64.decode (trim slice.copy) with
  | ok bytes => rfl
  | error fault => rfl

/-- Any other line is a status. -/
theorem decode_statusLine {line : String}
    (h : ∀ payload, dropLineEnds line ≠ valuePrefix ++ payload) :
    decode line = .ok (.status (trim (dropLineEnds line))) := by
  simp only [decode, Text.dropPrefix?_eq_none_iff.mpr h]

/-- The line carries no value: it does not open as a value line does. -/
def StatusLine (line : String) : Prop :=
  ∀ payload, dropLineEnds line ≠ valuePrefix ++ payload

/-- A line that carries a value is read as one, or fails with itself. -/
theorem decode_of_not_statusLine {line : String} (h : ¬ StatusLine line) :
    (∃ bytes, decode line = .ok (.value bytes)) ∨
      ∃ reason, decode line = .error (.malformedResponse (dropLineEnds line) reason) := by
  obtain ⟨payload, hpayload⟩ : ∃ payload, dropLineEnds line = valuePrefix ++ payload :=
    Classical.byContradiction fun hnone => h fun payload hline => hnone ⟨payload, hline⟩
  rw [decode_valueLine hpayload]
  cases Base64.decode (trim payload) with
  | ok bytes => exact .inl ⟨bytes, rfl⟩
  | error fault => exact .inr ⟨fault.message, rfl⟩

/-- **A line is read as a value, as the status that it is, or fails with itself.** -/
theorem decode_cases (line : String) :
    (∃ bytes, decode line = .ok (.value bytes)) ∨
      decode line = .ok (.status (trim (dropLineEnds line))) ∨
      ∃ reason, decode line = .error (.malformedResponse (dropLineEnds line) reason) := by
  by_cases hline : StatusLine line
  · exact .inr (.inl (decode_statusLine hline))
  · rcases decode_of_not_statusLine hline with hvalue | hmalformed
    · exact .inl hvalue
    · exact .inr (.inr hmalformed)

/-! ## 2. Payloads -/

theorem trimmed_encode (bytes : ByteArray) : Trimmed (Base64.encode bytes) :=
  Text.trimmed_of_forall fun _ hc => (Base64.plain_of_mem_encode hc).1

/-- The line ends behind a trimmed payload are no part of the line. -/
theorem dropLineEnds_valueLine {payload ends : String} (hpayload : Trimmed payload)
    (hends : LineEnds ends) :
    dropLineEnds (valuePrefix ++ payload ++ ends) = valuePrefix ++ payload := by
  refine Text.dropLineEnds_eq_of_append (fun c hc => ?_) hends
  rw [String.toList_append, List.getLast?_append] at hc
  cases hlast : payload.toList.getLast? with
  | none =>
    rw [hlast] at hc
    cases hc
    decide
  | some d =>
    rw [hlast] at hc
    cases hc
    exact Text.isLineEnd_eq_false (hpayload.last c (by rw [hlast]; rfl))

/-- A value line is read as a value exactly when the spelling of it is left after trimming. -/
theorem decode_valueLine_eq_value_iff {line payload : String} {bytes : ByteArray}
    (hline : dropLineEnds line = valuePrefix ++ payload) :
    decode line = .ok (.value bytes) ↔ trim payload = Base64.encode bytes := by
  rw [decode_valueLine hline, ← Base64.decode_eq_ok_iff]
  cases Base64.decode (trim payload) with
  | error fault =>
    constructor
    · intro h
      cases h
    · intro h
      cases h
  | ok bytes' =>
    constructor
    · intro h
      cases h
      rfl
    · intro h
      cases h
      rfl

/-- A payload without blanks around it is read as a value exactly when it is the spelling of it. -/
theorem decode_trimmed_eq_value_iff {line payload : String} {bytes : ByteArray}
    (hline : dropLineEnds line = valuePrefix ++ payload) (hpayload : Trimmed payload) :
    decode line = .ok (.value bytes) ↔ payload = Base64.encode bytes := by
  rw [decode_valueLine_eq_value_iff hline, Text.trim_of_trimmed hpayload]

/-- **A line is read as a value exactly when it is the spelling of it**, with blanks around. -/
theorem decode_eq_value_iff {line : String} {bytes : ByteArray} :
    decode line = .ok (.value bytes) ↔
      ∃ front back, Blanks front ∧ Blanks back ∧
        dropLineEnds line = valuePrefix ++ front ++ Base64.encode bytes ++ back := by
  constructor
  · intro h
    by_cases hline : ∃ payload, dropLineEnds line = valuePrefix ++ payload
    · obtain ⟨payload, hpayload⟩ := hline
      have htrim := (decode_valueLine_eq_value_iff hpayload).mp h
      obtain ⟨front, back, hfront, hback, hparts⟩ := Text.eq_of_trim payload
      refine ⟨front, back, hfront, hback, ?_⟩
      rw [hpayload, hparts, htrim, String.append_assoc, String.append_assoc, String.append_assoc]
    · rw [decode_statusLine fun payload hpayload => hline ⟨payload, hpayload⟩] at h
      cases h
  · intro h
    obtain ⟨front, back, hfront, hback, hline⟩ := h
    have hparts : dropLineEnds line
        = valuePrefix ++ (front ++ Base64.encode bytes ++ back) := by
      rw [hline, String.append_assoc, String.append_assoc, String.append_assoc]
    rw [decode_valueLine_eq_value_iff hparts]
    exact Text.trim_eq_of_append hfront (trimmed_encode bytes) hback

/-- A value comes back from its spelling, whatever line ends stand behind it. -/
theorem decode_encode (bytes : ByteArray) {ends : String}
    (hends : LineEnds ends) :
    decode (valuePrefix ++ Base64.encode bytes ++ ends) = .ok (.value bytes) :=
  (decode_trimmed_eq_value_iff (dropLineEnds_valueLine (trimmed_encode bytes) hends)
    (trimmed_encode bytes)).mpr rfl

/-- The reason why a value line is refused is the one for which its payload alone is. -/
theorem decode_malformed {line payload : String}
    (hline : dropLineEnds line = valuePrefix ++ payload)
    (hnone : ∀ bytes, trim payload ≠ Base64.encode bytes) :
    ∃ reason, decodeValue (trim payload) = .error (.malformedResponse (trim payload) reason) ∧
      decode line = .error (.malformedResponse (dropLineEnds line) reason) := by
  rw [decode_valueLine hline, decodeValue]
  cases hread : Base64.decode (trim payload) with
  | ok bytes => exact absurd (Base64.decode_eq_ok_iff.mp hread) (hnone bytes)
  | error fault => exact ⟨fault.message, rfl, rfl⟩

/-! ## 3. Statuses -/

/-- A text that opens in another way than a value line is none. -/
theorem ne_valueLine {line : String} {c : Char} (hline : [c] <+: line.toList) (hc : c ≠ 'V')
    (payload : String) : line ≠ valuePrefix ++ payload := by
  rintro rfl
  obtain ⟨rest, hrest⟩ := hline
  rw [String.toList_append, List.singleton_append] at hrest
  exact hc (List.cons.inj hrest).1

/-- A trimmed status is read as it is, whatever line ends stand behind it. -/
theorem decode_status {status ends : String} {c : Char} (hstatus : Trimmed status)
    (hopening : [c] <+: status.toList) (hc : c ≠ 'V')
    (hends : LineEnds ends) :
    decode (status ++ ends) = .ok (.status status) := by
  have hkept : dropLineEnds (status ++ ends) = status :=
    Text.dropLineEnds_of_trimmed hstatus hends
  have hread : decode (status ++ ends) = .ok (.status (trim (dropLineEnds (status ++ ends)))) :=
    decode_statusLine fun payload => by
      rw [hkept]
      exact ne_valueLine hopening hc payload
  rw [hread, hkept, Text.trim_of_trimmed hstatus]

/-- **A line that opens with the word of grants grants**, whatever follows. -/
theorem decode_granted {line : String} (hline : okPrefix.toList <+: line.toList) :
    ∃ reply, decode line = .ok reply ∧ reply.grants = true := by
  have hkept : okPrefix.toList <+: (dropLineEnds line).toList :=
    Text.prefix_dropLineEnds hline (by decide)
  have hopening : ['O'] <+: (dropLineEnds line).toList :=
    List.IsPrefix.trans ⟨['K'], rfl⟩ hkept
  refine ⟨_, decode_statusLine (ne_valueLine hopening (by decide)), ?_⟩
  show (trim (dropLineEnds line)).startsWith okPrefix = true
  rw [String.startsWith_string_iff]
  exact Text.prefix_trim hkept (by decide)

/-! ## 4. The grammar -/

/-- **Which lines are read as which reply.** A value is read from its one spelling, in blanks,
    behind the word of value lines. Behind this word anything else is malformed, for the reason for
    which the payload alone is, and the failure keeps the line. Without it the line is a status. So
    each value comes back from its spelling, and from no other payload that has no blanks around
    it. -/
theorem reply_grammar :
    (∀ line bytes, decode line = .ok (.value bytes) ↔
      ∃ front back, Blanks front ∧ Blanks back ∧
        dropLineEnds line = valuePrefix ++ front ++ Base64.encode bytes ++ back) ∧
    (∀ line payload, dropLineEnds line = valuePrefix ++ payload →
      (∀ bytes, trim payload ≠ Base64.encode bytes) →
      ∃ reason, decodeValue (trim payload) = .error (.malformedResponse (trim payload) reason) ∧
        decode line = .error (.malformedResponse (dropLineEnds line) reason)) ∧
    (∀ line, (∀ payload, dropLineEnds line ≠ valuePrefix ++ payload) →
      decode line = .ok (.status (trim (dropLineEnds line)))) ∧
    (∀ bytes, decodeValue (Base64.encode bytes) = .ok bytes ∧
      ∀ ends, LineEnds ends →
        decode (valuePrefix ++ Base64.encode bytes ++ ends) = .ok (.value bytes)) ∧
    (∀ line line' payload payload' bytes,
      dropLineEnds line = valuePrefix ++ payload → dropLineEnds line' = valuePrefix ++ payload' →
      Trimmed payload → Trimmed payload' →
      decode line = .ok (.value bytes) → decode line' = .ok (.value bytes) →
      payload = payload') := by
  refine ⟨fun _ _ => decode_eq_value_iff, fun _ _ => decode_malformed, fun _ => decode_statusLine,
    fun bytes => ⟨?_, fun ends hends => ?_⟩, ?_⟩
  · rw [decodeValue, Base64.decode_eq_ok_iff.mpr rfl]
  · exact decode_encode bytes hends
  · intro line line' payload payload' bytes hline hline' hpayload hpayload' hread hread'
    rw [(decode_trimmed_eq_value_iff hline hpayload).mp hread,
      (decode_trimmed_eq_value_iff hline' hpayload').mp hread']

/-- The refused payload is not filled up; the word of the status has no blank behind it. -/
theorem reply_grammar_at_lines :
    (∃ reason, decode ("VALUE  Zm8" ++ "\r\n")
      = .error (.malformedResponse "VALUE  Zm8" reason)) ∧
    decode ("VALUE" ++ "\r\n") = .ok (.status "VALUE") ∧
    decode ("VALUE Zm8=" ++ "\r\n") = .ok (.value "fo".toUTF8) ∧
    ∀ payload, Trimmed payload → dropLineEnds (valuePrefix ++ payload) = valuePrefix ++ payload →
      decode (valuePrefix ++ payload) = .ok (.value "fo".toUTF8) → payload = "Zm8=" := by
  obtain ⟨-, hmalformed, hstatus, hround, hone⟩ := reply_grammar
  have hends : LineEnds "\r\n" := by decide
  have hspelling : Base64.encode "fo".toUTF8 = "Zm8=" := by
    rw [← String.toList_inj, Base64.toList_encode]
    decide
  have hfo := (hround "fo".toUTF8).2 "\r\n" hends
  rw [hspelling] at hfo
  refine ⟨?_, ?_, hfo, fun payload hpayload hline hread => ?_⟩
  · have hkept : dropLineEnds ("VALUE  Zm8" ++ "\r\n") = "VALUE  Zm8" :=
      Text.dropLineEnds_of_trimmed (by decide) hends
    obtain ⟨reason, -, h⟩ := hmalformed _ " Zm8" hkept fun bytes h => by
      have hlength := congrArg (fun s => s.toList.length) h
      rw [Text.toList_trim, Base64.toList_encode, List.length_map, Base64.length_written] at hlength
      have hthree : ((" Zm8".toList.dropWhile Text.isBlank).reverse.dropWhile
        Text.isBlank).reverse.length = 3 := by decide
      omega
    rw [hkept] at h
    exact ⟨reason, h⟩
  · have hkept : dropLineEnds ("VALUE" ++ "\r\n") = "VALUE" :=
      Text.dropLineEnds_of_trimmed (by decide) hends
    have h := hstatus ("VALUE" ++ "\r\n") fun payload h => by
      have hlength := congrArg String.length h
      rw [hkept, String.length_append] at hlength
      have hfive : "VALUE".length = 5 := rfl
      have hsix : valuePrefix.length = 6 := rfl
      omega
    rw [hkept, Text.trim_of_trimmed (by decide)] at h
    exact h
  · exact hone _ _ payload "Zm8=" _ hline (dropLineEnds_valueLine (by decide) hends) hpayload
      (by decide) hread hfo

end StoreLink.Reply
