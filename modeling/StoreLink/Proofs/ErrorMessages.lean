import StoreLink.Key
import StoreLink.Proofs.EndpointGrammar
import StoreLink.Proofs.QuotedTexts
import StoreLink.Proofs.ReplyGrammar

/-!
# What messages tell of foreign text

A key, a reply line or an address that cannot be used is told of in a message, and it may hold
anything. The message shows it quoted, so it stays on its line, and two messages are the same only
where they tell of the same text.

* `Fault.allHarmless`, for each kind of fault: its wording is harmless;
* `allHarmless_invalidKey`, `allHarmless_malformed`: so are the messages of keys and reply lines;
* `key_of_message`, `line_of_message`: what such a message tells of follows from it;
* **`foreign_text_shown_and_kept`**: both, for all that the readers of keys, of reply lines, of
  payloads and of endpoints refuse.
-/

namespace StoreLink

open Text (AllHarmless quote)

/-! ## 1. The wording of faults -/

theorem Base64.Fault.allHarmless (fault : Base64.Fault) : AllHarmless fault.message := by
  unfold message
  cases fault <;> simp +decide

theorem Text.Decimal.Fault.allHarmless (fault : Text.Decimal.Fault) :
    AllHarmless fault.message := by
  cases fault <;> decide

/-- **A text that names no endpoint is shown harmless**, whatever it holds. -/
theorem Endpoint.Fault.allHarmless (fault : Endpoint.Fault) :
    AllHarmless fault.toError.message := by
  have hconfig : AllHarmless "Configuration error: " := by decide
  refine Text.allHarmless_append.mpr ⟨hconfig, ?_⟩
  unfold message
  cases fault with
  | missingPath => decide
  | missingPort text => simp +decide
  | missingHost text => simp +decide
  | invalidPort text fault => simp +decide [fault.allHarmless]

namespace LinkError

/-! ## 2. Messages of keys and reply lines -/

theorem allHarmless_invalidKey (key : String) : AllHarmless (invalidKey key).message := by
  unfold message
  simp +decide

theorem allHarmless_malformed (line : String) {reason : String} (h : AllHarmless reason) :
    AllHarmless (malformedResponse line reason).message := by
  unfold message
  simp +decide [h]

/-- **The key follows from the message.** -/
theorem key_of_message {key key' : String}
    (h : (invalidKey key).message = (invalidKey key').message) : key = key' := by
  unfold message at h
  simpa [String.append_right_inj] using h

/-- **The line and the reason follow from the message**, whatever the reason is. -/
theorem line_of_message {line line' reason reason' : String}
    (h : (malformedResponse line reason).message = (malformedResponse line' reason').message) :
    line = line' ∧ reason = reason' := by
  unfold message at h
  simp only [String.append_assoc, String.append_right_inj] at h
  obtain ⟨hline, hreason⟩ := Text.quote_append_inj h
  exact ⟨hline, (String.append_right_inj ": ").mp hreason⟩

/-! ## 3. What the readers refuse -/

section Readers

variable {e : LinkError}

/-- A payload is refused as malformed, for a fault in it. -/
theorem malformed_of_decodeValue {payload : String} (h : decodeValue payload = .error e) :
    ∃ fault : Base64.Fault, e = .malformedResponse payload fault.message := by
  unfold decodeValue at h
  split at h
  · cases h
  · rename_i fault _
    cases h
    exact ⟨fault, rfl⟩

/-- A reply line is refused as malformed, for a fault in its payload. -/
theorem malformed_of_decode {line : String} (h : Reply.decode line = .error e) :
    ∃ fault : Base64.Fault, e = .malformedResponse (Text.dropLineEnds line) fault.message := by
  by_cases hstatus : Reply.StatusLine line
  · rw [Reply.decode_statusLine hstatus] at h
    cases h
  · obtain ⟨payload, hpayload⟩ := Classical.not_forall_not.mp hstatus
    rw [Reply.decode_valueLine hpayload] at h
    cases hread : Base64.decode (Text.trim payload) with
    | ok bytes =>
      rw [hread] at h
      cases h
    | error fault =>
      rw [hread] at h
      cases h
      exact ⟨fault, rfl⟩

end Readers

/-- **Foreign text forges nothing in a message, and nothing of it is lost.** Whatever text is
    refused as a key, whatever line as a reply, whatever payload as a value and whatever text as an
    endpoint: the message holds no control character, no separator of lines or paragraphs and no
    blank but the space. Different keys have different messages, and so have malformed lines, unless
    they are the same line and are malformed for the same reason. -/
theorem foreign_text_shown_and_kept :
    (∀ text e, Key.ofText text = .error e →
      e = .invalidKey text ∧ ∀ c ∈ e.message.toList, Text.Harmless c) ∧
    (∀ line e, Reply.decode line = .error e →
      (∃ reason, e = .malformedResponse (Text.dropLineEnds line) reason) ∧
        ∀ c ∈ e.message.toList, Text.Harmless c) ∧
    (∀ payload e, decodeValue payload = .error e →
      (∃ reason, e = .malformedResponse payload reason) ∧
        ∀ c ∈ e.message.toList, Text.Harmless c) ∧
    (∀ text fault, Endpoint.parse text = .error fault →
      (∃ reason, fault.toError = .config reason) ∧
        ∀ c ∈ fault.toError.message.toList, Text.Harmless c) ∧
    (∀ key key', key ≠ key' → (invalidKey key).message ≠ (invalidKey key').message) ∧
    (∀ line line' reason reason', (line, reason) ≠ (line', reason') →
      (malformedResponse line reason).message ≠ (malformedResponse line' reason').message) := by
  refine ⟨fun text e h => ?_, fun line e h => ?_, fun payload e h => ?_, fun text fault _ => ?_,
    fun key key' hne h => hne (key_of_message h), fun line line' reason reason' hne h => ?_⟩
  · obtain ⟨-, rfl⟩ := Key.ofText_eq_error_iff.mp h
    exact ⟨rfl, allHarmless_invalidKey text⟩
  · obtain ⟨fault, rfl⟩ := malformed_of_decode h
    exact ⟨⟨_, rfl⟩, allHarmless_malformed _ fault.allHarmless⟩
  · obtain ⟨fault, rfl⟩ := malformed_of_decodeValue h
    exact ⟨⟨_, rfl⟩, allHarmless_malformed _ fault.allHarmless⟩
  · exact ⟨⟨_, rfl⟩, fault.allHarmless⟩
  · obtain ⟨rfl, rfl⟩ := line_of_message h
    exact hne rfl

/-- A key with a second line in it, a payload with a separator of lines, an address with another; a
    key that is spelled as the other is shown; and a line that looks like the end of its quotation
    beside a reason that does. -/
theorem foreign_text_shown_and_kept_lookalikes :
    AllHarmless (invalidKey "k\nOK").message ∧
    (∃ e, Reply.decode (valuePrefix ++ "a\u2028b" ++ "\n") = .error e ∧
      AllHarmless e.message) ∧
    (∃ e, decodeValue "a\u2028b" = .error e ∧ AllHarmless e.message) ∧
    (∃ fault, Endpoint.parse "a\u0085b" = .error fault ∧ AllHarmless fault.toError.message) ∧
    (invalidKey "k\nOK").message ≠ (invalidKey "k\\nOK").message ∧
    (malformedResponse "a\": \"" "b").message ≠ (malformedResponse "a" "\": b").message := by
  obtain ⟨hkey, hline, hpayload, hendpoint, hkeys, hlines⟩ := foreign_text_shown_and_kept
  have hrefused : Key.ofText "k\nOK" = .error (.invalidKey "k\nOK") := by
    refine Key.ofText_eq_error_iff.mpr ⟨Bool.eq_false_iff.mpr fun hvalid => ?_, rfl⟩
    exact absurd ((Key.isValid_iff.mp hvalid).2 '\n' (by decide)) (by decide)
  have hvalue : Text.dropLineEnds (valuePrefix ++ "a\u2028b" ++ "\n")
      = valuePrefix ++ "a\u2028b" :=
    Reply.dropLineEnds_valueLine (by decide) (by decide)
  have htrim : Text.trim "a\u2028b" = "a\u2028b" := Text.trim_of_trimmed (by decide)
  obtain ⟨reason, hpart, hwhole⟩ := Reply.decode_malformed hvalue fun bytes hbytes => by
    have hblank : '\u2028' ∈ (Base64.encode bytes).toList := by
      rw [← hbytes, htrim]
      decide
    exact absurd (Base64.plain_of_mem_encode hblank).1 (by decide)
  rw [htrim] at hpart
  have haddress : Endpoint.parse "a\u0085b"
      = .error (.missingPort (Text.trim "a\u0085b")) :=
    Endpoint.parse_of_misses (.missingPort fun hcolon =>
      absurd (Text.mem_of_mem_trim hcolon) (by decide))
  exact ⟨(hkey _ _ hrefused).2, ⟨_, hwhole, (hline _ _ hwhole).2⟩,
    ⟨_, hpart, (hpayload _ _ hpart).2⟩, ⟨_, haddress, (hendpoint _ _ haddress).2⟩,
    hkeys _ _ (by decide), hlines _ _ _ _ (by decide)⟩

end LinkError

end StoreLink
