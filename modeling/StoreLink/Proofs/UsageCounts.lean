import StoreLink.Script
import StoreLink.Proofs.ClientCalls

/-!
# Counts of bytes

The store says how many bytes it holds in a line with a word and a number. The number is read as it
is, or the whole line is the failure: nothing is cut off and nothing wraps round.

* `counts_usageLine_iff`: what a line with that word counts is the number behind it;
* `usage_ok_iff_numeral`, `usage_refused`: what the call makes of such a line;
* **`usage_exact_or_refused`**: for any status, and for any exchange that brings such a line.
-/

namespace StoreLink

open Text (Blanks trim)
open Text.Decimal (Numeral)

/-! ## 1. Lines with a count -/

namespace Reply

variable {text : String} {n : Nat}

/-- A line with the word for a count carries no value. -/
theorem statusLine_usageLine (text : String) : StatusLine (usagePrefix ++ text) := by
  have hopening : ['U'] <+: (usagePrefix ++ text).toList := by
    rw [String.toList_append]
    exact ⟨_, rfl⟩
  exact ne_valueLine (Text.prefix_dropLineEnds hopening (by decide)) (by decide)

/-- A numeral with blanks around it is all that is left of them after trimming. -/
theorem trim_eq_of_parts {front numeral back : String} (hfront : Blanks front)
    (hnumeral : Numeral numeral n) (hback : Blanks back) :
    trim (front ++ numeral ++ back) = numeral :=
  Text.trim_eq_of_append hfront hnumeral.trimmed hback

/-- The word for a count stands first in its line. -/
theorem first_usageLine (rest : String) :
    ∀ c ∈ (usagePrefix ++ rest).toList.head?, Text.isBlank c = false := by
  intro c hc
  rw [String.toList_append] at hc
  cases hc
  decide

/-- **What a line counts is the number behind its word**: the line is trimmed behind it alone. -/
theorem counts_usageLine_iff :
    Counts (trim (usagePrefix ++ text)) n ↔ Numeral (trim text) n ∧ n < 18446744073709551616 := by
  refine ⟨fun h => ?_, fun h => ?_⟩
  · obtain ⟨front, numeral, back, hfront, hback, hnumeral, hfits, htrim⟩ := h
    obtain ⟨ends, hends, hline⟩ := Text.eq_of_trim_back (first_usageLine text)
    have hbehind : Blanks (back ++ ends) := by simp [hback, hends]
    have htext : text = front ++ numeral ++ (back ++ ends) := by
      rw [htrim] at hline
      simp only [String.append_assoc, String.append_right_inj] at hline ⊢
      exact hline
    rw [htext, trim_eq_of_parts hfront hnumeral hbehind]
    exact ⟨hnumeral, hfits⟩
  · obtain ⟨hnumeral, hfits⟩ := h
    obtain ⟨front, back, hfront, hback, htext⟩ := Text.eq_of_trim text
    have hne : trim text ≠ "" := fun hnone => hnumeral.toList_ne_nil (by rw [hnone]; rfl)
    have hword : usagePrefix ++ front ≠ "" := by simp [usagePrefix]
    have htrimmed : Text.Trimmed (usagePrefix ++ front ++ trim text) :=
      (Text.trimmed_append_iff hword hne).mpr ⟨first_usageLine front, hnumeral.trimmed.last⟩
    have hline : usagePrefix ++ text = "" ++ (usagePrefix ++ front ++ trim text) ++ back := by
      calc usagePrefix ++ text
          = usagePrefix ++ (front ++ trim text ++ back) := congrArg (usagePrefix ++ ·) htext
        _ = "" ++ (usagePrefix ++ front ++ trim text) ++ back := by
          simp only [String.append_assoc, String.empty_append]
    have htrim : trim (usagePrefix ++ text) = usagePrefix ++ front ++ trim text := by
      rw [hline]
      exact Text.trim_eq_of_append (by decide) htrimmed hback
    refine ⟨front, trim text, "", hfront, by decide, hnumeral, hfits, ?_⟩
    rw [htrim, String.append_empty]

end Reply

/-! ## 2. The call -/

namespace ClientCall

section Calls

variable {text : String} {n : Nat}

/-- The number behind the word is the result, if it fits. -/
theorem usage_ok_iff_numeral :
    Client.usage.result (Reply.decode (usagePrefix ++ text)) = .ok n ↔
      Numeral (trim text) n ∧ n < 18446744073709551616 := by
  rw [usage_ok_iff, and_iff_right (Reply.statusLine_usageLine text), Reply.counts_usageLine_iff]

/-- **Where there is no number that fits, the whole line is the failure**, trimmed. -/
theorem usage_refused (h : ∀ n, Numeral (trim text) n → 18446744073709551616 ≤ n) :
    Client.usage.result (Reply.decode (usagePrefix ++ text))
      = .error (.protocolStatus (trim (usagePrefix ++ text))) := by
  cases hresult : Client.usage.result (Reply.decode (usagePrefix ++ text)) with
  | ok n =>
    obtain ⟨hnumeral, hfits⟩ := usage_ok_iff_numeral.mp hresult
    exact absurd (h n hnumeral) (Nat.not_le_of_lt hfits)
  | error e => rw [reads_usage.failure (Reply.statusLine_usageLine text) hresult]

/-- A number that is negative is no numeral. -/
theorem not_numeral_negative (rest : String) : ¬ Numeral ("-" ++ rest) n := by
  intro h
  have hmem : '-' ∈ ("-" ++ rest).toList := by simp
  rcases h.sign_or_digit hmem with hplus | hdigit
  · exact absurd hplus (by decide)
  · exact absurd hdigit (by decide)

end Calls

/-- **A count is exact or refused.** A status reports a count exactly when it is the word for it and
    a numeral, with any blanks around, of a number that fits 64 bits; and this number is the count.
    So, for an exchange that brings a line with that word: any number that fits is the result of the
    call, whatever blanks and line ends are around it, and nothing else is. A number that does not
    fit, one that is negative and a text that is no number at all are failures, which keep the whole
    line trimmed. -/
theorem usage_exact_or_refused :
    (∀ status n, (Reply.status status).heldBytes? = some n ↔
      ∃ front numeral back, Blanks front ∧ Blanks back ∧ Numeral numeral n ∧
        n < 18446744073709551616 ∧ status = "USAGE " ++ front ++ numeral ++ back) ∧
    ∀ {σ : Type} (exchange : Exchange σ Answer) (s : σ) (text : String),
      (exchange (RequestLine.ofCommand .usage) s).1 = Reply.decode ("USAGE " ++ text) →
      let result := (Client.usage.run exchange s).1
      let refusal := LinkError.protocolStatus (trim ("USAGE " ++ text))
      (∀ n front back, n < 18446744073709551616 → Blanks front → Blanks back →
        text = front ++ Text.Decimal.render n ++ back → result = .ok n) ∧
      (∀ n, result = .ok n ↔ Numeral (trim text) n ∧ n < 18446744073709551616) ∧
      (∀ n, Numeral (trim text) n → 18446744073709551616 ≤ n → result = .error refusal) ∧
      (∀ rest, trim text = "-" ++ rest → result = .error refusal) ∧
      ((∀ n, ¬ Numeral (trim text) n) → result = .error refusal) := by
  refine ⟨fun status n => Reply.heldBytes?_status_iff, ?_⟩
  intro σ exchange s text hanswer result refusal
  have hresult : result = Client.usage.result (Reply.decode (usagePrefix ++ text)) :=
    congrArg Client.usage.result hanswer
  rw [hresult]
  refine ⟨?_, fun n => usage_ok_iff_numeral, ?_, ?_, ?_⟩
  · intro n front back hfits hfront hback htext
    rw [usage_ok_iff_numeral, htext,
      Reply.trim_eq_of_parts hfront (Text.Decimal.numeral_render n) hback]
    exact ⟨Text.Decimal.numeral_render n, hfits⟩
  · intro n hnumeral hlarge
    exact usage_refused fun m hm => hnumeral.unique hm ▸ hlarge
  · intro rest hnegative
    refine usage_refused fun n hn => ?_
    rw [hnegative] at hn
    exact absurd hn (not_numeral_negative rest)
  · intro hnone
    exact usage_refused fun n hn => absurd hn (hnone n)

/-- The largest count, with blanks and line ends around it, and then one more. -/
theorem usage_exact_or_refused_at_bound :
    (Client.usage.run Script.exchange
      [.line ("USAGE " ++ "\t18446744073709551615 \r\n\n")]).1 = .ok 18446744073709551615 ∧
    (Client.usage.run Script.exchange
      [.line ("USAGE " ++ "18446744073709551616\n")]).1
        = .error (.protocolStatus "USAGE 18446744073709551616") := by
  obtain ⟨-, hlines⟩ := usage_exact_or_refused
  obtain ⟨-, hfits, -⟩ := hlines Script.exchange
    [.line ("USAGE " ++ "\t18446744073709551615 \r\n\n")] "\t18446744073709551615 \r\n\n" rfl
  obtain ⟨-, -, hlarge, -⟩ := hlines Script.exchange
    [.line ("USAGE " ++ "18446744073709551616\n")] "18446744073709551616\n" rfl
  have hreadLast : Text.Decimal.parse 18446744073709551616 "18446744073709551615"
      = .ok 18446744073709551615 := rfl
  have hreadPast : Text.Decimal.parse 18446744073709551616 "18446744073709551616"
      = .ok 18446744073709551616 := rfl
  have hlast := (Text.Decimal.parse_eq_ok_iff.mp hreadLast).1
  have hpast := (Text.Decimal.parse_eq_ok_iff.mp hreadPast).1
  have htrimLast : trim ("\t" ++ "18446744073709551615" ++ " \r\n\n") = "18446744073709551615" :=
    Reply.trim_eq_of_parts (by decide) hlast (by decide)
  have htrimPast : trim ("" ++ "18446744073709551616" ++ "\n") = "18446744073709551616" :=
    Reply.trim_eq_of_parts (by decide) hpast (by decide)
  have hline : trim ("" ++ "USAGE 18446744073709551616" ++ "\n") = "USAGE 18446744073709551616" :=
    Text.trim_eq_of_append (by decide) (by decide) (by decide)
  refine ⟨(hfits _).mpr ⟨htrimLast ▸ hlast, by decide⟩, ?_⟩
  have hrefused := hlarge 18446744073709551616 (htrimPast ▸ hpast) (Nat.le_refl _)
  rw [hrefused]
  exact congrArg (fun line => Except.error (LinkError.protocolStatus line)) hline

end ClientCall

end StoreLink
