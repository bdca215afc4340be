import StoreLink.Proofs.EndpointTexts

/-!
# The grammar of endpoints

A text is read as the endpoint that it names, and a text that names none is refused for one reason,
which is the first that there is.

* `Misses` says what is wrong with a text that names no endpoint; `parse_eq_error_iff`: it is
  refused for that;
* **`endpoint_grammar`**: which texts are read as which endpoint, and why the others are refused.
-/

namespace StoreLink.Endpoint

open Text

variable {text : String} {fault : Fault}

/-! ## 1. Texts that name nothing -/

/-- What is wrong with a text that names no endpoint. Behind `unix:` there is no path; there is no
    colon; there is nothing before the last colon, whatever stands behind it; or what stands behind
    the last colon is no numeral of a port. -/
inductive Misses (text : String) : Fault → Prop where
  | missingPath (h : trim text = unixPrefix) : Misses text .missingPath
  | missingPort (h : ':' ∉ (trim text).toList) : Misses text (.missingPort (trim text))
  | missingHost {port : String} (h : trim text = ":" ++ port) (hport : ':' ∉ port.toList) :
      Misses text (.missingHost (trim text))
  | invalidPort {host port : String} {fault : Decimal.Fault}
      (hplain : ∀ rest, trim text ≠ unixPrefix ++ rest) (hhost : host ≠ "")
      (h : trim text = host ++ ":" ++ port) (hport : ':' ∉ port.toList)
      (hrefused : Decimal.Refuses 65535 port fault) :
      Misses text (.invalidPort (trim text) fault)

/-- There is a colon in what opens a path. -/
theorem ne_opening_of_no_colon (h : ':' ∉ text.toList) (rest : String) :
    text ≠ unixPrefix ++ rest := by
  intro heq
  rw [heq, String.toList_append] at h
  exact h (List.mem_append_left _ (by decide))

/-- A colon does not open a path. -/
theorem colon_ne_opening (port rest : String) : ":" ++ port ≠ unixPrefix ++ rest := by
  intro heq
  have hhead := congrArg (fun s => s.toList.head?) heq
  simp [unixPrefix] at hhead

theorem parse_of_misses (h : Misses text fault) : parse text = .error fault := by
  cases h with
  | missingPath h =>
    have htext : trim text = unixPrefix ++ "" := by rw [h, String.append_empty]
    rw [parse_of_opening htext, if_pos rfl]
  | missingPort h =>
    rw [parse_of_no_opening (ne_opening_of_no_colon h), parseHostPort_of_no_colon h]
  | @missingHost port h hport =>
    have htext : trim text = "" ++ ":" ++ port := by rw [h, String.empty_append]
    rw [parse_of_no_opening (h ▸ colon_ne_opening port), parseHostPort_of_parts htext hport,
      if_pos rfl]
  | invalidPort hplain hhost h hport hrefused =>
    rw [parse_of_no_opening hplain, parseHostPort_of_parts h hport, if_neg hhost,
      Decimal.parse_eq_error_iff.mpr hrefused]

/-- **A text is refused exactly for what is wrong with it.** -/
theorem parse_eq_error_iff : parse text = .error fault ↔ Misses text fault := by
  refine ⟨fun h => ?_, parse_of_misses⟩
  by_cases hopens : ∃ path, trim text = unixPrefix ++ path
  · obtain ⟨path, htext⟩ := hopens
    rw [parse_of_opening htext] at h
    split at h
    · rename_i hpath
      cases h
      exact .missingPath (by rw [htext, hpath, String.append_empty])
    · cases h
  · have hplain : ∀ rest, trim text ≠ unixPrefix ++ rest := not_exists.mp hopens
    rw [parse_of_no_opening hplain] at h
    by_cases hcolon : ':' ∈ (trim text).toList
    · obtain ⟨host, port, htext, hport⟩ := exists_parts hcolon
      rw [parseHostPort_of_parts htext hport] at h
      by_cases hhost : host = ""
      · rw [if_pos hhost] at h
        cases h
        exact .missingHost (by rw [htext, hhost, String.empty_append]) hport
      · rw [if_neg hhost] at h
        cases hread : Decimal.parse 65535 port with
        | ok n =>
          rw [hread] at h
          cases h
        | error fault =>
          rw [hread] at h
          cases h
          exact .invalidPort hplain hhost htext hport (Decimal.parse_eq_error_iff.mp hread)
    · rw [parseHostPort_of_no_colon hcolon] at h
      cases h
      exact .missingPort hcolon

/-! ## 2. Texts and what they are read as -/

/-- The text of a socket is `unix:` and its path. -/
theorem denotes_unix_iff {path : String} :
    Denotes text (.unix path) ↔ path ≠ "" ∧ trim text = unixPrefix ++ path := by
  refine ⟨fun h => ?_, fun h => .unix h.1 h.2⟩
  cases h with
  | unix hpath htext => exact ⟨hpath, htext⟩

/-- The text of a host and a port does not open as that of a socket, and is the host, a colon and a
    numeral of the port. -/
theorem denotes_tcp_iff {host : String} {port : UInt16} :
    Denotes text (.tcp host port) ↔ (∀ rest, trim text ≠ unixPrefix ++ rest) ∧ host ≠ "" ∧
      ∃ numeral n, trim text = host ++ ":" ++ numeral ∧ Decimal.Numeral numeral n ∧ n ≤ 65535 ∧
        port.toNat = n := by
  refine ⟨fun h => ?_, fun h => ?_⟩
  · generalize he : Endpoint.tcp host port = e at h
    cases h with
    | unix hpath htext => cases he
    | @tcp host' numeral n hplain hhost htext hnumeral hn =>
      cases he
      exact ⟨hplain, hhost, numeral, n, htext, hnumeral, hn,
        UInt16.toNat_ofNat_of_lt' (Nat.lt_succ_of_le hn)⟩
  · obtain ⟨hplain, hhost, numeral, n, htext, hnumeral, hn, rfl⟩ := h
    have hread := Denotes.tcp hplain hhost htext hnumeral hn
    rwa [show port.toNat.toUInt16 = port from UInt16.ofNat_toNat] at hread

theorem message_tooLarge (shown : String) :
    (Fault.invalidPort shown .tooLarge).message
      = "invalid port in " ++ quote shown ++ ": number too large to fit in target type" := by
  have hend : ": " ++ Decimal.Fault.tooLarge.message
      = ": number too large to fit in target type" := by decide
  have hwhole : (Fault.invalidPort shown .tooLarge).message
      = "invalid port in " ++ quote shown ++ ": " ++ Decimal.Fault.tooLarge.message := rfl
  rw [hwhole, String.append_assoc, hend]

/-- A port past the bound is too large. -/
theorem misses_of_past {host numeral : String} {n : Nat}
    (hplain : ∀ rest, trim text ≠ unixPrefix ++ rest) (hhost : host ≠ "")
    (htext : trim text = host ++ ":" ++ numeral) (hnumeral : Decimal.Numeral numeral n)
    (hn : 65535 < n) : Misses text (.invalidPort (trim text) .tooLarge) :=
  .invalidPort hplain hhost htext (colon_not_mem_numeral hnumeral)
    (.tooLarge (Decimal.overflows_of_numeral hnumeral hn))

/-- What the reading of a text comes to, with a fault as a failure of the link. -/
def result (text : String) : Except LinkError Endpoint :=
  (parse text).mapError Fault.toError

theorem result_eq_ok_iff {e : Endpoint} : result text = .ok e ↔ Denotes text e := by
  rw [result, ← parse_eq_ok_iff]
  cases parse text with
  | ok read => rw [Except.mapError, Except.ok.injEq, Except.ok.injEq]
  | error fault => exact ⟨nofun, nofun⟩

theorem result_of_misses (h : Misses text fault) :
    result text = .error (.config fault.message) := by
  rw [result, parse_of_misses h]
  rfl

theorem result_eq_error_iff {e : LinkError} :
    result text = .error e ↔ ∃ fault, Misses text fault ∧ e = .config fault.message := by
  refine ⟨fun h => ?_, fun h => ?_⟩
  · cases hread : parse text with
    | ok read =>
      rw [result, hread] at h
      cases h
    | error fault =>
      rw [result, hread] at h
      cases h
      exact ⟨fault, parse_eq_error_iff.mp hread, rfl⟩
  · obtain ⟨fault, hmisses, rfl⟩ := h
    exact result_of_misses hmisses

/-- **A text is read exactly as the endpoint that it names**, blanks around it aside. Behind `unix:`
    stands the path of a socket, whatever it is if there is one. Any other text is a host, a colon
    and a numeral of the port; the colon is the last one, the host is not empty, and the numeral may
    have a sign and zeros in front, but not go past the largest port. All other texts are refused as
    settings that cannot be used: for the path that is missing, for the colon that is, for the host
    that is, whatever the port, or for the port; and a port that is past the bound is refused for
    that. -/
theorem endpoint_grammar (text : String) :
    (∀ path, result text = .ok (.unix path) ↔ path ≠ "" ∧ trim text = "unix:" ++ path) ∧
    (∀ host port, result text = .ok (.tcp host port) ↔
      (∀ rest, trim text ≠ "unix:" ++ rest) ∧ host ≠ "" ∧
        ∃ numeral n, trim text = host ++ ":" ++ numeral ∧ Decimal.Numeral numeral n ∧
          n ≤ 65535 ∧ port.toNat = n) ∧
    (∀ e, result text = .error e ↔ ∃ fault, Misses text fault ∧ e = .config fault.message) ∧
    (trim text = "unix:" → result text = .error (.config "unix endpoint needs a path")) ∧
    (':' ∉ (trim text).toList →
      result text = .error (.config ("expected host:port, got " ++ quote (trim text)))) ∧
    (∀ port, trim text = ":" ++ port → ':' ∉ port.toList →
      result text = .error (.config ("missing host in " ++ quote (trim text)))) ∧
    ∀ host numeral n, (∀ rest, trim text ≠ "unix:" ++ rest) → host ≠ "" →
      trim text = host ++ ":" ++ numeral → Decimal.Numeral numeral n → 65535 < n →
        result text = .error (.config ("invalid port in " ++ quote (trim text)
          ++ ": number too large to fit in target type")) := by
  refine ⟨fun path => ?_, fun host port => ?_, fun e => result_eq_error_iff, fun h => ?_,
    fun h => ?_, fun port h hport => ?_, ?_⟩
  · rw [result_eq_ok_iff]
    exact denotes_unix_iff
  · rw [result_eq_ok_iff]
    exact denotes_tcp_iff
  · exact result_of_misses (.missingPath h)
  · exact result_of_misses (.missingPort h)
  · exact result_of_misses (.missingHost h hport)
  · intro host numeral n hplain hhost htext hnumeral hn
    rw [result_of_misses (misses_of_past hplain hhost htext hnumeral hn), message_tooLarge]

/-- A host that is a colon, with a sign and zeros before the port; a host that is missing, and a
    port that is none; and a port one past the largest. -/
theorem endpoint_grammar_colons :
    result "::+00080" = .ok (.tcp ":" 80) ∧
    result ":x" = .error (.config ("missing host in " ++ quote ":x")) ∧
    result "h:65536" = .error (.config ("invalid port in " ++ quote "h:65536"
      ++ ": number too large to fit in target type")) := by
  have hplain : ∀ rest, "h:65536" ≠ "unix:" ++ rest := by
    intro rest h
    have hhead := congrArg (fun s => s.toList.head?) h
    simp at hhead
  have hcolon : trim "::+00080" = ":" ++ ":" ++ "+00080" := trim_of_trimmed (by decide)
  have hnone : trim ":x" = ":x" := trim_of_trimmed (by decide)
  have hpast : trim "h:65536" = "h:65536" := trim_of_trimmed (by decide)
  have hread : Decimal.parse 65535 "+00080" = .ok 80 := by decide
  have hlarge : Decimal.parse 65536 "65536" = .ok 65536 := by decide
  obtain ⟨hnumeral, hn⟩ := Decimal.parse_eq_ok_iff.mp hread
  obtain ⟨hnumeralPast, -⟩ := Decimal.parse_eq_ok_iff.mp hlarge
  obtain ⟨-, htcp, -⟩ := endpoint_grammar "::+00080"
  obtain ⟨-, -, -, -, -, hhost, -⟩ := endpoint_grammar ":x"
  obtain ⟨-, -, -, -, -, -, hport⟩ := endpoint_grammar "h:65536"
  rw [hnone] at hhost
  rw [hpast] at hport
  refine ⟨(htcp ":" 80).mpr ⟨?_, by decide, "+00080", 80, hcolon, hnumeral, hn, rfl⟩,
    hhost "x" rfl (by decide), hport "h" "65536" 65536 hplain (by decide) rfl hnumeralPast
      (by decide)⟩
  rw [hcolon, String.append_assoc]
  exact colon_ne_opening _

end StoreLink.Endpoint
