import StoreLink.Proofs.AddressableKeys
import StoreLink.Proofs.AllowedMethods

/-!
# Paths of nothing but slashes

A path of slashes names no key, however they are spelled, and neither does the path `/`. The path
`/` is refused before anything else of the request is looked at. Any other path of slashes is found
to name no key only after the method and, for `POST`, the length of the body were looked at, and
either may be what it is refused for.

* `keyOf_slashes`: slashes are no key; `planGet_slashes`, `planPost_slashes`: the plans for them;
* `atRoot` is the request for the path `/` instead, `refusal_atRoot` the response to it;
* `ComesToKey` says which requests are not refused before their key is looked at;
* `alike_iff`: when a path of slashes is refused as the path `/` is;
* `bare_slashes_refused`: the store is never asked, and what each request is answered with.
-/

namespace StoreLink.Gateway

/-! ## 1. Slashes are no key -/

section Slashes

variable {tail : List UInt8}

theorem decodeTail_slashes {n : Nat} (h : Spelled tail (List.replicate n Target.slash)) :
    decodeTail tail = some (slashes n) :=
  decodeTail_eq_some_iff.mpr (by simp [decode_of_spelled h])

@[simp] theorem stripSlashes_slashes (n : Nat) : stripSlashes (slashes n) = "" := by
  exact stripSlashes_eq_iff.mpr ⟨⟨by decide, by decide⟩, slashes n, "", slashes_slashes n,
    slashes_empty, by simp⟩

/-- **Nothing is left of slashes for a key.** -/
theorem keyOf_slashes (n : Nat) : keyOf (slashes n) = .error missingKey := by
  rw [keyOf, stripSlashes_slashes]
  rfl

theorem planGet_slashes (h : SpelledSlashes tail) : planGet tail = .answer missingKey := by
  obtain ⟨n, h⟩ := h
  simp only [planGet, decodeTail_slashes h, keyOf_slashes]

/-- The length of a body comes before the key. -/
theorem planPost_slashes (h : SpelledSlashes tail) (body : ByteArray) :
    planPost tail body = .answer (if maxBody < body.size then bodyTooLong else missingKey) := by
  obtain ⟨n, h⟩ := h
  simp only [planPost, decodeTail_slashes h, keyOf_slashes]
  split <;> rfl

end Slashes

/-! ## 2. Beside the root -/

/-- The same request for the path `/`. -/
def atRoot (request : Request) : Request :=
  { request with target := "/" }

/-- The request comes to its key: neither its method nor the length of its body is refused. -/
def ComesToKey (request : Request) : Prop :=
  request.method = "GET" ∨ request.method = "POST" ∧ request.body.size ≤ maxBody

instance (request : Request) : Decidable (ComesToKey request) :=
  inferInstanceAs (Decidable (_ ∨ _))

/-- The response to a path of slashes behind the root. -/
def slashesRefusal (request : Request) : Response :=
  if ComesToKey request then missingKey
  else if request.method = "POST" then bodyTooLong
  else methodRefusal request.method

section Refusals

variable {request : Request} {tail : List UInt8}

theorem plan_atRoot (request : Request) :
    plan (atRoot request) = answerTo request.method missingKey := rfl

/-- **The path `/` is refused for the key that is missing**, whatever the method. -/
theorem refusal_atRoot (request : Request) : refusal (atRoot request)
    = if request.method = "HEAD" then missingKey.withoutBody else missingKey := by
  rw [refusal, plan_atRoot, answerTo]

theorem plan_of_slashes (hpath : Target.ofText request.target = .path (Target.slash :: tail))
    (hslashes : SpelledSlashes tail) (hroot : tail ≠ []) :
    plan request = .answer (slashesRefusal request) := by
  have hbehind : ¬ tail.isEmpty = true := by rwa [List.isEmpty_iff]
  by_cases hget : request.method = "GET"
  · rw [plan_of_path hpath, planPath, if_neg hbehind, if_pos hget, planGet_slashes hslashes,
      slashesRefusal, if_pos (.inl hget)]
  · by_cases hpost : request.method = "POST"
    · rw [plan_of_path hpath, planPath, if_neg hbehind, if_neg hget, if_pos hpost,
        planPost_slashes hslashes, slashesRefusal, if_pos hpost]
      by_cases hlong : maxBody < request.body.size
      · have hnot : ¬ ComesToKey request :=
          not_or.mpr ⟨hget, fun h => absurd h.2 (Nat.not_le.mpr hlong)⟩
        rw [if_pos hlong, if_neg hnot]
      · rw [if_neg hlong, if_pos (.inr ⟨hpost, Nat.le_of_not_lt hlong⟩)]
    · have hnot : ¬ ComesToKey request := not_or.mpr ⟨hget, fun h => hpost h.1⟩
      rw [plan_of_other hpath hroot hget hpost, slashesRefusal, if_neg hnot, if_neg hpost]

/-- The path `/` is a path of slashes, too. -/
theorem plan_of_root (hpath : Target.ofText request.target = .path [Target.slash]) :
    plan request = .answer (refusal (atRoot request)) := by
  rw [plan_of_path hpath, refusal_atRoot]
  rfl

theorem refusal_of_plan {response : Response} (h : plan request = .answer response) :
    refusal request = response := by
  rw [refusal, h]

theorem status_atRoot (request : Request) : (refusal (atRoot request)).status = 400 := by
  rw [refusal_atRoot]
  split <;> rfl

theorem ComesToKey.ne_head (h : ComesToKey request) : request.method ≠ "HEAD" := by
  intro hhead
  rcases h with hget | ⟨hpost, -⟩
  · exact absurd (hget.symm.trans hhead) (by decide)
  · exact absurd (hpost.symm.trans hhead) (by decide)

/-- The status tells the other refusals from that of the path `/`. -/
theorem slashesRefusal_eq_iff (request : Request) :
    slashesRefusal request = refusal (atRoot request) ↔ ComesToKey request := by
  by_cases h : ComesToKey request
  · rw [slashesRefusal, if_pos h, refusal_atRoot, if_neg h.ne_head]
    exact iff_of_true rfl h
  · refine iff_of_false (fun heq => ?_) h
    have hstatus := status_atRoot request
    rw [← heq, slashesRefusal, if_neg h] at hstatus
    split at hstatus
    · exact absurd hstatus (by decide)
    · rw [status_methodRefusal] at hstatus
      exact absurd hstatus (by decide)

/-- No path of slashes is asked for at the store. -/
theorem plan_refusal (hpath : Target.ofText request.target = .path (Target.slash :: tail))
    (hslashes : SpelledSlashes tail) : plan request = .answer (refusal request) := by
  by_cases hroot : tail = []
  · subst hroot
    have hplan := plan_of_root hpath
    rwa [refusal_of_plan hplan]
  · have hplan := plan_of_slashes hpath hslashes hroot
    rwa [refusal_of_plan hplan]

/-- **When a path of slashes is refused as the path `/` is**: where it is this path, for `GET`, and
    for `POST` of a body that is not too long. -/
theorem alike_iff (hpath : Target.ofText request.target = .path (Target.slash :: tail))
    (hslashes : SpelledSlashes tail) :
    refusal request = refusal (atRoot request) ↔ tail = [] ∨ ComesToKey request := by
  by_cases hroot : tail = []
  · subst hroot
    exact iff_of_true (refusal_of_plan (plan_of_root hpath)) (.inl rfl)
  · rw [refusal_of_plan (plan_of_slashes hpath hslashes hroot), slashesRefusal_eq_iff,
      or_iff_right hroot]

end Refusals

/-! ## 3. Paths of slashes -/

/-- **A path of slashes is refused without the store, but not always for its key.** Whatever the
    slashes are spelled as, no exchange is made. The path `/` is refused as bad, with the wording
    that a key is missing, whatever the method and the body are. Any other path of slashes is
    refused in the same way exactly for `GET` and for `POST` of a body that is not too long; `POST`
    of a longer body is refused for its length, and any other method for the method. -/
theorem bare_slashes_refused (request : Request) {tail : List UInt8}
    (hpath : Target.ofText request.target = .path (Target.slash :: tail))
    (hslashes : SpelledSlashes tail) :
    (∀ {σ : Type} (exchange : Exchange σ Attempt) (s : σ),
      handle exchange request s = (⟨refusal request, none⟩, s) ∧
      handle exchange (atRoot request) s = (⟨refusal (atRoot request), none⟩, s)) ∧
    (refusal (atRoot request)).status = 400 ∧
    (refusal (atRoot request)).body
      = (if request.method = "HEAD" then .empty else "Bad Request: use /<key>".toUTF8) ∧
    (refusal request = refusal (atRoot request) ↔
      tail = [] ∨ request.method = "GET" ∨
        request.method = "POST" ∧ request.body.size ≤ 33554432) ∧
    (tail ≠ [] → request.method = "POST" → 33554432 < request.body.size →
      (refusal request).status = 413) ∧
    (tail ≠ [] → request.method ≠ "GET" → request.method ≠ "POST" →
      (refusal request).status = 405) := by
  have hatRoot : plan (atRoot request) = .answer (refusal (atRoot request)) :=
    plan_refusal rfl spelledSlashes_nil
  refine ⟨fun exchange s => ⟨handle_of_answer exchange s (plan_refusal hpath hslashes),
      handle_of_answer exchange s hatRoot⟩,
    status_atRoot request, ?_, alike_iff hpath hslashes, fun hroot hpost hlong => ?_,
    fun hroot hget hpost => ?_⟩
  · rw [refusal_atRoot]
    split <;> rfl
  · have hnot : ¬ ComesToKey request := by
      intro h
      rcases h with hget | ⟨-, hshort⟩
      · exact absurd (hget.symm.trans hpost) (by decide)
      · exact absurd hshort (Nat.not_le.mpr hlong)
    rw [refusal_of_plan (plan_of_slashes hpath hslashes hroot), slashesRefusal, if_neg hnot,
      if_pos hpost]
    rfl
  · rw [refusal_of_plan (plan_of_other hpath hroot hget hpost), status_methodRefusal]

/-- `PUT` of two slashes. -/
def putSlashes : Request := { method := "PUT", target := "//" }

/-- `GET` of three slashes, two of them written by their digits, in either case. -/
def fetchSlashes : Request := { method := "GET", target := "/%2F%2f" }

theorem spelledSlashes_one : SpelledSlashes [Target.slash] := ⟨1, .literal (by decide) .nil⟩

/-- The three slashes are refused as the path `/` is, and the two are refused for the method. -/
theorem bare_slashes_refused_spelled :
    (handle Script.attempt fetchSlashes []).1.response = refusal (atRoot fetchSlashes) ∧
    (refusal (atRoot fetchSlashes)).status = 400 ∧
    (handle Script.attempt putSlashes []).1.response.status = 405 ∧
    (handle Script.attempt putSlashes []).1.sent = none := by
  have hspelled : SpelledSlashes [0x25, 0x32, 0x46, 0x25, 0x32, 0x66] :=
    ⟨2, .written (by decide) (by decide) (.written (by decide) (by decide) .nil)⟩
  obtain ⟨hfetch, hbad, -, halike, -⟩ := bare_slashes_refused fetchSlashes rfl hspelled
  obtain ⟨hput, -, -, -, -, hother⟩ := bare_slashes_refused putSlashes rfl spelledSlashes_one
  rw [(hfetch Script.attempt []).1, (hput Script.attempt []).1]
  exact ⟨halike.mpr (.inr (.inl rfl)), hbad,
    hother (List.cons_ne_nil _ _) (by decide) (by decide), rfl⟩

/-- So a path of slashes is not always refused as the path `/` is: that of `PUT` is not. -/
theorem putSlashes_not_alike :
    ¬ ∀ (request : Request) (tail : List UInt8),
      Target.ofText request.target = .path (Target.slash :: tail) → SpelledSlashes tail →
        (handle Script.attempt request []).1.response
          = (handle Script.attempt (atRoot request) []).1.response := by
  intro h
  have hsame := h putSlashes _ rfl spelledSlashes_one
  have hstatus : (handle Script.attempt putSlashes []).1.response.status
      = (handle Script.attempt (atRoot putSlashes) []).1.response.status := by rw [hsame]
  exact absurd hstatus (by decide)

end StoreLink.Gateway
