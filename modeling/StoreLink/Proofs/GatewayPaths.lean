import StoreLink.Gateway
import StoreLink.Proofs.RequestFraming

/-!
# When the gateway asks the store

Whether a request is passed on to the store, and as which line, can be read off the request alone.

* `Names`: the key that a path names; `keyOf_eq_ok_iff` and `names_iff` say that it is the one that
  is found;
* `Due`: the line that is to be sent for a request; `plan_eq_ask_iff` says what is asked for a
  request, and `due_of_ask` that nothing else is sent;
* `refused_status`: any other request is refused with 400, 405 or 413.
-/

namespace StoreLink.Gateway

/-! ## 1. Slashes around a text -/

/-- The text holds nothing but slashes. -/
def Slashes (s : String) : Prop := ∀ c ∈ s.toList, c = '/'

/-- The text neither starts nor ends with a slash. -/
structure Stripped (s : String) : Prop where
  first : s.toList.head? ≠ some '/'
  last : s.toList.getLast? ≠ some '/'

@[simp] theorem slashes_empty : Slashes "" := List.forall_mem_nil _

@[simp] theorem slashes_ofList {chars : List Char} :
    Slashes (String.ofList chars) ↔ ∀ c ∈ chars, c = '/' := by
  rw [Slashes, String.toList_ofList]

@[simp] theorem toList_stripSlashes (text : String) :
    (stripSlashes text).toList
      = ((text.toList.dropWhile (· == '/')).reverse.dropWhile (· == '/')).reverse := by
  have hslice : stripSlashes text
      = ((text.toSlice.dropWhile (· == '/')).dropEndWhile (· == '/')).copy := by
    rw [← String.Slice.dropWhile_char_eq_dropWhile_beq,
      ← String.Slice.dropEndWhile_char_eq_dropEndWhile_beq]
    rfl
  rw [hslice, Text.toList_dropEndWhile, Text.toList_dropWhile, String.copy_toSlice]

theorem stripped_iff {s : String} :
    Stripped s ↔ (∀ c ∈ s.toList.head?, (c == '/') = false) ∧
      ∀ c ∈ s.toList.getLast?, (c == '/') = false := by
  simp only [beq_eq_false_iff_ne, Option.mem_def]
  constructor
  · intro h
    exact ⟨fun c hc hslash => h.first (hslash ▸ hc), fun c hc hslash => h.last (hslash ▸ hc)⟩
  · intro h
    obtain ⟨hfirst, hlast⟩ := h
    exact ⟨fun h => hfirst _ h rfl, fun h => hlast _ h rfl⟩

/-- **Stripping takes the slashes off both ends**, and nothing else. -/
theorem stripSlashes_eq_iff {text s : String} :
    stripSlashes text = s ↔
      Stripped s ∧ ∃ front back, Slashes front ∧ Slashes back ∧ text = front ++ s ++ back := by
  constructor
  · intro h
    subst h
    constructor
    · rw [stripped_iff, toList_stripSlashes]
      exact Text.ends_strip (· == '/') text.toList
    · obtain ⟨front, back, hfront, hback, htext⟩ := Text.exists_strip (· == '/') text.toList
      refine ⟨String.ofList front, String.ofList back, ?_, ?_, ?_⟩
      · simpa using hfront
      · simpa using hback
      · simpa [← String.toList_inj] using htext
  · intro h
    obtain ⟨hs, front, back, hfront, hback, rfl⟩ := h
    obtain ⟨hfirst, hlast⟩ := stripped_iff.mp hs
    simp only [← String.toList_inj, toList_stripSlashes, String.toList_append]
    exact Text.strip_append (fun c hc => beq_iff_eq.mpr (hfront c hc)) hfirst hlast
      fun c hc => beq_iff_eq.mpr (hback c hc)

/-! ## 2. The key of a path -/

/-- The path whose bytes after the first slash are these names this key: percent-decoded they are a
    text, and the text is the key with slashes around it. -/
structure Names (tail : List UInt8) (key : Key) : Prop where
  parts : ∃ decoded front back : String, Text.Percent.decode tail = decoded.toUTF8.data.toList ∧
    Slashes front ∧ Slashes back ∧ decoded = front ++ key.text ++ back
  stripped : Stripped key.text

theorem decodeTail_eq_some_iff {tail : List UInt8} {decoded : String} :
    decodeTail tail = some decoded ↔
      Text.Percent.decode tail = decoded.toUTF8.data.toList := by
  rw [decodeTail, Bytes.fromUTF8?_eq_some_iff, Bytes.toByteArray_eq_iff]

/-- A key is found where the text without the slashes around it is one. -/
theorem keyOf_eq_ok_iff {decoded : String} {key : Key} :
    keyOf decoded = .ok key ↔ stripSlashes decoded = key.text := by
  unfold keyOf
  by_cases hempty : (stripSlashes decoded).isEmpty = true
  · rw [if_pos hempty]
    constructor
    · intro h
      cases h
    · intro h
      rw [h, String.isEmpty_iff] at hempty
      exact absurd hempty (RequestLine.key_ne_empty key)
  · rw [if_neg hempty]
    cases hread : Key.ofText (stripSlashes decoded) with
    | ok found =>
      rw [Key.ofText_eq_ok_iff] at hread
      rw [← hread, Except.ok.injEq]
      exact Key.text_inj.symm
    | error e =>
      constructor
      · intro h
        cases h
      · intro h
        rw [Key.ofText_eq_ok_iff.mpr h.symm] at hread
        cases hread

/-- **The key that is found is the one that the path names.** -/
theorem names_iff {tail : List UInt8} {key : Key} :
    Names tail key ↔ ∃ decoded, decodeTail tail = some decoded ∧ keyOf decoded = .ok key := by
  simp only [decodeTail_eq_some_iff, keyOf_eq_ok_iff, stripSlashes_eq_iff]
  constructor
  · intro h
    obtain ⟨decoded, front, back, hdecoded, hfront, hback, hparts⟩ := h.parts
    exact ⟨decoded, hdecoded, h.stripped, front, back, hfront, hback, hparts⟩
  · intro h
    obtain ⟨decoded, hdecoded, hstripped, front, back, hfront, hback, hparts⟩ := h
    exact ⟨⟨decoded, front, back, hdecoded, hfront, hback, hparts⟩, hstripped⟩

/-- A path that names a key goes on after its first slash. -/
theorem ne_nil_of_names {tail : List UInt8} {key : Key} (h : Names tail key) : tail ≠ [] := by
  intro htail
  subst htail
  obtain ⟨decoded, front, back, hdecoded, -, -, hparts⟩ := h.parts
  have hempty : decodeTail [] = some "" := decodeTail_eq_some_iff.mpr rfl
  have hnothing : decoded = "" := by
    rw [decodeTail_eq_some_iff.mpr hdecoded] at hempty
    exact Option.some.inj hempty
  rw [hnothing] at hparts
  exact absurd hparts.symm (by simp)

/-! ## 3. Plans -/

section Plan

variable {tail : List UInt8} {body : ByteArray} {question : Question} {response : Response}

theorem planGet_eq_ask_iff :
    planGet tail = .ask question ↔ ∃ key, Names tail key ∧ question = .fetch key := by
  constructor
  · intro h
    unfold planGet at h
    split at h
    · cases h
    · rename_i decoded hdecoded
      split at h
      · cases h
      · rename_i key hkey
        cases h
        exact ⟨key, names_iff.mpr ⟨decoded, hdecoded, hkey⟩, rfl⟩
  · intro h
    obtain ⟨key, hnames, rfl⟩ := h
    obtain ⟨decoded, hdecoded, hkey⟩ := names_iff.mp hnames
    simp only [planGet, hdecoded, hkey]

theorem planPost_eq_ask_iff :
    planPost tail body = .ask question ↔
      ∃ key, Names tail key ∧ body.size ≤ maxBody ∧ question = .put key body := by
  constructor
  · intro h
    unfold planPost at h
    split at h
    · cases h
    · rename_i decoded hdecoded
      split at h
      · cases h
      · rename_i hbody
        split at h
        · cases h
        · rename_i key hkey
          cases h
          exact ⟨key, names_iff.mpr ⟨decoded, hdecoded, hkey⟩, Nat.le_of_not_lt hbody, rfl⟩
  · intro h
    obtain ⟨key, hnames, hbody, rfl⟩ := h
    obtain ⟨decoded, hdecoded, hkey⟩ := names_iff.mp hnames
    simp only [planPost, hdecoded, hkey, if_neg (Nat.not_lt.mpr hbody)]

theorem keyOf_refused {decoded : String} (h : keyOf decoded = .error response) :
    response.status = 400 := by
  simp only [keyOf] at h
  split at h
  · cases h
    rfl
  · split at h
    · cases h
    · cases h
      rfl

theorem planGet_refused (h : planGet tail = .answer response) : response.status = 400 := by
  unfold planGet at h
  split at h
  · cases h
    rfl
  · split at h
    · rename_i hkey
      cases h
      exact keyOf_refused hkey
    · cases h

theorem planPost_refused (h : planPost tail body = .answer response) :
    response.status = 400 ∨ response.status = 413 := by
  unfold planPost at h
  split at h
  · cases h
    exact .inl rfl
  · split at h
    · cases h
      exact .inr rfl
    · split at h
      · rename_i hkey
        cases h
        exact .inl (keyOf_refused hkey)
      · cases h

end Plan

/-! ## 4. Requests that are due at the store -/

/-- The request has a path, and the path starts with a slash. -/
def Rooted (request : Request) : Prop :=
  ∃ tail, Target.ofText request.target = .path (Target.slash :: tail)

/-- The line that is to be sent to the store for a request: for `GET` and for `POST` of a path that
    names a key, and for `POST` only with a body that is not too long. -/
inductive Due (request : Request) : RequestLine → Prop where
  | get {tail : List UInt8} {key : Key} (hmethod : request.method = "GET")
      (hpath : Target.ofText request.target = .path (Target.slash :: tail)) (hroot : tail ≠ [])
      (hnames : Names tail key) : Due request (.terminated ("GET " ++ key.text))
  | post {tail : List UInt8} {key : Key} (hmethod : request.method = "POST")
      (hpath : Target.ofText request.target = .path (Target.slash :: tail)) (hroot : tail ≠ [])
      (hnames : Names tail key) (hbody : request.body.size ≤ 33554432) :
      Due request (.terminated ("SET " ++ key.text ++ " " ++ Base64.encode request.body))

theorem pathOf_eq_cons {bytes others : List UInt8} {b : UInt8}
    (h : Target.pathOf bytes = b :: others) :
    Target.endsPath b = false ∧ b ∈ bytes.head? := by
  cases bytes with
  | nil => cases h
  | cons x rest =>
    cases hx : Target.endsPath x with
    | true =>
      rw [Target.pathOf, List.takeWhile_cons_of_neg (by simp [hx])] at h
      cases h
    | false =>
      rw [Target.pathOf, List.takeWhile_cons_of_pos (by simp [hx]), List.cons.injEq] at h
      obtain ⟨rfl, -⟩ := h
      exact ⟨hx, rfl⟩

/-- **Every path starts with a slash.** -/
theorem exists_tail_of_path {text : String} {bytes : List UInt8}
    (h : Target.ofText text = .path bytes) : ∃ tail, bytes = Target.slash :: tail := by
  unfold Target.ofText Target.ofBytes at h
  split at h
  · rename_i rest htext
    cases h
    rw [htext]
    exact ⟨Target.pathOf rest, rfl⟩
  · split at h
    · cases h
    · split at h
      · cases h
        exact ⟨[], rfl⟩
      · rename_i b others hpath
        cases h
        -- the authority ends at a slash or where a path ends, and here a path goes on
        obtain ⟨hin, hhead⟩ := pathOf_eq_cons hpath
        have hstop := Text.head?_dropWhile _ _ b hhead
        rw [hin, Bool.not_false, Bool.and_true, bne_eq_false_iff_eq] at hstop
        exact ⟨others, by rw [hstop]⟩

section Requests

variable {request : Request} {tail : List UInt8} {question : Question} {response : Response}

theorem plan_of_path (hpath : Target.ofText request.target = .path (Target.slash :: tail)) :
    plan request = planPath request tail := by
  simp only [plan, hpath]

/-- What is asked for a request is asked by its method, for the key that its path names. -/
theorem plan_eq_ask_iff (hpath : Target.ofText request.target = .path (Target.slash :: tail)) :
    plan request = .ask question ↔
      tail ≠ [] ∧ ∃ key, Names tail key ∧
        (request.method = "GET" ∧ question = .fetch key ∨
          request.method = "POST" ∧ request.body.size ≤ maxBody ∧
            question = .put key request.body) := by
  rw [plan_of_path hpath]
  unfold planPath answerTo
  cases tail with
  | nil => simp
  | cons b rest =>
    by_cases hget : request.method = "GET"
    · simp [hget, planGet_eq_ask_iff]
    · by_cases hpost : request.method = "POST"
      · simp [hpost, planPost_eq_ask_iff]
      · by_cases hhead : request.method = "HEAD"
        · simp [hhead]
        · simp [hget, hpost, hhead]

theorem request_fetch (key : Key) :
    (Question.fetch key).request = .terminated ("GET " ++ key.text) := by
  have hname : CommandName.get.text ++ " " = "GET " := by decide
  show RequestLine.terminated (CommandName.get.text ++ " " ++ key.text) = _
  rw [hname]

theorem request_put (key : Key) (value : ByteArray) :
    (Question.put key value).request
      = .terminated ("SET " ++ key.text ++ " " ++ Base64.encode value) := by
  have hname : CommandName.set.text ++ " " = "SET " := by decide
  show RequestLine.terminated
    (CommandName.set.text ++ " " ++ key.text ++ " " ++ Base64.encode value) = _
  rw [hname]

theorem rooted_of_ask (h : plan request = .ask question) : Rooted request := by
  unfold plan at h
  split at h
  · cases h
  · cases h
  · rename_i b tail hpath
    obtain ⟨rest, hrest⟩ := exists_tail_of_path hpath
    exact ⟨rest, by rw [hpath, hrest]⟩

/-- **What the store is asked for a request is due for it.** -/
theorem due_of_ask (h : plan request = .ask question) : Due request question.request := by
  obtain ⟨tail, hpath⟩ := rooted_of_ask h
  obtain ⟨hroot, key, hnames, hasked⟩ := (plan_eq_ask_iff hpath).mp h
  rcases hasked with ⟨hmethod, rfl⟩ | ⟨hmethod, hbody, rfl⟩
  · rw [request_fetch]
    exact .get hmethod hpath hroot hnames
  · rw [request_put]
    exact .post hmethod hpath hroot hnames hbody

/-- **Any other request is refused** as bad, for its method, or for its length. -/
theorem refused_status (hrooted : Rooted request) (h : plan request = .answer response) :
    response.status = 400 ∨ response.status = 405 ∨ response.status = 413 := by
  obtain ⟨tail, hpath⟩ := hrooted
  rw [plan_of_path hpath] at h
  unfold planPath at h
  split at h
  · unfold answerTo at h
    split at h <;> cases h <;> exact .inl rfl
  · split at h
    · exact .inl (planGet_refused h)
    · split at h
      · exact (planPost_refused h).imp id .inr
      · split at h <;> cases h <;> exact .inr (.inl rfl)

end Requests

/-! ## 5. Requests for one key -/

/-- `GET` of the key `k`, with an escape, slashes around the key and a query behind. -/
def fetchK : Request := { method := "GET", target := "//%6b/?x=1" }

/-- `POST` of a line feed to the key `k`. -/
def storeK : Request := { method := "POST", target := "/k", body := "\n".toUTF8 }

def keyK : Key := ⟨"k", RequestLine.isValid_k⟩

theorem stripped_keyK : Stripped keyK.text := ⟨by decide, by decide⟩

theorem names_fetchK : Names [0x2F, 0x25, 0x36, 0x62, 0x2F] keyK := by
  have hlist : "/".toList = ['/'] := by decide
  have hslash : Slashes "/" := by
    intro c hc
    rw [hlist, List.mem_singleton] at hc
    exact hc
  exact ⟨⟨"/k/", "/", "/", by decide, hslash, hslash, by decide⟩, stripped_keyK⟩

theorem names_storeK : Names [0x6B] keyK := by
  have hempty : Slashes "" := fun _ h => absurd h List.not_mem_nil
  exact ⟨⟨"k", "", "", by decide, hempty, hempty, by decide⟩, stripped_keyK⟩

theorem due_fetchK : Due fetchK (.terminated "GET k") := by
  have hline : "GET " ++ keyK.text = "GET k" := by decide
  have hdue : Due fetchK (.terminated ("GET " ++ keyK.text)) :=
    .get rfl rfl (by decide) names_fetchK
  rwa [hline] at hdue

theorem encode_storeK : Base64.encode storeK.body = "Cg==" := by
  rw [← String.toList_inj, Base64.toList_encode]
  decide

theorem due_storeK : Due storeK (.terminated "SET k Cg==") := by
  have hline : "SET " ++ keyK.text ++ " " ++ "Cg==" = "SET k Cg==" := by decide
  have hdue : Due storeK (.terminated ("SET " ++ keyK.text ++ " " ++ Base64.encode storeK.body)) :=
    .post rfl rfl (by decide) names_storeK (by decide)
  rwa [encode_storeK, hline] at hdue

end StoreLink.Gateway
