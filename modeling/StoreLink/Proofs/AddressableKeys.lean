import StoreLink.Proofs.GatewayExchanges
import StoreLink.Proofs.PathSpelling

/-!
# Which keys the gateway can address

Slashes around a key are stripped from its path, so a key that starts or ends with one has no path.
Every other key has one, and each spelling of it reaches the store as this key.

* `SpellsKey` says which paths are spellings of a key; `due_of_spellsKey`: they name it;
* `sent_eq_some_iff`: what is sent for a request is the line that is due for it, and
  `due_of_mem_sentLines` says so of requests in a row;
* `text_of_lineFor`: a line tells which key it is about; `addressable_of_due`: it neither starts nor
  ends with a slash;
* `target_of_spellsKey`: a spelling behind a slash is the path of a target, and every key has one
  (`targetOf`);
* `addressable_keys`: exactly these keys can be addressed, in all their spellings.
-/

namespace StoreLink.Gateway

/-! ## 1. Spellings of a key -/

/-- The bytes of a key. -/
def keyBytes (key : Key) : List UInt8 :=
  key.text.toUTF8.data.toList

/-- A spelling of slashes, any number of them. -/
def SpelledSlashes (spelling : List UInt8) : Prop :=
  ∃ n, Spelled spelling (List.replicate n Target.slash)

/-- A text of slashes. -/
def slashes (n : Nat) : String :=
  String.ofList (List.replicate n '/')

@[simp] theorem slashes_slashes (n : Nat) : Slashes (slashes n) := by
  simp [slashes]

@[simp] theorem bytes_slashes (n : Nat) :
    (slashes n).toByteArray.data.toList = List.replicate n Target.slash := by
  have hchars : (slashes n).toList = (List.replicate n Target.slash).map Char.ofUInt8 := by
    rw [slashes, String.toList_ofList, List.map_replicate]
    rfl
  have hascii : ∀ x ∈ List.replicate n Target.slash, x < 128 := by
    intro x hx
    rw [List.eq_of_mem_replicate hx]
    decide
  rw [← String.toUTF8_eq_toByteArray, Bytes.toUTF8_eq_of_ascii hchars hascii,
    List.data_toByteArray]

section Keys

variable {key : Key} {front spelling back : List UInt8}

/-- **A spelling of a key names it**, with slashes spelled around it. -/
theorem names_of_spelled (hkey : Stripped key.text) (hfront : SpelledSlashes front)
    (hspelling : Spelled spelling (keyBytes key)) (hback : SpelledSlashes back) :
    Names (front ++ spelling ++ back) key := by
  obtain ⟨m, hfront⟩ := hfront
  obtain ⟨n, hback⟩ := hback
  refine ⟨⟨slashes m ++ key.text ++ slashes n, slashes m, slashes n, ?_, slashes_slashes m,
    slashes_slashes n, rfl⟩, hkey⟩
  rw [decode_of_spelled ((hfront.append hspelling).append hback)]
  simp [keyBytes]

end Keys

/-- The path goes on after its first slash as a spelling of the key, with slashes spelled around
    it. -/
def SpellsKey (tail : List UInt8) (key : Key) : Prop :=
  ∃ front spelling back, SpelledSlashes front ∧ Spelled spelling (keyBytes key) ∧
    SpelledSlashes back ∧ tail = front ++ spelling ++ back

/-! ## 2. What is sent -/

section Sent

variable {σ : Type} {request : Request} {line : RequestLine}

/-- A line goes out for a request, in the one exchange that is made for it. -/
def Sends (exchange : Exchange σ Attempt) (request : Request) (s : σ) (line : RequestLine) : Prop :=
  ∃ response, handle exchange request s = (⟨response, some line⟩, (exchange line s).2)

theorem sends_of_due (exchange : Exchange σ Attempt) (s : σ) (h : Due request line) :
    Sends exchange request s line := by
  obtain ⟨response, -, hhandle⟩ := handle_of_due exchange s h
  exact ⟨response, hhandle⟩

/-- **What is sent for a request is the line that is due for it.** -/
theorem sent_eq_some_iff (exchange : Exchange σ Attempt) (s : σ) :
    (handle exchange request s).1.sent = some line ↔ Due request line := by
  constructor
  · intro h
    by_cases hdue : ∃ line', Due request line'
    · obtain ⟨line', hdue⟩ := hdue
      obtain ⟨response, hhandle⟩ := sends_of_due exchange s hdue
      rw [hhandle] at h
      cases h
      exact hdue
    · obtain ⟨response, -, hhandle⟩ := handle_of_not_due (not_exists.mp hdue)
      rw [hhandle exchange s] at h
      cases h
  · intro h
    obtain ⟨response, hhandle⟩ := sends_of_due exchange s h
    rw [hhandle]

/-- Every line that is sent for requests in a row is due for one of them. -/
theorem due_of_mem_sentLines (exchange : Exchange σ Attempt) :
    ∀ {requests : List Request} {s : σ},
      line ∈ sentLines (handleAll exchange requests s).1 → ∃ request ∈ requests, Due request line
  | [], _, h => absurd h List.not_mem_nil
  | request :: rest, s, h => by
    rw [handleAll_cons, sentLines, List.mem_filterMap] at h
    obtain ⟨handled, hmem, hsent⟩ := h
    rcases List.mem_cons.mp hmem with rfl | hmem
    · exact ⟨request, .head _, (sent_eq_some_iff exchange s).mp hsent⟩
    · have hrest : line ∈ sentLines (handleAll exchange rest (handle exchange request s).2).1 :=
        List.mem_filterMap.mpr ⟨handled, hmem, hsent⟩
      obtain ⟨other, hother, hdue⟩ := due_of_mem_sentLines exchange hrest
      exact ⟨other, .tail _ hother, hdue⟩

end Sent

/-! ## 3. The key of a line -/

/-- The line asks for the value of a key, or for a value to be stored under it. -/
def LineFor (text : String) (line : RequestLine) : Prop :=
  line = .terminated ("GET " ++ text) ∨
    ∃ body, line = .terminated ("SET " ++ text ++ " " ++ Base64.encode body)

/-- The text is a key of the store that neither starts nor ends with a slash. -/
structure Addressable (text : String) : Prop where
  valid : Key.isValid text = true
  stripped : Stripped text

section Lines

variable {request : Request} {line : RequestLine} {text : String} {key : Key}

theorem get_ne_set (s t : String) : "GET " ++ s ≠ "SET " ++ t := by
  intro h
  have hget : "GET ".toList = ['G', 'E', 'T', ' '] := by decide
  have hset : "SET ".toList = ['S', 'E', 'T', ' '] := by decide
  have hlists := congrArg String.toList h
  simp [hget, hset] at hlists

/-- A key and a value in base64 are told apart by the space between them. -/
theorem text_of_append_space {value body : ByteArray}
    (h : key.text ++ " " ++ Base64.encode value = text ++ " " ++ Base64.encode body) :
    text = key.text := by
  have hkey : ' ' ∉ key.text.toList := Text.space_not_mem (RequestLine.not_blank_key key)
  have hvalue : ' ' ∉ (Base64.encode value).toList :=
    Text.space_not_mem fun _ hc => (Base64.plain_of_mem_encode hc).1
  have hlists := congrArg String.toList h
  rw [Text.toList_append_space, Text.toList_append_space] at hlists
  exact (String.toList_inj.mp ((List.append_cons_inj_of_notMem hkey hvalue).mp hlists).1).symm

/-- **A line is about one text**, if it is about a key. -/
theorem text_of_lineFor (hkey : LineFor key.text line) (h : LineFor text line) :
    text = key.text := by
  rcases hkey with rfl | ⟨value, rfl⟩
  · rcases h with h | ⟨body, h⟩
    · exact ((String.append_right_inj _).mp (RequestLine.terminated_inj.mp h)).symm
    · rw [RequestLine.terminated_inj, String.append_assoc, String.append_assoc] at h
      exact absurd h (get_ne_set _ _)
  · rw [String.append_assoc, String.append_assoc] at h
    rcases h with h | ⟨body, h⟩
    · exact absurd (RequestLine.terminated_inj.mp h).symm (get_ne_set _ _)
    · rw [RequestLine.terminated_inj, String.append_assoc, String.append_assoc,
        String.append_right_inj, ← String.append_assoc, ← String.append_assoc] at h
      exact text_of_append_space h

/-- **A line that is due is about a key without slashes at its ends.** -/
theorem exists_key_of_due (h : Due request line) :
    ∃ key : Key, Stripped key.text ∧ LineFor key.text line := by
  cases h with
  | @get tail key hmethod hpath hroot hnames => exact ⟨key, hnames.stripped, .inl rfl⟩
  | @post tail key hmethod hpath hroot hnames hbody =>
    exact ⟨key, hnames.stripped, .inr ⟨request.body, rfl⟩⟩

theorem addressable_of_due (h : Due request line) (hline : LineFor text line) :
    Addressable text := by
  obtain ⟨key, hstripped, hkey⟩ := exists_key_of_due h
  rw [text_of_lineFor hkey hline]
  exact ⟨key.valid, hstripped⟩

/-- The line that is due for a request whose path is a spelling of a key. -/
theorem due_of_spellsKey {tail : List UInt8} (hkey : Stripped key.text) (h : SpellsKey tail key)
    (hpath : Target.ofText request.target = .path (Target.slash :: tail)) :
    (request.method = "GET" → Due request (.terminated ("GET " ++ key.text))) ∧
    (request.method = "POST" → request.body.size ≤ 33554432 →
      Due request (.terminated ("SET " ++ key.text ++ " " ++ Base64.encode request.body))) := by
  obtain ⟨front, spelling, back, hfront, hspelling, hback, rfl⟩ := h
  have hnames := names_of_spelled hkey hfront hspelling hback
  exact ⟨fun hmethod => .get hmethod hpath (ne_nil_of_names hnames) hnames,
    fun hmethod hbody => .post hmethod hpath (ne_nil_of_names hnames) hnames hbody⟩

/-- Every line that is sent is about a key without slashes at its ends. -/
theorem addressable_of_mem_sentLines {σ : Type} {exchange : Exchange σ Attempt}
    {requests : List Request} {s : σ}
    (h : line ∈ sentLines (handleAll exchange requests s).1) :
    (∃ text, LineFor text line) ∧ ∀ text, LineFor text line → Addressable text := by
  obtain ⟨request, -, hdue⟩ := due_of_mem_sentLines exchange h
  obtain ⟨key, -, hline⟩ := exists_key_of_due hdue
  exact ⟨⟨key.text, hline⟩, fun text => addressable_of_due hdue⟩

end Lines

/-! ## 4. The targets of a key -/

section Targets

variable {key : Key} {tail : List UInt8}

theorem spelledSlashes_nil : SpelledSlashes [] := ⟨0, .nil⟩

theorem spellsKey_of_spelled (h : Spelled tail (keyBytes key)) : SpellsKey tail key :=
  ⟨[], tail, [], spelledSlashes_nil, h, spelledSlashes_nil, (List.append_nil tail).symm⟩

/-- A spelling of a key behind a slash is the path of a target, whatever query follows. -/
theorem target_of_spellsKey {target : String} {query : List UInt8} (h : SpellsKey tail key)
    (htarget : target.toUTF8.data.toList = Target.slash :: (tail ++ query))
    (hquery : ∀ b ∈ query.head?, b = 0x3F ∨ b = 0x23) :
    Target.ofText target = .path (Target.slash :: tail) := by
  obtain ⟨front, spelling, back, ⟨m, hfront⟩, hspelling, ⟨n, hback⟩, rfl⟩ := h
  exact target_of_spelled htarget ((hfront.append hspelling).append hback) hquery

/-- A slash, a plus sign and a dot may stand for themselves. -/
theorem literal_inner : ∀ b ∈ "/+.".toUTF8.data.toList, Literal b := by
  have hbytes : "/+.".toUTF8.data.toList = [0x2F, 0x2B, 0x2E] := by decide
  rw [hbytes]
  exact List.forall_mem_cons.mpr ⟨by decide, List.forall_mem_cons.mpr
    ⟨by decide, List.forall_mem_singleton.mpr (by decide)⟩⟩

/-- A key of bytes that may stand for themselves is a target as it is, behind a slash. -/
theorem target_of_literal (h : ∀ b ∈ keyBytes key, Literal b) :
    SpellsKey (keyBytes key) key ∧
      Target.ofText ("/" ++ key.text) = .path (Target.slash :: keyBytes key) := by
  have hspells := spellsKey_of_spelled (spelled_self h)
  have hslash : "/".toByteArray.data.toList = [Target.slash] := by decide
  have htext : ("/" ++ key.text).toUTF8.data.toList
      = Target.slash :: (keyBytes key ++ []) := by
    simp [keyBytes, hslash]
  exact ⟨hspells, target_of_spellsKey hspells htext nofun⟩

/-- A key has a target, in which every byte of it is written by its digits. -/
def targetOf (key : Key) : String :=
  String.ofList ((Target.slash :: writtenOut (keyBytes key)).map Char.ofUInt8)

theorem spellsKey_writtenOut (key : Key) : SpellsKey (writtenOut (keyBytes key)) key :=
  spellsKey_of_spelled (spelled_writtenOut (keyBytes key))

theorem ofText_targetOf (key : Key) :
    Target.ofText (targetOf key) = .path (Target.slash :: writtenOut (keyBytes key)) := by
  have hascii : ∀ x ∈ Target.slash :: writtenOut (keyBytes key), x < 128 :=
    List.forall_mem_cons.mpr ⟨by decide, writtenOut_lt _⟩
  have hchars : (targetOf key).toList
      = (Target.slash :: writtenOut (keyBytes key)).map Char.ofUInt8 := by
    rw [targetOf, String.toList_ofList]
  have htext : (targetOf key).toUTF8.data.toList
      = Target.slash :: (writtenOut (keyBytes key) ++ []) := by
    rw [Bytes.toUTF8_eq_of_ascii hchars hascii, List.data_toByteArray, List.append_nil]
  exact target_of_spellsKey (spellsKey_writtenOut key) htext nofun

/-- `GET` of the target of a key. -/
def fetchOf (key : Key) : Request :=
  { method := "GET", target := targetOf key }

/-- `POST` of a body to the target of a key. -/
def storeOf (key : Key) (body : ByteArray) : Request :=
  { method := "POST", target := targetOf key, body }

theorem due_fetchOf (hkey : Stripped key.text) :
    Due (fetchOf key) (.terminated ("GET " ++ key.text)) :=
  (due_of_spellsKey hkey (spellsKey_writtenOut key) (ofText_targetOf key)).1 rfl

theorem due_storeOf (hkey : Stripped key.text) {body : ByteArray} (hbody : body.size ≤ 33554432) :
    Due (storeOf key body)
      (.terminated ("SET " ++ key.text ++ " " ++ Base64.encode body)) :=
  (due_of_spellsKey hkey (spellsKey_writtenOut key) (ofText_targetOf key)).2 rfl hbody

end Targets

/-! ## 5. The keys that can be addressed -/

section Addressing

variable {σ : Type}

theorem exists_get_iff (exchange : Exchange σ Attempt) (s : σ) (text : String) :
    (∃ request, (handle exchange request s).1.sent = some (.terminated ("GET " ++ text))) ↔
      Addressable text := by
  simp only [sent_eq_some_iff]
  constructor
  · intro h
    obtain ⟨request, hdue⟩ := h
    exact addressable_of_due hdue (.inl rfl)
  · intro h
    exact ⟨fetchOf ⟨text, h.valid⟩, due_fetchOf h.stripped⟩

theorem exists_set_iff (exchange : Exchange σ Attempt) (s : σ) (text : String) {body : ByteArray}
    (hbody : body.size ≤ 33554432) :
    (∃ request, (handle exchange request s).1.sent
        = some (.terminated ("SET " ++ text ++ " " ++ Base64.encode body))) ↔
      Addressable text := by
  simp only [sent_eq_some_iff]
  constructor
  · intro h
    obtain ⟨request, hdue⟩ := h
    exact addressable_of_due hdue (.inr ⟨body, rfl⟩)
  · intro h
    exact ⟨storeOf ⟨text, h.valid⟩ body, due_storeOf h.stripped hbody⟩

/-- **Exactly the keys without slashes at their ends can be addressed, in every spelling.** A text
    is asked for, and is stored under, by some request exactly when it is such a key. `GET` of any
    spelling of one, with slashes spelled around it, sends the line that asks for it and nothing
    else, and `POST` of a body that is not too long the line that stores it. A spelling behind a
    slash is such a path, whatever query follows, and a slash, a plus sign and a dot inside a key
    spell themselves. Whatever requests come in, every line that is sent is about such a key. -/
theorem addressable_keys (exchange : Exchange σ Attempt) (s : σ) :
    (∀ text, (∃ request, (handle exchange request s).1.sent = some (.terminated ("GET " ++ text))) ↔
      Addressable text) ∧
    (∀ text, ∀ body : ByteArray, body.size ≤ 33554432 →
      ((∃ request, (handle exchange request s).1.sent
          = some (.terminated ("SET " ++ text ++ " " ++ Base64.encode body))) ↔
        Addressable text)) ∧
    (∀ (key : Key) (tail : List UInt8) (request : Request), Stripped key.text →
      SpellsKey tail key → Target.ofText request.target = .path (Target.slash :: tail) →
      (request.method = "GET" → Sends exchange request s (.terminated ("GET " ++ key.text))) ∧
      (request.method = "POST" → request.body.size ≤ 33554432 → Sends exchange request s
        (.terminated ("SET " ++ key.text ++ " " ++ Base64.encode request.body)))) ∧
    (∀ (key : Key) (tail query : List UInt8) (target : String), SpellsKey tail key →
      target.toUTF8.data.toList = Target.slash :: (tail ++ query) →
      (∀ b ∈ query.head?, b = 0x3F ∨ b = 0x23) →
      Target.ofText target = .path (Target.slash :: tail)) ∧
    (∀ b ∈ "/+.".toUTF8.data.toList, Literal b) ∧
    (∀ key : Key, (∀ b ∈ keyBytes key, Literal b) → SpellsKey (keyBytes key) key ∧
      Target.ofText ("/" ++ key.text) = .path (Target.slash :: keyBytes key)) ∧
    (∀ requests, ∀ line ∈ sentLines (handleAll exchange requests s).1,
      (∃ text, LineFor text line) ∧ ∀ text, LineFor text line → Addressable text) := by
  refine ⟨exists_get_iff exchange s, fun text body => exists_set_iff exchange s text,
    fun key tail request hkey hspells hpath => ?_,
    fun key tail query target => target_of_spellsKey, literal_inner, fun key => target_of_literal,
    fun requests line => addressable_of_mem_sentLines⟩
  obtain ⟨hget, hpost⟩ := due_of_spellsKey hkey hspells hpath
  exact ⟨fun hmethod => sends_of_due exchange s (hget hmethod),
    fun hmethod hbody => sends_of_due exchange s (hpost hmethod hbody)⟩

end Addressing

/-! ## 6. A key in one of its spellings -/

/-- A key with a slash, a plus sign and a dot in it, and with bytes that have to be written. -/
def innerKey : Key :=
  ⟨"a/+.%é", Key.isValid_iff.mpr ⟨by decide, List.all_eq_true.mp (by decide)⟩⟩

/-- `GET` of this key, with slashes spelled around it and a query behind. -/
def fetchInner : Request :=
  { method := "GET", target := "//a/%2b.%25%c3%A9%2F?x=/" }

theorem spellsKey_innerKey : SpellsKey "/a/%2b.%25%c3%A9%2F".toUTF8.data.toList innerKey := by
  have hfront : SpelledSlashes [0x2F] := ⟨1, .literal (by decide) .nil⟩
  have hback : SpelledSlashes [0x25, 0x32, 0x46] := ⟨1, .written (by decide) (by decide) .nil⟩
  have hspelling : Spelled "a/%2b.%25%c3%A9".toUTF8.data.toList (keyBytes innerKey) :=
    .literal (by decide) <| .literal (by decide) <| .written (by decide) (by decide) <|
      .literal (by decide) <| .written (by decide) (by decide) <|
      .written (by decide) (by decide) <| .written (by decide) (by decide) .nil
  exact ⟨_, _, _, hfront, hspelling, hback, by decide⟩

/-- The key is asked for as it is, and so could a value be stored under it; with a slash in front it
    could not. -/
theorem addressable_keys_spelled :
    Sends Script.attempt fetchInner [.line "NOT_FOUND\n"] (.terminated "GET a/+.%é") ∧
    (∃ request, (handle Script.attempt request [.line "OK\n"]).1.sent
      = some (.terminated ("SET a/+.%é " ++ Base64.encode .empty))) ∧
    ∀ request, (handle Script.attempt request [.line "OK\n"]).1.sent
      ≠ some (.terminated "GET /a") := by
  have hstripped : Stripped innerKey.text := ⟨by decide, by decide⟩
  obtain ⟨-, -, hsends, htarget, -⟩ := addressable_keys Script.attempt [.line "NOT_FOUND\n"]
  obtain ⟨hget, hset, -⟩ := addressable_keys Script.attempt [.line "OK\n"]
  have hquery : "?x=/".toUTF8.data.toList.head? = some 0x3F := by decide
  have hpath := htarget innerKey _ "?x=/".toUTF8.data.toList fetchInner.target spellsKey_innerKey
    (by decide) fun b hb => .inl (Option.some.inj (hquery.symm.trans hb)).symm
  refine ⟨(hsends innerKey _ fetchInner hstripped spellsKey_innerKey hpath).1 rfl, ?_, ?_⟩
  · exact (hset innerKey.text .empty (by decide)).mpr ⟨innerKey.valid, hstripped⟩
  · intro request h
    have hslash := (hget "/a").mp ⟨request, h⟩
    exact hslash.stripped.first (by decide)

end StoreLink.Gateway
