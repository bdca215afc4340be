import StoreLink.Client
import StoreLink.Proofs.ReplyGrammar
import StoreLink.Proofs.RequestFraming

/-!
# Calls to a store that keeps its word

A store keeps texts under texts. Through a client it is a map from keys to bytes, as long as it does
with each line what a store has to do.

* `fields` is how a store splits a line, `ConformingStore` what it has to do with the fields;
* `Operation.perform` makes a call, `Operation.onMap` does to a map what the call asks for;
* `perform_holds`: one call has the result of the map, and keeps store and map together;
* `calls_are_a_map`: so have any calls in a row, by any clones of one client.
-/

namespace StoreLink

/-! ## 1. The fields of a line -/

/-- The parts of a text that is split at its first spaces, at most `n` of them. -/
def splitAtSpaces : Nat → List Char → List (List Char)
  | 0, l => [l]
  | n + 1, l =>
    match l.dropWhile (· != ' ') with
    | [] => [l]
    | _ :: rest => l.takeWhile (· != ' ') :: splitAtSpaces n rest

/-- The fields of a request line, which is split at its first two spaces. -/
def fields (line : String) : List String :=
  (splitAtSpaces 2 line.toList).map String.ofList

theorem bne_space {word : List Char} (hword : ' ' ∉ word) : ∀ c ∈ word, (c != ' ') = true := by
  intro c hc
  rw [bne_iff_ne]
  rintro rfl
  exact hword hc

theorem splitAtSpaces_word (n : Nat) {word : List Char} (hword : ' ' ∉ word) :
    splitAtSpaces n word = [word] := by
  cases n with
  | zero => rfl
  | succ n =>
    have hnone : word.dropWhile (· != ' ') = [] :=
      Text.dropWhile_eq_of_append _ word (List.append_nil word)
        (List.all_eq_true.mpr (bne_space hword)) rfl
    rw [splitAtSpaces, hnone]

/-- A word and the space behind it are split off. -/
theorem splitAtSpaces_cons (n : Nat) {word : List Char} (hword : ' ' ∉ word) (rest : List Char) :
    splitAtSpaces (n + 1) (word ++ ' ' :: rest) = word :: splitAtSpaces n rest := by
  rw [splitAtSpaces, List.dropWhile_append_of_pos (bne_space hword),
    List.takeWhile_append_of_pos (bne_space hword)]
  simp

theorem fields_two {name key : String} (hname : ' ' ∉ name.toList) (hkey : ' ' ∉ key.toList) :
    fields (name ++ " " ++ key) = [name, key] := by
  rw [fields, Text.toList_append_space, splitAtSpaces_cons 1 hname, splitAtSpaces_word 1 hkey]
  simp

/-- Two words split off leave the rest as it is, spaces and all. -/
theorem fields_three {name key : String} (hname : ' ' ∉ name.toList) (hkey : ' ' ∉ key.toList)
    (payload : String) : fields (name ++ " " ++ key ++ " " ++ payload) = [name, key, payload] := by
  have hlist : (name ++ " " ++ key ++ " " ++ payload).toList
      = name.toList ++ ' ' :: (key.toList ++ ' ' :: payload.toList) := by
    simp
  rw [fields, hlist, splitAtSpaces_cons 1 hname, splitAtSpaces_cons 0 hkey, splitAtSpaces]
  simp

/-- **A key is a field**, since there is no space in it. -/
theorem space_not_mem_key (key : Key) : ' ' ∉ key.text.toList :=
  Text.space_not_mem (RequestLine.not_blank_key key)

theorem fields_get (key : Key) :
    fields (RequestLine.ofCommand (.get key)).text = ["GET", key.text] := by
  rw [RequestLine.text_ofCommand]
  exact fields_two (by decide) (space_not_mem_key key)

theorem fields_set (key : Key) (value : ByteArray) :
    fields (RequestLine.ofCommand (.set key value)).text
      = ["SET", key.text, Base64.encode value] := by
  rw [RequestLine.text_ofCommand]
  exact fields_three (by decide) (space_not_mem_key key) _

theorem fields_delete (key : Key) :
    fields (RequestLine.ofCommand (.delete key)).text = ["DELETE", key.text] := by
  rw [RequestLine.text_ofCommand]
  exact fields_two (by decide) (space_not_mem_key key)

/-! ## 2. The store -/

/-- A store of payloads under texts. It has the fields of a line to go by, answers with one line,
    and leaves what it was not told to change. -/
structure ConformingStore (σ : Type) where
  /-- The payload under a text. -/
  shelf : σ → String → Option String
  /-- Answers a line, which comes without the line feed at its end. -/
  serve : String → σ → String × σ
  reply_set : ∀ {line key payload : String} (s : σ), fields line = ["SET", key, payload] →
    (serve line s).1.startsWith "OK" = true
  shelf_set : ∀ {line key payload : String} (s : σ), fields line = ["SET", key, payload] →
    ∀ k, shelf (serve line s).2 k = if k = key then some payload else shelf s k
  reply_get : ∀ {line key : String} (s : σ), fields line = ["GET", key] →
    (serve line s).1
      = match shelf s key with
        | some payload => "VALUE " ++ payload ++ "\n"
        | none => "NOT_FOUND\n"
  shelf_get : ∀ {line key : String} (s : σ), fields line = ["GET", key] →
    ∀ k, shelf (serve line s).2 k = shelf s k
  reply_delete : ∀ {line key : String} (s : σ), fields line = ["DELETE", key] →
    (serve line s).1
      ∈ match shelf s key with
        | some _ => ["OK\n", "DELETED\n"]
        | none => ["NOT_FOUND\n"]
  shelf_delete : ∀ {line key : String} (s : σ), fields line = ["DELETE", key] →
    ∀ k, shelf (serve line s).2 k = if k = key then none else shelf s k

namespace ConformingStore

variable {σ : Type} (store : ConformingStore σ)

/-- The exchange with a store: it is handed the text of the request, and its answer is decoded. -/
def exchange : Exchange σ Answer :=
  fun request s =>
    let (reply, s') := store.serve request.text s
    (Reply.decode reply, s')

end ConformingStore

/-! ## 3. The map -/

/-- A map from keys to bytes. -/
abbrev Contents : Type := Key → Option ByteArray

namespace Contents

def empty : Contents := fun _ => none

def put (m : Contents) (key : Key) (value : ByteArray) : Contents :=
  fun k => if k = key then some value else m k

def remove (m : Contents) (key : Key) : Contents :=
  fun k => if k = key then none else m k

end Contents

/-- A call about one key. -/
inductive Operation where
  | get (key : Key)
  | set (key : Key) (value : ByteArray)
  | delete (key : Key)

/-- The result of a call about one key. -/
inductive Operation.Result where
  | read (result : Except LinkError (Option ByteArray))
  | stored (result : Except LinkError Unit)
  | removed (result : Except LinkError Bool)

/-- The failure of what may fail. -/
def failureOf? {α : Type} : Except LinkError α → Option LinkError
  | .ok _ => none
  | .error e => some e

@[simp] theorem failureOf?_eq_some_iff {α : Type} {result : Except LinkError α} {e : LinkError} :
    failureOf? result = some e ↔ result = .error e := by
  cases result <;> simp [failureOf?]

/-- The failure of a call about one key. -/
def Operation.Result.failure? : Operation.Result → Option LinkError
  | .read result => failureOf? result
  | .stored result => failureOf? result
  | .removed result => failureOf? result

namespace Operation

variable {σ ι : Type}

/-- Makes the call through an exchange. -/
def perform (exchange : Exchange σ Answer) (s : σ) : Operation → Result × σ
  | .get key => ((Client.get key).run exchange s).map .read id
  | .set key value => ((Client.set key value).run exchange s).map .stored id
  | .delete key => ((Client.delete key).run exchange s).map .removed id

/-- Does to a map what the call asks for. -/
def onMap (m : Contents) : Operation → Result × Contents
  | .get key => (.read (.ok (m key)), m)
  | .set key value => (.stored (.ok ()), m.put key value)
  | .delete key => (.removed (.ok (m key).isSome), m.remove key)

/-- Makes calls in a row, each by one of the clients. -/
def performAll (clients : ι → Exchange σ Answer) (s : σ) : List (ι × Operation) → List Result × σ
  | [] => ([], s)
  | (i, op) :: rest =>
    let (outcome, s') := op.perform (clients i) s
    let (outcomes, last) := performAll clients s' rest
    (outcome :: outcomes, last)

/-- Does to a map what calls in a row ask for. -/
def allOnMap (m : Contents) : List Operation → List Result × Contents
  | [] => ([], m)
  | op :: rest =>
    let (outcome, m') := op.onMap m
    let (outcomes, last) := allOnMap m' rest
    (outcome :: outcomes, last)

end Operation

/-! ## 4. One call -/

namespace ConformingStore

variable {σ ι : Type} {store : ConformingStore σ} {s : σ} {m : Contents}

/-- The store holds what is in the map, each value in base64. -/
def Holds (store : ConformingStore σ) (s : σ) (m : Contents) : Prop :=
  ∀ key : Key, store.shelf s key.text = (m key).map Base64.encode

theorem decode_value (value : ByteArray) :
    Reply.decode ("VALUE " ++ Base64.encode value ++ "\n") = .ok (.value value) :=
  Reply.decode_encode value (by decide)

/-- Each word that the store answers with, on a line of its own, is read as the word. -/
theorem decode_word {word line : String} (hword : word ∈ ["OK", "NOT_FOUND", "DELETED"])
    (hline : line = word ++ "\n") : Reply.decode line = .ok (.status word) := by
  have hparts : Text.Trimmed word ∧ ∃ c, [c] <+: word.toList ∧ c ≠ 'V' := by
    simp only [List.mem_cons, List.not_mem_nil, or_false] at hword
    rcases hword with rfl | rfl | rfl <;> exact ⟨by decide, _, ⟨_, rfl⟩, by decide⟩
  obtain ⟨htrimmed, c, hopening, hc⟩ := hparts
  rw [hline]
  exact Reply.decode_status htrimmed hopening hc (by decide)

/-- A `GET` gives what is in the map. -/
theorem perform_get (h : Holds store s m) (key : Key) :
    ((Operation.get key).perform store.exchange s).1 = .read (.ok (m key)) := by
  have hreply := store.reply_get s (fields_get key)
  rw [h key] at hreply
  show Operation.Result.read ((Client.get key).result
    (Reply.decode (store.serve (RequestLine.ofCommand (.get key)).text s).1)) = _
  rw [hreply]
  cases m key with
  | none =>
    have hread : Reply.decode "NOT_FOUND\n" = .ok (.status "NOT_FOUND") :=
      decode_word (by decide) (by decide)
    rw [Option.map_none, hread]
    rfl
  | some value =>
    rw [Option.map_some, decode_value]
    rfl

/-- A `SET` is granted. -/
theorem perform_set (key : Key) (value : ByteArray) :
    ((Operation.set key value).perform store.exchange s).1 = .stored (.ok ()) := by
  have hreply := store.reply_set s (fields_set key value)
  obtain ⟨reply, hread, hgrants⟩ := Reply.decode_granted (String.startsWith_string_iff.mp hreply)
  show Operation.Result.stored ((Client.set key value).result
    (Reply.decode (store.serve (RequestLine.ofCommand (.set key value)).text s).1)) = _
  rw [hread]
  show Operation.Result.stored (if reply.grants then .ok () else .error (Client.misfit reply)) = _
  rw [if_pos hgrants]

theorem delete_result (key : Key) (reply : Reply) :
    (Client.delete key).result (.ok reply)
      = if reply.grants || reply.saysRemoved then .ok true
        else if reply.saysMissing then .ok false
        else .error (Client.misfit reply) := rfl

/-- A `DELETE` says whether the key was in the map. -/
theorem perform_delete (h : Holds store s m) (key : Key) :
    ((Operation.delete key).perform store.exchange s).1 = .removed (.ok (m key).isSome) := by
  have hreply := store.reply_delete s (fields_delete key)
  rw [h key] at hreply
  show Operation.Result.removed ((Client.delete key).result
    (Reply.decode (store.serve (RequestLine.ofCommand (.delete key)).text s).1)) = _
  cases hm : m key with
  | none =>
    rw [hm, Option.map_none] at hreply
    have hread : Reply.decode "NOT_FOUND\n" = .ok (.status "NOT_FOUND") :=
      decode_word (by decide) (by decide)
    have hgrants : (Reply.status "NOT_FOUND").grants = false :=
      String.startsWith_string_eq_false_iff.mpr (by decide)
    rw [List.mem_singleton.mp hreply, hread, delete_result, hgrants]
    rfl
  | some value =>
    rw [hm, Option.map_some] at hreply
    rcases List.mem_cons.mp hreply with hok | hdeleted
    · have hread : Reply.decode "OK\n" = .ok (.status "OK") :=
        decode_word (by decide) (by decide)
      have hgrants : (Reply.status "OK").grants = true :=
        String.startsWith_string_iff.mpr (by decide)
      rw [hok, hread, delete_result, hgrants]
      rfl
    · have hread : Reply.decode "DELETED\n" = .ok (.status "DELETED") :=
        decode_word (by decide) (by decide)
      have hremoved : (Reply.status "DELETED").saysRemoved = true := by decide
      rw [List.mem_singleton.mp hdeleted, hread, delete_result, hremoved, Bool.or_true]
      rfl

/-- Store and map stay together when both change in the same way under one key. -/
theorem holds_update {s' : σ} {key : Key} {value : Option ByteArray} (h : Holds store s m)
    (hshelf : ∀ k, store.shelf s' k
      = if k = key.text then value.map Base64.encode else store.shelf s k) :
    Holds store s' fun k => if k = key then value else m k := by
  intro k
  show store.shelf s' k.text = (if k = key then value else m k).map Base64.encode
  by_cases hk : k = key
  · simp [hshelf, hk]
  · simp [hshelf, hk, h k]

/-- **One call has the result of the map**, and store and map stay together. -/
theorem perform_holds (h : Holds store s m) (op : Operation) :
    (op.perform store.exchange s).1 = (op.onMap m).1 ∧
      Holds store (op.perform store.exchange s).2 (op.onMap m).2 := by
  cases op with
  | get key =>
    refine ⟨perform_get h key, fun k => ?_⟩
    exact (store.shelf_get s (fields_get key) k.text).trans (h k)
  | set key value =>
    exact ⟨perform_set key value, holds_update h (store.shelf_set s (fields_set key value))⟩
  | delete key =>
    exact ⟨perform_delete h key, holds_update h (store.shelf_delete s (fields_delete key))⟩

/-! ## 5. Calls in a row -/

/-- **Calls in a row have the results of the map**, and store and map stay together. -/
theorem performAll_holds {clients : ι → Exchange σ Answer}
    (hclones : ∀ i, clients i = store.exchange) :
    ∀ {s : σ} {m : Contents} (calls : List (ι × Operation)), Holds store s m →
      (Operation.performAll clients s calls).1 = (Operation.allOnMap m (calls.map Prod.snd)).1 ∧
        Holds store (Operation.performAll clients s calls).2
          (Operation.allOnMap m (calls.map Prod.snd)).2
  | _, _, [], h => ⟨rfl, h⟩
  | s, m, (i, op) :: rest, h => by
    obtain ⟨houtcome, hstep⟩ := perform_holds h op
    obtain ⟨houtcomes, hrest⟩ := performAll_holds hclones rest hstep
    show ((op.perform (clients i) s).1
        :: (Operation.performAll clients (op.perform (clients i) s).2 rest).1
      = (op.onMap m).1 :: (Operation.allOnMap (op.onMap m).2 (rest.map Prod.snd)).1) ∧
      Holds store (Operation.performAll clients (op.perform (clients i) s).2 rest).2
        (Operation.allOnMap (op.onMap m).2 (rest.map Prod.snd)).2
    rw [hclones i, houtcome, houtcomes]
    exact ⟨rfl, hrest⟩

/-- **Through its clients, a store that starts empty is a map from keys to bytes.** Whatever calls
    are made in a row, by whichever clones of one client, which all share its exchange: each `GET`
    gives what is in the map then, each `SET` succeeds, and each `DELETE` says whether the key was
    in the map. In the end the store holds what is in the map. -/
theorem calls_are_a_map (store : ConformingStore σ) {clients : ι → Exchange σ Answer}
    (hclones : ∀ i, clients i = store.exchange) {s : σ} (hempty : ∀ text, store.shelf s text = none)
    (calls : List (ι × Operation)) :
    (Operation.performAll clients s calls).1
        = (Operation.allOnMap Contents.empty (calls.map Prod.snd)).1 ∧
      ∀ key : Key, store.shelf (Operation.performAll clients s calls).2 key.text
        = ((Operation.allOnMap Contents.empty (calls.map Prod.snd)).2 key).map Base64.encode :=
  performAll_holds hclones calls fun key => hempty key.text

/-! ### A store -/

/-- Serves a line from a map of texts; a line that asks for nothing else is an error. -/
def servePlain (line : String) (s : String → Option String) : String × (String → Option String) :=
  match fields line with
  | ["SET", key, payload] => ("OK stored\n", fun k => if k = key then some payload else s k)
  | ["GET", key] =>
    (match s key with
      | some payload => "VALUE " ++ payload ++ "\n"
      | none => "NOT_FOUND\n", s)
  | ["DELETE", key] =>
    (match s key with
      | some _ => "DELETED\n"
      | none => "NOT_FOUND\n", fun k => if k = key then none else s k)
  | _ => ("ERROR\n", s)

/-- A map of texts as a store. -/
def plain : ConformingStore (String → Option String) where
  shelf := id
  serve := servePlain
  reply_set s h := by
    rw [servePlain, h]
    show "OK stored\n".startsWith "OK" = true
    exact String.startsWith_string_iff.mpr (by decide)
  shelf_set s h k := by
    rw [servePlain, h]
    rfl
  reply_get s h := by
    rw [servePlain, h]
    rfl
  shelf_get s h k := by
    rw [servePlain, h]
    rfl
  reply_delete {_ key} s h := by
    rw [servePlain, h]
    show (match s key with | some _ => "DELETED\n" | none => "NOT_FOUND\n")
      ∈ match s key with | some _ => ["OK\n", "DELETED\n"] | none => ["NOT_FOUND\n"]
    cases s key with
    | none => exact List.mem_singleton_self _
    | some payload => exact List.mem_cons_of_mem _ List.mem_cons_self
  shelf_delete s h k := by
    rw [servePlain, h]
    rfl

/-- A key of one letter. -/
def letter : Key := ⟨"k", RequestLine.isValid_k⟩

/-- Two clones take turns with an empty value. -/
theorem calls_are_a_map_by_two_clones :
    (Operation.performAll (fun _ : Bool => plain.exchange) (fun _ => none)
        [(true, .get letter), (true, .set letter .empty), (false, .get letter),
          (false, .delete letter), (true, .delete letter)]).1
      = [.read (.ok none), .stored (.ok ()), .read (.ok (some .empty)), .removed (.ok true),
          .removed (.ok false)] :=
  (calls_are_a_map plain (fun _ => rfl) (fun _ => rfl) _).1.trans rfl

end ConformingStore

end StoreLink
