import StoreLink.Proofs.Base64.Sextets
import StoreLink.Text.Blank

/-!
# Base64 is canonical

Any bytes have exactly one text in base64, and only this text is read as them.

* `written` is the text of a list of bytes, group by group; `toUTF8_encode` says that this is what
  the writing gives;
* `decodeGroups_eq_ok_iff`, `decodeLast_eq_ok_iff`: what the two parts of the reading take;
* **`decode_eq_ok_iff`**: a text is read as some bytes exactly when it is their text.
-/

namespace StoreLink.Base64

/-! ## 1. The text of a list of bytes -/

/-- The symbols of a list of bytes, as bytes of the text. -/
def written : List UInt8 → List UInt8
  | [] => []
  | [a] => [symbol (first a), symbol (second a 0), pad, pad]
  | [a, b] => [symbol (first a), symbol (second a b), symbol (third b 0), pad]
  | a :: b :: c :: rest =>
    symbol (first a) :: symbol (second a b) :: symbol (third b c) :: symbol (fourth c)
      :: written rest

/-- Three more bytes are four more symbols. -/
@[simp] theorem length_written : ∀ bytes : List UInt8,
    (written bytes).length = 4 * ((bytes.length + 2) / 3)
  | [] => rfl
  | [_] => by simp only [written, List.length_cons, List.length_nil]
  | [_, _] => by simp only [written, List.length_cons, List.length_nil]
  | _ :: _ :: _ :: rest => by
    simp only [written, List.length_cons, length_written rest]
    omega

theorem written_append : ∀ (front back : List UInt8), 3 ∣ front.length →
    written (front ++ back) = written front ++ written back
  | [], back, _ => rfl
  | [_], _, h => by
    simp only [List.length_cons, List.length_nil] at h
    omega
  | [_, _], _, h => by
    simp only [List.length_cons, List.length_nil] at h
    omega
  | a :: b :: c :: rest, back, h => by
    simp only [List.length_cons] at h
    simp only [List.cons_append, written, written_append rest back (by omega)]

/-- What stands in a text is a symbol or the sign that fills it up. -/
theorem mem_written : ∀ {bytes : List UInt8} {x : UInt8}, x ∈ written bytes →
    x = pad ∨ ∃ v, v < 64 ∧ x = symbol v
  | [], _, h => absurd h List.not_mem_nil
  | [a], x, h => by
    simp only [written, List.mem_cons, List.not_mem_nil, or_false] at h
    rcases h with h | h | h | h
    · exact .inr ⟨_, first_lt a, h⟩
    · exact .inr ⟨_, second_lt a 0, h⟩
    · exact .inl h
    · exact .inl h
  | [a, b], x, h => by
    simp only [written, List.mem_cons, List.not_mem_nil, or_false] at h
    rcases h with h | h | h | h
    · exact .inr ⟨_, first_lt a, h⟩
    · exact .inr ⟨_, second_lt a b, h⟩
    · exact .inr ⟨_, third_lt b 0, h⟩
    · exact .inl h
  | a :: b :: c :: rest, x, h => by
    simp only [written, List.mem_cons] at h
    rcases h with h | h | h | h | h
    · exact .inr ⟨_, first_lt a, h⟩
    · exact .inr ⟨_, second_lt a b, h⟩
    · exact .inr ⟨_, third_lt b c, h⟩
    · exact .inr ⟨_, fourth_lt c, h⟩
    · exact mem_written h

/-! ## 2. Writing -/

@[simp] theorem toList_pushSymbol (front : String) (v : UInt8) :
    (pushSymbol front v).toList = front.toList ++ [Char.ofUInt8 (symbol v)] :=
  String.toList_push _

@[simp] theorem toList_pushPad (front : String) :
    (pushPad front).toList = front.toList ++ [Char.ofUInt8 pad] :=
  String.toList_push _

theorem toList_encodeFrom (bytes : ByteArray) (i : Nat) (front : String) :
    (encodeFrom bytes i front).toList
      = front.toList ++ (written (bytes.data.toList.drop i)).map Char.ofUInt8 := by
  fun_induction encodeFrom bytes i front with
  | case1 i front h a b c ih =>
    rw [ih, Bytes.drop_toList (show i < bytes.size by omega),
      Bytes.drop_toList (show i + 1 < bytes.size by omega), Bytes.drop_toList h]
    simp [written, a, b, c]
  | case2 i front h h' a b =>
    have hend : bytes.data.toList.drop (i + 1 + 1) = [] := by
      rw [List.drop_eq_nil_iff, Bytes.length_toList]
      omega
    rw [Bytes.drop_toList (show i < bytes.size by omega), Bytes.drop_toList h', hend]
    simp [written, a, b]
  | case3 i front h h' h'' a =>
    have hend : bytes.data.toList.drop (i + 1) = [] := by
      rw [List.drop_eq_nil_iff, Bytes.length_toList]
      omega
    rw [Bytes.drop_toList h'', hend]
    simp [written, a]
  | case4 i front h h' h'' =>
    have hend : bytes.data.toList.drop i = [] := by
      rw [List.drop_eq_nil_iff, Bytes.length_toList]
      omega
    simp [hend, written]

/-- **The writing gives the symbols of the bytes.** -/
theorem toList_encode (bytes : ByteArray) :
    (encode bytes).toList = (written bytes.data.toList).map Char.ofUInt8 := by
  rw [encode, toList_encodeFrom, List.drop_zero]
  rfl

/-! ### The text as bytes -/

theorem symbol_lt : ∀ v : UInt8, v < 64 → symbol v < 128 :=
  Bytes.forall_of_fin (by decide +kernel)

theorem written_lt {bytes : List UInt8} {x : UInt8} (h : x ∈ written bytes) : x < 128 := by
  rcases mem_written h with rfl | ⟨v, hv, rfl⟩
  · decide
  · exact symbol_lt v hv

/-- **The writing gives the symbols of the bytes, each as one byte.** -/
theorem toUTF8_encode (bytes : ByteArray) :
    (encode bytes).toUTF8 = (written bytes.data.toList).toByteArray :=
  Bytes.toUTF8_eq_of_ascii (toList_encode bytes) fun _ => written_lt

/-- **Base64 makes four bytes of three**, and four of what is left. -/
@[simp] theorem utf8ByteSize_encode (bytes : ByteArray) :
    (encode bytes).utf8ByteSize = 4 * ((bytes.size + 2) / 3) := by
  have hbytes : (encode bytes).utf8ByteSize = (written bytes.data.toList).toByteArray.size :=
    congrArg ByteArray.size (toUTF8_encode bytes)
  rw [hbytes, List.size_toByteArray, length_written, Bytes.length_toList]

/-! ### The characters of the text -/

theorem plain_symbol : ∀ v : UInt8, v < 64 →
    Text.isBlank (Char.ofUInt8 (symbol v)) = false
      ∧ Text.isControl (Char.ofUInt8 (symbol v)) = false :=
  Bytes.forall_of_fin (by decide +kernel)

/-- **Bytes are written without blanks and control characters.** -/
theorem plain_of_mem_encode {bytes : ByteArray} {c : Char} (h : c ∈ (encode bytes).toList) :
    Text.isBlank c = false ∧ Text.isControl c = false := by
  rw [toList_encode, List.mem_map] at h
  obtain ⟨x, hx, rfl⟩ := h
  rcases mem_written hx with rfl | ⟨v, hv, rfl⟩
  · decide
  · exact plain_symbol v hv

/-! ## 3. Reading full groups -/

theorem value?_eq_some_iff {x v : UInt8} : value? x = some v ↔ v < 64 ∧ symbol v = x := by
  constructor
  · exact symbol_of_value? x v
  · intro h
    obtain ⟨hv, rfl⟩ := h
    exact value?_symbol v hv

@[simp] theorem value?_first (a : UInt8) : value? (symbol (first a)) = some (first a) :=
  value?_symbol _ (first_lt a)

@[simp] theorem value?_second (a b : UInt8) : value? (symbol (second a b)) = some (second a b) :=
  value?_symbol _ (second_lt a b)

@[simp] theorem value?_third (b c : UInt8) : value? (symbol (third b c)) = some (third b c) :=
  value?_symbol _ (third_lt b c)

@[simp] theorem value?_fourth (c : UInt8) : value? (symbol (fourth c)) = some (fourth c) :=
  value?_symbol _ (fourth_lt c)

/-- The next four bytes of a text, taken off its front. -/
theorem extract_group {text : ByteArray} {i stop : Nat} (hi : i + 4 ≤ stop)
    (hstop : stop ≤ text.size) :
    (text.extract i stop).data.toList
      = text[i] :: text[i + 1] :: text[i + 2] :: text[i + 3]
          :: (text.extract (i + 4) stop).data.toList := by
  rw [ByteArray.extract_eq_extract_append_extract (i + 4) (by omega) hi,
    ByteArray.extract_add_four (by omega), ByteArray.toList_data_append, List.data_toByteArray]
  rfl

@[simp] theorem push_append (read : ByteArray) (x : UInt8) (rest : List UInt8) :
    read.push x ++ rest.toByteArray = read ++ (x :: rest).toByteArray := by
  rw [← ByteArray.append_toByteArray_singleton, ByteArray.append_assoc,
    ← List.toByteArray_append]
  rfl

theorem exists_three {bytes : List UInt8} (h : 3 ≤ bytes.length) :
    ∃ x y z rest, bytes = x :: y :: z :: rest := by
  obtain ⟨x, bytes, rfl⟩ := List.exists_cons_of_length_pos (l := bytes) (by omega)
  rw [List.length_cons] at h
  obtain ⟨y, bytes, rfl⟩ := List.exists_cons_of_length_pos (l := bytes) (by omega)
  rw [List.length_cons] at h
  obtain ⟨z, rest, rfl⟩ := List.exists_cons_of_length_pos (l := bytes) (by omega)
  exact ⟨x, y, z, rest, rfl⟩

/-- **A full group is read exactly when it is the text of three bytes**, and then these are kept. -/
theorem decodeGroups_step {text : ByteArray} {stop i : Nat} {read result : ByteArray}
    (hi : i + 4 ≤ stop) (hstop : stop ≤ text.size) :
    decodeGroups text stop i read = .ok result ↔
      ∃ x y z, written [x, y, z] = [text[i], text[i + 1], text[i + 2], text[i + 3]] ∧
        decodeGroups text stop (i + 4) (((read.push x).push y).push z) = .ok result := by
  rw [decodeGroups, dif_pos ⟨hi, hstop⟩]
  constructor
  · intro h
    cases ha : value? text[i] with
    | none =>
      simp only [ha] at h
      cases h
    | some a =>
      cases hb : value? text[i + 1] with
      | none =>
        simp only [ha, hb] at h
        cases h
      | some b =>
        cases hc : value? text[i + 2] with
        | none =>
          simp only [ha, hb, hc] at h
          cases h
        | some c =>
          cases hd : value? text[i + 3] with
          | none =>
            simp only [ha, hb, hc, hd] at h
            cases h
          | some d =>
            simp only [ha, hb, hc, hd] at h
            obtain ⟨ha, hat⟩ := value?_eq_some_iff.mp ha
            obtain ⟨hb, hbt⟩ := value?_eq_some_iff.mp hb
            obtain ⟨hc, hct⟩ := value?_eq_some_iff.mp hc
            obtain ⟨hd, hdt⟩ := value?_eq_some_iff.mp hd
            refine ⟨firstByte a b, secondByte b c, thirdByte c d, ?_, h⟩
            simp only [written, first_firstByte ha hb, second_firstByte hb hc,
              third_secondByte hc hd, fourth_thirdByte hd, hat, hbt, hct, hdt]
  · intro h
    obtain ⟨x, y, z, hgroup, h⟩ := h
    simp only [written, List.cons.injEq, and_true] at hgroup
    obtain ⟨hat, hbt, hct, hdt⟩ := hgroup
    rw [← hat, ← hbt, ← hct, ← hdt]
    simpa using h

/-- **Full groups are read as some bytes exactly when they are the text of these.** -/
theorem decodeGroups_eq_ok_iff {text : ByteArray} {stop : Nat} (hstop : stop ≤ text.size) (n : Nat)
    {i : Nat} {read result : ByteArray} (hn : i + 4 * n = stop) :
    decodeGroups text stop i read = .ok result ↔
      ∃ bytes : List UInt8, bytes.length = 3 * n ∧
        written bytes = (text.extract i stop).data.toList ∧
        result = read ++ bytes.toByteArray := by
  induction n generalizing i read with
  | zero =>
    have hi : i = stop := by omega
    subst hi
    rw [decodeGroups, dif_neg (by omega)]
    constructor
    · intro h
      cases h
      exact ⟨[], rfl, by simp [written], by simp⟩
    · intro h
      obtain ⟨bytes, hlength, -, rfl⟩ := h
      have hnil : bytes = [] := List.length_eq_zero_iff.mp (by omega)
      subst hnil
      simp
  | succ n ih =>
    have hi : i + 4 ≤ stop := by omega
    have hthree (x y z : UInt8) (rest : List UInt8) :
        written (x :: y :: z :: rest) = written [x, y, z] ++ written rest :=
      written_append [x, y, z] rest ⟨1, rfl⟩
    rw [decodeGroups_step hi hstop, extract_group hi hstop]
    constructor
    · intro h
      obtain ⟨x, y, z, hgroup, h⟩ := h
      obtain ⟨rest, hlength, hrest, rfl⟩ := (ih (by omega)).mp h
      refine ⟨x :: y :: z :: rest, ?_, ?_, ?_⟩
      · simp only [List.length_cons, hlength]
        omega
      · rw [hthree, hgroup, hrest]
        rfl
      · simp
    · intro h
      obtain ⟨bytes, hlength, htext, rfl⟩ := h
      have hlong : 3 ≤ bytes.length := by omega
      obtain ⟨x, y, z, rest, rfl⟩ := exists_three hlong
      have hparts : written [x, y, z] ++ written rest
          = [text[i], text[i + 1], text[i + 2], text[i + 3]]
            ++ (text.extract (i + 4) stop).data.toList := by
        rw [← hthree, htext]
        rfl
      obtain ⟨hgroup, hrest⟩ := List.append_inj hparts rfl
      refine ⟨x, y, z, hgroup, (ih (by omega)).mpr ⟨rest, ?_, hrest, ?_⟩⟩
      · simp only [List.length_cons] at hlength
        omega
      · simp

/-! ## 4. Reading the last group -/

theorem symbol_ne_pad : ∀ v : UInt8, v < 64 → symbol v ≠ pad :=
  Bytes.forall_of_fin (by decide +kernel)

/-- A last group that can be split is some symbols with some `=` after them. -/
theorem splitLast_ok {start : Nat} : ∀ {bytes : List UInt8} {place : Nat} {group last : LastGroup},
    splitLast start place group bytes = .ok last →
      ∃ values k, (∀ v ∈ values, v < 64) ∧ (0 < group.pads → values = []) ∧
        bytes = values.map symbol ++ List.replicate k pad ∧
        last.values = group.values ++ values ∧ last.pads = group.pads + k
  | [], place, group, last, h => by
    cases h
    exact ⟨[], 0, fun v hv => absurd hv List.not_mem_nil, fun _ => rfl, rfl,
      (List.append_nil _).symm, rfl⟩
  | x :: rest, place, group, last, h => by
    rw [splitLast] at h
    by_cases hx : x = pad
    · rw [if_pos hx] at h
      split at h
      · cases h
      · obtain ⟨values, k, -, hnone, hbytes, hvalues, hpads⟩ := splitLast_ok h
        have hnil : values = [] := hnone (Nat.succ_pos _)
        subst hnil
        refine ⟨[], k + 1, fun v hv => absurd hv List.not_mem_nil, fun _ => rfl, ?_, hvalues, ?_⟩
        · rw [hbytes, hx]
          rfl
        · rw [hpads]
          show group.pads + 1 + k = group.pads + (k + 1)
          omega
    · rw [if_neg hx] at h
      split at h
      · cases h
      · rename_i hpads
        split at h
        · cases h
        · rename_i v hv
          obtain ⟨values, k, hlt, -, hbytes, hvalues, hk⟩ := splitLast_ok h
          obtain ⟨hv, hvx⟩ := value?_eq_some_iff.mp hv
          refine ⟨v :: values, k, ?_, fun hp => absurd hp hpads, ?_, ?_, hk⟩
          · intro w hw
            rcases List.mem_cons.mp hw with rfl | hw
            · exact hv
            · exact hlt w hw
          · rw [hbytes, ← hvx]
            rfl
          · rw [hvalues]
            show group.values ++ [v] ++ values = group.values ++ v :: values
            rw [List.append_assoc]
            rfl

/-- `=` in the third and fourth place are counted. -/
theorem splitLast_pads (start : Nat) : ∀ (k place : Nat) (group : LastGroup), 2 ≤ place →
    splitLast start place group (List.replicate k pad)
      = .ok { group with pads := group.pads + k }
  | 0, _, _, _ => rfl
  | k + 1, place, group, hplace => by
    rw [List.replicate_succ, splitLast, if_pos rfl, if_neg (by omega),
      splitLast_pads start k (place + 1) _ (by omega)]
    simp only [Except.ok.injEq, LastGroup.mk.injEq, true_and]
    omega

/-- Symbols before any `=` are taken as they are. -/
theorem splitLast_symbol {start place : Nat} {group : LastGroup} {v : UInt8} {rest : List UInt8}
    (hv : v < 64) (hpads : group.pads = 0) :
    splitLast start place group (symbol v :: rest)
      = splitLast start (place + 1)
          { group with values := group.values ++ [v], lastSymbol := symbol v } rest := by
  rw [splitLast, if_neg (symbol_ne_pad v hv), if_neg (by omega)]
  simp only [value?_symbol v hv]

/-- **A full last group whose bits all belong to a byte is the text of its bytes.** -/
theorem written_lastBytes {values : List UInt8} {k : Nat} (hlt : ∀ v ∈ values, v < 64)
    (hfour : values.length + k = 4) (htwo : 2 ≤ values.length)
    (hover : (lastBytes values).2 = false) :
    written (lastBytes values).1 = values.map symbol ++ List.replicate k pad := by
  match values with
  | [] | [_] =>
    simp only [List.length_cons, List.length_nil] at htwo
    omega
  | [a, b] =>
    have hk : k = 2 := by
      simp only [List.length_cons, List.length_nil] at hfour
      omega
    have hb : b <<< 4 = 0 := by simpa [lastBytes] using hover
    simp only [List.mem_cons, List.not_mem_nil, or_false, forall_eq_or_imp, forall_eq] at hlt
    subst hk
    simp only [lastBytes, written, first_firstByte hlt.1 hlt.2, second_last hlt.2 hb]
    rfl
  | [a, b, c] =>
    have hk : k = 1 := by
      simp only [List.length_cons, List.length_nil] at hfour
      omega
    have hc : c <<< 6 = 0 := by simpa [lastBytes] using hover
    simp only [List.mem_cons, List.not_mem_nil, or_false, forall_eq_or_imp, forall_eq] at hlt
    subst hk
    simp only [lastBytes, written, first_firstByte hlt.1 hlt.2.1,
      second_firstByte hlt.2.1 hlt.2.2, third_last hlt.2.2 hc]
    rfl
  | [a, b, c, d] =>
    have hk : k = 0 := by
      simp only [List.length_cons, List.length_nil] at hfour
      omega
    simp only [List.mem_cons, List.not_mem_nil, or_false, forall_eq_or_imp, forall_eq] at hlt
    subst hk
    simp only [lastBytes, written, first_firstByte hlt.1 hlt.2.1,
      second_firstByte hlt.2.1 hlt.2.2.1, third_secondByte hlt.2.2.1 hlt.2.2.2,
      fourth_thirdByte hlt.2.2.2]
    rfl
  | _ :: _ :: _ :: _ :: _ :: _ =>
    simp only [List.length_cons] at hfour
    omega

theorem length_lastBytes : ∀ values : List UInt8, (lastBytes values).1.length ≤ 3
  | [] => Nat.zero_le _
  | [_] => Nat.zero_le _
  | [_, _] => Nat.le_add_left 1 2
  | [_, _, _] => Nat.le_add_left 2 1
  | [_, _, _, _] => Nat.le_refl _
  | _ :: _ :: _ :: _ :: _ :: _ => Nat.zero_le _

theorem foldl_push : ∀ (bytes : List UInt8) (read : ByteArray),
    bytes.foldl ByteArray.push read = read ++ bytes.toByteArray
  | [], read => by simp
  | x :: rest, read => by rw [List.foldl_cons, foldl_push rest, push_append]

/-- What is done with a last group that can be split. -/
theorem decodeLast_of_split {start : Nat} {text : List UInt8} {last : LastGroup}
    (h : splitLast start 0 {} text = .ok last) (read : ByteArray) :
    decodeLast start text read
      = if text ≠ [] ∧ last.values.length < 2 then
          .error (.invalidLength (start + last.values.length))
        else if (last.values.length + last.pads) % 4 ≠ 0 then .error .invalidPadding
        else if (lastBytes last.values).2 then
          .error (.invalidLastSymbol last.lastSymbol (start + last.values.length - 1))
        else .ok (read ++ (lastBytes last.values).1.toByteArray) := by
  rw [decodeLast, h, ← foldl_push]
  rfl

/-- The text of one group is read as its bytes. -/
theorem decodeLast_written (start : Nat) (read : ByteArray) : ∀ bytes : List UInt8,
    bytes.length ≤ 3 → decodeLast start (written bytes) read = .ok (read ++ bytes.toByteArray)
  | [], _ => by
    rw [written, decodeLast_of_split rfl]
    rfl
  | [a], _ => by
    have hsplit : splitLast start 0 {} (written [a])
        = .ok ⟨[first a, second a 0], symbol (second a 0), 2⟩ := by
      rw [written, splitLast_symbol (first_lt a) rfl, splitLast_symbol (second_lt a 0) rfl]
      exact splitLast_pads start 2 2 _ (Nat.le_refl 2)
    rw [decodeLast_of_split hsplit]
    simp [written, lastBytes]
  | [a, b], _ => by
    have hsplit : splitLast start 0 {} (written [a, b])
        = .ok ⟨[first a, second a b, third b 0], symbol (third b 0), 1⟩ := by
      rw [written, splitLast_symbol (first_lt a) rfl, splitLast_symbol (second_lt a b) rfl,
        splitLast_symbol (third_lt b 0) rfl]
      exact splitLast_pads start 1 3 _ (by decide)
    rw [decodeLast_of_split hsplit]
    simp [written, lastBytes]
  | [a, b, c], _ => by
    have hsplit : splitLast start 0 {} (written [a, b, c])
        = .ok ⟨[first a, second a b, third b c, fourth c], symbol (fourth c), 0⟩ := by
      rw [written, splitLast_symbol (first_lt a) rfl, splitLast_symbol (second_lt a b) rfl,
        splitLast_symbol (third_lt b c) rfl, splitLast_symbol (fourth_lt c) rfl]
      rfl
    rw [decodeLast_of_split hsplit]
    simp [written, lastBytes]
  | _ :: _ :: _ :: _ :: _, h => by
    simp only [List.length_cons] at h
    omega

/-- **A last group is read as some bytes exactly when it is the text of these**, at most three. -/
theorem decodeLast_eq_ok_iff {start : Nat} {text : List UInt8} {read result : ByteArray}
    (hlength : text.length ≤ 4) :
    decodeLast start text read = .ok result ↔
      ∃ bytes : List UInt8, bytes.length ≤ 3 ∧ written bytes = text ∧
        result = read ++ bytes.toByteArray := by
  constructor
  · intro h
    cases hsplit : splitLast start 0 {} text with
    | error fault =>
      rw [decodeLast, hsplit] at h
      cases h
    | ok last =>
      obtain ⟨values, k, hlt, -, htext, hvalues, hpads⟩ := splitLast_ok hsplit
      rw [List.nil_append] at hvalues
      rw [Nat.zero_add] at hpads
      rw [decodeLast_of_split hsplit, hvalues, hpads] at h
      split at h
      · cases h
      · rename_i htwo
        split at h
        · cases h
        · rename_i hfour
          split at h
          · cases h
          · rename_i hover
            cases h
            have hsum : text.length = values.length + k := by simp [htext]
            refine ⟨(lastBytes values).1, length_lastBytes values, ?_, rfl⟩
            by_cases hnil : text = []
            · have hvalues : values = [] := List.length_eq_zero_iff.mp (by
                rw [hnil, List.length_nil] at hsum
                omega)
              rw [hvalues, hnil]
              rfl
            · have hpos : 0 < text.length := List.length_pos_iff.mpr hnil
              rw [htext]
              exact written_lastBytes hlt (by omega)
                (Nat.le_of_not_lt fun hlt => htwo ⟨hnil, hlt⟩) (Bool.not_eq_true _ ▸ hover)
  · intro h
    obtain ⟨bytes, hle, rfl, rfl⟩ := h
    exact decodeLast_written start read bytes hle

/-! ## 5. The whole text -/

theorem lastStart_mod (size : Nat) : 4 * (lastStart size / 4) = lastStart size := by
  unfold lastStart
  split <;> omega

theorem lastStart_le (size : Nat) : lastStart size ≤ size := by
  unfold lastStart
  split <;> omega

theorem sub_lastStart_le (size : Nat) : size - lastStart size ≤ 4 := by
  unfold lastStart
  split <;> omega

/-- A text whose groups are full has no stray byte. -/
theorem strayByte?_eq_none {text : ByteArray} (h : text.size % 4 = 0) :
    strayByte? text = none := by
  rw [strayByte?, if_neg (by omega)]

/-- The full groups before the last one, and then the last one. -/
theorem decodeBytes_eq_bind {text : ByteArray} (hstray : strayByte? text = none) :
    decodeBytes text
      = (decodeGroups text (lastStart text.size) 0 .empty).bind
          (decodeLast (lastStart text.size)
            (text.extract (lastStart text.size) text.size).data.toList) := by
  rw [decodeBytes, hstray]
  rfl

/-- What was written is read again. -/
theorem decodeBytes_written (bytes : List UInt8) :
    decodeBytes (written bytes).toByteArray = .ok bytes.toByteArray := by
  -- all groups but the last one, which holds one to three bytes unless there are none
  obtain ⟨n, hn⟩ : ∃ n, n = (bytes.length + 2) / 3 - 1 := ⟨_, rfl⟩
  have hsize : (written bytes).toByteArray.size = 4 * ((bytes.length + 2) / 3) := by simp
  have hstart : lastStart (written bytes).toByteArray.size = 4 * n := by
    rw [hsize, lastStart]
    split <;> omega
  have htake : (bytes.take (3 * n)).length = 3 * n := by
    rw [List.length_take]
    omega
  have hdrop : (bytes.drop (3 * n)).length ≤ 3 := by
    rw [List.length_drop]
    omega
  have hfront : (written (bytes.take (3 * n))).toByteArray.size = 4 * n := by
    rw [List.size_toByteArray, length_written, htake]
    omega
  have hparts : (written bytes).toByteArray
      = (written (bytes.take (3 * n))).toByteArray
        ++ (written (bytes.drop (3 * n))).toByteArray := by
    rw [← List.toByteArray_append, ← written_append _ _ ⟨n, htake⟩, List.take_append_drop]
  have hgroups : ((written bytes).toByteArray.extract 0 (4 * n)).data.toList
      = written (bytes.take (3 * n)) := by
    rw [hparts, ByteArray.extract_append_eq_left hfront.symm, List.data_toByteArray]
  have hlast : ((written bytes).toByteArray.extract (4 * n)
      (written bytes).toByteArray.size).data.toList = written (bytes.drop (3 * n)) := by
    rw [hparts,
      ByteArray.extract_append_eq_right hfront.symm (by rw [ByteArray.size_append, hfront]),
      List.data_toByteArray]
  have hread : decodeGroups (written bytes).toByteArray (lastStart (written bytes).toByteArray.size)
      0 .empty = .ok (bytes.take (3 * n)).toByteArray := by
    rw [decodeGroups_eq_ok_iff (lastStart_le _) n (by omega), hstart]
    exact ⟨_, htake, hgroups.symm, ByteArray.empty_append.symm⟩
  rw [decodeBytes_eq_bind (strayByte?_eq_none (by omega)), hread, Except.bind, hstart, hlast,
    decodeLast_eq_ok_iff (by simp; omega)]
  refine ⟨_, hdrop, rfl, ?_⟩
  rw [← List.toByteArray_append, List.take_append_drop]

/-- **A text is read as some bytes exactly when its bytes are the symbols of these.** -/
theorem decodeBytes_eq_ok_iff {text result : ByteArray} :
    decodeBytes text = .ok result ↔ (written result.data.toList).toByteArray = text := by
  have hcount (size : Nat) : 0 + 4 * (lastStart size / 4) = lastStart size := by
    rw [Nat.zero_add, lastStart_mod]
  constructor
  · intro h
    cases hstray : strayByte? text with
    | some fault =>
      rw [decodeBytes, hstray] at h
      cases h
    | none =>
      rw [decodeBytes_eq_bind hstray] at h
      cases hgroups : decodeGroups text (lastStart text.size) 0 .empty with
      | error fault =>
        rw [hgroups] at h
        cases h
      | ok read =>
        rw [hgroups, Except.bind] at h
        have hlength : (text.extract (lastStart text.size) text.size).data.toList.length ≤ 4 := by
          rw [Bytes.length_toList, ByteArray.size_extract, Nat.min_self]
          exact sub_lastStart_le text.size
        rw [decodeGroups_eq_ok_iff (lastStart_le _) _ (hcount text.size)] at hgroups
        obtain ⟨front, hfull, hfront, rfl⟩ := hgroups
        obtain ⟨back, -, hback, rfl⟩ := (decodeLast_eq_ok_iff hlength).mp h
        have hlist : (ByteArray.empty ++ front.toByteArray ++ back.toByteArray).data.toList
            = front ++ back := by
          simp
        rw [hlist, written_append front back ⟨_, hfull⟩, hfront, hback, List.toByteArray_append,
          Bytes.toByteArray_toList, Bytes.toByteArray_toList,
          ← ByteArray.extract_eq_extract_append_extract _ (Nat.zero_le _) (lastStart_le _),
          ByteArray.extract_zero_size]
  · rintro rfl
    rw [decodeBytes_written, Bytes.toByteArray_toList]

/-- **A text is read as some bytes exactly when it is what is written for them.** -/
theorem decode_eq_ok_iff {text : String} {bytes : ByteArray} :
    decode text = .ok bytes ↔ text = encode bytes := by
  rw [decode, decodeBytes_eq_ok_iff, ← toUTF8_encode]
  simp [eq_comm]

/-- Different bytes have different texts. -/
theorem encode_inj {a b : ByteArray} : encode a = encode b ↔ a = b := by
  constructor
  · intro h
    have hread : decode (encode a) = .ok a := decode_eq_ok_iff.mpr rfl
    rw [decode_eq_ok_iff.mpr h] at hread
    cases hread
    rfl
  · intro h
    rw [h]

/-- Only no bytes have the empty text. -/
@[simp] theorem encode_eq_empty_iff {bytes : ByteArray} : encode bytes = "" ↔ bytes = .empty := by
  have hempty : encode .empty = "" := by
    rw [← String.toList_inj, toList_encode]
    rfl
  rw [← hempty, encode_inj]

end StoreLink.Base64
