import Sqld.Config.Convert

/-!
# `from_slice` on every JSON text

`Sqld.Config.RoundTrip` reads back the one text this version writes.  This module reads every
JSON text, with any whitespace, fields in any order, unknown keys with values of any shape, and
the array form: `fromSlice_write` says `serde_json::from_slice::<DatabaseConfig>` computes
`JsonSyntax.config` on its UTF-8 bytes.  A text that is not of this grammar (a string in
another escape form, a trailing comma, a truncated text) is not covered here.

* `ReadsAs` says a deserializer reads a value as its field's type, or fails with the error
  `peek_invalid_type` gives for it (`JsonSyntax.invalidTypeError`: `invalid_type`, or
  `number_out_of_range` for a number too large for `f64`), wherever the value stands;
  `deserializeBool` and `deserializeOptionString` do (`readsAs_deserializeBool`,
  `readsAs_deserializeOptionString`).
* `visitEntry_member` is one entry of an object; `visitMapLoop_members` is the visitor's loop
  over the rest of an object, by recursion on the members.
* The array form reads at most three elements (`visitSeq`), and `end_seq` then wants the
  closing bracket.
-/

namespace Sqld
namespace Config

/-! ## Typed values -/

/-- A deserializer that reads a value as `asType` reads it, and fails as `peek_invalid_type`
does on a value of another type, whatever whitespace is before the value and whatever that
cannot continue a number follows it. -/
def ReadsAs {α : Type} (read : List Nat → Except JsonError (α × List Nat))
    (asType : JsonSyntax .value → Option α) : Prop :=
  ∀ (pre : List Space) (v : JsonSyntax .value) (rest : List Nat), Delimited rest →
    read (octets (blankChars pre) ++ (octets v.write ++ rest)) = (typedValue asType v).map (·, rest)

/-- `peek_invalid_type` at a value, after the whitespace before it. -/
theorem peekInvalidType_blank_write (pre : List Space) (v : JsonSyntax .value) {rest : List Nat}
    (h : Delimited rest) :
    peekInvalidType (parseWhitespace (octets (blankChars pre) ++ (octets v.write ++ rest))) =
      v.invalidTypeError := by
  rw [parseWhitespace_blank, v.parseWhitespace_write, peekInvalidType_write v h]

theorem deserializeBool_of_lead {input r : List Nat} {b : Nat} (hws : parseWhitespace input = b :: r)
    (hb : b ≠ 116 ∧ b ≠ 102) :
    deserializeBool input = .error (peekInvalidType (parseWhitespace input)) := by
  rw [deserializeBool, hws]
  dsimp only
  rw [if_neg hb.1, if_neg hb.2]

theorem deserializeOptionString_of_lead {input r : List Nat} {b : Nat}
    (hws : parseWhitespace input = b :: r) (hb : b ≠ 110 ∧ b ≠ 34) :
    deserializeOptionString input = .error (peekInvalidType (parseWhitespace input)) := by
  rw [deserializeOptionString, hws]
  split
  · next heq => cases heq; exact absurd rfl hb.1
  · rw [deserializeString, parseWhitespace_cons_of_not_ws ?ws]
    · dsimp only
      rw [if_neg hb.2]
      rfl
    · have := congrArg parseWhitespace hws
      rw [parseWhitespace_parseWhitespace, hws] at this
      intro hwsb
      rw [parseWhitespace_cons_of_ws hwsb] at this
      have := congrArg List.length this
      have := parseWhitespace_length_le r
      simp only [List.length_cons] at *
      omega

theorem readsAs_deserializeBool : ReadsAs deserializeBool JsonSyntax.asBool := by
  intro pre v rest h
  obtain ⟨r, hr⟩ := v.parseWhitespace_blank_write pre rest
  cases v with
  | bool b => rw [deserializeBool, parseWhitespace_blank]; cases b <;> rfl
  | number n =>
    have := JsonSyntax.lead_number n
    rw [deserializeBool_of_lead hr (by omega), peekInvalidType_blank_write pre _ h]
    rfl
  | _ =>
    rw [deserializeBool_of_lead hr (by simp only [JsonSyntax.lead]; decide),
      peekInvalidType_blank_write pre _ h]
    rfl

theorem readsAs_deserializeOptionString :
    ReadsAs deserializeOptionString JsonSyntax.asOptionString := by
  intro pre v rest h
  obtain ⟨r, hr⟩ := v.parseWhitespace_blank_write pre rest
  cases v with
  | null => rw [deserializeOptionString, parseWhitespace_blank]; rfl
  | string s =>
    rw [deserializeOptionString, parseWhitespace_blank, JsonSyntax.write, octets_jsonString]
    simp only [List.cons_append, List.append_assoc, List.singleton_append]
    show ((parseStr _).map _).map _ = _
    rw [parseStr_jsonString]
    rfl
  | bool b =>
    rw [deserializeOptionString_of_lead hr (by cases b <;> decide), peekInvalidType_blank_write pre _ h]
    rfl
  | number n =>
    have := JsonSyntax.lead_number n
    rw [deserializeOptionString_of_lead hr (by omega), peekInvalidType_blank_write pre _ h]
    rfl
  | _ =>
    rw [deserializeOptionString_of_lead hr (by simp only [JsonSyntax.lead]; decide),
      peekInvalidType_blank_write pre _ h]
    rfl

/-! ## Objects -/

/-- The colon after a key, then the value. -/
theorem nextValue_colon {α : Type} (read : List Nat → Except JsonError (α × List Nat))
    (colon : List Space) (input : List Nat) :
    nextValue read (octets (blankChars colon) ++ 58 :: input) = read input := by
  unfold nextValue parseObjectColon
  rw [parseWhitespace_blank, parseWhitespace_cons_of_not_ws (by decide)]
  rfl

/-- A field's arm of `visit_map` on its value: a field already read is `duplicate_field`, and a
value of another type is the error of `peek_invalid_type`. -/
theorem visitField_value {α : Type} {read : List Nat → Except JsonError (α × List Nat)}
    {asType : JsonSyntax .value → Option α} (hread : ReadsAs read asType) (seen : Bool)
    (name : String) (g : α → Fields) (colon pre : List Space) (value : JsonSyntax .value)
    {rest : List Nat} (h : Delimited rest) :
    (visitField seen name read
        (octets (blankChars colon) ++ 58 :: (octets (blankChars pre) ++ (octets value.write ++ rest)))).map
        (fun x => (g x.1, x.2)) =
      (if seen then .error (.duplicateField name) else (typedValue asType value).map g).map (·, rest) := by
  cases seen
  · rw [visitField, if_neg Bool.false_ne_true, nextValue_colon, hread pre value rest h,
      if_neg Bool.false_ne_true]
    cases typedValue asType value <;> rfl
  · rfl

/-- The value of an entry, after its key, is recorded as `Fields.visit` records it; the value of
an unknown key is skipped. -/
theorem visitEntry_member (fields : Fields) (key : String) (colon pre : List Space)
    (value : JsonSyntax .value) {rest : List Nat} (h : Delimited rest) :
    visitEntry fields (Field.ofKey key.toList)
        (octets (blankChars colon) ++ 58 :: (octets (blankChars pre) ++ (octets value.write ++ rest))) =
      (fields.visit key value).map (·, rest) := by
  unfold visitEntry Fields.visit
  cases Field.ofKey key.toList with
  | blockReads =>
    dsimp only
    exact visitField_value readsAs_deserializeBool _ _ (fun v => { fields with blockReads := some v })
      colon pre value h
  | blockWrites =>
    dsimp only
    exact visitField_value readsAs_deserializeBool _ _ (fun v => { fields with blockWrites := some v })
      colon pre value h
  | blockReason =>
    dsimp only
    exact visitField_value readsAs_deserializeOptionString _ _
      (fun v => { fields with blockReason := some v }) colon pre value h
  | ignore =>
    dsimp only
    rw [nextValue_colon]
    show ((ignoreValue _).map _).map _ = _
    rw [← List.append_assoc, ignoreValue_write pre value h]
    rfl

/-- A comma, then the key of the next entry. -/
theorem nextKey_comma (comma : List Space) (input : List Nat) :
    nextKey false (octets (blankChars comma) ++ 44 :: input) = keyAt (parseWhitespace input) := by
  rw [nextKey, parseWhitespace_blank, parseWhitespace_cons_of_not_ws (by decide)]
  rfl

/-- The first key of an object that is not empty. -/
theorem nextKey_first {input r : List Nat} {b : Nat} (hws : parseWhitespace input = b :: r)
    (hb : b ≠ 125) : nextKey true input = keyAt (parseWhitespace input) := by
  rw [nextKey, hws]
  dsimp only
  rw [if_neg hb, if_neg (by simp), if_pos rfl]

/-- A member's key, read as the derived `Deserialize` tells the keys apart. -/
theorem keyAt_member (pre : List Space) (key : String) (colon pre' : List Space)
    (value : JsonSyntax .value) (rest : List Nat) :
    keyAt (parseWhitespace (octets (JsonSyntax.member pre key colon pre' value).write ++ rest)) =
      .ok (some (Field.ofKey key.toList),
        octets (blankChars colon) ++ 58 :: (octets (blankChars pre') ++ (octets value.write ++ rest))) := by
  rw [octets_write_member, parseWhitespace_blank, parseWhitespace_cons_of_not_ws (by decide)]
  show (parseStr _).map _ = _
  rw [parseStr_jsonString]
  rfl

/-- An entry of an object: its key, then its value, recorded as `Fields.visitMember` records
it. -/
theorem visitMapLoop_member {first : Bool} (fields : Fields) (m : JsonSyntax .member)
    {input rest : List Nat} (hkey : nextKey first input = keyAt (parseWhitespace (octets m.write ++ rest)))
    (h : Delimited rest) :
    visitMapLoop first fields input =
      match fields.visitMember m with
      | .error err => .error err
      | .ok fields => visitMapLoop false fields rest := by
  cases m with
  | member pre key colon pre' value =>
    rw [visitMapLoop_eq, hkey, keyAt_member]
    dsimp only
    rw [visitEntry_member fields key colon pre' value h, Fields.visitMember]
    cases fields.visit key value <;> rfl

/-- The closing brace ends the visitor's loop and is left for `end_map`. -/
theorem visitMapLoop_close (first : Bool) (fields : Fields) (close : List Space) (rest : List Nat) :
    visitMapLoop first fields (octets (blankChars close) ++ 125 :: rest) = .ok (fields, 125 :: rest) := by
  rw [visitMapLoop_eq, nextKey, parseWhitespace_blank, parseWhitespace_cons_of_not_ws (by decide)]
  dsimp only
  rw [if_pos rfl]

/-- The members after an object's first, then its closing brace, which is left for `end_map`. -/
theorem visitMapLoop_members (fields : Fields) :
    ∀ (more : JsonSyntax .members) (close : List Space) (rest : List Nat),
      visitMapLoop false fields (octets (more.write ++ (blankChars close ++ ['\x7d'])) ++ rest) =
        (fields.visitMembers more).map (·, 125 :: rest)
  | .noMembers, close, rest => by
    rw [JsonSyntax.write, List.nil_append, octets_closing close (c := '\x7d') (n := 125) rfl (by decide),
      visitMapLoop_close]
    rfl
  | .members comma m more, close, rest => by
    rw [octets_write_members, visitMapLoop_member fields m (nextKey_comma comma _)
      (delimited_members more close rest), Fields.visitMembers]
    cases fields.visitMember m with
    | error err => rfl
    | ok fields' => exact visitMapLoop_members fields' more close rest

/-! ## Arrays -/

/-- A closing bracket: no element is read, and the bracket is left for `end_seq`. -/
theorem nextElement_close {α : Type} (read : List Nat → Except JsonError (α × List Nat)) (first : Bool)
    (close : List Space) (rest : List Nat) :
    nextElement read first (octets (blankChars close) ++ 93 :: rest) = .ok (none, 93 :: rest) := by
  rw [nextElement, parseWhitespace_blank, parseWhitespace_cons_of_not_ws (by decide)]
  dsimp only
  rw [if_pos rfl]

/-- An element, read as the field's type. -/
theorem nextElement_value {α : Type} {read : List Nat → Except JsonError (α × List Nat)}
    {asType : JsonSyntax .value → Option α} (hread : ReadsAs read asType) (v : JsonSyntax .value)
    {rest : List Nat} (h : Delimited rest) :
    elementAt read (parseWhitespace (octets v.write ++ rest)) = (typedValue asType v).map fun a => (some a, rest) := by
  obtain ⟨tail, htail⟩ := v.octets_write
  rw [v.parseWhitespace_write, htail, List.cons_append, elementAt, if_neg v.lead_ne.2.2.1,
    ← List.cons_append, ← htail, show octets v.write ++ rest = octets (blankChars []) ++ (octets v.write ++ rest) from rfl,
    hread [] v rest h]
  cases typedValue asType v <;> rfl

/-- The first element of an array that is not empty. -/
theorem nextElement_first {α : Type} {read : List Nat → Except JsonError (α × List Nat)}
    {asType : JsonSyntax .value → Option α} (hread : ReadsAs read asType) (pre : List Space)
    (v : JsonSyntax .value) {rest : List Nat} (h : Delimited rest) :
    nextElement read true (octets (blankChars pre) ++ (octets v.write ++ rest)) =
      (typedValue asType v).map fun a => (some a, rest) := by
  obtain ⟨r, hr⟩ := v.parseWhitespace_blank_write pre rest
  rw [nextElement, hr]
  dsimp only
  rw [if_neg v.lead_ne.2.2.1, if_neg (by simp), if_pos rfl, ← hr, parseWhitespace_blank,
    nextElement_value hread v h]

/-- An element after a comma. -/
theorem nextElement_element {α : Type} {read : List Nat → Except JsonError (α × List Nat)}
    {asType : JsonSyntax .value → Option α} (hread : ReadsAs read asType) (comma pre : List Space)
    (v : JsonSyntax .value) (more : JsonSyntax .elements) (tail : List Char) {rest : List Nat}
    (h : Delimited (octets (more.write ++ tail) ++ rest)) :
    nextElement read false (octets ((JsonSyntax.element comma pre v more).write ++ tail) ++ rest) =
      (typedValue asType v).map fun a => (some a, octets (more.write ++ tail) ++ rest) := by
  rw [octets_write_element, nextElement, parseWhitespace_blank, parseWhitespace_cons_of_not_ws (by decide)]
  dsimp only
  rw [if_neg (by decide), if_pos ⟨rfl, rfl⟩, parseWhitespace_blank, nextElement_value hread v h]

theorem endSeq_close (close : List Space) (rest : List Nat) :
    endSeq (octets (blankChars close) ++ 93 :: rest) = .ok rest := by
  rw [endSeq, parseWhitespace_blank, parseWhitespace_cons_of_not_ws (by decide)]
  rfl

/-- A fourth element is left for `end_seq`, which wants the closing bracket. -/
theorem endSeq_element (comma pre : List Space) (v : JsonSyntax .value) (more : JsonSyntax .elements)
    (tail : List Char) (rest : List Nat) :
    endSeq (octets ((JsonSyntax.element comma pre v more).write ++ tail) ++ rest) = .error .trailingCharacters := by
  rw [octets_write_element, endSeq, parseWhitespace_blank, parseWhitespace_cons_of_not_ws (by decide)]
  dsimp only
  rw [if_neg (by decide), if_pos rfl]
  obtain ⟨r, hr⟩ := v.parseWhitespace_blank_write pre (octets (more.write ++ tail) ++ rest)
  rw [hr]
  split
  · next _ heq => exact absurd (List.cons.inj heq).1 v.lead_ne.2.2.1
  · rfl

theorem octets_noElements (close : List Space) (rest : List Nat) :
    octets (JsonSyntax.noElements.write ++ (blankChars close ++ [']'])) ++ rest =
      octets (blankChars close) ++ 93 :: rest :=
  octets_closing close (c := ']') rfl (by decide) rest

theorem nextElement_bracket {α : Type} (read : List Nat → Except JsonError (α × List Nat)) (first : Bool)
    (rest : List Nat) : nextElement read first (93 :: rest) = .ok (none, 93 :: rest) :=
  nextElement_close read first [] rest

theorem endSeq_bracket (rest : List Nat) : endSeq (93 :: rest) = .ok rest := endSeq_close [] rest

/-- An array gives the fields in declaration order, as `seqConfig` reads its elements. -/
theorem deserializeDatabaseConfig_array (pre' pre : List Space) (first : JsonSyntax .value)
    (more : JsonSyntax .elements) (close : List Space) (rest : List Nat) :
    deserializeDatabaseConfig (octets (blankChars pre') ++ (octets (JsonSyntax.array pre first more close).write ++ rest)) =
      (seqConfig (first :: more.values)).map (·, rest) := by
  rw [deserializeDatabaseConfig, parseWhitespace_blank, octets_write_array, parseWhitespace_cons_of_not_ws (by decide)]
  dsimp only
  rw [if_pos rfl, visitSeq, nextElement_first readsAs_deserializeBool pre first
    (delimited_elements more close rest)]
  cases h0 : typedValue JsonSyntax.asBool first with
  | error e => simp [seqConfig, seqField, h0, Except.map]
  | ok a =>
  cases more with
  | noElements =>
    simp only [h0, Except.map, octets_noElements, nextElement_close, nextElement_bracket, endSeq_bracket]
    simp [seqConfig, seqField, JsonSyntax.values, h0]
  | element c1 p1 v1 more =>
    simp only [h0, Except.map, Option.isNone_some, nextElement_element readsAs_deserializeBool,
      delimited_elements]
    cases h1 : typedValue JsonSyntax.asBool v1 with
    | error e => simp [seqConfig, seqField, JsonSyntax.values, h0, h1]
    | ok b =>
    cases more with
    | noElements =>
      simp only [h1, Except.map, Option.isNone_some, Bool.false_and, octets_noElements, nextElement_close, nextElement_bracket, endSeq_bracket]
      simp [seqConfig, seqField, JsonSyntax.values, h0, h1]
    | element c2 p2 v2 more =>
      simp only [h1, Except.map, Option.isNone_some, Bool.false_and,
        nextElement_element readsAs_deserializeOptionString, delimited_elements]
      cases h2 : typedValue JsonSyntax.asOptionString v2 with
      | error e => simp [seqConfig, seqField, JsonSyntax.values, h0, h1, h2]
      | ok c =>
      cases more with
      | noElements =>
        simp only [h2, Except.map, octets_noElements, endSeq_close]
        simp [seqConfig, seqField, JsonSyntax.values, h0, h1, h2]
      | element c3 p3 v3 more =>
        simp only [h2, Except.map, endSeq_element]
        simp [seqConfig, seqField, JsonSyntax.values, h0, h1, h2]

/-! ## The document -/

theorem deserializeDatabaseConfig_of_lead {input r : List Nat} {b : Nat}
    (hws : parseWhitespace input = b :: r) (hb : b ≠ 91 ∧ b ≠ 123) :
    deserializeDatabaseConfig input = .error (peekInvalidType (parseWhitespace input)) := by
  rw [deserializeDatabaseConfig, hws]
  dsimp only
  rw [if_neg hb.1, if_neg hb.2]

/-- `deserialize_struct` computes `JsonSyntax.config` on every value, whatever whitespace is
before it and whatever that cannot continue a number follows it. -/
theorem deserializeDatabaseConfig_write (pre : List Space) (v : JsonSyntax .value) {rest : List Nat}
    (h : Delimited rest) :
    deserializeDatabaseConfig (octets (blankChars pre) ++ (octets v.write ++ rest)) =
      v.config.map (·, rest) := by
  obtain ⟨r, hr⟩ := v.parseWhitespace_blank_write pre rest
  cases v with
  | emptyArray inner =>
    rw [deserializeDatabaseConfig, parseWhitespace_blank, octets_write_emptyArray,
      parseWhitespace_cons_of_not_ws (by decide)]
    dsimp only
    rw [if_pos rfl, visitSeq]
    simp only [nextElement_close, nextElement_bracket, endSeq_bracket]
    rfl
  | array pre' first more close => exact deserializeDatabaseConfig_array pre pre' first more close rest
  | emptyObject inner =>
    rw [deserializeDatabaseConfig, parseWhitespace_blank, octets_write_emptyObject,
      parseWhitespace_cons_of_not_ws (by decide)]
    dsimp only
    rw [if_neg (by decide), if_pos rfl, visitMap, visitMapLoop_close]
    rfl
  | object first more close =>
    rw [deserializeDatabaseConfig, parseWhitespace_blank, octets_write_object,
      parseWhitespace_cons_of_not_ws (by decide)]
    dsimp only
    obtain ⟨r', hr'⟩ := first.parseWhitespace_member
      (octets (more.write ++ (blankChars close ++ ['\x7d'])) ++ rest)
    rw [if_neg (by decide), if_pos rfl, visitMap, visitMapLoop_member Fields.empty first
      (nextKey_first hr' (by decide)) (delimited_members more close rest), JsonSyntax.config]
    cases Fields.empty.visitMember first with
    | error err => rfl
    | ok fields =>
      dsimp only
      rw [visitMapLoop_members]
      cases fields.visitMembers more <;> rfl
  | number n =>
    have := JsonSyntax.lead_number n
    rw [deserializeDatabaseConfig_of_lead hr (by omega), peekInvalidType_blank_write pre _ h]
    rfl
  | bool b =>
    rw [deserializeDatabaseConfig_of_lead hr (by cases b <;> decide), peekInvalidType_blank_write pre _ h]
    rfl
  | _ =>
    rw [deserializeDatabaseConfig_of_lead hr (by simp only [JsonSyntax.lead]; decide),
      peekInvalidType_blank_write pre _ h]
    rfl

/-- The bytes of a text, as octets. -/
theorem utf8Bytes_toNat (cs : List Char) :
    (cs.flatMap String.utf8EncodeChar).map UInt8.toNat = octets cs := by
  simp only [List.map_flatMap, utf8EncodeChar_toNat]
  rfl

/-- Whitespace, or nothing, may follow a number. -/
theorem delimited_blankChars (blank : List Space) : Delimited (octets (blankChars blank)) := by
  cases blank with
  | nil => decide
  | cons sp blank =>
    rw [blankChars, List.map_cons, octets_cons_of_lt _ (by cases sp <;> decide)]
    exact delimited_of_peek (b := sp.toChar.toNat) rfl (by cases sp <;> decide)

/-- `from_slice` on a text that `deserialize_struct` reads whole, then whitespace. -/
theorem fromSlice_of_deserialize {text : List Char} {r : Except JsonError DatabaseConfig}
    (h : ∀ rest, Delimited rest → deserializeDatabaseConfig (octets text ++ rest) = r.map (·, rest))
    (post : List Space) :
    fromSlice ((text ++ blankChars post).flatMap String.utf8EncodeChar) = r := by
  rw [fromSlice, utf8Bytes_toNat, octets_append, h _ (delimited_blankChars post)]
  cases r with
  | error err => rfl
  | ok c =>
    dsimp only [Except.map]
    rw [← List.append_nil (octets (blankChars post)), parseWhitespace_blank]
    rfl

/-- `deserialize_struct` on a value, with the whitespace before it. -/
theorem deserializeDatabaseConfig_text (pre : List Space) (v : JsonSyntax .value) (rest : List Nat)
    (h : Delimited rest) :
    deserializeDatabaseConfig (octets (blankChars pre ++ v.write) ++ rest) = v.config.map (·, rest) := by
  rw [octets_append, List.append_assoc, deserializeDatabaseConfig_write pre v h]

/-- `serde_json::from_slice::<DatabaseConfig>` computes `JsonSyntax.config` on the UTF-8 bytes of
every JSON text, with any whitespace around it. -/
theorem fromSlice_write (pre : List Space) (v : JsonSyntax .value) (post : List Space) :
    fromSlice ((blankChars pre ++ v.write ++ blankChars post).flatMap String.utf8EncodeChar) =
      v.config :=
  fromSlice_of_deserialize (deserializeDatabaseConfig_text pre v) post

/-- `{"block_reads":1e400}`: a number of the wrong type that overflows `f64` is out of range. -/
example :
    (JsonSyntax.object (.member [] "block_reads" [] []
      (.number ⟨false, .digits 0 [], none, some ⟨false, none, 4, [0, 0]⟩⟩)) .noMembers []).config =
      .error .numberOutOfRange :=
  rfl

end Config
end Sqld
