import Sqld.Config.Number

/-!
# Reading a configuration back: `serde_json::from_slice`

This module is `serde_json::from_slice` as it runs for the derived `Deserialize` of
`DatabaseConfig`, over the reader of `Sqld.Config.Reader`:

* `deserialize_bool`, `deserialize_string` and `deserialize_option` for the fields, each giving
  the error of `peek_invalid_type` on a value of another type;
* the derived visitor: `deserialize_struct` accepts an object, whose keys may come in any order,
  each at most once, unknown keys skipped and missing fields defaulted, or an array of the fields
  in order;
* `from_slice`, which then allows only whitespace after the value.
-/

namespace Sqld
namespace Config

/-! ## The derived `Deserialize` of `DatabaseConfig` -/

/-- A reader never gives back more octets than it was given. -/
def Consumes {α : Type} (read : List Nat → Except JsonError (α × List Nat)) : Prop :=
  ∀ input rest a, read input = .ok (a, rest) → rest.length ≤ input.length

/-- `deserialize_bool`: `true` or `false`, else the error of `peek_invalid_type`. -/
def deserializeBool (input : List Nat) : Except JsonError (Bool × List Nat) :=
  match parseWhitespace input with
  | [] => .error .eofWhileParsingValue
  | b :: rest =>
    if b = 116 then (parseIdent (ascii "rue") rest).map (true, ·)
    else if b = 102 then (parseIdent (ascii "alse") rest).map (false, ·)
    else .error (peekInvalidType (b :: rest))

/-- `deserialize_string`: a string, else the error of `peek_invalid_type`. -/
def deserializeString (input : List Nat) : Except JsonError (String × List Nat) :=
  match parseWhitespace input with
  | [] => .error .eofWhileParsingValue
  | b :: rest =>
    if b = 34 then (parseStr rest).map fun (s, rest) => (String.mk s, rest)
    else .error (peekInvalidType (b :: rest))

/-- `deserialize_option` for `Option<String>`: `null`, or a string. -/
def deserializeOptionString (input : List Nat) : Except JsonError (Option String × List Nat) :=
  match parseWhitespace input with
  | 110 :: rest => (parseIdent (ascii "ull") rest).map (none, ·)
  | input => (deserializeString input).map fun (s, rest) => (some s, rest)

/-- `parse_object_colon`: the colon after a key. -/
def parseObjectColon (input : List Nat) : Except JsonError (List Nat) :=
  match parseWhitespace input with
  | [] => .error .eofWhileParsingObject
  | b :: rest => if b = 58 then .ok rest else .error .expectedColon

/-- The keys of `DatabaseConfig` as its derived `Deserialize` tells them apart (`__Field`);
any other key is ignored. -/
inductive Field
  | blockReads
  | blockWrites
  | blockReason
  | ignore
  deriving DecidableEq, Repr

/-- `__FieldVisitor::visit_str`. -/
def Field.ofKey (key : List Char) : Field :=
  if key = "block_reads".toList then .blockReads
  else if key = "block_writes".toList then .blockWrites
  else if key = "block_reason".toList then .blockReason
  else .ignore

/-- The key at the octet `next_key_seed` peeked: a string, read by `MapKey::deserialize_any`;
a closing brace there follows a comma. -/
def keyAt : List Nat → Except JsonError (Option Field × List Nat)
  | [] => .error .eofWhileParsingValue
  | b :: rest =>
    if b = 34 then (parseStr rest).map fun (key, rest) => (some (Field.ofKey key), rest)
    else if b = 125 then .error .trailingComma
    else .error .keyMustBeAString

/-- `MapAccess::next_key_seed`: `none` at the closing brace, which is left for `end_map`;
otherwise the first key, or a key after a comma. -/
def nextKey (first : Bool) (input : List Nat) : Except JsonError (Option Field × List Nat) :=
  match parseWhitespace input with
  | [] => .error .eofWhileParsingObject
  | b :: rest =>
    if b = 125 then .ok (none, b :: rest)
    else if b = 44 ∧ first = false then keyAt (parseWhitespace rest)
    else if first then keyAt (b :: rest)
    else .error .expectedObjectCommaOrEnd

/-- `MapAccess::next_value_seed`: the colon, then the value. -/
def nextValue {α : Type} (deserialize : List Nat → Except JsonError (α × List Nat))
    (input : List Nat) : Except JsonError (α × List Nat) :=
  match parseObjectColon input with
  | .error err => .error err
  | .ok rest => deserialize rest

/-- The fields `visit_map` has read so far. -/
structure Fields where
  blockReads : Option Bool
  blockWrites : Option Bool
  blockReason : Option (Option String)
  deriving DecidableEq, Repr

/-- No field read yet. -/
def Fields.empty : Fields := ⟨none, none, none⟩

/-- The configuration of the fields read, a missing one taking its type's default
(`#[serde(default)]`). -/
def Fields.config (fields : Fields) : DatabaseConfig :=
  ⟨fields.blockReads.getD false, fields.blockWrites.getD false, fields.blockReason.getD none⟩

/-- One arm of the derived `visit_map` for the field `name`, already read when `seen`: a field
given twice is an error, raised before its value is read. -/
def visitField {α : Type} (seen : Bool) (name : String)
    (deserialize : List Nat → Except JsonError (α × List Nat)) (input : List Nat) :
    Except JsonError (α × List Nat) :=
  if seen then .error (.duplicateField name) else nextValue deserialize input

/-- The body of `visit_map`'s loop for the key `field`: its value, recorded in `fields`; the value
of an unknown key is skipped with `IgnoredAny`. -/
def visitEntry (fields : Fields) (field : Field) (input : List Nat) :
    Except JsonError (Fields × List Nat) :=
  match field with
  | .blockReads => (visitField fields.blockReads.isSome "block_reads" deserializeBool input).map
      fun (v, rest) => ({ fields with blockReads := some v }, rest)
  | .blockWrites => (visitField fields.blockWrites.isSome "block_writes" deserializeBool input).map
      fun (v, rest) => ({ fields with blockWrites := some v }, rest)
  | .blockReason =>
    (visitField fields.blockReason.isSome "block_reason" deserializeOptionString input).map
      fun (v, rest) => ({ fields with blockReason := some v }, rest)
  | .ignore => (nextValue (fun input => (ignoreValue input).map ((), ·)) input).map
      fun (_, rest) => (fields, rest)

/-! ### What the visitor's readers consume -/

theorem Consumes.map {α β : Type} {read : List Nat → Except JsonError (α × List Nat)}
    (h : Consumes read) (f : α → β) :
    Consumes fun input => (read input).map fun (a, rest) => (f a, rest) := by
  intro input rest b hb
  cases hr : read input with
  | error => simp [hr, Except.map] at hb
  | ok r =>
    simp only [hr, Except.map, Except.ok.injEq, Prod.mk.injEq] at hb
    rw [← hb.2]
    exact h _ _ _ (show read input = .ok (r.1, r.2) from hr)

theorem length_lt_of_parseWhitespace_eq {input rest : List Nat} {b : Nat}
    (hws : parseWhitespace input = b :: rest) : rest.length < input.length := by
  have := parseWhitespace_length_le input
  rw [hws, List.length_cons] at this
  omega

theorem consumes_parseIdent {α : Type} (ident : List Nat) (a : α) :
    Consumes fun input => (parseIdent ident input).map (a, ·) := by
  intro input rest a' h
  cases hr : parseIdent ident input with
  | error => simp [hr, Except.map] at h
  | ok r =>
    simp only [hr, Except.map, Except.ok.injEq, Prod.mk.injEq] at h
    rw [← h.2]
    exact parseIdent_length_le hr

theorem consumes_parseStr : Consumes parseStr := fun _ _ _ h => (parseStr_length_lt h).le

theorem consumes_deserializeBool : Consumes deserializeBool := by
  intro input rest a h
  unfold deserializeBool at h
  split at h
  · cases h
  next b rest' hws =>
  have := length_lt_of_parseWhitespace_eq hws
  split_ifs at h
  · have := consumes_parseIdent _ _ _ _ _ h; omega
  · have := consumes_parseIdent _ _ _ _ _ h; omega

theorem consumes_deserializeString : Consumes deserializeString := by
  intro input rest a h
  unfold deserializeString at h
  split at h
  · cases h
  next b rest' hws =>
  have := length_lt_of_parseWhitespace_eq hws
  split_ifs at h
  have := consumes_parseStr.map String.mk _ _ _ h
  omega

theorem consumes_deserializeOptionString : Consumes deserializeOptionString := by
  intro input rest a h
  unfold deserializeOptionString at h
  split at h
  · next rest' hws =>
    have := length_lt_of_parseWhitespace_eq hws
    have := consumes_parseIdent _ _ _ _ _ h
    omega
  · next input' _ =>
    have := consumes_deserializeString.map some _ _ _ h
    have := parseWhitespace_length_le input
    omega

theorem Consumes.nextValue {α : Type} {read : List Nat → Except JsonError (α × List Nat)}
    (h : Consumes read) : Consumes (nextValue read) := by
  intro input rest a hv
  unfold Sqld.Config.nextValue parseObjectColon at hv
  split at hv
  · cases hv
  next rest' hcolon =>
  split at hcolon
  · cases hcolon
  next b rest'' hws =>
  split_ifs at hcolon
  cases hcolon
  have := length_lt_of_parseWhitespace_eq hws
  have := h _ _ _ hv
  omega

theorem Consumes.visitField {α : Type} {read : List Nat → Except JsonError (α × List Nat)}
    (h : Consumes read) (seen : Bool) (name : String) : Consumes (visitField seen name read) := by
  intro input rest a hv
  unfold Sqld.Config.visitField at hv
  split_ifs at hv
  exact h.nextValue _ _ _ hv

theorem visitEntry_length_le {fields fields' : Fields} {field : Field} {input rest : List Nat}
    (h : visitEntry fields field input = .ok (fields', rest)) : rest.length ≤ input.length := by
  unfold visitEntry at h
  cases field with
  | blockReads =>
    exact (consumes_deserializeBool.visitField _ _).map (fun v => { fields with blockReads := some v })
      _ _ _ h
  | blockWrites =>
    exact (consumes_deserializeBool.visitField _ _).map (fun v => { fields with blockWrites := some v })
      _ _ _ h
  | blockReason =>
    exact (consumes_deserializeOptionString.visitField _ _).map
      (fun v => { fields with blockReason := some v }) _ _ _ h
  | ignore =>
    have hignore : Consumes fun input => (ignoreValue input).map ((), ·) :=
      fun _ _ _ h => ignoreValue_length_le (ok_of_map_unit h)
    exact hignore.nextValue.map (fun _ => fields) _ _ _ h

theorem keyAt_length_lt {input rest : List Nat} {field : Option Field}
    (h : keyAt input = .ok (field, rest)) : rest.length < input.length := by
  match input, h with
  | b :: input', h =>
    simp only [keyAt] at h
    split_ifs at h
    have := consumes_parseStr.map (fun key => some (Field.ofKey key)) _ _ _ h
    simp only [List.length_cons]
    omega

theorem nextKey_length_lt {first : Bool} {input rest : List Nat} {field : Field}
    (h : nextKey first input = .ok (some field, rest)) : rest.length < input.length := by
  unfold nextKey at h
  split at h
  · cases h
  next b rest' hws =>
  have := length_lt_of_parseWhitespace_eq hws
  split_ifs at h
  · cases h
  · have := keyAt_length_lt h
    have := parseWhitespace_length_le rest'
    omega
  · have := keyAt_length_lt h
    simp only [List.length_cons] at this
    omega

/-! ### The object and the array forms -/

/-- The loop of the derived `visit_map`: entries until `next_key` finds the closing brace. -/
def visitMapLoop (first : Bool) (fields : Fields) (input : List Nat) :
    Except JsonError (Fields × List Nat) :=
  match _hkey : nextKey first input with
  | .error err => .error err
  | .ok (none, rest) => .ok (fields, rest)
  | .ok (some field, rest) =>
    match _hentry : visitEntry fields field rest with
    | .error err => .error err
    | .ok (fields, rest') => visitMapLoop false fields rest'
termination_by input.length
decreasing_by
  have := nextKey_length_lt _hkey
  have := visitEntry_length_le _hentry
  omega

/-- The derived `visit_map`: the entries of an object, in any order. -/
def visitMap (input : List Nat) : Except JsonError (DatabaseConfig × List Nat) :=
  (visitMapLoop true .empty input).map fun (fields, rest) => (fields.config, rest)

/-- `end_map`: the closing brace. -/
def endMap (input : List Nat) : Except JsonError (List Nat) :=
  match parseWhitespace input with
  | [] => .error .eofWhileParsingObject
  | b :: rest =>
    if b = 125 then .ok rest
    else if b = 44 then .error .trailingComma
    else .error .trailingCharacters

/-- The element at the octet `next_element_seed` peeked; a closing bracket there follows a
comma. -/
def elementAt {α : Type} (deserialize : List Nat → Except JsonError (α × List Nat)) :
    List Nat → Except JsonError (Option α × List Nat)
  | [] => .error .eofWhileParsingValue
  | b :: rest =>
    if b = 93 then .error .trailingComma
    else (deserialize (b :: rest)).map fun (v, rest) => (some v, rest)

/-- `SeqAccess::next_element_seed`: `none` at the closing bracket, which is left for `end_seq`;
otherwise the first element, or an element after a comma. -/
def nextElement {α : Type} (deserialize : List Nat → Except JsonError (α × List Nat))
    (first : Bool) (input : List Nat) : Except JsonError (Option α × List Nat) :=
  match parseWhitespace input with
  | [] => .error .eofWhileParsingList
  | b :: rest =>
    if b = 93 then .ok (none, b :: rest)
    else if b = 44 ∧ first = false then elementAt deserialize (parseWhitespace rest)
    else if first then elementAt deserialize (b :: rest)
    else .error .expectedListCommaOrEnd

/-- The derived `visit_seq`: the fields in declaration order, a missing one taking its type's
default (`#[serde(default)]`).  `first` stays set while no element has been read. -/
def visitSeq (input : List Nat) : Except JsonError (DatabaseConfig × List Nat) :=
  match nextElement deserializeBool true input with
  | .error err => .error err
  | .ok (blockReads, rest) =>
    match nextElement deserializeBool blockReads.isNone rest with
    | .error err => .error err
    | .ok (blockWrites, rest) =>
      match nextElement deserializeOptionString (blockReads.isNone && blockWrites.isNone) rest with
      | .error err => .error err
      | .ok (blockReason, rest) =>
        .ok (⟨blockReads.getD false, blockWrites.getD false, blockReason.getD none⟩, rest)

/-- `end_seq`: the closing bracket. -/
def endSeq (input : List Nat) : Except JsonError (List Nat) :=
  match parseWhitespace input with
  | [] => .error .eofWhileParsingList
  | b :: rest =>
    if b = 93 then .ok rest
    else if b = 44 then
      match parseWhitespace rest with
      | 93 :: _ => .error .trailingComma
      | _ => .error .trailingCharacters
    else .error .trailingCharacters

/-- `deserialize_struct`: an array or an object, then its closing bracket or brace; the
visitor's error comes before that of the end.  Any other value gives the error of
`peek_invalid_type`. -/
def deserializeDatabaseConfig (input : List Nat) : Except JsonError (DatabaseConfig × List Nat) :=
  match parseWhitespace input with
  | [] => .error .eofWhileParsingValue
  | b :: rest =>
    if b = 91 then
      match visitSeq rest with
      | .error err => .error err
      | .ok (config, rest) => (endSeq rest).map (config, ·)
    else if b = 123 then
      match visitMap rest with
      | .error err => .error err
      | .ok (config, rest) => (endMap rest).map (config, ·)
    else .error (peekInvalidType (b :: rest))

/-- `serde_json::from_slice::<DatabaseConfig>`: the configuration, then nothing but whitespace
(`Deserializer::end`). -/
def fromSlice (v : List UInt8) : Except JsonError DatabaseConfig :=
  match deserializeDatabaseConfig (v.map UInt8.toNat) with
  | .error err => .error err
  | .ok (config, rest) =>
    match parseWhitespace rest with
    | [] => .ok config
    | _ :: _ => .error .trailingCharacters

end Config
end Sqld
