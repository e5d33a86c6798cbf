import Sqld.Config.Decode

/-!
# The configuration document reads back as the configuration

`serde_json::from_slice` gives back every configuration from the bytes
`serde_json::to_vec_pretty` writes for it (`fromSlice_toVecPretty`), whatever its reason text:
quotes, backslashes, control characters and characters past ASCII included.

Each reader of `Decode` is run on the octets the encoder writes for its piece, followed by any
octets at all, and gives the piece's value and those octets back:

* a string: every character is written either as its UTF-8 octets, which the scanner copies, or
  as an escape, which the scanner turns back into the character's octet
  (`parseStrBytes_escapeChar`); the octets collected are then those of the text, which UTF-8
  decoding gives back (`parseStr_jsonString`);
* an entry of the object: its key, its colon and its value (`visitMapLoop_entry`);
* the document: three entries and the closing brace.
-/

namespace Sqld
namespace Config

/-! ## Strings -/

/-- The scanner copies octets that are neither control characters, quotes nor backslashes. -/
theorem parseStrBytes_append_plain (rest : List Nat) :
    ∀ (bs scratch : List Nat), (∀ b ∈ bs, 32 ≤ b ∧ b ≠ 34 ∧ b ≠ 92) →
      parseStrBytes scratch (bs ++ rest) = parseStrBytes (scratch ++ bs) rest
  | [], scratch, _ => by simp
  | b :: bs, scratch, h => by
    obtain ⟨h32, h34, h92⟩ := h b (List.mem_cons_self _ _)
    rw [List.cons_append, parseStrBytes, if_neg h34, if_neg h92, if_neg (by omega),
      parseStrBytes_append_plain rest bs _ fun b hb => h b (List.mem_cons_of_mem _ hb),
      List.append_assoc, List.singleton_append]

theorem parseStrBytes_quote (scratch rest : List Nat) :
    parseStrBytes scratch (34 :: rest) = .ok (scratch, rest) := by
  rw [parseStrBytes, if_pos rfl]

theorem parseStrBytes_short {e b : Nat} (he : shortEscape e = some b) (scratch rest : List Nat) :
    parseStrBytes scratch (92 :: e :: rest) = parseStrBytes (scratch ++ [b]) rest := by
  rw [parseStrBytes_backslash]
  simp only [parseEscape, he]

theorem hexDigit_toNat_lt : ∀ k < 16, (hexDigit k).toNat < 0x80 := by decide

theorem decodeHexVal_hexDigit : ∀ k < 16, decodeHexVal (hexDigit k).toNat = some k := by decide

/-- A control character's six-character escape `\u00XY`. -/
theorem parseStrBytes_control {n : Nat} (hn : n < 32) (scratch rest : List Nat) :
    parseStrBytes scratch
        (92 :: 117 :: 48 :: 48 :: (hexDigit (n / 16)).toNat :: (hexDigit (n % 16)).toNat :: rest) =
      parseStrBytes (scratch ++ [n]) rest := by
  have hhex : decodeHexEscape (48 :: 48 :: (hexDigit (n / 16)).toNat :: (hexDigit (n % 16)).toNat :: rest) =
      .ok (n, rest) := by
    simp only [decodeHexEscape, decodeHexVal_hexDigit _ (show n / 16 < 16 by omega),
      decodeHexVal_hexDigit _ (Nat.mod_lt _ (show 16 > 0 by decide)),
      show decodeHexVal 48 = some 0 from rfl]
    rw [show 0 * 4096 + 0 * 256 + n / 16 * 16 + n % 16 = n by omega]
  rw [parseStrBytes_backslash]
  simp only [parseEscape, shortEscape, if_true, parseUnicodeEscape, hhex,
    encodeUtf8_of_lt (show n < 0x80 by omega)]
  rw [if_neg (by omega), if_pos (by omega)]

/-- One character as the encoder writes it inside a string: the scanner collects its octets. -/
theorem parseStrBytes_escapeChar (c : Char) (scratch rest : List Nat) :
    parseStrBytes scratch (octets (escapeChar c) ++ rest) =
      parseStrBytes (scratch ++ encodeUtf8 c.toNat) rest := by
  unfold escapeChar
  by_cases h1 : c = '"'
  · subst h1; exact parseStrBytes_short (by rfl) scratch rest
  rw [if_neg h1]
  by_cases h2 : c = '\\'
  · subst h2; exact parseStrBytes_short (by rfl) scratch rest
  rw [if_neg h2]
  by_cases h3 : c = '\n'
  · subst h3; exact parseStrBytes_short (by rfl) scratch rest
  rw [if_neg h3]
  by_cases h4 : c = '\r'
  · subst h4; exact parseStrBytes_short (by rfl) scratch rest
  rw [if_neg h4]
  by_cases h5 : c = '\t'
  · subst h5; exact parseStrBytes_short (by rfl) scratch rest
  rw [if_neg h5]
  by_cases h6 : c.toNat = 8
  · rw [if_pos h6, h6]; exact parseStrBytes_short (by rfl) scratch rest
  rw [if_neg h6]
  by_cases h7 : c.toNat = 12
  · rw [if_pos h7, h7]; exact parseStrBytes_short (by rfl) scratch rest
  rw [if_neg h7]
  by_cases h8 : c.toNat < 32
  · rw [if_pos h8]
    have hlo := hexDigit_toNat_lt _ (show c.toNat / 16 < 16 by omega)
    have hhi := hexDigit_toNat_lt _ (Nat.mod_lt c.toNat (show 16 > 0 by decide))
    simp only [octets_cons, octets_nil, encodeUtf8_of_lt hlo, encodeUtf8_of_lt hhi,
      encodeUtf8_of_lt (show c.toNat < 0x80 by omega)]
    exact parseStrBytes_control h8 scratch rest
  rw [if_neg h8]
  -- a character written as its own octets
  have hne : ∀ d : Char, c ≠ d → c.toNat ≠ d.toNat := fun d hd h =>
    hd (by rw [← Char.ofNat_toNat c, h, Char.ofNat_toNat])
  have h34 := hne _ h1
  have h92 := hne _ h2
  rw [octets_cons, octets_nil, List.append_nil, parseStrBytes_append_plain]
  intro b hb
  by_cases hc : c.toNat < 0x80
  · rw [encodeUtf8_of_lt hc, List.mem_singleton] at hb
    subst hb
    exact ⟨by omega, h34, h92⟩
  · have := le_of_mem_encodeUtf8 (by omega) hb
    omega

/-- The characters of a text as the encoder writes them, then the closing quote: the scanner
collects the text's octets and stops after the quote. -/
theorem parseStrBytes_escaped (rest : List Nat) :
    ∀ (cs : List Char) (scratch : List Nat),
      parseStrBytes scratch (octets (cs.flatMap escapeChar) ++ 34 :: rest) =
        .ok (scratch ++ octets cs, rest)
  | [], scratch => by simp [parseStrBytes_quote]
  | c :: cs, scratch => by
    rw [List.flatMap_cons, octets_append, List.append_assoc, parseStrBytes_escapeChar,
      parseStrBytes_escaped rest cs, octets_cons, List.append_assoc]

/-- `parse_str` reads back the text of a string the encoder wrote. -/
theorem parseStr_jsonString (s : String) (rest : List Nat) :
    parseStr (octets (s.toList.flatMap escapeChar) ++ 34 :: rest) = .ok (s.toList, rest) := by
  simp only [parseStr, parseStrBytes_escaped, List.nil_append, decodeUtf8_octets]

theorem octets_jsonString (s : String) :
    octets (jsonString s) = 34 :: octets (s.toList.flatMap escapeChar) ++ [34] := by
  simp only [jsonString, List.cons_append, octets_cons, octets_append, octets_nil]
  rfl

/-! ## The document -/

/-- The octets the pretty printer writes for an entry of the object: a comma unless it is the
first, a line feed and two spaces, the key, a colon and a space, then the value. -/
def entryOctets (first : Bool) (key : String) (value : List Nat) : List Nat :=
  (if first then [] else [44]) ++ 10 :: 32 :: 32 :: octets (jsonString key) ++ 58 :: 32 :: value

/-- The reason as the encoder writes it: `null`, or a string. -/
def reasonJson : Option String → List Char
  | none => "null".toList
  | some reason => jsonString reason

/-- The document's octets: the opening brace, the three entries in declaration order, then a
line feed and the closing brace. -/
theorem octets_prettyJson (c : DatabaseConfig) :
    octets c.prettyJson =
      123 :: entryOctets true "block_reads" (octets (jsonBool c.blockReads)) ++
        entryOctets false "block_writes" (octets (jsonBool c.blockWrites)) ++
        entryOctets false "block_reason" (octets (reasonJson c.blockReason)) ++ [10, 125] := by
  have hreason : (match c.blockReason with
      | none => "null".toList
      | some reason => jsonString reason) = reasonJson c.blockReason := by
    cases c.blockReason <;> rfl
  simp only [DatabaseConfig.prettyJson, hreason, octets_append, entryOctets, List.cons_append,
    List.append_assoc]
  rfl

/-- The bytes `to_vec_pretty` writes, as octets. -/
theorem toVecPretty_toNat (c : DatabaseConfig) : (toVecPretty c).map UInt8.toNat = octets c.prettyJson := by
  simp only [toVecPretty, List.map_flatMap, utf8EncodeChar_toNat]
  rfl

/-- `visitMapLoop` unfolded once. -/
theorem visitMapLoop_eq (first : Bool) (fields : Fields) (input : List Nat) :
    visitMapLoop first fields input =
      match nextKey first input with
      | .error err => .error err
      | .ok (none, rest) => .ok (fields, rest)
      | .ok (some field, rest) =>
        match visitEntry fields field rest with
        | .error err => .error err
        | .ok (fields, rest') => visitMapLoop false fields rest' := by
  rw [visitMapLoop]
  split <;> next heq => simp only [heq]; try (split <;> next heq' => simp only [heq'])

theorem nextKey_entry (first : Bool) (key : String) (value rest : List Nat) :
    nextKey first (entryOctets first key value ++ rest) =
      .ok (some (Field.ofKey key.toList), 58 :: 32 :: (value ++ rest)) := by
  have hkey := parseStr_jsonString key (58 :: 32 :: (value ++ rest))
  simp only [entryOctets, octets_jsonString, List.cons_append, List.append_assoc,
    List.singleton_append]
  simp only [List.cons_append, List.nil_append] at hkey
  cases first <;>
  · show (parseStr _).map _ = _
    rw [List.nil_append, hkey]
    rfl

/-- An entry: its key, then its value through `visitEntry`. -/
theorem visitMapLoop_entry {first : Bool} {fields fields' : Fields} {key : String}
    {value rest : List Nat}
    (h : visitEntry fields (Field.ofKey key.toList) (58 :: 32 :: (value ++ rest)) =
      .ok (fields', rest)) :
    visitMapLoop first fields (entryOctets first key value ++ rest) =
      visitMapLoop false fields' rest := by
  rw [visitMapLoop_eq, nextKey_entry]
  simp only [h]

theorem deserializeBool_jsonBool (b : Bool) (rest : List Nat) :
    deserializeBool (32 :: (octets (jsonBool b) ++ rest)) = .ok (b, rest) := by
  cases b <;> rfl

theorem deserializeOptionString_reasonJson (reason : Option String) (rest : List Nat) :
    deserializeOptionString (32 :: (octets (reasonJson reason) ++ rest)) = .ok (reason, rest) := by
  cases reason with
  | none => rfl
  | some s =>
    simp only [reasonJson, octets_jsonString, List.cons_append, List.append_assoc,
      List.singleton_append]
    show (deserializeString (34 :: _)).map _ = _
    show ((parseStr _).map _).map _ = _
    rw [parseStr_jsonString]
    rfl

/-- A field not read yet: its value after the colon. -/
theorem visitField_unseen {α : Type} (name : String)
    (deserialize : List Nat → Except JsonError (α × List Nat)) (input : List Nat) :
    visitField false name deserialize (58 :: input) = deserialize input := rfl

/-- The three entries the encoder writes, in order, then the closing brace. -/
theorem visitMapLoop_entries (c : DatabaseConfig) (rest : List Nat) :
    visitMapLoop true .empty
        (entryOctets true "block_reads" (octets (jsonBool c.blockReads)) ++
          entryOctets false "block_writes" (octets (jsonBool c.blockWrites)) ++
          entryOctets false "block_reason" (octets (reasonJson c.blockReason)) ++ 10 :: 125 :: rest) =
      .ok (⟨some c.blockReads, some c.blockWrites, some c.blockReason⟩, 125 :: rest) := by
  simp only [List.append_assoc]
  rw [visitMapLoop_entry (by
      rw [show Field.ofKey "block_reads".toList = .blockReads from rfl, visitEntry, Fields.empty,
        Option.isSome_none, visitField_unseen, deserializeBool_jsonBool]
      rfl),
    visitMapLoop_entry (by
      rw [show Field.ofKey "block_writes".toList = .blockWrites from rfl, visitEntry,
        Option.isSome_none, visitField_unseen, deserializeBool_jsonBool]
      rfl),
    visitMapLoop_entry (by
      rw [show Field.ofKey "block_reason".toList = .blockReason from rfl, visitEntry,
        Option.isSome_none, visitField_unseen,
        deserializeOptionString_reasonJson]
      rfl),
    visitMapLoop_eq]
  rfl

theorem deserializeDatabaseConfig_brace (rest : List Nat) :
    deserializeDatabaseConfig (123 :: rest) =
      match visitMap rest with
      | .error err => .error err
      | .ok (config, rest) => (endMap rest).map (config, ·) := rfl

/-- `serde_json::from_slice` reads back every configuration from the bytes
`serde_json::to_vec_pretty` writes for it. -/
theorem fromSlice_toVecPretty (c : DatabaseConfig) : fromSlice (toVecPretty c) = .ok c := by
  have hobject : deserializeDatabaseConfig (octets c.prettyJson) = .ok (c, []) := by
    rw [octets_prettyJson, List.cons_append, List.cons_append, List.cons_append]
    rw [deserializeDatabaseConfig_brace, visitMap, visitMapLoop_entries]
    rfl
  rw [fromSlice, toVecPretty_toNat, hobject]
  rfl

end Config
end Sqld
