import Mathlib.Data.List.Basic

/-!
# The database configuration and its JSON document

`DatabaseConfig` and the bytes `serde_json::to_vec_pretty` writes for it.  The derived
`Serialize` writes the fields in declaration order and the pretty formatter puts each on its own
line, indented by two spaces.  Inside a string, a quote and a backslash are escaped by a
backslash, the control characters backspace, tab, line feed, form feed and carriage return by
their short escapes, the other control characters as a six-character escape in lower-case
hexadecimal; every other character is written as its UTF-8 bytes.
-/

namespace Sqld
namespace Config

/-- `DatabaseConfig`. -/
structure DatabaseConfig where
  blockReads : Bool
  blockWrites : Bool
  blockReason : Option String
  deriving DecidableEq, Repr

/-- `DatabaseConfig::default()`. -/
def DatabaseConfig.default : DatabaseConfig := ⟨false, false, none⟩

/-- The lower-case hexadecimal digit of `n < 16`. -/
def hexDigit (n : Nat) : Char := if n < 10 then Char.ofNat (48 + n) else Char.ofNat (87 + n)

/-- How serde_json writes one character inside a string. -/
def escapeChar (c : Char) : List Char :=
  if c = '"' then ['\\', '"']
  else if c = '\\' then ['\\', '\\']
  else if c = '\n' then ['\\', 'n']
  else if c = '\r' then ['\\', 'r']
  else if c = '\t' then ['\\', 't']
  else if c.toNat = 8 then ['\\', 'b']
  else if c.toNat = 12 then ['\\', 'f']
  else if c.toNat < 32 then ['\\', 'u', '0', '0', hexDigit (c.toNat / 16), hexDigit (c.toNat % 16)]
  else [c]

/-- A JSON string. -/
def jsonString (s : String) : List Char := '"' :: s.toList.flatMap escapeChar ++ ['"']

/-- A JSON boolean. -/
def jsonBool (b : Bool) : List Char := if b then "true".toList else "false".toList

/-- The pretty-printed JSON text of a configuration. -/
def DatabaseConfig.prettyJson (config : DatabaseConfig) : List Char :=
  "\x7b\n  \"block_reads\": ".toList ++ jsonBool config.blockReads ++
    ",\n  \"block_writes\": ".toList ++ jsonBool config.blockWrites ++
    ",\n  \"block_reason\": ".toList ++
    (match config.blockReason with
      | none => "null".toList
      | some reason => jsonString reason) ++
    "\n\x7d".toList

/-- `serde_json::to_vec_pretty`: the UTF-8 bytes of the pretty-printed text. -/
def toVecPretty (config : DatabaseConfig) : List UInt8 :=
  config.prettyJson.flatMap String.utf8EncodeChar

/-- Every document starts with the byte of its opening brace, so none is empty. -/
theorem toVecPretty_ne_nil (config : DatabaseConfig) : toVecPretty config ≠ [] := by
  obtain ⟨rest, h⟩ : ∃ rest, config.prettyJson = '\x7b' :: rest := ⟨_, rfl⟩
  simp only [toVecPretty, h, List.flatMap_cons]
  exact List.append_ne_nil_of_left_ne_nil (by decide) _

end Config
end Sqld
