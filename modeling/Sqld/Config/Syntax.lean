import Sqld.Config.Decode

/-!
# JSON texts, and what the derived `Deserialize` of `DatabaseConfig` makes of them

`config.json` is not always the text this version of sqld wrote.  An older or a newer version
may have written other fields, in another order, with other whitespace.  This module gives the
texts and the meaning the decoder is held to.

* `JsonSyntax` is the concrete syntax of a JSON text, whitespace included, as one family
  indexed by its kind: a value, the elements of an array after its first, a member of an
  object, the members after its first.  A number is written as RFC 8259 spells it (sign,
  integer part without a leading zero, optional fraction and exponent), and a string as
  serde_json's writer escapes it: `\"`, `\\`, the short escapes of control characters and
  `\u00XX` for the others, every other character as itself.  Texts with other escapes (`\/`,
  `\u` escapes of other characters, surrogate pairs) are not of this syntax.
  `JsonSyntax.write` is the text.
* `JsonNumber.convert` is what serde_json's number parser makes of a number: its conversion to
  `f64` fails with `number_out_of_range` when it overflows.
* `JsonSyntax.config` is what the derived `Deserialize` of `DatabaseConfig`, with every field
  `#[serde(default)]`, makes of a value.  An object gives the fields of its members in any order:
    - a field given twice is `duplicate_field`;
    - a field's value of another type is `invalid_type`, or `number_out_of_range` for a number
      that does not convert;
    - an unknown key is skipped;
    - a missing field is defaulted.

  An array gives the fields in declaration order, and a fourth element is one too many.  Any
  other value is of the wrong type, as a field's value is.

`Sqld.Config.Document` shows `from_slice` computes `JsonSyntax.config` on every text.
-/

namespace Sqld
namespace Config

/-! ## Whitespace and numbers -/

/-- A whitespace character of JSON. -/
inductive Space
  | space
  | tab
  | lineFeed
  | carriageReturn
  deriving DecidableEq, Repr

/-- The character of a whitespace. -/
def Space.toChar : Space → Char
  | .space => ' '
  | .tab => '\t'
  | .lineFeed => '\n'
  | .carriageReturn => '\r'

/-- The characters of whitespace between two tokens. -/
def blankChars (blank : List Space) : List Char := blank.map Space.toChar

/-- The characters of decimal digits. -/
def digitChars (digits : List (Fin 10)) : List Char :=
  digits.map fun d : Fin 10 => Char.ofNat (48 + d.val)

/-- The integer part of a JSON number: `0`, or a digit from `1` to `9` followed by any digits. -/
inductive IntegerPart
  | zero
  | digits (lead : Fin 9) (rest : List (Fin 10))
  deriving DecidableEq, Repr

/-- The characters of an integer part. -/
def IntegerPart.chars : IntegerPart → List Char
  | .zero => ['0']
  | .digits lead rest => Char.ofNat (49 + lead.val) :: digitChars rest

/-- The exponent of a JSON number: `e` or `E`, an optional sign (`true` for `-`), at least one
digit. -/
structure Exponent where
  upper : Bool
  sign : Option Bool
  first : Fin 10
  rest : List (Fin 10)
  deriving DecidableEq, Repr

/-- The characters of an exponent's sign. -/
def signChars : Option Bool → List Char
  | none => []
  | some true => ['-']
  | some false => ['+']

/-- The characters of an exponent. -/
def Exponent.chars (e : Exponent) : List Char :=
  (if e.upper then 'E' else 'e') :: (signChars e.sign ++ digitChars (e.first :: e.rest))

/-- A JSON number: an optional minus sign, the integer part, an optional fraction of at least
one digit, an optional exponent. -/
structure JsonNumber where
  negative : Bool
  integer : IntegerPart
  fraction : Option (Fin 10 × List (Fin 10))
  exponent : Option Exponent
  deriving DecidableEq, Repr

/-- The characters of an optional fraction. -/
def fractionChars : Option (Fin 10 × List (Fin 10)) → List Char
  | none => []
  | some (d, ds) => '.' :: digitChars (d :: ds)

/-- The characters of an optional exponent. -/
def exponentChars : Option Exponent → List Char
  | none => []
  | some e => e.chars

/-- The characters of a number after its integer part. -/
def JsonNumber.tailChars (n : JsonNumber) : List Char :=
  fractionChars n.fraction ++ exponentChars n.exponent

/-- The characters of a number. -/
def JsonNumber.chars (n : JsonNumber) : List Char :=
  (if n.negative then ['-'] else []) ++ n.integer.chars ++ n.tailChars

/-! ## What a number converts to -/

/-- The digits of an integer part. -/
def IntegerPart.digitList : IntegerPart → List (Fin 10)
  | .zero => [0]
  | .digits lead rest => lead.succ :: rest

/-- The digits of an optional fraction. -/
def fractionDigits : Option (Fin 10 × List (Fin 10)) → List (Fin 10)
  | none => []
  | some (d, ds) => d :: ds

/-- The significand serde_json keeps of digits read after `significand`: each digit is taken
while the significand stays within `u64::MAX`, and the first that would pass it ends the
reading.  The significand, and how many digits were taken. -/
def takeDigits (significand : Nat) : List (Fin 10) → Nat × Nat
  | [] => (significand, 0)
  | d :: ds =>
    if u64Max < significand * 10 + d.val then (significand, 0)
    else
      ((takeDigits (significand * 10 + d.val) ds).1, (takeDigits (significand * 10 + d.val) ds).2 + 1)

/-- The value of an exponent's digits read after `exp`, or `none` once it passes `i32::MAX`. -/
def exponentValue (exp : Nat) : List (Fin 10) → Option Nat
  | [] => some exp
  | d :: ds => if i32Max < exp * 10 + d.val then none else exponentValue (exp * 10 + d.val) ds

/-- An exponent without a sign, or with `+`, is positive. -/
def signPositive : Option Bool → Bool
  | some true => false
  | _ => true

/-- The conversion once an exponent's digits are read: past `i32::MAX` the number is out of
range for a nonzero significand and a positive exponent, and zero otherwise; else
`f64_from_parts` at the exponent they move. -/
def exponentFinish (significand : Nat) (startingExp : Int) (positiveExp : Bool) :
    Option Nat → Except JsonError Unit
  | none => if significand ≠ 0 ∧ positiveExp then .error .numberOutOfRange else .ok ()
  | some exp => f64FromParts significand (finalExp startingExp positiveExp exp)

/-- The conversion after a number's significand and decimal exponent: its exponent, if any,
then `f64_from_parts`. -/
def convertParts (significand : Nat) (exponent : Int) : Option Exponent → Except JsonError Unit
  | none => f64FromParts significand exponent
  | some e =>
    exponentFinish significand exponent (signPositive e.sign) (exponentValue e.first.val e.rest)

/-- What serde_json's number parser makes of a number, as far as it can fail: the digits of the
integer part go into a `u64` significand until one would pass `u64::MAX`, and each digit after
that raises the decimal exponent by one; the digits of the fraction go on into the significand
while it holds them, each lowering the exponent by one, and the rest are dropped; the exponent
then moves the decimal exponent, and the number is converted to `f64`.  An integer whose digits
all fit is not converted. -/
def JsonNumber.convert (n : JsonNumber) : Except JsonError Unit :=
  let int := takeDigits 0 n.integer.digitList
  let skipped := n.integer.digitList.length - int.2
  let frac := takeDigits int.1 (fractionDigits n.fraction)
  if skipped = 0 ∧ n.fraction = none ∧ n.exponent = none then .ok ()
  else convertParts frac.1 ((skipped : Int) - frac.2) n.exponent

/-! ## The syntax of a text -/

/-- The kinds of syntax of a JSON text. -/
inductive SyntaxKind
  | value
  | elements
  | member
  | members
  deriving DecidableEq, Repr

/-- The concrete syntax of a JSON text.  A value does not start with whitespace; the whitespace
around tokens is kept where it stands: before an array's first element, before each comma and
element after it, before each member's key and colon and value, and before a closing bracket. -/
inductive JsonSyntax : SyntaxKind → Type
  | null : JsonSyntax .value
  | bool (b : Bool) : JsonSyntax .value
  | number (n : JsonNumber) : JsonSyntax .value
  | string (s : String) : JsonSyntax .value
  | emptyArray (inner : List Space) : JsonSyntax .value
  | array (pre : List Space) (first : JsonSyntax .value) (more : JsonSyntax .elements)
      (close : List Space) : JsonSyntax .value
  | emptyObject (inner : List Space) : JsonSyntax .value
  | object (first : JsonSyntax .member) (more : JsonSyntax .members) (close : List Space) :
      JsonSyntax .value
  | noElements : JsonSyntax .elements
  | element (comma pre : List Space) (value : JsonSyntax .value) (more : JsonSyntax .elements) :
      JsonSyntax .elements
  | member (pre : List Space) (key : String) (colon pre' : List Space) (value : JsonSyntax .value) :
      JsonSyntax .member
  | noMembers : JsonSyntax .members
  | members (comma : List Space) (member : JsonSyntax .member) (more : JsonSyntax .members) :
      JsonSyntax .members

namespace JsonSyntax

/-- The text of a piece of syntax. -/
def write : {k : SyntaxKind} → JsonSyntax k → List Char
  | _, .null => "null".toList
  | _, .bool b => jsonBool b
  | _, .number n => n.chars
  | _, .string s => jsonString s
  | _, .emptyArray inner => '[' :: blankChars inner ++ [']']
  | _, .array pre first more close =>
      '[' :: blankChars pre ++ first.write ++ more.write ++ blankChars close ++ [']']
  | _, .emptyObject inner => '\x7b' :: blankChars inner ++ ['\x7d']
  | _, .object first more close =>
      '\x7b' :: first.write ++ more.write ++ blankChars close ++ ['\x7d']
  | _, .noElements => []
  | _, .element comma pre value more =>
      blankChars comma ++ ',' :: blankChars pre ++ value.write ++ more.write
  | _, .member pre key colon pre' value =>
      blankChars pre ++ jsonString key ++ blankChars colon ++ ':' :: blankChars pre' ++ value.write
  | _, .noMembers => []
  | _, .members comma m more => blankChars comma ++ ',' :: m.write ++ more.write

/-- The values of the elements after an array's first (other syntax has none). -/
def values : {k : SyntaxKind} → JsonSyntax k → List (JsonSyntax .value)
  | _, .element _ _ value more => value :: more.values
  | _, _ => []

/-- A boolean value. -/
def asBool : JsonSyntax .value → Option Bool
  | .bool b => some b
  | _ => none

/-- A value of `Option<String>`: `null`, or a string. -/
def asOptionString : JsonSyntax .value → Option (Option String)
  | .null => some none
  | .string s => some (some s)
  | _ => none

/-- The error of a value where another type is expected, as `peek_invalid_type` gives it:
`invalid_type`, but the error of its conversion for a number out of `f64`'s range. -/
def invalidTypeError : JsonSyntax .value → JsonError
  | .number n => errorOr n.convert
  | _ => .invalidType

end JsonSyntax

/-! ## What the derived `Deserialize` makes of a value -/

/-- A field's value read as its type with `asType`, or the error of a value of another type. -/
def typedValue {α : Type} (asType : JsonSyntax .value → Option α) (value : JsonSyntax .value) :
    Except JsonError α :=
  match asType value with
  | some a => .ok a
  | none => .error value.invalidTypeError

/-- One member of an object: a field met a second time is `duplicate_field` before its value is
looked at; a field's value must have the field's type; an unknown key is skipped. -/
def Fields.visit (fields : Fields) (key : String) (value : JsonSyntax .value) :
    Except JsonError Fields :=
  match Field.ofKey key.toList with
  | .blockReads =>
    if fields.blockReads.isSome then .error (.duplicateField "block_reads")
    else (typedValue JsonSyntax.asBool value).map fun v => { fields with blockReads := some v }
  | .blockWrites =>
    if fields.blockWrites.isSome then .error (.duplicateField "block_writes")
    else (typedValue JsonSyntax.asBool value).map fun v => { fields with blockWrites := some v }
  | .blockReason =>
    if fields.blockReason.isSome then .error (.duplicateField "block_reason")
    else (typedValue JsonSyntax.asOptionString value).map fun v => { fields with blockReason := some v }
  | .ignore => .ok fields

/-- One member, given as syntax. -/
def Fields.visitMember (fields : Fields) : JsonSyntax .member → Except JsonError Fields
  | .member _ key _ _ value => fields.visit key value

/-- The members after an object's first, in order; the first error stops the visit (other
syntax has no members). -/
def Fields.visitMembers : Fields → {k : SyntaxKind} → JsonSyntax k → Except JsonError Fields
  | fields, _, .members _ m more =>
    match fields.visitMember m with
    | .error err => .error err
    | .ok fields => Fields.visitMembers fields more
  | fields, _, _ => .ok fields

/-- The element at position `i` read as a field's type, or the field's default when the array
is shorter. -/
def seqField {α : Type} (values : List (JsonSyntax .value)) (asType : JsonSyntax .value → Option α)
    (default : α) (i : Nat) : Except JsonError α :=
  match values[i]? with
  | none => .ok default
  | some value => typedValue asType value

/-- The elements of an array, as the fields in declaration order: a missing element gives the
field's default, an element of another type is `invalid_type`, and a fourth element is left
for the closing bracket, which is then not there. -/
def seqConfig (values : List (JsonSyntax .value)) : Except JsonError DatabaseConfig :=
  match seqField values JsonSyntax.asBool false 0, seqField values JsonSyntax.asBool false 1,
      seqField values JsonSyntax.asOptionString none 2 with
  | .error err, _, _ => .error err
  | .ok _, .error err, _ => .error err
  | .ok _, .ok _, .error err => .error err
  | .ok blockReads, .ok blockWrites, .ok blockReason =>
    if 3 < values.length then .error .trailingCharacters
    else .ok ⟨blockReads, blockWrites, blockReason⟩

/-- What `serde_json::from_slice::<DatabaseConfig>` is to make of a JSON value. -/
def JsonSyntax.config : JsonSyntax .value → Except JsonError DatabaseConfig
  | .emptyArray _ => seqConfig []
  | .array _ first more _ => seqConfig (first :: more.values)
  | .emptyObject _ => .ok Fields.empty.config
  | .object first more _ =>
    match Fields.empty.visitMember first with
    | .error err => .error err
    | .ok fields => (fields.visitMembers more).map Fields.config
  | value => .error value.invalidTypeError

end Config
end Sqld
