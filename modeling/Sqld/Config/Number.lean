import Sqld.Config.Reader

/-!
# serde_json's number parser and `peek_invalid_type`

A field's deserializer that meets a value of another type does not fail at once: it calls
`peek_invalid_type`, which reads the value (a literal, a number, a string) and gives the error
of that reading if it fails, and `invalid_type` only if it succeeds.  A number is read by the
same parser `deserialize_any` uses, and that parser converts it to `f64`.  So a number of the
wrong type whose conversion overflows gives `number_out_of_range`:

```
b'0'..=b'9' => match self.parse_any_number(true) {
    Ok(n) => n.invalid_type(exp),
    Err(err) => return err,
},
```

This module gives that parser, without serde_json's `arbitrary_precision` and `float_roundtrip`
features:

* `parse_integer` keeps the digits in a `u64` significand while `overflow!` allows, and
  `parse_long_integer` counts the digits after that into a decimal exponent;
* `parse_decimal` goes on with the fraction's digits, and `parse_decimal_overflow` drops those
  that no longer fit;
* `parse_exponent` reads the exponent into an `i32`, with `parse_exponent_overflow` past
  `i32::MAX`;
* `f64_from_parts` multiplies `significand as f64` by `POW10[exponent]` and fails when the
  product is infinite.

The value a number parses to is only used in the description of the `invalid_type` error, which
the model leaves out (`Sqld.Config.Reader`), so each piece gives back the octets after the
number, or its error.  The `f64` values the overflow check meets are whole numbers: they are kept
as natural numbers, rounded as IEEE 754 rounds to 53 bits of significand, ties to even
(`roundF64`).  A negative exponent only divides, which never overflows, so `f64_from_parts` never
fails there.  The digit counters of `parse_long_integer` and `parse_decimal`, which serde_json
lets wrap past `i32::MAX` ("if your integer is gigabytes long"), are integers here.
-/

namespace Sqld
namespace Config

/-! ## Overflow checks -/

/-- `u64::MAX`. -/
def u64Max : Nat := 2 ^ 64 - 1

/-- `i32::MAX`. -/
def i32Max : Nat := 2 ^ 31 - 1

/-- `overflow!(a * 10 + b, c)`: whether the next value of an accumulator passes `c`, tested
without computing it. -/
def overflows (a b c : Nat) : Bool := c / 10 ≤ a && (c / 10 < a || c % 10 < b)

/-- For a digit, `overflow!` says the next value passes the bound. -/
theorem overflows_iff {a b c : Nat} (hb : b < 10) : overflows a b c = true ↔ c < a * 10 + b := by
  simp only [overflows, Bool.and_eq_true, Bool.or_eq_true, decide_eq_true_eq]
  omega

/-- `i32::saturating_add` and `i32::saturating_sub`: the exact result, clamped to the range of
`i32`. -/
def saturateI32 (x : Int) : Int := max (-2 ^ 31) (min (2 ^ 31 - 1) x)

/-! ## The conversion to `f64` -/

/-- `f64::MAX`: 53 bits of significand at the largest exponent. -/
def f64Max : Nat := (2 ^ 53 - 1) * 2 ^ 971

/-- `n / 2 ^ shift`, rounded to the nearest whole number, ties to even. -/
def roundShift (n shift : Nat) : Nat :=
  if 2 * (n % 2 ^ shift) < 2 ^ shift ∨
      (2 * (n % 2 ^ shift) = 2 ^ shift ∧ n / 2 ^ shift % 2 = 0) then n / 2 ^ shift
  else n / 2 ^ shift + 1

/-- A whole number rounded to 53 bits of significand, ties to even, with no bound on the
exponent: the `f64` nearest to it, when that is at most `f64Max`. -/
def roundF64 (n : Nat) : Nat :=
  if n < 2 ^ 53 then n else roundShift n (n.log2 - 52) * 2 ^ (n.log2 - 52)

/-- `f64_from_parts`, as far as it can fail: for an exponent of `POW10`'s table (`0` to `308`),
`significand as f64` times `POW10[exponent]` (the literal `1e{exponent}`) is infinite when it
rounds past `f64::MAX`; past the table, a nonzero significand is out of range at once. -/
def f64FromParts (significand : Nat) (exponent : Int) : Except JsonError Unit :=
  if exponent < 0 then .ok ()
  else if exponent.toNat ≤ 308 then
    if f64Max < roundF64 (roundF64 significand * roundF64 (10 ^ exponent.toNat)) then
      .error .numberOutOfRange
    else .ok ()
  else if significand = 0 then .ok ()
  else .error .numberOutOfRange

/-! ## The number parser -/

/-- `parse_exponent_overflow`: past `i32::MAX` a positive exponent of a nonzero significand is
out of range; otherwise the value is zero and the remaining digits are skipped. -/
def parseExponentOverflow (zeroSignificand positiveExp : Bool) (input : List Nat) :
    Except JsonError (List Nat) :=
  if !zeroSignificand && positiveExp then .error .numberOutOfRange
  else .ok (input.dropWhile isDigit)

/-- The exponent `parse_exponent` hands to `f64_from_parts`. -/
def finalExp (startingExp : Int) (positiveExp : Bool) (exp : Nat) : Int :=
  saturateI32 (if positiveExp then startingExp + exp else startingExp - exp)

/-- The digit loop of `parse_exponent`, with the exponent `exp` read so far. -/
def exponentDigits (significand : Nat) (startingExp : Int) (positiveExp : Bool) (exp : Nat) :
    List Nat → Except JsonError (List Nat)
  | b :: rest =>
    if isDigit b then
      if overflows exp (b - 48) i32Max then
        parseExponentOverflow (significand == 0) positiveExp rest
      else exponentDigits significand startingExp positiveExp (exp * 10 + (b - 48)) rest
    else
      (f64FromParts significand (finalExp startingExp positiveExp exp)).map fun _ => b :: rest
  | [] => (f64FromParts significand (finalExp startingExp positiveExp exp)).map fun _ => []

/-- The sign of an exponent: `+` or `-` is eaten; without one the exponent is positive. -/
def exponentSign (input : List Nat) : Bool × List Nat :=
  if peekOrNull input = 43 then (true, input.drop 1)
  else if peekOrNull input = 45 then (false, input.drop 1)
  else (true, input)

/-- `parse_exponent`, from the `e` or `E`: a sign, then at least one digit. -/
def parseExponent (significand : Nat) (startingExp : Int) (input : List Nat) :
    Except JsonError (List Nat) :=
  let signed := exponentSign (input.drop 1)
  match signed.2 with
  | [] => .error .eofWhileParsingValue
  | b :: rest =>
    if isDigit b then exponentDigits significand startingExp signed.1 (b - 48) rest
    else .error .invalidNumber

/-- The end `parse_decimal` and `parse_decimal_overflow` share: an exponent, or the number ends
and is converted. -/
def exponentOrEnd (significand : Nat) (exponent : Int) (input : List Nat) :
    Except JsonError (List Nat) :=
  if peekOrNull input = 101 ∨ peekOrNull input = 69 then parseExponent significand exponent input
  else (f64FromParts significand exponent).map fun _ => input

/-- `parse_decimal_overflow`: the digits that no longer fit are dropped. -/
def parseDecimalOverflow (significand : Nat) (exponent : Int) (input : List Nat) :
    Except JsonError (List Nat) :=
  exponentOrEnd significand exponent (input.dropWhile isDigit)

/-- The end of `parse_decimal`, after `after` digits of the fraction: there must be one. -/
def decimalEnd (exponentBefore : Int) (significand after : Nat) (input : List Nat) :
    Except JsonError (List Nat) :=
  if after = 0 then .error (if input = [] then .eofWhileParsingValue else .invalidNumber)
  else exponentOrEnd significand (exponentBefore - after) input

/-- The digit loop of `parse_decimal`, with `after` digits of the fraction taken so far. -/
def decimalDigits (exponentBefore : Int) (significand after : Nat) :
    List Nat → Except JsonError (List Nat)
  | b :: rest =>
    if isDigit b then
      if overflows significand (b - 48) u64Max then
        parseDecimalOverflow significand (exponentBefore - after) (b :: rest)
      else decimalDigits exponentBefore (significand * 10 + (b - 48)) (after + 1) rest
    else decimalEnd exponentBefore significand after (b :: rest)
  | [] => decimalEnd exponentBefore significand after []

/-- `parse_decimal`, from the point. -/
def parseDecimal (significand : Nat) (exponentBefore : Int) (input : List Nat) :
    Except JsonError (List Nat) :=
  decimalDigits exponentBefore significand 0 (input.drop 1)

/-- The loop of `parse_long_integer`: each digit past what the significand holds raises the
exponent. -/
def longIntegerDigits (significand exponent : Nat) : List Nat → Except JsonError (List Nat)
  | b :: rest =>
    if isDigit b then longIntegerDigits significand (exponent + 1) rest
    else if b = 46 then parseDecimal significand exponent (b :: rest)
    else exponentOrEnd significand exponent (b :: rest)
  | [] => exponentOrEnd significand exponent []

/-- `parse_number`, after the integer part: a fraction, an exponent, or an integer, which is not
converted. -/
def parseNumber (significand : Nat) (input : List Nat) : Except JsonError (List Nat) :=
  if peekOrNull input = 46 then parseDecimal significand 0 input
  else if peekOrNull input = 101 ∨ peekOrNull input = 69 then parseExponent significand 0 input
  else .ok input

/-- The loop of `parse_integer` after a first digit from `1` to `9`. -/
def integerDigits (significand : Nat) : List Nat → Except JsonError (List Nat)
  | b :: rest =>
    if isDigit b then
      if overflows significand (b - 48) u64Max then longIntegerDigits significand 0 (b :: rest)
      else integerDigits (significand * 10 + (b - 48)) rest
    else parseNumber significand (b :: rest)
  | [] => parseNumber significand []

/-- `parse_integer`, which `parse_any_number` is, after the sign: `0` alone, or digits from `1`
to `9`. -/
def parseInteger : List Nat → Except JsonError (List Nat)
  | [] => .error .eofWhileParsingValue
  | b :: rest =>
    if b = 48 then (if isDigit (peekOrNull rest) then .error .invalidNumber else parseNumber 0 rest)
    else if 49 ≤ b ∧ b ≤ 57 then integerDigits (b - 48) rest
    else .error .invalidNumber

/-! ## `peek_invalid_type` -/

/-- The error of a value read where another type was expected: the reading's error, or
`invalid_type` once it succeeded. -/
def errorOr {α : Type} : Except JsonError α → JsonError
  | .error err => err
  | .ok _ => .invalidType

@[simp] theorem errorOr_map {α β : Type} (f : α → β) (x : Except JsonError α) :
    errorOr (x.map f) = errorOr x := by
  cases x <;> rfl

/-- `peek_invalid_type`, from the octet the deserializer peeked: a literal, a number or a string is
read first, an array or an object is of the wrong type at once, and anything else is not a
value. -/
def peekInvalidType : List Nat → JsonError
  | [] => .expectedSomeValue
  | b :: rest =>
    if b = 110 then errorOr (parseIdent (ascii "ull") rest)
    else if b = 116 then errorOr (parseIdent (ascii "rue") rest)
    else if b = 102 then errorOr (parseIdent (ascii "alse") rest)
    else if b = 45 then errorOr (parseInteger rest)
    else if isDigit b then errorOr (parseInteger (b :: rest))
    else if b = 34 then errorOr (parseStr rest)
    else if b = 91 ∨ b = 123 then .invalidType
    else .expectedSomeValue

/-- A number past `POW10`'s table is out of range for a field of another type. -/
example : peekInvalidType (ascii "1e400,") = .numberOutOfRange := by decide

/-- A number in range is of the wrong type. -/
example : peekInvalidType (ascii "-12.5e-3\x7d") = .invalidType := by decide

/-- A fraction without digits is not a number. -/
example : peekInvalidType (ascii "1.\x7d") = .invalidNumber := by decide

end Config
end Sqld
