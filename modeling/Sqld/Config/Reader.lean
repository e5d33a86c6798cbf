import Sqld.Config.Json
import Sqld.Config.Utf8

/-!
# serde_json's reader: the octets of a JSON text

`DatabaseConfigStore::load` turns the bytes of `config.json` into a `DatabaseConfig` with
`serde_json::from_slice`.  This module is the part of serde_json's deserializer that reads
tokens, over the octets of the input:

* `parse_whitespace`, `parse_ident`, the string scanner with its escapes and surrogate pairs,
  and the final `str::from_utf8` check;
* `ignore_value`, which skips the value of an unknown key with an explicit stack of open
  brackets, and the number scanners it uses.

Every piece is a function from the octets still to be read to a result and the octets after it.
Errors are serde_json's error codes without their positions; an unexpected value is
`invalidType` without the description serde_json builds of it.  The number parser and
`peek_invalid_type` are in `Sqld.Config.Number`, the derived `Deserialize` of `DatabaseConfig`
in `Sqld.Config.Decode`.
-/

namespace Sqld
namespace Config

/-- The errors of `serde_json::from_slice::<DatabaseConfig>`, without positions. -/
inductive JsonError
  | eofWhileParsingList
  | eofWhileParsingObject
  | eofWhileParsingString
  | eofWhileParsingValue
  | expectedColon
  | expectedListCommaOrEnd
  | expectedObjectCommaOrEnd
  | expectedSomeIdent
  | expectedSomeValue
  | invalidEscape
  | invalidNumber
  /-- A number whose conversion to `f64` overflows. -/
  | numberOutOfRange
  | invalidUnicodeCodePoint
  | controlCharacterWhileParsingString
  | keyMustBeAString
  | loneLeadingSurrogateInHexEscape
  | trailingComma
  | trailingCharacters
  | unexpectedEndOfHexEscape
  /-- `de::Error::invalid_type`: a value of another type where a field's type was expected. -/
  | invalidType
  /-- `de::Error::duplicate_field`. -/
  | duplicateField (field : String)
  deriving DecidableEq, Repr

/-- The octets of an ASCII text. -/
def ascii (s : String) : List Nat := s.toList.map Char.toNat

/-! ## The reader -/

/-- The octets `parse_whitespace` skips: space, line feed, tab and carriage return. -/
def isJsonWhitespace (b : Nat) : Bool := b = 32 || b = 10 || b = 9 || b = 13

/-- `parse_whitespace`: the input after its leading whitespace; its head is the octet it peeks. -/
def parseWhitespace (input : List Nat) : List Nat := input.dropWhile isJsonWhitespace

/-- `parse_ident`: the octets of `ident`, in order. -/
def parseIdent : List Nat → List Nat → Except JsonError (List Nat)
  | [], input => .ok input
  | _ :: _, [] => .error .eofWhileParsingValue
  | expected :: ident, b :: input =>
    if b = expected then parseIdent ident input else .error .expectedSomeIdent

/-- `decode_hex_val`: the value of a hexadecimal digit. -/
def decodeHexVal (b : Nat) : Option Nat :=
  if 48 ≤ b ∧ b ≤ 57 then some (b - 48)
  else if 65 ≤ b ∧ b ≤ 70 then some (b - 55)
  else if 97 ≤ b ∧ b ≤ 102 then some (b - 87)
  else none

/-- `decode_hex_escape`: four hexadecimal digits. -/
def decodeHexEscape : List Nat → Except JsonError (Nat × List Nat)
  | a :: b :: c :: d :: rest =>
    match decodeHexVal a, decodeHexVal b, decodeHexVal c, decodeHexVal d with
    | some a, some b, some c, some d => .ok (a * 0x1000 + b * 0x100 + c * 0x10 + d, rest)
    | _, _, _, _ => .error .invalidEscape
  | _ => .error .eofWhileParsingString

/-- `parse_unicode_escape` for a string (`validate`): the code point of `\uXXXX`, or of a
surrogate pair `\uD8XX\uDCXX`, pushed as UTF-8.  A trailing surrogate first, or a leading one not
followed by `\u` and a trailing one, is an error. -/
def parseUnicodeEscape (scratch input : List Nat) : Except JsonError (List Nat × List Nat) :=
  match decodeHexEscape input with
  | .error err => .error err
  | .ok (n, rest) =>
    if 0xDC00 ≤ n ∧ n ≤ 0xDFFF then .error .loneLeadingSurrogateInHexEscape
    else if n < 0xD800 ∨ 0xDBFF < n then .ok (scratch ++ encodeUtf8 n, rest)
    else
      match rest with
      | [] | [92] => .error .eofWhileParsingString
      | 92 :: 117 :: rest =>
        match decodeHexEscape rest with
        | .error err => .error err
        | .ok (n2, rest) =>
          if n2 < 0xDC00 ∨ 0xDFFF < n2 then .error .loneLeadingSurrogateInHexEscape
          else .ok (scratch ++ encodeUtf8 ((((n - 0xD800) <<< 10) ||| (n2 - 0xDC00)) + 0x10000), rest)
      | _ => .error .unexpectedEndOfHexEscape

/-- The octet a short escape stands for: `\"`, `\\`, `\/`, `\b`, `\f`, `\n`, `\r` and `\t`. -/
def shortEscape : Nat → Option Nat
  | 34 => some 34
  | 92 => some 92
  | 47 => some 47
  | 98 => some 8
  | 102 => some 12
  | 110 => some 10
  | 114 => some 13
  | 116 => some 9
  | _ => none

/-- `parse_escape`: the escape after a backslash. -/
def parseEscape (scratch : List Nat) : List Nat → Except JsonError (List Nat × List Nat)
  | [] => .error .eofWhileParsingString
  | ch :: rest =>
    match shortEscape ch with
    | some b => .ok (scratch ++ [b], rest)
    | none => if ch = 117 then parseUnicodeEscape scratch rest else .error .invalidEscape

/-- `ignore_escape`: an escape whose value is not kept; a `\u` escape is four hexadecimal digits,
whatever code point they name. -/
def ignoreEscape : List Nat → Except JsonError (List Nat)
  | [] => .error .eofWhileParsingString
  | ch :: rest =>
    if (shortEscape ch).isSome then .ok rest
    else if ch = 117 then (decodeHexEscape rest).map Prod.snd
    else .error .invalidEscape

/-! ### What each piece consumes -/

theorem parseWhitespace_length_le (input : List Nat) :
    (parseWhitespace input).length ≤ input.length :=
  (List.dropWhile_suffix _).length_le

theorem parseIdent_length_le : ∀ {ident input rest : List Nat},
    parseIdent ident input = .ok rest → rest.length ≤ input.length
  | [], _, _, h => by cases h; exact le_rfl
  | _ :: _, [], _, h => by cases h
  | e :: ident, b :: input, rest, h => by
    rw [parseIdent] at h
    split_ifs at h
    exact (parseIdent_length_le h).trans (Nat.le_succ _)

theorem decodeHexEscape_length_lt {input rest : List Nat} {n : Nat}
    (h : decodeHexEscape input = .ok (n, rest)) : rest.length < input.length := by
  match input, h with
  | a :: b :: c :: d :: rest', h =>
    simp only [decodeHexEscape] at h
    split at h
    · cases h
      simp only [List.length_cons]
      omega
    · cases h

theorem parseUnicodeEscape_length_lt {scratch input scratch' rest : List Nat}
    (h : parseUnicodeEscape scratch input = .ok (scratch', rest)) : rest.length < input.length := by
  unfold parseUnicodeEscape at h
  rcases h₁ : decodeHexEscape input with err | ⟨n, rest₁⟩ <;> simp only [h₁] at h
  · cases h
  have hlt := decodeHexEscape_length_lt h₁
  split_ifs at h
  · cases h
    exact hlt
  split at h
  any_goals cases h
  next rest₂ =>
  rcases h₂ : decodeHexEscape rest₂ with err | ⟨n2, rest₃⟩ <;> simp only [h₂] at h
  · cases h
  split_ifs at h
  cases h
  have := decodeHexEscape_length_lt h₂
  simp only [List.length_cons] at hlt
  omega

theorem parseEscape_length_lt {scratch input scratch' rest : List Nat}
    (h : parseEscape scratch input = .ok (scratch', rest)) : rest.length < input.length := by
  match input, h with
  | ch :: rest', h =>
    simp only [parseEscape] at h
    split at h
    · cases h
      simp
    · split_ifs at h
      exact (parseUnicodeEscape_length_lt h).trans (Nat.lt_succ_self _)

theorem ignoreEscape_length_lt {input rest : List Nat} (h : ignoreEscape input = .ok rest) :
    rest.length < input.length := by
  match input, h with
  | ch :: rest', h =>
    simp only [ignoreEscape] at h
    split_ifs at h
    · cases h
      simp
    · cases he : decodeHexEscape rest' with
      | error err => simp [he, Except.map] at h
      | ok r =>
        simp only [he, Except.map, Except.ok.injEq] at h
        subst h
        exact (decodeHexEscape_length_lt (show decodeHexEscape rest' = .ok (r.1, r.2) from he)).trans
          (Nat.lt_succ_self _)

/-! ### Strings -/

/-- The scanner of `SliceRead::parse_str_bytes` for a string (`validate`): the octets of the
string after its opening quote, into `scratch`, up to the closing quote; a backslash starts an
escape, and a control character is an error. -/
def parseStrBytes (scratch : List Nat) : List Nat → Except JsonError (List Nat × List Nat)
  | [] => .error .eofWhileParsingString
  | b :: rest =>
    if b = 34 then .ok (scratch, rest)
    else if b = 92 then
      match _hesc : parseEscape scratch rest with
      | .error err => .error err
      | .ok (scratch', rest') => parseStrBytes scratch' rest'
    else if b < 0x20 then .error .controlCharacterWhileParsingString
    else parseStrBytes (scratch ++ [b]) rest
termination_by input => input.length
decreasing_by
  · have := parseEscape_length_lt _hesc
    simp only [List.length_cons]
    omega
  · simp

/-- `SliceRead::parse_str`: the string up to its closing quote, which must be UTF-8
(`str::from_utf8`). -/
def parseStr (input : List Nat) : Except JsonError (List Char × List Nat) :=
  match parseStrBytes [] input with
  | .error err => .error err
  | .ok (bytes, rest) =>
    match decodeUtf8 bytes with
    | none => .error .invalidUnicodeCodePoint
    | some s => .ok (s, rest)

/-- `SliceRead::ignore_str`: a string whose value is not kept; it is not checked to be UTF-8. -/
def ignoreStr : List Nat → Except JsonError (List Nat)
  | [] => .error .eofWhileParsingString
  | b :: rest =>
    if b = 34 then .ok rest
    else if b = 92 then
      match _hesc : ignoreEscape rest with
      | .error err => .error err
      | .ok rest' => ignoreStr rest'
    else if b < 0x20 then .error .controlCharacterWhileParsingString
    else ignoreStr rest
termination_by input => input.length
decreasing_by
  · have := ignoreEscape_length_lt _hesc
    simp only [List.length_cons]
    omega
  · simp

/-- The step of `parseStrBytes` at a backslash. -/
theorem parseStrBytes_backslash (scratch rest : List Nat) :
    parseStrBytes scratch (92 :: rest) =
      match parseEscape scratch rest with
      | .error err => .error err
      | .ok (scratch', rest') => parseStrBytes scratch' rest' := by
  rw [parseStrBytes, if_neg (by decide), if_pos rfl]
  split <;> next heq => simp only [heq]

/-- The step of `ignoreStr` at a backslash. -/
theorem ignoreStr_backslash (rest : List Nat) :
    ignoreStr (92 :: rest) =
      match ignoreEscape rest with
      | .error err => .error err
      | .ok rest' => ignoreStr rest' := by
  rw [ignoreStr, if_neg (by decide), if_pos rfl]
  split <;> next heq => simp only [heq]

theorem parseStrBytes_length_lt {scratch input scratch' rest : List Nat}
    (h : parseStrBytes scratch input = .ok (scratch', rest)) : rest.length < input.length := by
  induction scratch, input using parseStrBytes.induct with
  | case1 => simp [parseStrBytes] at h
  | case2 => simp [parseStrBytes] at h; simp [h]
  | case3 _ _ _ herr => simp [parseStrBytes_backslash, herr] at h
  | case4 _ _ _ _ hesc _ ih =>
    rw [parseStrBytes_backslash, hesc] at h
    exact (ih h).trans (by have := parseEscape_length_lt hesc; simp only [List.length_cons]; omega)
  | case5 _ _ _ h1 h2 h3 => rw [parseStrBytes, if_neg h1, if_neg h2, if_pos h3] at h; cases h
  | case6 _ _ _ h1 h2 h3 ih =>
    rw [parseStrBytes, if_neg h1, if_neg h2, if_neg h3] at h
    exact (ih h).trans (Nat.lt_succ_self _)

theorem parseStr_length_lt {input rest : List Nat} {s : List Char}
    (h : parseStr input = .ok (s, rest)) : rest.length < input.length := by
  unfold parseStr at h
  rcases h₁ : parseStrBytes [] input with err | ⟨bytes, rest₁⟩ <;> simp only [h₁] at h
  · cases h
  cases h₂ : decodeUtf8 bytes <;> simp only [h₂] at h
  · cases h
  cases h
  exact parseStrBytes_length_lt h₁

theorem ignoreStr_length_lt {input rest : List Nat} (h : ignoreStr input = .ok rest) :
    rest.length < input.length := by
  induction input using ignoreStr.induct with
  | case1 => simp [ignoreStr] at h
  | case2 => simp [ignoreStr] at h; simp [h]
  | case3 _ _ herr => simp [ignoreStr_backslash, herr] at h
  | case4 _ _ hesc _ ih =>
    rw [ignoreStr_backslash, hesc] at h
    exact (ih h).trans (by have := ignoreEscape_length_lt hesc; simp only [List.length_cons]; omega)
  | case5 _ _ h1 h2 h3 => rw [ignoreStr, if_neg h1, if_neg h2, if_pos h3] at h; cases h
  | case6 _ _ h1 h2 h3 ih =>
    rw [ignoreStr, if_neg h1, if_neg h2, if_neg h3] at h
    exact (ih h).trans (Nat.lt_succ_self _)

/-! ### Numbers -/

/-- An ASCII digit. -/
def isDigit (b : Nat) : Bool := 48 ≤ b && b ≤ 57

/-- `peek_or_null`: the next octet, `0` at the end of the input. -/
def peekOrNull : List Nat → Nat
  | [] => 0
  | b :: _ => b

/-- `ignore_exponent`, from the `e` or `E`: a sign, then at least one digit. -/
def ignoreExponent (input : List Nat) : Except JsonError (List Nat) :=
  let rest := input.drop 1
  let rest := if peekOrNull rest = 43 ∨ peekOrNull rest = 45 then rest.drop 1 else rest
  match rest with
  | b :: rest => if isDigit b then .ok (rest.dropWhile isDigit) else .error .invalidNumber
  | [] => .error .invalidNumber

/-- `ignore_decimal`, from the point: at least one digit, then an optional exponent. -/
def ignoreDecimal (input : List Nat) : Except JsonError (List Nat) :=
  let rest := input.drop 1
  if isDigit (peekOrNull rest) then
    let rest := rest.dropWhile isDigit
    if peekOrNull rest = 101 ∨ peekOrNull rest = 69 then ignoreExponent rest else .ok rest
  else .error .invalidNumber

/-- `ignore_integer`: a `0` alone or digits from `1`, then an optional fraction or exponent. -/
def ignoreInteger (input : List Nat) : Except JsonError (List Nat) :=
  let fraction (rest : List Nat) : Except JsonError (List Nat) :=
    if peekOrNull rest = 46 then ignoreDecimal rest
    else if peekOrNull rest = 101 ∨ peekOrNull rest = 69 then ignoreExponent rest
    else .ok rest
  match input with
  | [] => .error .invalidNumber
  | b :: rest =>
    if b = 48 then (if isDigit (peekOrNull rest) then .error .invalidNumber else fraction rest)
    else if 49 ≤ b ∧ b ≤ 57 then fraction (rest.dropWhile isDigit)
    else .error .invalidNumber

theorem ignoreExponent_length_lt {input rest : List Nat} (h : ignoreExponent input = .ok rest) :
    rest.length < input.length := by
  unfold ignoreExponent at h
  dsimp only at h
  split at h
  · next b rest' heq =>
    split_ifs at h
    cases h
    have hle : (b :: rest').length ≤ (input.drop 1).length := by
      rw [← heq]
      split_ifs <;> simp only [List.length_drop] <;> omega
    have := (List.dropWhile_suffix (p := isDigit) (l := rest')).length_le
    simp only [List.length_cons, List.length_drop] at hle
    omega
  · cases h

theorem ignoreDecimal_length_lt {input rest : List Nat} (h : ignoreDecimal input = .ok rest) :
    rest.length < input.length := by
  unfold ignoreDecimal at h
  dsimp only at h
  split_ifs at h with hd he
  · have := ignoreExponent_length_lt h
    have := (List.dropWhile_suffix (p := isDigit) (l := input.drop 1)).length_le
    simp only [List.length_drop] at *
    omega
  · cases h
    cases input with
    | nil => simp [peekOrNull, isDigit] at hd
    | cons b input =>
      have := (List.dropWhile_suffix (p := isDigit) (l := input)).length_le
      simp only [List.drop_one, List.tail_cons, List.length_cons]
      omega

theorem ignoreInteger_length_lt {input rest : List Nat} (h : ignoreInteger input = .ok rest) :
    rest.length < input.length := by
  have fraction : ∀ {r : List Nat}, (if peekOrNull r = 46 then ignoreDecimal r
      else if peekOrNull r = 101 ∨ peekOrNull r = 69 then ignoreExponent r else .ok r) = .ok rest →
      rest.length ≤ r.length := fun h => by
    split_ifs at h
    · exact (ignoreDecimal_length_lt h).le
    · exact (ignoreExponent_length_lt h).le
    · cases h; exact le_rfl
  unfold ignoreInteger at h
  split at h
  · cases h
  · next b rest' =>
    split_ifs at h
    · exact (fraction h).trans_lt (Nat.lt_succ_self _)
    · exact (fraction h).trans_lt (Nat.lt_succ_of_le (List.dropWhile_suffix _).length_le)

/-! ### Skipping a value -/

/-- The start of one turn of `ignore_value`'s loop: a scalar is skipped whole (`none`); an
opening bracket is eaten and opens a frame (`some` of the bracket). -/
def ignoreValueStart (input : List Nat) : Except JsonError (Option Nat × List Nat) :=
  match parseWhitespace input with
  | [] => .error .eofWhileParsingValue
  | b :: rest =>
    if b = 110 then (parseIdent (ascii "ull") rest).map (none, ·)
    else if b = 116 then (parseIdent (ascii "rue") rest).map (none, ·)
    else if b = 102 then (parseIdent (ascii "alse") rest).map (none, ·)
    else if b = 45 then (ignoreInteger rest).map (none, ·)
    else if isDigit b then (ignoreInteger (b :: rest)).map (none, ·)
    else if b = 34 then (ignoreStr rest).map (none, ·)
    else if b = 91 ∨ b = 123 then .ok (some b, rest)
    else .error .expectedSomeValue

/-- The inner loop of `ignore_value`, after a value inside `frame` with the frames `stack` around
it: a comma (where one is accepted) goes on to the next element of `frame`; a closing bracket of
`frame` closes it and goes on in the frame around it, and `none` says the outermost frame has
closed; anything else goes on to a value when no comma is expected. -/
def closeFrames (acceptComma : Bool) (frame : Nat) (stack input : List Nat) :
    Except JsonError (Option (Nat × List Nat) × List Nat) :=
  match _hws : parseWhitespace input with
  | [] => .error (if frame = 91 then .eofWhileParsingList else .eofWhileParsingObject)
  | b :: rest =>
    if b = 44 ∧ acceptComma then .ok (some (frame, stack), rest)
    else if (b = 93 ∧ frame = 91) ∨ (b = 125 ∧ frame = 123) then
      match stack with
      | [] => .ok (none, rest)
      | outer :: stack => closeFrames true outer stack rest
    else if acceptComma then
      .error (if frame = 91 then .expectedListCommaOrEnd else .expectedObjectCommaOrEnd)
    else .ok (some (frame, stack), b :: rest)
termination_by input.length
decreasing_by
  have := parseWhitespace_length_le input
  rw [_hws, List.length_cons] at this
  omega

/-- The key of an object's entry that `ignore_value` skips, up to its colon. -/
def ignoreObjectKey (input : List Nat) : Except JsonError (List Nat) :=
  match parseWhitespace input with
  | [] => .error .eofWhileParsingObject
  | b :: rest =>
    if b = 34 then
      match ignoreStr rest with
      | .error err => .error err
      | .ok rest =>
        match parseWhitespace rest with
        | [] => .error .eofWhileParsingObject
        | b :: rest => if b = 58 then .ok rest else .error .expectedColon
    else .error .keyMustBeAString

theorem ok_of_map_none {r : Except JsonError (List Nat)} {opened : Option Nat} {rest : List Nat}
    (h : r.map (none, ·) = .ok (opened, rest)) : r = .ok rest := by
  cases r with
  | error => cases h
  | ok r => simp only [Except.map, Except.ok.injEq, Prod.mk.injEq] at h; rw [h.2]

theorem ok_of_map_unit {r : Except JsonError (List Nat)} {u : Unit} {rest : List Nat}
    (h : r.map ((), ·) = .ok (u, rest)) : r = .ok rest := by
  cases r with
  | error => cases h
  | ok r => simp only [Except.map, Except.ok.injEq, Prod.mk.injEq] at h; rw [h.2]

theorem ignoreValueStart_length_lt {input rest : List Nat} {opened : Option Nat}
    (h : ignoreValueStart input = .ok (opened, rest)) : rest.length < input.length := by
  unfold ignoreValueStart at h
  have hws := parseWhitespace_length_le input
  split at h
  · cases h
  next b rest' heq =>
  rw [heq, List.length_cons] at hws
  by_cases hn : b = 110
  · rw [if_pos hn] at h
    have := parseIdent_length_le (ok_of_map_none h); omega
  rw [if_neg hn] at h
  by_cases ht : b = 116
  · rw [if_pos ht] at h
    have := parseIdent_length_le (ok_of_map_none h); omega
  rw [if_neg ht] at h
  by_cases hf : b = 102
  · rw [if_pos hf] at h
    have := parseIdent_length_le (ok_of_map_none h); omega
  rw [if_neg hf] at h
  by_cases hminus : b = 45
  · rw [if_pos hminus] at h
    have := ignoreInteger_length_lt (ok_of_map_none h); omega
  rw [if_neg hminus] at h
  by_cases hdigit : isDigit b
  · rw [if_pos hdigit] at h
    have := ignoreInteger_length_lt (ok_of_map_none h); simp only [List.length_cons] at this; omega
  rw [if_neg hdigit] at h
  by_cases hquote : b = 34
  · rw [if_pos hquote] at h
    have := ignoreStr_length_lt (ok_of_map_none h); omega
  rw [if_neg hquote] at h
  split at h
  · cases h
    omega
  · cases h

theorem closeFrames_length_le {acceptComma : Bool} {frame : Nat} {stack input rest : List Nat}
    {next : Option (Nat × List Nat)} (h : closeFrames acceptComma frame stack input = .ok (next, rest)) :
    rest.length ≤ input.length := by
  induction input using Nat.strongRecMeasure List.length generalizing acceptComma frame stack next rest with
  | _ input ih =>
  rw [closeFrames] at h
  have hws := parseWhitespace_length_le input
  split at h
  · cases h
  next b rest' heq =>
  rw [heq, List.length_cons] at hws
  split_ifs at h
  · cases h; omega
  · split at h
    · cases h; omega
    · exact (ih rest' (by omega) h).trans (by omega)
  · cases h; simp only [List.length_cons]; omega

theorem ignoreObjectKey_length_le {input rest : List Nat} (h : ignoreObjectKey input = .ok rest) :
    rest.length ≤ input.length := by
  unfold ignoreObjectKey at h
  have hws := parseWhitespace_length_le input
  split at h
  · cases h
  next b rest' heq =>
  rw [heq, List.length_cons] at hws
  split_ifs at h
  split at h
  · cases h
  next rest'' hstr =>
  have hws' := parseWhitespace_length_le rest''
  have := ignoreStr_length_lt hstr
  split at h
  · cases h
  next heq' =>
  rw [heq', List.length_cons] at hws'
  split_ifs at h
  cases h
  omega

/-- After the start of a value: the frame the inner loop of `ignore_value` works on, whether a
comma may come first, and the frames around it; `none` when the value stands alone.  A value that
opens a frame pushes `enclosing` on the stack. -/
def currentFrame (opened enclosing : Option Nat) (stack : List Nat) : Option (Bool × Nat × List Nat) :=
  match opened, enclosing with
  | some frame, _ => some (false, frame, enclosing.toList ++ stack)
  | none, some frame => some (true, frame, stack)
  | none, none => stack.head?.map fun frame => (true, frame, stack.tail)

/-- `ignore_value`'s loop, with `enclosing` the frame of the last value read and `stack` the
frames around it, innermost first (serde_json keeps them in its scratch buffer): a value is
skipped, then the frames it closes, then the key of the next entry of an object. -/
def ignoreValueLoop (enclosing : Option Nat) (stack input : List Nat) : Except JsonError (List Nat) :=
  match _hstart : ignoreValueStart input with
  | .error err => .error err
  | .ok (opened, rest) =>
    match currentFrame opened enclosing stack with
    | none => .ok rest
    | some (acceptComma, frame, stack) =>
      match _hclose : closeFrames acceptComma frame stack rest with
      | .error err => .error err
      | .ok (none, rest') => .ok rest'
      | .ok (some (frame, stack), rest') =>
        if frame = 123 then
          match _hkey : ignoreObjectKey rest' with
          | .error err => .error err
          | .ok rest'' => ignoreValueLoop (some frame) stack rest''
        else ignoreValueLoop (some frame) stack rest'
termination_by input.length
decreasing_by
  · have := ignoreValueStart_length_lt _hstart
    have := closeFrames_length_le _hclose
    have := ignoreObjectKey_length_le _hkey
    omega
  · have := ignoreValueStart_length_lt _hstart
    have := closeFrames_length_le _hclose
    omega

/-- `ignore_value`: one value of any shape, not kept; its brackets are matched with a stack
rather than by recursion. -/
def ignoreValue (input : List Nat) : Except JsonError (List Nat) := ignoreValueLoop none [] input

theorem ignoreValue_length_le {input rest : List Nat} (h : ignoreValue input = .ok rest) :
    rest.length ≤ input.length := by
  unfold ignoreValue at h
  generalize (none : Option Nat) = enclosing, ([] : List Nat) = stack at h
  induction input using Nat.strongRecMeasure List.length generalizing enclosing stack rest with
  | _ input ih =>
  rw [ignoreValueLoop] at h
  split at h
  · cases h
  next opened rest₁ hstart =>
  have h₁ := ignoreValueStart_length_lt hstart
  split at h
  · cases h; omega
  split at h
  · cases h
  · next hclose => cases h; have := closeFrames_length_le hclose; omega
  next rest₂ hclose =>
  have h₂ := closeFrames_length_le hclose
  split_ifs at h
  · split at h
    · cases h
    next rest₃ hkey =>
    have h₃ := ignoreObjectKey_length_le hkey
    exact (ih rest₃ (by omega) _ _ h).trans (by omega)
  · exact (ih rest₂ (by omega) _ _ h).trans (by omega)

end Config
end Sqld
