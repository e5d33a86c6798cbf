import Sqld.Config.Syntax
import Sqld.Config.RoundTrip

/-!
# `ignore_value` skips one JSON value

The value of an unknown key is skipped by serde_json's `ignore_value`, which does not recurse:
it keeps the brackets it has opened on a stack and runs one loop until the stack is empty.
This module shows that loop skips exactly the text of any value (`ignoreValue_write`),
however deep its nesting.

* The readers of tokens are run on their text: whitespace (`parseWhitespace_blank`), a
  number, however it is spelt (`ignoreValueStart_number`), and a string
  (`ignoreStr_escaped`, from the fact that `ignore_str` stops where the validating scanner
  stops, `ignoreStr_of_parseStrBytes`).
* `ignoreValueLoop_eq` splits a turn of the loop into the start of a value and what follows it,
  `afterValue`.
* `skips` is the induction over the syntax: a value is skipped whatever frames are open around
  it, and the rest of an array or an object closes its frame.
-/

namespace Sqld
namespace Config

/-! ## Tokens -/

/-- An octet of an ASCII character is the character's code. -/
theorem octets_cons_of_lt {c : Char} (cs : List Char) (h : c.toNat < 0x80) :
    octets (c :: cs) = c.toNat :: octets cs := by
  rw [octets_cons, encodeUtf8_of_lt h, List.singleton_append]

/-- An ASCII character, whose octet is `n`. -/
theorem octets_cons_ascii {c : Char} (cs : List Char) {n : Nat} (h : c.toNat = n) (hn : n < 0x80) :
    octets (c :: cs) = n :: octets cs :=
  h ▸ octets_cons_of_lt cs (h ▸ hn)

theorem parseWhitespace_cons_of_ws {b : Nat} (h : isJsonWhitespace b) (input : List Nat) :
    parseWhitespace (b :: input) = parseWhitespace input :=
  List.dropWhile_cons_of_pos h

theorem parseWhitespace_cons_of_not_ws {b : Nat} (h : ¬isJsonWhitespace b) (input : List Nat) :
    parseWhitespace (b :: input) = b :: input :=
  List.dropWhile_cons_of_neg h

theorem parseWhitespace_parseWhitespace (input : List Nat) :
    parseWhitespace (parseWhitespace input) = parseWhitespace input := by
  induction input with
  | nil => rfl
  | cons b input ih =>
    by_cases hb : isJsonWhitespace b
    · rw [parseWhitespace_cons_of_ws hb, ih]
    · rw [parseWhitespace_cons_of_not_ws hb, parseWhitespace_cons_of_not_ws hb]

theorem octets_blankChars (blank : List Space) :
    octets (blankChars blank) = blank.map fun sp => sp.toChar.toNat := by
  induction blank with
  | nil => rfl
  | cons sp blank ih =>
    rw [blankChars, List.map_cons, octets_cons_of_lt _ (by cases sp <;> decide), ← blankChars, ih,
      List.map_cons]

/-- Whitespace before a token is skipped. -/
@[simp] theorem parseWhitespace_blank (blank : List Space) (input : List Nat) :
    parseWhitespace (octets (blankChars blank) ++ input) = parseWhitespace input := by
  induction blank with
  | nil => rfl
  | cons sp blank ih =>
    rw [blankChars, List.map_cons, octets_cons_of_lt _ (by cases sp <;> decide), ← blankChars,
      List.cons_append, parseWhitespace_cons_of_ws (by cases sp <;> decide), ih]

/-- `Char.ofNat` of a code point below the surrogates gives that code point back. -/
theorem Char.toNat_ofNat_of_lt {n : Nat} (h : n < 0xD800) : (Char.ofNat n).toNat = n := by
  rw [Char.ofNat, dif_pos (Or.inl h)]
  rfl

theorem octets_digitChars (digits : List (Fin 10)) :
    octets (digitChars digits) = digits.map fun d : Fin 10 => 48 + d.val := by
  induction digits with
  | nil => rfl
  | cons d digits ih =>
    have hc : (Char.ofNat (48 + d.val)).toNat = 48 + d.val := Char.toNat_ofNat_of_lt (by omega)
    rw [digitChars, List.map_cons,
      octets_cons_of_lt _ (show (Char.ofNat (48 + d.val)).toNat < 0x80 by omega), hc,
      ← digitChars, ih, List.map_cons]

/-! ### Numbers -/

theorem octets_fractionChars_some (d : Fin 10) (ds : List (Fin 10)) :
    octets (fractionChars (some (d, ds))) = 46 :: octets (digitChars (d :: ds)) :=
  octets_cons_ascii (c := '.') _ rfl (by decide)

theorem IntegerPart.octets_chars_digits (lead : Fin 9) (ds : List (Fin 10)) :
    octets (IntegerPart.digits lead ds).chars = (49 + lead.val) :: octets (digitChars ds) :=
  have := lead.isLt
  octets_cons_ascii _ (Char.toNat_ofNat_of_lt (by omega)) (by omega)

/-- What may follow a number: nothing that would continue it (a digit, a point, an exponent). -/
def Delimited (rest : List Nat) : Prop :=
  isDigit (peekOrNull rest) = false ∧ peekOrNull rest ≠ 46 ∧ peekOrNull rest ≠ 101 ∧
    peekOrNull rest ≠ 69

instance (rest : List Nat) : Decidable (Delimited rest) :=
  inferInstanceAs (Decidable (isDigit (peekOrNull rest) = false ∧ peekOrNull rest ≠ 46 ∧
    peekOrNull rest ≠ 101 ∧ peekOrNull rest ≠ 69))

theorem delimited_of_peek {input : List Nat} {b : Nat} (h : peekOrNull input = b)
    (hb : b = 32 ∨ b = 9 ∨ b = 10 ∨ b = 13 ∨ b = 44 ∨ b = 93 ∨ b = 125) : Delimited input := by
  subst h
  refine ⟨?_, by omega, by omega, by omega⟩
  simp only [isDigit, Bool.and_eq_false_iff, decide_eq_false_iff_not]
  omega

/-- Whitespace, then a comma or a closing bracket or brace, may follow a number. -/
theorem delimited_blank (blank : List Space) {b : Nat} (hb : b = 44 ∨ b = 93 ∨ b = 125)
    (rest : List Nat) : Delimited (octets (blankChars blank) ++ b :: rest) := by
  cases blank with
  | nil => exact delimited_of_peek (b := b) rfl (by omega)
  | cons sp blank =>
    cases sp
    · exact delimited_of_peek (b := 32) rfl (by decide)
    · exact delimited_of_peek (b := 9) rfl (by decide)
    · exact delimited_of_peek (b := 10) rfl (by decide)
    · exact delimited_of_peek (b := 13) rfl (by decide)

theorem dropWhile_isDigit_digits (digits : List (Fin 10)) (rest : List Nat) :
    (octets (digitChars digits) ++ rest).dropWhile isDigit = rest.dropWhile isDigit := by
  rw [octets_digitChars]
  induction digits with
  | nil => rfl
  | cons d digits ih =>
    have hd := d.isLt
    rw [List.map_cons, List.cons_append, List.dropWhile_cons_of_pos (by simp [isDigit]; omega), ih]

theorem dropWhile_isDigit_of_not_digit {rest : List Nat} (h : isDigit (peekOrNull rest) = false) :
    rest.dropWhile isDigit = rest := by
  cases rest with
  | nil => rfl
  | cons b rest => exact List.dropWhile_cons_of_neg (by simpa [peekOrNull] using h)

/-- `ignore_exponent` after the `e`: an optional sign, then digits. -/
theorem ignoreExponent_digits {m d : Nat} {sign : List Nat}
    (hsign : sign = [] ∨ sign = [45] ∨ sign = [43]) (hd : isDigit d = true) (rest : List Nat) :
    ignoreExponent (m :: (sign ++ d :: rest)) = .ok (rest.dropWhile isDigit) := by
  have hd' : d ≠ 43 ∧ d ≠ 45 := by simp [isDigit] at hd; omega
  rcases hsign with rfl | rfl | rfl <;> simp [ignoreExponent, peekOrNull, hd, hd']

theorem isDigit_digit (d : Fin 10) : isDigit (48 + d.val) = true := by
  have := d.isLt
  simp [isDigit]
  omega

/-- An exponent, followed by anything but a digit. -/
theorem ignoreExponent_chars (e : Exponent) {rest : List Nat}
    (h : isDigit (peekOrNull rest) = false) : ignoreExponent (octets e.chars ++ rest) = .ok rest := by
  have hsign : octets (signChars e.sign) = [] ∨ octets (signChars e.sign) = [45] ∨
      octets (signChars e.sign) = [43] := by
    rcases e.sign with _ | _ | _ <;> decide
  rw [Exponent.chars, octets_cons_of_lt _ (by split <;> decide), octets_append, octets_digitChars,
    List.map_cons]
  simp only [List.cons_append, List.append_assoc]
  rw [ignoreExponent_digits hsign (isDigit_digit e.first), ← octets_digitChars,
    dropWhile_isDigit_digits, dropWhile_isDigit_of_not_digit h]

/-- What `ignore_decimal` and `ignore_integer` do after their digits: an exponent, or nothing. -/
def ignoreExponentOpt (input : List Nat) : Except JsonError (List Nat) :=
  if peekOrNull input = 101 ∨ peekOrNull input = 69 then ignoreExponent input else .ok input

/-- The part of `ignore_integer` after the integer part: a fraction, or what
`ignoreExponentOpt` reads. -/
def ignoreFraction (input : List Nat) : Except JsonError (List Nat) :=
  if peekOrNull input = 46 then ignoreDecimal input else ignoreExponentOpt input

theorem ignoreDecimal_eq (input : List Nat) :
    ignoreDecimal input =
      if isDigit (peekOrNull (input.drop 1)) then ignoreExponentOpt ((input.drop 1).dropWhile isDigit)
      else .error .invalidNumber := rfl

theorem ignoreInteger_cons (b : Nat) (rest : List Nat) :
    ignoreInteger (b :: rest) =
      if b = 48 then (if isDigit (peekOrNull rest) then .error .invalidNumber else ignoreFraction rest)
      else if 49 ≤ b ∧ b ≤ 57 then ignoreFraction (rest.dropWhile isDigit)
      else .error .invalidNumber := rfl

/-- The first octet of an exponent is its `e` or `E`. -/
theorem octets_exponentChars_some (e : Exponent) :
    ∃ tail, octets (exponentChars (some e)) = (if e.upper then 69 else 101) :: tail :=
  ⟨_, by rw [exponentChars, Exponent.chars, octets_cons_of_lt _ (by split <;> decide)]; split <;> rfl⟩

theorem peekOrNull_exponentChars_some (e : Exponent) (rest : List Nat) :
    peekOrNull (octets (exponentChars (some e)) ++ rest) = 101 ∨
      peekOrNull (octets (exponentChars (some e)) ++ rest) = 69 := by
  obtain ⟨tail, htail⟩ := octets_exponentChars_some e
  rw [htail]
  split <;> simp [peekOrNull]

theorem peekOrNull_fractionChars_some (d : Fin 10) (ds : List (Fin 10)) (rest : List Nat) :
    peekOrNull (octets (fractionChars (some (d, ds))) ++ rest) = 46 := by
  rw [octets_fractionChars_some]
  rfl

theorem ignoreExponentOpt_exponent (exponent : Option Exponent) {rest : List Nat}
    (h : Delimited rest) : ignoreExponentOpt (octets (exponentChars exponent) ++ rest) = .ok rest := by
  cases exponent with
  | none => exact if_neg fun h' => h'.elim h.2.2.1 h.2.2.2
  | some e =>
    rw [ignoreExponentOpt, if_pos (peekOrNull_exponentChars_some e rest), exponentChars,
      ignoreExponent_chars e h.1]

theorem exponentChars_not_digit (exponent : Option Exponent) {rest : List Nat}
    (h : Delimited rest) : isDigit (peekOrNull (octets (exponentChars exponent) ++ rest)) = false := by
  cases exponent with
  | none => exact h.1
  | some e => rcases peekOrNull_exponentChars_some e rest with he | he <;> rw [he] <;> rfl

theorem exponentChars_ne_point (exponent : Option Exponent) {rest : List Nat}
    (h : Delimited rest) : peekOrNull (octets (exponentChars exponent) ++ rest) ≠ 46 := by
  cases exponent with
  | none => exact h.2.1
  | some e => rcases peekOrNull_exponentChars_some e rest with he | he <;> rw [he] <;> decide

/-- The part of a number after its integer part, followed by what may follow a number. -/
theorem ignoreFraction_tail (n : JsonNumber) {rest : List Nat} (h : Delimited rest) :
    ignoreFraction (octets n.tailChars ++ rest) = .ok rest := by
  rw [JsonNumber.tailChars, octets_append, List.append_assoc]
  cases n.fraction with
  | none =>
    rw [fractionChars, octets_nil, List.nil_append, ignoreFraction,
      if_neg (exponentChars_ne_point n.exponent h), ignoreExponentOpt_exponent n.exponent h]
  | some dds =>
    obtain ⟨d, ds⟩ := dds
    rw [octets_fractionChars_some, List.cons_append, ignoreFraction,
      if_pos (show peekOrNull (46 :: _) = 46 from rfl), ignoreDecimal_eq, List.drop_one, List.tail_cons, octets_digitChars, List.map_cons,
      List.cons_append, peekOrNull, if_pos (isDigit_digit d),
      List.dropWhile_cons_of_pos (isDigit_digit d), ← octets_digitChars, dropWhile_isDigit_digits,
      dropWhile_isDigit_of_not_digit (exponentChars_not_digit n.exponent h),
      ignoreExponentOpt_exponent n.exponent h]

theorem tailChars_not_digit (n : JsonNumber) {rest : List Nat} (h : Delimited rest) :
    isDigit (peekOrNull (octets n.tailChars ++ rest)) = false := by
  rw [JsonNumber.tailChars, octets_append, List.append_assoc]
  cases n.fraction with
  | none => exact exponentChars_not_digit n.exponent h
  | some dds => rw [peekOrNull_fractionChars_some dds.1 dds.2]; rfl

/-- The integer part and the rest of a number, followed by what may follow a number. -/
theorem ignoreInteger_number (n : JsonNumber) {rest : List Nat} (h : Delimited rest) :
    ignoreInteger (octets (n.integer.chars ++ n.tailChars) ++ rest) = .ok rest := by
  cases n.integer with
  | zero =>
    rw [IntegerPart.chars, List.singleton_append, octets_cons_ascii (c := '0') (n := 48) _ rfl (by decide),
      List.cons_append, ignoreInteger_cons, if_pos rfl, if_neg (by rw [tailChars_not_digit n h]; decide),
      ignoreFraction_tail n h]
  | digits lead ds =>
    have hlead := lead.isLt
    rw [octets_append, IntegerPart.octets_chars_digits, List.cons_append, List.cons_append,
      ignoreInteger_cons, if_neg (by omega), if_pos (by omega), List.append_assoc, dropWhile_isDigit_digits,
      dropWhile_isDigit_of_not_digit (tailChars_not_digit n h), ignoreFraction_tail n h]

/-! ### Strings -/

/-- An escape the validating scanner accepts is one `ignore_str` skips, a surrogate pair as two
escapes. -/
theorem ignoreStr_backslash_of_parseEscape {scratch input scratch' rest : List Nat}
    (h : parseEscape scratch input = .ok (scratch', rest)) :
    ignoreStr (92 :: input) = ignoreStr rest := by
  rw [ignoreStr_backslash]
  match input, h with
  | ch :: input', h =>
    simp only [parseEscape] at h
    cases hshort : shortEscape ch with
    | some b =>
      rw [hshort] at h
      cases h
      simp [ignoreEscape, hshort]
    | none =>
      rw [hshort] at h
      split_ifs at h with hu
      subst hu
      unfold parseUnicodeEscape at h
      rcases hhex : decodeHexEscape input' with err | ⟨n, rest₁⟩ <;> simp only [hhex] at h
      · cases h
      have hignore : ignoreEscape (117 :: input') = .ok rest₁ := by
        simp [ignoreEscape, hshort, hhex, Except.map]
      rw [hignore]
      dsimp only
      split_ifs at h
      · cases h; rfl
      split at h
      any_goals cases h
      next rest₂ =>
      rcases hhex₂ : decodeHexEscape rest₂ with err | ⟨n2, rest₃⟩ <;> simp only [hhex₂] at h
      · cases h
      split_ifs at h
      cases h
      rw [ignoreStr_backslash]
      simp [ignoreEscape, hshort, hhex₂, Except.map]

/-- `ignore_str` stops where the validating scanner `parse_str_bytes` stops. -/
theorem ignoreStr_of_parseStrBytes {scratch input scratch' rest : List Nat}
    (h : parseStrBytes scratch input = .ok (scratch', rest)) : ignoreStr input = .ok rest := by
  induction scratch, input using parseStrBytes.induct with
  | case1 => simp [parseStrBytes] at h
  | case2 =>
    simp only [parseStrBytes, if_true, Except.ok.injEq, Prod.mk.injEq] at h
    rw [ignoreStr, if_pos rfl, h.2]
  | case3 _ _ _ herr => simp [parseStrBytes_backslash, herr] at h
  | case4 _ _ _ _ hesc _ ih =>
    rw [parseStrBytes_backslash, hesc] at h
    rw [ignoreStr_backslash_of_parseEscape hesc, ih h]
  | case5 _ _ _ h1 h2 h3 => rw [parseStrBytes, if_neg h1, if_neg h2, if_pos h3] at h; cases h
  | case6 _ _ _ h1 h2 h3 ih =>
    rw [parseStrBytes, if_neg h1, if_neg h2, if_neg h3] at h
    rw [ignoreStr, if_neg h1, if_neg h2, if_neg h3, ih h]

/-- The characters of a text as serde_json's writer escapes them, then the closing quote. -/
theorem ignoreStr_escaped (s : String) (rest : List Nat) :
    ignoreStr (octets (s.toList.flatMap escapeChar) ++ 34 :: rest) = .ok rest :=
  ignoreStr_of_parseStrBytes (parseStrBytes_escaped rest s.toList [])

/-! ## The first token of a value -/

/-- The first octet of an integer part. -/
def IntegerPart.lead : IntegerPart → Nat
  | .zero => 48
  | .digits lead _ => 49 + lead.val

namespace JsonSyntax

/-- The first octet of a value's text. -/
def lead : JsonSyntax .value → Nat
  | .null => 110
  | .bool b => if b then 116 else 102
  | .number n => if n.negative then 45 else n.integer.lead
  | .string _ => 34
  | .emptyArray _ => 91
  | .array .. => 91
  | .emptyObject _ => 123
  | .object .. => 123

end JsonSyntax

theorem IntegerPart.octets_chars (i : IntegerPart) :
    ∃ tail, octets i.chars = i.lead :: tail := by
  cases i with
  | zero => exact ⟨[], rfl⟩
  | digits lead ds => exact ⟨_, IntegerPart.octets_chars_digits lead ds⟩

theorem IntegerPart.isDigit_lead (i : IntegerPart) : isDigit i.lead = true := by
  cases i with
  | zero => rfl
  | digits lead ds => have := lead.isLt; simp [IntegerPart.lead, isDigit]; omega

theorem JsonNumber.octets_chars (n : JsonNumber) :
    octets n.chars =
      (if n.negative then [45] else []) ++ octets (n.integer.chars ++ n.tailChars) := by
  rw [JsonNumber.chars, List.append_assoc, octets_append]
  cases n.negative <;> rfl

/-- The text of a value starts with its first octet. -/
theorem JsonSyntax.octets_write (v : JsonSyntax .value) : ∃ tail, octets v.write = v.lead :: tail := by
  cases v with
  | null => exact ⟨_, rfl⟩
  | bool b => cases b <;> exact ⟨_, rfl⟩
  | number n =>
    rw [write, JsonNumber.octets_chars, lead]
    obtain ⟨tail, htail⟩ := n.integer.octets_chars
    cases n.negative
    · exact ⟨tail ++ octets n.tailChars, by rw [if_neg Bool.false_ne_true, octets_append, htail]; rfl⟩
    · exact ⟨_, rfl⟩
  | string s => exact ⟨_, by rw [write, octets_jsonString]; rfl⟩
  | emptyArray _ => exact ⟨_, octets_cons_ascii (c := '[') (n := 91) _ rfl (by decide)⟩
  | array _ _ _ _ => exact ⟨_, octets_cons_ascii (c := '[') (n := 91) _ rfl (by decide)⟩
  | emptyObject _ => exact ⟨_, octets_cons_ascii (c := '\x7b') (n := 123) _ rfl (by decide)⟩
  | object _ _ _ => exact ⟨_, octets_cons_ascii (c := '\x7b') (n := 123) _ rfl (by decide)⟩

/-- A value starts neither with whitespace, nor with a comma or a closing bracket. -/
theorem JsonSyntax.lead_ne (v : JsonSyntax .value) :
    isJsonWhitespace v.lead = false ∧ v.lead ≠ 44 ∧ v.lead ≠ 93 ∧ v.lead ≠ 125 := by
  have hdigit : ∀ i : IntegerPart, isJsonWhitespace i.lead = false ∧ i.lead ≠ 44 ∧ i.lead ≠ 93 ∧
      i.lead ≠ 125 := fun i => by
    have := i.isDigit_lead
    simp only [isDigit, Bool.and_eq_true, decide_eq_true_eq] at this
    simp only [isJsonWhitespace, Bool.or_eq_false_iff, decide_eq_false_iff_not]
    omega
  cases v with
  | bool b => cases b <;> decide
  | number n =>
    simp only [lead]
    cases n.negative
    · rw [if_neg Bool.false_ne_true]; exact hdigit _
    · rw [if_pos rfl]; decide
  | _ => simp only [lead]; decide

theorem JsonSyntax.parseWhitespace_write (v : JsonSyntax .value) (rest : List Nat) :
    parseWhitespace (octets v.write ++ rest) = octets v.write ++ rest := by
  obtain ⟨tail, htail⟩ := v.octets_write
  rw [htail, List.cons_append, parseWhitespace_cons_of_not_ws (by rw [v.lead_ne.1]; decide)]

/-! ### The start of each value -/

theorem ignoreValueStart_digit {b : Nat} (hb : isDigit b = true) (rest : List Nat) :
    ignoreValueStart (b :: rest) = (ignoreInteger (b :: rest)).map (none, ·) := by
  have hb' : 48 ≤ b ∧ b ≤ 57 := by simpa [isDigit] using hb
  rw [ignoreValueStart, parseWhitespace_cons_of_not_ws (by simp [isJsonWhitespace]; omega)]
  dsimp only
  rw [if_neg (by omega), if_neg (by omega), if_neg (by omega), if_neg (by omega), if_pos hb]

theorem ignoreValueStart_number (n : JsonNumber) {rest : List Nat} (h : Delimited rest) :
    ignoreValueStart (octets n.chars ++ rest) = .ok (none, rest) := by
  rw [JsonNumber.octets_chars]
  cases n.negative
  · obtain ⟨tail, htail⟩ := n.integer.octets_chars
    rw [if_neg Bool.false_ne_true, List.nil_append, octets_append, htail, List.cons_append,
      List.cons_append, ignoreValueStart_digit n.integer.isDigit_lead, ← List.cons_append,
      ← List.cons_append, ← htail, ← octets_append, ignoreInteger_number n h]
    rfl
  · show (ignoreInteger (octets (n.integer.chars ++ n.tailChars) ++ rest)).map (none, ·) = _
    rw [ignoreInteger_number n h]
    rfl

/-- A scalar is read whole by the first turn of `ignore_value`. -/
theorem ignoreValueStart_scalar (v : JsonSyntax .value) (hv : v.lead ≠ 91 ∧ v.lead ≠ 123)
    {rest : List Nat} (h : Delimited rest) : ignoreValueStart (octets v.write ++ rest) = .ok (none, rest) := by
  cases v with
  | null => rfl
  | bool b => cases b <;> rfl
  | number n => exact ignoreValueStart_number n h
  | string s =>
    rw [JsonSyntax.write, octets_jsonString]
    simp only [List.cons_append, List.append_assoc, List.singleton_append]
    show (ignoreStr _).map (none, ·) = _
    rw [ignoreStr_escaped]
    rfl
  | _ => simp [JsonSyntax.lead] at hv

/-- An opening bracket or brace opens a frame. -/
theorem ignoreValueStart_bracket {b : Nat} (hb : b = 91 ∨ b = 123) (input : List Nat) :
    ignoreValueStart (b :: input) = .ok (some b, input) := by
  rcases hb with rfl | rfl <;> rfl

theorem octets_write_emptyArray (inner : List Space) (rest : List Nat) :
    octets (JsonSyntax.emptyArray inner).write ++ rest =
      91 :: (octets (blankChars inner) ++ 93 :: rest) := by
  simp only [JsonSyntax.write, List.cons_append, octets_cons, octets_append, List.append_assoc]
  rfl

theorem octets_write_array (pre : List Space) (first : JsonSyntax .value)
    (more : JsonSyntax .elements) (close : List Space) (rest : List Nat) :
    octets (JsonSyntax.array pre first more close).write ++ rest =
      91 :: (octets (blankChars pre) ++ (octets first.write ++
        (octets (more.write ++ (blankChars close ++ [']'])) ++ rest))) := by
  simp only [JsonSyntax.write, List.cons_append, octets_cons, octets_append, List.append_assoc]
  rfl

theorem octets_write_emptyObject (inner : List Space) (rest : List Nat) :
    octets (JsonSyntax.emptyObject inner).write ++ rest =
      123 :: (octets (blankChars inner) ++ 125 :: rest) := by
  simp only [JsonSyntax.write, List.cons_append, octets_cons, octets_append, List.append_assoc]
  rfl

theorem octets_write_object (first : JsonSyntax .member) (more : JsonSyntax .members)
    (close : List Space) (rest : List Nat) :
    octets (JsonSyntax.object first more close).write ++ rest =
      123 :: (octets first.write ++ (octets (more.write ++ (blankChars close ++ ['\x7d'])) ++ rest)) := by
  simp only [JsonSyntax.write, List.cons_append, octets_cons, octets_append, List.append_assoc]
  rfl

theorem octets_write_element (comma pre : List Space) (value : JsonSyntax .value)
    (more : JsonSyntax .elements) (tail : List Char) (rest : List Nat) :
    octets ((JsonSyntax.element comma pre value more).write ++ tail) ++ rest =
      octets (blankChars comma) ++ 44 :: (octets (blankChars pre) ++ (octets value.write ++
        (octets (more.write ++ tail) ++ rest))) := by
  simp only [JsonSyntax.write, List.cons_append, octets_cons, octets_append, List.append_assoc]
  rfl

theorem octets_write_members (comma : List Space) (m : JsonSyntax .member)
    (more : JsonSyntax .members) (tail : List Char) (rest : List Nat) :
    octets ((JsonSyntax.members comma m more).write ++ tail) ++ rest =
      octets (blankChars comma) ++ 44 :: (octets m.write ++ (octets (more.write ++ tail) ++ rest)) := by
  simp only [JsonSyntax.write, List.cons_append, octets_cons, octets_append, List.append_assoc]
  rfl

theorem octets_write_member (pre : List Space) (key : String) (colon pre' : List Space)
    (value : JsonSyntax .value) (rest : List Nat) :
    octets (JsonSyntax.member pre key colon pre' value).write ++ rest =
      octets (blankChars pre) ++ 34 :: (octets (key.toList.flatMap escapeChar) ++ 34 ::
        (octets (blankChars colon) ++ 58 :: (octets (blankChars pre') ++ (octets value.write ++ rest)))) := by
  simp only [JsonSyntax.write, octets_jsonString, List.cons_append, octets_cons, octets_append,
    List.append_assoc, List.singleton_append]
  rfl

/-! ## The loop, one turn at a time -/

/-- After the inner loop hands a frame back: the key of an object's next entry, then the next
value in that frame. -/
def nextTurn (frame : Nat) (stack input : List Nat) : Except JsonError (List Nat) :=
  if frame = 123 then
    match ignoreObjectKey input with
    | .error err => .error err
    | .ok rest => ignoreValueLoop (some frame) stack rest
  else ignoreValueLoop (some frame) stack input

/-- The inner loop of `ignore_value` on `frame`, then the next turn of the loop. -/
def continueLoop (acceptComma : Bool) (frame : Nat) (stack input : List Nat) :
    Except JsonError (List Nat) :=
  match closeFrames acceptComma frame stack input with
  | .error err => .error err
  | .ok (none, rest) => .ok rest
  | .ok (some (frame, stack), rest) => nextTurn frame stack rest

/-- What `ignore_value` does after a value, with the frames `stack` open around it. -/
def afterValue : List Nat → List Nat → Except JsonError (List Nat)
  | [], rest => .ok rest
  | frame :: stack, rest => continueLoop true frame stack rest

theorem continueLoop_eq (acceptComma : Bool) (frame : Nat) (stack input : List Nat) :
    (match _hclose : closeFrames acceptComma frame stack input with
      | .error err => .error err
      | .ok (none, rest') => .ok rest'
      | .ok (some (frame, stack), rest') =>
        if frame = 123 then
          match _hkey : ignoreObjectKey rest' with
          | .error err => .error err
          | .ok rest'' => ignoreValueLoop (some frame) stack rest''
        else ignoreValueLoop (some frame) stack rest') =
      continueLoop acceptComma frame stack input := by
  unfold continueLoop nextTurn
  split
  · next heq => simp only [heq]
  · next heq => simp only [heq]
  · next heq =>
    simp only [heq]
    split_ifs
    · split <;> next heq' => simp only [heq']
    · rfl

/-- A turn of `ignore_value`'s loop: the start of a value, then what follows a scalar, or the
inner loop on the frame a bracket opens. -/
theorem ignoreValueLoop_eq (enclosing : Option Nat) (stack input : List Nat) :
    ignoreValueLoop enclosing stack input =
      match ignoreValueStart input with
      | .error err => .error err
      | .ok (none, rest) => afterValue (enclosing.toList ++ stack) rest
      | .ok (some frame, rest) => continueLoop false frame (enclosing.toList ++ stack) rest := by
  rw [ignoreValueLoop]
  split
  · next heq => simp only [heq]
  · next opened rest heq =>
    rw [heq]
    rcases opened with _ | frame <;> rcases enclosing with _ | outer
    · cases stack <;> simp only [currentFrame, afterValue, Option.toList, List.nil_append,
        List.head?, List.tail, Option.map]
      exact continueLoop_eq ..
    all_goals
      simp only [currentFrame, afterValue, Option.toList, List.nil_append, List.singleton_append]
      exact continueLoop_eq ..

/-! ### Whitespace before a turn -/

theorem ignoreValueStart_parseWhitespace (input : List Nat) :
    ignoreValueStart (parseWhitespace input) = ignoreValueStart input := by
  rw [ignoreValueStart, ignoreValueStart, parseWhitespace_parseWhitespace]

theorem ignoreObjectKey_parseWhitespace (input : List Nat) :
    ignoreObjectKey (parseWhitespace input) = ignoreObjectKey input := by
  rw [ignoreObjectKey, ignoreObjectKey, parseWhitespace_parseWhitespace]

theorem nextTurn_parseWhitespace (frame : Nat) (stack input : List Nat) :
    nextTurn frame stack (parseWhitespace input) = nextTurn frame stack input := by
  simp only [nextTurn, ignoreObjectKey_parseWhitespace, ignoreValueLoop_eq (some frame),
    ignoreValueStart_parseWhitespace]

/-! ### The inner loop on what follows a value -/

/-- A bracket that closes `frame`. -/
def Closes (b frame : Nat) : Prop := (b = 93 ∧ frame = 91) ∨ (b = 125 ∧ frame = 123)

/-- A closing bracket hands the value over to the frame around `frame`. -/
theorem continueLoop_close (acceptComma : Bool) {frame b : Nat} (hb : Closes b frame)
    (stack : List Nat) (blank : List Space) (rest : List Nat) :
    continueLoop acceptComma frame stack (octets (blankChars blank) ++ b :: rest) =
      afterValue stack rest := by
  unfold Closes at hb
  have hcomma : ¬(b = 44 ∧ acceptComma = true) := by omega
  unfold continueLoop
  rw [closeFrames, parseWhitespace_blank, parseWhitespace_cons_of_not_ws
    (by rcases hb with ⟨rfl, -⟩ | ⟨rfl, -⟩ <;> decide)]
  dsimp only
  rw [if_neg hcomma, if_pos hb]
  cases stack <;> rfl

/-- A comma goes on to the next element of `frame`. -/
theorem continueLoop_comma (frame : Nat) (stack : List Nat) (blank : List Space) (rest : List Nat) :
    continueLoop true frame stack (octets (blankChars blank) ++ 44 :: rest) =
      nextTurn frame stack rest := by
  unfold continueLoop
  rw [closeFrames, parseWhitespace_blank, parseWhitespace_cons_of_not_ws (by decide)]
  rfl

/-- What is neither a comma nor a closing bracket starts the first element of a frame just
opened. -/
theorem continueLoop_first {frame b : Nat} {stack input rest : List Nat}
    (hws : parseWhitespace input = b :: rest) (hb : b ≠ 44 ∧ b ≠ 93 ∧ b ≠ 125) :
    continueLoop false frame stack input = nextTurn frame stack input := by
  unfold continueLoop
  rw [closeFrames, hws]
  dsimp only
  rw [if_neg (by omega), if_neg (by omega), if_neg Bool.false_ne_true]
  dsimp only
  rw [← hws, nextTurn_parseWhitespace]

/-! ### Keys, and what follows a value in an array or an object -/

/-- A key is skipped up to its colon. -/
theorem ignoreObjectKey_key (pre : List Space) (key : String) (colon : List Space) (rest : List Nat) :
    ignoreObjectKey (octets (blankChars pre) ++ 34 :: (octets (key.toList.flatMap escapeChar) ++ 34 ::
      (octets (blankChars colon) ++ 58 :: rest))) = .ok rest := by
  rw [ignoreObjectKey, parseWhitespace_blank, parseWhitespace_cons_of_not_ws (by decide)]
  dsimp only
  rw [if_pos rfl, ignoreStr_escaped]
  dsimp only
  rw [parseWhitespace_blank, parseWhitespace_cons_of_not_ws (by decide)]
  rfl

/-- The whitespace and closing bracket at the end of an array or object. -/
theorem octets_closing (blank : List Space) {c : Char} {n : Nat} (h : c.toNat = n) (hn : n < 0x80)
    (rest : List Nat) : octets (blankChars blank ++ [c]) ++ rest = octets (blankChars blank) ++ n :: rest := by
  rw [octets_append, octets_cons_ascii _ h hn, List.append_assoc]
  rfl

theorem delimited_elements (more : JsonSyntax .elements) (close : List Space) (rest : List Nat) :
    Delimited (octets (more.write ++ (blankChars close ++ [']'])) ++ rest) := by
  cases more with
  | noElements =>
    rw [JsonSyntax.write, List.nil_append, octets_closing close (c := ']') (n := 93) rfl (by decide)]
    exact delimited_blank close (by omega) rest
  | element comma pre value more =>
    rw [octets_write_element]
    exact delimited_blank comma (by omega) _

theorem delimited_members (more : JsonSyntax .members) (close : List Space) (rest : List Nat) :
    Delimited (octets (more.write ++ (blankChars close ++ ['\x7d'])) ++ rest) := by
  cases more with
  | noMembers =>
    rw [JsonSyntax.write, List.nil_append, octets_closing close (c := '\x7d') (n := 125) rfl (by decide)]
    exact delimited_blank close (by omega) rest
  | members comma m more =>
    rw [octets_write_members]
    exact delimited_blank comma (by omega) _

theorem ignoreValueStart_blank (blank : List Space) (input : List Nat) :
    ignoreValueStart (octets (blankChars blank) ++ input) = ignoreValueStart input := by
  rw [← ignoreValueStart_parseWhitespace, parseWhitespace_blank, ignoreValueStart_parseWhitespace]

theorem JsonSyntax.parseWhitespace_blank_write (v : JsonSyntax .value) (blank : List Space)
    (rest : List Nat) : ∃ r, parseWhitespace (octets (blankChars blank) ++ (octets v.write ++ rest)) = v.lead :: r := by
  obtain ⟨tail, htail⟩ := v.octets_write
  exact ⟨tail ++ rest, by rw [parseWhitespace_blank, v.parseWhitespace_write, htail, List.cons_append]⟩

theorem JsonSyntax.parseWhitespace_member (m : JsonSyntax .member) (rest : List Nat) :
    ∃ r, parseWhitespace (octets m.write ++ rest) = 34 :: r := by
  cases m with
  | member pre key colon pre' value =>
    rw [octets_write_member, parseWhitespace_blank, parseWhitespace_cons_of_not_ws (by decide)]
    exact ⟨_, rfl⟩

theorem JsonSyntax.lead_number (n : JsonNumber) :
    45 ≤ (JsonSyntax.number n).lead ∧ (JsonSyntax.number n).lead ≤ 57 := by
  have := n.integer.isDigit_lead
  simp only [isDigit, Bool.and_eq_true, decide_eq_true_eq] at this
  simp only [JsonSyntax.lead]
  split <;> omega

/-! ## `ignore_value` on any text -/

/-- What `ignore_value` does on each kind of syntax: a value, with the whitespace before it, is
skipped whatever frames are open around it, and the loop goes on after it; the elements or
members after the first, with the closing bracket, close their frame. -/
def Skips : (k : SyntaxKind) → JsonSyntax k → Prop
  | .value, v => ∀ (enclosing : Option Nat) (stack : List Nat) (pre : List Space) (rest : List Nat),
      Delimited rest →
        ignoreValueLoop enclosing stack (octets (blankChars pre) ++ (octets v.write ++ rest)) =
          afterValue (enclosing.toList ++ stack) rest
  | .elements, more => ∀ (stack : List Nat) (close : List Space) (rest : List Nat),
      continueLoop true 91 stack (octets (more.write ++ (blankChars close ++ [']'])) ++ rest) =
        afterValue stack rest
  | .member, m => ∀ (stack rest : List Nat), Delimited rest →
      nextTurn 123 stack (octets m.write ++ rest) = afterValue (123 :: stack) rest
  | .members, more => ∀ (stack : List Nat) (close : List Space) (rest : List Nat),
      continueLoop true 123 stack (octets (more.write ++ (blankChars close ++ ['\x7d'])) ++ rest) =
        afterValue stack rest

theorem skips_scalar (v : JsonSyntax .value) (hv : v.lead ≠ 91 ∧ v.lead ≠ 123) : Skips .value v := by
  intro enclosing stack pre rest h
  rw [ignoreValueLoop_eq, ignoreValueStart_blank, ignoreValueStart_scalar v hv h]

theorem skips : ∀ {k : SyntaxKind} (t : JsonSyntax k), Skips k t := by
  intro k t
  induction t with
  | null => exact skips_scalar _ (by decide)
  | bool b => exact skips_scalar _ (by cases b <;> decide)
  | number n => exact skips_scalar _ (by have := JsonSyntax.lead_number n; omega)
  | string s => exact skips_scalar _ (by simp only [JsonSyntax.lead]; decide)
  | emptyArray inner =>
    intro enclosing stack pre rest _
    rw [ignoreValueLoop_eq, ignoreValueStart_blank, octets_write_emptyArray,
      ignoreValueStart_bracket (Or.inl rfl)]
    exact continueLoop_close false (Or.inl ⟨rfl, rfl⟩) _ inner rest
  | emptyObject inner =>
    intro enclosing stack pre rest _
    rw [ignoreValueLoop_eq, ignoreValueStart_blank, octets_write_emptyObject,
      ignoreValueStart_bracket (Or.inr rfl)]
    exact continueLoop_close false (Or.inr ⟨rfl, rfl⟩) _ inner rest
  | array pre' first more close ihfirst ihmore =>
    intro enclosing stack pre rest _
    rw [ignoreValueLoop_eq, ignoreValueStart_blank, octets_write_array,
      ignoreValueStart_bracket (Or.inl rfl)]
    dsimp only
    obtain ⟨r, hr⟩ := first.parseWhitespace_blank_write pre'
      (octets (more.write ++ (blankChars close ++ [']'])) ++ rest)
    rw [continueLoop_first hr first.lead_ne.2, nextTurn, if_neg (by decide),
      ihfirst _ _ _ _ (delimited_elements more close rest)]
    exact ihmore _ close rest
  | object first more close ihfirst ihmore =>
    intro enclosing stack pre rest _
    rw [ignoreValueLoop_eq, ignoreValueStart_blank, octets_write_object,
      ignoreValueStart_bracket (Or.inr rfl)]
    dsimp only
    obtain ⟨r, hr⟩ := first.parseWhitespace_member
      (octets (more.write ++ (blankChars close ++ ['\x7d'])) ++ rest)
    rw [continueLoop_first hr (by decide), ihfirst _ _ (delimited_members more close rest)]
    exact ihmore _ close rest
  | noElements =>
    intro stack close rest
    rw [JsonSyntax.write, List.nil_append, octets_closing close (c := ']') (n := 93) rfl (by decide)]
    exact continueLoop_close true (Or.inl ⟨rfl, rfl⟩) stack close rest
  | element comma pre value more ihvalue ihmore =>
    intro stack close rest
    rw [octets_write_element, continueLoop_comma, nextTurn, if_neg (by decide),
      ihvalue _ _ _ _ (delimited_elements more close rest)]
    exact ihmore stack close rest
  | member pre key colon pre' value ih =>
    intro stack rest h
    rw [octets_write_member, nextTurn, if_pos rfl, ignoreObjectKey_key]
    exact ih (some 123) stack pre' rest h
  | noMembers =>
    intro stack close rest
    rw [JsonSyntax.write, List.nil_append, octets_closing close (c := '\x7d') (n := 125) rfl (by decide)]
    exact continueLoop_close true (Or.inr ⟨rfl, rfl⟩) stack close rest
  | members comma m more ihm ihmore =>
    intro stack close rest
    rw [octets_write_members, continueLoop_comma, ihm _ _ (delimited_members more close rest)]
    exact ihmore stack close rest

/-- `ignore_value` skips exactly the text of a value, with the whitespace before it, however the
value is nested: what follows it is left, when a number there could not read on. -/
theorem ignoreValue_write (pre : List Space) (v : JsonSyntax .value) {rest : List Nat}
    (h : Delimited rest) : ignoreValue (octets (blankChars pre) ++ octets v.write ++ rest) = .ok rest := by
  rw [ignoreValue, List.append_assoc]
  exact skips v none [] pre rest h

/-- `[[0]]`, after a space and before a comma, is skipped up to the comma. -/
theorem ignoreValue_write_nested :
    Delimited [44] ∧
      ignoreValue (octets (blankChars [.space]) ++
        octets (JsonSyntax.array [] (.array [] (.number ⟨false, .zero, none, none⟩) .noElements [])
          .noElements []).write ++ [44]) = .ok [44] :=
  have h : Delimited [44] := by decide
  ⟨h, ignoreValue_write _ _ h⟩

end Config
end Sqld
