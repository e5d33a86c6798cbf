import Sqld.Config.Skip

/-!
# The number parser on a number's text

`Sqld.Config.Number` gives serde_json's number parser over octets, and `Sqld.Config.Syntax`
says what a number's syntax converts to (`JsonNumber.convert`).  This module runs the parser on
the text of a number followed by anything that cannot continue it, and shows it computes that
conversion (`parseInteger_number`).  Each of the parser's digit loops gets its own lemma over
the digits of the syntax, with the accumulator generalised:

* `integerDigits_digits` and `longIntegerDigits_digits`, the integer part;
* `decimalDigits_digits`, the fraction;
* `exponentDigits_digits`, the exponent.

So `peek_invalid_type` gives the error `JsonSyntax.invalidTypeError` names for every value
(`peekInvalidType_write`).
-/

namespace Sqld
namespace Config

/-! ## Digits -/

theorem octets_digitChars_cons (d : Fin 10) (ds : List (Fin 10)) :
    octets (digitChars (d :: ds)) = (48 + d.val) :: octets (digitChars ds) := by
  rw [octets_digitChars, octets_digitChars, List.map_cons]

@[simp] theorem digit_sub_48 (d : Fin 10) : 48 + d.val - 48 = d.val := by omega

/-- `overflow!` on a digit is the comparison it stands for. -/
theorem overflows_digit (a c : Nat) (d : Fin 10) :
    overflows a (48 + d.val - 48) c = true ↔ c < a * 10 + d.val := by
  rw [digit_sub_48]
  exact overflows_iff d.isLt

/-- Digits, then something that is not a digit, are skipped to that thing. -/
theorem dropWhile_digits {tail : List Nat} (htail : isDigit (peekOrNull tail) = false)
    (ds : List (Fin 10)) : (octets (digitChars ds) ++ tail).dropWhile isDigit = tail := by
  rw [dropWhile_isDigit_digits, dropWhile_isDigit_of_not_digit htail]

theorem takeDigits_cons_of_lt {significand : Nat} {d : Fin 10}
    (h : u64Max < significand * 10 + d.val) (ds : List (Fin 10)) :
    takeDigits significand (d :: ds) = (significand, 0) :=
  if_pos h

theorem takeDigits_cons_of_le {significand : Nat} {d : Fin 10}
    (h : ¬u64Max < significand * 10 + d.val) (ds : List (Fin 10)) :
    takeDigits significand (d :: ds) =
      ((takeDigits (significand * 10 + d.val) ds).1, (takeDigits (significand * 10 + d.val) ds).2 + 1) :=
  if_neg h

/-! ## The exponent -/

section Stop

variable {tail : List Nat} (htail : isDigit (peekOrNull tail) = false)
include htail

theorem exponentDigits_stop (significand : Nat) (startingExp : Int) (positiveExp : Bool)
    (exp : Nat) :
    exponentDigits significand startingExp positiveExp exp tail =
      (f64FromParts significand (finalExp startingExp positiveExp exp)).map fun _ => tail := by
  cases tail with
  | nil => rfl
  | cons b rest => rw [exponentDigits, if_neg (by simpa [peekOrNull] using htail)]

theorem decimalDigits_stop (exponentBefore : Int) (significand after : Nat) :
    decimalDigits exponentBefore significand after tail =
      decimalEnd exponentBefore significand after tail := by
  cases tail with
  | nil => rfl
  | cons b rest => rw [decimalDigits, if_neg (by simpa [peekOrNull] using htail)]

theorem longIntegerDigits_stop (significand exponent : Nat) :
    longIntegerDigits significand exponent tail =
      if peekOrNull tail = 46 then parseDecimal significand exponent tail
      else exponentOrEnd significand exponent tail := by
  cases tail with
  | nil => rfl
  | cons b rest => rw [longIntegerDigits, if_neg (by simpa [peekOrNull] using htail)]; rfl

theorem integerDigits_stop (significand : Nat) :
    integerDigits significand tail = parseNumber significand tail := by
  cases tail with
  | nil => rfl
  | cons b rest => rw [integerDigits, if_neg (by simpa [peekOrNull] using htail)]

/-- The exponent's digits: their value, or the overflow past `i32::MAX`, then the conversion. -/
theorem exponentDigits_digits (significand : Nat) (startingExp : Int) (positiveExp : Bool) :
    ∀ (ds : List (Fin 10)) (exp : Nat),
      exponentDigits significand startingExp positiveExp exp (octets (digitChars ds) ++ tail) =
        (exponentFinish significand startingExp positiveExp (exponentValue exp ds)).map
          fun _ => tail
  | [], exp => exponentDigits_stop htail significand startingExp positiveExp exp
  | d :: ds, exp => by
    rw [octets_digitChars_cons, List.cons_append, exponentDigits, if_pos (isDigit_digit d),
      exponentValue]
    by_cases hov : i32Max < exp * 10 + d.val
    · rw [if_pos ((overflows_digit _ _ d).2 hov), if_pos hov, parseExponentOverflow,
        dropWhile_digits htail, exponentFinish]
      by_cases hz : significand = 0 <;> cases positiveExp <;> simp [hz] <;> rfl
    · rw [if_neg (mt (overflows_digit _ _ d).1 hov), if_neg hov, digit_sub_48,
        exponentDigits_digits significand startingExp positiveExp ds]

end Stop

/-- An exponent's sign, before its first digit. -/
theorem exponentSign_signChars (sign : Option Bool) (d : Fin 10) (rest : List Nat) :
    exponentSign (octets (signChars sign) ++ (48 + d.val) :: rest) =
      (signPositive sign, (48 + d.val) :: rest) := by
  have hd : 48 + d.val ≠ 43 ∧ 48 + d.val ≠ 45 := by omega
  rcases sign with _ | _ | _ <;> simp [exponentSign, signChars, signPositive, peekOrNull, hd] <;> rfl

/-- An exponent, then something that is not a digit. -/
theorem parseExponent_chars (significand : Nat) (startingExp : Int) (e : Exponent)
    {rest : List Nat} (h : isDigit (peekOrNull rest) = false) :
    parseExponent significand startingExp (octets e.chars ++ rest) =
      (convertParts significand startingExp (some e)).map fun _ => rest := by
  have hdrop : (octets e.chars ++ rest).drop 1 =
      octets (signChars e.sign) ++ (48 + e.first.val) :: (octets (digitChars e.rest) ++ rest) := by
    rw [Exponent.chars, octets_cons_of_lt _ (by split <;> decide), List.cons_append, List.drop_one,
      List.tail_cons, octets_append, octets_digitChars_cons, List.append_assoc, List.cons_append]
  rw [parseExponent, hdrop, exponentSign_signChars]
  dsimp only
  rw [if_pos (isDigit_digit e.first), digit_sub_48, exponentDigits_digits h, convertParts]

/-- What follows a number's digits: its exponent, if any, then the conversion. -/
theorem exponentOrEnd_exponent (significand : Nat) (exponent : Int) (e? : Option Exponent)
    {rest : List Nat} (h : Delimited rest) :
    exponentOrEnd significand exponent (octets (exponentChars e?) ++ rest) =
      (convertParts significand exponent e?).map fun _ => rest := by
  cases e? with
  | none => exact if_neg fun h' => h'.elim h.2.2.1 h.2.2.2
  | some e =>
    rw [exponentOrEnd, if_pos (peekOrNull_exponentChars_some e rest), exponentChars,
      parseExponent_chars significand exponent e h.1]

/-! ## The fraction and the integer part -/

/-- The fraction's digits go on into the significand while it holds them; the rest are
dropped. -/
theorem decimalDigits_digits (exponentBefore : Int) {tail : List Nat}
    (htail : isDigit (peekOrNull tail) = false) :
    ∀ (ds : List (Fin 10)) (significand after : Nat), (0 < after ∨ ds ≠ []) →
      decimalDigits exponentBefore significand after (octets (digitChars ds) ++ tail) =
        exponentOrEnd (takeDigits significand ds).1
          (exponentBefore - ↑(after + (takeDigits significand ds).2)) tail
  | [], significand, after, hpos => by
    have hafter : after ≠ 0 := Nat.pos_iff_ne_zero.mp (by simpa using hpos)
    rw [octets_digitChars, List.map_nil, List.nil_append, decimalDigits_stop htail, decimalEnd,
      if_neg hafter]
    rfl
  | d :: ds, significand, after, _ => by
    rw [octets_digitChars_cons, List.cons_append, decimalDigits, if_pos (isDigit_digit d)]
    by_cases hov : u64Max < significand * 10 + d.val
    · rw [if_pos ((overflows_digit _ _ d).2 hov), takeDigits_cons_of_lt hov, parseDecimalOverflow,
        ← List.cons_append, ← octets_digitChars_cons, dropWhile_digits htail]
      rfl
    · rw [if_neg (mt (overflows_digit _ _ d).1 hov), takeDigits_cons_of_le hov, digit_sub_48,
        decimalDigits_digits exponentBefore htail ds (significand * 10 + d.val) (after + 1)
          (.inl after.succ_pos), Nat.add_assoc after 1, Nat.add_comm 1]

/-- Each digit of the integer part past what the significand holds raises the exponent. -/
theorem longIntegerDigits_digits (significand : Nat) (tail : List Nat) :
    ∀ (ds : List (Fin 10)) (exponent : Nat),
      longIntegerDigits significand exponent (octets (digitChars ds) ++ tail) =
        longIntegerDigits significand (exponent + ds.length) tail
  | [], exponent => rfl
  | d :: ds, exponent => by
    rw [octets_digitChars_cons, List.cons_append, longIntegerDigits, if_pos (isDigit_digit d),
      longIntegerDigits_digits significand tail ds, List.length_cons, Nat.add_assoc,
      Nat.add_comm 1]

/-- The integer part's digits go into the significand while it holds them; after the first that
does not fit, `parse_long_integer` counts the rest. -/
theorem integerDigits_digits {tail : List Nat} (htail : isDigit (peekOrNull tail) = false) :
    ∀ (ds : List (Fin 10)) (significand : Nat),
      integerDigits significand (octets (digitChars ds) ++ tail) =
        if ds.length - (takeDigits significand ds).2 = 0 then
          parseNumber (takeDigits significand ds).1 tail
        else longIntegerDigits (takeDigits significand ds).1
          (ds.length - (takeDigits significand ds).2) tail
  | [], significand => by
    rw [octets_digitChars, List.map_nil, List.nil_append, integerDigits_stop htail]
    rfl
  | d :: ds, significand => by
    rw [octets_digitChars_cons, List.cons_append, integerDigits, if_pos (isDigit_digit d)]
    by_cases hov : u64Max < significand * 10 + d.val
    · rw [if_pos ((overflows_digit _ _ d).2 hov), takeDigits_cons_of_lt hov, ← List.cons_append,
        ← octets_digitChars_cons, longIntegerDigits_digits, Nat.zero_add, Nat.sub_zero,
        if_neg (List.cons_ne_nil d ds ∘ List.length_eq_zero.mp)]
    · rw [if_neg (mt (overflows_digit _ _ d).1 hov), takeDigits_cons_of_le hov, digit_sub_48,
        integerDigits_digits htail ds, List.length_cons, Nat.add_sub_add_right]

/-- A fraction, then its exponent, after the significand and exponent the integer part gave. -/
theorem parseDecimal_fraction (significand : Nat) (exponent : Int) (d : Fin 10)
    (ds : List (Fin 10)) (e? : Option Exponent) {rest : List Nat} (h : Delimited rest) :
    parseDecimal significand exponent
        (octets (fractionChars (some (d, ds))) ++ (octets (exponentChars e?) ++ rest)) =
      (convertParts (takeDigits significand (d :: ds)).1
        (exponent - (takeDigits significand (d :: ds)).2) e?).map fun _ => rest := by
  rw [octets_fractionChars_some, List.cons_append, parseDecimal, List.drop_one, List.tail_cons,
    decimalDigits_digits exponent (exponentChars_not_digit e? h) _ _ _ (.inr (List.cons_ne_nil _ _)),
    Nat.zero_add, exponentOrEnd_exponent _ _ e? h]

/-- What follows the integer part, once its digits gave `significand` with `skipped` digits past
it: `parse_number` when none was skipped, `parse_long_integer` otherwise. -/
theorem afterInteger_tail (n : JsonNumber) (significand skipped : Nat) {rest : List Nat}
    (h : Delimited rest) :
    (if skipped = 0 then parseNumber significand (octets n.tailChars ++ rest)
      else longIntegerDigits significand skipped (octets n.tailChars ++ rest)) =
      (if skipped = 0 ∧ n.fraction = none ∧ n.exponent = none then .ok ()
        else convertParts (takeDigits significand (fractionDigits n.fraction)).1
          ((skipped : Int) - (takeDigits significand (fractionDigits n.fraction)).2)
          n.exponent).map fun _ => rest := by
  rw [JsonNumber.tailChars, octets_append, List.append_assoc]
  cases n.fraction with
  | some dds =>
    obtain ⟨d, ds⟩ := dds
    have hpeek := peekOrNull_fractionChars_some d ds (octets (exponentChars n.exponent) ++ rest)
    rw [if_neg (fun h' : _ ∧ some (d, ds) = none ∧ _ => nomatch h'.2.1), fractionDigits,
      ← parseDecimal_fraction _ _ d ds n.exponent h]
    by_cases hs : skipped = 0
    · rw [if_pos hs, parseNumber, if_pos hpeek, hs, Nat.cast_zero]
    · rw [if_neg hs, longIntegerDigits_stop (by rw [hpeek]; rfl), if_pos hpeek]
  | none =>
    simp only [fractionChars, octets_nil, List.nil_append, fractionDigits, takeDigits, true_and,
      Nat.cast_zero, Int.sub_zero]
    by_cases hs : skipped = 0
    · rw [if_pos hs, parseNumber, if_neg (exponentChars_ne_point n.exponent h)]
      cases n.exponent with
      | none =>
        rw [if_pos (show skipped = 0 ∧ (none : Option Exponent) = none from ⟨hs, rfl⟩)]
        exact if_neg fun h' => h'.elim h.2.2.1 h.2.2.2
      | some e =>
        rw [if_pos (peekOrNull_exponentChars_some e rest), if_neg (fun h' : _ ∧ some e = none => nomatch h'.2),
          exponentChars, parseExponent_chars _ _ e h.1, hs, Nat.cast_zero]
    · rw [if_neg hs, if_neg (fun h' => hs h'.1),
        longIntegerDigits_stop (exponentChars_not_digit n.exponent h),
        if_neg (exponentChars_ne_point n.exponent h), exponentOrEnd_exponent _ _ _ h]

/-- serde_json's number parser, after the sign, on a number's text followed by anything that
cannot continue it, computes `JsonNumber.convert`. -/
theorem parseInteger_number (n : JsonNumber) {rest : List Nat} (h : Delimited rest) :
    parseInteger (octets (n.integer.chars ++ n.tailChars) ++ rest) = n.convert.map fun _ => rest := by
  dsimp only [JsonNumber.convert]
  cases n.integer with
  | zero =>
    have hzero : takeDigits 0 [0] = (0, 1) := by decide
    have := afterInteger_tail n 0 0 h
    rw [if_pos rfl] at this
    rw [IntegerPart.chars, List.singleton_append, octets_cons_ascii (c := '0') (n := 48) _ rfl
      (by decide), List.cons_append, parseInteger, if_pos rfl,
      if_neg (by rw [tailChars_not_digit n h]; decide), IntegerPart.digitList, hzero]
    exact this
  | digits lead ds =>
    have hlead := lead.isLt
    have hsig : 49 + lead.val - 48 = 0 * 10 + lead.succ.val := by rw [Fin.val_succ]; omega
    rw [octets_append, IntegerPart.octets_chars_digits, List.cons_append, List.cons_append,
      parseInteger, if_neg (by omega), if_pos (by omega), hsig, List.append_assoc, integerDigits_digits (tailChars_not_digit n h), IntegerPart.digitList,
      takeDigits_cons_of_le (by rw [Fin.val_succ, u64Max]; omega), List.length_cons,
      Nat.add_sub_add_right]
    exact afterInteger_tail n _ _ h

/-! ## `peek_invalid_type` on a value -/

theorem peekInvalidType_digit {b : Nat} (hb : isDigit b = true) (rest : List Nat) :
    peekInvalidType (b :: rest) = errorOr (parseInteger (b :: rest)) := by
  have hb' : 48 ≤ b ∧ b ≤ 57 := by simpa [isDigit] using hb
  rw [peekInvalidType, if_neg (by omega), if_neg (by omega), if_neg (by omega), if_neg (by omega),
    if_pos hb]

/-- `peek_invalid_type` on a number: the error of its conversion, or `invalid_type`. -/
theorem peekInvalidType_number (n : JsonNumber) {rest : List Nat} (h : Delimited rest) :
    peekInvalidType (octets n.chars ++ rest) = errorOr n.convert := by
  rw [JsonNumber.octets_chars]
  cases n.negative
  · obtain ⟨tail, htail⟩ := n.integer.octets_chars
    rw [if_neg Bool.false_ne_true, List.nil_append, octets_append, htail, List.cons_append,
      List.cons_append, peekInvalidType_digit n.integer.isDigit_lead, ← List.cons_append,
      ← List.cons_append, ← htail, ← octets_append, parseInteger_number n h, errorOr_map]
  · show errorOr (parseInteger (octets (n.integer.chars ++ n.tailChars) ++ rest)) = _
    rw [parseInteger_number n h, errorOr_map]

/-- `peek_invalid_type` on any value, followed by anything that cannot continue a number, gives
the error `JsonSyntax.invalidTypeError` names: the conversion's error for a number out of range,
`invalid_type` for every other value. -/
theorem peekInvalidType_write (v : JsonSyntax .value) {rest : List Nat} (h : Delimited rest) :
    peekInvalidType (octets v.write ++ rest) = v.invalidTypeError := by
  cases v with
  | null => rfl
  | bool b => cases b <;> rfl
  | number n => exact peekInvalidType_number n h
  | string s =>
    rw [JsonSyntax.write, octets_jsonString]
    simp only [List.cons_append, List.append_assoc, List.singleton_append]
    show errorOr (parseStr _) = _
    rw [parseStr_jsonString]
    rfl
  | emptyArray _ => rw [octets_write_emptyArray]; rfl
  | array _ _ _ _ => rw [octets_write_array]; rfl
  | emptyObject _ => rw [octets_write_emptyObject]; rfl
  | object _ _ _ => rw [octets_write_object]; rfl

end Config
end Sqld
