import Mathlib

/-!
# UTF-8

The octets of a code point as RFC 3629 lays them out (`encodeUtf8`), and the decoding that
`str::from_utf8` accepts (`decodeUtf8`): a first octet of each width, the ranges RFC 3629 §4
allows for the second octet, and continuation octets.  Octets are natural numbers.

The configuration's round trip rests on two facts proved here: `String.utf8EncodeChar`, by which
the model of `serde_json::to_vec_pretty` writes characters, gives exactly these octets
(`utf8EncodeChar_toNat`), and decoding the octets of a text gives the text back
(`decodeUtf8_octets`).
-/

namespace Sqld
namespace Config

/-- The UTF-8 octets of code point `n`. -/
def encodeUtf8 (n : Nat) : List Nat :=
  if n < 0x80 then [n]
  else if n < 0x800 then [0xC0 + n / 0x40, 0x80 + n % 0x40]
  else if n < 0x10000 then [0xE0 + n / 0x1000, 0x80 + n / 0x40 % 0x40, 0x80 + n % 0x40]
  else [0xF0 + n / 0x40000, 0x80 + n / 0x1000 % 0x40, 0x80 + n / 0x40 % 0x40, 0x80 + n % 0x40]

/-- The octets of a text. -/
def octets (cs : List Char) : List Nat := cs.flatMap fun c => encodeUtf8 c.toNat

@[simp] theorem octets_nil : octets [] = [] := rfl

@[simp] theorem octets_cons (c : Char) (cs : List Char) :
    octets (c :: cs) = encodeUtf8 c.toNat ++ octets cs := rfl

@[simp] theorem octets_append (cs ds : List Char) : octets (cs ++ ds) = octets cs ++ octets ds :=
  List.flatMap_append ..

theorem encodeUtf8_of_lt {n : Nat} (h : n < 0x80) : encodeUtf8 n = [n] := by
  simp [encodeUtf8, h]

/-- The octets of a code point past ASCII are all past ASCII. -/
theorem le_of_mem_encodeUtf8 {n b : Nat} (hn : 0x80 ≤ n) (hb : b ∈ encodeUtf8 n) : 0x80 ≤ b := by
  unfold encodeUtf8 at hb
  split_ifs at hb <;> simp at hb <;> omega

/-! ## The octets `String.utf8EncodeChar` writes -/

section Bytes

theorem UInt8.toNat_lor (a b : UInt8) : (a ||| b).toNat = a.toNat ||| b.toNat := BitVec.toNat_or ..

theorem UInt32.toNat_toUInt8 (v : UInt32) : v.toUInt8.toNat = v.toNat % 256 := BitVec.toNat_ofNat ..

theorem UInt32.toNat_shiftRight (v k : UInt32) (hk : k.toNat < 32) :
    (v >>> k).toNat = v.toNat / 2 ^ k.toNat := by
  show (v.toBitVec >>> (k.toBitVec % (32 : UInt32).toBitVec).toNat).toNat = _
  rw [BitVec.toNat_ushiftRight, Nat.shiftRight_eq_div_pow, BitVec.toNat_umod]
  congr
  exact Nat.mod_eq_of_lt hk

theorem lor_128 : ∀ y < 64, y ||| 128 = 128 + y := by decide
theorem lor_192 : ∀ y < 32, y ||| 192 = 192 + y := by decide
theorem lor_224 : ∀ y < 16, y ||| 224 = 224 + y := by decide
theorem lor_240 : ∀ y < 8, y ||| 240 = 240 + y := by decide

/-- The octet `x &&& mask ||| high` for a mask of the `k` low bits and `high` above them. -/
theorem toNat_and_lor (k : Nat) {x : UInt8} {high : Nat} {mask hi : UInt8} (hmask : mask.toNat = 2 ^ k - 1)
    (hhi : hi.toNat = high) (hor : ∀ y < 2 ^ k, y ||| high = high + y) :
    (x &&& mask ||| hi).toNat = high + x.toNat % 2 ^ k := by
  rw [UInt8.toNat_lor, UInt8.and_toNat, hmask, Nat.and_pow_two_sub_one_eq_mod, hhi,
    hor _ (Nat.mod_lt _ (Nat.two_pow_pos k))]

@[simp] theorem UInt32.toNat_shiftRight_6 (v : UInt32) : (v >>> 6).toNat = v.toNat / 0x40 :=
  UInt32.toNat_shiftRight v 6 (by decide)

@[simp] theorem UInt32.toNat_shiftRight_12 (v : UInt32) : (v >>> 12).toNat = v.toNat / 0x1000 :=
  UInt32.toNat_shiftRight v 12 (by decide)

@[simp] theorem UInt32.toNat_shiftRight_18 (v : UInt32) : (v >>> 18).toNat = v.toNat / 0x40000 :=
  UInt32.toNat_shiftRight v 18 (by decide)

/-- A continuation octet: the six low bits of `v` after `0b10`. -/
@[simp] theorem toNat_tail (v : UInt32) :
    (v.toUInt8 &&& 0x3f ||| 0x80).toNat = 0x80 + v.toNat % 0x40 := by
  rw [toNat_and_lor 6 (show (0x3f : UInt8).toNat = 2 ^ 6 - 1 from rfl)
    (show (0x80 : UInt8).toNat = 128 from rfl) lor_128, UInt32.toNat_toUInt8]
  omega

/-- The first of two octets: the five low bits of `v` after `0b110`. -/
@[simp] theorem toNat_lead_2 (v : UInt32) :
    (v.toUInt8 &&& 0x1f ||| 0xc0).toNat = 0xC0 + v.toNat % 0x20 := by
  rw [toNat_and_lor 5 (show (0x1f : UInt8).toNat = 2 ^ 5 - 1 from rfl)
    (show (0xc0 : UInt8).toNat = 192 from rfl) lor_192, UInt32.toNat_toUInt8]
  omega

/-- The first of three octets: the four low bits of `v` after `0b1110`. -/
@[simp] theorem toNat_lead_3 (v : UInt32) :
    (v.toUInt8 &&& 0x0f ||| 0xe0).toNat = 0xE0 + v.toNat % 0x10 := by
  rw [toNat_and_lor 4 (show (0x0f : UInt8).toNat = 2 ^ 4 - 1 from rfl)
    (show (0xe0 : UInt8).toNat = 224 from rfl) lor_224, UInt32.toNat_toUInt8]
  omega

/-- The first of four octets: the three low bits of `v` after `0b11110`. -/
@[simp] theorem toNat_lead_4 (v : UInt32) :
    (v.toUInt8 &&& 0x07 ||| 0xf0).toNat = 0xF0 + v.toNat % 8 := by
  rw [toNat_and_lor 3 (show (0x07 : UInt8).toNat = 2 ^ 3 - 1 from rfl)
    (show (0xf0 : UInt8).toNat = 240 from rfl) lor_240, UInt32.toNat_toUInt8]
  omega

/-- A character is a Unicode scalar value: below `0x110000` and not a surrogate. -/
theorem Char.toNat_valid (c : Char) :
    c.toNat < 0x110000 ∧ (c.toNat < 0xD800 ∨ 0xDFFF < c.toNat) := by
  have h := c.valid
  simp only [Nat.isValidChar] at h
  change c.val.toNat < 0x110000 ∧ (c.val.toNat < 0xD800 ∨ 0xDFFF < c.val.toNat)
  omega

/-- `String.utf8EncodeChar` writes the octets of `encodeUtf8`. -/
theorem utf8EncodeChar_toNat (c : Char) :
    (String.utf8EncodeChar c).map UInt8.toNat = encodeUtf8 c.toNat := by
  have hv : c.val.toNat = c.toNat := rfl
  have hle : ∀ m : UInt32, c.val ≤ m ↔ c.toNat ≤ m.toNat := fun _ => .rfl
  have hmax := (Char.toNat_valid c).1
  unfold String.utf8EncodeChar encodeUtf8
  simp only [hle, show (0x7f : UInt32).toNat = 0x7f from rfl, show (0x7ff : UInt32).toNat = 0x7ff from rfl,
    show (0xffff : UInt32).toNat = 0xffff from rfl]
  split_ifs <;> simp only [List.map_cons, List.map_nil, List.cons.injEq, and_true, UInt32.toNat_toUInt8,
    toNat_lead_2, toNat_lead_3, toNat_lead_4, toNat_tail, UInt32.toNat_shiftRight_6,
    UInt32.toNat_shiftRight_12, UInt32.toNat_shiftRight_18, hv] <;> omega

end Bytes

/-! ## The decoding `str::from_utf8` accepts -/

/-- A continuation octet, `0x80..=0xBF`. -/
def isTail (b : Nat) : Bool := 0x80 ≤ b && b ≤ 0xBF

/-- `utf8_char_width`: the number of octets of the character a first octet starts, `0` for an
octet that starts none. -/
def utf8CharWidth (a : Nat) : Nat :=
  if a < 0x80 then 1
  else if 0xC2 ≤ a ∧ a ≤ 0xDF then 2
  else if 0xE0 ≤ a ∧ a ≤ 0xEF then 3
  else if 0xF0 ≤ a ∧ a ≤ 0xF4 then 4
  else 0

/-- The second octets `run_utf8_validation` accepts after the first of three: no overlong form
and no surrogate. -/
def second3 (a b : Nat) : Bool :=
  (a = 0xE0 && 0xA0 ≤ b && b ≤ 0xBF) || (0xE1 ≤ a && a ≤ 0xEC && isTail b) ||
    (a = 0xED && 0x80 ≤ b && b ≤ 0x9F) || (0xEE ≤ a && a ≤ 0xEF && isTail b)

/-- The second octets accepted after the first of four: no overlong form and nothing past
`U+10FFFF`. -/
def second4 (a b : Nat) : Bool :=
  (a = 0xF0 && 0x90 ≤ b && b ≤ 0xBF) || (0xF1 ≤ a && a ≤ 0xF3 && isTail b) ||
    (a = 0xF4 && 0x80 ≤ b && b ≤ 0x8F)

/-- `str::from_utf8`: the characters of a sequence of octets, or `none` at an octet
`run_utf8_validation` refuses. -/
def decodeUtf8 : List Nat → Option (List Char)
  | [] => some []
  | a :: rest =>
    match utf8CharWidth a, rest with
    | 1, rest => (decodeUtf8 rest).map (Char.ofNat a :: ·)
    | 2, b :: rest =>
      if isTail b then (decodeUtf8 rest).map (Char.ofNat (a % 0x20 * 0x40 + b % 0x40) :: ·)
      else none
    | 3, b :: c :: rest =>
      if second3 a b && isTail c then
        (decodeUtf8 rest).map (Char.ofNat (a % 0x10 * 0x1000 + b % 0x40 * 0x40 + c % 0x40) :: ·)
      else none
    | 4, b :: c :: d :: rest =>
      if second4 a b && isTail c && isTail d then
        (decodeUtf8 rest).map
          (Char.ofNat (a % 8 * 0x40000 + b % 0x40 * 0x1000 + c % 0x40 * 0x40 + d % 0x40) :: ·)
      else none
    | _, _ => none

theorem decodeUtf8_one {a : Nat} (rest : List Nat) (ha : a < 0x80) :
    decodeUtf8 (a :: rest) = (decodeUtf8 rest).map (Char.ofNat a :: ·) :=
  decodeUtf8.eq_2 a rest (by simp [utf8CharWidth, ha])

theorem decodeUtf8_two {a b : Nat} (rest : List Nat) (ha : 0xC2 ≤ a ∧ a ≤ 0xDF)
    (hb : isTail b) :
    decodeUtf8 (a :: b :: rest) =
      (decodeUtf8 rest).map (Char.ofNat (a % 0x20 * 0x40 + b % 0x40) :: ·) := by
  rw [decodeUtf8.eq_3 _ _ _ (by unfold utf8CharWidth; split_ifs <;> omega), if_pos hb]

theorem decodeUtf8_three {a b c : Nat} (rest : List Nat) (ha : 0xE0 ≤ a ∧ a ≤ 0xEF)
    (hb : second3 a b) (hc : isTail c) :
    decodeUtf8 (a :: b :: c :: rest) =
      (decodeUtf8 rest).map (Char.ofNat (a % 0x10 * 0x1000 + b % 0x40 * 0x40 + c % 0x40) :: ·) := by
  rw [decodeUtf8.eq_4 _ _ _ _ (by unfold utf8CharWidth; split_ifs <;> omega),
    if_pos (by rw [hb, hc]; rfl)]

theorem decodeUtf8_four {a b c d : Nat} (rest : List Nat) (ha : 0xF0 ≤ a ∧ a ≤ 0xF4)
    (hb : second4 a b) (hc : isTail c) (hd : isTail d) :
    decodeUtf8 (a :: b :: c :: d :: rest) =
      (decodeUtf8 rest).map
        (Char.ofNat (a % 8 * 0x40000 + b % 0x40 * 0x1000 + c % 0x40 * 0x40 + d % 0x40) :: ·) := by
  rw [decodeUtf8.eq_5 _ _ _ _ _ (by unfold utf8CharWidth; split_ifs <;> omega),
    if_pos (by rw [hb, hc, hd]; rfl)]

theorem isTail_tail (n : Nat) : isTail (0x80 + n % 0x40) := by
  simp only [isTail, Bool.and_eq_true, decide_eq_true_eq]
  omega

/-- Decoding the octets of a character gives the character back, whatever follows. -/
theorem decodeUtf8_encodeUtf8 (c : Char) (rest : List Nat) :
    decodeUtf8 (encodeUtf8 c.toNat ++ rest) = (decodeUtf8 rest).map (c :: ·) := by
  obtain ⟨hmax, hsur⟩ := Char.toNat_valid c
  have hc : ∀ {n : Nat}, n = c.toNat → Char.ofNat n = c := fun h => h ▸ Char.ofNat_toNat c
  unfold encodeUtf8
  split_ifs with h1 h2 h3
  · rw [List.singleton_append, decodeUtf8_one _ h1, hc rfl]
  · rw [List.cons_append, List.cons_append, List.nil_append,
      decodeUtf8_two _ (by omega) (isTail_tail _), hc (by omega)]
  · rw [List.cons_append, List.cons_append, List.cons_append, List.nil_append,
      decodeUtf8_three _ (by omega)
        (by simp only [second3, isTail, Bool.or_eq_true, Bool.and_eq_true, decide_eq_true_eq]; omega)
        (isTail_tail _),
      hc (by omega)]
  · rw [List.cons_append, List.cons_append, List.cons_append, List.cons_append, List.nil_append,
      decodeUtf8_four _ (by omega)
        (by simp only [second4, isTail, Bool.or_eq_true, Bool.and_eq_true, decide_eq_true_eq]; omega)
        (isTail_tail _) (isTail_tail _), hc (by omega)]

/-- Decoding the octets of a text gives the text back. -/
theorem decodeUtf8_octets (cs : List Char) : decodeUtf8 (octets cs) = some cs := by
  induction cs with
  | nil => rfl
  | cons c cs ih => rw [octets_cons, decodeUtf8_encodeUtf8, ih, Option.map_some']

end Config
end Sqld
