import Sqld.Config.Document

/-!
# Appending to a document `from_slice` accepts

A JSON text ends where its outermost bracket or brace closes.  `fromSlice_append` says
`from_slice`, once it has accepted a text, accepts that text followed by whitespace and rejects
it followed by anything else, with `trailing_characters`.  So no text this version writes is the
start of another one it would read, and a `config.json` cut short is never read as a
configuration (`fromSlice_toVecPretty_prefix`).

The proof is one law per reader of the decoder: a read that stopped with octets left reads the
same on the input with anything appended, and gives back what it gave back followed by what was
appended.  The octets left must not be empty because of numbers: `1` read at the end of the
input would read on into an appended `2`, and `null` can be the whole input.
-/

namespace Sqld
namespace Config

/-- A reader that, having stopped with octets left, reads the same on any longer input. -/
def Extends {α : Type} (read : List Nat → Except JsonError (α × List Nat)) : Prop :=
  ∀ (input rest : List Nat) (a : α), read input = .ok (a, rest) → rest ≠ [] →
    ∀ s, read (input ++ s) = .ok (a, rest ++ s)

/-! ## Tokens -/

theorem parseWhitespace_append {input rest : List Nat} {b : Nat}
    (h : parseWhitespace input = b :: rest) (s : List Nat) :
    parseWhitespace (input ++ s) = b :: (rest ++ s) := by
  rw [parseWhitespace, List.dropWhile_append, ← parseWhitespace, h]
  rfl

theorem parseIdent_append : ∀ {ident input rest : List Nat},
    parseIdent ident input = .ok rest → ∀ s, parseIdent ident (input ++ s) = .ok (rest ++ s)
  | [], _, _, h, _ => by cases h; rfl
  | _ :: _, [], _, h, _ => by cases h
  | e :: ident, b :: input, rest, h, s => by
    rw [parseIdent] at h
    split_ifs at h with hb
    rw [List.cons_append, parseIdent, if_pos hb, parseIdent_append h]

theorem decodeHexEscape_append {input rest : List Nat} {n : Nat}
    (h : decodeHexEscape input = .ok (n, rest)) (s : List Nat) :
    decodeHexEscape (input ++ s) = .ok (n, rest ++ s) := by
  match input, h with
  | a :: b :: c :: d :: rest', h =>
    simp only [decodeHexEscape] at h ⊢
    split at h
    · cases h
      simp only [List.cons_append, *]
    · cases h

theorem parseUnicodeEscape_append {scratch input scratch' rest : List Nat}
    (h : parseUnicodeEscape scratch input = .ok (scratch', rest)) (s : List Nat) :
    parseUnicodeEscape scratch (input ++ s) = .ok (scratch', rest ++ s) := by
  unfold parseUnicodeEscape at h ⊢
  rcases h₁ : decodeHexEscape input with err | ⟨n, rest₁⟩ <;> simp only [h₁] at h
  · cases h
  rw [decodeHexEscape_append h₁]
  dsimp only
  split_ifs at h ⊢
  · cases h; rfl
  split at h
  · cases h
  · cases h
  · next rest₂ =>
    rcases h₂ : decodeHexEscape rest₂ with err | ⟨n2, rest₃⟩ <;> simp only [h₂] at h
    · cases h
    simp only [List.cons_append, decodeHexEscape_append h₂]
    split_ifs at h ⊢
    cases h
    rfl
  · cases h

theorem parseEscape_append {scratch input scratch' rest : List Nat}
    (h : parseEscape scratch input = .ok (scratch', rest)) (s : List Nat) :
    parseEscape scratch (input ++ s) = .ok (scratch', rest ++ s) := by
  match input, h with
  | ch :: rest', h =>
    simp only [parseEscape, List.cons_append] at h ⊢
    split at h
    · next heq => cases h; simp only [heq]
    · split_ifs at h ⊢
      exact parseUnicodeEscape_append h s

theorem ignoreEscape_append {input rest : List Nat} (h : ignoreEscape input = .ok rest) (s : List Nat) :
    ignoreEscape (input ++ s) = .ok (rest ++ s) := by
  match input, h with
  | ch :: rest', h =>
    simp only [ignoreEscape, List.cons_append] at h ⊢
    split_ifs at h ⊢
    · cases h; rfl
    · cases he : decodeHexEscape rest' with
      | error err => simp [he, Except.map] at h
      | ok r =>
        simp only [he, Except.map, Except.ok.injEq] at h
        subst h
        rw [decodeHexEscape_append (show decodeHexEscape rest' = .ok (r.1, r.2) from he)]
        rfl

theorem parseStrBytes_append {scratch input scratch' rest : List Nat}
    (h : parseStrBytes scratch input = .ok (scratch', rest)) (s : List Nat) :
    parseStrBytes scratch (input ++ s) = .ok (scratch', rest ++ s) := by
  induction scratch, input using parseStrBytes.induct with
  | case1 => simp [parseStrBytes] at h
  | case2 => simp [parseStrBytes] at h; simp [parseStrBytes, h]
  | case3 _ _ _ herr => simp [parseStrBytes_backslash, herr] at h
  | case4 _ _ _ _ hesc _ ih =>
    rw [parseStrBytes_backslash, hesc] at h
    rw [List.cons_append, parseStrBytes_backslash, parseEscape_append hesc]
    exact ih h
  | case5 _ _ _ h1 h2 h3 => rw [parseStrBytes, if_neg h1, if_neg h2, if_pos h3] at h; cases h
  | case6 _ _ _ h1 h2 h3 ih =>
    rw [parseStrBytes, if_neg h1, if_neg h2, if_neg h3] at h
    rw [List.cons_append, parseStrBytes, if_neg h1, if_neg h2, if_neg h3]
    exact ih h

theorem parseStr_append {input rest : List Nat} {str : List Char}
    (h : parseStr input = .ok (str, rest)) (s : List Nat) :
    parseStr (input ++ s) = .ok (str, rest ++ s) := by
  unfold parseStr at h ⊢
  rcases h₁ : parseStrBytes [] input with err | ⟨bytes, rest₁⟩ <;> simp only [h₁] at h
  · cases h
  rw [parseStrBytes_append h₁]
  cases h₂ : decodeUtf8 bytes <;> simp only [h₂] at h ⊢
  · cases h
  · cases h; rfl

theorem ignoreStr_append {input rest : List Nat} (h : ignoreStr input = .ok rest) (s : List Nat) :
    ignoreStr (input ++ s) = .ok (rest ++ s) := by
  induction input using ignoreStr.induct with
  | case1 => simp [ignoreStr] at h
  | case2 => simp [ignoreStr] at h; simp [ignoreStr, h]
  | case3 _ _ herr => simp [ignoreStr_backslash, herr] at h
  | case4 _ _ hesc _ ih =>
    rw [ignoreStr_backslash, hesc] at h
    rw [List.cons_append, ignoreStr_backslash, ignoreEscape_append hesc]
    exact ih h
  | case5 _ _ h1 h2 h3 => rw [ignoreStr, if_neg h1, if_neg h2, if_pos h3] at h; cases h
  | case6 _ _ h1 h2 h3 ih =>
    rw [ignoreStr, if_neg h1, if_neg h2, if_neg h3] at h
    rw [List.cons_append, ignoreStr, if_neg h1, if_neg h2, if_neg h3]
    exact ih h

/-! ## Numbers -/

theorem peekOrNull_append {input : List Nat} (h : input ≠ []) (s : List Nat) :
    peekOrNull (input ++ s) = peekOrNull input := by
  cases input with
  | nil => exact absurd rfl h
  | cons b input => rfl

theorem dropWhile_append_of_ne_nil {p : Nat → Bool} {input : List Nat} (h : input.dropWhile p ≠ [])
    (s : List Nat) : (input ++ s).dropWhile p = input.dropWhile p ++ s := by
  rw [List.dropWhile_append, if_neg (by simpa using h)]

theorem ignoreExponent_append {input rest : List Nat} (h : ignoreExponent input = .ok rest)
    (hne : rest ≠ []) (s : List Nat) : ignoreExponent (input ++ s) = .ok (rest ++ s) := by
  rcases input with _ | ⟨e, _ | ⟨b, input⟩⟩
  · simp [ignoreExponent, peekOrNull] at h
  · simp [ignoreExponent, peekOrNull] at h
  simp only [ignoreExponent, List.drop_one, List.tail_cons, peekOrNull, List.cons_append] at h ⊢
  by_cases hsign : b = 43 ∨ b = 45
  · rw [if_pos hsign] at h ⊢
    rcases input with _ | ⟨d, input⟩
    · cases h
    simp only [List.drop_one, List.tail_cons, List.cons_append] at h ⊢
    split_ifs at h ⊢
    cases h
    rw [dropWhile_append_of_ne_nil hne]
  · rw [if_neg hsign] at h ⊢
    dsimp only at h ⊢
    split_ifs at h ⊢
    cases h
    rw [dropWhile_append_of_ne_nil hne]

theorem ignoreExponentOpt_append {input rest : List Nat} (h : ignoreExponentOpt input = .ok rest)
    (hne : rest ≠ []) (s : List Nat) : ignoreExponentOpt (input ++ s) = .ok (rest ++ s) := by
  have hinput : input ≠ [] := by rintro rfl; cases h; exact hne rfl
  rw [ignoreExponentOpt] at h
  rw [ignoreExponentOpt, peekOrNull_append hinput]
  split_ifs at h ⊢
  · exact ignoreExponent_append h hne s
  · cases h; rfl

theorem ignoreDecimal_append {input rest : List Nat} (h : ignoreDecimal input = .ok rest)
    (hne : rest ≠ []) (s : List Nat) : ignoreDecimal (input ++ s) = .ok (rest ++ s) := by
  rcases input with _ | ⟨p, _ | ⟨d, input⟩⟩
  · cases h
  · cases h
  rw [ignoreDecimal_eq] at h ⊢
  simp only [List.drop_one, List.tail_cons, List.cons_append, peekOrNull] at h ⊢
  split_ifs at h ⊢ with hd
  have hne' : (d :: input).dropWhile isDigit ≠ [] := by
    intro h0
    rw [h0] at h
    cases h
    exact hne rfl
  rw [← List.cons_append, dropWhile_append_of_ne_nil hne']
  exact ignoreExponentOpt_append h hne s

theorem ignoreFraction_append {input rest : List Nat} (h : ignoreFraction input = .ok rest)
    (hne : rest ≠ []) (s : List Nat) : ignoreFraction (input ++ s) = .ok (rest ++ s) := by
  have hinput : input ≠ [] := by rintro rfl; cases h; exact hne rfl
  rw [ignoreFraction] at h
  rw [ignoreFraction, peekOrNull_append hinput]
  split_ifs at h ⊢
  · exact ignoreDecimal_append h hne s
  · exact ignoreExponentOpt_append h hne s

theorem ignoreInteger_append {input rest : List Nat} (h : ignoreInteger input = .ok rest)
    (hne : rest ≠ []) (s : List Nat) : ignoreInteger (input ++ s) = .ok (rest ++ s) := by
  rcases input with _ | ⟨b, input⟩
  · cases h
  rw [ignoreInteger_cons] at h
  rw [List.cons_append, ignoreInteger_cons]
  split_ifs at h ⊢ with h0 hd hd' hdigits
  · have hinput : input ≠ [] := by
      rintro rfl
      simp only [ignoreFraction, ignoreExponentOpt, peekOrNull] at h
      cases h
      exact hne rfl
    rw [peekOrNull_append hinput] at hd
    exact absurd hd hd'
  · exact ignoreFraction_append h hne s
  · have hne' : input.dropWhile isDigit ≠ [] := by
      intro h0
      rw [h0] at h
      cases h
      exact hne rfl
    rw [dropWhile_append_of_ne_nil hne']
    exact ignoreFraction_append h hne s

/-! ## `ignore_value` -/

theorem map_pair_eq {α : Type} {r : Except JsonError (List Nat)} {a b : α} {rest : List Nat}
    (h : r.map (a, ·) = .ok (b, rest)) : r = .ok rest ∧ b = a := by
  cases r with
  | error => cases h
  | ok r =>
    simp only [Except.map, Except.ok.injEq, Prod.mk.injEq] at h
    exact ⟨by rw [h.2], h.1.symm⟩

theorem ignoreValueStart_append {input rest : List Nat} {opened : Option Nat}
    (h : ignoreValueStart input = .ok (opened, rest)) (hne : rest ≠ []) (s : List Nat) :
    ignoreValueStart (input ++ s) = .ok (opened, rest ++ s) := by
  unfold ignoreValueStart at h ⊢
  split at h
  · cases h
  next b rest' heq =>
  rw [parseWhitespace_append heq]
  dsimp only
  -- every scalar is read by a reader whose own append law applies
  have scalar : ∀ {read : List Nat → Except JsonError (List Nat)} {x : List Nat},
      (read x = .ok rest → read (x ++ s) = .ok (rest ++ s)) →
      (read x).map (none, ·) = .ok (opened, rest) →
        (read (x ++ s)).map (none, ·) = .ok (opened, rest ++ s) := by
    intro read x hread h
    obtain ⟨hr, rfl⟩ := map_pair_eq h
    rw [hread hr]
    rfl
  by_cases hn : b = 110
  · rw [if_pos hn] at h ⊢
    exact scalar (fun hr => parseIdent_append hr s) h
  rw [if_neg hn] at h ⊢
  by_cases ht : b = 116
  · rw [if_pos ht] at h ⊢
    exact scalar (fun hr => parseIdent_append hr s) h
  rw [if_neg ht] at h ⊢
  by_cases hf : b = 102
  · rw [if_pos hf] at h ⊢
    exact scalar (fun hr => parseIdent_append hr s) h
  rw [if_neg hf] at h ⊢
  by_cases hminus : b = 45
  · rw [if_pos hminus] at h ⊢
    exact scalar (fun hr => ignoreInteger_append hr hne s) h
  rw [if_neg hminus] at h ⊢
  by_cases hdigit : isDigit b
  · rw [if_pos hdigit] at h ⊢
    rw [← List.cons_append]
    exact scalar (fun hr => ignoreInteger_append hr hne s) h
  rw [if_neg hdigit] at h ⊢
  by_cases hquote : b = 34
  · rw [if_pos hquote] at h ⊢
    exact scalar (fun hr => ignoreStr_append hr s) h
  rw [if_neg hquote] at h ⊢
  split_ifs at h ⊢
  cases h
  rfl

theorem closeFrames_append {acceptComma : Bool} {frame : Nat} {stack input rest : List Nat}
    {next : Option (Nat × List Nat)} (h : closeFrames acceptComma frame stack input = .ok (next, rest))
    (s : List Nat) : closeFrames acceptComma frame stack (input ++ s) = .ok (next, rest ++ s) := by
  induction input using Nat.strongRecMeasure List.length generalizing acceptComma frame stack next rest with
  | _ input ih =>
  rw [closeFrames] at h
  split at h
  · cases h
  next b rest' heq =>
  have hlt := length_lt_of_parseWhitespace_eq heq
  rw [closeFrames, parseWhitespace_append heq]
  dsimp only
  split_ifs at h ⊢
  · cases h; rfl
  · split at h
    · cases h; rfl
    · exact ih rest' hlt h
  · cases h; rfl

theorem ignoreObjectKey_append {input rest : List Nat} (h : ignoreObjectKey input = .ok rest)
    (s : List Nat) : ignoreObjectKey (input ++ s) = .ok (rest ++ s) := by
  unfold ignoreObjectKey at h ⊢
  split at h
  · cases h
  next b rest' heq =>
  rw [parseWhitespace_append heq]
  dsimp only
  split_ifs at h ⊢
  split at h
  · cases h
  next rest'' hstr =>
  rw [ignoreStr_append hstr]
  dsimp only
  split at h
  · cases h
  next heq' =>
  rw [parseWhitespace_append heq']
  dsimp only
  split_ifs at h ⊢
  cases h
  rfl

theorem closeFrames_nil (acceptComma : Bool) (frame : Nat) (stack : List Nat) :
    ∃ err, closeFrames acceptComma frame stack [] = .error err := by
  rw [closeFrames]
  exact ⟨_, rfl⟩

theorem continueLoop_ne_nil {acceptComma : Bool} {frame : Nat} {stack input rest : List Nat}
    (h : continueLoop acceptComma frame stack input = .ok rest) : input ≠ [] := by
  rintro rfl
  obtain ⟨err, herr⟩ := closeFrames_nil acceptComma frame stack
  rw [continueLoop, herr] at h
  cases h

theorem afterValue_ne_nil {stack input rest : List Nat} (h : afterValue stack input = .ok rest)
    (hne : rest ≠ []) : input ≠ [] := by
  cases stack with
  | nil => cases h; exact hne
  | cons frame stack => exact continueLoop_ne_nil h

/-- The append law of `ignore_value`'s loop, on inputs of at most `n` octets. -/
def LoopExtends (n : Nat) : Prop :=
  ∀ (input : List Nat), input.length ≤ n → ∀ (enclosing : Option Nat) (stack rest : List Nat),
    ignoreValueLoop enclosing stack input = .ok rest → rest ≠ [] →
      ∀ s, ignoreValueLoop enclosing stack (input ++ s) = .ok (rest ++ s)

theorem LoopExtends.mono {m n : Nat} (h : LoopExtends n) (hmn : m ≤ n) : LoopExtends m :=
  fun input hlen => h input (hlen.trans hmn)

theorem nextTurn_append {frame : Nat} {stack input rest : List Nat} (hloop : LoopExtends input.length)
    (h : nextTurn frame stack input = .ok rest) (hne : rest ≠ []) (s : List Nat) :
    nextTurn frame stack (input ++ s) = .ok (rest ++ s) := by
  unfold nextTurn at h ⊢
  split_ifs at h ⊢
  · split at h
    · cases h
    next rest' hkey =>
    rw [ignoreObjectKey_append hkey]
    exact hloop rest' (ignoreObjectKey_length_le hkey) _ _ _ h hne s
  · exact hloop input le_rfl _ _ _ h hne s

theorem continueLoop_append {acceptComma : Bool} {frame : Nat} {stack input rest : List Nat}
    (hloop : LoopExtends input.length) (h : continueLoop acceptComma frame stack input = .ok rest)
    (hne : rest ≠ []) (s : List Nat) :
    continueLoop acceptComma frame stack (input ++ s) = .ok (rest ++ s) := by
  unfold continueLoop at h ⊢
  split at h
  · cases h
  · next rest' hclose => cases h; rw [closeFrames_append hclose]
  · next frame' stack' rest' hclose =>
    rw [closeFrames_append hclose]
    exact nextTurn_append (hloop.mono (closeFrames_length_le hclose)) h hne s

theorem afterValue_append {stack input rest : List Nat} (hloop : LoopExtends input.length)
    (h : afterValue stack input = .ok rest) (hne : rest ≠ []) (s : List Nat) :
    afterValue stack (input ++ s) = .ok (rest ++ s) := by
  cases stack with
  | nil => cases h; rfl
  | cons frame stack => exact continueLoop_append hloop h hne s

theorem loopExtends : ∀ n, LoopExtends n
  | 0 => fun input hlen enclosing stack rest h => by
    rw [List.length_eq_zero.mp (Nat.le_zero.mp hlen), ignoreValueLoop_eq] at h
    cases h
  | n + 1 => fun input hlen enclosing stack rest h hne s => by
    rw [ignoreValueLoop_eq] at h ⊢
    rcases hstart : ignoreValueStart input with err | ⟨opened, rest'⟩ <;> rw [hstart] at h
    · cases h
    have hloop := (loopExtends n).mono (m := rest'.length)
      (by have := ignoreValueStart_length_lt hstart; omega)
    cases opened with
    | none =>
      rw [ignoreValueStart_append hstart (afterValue_ne_nil h hne)]
      exact afterValue_append hloop h hne s
    | some frame =>
      rw [ignoreValueStart_append hstart (continueLoop_ne_nil h)]
      exact continueLoop_append hloop h hne s

/-- `ignore_value`, having skipped a value with octets left, skips the same value whatever is
appended. -/
theorem ignoreValue_append {input rest : List Nat} (h : ignoreValue input = .ok rest) (hne : rest ≠ [])
    (s : List Nat) : ignoreValue (input ++ s) = .ok (rest ++ s) :=
  loopExtends input.length input le_rfl none [] rest h hne s

/-! ## The derived `Deserialize` -/

theorem Extends.map {α β : Type} {read : List Nat → Except JsonError (α × List Nat)} (h : Extends read)
    (f : α → β) : Extends fun input => (read input).map fun x => (f x.1, x.2) := by
  intro input rest b hb hne s
  dsimp only at hb ⊢
  rcases hr : read input with err | ⟨a, rest'⟩ <;> rw [hr] at hb
  · cases hb
  cases hb
  rw [h _ _ _ hr hne s]
  rfl

theorem extends_deserializeBool : Extends deserializeBool := by
  intro input rest b h _ s
  unfold deserializeBool at h ⊢
  split at h
  · cases h
  next c rest' heq =>
  rw [parseWhitespace_append heq]
  dsimp only
  split_ifs at h ⊢ <;> obtain ⟨hr, rfl⟩ := map_pair_eq h <;> rw [parseIdent_append hr] <;> rfl

theorem extends_deserializeString : Extends deserializeString := by
  intro input rest str h _ s
  unfold deserializeString at h ⊢
  split at h
  · cases h
  next c rest' heq =>
  rw [parseWhitespace_append heq]
  dsimp only
  split_ifs at h ⊢
  rcases hr : parseStr rest' with err | ⟨chars, rest''⟩ <;> rw [hr] at h
  · cases h
  cases h
  rw [parseStr_append hr]
  rfl

theorem extends_deserializeOptionString : Extends deserializeOptionString := by
  intro input rest v h hne s
  rcases hws : parseWhitespace input with _ | ⟨c, rest'⟩
  · rw [deserializeOptionString, hws] at h
    cases h
  rw [deserializeOptionString, hws] at h
  rw [deserializeOptionString, parseWhitespace_append hws]
  by_cases hc : c = 110
  · subst hc
    obtain ⟨hr, rfl⟩ := map_pair_eq h
    show (parseIdent _ (rest' ++ s)).map _ = _
    rw [parseIdent_append hr]
    rfl
  · split at h
    · next heq => exact absurd (List.cons.inj heq).1 hc
    split
    · next heq => exact absurd (List.cons.inj heq).1 hc
    exact extends_deserializeString.map some _ _ _ h hne s

theorem parseObjectColon_append {input rest : List Nat} (h : parseObjectColon input = .ok rest)
    (s : List Nat) : parseObjectColon (input ++ s) = .ok (rest ++ s) := by
  unfold parseObjectColon at h ⊢
  split at h
  · cases h
  next b rest' heq =>
  rw [parseWhitespace_append heq]
  dsimp only
  split_ifs at h ⊢
  cases h
  rfl

theorem Extends.nextValue {α : Type} {read : List Nat → Except JsonError (α × List Nat)}
    (h : Extends read) : Extends (nextValue read) := by
  intro input rest a hv hne s
  unfold Sqld.Config.nextValue at hv ⊢
  split at hv
  · cases hv
  next rest' hcolon =>
  rw [parseObjectColon_append hcolon]
  exact h _ _ _ hv hne s

theorem Extends.visitField {α : Type} {read : List Nat → Except JsonError (α × List Nat)}
    (h : Extends read) (seen : Bool) (name : String) : Extends (visitField seen name read) := by
  intro input rest a hv hne s
  unfold Sqld.Config.visitField at hv ⊢
  split_ifs at hv ⊢
  exact h.nextValue _ _ _ hv hne s

theorem extends_visitEntry (fields : Fields) (field : Field) :
    Extends (visitEntry fields field) := by
  cases field with
  | blockReads =>
    exact (extends_deserializeBool.visitField _ _).map fun v => { fields with blockReads := some v }
  | blockWrites =>
    exact (extends_deserializeBool.visitField _ _).map fun v => { fields with blockWrites := some v }
  | blockReason =>
    exact (extends_deserializeOptionString.visitField _ _).map
      fun v => { fields with blockReason := some v }
  | ignore =>
    have hignore : Extends fun input => (ignoreValue input).map ((), ·) := by
      intro input rest u h hne s
      dsimp only at h ⊢
      obtain ⟨hr, rfl⟩ := map_pair_eq h
      rw [ignoreValue_append hr hne]
      rfl
    exact hignore.nextValue.map fun _ => fields

theorem extends_parseStr : Extends parseStr := fun _ _ _ h _ s => parseStr_append h s

theorem extends_keyAt : Extends keyAt := by
  intro input rest field h hne s
  match input, h with
  | b :: input', h =>
    simp only [keyAt, List.cons_append] at h ⊢
    split_ifs at h ⊢
    exact extends_parseStr.map (fun key => some (Field.ofKey key)) _ _ _ h hne s

theorem extends_nextKey (first : Bool) : Extends (nextKey first) := by
  intro input rest field h hne s
  unfold nextKey at h ⊢
  split at h
  · cases h
  next b rest' heq =>
  rw [parseWhitespace_append heq]
  dsimp only
  split_ifs at h ⊢
  · cases h; rfl
  · rcases hws : parseWhitespace rest' with _ | ⟨c, rest''⟩
    · rw [hws] at h; cases h
    rw [hws] at h
    rw [parseWhitespace_append hws, ← List.cons_append]
    exact extends_keyAt _ _ _ h hne s
  · rw [← List.cons_append]
    exact extends_keyAt _ _ _ h hne s

theorem nextKey_nil (first : Bool) : nextKey first [] = .error .eofWhileParsingObject := rfl

theorem visitMapLoop_ne_nil {first : Bool} {fields fields' : Fields} {input rest : List Nat}
    (h : visitMapLoop first fields input = .ok (fields', rest)) : input ≠ [] := by
  rintro rfl
  rw [visitMapLoop_eq, nextKey_nil] at h
  cases h

theorem extends_visitMapLoop (first : Bool) (fields : Fields) : Extends (visitMapLoop first fields) := by
  intro input
  induction input using Nat.strongRecMeasure List.length generalizing first fields with
  | _ input ih =>
  intro rest fields' h hne s
  rw [visitMapLoop_eq] at h ⊢
  rcases hkey : nextKey first input with err | ⟨_ | field, rest₁⟩ <;> rw [hkey] at h
  · cases h
  · cases h
    rw [extends_nextKey first _ _ _ hkey hne s]
  · dsimp only at h
    rcases hentry : visitEntry fields field rest₁ with err | ⟨fields₁, rest₂⟩ <;> rw [hentry] at h
    · cases h
    have hlen : rest₂.length < input.length :=
      (visitEntry_length_le hentry).trans_lt (nextKey_length_lt hkey)
    have hrest₂ := visitMapLoop_ne_nil h
    have hrest₁ : rest₁ ≠ [] := by
      rintro rfl
      have := visitEntry_length_le hentry
      exact hrest₂ (List.length_eq_zero.mp (Nat.le_zero.mp this))
    rw [extends_nextKey first _ _ _ hkey hrest₁ s]
    dsimp only
    rw [extends_visitEntry fields field _ _ _ hentry hrest₂ s]
    exact ih rest₂ hlen false fields₁ _ _ h hne s

theorem endMap_append {input rest : List Nat} (h : endMap input = .ok rest) (s : List Nat) :
    endMap (input ++ s) = .ok (rest ++ s) := by
  unfold endMap at h ⊢
  split at h
  · cases h
  next b rest' heq =>
  rw [parseWhitespace_append heq]
  dsimp only
  split_ifs at h ⊢
  cases h
  rfl

theorem endMap_nil : endMap [] = .error .eofWhileParsingObject := rfl

theorem Extends.elementAt {α : Type} {read : List Nat → Except JsonError (α × List Nat)}
    (h : Extends read) : Extends (elementAt read) := by
  intro input rest a he hne s
  match input, he with
  | b :: input', he =>
    simp only [Sqld.Config.elementAt, List.cons_append] at he ⊢
    split_ifs at he ⊢
    rw [← List.cons_append]
    exact h.map some _ _ _ he hne s

theorem Extends.nextElement {α : Type} {read : List Nat → Except JsonError (α × List Nat)}
    (h : Extends read) (first : Bool) : Extends (nextElement read first) := by
  intro input rest a he hne s
  unfold Sqld.Config.nextElement at he ⊢
  split at he
  · cases he
  next b rest' heq =>
  rw [parseWhitespace_append heq]
  dsimp only
  split_ifs at he ⊢
  · cases he; rfl
  · rcases hws : parseWhitespace rest' with _ | ⟨c, rest''⟩
    · rw [hws] at he; cases he
    rw [hws] at he
    rw [parseWhitespace_append hws, ← List.cons_append]
    exact h.elementAt _ _ _ he hne s
  · rw [← List.cons_append]
    exact h.elementAt _ _ _ he hne s

theorem nextElement_nil {α : Type} (read : List Nat → Except JsonError (α × List Nat)) (first : Bool) :
    nextElement read first [] = .error .eofWhileParsingList := rfl

theorem extends_visitSeq : Extends visitSeq := by
  intro input rest config h hne s
  unfold visitSeq at h ⊢
  rcases h₁ : nextElement deserializeBool true input with err | ⟨blockReads, rest₁⟩ <;> rw [h₁] at h
  · cases h
  dsimp only at h
  rcases h₂ : nextElement deserializeBool blockReads.isNone rest₁ with err | ⟨blockWrites, rest₂⟩ <;>
    rw [h₂] at h
  · cases h
  dsimp only at h
  rcases h₃ : nextElement deserializeOptionString (blockReads.isNone && blockWrites.isNone) rest₂ with
    err | ⟨blockReason, rest₃⟩ <;> rw [h₃] at h
  · cases h
  cases h
  have hrest₂ : rest₂ ≠ [] := by rintro rfl; rw [nextElement_nil] at h₃; cases h₃
  have hrest₁ : rest₁ ≠ [] := by rintro rfl; rw [nextElement_nil] at h₂; cases h₂
  rw [extends_deserializeBool.nextElement true _ _ _ h₁ hrest₁ s]
  dsimp only
  rw [extends_deserializeBool.nextElement _ _ _ _ h₂ hrest₂ s]
  dsimp only
  rw [extends_deserializeOptionString.nextElement _ _ _ _ h₃ hne s]

theorem endSeq_append {input rest : List Nat} (h : endSeq input = .ok rest) (s : List Nat) :
    endSeq (input ++ s) = .ok (rest ++ s) := by
  unfold endSeq at h ⊢
  split at h
  · cases h
  next b rest' heq =>
  rw [parseWhitespace_append heq]
  dsimp only
  split_ifs at h ⊢
  · cases h; rfl
  · split at h <;> cases h

theorem endSeq_nil : endSeq [] = .error .eofWhileParsingList := rfl

/-- `deserialize_struct` stops at the closing bracket or brace: whatever is appended is left. -/
theorem deserializeDatabaseConfig_append {input rest : List Nat} {config : DatabaseConfig}
    (h : deserializeDatabaseConfig input = .ok (config, rest)) (s : List Nat) :
    deserializeDatabaseConfig (input ++ s) = .ok (config, rest ++ s) := by
  unfold deserializeDatabaseConfig at h ⊢
  split at h
  · cases h
  next b rest' heq =>
  rw [parseWhitespace_append heq]
  dsimp only
  split_ifs at h ⊢
  · rcases hv : visitSeq rest' with err | ⟨config', rest₁⟩ <;> rw [hv] at h
    · cases h
    obtain ⟨hend, rfl⟩ := map_pair_eq h
    have hrest₁ : rest₁ ≠ [] := by rintro rfl; rw [endSeq_nil] at hend; cases hend
    rw [extends_visitSeq _ _ _ hv hrest₁ s]
    dsimp only
    rw [endSeq_append hend]
    rfl
  · rcases hv : visitMap rest' with err | ⟨config', rest₁⟩ <;> rw [hv] at h
    · cases h
    obtain ⟨hend, rfl⟩ := map_pair_eq h
    have hrest₁ : rest₁ ≠ [] := by rintro rfl; rw [endMap_nil] at hend; cases hend
    have hmap : Extends visitMap := (extends_visitMapLoop true .empty).map Fields.config
    rw [hmap _ _ _ hv hrest₁ s]
    dsimp only
    rw [endMap_append hend]
    rfl

/-! ## `from_slice` -/

theorem parseWhitespace_append_of_nil {input : List Nat} (h : parseWhitespace input = [])
    (s : List Nat) : parseWhitespace (input ++ s) = parseWhitespace s := by
  rw [parseWhitespace, List.dropWhile_append, ← parseWhitespace, h]
  rfl

theorem parseWhitespace_eq_nil_iff (input : List Nat) :
    parseWhitespace input = [] ↔ input.all isJsonWhitespace := by
  rw [parseWhitespace, List.dropWhile_eq_nil_iff, List.all_eq_true]

/-- What `from_slice` makes of a text it accepts, followed by more bytes: the same configuration
when they are whitespace, `trailing_characters` otherwise. -/
theorem fromSlice_append_eq {text : List UInt8} {config : DatabaseConfig}
    (h : fromSlice text = .ok config) (more : List UInt8) :
    fromSlice (text ++ more) =
      if parseWhitespace (more.map UInt8.toNat) = [] then .ok config else .error .trailingCharacters := by
  unfold fromSlice at h ⊢
  rcases hd : deserializeDatabaseConfig (text.map UInt8.toNat) with err | ⟨config', rest⟩ <;>
    rw [hd] at h
  · cases h
  dsimp only at h
  split at h
  · next hws =>
    cases h
    rw [List.map_append, deserializeDatabaseConfig_append hd]
    dsimp only
    rw [parseWhitespace_append_of_nil hws]
    cases parseWhitespace (more.map UInt8.toNat) <;> rfl
  · cases h

/-- Once `from_slice` has accepted a text, it accepts the text followed by whitespace, with the
same configuration, and rejects it followed by anything else with `trailing_characters`. -/
theorem fromSlice_append {text : List UInt8} {config : DatabaseConfig}
    (h : fromSlice text = .ok config) (more : List UInt8) :
    fromSlice (text ++ more) =
      if (more.map UInt8.toNat).all isJsonWhitespace then .ok config
      else .error .trailingCharacters := by
  simp only [fromSlice_append_eq h, parseWhitespace_eq_nil_iff]

/-- The document this version writes, then a line feed, reads back; followed by a comma it does
not. -/
theorem fromSlice_append_toVecPretty :
    fromSlice (toVecPretty .default) = .ok .default ∧
      fromSlice (toVecPretty .default ++ [10]) = .ok .default ∧
      fromSlice (toVecPretty .default ++ [44]) = .error .trailingCharacters :=
  ⟨fromSlice_toVecPretty _, (fromSlice_append (fromSlice_toVecPretty _) [10]).trans (if_pos (by decide)),
    (fromSlice_append (fromSlice_toVecPretty _) [44]).trans (if_neg (by decide))⟩

/-- The bytes `to_vec_pretty` writes end with the closing brace. -/
theorem toVecPretty_eq_append (config : DatabaseConfig) : ∃ body, toVecPretty config = body ++ [125] := by
  obtain ⟨pre, hpre⟩ : ∃ pre, config.prettyJson = pre ++ ['\x7d'] :=
    ⟨_, by rw [DatabaseConfig.prettyJson, show "\n\x7d".toList = ['\n'] ++ ['\x7d'] from rfl,
      ← List.append_assoc]⟩
  exact ⟨pre.flatMap String.utf8EncodeChar, by rw [toVecPretty, hpre, List.flatMap_append]; rfl⟩

/-- A `config.json` cut short is never read: `from_slice` accepts no proper prefix of the bytes
`to_vec_pretty` writes for a configuration. -/
theorem fromSlice_toVecPretty_prefix (config : DatabaseConfig) {n : Nat}
    (hn : n < (toVecPretty config).length) (c : DatabaseConfig) :
    fromSlice ((toVecPretty config).take n) ≠ .ok c := by
  intro h
  have happ := fromSlice_append_eq h ((toVecPretty config).drop n)
  have hmore : (toVecPretty config).drop n ≠ [] := by
    simpa [List.drop_eq_nil_iff] using hn
  obtain ⟨body, hbody⟩ := toVecPretty_eq_append config
  have hlast : ((toVecPretty config).drop n).getLast? = some 125 := by
    have := congrArg List.getLast? ((List.take_append_drop n (toVecPretty config)).trans hbody)
    rwa [List.getLast?_append_of_ne_nil _ hmore, List.getLast?_append_of_ne_nil _ (by simp)] at this
  have hnot : parseWhitespace (((toVecPretty config).drop n).map UInt8.toNat) ≠ [] := by
    rw [Ne, parseWhitespace_eq_nil_iff]
    intro hall
    have hmem := List.mem_map_of_mem UInt8.toNat (List.mem_of_getLast?_eq_some hlast)
    exact absurd (List.all_eq_true.mp hall _ hmem) (by decide)
  rw [if_neg hnot, List.take_append_drop, fromSlice_toVecPretty] at happ
  cases happ

/-- The first byte alone, `{`, is not a configuration. -/
theorem fromSlice_toVecPretty_take_one :
    1 < (toVecPretty .default).length ∧ fromSlice ((toVecPretty .default).take 1) ≠ .ok .default :=
  have h : 1 < (toVecPretty .default).length := by decide
  ⟨h, fromSlice_toVecPretty_prefix _ h _⟩

end Config
end Sqld
