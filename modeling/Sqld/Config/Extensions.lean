import Mathlib

/-!
# The list of trusted extensions

`DbConfig::validate_extensions` reads `trusted.lst` in the extensions directory and accepts each
extension it lists once the file's SHA-256 digest matches:

```
let extensions = file_contents.lines().filter(|c| !c.is_empty());
for line in extensions {
    let mut ext_info = line.trim().split_ascii_whitespace();
    ...
}
```

Only empty lines are skipped.  A line of whitespace only is not empty, so it reaches the loop,
where `trim` leaves nothing to split and the line is rejected as invalid
(`whitespace_line_rejected`).  `trim` removes Unicode whitespace while the split is on ASCII
whitespace only.  Every other line must hold exactly two tokens, a digest and a file name, and
the file's digest must be the first: then the result lists the files, in the order of the lines
(`validateExtensions_ok_iff`).

Paths and texts are lists of characters; reading a file and taking its digest are parameters,
`none` standing for an I/O error.
-/

namespace Sqld
namespace Config

/-- `char::is_whitespace`: the Unicode `White_Space` property. -/
def isWhitespace (c : Char) : Bool :=
  let n := c.toNat
  (9 ≤ n && n ≤ 13) || n = 32 || n = 0x85 || n = 0xA0 || n = 0x1680 ||
    (0x2000 ≤ n && n ≤ 0x200A) || n = 0x2028 || n = 0x2029 || n = 0x202F || n = 0x205F ||
    n = 0x3000

/-- `u8::is_ascii_whitespace`: space, tab, line feed, form feed and carriage return. -/
def isAsciiWhitespace (c : Char) : Bool :=
  c = ' ' || c = '\t' || c = '\n' || c.toNat = 12 || c = '\r'

/-- `str::trim`: the text without its leading and trailing whitespace. -/
def trim (s : List Char) : List Char :=
  ((s.dropWhile isWhitespace).reverse.dropWhile isWhitespace).reverse

/-- `str::split_ascii_whitespace`: the non-empty pieces between ASCII whitespace. -/
def splitAsciiWhitespace (s : List Char) : List (List Char) :=
  (s.splitOnP isAsciiWhitespace).filter (!·.isEmpty)

/-- A line without the carriage return that ends it, if one does. -/
def stripCr (line : List Char) : List Char :=
  if line.getLast? = some '\r' then line.dropLast else line

/-- `str::lines` from the line being read: each line ends at a line feed, which it loses with a
carriage return right before it; a last line without a line feed is kept as it is. -/
def linesFrom (line : List Char) : List Char → List (List Char)
  | [] => if line.isEmpty then [] else [line]
  | c :: rest => if c = '\n' then stripCr line :: linesFrom [] rest else linesFrom (line ++ [c]) rest

/-- `str::lines`. -/
def lines (s : List Char) : List (List Char) := linesFrom [] s

/-- `Path::join` on Unix: an absolute name replaces the directory, and a separator is put
between them when the directory does not end with one. -/
def joinPath (dir name : List Char) : List Char :=
  if name.head? = some '/' then name
  else if dir.isEmpty || dir.getLast? = some '/' then dir ++ name
  else dir ++ '/' :: name

/-- The errors of `validate_extensions`, with the data their messages show. -/
inductive ExtensionError
  | cantRead (path : List Char)
  | invalidLine (path line : List Char)
  | whitespaceInName
  | digestFailed (path : List Char)
  | shaDiffers (fname digest : List Char)
  deriving DecidableEq, Repr

/-- The message of each error. -/
def ExtensionError.message : ExtensionError → String
  | .cantRead path => "can't read " ++ String.mk path
  | .invalidLine path line => "invalid line on " ++ String.mk path ++ ": " ++ String.mk line
  | .whitespaceInName => "extension list seem to contain a filename with whitespaces. Rejected"
  | .digestFailed path =>
    "Failed to get sha256 digest, while trying to read " ++ String.mk path
  | .shaDiffers fname digest => "sha256 differs for " ++ String.mk fname ++ ". Got " ++ String.mk digest

section Validate

variable (tryDigest : List Char → Option (List Char)) (extDir extensionsList : List Char)

/-- The body of the loop of `validate_extensions`: the first token is the digest and the second
the file name, a third is rejected, and the file's digest must be the first token. -/
def validateLine (line : List Char) : Except ExtensionError (List Char) :=
  match splitAsciiWhitespace (trim line) with
  | [] | [_] => .error (.invalidLine extensionsList line)
  | _ :: _ :: _ :: _ => .error .whitespaceInName
  | [extSha, extFname] =>
    let extensionFullPath := joinPath extDir extFname
    match tryDigest extensionFullPath with
    | none => .error (.digestFailed extensionFullPath)
    | some digest => if digest = extSha then .ok extensionFullPath else .error (.shaDiffers extFname digest)

/-- The loop of `validate_extensions`: the lines in order, until the first that fails. -/
def validateLines : List (List Char) → Except ExtensionError (List (List Char))
  | [] => .ok []
  | line :: rest =>
    match validateLine tryDigest extDir extensionsList line with
    | .error err => .error err
    | .ok path =>
      match validateLines rest with
      | .error err => .error err
      | .ok paths => .ok (path :: paths)

end Validate

/-- `DbConfig::validate_extensions`, with `readToString` and `tryDigest` the file system. -/
def validateExtensions (extensionsPath : Option (List Char))
    (readToString tryDigest : List Char → Option (List Char)) :
    Except ExtensionError (List (List Char)) :=
  match extensionsPath with
  | none => .ok []
  | some extDir =>
    let extensionsList := joinPath extDir "trusted.lst".toList
    match readToString extensionsList with
    | none => .error (.cantRead extensionsList)
    | some fileContents =>
      validateLines tryDigest extDir extensionsList ((lines fileContents).filter (!·.isEmpty))

section Spec

variable (tryDigest : List Char → Option (List Char)) (extDir extensionsList : List Char)

theorem validateLine_eq_ok (line path : List Char) :
    validateLine tryDigest extDir extensionsList line = .ok path ↔
      ∃ extSha extFname, splitAsciiWhitespace (trim line) = [extSha, extFname] ∧
        tryDigest (joinPath extDir extFname) = some extSha ∧ path = joinPath extDir extFname := by
  unfold validateLine
  split
  · next hsplit => simp [hsplit]
  · next hsplit => simp [hsplit]
  · next hsplit => simp [hsplit]
  · next extSha extFname hsplit =>
    simp only [hsplit, List.cons.injEq, and_true]
    constructor
    · intro h
      refine ⟨extSha, extFname, ⟨rfl, rfl⟩, ?_⟩
      cases hd : tryDigest (joinPath extDir extFname) with
      | none => simp [hd] at h
      | some digest =>
        simp only [hd] at h
        split_ifs at h with hsha
        · exact ⟨congrArg some hsha, (Except.ok.inj h).symm⟩
    · rintro ⟨_, _, ⟨rfl, rfl⟩, hd, rfl⟩
      simp [hd]

/-- The loop accepts its lines iff each holds a digest and a file name whose digest it is, and
then returns the files in the order of the lines. -/
theorem validateLines_eq_ok :
    ∀ (ls : List (List Char)) (paths : List (List Char)),
      validateLines tryDigest extDir extensionsList ls = .ok paths ↔
        ∃ entries : List (List Char × List Char),
          ls.map (fun line => splitAsciiWhitespace (trim line)) = entries.map (fun e => [e.1, e.2]) ∧
          (∀ e ∈ entries, tryDigest (joinPath extDir e.2) = some e.1) ∧
          paths = entries.map (fun e => joinPath extDir e.2)
  | [], paths => by
    constructor
    · intro h
      exact ⟨[], rfl, by simp, by simpa [validateLines, eq_comm] using h⟩
    · rintro ⟨entries, hmap, -, rfl⟩
      obtain rfl : entries = [] := List.map_eq_nil_iff.1 hmap.symm
      rfl
  | line :: rest, paths => by
    constructor
    · intro h
      simp only [validateLines] at h
      cases hl : validateLine tryDigest extDir extensionsList line with
      | error err => simp [hl] at h
      | ok path =>
        cases hr : validateLines tryDigest extDir extensionsList rest with
        | error err => simp [hl, hr] at h
        | ok paths' =>
          simp only [hl, hr, Except.ok.injEq] at h
          obtain ⟨extSha, extFname, hsplit, hd, rfl⟩ := (validateLine_eq_ok _ _ _ _ _).1 hl
          obtain ⟨entries, hmap, hdig, rfl⟩ := (validateLines_eq_ok rest paths').1 hr
          refine ⟨(extSha, extFname) :: entries, by simp [hsplit, hmap], ?_, by simp [← h]⟩
          exact List.forall_mem_cons.2 ⟨hd, hdig⟩
    · rintro ⟨_ | ⟨e, entries⟩, hmap, hdig, rfl⟩
      · simp at hmap
      simp only [List.map_cons, List.cons.injEq] at hmap
      have hl := (validateLine_eq_ok tryDigest extDir extensionsList line _).2
        ⟨e.1, e.2, hmap.1, hdig e (List.mem_cons_self _ _), rfl⟩
      have hr := (validateLines_eq_ok rest _).2
        ⟨entries, hmap.2, fun e' he' => hdig e' (List.mem_cons_of_mem _ he'), rfl⟩
      simp [validateLines, hl, hr]

end Spec

/-- For every content of `trusted.lst` and every digest function: `validate_extensions` returns
`Ok(paths)` iff every non-empty line that `lines()` gives holds, once trimmed, exactly two
tokens separated by ASCII whitespace, a digest and a file name whose file in the extensions
directory has that digest; `paths` then lists those files in the order of the lines.  Only empty
lines are skipped: a line of whitespace only has no token and fails. -/
theorem validateExtensions_ok_iff (readToString tryDigest : List Char → Option (List Char))
    (extDir fileContents : List Char)
    (hread : readToString (joinPath extDir "trusted.lst".toList) = some fileContents)
    (paths : List (List Char)) :
    validateExtensions (some extDir) readToString tryDigest = .ok paths ↔
      ∃ entries : List (List Char × List Char),
        ((lines fileContents).filter (!·.isEmpty)).map (fun line => splitAsciiWhitespace (trim line)) =
          entries.map (fun e => [e.1, e.2]) ∧
        (∀ e ∈ entries, tryDigest (joinPath extDir e.2) = some e.1) ∧
        paths = entries.map (fun e => joinPath extDir e.2) := by
  simp only [validateExtensions, hread]
  exact validateLines_eq_ok tryDigest extDir _ _ paths

/-- A list that names `lib.so` with the digest `abc`, followed by an empty line. -/
def trustedList : List Char := "abc lib.so\n\n".toList

theorem validateExtensions_ok_iff_trustedList :
    (fun _ => some trustedList : List Char → Option (List Char))
        (joinPath "ext".toList "trusted.lst".toList) = some trustedList ∧
      (validateExtensions (some "ext".toList) (fun _ => some trustedList) (fun _ => some "abc".toList) =
          .ok ["ext/lib.so".toList] ↔
        ∃ entries : List (List Char × List Char),
          ((lines trustedList).filter (!·.isEmpty)).map (fun line => splitAsciiWhitespace (trim line)) =
            entries.map (fun e => [e.1, e.2]) ∧
          (∀ e ∈ entries, (fun _ => some "abc".toList : List Char → Option (List Char))
            (joinPath "ext".toList e.2) = some e.1) ∧
          ["ext/lib.so".toList] = entries.map (fun e => joinPath "ext".toList e.2)) :=
  ⟨rfl, validateExtensions_ok_iff (fun _ => some trustedList) (fun _ => some "abc".toList) "ext".toList
    trustedList rfl _⟩

/- With Windows line endings the empty line is still skipped. -/
example : validateExtensions (some "ext".toList) (fun _ => some "abc lib.so\r\n\r\n".toList)
    (fun _ => some "abc".toList) = .ok ["ext/lib.so".toList] := rfl

/-- A list whose only line holds two spaces: the line is not empty, so `validate_extensions`
rejects it although it is blank. -/
theorem whitespace_line_rejected :
    validateExtensions (some "ext".toList) (fun _ => some "  \n".toList) (fun _ => none) =
      .error (.invalidLine "ext/trusted.lst".toList "  ".toList) := rfl

end Config
end Sqld
