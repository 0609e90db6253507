import ModularSynth.Toml.Scan

/-!
This module contains the reading of TOML strings: basic and literal ones, on one line or on several.
-/

namespace ModularSynth
namespace Toml

def isHexDigit (c : Char) : Bool :=
  c.isDigit || ('a' ≤ c && c ≤ 'f') || ('A' ≤ c && c ≤ 'F')

def hexDigitValue (c : Char) : Nat :=
  if c.isDigit then c.toNat - '0'.toNat
  else if 'a' ≤ c then c.toNat - 'a'.toNat + 10
  else c.toNat - 'A'.toNat + 10

def hexValue (digits : List Char) : Nat :=
  digits.foldl (fun n c => 16 * n + hexDigitValue c) 0

/-- The character that a given number of hexadecimal digits stands for. -/
def codePoint? (count : Nat) (s : List Char) : Option (Char × List Char) :=
  let digits := s.take count
  let n := hexValue digits
  if digits.length = count ∧ digits.all isHexDigit ∧ n.isValidChar then
    some (Char.ofNat n, s.drop count)
  else
    none

/-- The character an escape stands for; `s` is what follows the backslash. -/
def escape? : Reader Char
  | 'b' :: s => some ('\x08', s)
  | 'f' :: s => some ('\x0c', s)
  | 'n' :: s => some ('\n', s)
  | 'r' :: s => some ('\r', s)
  | 't' :: s => some ('\t', s)
  | '\\' :: s => some ('\\', s)
  | '"' :: s => some ('"', s)
  | 'u' :: s => codePoint? 4 s
  | 'U' :: s => codePoint? 8 s
  | _ => none

theorem length_codePoint?_le {count : Nat} {s rest : List Char} {c : Char}
    (h : codePoint? count s = some (c, rest)) : rest.length ≤ s.length := by
  simp only [codePoint?] at h
  split at h
  . simp only [Option.some.injEq, Prod.mk.injEq] at h
    rw [← h.2, List.length_drop]
    omega
  . contradiction

theorem length_escape?_lt {s rest : List Char} {c : Char} (h : escape? s = some (c, rest)) :
    rest.length < s.length := by
  unfold escape? at h
  split at h
  case h_8 => exact Nat.lt_succ_of_le (length_codePoint?_le h)
  case h_9 => exact Nat.lt_succ_of_le (length_codePoint?_le h)
  all_goals simp_all

/-- The rest of a basic string, behind its opening quote. -/
def basicString (s : List Char) : Option (List Char × List Char) :=
  match s with
  | [] => none
  | '"' :: s => some ([], s)
  | '\\' :: s =>
    match h : escape? s with
    | some (c, rest) => do
      have := length_escape?_lt h
      let (cs, rest) ← basicString rest
      return (c :: cs, rest)
    | none => none
  | c :: s =>
    if isPlain c then do
      let (cs, rest) ← basicString s
      return (c :: cs, rest)
    else
      none
termination_by s.length
decreasing_by all_goals simp only [List.length_cons]; omega

/-- The rest of a literal string, behind its opening apostrophe. -/
def literalString : Reader (List Char)
  | [] => none
  | c :: s =>
    if c = '\'' then
      some ([], s)
    else if isPlain c then do
      let (cs, rest) ← literalString s
      return (c :: cs, rest)
    else
      none

/--
The end of a string on several lines, behind three closing quotes. Up to two more quotes may follow;
these belong to the string, and the last three quotes are the ones that close it.
-/
def closing (quote : Char) (s : List Char) : List Char × List Char :=
  let extra := (s.takeWhile (· = quote)).take 2
  (extra, s.drop extra.length)

/-- A backslash at the end of a line: what follows it up to the next character that is not blank. -/
def joinLines? (s : List Char) : Option (List Char) :=
  (newline? (skipWhite s)).map fun rest => skip rest
where
  skip : List Char → List Char
    | '\n' :: s => skip s
    | '\r' :: '\n' :: s => skip s
    | c :: s => if isWhite c then skip s else c :: s
    | [] => []

theorem length_skip_le (s : List Char) : (joinLines?.skip s).length ≤ s.length := by
  fun_induction joinLines?.skip s <;> simp_all <;> omega

theorem length_joinLines?_lt {s rest : List Char} (h : joinLines? s = some rest) :
    rest.length < s.length := by
  simp only [joinLines?, Option.map_eq_some_iff] at h
  obtain ⟨r, hr, rfl⟩ := h
  have := length_newline?_lt hr
  have := length_skipWhite_le s
  have := length_skip_le r
  omega

/-- The rest of a basic string on several lines. Line breaks are read as line feeds. -/
def basicLines (s : List Char) : Option (List Char × List Char) :=
  match s with
  | [] => none
  | '"' :: '"' :: '"' :: s => some (closing '"' s)
  | '\\' :: s =>
    match hj : joinLines? s with
    | some rest =>
      have := length_joinLines?_lt hj
      basicLines rest
    | none =>
      match h : escape? s with
      | some (c, rest) => do
        have := length_escape?_lt h
        let (cs, rest) ← basicLines rest
        return (c :: cs, rest)
      | none => none
  | '\r' :: '\n' :: s => do
    let (cs, rest) ← basicLines s
    return ('\n' :: cs, rest)
  | c :: s =>
    if isPlain c || c = '\n' then do
      let (cs, rest) ← basicLines s
      return (c :: cs, rest)
    else
      none
termination_by s.length
decreasing_by all_goals simp only [List.length_cons]; omega

/-- The rest of a literal string on several lines. Line breaks are read as line feeds. -/
def literalLines : Reader (List Char)
  | [] => none
  | '\'' :: '\'' :: '\'' :: s => some (closing '\'' s)
  | '\r' :: '\n' :: s => do
    let (cs, rest) ← literalLines s
    return ('\n' :: cs, rest)
  | c :: s =>
    if isPlain c || c = '\n' then do
      let (cs, rest) ← literalLines s
      return (c :: cs, rest)
    else
      none

/-- A line break right behind the opening quotes does not belong to the string. -/
def skipFirstBreak (s : List Char) : List Char :=
  (newline? s).getD s

def quoted? : Reader (List Char)
  | '"' :: '"' :: '"' :: s => basicLines (skipFirstBreak s)
  | '"' :: s => basicString s
  | '\'' :: '\'' :: '\'' :: s => literalLines (skipFirstBreak s)
  | '\'' :: s => literalString s
  | _ => none

end Toml
end ModularSynth
