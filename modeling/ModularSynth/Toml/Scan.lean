/-!
This module contains the small steps of reading TOML: blanks, comments, line ends and runs of
digits. A reader takes something from the front of a text and returns what is left.
-/

namespace ModularSynth
namespace Toml

/-- Takes a value from the front of a text, or refuses the text. -/
abbrev Reader (α : Type) := List Char → Option (α × List Char)

def isWhite (c : Char) : Bool :=
  c = ' ' || c = '\t'

/-- The characters that may stand in comments and strings: all but control characters. -/
def isPlain (c : Char) : Bool :=
  c = '\t' || (0x20 ≤ c.toNat && c.toNat ≠ 0x7f)

def skipWhite (s : List Char) : List Char :=
  s.dropWhile isWhite

/-- Take a line break, which is a line feed or a carriage return and a line feed. -/
def newline? : List Char → Option (List Char)
  | '\n' :: s => some s
  | '\r' :: '\n' :: s => some s
  | _ => none

/-- Skip a comment, up to the end of the line. -/
def skipComment : List Char → List Char
  | '#' :: s => s.dropWhile isPlain
  | s => s

/-- Take a line break, or nothing at the end of the text. -/
def lineEnd? : List Char → Option (List Char)
  | [] => some []
  | s => newline? s

def restOfLine? (s : List Char) : Option (List Char) :=
  lineEnd? (skipComment (skipWhite s))

theorem length_skipWhite_le (s : List Char) : (skipWhite s).length ≤ s.length :=
  (List.dropWhile_sublist _).length_le

theorem length_skipComment_le (s : List Char) : (skipComment s).length ≤ s.length := by
  unfold skipComment
  split
  . exact Nat.le_succ_of_le (List.dropWhile_sublist _).length_le
  . exact Nat.le_refl _

theorem length_newline?_lt {s rest : List Char} (h : newline? s = some rest) :
    rest.length < s.length := by
  unfold newline? at h
  split at h
  . cases h; exact Nat.lt_succ_self _
  . cases h; exact Nat.lt_succ_of_lt (Nat.lt_succ_self _)
  . cases h

/-- Skip blanks, comments and line breaks. A comment that no line break ends is left alone. -/
def skipLines (s : List Char) : List Char :=
  match h : newline? (skipComment (skipWhite s)) with
  | some rest =>
    have := length_newline?_lt h
    have := length_skipComment_le (skipWhite s)
    have := length_skipWhite_le s
    skipLines rest
  | none => skipWhite s
termination_by s.length

def expect? (c : Char) : List Char → Option (List Char)
  | c' :: s => if c' = c then some s else none
  | [] => none

def word? (word : List Char) (s : List Char) : Option (List Char) :=
  if word.isPrefixOf s then some (s.drop word.length) else none

/--
A run of digits in which single underscores may separate digits; the underscores are dropped. The
run ends before an underscore that no digit follows.
-/
def digitRun (isDigit : Char → Bool) : List Char → List Char × List Char
  | '_' :: c :: s =>
    if isDigit c then
      let (digits, rest) := digitRun isDigit s
      (c :: digits, rest)
    else
      ([], '_' :: c :: s)
  | c :: s =>
    if isDigit c then
      let (digits, rest) := digitRun isDigit s
      (c :: digits, rest)
    else
      ([], c :: s)
  | [] => ([], [])

def digits? (isDigit : Char → Bool) : Reader (List Char)
  | c :: s =>
    if isDigit c then
      let (digits, rest) := digitRun isDigit s
      some (c :: digits, rest)
    else
      none
  | [] => none

/-- A given number of decimal digits, as a number. -/
def fixedDigits? (count : Nat) (s : List Char) : Option (Nat × List Char) :=
  let digits := s.take count
  if digits.length = count ∧ digits.all Char.isDigit then
    some (Nat.ofDigitChars 10 digits 0, s.drop count)
  else
    none

end Toml
end ModularSynth
