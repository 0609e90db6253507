import ModularSynth.Toml.Scan

/-!
This module contains the printing of TOML: strings in the form that needs the least escaping, and
documents of strings and arrays of tables.
-/

namespace ModularSynth
namespace Toml

/-- Control characters other than tab and line feed, which no string can hold as they are. -/
def isControl (c : Char) : Bool :=
  !isPlain c && c ≠ '\n'

def longestRun (quote : Char) (s : List Char) : Nat :=
  go 0 s
where
  go (run : Nat) : List Char → Nat
    | [] => run
    | c :: s => if c = quote then go (run + 1) s else max run (go 0 s)

inductive StringForm
  | basic
  | literal
  | basicLines
  | literalLines
  deriving DecidableEq

/--
The form for a string. One line is preferred to several, and within each of these a basic string to
a literal one, as long as nothing but tabs has to be escaped; if that cannot be, the string is basic
and escaped.
-/
def StringForm.choose (s : List Char) : StringForm :=
  let clean := !s.any isControl
  if clean && !s.contains '\\' && !s.contains '"' && !s.contains '\n' then .basic
  else if clean && !s.contains '\'' && !s.contains '\n' then .literal
  else if clean && !s.contains '\\' && longestRun '"' s < 3 then .basicLines
  else if clean && longestRun '\'' s < 3 then .literalLines
  else if s.contains '\n' then .basicLines
  else .basic

def hexPair (n : Nat) : List Char :=
  [(Nat.digitChar (n / 16 % 16)).toUpper, (Nat.digitChar (n % 16)).toUpper]

/-- A character in a basic string, quotes and line feeds apart. -/
def escapeChar (c : Char) : List Char :=
  if c = '\x08' then ['\\', 'b']
  else if c = '\t' then ['\\', 't']
  else if c = '\x0c' then ['\\', 'f']
  else if c = '\r' then ['\\', 'r']
  else if c = '\\' then ['\\', '\\']
  else if isControl c then ['\\', 'u', '0', '0'] ++ hexPair c.toNat
  else [c]

def escapeLine (s : List Char) : List Char :=
  s.flatMap fun c =>
    if c = '"' then ['\\', '"'] else if c = '\n' then ['\\', 'n'] else escapeChar c

/--
The text of a basic string on several lines, where a quote has to be escaped only if it would be the
third in a row; `run` counts the quotes in front that are not escaped.
-/
def escapeLines (run : Nat) : List Char → List Char
  | [] => []
  | c :: s =>
    if c = '"' then
      if run = 2 then '\\' :: '"' :: escapeLines 0 s else '"' :: escapeLines (run + 1) s
    else if c = '\n' then
      '\n' :: escapeLines 0 s
    else
      escapeChar c ++ escapeLines 0 s

/-- A string with its quotes. If it has several lines, the first stands on a line of its own. -/
def printString (s : List Char) : List Char :=
  let start := if s.contains '\n' then ['\n'] else []
  let threeQuotes := List.replicate 3 '"'
  let threeApostrophes := List.replicate 3 '\''
  match StringForm.choose s with
  | .basic => ['"'] ++ escapeLine s ++ ['"']
  | .literal => ['\''] ++ s ++ ['\'']
  | .basicLines => threeQuotes ++ start ++ escapeLines 0 s ++ threeQuotes
  | .literalLines => threeApostrophes ++ start ++ s ++ threeApostrophes

/-- The entries of a table that holds nothing but strings, under bare keys. -/
abbrev StringTable := List (String × String)

inductive Field
  | string (s : String)
  | tables (rows : List StringTable)

def printPair (key value : String) : String :=
  key ++ " = " ++ String.ofList (printString value.toList) ++ "\n"

def printTable (table : StringTable) : String :=
  String.join (table.map fun (key, value) => printPair key value)

/-- The field as part of the root table: a string, or an array without tables. -/
def Field.plain (key : String) : Field → String
  | .string s => printPair key s
  | .tables [] => key ++ " = []\n"
  | .tables _ => ""

def Field.headed (key : String) : Field → List String
  | .string _ => []
  | .tables rows => rows.map fun row => "[[" ++ key ++ "]]\n" ++ printTable row

/-- A document. An empty line stands between what belongs to different headers. -/
def print (fields : List (String × Field)) : String :=
  let plain := String.join (fields.map fun (key, field) => field.plain key)
  let parts := (if plain = "" then [] else [plain]) ++
    fields.flatMap fun (key, field) => field.headed key
  String.intercalate "\n" parts

end Toml
end ModularSynth
