import ModularSynth.Json.Basic

/-!
This module contains the printer for JSON values: one item or field per line, each level indented by
two spaces.
-/

namespace ModularSynth
namespace Json

/-- The digit characters of `\u` escapes. -/
def hexDigit (n : Nat) : Char :=
  Nat.digitChar (n % 16)

/-- Escape a character inside a string. Only quotes, backslashes and control characters need it. -/
def escape (c : Char) : List Char :=
  if c = '"' then ['\\', '"']
  else if c = '\\' then ['\\', '\\']
  else if c = '\x08' then ['\\', 'b']
  else if c = '\x0c' then ['\\', 'f']
  else if c = '\n' then ['\\', 'n']
  else if c = '\r' then ['\\', 'r']
  else if c = '\t' then ['\\', 't']
  else if c.toNat < 0x20 then ['\\', 'u', '0', '0', hexDigit (c.toNat / 16), hexDigit c.toNat]
  else [c]

def quote (s : String) : String :=
  "\"" ++ String.ofList (s.toList.flatMap escape) ++ "\""

/-- A line break, and the blanks before the first character of a line. -/
def newline (level : Nat) : String :=
  "\n" ++ String.ofList (List.replicate (2 * level) ' ')

def decimalText (mantissa : Int) (places : Nat) : String :=
  let digits := (toString mantissa.natAbs).toList
  let digits := List.replicate (places + 1 - digits.length) '0' ++ digits
  let (whole, fraction) := digits.splitAt (digits.length - places)
  (if mantissa < 0 then "-" else "") ++ String.ofList whole ++ "." ++
    (if fraction = [] then "0" else String.ofList fraction)

/-- The items of an array or the fields of an object, each on its own line between two brackets. -/
def block (opening closing : String) (level : Nat) (lines : List String) : String :=
  if lines = [] then
    opening ++ closing
  else
    opening ++ newline (level + 1) ++ String.intercalate ("," ++ newline (level + 1)) lines ++
      newline level ++ closing

def pretty (level : Nat) : Json → String
  | .null => "null"
  | .bool b => if b then "true" else "false"
  | .integer z => toString z
  | .decimal mantissa places => decimalText mantissa places
  | .string s => quote s
  | .array items => block "[" "]" level (prettyItems (level + 1) items)
  | .object fields => block "\x7b" "\x7d" level (prettyFields (level + 1) fields)
where
  prettyItems (level : Nat) : List Json → List String
    | [] => []
    | item :: rest => pretty level item :: prettyItems level rest
  prettyFields (level : Nat) : List (String × Json) → List String
    | [] => []
    | (name, value) :: rest => (quote name ++ ": " ++ pretty level value) :: prettyFields level rest

end Json
end ModularSynth
