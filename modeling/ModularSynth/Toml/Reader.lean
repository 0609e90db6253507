import ModularSynth.Toml.DateTime
import ModularSynth.Toml.Number
import ModularSynth.Toml.Quoted
import ModularSynth.Toml.Tree

/-!
This module contains the reading of TOML values, lines and documents.
-/

namespace ModularSynth
namespace Toml

/-- Arrays and inline tables may be nested less deeply than this, and keys may have fewer parts. -/
def nestingLimit : Nat := 80

def isBareKeyChar (c : Char) : Bool :=
  c.isAlphanum || c = '-' || c = '_'

def keyPart? : Reader (List Char)
  | '"' :: s => basicString s
  | '\'' :: s => literalString s
  | s =>
    let key := s.takeWhile isBareKeyChar
    if key = [] then none else some (key, s.drop key.length)

/-!
The loops below read one part, item or line after the other. Each takes at least one character, so
the characters of the text that is read bound their number.
-/

/-- The parts of a dotted key, with blanks around each. -/
def keyParts? (s : List Char) : Option (List String × List Char) :=
  go s s
where
  go : List Char → Reader (List String)
    | [], _ => none
    | _ :: bound, s => do
      let (part, rest) ← keyPart? (skipWhite s)
      match skipWhite rest with
      | '.' :: rest =>
        let (parts, rest) ← go bound rest
        return (String.ofList part :: parts, rest)
      | rest => return ([String.ofList part], rest)

def path? (s : List Char) : Option (Path × List Char) := do
  let (parts, rest) ← keyParts? s
  let key ← parts.getLast?
  if parts.length < nestingLimit then some (⟨parts.dropLast, key⟩, rest) else none

/--
The items of an array up to its closing bracket. A comma may follow the last item, and items may
stand on several lines.
-/
def arrayItems {α : Type} (item : Reader α) (s : List Char) : Option (List α × List Char) :=
  go s s
where
  go : List Char → Reader (List α)
    | [], _ => none
    | _ :: bound, s =>
      match skipLines s with
      | ']' :: rest => some ([], rest)
      | start => do
        let (a, rest) ← item start
        match skipLines rest with
        | ']' :: rest => return ([a], rest)
        | ',' :: rest =>
          let (items, rest) ← go bound rest
          return (a :: items, rest)
        | _ => none

def pair? (value : Reader Value) (s : List Char) : Option ((Path × Value) × List Char) := do
  let (path, s) ← path? s
  let s ← expect? '=' s
  let (v, rest) ← value (skipWhite s)
  return ((path, v), rest)

/-- The pairs of an inline table up to its closing brace; there is at least one. -/
def inlinePairs {α : Type} (pair : Reader α) (s : List Char) : Option (List α × List Char) :=
  go s s
where
  go : List Char → Reader (List α)
    | [], _ => none
    | _ :: bound, s => do
      let (a, rest) ← pair s
      match skipWhite rest with
      | '\x7d' :: rest => return ([a], rest)
      | ',' :: rest =>
        let (pairs, rest) ← go bound rest
        return (a :: pairs, rest)
      | _ => none

/-- The rest of an inline table, behind its opening brace. -/
def inlineTable? (value : Reader Value) (s : List Char) : Option (Value × List Char) :=
  match skipWhite s with
  | '\x7d' :: rest => some (.table [], rest)
  | _ => do
    let (pairs, rest) ← inlinePairs (pair? value) s
    let entries ← Entries.enterAll pairs []
    return (.table (Node.toValue.entryValues entries), rest)

/-- A value that begins with a letter, a digit or a sign. -/
def scalar? (s : List Char) : Option (Value × List Char) :=
  match word? "true".toList s with
  | some rest => some (.boolean true, rest)
  | none =>
    match word? "false".toList s with
    | some rest => some (.boolean false, rest)
    | none =>
      match dateTime? s with
      | some r => some r
      | none => number? s

/-- A value, in which arrays and inline tables are nested at most as deeply as given. -/
def value? : Nat → Reader Value
  | _, '"' :: s => (quoted? ('"' :: s)).map fun (cs, rest) => (.string (String.ofList cs), rest)
  | _, '\'' :: s => (quoted? ('\'' :: s)).map fun (cs, rest) => (.string (String.ofList cs), rest)
  | 0, '[' :: _ => none
  | depth + 1, '[' :: s =>
    (arrayItems (value? depth) s).map fun (items, rest) => (.array items, rest)
  | 0, '\x7b' :: _ => none
  | depth + 1, '\x7b' :: s => inlineTable? (value? depth) s
  | _, s => scalar? s

/-- A header opens a table, or a further table of an array of tables. -/
inductive Header
  | table (path : Path)
  | element (path : Path)

inductive Line
  | header (header : Header)
  | pair (path : Path) (value : Value)

/-- A header, up to its closing brackets. -/
def header? : Reader Header
  | '[' :: '[' :: s => do
    let (path, s) ← path? s
    let s ← expect? ']' s
    let s ← expect? ']' s
    return (.element path, s)
  | '[' :: s => do
    let (path, s) ← path? s
    let s ← expect? ']' s
    return (.table path, s)
  | _ => none

/-- The next line of a document; there is none in a line that is blank or holds a comment. -/
def line? (s : List Char) : Option (Option Line × List Char) :=
  match skipWhite s with
  | [] => some (none, [])
  | '#' :: s => (restOfLine? ('#' :: s)).map fun rest => (none, rest)
  | '\n' :: s => some (none, s)
  | '\r' :: s => (newline? ('\r' :: s)).map fun rest => (none, rest)
  | '[' :: s => do
    let (header, s) ← header? ('[' :: s)
    return (some (.header header), ← restOfLine? s)
  | s => do
    let ((path, v), s) ← pair? (value? (nestingLimit - 1)) s
    return (some (.pair path v), ← restOfLine? s)

def lines? (s : List Char) : Option (List Line) :=
  go s s
where
  go : List Char → List Char → Option (List Line)
    | _, [] => some []
    | [], _ => none
    | _ :: bound, s => do
      let (line, rest) ← line? s
      let lines ← go bound rest
      return line.toList ++ lines

structure Section where
  header : Header
  pairs : List (Path × Value)

/-- The pairs in front of the first header, and the sections that follow. -/
def sections : List Line → List (Path × Value) × List Section
  | [] => ([], [])
  | .pair path v :: rest =>
    let (pairs, more) := sections rest
    ((path, v) :: pairs, more)
  | .header header :: rest =>
    let (pairs, more) := sections rest
    ([], ⟨header, pairs⟩ :: more)

def addSection (entries : Entries) (s : Section) : Option Entries :=
  match s.header with
  | .table path => Entries.modifyAt (Entries.addTable path.key s.pairs) path.parents entries
  | .element path => Entries.modifyAt (Entries.addElement path.key s.pairs) path.parents entries

/-- A byte order mark may stand in front of a document. -/
def skipMark : List Char → List Char
  | '\ufeff' :: s => s
  | s => s

/-- The entries of the root table of a document, if the text is one. -/
def parse? (text : String) : Option (List (String × Value)) := do
  let lines ← lines? (skipMark text.toList)
  let (pairs, more) := sections lines
  let root ← Entries.enterAll pairs []
  let root ← more.foldlM addSection root
  return Node.toValue.entryValues root

end Toml
end ModularSynth
