import ModularSynth.Toml.Value

/-!
This module contains the tables of a document while it is read. A table remembers how it came to be,
because that decides in which ways it may still be extended.
-/

namespace ModularSynth
namespace Toml

inductive Origin
  /-- By a header of its own or by braces. -/
  | explicit
  /-- As a parent in the header of another table. -/
  | implicit
  /-- By a dotted key. -/
  | dotted
  deriving DecidableEq

inductive Node
  | value (v : Value)
  | table (origin : Origin) (entries : List (String × Node))
  /-- The tables of an array that is written with one header for each. -/
  | tables (items : List (List (String × Node)))

/-- The entries of a table, in the order in which their keys were first written. -/
abbrev Entries := List (String × Node)

/-- The keys that lead to an entry: those of the tables on the way, and that of the entry. -/
structure Path where
  parents : List String
  key : String
  deriving DecidableEq

namespace Entries

/-- Change what a key stands for; its place stays the same. -/
def replace (entries : Entries) (key : String) (node : Node) : Entries :=
  entries.map fun e => if e.1 = key then (key, node) else e

def updateLast (items : List Entries) (f : Entries → Option Entries) : Option Node := do
  let last ← items.getLast?
  return .tables (items.dropLast ++ [← f last])

/--
Enter a value under a dotted key. The tables on the way must have been made by dotted keys too, or
by headers that only passed through them, and the table that gets the entry by dotted keys alone.
-/
def enter (key : String) (v : Value) : List String → Entries → Option Entries
  | [], entries =>
    match entries.lookup key with
    | none => some (entries ++ [(key, .value v)])
    | some _ => none
  | k :: ks, entries =>
    match entries.lookup k with
    | none => do
      let sub ← enter key v ks []
      return entries ++ [(k, .table .dotted sub)]
    | some (.table origin sub) =>
      if origin = .dotted ∨ (origin = .implicit ∧ ks ≠ []) then do
        let sub ← enter key v ks sub
        return entries.replace k (.table origin sub)
      else
        none
    | some (.tables items) =>
      if ks = [] then
        none
      else do
        let node ← updateLast items (enter key v ks)
        return entries.replace k node
    | some (.value _) => none

def enterAll (pairs : List (Path × Value)) (entries : Entries) : Option Entries :=
  pairs.foldlM (fun entries (path, v) => enter path.key v path.parents entries) entries

/--
Change the table that the parents of a header lead to. Tables that are missing on the way are made;
of an array of tables the last one is meant.
-/
def modifyAt (f : Entries → Option Entries) : List String → Entries → Option Entries
  | [], entries => f entries
  | k :: ks, entries =>
    match entries.lookup k with
    | none => do
      let sub ← modifyAt f ks []
      return entries ++ [(k, .table .implicit sub)]
    | some (.table origin sub) => do
      let sub ← modifyAt f ks sub
      return entries.replace k (.table origin sub)
    | some (.tables items) => do
      let node ← updateLast items (modifyAt f ks)
      return entries.replace k node
    | some (.value _) => none

/--
Add a table with a header of its own. It may take over the entries of a table that was only a parent
so far, and then moves behind the other entries.
-/
def addTable (key : String) (pairs : List (Path × Value)) (entries : Entries) : Option Entries :=
  match entries.lookup key with
  | none => do
    let sub ← enterAll pairs []
    return entries ++ [(key, .table .explicit sub)]
  | some (.table .implicit sub) => do
    let sub ← enterAll pairs sub
    return entries.eraseP (·.1 == key) ++ [(key, .table .explicit sub)]
  | some _ => none

def addElement (key : String) (pairs : List (Path × Value)) (entries : Entries) :
    Option Entries := do
  let sub ← enterAll pairs []
  match entries.lookup key with
  | none => return entries ++ [(key, .tables [sub])]
  | some (.tables items) => return entries.replace key (.tables (items ++ [sub]))
  | some _ => none

end Entries

/-- The value a node stands for, when the document is complete. -/
def Node.toValue : Node → Value
  | .value v => v
  | .table _ entries => .table (entryValues entries)
  | .tables items => .array (itemValues items)
where
  entryValues : List (String × Node) → List (String × Value)
    | [] => []
    | (key, node) :: rest => (key, node.toValue) :: entryValues rest
  itemValues : List (List (String × Node)) → List Value
    | [] => []
    | entries :: rest => .table (entryValues entries) :: itemValues rest

end Toml
end ModularSynth
