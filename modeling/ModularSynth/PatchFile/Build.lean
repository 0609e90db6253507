import ModularSynth.Catalog
import ModularSynth.PatchFile.Basic

/-!
This module contains the making of a patch from a patch file, which stops at the first problem, and
the check of a patch file, which reports all of them.
-/

namespace ModularSynth

inductive BuildError
  | unknownKind (module kind : String)
  | edit (error : EditError)
  | connection (index : Nat) (source target : String) (error : EditError)
  deriving DecidableEq

def BuildError.message : BuildError → String
  | .unknownKind m kind => s!"module '{m}' has unknown kind '{kind}'"
  | .edit error => error.message
  | .connection index source target error =>
    s!"connection #{index} ({source} -> {target}): {error.message}"

inductive Issue
  | unknownKind (module kind : String)
  | module (module : String) (error : EditError)
  | connection (index : Nat) (source target : String) (error : EditError)
  deriving DecidableEq

namespace Issue

def message : Issue → String
  | .unknownKind m kind => s!"module '{m}': unknown kind '{kind}'"
  | .module m error => s!"module '{m}': {error.message}"
  | .connection index source target error =>
    s!"connection #{index} ({source} -> {target}): {error.message}"

def connectionIndex? : Issue → Option Nat
  | .connection index _ _ _ => some index
  | _ => none

end Issue

namespace PatchFile

def addModule (catalog : Catalog) (p : Patch) (m : ModuleEntry) : Except BuildError Patch :=
  match catalog.schema? m.kind with
  | none => .error (.unknownKind m.id m.kind)
  | some schema =>
    match p.addModule ⟨m.id⟩ schema with
    | (.ok _, p) => .ok p
    | (.error e, _) => .error (.edit e)

def addConnection (p : Patch) (index : Nat) (c : ConnectionEntry) : Except BuildError Patch :=
  match p.propose c.source c.target with
  | (.ok _, p) => .ok p
  | (.error e, _) => .error (.connection index c.source c.target e)

/-- Add connections in order; the first of them has the given position. -/
def addConnections (p : Patch) (index : Nat) : List ConnectionEntry → Except BuildError Patch
  | [] => .ok p
  | c :: rest => do
    let p ← addConnection p index c
    addConnections p (index + 1) rest

/-- Make all modules of a file, then all connections. -/
def build (catalog : Catalog) (file : PatchFile) : Except BuildError Patch := do
  let p ← file.modules.foldlM (addModule catalog) .empty
  addConnections p 0 file.connections

/-- Add a module to the patch a file is tried on, and tell what is wrong with it if it fails. -/
def tryModule (catalog : Catalog) (p : Patch) (m : ModuleEntry) : Option Issue × Patch :=
  match catalog.schema? m.kind with
  | none => (some (.unknownKind m.id m.kind), p)
  | some schema =>
    match p.addModule ⟨m.id⟩ schema with
    | (.ok _, p) => (none, p)
    | (.error e, p) => (some (.module m.id e), p)

/-- Add the connection at a position to the patch a file is tried on. -/
def tryConnection (p : Patch) (c : ConnectionEntry × Nat) : Option Issue × Patch :=
  match p.propose c.1.source c.1.target with
  | (.ok _, p) => (none, p)
  | (.error e, p) => (some (.connection c.2 c.1.source c.1.target e), p)

/-- Take all steps one after the other, and collect what goes wrong in them. -/
def tryAll {σ α ε : Type} (step : σ → α → Option ε × σ) (s : σ) : List α → List ε × σ
  | [] => ([], s)
  | a :: rest =>
    match step s a with
    | (none, s) => tryAll step s rest
    | (some e, s) =>
      let (errors, s) := tryAll step s rest
      (e :: errors, s)

/--
All problems of a file, those of modules first. What has a problem is left out and the check goes
on, so connections of a module that was left out are problems too.
-/
def issues (catalog : Catalog) (file : PatchFile) : List Issue :=
  let (moduleIssues, p) := tryAll (tryModule catalog) .empty file.modules
  moduleIssues ++ (tryAll tryConnection p file.connections.zipIdx).1

end PatchFile
end ModularSynth
