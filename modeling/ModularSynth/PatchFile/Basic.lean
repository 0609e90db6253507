import ModularSynth.Snapshot

/-!
This module contains patch files: what is stored of a patch, as texts and in insertion order.
-/

namespace ModularSynth

/-- A connection to make, by the addresses of its ends. -/
structure ConnectionEntry where
  source : String
  target : String
  deriving DecidableEq

structure PatchFile where
  name : String
  description : Option String
  modules : List ModuleEntry
  connections : List ConnectionEntry
  deriving DecidableEq

namespace PatchFile

def new (name : String) : PatchFile :=
  ⟨name, none, [], []⟩

def untitled : PatchFile :=
  new "Untitled"

def withDescription (file : PatchFile) (description : String) : PatchFile :=
  { file with description := some description }

def withModule (file : PatchFile) (id kind : String) : PatchFile :=
  { file with modules := file.modules ++ [⟨id, kind⟩] }

def withConnection (file : PatchFile) (source target : String) : PatchFile :=
  { file with connections := file.connections ++ [⟨source, target⟩] }

def kinds (file : PatchFile) : List String :=
  file.modules.map (·.kind)

end PatchFile

def Connection.entry (c : Connection) : ConnectionEntry :=
  ⟨c.source.text, c.target.text⟩

def PatchFile.ofPatch (name : String) (p : Patch) : PatchFile :=
  ⟨name, none, p.rack.map (·.entry), p.wiring.map (·.entry)⟩

end ModularSynth
