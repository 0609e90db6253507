import ModularSynth.FileTree
import ModularSynth.PatchFile.Toml

/-!
This module contains the loading and saving of patch files.
-/

namespace ModularSynth

inductive StorageError
  | read (path : String) (fault : FileFault)
  | write (path : String) (fault : FileFault)
  | makeDir (path : String) (fault : FileFault)
  | toml (error : TomlError)

namespace PatchFile

/-- Read a patch file from the bytes of a file, if there are any. -/
def ofBytes (path : String) (bytes : Except FileFault ByteArray) :
    Except StorageError PatchFile := do
  let text ← (do FileTree.decode (← bytes)).mapError (.read path)
  (ofToml text).mapError .toml

def load (tree : FileTree) (path : String) : Except StorageError PatchFile :=
  ofBytes path (tree.readBytes path)

/-- Make the directories on the way to a file, unless they are there. -/
def makeParents (tree : FileTree) (path : String) : Except StorageError Unit × FileTree :=
  match PathName.parent? path with
  | some parent =>
    if parent = "" ∨ tree.pathExists parent then
      (.ok (), tree)
    else
      let (made, tree) := tree.makeDirs parent
      (made.mapError (.makeDir parent), tree)
  | none => (.ok (), tree)

/--
Write a patch file, with the directories it needs. They are made first, so they stay when the file
itself cannot be written.
-/
def save (tree : FileTree) (path : String) (file : PatchFile) :
    Except StorageError Unit × FileTree :=
  match makeParents tree path with
  | (.error e, tree) => (.error e, tree)
  | (.ok (), tree) =>
    match tree.write path file.toToml.toUTF8 with
    | .ok tree => (.ok (), tree)
    | .error fault => (.error (.write path fault), tree)

end PatchFile
end ModularSynth
