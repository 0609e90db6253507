import Std.Data.HashMap

/-!
This module contains a tree of files in memory: paths are followed from the working directory name
by name, and reading, writing and making directories fail for the reasons an operating system gives.
-/

namespace ModularSynth

inductive FileFault
  | notFound
  | alreadyExists
  | notADirectory
  | isADirectory
  | nameTooLong
  /-- The path has a zero character in it. -/
  | zeroInPath
  | invalidData
  | other (reason : String)
  deriving DecidableEq

def FileFault.message : FileFault → String
  | .notFound => "No such file or directory (os error 2)"
  | .alreadyExists => "File exists (os error 17)"
  | .notADirectory => "Not a directory (os error 20)"
  | .isADirectory => "Is a directory (os error 21)"
  | .nameTooLong => "File name too long (os error 36)"
  | .zeroInPath => "file name contained an unexpected NUL byte"
  | .invalidData => "stream did not contain valid UTF-8"
  | .other reason => reason

/-- A directory is known by what it is, whichever path leads to it. -/
inductive Directory
  | root
  /-- The directory so many levels above the working directory, or that one itself. -/
  | above (levels : Nat)
  /-- A directory that was made. They are numbered from zero. -/
  | made (number : Nat)
  deriving DecidableEq, Hashable

inductive FileNode
  | directory (dir : Directory)
  | file (bytes : ByteArray)

/--
The files and directories that were made. The root, the working directory and the directories around
it are always there.
-/
structure FileTree where
  entries : Std.HashMap (Directory × String) FileNode
  /-- The directory around each directory that was made. -/
  around : Array Directory

/-- What a path says: where to begin, and which names to follow from there. -/
structure Route where
  start : Directory
  names : List String

namespace Route

/-- Names that stay in the same directory are dropped, as long as others are left. -/
def dropDots : List String → List String
  | "." :: name :: names => dropDots (name :: names)
  | names => names

/-- The names of the way to the directory around the end of a way, all given in reverse. -/
def namesAround (reversed : List String) : List String :=
  dropDots (dropDots reversed).tail

theorem length_dropDots_le (names : List String) : (dropDots names).length ≤ names.length := by
  fun_induction dropDots names with
  | case1 name names ih => exact Nat.le_succ_of_le ih
  | case2 => exact Nat.le_refl _

theorem length_namesAround_lt {reversed : List String} (h : reversed ≠ []) :
    (namesAround reversed).length < reversed.length := by
  have := length_dropDots_le reversed
  have := length_dropDots_le (dropDots reversed).tail
  have := List.length_pos_iff.mpr h
  have := List.length_tail (l := dropDots reversed)
  simp only [namesAround]
  omega

end Route

namespace PathName

/-- The names of a path; slashes in a row count as one. -/
def names (path : String) : List String :=
  ((path.toList.splitOn '/').filter (· ≠ [])).map String.ofList

/-- A path that ends with a slash can only mean a directory. -/
def endsWithSlash (path : String) : Bool :=
  path.toList.getLast? == some '/'

/-- Names of more bytes cannot be looked up. -/
def maxNameSize : Nat := 255

/-- Paths of more bytes lead nowhere, whatever their names are. -/
def maxSize : Nat := 4095

/-- The way along a path, if it can be followed at all. -/
def route (path : String) : Except FileFault Route :=
  if path = "" then .error .notFound
  else if path.toList.contains '\x00' then .error .zeroInPath
  else if maxSize < path.utf8ByteSize then .error .nameTooLong
  else .ok ⟨if path.toList.head? == some '/' then .root else .above 0, names path⟩

/-- Drop the slashes at the end of a path, together with names that stay in the same directory. -/
def dropSlashes : List Char → List Char
  | '/' :: rest => dropSlashes rest
  | '.' :: '/' :: rest => dropSlashes rest
  | rest => rest

/-- The path of the directory around a path. It is empty for a single name. -/
def parent? (path : String) : Option String :=
  let reversed := dropSlashes path.toList.reverse
  if reversed = [] then
    none
  else
    some (String.ofList (dropSlashes (reversed.dropWhile (· ≠ '/'))).reverse)

end PathName

namespace FileTree

def empty : FileTree := ⟨∅, #[]⟩

/-- The directory around a directory. The root is around itself. -/
def up (tree : FileTree) : Directory → Directory
  | .root => .root
  | .above levels => .above (levels + 1)
  | .made number => tree.around.getD number .root

inductive Place
  | directory
  /-- A name that stands for a file, or for nothing yet. -/
  | name (dir : Directory) (name : String) (bytes? : Option ByteArray)

/-- Follow names from a directory. Only the last one may stand for nothing. -/
def walk (tree : FileTree) (dir : Directory) : List String → Except FileFault Place
  | [] => .ok .directory
  | "." :: names => tree.walk dir names
  | ".." :: names => tree.walk (tree.up dir) names
  | name :: names =>
    if PathName.maxNameSize < name.utf8ByteSize then
      .error .nameTooLong
    else
      match tree.entries[(dir, name)]?, names with
      | some (.directory dir), names => tree.walk dir names
      | some (.file bytes), [] => .ok (.name dir name (some bytes))
      | some (.file _), _ => .error .notADirectory
      | none, [] => .ok (.name dir name none)
      | none, _ => .error .notFound

def follow (tree : FileTree) (route : Route) : Except FileFault Place :=
  tree.walk route.start route.names

def addFile (tree : FileTree) (dir : Directory) (name : String) (bytes : ByteArray) : FileTree :=
  { tree with entries := tree.entries.insert (dir, name) (.file bytes) }

def addDirectory (tree : FileTree) (dir : Directory) (name : String) : FileTree :=
  let made := .made tree.around.size
  ⟨tree.entries.insert (dir, name) (.directory made), tree.around.push dir⟩

def readBytes (tree : FileTree) (path : String) : Except FileFault ByteArray := do
  match ← tree.follow (← PathName.route path) with
  | .name _ _ (some bytes) =>
    if PathName.endsWithSlash path then .error .notADirectory else .ok bytes
  | .name _ _ none => .error .notFound
  | .directory => .error .isADirectory

def decode (bytes : ByteArray) : Except FileFault String :=
  match String.fromUTF8? bytes with
  | some s => .ok s
  | none => .error .invalidData

def read (tree : FileTree) (path : String) : Except FileFault String := do
  decode (← tree.readBytes path)

/--
Write a file, whether it is new or not. A path that ends with a slash is refused as soon as the
directory around its last name is found.
-/
def write (tree : FileTree) (path : String) (bytes : ByteArray) : Except FileFault FileTree := do
  let route ← PathName.route path
  if PathName.endsWithSlash path then
    let _ ← tree.walk route.start (route.names.dropLast ++ ["."])
    .error .isADirectory
  else
    match ← tree.follow route with
    | .name dir name _ => .ok (tree.addFile dir name bytes)
    | .directory => .error .isADirectory

def pathExists (tree : FileTree) (path : String) : Bool :=
  match (do tree.follow (← PathName.route path) : Except FileFault Place) with
  | .ok .directory => true
  | .ok (.name _ _ bytes?) => bytes?.isSome && !PathName.endsWithSlash path
  | .error _ => false

/-- Make a directory, which may be there already. -/
def ensureDir (tree : FileTree) (route : Route) : Except FileFault Unit × FileTree :=
  match tree.follow route with
  | .ok .directory => (.ok (), tree)
  | .ok (.name _ _ (some _)) => (.error .alreadyExists, tree)
  | .ok (.name dir name none) => (.ok (), tree.addDirectory dir name)
  | .error fault => (.error fault, tree)

/--
Make a directory and those around it that are missing. Its way is given by the names in reverse, so
that the ways to the directories around it are parts of it.
-/
def ensureDirs (tree : FileTree) (start : Directory) (reversed : List String) :
    Except FileFault Unit × FileTree :=
  if h : reversed = [] then
    (.ok (), tree)
  else
    match tree.ensureDir ⟨start, reversed.reverse⟩ with
    | (.error .notFound, tree) =>
      have := Route.length_namesAround_lt h
      match tree.ensureDirs start (Route.namesAround reversed) with
      | (.ok (), tree) => tree.ensureDir ⟨start, reversed.reverse⟩
      | failed => failed
    | done => done
termination_by reversed.length

/--
Make a directory and those around it that are missing. The ones that could be made are in the tree
also when the path as a whole cannot be made.
-/
def makeDirs (tree : FileTree) (path : String) : Except FileFault Unit × FileTree :=
  if path = "" then
    (.ok (), tree)
  else
    match PathName.route path with
    | .ok route => tree.ensureDirs route.start route.names.reverse
    | .error fault => (.error fault, tree)

end FileTree
end ModularSynth
