import PlainPage.File.Path
import PlainPage.Text.Utf8

/-!
# File trees

Files and directories by location, and what opening, reading and creating a file by
path amounts to.  Paths are followed from directory to directory, so a path through
something that is no directory leads nowhere.

Main results:

- Definitions `FileTree.resolve`, `FileTree.read` and `FileTree.target` follow a path.
- Theorems `FileTree.node?_put_self` and `FileTree.file?_put_of_ne` say what writing a
  file changes.
-/

namespace PlainPage

/-- Why a file could not be used. -/
inductive FileError where
  | notFound
  | notDirectory
  | isDirectory
  | nameTooLong
  | nulInName
  deriving DecidableEq, Repr

/-- The wording of a file error. -/
def FileError.message : FileError → Text
  | notFound => "No such file or directory (os error 2)".toList
  | notDirectory => "Not a directory (os error 20)".toList
  | isDirectory => "Is a directory (os error 21)".toList
  | nameTooLong => "File name too long (os error 36)".toList
  | nulInName => "file name contained an unexpected NUL byte".toList

/-- The names that lead from the root to a file or a directory. -/
abbrev Location := List Text

/-- What stands at a location. -/
inductive Node where
  | file (content : Bytes)
  | directory
  deriving DecidableEq, Repr

/-- Files and directories by location.  Whatever lies on the way to a listed location is
a directory. -/
structure FileTree where
  nodes : List (Location × Node) := []
  deriving Repr

namespace FileTree

/-- What is listed at a location. -/
def listed? (location : Location) : List (Location × Node) → Option Node
  | [] => none
  | (place, node) :: rest => if place = location then some node else listed? location rest

/-- What stands at a location. -/
def node? (tree : FileTree) (location : Location) : Option Node :=
  match listed? location tree.nodes with
  | some node => some node
  | none =>
    if location = [] ∨ tree.nodes.any (location.isPrefixOf ·.1) then some .directory else none

/-- The content of the file at a location. -/
def file? (tree : FileTree) (location : Location) : Option Bytes :=
  match listed? location tree.nodes with
  | some (.file content) => some content
  | _ => none

/-- The listing with a file at a location. -/
def putFile (location : Location) (content : Bytes) :
    List (Location × Node) → List (Location × Node)
  | [] => [(location, .file content)]
  | (place, node) :: rest =>
    if place = location then (place, .file content) :: rest
    else (place, node) :: putFile location content rest

/-- The tree with a file at a location. -/
def put (tree : FileTree) (location : Location) (content : Bytes) : FileTree :=
  ⟨putFile location content tree.nodes⟩

/-! ## Following paths -/

/-- The longest name, in bytes. -/
def maxName : Nat := 255

/-- One byte more than the longest path. -/
def maxPath : Nat := 4096

/-- Follow one segment from a location, which must be a directory. -/
def follow (tree : FileTree) (location : Location) (segment : Text) :
    Except FileError Location :=
  match tree.node? location with
  | none => .error .notFound
  | some (.file _) => .error .notDirectory
  | some .directory =>
    if segment = [] ∨ segment = Path.here then .ok location
    else if segment = Path.up then .ok location.dropLast
    else if maxName < (Text.utf8 segment).length then .error .nameTooLong
    else .ok (location ++ [segment])

/-- Follow segments one after the other.  The last one need not lead to anything. -/
def followAll (tree : FileTree) (location : Location) : List Text → Except FileError Location
  | [] => .ok location
  | segment :: rest => do followAll tree (← tree.follow location segment) rest

/-- Refuse a path that cannot be followed at all. -/
def checkPath (path : Path) : Except FileError Unit :=
  if '\x00' ∈ path then .error .nulInName
  else if path = [] then .error .notFound
  else if maxPath ≤ (Text.utf8 path).length then .error .nameTooLong
  else .ok ()

/-- Where a path starts. -/
def origin (current : Location) (path : Path) : Location :=
  if path.isAbsolute then [] else current

/-- Where a path leads, from the current directory, and what stands there. -/
def resolve (tree : FileTree) (current : Location) (path : Path) :
    Except FileError (Location × Node) := do
  checkPath path
  let location ← tree.followAll (origin current path) path.segments
  match tree.node? location with
  | some node => return (location, node)
  | none => throw .notFound

/-- The node that a path leads to, from the current directory. -/
def find (tree : FileTree) (current : Location) (path : Path) : Except FileError Node := do
  return (← tree.resolve current path).2

/-- Whether a path leads to a file. -/
def isFile (tree : FileTree) (current : Location) (path : Path) : Bool :=
  match tree.find current path with
  | .ok (.file _) => true
  | _ => false

/-- Whether a path leads to a directory. -/
def isDirectory (tree : FileTree) (current : Location) (path : Path) : Bool :=
  match tree.find current path with
  | .ok .directory => true
  | _ => false

/-- The content behind a node. -/
def contentOf : Node → Except FileError Bytes
  | .file content => .ok content
  | .directory => .error .isDirectory

/-- The content of the file at a location. -/
def contentAt (tree : FileTree) (location : Location) : Except FileError Bytes :=
  match tree.node? location with
  | some node => contentOf node
  | none => .error .notFound

/-- The content of the file that a path leads to. -/
def read (tree : FileTree) (current : Location) (path : Path) : Except FileError Bytes := do
  contentOf (← tree.find current path)

/-- The location at which a path would create a file.  The directory around it must
exist, and no directory may stand in its place.  A path that can only name a directory is
refused whatever its last name is, too long or not. -/
def target (tree : FileTree) (current : Location) (path : Path) : Except FileError Location := do
  checkPath path
  let reversed := path.segments.reverse
  match reversed.dropWhile (· == []) with
  | [] => throw .isDirectory
  | name :: around =>
    let directory ← tree.followAll (origin current path) around.reverse
    let directory ← tree.follow directory Path.here
    if name = Path.here ∨ name = Path.up ∨ reversed.head? = some [] then throw .isDirectory
    let location ← tree.follow directory name
    if tree.node? location = some .directory then throw .isDirectory
    return location

/-! ## What writing changes -/

theorem listed?_putFile_self (location : Location) (content : Bytes)
    (nodes : List (Location × Node)) :
    listed? location (putFile location content nodes) = some (.file content) := by
  induction nodes with
  | nil => simp [putFile, listed?]
  | cons entry rest ih =>
    obtain ⟨place, node⟩ := entry
    by_cases h : place = location <;> simp [putFile, listed?, h, ih]

theorem listed?_putFile_of_ne {location other : Location} (h : other ≠ location)
    (content : Bytes) (nodes : List (Location × Node)) :
    listed? other (putFile location content nodes) = listed? other nodes := by
  induction nodes with
  | nil => simp [putFile, listed?, h.symm]
  | cons entry rest ih =>
    obtain ⟨place, node⟩ := entry
    by_cases hplace : place = location
    · simp [putFile, listed?, hplace, h.symm]
    · by_cases hother : place = other <;> simp [putFile, listed?, hplace, hother, h, ih]

/-- A written file has the written content. -/
@[simp] theorem node?_put_self (tree : FileTree) (location : Location) (content : Bytes) :
    (tree.put location content).node? location = some (.file content) := by
  simp [node?, put, listed?_putFile_self]

@[simp] theorem file?_put_self (tree : FileTree) (location : Location) (content : Bytes) :
    (tree.put location content).file? location = some content := by
  simp [file?, put, listed?_putFile_self]

/-- Writing a file changes no other file. -/
theorem file?_put_of_ne {location other : Location} (tree : FileTree) (content : Bytes)
    (h : other ≠ location) : (tree.put location content).file? other = tree.file? other := by
  simp [file?, put, listed?_putFile_of_ne h]

end FileTree

end PlainPage
