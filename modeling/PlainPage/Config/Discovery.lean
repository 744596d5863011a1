import PlainPage.Config.Layer

/-!
# Finding configuration files

The configuration of a document is looked for in its directory and in all directories
around that one, as far as the spelling of the path leads, and in the home directory.
Nearer files come later and so lie over the others.

Main results:

- Definition `Surroundings.discover` lists the files.
- Theorem `Surroundings.isFile_of_mem_discover` says that only files are listed.
-/

namespace PlainPage

/-- What a run of the program finds around it. -/
structure Surroundings where
  tree : FileTree := {}
  /-- The current directory. -/
  current : Location := []
  /-- The home directory, as the user names it. -/
  home : Option Path := none
  deriving Repr

namespace Surroundings

/-- The name of configuration files. -/
def configName : Path := "lowtex.toml".toList

/-- Whether a path leads to a file. -/
def isFile (s : Surroundings) (path : Path) : Bool :=
  s.tree.isFile s.current path

/-- The path of the current directory. -/
def currentPath (s : Surroundings) : Path :=
  '/' :: List.intercalate ['/'] s.current

/-- The directory in which the search for a start path begins. -/
def startDirectory (s : Surroundings) (start : Path) : Path :=
  if s.isFile start then start.parent?.getD []
  else if s.tree.isDirectory s.current start then start
  else s.currentPath

/-- Append the configuration file of a directory, if there is one that is not listed yet. -/
def addCandidate (s : Surroundings) (found : List Path) (directory : Path) : List Path :=
  let candidate := directory.join configName
  if s.isFile candidate && !found.any candidate.same then found ++ [candidate] else found

/-- The directories to search, the home directory first and then from the outside to the
start. -/
def searched (s : Surroundings) (start : Path) : List Path :=
  s.home.toList ++ (s.startDirectory start).ancestors.reverse

/-- The configuration files for a start path, the least specific one first. -/
def discover (s : Surroundings) (start : Path) : List Path :=
  (s.searched start).foldl s.addCandidate []

theorem isFile_of_mem_addCandidates {s : Surroundings} {directories found : List Path}
    (h : ∀ path ∈ found, s.isFile path = true) {path : Path}
    (hpath : path ∈ directories.foldl s.addCandidate found) : s.isFile path = true := by
  induction directories generalizing found with
  | nil => exact h path hpath
  | cons directory rest ih =>
    refine ih (fun other hother => ?_) hpath
    simp only [addCandidate] at hother
    split at hother
    · rename_i hfile
      rcases List.mem_append.1 hother with hother | hother
      · exact h other hother
      · rw [List.mem_singleton] at hother
        exact hother ▸ (Bool.and_eq_true_iff.1 hfile).1
    · exact h other hother

/-- Only files are listed. -/
theorem isFile_of_mem_discover {s : Surroundings} {start path : Path}
    (h : path ∈ s.discover start) : s.isFile path = true :=
  isFile_of_mem_addCandidates (by simp) h

end Surroundings

end PlainPage
