import PlainPage.Text.Basic

/-!
# Paths

A path is a text of segments between slashes.  Empty segments and single points mean
nothing, except for a point that opens a relative path.

Main results:

- Definition `Path.ancestors` lists a path and the paths of the directories around it,
  each a beginning of the path before it.
- Definition `Path.same` tells whether two paths have the same components.
- Theorem `Path.join_of_absolute` says that an absolute name replaces the directory.
-/

namespace PlainPage

/-- A path, as it is written. -/
abbrev Path := Text

namespace Path

/-- The segment for the directory itself. -/
def here : Text := ".".toList

/-- The segment for the directory around it. -/
def up : Text := "..".toList

/-- Whether a path starts at the root. -/
def isAbsolute (p : Path) : Bool :=
  p.head? == some '/'

/-- The segments of a path, less the empty one before a leading slash. -/
def segments (p : Path) : List Text :=
  if p.isAbsolute then List.splitOn '/' p.tail else p.splitOn '/'

/-- Whether a segment means nothing; `first` tells whether it opens the path. -/
def isIdle (absolute first : Bool) (segment : Text) : Bool :=
  segment == [] || (segment == here && !(first && !absolute))

/-- Segments from the last to the first, from the last one that means something on. -/
def dropIdle (absolute : Bool) : List Text → List Text
  | [] => []
  | segment :: rest =>
    if isIdle absolute rest.isEmpty segment then dropIdle absolute rest else segment :: rest

/-- The path with the given segments, listed from the last to the first. -/
def ofReversed (absolute : Bool) (reversed : List Text) : Path :=
  (if absolute then ['/'] else []) ++ List.intercalate ['/'] reversed.reverse

/-- The paths of the directories around a path, from the inside, given its segments from
the last to the first. -/
def outerPaths (absolute : Bool) : List Text → List Path
  | [] => []
  | segment :: rest =>
    if isIdle absolute rest.isEmpty segment then outerPaths absolute rest
    else ofReversed absolute (dropIdle absolute rest) :: outerPaths absolute rest

/-- A path and the paths of the directories around it, from the inside. -/
def ancestors (p : Path) : List Path :=
  p :: outerPaths p.isAbsolute p.segments.reverse

/-- The path of the directory around a path. -/
def parent? (p : Path) : Option Path :=
  (outerPaths p.isAbsolute p.segments.reverse).head?

/-- The segments of a path that mean something. -/
def components (p : Path) : List Text :=
  match p.segments with
  | [] => []
  | first :: rest =>
    (if isIdle p.isAbsolute true first then [] else [first])
      ++ rest.filter (!isIdle p.isAbsolute false ·)

/-- Whether two paths have the same components. -/
def same (p q : Path) : Bool :=
  p.isAbsolute == q.isAbsolute && p.components == q.components

/-- The path of `name` in a directory; an absolute name stands for itself. -/
def join (directory : Path) (name : Path) : Path :=
  if name.isAbsolute then name
  else if directory = [] ∨ directory.getLast? = some '/' then directory ++ name
  else directory ++ '/' :: name

/-- An absolute name replaces the directory. -/
theorem join_of_absolute {directory name : Path} (h : name.isAbsolute = true) :
    directory.join name = name := by
  simp [join, h]

/-- Every path is the first of its ancestors. -/
@[simp] theorem head?_ancestors (p : Path) : p.ancestors.head? = some p := rfl

/-- A path has the same components as itself. -/
@[simp] theorem same_refl (p : Path) : p.same p = true := by
  simp [same]

end Path

end PlainPage
