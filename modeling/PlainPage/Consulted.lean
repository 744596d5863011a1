import PlainPage.Program

/-!
# What a run may look at

A run sees files only through the tree of its surroundings.  To build that tree it is
enough to know what stands at a fixed list of paths, which depends on the command line,
the current directory and the home directory alone.

Main results:

- Definition `Surroundings.consulted` lists the paths.
- Definition `Surroundings.place` is the location to which a path leads in a tree without
  detours.
-/

namespace PlainPage.Surroundings

/-- The paths at which a run may look for configuration files. -/
def candidates (s : Surroundings) (o : Options) : List Path :=
  let start := o.inputFile?.getD s.currentPath
  (s.home.toList ++ start.ancestors ++ s.currentPath.ancestors).map (·.join configName)

/-- The paths at which a run may look, with the directories around them. -/
def consulted (s : Surroundings) (o : Options) : List Path :=
  let named := o.inputFile?.toList ++ o.output.toList ++ o.config.toList
  ((named ++ s.candidates o).flatMap Path.ancestors).filter (· != [])

/-- The location after a segment that leads somewhere. -/
def placeStep (location : Location) (segment : Text) : Location :=
  if segment = [] ∨ segment = Path.here then location
  else if segment = Path.up then location.dropLast
  else location ++ [segment]

/-- The location to which a path leads. -/
def place (s : Surroundings) (path : Path) : Location :=
  path.segments.foldl placeStep (FileTree.origin s.current path)

/-- The location of a directory that is named from the root. -/
def locationOf (path : Path) : Location :=
  path.segments.foldl placeStep []

/-- The surroundings with a node at the place of a path. -/
def observe (s : Surroundings) (path : Path) (node : Node) : Surroundings :=
  { s with tree := ⟨s.tree.nodes ++ [(s.place path, node)]⟩ }

end PlainPage.Surroundings
