import PlainPage.Config.Basic
import PlainPage.Failure
import PlainPage.Toml.Document

/-!
# Layers from files

A configuration file says what its entries say; an entry that is not known or has a
value of the wrong sort makes the whole file worthless.  How the entries are read from the
text of the file is up to a reader, which the program chooses (`Toml.ofText?`).

Main results:

- Definition `Layer.ofToml?` reads a layer from the text of a file.
- Theorem `Config.ofFiles_append` says that files are laid over each other in order.
-/

namespace PlainPage

namespace Layer

/-- The alignment that a node stands for: a word, or a table of nothing but that word with
nothing under it. -/
def alignment? : Toml.Node → Option Alignment
  | .value (.string t) => Alignment.ofText? t
  | .value (.inline [([key], .inline [])]) => Alignment.ofText? key
  | .value (.inline [([key], .array [])]) => Alignment.ofText? key
  | .table _ [(key, .table _ [])] => Alignment.ofText? key
  | .table _ [(key, .value (.inline []))] => Alignment.ofText? key
  | .table _ [(key, .value (.array []))] => Alignment.ofText? key
  | _ => none

/-- The page width that a node stands for. -/
def width? : Toml.Node → Option Nat
  | .value (.integer n) => if 0 ≤ n then some n.toNat else none
  | _ => none

/-- The state of a switch that a node stands for. -/
def switch? : Toml.Node → Option Bool
  | .value (.boolean b) => some b
  | _ => none

/-- The word that a value stands for. -/
def word? : Toml.Value → Option Text
  | .string t => some t
  | _ => none

/-- The names that a node stands for. -/
def words? : Toml.Node → Option (List Text)
  | .value (.array items) => items.mapM word?
  | _ => none

/-- A layer with one more entry. -/
def add? (layer : Layer) (key : Text) (node : Toml.Node) : Option Layer :=
  if key = "width".toList then do return { layer with width := some (← width? node) }
  else if key = "align".toList then do return { layer with align := some (← alignment? node) }
  else if key = "indent".toList then do return { layer with indent := some (← switch? node) }
  else if key = "plugins".toList then do return { layer with plugins := ← words? node }
  else if key = "disabled_plugins".toList then do
    return { layer with disabledPlugins := ← words? node }
  else none

variable (toml : Toml.Reader)

/-- Read a layer from the text of a file. -/
def ofToml? (t : Text) : Option Layer := do
  (← toml t).foldlM (fun layer entry => layer.add? entry.1 entry.2) {}

/-- Read a layer from the file that a path leads to. -/
def ofFile (tree : FileTree) (current : Location) (path : Path) : Except Failure Layer :=
  match tree.read current path with
  | .error error => .error { cause := .file error }
  | .ok bytes =>
    match Text.ofUtf8? bytes with
    | none => .error { cause := .notText }
    | some t =>
      match ofToml? toml t with
      | none => .error { cause := .badToml }
      | some layer => .ok layer

end Layer

namespace Config

variable (toml : Toml.Reader)

/-- The configuration that one file makes of the defaults. -/
def ofFile (tree : FileTree) (current : Location) (path : Path) : Except Failure Config :=
  (Layer.ofFile toml tree current path).map ({} : Config).overlay

/-- The configuration with the layer of a file over it; a file that cannot be read says
nothing. -/
def overlayFile (tree : FileTree) (current : Location) (c : Config) (path : Path) : Config :=
  match Layer.ofFile toml tree current path with
  | .ok layer => c.overlay layer
  | .error _ => c

/-- The configuration that files make of the defaults, later files over earlier ones. -/
def ofFiles (tree : FileTree) (current : Location) (paths : List Path) : Config :=
  paths.foldl (overlayFile toml tree current) {}

/-- Files are laid over each other in order. -/
theorem ofFiles_append (tree : FileTree) (current : Location) (first second : List Path) :
    ofFiles toml tree current (first ++ second) =
      second.foldl (overlayFile toml tree current) (ofFiles toml tree current first) := by
  simp [ofFiles]

end Config

end PlainPage
