import PlainPage.CommandLine.Options
import PlainPage.Config.Layer
import PlainPage.Proofs.Settings.Changes

/-!
# Layers over layers

Layers that are laid over each other in order are one layer: the last of them that says
something decides, and the lists of names run on.  So the files of a configuration and the
command line over them count as one layer over the defaults, and laying it once more changes
nothing.  None of this depends on how the text of a file is read, so the reader is a variable.

Main results:

- Definition `Layer.merged` puts layers together, and theorem `Config.foldl_overlay` says that
  this is what laying them over a configuration amounts to.
- Theorem `appendNew_nil_left` says that a merged list has the names in the order in which they
  come first.
- Theorem `Layer.exists_ofFile_iff` says which files say anything at all.
- Theorem `Options.overlay_ofFiles` says what files and the command line make of the defaults.
-/

namespace PlainPage

/-! ## Merged lists -/

/-- Names are merged in any number of goes. -/
theorem appendNew_append (ids first second : List Text) :
    appendNew ids (first ++ second) = appendNew (appendNew ids first) second :=
  List.foldl_append

/-- Names that are there already make no difference. -/
theorem appendNew_of_subset {ids extra : List Text} (h : ∀ id ∈ extra, id ∈ ids) :
    appendNew ids extra = ids := by
  unfold appendNew
  induction extra with
  | nil => rfl
  | cons id rest ih =>
    rw [List.forall_mem_cons] at h
    rw [List.foldl_cons, if_pos (by simpa using h.1)]
    exact ih h.2

/-- Merging appends the names that are new, each where it comes first. -/
theorem appendNew_eq_append (ids extra : List Text) :
    appendNew ids extra = ids ++ (extra.removeAll ids).eraseDups := by
  induction extra generalizing ids with
  | nil => simp [List.removeAll]
  | cons id rest ih =>
    by_cases h : id ∈ ids
    · have hskip : appendNew ids (id :: rest) = appendNew ids rest := by
        rw [appendNew, List.foldl_cons, if_pos (by simpa using h)]
        rfl
      have hold : (id :: rest).removeAll ids = rest.removeAll ids := by
        simp [List.removeAll, h]
      rw [hskip, hold, ih]
    · have hadd : appendNew ids (id :: rest) = appendNew (ids ++ [id]) rest := by
        rw [appendNew, List.foldl_cons, if_neg (by simpa using h)]
        rfl
      have hnew : (id :: rest).removeAll ids = id :: rest.removeAll ids := by
        simp [List.removeAll, h]
      have hrest : rest.removeAll (ids ++ [id]) = (rest.removeAll ids).filter (!· == id) := by
        rw [List.removeAll, List.removeAll, List.filter_filter]
        exact List.filter_congr fun other _ => by by_cases hother : other = id <;> simp [hother]
      rw [hadd, hnew, ih, hrest, List.eraseDups_cons, List.append_assoc]
      rfl

/-- A list that is merged from nothing has every name where it comes first. -/
theorem appendNew_nil_left (ids : List Text) : appendNew [] ids = ids.eraseDups := by
  have hall : ids.removeAll [] = ids := List.filter_eq_self.2 fun _ _ => rfl
  rw [appendNew_eq_append, List.nil_append, hall]

/-! ## Layers as one layer -/

/-- Layers that are laid over each other in order, as one layer. -/
def Layer.merged (layers : List Layer) : Layer where
  width := layers.reverse.findSome? (·.width)
  align := layers.reverse.findSome? (·.align)
  indent := layers.reverse.findSome? (·.indent)
  plugins := layers.flatMap (·.plugins)
  disabledPlugins := layers.flatMap (·.disabledPlugins)

namespace Config

/-- Layers that are laid over a configuration one after the other are laid as one. -/
theorem foldl_overlay (c : Config) (layers : List Layer) :
    layers.foldl overlay c = c.overlay (.merged layers) := by
  induction layers generalizing c with
  | nil => rfl
  | cons layer rest ih =>
    have hlast : ∀ {α : Type} (entry : Layer → Option α) (a : α),
        (rest.reverse.findSome? entry).getD ((entry layer).getD a) =
          ((layer :: rest).reverse.findSome? entry).getD a := by
      intro α entry a
      rw [List.reverse_cons, List.findSome?_append, Option.getD_or]
      cases h : entry layer <;> simp [h]
    rw [List.foldl_cons, ih]
    simp only [overlay, Layer.merged, hlast, List.flatMap_cons, appendNew_append]

/-- Laying a layer twice is laying it once. -/
theorem overlay_overlay (c : Config) (layer : Layer) :
    (c.overlay layer).overlay layer = c.overlay layer := by
  have hids : ∀ ids extra : List Text,
      appendNew (appendNew ids extra) extra = appendNew ids extra :=
    fun ids extra => appendNew_of_subset fun id hid => mem_appendNew.2 (.inr hid)
  unfold overlay
  cases layer.width <;> cases layer.align <;> cases layer.indent <;> simp [hids]

end Config

/-! ## Files that say something -/

namespace Layer

variable {toml : Toml.Reader} {tree : FileTree} {current : Location} {path : Path}

/-- An entry of a configuration file that is known and has a value of its sort. -/
inductive Known : Text × Toml.Node → Prop
  | width {node : Toml.Node} {width : Nat} (h : width? node = some width) :
      Known ("width".toList, node)
  | align {node : Toml.Node} {align : Alignment} (h : alignment? node = some align) :
      Known ("align".toList, node)
  | indent {node : Toml.Node} {indent : Bool} (h : switch? node = some indent) :
      Known ("indent".toList, node)
  | plugins {node : Toml.Node} {ids : List Text} (h : words? node = some ids) :
      Known ("plugins".toList, node)
  | disabledPlugins {node : Toml.Node} {ids : List Text} (h : words? node = some ids) :
      Known ("disabled_plugins".toList, node)

/-- An entry is added to a layer exactly when it is known. -/
theorem exists_add?_iff (layer : Layer) (key : Text) (node : Toml.Node) :
    (∃ next, layer.add? key node = some next) ↔ Known (key, node) := by
  constructor
  · rintro ⟨next, h⟩
    unfold add? at h
    split at h
    · rename_i hkey
      obtain ⟨width, hwidth, -⟩ := Option.bind_eq_some_iff.1 h
      exact hkey ▸ .width hwidth
    · split at h
      · rename_i hkey
        obtain ⟨align, halign, -⟩ := Option.bind_eq_some_iff.1 h
        exact hkey ▸ .align halign
      · split at h
        · rename_i hkey
          obtain ⟨indent, hindent, -⟩ := Option.bind_eq_some_iff.1 h
          exact hkey ▸ .indent hindent
        · split at h
          · rename_i hkey
            obtain ⟨ids, hids, -⟩ := Option.bind_eq_some_iff.1 h
            exact hkey ▸ .plugins hids
          · split at h
            · rename_i hkey
              obtain ⟨ids, hids, -⟩ := Option.bind_eq_some_iff.1 h
              exact hkey ▸ .disabledPlugins hids
            · cases h
  · intro h
    cases h <;> simp [add?, *]

/-- A list of entries makes a layer exactly when all of them are known. -/
theorem exists_foldlM_add?_iff (layer : Layer) (entries : List (Text × Toml.Node)) :
    (∃ next, entries.foldlM (fun layer entry => layer.add? entry.1 entry.2) layer = some next) ↔
      ∀ entry ∈ entries, Known entry := by
  induction entries generalizing layer with
  | nil => simp
  | cons entry rest ih =>
    rw [List.foldlM_cons, List.forall_mem_cons, ← exists_add?_iff layer]
    constructor
    · rintro ⟨next, h⟩
      obtain ⟨between, hfirst, hrest⟩ := Option.bind_eq_some_iff.1 h
      exact ⟨⟨between, hfirst⟩, (ih between).1 ⟨next, hrest⟩⟩
    · rintro ⟨⟨between, hfirst⟩, hrest⟩
      obtain ⟨next, hnext⟩ := (ih between).2 hrest
      exact ⟨next, Option.bind_eq_some_iff.2 ⟨between, hfirst, hnext⟩⟩

/-- A file that says something: it is a text of entries that are all known. -/
def Usable (toml : Toml.Reader) (tree : FileTree) (current : Location) (path : Path) : Prop :=
  ∃ bytes text entries, tree.read current path = .ok bytes ∧ Text.ofUtf8? bytes = some text ∧
    toml text = some entries ∧ ∀ entry ∈ entries, Known entry

/-- The files that a layer can be read from. -/
theorem exists_ofFile_iff :
    (∃ layer, ofFile toml tree current path = .ok layer) ↔ Usable toml tree current path := by
  unfold ofFile Usable
  cases tree.read current path with
  | error error => simp
  | ok bytes =>
    cases htext : Text.ofUtf8? bytes with
    | none => simp [htext]
    | some text =>
      have hlayer : (∃ layer, ofToml? toml text = some layer) ↔
          ∃ entries, toml text = some entries ∧ ∀ entry ∈ entries, Known entry := by
        simp only [← exists_foldlM_add?_iff {}, ofToml?, bind, Option.bind_eq_some_iff]
        exact exists_comm.trans (by simp)
      cases hread : ofToml? toml text <;> simp_all

/-- What the files say that say something. -/
def ofFiles (toml : Toml.Reader) (tree : FileTree) (current : Location) (paths : List Path) :
    List Layer :=
  paths.filterMap fun path => (ofFile toml tree current path).toOption

end Layer

/-! ## Files and the command line -/

section Files

variable (toml : Toml.Reader) (tree : FileTree) (current : Location)

/-- Files are laid over a configuration as one layer. -/
theorem Config.foldl_overlayFile (c : Config) (paths : List Path) :
    paths.foldl (overlayFile toml tree current) c =
      c.overlay (.merged (Layer.ofFiles toml tree current paths)) := by
  rw [← foldl_overlay, Layer.ofFiles, List.foldl_filterMap]
  congr 1
  funext c path
  unfold overlayFile
  cases Layer.ofFile toml tree current path <;> rfl

/-- Files make one layer over the defaults. -/
theorem Config.ofFiles_eq (paths : List Path) :
    ofFiles toml tree current paths =
      ({} : Config).overlay (.merged (Layer.ofFiles toml tree current paths)) :=
  foldl_overlayFile toml tree current {} paths

/-- Files that are laid over a configuration twice in a row count once. -/
theorem Config.ofFiles_twice (paths : List Path) :
    ofFiles toml tree current (paths ++ paths) = ofFiles toml tree current paths := by
  rw [ofFiles_append, foldl_overlayFile, ofFiles_eq, overlay_overlay]

/-- A file that is not usable says nothing. -/
theorem Layer.ofFiles_of_not_usable {path : Path} (h : ¬ Usable toml tree current path)
    (before after : List Path) :
    ofFiles toml tree current (before ++ path :: after) =
      ofFiles toml tree current (before ++ after) := by
  have hnone : (ofFile toml tree current path).toOption = none := by
    rw [← exists_ofFile_iff] at h
    cases hread : ofFile toml tree current path with
    | error failure => rfl
    | ok layer => exact absurd ⟨layer, hread⟩ h
  simp [ofFiles, List.filterMap_append, hnone]

/-- The command line is the last layer over the files. -/
theorem Options.overlay_eq_merged (o : Options) (paths : List Path) :
    o.overlay (Config.ofFiles toml tree current paths) =
      ({} : Config).overlay (.merged (Layer.ofFiles toml tree current paths ++ [o.layer])) := by
  rw [Config.ofFiles_eq, ← Config.foldl_overlay, ← Config.foldl_overlay, List.foldl_append]
  rfl

/-- What files and the command line over them make of the defaults.  The command line decides,
or else the last usable file that says something, or else the default; the lists have the names
of the usable files and then of the command line, each where it comes first.  A file that is
not usable makes no difference, and nothing counts twice. -/
theorem Options.overlay_ofFiles (o : Options) (paths : List Path) :
    let layers := Layer.ofFiles toml tree current paths
    let config := o.overlay (Config.ofFiles toml tree current paths)
    config.width = (o.width.or (layers.reverse.findSome? (·.width))).getD defaultWidth ∧
    config.align = (o.align.or (layers.reverse.findSome? (·.align))).getD .left ∧
    config.indent = (o.indentation.or (layers.reverse.findSome? (·.indent))).getD false ∧
    config.plugins = (layers.flatMap (·.plugins) ++ o.plugins).eraseDups ∧
    config.disabledPlugins = (layers.flatMap (·.disabledPlugins)).eraseDups ∧
    (∀ before path after, paths = before ++ path :: after → ¬ Layer.Usable toml tree current path →
      o.overlay (Config.ofFiles toml tree current (before ++ after)) = config) ∧
    Config.ofFiles toml tree current (paths ++ paths) = Config.ofFiles toml tree current paths ∧
    o.overlay config = config := by
  intro layers config
  have hconfig : config = ({} : Config).overlay (.merged (layers ++ [o.layer])) :=
    overlay_eq_merged toml tree current o paths
  have hentry : ∀ {α : Type} (entry : Layer → Option α),
      (layers ++ [o.layer]).reverse.findSome? entry =
        (entry o.layer).or (layers.reverse.findSome? entry) := by
    intro α entry
    rw [List.reverse_append, List.findSome?_append]
    cases h : entry o.layer <;> simp [h]
  refine ⟨?_, ?_, ?_, ?_, ?_, ?_, Config.ofFiles_twice toml tree current paths, ?_⟩
  · rw [hconfig]
    exact congrArg (·.getD defaultWidth) (hentry (·.width))
  · rw [hconfig]
    exact congrArg (·.getD Alignment.left) (hentry (·.align))
  · rw [hconfig]
    exact congrArg (·.getD false) (hentry (·.indent))
  · rw [hconfig, ← appendNew_nil_left]
    simp [Config.overlay, Layer.merged, Options.layer]
  · rw [hconfig, ← appendNew_nil_left]
    simp [Config.overlay, Layer.merged, Options.layer]
  · rintro before path after rfl hunusable
    rw [overlay_eq_merged, ← Layer.ofFiles_of_not_usable toml tree current hunusable, hconfig]
  · exact Config.overlay_overlay _ o.layer

end Files

/-- A file with an entry that is not known, between two that are usable. -/
theorem Options.overlay_ofFiles_unknown :
    let tree : FileTree :=
      ⟨[(["a".toList], .file (Text.utf8 "width = 40\nplugins = [\"p\", \"q\", \"p\"]".toList)),
        (["b".toList], .file (Text.utf8 "width = 9\nheight = 2".toList)),
        (["c".toList], .file (Text.utf8 "align = \"right\"\nplugins = [\"r\", \"q\"]".toList))]⟩
    let o : Options := { noIndent := true, plugins := ["r".toList, "s".toList] }
    ¬ Layer.Usable Toml.ofText? tree [] "b".toList ∧
      o.overlay (Config.ofFiles Toml.ofText? tree [] ["a".toList, "c".toList]) =
        o.overlay (Config.ofFiles Toml.ofText? tree [] ["a".toList, "b".toList, "c".toList]) ∧
      o.overlay (Config.ofFiles Toml.ofText? tree [] ["a".toList, "b".toList, "c".toList]) =
        { width := 40, align := .right, indent := false,
          plugins := ["p".toList, "q".toList, "r".toList, "s".toList] } := by
  intro tree o
  have hunusable : ¬ Layer.Usable Toml.ofText? tree [] "b".toList := by
    rw [← Layer.exists_ofFile_iff]
    rintro ⟨layer, hlayer⟩
    have hnone : (Layer.ofFile Toml.ofText? tree [] "b".toList).toOption = none := by decide +kernel
    rw [hlayer] at hnone
    cases hnone
  have hlaid := overlay_ofFiles Toml.ofText? tree [] o ["a".toList, "b".toList, "c".toList]
  exact ⟨hunusable, hlaid.2.2.2.2.2.1 ["a".toList] _ ["c".toList] rfl hunusable, by decide +kernel⟩

end PlainPage
