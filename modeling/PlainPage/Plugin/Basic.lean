import PlainPage.Command
import PlainPage.Filter.Basic
import PlainPage.Plugin.Version
import PlainPage.Text.Record

/-!
# Plugins

A plugin brings commands, filters and settings under one name and version, and says
which other plugins it needs.

Main results:

- Definition `Plugin.summary` shows what a plugin brings.
- Theorem `readVersion_eq_ok_iff` says when a version is read.
-/

namespace PlainPage

/-- Read a version, or complain about the text. -/
def readVersion (t : Text) : Except DocumentError Version :=
  match Version.ofText? t with
  | some version => .ok version
  | none =>
    .error (.unusableWord "version".toList t "expected MAJOR[.MINOR[.PATCH]]".toList)

theorem readVersion_eq_ok_iff {t : Text} {version : Version} :
    readVersion t = .ok version ↔ Version.ofText? t = some version := by
  unfold readVersion
  cases Version.ofText? t <;> simp

/-- A plugin that another one needs. -/
structure Dependency where
  id : Text
  /-- The oldest version that will do, unless every version does. -/
  minimum : Option Version := none
  deriving DecidableEq, Repr

/-- A setting that a plugin declares. -/
structure SettingDeclaration where
  name : Text
  kind : Kind
  default : Value
  deriving DecidableEq, Repr

/-- A bundle of commands, filters and settings. -/
structure Plugin where
  id : Text
  version : Version
  depends : List Dependency := []
  commands : List (Text × Command) := []
  filters : List (Text × Filter) := []
  settings : List SettingDeclaration := []

/-! ## Summaries -/

/-- A version with its numbers named. -/
def Version.summary (v : Version) : Text :=
  Text.recorded "PluginVersion"
    [Text.field "major" (decimal v.major), Text.field "minor" (decimal v.minor),
     Text.field "patch" (decimal v.patch)]

/-- A dependency with its parts named. -/
def Dependency.summary (d : Dependency) : Text :=
  let minimum :=
    match d.minimum with
    | some version => Text.tagged "Some" version.summary
    | none => "None".toList
  Text.recorded "Dependency" [Text.field "id" d.id.quoted, Text.field "min_version" minimum]

/-- The name of a kind of setting. -/
def Kind.summary : Kind → Text
  | integer => "Integer".toList
  | switch => "Boolean".toList
  | alignment => "Alignment".toList
  | inferred => "Inferred".toList

/-- The name of an alignment. -/
def Alignment.summary : Alignment → Text
  | left => "Left".toList
  | right => "Right".toList
  | center => "Center".toList

/-- A value behind the name of its kind. -/
def Value.summary : Value → Text
  | integer n => Text.tagged "Integer" (integerText n)
  | switch true => Text.tagged "Boolean" "true".toList
  | switch false => Text.tagged "Boolean" "false".toList
  | alignment a => Text.tagged "Alignment" a.summary
  | text t => Text.tagged "Text" t.quoted

/-- A declared setting with its parts named. -/
def SettingDeclaration.summary (d : SettingDeclaration) : Text :=
  Text.recorded "SettingDecl"
    [Text.field "name" d.name.quoted, Text.field "kind" d.kind.summary,
     Text.field "default" d.default.summary]

/-- A plugin with its parts named; of its commands and filters, the names. -/
def Plugin.summary (p : Plugin) : Text :=
  Text.recorded "Plugin"
    [Text.field "id" p.id.quoted,
     Text.field "version" p.version.summary,
     Text.field "depends" (Text.bracketed (p.depends.map Dependency.summary)),
     Text.field "commands" (Text.bracketed (p.commands.map fun (name, _) => name.quoted)),
     Text.field "filters" (Text.bracketed (p.filters.map fun (name, _) => name.quoted)),
     Text.field "settings" (Text.bracketed (p.settings.map SettingDeclaration.summary))]

end PlainPage
