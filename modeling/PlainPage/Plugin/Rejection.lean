import PlainPage.Plugin.Version
import PlainPage.Settings.Kind
import PlainPage.Text.Quoted

/-!
# Why a plugin is refused

One constructor per reason, and one function with all the wordings.

Main results:

- Definition `Rejection.reason` words a refusal.
-/

namespace PlainPage

/-- What a plugin enters under a name. -/
inductive EntryKind where
  | command
  | filter
  deriving DecidableEq, Repr

/-- The word for what is entered. -/
def EntryKind.text : EntryKind → Text
  | command => "command".toList
  | filter => "filter".toList

/-- What is wrong with the name of a command or a filter. -/
inductive NameFault where
  | empty
  | whiteSpace
  /-- Directives are lowered, so the name could never be written. -/
  | uppercase
  | reserved
  deriving DecidableEq, Repr

/-- The wording of what is wrong with a name. -/
def NameFault.text : NameFault → Text
  | empty => "is empty".toList
  | whiteSpace => "contains whitespace".toList
  | uppercase => "contains uppercase characters".toList
  | reserved => "is a reserved directive".toList

/-- Why a plugin is refused. -/
inductive Rejection where
  /-- The plugin has a blank name. -/
  | blankId
  /-- A plugin of this name is loaded. -/
  | alreadyLoaded
  /-- The plugin may not be loaded. -/
  | disabled
  /-- A plugin that this one needs may not be loaded. -/
  | dependencyDisabled (id : Text)
  /-- A plugin that this one needs is not loaded. -/
  | dependencyMissing (id : Text)
  /-- A plugin that this one needs is loaded in an older version. -/
  | dependencyTooOld (id : Text) (found needed : Version)
  /-- A command or a filter has a name that no directive can write. -/
  | badName (kind : EntryKind) (name : Text) (problem : NameFault)
  /-- A command or a filter of this name exists. -/
  | nameTaken (kind : EntryKind) (name : Text)
  /-- A setting of this name exists. -/
  | settingTaken (name : Text)
  /-- The default of a setting is not of its kind. -/
  | badDefault (name : Text) (kind : Kind)
  deriving DecidableEq, Repr

namespace Rejection

/-- The wording of a refusal. -/
def reason : Rejection → Text
  | blankId => "plugin id is empty".toList
  | alreadyLoaded => "a plugin with this id is already loaded".toList
  | disabled => "plugin is disabled".toList
  | dependencyDisabled id => "dependency ".toList ++ accented id ++ " is disabled".toList
  | dependencyMissing id => "missing dependency ".toList ++ accented id
  | dependencyTooOld id found needed =>
    "dependency ".toList ++ accented id ++ " is ".toList ++ found.text
      ++ ", need at least ".toList ++ needed.text
  | badName kind name problem =>
    kind.text ++ " name ".toList ++ accented name ++ [' '] ++ problem.text
  | nameTaken kind name => kind.text ++ [' '] ++ accented name ++ " is already registered".toList
  | settingTaken name => "setting ".toList ++ accented name ++ " is already declared".toList
  | badDefault name kind =>
    "default for setting ".toList ++ accented name ++ " is not ".toList ++ kind.expected

end Rejection

end PlainPage
