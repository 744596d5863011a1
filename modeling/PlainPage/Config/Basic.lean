import PlainPage.Settings.Basic
import PlainPage.Text.Quoted

/-!
# Configuration

The defaults of a document and the plugins to enable before its first line.  A
configuration starts from fixed defaults; layers are laid over it, each of which says
only some things.

Main results:

- Theorem `appendNew_nodup` says that merged lists stay free of repetitions.
- Theorem `mem_appendNew` says which names a merged list holds.
- Theorem `Config.problem?_eq_none_iff` says which configurations make sense.
-/

namespace PlainPage

/-- Defaults and plugins for a document. -/
structure Config where
  width : Nat := defaultWidth
  align : Alignment := .left
  indent : Bool := false
  /-- The plugins to enable before the first line. -/
  plugins : List Text := []
  /-- The plugins that may not be loaded. -/
  disabledPlugins : List Text := []
  deriving DecidableEq, Repr

/-- The part of a configuration that one file says. -/
structure Layer where
  width : Option Nat := none
  align : Option Alignment := none
  indent : Option Bool := none
  plugins : List Text := []
  disabledPlugins : List Text := []
  deriving DecidableEq, Repr

/-- What is wrong with a configuration as a whole. -/
inductive ConfigProblem where
  | tooNarrow (width : Nat)
  | tooWide (width : Nat)
  | blankPlugin (id : Text)
  deriving DecidableEq, Repr

/-- The narrowest page. -/
def minWidth : Nat := 1

/-- The wording of what is wrong with a configuration. -/
def ConfigProblem.message : ConfigProblem → Text
  | tooNarrow width =>
    "width ".toList ++ decimal width ++ " is below minimum of ".toList ++ decimal minWidth
  | tooWide width =>
    "width ".toList ++ decimal width ++ " exceeds maximum of ".toList ++ decimal maxWidth
  | blankPlugin id => "plugin id ".toList ++ id.quoted ++ " is empty".toList

/-- Append the names that a list does not hold yet. -/
def appendNew (ids extra : List Text) : List Text :=
  extra.foldl (fun ids id => if ids.contains id then ids else ids ++ [id]) ids

namespace Config

/-- The configuration with a layer over it. -/
def overlay (c : Config) (layer : Layer) : Config where
  width := layer.width.getD c.width
  align := layer.align.getD c.align
  indent := layer.indent.getD c.indent
  plugins := appendNew c.plugins layer.plugins
  disabledPlugins := appendNew c.disabledPlugins layer.disabledPlugins

/-- The configuration with one more plugin to enable. -/
def withPlugin (c : Config) (id : Text) : Config :=
  { c with plugins := appendNew c.plugins [id] }

/-- What is wrong with a configuration, if anything is. -/
def problem? (c : Config) : Option ConfigProblem :=
  if c.width < minWidth then some (.tooNarrow c.width)
  else if maxWidth < c.width then some (.tooWide c.width)
  else (c.plugins.find? Text.isBlank).map .blankPlugin

/-- The settings that a document starts with.  A width that no integer can be is as good
as none. -/
def settings (c : Config) : Settings :=
  Settings.start (if c.width ≤ maxInteger then c.width else defaultWidth) c.align c.indent

/-- The configurations that make sense. -/
theorem problem?_eq_none_iff {c : Config} :
    c.problem? = none ↔
      minWidth ≤ c.width ∧ c.width ≤ maxWidth ∧ ∀ id ∈ c.plugins, Text.isBlank id = false := by
  unfold problem?
  split
  · simp only [reduceCtorEq, false_iff, not_and]
    omega
  · split
    · simp only [reduceCtorEq, false_iff, not_and]
      omega
    · rename_i h₁ h₂
      simp [Nat.le_of_not_lt h₁, Nat.le_of_not_lt h₂]

end Config

/-! ## Merged lists -/

/-- A merged list holds the names of both lists. -/
theorem mem_appendNew {ids extra : List Text} {id : Text} :
    id ∈ appendNew ids extra ↔ id ∈ ids ∨ id ∈ extra := by
  unfold appendNew
  induction extra generalizing ids with
  | nil => simp
  | cons first rest ih =>
    simp only [List.foldl_cons, ih, List.mem_cons]
    by_cases h : first ∈ ids
    · simp only [List.contains_eq_mem, h, decide_true, if_true]
      constructor
      · rintro (h' | h')
        · exact .inl h'
        · exact .inr (.inr h')
      · rintro (h' | rfl | h')
        · exact .inl h'
        · exact .inl h
        · exact .inr h'
    · simp [h, or_assoc]

/-- Merged lists stay free of repetitions. -/
theorem appendNew_nodup {ids : List Text} (h : ids.Nodup) (extra : List Text) :
    (appendNew ids extra).Nodup := by
  unfold appendNew
  induction extra generalizing ids with
  | nil => exact h
  | cons first rest ih =>
    simp only [List.foldl_cons]
    apply ih
    split
    · exact h
    · rename_i hnew
      rw [List.nodup_append]
      refine ⟨h, by simp, ?_⟩
      rintro id hid other hother rfl
      simp only [List.mem_singleton] at hother
      exact hnew (by simpa [hother] using hid)

/-- Merging nothing changes nothing. -/
@[simp] theorem appendNew_nil (ids : List Text) : appendNew ids [] = ids := rfl

end PlainPage
