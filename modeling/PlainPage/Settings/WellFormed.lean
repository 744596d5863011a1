import PlainPage.Settings.Basic

/-!
# Settings that can exist

Settings start out with those of every document, and each write checks what it pushes.  So
all settings that there can be have the form that is described here, whoever made them.
Whether some settings have it can be computed.

Main results:

- Definition `Settings.WellFormed` is the form of all settings.
- Theorem `Settings.wellFormed_start` says that the settings a document starts with have it.
-/

namespace PlainPage

namespace Settings

/-- The settings of every document and their kinds. -/
def standardKinds : List (Text × Kind) :=
  [(widthName, .integer), (alignName, .alignment), (indentName, .switch), (preName, .switch)]

/-- What all settings of a document satisfy. -/
structure WellFormed (s : Settings) : Prop where
  distinct : s.entries.names.Nodup
  /-- Every value is of the kind of its setting. -/
  fitting : ∀ row ∈ s.entries.rows, ∀ value ∈ row.2.values, row.2.kind.accepts value = true
  /-- Above its default no page width is wider than the widest page. -/
  narrow : ∀ row ∈ s.entries.rows, ∀ value ∈ row.2.pushed, (limitWidth row.1 value).isOk = true
  /-- The settings of every document are declared with their kinds. -/
  complete : ∀ row ∈ standardKinds, (s.entries.get? row.1).map (·.kind) = some row.2

instance (s : Settings) : Decidable s.WellFormed :=
  decidable_of_iff
    (s.entries.names.Nodup ∧
      (∀ row ∈ s.entries.rows, ∀ value ∈ row.2.values, row.2.kind.accepts value = true) ∧
      (∀ row ∈ s.entries.rows, ∀ value ∈ row.2.pushed, (limitWidth row.1 value).isOk = true) ∧
      ∀ row ∈ standardKinds, (s.entries.get? row.1).map (·.kind) = some row.2)
    ⟨fun ⟨distinct, fitting, narrow, complete⟩ => ⟨distinct, fitting, narrow, complete⟩,
      fun ⟨distinct, fitting, narrow, complete⟩ => ⟨distinct, fitting, narrow, complete⟩⟩

/-- The settings that a document starts with are well formed. -/
theorem wellFormed_start (width : Nat) (align : Alignment) (indent : Bool) :
    (start width align indent).WellFormed := by
  have hrows : (start width align indent).entries.rows =
      [(widthName, { kind := .integer, default := .integer width }),
       (alignName, { kind := .alignment, default := .alignment align }),
       (indentName, { kind := .switch, default := .switch indent }),
       (preName, { kind := .switch, default := .switch false })] := rfl
  have hnames : (start width align indent).entries.names =
      [widthName, alignName, indentName, preName] := rfl
  refine ⟨?_, ?_, ?_, ?_⟩
  · rw [hnames]
    decide
  · rw [hrows]
    simp [Setting.values, Kind.accepts]
  · rw [hrows]
    simp
  · simp only [standardKinds, List.mem_cons, List.not_mem_nil, or_false]
    rintro row (rfl | rfl | rfl | rfl) <;> rfl

end Settings

end PlainPage
