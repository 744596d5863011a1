import PlainPage.Settings.Basic
import PlainPage.Proofs.Table

/-!
# What a write does to the settings

A write that succeeds declares a new setting, or changes the values above the default of
a declared one.  The relation `Settings.Writes` lists the cases, with what was checked in
each.

Main results:

- Theorem `Settings.writes_of_apply` says that every successful write is one of the cases.
- Theorem `Settings.Writes.lowest_eq` says that a write which starts and ends at or above
  a depth leaves the values up to that depth alone.
- Theorem `Settings.Leads.lowest_eq` says the same of a sequence of writes that never
  falls below the depth.
-/

namespace PlainPage

/-! ## Chains of checks -/

/-- A chain of checks succeeds when its first part does and the rest does after it. -/
theorem bind_eq_ok_iff {ε α β : Type} {x : Except ε α} {f : α → Except ε β} {b : β} :
    x >>= f = .ok b ↔ ∃ a, x = .ok a ∧ f a = .ok b := by
  cases x with
  | error error => simp [bind, Except.bind]
  | ok a => simp [bind, Except.bind]

/-- A chain of checks fails when its first part does, or the rest does after it. -/
theorem bind_eq_error_iff {ε α β : Type} {x : Except ε α} {f : α → Except ε β} {error : ε} :
    x >>= f = .error error ↔ x = .error error ∨ ∃ a, x = .ok a ∧ f a = .error error := by
  cases x with
  | error error => simp [bind, Except.bind]
  | ok a => simp [bind, Except.bind]

theorem map_eq_ok_iff {ε α β : Type} {x : Except ε α} {f : α → β} {b : β} :
    x.map f = .ok b ↔ ∃ a, x = .ok a ∧ f a = b := by
  cases x with
  | error error => simp [Except.map]
  | ok a => simp [Except.map]

theorem mapError_eq_ok_iff {ε δ α : Type} {x : Except ε α} {f : ε → δ} {a : α} :
    x.mapError f = .ok a ↔ x = .ok a := by
  cases x with
  | error error => constructor <;> intro h <;> cases h
  | ok b =>
    constructor <;> intro h <;> cases h <;> rfl

theorem toOption_eq_some_iff {ε α : Type} {x : Except ε α} {a : α} :
    x.toOption = some a ↔ x = .ok a := by
  cases x with
  | error error => constructor <;> intro h <;> cases h
  | ok b =>
    constructor <;> intro h <;> cases h <;> rfl

/-! ## The values up to a depth -/

namespace Setting

/-- A setting that is no deeper than the cut stays as it is. -/
theorem truncate_of_depth_le {s : Setting} {depth : Nat} (h : s.depth ≤ depth) :
    s.truncate depth = s := by
  have hzero : s.depth - max depth 1 = 0 := by omega
  simp [truncate, hzero]

/-- A push does not reach the values up to the depth before it. -/
theorem truncate_push_of_le {s : Setting} {depth : Nat} (h : depth ≤ s.depth) (value : Value) :
    (s.push value).truncate depth = s.truncate depth := by
  have hone := s.one_le_depth
  have hdrop : s.depth + 1 - max depth 1 = (s.depth - max depth 1) + 1 := by omega
  simp only [truncate, depth_push, hdrop]
  rfl

/-- Cutting back twice is cutting back to the lower depth. -/
theorem truncate_truncate {s : Setting} {lower upper : Nat}
    (h : lower ≤ (s.truncate upper).depth) :
    (s.truncate upper).truncate lower = s.truncate lower := by
  have hone := s.one_le_depth
  rw [depth_truncate] at h
  have hsum : s.depth - max upper 1 + (min s.depth (max upper 1) - max lower 1) =
      s.depth - max lower 1 := by omega
  have hdrop : (s.truncate upper).pushed.drop (min s.depth (max upper 1) - max lower 1) =
      s.pushed.drop (s.depth - max lower 1) := by
    rw [truncate, List.drop_drop, hsum]
  rw [truncate, depth_truncate, hdrop]
  rfl

end Setting

namespace Settings

/-- A setting with only its values up to a depth. -/
def lowest (s : Settings) (name : Text) (depth : Nat) : Option Setting :=
  (s.entries.get? name).map (·.truncate depth)

theorem depth_of_get? {s : Settings} {name : Text} {setting : Setting}
    (h : s.entries.get? name = some setting) : s.depth name = setting.depth := by
  simp [depth, h]

theorem isDeclared_iff {s : Settings} {name : Text} :
    s.isDeclared name = true ↔ ∃ setting, s.entries.get? name = some setting :=
  Table.contains_iff

theorem lookup_eq_ok_iff {s : Settings} {name : Text} {setting : Setting} :
    s.lookup name = .ok setting ↔ s.entries.get? name = some setting := by
  unfold lookup
  cases s.entries.get? name <;> simp

/-- A declared setting has a value, so its depth is not zero. -/
theorem one_le_depth {s : Settings} {name : Text} (h : s.isDeclared name = true) :
    1 ≤ s.depth name := by
  rcases isDeclared_iff.1 h with ⟨setting, hget⟩
  rw [depth_of_get? hget]
  exact setting.one_le_depth

/-- A setting with a value is declared. -/
theorem isDeclared_of_one_le_depth {s : Settings} {name : Text} (h : 1 ≤ s.depth name) :
    s.isDeclared name = true := by
  cases hget : s.entries.get? name with
  | none => simp [depth, hget] at h
  | some setting => exact isDeclared_iff.2 ⟨setting, hget⟩

/-- Up to its own depth a setting is the whole setting. -/
@[simp] theorem lowest_depth (s : Settings) (name : Text) :
    s.lowest name (s.depth name) = s.entries.get? name := by
  unfold lowest
  cases h : s.entries.get? name with
  | none => rfl
  | some setting =>
    have hdepth := depth_of_get? h
    simp [Setting.truncate_of_depth_le (Nat.le_of_eq hdepth.symm)]

/-- Settings that agree on the values up to a depth both reach it, if one does. -/
theorem depth_le_of_lowest_eq {s t : Settings} {name : Text}
    (h : t.lowest name (s.depth name) = s.entries.get? name) : s.depth name ≤ t.depth name := by
  unfold lowest at h
  cases hs : s.entries.get? name with
  | none => simp [depth, hs]
  | some setting =>
    rw [hs] at h
    rcases Option.map_eq_some_iff.1 h with ⟨other, hother, htruncate⟩
    have hdepth := Setting.depth_truncate other (s.depth name)
    rw [htruncate, ← depth_of_get? hs, ← depth_of_get? hother] at hdepth
    omega

/-! ## The cases of a write -/

/-- What a write that succeeds does, and what was checked before it. -/
inductive Writes (s : Settings) : Change → Settings → Prop where
  | declare {name : Text} {kind : Kind} {default : Value}
      (hnew : s.isDeclared name = false) (haccepts : kind.accepts default = true) :
      Writes s (.declare name kind default)
        { s with entries := s.entries.insert name { kind, default } }
  | set {name raw : Text} {setting : Setting} {value : Value}
      (hget : s.entries.get? name = some setting) (hparse : setting.kind.parse? raw = some value)
      (hlimit : limitWidth name value = .ok ()) :
      Writes s (.set name raw) (s.push name value)
  | assign {name : Text} {setting : Setting} {value : Value}
      (hget : s.entries.get? name = some setting) (haccepts : setting.kind.accepts value = true)
      (hlimit : limitWidth name value = .ok ()) :
      Writes s (.assign name value) (s.push name value)
  | unset {name : Text} {setting : Setting} {value : Value} {rest : List Value}
      (hget : s.entries.get? name = some setting) (hpushed : setting.pushed = value :: rest) :
      Writes s (.unset name) { s with entries := s.entries.modify name ({ · with pushed := rest }) }
  | truncate {name : Text} {depth : Nat} {setting : Setting}
      (hget : s.entries.get? name = some setting) :
      Writes s (.truncate name depth) { s with entries := s.entries.modify name (·.truncate depth) }

/-- A line that sets a value is a write. -/
theorem writes_of_set {s t : Settings} {name raw : Text} (h : s.set name raw = .ok t) :
    s.Writes (.set name raw) t := by
  rcases bind_eq_ok_iff.1 h with ⟨setting, hlookup, h⟩
  cases hparse : setting.kind.parse? raw with
  | none => simp [hparse] at h
  | some value =>
    rw [hparse] at h
    rcases bind_eq_ok_iff.1 h with ⟨⟨⟩, hlimit, h⟩
    cases h
    exact .set (lookup_eq_ok_iff.1 hlookup) hparse hlimit

theorem writes_of_assign {s t : Settings} {name : Text} {value : Value}
    (h : s.assign name value = .ok t) : s.Writes (.assign name value) t := by
  rcases bind_eq_ok_iff.1 h with ⟨setting, hlookup, h⟩
  cases haccepts : setting.kind.accepts value with
  | false => simp [haccepts] at h
  | true =>
    rw [haccepts, if_pos rfl] at h
    rcases bind_eq_ok_iff.1 h with ⟨⟨⟩, hlimit, h⟩
    cases h
    exact .assign (lookup_eq_ok_iff.1 hlookup) haccepts hlimit

theorem writes_of_unset {s t : Settings} {name : Text} {value : Value}
    (h : s.unset name = .ok (value, t)) : s.Writes (.unset name) t := by
  rcases bind_eq_ok_iff.1 h with ⟨setting, hlookup, h⟩
  cases hpushed : setting.pushed with
  | nil => simp [hpushed] at h
  | cons top rest =>
    rw [hpushed] at h
    cases h
    exact .unset (lookup_eq_ok_iff.1 hlookup) hpushed

theorem writes_of_truncate {s t : Settings} {name : Text} {depth : Nat}
    (h : s.truncate name depth = .ok t) : s.Writes (.truncate name depth) t := by
  rcases bind_eq_ok_iff.1 h with ⟨setting, hlookup, h⟩
  cases h
  exact .truncate (lookup_eq_ok_iff.1 hlookup)

theorem writes_of_declare {s t : Settings} {name : Text} {kind : Kind} {default : Value}
    (h : s.declare name kind default = .ok t) : s.Writes (.declare name kind default) t := by
  unfold declare at h
  cases hnew : s.isDeclared name with
  | true => simp [hnew] at h
  | false =>
    cases haccepts : kind.accepts default with
    | false => simp [hnew, haccepts] at h
    | true =>
      rw [hnew, haccepts, if_neg Bool.false_ne_true, if_pos rfl] at h
      cases h
      exact .declare hnew haccepts

/-- Every write that succeeds is one of the cases. -/
theorem writes_of_apply {s t : Settings} {change : Change} (h : s.apply change = .ok t) :
    s.Writes change t := by
  cases change with
  | declare name kind default => exact writes_of_declare h
  | set name raw => exact writes_of_set h
  | assign name value => exact writes_of_assign h
  | truncate name depth => exact writes_of_truncate h
  | unset name =>
    rcases map_eq_ok_iff.1 h with ⟨⟨value, after⟩, hunset, rfl⟩
    exact writes_of_unset hunset

/-- A setting that is declared can be cut back. -/
theorem truncate_of_isDeclared {s : Settings} {name : Text} (h : s.isDeclared name = true)
    (depth : Nat) :
    s.truncate name depth = .ok { s with entries := s.entries.modify name (·.truncate depth) } := by
  rcases isDeclared_iff.1 h with ⟨setting, hget⟩
  unfold truncate
  rw [lookup_eq_ok_iff.2 hget]
  rfl

/-! ## What every write keeps -/

/-- A declared setting stays declared. -/
theorem Writes.isDeclared {s t : Settings} {change : Change} (h : s.Writes change t)
    {name : Text} (hname : s.isDeclared name = true) : t.isDeclared name = true := by
  have hmodify : ∀ (other : Text) (f : Setting → Setting),
      (s.entries.modify other f).contains name = true := by
    intro other f
    rw [Table.contains_iff_mem_names, Table.names_modify]
    exact Table.contains_iff_mem_names.1 hname
  cases h with
  | declare =>
    unfold Settings.isDeclared
    rw [Table.contains_insert, Bool.or_eq_true]
    exact .inr hname
  | set => exact hmodify ..
  | assign => exact hmodify ..
  | unset => exact hmodify ..
  | truncate => exact hmodify ..

/-- Distinct names stay distinct. -/
theorem Writes.nodup_names {s t : Settings} {change : Change} (h : s.Writes change t)
    (hdistinct : s.entries.names.Nodup) : t.entries.names.Nodup := by
  have hmodify : ∀ (name : Text) (f : Setting → Setting),
      (s.entries.modify name f).names.Nodup := by
    intro name f
    rw [Table.names_modify]
    exact hdistinct
  cases h with
  | declare => exact Table.nodup_names_insert hdistinct ..
  | set => exact hmodify ..
  | assign => exact hmodify ..
  | unset => exact hmodify ..
  | truncate => exact hmodify ..

/-- The setting that a write is about. -/
def Change.name : Change → Text
  | declare name _ _ => name
  | set name _ => name
  | assign name _ => name
  | unset name => name
  | truncate name _ => name

/-- A write leaves the other settings alone. -/
theorem Writes.get?_of_ne {s t : Settings} {change : Change} (h : s.Writes change t)
    {other : Text} (hother : other ≠ change.name) :
    t.entries.get? other = s.entries.get? other := by
  cases h with
  | declare => exact Table.get?_insert_of_ne _ _ hother
  | set => exact get?_push_of_ne s _ hother
  | assign => exact get?_push_of_ne s _ hother
  | unset => exact Table.get?_modify_of_ne _ _ hother
  | truncate => exact Table.get?_modify_of_ne _ _ hother

/-- A change in place to a setting that keeps its values up to a depth keeps them for every
setting. -/
theorem lowest_modify {s : Settings} {name other : Text} {depth : Nat} {f : Setting → Setting}
    (h : ∀ setting, s.entries.get? name = some setting → other = name →
      (f setting).truncate depth = setting.truncate depth) :
    ({ s with entries := s.entries.modify name f } : Settings).lowest other depth =
      s.lowest other depth := by
  unfold lowest
  rw [Table.get?_modify]
  by_cases hname : other = name
  · rw [if_pos hname, hname]
    cases hget : s.entries.get? name with
    | none => rfl
    | some setting => simp [h setting hget hname]
  · rw [if_neg hname]

/-- A write that starts and ends at or above a depth leaves the values up to it alone. -/
theorem Writes.lowest_eq {s t : Settings} {change : Change} (h : s.Writes change t)
    {name : Text} {depth : Nat} (hname : s.isDeclared name = true) (hs : depth ≤ s.depth name)
    (ht : depth ≤ t.depth name) : t.lowest name depth = s.lowest name depth := by
  have hpush : ∀ (other : Text) (value : Value),
      (s.push other value).lowest name depth = s.lowest name depth := by
    intro other value
    refine lowest_modify fun setting hget heq => ?_
    rw [heq, depth_of_get? hget] at hs
    exact Setting.truncate_push_of_le hs value
  cases h with
  | @declare other kind default hnew haccepts =>
    have hne : name ≠ other := by
      rintro rfl
      simp [hnew] at hname
    unfold lowest
    rw [Table.get?_insert_of_ne _ _ hne]
  | set => exact hpush ..
  | assign => exact hpush ..
  | @unset other setting value rest hget hpushed =>
    refine lowest_modify fun found hfound heq => ?_
    rw [hget] at hfound
    cases hfound
    subst heq
    have hdepth : depth ≤ ({ setting with pushed := rest } : Setting).depth := by
      simpa [Settings.depth, Table.get?_modify_self, hget] using ht
    have hback : ({ setting with pushed := rest } : Setting).push value = setting := by
      simp [Setting.push, ← hpushed]
    rw [← Setting.truncate_push_of_le hdepth value, hback]
  | @truncate other upper setting hget =>
    refine lowest_modify fun found hfound heq => ?_
    rw [hget] at hfound
    cases hfound
    subst heq
    have hdepth : depth ≤ (setting.truncate upper).depth := by
      simpa [Settings.depth, Table.get?_modify_self, hget] using ht
    exact Setting.truncate_truncate hdepth

/-! ## Sequences of writes -/

/-- Successful writes lead from some settings to others, and all the settings that they
lead to on the way satisfy `P`. -/
inductive Leads (P : Settings → Prop) : Settings → Settings → Prop where
  | refl (s : Settings) : Leads P s s
  | step {s t u : Settings} {change : Change} (hbefore : Leads P s t)
      (hwrite : t.Writes change u) (hafter : P u) : Leads P s u

namespace Leads

variable {P : Settings → Prop} {s t u : Settings}

theorem single {change : Change} (h : s.Writes change t) (ht : P t) : Leads P s t :=
  .step (.refl s) h ht

theorem trans (hfirst : Leads P s t) (hsecond : Leads P t u) : Leads P s u := by
  induction hsecond with
  | refl => exact hfirst
  | step _ hwrite hafter ih => exact .step ih hwrite hafter

/-- A property of the first settings that `P` gives to all later ones holds at the end. -/
theorem last (h : Leads P s t) (hs : P s) : P t := by
  cases h with
  | refl => exact hs
  | step _ _ hafter => exact hafter

/-- What every write keeps holds after any sequence of writes. -/
theorem preserves {Q : Settings → Prop} (h : Leads P s t)
    (hwrites : ∀ {s t : Settings} {change : Change}, s.Writes change t → Q s → Q t) (hs : Q s) :
    Q t := by
  induction h with
  | refl => exact hs
  | step _ hwrite _ ih => exact hwrites hwrite ih

/-- No writes take a declaration back. -/
theorem isDeclared (h : Leads P s t) {name : Text} (hname : s.isDeclared name = true) :
    t.isDeclared name = true :=
  h.preserves (Q := fun s => s.isDeclared name = true) (fun hwrite => hwrite.isDeclared) hname

/-- No writes declare a name twice. -/
theorem nodup_names (h : Leads P s t) (hdistinct : s.entries.names.Nodup) :
    t.entries.names.Nodup :=
  h.preserves (Q := fun s => s.entries.names.Nodup) (fun hwrite => hwrite.nodup_names) hdistinct

/-- Writes that never take a setting below a depth leave its values up to there alone. -/
theorem lowest_eq {name : Text} {depth : Nat} (h : Leads (depth ≤ ·.depth name) s t)
    (hname : s.isDeclared name = true) (hs : depth ≤ s.depth name) :
    t.lowest name depth = s.lowest name depth := by
  induction h with
  | refl => rfl
  | step hbefore hwrite hafter ih =>
    have hdepth := hbefore.last hs
    rw [hwrite.lowest_eq (hbefore.isDeclared hname) hdepth hafter, ih]

end Leads

end Settings

end PlainPage
