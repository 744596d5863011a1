import PlainPage.Main
import PlainPage.Proofs.Typesetter.Inside
import PlainPage.Proofs.Typesetter.Sound
import PlainPage.Proofs.Typesetter.Refusal
import PlainPage.Proofs.Typesetter.Outline
import PlainPage.Proofs.Typesetter.Restoration
import PlainPage.Proofs.Settings.WellFormed
import PlainPage.Proofs.Settings.Stored
import PlainPage.Proofs.Typesetter.Loading
import PlainPage.Proofs.Filter.Standard
import PlainPage.Proofs.Typesetter.Brackets
import PlainPage.Proofs.Layout.Wrapping
import PlainPage.Proofs.Typesetter.Passages
import PlainPage.Proofs.Typesetter.Rectangle
import PlainPage.Proofs.Plugin.Acceptance
import PlainPage.Proofs.Plugin.History
import PlainPage.Proofs.Text.Case
import PlainPage.Proofs.Plugin.Invocation
import PlainPage.Proofs.Settings.Extension
import PlainPage.Proofs.Plugin.Conservation
import PlainPage.Proofs.Typesetter.Reading
import PlainPage.Proofs.File.Tree
import PlainPage.Proofs.Program
import PlainPage.Proofs.Layout.Reflow
import PlainPage.Proofs.Layout.Greedy
import PlainPage.Proofs.Layout.Emphasis
import PlainPage.Proofs.Typesetter.Reflow
import PlainPage.Proofs.File.Path
import PlainPage.Proofs.Config.Layering
import PlainPage.Proofs.Config.Gathering
import PlainPage.Proofs.Config.Discovery
import PlainPage.Proofs.Config.Nearest
import PlainPage.Proofs.Plugin.Independence
import PlainPage.Proofs.Plugin.Enabling
import PlainPage.Proofs.Typesetter.Underway
import PlainPage.Proofs.Settings.Spelling
import PlainPage.Proofs.Directive
import PlainPage.Proofs.Filter.Columns
import PlainPage.Proofs.Typesetter.Closing
import PlainPage.Proofs.Text.Trim
import PlainPage.Proofs.Text.Decimal
import PlainPage.Proofs.Plugin.Version
import PlainPage.Proofs.Filter.Reversal
import PlainPage.Proofs.Filter.Ruling
import PlainPage.Proofs.Typesetter.Verbatim
import PlainPage.Proofs.Typesetter.LineBreaks
import PlainPage.Proofs.Layout.Filling
