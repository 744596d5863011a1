import PlainPage.Config.Basic
import PlainPage.Stream

/-!
# Starting a document from a configuration

A configuration fixes the defaults of the settings, which nothing can take away, the
plugins that may not be loaded, and the plugins to enable before the first line.

Main results:

- Definition `typesetDocument` sets a whole document under a configuration.
- Theorem `Typesetter.settings_ofConfig` says where the defaults come from.
-/

namespace PlainPage

namespace Typesetter

/-- A fresh typesetter with the defaults of a configuration, and no plugin enabled yet. -/
def ofConfig (c : Config) : Typesetter where
  settings := c.settings
  repertoire := { disabled := c.disabledPlugins }

/-- A fresh typesetter for a configuration, its plugins enabled. -/
def configured (c : Config) : Typesetter :=
  (ofConfig c).enableAll c.plugins

@[simp] theorem settings_ofConfig (c : Config) : (ofConfig c).settings = c.settings := rfl

@[simp] theorem depth_ofConfig (c : Config) : (ofConfig c).blocks.depth = 0 := rfl

@[simp] theorem paragraph_ofConfig (c : Config) : (ofConfig c).paragraph = none := rfl

end Typesetter

/-- Set a whole document under a configuration. -/
def typesetDocument (c : Config) (input : Bytes) : Except Failure Text :=
  (Typesetter.configured c).typeset input

end PlainPage
