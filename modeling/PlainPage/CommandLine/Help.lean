import PlainPage.Text.Basic

/-!
# Help and version pages

What the program says about itself.

Main results:

- Definitions `versionPage` and `helpPage` are the two pages.
-/

namespace PlainPage

/-- The page with the version of the program. -/
def versionPage : Text :=
  "lowtex 0.1.0\n".toList

/-- The lines of the help page. -/
def helpLines : List String :=
  ["Create fancy plain-text files from lightweight markup",
   "",
   "Usage: lowtex [OPTIONS] [INPUT]",
   "",
   "Arguments:",
   "  [INPUT]  Document to convert (\x60-\x60 or omitted: stdin)",
   "",
   "Options:",
   "  -o, --output <FILE>  Write output to FILE instead of stdout",
   "  -c, --config <FILE>  Path to configuration file (overrides auto-discovery)",
   "  -w, --width <NUM>    Page width in characters [default: 80]",
   "      --align <ALIGN>  Default alignment [default: left] [possible values: left, right, center]",
   "      --indent         Indent the first line of every paragraph",
   "      --no-indent      Do not indent paragraphs, even if a config file asks for it",
   "  -p, --plugin <ID>    Enable a built-in plugin before reading input (can be repeated)",
   "  -D, --debug          Enable debug output (scope changes, settings, plugin loading)",
   "  -v, --version        Print version",
   "  -h, --help           Print help"]

/-- The help page. -/
def helpPage : Text :=
  helpLines.flatMap fun line => line.toList ++ ['\n']

end PlainPage
