/-!
# `LedgerSearch.Cli.Style`: emphasis on a terminal

A styled text stands between the codes that switch its style on and the one that resets all styles.
-/

set_option autoImplicit false

namespace LedgerSearch.Cli

/-- The emphasis that a text gets. -/
inductive Style
  | header
  | subheader
  /-- For what matters less. -/
  | dim
  | warning
  | error
deriving DecidableEq, Repr

namespace Style

/-- The codes that switch the style on. -/
def codes : Style → String
  | header => "\x1b[1m\x1b[36m"
  | subheader => "\x1b[1m"
  | dim => "\x1b[2m"
  | warning => "\x1b[33m"
  | error => "\x1b[31m"

/-- The code that resets all styles. -/
def reset : String := "\x1b[0m"

/-- The text in the style. -/
def apply (style : Style) (text : String) : String :=
  style.codes ++ text ++ reset

end Style

end LedgerSearch.Cli
