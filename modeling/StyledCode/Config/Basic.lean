import StyledCode.Font
import StyledCode.Numbering.Basic

/-!
# Configurations

* `Config` : what a highlighter is asked to do
-/

namespace StyledCode

/-- The theme that is used when nothing else is asked for. -/
def defaultTheme : String := "default"

/-- What a highlighter is asked to do. -/
structure Config where
  theme : String := defaultTheme
  /-- Whether the tokenizer's output is decoded here rather than by the host. -/
  fastRender : Bool := true
  /-- Whether the tokenizer goes on behind text it cannot understand. -/
  ignoreIllegals : Bool := false
  font : Option FontRequest := none
  numbering : Option Numbering := none
  deriving DecidableEq, Repr

end StyledCode
