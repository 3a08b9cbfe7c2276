import StyledCode.Config.Document
import StyledCode.Error

/-!
# Configurations in files

* `Config.load` : the configuration in a text that may have failed to be read
-/

namespace StyledCode

/-- The configuration in a text that may have failed to be read. -/
def Config.load (text : Except ReadError String) : Except Error Config :=
  match text with
  | .error e => .error (.unreadable e)
  | .ok text => (Config.ofText? text).elim (.error .configuration) .ok

end StyledCode
