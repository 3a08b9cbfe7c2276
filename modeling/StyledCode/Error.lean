import StyledCode.Files
import StyledCode.Font
import StyledCode.Tokenizer

/-!
# What can go wrong

* `Error` : the causes of a failure
* `Error.message` : their wording
-/

namespace StyledCode

/-- Why highlighting fails. -/
inductive Error
  | unsupportedLanguage (language : String)
  /-- The tokenizer failed or had no output. -/
  | tokenizer (language message : String)
  /-- No source has a theme of this name. -/
  | unknownTheme (name : String)
  | fontUnavailable (cause : FontUnavailable)
  /-- The host is to decode the output, but has not said how. -/
  | rendererUnavailable
  | renderFailed
  /-- A text is no configuration. -/
  | configuration
  | unreadable (cause : ReadError)
  deriving DecidableEq, Repr

namespace Error

/-- The wording of a failure; for a configuration it ends where the cause would follow. -/
def message : Error → String
  | unsupportedLanguage language => "unsupported language: " ++ language
  | tokenizer language message => "tokenizer error for " ++ language ++ ": " ++ message
  | unknownTheme name => "unknown theme: " ++ name
  | fontUnavailable cause => cause.message
  | rendererUnavailable => "no HTML renderer configured; enable fast rendering or call with_renderer"
  | renderFailed => "HTML renderer produced no output"
  | configuration => "invalid configuration: "
  | unreadable cause => cause.message

/-- The failure of a tokenizer that was told a language, or to detect it. -/
def ofTokenize (language : Option String) : TokenizeError → Error
  | .unsupportedLanguage refused => unsupportedLanguage refused
  | .failed message => tokenizer (language.getD "auto") message

end Error

end StyledCode
