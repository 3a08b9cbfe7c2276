import StyledCode.Markup.Tree

/-!
# Tokenizers

A tokenizer writes a piece of code as markup.  Here it is a function of the code, of the language it is told, and of
whether it goes on behind text it cannot understand.

* `Tokenizer` : the languages of a tokenizer, and what it answers
* `Tokenizer.checked` : its answer, with the signal for no output as a failure
* `Tokenizer.canned` : the tokenizer with prepared answers
-/

namespace StyledCode

/-- Why a tokenizer has no answer. -/
inductive TokenizeError
  | unsupportedLanguage (language : String)
  | failed (message : String)
  deriving DecidableEq, Repr

def TokenizeError.message : TokenizeError → String
  | unsupportedLanguage language => "unsupported language: " ++ language
  | failed message => "tokenizer failed: " ++ message

/-- The languages of a tokenizer, and what it answers for a piece of code, a language or the wish to detect it, and
the wish to go on behind text it cannot understand. -/
structure Tokenizer where
  languages : List String
  tokenize : String → Option String → Bool → Except TokenizeError String

namespace Tokenizer

/-- The output by which a tokenizer says that it has none. -/
def noOutput : String := "undefined"

/-- The answer of a tokenizer, with the signal for no output as a failure. -/
def checked (tokenizer : Tokenizer) (code : String) (language : Option String) (ignoreIllegals : Bool) :
    Except TokenizeError String := do
  let html ← tokenizer.tokenize code language ignoreIllegals
  if html = noOutput then .error (.failed ("no output for language " ++ language.getD "(auto)")) else .ok html

/-- The tokenizer whose input is markup already. -/
def identity : Tokenizer := ⟨[], fun html _ _ => .ok html⟩

/-- Prepared answers of a tokenizer. -/
structure Script where
  languages : List String := []
  /-- The markup for a piece of code; later entries replace earlier ones. -/
  outputs : List (String × String) := []
  /-- The codes that fail although the language is known, with a message. -/
  failures : List (String × String) := []
  deriving DecidableEq, Repr

/-- The tokenizer with prepared answers.  It refuses languages it does not know, and escapes code for which nothing
is prepared. -/
def canned (script : Script) : Tokenizer where
  languages := script.languages
  tokenize code language _ :=
    match language.filter fun language => !script.languages.contains language with
    | some language => .error (.unsupportedLanguage language)
    | none =>
      match script.failures.lookup code with
      | some message => .error (.failed message)
      | none => .ok ((script.outputs.reverse.lookup code).getD (Markup.escape code))

end Tokenizer

end StyledCode
