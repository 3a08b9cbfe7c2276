import StyledCode.Markup.Scopes
import StyledCode.Markup.Token
import StyledCode.Reference.Expand

/-!
# Markup to runs

* `Markup.rawRuns` : the runs of a list of tokens, with their references as written
* `Markup.decode` : the runs of a tokenizer's output
* `Markup.document` : a tokenizer's output in a document of its own
-/

namespace StyledCode.Markup

/-- The open scopes after a token. -/
def Scopes.after (scopes : Scopes) : Token → Scopes
  | .opening classes => scopes.push (String.ofList classes)
  | .unfinished classes => scopes.push (String.ofList classes)
  | .closing => scopes.pop
  | .text _ => scopes
  | .bracket => scopes

/-- What a token shows: text stands for itself, tags for nothing. -/
def Token.shown : Token → List Char
  | .text characters => characters
  | .bracket => ['<']
  | .opening _ => []
  | .closing => []
  | .unfinished _ => []

/-- The runs of tokens, put behind those already found in reverse. -/
def rawRunsFrom (done : List Run) (scopes : Scopes) : List Token → List Run
  | [] => done.reverse
  | token :: tokens =>
    let shown := token.shown
    let done := if shown.isEmpty then done else ⟨String.ofList shown, scopes.style⟩ :: done
    rawRunsFrom done (scopes.after token) tokens

/-- The runs of tokens, one for each text and each lone `<`, with their references as written. -/
def rawRuns (theme : Theme) (tokens : List Token) : List Run :=
  rawRunsFrom [] (Scopes.initial theme) tokens

/-- The runs of a tokenizer's output.  It never fails: tags without a partner and classes the theme does not know
do nothing, and what is not markup is text. -/
def decode (theme : Theme) (html : String) : List Run :=
  Reference.expand (rawRuns theme (Token.scan html.toList))

/-- A tokenizer's output in a document of its own, with the stylesheet of a theme. -/
def document (theme : Theme) (html : String) : String :=
  "<style>" ++ theme.css ++ "</style><pre><code class=\"hljs\">" ++ html ++ "</code></pre>"

end StyledCode.Markup
