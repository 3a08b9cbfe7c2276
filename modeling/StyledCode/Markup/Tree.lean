/-!
# Highlighted code as a tree

What a tokenizer finds is a tree: texts, and spans with classes around them.

* `escape` : a text with its special characters as references
* `Node` : a text or a span
* `Node.html` : the tree as a tokenizer writes it
-/

namespace StyledCode.Markup

/-- A character as it stands in markup. -/
def escapeChar : Char → List Char
  | '&' => "&amp;".toList
  | '<' => "&lt;".toList
  | '>' => "&gt;".toList
  | '\x27' => "&apos;".toList
  | '"' => "&quot;".toList
  | c => [c]

/-- A text as it stands in markup. -/
def escape (text : String) : String := String.ofList (text.toList.flatMap escapeChar)

/-- A text, or a span with a class attribute around other nodes. -/
inductive Node
  | text (content : String)
  | span (classes : String) (children : List Node)
  deriving Repr

namespace Node

mutual

/-- A node as a tokenizer writes it. -/
def html : Node → String
  | text content => escape content
  | span classes children => "<span class=\"" ++ classes ++ "\">" ++ htmlList children ++ "</span>"

/-- Nodes as a tokenizer writes them, one after the other. -/
def htmlList : List Node → String
  | [] => ""
  | node :: nodes => node.html ++ htmlList nodes

end

end Node

end StyledCode.Markup
