import StyledCode.Reference.Names.Alphabets
import StyledCode.Reference.Names.Arrows
import StyledCode.Reference.Names.Latin
import StyledCode.Reference.Names.Letters
import StyledCode.Reference.Names.Operators
import StyledCode.Reference.Names.Shapes
import StyledCode.Reference.Names.Supplements

/-!
# Named references

* `namedCode?` : the character code that a name stands for
* `wholeBytes` : what is left of a code in a table of whole bytes
-/

namespace StyledCode.Reference

/-- Codes in ascending order, each with the names that stand for it. -/
def names : List (Nat × List String) :=
  Names.latin ++ Names.alphabets ++ Names.arrows ++ Names.operators ++ Names.shapes ++ Names.supplements ++
    Names.letters

/-- What is left of a code in a table of whole bytes: a code of three or five hexadecimal digits loses its last
digit, as two digits make a byte. -/
def wholeBytes (code : Nat) : Nat :=
  if (0x100 ≤ code ∧ code < 0x1000) ∨ 0x10000 ≤ code then code / 16 else code

/-- The character code that a name stands for, in whole bytes. -/
def namedCode? (name : String) : Option Nat :=
  (names.find? fun entry => entry.2.contains name).map fun entry => wholeBytes entry.1

end StyledCode.Reference
