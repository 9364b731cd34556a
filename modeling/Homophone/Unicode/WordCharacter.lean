import Homophone.Unicode.DerivedProperty

/-! The characters of a word in the sense of pattern matching. -/

set_option autoImplicit false

namespace Homophone.Unicode

/-- Code points that are Alphabetic, a mark, a decimal digit, a connector or a join control. -/
def wordCharacter : Ranges :=
  .unions [Property.alphabetic, Category.mark, Category.decimalNumber,
    Category.connectorPunctuation, Property.joinControl]

def isWordCharacter (c : Char) : Bool := wordCharacter.contains c

end Homophone.Unicode
