import Homophone.Text.Trim
import Homophone.Unicode.Composition
import Homophone.Unicode.LowerCase

/-! The form of a name in which it is compared. -/

set_option autoImplicit false

namespace Homophone.Text

def normalize (text : List Char) : List Char :=
  trim (Unicode.lowerCase (Unicode.compose text))

end Homophone.Text
