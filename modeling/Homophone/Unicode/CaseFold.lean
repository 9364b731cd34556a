import Homophone.Unicode.CaseFoldTable
import Homophone.Unicode.Ranges

/-! Characters that are the same but for their case. -/

set_option autoImplicit false

namespace Homophone.Unicode

def caseFoldPairs : List (Nat × Nat) :=
  caseFoldRuns.flatMap fun run =>
    (List.range ((run.last - run.first) / run.step + 1)).map fun index =>
      (run.first + run.step * index, run.target + run.step * index)

namespace Ranges

/-- The set together with all characters that differ only in case from one in it. -/
def foldCase (set : Ranges) : Ranges :=
  let representatives := caseFoldPairs.filterMap fun (letter, representative) =>
    if set.containsPoint letter then some (representative, representative) else none
  let folded := set.union (ofList representatives)
  let letters := caseFoldPairs.filterMap fun (letter, representative) =>
    if folded.containsPoint representative then some (letter, letter) else none
  folded.union (ofList letters)

def foldAsciiCase (set : Ranges) : Ranges :=
  let shifted (first last : Char) (shift : Nat → Nat) : Ranges :=
    (set.inter (ofChars [(first, last)])).map fun range => (shift range.1, shift range.2)
  .unions [set, shifted 'A' 'Z' (· + 32), shifted 'a' 'z' (· - 32)]

end Ranges

end Homophone.Unicode
