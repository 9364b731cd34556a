/-! Maps from characters to characters, given as runs that keep their distance. -/

set_option autoImplicit false

namespace Homophone.Unicode

/-- The code points `first`, `first + step`, … up to `last`, sent to `target`, `target + step`, … -/
structure CaseRun where
  first : Nat
  last : Nat
  step : Nat
  target : Nat

abbrev CaseRuns := List CaseRun

namespace CaseRun

def image? (run : CaseRun) (n : Nat) : Option Nat :=
  if run.first ≤ n && n ≤ run.last && (n - run.first) % run.step == 0 then
    some (n - run.first + run.target)
  else none

end CaseRun

namespace CaseRuns

def image? (n : Nat) : CaseRuns → Option Nat
  | [] => none
  | run :: rest =>
    if n < run.first then none else if n ≤ run.last then run.image? n else image? n rest

def map (runs : CaseRuns) (c : Char) : Char := ((image? c.toNat runs).map Char.ofNat).getD c

end CaseRuns

end Homophone.Unicode
