import Homophone.Unicode.Ranges

/-! How sets of characters look in UTF-8: the sequences of byte ranges that spell their members. -/

set_option autoImplicit false

namespace Homophone.Unicode

abbrev ByteRange := Nat × Nat

abbrev ByteSequence := List ByteRange

/-- The numbers from `first` to `last` in a byte with the bits of `mark` and as many continuation
bytes as given. The numbers whose first byte is in common with numbers outside are spelled apart. -/
def byteSequences (mark : Nat) : Nat → Nat → Nat → List ByteSequence
  | 0, first, last => [[(mark + first, mark + last)]]
  | count + 1, first, last =>
    let unit := Nat.pow 64 (count + 1)
    let under (low high first last : Nat) : List ByteSequence :=
      if low ≤ high then (byteSequences 0x80 count first last).map ((mark + low, mark + high) :: ·)
      else []
    let low := first / unit
    let high := last / unit
    if low = high then under low high (first % unit) (last % unit)
    else if first % unit = 0 then
      if last % unit = unit - 1 then under low high 0 (unit - 1)
      else under low (high - 1) 0 (unit - 1) ++ under high high 0 (last % unit)
    else
      let start := under low low (first % unit) (unit - 1)
      if last % unit = unit - 1 then start ++ under (low + 1) high 0 (unit - 1)
      else start ++ under (low + 1) (high - 1) 0 (unit - 1) ++ under high high 0 (last % unit)

/-- The characters of one length: their first and their last, the mark of their first byte and the
number of bytes that continue it. The surrogates lie between two of these. -/
structure EncodingForm where
  first : Nat
  last : Nat
  mark : Nat
  count : Nat

def encodingForms : List EncodingForm :=
  [⟨0, 0x7F, 0, 0⟩, ⟨0x80, 0x7FF, 0xC0, 1⟩, ⟨0x800, 0xD7FF, 0xE0, 2⟩, ⟨0xE000, 0xFFFF, 0xE0, 2⟩,
    ⟨0x10000, Ranges.limit, 0xF0, 3⟩]

def Ranges.byteSequences (set : Ranges) : List ByteSequence :=
  set.flatMap fun range => encodingForms.flatMap fun form =>
    let first := max range.1 form.first
    let last := min range.2 form.last
    if first ≤ last then Unicode.byteSequences form.mark form.count first last else []

/-- The sequences that begin alike, side by side: each first range with what follows it. -/
def followers : List ByteSequence → List (ByteRange × List ByteSequence)
  | [] => []
  | [] :: rest => followers rest
  | (range :: tail) :: rest =>
    match followers rest with
    | [] => [(range, [tail])]
    | (other, tails) :: groups =>
      if other = range then (range, tail :: tails) :: groups
      else (range, [tail]) :: (other, tails) :: groups

end Homophone.Unicode
