import Homophone.Unicode.WhiteSpace

/-! Texts without the white space at their ends. -/

set_option autoImplicit false

namespace Homophone.Text

open Unicode (isWhiteSpace)

def trimStart (text : List Char) : List Char := text.dropWhile isWhiteSpace

def dropEndWhile (p : Char → Bool) : List Char → List Char
  | [] => []
  | c :: rest =>
    match dropEndWhile p rest with
    | [] => if p c then [] else [c]
    | kept => c :: kept

def trimEnd (text : List Char) : List Char := dropEndWhile isWhiteSpace text

def trim (text : List Char) : List Char := trimEnd (trimStart text)

theorem dropEndWhile_isPrefix (p : Char → Bool) (text : List Char) :
    dropEndWhile p text <+: text := by
  induction text with
  | nil => simp [dropEndWhile]
  | cons c rest ih =>
    rw [dropEndWhile]
    split
    · split <;> simp
    · next kept => simpa [kept] using ih

end Homophone.Text
