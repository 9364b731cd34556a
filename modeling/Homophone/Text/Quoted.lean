import Homophone.Unicode.Escaped

/-! Texts between double quotes, as messages show them.

Quotes, backslashes and the usual control characters are escaped by name, and every character that
leaves no mark of its own by its number.
-/

set_option autoImplicit false

namespace Homophone.Text

def hexDigits (n : Nat) : List Char := Nat.toDigits 16 n

def quotedChar (c : Char) : List Char :=
  if c = '"' then ['\\', '"']
  else if c = '\\' then ['\\', '\\']
  else if c = '\n' then ['\\', 'n']
  else if c = '\r' then ['\\', 'r']
  else if c = '\t' then ['\\', 't']
  else if c = '\x00' then ['\\', '0']
  else if Unicode.isEscaped c then '\\' :: 'u' :: '\x7b' :: hexDigits c.toNat ++ ['\x7d']
  else [c]

def quote (text : List Char) : List Char := '"' :: text.flatMap quotedChar ++ ['"']

def quoted (text : String) : String := String.ofList (quote text.toList)

end Homophone.Text
