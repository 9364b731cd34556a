import Homophone.Toml.Document

/-! From the text of a TOML document to its entries.

Every reader takes the characters that are left and gives back what it read together with those
that are left then, or nothing if the text is malformed.
-/

set_option autoImplicit false

namespace Homophone.Toml.Reader

/-! ## Blanks and comments -/

def isBlank (c : Char) : Bool := c = ' ' || c = '\t'

def skipBlanks (text : List Char) : List Char := text.dropWhile isBlank

def isText (c : Char) : Bool := c = '\t' || (' ' ≤ c && c ≠ '\x7f')

def lineEnd? : List Char → Option (List Char)
  | [] => some []
  | '\n' :: rest => some rest
  | '\r' :: '\n' :: rest => some rest
  | _ => none

def newline? : List Char → Option (List Char)
  | [] => none
  | text => lineEnd? text

def skipComment : List Char → List Char
  | '#' :: rest => rest.dropWhile isText
  | text => text

def endOfLine? (text : List Char) : Option (List Char) := lineEnd? (skipComment (skipBlanks text))

def skipLines : Nat → List Char → List Char
  | 0, text => text
  | fuel + 1, text =>
    let text := skipBlanks text
    match text with
    | '#' :: rest =>
      match newline? (rest.dropWhile isText) with
      | some rest => skipLines fuel rest
      | none => text
    | _ =>
      match newline? text with
      | some rest => skipLines fuel rest
      | none => text

/-! ## Strings -/

def hexValue? (c : Char) : Option Nat :=
  if c.isDigit then some (c.toNat - '0'.toNat)
  else if 'a' ≤ c && c ≤ 'f' then some (c.toNat - 'a'.toNat + 10)
  else if 'A' ≤ c && c ≤ 'F' then some (c.toNat - 'A'.toNat + 10)
  else none

def readPoint (width : Nat) (text : List Char) : Option (Char × List Char) := do
  let digits ← (text.take width).mapM hexValue?
  if digits.length < width then none
  let n := digits.foldl (fun n d => 16 * n + d) 0
  if h : n.isValidChar then some (Char.ofNatAux n h, text.drop width) else none

def readEscape : List Char → Option (Char × List Char)
  | 'b' :: rest => some ('\x08', rest)
  | 't' :: rest => some ('\t', rest)
  | 'n' :: rest => some ('\n', rest)
  | 'f' :: rest => some ('\x0c', rest)
  | 'r' :: rest => some ('\r', rest)
  | '"' :: rest => some ('"', rest)
  | '\\' :: rest => some ('\\', rest)
  | 'u' :: rest => readPoint 4 rest
  | 'U' :: rest => readPoint 8 rest
  | _ => none

def readBasic : Nat → List Char → Option (List Char × List Char)
  | 0, _ | _, [] => none
  | fuel + 1, c :: rest =>
    if c = '"' then some ([], rest)
    else if c = '\\' then do
      let (escaped, rest) ← readEscape rest
      let (text, left) ← readBasic fuel rest
      return (escaped :: text, left)
    else if isText c then do
      let (text, left) ← readBasic fuel rest
      return (c :: text, left)
    else none

def readLiteral (text : List Char) : Option (List Char × List Char) :=
  match text.dropWhile fun c => isText c && c ≠ '\'' with
  | '\'' :: left => some (text.takeWhile fun c => isText c && c ≠ '\'', left)
  | _ => none

/-- The quotes at the start of a text that belong to the string before it, and what follows the
string, if three more quotes end it there. -/
def closing? (quote : Char) (text : List Char) : Option (List Char × List Char) :=
  let count := min (text.takeWhile (· = quote)).length 5
  if count < 3 then none else some (List.replicate (count - 3) quote, text.drop count)

def skipSpace : List Char → List Char
  | '\r' :: '\n' :: rest => skipSpace rest
  | c :: rest => if isBlank c || c = '\n' then skipSpace rest else c :: rest
  | [] => []

def continuation? (text : List Char) : Option (List Char) :=
  (newline? (skipBlanks text)).map skipSpace

/-- A string of several lines after its opening quotes. In one between double quotes a backslash
escapes, or joins lines. -/
def readLong (quote : Char) (escapes : Bool) : Nat → List Char → Option (List Char × List Char)
  | 0, _ | _, [] => none
  | fuel + 1, c :: rest =>
    let more (read : List Char) (rest : List Char) : Option (List Char × List Char) := do
      let (text, left) ← readLong quote escapes fuel rest
      return (read ++ text, left)
    if c = quote then
      match closing? quote (c :: rest) with
      | some (tail, left) => some (tail, left)
      | none => more [c] rest
    else if escapes && c = '\\' then
      match continuation? rest with
      | some rest => more [] rest
      | none => do
        let (escaped, rest) ← readEscape rest
        more [escaped] rest
    else if isText c then more [c] rest
    else do more ['\n'] (← newline? (c :: rest))

def dropNewline (text : List Char) : List Char := (newline? text).getD text

def readString? : List Char → Option (List Char × List Char)
  | '"' :: '"' :: '"' :: rest => readLong '"' true (rest.length + 1) (dropNewline rest)
  | '\'' :: '\'' :: '\'' :: rest => readLong '\'' false (rest.length + 1) (dropNewline rest)
  | '"' :: rest => readBasic (rest.length + 1) rest
  | '\'' :: rest => readLiteral rest
  | _ => none

/-! ## Keys -/

/-- Keys have fewer parts than this, and values are nested less deep. -/
def depthLimit : Nat := 80

def isBareKeyChar (c : Char) : Bool := c.isAlphanum || c = '_' || c = '-'

def readSimpleKey (text : List Char) : Option (String × List Char) := do
  let (key, left) ←
    match text with
    | '"' :: rest => readBasic (rest.length + 1) rest
    | '\'' :: rest => readLiteral rest
    | _ =>
      let key := text.takeWhile isBareKeyChar
      if key.isEmpty then none else some (key, text.drop key.length)
  return (String.ofList key, skipBlanks left)

def readKeyParts : Nat → List Char → Option (List String × List Char)
  | 0, _ => none
  | fuel + 1, text => do
    let (first, left) ← readSimpleKey (skipBlanks text)
    match left with
    | '.' :: rest =>
      let (parts, left) ← readKeyParts fuel rest
      return (first :: parts, left)
    | _ => return ([first], left)

def readKey (text : List Char) : Option ((List String × String) × List Char) := do
  let (parts, left) ← readKeyParts (text.length + 1) text
  if depthLimit ≤ parts.length then none
  return ((parts.dropLast, ← parts.getLast?), left)

/-! ## Numbers and dates -/

/-- A digit, then digits, each of which an underscore may precede. The underscores are left out. -/
def readDigitRun (isDigit : Char → Bool) : List Char → List Char × List Char
  | [] => ([], [])
  | '_' :: c :: rest =>
    if isDigit c then
      let (digits, left) := readDigitRun isDigit rest
      (c :: digits, left)
    else ([], '_' :: c :: rest)
  | c :: rest =>
    if isDigit c then
      let (digits, left) := readDigitRun isDigit rest
      (c :: digits, left)
    else ([], c :: rest)

def readDigits? (isDigit : Char → Bool) : List Char → Option (List Char × List Char)
  | c :: rest => if isDigit c then some (readDigitRun isDigit (c :: rest)) else none
  | [] => none

def readSign : List Char → Bool × List Char
  | '-' :: rest => (true, rest)
  | '+' :: rest => (false, rest)
  | text => (false, text)

def readDecimal? (text : List Char) : Option ((Bool × List Char) × List Char) :=
  let (negative, text) := readSign text
  match text with
  | '0' :: rest => some ((negative, ['0']), rest)
  | _ => (readDigits? Char.isDigit text).map fun (digits, left) => ((negative, digits), left)

def ofDigits (base : Nat) (digits : List Char) : Nat :=
  digits.foldl (fun n c => base * n + (hexValue? c).getD 0) 0

def integerBound : Int := 0x8000000000000000

def integer? (value : Int) : Option Value :=
  if -integerBound ≤ value && value < integerBound then some (.integer value) else none

def readInteger (text : List Char) : Option (Value × List Char) :=
  let based (base : Nat) (isDigit : Char → Bool) (rest : List Char) :
      Option (Value × List Char) := do
    let (digits, left) ← readDigits? isDigit rest
    return (← integer? (ofDigits base digits), left)
  match text with
  | '0' :: 'x' :: rest => based 16 (fun c => (hexValue? c).isSome) rest
  | '0' :: 'o' :: rest => based 8 (fun c => '0' ≤ c && c ≤ '7') rest
  | '0' :: 'b' :: rest => based 2 (fun c => c = '0' || c = '1') rest
  | _ => do
    let ((negative, digits), left) ← readDecimal? text
    let value : Int := ofDigits 10 digits
    return (← integer? (if negative then -value else value), left)

def isTooLarge (mantissa : Nat) (exponent : Int) : Bool :=
  let magnitude := (Nat.toDigits 10 mantissa).length + exponent
  let bound := Nat.pow 2 1024 - Nat.pow 2 970
  -- The digits alone settle all but the numbers near the bound.
  if mantissa = 0 || magnitude < 309 then false
  else if 309 < magnitude then true
  else if exponent < 0 then bound * Nat.pow 10 exponent.natAbs ≤ mantissa
  else bound ≤ mantissa * Nat.pow 10 exponent.natAbs

/-- The digits behind the point and the value of the exponent, at least one of which is there. -/
def readFraction? (text : List Char) : Option ((List Char × Int) × List Char) := do
  let exponent? (text : List Char) : Option (Int × List Char) :=
    match text with
    | c :: rest =>
      if c = 'e' || c = 'E' then
        let (negative, rest) := readSign rest
        (readDigits? Char.isDigit rest).map fun (digits, left) =>
          let value : Int := ofDigits 10 digits
          (if negative then -value else value, left)
      else none
    | [] => none
  match text with
  | '.' :: rest =>
    let (digits, left) ← readDigits? Char.isDigit rest
    match exponent? left with
    | some (exponent, left) => return ((digits, exponent), left)
    | none => return ((digits, 0), left)
  | _ =>
    let (exponent, left) ← exponent? text
    return (([], exponent), left)

/-- A number with a fraction or an exponent, or one of the special numbers. A number below all
doubles stands for the negative infinity, one beyond them is refused. -/
def readFloat (text : List Char) : Option (Value × List Char) :=
  match (readSign text).2 with
  | 'i' :: 'n' :: 'f' :: left | 'n' :: 'a' :: 'n' :: left => some (.float, left)
  | _ => do
    let ((negative, whole), left) ← readDecimal? text
    let ((fraction, exponent), left) ← readFraction? left
    if !negative && isTooLarge (ofDigits 10 (whole ++ fraction)) (exponent - fraction.length) then
      none
    return (.float, left)

def readPart (width least most : Nat) (text : List Char) : Option (Nat × List Char) :=
  let digits := text.take width
  let n := ofDigits 10 digits
  if digits.length = width && digits.all Char.isDigit && least ≤ n && n ≤ most then
    some (n, text.drop width)
  else none

def expect? (c : Char) : List Char → Option (List Char)
  | first :: rest => if first = c then some rest else none
  | [] => none

def daysOfMonth (year month : Nat) : Nat :=
  if month = 2 then
    if year % 4 = 0 && (year % 100 ≠ 0 || year % 400 = 0) then 29 else 28
  else if month = 4 || month = 6 || month = 9 || month = 11 then 30
  else 31

def date? (text : List Char) : Option (List Char) := do
  let (year, rest) ← readPart 4 0 9999 text
  let (month, rest) ← readPart 2 1 12 (← expect? '-' rest)
  let (_, rest) ← readPart 2 1 (daysOfMonth year month) (← expect? '-' rest)
  return rest

def time? (text : List Char) : Option (List Char) := do
  let (_, rest) ← readPart 2 0 23 text
  let (_, rest) ← readPart 2 0 59 (← expect? ':' rest)
  let (_, rest) ← readPart 2 0 60 (← expect? ':' rest)
  match rest with
  | '.' :: c :: fraction =>
    if c.isDigit then return fraction.dropWhile Char.isDigit else return rest
  | _ => return rest

def offset? : List Char → Option (List Char)
  | 'Z' :: rest | 'z' :: rest => some rest
  | '+' :: rest | '-' :: rest => do
    let (_, rest) ← readPart 2 0 23 rest
    let (_, rest) ← readPart 2 0 59 (← expect? ':' rest)
    return rest
  | _ => none

def readDateTime (text : List Char) : Option (Value × List Char) :=
  match date? text with
  | none => (time? text).map (.dateTime, ·)
  | some rest =>
    let withTime := match rest with
      | c :: rest => if c = 'T' || c = 't' || c = ' ' then time? rest else none
      | [] => none
    match withTime with
    | none => some (.dateTime, rest)
    | some rest => some (.dateTime, (offset? rest).getD rest)

/-! ## Values -/

def word? (word text : List Char) : Option (List Char) :=
  if word.isPrefixOf text then some (text.drop word.length) else none

mutual

/-- A value in `depth` others. `fuel` is more than the number of characters that are left. -/
def readValue : Nat → Nat → List Char → Option (Value × List Char)
  | 0, _, _ => none
  | fuel + 1, depth, text =>
    match text with
    | [] => none
    | '[' :: rest => if depth + 1 < depthLimit then readItems fuel (depth + 1) [] rest else none
    | '\x7b' :: rest =>
      if depth + 1 < depthLimit then
        match skipBlanks rest with
        | '\x7d' :: left => some (.table true false false [], left)
        | rest => readPairs fuel (depth + 1) {} rest
      else none
    | c :: _ =>
      if c = '"' || c = '\'' then
        (readString? text).map fun (string, left) => (.string (String.ofList string), left)
      else if c = 't' then (word? "true".toList text).map (.boolean true, ·)
      else if c = 'f' then (word? "false".toList text).map (.boolean false, ·)
      else readDateTime text <|> readFloat text <|> readInteger text

def readItems : Nat → Nat → List Value → List Char → Option (Value × List Char)
  | 0, _, _, _ => none
  | fuel + 1, depth, items, text =>
    match skipLines (text.length + 1) text with
    | ']' :: left => some (.array items.reverse, left)
    | text => do
      let (item, left) ← readValue fuel depth text
      match skipLines (left.length + 1) left with
      | ',' :: left => readItems fuel depth (item :: items) left
      | ']' :: left => some (.array (item :: items).reverse, left)
      | _ => none

def readPairs : Nat → Nat → Table → List Char → Option (Value × List Char)
  | 0, _, _, _ => none
  | fuel + 1, depth, table, text => do
    let ((path, key), left) ← readKey text
    let (value, left) ← readValue fuel depth (skipBlanks (← expect? '=' left))
    let table ← table.insert true path key value
    match skipBlanks left with
    | ',' :: left => readPairs fuel depth table left
    | '\x7d' :: left => some (.table true false false table.entries, left)
    | _ => none

end

/-! ## Documents -/

def readHeader (text : List Char) : Option (List String × List Char) := do
  let ((path, key), left) ← readKey text
  return (path ++ [key], ← expect? ']' left)

def readLines : Nat → Document → List Char → Option Entries
  | 0, _, _ => none
  | fuel + 1, document, text =>
    match skipBlanks text with
    | [] => document.finish
    | '[' :: '[' :: rest => do
      let (path, left) ← readHeader rest
      readLines fuel (← document.openElement path) (← endOfLine? (← expect? ']' left))
    | '[' :: rest => do
      let (path, left) ← readHeader rest
      readLines fuel (← document.openTable path) (← endOfLine? left)
    | text =>
      match endOfLine? text with
      | some rest => readLines fuel document rest
      | none => do
        let ((path, key), left) ← readKey text
        let (value, left) ← readValue (left.length + 1) 0 (skipBlanks (← expect? '=' left))
        readLines fuel (← document.insert path key value) (← endOfLine? left)

def read (text : List Char) : Option Entries :=
  let text := match text with
    | '\ufeff' :: rest => rest
    | _ => text
  readLines (text.length + 1) {} text

end Homophone.Toml.Reader
