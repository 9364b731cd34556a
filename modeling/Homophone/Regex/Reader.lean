import Homophone.Regex.Syntax
import Homophone.Unicode.Alphabetic
import Homophone.Unicode.Alphanumeric
import Homophone.Unicode.WhiteSpace

/-! From the text of a pattern to its tree.

Every reader takes the characters that are left and gives back what it read together with those
that are left then, or nothing if the pattern is malformed. In verbose mode blanks and comments
between the pieces of a pattern mean nothing.
-/

set_option autoImplicit false

namespace Homophone.Regex.Reader

def skipComments : Bool → List Char → List Char
  | _, [] => []
  | true, c :: rest => skipComments (c ≠ '\n') rest
  | false, c :: rest =>
    if Unicode.isWhiteSpace c then skipComments false rest
    else if c = '#' then skipComments true rest
    else c :: rest

def skip (verbose : Bool) (text : List Char) : List Char :=
  if verbose then skipComments false text else text

/-- The first character after blanks that is no blank, one number sign being taken for one. -/
def peekPast : Bool → List Char → Option Char
  | _, [] => none
  | hashSeen, c :: rest =>
    if Unicode.isWhiteSpace c then peekPast hashSeen rest
    else if c = '#' && !hashSeen then peekPast true rest
    else some c

/-- The character after the next one, as far as it decides whether a hyphen makes a range. -/
def peekSecond (verbose : Bool) : List Char → Option Char
  | [] => none
  | _ :: rest => if verbose then peekPast false rest <|> rest.head? else rest.head?

/-! ## Numbers -/

def digitValue? (c : Char) : Option Nat :=
  if c.isDigit then some (c.toNat - '0'.toNat) else none

def hexValue? (c : Char) : Option Nat :=
  if c.isDigit then some (c.toNat - '0'.toNat)
  else if 'a' ≤ c && c ≤ 'f' then some (c.toNat - 'a'.toNat + 10)
  else if 'A' ≤ c && c ≤ 'F' then some (c.toNat - 'A'.toNat + 10)
  else none

def countBound : Nat := 0x100000000

/-- A run of digits, each of them followed by blanks in verbose mode. `blank` is set while the
blanks after a digit are skipped, `comment` inside a comment. -/
def readDigits (verbose : Bool) : Bool → List Char → List Nat × List Char
  | _, [] => ([], [])
  | comment, c :: rest =>
    if comment then readDigits verbose (c ≠ '\n') rest
    else match digitValue? c with
      | some d =>
        let (digits, left) := readDigits verbose false rest
        (d :: digits, left)
      | none =>
        if verbose && Unicode.isWhiteSpace c then readDigits verbose false rest
        else if verbose && c = '#' then readDigits verbose true rest
        else ([], c :: rest)

def ofDigits (base : Nat) (digits : List Nat) : Nat :=
  digits.foldl (fun n d => base * n + d) 0

def readDecimal (verbose : Bool) (text : List Char) : Option Nat × List Char :=
  let (digits, rest) := readDigits verbose false (text.dropWhile Unicode.isWhiteSpace)
  let number := ofDigits 10 digits
  (if digits.isEmpty || countBound ≤ number then none else some number,
    skip verbose (rest.dropWhile Unicode.isWhiteSpace))

def charOfPoint? (n : Nat) : Option Char :=
  if h : n.isValidChar then some (Char.ofNatAux n h) else none

def readHexDigits (verbose : Bool) : Nat → List Char → Option (List Nat × List Char)
  | 0, text => some ([], text)
  | count + 1, text =>
    match text with
    | [] => none
    | c :: rest => do
      let d ← hexValue? c
      let (digits, left) ← readHexDigits verbose count (skip verbose rest)
      return (d :: digits, left)

def readHexBraced (verbose : Bool) : Nat → List Char → Option (List Nat × List Char)
  | 0, _ => none
  | fuel + 1, text =>
    match skip verbose text with
    | [] => none
    | '\x7d' :: rest => some ([], skip verbose rest)
    | c :: rest => do
      let d ← hexValue? c
      let (digits, left) ← readHexBraced verbose fuel rest
      return (d :: digits, left)

def readHex (verbose : Bool) (width : Nat) (isByte : Bool) (text : List Char) :
    Option (Literal × List Char) :=
  match skip verbose text with
  | [] => none
  | '\x7b' :: rest => do
    let (digits, left) ← readHexBraced verbose (rest.length + 1) rest
    if digits.isEmpty then none
    let c ← charOfPoint? (ofDigits 16 digits)
    return (⟨c, false⟩, left)
  | digits => do
    let (digits, left) ← readHexDigits verbose width digits
    let c ← charOfPoint? (ofDigits 16 digits)
    return (⟨c, isByte⟩, left)

/-! ## Escapes -/

def readBraced (verbose : Bool) : Nat → List Char → Option (List Char × List Char)
  | 0, _ => none
  | fuel + 1, text =>
    match skip verbose text with
    | [] => none
    | '\x7d' :: rest => some ([], rest)
    | c :: rest => do
      let (name, left) ← readBraced verbose fuel rest
      return (c :: name, left)

def cutAt? (separator : List Char) : List Char → Option (List Char × List Char)
  | [] => none
  | c :: rest =>
    if separator.isPrefixOf (c :: rest) then some ([], (c :: rest).drop separator.length)
    else (cutAt? separator rest).map fun (before, after) => (c :: before, after)

def queryOf (text : List Char) : PropertyQuery × Bool :=
  let valued (cut : List Char × List Char) : PropertyQuery :=
    .valued (String.ofList cut.1) (String.ofList cut.2)
  match cutAt? ['!', '='] text, cutAt? [':'] text <|> cutAt? ['='] text with
  | some cut, _ => (valued cut, true)
  | none, some cut => (valued cut, false)
  | none, none => (.named (String.ofList text), false)

def readProperty (verbose negated : Bool) (text : List Char) : Option (Primitive × List Char) :=
  match skip verbose text with
  | [] => none
  | '\x7b' :: rest => do
    let (name, left) ← readBraced verbose (rest.length + 1) rest
    let (query, otherwise) := queryOf name
    return (.property query (negated != otherwise), left)
  | '\\' :: _ => none
  | c :: rest => some (.property (.named (String.singleton c)) negated, skip verbose rest)

def isMeta (c : Char) : Bool := "\\.+*?()|[]\x7b\x7d^$#&-~".toList.contains c

def isEscapable (c : Char) : Bool :=
  isMeta c || (c.toNat < 0x80 && !c.isAlphanum && c ≠ '<' && c ≠ '>')

def isBoundaryNameChar (c : Char) : Bool := c.isAlpha || c = '-'

def readBoundaryName (verbose : Bool) : Nat → List Char → List Char × List Char
  | 0, text => ([], text)
  | _ + 1, [] => ([], [])
  | fuel + 1, c :: rest =>
    if isBoundaryNameChar c then
      let (name, left) := readBoundaryName verbose fuel (skip verbose rest)
      (c :: name, left)
    else ([], c :: rest)

/-- What follows `\b`: the name of a special boundary between braces, unless the braces hold a
count. -/
def readBoundary (verbose : Bool) (text : List Char) : Option (Assertion × List Char) :=
  match text with
  | '\x7b' :: rest =>
    match skip verbose rest with
    | [] => none
    | inner@(c :: _) =>
      if isBoundaryNameChar c then
        match readBoundaryName verbose (inner.length + 1) inner with
        | (name, '\x7d' :: left) =>
          match String.ofList name with
          | "start" => some (.wordStart, left)
          | "end" => some (.wordEnd, left)
          | "start-half" => some (.wordStartHalf, left)
          | "end-half" => some (.wordEndHalf, left)
          | _ => none
        | _ => none
      else some (.wordBoundary, text)
  | _ => some (.wordBoundary, text)

def readEscape (verbose : Bool) : List Char → Option (Primitive × List Char)
  | [] => none
  | c :: rest =>
    let plain (char : Char) : Option (Primitive × List Char) := some (.literal ⟨char, false⟩, rest)
    match c with
    | 'x' => (readHex verbose 2 true rest).map fun (literal, left) => (.literal literal, left)
    | 'u' => (readHex verbose 4 false rest).map fun (literal, left) => (.literal literal, left)
    | 'U' => (readHex verbose 8 false rest).map fun (literal, left) => (.literal literal, left)
    | 'p' => readProperty verbose false rest
    | 'P' => readProperty verbose true rest
    | 'd' => some (.shorthand .digit false, rest)
    | 'D' => some (.shorthand .digit true, rest)
    | 's' => some (.shorthand .space false, rest)
    | 'S' => some (.shorthand .space true, rest)
    | 'w' => some (.shorthand .word false, rest)
    | 'W' => some (.shorthand .word true, rest)
    | 'a' => plain '\x07'
    | 'f' => plain '\x0c'
    | 't' => plain '\t'
    | 'n' => plain '\n'
    | 'r' => plain '\r'
    | 'v' => plain '\x0b'
    | 'A' => some (.assertion .textStart, rest)
    | 'z' => some (.assertion .textEnd, rest)
    | 'b' => (readBoundary verbose rest).map fun (assertion, left) => (.assertion assertion, left)
    | 'B' => some (.assertion .notWordBoundary, rest)
    | '<' => some (.assertion .wordStart, rest)
    | '>' => some (.assertion .wordEnd, rest)
    | _ => if isEscapable c then plain c else none

/-! ## Classes -/

def namedRanges? (name : String) : Option (List (Char × Char)) :=
  match name with
  | "alnum" => some [('0', '9'), ('A', 'Z'), ('a', 'z')]
  | "alpha" => some [('A', 'Z'), ('a', 'z')]
  | "ascii" => some [('\x00', '\x7f')]
  | "blank" => some [('\t', '\t'), (' ', ' ')]
  | "cntrl" => some [('\x00', '\x1f'), ('\x7f', '\x7f')]
  | "digit" => some [('0', '9')]
  | "graph" => some [('!', '~')]
  | "lower" => some [('a', 'z')]
  | "print" => some [(' ', '~')]
  | "punct" => some [('!', '/'), (':', '@'), ('[', '\x60'), ('\x7b', '~')]
  | "space" => some [('\t', '\r'), (' ', ' ')]
  | "upper" => some [('A', 'Z')]
  | "word" => some [('0', '9'), ('A', 'Z'), ('_', '_'), ('a', 'z')]
  | "xdigit" => some [('0', '9'), ('A', 'F'), ('a', 'f')]
  | _ => none

def readNamed? : List Char → Option (ClassNode × List Char)
  | ':' :: rest =>
    let (negated, rest) := match rest with
      | '^' :: rest => (true, rest)
      | _ => (false, rest)
    match rest.dropWhile (· ≠ ':') with
    | ':' :: ']' :: left =>
      (namedRanges? (String.ofList (rest.takeWhile (· ≠ ':')))).map (.named · negated, left)
    | _ => none
  | _ => none

def readClassPrimitive (verbose : Bool) : List Char → Option (Primitive × List Char)
  | [] => none
  | '\\' :: rest => readEscape verbose rest
  | c :: rest => some (.literal ⟨c, false⟩, rest)

def itemOf? : Primitive → Option ClassNode
  | .literal literal => some (.literal literal)
  | .shorthand shorthand negated => some (.shorthand shorthand negated)
  | .property query negated => some (.property query negated)
  | .assertion _ | .dot => none

def boundOf? : Primitive → Option Literal
  | .literal literal => some literal
  | _ => none

def readRange (verbose : Bool) (text : List Char) : Option (ClassNode × List Char) := do
  let (first, rest) ← readClassPrimitive verbose text
  match skip verbose rest with
  | [] => none
  | '-' :: after =>
    match peekSecond verbose ('-' :: after) with
    | some ']' | some '-' => return (← itemOf? first, '-' :: after)
    | _ =>
      let (last, left) ← readClassPrimitive verbose (skip verbose after)
      let first ← boundOf? first
      let last ← boundOf? last
      if first.char ≤ last.char then some (.range first last, left) else none
  | rest => return (← itemOf? first, rest)

def readHyphens (verbose : Bool) : Nat → List Char → List ClassNode × List Char
  | fuel + 1, '-' :: rest =>
    let (items, left) := readHyphens verbose fuel (skip verbose rest)
    (.literal ⟨'-', false⟩ :: items, left)
  | _, text => ([], text)

/-- What follows an opening bracket: whether the class is negated, and the first members, which a
closing bracket can be only here. -/
def readClassHead (verbose : Bool) (text : List Char) : Bool × List ClassNode × List Char :=
  let (negated, rest) := match skip verbose text with
    | '^' :: rest => (true, skip verbose rest)
    | rest => (false, rest)
  match readHyphens verbose rest.length rest with
  | ([], ']' :: left) => (negated, [.literal ⟨']', false⟩], skip verbose left)
  | (items, left) => (negated, items, left)

def closeOperator (pending : Option (ClassOperator × ClassNode)) (items : List ClassNode) :
    ClassNode :=
  match pending with
  | some (operator, left) => .combined operator left (.ofItems items.reverse)
  | none => .ofItems items.reverse

/-- The rest of a class, up to and with its closing bracket. `items` are backwards. -/
def readClassItems (verbose : Bool) : Nat → List Char → Option (ClassOperator × ClassNode) →
    List ClassNode → Option (ClassNode × List Char)
  | 0, _, _, _ => none
  | fuel + 1, text, pending, items =>
    let operator (operator : ClassOperator) (rest : List Char) :=
      readClassItems verbose fuel rest (some (operator, closeOperator pending items)) []
    match skip verbose text with
    | [] => none
    | ']' :: rest => some (closeOperator pending items, rest)
    | '[' :: rest =>
      match readNamed? rest with
      | some (item, left) => readClassItems verbose fuel left pending (item :: items)
      | none => do
        let (negated, first, left) := readClassHead verbose rest
        let (inner, left) ← readClassItems verbose fuel left none first.reverse
        readClassItems verbose fuel left pending (.bracketed negated inner :: items)
    | '&' :: '&' :: rest => operator .intersection rest
    | '-' :: '-' :: rest => operator .difference rest
    | '~' :: '~' :: rest => operator .symmetricDifference rest
    | text => do
      let (item, left) ← readRange verbose text
      readClassItems verbose fuel left pending (item :: items)

/-- A class whose opening bracket has just been read. `fuel` is more than the number of characters
that are left. -/
def readClass (verbose : Bool) (fuel : Nat) (text : List Char) : Option (Node × List Char) := do
  let (negated, first, rest) := readClassHead verbose text
  let (inner, left) ← readClassItems verbose fuel rest none first.reverse
  return (.bracketed negated inner, left)

/-! ## Groups -/

def flagOf? : Char → Option Flag
  | 'i' => some .caseInsensitive
  | 'm' => some .multiLine
  | 's' => some .dotMatchesNewLine
  | 'U' => some .swapGreed
  | 'u' => some .unicode
  | 'R' => some .crlf
  | 'x' => some .verbose
  | _ => none

/-- Flags up to a colon or a closing parenthesis, which is given back. A flag is named once, a
hyphen stands once and before a flag. `seen` holds the flags so far; `on` is false after the
hyphen. -/
def readFlags : FlagChange → Bool → List Char → Option (FlagChange × Char × List Char)
  | _, _, [] => none
  | seen, on, c :: rest =>
    if c = ':' || c = ')' then some (seen, c, rest)
    else if c = '-' then
      if on then
        match rest with
        | ':' :: _ | ')' :: _ => none
        | _ => readFlags seen false rest
      else none
    else do
      let flag ← flagOf? c
      if (seen.state? flag).isSome then none
      readFlags (seen ++ [(flag, on)]) on rest

def isNameStart (c : Char) : Bool := c = '_' || Unicode.isAlphabetic c

def isNameChar (c : Char) : Bool :=
  c = '_' || c = '.' || c = '[' || c = ']' || Unicode.isAlphanumeric c

def readName (text : List Char) : Option (String × List Char) :=
  match text.takeWhile (· ≠ '>'), text.dropWhile (· ≠ '>') with
  | first :: others, '>' :: rest =>
    if isNameStart first && others.all isNameChar then some (String.ofList (first :: others), rest)
    else none
  | _, _ => none

structure State where
  rest : List Char
  verbose : Bool
  names : List String
  captured : Nat

inductive GroupHead where
  | flags (change : FlagChange)
  | group (number : Option Nat) (change : FlagChange)

/-- What follows an opening parenthesis. Look-around is not part of the notation. -/
def readGroupHead (state : State) (text : List Char) : Option (GroupHead × State) :=
  let number := state.captured + 1
  let named (rest : List Char) : Option (GroupHead × State) := do
    let (name, left) ← readName rest
    if state.names.contains name then none
    return (.group number [],
      { state with rest := left, names := name :: state.names, captured := number })
  match skip state.verbose text with
  | '?' :: '=' :: _ | '?' :: '!' :: _ | '?' :: '<' :: '=' :: _ | '?' :: '<' :: '!' :: _ => none
  | '?' :: 'P' :: '<' :: rest => named rest
  | '?' :: '<' :: rest => named rest
  | '?' :: rest => do
    let (change, closer, left) ← readFlags [] true rest
    if closer = ':' then return (.group none change, { state with rest := left })
    if change.isEmpty then none
    return (.flags change, { state with rest := left })
  | rest => some (.group number [], { state with rest, captured := number })

/-! ## Patterns -/

def readCounts (verbose : Bool) (text : List Char) : Option ((Nat × Option Nat) × List Char) :=
  let text := skip verbose text
  if text.isEmpty then none
  else match readDecimal verbose text with
    | (some least, ',' :: rest) =>
      match skip verbose rest with
      | '\x7d' :: left => some ((least, none), left)
      | rest =>
        match readDecimal verbose rest with
        | (some most, '\x7d' :: left) =>
          if least ≤ most then some ((least, some most), left) else none
        | _ => none
    | (some count, '\x7d' :: left) => some ((count, some count), left)
    | _ => none

/-- Drop the question mark that makes a repetition lazy: what a pattern matches does not depend
on it. -/
def dropLazy : List Char → List Char
  | '?' :: rest => rest
  | text => text

/-- Repeat the last item, unless there is none or it only sets flags. -/
def repeatLast? (least : Nat) (most : Option Nat) : List Node → Option (List Node)
  | [] | .flags _ :: _ => none
  | last :: items => some (.repeated last least most :: items)

def readPrimitive (verbose : Bool) : List Char → Option (Primitive × List Char)
  | [] => none
  | '\\' :: rest => readEscape verbose rest
  | '.' :: rest => some (.dot, rest)
  | '^' :: rest => some (.assertion .lineStart, rest)
  | '$' :: rest => some (.assertion .lineEnd, rest)
  | c :: rest => some (.literal ⟨c, false⟩, rest)

/-- The items since the last bar, as the last of the branches. Both lists are backwards. -/
def close (branches items : List Node) : Node :=
  .ofBranches (Node.ofItems items.reverse :: branches).reverse

def readItems : Nat → State → List Node → List Node → Option (Node × State)
  | 0, _, _, _ => none
  | fuel + 1, state, branches, items =>
    let onward (rest : List Char) (items : List Node) :=
      readItems fuel { state with rest } branches items
    match skip state.verbose state.rest with
    | [] => some (close branches items, { state with rest := [] })
    | ')' :: rest => some (close branches items, { state with rest := ')' :: rest })
    | '|' :: rest =>
      readItems fuel { state with rest } (Node.ofItems items.reverse :: branches) []
    | '(' :: rest => do
      let (head, inside) ← readGroupHead state rest
      match head with
      | .flags change =>
        let verbose := (change.state? .verbose).getD state.verbose
        readItems fuel { inside with verbose } branches (.flags change :: items)
      | .group number change =>
        let verbose := (change.state? .verbose).getD state.verbose
        let (inner, after) ← readItems fuel { inside with verbose } [] []
        match after.rest with
        | ')' :: rest =>
          readItems fuel { after with rest, verbose := state.verbose } branches
            (.group number change inner :: items)
        | _ => none
    | '[' :: rest => do
      let (node, left) ← readClass state.verbose fuel rest
      onward left (node :: items)
    | '?' :: rest => do onward (dropLazy rest) (← repeatLast? 0 (some 1) items)
    | '*' :: rest => do onward (dropLazy rest) (← repeatLast? 0 none items)
    | '+' :: rest => do onward (dropLazy rest) (← repeatLast? 1 none items)
    | '\x7b' :: rest => do
      let ((least, most), left) ← readCounts state.verbose rest
      onward (dropLazy (skip state.verbose left)) (← repeatLast? least most items)
    | rest => do
      let (primitive, left) ← readPrimitive state.verbose rest
      onward left (.primitive primitive :: items)

def depthLimit : Nat := 250

def read (pattern : List Char) : Option Node := do
  let (node, state) ← readItems (pattern.length + 1) ⟨pattern, false, [], 0⟩ [] []
  if state.rest.isEmpty && node.depth ≤ depthLimit then some node else none

end Homophone.Regex.Reader
