import Homophone.Regex.Basic

/-! The shape of an expression: what an automaton for it is built from.

Characters that follow each other are one literal, sequences and alternatives are not nested in
their like, and alternatives that begin alike are taken apart behind their common beginning.
-/

set_option autoImplicit false

namespace Homophone.Regex

open Unicode (Ranges)

inductive Shape where
  | empty
  | literal (text : List Char)
  | oneOf (set : Ranges)
  | look (look : Look)
  | repeated (shape : Shape) (least : Nat) (most : Option Nat)
  | captured (number : Nat) (shape : Shape)
  | sequence (parts : List Shape)
  | either (branches : List Shape)

namespace Shape

mutual

def same : Shape → Shape → Bool
  | empty, empty => true
  | literal text, literal text' => text = text'
  | oneOf set, oneOf set' => set = set'
  | look condition, look condition' => condition = condition'
  | repeated shape least most, repeated shape' least' most' =>
    least = least' && most = most' && shape.same shape'
  | captured number shape, captured number' shape' => number = number' && shape.same shape'
  | sequence parts, sequence parts' => sameAll parts parts'
  | either branches, either branches' => sameAll branches branches'
  | _, _ => false

def sameAll : List Shape → List Shape → Bool
  | [], [] => true
  | shape :: rest, shape' :: rest' => shape.same shape' && sameAll rest rest'
  | _, _ => false

end

mutual

def isNull : Shape → Bool
  | empty | look _ => true
  | literal text => text.isEmpty
  | oneOf _ => false
  | repeated shape _ most => shape.isNull && most.isSome
  | captured _ shape => shape.isNull
  | sequence parts => areNull parts
  | either branches => areNull branches

def areNull : List Shape → Bool
  | [] => true
  | shape :: rest => shape.isNull && areNull rest

end

mutual

/-- Whether every match of a shape reads something. This stays open where a part never matches. -/
def reads? : Shape → Option Bool
  | empty | look _ => some false
  | literal text => some !text.isEmpty
  | oneOf set => if set.isEmpty then none else some true
  | repeated shape least _ => shape.reads?.map (least ≠ 0 && ·)
  | captured _ shape => shape.reads?
  | sequence parts => oneReads? parts
  | either branches => allRead? branches

def oneReads? : List Shape → Option Bool
  | [] => some false
  | shape :: rest => return (← shape.reads?) || (← oneReads? rest)

def allRead? : List Shape → Option Bool
  | [] => some true
  | shape :: rest => return (← shape.reads?) && (← allRead? rest)

end

/-! ## Building shapes -/

def ofSet (set : Ranges) : Shape :=
  match set with
  | [(first, last)] => if first = last then literal [Char.ofNat first] else oneOf set
  | _ => oneOf set

def ofRepeated (shape : Shape) (least : Nat) (most : Option Nat) : Shape :=
  -- Going through the empty text once is as good as any number of times.
  let least := if shape.isNull then min least 1 else least
  let most := if shape.isNull then some (min (most.getD 1) 1) else most
  if least = 0 && most = some 0 then empty
  else if least = 1 && most = some 1 then shape
  else repeated shape least most

def ofGroup (number : Option Nat) (shape : Shape) : Shape :=
  match number with
  | some number => captured number shape
  | none => shape

def parts : Shape → List Shape
  | empty => []
  | sequence parts => parts
  | shape => [shape]

/-- Put a shape before others, as one literal with the first of them if both are literals. -/
def prepend : Shape → List Shape → List Shape
  | literal text, literal later :: rest => literal (text ++ later) :: rest
  | shape, rest => shape :: rest

def ofParts (shapes : List Shape) : Shape :=
  match (shapes.flatMap parts).foldr prepend [] with
  | [] => empty
  | [shape] => shape
  | shapes => sequence shapes

def branches : Shape → List Shape
  | either branches => branches
  | shape => [shape]

def singles? (shapes : List Shape) : Option Ranges :=
  (shapes.mapM fun
    | literal [c] => some (c.toNat, c.toNat)
    | _ => none).map .ofList

def sets? (shapes : List Shape) : Option Ranges :=
  (shapes.mapM fun
    | oneOf set => some set
    | _ => none).map Ranges.unions

def ofDistinct : List Shape → Shape
  | [shape] => shape
  | shapes =>
    match singles? shapes <|> sets? shapes with
    | some set => ofSet set
    | none => either shapes

def commonStart : List Shape → List Shape → List Shape
  | shape :: rest, shape' :: rest' =>
    if shape.same shape' then shape :: commonStart rest rest' else []
  | _, _ => []

def sequenceParts : Shape → List Shape
  | sequence parts => parts
  | _ => []

/-- Alternatives, the beginning that they have in common put before them. Looking for it once is
enough: what is left of alternatives does not begin alike. -/
def ofBranches (shapes : List Shape) : Shape :=
  let shapes := shapes.flatMap branches
  let start := match shapes.map sequenceParts with
    | first :: second :: rest => (second :: rest).foldl commonStart first
    | _ => []
  if start.isEmpty then ofDistinct shapes
  else
    let rest := shapes.map fun shape => ofParts (shape.sequenceParts.drop start.length)
    ofParts (start ++ [ofDistinct (rest.flatMap branches)])

end Shape

/-! ## The shape of an expression -/

/-- How an expression is taken: by itself, as a part of a sequence or as one of many branches. -/
inductive Role where
  | whole
  | part
  | branch

/-- The shapes that an expression contributes before others. A sequence that is a part of another
one contributes its parts, and alternatives that are a branch of others their branches. -/
def shapes : Regex → Role → List Shape → List Shape
  | .empty, _, later => .empty :: later
  | .char set, _, later => .ofSet set :: later
  | .look condition, _, later => .look condition :: later
  | .sequence left right, role, later =>
    match role with
    | .part => shapes left .part (shapes right .whole later)
    | _ => .ofParts (shapes left .part (shapes right .whole [])) :: later
  | .either left right, role, later =>
    match role with
    | .branch => shapes left .branch (shapes right .whole later)
    | _ => .ofBranches (shapes left .branch (shapes right .whole [])) :: later
  | .repeated regex least most, _, later =>
    (shapes regex .whole []).map (·.ofRepeated least most) ++ later
  | .group number regex, _, later => (shapes regex .whole []).map (Shape.ofGroup number) ++ later

def shape (regex : Regex) : Shape := .ofParts (regex.shapes .part [])

end Homophone.Regex
