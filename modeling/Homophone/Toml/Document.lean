import Homophone.Toml.Value

/-! Documents while they are read: the finished tables and the one that is being filled. -/

set_option autoImplicit false

namespace Homophone.Toml

structure Document where
  root : Table := {}
  /-- The table that the next entries go to. -/
  current : Table := {}
  /-- Where the current table belongs, the top of the document being the empty path. -/
  path : List String := []
  /-- Whether the current table is the next element of an array of tables. -/
  isElement : Bool := false

namespace Document

def inParent (path : List String) (change : String → Table → Option Table) (root : Table) :
    Option Table :=
  match path.getLast? with
  | none => none
  | some key => Table.modifyAt false false (change key) path.dropLast root

def close (document : Document) : Option Document := do
  let ⟨root, current, path, isElement⟩ := document
  let value := Value.table false current.implicit current.dotted current.entries
  if path.isEmpty then return { root := current }
  let root ← inParent path (fun key parent => do
    let entries ← parent.entries.update key fun
      | some (.tables elements) => if isElement then some (.tables (elements ++ [value])) else none
      | some _ => none
      | none => some (if isElement then .tables [value] else value)
    return { parent with entries }) root
  return { root }

def insert (path : List String) (key : String) (value : Value) (document : Document) :
    Option Document := do
  return { document with current := ← document.current.insert false path key value }

def entriesAt : List String → Entries → Entries
  | [], entries => entries
  | key :: rest, entries =>
    match entries.lookup key with
    | some (.table _ _ _ inner) => entriesAt rest inner
    | some (.tables elements) =>
      match elements.getLast? with
      | some (.table _ _ _ inner) => entriesAt rest inner
      | _ => []
    | _ => []

/-- Begin the table of a header. A table that was only mentioned so far keeps what it has. -/
def openTable (path : List String) (document : Document) : Option Document := do
  let document ← document.close
  let root ← inParent path (fun key parent =>
    match parent.entries.lookup key with
    | none | some (.table false true false _) =>
      some { parent with entries := parent.entries.erase key }
    | some _ => none) document.root
  return { root, current := { entries := entriesAt path document.root.entries }, path }

def openElement (path : List String) (document : Document) : Option Document := do
  let document ← document.close
  let root ← inParent path (fun key parent =>
    match parent.entries.lookup key with
    | none | some (.tables _) => some parent
    | some _ => none) document.root
  return { root, path, isElement := true }

def finish (document : Document) : Option Entries := do
  return (← document.close).root.entries

end Document

end Homophone.Toml
