/-! TOML values, and tables as they grow while a document is read.

A table may be written in several places, but not in any two ways at once. So it is kept how a
table came about: in passing, under a longer name, or by dotted keys.
-/

set_option autoImplicit false

namespace Homophone.Toml

inductive Value where
  | string (text : String)
  | integer (value : Int)
  | boolean (value : Bool)
  /-- A number that is no integer. -/
  | float
  | dateTime
  | array (items : List Value)
  /-- A table. It is `implicit` if it was only mentioned in a longer name, and `dotted` if that name
  was a dotted key. `inline` tables are complete as they stand. -/
  | table (inline implicit dotted : Bool) (entries : List (String × Value))
  /-- An array of tables whose elements have headers of their own. -/
  | tables (elements : List Value)

abbrev Entries := List (String × Value)

namespace Entries

def update (key : String) (change : Option Value → Option Value) : Entries → Option Entries
  | [] => (change none).map fun value => [(key, value)]
  | (other, value) :: rest =>
    if other = key then (change (some value)).map fun value => (key, value) :: rest
    else (update key change rest).map ((other, value) :: ·)

def insertNew (key : String) (value : Value) (entries : Entries) : Option Entries :=
  entries.update key fun
    | none => some value
    | some _ => none

def erase (key : String) (entries : Entries) : Entries := entries.filter (·.1 ≠ key)

end Entries

structure Table where
  implicit : Bool := false
  dotted : Bool := false
  entries : Entries := []

namespace Table

/-- Change the table at the end of a path, each step of which is a table or the last element of an
array of tables. Missing tables are added. Dotted keys lead only through tables that were never
given in full, and inside an `inline` table only through inline ones. -/
def modifyAt (inline dotted : Bool) (change : Table → Option Table) :
    List String → Table → Option Table
  | [], table => change table
  | key :: rest, table => do
    let enter (inlined implicit isDotted : Bool) (entries : Entries) : Option Value :=
      if inlined ≠ inline || (dotted && !implicit) then none
      else (modifyAt inline dotted change rest ⟨implicit, isDotted, entries⟩).map fun inner =>
        .table inlined inner.implicit inner.dotted inner.entries
    let entries ← table.entries.update key fun
      | none => enter inline true dotted []
      | some (.table inlined implicit isDotted entries) => enter inlined implicit isDotted entries
      | some (.tables elements) =>
        match elements.reverse with
        | .table _ implicit isDotted entries :: before => do
          let inner ← modifyAt inline dotted change rest ⟨implicit, isDotted, entries⟩
          let last := Value.table false inner.implicit inner.dotted inner.entries
          return .tables (last :: before).reverse
        | _ => none
      | some _ => none
    return { table with entries }

def insert (inline : Bool) (path : List String) (key : String) (value : Value) (table : Table) :
    Option Table :=
  modifyAt inline (!path.isEmpty) (fun inner =>
    -- A dotted key adds only to tables that dotted keys made.
    if inner.dotted = path.isEmpty then none
    else (inner.entries.insertNew key value).map fun entries => { inner with entries }) path table

end Table

end Homophone.Toml
