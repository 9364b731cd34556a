import Homophone.Text.Pieces

/-! Files and directories by path.

A relative path leads from the place that a tree calls its start; an absolute one starts with a
slash and leads from the root, which is a place of its own.
-/

set_option autoImplicit false

namespace Homophone

inductive FileContent where
  | text (text : String)
  | bytes (bytes : ByteArray)
  | directory

inductive ReadProblem where
  | isDirectory
  | notDirectory
  | notText
  deriving DecidableEq, Repr

def ReadProblem.message : ReadProblem → String
  | isDirectory => "Is a directory (os error 21)"
  | notDirectory => "Not a directory (os error 20)"
  | notText => "stream did not contain valid UTF-8"

inductive Reading where
  | text (text : String)
  | missing
  | failed (problem : ReadProblem)
  deriving DecidableEq, Repr

namespace Path

def parts (path : String) : List String :=
  (Text.pieces (· == '/') path.toList).map String.ofList

def isAbsolute (path : String) : Bool := path.toList.head? = some '/'

def join (directory path : String) : String :=
  if isAbsolute path || directory.isEmpty then path
  else if directory.toList.getLast? = some '/' then directory ++ path
  else directory ++ "/" ++ path

/-- Drop empty parts and dots from the end of a path given backwards, but not its first part. -/
def dropBlank : List String → List String
  | [] => []
  | [first] => [first]
  | part :: rest => if part = "" || part = "." then dropBlank rest else part :: rest

def parent? (path : String) : Option String :=
  if path.isEmpty then none
  else match dropBlank (parts path).reverse with
    | [] => none
    | [single] => if single = "" then none else some ""
    | _ :: above =>
      match dropBlank above with
      | [""] => some "/"
      | above => some ("/".intercalate above.reverse)

structure IsName (name : String) : Prop where
  noSlash : '/' ∉ name.toList
  nonempty : name ≠ ""
  notHere : name ≠ "."
  notAbove : name ≠ ".."

theorem exists_parts_join {name : String} (named : IsName name) (directory : String) :
    ∃ above, parts (join directory name) = above ++ [name] := by
  have whole : Text.pieces (· == '/') name.toList = [name.toList] :=
    Text.pieces_of_forall fun c member => beq_eq_false_iff_ne.2 fun same =>
      named.noSlash (same ▸ member)
  have relative : isAbsolute name = false := by
    rw [isAbsolute, decide_eq_false_iff_not]
    exact fun head => named.noSlash (List.mem_of_mem_head? head)
  have last : ∀ above : List Char, parts (String.ofList (above ++ '/' :: name.toList)) =
      (Text.pieces (· == '/') above).map String.ofList ++ [name] := by
    intro above
    rw [parts, String.toList_ofList, Text.pieces_append_cons (p := (· == '/')) rfl, whole,
      List.map_append, List.map_singleton, String.ofList_toList]
  rw [join, relative, Bool.false_or]
  split
  · exact ⟨[], by rw [parts, whole, List.map_singleton, String.ofList_toList, List.nil_append]⟩
  · split
    · next slash =>
      obtain ⟨above, ended⟩ := List.getLast?_eq_some_iff.1 slash
      have text : directory ++ name = String.ofList (above ++ '/' :: name.toList) := by
        rw [← String.toList_inj]
        simp [ended]
      exact ⟨_, text ▸ last above⟩
    · have text : directory ++ "/" ++ name =
          String.ofList (directory.toList ++ '/' :: name.toList) := by
        rw [← String.toList_inj]
        simp
      exact ⟨_, text ▸ last directory.toList⟩

end Path

/-- A place is the list of the names on the way to it, for an absolute one after the root. -/
abbrev Place := List String

namespace Place

def root : Place := ["/"]

/-- The place around a place. Around the root lies the root itself. -/
def outer (place : Place) : Place := if place = root then root else place.dropLast

def step (place : Place) (part : String) : Place :=
  if part = "" || part = "." then place
  else if part = ".." then place.outer
  else place ++ [part]

def origin (start : Place) (path : String) : Place := if Path.isAbsolute path then root else start

def reach (start : Place) (path : String) : Place :=
  (Path.parts path).foldl step (origin start path)

end Place

/-- What stands where. Directories with something in them need no entry of their own. -/
structure FileTree where
  entries : List (Place × FileContent)
  /-- Where relative paths lead from. -/
  start : Place := []

namespace FileTree

def ofPaths (start : Place) (files : List (String × FileContent)) : FileTree :=
  ⟨files.map fun (path, content) => (start.reach path, content), start⟩

def find? (tree : FileTree) (place : Place) : Option FileContent :=
  match tree.entries.lookup place with
  | some content => some content
  | none =>
    if place.isEmpty || tree.entries.any fun (other, _) => place.isPrefixOf other then
      some .directory
    else none

def contentOf : FileContent → Reading
  | .text text => .text text
  | .bytes bytes =>
    match String.fromUTF8? bytes with
    | some text => .text text
    | none => .failed .notText
  | .directory => .failed .isDirectory

/-- Follow the parts of a path from a place, which must be a directory as long as parts are left. -/
def follow (tree : FileTree) : Place → List String → Reading
  | place, [] =>
    match tree.find? place with
    | some content => contentOf content
    | none => .missing
  | place, part :: rest =>
    match tree.find? place with
    | some .directory =>
      -- What lies around the start of a tree without a root is not known.
      if part = ".." && place.isEmpty then .missing else tree.follow (place.step part) rest
    | some _ => .failed .notDirectory
    | none => .missing

def read (tree : FileTree) (path : String) : Reading :=
  if path.isEmpty then .missing
  else tree.follow (tree.start.origin path) (Path.parts path)

theorem mem_entries_of_find? {tree : FileTree} {place : Place} {content : FileContent}
    {text : String} (found : tree.find? place = some content)
    (readable : contentOf content = .text text) : (place, content) ∈ tree.entries := by
  rw [find?] at found
  split at found
  · next stored known =>
    cases found
    obtain ⟨before, after, entries, _⟩ := List.lookup_eq_some_iff.1 known
    rw [entries]
    exact List.mem_append_right before List.mem_cons_self
  · split at found
    · cases found
      cases readable
    · cases found

/-- What is read stands where the path leads. -/
theorem exists_find?_of_follow {tree : FileTree} {place : Place} {parts : List String}
    {text : String} (found : tree.follow place parts = .text text) :
    ∃ content, tree.find? (parts.foldl Place.step place) = some content ∧
      contentOf content = .text text := by
  induction parts generalizing place with
  | nil =>
    rw [follow] at found
    split at found
    · next content stored => exact ⟨content, stored, found⟩
    · cases found
  | cons part rest ih =>
    rw [follow] at found
    split at found
    · split at found
      · cases found
      · exact ih found
    · cases found
    · cases found

theorem exists_find?_of_read {tree : FileTree} {path text : String}
    (found : tree.read path = .text text) :
    ∃ content, tree.find? (tree.start.reach path) = some content ∧
      contentOf content = .text text := by
  rw [read] at found
  split at found
  · cases found
  · exact exists_find?_of_follow found

theorem exists_entry_of_read {tree : FileTree} {directory name text : String}
    (named : Path.IsName name) (found : tree.read (Path.join directory name) = .text text) :
    ∃ entry ∈ tree.entries, entry.1.getLast? = some name := by
  obtain ⟨content, stored, readable⟩ := exists_find?_of_read found
  obtain ⟨above, parts⟩ := Path.exists_parts_join named directory
  have inside : ∀ place : Place, place.step name = place ++ [name] := fun place => by
    simp [Place.step, named.nonempty, named.notHere, named.notAbove]
  refine ⟨_, mem_entries_of_find? stored readable, ?_⟩
  rw [Place.reach, parts, List.foldl_append, List.foldl_cons, List.foldl_nil, inside,
    List.getLast?_concat]

end FileTree

end Homophone
