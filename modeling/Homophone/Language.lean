/-! Languages and ordered sets of them.

A set is iterated in the order in which its members were first inserted, and that is the order in
which the results of several languages are merged.
-/

set_option autoImplicit false

namespace Homophone

structure Language where
  name : String
  deriving DecidableEq, Repr

namespace Language

/-- The language assumed when nothing better is known. -/
def any : Language := ⟨"any"⟩

end Language

structure LanguageSet where
  members : List Language
  nodup : members.Nodup
  deriving DecidableEq

namespace LanguageSet

def empty : LanguageSet := ⟨[], List.nodup_nil⟩

instance : EmptyCollection LanguageSet := ⟨empty⟩
instance : Inhabited LanguageSet := ⟨empty⟩
instance : Membership Language LanguageSet := ⟨fun set language => language ∈ set.members⟩

instance (language : Language) (set : LanguageSet) : Decidable (language ∈ set) :=
  inferInstanceAs (Decidable (language ∈ set.members))

@[ext] theorem ext {first second : LanguageSet} (same : first.members = second.members) :
    first = second := by
  cases first
  cases second
  cases same
  rfl

def contains (set : LanguageSet) (language : Language) : Bool := language ∈ set

def insert (set : LanguageSet) (language : Language) : LanguageSet :=
  if absent : language ∈ set then set
  else ⟨set.members ++ [language], by
    refine List.nodup_append.2 ⟨set.nodup, by simp, fun member mem other last same => absent ?_⟩
    exact (List.mem_singleton.1 last) ▸ same ▸ mem⟩

def erase (set : LanguageSet) (language : Language) : LanguageSet :=
  ⟨set.members.filter (· ≠ language), set.nodup.filter _⟩

def insertAll (set : LanguageSet) (languages : List Language) : LanguageSet :=
  languages.foldl insert set

def eraseAll (set : LanguageSet) (languages : List Language) : LanguageSet :=
  languages.foldl erase set

def ofList (languages : List Language) : LanguageSet := empty.insertAll languages

def ofNames (names : List String) : LanguageSet := ofList (names.map Language.mk)

def any : LanguageSet := ofList [Language.any]

def size (set : LanguageSet) : Nat := set.members.length

def isEmpty (set : LanguageSet) : Bool := set.members.isEmpty

def isAny (set : LanguageSet) : Bool := set.members == [Language.any]

def render (set : LanguageSet) : String := "+".intercalate (set.members.map (·.name))

theorem members_insert (set : LanguageSet) (language : Language) :
    (set.insert language).members =
      if language ∈ set then set.members else set.members ++ [language] := by
  rw [insert]
  split <;> rfl

@[simp] theorem mem_insert {set : LanguageSet} {language other : Language} :
    other ∈ set.insert language ↔ other ∈ set ∨ other = language := by
  change other ∈ (set.insert language).members ↔ other ∈ set.members ∨ other = language
  rw [members_insert]
  split
  · next present =>
    constructor
    · exact Or.inl
    · rintro (mem | rfl)
      · exact mem
      · exact present
  · simp

@[simp] theorem mem_erase {set : LanguageSet} {language other : Language} :
    other ∈ set.erase language ↔ other ∈ set ∧ other ≠ language := by
  change other ∈ set.members.filter (· ≠ language) ↔ other ∈ set.members ∧ other ≠ language
  simp

@[simp] theorem mem_insertAll {set : LanguageSet} {languages : List Language} {other : Language} :
    other ∈ set.insertAll languages ↔ other ∈ set ∨ other ∈ languages := by
  induction languages generalizing set with
  | nil => simp [insertAll]
  | cons first rest ih =>
    change other ∈ (set.insert first).insertAll rest ↔ _
    rw [ih, mem_insert, List.mem_cons, or_assoc]

@[simp] theorem mem_ofList {languages : List Language} {language : Language} :
    language ∈ ofList languages ↔ language ∈ languages := by
  have unlisted : language ∉ empty := List.not_mem_nil
  rw [ofList, mem_insertAll]
  exact or_iff_right unlisted

@[simp] theorem mem_eraseAll {set : LanguageSet} {languages : List Language} {other : Language} :
    other ∈ set.eraseAll languages ↔ other ∈ set ∧ other ∉ languages := by
  induction languages generalizing set with
  | nil => simp [eraseAll]
  | cons first rest ih =>
    change other ∈ (set.erase first).eraseAll rest ↔ _
    rw [ih, mem_erase, List.mem_cons, not_or, and_assoc]

end LanguageSet

end Homophone
