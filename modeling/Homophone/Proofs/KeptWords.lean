import Homophone.Proofs.NameEncoding
import Homophone.Proofs.PrefixChoice

/-! The words of names that are not generic.

No prefix is split off such a name. Of its words, for a Sephardic name what follows the last apostrophe
of each, those without a letter or a number are left out, and then those that are prefixes. What is
left is encoded. If nothing is, the name is encoded as if there were no prefixes.
-/

set_option autoImplicit false

namespace Homophone.Encoder

/-! ## What counts of a word -/

theorem afterApostrophe_append {head tail : List Char} (free : '\'' ∉ tail)
    (follows : head = [] ∨ head.getLast? = some '\'') : afterApostrophe (head ++ tail) = tail := by
  have all : ∀ c ∈ tail.reverse, decide (c ≠ '\'') = true := by
    intro c member
    rw [decide_eq_true_eq]
    rintro rfl
    exact free (List.mem_reverse.1 member)
  rw [afterApostrophe, List.reverse_append, List.takeWhile_append_of_pos all]
  rcases follows with rfl | ends
  · simp
  · obtain ⟨before, rfl⟩ := List.getLast?_eq_some_iff.1 ends
    simp

/-- What of a word is encoded: for Sephardic names, what follows its last apostrophe. -/
def cutWord (encoder : Encoder) (word : List Char) : List Char :=
  if encoder.settings.nameType = .sephardic then afterApostrophe word else word

def cutWords (encoder : Encoder) (name : List Char) : List (List Char) :=
  (Text.pieces (· == ' ') (encoder.normalize name)).map encoder.cutWord

def isLettered (word : List Char) : Bool := word.any Unicode.isAlphanumeric

def letteredWords (encoder : Encoder) (name : List Char) : List (List Char) :=
  (encoder.cutWords name).filter isLettered

/-- The words of a name that have a letter or a number and are not prefixes. -/
def properWords (encoder : Encoder) (name : List Char) : List (List Char) :=
  (encoder.cutWords name).filter fun word =>
    isLettered word && !encoder.prefixes.contains (String.ofList word)

theorem properWords_eq (encoder : Encoder) (name : List Char) :
    encoder.properWords name =
      (encoder.letteredWords name).filter fun word =>
        !encoder.prefixes.contains (String.ofList word) := by
  rw [properWords, letteredWords, List.filter_filter]
  simp only [Bool.and_comm]

/-! ## What is encoded -/

section

variable {encoder : Encoder} (special : encoder.settings.nameType ≠ .generic)

include special

theorem words_normalize (name : List Char) :
    encoder.words (encoder.normalize name) =
      (if encoder.properWords name = [] then encoder.letteredWords name
        else encoder.properWords name).map String.ofList := by
  have all : encoder.allWords (encoder.normalize name) =
      (encoder.letteredWords name).map String.ofList := rfl
  have kept : (encoder.allWords (encoder.normalize name)).filter (!encoder.prefixes.contains ·) =
      (encoder.properWords name).map String.ofList := by
    rw [all, List.filter_map, properWords_eq]
    rfl
  rw [words]
  dsimp only
  rw [if_neg special, kept, all, apply_ite (List.map String.ofList)]
  simp only [List.isEmpty_iff, List.map_eq_nil_iff]

theorem encodeName_of_special (explicit : Option LanguageSet) (name : String) :
    encoder.encodeName explicit name =
      encoder.encodeWords explicit ((if encoder.properWords name.toList = [] then
        encoder.letteredWords name.toList else encoder.properWords name.toList).map
          String.ofList) := by
  have unsplit : encoder.Unsplit name := fun generic => absurd generic special
  rw [encodeName_of_unsplit unsplit, nameWords, words_normalize special]

end

/-- Two names have the same encoding if they have the same words once those without a letter or a
number and those that are prefixes are left out, and some words are left. A name of which none is left
is encoded with all its words that have a letter or a number, as it is without prefixes. -/
theorem encodeName_of_properWords {table : RuleTable} {settings : Settings} {encoder : Encoder}
    (built : new table settings = .ok encoder) (special : settings.nameType ≠ .generic)
    (explicit : Option LanguageSet) :
    (∀ name other : String, encoder.properWords name.toList = encoder.properWords other.toList →
      encoder.properWords name.toList ≠ [] →
        encoder.encodeName explicit name = encoder.encodeName explicit other) ∧
    ∀ name : String, encoder.properWords name.toList = [] →
      encoder.encodeName explicit name =
        encoder.encodeWords explicit ((encoder.letteredWords name.toList).map String.ofList) ∧
      encoder.encodeName explicit name =
        (encoder.withPrefixes fun _ => []).encodeName explicit name := by
  obtain ⟨rfl, rfl, _⟩ := of_new built
  constructor
  · intro name other same proper
    rw [encodeName_of_special special, encodeName_of_special special, ← same, if_neg proper,
      if_neg proper]
  · intro name improper
    have whole : encoder.encodeName explicit name =
        encoder.encodeWords explicit ((encoder.letteredWords name.toList).map String.ofList) := by
      rw [encodeName_of_special special, if_pos improper]
    refine ⟨whole, ?_⟩
    have special' : (encoder.withPrefixes fun _ => []).settings.nameType ≠ .generic := special
    -- Without prefixes all words with a letter or a number are left.
    have left : (encoder.withPrefixes fun _ => []).properWords name.toList =
        encoder.letteredWords name.toList := by
      rw [properWords_eq]
      exact List.filter_eq_self.2 fun _ _ => rfl
    have lettered : (encoder.withPrefixes fun _ => []).letteredWords name.toList =
        encoder.letteredWords name.toList := rfl
    rw [whole, encodeName_of_special special', left, lettered, ite_self, encodeWords_withPrefixes]

def sephardicSet : RuleSet where
  sephardic := {
    languages := [.any]
    primary := [(.any, .ofList [])]
    approx := some (.ofList []) }

theorem encodeName_of_properWords_sephardic :
    ∃ encoder, new sephardicSet.toTable { nameType := .sephardic, concat := false } = .ok encoder ∧
      encoder.properWords "El D'Angelo ''' Cid".toList = ["angelo".toList, "cid".toList] ∧
      encoder.properWords "angelo da l'Al--Cid".toList = ["angelo".toList, "cid".toList] ∧
      encoder.encodeName none "El D'Angelo ''' Cid" = "angelo-cid" ∧
      encoder.encodeName none "angelo da l'Al--Cid" = "angelo-cid" ∧
      encoder.properWords "El D'Al '''".toList = [] ∧
      encoder.encodeName none "El D'Al '''" = "el-al" := by
  obtain ⟨encoder, built, seen⟩ := exists_of_new (fun encoder =>
      (["El D'Angelo ''' Cid", "angelo da l'Al--Cid", "El D'Al '''"].map fun name =>
          encoder.properWords name.toList,
        encoder.encode "angelo da l'Al--Cid",
        encoder.encodeWords none ((encoder.letteredWords "El D'Al '''".toList).map String.ofList)))
    (show (new sephardicSet.toTable { nameType := .sephardic, concat := false }).toOption.map _ =
        some ([["angelo".toList, "cid".toList], ["angelo".toList, "cid".toList], []],
          "angelo-cid", "el-al") by
      decide +kernel)
  simp only [List.map_cons, List.map_nil, Prod.mk.injEq, List.cons.injEq, and_true] at seen
  obtain ⟨⟨first, second, third⟩, encoding, all⟩ := seen
  obtain ⟨alike, whole⟩ := encodeName_of_properWords built (by decide) .none
  have same := alike _ _ (first.trans second.symm) (by rw [first]; simp)
  exact ⟨encoder, built, first, second, same.trans encoding, encoding, third,
    (whole _ third).1.trans all⟩

end Homophone.Encoder
