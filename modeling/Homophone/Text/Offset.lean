/-! Positions in a text, counted in the bytes of its UTF-8 form. -/

set_option autoImplicit false

namespace Homophone.Text

def byteLength : List Char → Nat
  | [] => 0
  | c :: rest => c.utf8Size + byteLength rest

@[simp] theorem byteLength_append (first second : List Char) :
    byteLength (first ++ second) = byteLength first + byteLength second := by
  induction first with
  | nil => simp [byteLength]
  | cons c rest ih => simp [byteLength, ih, Nat.add_assoc]

theorem byteLength_eq_zero_iff {text : List Char} : byteLength text = 0 ↔ text = [] := by
  cases text with
  | nil => simp [byteLength]
  | cons c rest =>
    have positive := c.utf8Size_pos
    simp [byteLength]
    omega

/-- Cut a text `offset` bytes in, unless that is beyond its end or inside a character. -/
def splitAtByte? (offset : Nat) : List Char → Option (List Char × List Char)
  | [] => if offset = 0 then some ([], []) else none
  | c :: rest =>
    if offset = 0 then some ([], c :: rest)
    else if offset < c.utf8Size then none
    else (splitAtByte? (offset - c.utf8Size) rest).map fun (before, after) => (c :: before, after)

theorem splitAtByte?_eq_some_iff {offset : Nat} {text before after : List Char} :
    splitAtByte? offset text = some (before, after) ↔
      text = before ++ after ∧ byteLength before = offset := by
  induction text generalizing offset before with
  | nil =>
    rw [splitAtByte?]
    split
    · next start =>
      constructor
      · intro same
        cases same
        exact ⟨rfl, by simp [byteLength, start]⟩
      · rintro ⟨parts, _⟩
        obtain ⟨rfl, rfl⟩ := List.append_eq_nil_iff.1 parts.symm
        rfl
    · next beyond =>
      constructor
      · simp
      · rintro ⟨parts, length⟩
        obtain ⟨rfl, rfl⟩ := List.append_eq_nil_iff.1 parts.symm
        exact absurd (by simpa [byteLength] using length.symm) beyond
  | cons c rest ih =>
    have positive := c.utf8Size_pos
    rw [splitAtByte?]
    split
    · next start =>
      constructor
      · intro same
        cases same
        exact ⟨rfl, by simp [byteLength, start]⟩
      · rintro ⟨parts, length⟩
        cases before with
        | nil => simp_all
        | cons first before =>
          obtain ⟨rfl, rfl⟩ := List.cons.inj parts
          simp [byteLength] at length
          omega
    · next start =>
      split
      · next inside =>
        constructor
        · simp
        · rintro ⟨parts, length⟩
          cases before with
          | nil => simp [byteLength] at length; omega
          | cons first before =>
            obtain ⟨rfl, rfl⟩ := List.cons.inj parts
            simp [byteLength] at length
            omega
      · next fits =>
        cases before with
        | nil =>
          simp [byteLength]
          omega
        | cons first before =>
          simp only [Option.map_eq_some_iff, Prod.exists, Prod.mk.injEq, List.cons.injEq,
            List.cons_append]
          constructor
          · rintro ⟨before', after', found, ⟨rfl, rfl⟩, rfl⟩
            obtain ⟨rfl, length⟩ := ih.1 found
            exact ⟨⟨rfl, rfl⟩, by simp [byteLength] at length ⊢; omega⟩
          · rintro ⟨⟨rfl, rfl⟩, length⟩
            have length : byteLength before = offset - c.utf8Size := by
              simp only [byteLength] at length
              omega
            exact ⟨before, after, ih.2 ⟨rfl, length⟩, ⟨rfl, rfl⟩, rfl⟩

def IsBoundary (text : List Char) (offset : Nat) : Prop :=
  ∃ before after, text = before ++ after ∧ byteLength before = offset

theorem isBoundary_zero (text : List Char) : IsBoundary text 0 := ⟨[], text, rfl, rfl⟩

def charAtByte? (offset : Nat) (text : List Char) : Option Char :=
  match splitAtByte? offset text with
  | some (_, c :: _) => some c
  | _ => none

theorem charAtByte?_eq_some_iff {offset : Nat} {text : List Char} {c : Char} :
    charAtByte? offset text = some c ↔
      ∃ before after, text = before ++ c :: after ∧ byteLength before = offset := by
  rw [charAtByte?]
  constructor
  · intro found
    split at found
    · next before first after cut =>
      cases found
      exact ⟨before, after, splitAtByte?_eq_some_iff.1 cut⟩
    · cases found
  · rintro ⟨before, after, parts⟩
    rw [splitAtByte?_eq_some_iff.2 parts]

theorem IsBoundary.exists_char {text : List Char} {offset : Nat} (boundary : IsBoundary text offset)
    (inside : offset < byteLength text) : ∃ c, charAtByte? offset text = some c := by
  obtain ⟨before, after, rfl, rfl⟩ := boundary
  cases after with
  | nil => simp at inside
  | cons c rest => exact ⟨c, charAtByte?_eq_some_iff.2 ⟨before, rest, rfl, rfl⟩⟩

end Homophone.Text
