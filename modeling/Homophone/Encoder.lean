import Homophone.RuleTable
import Homophone.Settings
import Homophone.Text.Normal
import Homophone.Text.Pieces
import Homophone.Transcription
import Homophone.Unicode.Alphanumeric

/-! Encoding names as sets of phonetic alternatives. -/

set_option autoImplicit false

namespace Homophone

structure Encoder where
  table : RuleTable
  settings : Settings
  valid : settings.validate = .ok ()

namespace Encoder

/-! ## Construction -/

/-- Every language that a guess may contain. -/
def reachable (table : RuleTable) (nameType : NameType) : LanguageSet :=
  ((LanguageSet.ofList (table.languages nameType)).insertAll
      (table.fallbackLanguages nameType).members).insertAll
    ((table.guessRules nameType).flatMap (·.languages.members))

def checkLanguages (table : RuleTable) (settings : Settings) (languages : List Language) :
    Except SettingsError Unit :=
  match languages.find? fun language =>
      (table.rules settings.nameType settings.ruleType language).isNone with
  | some language => .error (.missingRules settings.nameType settings.ruleType language)
  | none => .ok ()

def new (table : RuleTable) (settings : Settings) : Except SettingsError Encoder :=
  match valid : settings.validate with
  | .error error => .error error
  | .ok () =>
    if (table.languages settings.nameType).isEmpty then .error (.noLanguages settings.nameType)
    else match checkLanguages table settings (reachable table settings.nameType).members with
      | .error error => .error error
      | .ok () =>
        if (table.finalRules settings.nameType settings.ruleType).isNone then
          .error (.missingFinalRules settings.nameType settings.ruleType)
        else .ok ⟨table, settings, valid⟩

/-! ## Look-ups -/

def rules (encoder : Encoder) (language : Language) : Option RuleList :=
  encoder.table.rules encoder.settings.nameType encoder.settings.ruleType language

def finalRules (encoder : Encoder) : Option RuleList :=
  encoder.table.finalRules encoder.settings.nameType encoder.settings.ruleType

def prefixes (encoder : Encoder) : List String := encoder.table.prefixes encoder.settings.nameType

def guessLanguages (encoder : Encoder) (word : String) : LanguageSet :=
  (encoder.table.guesser encoder.settings.nameType).guess word

/-! ## Words -/

def applyPrimary (encoder : Encoder) (word : String) (languages : LanguageSet) (width : Nat) :
    Frontier :=
  languages.members.foldl (fun merged language =>
    if merged.isFull then merged
    else match encoder.rules language with
      | some rules => merged.union (rules.apply (some language) width word)
      | none => merged) (.new width)

def countLimit : Nat := 0xffffffffffffffff

/-- A multiple of a count, or the largest count if that is less. -/
def times (factor count : Nat) : Nat := min (factor * count) countLimit

def headroom (maxPhonemes : Nat) : Nat := times 64 maxPhonemes

def widen (maxPhonemes width : Nat) : Nat := min (times 2 width) (headroom maxPhonemes)

theorem lt_widen {maxPhonemes width : Nat} (positive : 0 < width)
    (room : width < headroom maxPhonemes) : width < widen maxPhonemes width := by
  simp only [widen, headroom, times] at room ⊢
  omega

/-- Finalize the raw candidates of a word, the first `width` of them. Finalization may merge
candidates: when it leaves too few and there may be more, try a greater width. -/
def finalizeFrom (encoder : Encoder) (finals : RuleList) (word : String) (languages : LanguageSet)
    (width : Nat) (positive : 0 < width) : Frontier :=
  let limit := headroom encoder.settings.maxPhonemes
  let raw := encoder.applyPrimary word languages width
  let out := finals.applyAll none encoder.settings.maxPhonemes raw.toList
  if enough : out.isFull = true ∨ raw.size < width ∨ limit ≤ width then out
  else
    have wider : width < widen encoder.settings.maxPhonemes width := lt_widen positive (by omega)
    encoder.finalizeFrom finals word languages _ (Nat.lt_trans positive wider)
termination_by headroom encoder.settings.maxPhonemes - width

def encodeWord (encoder : Encoder) (explicit : Option LanguageSet) (word : String) : Frontier :=
  let languages := explicit.getD (encoder.guessLanguages word)
  let width := encoder.settings.maxPhonemes
  match encoder.finalRules with
  | none => encoder.applyPrimary word languages width
  | some finals =>
    encoder.finalizeFrom finals word languages width (Settings.maxPhonemes_pos encoder.valid)

/-! ## Names -/

/-- The words of a name in normal form with one space between them. A bar always separates words:
it separates alternatives in the encoding. -/
def normalize (encoder : Encoder) (name : List Char) : List Char :=
  let separates (c : Char) : Bool := c = '|' || encoder.table.isWordBoundary c
  Text.join [' '] (Text.runs separates (Text.normalize name))

def after? (start text : List Char) : Option (List Char) :=
  if start.isPrefixOf text then some (text.drop start.length) else none

/-- What a prefix leaves of a name, and the part of the prefix to be kept. A prefix that ends in an
apostrophe, which is then dropped, stands right before the rest; any other needs a space. -/
def cutPrefix? (pre name : List Char) : Option (List Char × List Char) :=
  let cut :=
    if pre.getLast? = some '\'' then (after? pre name).map fun rest => (rest, pre.dropLast)
    else ((after? pre name).bind (after? [' '])).map fun rest => (rest, pre)
  cut.filter (!·.1.isEmpty)

/-- Of several cuts, each with the length of its prefix, the first of the longest. -/
def longestCut? (cuts : List (Nat × List Char × List Char)) : Option (List Char × List Char) :=
  (cuts.foldl (fun best cut =>
    match best with
    | some (length, _) => if length < cut.1 then some cut else best
    | none => some cut) none).map (·.2)

def splitPrefix? (encoder : Encoder) (name : List Char) : Option (List Char × List Char) :=
  let cuts := encoder.prefixes.filterMap fun pre =>
    (cutPrefix? pre.toList name).map fun cut => (pre.utf8ByteSize, cut)
  (longestCut? cuts).map fun (rest, head) => (rest, head.filter (· ≠ ' ') ++ rest)

def afterApostrophe (word : List Char) : List Char :=
  (word.reverse.takeWhile (· ≠ '\'')).reverse

def allWords (encoder : Encoder) (name : List Char) : List String :=
  let cut := (Text.pieces (· == ' ') name).map fun word =>
    if encoder.settings.nameType = .sephardic then afterApostrophe word else word
  (cut.filter (·.any Unicode.isAlphanumeric)).map String.ofList

/-- The words of a name that are encoded. Outside generic names, words that are prefixes are left
out, unless there are no others. -/
def words (encoder : Encoder) (name : List Char) : List String :=
  let words := encoder.allWords name
  if encoder.settings.nameType = .generic then words
  else
    let kept := words.filter (!encoder.prefixes.contains ·)
    if kept.isEmpty then words else kept

def concatenate (encoder : Encoder) (explicit : Option LanguageSet) (words : List String) :
    Frontier :=
  (words.map (encoder.encodeWord explicit)).foldl (fun combined word => combined.expand word.toList)
    (.seed encoder.settings.maxPhonemes)

def encodeWords (encoder : Encoder) (explicit : Option LanguageSet) (words : List String) :
    String :=
  if encoder.settings.concat then (encoder.concatenate explicit words).join "|"
  else "-".intercalate ((words.map (encoder.encodeWord explicit)).map (·.join "|"))

def encodeWithin (encoder : Encoder) (explicit : Option LanguageSet) : Nat → List Char → String
  | fuel, name =>
    let name := encoder.normalize name
    let split := if encoder.settings.nameType = .generic then encoder.splitPrefix? name else none
    match split, fuel with
    | some (rest, joined), fuel + 1 =>
      "(" ++ encoder.encodeWithin explicit fuel rest ++ ")-(" ++
        encoder.encodeWithin explicit fuel joined ++ ")"
    | _, _ => encoder.encodeWords explicit (encoder.words name)

/-- The encoding of a name, for given languages or the guessed ones. Every prefix takes at least one
character of the decomposed name with it. -/
def encodeName (encoder : Encoder) (explicit : Option LanguageSet) (name : String) : String :=
  encoder.encodeWithin explicit (Unicode.decompose name.toList).length name.toList

def encode (encoder : Encoder) (name : String) : String := encoder.encodeName none name

def encodeWithLanguages (encoder : Encoder) (name : String) (languages : LanguageSet) :
    Except SettingsError String := do
  if languages.isEmpty then throw .emptyLanguageSet
  checkLanguages encoder.table encoder.settings languages.members
  return encoder.encodeName (some languages) name

end Encoder

end Homophone
