import Homophone.Program.Options

/-! Options over a configuration file.

Where an option says something, it does not matter what the file says there, but for one value: a
file that allows no alternatives is refused before the options are put over it.
-/

set_option autoImplicit false

namespace Homophone

theorem Settings.validate_bind {ε α : Type} (settings : Settings) (report : SettingsError → ε)
    (x : α) :
    (settings.validate.mapError report >>= fun _ => pure x) =
      if settings.maxPhonemes = 0 then .error (report (.invalidMaxPhonemes 0)) else .ok x := by
  rw [validate]
  split
  · next zero =>
    rw [zero]
    rfl
  · rfl

namespace Configuration

/-- A configuration with its rules directory seen from where the file at `path` is seen. -/
def seenFrom (path : String) (configuration : Configuration) : Configuration :=
  { configuration with
    rulesDirectory :=
      match configuration.rulesDirectory, Path.parent? path with
      | some directory, some parent => some (Path.join parent directory)
      | directory, _ => directory }

theorem load_eq {files : FileTree} {path text : String} {configuration : Configuration}
    (readable : files.read path = .text text) (meant : ofToml? text = some configuration) :
    load files path =
      if configuration.settings.maxPhonemes = 0 then .error (.invalid (.invalidMaxPhonemes 0))
      else .ok (configuration.seenFrom path) := by
  have read : files.readConfiguration path ofToml? = .ok configuration := by
    rw [FileTree.readConfiguration, readable]
    simp only [meant]
  rw [load, read]
  exact Settings.validate_bind _ ConfigurationError.invalid (configuration.seenFrom path)

end Configuration

namespace Program.Options

/-- Two configurations differ only where the options say something. -/
structure AgreeBeside (options : Options) (first second : Configuration) : Prop where
  rulesDirectory : options.rulesDirectory = none → first.rulesDirectory = second.rulesDirectory
  nameType : options.nameType = none → first.settings.nameType = second.settings.nameType
  ruleType : options.ruleType = none → first.settings.ruleType = second.settings.ruleType
  concat : options.noConcat = false → first.settings.concat = second.settings.concat
  maxPhonemes : options.maxPhonemes = none →
    first.settings.maxPhonemes = second.settings.maxPhonemes

variable {options : Options} {first second : Configuration}

theorem AgreeBeside.seenFrom (agree : options.AgreeBeside first second) (path : String) :
    options.AgreeBeside (first.seenFrom path) (second.seenFrom path) where
  rulesDirectory unsaid := by
    rw [Configuration.seenFrom, Configuration.seenFrom, agree.rulesDirectory unsaid]
  nameType := agree.nameType
  ruleType := agree.ruleType
  concat := agree.concat
  maxPhonemes := agree.maxPhonemes

theorem getD_congr {α : Type} {said : Option α} {x y : α} (same : said = none → x = y) :
    said.getD x = said.getD y := by
  cases said with
  | none => exact same rfl
  | some z => rfl

/-- What the options say hides what a configuration says in the same place. -/
theorem AgreeBeside.override_eq (agree : options.AgreeBeside first second) :
    options.override first = options.override second := by
  have sameDirectory : (options.rulesDirectory <|> first.rulesDirectory) =
      (options.rulesDirectory <|> second.rulesDirectory) := by
    cases said : options.rulesDirectory with
    | none => rw [agree.rulesDirectory said]
    | some path => rfl
  have sameConcat : (first.settings.concat && !options.noConcat) =
      (second.settings.concat && !options.noConcat) := by
    cases said : options.noConcat with
    | false => rw [agree.concat said]
    | true => rw [Bool.not_true, Bool.and_false, Bool.and_false]
  simp only [override, sameDirectory, sameConcat, getD_congr agree.nameType,
    getD_congr agree.ruleType, getD_congr agree.maxPhonemes]

/-- The settings of a file are checked before the options are put over them, and again after. -/
theorem resolve_eq {files : FileTree} {path text : String} {configuration : Configuration}
    (named : options.configuration = some path) (readable : files.read path = .text text)
    (meant : Configuration.ofToml? text = some configuration) :
    options.resolve files =
      if configuration.settings.maxPhonemes = 0 then
        .error (.ofConfigurationError path (.invalid (.invalidMaxPhonemes 0)))
      else if options.maxPhonemes.getD configuration.settings.maxPhonemes = 0 then
        .error ⟨(SettingsError.invalidMaxPhonemes 0).message, [], false⟩
      else .ok (options.override (configuration.seenFrom path)) := by
  rw [resolve, named]
  change ((Configuration.load files path).mapError (Failure.ofConfigurationError path) >>=
    fun base => (options.override base).settings.validate.mapError _ >>= fun _ => pure _) = _
  rw [Configuration.load_eq readable meant]
  split
  · rfl
  · exact Settings.validate_bind _ _ _

/-- Two files that say the same beside the options come to the same, unless just one of them is
refused for allowing no alternatives where the options allow some. -/
theorem resolve_agree_iff {files files' : FileTree} {path text text' : String}
    (named : options.configuration = some path)
    (readable : files.read path = .text text) (readable' : files'.read path = .text text')
    (meant : Configuration.ofToml? text = some first)
    (meant' : Configuration.ofToml? text' = some second)
    (agree : options.AgreeBeside first second) :
    (options.resolve files).toOption = (options.resolve files').toOption ↔
      options.maxPhonemes = some 0 ∨
        (first.settings.maxPhonemes = 0 ↔ second.settings.maxPhonemes = 0) := by
  rw [resolve_eq named readable meant, resolve_eq named readable' meant',
    (agree.seenFrom path).override_eq]
  cases said : options.maxPhonemes with
  | none =>
    rw [agree.maxPhonemes said]
    simp
  | some count =>
    rw [Option.getD_some, Option.getD_some, Option.some_inj]
    by_cases nothing : count = 0
    · refine iff_of_true ?_ (.inl nothing)
      rw [if_pos nothing]
      split <;> split <;> rfl
    · -- Both come to the same configuration if neither file is refused.
      rw [if_neg nothing, or_iff_right nothing]
      by_cases zero : first.settings.maxPhonemes = 0 <;>
        by_cases zero' : second.settings.maxPhonemes = 0 <;>
        simp [zero, zero', Except.toOption]

theorem resolve_agree_iff_beside :
    let options : Options :=
      { configuration := some "bmpm.toml", rulesDirectory := some "rules", noConcat := true }
    let tree (text : String) : FileTree := .ofPaths [] [("bmpm.toml", .text text)]
    let text := "rules_dir = \"a\"\nmax_phonemes = 8\n"
    let text' := "rules_dir = \"b\"\nconcat = false\nmax_phonemes = 8\n"
    let first : Configuration := ⟨some "a", { maxPhonemes := 8 }⟩
    let second : Configuration := ⟨some "b", { concat := false, maxPhonemes := 8 }⟩
    Configuration.ofToml? text = some first ∧ Configuration.ofToml? text' = some second ∧
      options.AgreeBeside first second ∧
      (options.resolve (tree text)).toOption = (options.resolve (tree text')).toOption := by
  intro options tree text text' first second
  have meant : Configuration.ofToml? text = some first := by decide +kernel
  have meant' : Configuration.ofToml? text' = some second := by decide +kernel
  have agree : options.AgreeBeside first second :=
    ⟨nofun, fun _ => rfl, fun _ => rfl, nofun, fun _ => rfl⟩
  exact ⟨meant, meant', agree, (resolve_agree_iff rfl rfl rfl meant meant' agree).2 (.inr Iff.rfl)⟩

/-- A file that allows no alternatives is refused although the options allow two. -/
theorem resolve_of_zero_in_file :
    let options : Options := { configuration := some "bmpm.toml", maxPhonemes := some 2 }
    let tree (text : String) : FileTree := .ofPaths [] [("bmpm.toml", .text text)]
    let text := "max_phonemes = 0\n"
    let text' := "max_phonemes = 8\n"
    let first : Configuration := ⟨none, { maxPhonemes := 0 }⟩
    let second : Configuration := ⟨none, { maxPhonemes := 8 }⟩
    Configuration.ofToml? text = some first ∧ Configuration.ofToml? text' = some second ∧
      options.AgreeBeside first second ∧
      (options.resolve (tree text)).toOption = none ∧
      (options.resolve (tree text')).toOption = some ⟨none, { maxPhonemes := 2 }⟩ := by
  intro options tree text text' first second
  have agree : options.AgreeBeside first second :=
    ⟨fun _ => rfl, fun _ => rfl, fun _ => rfl, fun _ => rfl, nofun⟩
  exact ⟨by decide +kernel, by decide +kernel, agree, by decide +kernel, by decide +kernel⟩

end Program.Options

end Homophone
