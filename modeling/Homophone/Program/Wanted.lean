import Homophone.Program.Arguments

/-! The files that a run looks at.

What a run looks at depends on what it finds: a configuration names the rules directory, a list of
languages the files of their rules, and rule files include others. So the paths are given as far as
the files known so far tell, and grow when more files are known.
-/

set_option autoImplicit false

namespace Homophone

def Path.steps (path : String) : List String :=
  let parts := Path.parts path
  (List.range parts.length).map fun n => "/".intercalate (parts.take (n + 1))

/-- The stems that a file includes, as far as its lines can be read. -/
def FileContent.includes (content : FileContent) : List String :=
  match FileTree.contentOf content with
  | .text source =>
    (RuleFile.Line.significant source.toList).filterMap fun line =>
      match RuleFile.readStatement line.text with
      | .ok (.splice stem) => some stem
      | _ => none
  | _ => []

namespace RuleDirectory

def declared (directory : RuleDirectory) (nameType : NameType) : List Language :=
  match directory.read? (nameType.code ++ "_languages") with
  | .ok (some text) => RuleFile.readLanguageList text
  | _ => []

def roots (directory : RuleDirectory) (nameType : NameType) : List String :=
  let code := nameType.code
  [code ++ "_languages", code ++ "_lang", code ++ "_prefixes"] ++
    RuleType.all.map (finalStem nameType) ++ (directory.declared nameType).map (primaryStem nameType)

def wanted (directory : RuleDirectory) : List String :=
  let included := directory.files.entries.flatMap fun (_, content) => content.includes
  (NameType.all.flatMap directory.roots ++ included).map directory.pathOf

end RuleDirectory

namespace Program

def Options.wanted (options : Options) (files : FileTree) : List String :=
  options.configuration.toList ++
    match options.resolve files with
    | .ok ⟨some path, _⟩ => RuleDirectory.wanted ⟨files, path⟩
    | _ => []

namespace Command

def wanted (files : FileTree) (command : Command) : List String :=
  let paths := match command with
    | encode options .. | guess options _ => options.wanted files
    | inspect directory => RuleDirectory.wanted ⟨files, directory⟩
  (paths.flatMap Path.steps).eraseDups

def readsInput : Command → Bool
  | encode _ _ _ names => names.isEmpty
  | _ => false

end Command

end Program

end Homophone
