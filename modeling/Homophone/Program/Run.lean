import Homophone.Program.Arguments
import Homophone.Program.Encoding
import Homophone.Report

/-! The program as a function of its arguments, its input and the files it sees. -/

set_option autoImplicit false

namespace Homophone.Program

structure Outcome where
  code : Nat
  output : String := ""
  errors : String := ""
  deriving DecidableEq, Repr

def versionLine : String := "bmpm 0.1.0\n"

def usage : String := "usage: bmpm encode|guess|inspect [options] [names or words]\n"

def inputNames (input : String) : List String :=
  ((Text.lines input.toList).filter fun line => !(Text.trim line).isEmpty).map String.ofList

def renderGuesses (encoder : Encoder) (words : List String) : String :=
  String.join (words.map fun word =>
    word ++ "\t" ++ (encoder.guessLanguages word).render ++ "\n")

namespace Command

def output (files : FileTree) (input : String) : Command → Except Failure String
  | encode options languages json names => do
    let (_, encoder) ← options.build files
    let names := if names.isEmpty then inputNames input else names
    let encoded ← encodeAll encoder (languages.map readLanguages) names
    return if json then Json.render encoded else renderLines encoded
  | guess options words => do
    let (_, encoder) ← options.build files
    return renderGuesses encoder words
  | inspect directory => do
    let library ← (RuleLibrary.load files directory).mapError
      (.ofLoadError ("failed to load rules from " ++ directory))
    return library.rules.report

def run (files : FileTree) (input : String) (command : Command) : Outcome :=
  match command.output files input with
  | .ok output => { code := 0, output }
  | .error failure => { code := 1, errors := "Error: " ++ failure.render ++ "\n" }

end Command

/-- A whole run. Arguments that make no sense end it with code 2. -/
def run (files : FileTree) (environment : Option String) (input : String)
    (arguments : List String) : Outcome :=
  match Arguments.parse environment arguments with
  | none => { code := 2, errors := usage }
  | some .version => { code := 0, output := versionLine }
  | some .help => { code := 0, output := usage }
  | some (.run command) => command.run files input

end Homophone.Program
