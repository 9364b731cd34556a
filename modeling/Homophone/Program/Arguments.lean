import Homophone.Program.Options

/-! The arguments of the command line. -/

set_option autoImplicit false

namespace Homophone.Program

inductive Command where
  /-- Encode the names, or the lines of the standard input if there are none. -/
  | encode (options : Options) (languages : Option String) (json : Bool) (names : List String)
  /-- Show the languages of words. -/
  | guess (options : Options) (words : List String)
  /-- Summarize the rules of a directory. -/
  | inspect (directory : String)
  deriving DecidableEq, Repr

inductive Request where
  | version
  | help
  | run (command : Command)
  deriving DecidableEq, Repr

inductive Argument where
  | value (name value : String)
  | switch (name : String)
  | positional (text : String)
  | help
  deriving DecidableEq, Repr

def Argument.isValueOf (name : String) : Argument → Bool
  | .value other _ => other = name
  | _ => false

namespace Arguments

structure Grammar where
  values : List String
  switches : List String
  positionals : Bool

/-! ## Values -/

def path? (text : String) : Option String := if text.isEmpty then none else some text

/-- A count in decimal digits, perhaps after a plus sign, that a machine word can hold. -/
def count? (text : String) : Option Nat :=
  let digits := match text.toList with
    | '+' :: digits => digits
    | digits => digits
  let count := digits.foldl (fun n c => 10 * n + (c.toNat - '0'.toNat)) 0
  if digits.isEmpty || !digits.all Char.isDigit || Encoder.countLimit < count then none
  else some count

def nameType? (text : String) : Option NameType := (NameType.parse text).toOption

def ruleType? (text : String) : Option RuleType := (RuleType.parse text).toOption

def isAdmissible (name text : String) : Bool :=
  match name with
  | "rules-dir" | "config" => (path? text).isSome
  | "name-type" => (nameType? text).isSome
  | "rule-type" => (ruleType? text).isSome
  | "max-phonemes" => (count? text).isSome
  | _ => true

/-! ## Reading -/

/-- Put an argument before those that are read already, unless it is not possible there: an option
is given once, with a value that makes sense. -/
def Grammar.add? (grammar : Grammar) (seen : List Argument) (argument : Argument) :
    Option (List Argument) :=
  let isPossible : Bool := match argument with
    | .value name text =>
      grammar.values.contains name && !seen.any (·.isValueOf name) && isAdmissible name text
    | .switch name => grammar.switches.contains name && !seen.contains argument
    | .positional _ => grammar.positionals
    | .help => true
  if isPossible then some (argument :: seen) else none

def splitOption (argument : List Char) : String × Option String :=
  let name := String.ofList (argument.takeWhile (· ≠ '='))
  match argument.dropWhile (· ≠ '=') with
  | '=' :: value => (name, some (String.ofList value))
  | _ => (name, none)

/-- Anything that begins with a hyphen, except a lone hyphen, is meant as an option. -/
def isOption (argument : String) : Bool := argument.startsWith "-" && argument ≠ "-"

/-- Tell options, their values and other arguments apart, one after the other. `seen` are those
before, backwards. After two hyphens everything is taken as it is. A request for help ends the
reading: what follows it may be anything. -/
def read (grammar : Grammar) : List Argument → List String → Option (List Argument)
  | seen, [] => some seen.reverse
  | seen, argument :: rest =>
    match argument.toList with
    | ['-', '-'] => do
      let seen ← rest.foldlM (fun seen text => grammar.add? seen (.positional text)) seen
      return seen.reverse
    | '-' :: '-' :: option =>
      match splitOption option, rest with
      | ("help", none), _ => some [.help]
      | (name, some value), rest => do read grammar (← grammar.add? seen (.value name value)) rest
      | (name, none), rest =>
        if grammar.values.contains name then
          match rest with
          | value :: rest => do
            if isOption value then none
            read grammar (← grammar.add? seen (.value name value)) rest
          | [] => none
        else do read grammar (← grammar.add? seen (.switch name)) rest
    | '-' :: 'h' :: _ => some [.help]
    | _ => do
      if isOption argument then none
      read grammar (← grammar.add? seen (.positional argument)) rest

def value? (name : String) (arguments : List Argument) : Option String :=
  arguments.findSome? fun
    | .value other value => if other = name then some value else none
    | _ => none

def positionals (arguments : List Argument) : List String :=
  arguments.filterMap fun
    | .positional text => some text
    | _ => none

/-- The rules directory, for which the environment has a default. The default must not be empty. -/
def directory? (environment : Option String) (arguments : List Argument) :
    Option (Option String) :=
  match value? "rules-dir" arguments, environment with
  | some path, _ => some (some path)
  | none, some path => (path? path).map some
  | none, none => some none

def options? (environment : Option String) (arguments : List Argument) : Option Options := do
  return {
    rulesDirectory := ← directory? environment arguments
    configuration := value? "config" arguments
    nameType := value? "name-type" arguments >>= nameType?
    ruleType := value? "rule-type" arguments >>= ruleType?
    noConcat := arguments.contains (.switch "no-concat")
    maxPhonemes := value? "max-phonemes" arguments >>= count? }

def engineValues : List String := ["rules-dir", "config", "name-type", "rule-type", "max-phonemes"]

def request? (grammar : Grammar) (arguments : List String)
    (command? : List Argument → Option Command) : Option Request := do
  let arguments ← read grammar [] arguments
  if arguments.contains .help then return .help
  return .run (← command? arguments)

def parse (environment : Option String) : List String → Option Request
  | "encode" :: rest =>
    request? ⟨"languages" :: engineValues, ["json", "no-concat"], true⟩ rest fun arguments => do
      return .encode (← options? environment arguments) (value? "languages" arguments)
        (arguments.contains (.switch "json")) (positionals arguments)
  | "guess" :: rest =>
    request? ⟨engineValues, ["no-concat"], true⟩ rest fun arguments => do
      let words := positionals arguments
      if words.isEmpty then none
      return .guess (← options? environment arguments) words
  | "inspect" :: rest =>
    request? ⟨["rules-dir"], [], false⟩ rest fun arguments => do
      return .inspect (← (← directory? environment arguments))
  | "help" :: topics =>
    match topics with
    | [] | ["encode"] | ["guess"] | ["inspect"] | ["help"] => some .help
    | _ => none
  | first :: _ =>
    if first = "--version" || first.startsWith "-V" then some .version
    else if first = "--help" || first.startsWith "-h" then some .help
    else none
  | [] => none

end Arguments

end Homophone.Program
