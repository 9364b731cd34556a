import Homophone.RuleLibrary
import Homophone.Text.Pieces

/-! Failures of the program and the chains of what caused them. -/

set_option autoImplicit false

namespace Homophone.Program

structure Failure where
  message : String
  /-- What caused the failure, what caused that, and so on. -/
  causes : List String := []
  /-- Whether the last cause has a cause of its own that is not told. -/
  isCutShort : Bool := false
  deriving DecidableEq, Repr

namespace Failure

def renderCause (number : Option Nat) (cause : String) : String :=
  let (first, later) := match number with
    | some n => (String.ofList (List.replicate (5 - (toString n).length) ' ') ++ toString n ++ ": ",
      "       ")
    | none => ("    ", "    ")
  let lines := (Text.pieces (· == '\n') cause.toList).map String.ofList
  first ++ ("\n" ++ later).intercalate lines

def render (failure : Failure) : String :=
  match failure.causes with
  | [] => failure.message
  | causes =>
    let several := 1 < causes.length || failure.isCutShort
    let rendered := causes.mapIdx fun n cause =>
      renderCause (if several then some n else none) cause
    failure.message ++ "\n\nCaused by:\n" ++ "\n".intercalate rendered ++
      -- A colon stands where the next cause would be told.
      if failure.isCutShort then ":" else ""

def ofSettingsError (message : String) (error : SettingsError) : Failure :=
  ⟨message, [error.message], false⟩

def ofLoadError (message : String) (error : LoadError) : Failure :=
  match error with
  | .unreadable _ problem => ⟨message, [error.message, problem.message], false⟩
  | .malformed ⟨_, _, .invalidRule fault⟩ =>
    if fault.isMalformedRegex then ⟨message, [error.message], true⟩
    else ⟨message, [error.message, fault.message], false⟩
  | _ => ⟨message, [error.message], false⟩

/-- A failure to read settings. Only what is wrong with settings that could be read is told. -/
def ofConfigurationError (path : String) : ConfigurationError → Failure
  | .invalid error => ⟨"failed to load config " ++ path ++ ": " ++ error.message, [], false⟩
  | _ => ⟨"failed to load config " ++ path ++ ":", [], false⟩

end Failure

end Homophone.Program
