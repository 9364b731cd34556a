import Homophone.Program.Options

/-! Encoding lists of names, and the results as text and as JSON. -/

set_option autoImplicit false

namespace Homophone.Program

structure EncodedName where
  name : String
  encoding : String
  deriving DecidableEq, Repr

def readLanguages (text : String) : LanguageSet :=
  RuleFile.languagesBetween (fun c => c = ',' || c = '+') text.toList

def encodeAll (encoder : Encoder) (languages : Option LanguageSet) (names : List String) :
    Except Failure (List EncodedName) :=
  names.mapM fun name =>
    match languages with
    | none => .ok ⟨name, encoder.encode name⟩
    | some languages =>
      match encoder.encodeWithLanguages name languages with
      | .ok encoding => .ok ⟨name, encoding⟩
      | .error error =>
        .error (.ofSettingsError
          ("cannot encode " ++ Text.quoted name ++ " as " ++ languages.render) error)

def renderLines (encoded : List EncodedName) : String :=
  String.join (encoded.map fun item => item.name ++ "\t" ++ item.encoding ++ "\n")

namespace Json

def hexDigit (n : Nat) : Char := "0123456789abcdef".toList.getD n '0'

def escapedChar (c : Char) : List Char :=
  if c = '"' then ['\\', '"']
  else if c = '\\' then ['\\', '\\']
  else if c = '\n' then ['\\', 'n']
  else if c = '\r' then ['\\', 'r']
  else if c = '\t' then ['\\', 't']
  else if c = '\x08' then ['\\', 'b']
  else if c = '\x0c' then ['\\', 'f']
  else if c < ' ' then ['\\', 'u', '0', '0', hexDigit (c.toNat / 16), hexDigit (c.toNat % 16)]
  else [c]

def quote (text : String) : String :=
  "\"" ++ String.ofList (text.toList.flatMap escapedChar) ++ "\""

def renderItem (item : EncodedName) : String :=
  "  \x7b\n    \"name\": " ++ quote item.name ++ ",\n    \"encoding\": " ++ quote item.encoding ++
    "\n  \x7d"

def render (encoded : List EncodedName) : String :=
  match encoded with
  | [] => "[]\n"
  | _ => "[\n" ++ ",\n".intercalate (encoded.map renderItem) ++ "\n]\n"

end Json

end Homophone.Program
