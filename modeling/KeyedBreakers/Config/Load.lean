import KeyedBreakers.Config.Problem
import KeyedBreakers.Toml.Document

/-!
# Loading configurations

A configuration is the text of a TOML document, or a file that holds one. It is loaded only if it is
a document, fits the form of a configuration and has no problems; which of these fails first is told
apart.
-/

namespace KeyedBreakers

open KeyedBreakers.Text

/-- What stands at a path. -/
inductive FileContent where
  | missing
  | directory
  | bytes (data : ByteArray)

/-- Why no text can be read from a path. -/
inductive ReadError where
  | notFound
  | isDirectory
  /-- The bytes are not the UTF-8 form of a text. -/
  | notUtf8
deriving DecidableEq, Repr

/-- What is said of a path that no text can be read from. -/
def ReadError.message : ReadError → String
  | notFound => "No such file or directory (os error 2)"
  | isDirectory => "Is a directory (os error 21)"
  | notUtf8 => "stream did not contain valid UTF-8"

/-- Why a configuration cannot be loaded. -/
inductive ConfigError where
  | unreadable (cause : ReadError)
  /-- The text is no TOML document. -/
  | notToml
  | unfit (cause : DecodeError)
  | invalid (problems : List Problem)
deriving DecidableEq, Repr

/-- The texts of the errors behind an unreadable path. -/
def ConfigError.sources : ConfigError → List String
  | unreadable cause => [cause.message]
  | _ => []

/-- What is said of a configuration that cannot be loaded. -/
def ConfigError.message : ConfigError → String
  | unreadable cause => "IO error: " ++ cause.message
  | notToml => "Parse error"
  | unfit cause => "Parse error: " ++ cause.message
  | invalid problems =>
    "Validation failed: " ++
      String.ofList (joinWith [',', ' '] (problems.map fun p => p.message.toList))

/-- The text of a file. -/
def FileContent.text : FileContent → Except ReadError String
  | missing => .error .notFound
  | directory => .error .isDirectory
  | bytes data =>
    match String.fromUTF8? data with
    | some text => .ok text
    | none => .error .notUtf8

namespace Config

/-- The configuration, if it has no problems. -/
def check (config : Config) : Except ConfigError Config :=
  if config.problems = [] then .ok config else .error (.invalid config.problems)

/-- The configuration that the text of a TOML document gives. -/
def parse (text : String) : Except ConfigError Config :=
  match Toml.parse? text with
  | none => .error .notToml
  | some root =>
    match ofToml root with
    | .error cause => .error (.unfit cause)
    | .ok config => config.check

/-- The configuration that a file gives. -/
def load (file : FileContent) : Except ConfigError Config :=
  match file.text with
  | .error cause => .error (.unreadable cause)
  | .ok text => parse text

end Config

end KeyedBreakers
