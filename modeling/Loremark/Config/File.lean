import Loremark.Config.Read
import Loremark.Text.Bytes
import Loremark.Yaml.Read

/-!
# Configuration files

A configuration file is a YAML text in UTF-8, of which the top level is a dictionary of sections. A
file without a document, or with an empty one, stands for the default configuration.
-/

set_option autoImplicit false

namespace Loremark.Config

/-- Why a file holds no configuration. -/
inductive FileFault where
  | missing
  | notText (cause : Text.DecodeError)
  /-- The text is not well-formed YAML. -/
  | malformed
  /-- A value in the text cannot be made. -/
  | notValue (message : Text)
  | notMapping
  | fault (cause : Fault)
  deriving Inhabited

/-- The reason that is told for a fault. The wording for a text that is malformed is left open, and
empty here. -/
def FileFault.message : FileFault → Text
  | missing => "File not found".toList
  | notText cause => cause.message
  | malformed => []
  | notValue message => message
  | notMapping => "Top level must be a mapping".toList
  | fault cause => cause.message

/-- The message that nothing can be read from a place, for a reason. -/
def failureMessage (place reason : Text) : Text :=
  "Failed to load config at ".toList ++ place ++ ": ".toList ++ reason

/-- The number of bytes that are read from a file at once. -/
def blockSize : Nat := 8192

/-- The text of a file. Line ends of every kind count as one. -/
def textOfFile (bytes : Bytes) : Except FileFault Text :=
  ((Text.ofBlocks [] (Text.blocksOf blockSize bytes)).map Text.unifyNewlines).mapError .notText

/-- The configuration that a text writes. -/
def ofYaml (text : Text) : Except FileFault Config :=
  match Yaml.read? text with
  | .error .malformed => .error .malformed
  | .error (.value message) => .error (.notValue message)
  | .ok none | .ok (some .null) => .ok {}
  | .ok (some (.dict sections)) | .ok (some (.ordered sections)) =>
    (Config.ofValue (.dict sections)).mapError .fault
  | .ok (some _) => .error .notMapping

/-- The configuration that a file holds, given its bytes if it exists. -/
def ofFile (bytes : Option Bytes) : Except FileFault Config :=
  match bytes with
  | none => .error .missing
  | some bytes => (textOfFile bytes).bind ofYaml

end Loremark.Config
