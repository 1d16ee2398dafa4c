import Loremark.Config.Basic
import Loremark.Text.Numeral

/-!
# Environment

Variables of the environment take precedence over a configuration. A variable that is empty counts
as missing.
-/

set_option autoImplicit false

namespace Loremark.Config

/-- The variables that a configuration is overridden with. -/
structure Environment where
  apiUrl : Text := []
  apiToken : Text := []
  progress : Text := []
  deriving DecidableEq, Repr, Inhabited

/-- The variable that holds the reader's progress. -/
def progressVariable : Text := "SPOILERDOWN_PROGRESS".toList

/-- Why a text is not the progress of a reader. -/
inductive ProgressError where
  | numeral (cause : Text.NumeralError)
  | negative (n : Int)
  deriving DecidableEq, Repr

/-- The wording of the two reasons. -/
def ProgressError.message : ProgressError → Text
  | numeral cause => cause.message
  | negative n =>
    progressVariable ++ " must be a non-negative integer, got ".toList ++ Text.ofInt n

/-- The progress that a text tells. -/
def readProgress (text : Text) : Except ProgressError Nat :=
  match Text.readInt text with
  | .error cause => .error (.numeral cause)
  | .ok (.ofNat n) => .ok n
  | .ok n => .error (.negative n)

/-- The value of a variable if it is set, and what stands in its place if it is not. -/
def override {α : Type} (setting : Text) (value : Text → α) (otherwise : α) : α :=
  if setting.isEmpty then otherwise else value setting

/-- A configuration with the variables that are set in place of its own entries. -/
def withEnvironment (config : Config) (env : Environment) : Except ProgressError Config := do
  let progress ←
    if env.progress.isEmpty then pure config.spoilers.progress else readProgress env.progress
  return { config with
    api := { config.api with
      baseUrl := override env.apiUrl id config.api.baseUrl
      token := override env.apiToken .text config.api.token }
    spoilers := { config.spoilers with progress } }

end Loremark.Config
