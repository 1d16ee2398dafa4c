import Loremark.Command.Arguments
import Loremark.Text.Numeral

/-!
# Requests

What the words of a command line ask for: first options for every command, then the name of a
command, then its own arguments. The name is looked up before anything is done, while the arguments
behind it are only read when the command is about to run.
-/

set_option autoImplicit false

namespace Loremark.Command

/-- The commands. -/
inductive Name where
  | render
  | extract
  | samples
  | version
  deriving DecidableEq, Repr, Inhabited

/-- The name of a command as it is written. -/
def Name.text : Name → Text
  | render => "render".toList
  | extract => "extract".toList
  | samples => "syntax".toList
  | version => "version".toList

/-- All commands. -/
def Name.all : List Name := [.render, .extract, .samples, .version]

/-- The command of a name. -/
def Name.ofText? (text : Text) : Option Name := Name.all.find? fun name => name.text == text

/-- The options for every command. -/
inductive GeneralOption where
  | verbose
  | logDirectory
  | help
  deriving DecidableEq, Repr, Inhabited

/-- The names of the options for every command. -/
def GeneralOption.choices : List (Choice GeneralOption) := [
  { option := .verbose, names := ["-v".toList, "--verbose".toList] },
  { option := .logDirectory, names := ["--log-dir".toList], hasValue := true },
  { option := .help, names := ["--help".toList] }]

/-- The options of the command that renders. -/
inductive RenderOption where
  | config
  | noEmbeds
  | compact
  | progress
  | showAll
  | apiUrl
  | output
  | offline
  | help
  deriving DecidableEq, Repr, Inhabited

/-- The names of the options of the command that renders. -/
def RenderOption.choices : List (Choice RenderOption) := [
  { option := .config, names := ["--config".toList, "-c".toList], hasValue := true },
  { option := .noEmbeds, names := ["--no-embeds".toList] },
  { option := .compact, names := ["--compact".toList] },
  { option := .progress, names := ["--progress".toList, "-p".toList], hasValue := true },
  { option := .showAll, names := ["--show-all".toList] },
  { option := .apiUrl, names := ["--api-url".toList], hasValue := true },
  { option := .output, names := ["--output".toList, "-o".toList], hasValue := true },
  { option := .offline, names := ["--offline".toList] },
  { option := .help, names := ["--help".toList] }]

/-- The option of the other commands. -/
inductive HelpOption where
  | help
  deriving DecidableEq, Repr, Inhabited

/-- The name of the option of the other commands. -/
def HelpOption.choices : List (Choice HelpOption) :=
  [{ option := .help, names := ["--help".toList] }]

/-- What is to be rendered, and how. -/
structure Rendering where
  file : Text
  config : Option Text := none
  embedsOff : Bool := false
  compact : Bool := false
  progress : Option Nat := none
  showAll : Bool := false
  apiUrl : Option Text := none
  output : Option Text := none
  offline : Bool := false
  deriving Repr, Inhabited

/-- What is asked for. -/
inductive Request where
  | render (rendering : Rendering)
  | extract (file : Text)
  | samples
  | version
  | help
  deriving Repr, Inhabited

/-- The options for every command, and the words behind them. -/
structure Opening where
  verbosity : Nat := 0
  logDirectory : Option Text := none
  /-- Whether help is asked for. -/
  help : Bool := false
  words : List Text := []
  deriving Repr, Inhabited

/-- Reads the options for every command. -/
def Opening.read (words : List Text) : Except UsageError Opening := do
  let arguments ← readArguments GeneralOption.choices true none words
  return {
    verbosity := arguments.count .verbose
    logDirectory := arguments.value? .logDirectory
    help := arguments.has .help
    words := arguments.operands }

/-- The number of a chapter that a text writes. -/
def readChapter (text : Text) : Except UsageError Nat :=
  match Text.readInt text with
  | .ok (.ofNat n) => .ok n
  | _ => .error (.badValue "--progress".toList text)

/-- What arguments ask to be rendered. -/
def Rendering.ofArguments (arguments : Arguments RenderOption) :
    Except UsageError Rendering := do
  let progress ← (arguments.value? .progress).mapM readChapter
  return {
    file := ← arguments.onlyOperand "FILE"
    config := arguments.value? .config
    embedsOff := arguments.has .noEmbeds
    compact := arguments.has .compact
    progress
    showAll := arguments.has .showAll
    apiUrl := arguments.value? .apiUrl
    output := arguments.value? .output
    offline := arguments.has .offline }

/-- Reads the arguments of a command. -/
def Request.read (name : Name) (words : List Text) : Except UsageError Request :=
  match name with
  | .render => do
    let arguments ← readArguments RenderOption.choices false none words
    if arguments.has .help then return .help
    return .render (← Rendering.ofArguments arguments)
  | name => do
    let arguments ← readArguments HelpOption.choices false none words
    if arguments.has .help then return .help
    match name with
    | .extract => return .extract (← arguments.onlyOperand "FILE")
    | name =>
      match arguments.operands with
      | operand :: _ => throw (.operandUnexpected operand)
      | [] => return if name == .samples then .samples else .version

end Loremark.Command
