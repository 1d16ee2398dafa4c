import Loremark.Text.Basic

/-!
# Arguments

The words behind the name of a command are options and operands. An option is a word that begins
with a hyphen; it may take a value, which is the rest of the word or the next one. Short options
share a word. Two hyphens alone end the options, and one hyphen alone is an operand.
-/

set_option autoImplicit false

namespace Loremark.Command

/-- An option that a command knows. -/
structure Choice (α : Type) where
  option : α
  names : List Text
  hasValue : Bool := false
  deriving Repr, Inhabited

/-- Why words are no arguments of a command. -/
inductive UsageError where
  | unknownOption (name : Text)
  | valueMissing (name : Text)
  | valueUnexpected (name : Text)
  | operandMissing (name : Text)
  | operandUnexpected (text : Text)
  | commandMissing
  | unknownCommand (name : Text)
  | badValue (name value : Text)
  deriving DecidableEq, Repr

/-- The wording of the reasons. -/
def UsageError.message : UsageError → Text
  | unknownOption name => "No such option: ".toList ++ name
  | valueMissing name => "Option '".toList ++ name ++ "' requires an argument.".toList
  | valueUnexpected name => "Option '".toList ++ name ++ "' does not take a value.".toList
  | operandMissing name => "Missing argument '".toList ++ name ++ "'.".toList
  | operandUnexpected text => "Got unexpected extra argument (".toList ++ text ++ [')']
  | commandMissing => "Missing command.".toList
  | unknownCommand name => "No such command '".toList ++ name ++ "'.".toList
  | badValue name value =>
    "Invalid value for '".toList ++ name ++ "': ".toList ++ value

/-- The arguments of a command: its options in order, with their values, and its operands. -/
structure Arguments (α : Type) where
  options : List (α × Text) := []
  operands : List Text := []
  deriving Inhabited

/-- The options that a word holds, and the one whose value is the next word. -/
structure Word (α : Type) where
  options : List (α × Text) := []
  open? : Option (Choice α × Text) := none

section
variable {α : Type}

/-- The choice of a name. -/
def choice? (choices : List (Choice α)) (name : Text) : Option (Choice α) :=
  choices.find? fun choice => choice.names.contains name

/-- Reads short options that share a word. -/
def readShort (choices : List (Choice α)) : Text → Except UsageError (Word α)
  | [] => .ok {}
  | c :: text =>
    let name := ['-', c]
    match choice? choices name with
    | none => .error (.unknownOption name)
    | some choice =>
      if choice.hasValue then
        .ok (if text.isEmpty then { open? := some (choice, name) }
          else { options := [(choice.option, text)] })
      else do
        let word ← readShort choices text
        return { word with options := (choice.option, []) :: word.options }

/-- Reads a word that begins with a hyphen. -/
def readWord (choices : List (Choice α)) (text : Text) : Except UsageError (Word α) :=
  let name := text.takeWhile (· != '=')
  let value := (text.drop name.length).tail?
  match if name.length == 2 then none else choice? choices name, value with
  | some choice, some value =>
    if choice.hasValue then .ok { options := [(choice.option, value)] }
    else .error (.valueUnexpected name)
  | some choice, none =>
    .ok (if choice.hasValue then { open? := some (choice, name) }
      else { options := [(choice.option, [])] })
  | none, _ =>
    match text with
    | '-' :: '-' :: _ => .error (.unknownOption name)
    | _ => readShort choices text.tail

/-- Whether a word holds options. -/
def isOption (text : Text) : Bool := text.head? == some '-' && 1 < text.length

/-- Reads arguments. The value of an option that is `waiting` comes first. Where operands end the
options, they are all that follows the first of them. -/
def readArguments (choices : List (Choice α)) (operandsEnd : Bool)
    (waiting : Option (Choice α × Text)) : List Text → Except UsageError (Arguments α)
  | [] =>
    match waiting with
    | some (_, name) => .error (.valueMissing name)
    | none => .ok {}
  | text :: texts =>
    match waiting with
    | some (choice, _) => do
      let rest ← readArguments choices operandsEnd none texts
      return { rest with options := (choice.option, text) :: rest.options }
    | none =>
      if text == ['-', '-'] then .ok { operands := texts }
      else if isOption text then do
        let word ← readWord choices text
        let rest ← readArguments choices operandsEnd word.open? texts
        return { rest with options := word.options ++ rest.options }
      else if operandsEnd then .ok { operands := text :: texts }
      else do
        let rest ← readArguments choices operandsEnd none texts
        return { rest with operands := text :: rest.operands }

/-- How often an option is given. -/
def Arguments.count [BEq α] (a : Arguments α) (option : α) : Nat :=
  (a.options.map Prod.fst).count option

/-- Whether an option is given. -/
def Arguments.has [BEq α] (a : Arguments α) (option : α) : Bool := 0 < a.count option

/-- The value of an option; of several ones the last. -/
def Arguments.value? [BEq α] (a : Arguments α) (option : α) : Option Text :=
  (a.options.reverse.lookup option)

/-- The only operand. -/
def Arguments.onlyOperand (a : Arguments α) (name : String) : Except UsageError Text :=
  match a.operands with
  | [] => .error (.operandMissing name.toList)
  | [operand] => .ok operand
  | _ :: more :: _ => .error (.operandUnexpected more)

end

end Loremark.Command
