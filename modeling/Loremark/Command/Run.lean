import Loremark.Client.Store
import Loremark.Command.Listing
import Loremark.Command.Request
import Loremark.Config.Environment
import Loremark.Config.File
import Loremark.Document.Basic
import Loremark.Files.Basic
import Loremark.Log.Sinks
import Loremark.Terminal.Markup

/-!
# Running commands

A command sees the files around it, some variables of its environment and the replies of the store.
It leaves behind what it has printed, the requests it has sent, the files as they are then, and what
has been reported. It ends well; or it tells what is wrong and ends; or its words ask for nothing
that there is; or it meets a fault that it does not expect, and nothing is told.
-/

set_option autoImplicit false

namespace Loremark.Command

/-- The variables that a command looks at. -/
structure Environment where
  config : Config.Environment := {}
  logDirectory : Text := []
  deriving DecidableEq, Repr, Inhabited

/-- What a command does to files. -/
inductive Change where
  | makeDirectory (path : Files.Path)
  | write (path : Files.Path) (bytes : Bytes)
  /-- A file is there, with what it has held before. -/
  | touch (path : Files.Path)
  deriving DecidableEq, Repr

/-- A fault that a command does not expect. -/
inductive Fault where
  | file (cause : Files.Error)
  | content (cause : Text.DecodeError)
  | embeds (cause : Text.NumeralError)
  | document (cause : Tree.BuildError)
  | page (cause : Tree.UnknownKind)
  | token (cause : Client.TokenError)
  | style (cause : Terminal.StyleError)
  deriving DecidableEq, Repr

/-- The wording of a fault. -/
def Fault.message : Fault → Text
  | file cause => cause.message
  | content cause => cause.message
  | embeds cause => cause.message
  | document cause => cause.message
  | page cause => cause.message
  | token cause => cause.message
  | style cause => cause.message

/-- How a command ends. -/
inductive Ending where
  | done
  /-- It has told what is wrong. -/
  | failed
  | misused (cause : UsageError)
  | broken (cause : Fault)
  deriving DecidableEq, Repr

/-- The number that tells how a command has ended. -/
def Ending.code : Ending → Nat
  | done => 0
  | failed | broken _ => 1
  | misused _ => 2

/-- What a command works with, and what it has done so far. -/
structure Work where
  environment : Environment := {}
  files : Files := {}
  /-- The replies that the store will give. -/
  replies : List Client.Reply := []
  /-- The columns of the terminal. -/
  width : Nat := 80
  output : Text := []
  requests : List Client.Request := []
  changes : List Change := []
  sinks : Log.Sinks := {}
  events : List Log.Event := []
  deriving Inhabited

/-- The steps of a command, up to one that ends it early. -/
abbrev Steps := ExceptT Ending (StateM Work)

/-- A result that may be a fault. -/
def expect {ε α : Type} (fault : ε → Fault) : Except ε α → Steps α
  | .ok a => pure a
  | .error cause => throw (.broken (fault cause))

/-- Prints text as it is. -/
def print (text : Text) : Steps Unit :=
  modify fun work => { work with output := work.output ++ text }

/-- Prints lines. -/
def printLines (lines : List Text) : Steps Unit := print (lines.flatMap (· ++ ['\n']))

/-- Prints a message, which may hold marks for its style. -/
def say (message : Text) : Steps Unit := do
  let text ← expect .style (Terminal.unstyled message)
  printLines (Terminal.wrap (← get).width .plain .fold text)

/-- Prints a table. -/
def printTable (table : Terminal.Table) : Steps Unit := do
  printLines (table.lines (← get).width)

/-- Tells what is wrong, and ends the command. -/
def fail {α : Type} (message : Text) : Steps α := do
  say ("[red]Error:[/red] ".toList ++ message)
  throw .failed

/-- Adds to what has been reported. -/
def report (events : List Log.Event) : Steps Unit :=
  modify fun work => { work with events := work.events ++ events }

/-- Does something to the files. -/
def change (result : Except Files.Error Files) (change : Change) : Steps Unit := do
  let files ← expect .file result
  modify fun work => { work with files, changes := work.changes ++ [change] }

/-! ## Logging -/

/-- The name of the file that events go to. -/
def logFile : Text := "debug.jsonl".toList

/-- Chooses where events go. -/
def startLog (verbosity : Nat) (directory : Option Text) : Steps Unit := do
  if let some directory := directory then
    let path := Files.Path.ofText directory
    change ((← get).files.makeDirectory path) (.makeDirectory path)
    let file := path.child logFile
    change ((← get).files.touch file) (.touch file)
  modify fun work => { work with sinks := Log.Sinks.configure verbosity directory.isSome }

/-! ## Rendering -/

/-- The bytes of a file that is there; a path that leads nowhere gives none. -/
def bytesOf? (path : Files.Path) : Steps (Except Files.Error (Option Bytes)) := do
  match (← get).files.read path with
  | .ok bytes => return .ok (some bytes)
  | .error ⟨.absent, _⟩ | .error ⟨.notDirectory, _⟩ => return .ok none
  | .error ⟨.nameTooLong, path⟩ => throw (.broken (.file ⟨.nameTooLong, path⟩))
  | .error cause => return .error cause

/-- The configuration of a file, or the default one, with the variables of the environment in
place of its entries. -/
def loadConfig (file : Option Text) : Steps Config := do
  let config ←
    match file with
    | none => pure {}
    | some file =>
      let path := Files.Path.ofText file
      match ← bytesOf? path with
      | .error cause => fail (Config.failureMessage path.shown cause.message)
      | .ok bytes =>
        match Config.ofFile bytes with
        | .error cause => fail (Config.failureMessage path.shown cause.message)
        | .ok config => pure config
  match config.withEnvironment (← get).environment.config with
  | .error cause => fail (Config.failureMessage Config.progressVariable cause.message)
  | .ok config => return config

/-- A configuration with what a rendering asks for in place of its entries. -/
def Rendering.adjust (r : Rendering) (config : Config) : Config where
  api := { config.api with
    baseUrl := if (r.apiUrl.getD []).isEmpty then config.api.baseUrl else r.apiUrl.getD [] }
  spoilers := { config.spoilers with
    progress := r.progress.getD config.spoilers.progress
    showAll := r.showAll || config.spoilers.showAll }
  previews := { config.previews with compact := r.compact || config.previews.compact }
  embedsEnabled := config.embedsEnabled && !r.embedsOff

/-- The text of a file. Line ends of every kind count as one. -/
def readContent (file : Text) : Steps Text := do
  let path := Files.Path.ofText file
  match (← get).files.read path with
  | .error cause => fail ("Cannot read ".toList ++ path.shown ++ ": ".toList ++ cause.message)
  | .ok bytes => return Text.unifyNewlines (← expect .content (Text.ofUtf8 bytes))

/-- What the previews of a document ask for. -/
def callsOf (document : Document) : List Preview.Call :=
  document.current.filterMap fun p => p.kind?.map (⟨·, p.entity⟩)

/-- The document of a text with its previews, for which the entities have been looked up. -/
def resolve (config : Config) (content : Text) : Steps Document := do
  let client ← expect .token (Client.ofToken config.api.baseUrl config.api.token)
  let options := Document.Options.ofConfig config
  let document ← expect .document (Document.open? options (some {}) content)
  let (requests, replies) := client.answerEach (← get).replies (callsOf document)
  modify fun work => { work with requests := work.requests ++ requests }
  let script := Preview.Script.ofReplies replies
  let (document, _) := { document with session := { document.session with script } }.resolveAll
  return document.report
    (Log.event .info "spoilerdown.cli" "document_resolved"
      [("previews", .int document.current.length), ("base_url", .text config.api.baseUrl)])

/-- The page of a text. -/
def pageOf (config : Config) (content : Text) (offline : Bool) : Steps Text := do
  let document ←
    if offline then
      expect .document (Document.open? (Document.Options.ofConfig config) none content)
    else resolve config content
  let (document, html) := document.html
  report document.session.trace.events
  expect .page html

/-- Renders a file. -/
def render (r : Rendering) : Steps Unit := do
  let config := r.adjust (← loadConfig r.config)
  let html ← pageOf config (← readContent r.file) r.offline
  match r.output with
  | none => print (Terminal.withoutCodes 0 html)
  | some output => do
    let path := Files.Path.ofText output
    let bytes := Text.toUtf8 html
    change ((← get).files.write path bytes) (.write path bytes)
    say ("[green]✓[/green] Wrote ".toList ++ path.shown)

/-! ## The other commands -/

/-- Lists the embeds of a file. -/
def extract (file : Text) : Steps Unit := do
  let content ← readContent file
  let parsed ← expect .embeds (Embed.extract content)
  report (Tree.extractionEvents content parsed)
  if parsed.embeds.isEmpty then say "[dim]No embeds found.[/dim]".toList
  else
    let title ← expect .style
      (Terminal.unstyled ("Embeds in ".toList ++ (Files.Path.ofText file).name))
    printTable (embedTable title parsed.embeds)
    say (Text.ofNat parsed.embeds.length ++ " embed(s)".toList)

/-- The version of the program. -/
def version : Text := "0.1.0".toList

/-- What the words of a command line can be. -/
def help : List Text := [
  "Usage: spoilerdown [-v] [--log-dir DIRECTORY] COMMAND ...",
  "",
  "  render FILE [-c CONFIG] [-p CHAPTER] [-o OUTPUT] [--no-embeds] [--compact]",
  "              [--show-all] [--api-url URL] [--offline]",
  "  extract FILE",
  "  syntax",
  "  version"].map String.toList

/-- Does what is asked for. -/
def perform : Request → Steps Unit
  | .render rendering => render rendering
  | .extract file => extract file
  | .samples => do
    printTable embedSamples
    printTable spoilerSamples
  | .version => say ("spoilerdown v".toList ++ version)
  | .help => printLines help

/-- A result that may be a misuse. -/
def orMisused {α : Type} : Except UsageError α → Steps α
  | .ok a => pure a
  | .error cause => throw (.misused cause)

/-- The directory for events: the one that an option names, or the one that a variable names. -/
def logDirectory (opening : Opening) (environment : Environment) : Option Text :=
  match opening.logDirectory, environment.logDirectory with
  | none, [] => none
  | none, directory => some directory
  | directory, _ => directory

/-- The files that a request names. -/
def Request.files : Request → List Text
  | render rendering => rendering.file :: rendering.config.toList ++ rendering.output.toList
  | extract file => [file]
  | samples | version | help => []

/-- The paths that a command line names, as far as it can be read. -/
def pathsOf (environment : Environment) (words : List Text) : List Files.Path :=
  let named : Except UsageError (List Text) := do
    let opening ← Opening.read words
    let behind :=
      match opening.words with
      | [] => []
      | name :: words =>
        match (Name.ofText? name).map (Request.read · words) with
        | some (.ok request) => request.files
        | _ => []
    return (logDirectory opening environment).toList ++ behind
  (named.toOption.getD []).map Files.Path.ofText

/-- Runs a command line. -/
def runWords (words : List Text) : Steps Unit := do
  let opening ← orMisused (Opening.read words)
  if opening.help then printLines help
  else
    match opening.words with
    | [] => throw (.misused .commandMissing)
    | name :: words =>
      match Name.ofText? name with
      | none => throw (.misused (.unknownCommand name))
      | some name =>
        startLog opening.verbosity (logDirectory opening (← get).environment)
        perform (← orMisused (Request.read name words))

/-- Runs a command line: how it ends, and what it leaves behind. -/
def run (work : Work) (words : List Text) : Ending × Work :=
  match (runWords words).run.run work with
  | (.ok _, work) => (.done, work)
  | (.error ending, work) => (ending, work)

end Loremark.Command
