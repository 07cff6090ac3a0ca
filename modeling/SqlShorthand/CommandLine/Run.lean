import SqlShorthand.CommandLine.Report
import SqlShorthand.Literal
import SqlShorthand.Session.Exec
import SqlShorthand.Settings.Apply

/-!
# CommandLine/Run — a call of the program

A run is a function of the words, the environment and the files: it gives what is printed and the
exit code.  What was printed before a failure stays printed.
-/

namespace SqlShorthand.CommandLine

/-! ## Failures -/

/-- Why a run failed. -/
inductive Failure where
  /-- An argument is no `NAME=VALUE`. -/
  | noPair (text : String)
  | error (e : Error)
  /-- The settings of a file could not be applied. -/
  | applying (path : String) (e : Error)
  deriving Repr, DecidableEq

/-- An error and its causes. -/
def causes (e : Error) : List String :=
  match e with
  | .files fault => [e.message, fault.message]
  | _ => [e.message]

/-- A failure and its causes, the nearest first. -/
def Failure.causes : Failure → List String
  | noPair text => ["expected NAME=VALUE, got '" ++ text ++ "'"]
  | error e => CommandLine.causes e
  | applying path e => ("applying " ++ path) :: CommandLine.causes e

/-- What is printed of a failure. -/
def Failure.text (f : Failure) : String := unlines ["Error: " ++ ": ".intercalate f.causes]

/-- A computation that prints, and may fail after that. -/
abbrev Run := ExceptT Failure (StateM String)

/-- Prints a text. -/
def print (text : String) : Run Unit := modify (· ++ text)

/-- Goes on with a value, or fails with an error. -/
def liftError {α : Type} : Except Error α → Run α
  | .ok a => pure a
  | .error e => throw (.error e)

/-- Goes on with a value, or fails. -/
def liftFailure {α : Type} : Except Failure α → Run α
  | .ok a => pure a
  | .error f => throw f

/-! ## Values -/

/-- The value that a text denotes: raw SQL after `sql:`, else a constant, a number or the text. -/
def valueOf (text : String) : Value :=
  match "sql:".toList.isPrefixOf? text.toList with
  | some raw => .raw (.ofList raw)
  | none =>
    if text == "null" || text == "NULL" then .null
    else if text == "true" then .bool true
    else if text == "false" then .bool false
    else
      match Decimal.signed64? text.toList, Decimal.float? text.toList with
      | some n, _ => .int n
      | none, some x => .float x
      | none, none => .text text

/-- The name and the value of a pair. -/
def pairOf (text : String) : Except Failure (String × Value) :=
  match Text.splitOnce? ['='] text.toList with
  | some (name, value) => .ok (.ofList (Text.trim name), valueOf (.ofList value))
  | none => .error (.noPair text)

/-- The record of a list of pairs; a later value of a name takes its place. -/
def recordOf (texts : List String) : Except Failure Record :=
  match texts.mapM pairOf with
  | .ok pairs => .ok (.ofList pairs)
  | .error f => .error f

/-- The record of a list of pairs as an argument, none for no pairs. -/
def namedOf (texts : List String) : Except Failure (List Params) :=
  if texts.isEmpty then .ok [] else (recordOf texts).map fun r => [.named r]

/-- The arguments of the command: column values, then named values or else values by position. -/
def paramsOf (a : Arguments) : Except Failure (List Params) := do
  let columns ← namedOf a.set
  let values ← namedOf a.bind
  if a.bind.isEmpty && !a.positional.isEmpty then
    return columns ++ [.positional (a.positional.map valueOf)]
  else return columns ++ values

/-! ## Settings -/

/-- What a run finds around it. -/
structure Surroundings where
  files : Files.Tree
  /-- The settings file that the environment names. -/
  config : Option String := none
  /-- The folder of the user's settings. -/
  userFolder : Option String := none
  /-- The time in seconds. -/
  now : Int := 0

/-- The places where a settings file is looked for. -/
def searchPaths (w : Surroundings) : List String :=
  "rapidsql.toml" :: (w.userFolder.map (· ++ "/rapidsql/config.toml")).toList

/-- Whether a regular file is at a path. -/
def hasFile (t : Files.Tree) (path : String) : Bool :=
  match t.find (Files.components path) with
  | .ok n => n.isFile
  | .error _ => false

/-- The settings file that counts: the one that was named, or the first that is found. -/
def settingsPath? (w : Surroundings) (named : Option String) : Option String :=
  match named with
  | some path => some path
  | none => (searchPaths w).find? (hasFile w.files)

/-- The settings in a file. -/
def loadSettings (t : Files.Tree) (path : String) : Except Error Settings :=
  match t.readText (Files.components path) with
  | .error fault => .error (.files fault)
  | .ok text =>
    match Settings.parse? text with
    | some settings => .ok settings
    | none => .error (.settings ("cannot read " ++ path))

/-- A gateway that opens no link. -/
structure Offline where

instance : Gateway Offline Empty where
  connect g config := (.error (.connection ("cannot reach " ++ config.host)), g)
  quote _ := Literal.quote
  fetch _ link := nomatch link
  execute _ link := nomatch link
  lastInsertId _ link := nomatch link
  transact _ link := nomatch link

/-- The session of a run. -/
abbrev RunSession := Session Offline Empty AnyStore

/-- The cache that the settings ask for, in the files around the run or in memory. -/
def newCache (w : Surroundings) (path : Option String) : Cache AnyStore :=
  { store := match path with
      | some folder => .files { tree := w.files, folder, stamp := w.now }
      | none => .memory {}
    clock := .fixed w.now }

/-- The session that the settings set up, and whether it has a connection. -/
def openSession (w : Surroundings) (a : Arguments) : Run (RunSession × Bool) := do
  let fresh : RunSession := { gateway := {} }
  match settingsPath? w a.config with
  | none => return (fresh, false)
  | some path =>
    let settings ← liftError (loadSettings w.files path)
    if a.verbose then print (unlines ["Config: " ++ path])
    match settings.apply (newCache w) fresh with
    | (.error e, _) => throw (.applying path e)
    | (.ok ids, s) => return (s, !ids.isEmpty)

/-! ## Tasks -/

/-- Compiles a command and shows the statement. -/
def showStatement (s : RunSession) (command : String) (args : List Params) : Run Unit := do
  let c ← liftError (s.tokenize command)
  let stmt ← liftError (c.compile (.resolve c.options) args)
  print (statementText stmt)

/-- The call of a command. -/
def callOf (a : Arguments) (command : String) (args : List Params) : Call :=
  let call : Call := { command, args }
  match a.template with
  | some template => call.decorate (Text.replace "\\n" "\n" template)
  | none => call

/-- Runs a command, or shows what would be run. -/
def execute (w : Surroundings) (a : Arguments) (command : String) : Run Unit := do
  if a.verbose then print (unlines ["Input: " ++ command])
  let args ← liftFailure (paramsOf a)
  let (s, configured) ← openSession w a
  if a.dryRun || !configured then
    showStatement s command args
    if !configured && !a.dryRun then print unconfiguredText
  else
    let output ← liftError (s.exec (callOf a command args)).1
    print (resultText output (a.format.getD .table))

/-- Shows the parts of a command and what it compiles to. -/
def explain (w : Surroundings) (a : Arguments) (command : String) : Run Unit := do
  print (explainHead command)
  let (s, _) ← openSession w a
  let c ← liftError (s.tokenize command)
  let options := Options.resolve c.options
  print (structureText c options)
  let args ← liftFailure (paramsOf a)
  match c.compile options args with
  | .ok stmt => print (explainedSql stmt.sql)
  | .error (.notSql _) => print explainedControl
  | .error e => throw (.error e)

/-- Does what the arguments ask for. -/
def perform (w : Surroundings) (a : Arguments) : Run Unit :=
  match a.task, a.command with
  | some (.explain command), _ => explain w a command
  | some .verbs, _ => print verbsText
  | none, some command => execute w a command
  | none, none => print usageText

/-- What a run leaves behind. -/
structure Outcome where
  code : UInt8
  stdout : String
  stderr : String
  deriving Repr, DecidableEq

/-- The outcome of arguments that cannot be followed. -/
def Halt.outcome : Halt → Outcome
  | refused => { code := 2, stdout := "", stderr := refusalText }
  | help => { code := 0, stdout := helpText, stderr := "" }
  | version => { code := 0, stdout := versionText, stderr := "" }

/-- A call of the program. -/
def run (w : Surroundings) (words : List String) : Outcome :=
  match parse w.config words with
  | .error halt => halt.outcome
  | .ok a =>
    match ((perform w a).run).run "" with
    | (.ok (), text) => { code := 0, stdout := text, stderr := "" }
    | (.error f, text) => { code := 1, stdout := text, stderr := f.text }

end SqlShorthand.CommandLine
