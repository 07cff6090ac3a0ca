/-!
# CommandLine/Arguments — what the program is asked to do

Words with hyphens name options; of the others the first is the command, unless it names a task of
its own, which then has all the words after it.  After `--` every word stands for itself.  Reading
stops at the first word that breaks a rule, or that asks for the help or the version.
-/

namespace SqlShorthand.CommandLine

/-- How a result is printed. -/
inductive Format where
  | table
  | json
  deriving Repr, DecidableEq

/-- The format with a name. -/
def Format.ofName? (name : String) : Option Format :=
  if name == "table" then some table else if name == "json" then some json else none

/-- A task other than running a command. -/
inductive Task where
  | explain (command : String)
  | verbs
  deriving Repr, DecidableEq

/-- What the words ask for; an option that is not there has its resting value. -/
structure Arguments where
  command : Option String := none
  dryRun : Bool := false
  /-- Column values, as `NAME=VALUE`. -/
  set : List String := []
  /-- Named values, as `NAME=VALUE`. -/
  bind : List String := []
  /-- Values by position. -/
  positional : List String := []
  template : Option String := none
  format : Option Format := none
  config : Option String := none
  verbose : Bool := false
  task : Option Task := none
  deriving Repr, DecidableEq

/-- Why reading stopped. -/
inductive Halt where
  | refused
  | help
  | version
  deriving Repr, DecidableEq

/-- The options. -/
inductive Name where
  | dryRun
  | verbose
  | help
  | version
  | set
  | bind
  | positional
  | template
  | format
  | config
  deriving Repr, DecidableEq

namespace Name

/-- The names after two hyphens. -/
def long : List (String × Name) :=
  [("dry-run", dryRun), ("verbose", verbose), ("help", help), ("version", version), ("set", set),
   ("bind", bind), ("arg", positional), ("decorate", template), ("format", format),
   ("config", config)]

/-- The letters after one hyphen. -/
def short : List (Char × Name) :=
  [('d', dryRun), ('v', verbose), ('h', help), ('V', version), ('s', set), ('b', bind),
   ('a', positional), ('f', format), ('c', config)]

/-- Whether the option has a value. -/
def takesValue : Name → Bool
  | dryRun | verbose | help | version => false
  | set | bind | positional | template | format | config => true

end Name

namespace Arguments

/-- Takes an option without a value; twice is refused. -/
def raise (a : Arguments) : Name → Except Halt Arguments
  | .dryRun => if a.dryRun then .error .refused else .ok { a with dryRun := true }
  | .verbose => if a.verbose then .error .refused else .ok { a with verbose := true }
  | .help => .error .help
  | .version => .error .version
  | _ => .error .refused

/-- Takes an option with its value.  Values of `--set`, `--bind` and `--arg` add up; any other
option is refused the second time. -/
def give (a : Arguments) (name : Name) (value : String) : Except Halt Arguments :=
  match name with
  | .set => .ok { a with set := a.set ++ [value] }
  | .bind => .ok { a with bind := a.bind ++ [value] }
  | .positional => .ok { a with positional := a.positional ++ [value] }
  | .template =>
    if a.template.isSome then .error .refused else .ok { a with template := some value }
  | .format =>
    match a.format, Format.ofName? value with
    | none, some format => .ok { a with format := some format }
    | _, _ => .error .refused
  | .config =>
    if a.config.isSome || value.isEmpty then .error .refused
    else .ok { a with config := some value }
  | _ => .error .refused

/-- Takes a word as the command; there is one only. -/
def takeCommand (a : Arguments) (word : String) : Except Halt Arguments :=
  if a.command.isSome then .error .refused else .ok { a with command := some word }

/-- Takes an option by its long name, with the value after an equals sign if there was one.  The
option that still waits for its value comes back with the arguments. -/
def takeLong (a : Arguments) (name : Name) (value : Option String) :
    Except Halt (Arguments × Option Name) :=
  match name.takesValue, value with
  | true, some value => (a.give name value).map (·, none)
  | true, none => .ok (a, some name)
  | false, none => (a.raise name).map (·, none)
  | false, some _ => .error .refused

/-- Takes the letters after one hyphen.  A letter that has a value takes all that follows it as the
value, without an equals sign in front. -/
def takeLetters (a : Arguments) : List Char → Except Halt (Arguments × Option Name)
  | [] => .ok (a, none)
  | c :: rest =>
    match Name.short.lookup c with
    | none => .error .refused
    | some name =>
      if name.takesValue then
        match rest with
        | [] => .ok (a, some name)
        | '=' :: value => (a.give name (.ofList value)).map (·, none)
        | value => (a.give name (.ofList value)).map (·, none)
      else
        match a.raise name with
        | .ok a => a.takeLetters rest
        | .error halt => .error halt

/-- The name and the value of a long option's text. -/
def splitLong (text : List Char) : String × Option String :=
  (.ofList (text.takeWhile (· != '=')),
   match text.dropWhile (· != '=') with
   | _ :: value => some (.ofList value)
   | [] => none)

/-- Takes a word that names no task. -/
def takeWord (a : Arguments) (word : String) : Except Halt (Arguments × Option Name) :=
  match word.toList with
  | '-' :: '-' :: text =>
    let (name, value) := splitLong text
    match Name.long.lookup name with
    | some name => a.takeLong name value
    | none => .error .refused
  | '-' :: c :: rest => a.takeLetters (c :: rest)
  | _ => (a.takeCommand word).map (·, none)

end Arguments

/-- Whether a word cannot be the value of an option before it. -/
def isOption (word : String) : Bool :=
  match word.toList with
  | '-' :: _ :: _ => true
  | _ => false

/-- The words of a task, at most `limit`; `plain` says that `--` was there. -/
def operands (limit : Nat) (plain : Bool) (found : List String) :
    List String → Except Halt (List String)
  | [] => .ok found
  | word :: rest =>
    if !plain && word == "--" then operands limit true found rest
    else if !plain && isOption word then
      if word == "--help" || word.toList.take 2 == ['-', 'h'] then .error .help
      else .error .refused
    else if found.length < limit then operands limit plain (found ++ [word]) rest
    else .error .refused

/-- What the words after `help` lead to. -/
def helpTopic : List String → Halt
  | [] => .help
  | [topic] => if ["explain", "verbs", "help"].contains topic then .help else .refused
  | _ => .refused

/-- Reads words; `waiting` is the option that has the next word as its value. -/
def readWords (a : Arguments) (waiting : Option Name) : List String → Except Halt Arguments
  | [] => if waiting.isSome then .error .refused else .ok a
  | word :: rest =>
    match waiting with
    | some name =>
      if isOption word then .error .refused
      else
        match a.give name word with
        | .ok a => readWords a none rest
        | .error halt => .error halt
    | none =>
      if word == "explain" then
        match operands 1 false [] rest with
        | .ok [command] => .ok { a with task := some (.explain command) }
        | .ok _ => .error .refused
        | .error halt => .error halt
      else if word == "verbs" then
        match operands 0 false [] rest with
        | .ok _ => .ok { a with task := some .verbs }
        | .error halt => .error halt
      else if word == "help" then .error (helpTopic rest)
      else if word == "--" then rest.foldlM Arguments.takeCommand a
      else
        match a.takeWord word with
        | .ok (a, waiting) => readWords a waiting rest
        | .error halt => .error halt

/-- Takes the settings file that the environment names, if the words name none. -/
def withEnvironment (config : Option String) (a : Arguments) : Except Halt Arguments :=
  match a.config, config with
  | none, some path => a.give .config path
  | _, _ => .ok a

/-- Reads the words of the program's call. -/
def parse (config : Option String) (words : List String) : Except Halt Arguments :=
  match readWords {} none words with
  | .ok a => withEnvironment config a
  | .error halt => .error halt

end SqlShorthand.CommandLine
