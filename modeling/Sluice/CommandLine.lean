import Sluice.Local
import Sluice.Repl

/-!
# The command line

The options of the program and what it does with them: it prints its settings, or executes one
line, or talks with the operator. It ends with 0 if all went well, with 1 if a line failed, and
with 2 if the options cannot be understood.
-/

namespace Sluice

structure Options where
  /-- The line to execute; without one, the operator is asked. -/
  command : Option String
  /-- Where the overlay of the settings is. -/
  config : Option String
  /-- The saved session to begin with. -/
  session : Option String
  dumpConfig : Bool
  yes : Bool
  verbose : Bool
deriving DecidableEq

inductive Invocation where
  | run (options : Options)
  | help
  | version
deriving DecidableEq

inductive UsageFault where
  | unexpected (argument : String)
  | missingValue (option : String)
  | repeated (option : String)
  | valueRefused (option value : String)
deriving DecidableEq

namespace UsageFault

def message : UsageFault → String
  | unexpected argument => s!"unexpected argument '{argument}' found"
  | missingValue option => s!"a value is required for '{option}' but none was supplied"
  | repeated option => s!"the argument '{option}' cannot be used multiple times"
  | valueRefused option value =>
    s!"unexpected value '{value}' for '{option}' found; no more were expected"

end UsageFault

namespace Options

def none : Options := ⟨.none, .none, .none, false, false, false⟩

/-- What an option wants to know. -/
inductive Flag where
  | command
  | config
  | session
  | dumpConfig
  | yes
  | verbose
  | help
  | version
deriving DecidableEq

namespace Flag

def display : Flag → String
  | command => "--command <LINE>"
  | config => "--config <PATH>"
  | session => "--session <NAME>"
  | dumpConfig => "--dump-config"
  | yes => "--yes"
  | verbose => "--verbose"
  | help => "--help"
  | version => "--version"

def ofName? (name : String) : Option Flag :=
  match name with
  | "command" => some command
  | "config" => some config
  | "session" => some session
  | "dump-config" => some dumpConfig
  | "yes" => some yes
  | "verbose" => some verbose
  | "help" => some help
  | "version" => some version
  | _ => .none

def ofLetter? (letter : Char) : Option Flag :=
  match letter with
  | 'c' => some command
  | 'y' => some yes
  | 'v' => some verbose
  | 'h' => some help
  | 'V' => some version
  | _ => .none

def takesValue : Flag → Bool
  | command | config | session => true
  | _ => false

end Flag

/-- Records a value unless there is one. -/
def setText (flag : Flag) (value : String) (o : Options) : Except UsageFault Options :=
  match flag with
  | .command =>
    if o.command.isSome then .error (.repeated flag.display)
    else .ok { o with command := some value }
  | .session =>
    if o.session.isSome then .error (.repeated flag.display)
    else .ok { o with session := some value }
  | .config =>
    if value.isEmpty then .error (.missingValue flag.display)
    else if o.config.isSome then .error (.repeated flag.display)
    else .ok { o with config := some value }
  | _ => .error (.valueRefused flag.display value)

/-- Records an option without a value unless it has been given. -/
def setSwitch (flag : Flag) (o : Options) : Except UsageFault Options :=
  match flag with
  | .dumpConfig =>
    if o.dumpConfig then .error (.repeated flag.display) else .ok { o with dumpConfig := true }
  | .yes => if o.yes then .error (.repeated flag.display) else .ok { o with yes := true }
  | .verbose =>
    if o.verbose then .error (.repeated flag.display) else .ok { o with verbose := true }
  | _ => .ok o

/-- Whether an argument is taken for a value and not for an option. -/
def isValue (argument : String) : Bool :=
  match argument.toList with
  | '-' :: _ :: _ => false
  | _ => true

/-- What one argument comes to. -/
inductive Reading where
  | read (options : Options)
  /-- The next argument is the value. -/
  | wanting (flag : Flag) (options : Options)
  | finished (invocation : Invocation)

/-- Reads letters behind one dash. A value may follow its letter at once. -/
def readLetters : List Char → Options → Except UsageFault Reading
  | [], o => .ok (.read o)
  | c :: cs, o =>
    match Flag.ofLetter? c with
    | .none => .error (.unexpected (String.ofList ['-', c]))
    | some .help => .ok (.finished .help)
    | some .version => .ok (.finished .version)
    | some flag =>
      if flag.takesValue then
        match cs with
        | [] => .ok (.wanting flag o)
        | '=' :: value => (o.setText flag (String.ofList value)).map .read
        | value => (o.setText flag (String.ofList value)).map .read
      else
        match o.setSwitch flag with
        | .error e => .error e
        | .ok o => readLetters cs o

def readName (written : String) (o : Options) : Except UsageFault Reading :=
  let (name, value?) := match Text.splitOnce? '=' written with
    | some (name, value) => (name, some value)
    | .none => (written, .none)
  match Flag.ofName? name, value? with
  | .none, _ => .error (.unexpected s!"--{name}")
  | some flag, some value =>
    if flag.takesValue then (o.setText flag value).map .read
    else .error (.valueRefused flag.display value)
  | some .help, .none => .ok (.finished .help)
  | some .version, .none => .ok (.finished .version)
  | some flag, .none =>
    if flag.takesValue then .ok (.wanting flag o) else (o.setSwitch flag).map .read

def readArgument (argument : String) (o : Options) : Except UsageFault Reading :=
  match argument.toList with
  | '-' :: '-' :: name => readName (String.ofList name) o
  | '-' :: c :: cs => readLetters (c :: cs) o
  | _ => .error (.unexpected argument)

/-- Reads arguments one after the other. Behind `--` there are no options, and nothing else is
expected. -/
def readAll : List String → Options → Except UsageFault Invocation
  | [], o => .ok (.run o)
  | "--" :: rest, o =>
    match rest with
    | [] => .ok (.run o)
    | argument :: _ => .error (.unexpected argument)
  | argument :: rest, o =>
    match readArgument argument o with
    | .error e => .error e
    | .ok (.finished invocation) => .ok invocation
    | .ok (.read o) => readAll rest o
    | .ok (.wanting flag o) =>
      match rest with
      | [] => .error (.missingValue flag.display)
      | value :: rest =>
        if isValue value then
          match o.setText flag value with
          | .error e => .error e
          | .ok o => readAll rest o
        else .error (.missingValue flag.display)

end Options

namespace CommandLine

open Host

def versionText : String := "cx 0.3.0"

def helpText : String := String.intercalate "\n"
  ["Compose, pipe and persist data-workflow commands", "", "Usage: cx [OPTIONS]", "", "Options:",
    "  -c, --command <LINE>  Run one line non-interactively",
    "      --config <PATH>   Config overlay to merge instead of ~/.config/cx-shell/config.toml",
    "      --session <NAME>  Saved session to load at start-up",
    "      --dump-config     Print the merged configuration and exit",
    "  -y, --yes             Answer yes to every confirmation",
    "  -v, --verbose         Debug logging on stderr",
    "  -h, --help            Print help",
    "  -V, --version         Print version"]

def loadLine (name : String) : String :=
  s!"session load {name}"

def openLog (home : String) : Act host Unit := do
  tell (.makeDirectory (History.directory home))
  tell (.appendFile (Location.join (History.directory home) "cx.log") "")

def station (config : Config) (home : String) (roots : List String) (consent : Consent) :
    Station (List Root) × Standing (List Root) :=
  ({ shell := ⟨Registry.builtin config.disabled, config.output⟩
     meet := (Local.ofConfig config home consent).meet
     history := if config.history then some home else none },
    ⟨Session.empty, Workspace.initial home roots⟩)

def runOnce (config : Config) (home : String) (roots : List String) (session : Option String)
    (line : String) : Act host Nat := do
  let (station, now) := station config home roots .never
  let (ready, now) ← match session with
    | some name => station.runUnrecorded (loadLine name) now
    | none => pure (true, now)
  if !ready then return 1
  let (good, _) ← station.runLine line now
  return if good then 0 else 1

def talk (config : Config) (home : String) (roots : List String) (session : Option String)
    (limit : Nat) : Act host Nat := do
  let (station, now) := station config home roots .operator
  let (_, now) ← match session with
    | some name => station.runUnrecorded (loadLine name) now
    | none => pure (true, now)
  let _ ← station.converse limit now
  return 0

def run (o : Options) (limit : Nat) : Act host Nat := do
  let config ← Config.load o.config
  let config := { config with assumeYes := config.assumeYes || o.yes }
  if o.dumpConfig then
    tell (.print config.document)
    return 0
  let home ← config.homePath
  openLog home
  let roots ← config.rootPaths
  match o.command with
  | some line => runOnce config home roots o.session line
  | none => talk config home roots o.session limit

/-- The program from its arguments to its status. `limit` bounds the operator's lines. -/
def start (arguments : List String) (limit : Nat) : Act host Nat :=
  match Options.readAll arguments Options.none with
  | .error fault => do
    complainLine s!"error: {fault.message}\n\nFor more information, try '--help'."
    return 2
  | .ok .help => do
    printLine helpText
    return 0
  | .ok .version => do
    printLine versionText
    return 0
  | .ok (.run o) => run o limit

end CommandLine

end Sluice
