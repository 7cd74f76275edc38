import FrameGraph.Decimal.Integer

/-!
# Arguments

Options have a long name behind two dashes, and some also a letter behind one. The value of an
option is the next argument, or stands behind an equals sign, or directly behind the letter. No
option may be given twice, and nothing but options is accepted.
-/

namespace FrameGraph.CommandLine

/-- What the program is asked to do. -/
structure Arguments where
  /-- The file with the description of the graph. -/
  config : Option String := none
  /-- How many seconds to run; zero means without end. -/
  duration : Option Nat := none
  /-- The seconds between two reports on statistics. -/
  statsInterval : Option Nat := none
  logFilter : Option String := none
  /-- Whether to list the types of blocks, and nothing else. -/
  listTypes : Bool := false
  deriving DecidableEq, Repr

/-- What arguments ask for. -/
inductive Request
  | run (a : Arguments)
  | help
  deriving DecidableEq, Repr

/-- An option. -/
inductive Flag
  | config
  | duration
  | statsInterval
  | logFilter
  | listTypes
  | help
  deriving DecidableEq, Repr

namespace Flag

def ofName? : String → Option Flag
  | "config" => some config
  | "duration" => some duration
  | "stats-interval" => some statsInterval
  | "log-filter" => some logFilter
  | "list-types" => some listTypes
  | "help" => some help
  | "version" => some help
  | _ => none

def ofLetter? : Char → Option Flag
  | 'c' => some config
  | 'd' => some duration
  | 'h' => some help
  | 'V' => some help
  | _ => none

def takesValue : Flag → Bool
  | listTypes | help => false
  | _ => true

end Flag

namespace Arguments

/-- Fill a field that was not filled before. -/
def once {α : Type} (old : Option α) (new : Option α) : Option (Option α) :=
  match old, new with
  | none, some a => some (some a)
  | _, _ => none

def seconds? (value : String) : Option Nat :=
  match Decimal.readNat (0xffffffffffffffff) value with
  | .ok n => some n
  | .error _ => none

def set (a : Arguments) (flag : Flag) (value : String) : Option Arguments :=
  match flag with
  | .config =>
    (once a.config (if value.isEmpty then none else some value)).map fun config => { a with config }
  | .duration => (once a.duration (seconds? value)).map fun duration => { a with duration }
  | .statsInterval =>
    (once a.statsInterval (seconds? value)).map fun statsInterval => { a with statsInterval }
  | .logFilter => (once a.logFilter (some value)).map fun logFilter => { a with logFilter }
  | .listTypes => if a.listTypes then none else some { a with listTypes := true }
  | .help => some a

end Arguments

/-! ### Reading -/

/-- How an argument is to be understood. -/
inductive Token
  | option (flag : Flag) (value : Option String)
  /-- The end of the options. -/
  | stop
  | other

/-- The text behind an equals sign in front. -/
def afterEquals : List Char → List Char
  | '=' :: value => value
  | value => value

def Token.ofArgument (arg : String) : Token :=
  match arg.toList with
  | ['-', '-'] => .stop
  | '-' :: '-' :: cs =>
    let name := cs.takeWhile (· != '=')
    match Flag.ofName? (String.ofList name), cs.drop name.length with
    | some flag, [] => .option flag none
    | some flag, rest => .option flag (some (String.ofList (afterEquals rest)))
    | none, _ => .other
  | '-' :: letter :: rest =>
    match Flag.ofLetter? letter with
    | some flag =>
      if rest.isEmpty then .option flag none
      else .option flag (some (String.ofList (afterEquals rest)))
    | none => .other
  | _ => .other

/-- Whether an argument can be the value of the option before it. -/
def isValue (arg : String) : Bool := arg == "-" || arg.toList.head? != some '-'

/-- Read arguments after those that `a` comes from; wrong arguments have no meaning. -/
def readFrom (a : Arguments) : List String → Option Request
  | [] => some (.run a)
  | arg :: rest =>
    match Token.ofArgument arg, rest with
    | .option .help _, _ => some .help
    | .option flag value, rest =>
      match flag.takesValue, value, rest with
      | true, some value, rest => do readFrom (← a.set flag value) rest
      | true, none, value :: rest =>
        if isValue value then do readFrom (← a.set flag value) rest else none
      | false, none, rest => do readFrom (← a.set flag "") rest
      | _, _, _ => none
    | .stop, [] => some (.run a)
    | _, _ => none

def read (args : List String) : Option Request := readFrom {} args

end FrameGraph.CommandLine
