import TsOutline.CommandLine.Arguments
import TsOutline.Value
import TsOutline.Exclusion
import TsOutline.Text.Numeral

/-!
# Usages of the Programs

What the command line and the tool service accept, and the typed arguments they get. A program stops
early for help or for a fault, which is reported under the name of the program or command it
belongs to.
-/

namespace TsOutline.CommandLine

/-! ## §1 Options -/

/-- Asks for help. -/
def helpSwitch : Switch := ⟨.help, ["-h", "--help"], false⟩

/-- Names the config file. -/
def configSwitch : Switch := ⟨.config, ["--config"], true⟩

/-- Gives the depth budget. -/
def typeDepthSwitch : Switch := ⟨.typeDepth, ["--type-depth"], true⟩

/-- Gives a blacklist. -/
def blacklistSwitch : Switch := ⟨.blacklist, ["--blacklist"], true⟩

/-- The commands of the command line. -/
inductive Command where
  | scan
  | parse
  deriving Repr, DecidableEq

/-- The name of a command. -/
def Command.name : Command → String
  | scan => "scan"
  | parse => "parse"

/-- All commands. -/
def Command.all : List Command := [.scan, .parse]

/-- The command of a name. -/
def Command.ofName? (s : String) : Option Command :=
  Command.all.find? fun c => c.name == s

/-- The name of the command line. -/
def program : String := "project-structure"

/-- The command line takes a command. -/
def mainUsage : Usage :=
  ⟨program, [helpSwitch], some ⟨"command", .command⟩⟩

/-- The usage of `scan`. -/
def scanUsage : Usage :=
  ⟨program ++ " " ++ Command.scan.name,
   [helpSwitch, configSwitch, typeDepthSwitch, ⟨.exportedOnly, ["--exported-only"], false⟩,
    blacklistSwitch, ⟨.format, ["--format"], true⟩, ⟨.noTypes, ["--no-types"], false⟩],
   some ⟨"directory", .atMostOne⟩⟩

/-- The usage of `parse`. -/
def parseUsage : Usage :=
  ⟨program ++ " " ++ Command.parse.name, [helpSwitch, configSwitch, typeDepthSwitch],
   some ⟨"file", .one⟩⟩

/-- The usage of the tool service. -/
def serviceUsage : Usage :=
  ⟨program ++ "-service", [helpSwitch, configSwitch, ⟨.workspace, ["--workspace"], true⟩, blacklistSwitch],
   none⟩

/-! ## §2 Stopping early -/

/-- Why a program does not get to work. -/
inductive Stop where
  | help
  | fault (program : String) (fault : Fault)
  deriving Repr, DecidableEq

/-- The line that reports a fault. -/
def faultLine (program : String) (fault : Fault) : String :=
  program ++ ": error: " ++ fault.message

/-! ## §3 Typed arguments -/

/-- The arguments of all commands; each command uses some of them. -/
structure Arguments where
  positional : Option String
  config : Option String
  /-- The depth; any value but a number comes from an option whose value was the mark `--`. -/
  typeDepth : Option Value
  blacklist : Option (List String)
  exportedOnly : Bool
  noTypes : Bool
  asJson : Bool
  deriving Inhabited

/-- Nothing given. -/
def Arguments.none : Arguments :=
  ⟨.none, .none, .none, .none, false, false, false⟩

/-- The output formats. -/
def formats : List String := ["markdown", "json"]

/-- Takes one option. -/
def takeOption (a : Arguments) (s : Switch) (values : List String) :
    Except Fault Arguments :=
  match s.key, values with
  | .help, _ => .ok a
  | .config, _ => .ok { a with config := values.head? }
  | .workspace, _ => .ok a
  | .blacklist, _ =>
    .ok { a with blacklist := some (Exclusion.entriesOf (values.head?.getD "")) }
  | .exportedOnly, _ => .ok { a with exportedOnly := true }
  | .noTypes, _ => .ok { a with noTypes := true }
  | .typeDepth, v :: _ =>
    match Text.readInt? v with
    | some n => .ok { a with typeDepth := some (.int n) }
    | none => .error (.badInteger s.label v)
  | .typeDepth, [] => .ok { a with typeDepth := some (.list []) }
  | .format, v :: _ =>
    if formats.contains v then .ok { a with asJson := v == "json" }
    else .error (.badChoice s.label v formats)
  | .format, [] => .ok { a with asJson := false }

/-- Takes everything that a trace gives, in order. Help stops at once. -/
def takeEvents (u : Usage) (a : Arguments) : List Event → Except Stop Arguments
  | [] => .ok a
  | .positional values :: rest => takeEvents u { a with positional := values.head? } rest
  | .option s values :: rest =>
    if s.key = .help then .error .help
    else
      match takeOption a s values with
      | .ok a' => takeEvents u a' rest
      | .error fault => .error (.fault u.program fault)

/-- The arguments and what is left over. -/
def takeTrace (u : Usage) (t : Trace) : Except Stop (Arguments × List String) :=
  match takeEvents u .none t.events with
  | .error stop => .error stop
  | .ok a =>
    match t.fault? with
    | some fault => .error (.fault u.program fault)
    | none => .ok (a, t.extras)

/-- The usage of a command. -/
def Command.usage : Command → Usage
  | scan => scanUsage
  | parse => parseUsage

/-- Reads the arguments of a command; the first is its name. -/
def readCommand (args : List String) : Except Stop (Command × Arguments × List String) :=
  let name := args.head?.getD ""
  match Command.ofName? name with
  | none => .error (.fault program (.badChoice "command" name (Command.all.map Command.name)))
  | some command =>
    match takeTrace command.usage (read command.usage args.tail) with
    | .error stop => .error stop
    | .ok (a, extras) => .ok (command, a, extras)

/-- Follows the events of the command line itself, up to its command. -/
def takeCommand : List Event → Option Fault → Except Stop (Command × Arguments × List String)
  | [], some fault => .error (.fault program fault)
  | [], none => .error (.fault program (.missing "command"))
  | .option _ _ :: _, _ => .error .help
  | .positional args :: _, _ => readCommand args

/-- The command and its arguments. Nothing may be left over. -/
def readMain (args : List String) : Except Stop (Command × Arguments) :=
  let t := read mainUsage args
  match takeCommand t.events t.fault? with
  | .error stop => .error stop
  | .ok (command, a, extras) =>
    match t.extras ++ extras with
    | [] => .ok (command, a)
    | rest => .error (.fault program (.unrecognized rest))

/-- The arguments of the tool service. Nothing may be left over. -/
def readService (args : List String) : Except Stop Arguments :=
  match takeTrace serviceUsage (read serviceUsage args) with
  | .error stop => .error stop
  | .ok (a, []) => .ok a
  | .ok (_, rest) => .error (.fault serviceUsage.program (.unrecognized rest))

end TsOutline.CommandLine
