import Guardhouse.CommandLine.Options
import Guardhouse.Simulation
import Guardhouse.Simulation.Scenario.Reading

/-!
# The command line

The program runs one simulation and reports what the guard did. What it does to its surroundings is
data: a `Program` reads and writes files, prints, and ends with a code. Whoever runs it answers what
a file holds and whether one could be written.
-/

namespace Guardhouse
namespace CommandLine

/-- Something to print. -/
inductive Output where
  /-- A line of the report. -/
  | line (text : String)
  /-- An entry of the journal. -/
  | entry (e : Journal.Entry)

/-- What a program does. -/
inductive Program where
  /-- Reads a file, which may not be there. -/
  | read (path : String) (next : Option ByteArray → Program)
  /-- Writes a file, if it can be. -/
  | write (path text : String) (next : Bool → Program)
  | print (outputs : List Output) (next : Program)
  /-- Ends with a code, perhaps with a complaint. -/
  | stop (code : UInt32) (complaint : Option String)

/-- The help text. -/
def help : List String :=
  ["Headless guard AI simulation",
    "",
    "Usage: guard-sim [OPTIONS]",
    "",
    "Options:",
    "  -s, --scenario <SCENARIO>    Scenario file (YAML). " ++
      "Uses the built-in courtyard scenario when omitted",
    "      --ticks <TICKS>          Number of frames to simulate [default: 300]",
    "      --dt <DT>                Seconds per frame [default: 0.1]",
    "      --seed <SEED>            Seed for per-guard randomness [default: 0]",
    "      --debug                  Per-tick behavior tree diagnostics",
    "      --frames                 Print every frame",
    "      --trace-out <TRACE_OUT>  Write the trace log as JSON",
    "  -v, --verbose                Verbose output",
    "  -h, --help                   Print help",
    "  -V, --version                Print version"]

/-- The version text. -/
def version : List String := ["guard-sim 0.1.0"]

namespace Options

/-- Whether an entry of the journal is to be printed: the more important ones, and all but the least
important ones if the output is to be verbose. -/
def prints (o : Options) (e : Journal.Entry) : Bool :=
  match e.level with
  | .trace => false
  | .debug => o.verbose
  | .info => true
  | .warn => true

/-- What is printed about a frame. -/
def outputs (o : Options) (outcome : Simulation.Outcome) : List Output :=
  (outcome.journal.toList.filter o.prints).map .entry ++
    if o.frames then [.line outcome.step.toJson.compact] else []

end Options

/-- Ends with an error. -/
def fail (message : String) : Program := .stop 1 (some ("Error: " ++ message))

/-- Prints the summary of a simulation and ends. -/
def conclude (w : Simulation) : Program := .print (w.summary.lines.map .line) (.stop 0 none)

/-- Runs a scenario, writes the trace if it is asked for, and concludes. -/
def runScenario (o : Options) (s : Simulation.Scenario) : Program :=
  match Simulation.start s (o.seed.getD 0) (o.dt.getD 0.1) with
  | .error _ => fail "failed to set up guard"
  | .ok w =>
    let (printed, w) := (w.withDebug o.debug).gather
      (fun (printed : Array Output) outcome => printed ++ o.outputs outcome) #[]
      (o.ticks.getD 300).toNat
    .print printed.toList <|
      match o.traceOut with
      | none => conclude w
      | some path => .write path w.trace.toJson.pretty fun written =>
          if written then conclude w else fail ("failed to write trace to " ++ path)

/-- The program that options ask for. -/
def runOptions (o : Options) : Program :=
  match o.scenario with
  | none => runScenario o {}
  | some path => .read path fun bytes =>
      match Simulation.Scenario.load path bytes with
      | .error e => fail e.headline
      | .ok s => runScenario o s

/-- The program that arguments ask for. -/
def program (args : List String) : Program :=
  match Options.read args with
  | .ok o => runOptions o
  | .error .help => .print (help.map .line) (.stop 0 none)
  | .error .version => .print (version.map .line) (.stop 0 none)
  | .error .misuse => .stop 2 (some "error: unexpected arguments; try '--help'")

end CommandLine
end Guardhouse
