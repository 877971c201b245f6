import Guardhouse.Number.Decimal

/-!
# Options of the command line

Arguments are settings, which take a value, and flags, which do not; none may be given twice. A
value follows its setting as the next argument or behind an equals sign, and behind a letter also
directly. Arguments are read from left to right, and the first that is out of place or asks for help
decides.
-/

namespace Guardhouse
namespace CommandLine

/-- What a simulation is to be run with. -/
structure Options where
  /-- The file of the scenario. -/
  scenario : Option String := none
  ticks : Option UInt64 := none
  dt : Option Float32 := none
  seed : Option UInt64 := none
  debug : Bool := false
  /-- Whether to print every frame. -/
  frames : Bool := false
  /-- The file to write the trace to. -/
  traceOut : Option String := none
  verbose : Bool := false
  deriving DecidableEq

/-- Why there are no options. -/
inductive Refusal where
  /-- The arguments ask for help. -/
  | help
  /-- The arguments ask for the version. -/
  | version
  /-- An argument is unknown, repeated, out of place or without a value that it could have. -/
  | misuse
  deriving DecidableEq, Repr

/-- The options with a value. -/
inductive Setting where
  | scenario
  | ticks
  | dt
  | seed
  | traceOut
  deriving DecidableEq, Repr

/-- The options without a value. -/
inductive Flag where
  | debug
  | frames
  | verbose
  | help
  | version
  deriving DecidableEq, Repr

/-- An option of either kind. -/
abbrev AnyOption := Setting ⊕ Flag

/-- The option with a long name. -/
def long? (name : String) : Option AnyOption :=
  match name with
  | "scenario" => some (.inl .scenario)
  | "ticks" => some (.inl .ticks)
  | "dt" => some (.inl .dt)
  | "seed" => some (.inl .seed)
  | "trace-out" => some (.inl .traceOut)
  | "debug" => some (.inr .debug)
  | "frames" => some (.inr .frames)
  | "verbose" => some (.inr .verbose)
  | "help" => some (.inr .help)
  | "version" => some (.inr .version)
  | _ => none

/-- The option with a letter. -/
def short? (letter : Char) : Option AnyOption :=
  match letter with
  | 's' => some (.inl .scenario)
  | 'v' => some (.inr .verbose)
  | 'h' => some (.inr .help)
  | 'V' => some (.inr .version)
  | _ => none

/-! ### Values -/

/-- A 64-bit word: digits, perhaps behind a plus sign. -/
def word? (s : String) : Option UInt64 := do
  let digits := match s.toList with
    | '+' :: digits => digits
    | digits => digits
  let n ← Decimal.natural? digits
  if n < UInt64.size then some (UInt64.ofNat n) else none

/-- A path: any text but the empty one. -/
def path? (s : String) : Option String := if s.isEmpty then none else some s

/-- A setting that must not have a value yet, with the value that a text writes. -/
def fill (read? : String → Option α) (old : Option α) (s : String) : Except Refusal (Option α) :=
  match old, read? s with
  | none, some x => .ok (some x)
  | _, _ => .error .misuse

namespace Options

/-- Gives a setting its value. -/
def set (o : Options) (s : String) : Setting → Except Refusal Options
  | .scenario => do return { o with scenario := ← fill path? o.scenario s }
  | .ticks => do return { o with ticks := ← fill word? o.ticks s }
  | .dt => do return { o with dt := ← fill Decimal.single? o.dt s }
  | .seed => do return { o with seed := ← fill word? o.seed s }
  | .traceOut => do return { o with traceOut := ← fill path? o.traceOut s }

/-- Raises a flag that is not raised yet. -/
def raise (o : Options) : Flag → Except Refusal Options
  | .debug => if o.debug then .error .misuse else .ok { o with debug := true }
  | .frames => if o.frames then .error .misuse else .ok { o with frames := true }
  | .verbose => if o.verbose then .error .misuse else .ok { o with verbose := true }
  | .help => .error .help
  | .version => .error .version

/-! ### Arguments -/

/-- Follows the letters of an argument; the last one may be a setting whose value is to follow. -/
def readLetters (o : Options) : List Char → Except Refusal (Options × Option Setting)
  | [] => .ok (o, none)
  | c :: rest =>
    match short? c with
    | some (.inr flag) => do readLetters (← o.raise flag) rest
    | some (.inl setting) =>
      match rest with
      | [] => .ok (o, some setting)
      | '=' :: value => do return (← o.set (String.ofList value) setting, none)
      | value => do return (← o.set (String.ofList value) setting, none)
    | none => .error .misuse

/-- Follows a long name, perhaps with a value behind an equals sign. -/
def readName (o : Options) (cs : List Char) : Except Refusal (Options × Option Setting) :=
  let name := String.ofList (cs.takeWhile (· != '='))
  match long? name, cs.dropWhile (· != '=') with
  | some (.inr flag), [] => do return (← o.raise flag, none)
  | some (.inl setting), [] => .ok (o, some setting)
  | some (.inl setting), _ :: value => do return (← o.set (String.ofList value) setting, none)
  | _, _ => .error .misuse

/-- Follows arguments. Where `pending` is a setting without its value, the next one has to be the
value. -/
def readFrom (o : Options) (pending : Option Setting) : List String → Except Refusal Options
  | [] => if pending.isSome then .error .misuse else .ok o
  | arg :: rest =>
    match pending, arg.toList with
    | some setting, cs =>
      if cs.length != 1 && cs.head? == some '-' then .error .misuse
      else do readFrom (← o.set arg setting) none rest
    | none, ['-', '-'] => if rest.isEmpty then .ok o else .error .misuse
    | none, '-' :: '-' :: cs => do
      let (o, pending) ← o.readName cs
      readFrom o pending rest
    | none, '-' :: c :: cs => do
      let (o, pending) ← o.readLetters (c :: cs)
      readFrom o pending rest
    | none, _ => .error .misuse

/-- The options that arguments give. -/
def read (args : List String) : Except Refusal Options := readFrom {} none args

end Options
end CommandLine
end Guardhouse
