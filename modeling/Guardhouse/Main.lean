import Guardhouse.CommandLine

/-! The command line in its surroundings: files, the output and the arguments. -/

namespace Guardhouse
namespace CommandLine

/-- Prints a line of the report as it is and an entry of the journal with its level. -/
def Output.put : Output → IO Unit
  | .line text => IO.println text
  | .entry e => IO.println e.render

/-- Does what a program says. -/
def Program.perform : Program → IO UInt32
  | .read path next => do
    let bytes ← try some <$> IO.FS.readBinFile path catch _ => pure none
    (next bytes).perform
  | .write path text next => do
    let written ← try IO.FS.writeFile path text; pure true catch _ => pure false
    (next written).perform
  | .print outputs next => do
    outputs.forM Output.put
    next.perform
  | .stop code complaint => do
    complaint.forM IO.eprintln
    return code

end CommandLine
end Guardhouse

/-- Runs one simulation as its arguments say. -/
def main (args : List String) : IO UInt32 := (Guardhouse.CommandLine.program args).perform
