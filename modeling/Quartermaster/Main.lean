import Quartermaster.CommandLine.Run
import Std.Time.Date.PlainDate
import Std.Time.DateTime.Timestamp

/-!
The program: it gathers what a run looks at, runs the command line, and prints what comes of it.
The library has no transport of its own, so that no request gets out.
-/

namespace Quartermaster.CommandLine

open Calendar (Clock Date Instant)

def readFile? (name : String) : IO (Option Text.Bytes) := do
  try
    let content ← IO.FS.readBinFile name
    return some content.toList
  catch _ => return none

def readEnvironment : IO Variables := do
  let content := (← readFile? "/proc/self/environ").getD []
  return (content.splitOn 0).filterMap fun entry => do
    let (name, value) := (entry.takeWhile (· ≠ 0x3D), entry.dropWhile (· ≠ 0x3D))
    guard (value ≠ [])
    return (← Text.decodeUtf8? name, ← Text.decodeUtf8? (value.drop 1))

/-- The nearest file with variables, from the working directory upward. -/
def readVariablesFile : IO (Option Text.Bytes) := do
  for depth in List.range 64 do
    let name := String.join (List.replicate depth "../") ++ variablesFile
    if let some content ← readFile? name then return some content
  return none

def readClock : IO (Option Instant) := do
  let now ← Std.Time.Timestamp.now
  let day := Std.Time.PlainDate.ofEpochDay now.toDaysSinceUnixEpoch
  let nanos := (now.toNanosecondsSinceUnixEpoch.val % (86400 * 1000000000)).toNat
  let seconds := nanos / 1000000000
  return do
    let date ← Date.of? day.year.toInt day.month.toNat day.day.toNat
    let clock ← Clock.of? (seconds / 3600) (seconds / 60 % 60) (seconds % 60) (nanos % 1000000000)
    return ⟨date, clock⟩

def readWorld (arguments : List String) : IO World := do
  let environment ← readEnvironment
  let content ← readVariablesFile
  let visible := (content.map (withFile environment)).getD environment
  let mut files := (content.map (variablesFile, ·)).toList
  for name in filesNamed visible arguments do
    if let some content ← readFile? name then files := (name, content) :: files
  return {
    environment := environment
    files := files
    now := (← readClock).getD Fleet.farFuture
    network := .down }

def usage : String :=
  "Query the community platform API\n\nUsage: mm-cli [OPTIONS] <COMMAND>\n\nCommands:\n" ++
    String.join (CommandName.all.map fun name => "  " ++ name.text ++ "\n")

def Result.print : Result → IO Unit
  | .printed document => IO.println document.pretty
  | .version => IO.println versionText
  | .help => IO.print usage
  | .misuse => IO.eprint usage
  | .failed message => IO.eprintln ("Error: " ++ message)
  | .crashed message => IO.eprintln message

end Quartermaster.CommandLine

def main (arguments : List String) : IO UInt32 := do
  let world ← Quartermaster.CommandLine.readWorld arguments
  let result := Quartermaster.CommandLine.run world arguments
  result.print
  return UInt32.ofNat result.exitCode
