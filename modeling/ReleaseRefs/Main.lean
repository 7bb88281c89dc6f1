import ReleaseRefs.Cli.Run
import Std.Time.DateTime.Timestamp

/-!
# `ReleaseRefs.Main`: the program

Gathers what a run can see, runs, and writes what the run shows. Nothing here starts other programs,
so git counts as not installed; `Cli.call` takes the git to use as an argument.
-/

set_option autoImplicit false

namespace ReleaseRefs.Main

/-- The names of the variables that a run reads. -/
def variableNames : List String :=
  let options := Config.Field.all.map fun f => Environment.optionsName ++ "__" ++ f.key
  [Environment.homeName, Log.levelName, Log.formatName, Config.VariableFile.offName] ++
    ([Environment.optionsName, Environment.verbosityName] ++ options).map String.toUpper

/-- The variables that are set. -/
def readEnvironment : IO Environment :=
  variableNames.filterMapM fun name => do
    return (← IO.getEnv name).map fun value => (name, Text.carried value)

/-- What stands under a path, if it is a file. -/
def readEntry (p : Path) : IO (Option (Path × FileEntry)) := do
  try
    let octets ← IO.FS.readBinFile (Text.plain p.text)
    return some (p, .file octets.toList)
  catch _ => return none

/-- The files that a run may read: those with settings or variables, and those that words name. -/
def readFiles (words : List String) (env : Environment) : IO Files := do
  let here := Path.ofText (Text.carried (← IO.currentDir).toString)
  let user := match env.home with
    | .ok home => [here.join (Settings.userPath home)]
    | .error _ => []
  let places := [here.join Settings.projectFile, here.join Config.VariableFile.fileName] ++ user ++
    words.map fun w => here.join (Path.ofText w)
  return ⟨here, ← places.filterMapM readEntry⟩

/-- The time as lines of the log show it. -/
def now : IO String := do
  let nanoseconds := (← Std.Time.Timestamp.now).toNanosecondsSinceUnixEpoch.val.toNat
  return (Moment.ofSeconds (nanoseconds / 1000000000) (nanoseconds / 1000 % 1000000)).stamp

end ReleaseRefs.Main

/-- Runs the words of the command line. -/
def main (written : List String) : IO UInt32 := do
  let words := written.map ReleaseRefs.Text.carried
  let environment ← ReleaseRefs.Main.readEnvironment
  let files ← ReleaseRefs.Main.readFiles words environment
  let (outcome, _) := ReleaseRefs.Cli.call ReleaseRefs.Git.absent ReleaseRefs.Cli.toolName words
    ⟨files, environment⟩ ()
  let time ← ReleaseRefs.Main.now
  let onStream := fun s =>
    ReleaseRefs.Text.plain (ReleaseRefs.Cli.Output.onStream time s outcome.outputs)
  (← IO.getStdout).putStr (onStream .out)
  (← IO.getStderr).putStr (onStream .err)
  match outcome.escaped with
  | some raised =>
    IO.eprintln (ReleaseRefs.Text.plain (ReleaseRefs.Text.escapedHalves raised.failure.text))
  | none => pure ()
  return outcome.exit.number.toUInt32
