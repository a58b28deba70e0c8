import Questionnaire.Log.Timestamp
import Questionnaire.Verification
import Std.Time.DateTime.Timestamp

/-!
The command line: reads the environment and the files, runs the verification, and writes what it put
out.
-/

open Questionnaire

/-- What is found under a path of the file system. -/
def readEntry (path : String) : IO FileEntry := do
  try return .text (← IO.FS.readFile path)
  catch
    | .noFileOrDirectory .. => return .missing
    | .inappropriateType .. => return .directory
    | other => throw other

/-- The variables of the environment that are settings, in lower or upper case. -/
def readEnvironment : IO (Entries String) := do
  let mut found := []
  for name in ["PROJECT_NAME", "LOG_LEVEL", "LOG_JSON", "LOGIC_STRICT", "SCORING_ENGINE_ID",
      "SNAPSHOT_PATH"] do
    for spelling in [Text.lower name, name] do
      if let some value ← IO.getEnv spelling then found := found ++ [(spelling, value)]
  return found

/-- The time at which the command is run. -/
def now : IO Timestamp := do
  let time ← Std.Time.Timestamp.now
  let milliseconds := time.toMillisecondsSinceUnixEpoch.val.toNat
  return ⟨milliseconds / 1000, milliseconds % 1000⟩

def describe : CommandError → String
  | .unknownLevel => "unknown level of logging"
  | .oversizedInteger => "the snapshot has an integer of too many digits"
  | .unpairedSurrogate => "the snapshot has half of a pair of surrogates"
  | .missingFile => "the file with the expected hash does not exist"
  | .notAFile => "the path of the expected hash is a directory"
  | .fault .tooDeep => "the snapshot has too many levels"
  | .fault _ => "the snapshot cannot be scored"

def main (args : List String) : IO UInt32 := do
  match Settings.ofEnvironment (← readEnvironment) with
  | .valid settings => do
    let given ← IO.getEnv Verification.overrideName
    let paths := (settings.snapshotPath :: args.take 2).map Verification.plainPath
    let found ← paths.mapM fun path => do return (path, ← readEntry path)
    let files (path : String) : FileEntry := (Entries.get? found path).getD .missing
    let run := Verification.verify Verification.standardRoom settings given files args
    let time ← now
    if let some log := LogSettings.ofName? settings.logLevel settings.logDocuments then
      let text := if log.documents then time.documentText else time.plainText
      IO.print (Verification.outputText log text run.events)
    match run.result with
    | .ok code => return UInt32.ofNat code
    | .error error => do
      IO.eprintln (describe error)
      return 1
  | .issues found => do
    IO.eprintln ("\n".intercalate (found.map (·.line)))
    return 1
  | .fault _ => return 1
