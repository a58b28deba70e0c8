import Questionnaire.Hash.Sha256
import Questionnaire.Json.Reader
import Questionnaire.Log.Record
import Questionnaire.Settings
import Questionnaire.Survey.Snapshot
import Questionnaire.Text.Basic

/-!
The command that verifies a snapshot: it scores the snapshot, hashes the summary of the score, and
compares the hash with an expected one.  What the command prints and logs is a list of events, so
that nothing here depends on where files and lines come from and go to.
-/

namespace Questionnaire

/-- What is found under a path. -/
inductive FileEntry where
  | missing
  | directory
  | text (content : String)
deriving DecidableEq, Repr

/-- What the command puts out. -/
inductive CommandEvent where
  | printed (line : String)
  | logged (record : LogRecord)
deriving DecidableEq

/-- What the command does not answer for. -/
inductive CommandError where
  | unknownLevel
  | oversizedInteger
  | unpairedSurrogate
  | missingFile
  | notAFile
  | fault (cause : Fault)
deriving DecidableEq, Repr

/-- Why there is no snapshot to score. -/
inductive LoadError where
  | notFound (path : String)
  | unreadable (path reason : String)
  | snapshot (error : SnapshotError)
  | command (error : CommandError)
deriving DecidableEq, Repr

namespace LoadError

def message : LoadError → String
  | .notFound path => "snapshot file not found: " ++ path
  | .unreadable path reason => "failed to read snapshot file " ++ path ++ ": " ++ reason
  | .snapshot error => error.message
  | .command _ => ""

end LoadError

/-- The output so far, and a result. -/
structure CommandRun (α : Type) where
  events : List CommandEvent
  result : α

namespace Verification

/-- The variable that holds a snapshot in place of a file. -/
def overrideName : String := "SNAPSHOT_OVERRIDE_JSON"

/-- Where a path begins: exactly two strokes are kept apart from one. -/
def pathRoot (path : String) : String :=
  match path.toList.takeWhile (· = '/') with
  | [] => ""
  | ['/', '/'] => "//"
  | _ => "/"

/-- The path without empty and idle steps. -/
def plainPath (path : String) : String :=
  let steps := (path.splitOn "/").filter fun step => step ≠ "" && step ≠ "."
  let plain := pathRoot path ++ "/".intercalate steps
  if plain = "" then "." else plain

/-- The limits of documents, where there is room for so many levels. -/
def limits (room : Nat) : Json.Limits := ⟨some Json.maxIntegerDigits, some room⟩

/-- The data in a snapshot file. -/
def readFile (room : Nat) (files : String → FileEntry) (path : String) : Except LoadError Json :=
  match files path with
  | .missing => .error (.notFound path)
  | .directory => .error (.unreadable path ("[Errno 21] Is a directory: " ++ Text.quoted path))
  | .text content =>
    let document := Text.ofFile content
    match Json.readWithin (limits room) document with
    | .ok v => .ok v
    | .error .oversized => .error (.command .oversizedInteger)
    | .error .tooDeep => .error (.command (.fault .tooDeep))
    | .error .unpaired => .error (.command .unpairedSurrogate)
    | .error (.malformed kind left) =>
      .error (.unreadable path (Json.malformedText document kind left))

/-- The data given in place of a file, if any can be had. -/
def readOverride (room : Nat) (given : Option String) :
    CommandRun (Except LoadError (Option Json)) :=
  match given with
  | none => ⟨[], .ok none⟩
  | some document =>
    if document = "" then ⟨[], .ok none⟩
    else match Json.readWithin (limits room) document with
      | .ok .null => ⟨[], .ok none⟩
      | .ok v => ⟨[], .ok (some v)⟩
      | .error .oversized => ⟨[], .error (.command .oversizedInteger)⟩
      | .error .tooDeep => ⟨[], .error (.command (.fault .tooDeep))⟩
      | .error .unpaired => ⟨[], .error (.command .unpairedSurrogate)⟩
      | .error (.malformed kind left) =>
        let warning : Warning := .unreadableOverride overrideName
          (Json.malformedText document kind left)
        ⟨[.logged (warning.toRecord .null)], .ok none⟩

/-- The data with a word on where they come from: a file that is named, the data given in its place,
or the file of the settings. -/
def locate (room : Nat) (settings : Settings) (given : Option String) (files : String → FileEntry)
    (named : Option String) : CommandRun (Except LoadError (Json × String)) :=
  let fromFile (path : String) : Except LoadError (Json × String) :=
    (readFile room files (plainPath path)).map fun v => (v, "file:" ++ plainPath path)
  match named.filter (· ≠ "") with
  | some path => ⟨[], fromFile path⟩
  | none =>
    let found := readOverride room given
    ⟨found.events, match found.result with
      | .error error => .error error
      | .ok (some v) => .ok (v, "env")
      | .ok none => fromFile settings.snapshotPath⟩

/-- The record that says which snapshot is used. -/
def loadedRecord (snapshot : Snapshot) (source : String) : LogRecord where
  level := .info
  logger := "survey_engine.core.snapshot_loader"
  message := some ("snapshot loaded from " ++ source ++ " ("
    ++ toString snapshot.questions.length ++ " questions)")
  surveyId := .null

/-- The snapshot with a word on where it comes from. -/
def load (room : Nat) (settings : Settings) (given : Option String) (files : String → FileEntry)
    (named : Option String) : CommandRun (Except LoadError (Snapshot × String)) :=
  let located := locate room settings given files named
  match located.result with
  | .error error => ⟨located.events, .error error⟩
  | .ok (v, source) => match Snapshot.parse v with
    | .error cause => ⟨located.events, .error (.command (.fault cause))⟩
    | .ok (.error error) => ⟨located.events, .error (.snapshot error)⟩
    | .ok (.ok snapshot) =>
      ⟨located.events ++ [.logged (loadedRecord snapshot source)], .ok (snapshot, source)⟩

/-- The summary of a snapshot's score. -/
def summarize (settings : Settings) (snapshot : Snapshot) : CommandRun (Except CommandError Json) :=
  let (warnings, score) := snapshot.score settings.engineId
  let surveyId := (snapshot.surveyId.map Json.str).getD .null
  ⟨warnings.map fun warning => .logged (warning.toRecord surveyId), match score with
    | .error cause => .error (.fault cause)
    | .ok score => .ok score.summary⟩

/-- The hash of a summary. -/
def summaryHash (summary : Json) : String := Sha256.hexHash summary.canonical

/-- Compares a hash with an expected one; where they differ the summary is printed. -/
def compare (expected found source : String) (summarized : CommandRun (Except CommandError Json)) :
    CommandRun (Except CommandError Nat) :=
  let both : List CommandEvent :=
    [.printed ("Expected: " ++ expected), .printed ("Got     : " ++ found)]
  if found = expected then ⟨both ++ [.printed "MATCH"], .ok 0⟩
  else
    let before := both
      ++ [.printed "MISMATCH", .printed ("Scored result (" ++ source ++ "):")] ++ summarized.events
    match summarized.result with
    | .error error => ⟨before, .error error⟩
    | .ok summary => ⟨before ++ [.printed summary.writeIndented], .ok 3⟩

/-- The expected hash in a file. -/
def readExpected (files : String → FileEntry) (path : String) : Except CommandError String :=
  match if path = "" then .missing else files (plainPath path) with
  | .missing => .error .missingFile
  | .directory => .error .notAFile
  | .text content => .ok (Text.trim (Text.ofFile content))

/-- Scores a snapshot and prints the hash, or compares it with that of a file. -/
def check (settings : Settings) (files : String → FileEntry) (snapshot : Snapshot) (source : String)
    (expectedPath : Option String) : CommandRun (Except CommandError Nat) :=
  let summarized := summarize settings snapshot
  match summarized.result with
  | .error error => ⟨summarized.events, .error error⟩
  | .ok summary =>
    let found := summaryHash summary
    match expectedPath with
    | none => ⟨summarized.events ++ [.printed found], .ok 0⟩
    | some path => match readExpected files path with
      | .error error => ⟨summarized.events, .error error⟩
      | .ok expected =>
        let compared := compare expected found source summarized
        ⟨summarized.events ++ compared.events, compared.result⟩

def usage : String := "Usage: python verify_score_snapshot.py [snapshot.json] [expected_hash.txt]"

/-- The whole command with its exit code, where there is room to read so many levels. -/
def verify (room : Nat) (settings : Settings) (given : Option String) (files : String → FileEntry)
    (args : List String) : CommandRun (Except CommandError Nat) :=
  if (LogLevel.ofSetting? settings.logLevel).isNone then ⟨[], .error .unknownLevel⟩
  else if 2 < args.length then ⟨[.printed usage], .ok 1⟩
  else
    let loaded := load room settings given files args[0]?
    match loaded.result with
    | .error (.command error) => ⟨loaded.events, .error error⟩
    | .error error => ⟨loaded.events ++ [.printed ("Snapshot error: " ++ error.message)], .ok 2⟩
    | .ok (snapshot, source) =>
      let checked := check settings files snapshot source args[1]?
      ⟨loaded.events ++ checked.events, checked.result⟩

/-- What is written for an event, a record only if the settings keep it. -/
def eventText (log : LogSettings) (time : String) : CommandEvent → String
  | .printed line => line ++ "\n"
  | .logged record => ((log.line? time record).map (· ++ "\n")).getD ""

/-- How many levels there is room to read for the command: a thousand frames, less its own. -/
def standardRoom : Nat := 992

/-- Everything that is written. -/
def outputText (log : LogSettings) (time : String) (events : List CommandEvent) : String :=
  String.join (events.map (eventText log time))

/-- Nothing is done under a level of logging that does not exist. -/
theorem verify_unknownLevel {settings : Settings} (h : LogLevel.ofSetting? settings.logLevel = none)
    (room : Nat) (given : Option String) (files : String → FileEntry) (args : List String) :
    verify room settings given files args = ⟨[], .error .unknownLevel⟩ := by
  simp [verify, h]

end Verification

end Questionnaire
