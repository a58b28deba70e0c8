import Questionnaire.Audit.Finding
import Questionnaire.Log.Warning
import Questionnaire.Scoring.Bands

/-!
What can be reported about the scores of a survey: a state with the parts of a report that make
sense in it, and invariants of a summary that are broken.
-/

namespace Questionnaire

inductive ScoringState where
  | noResponses
  | noScoring
  | misconfigured
  | singleVersion
  | healthy
deriving DecidableEq, Repr

namespace ScoringState

def name : ScoringState → String
  | .noResponses => "no-responses"
  | .noScoring => "no-scoring"
  | .misconfigured => "misconfigured"
  | .singleVersion => "single-version"
  | .healthy => "healthy"

def words : List (String × ScoringState) :=
  [ScoringState.noResponses, .noScoring, .misconfigured, .singleVersion, .healthy].map
    fun state => (state.name, state)

end ScoringState

/-- A state with its texts and the parts of a report that are shown. -/
structure StatusReport where
  state : ScoringState
  title : String
  message : String
  showScoring : Bool
  showTrends : Bool
  showParticipation : Bool
  showQuestionSummary : Bool
  severity : Severity
deriving DecidableEq, Repr

namespace StatusReport

def ofJson : Schema.Check StatusReport :=
  Schema.record "ScoringStateResult" fun entries =>
    StatusReport.mk <$> Schema.required entries "state" (Schema.choice ScoringState.words)
      <*> Schema.required entries "title" Schema.text
      <*> Schema.required entries "message" Schema.text
      <*> Schema.required entries "showScoring" Schema.truth
      <*> Schema.required entries "showTrends" Schema.truth
      <*> Schema.required entries "showParticipation" Schema.truth
      <*> Schema.required entries "showQuestionSummary" Schema.truth
      <*> Schema.required entries "severity" (Schema.fixed Severity.words)

def toJson (report : StatusReport) : Json :=
  .obj
    [("state", .str report.state.name), ("title", .str report.title),
      ("message", .str report.message), ("showScoring", .bool report.showScoring),
      ("showTrends", .bool report.showTrends),
      ("showParticipation", .bool report.showParticipation),
      ("showQuestionSummary", .bool report.showQuestionSummary),
      ("severity", .str report.severity.name)]

def noResponses : StatusReport where
  state := .noResponses
  title := "Waiting for Responses"
  message := "No responses yet. Scores appear once participants submit."
  showScoring := false
  showTrends := false
  showParticipation := true
  showQuestionSummary := false
  severity := .info

def noScoring : StatusReport where
  state := .noScoring
  title := "Scoring Not Enabled"
  message :=
    "Scoring is off for this survey. Only participation and question summaries are available."
  showScoring := false
  showTrends := false
  showParticipation := true
  showQuestionSummary := true
  severity := .info

def singleVersion : StatusReport where
  state := .singleVersion
  title := "Single Snapshot Mode"
  message := "Only one scoring version exists. Trends need at least two."
  showScoring := true
  showTrends := false
  showParticipation := true
  showQuestionSummary := true
  severity := .info

def healthy : StatusReport where
  state := .healthy
  title := "Scoring Ready"
  message := "All scoring data is available."
  showScoring := true
  showTrends := true
  showParticipation := true
  showQuestionSummary := true
  severity := .info

def misconfigured (title message : String) : StatusReport where
  state := .misconfigured
  title
  message
  showScoring := false
  showTrends := false
  showParticipation := true
  showQuestionSummary := true
  severity := .error

end StatusReport

/-- Whether there are scores of dimensions and none of them has a value. -/
def allNull (scores : Json) : Except Fault Bool :=
  match scores with
  | .obj entries => .ok (!entries.isEmpty && entries.all fun (_, score) => score = .null)
  | other => if other.isTruthy then .error .noEntries else .ok false

/-- The state of a survey's scores: the first of the states that applies. -/
def statusReport (config : Option ScoreConfig) (responses versions : Json) (dimensions : Json) :
    Except Fault (StatusReport × List Warning) := do
  let responses ← responses.asNumber
  if responses.le 0 then return (.noResponses, [])
  match config.filter (·.enabled) with
  | none => return (.noScoring, [])
  | some config =>
    if config.categories.isEmpty then
      return (.misconfigured "Scoring Misconfigured"
        "Scoring is enabled but no categories are defined.", [])
    if (config.bandsFor .category).isEmpty then
      return (.misconfigured "Score Ranges Missing"
        "Scoring categories exist but no score ranges (bands) are configured.", [])
    if ← allNull dimensions then
      return (.misconfigured "No Dimension Data"
        "Responses exist but no scores were calculated. Map questions to scoring categories.",
        [.noDimensionScore (← responses.whole)])
    if (← versions.asNumber).le 1 then return (.singleVersion, [])
    return (.healthy, [])

/-- The invariants that a summary of scores can break. -/
inductive Invariant where
  | scoresAllNull
  | bandsAllZero
deriving DecidableEq, Repr

def Invariant.code : Invariant → String
  | .scoresAllNull => "SCORES_ALL_NULL"
  | .bandsAllZero => "BANDS_ALL_ZERO"

/-- Whether a value equals zero. -/
def isZeroCount : Json → Bool
  | .num value => value.isZero
  | .bool value => !value
  | _ => false

/-- The invariants that a summary of scores breaks. -/
def brokenInvariants (enabled : Bool) (responses : Json) (dimensions : Json)
    (bandCounts : Json) : Except Fault (List Invariant × List Warning) := do
  if !enabled then return ([], [])
  let responses ← responses.asNumber
  if responses.le 0 then return ([], [])
  let scores ← if ← allNull dimensions then
      .ok ([Invariant.scoresAllNull], [Warning.allScoresNull (← responses.whole)])
    else .ok ([], [])
  let bands ← match bandCounts with
    | .null => .ok ([], [])
    | counts =>
      if (← counts.parts).all isZeroCount then
        .ok ([Invariant.bandsAllZero], [Warning.allBandsEmpty (← responses.whole)])
      else .ok ([], [])
  return (scores.1 ++ bands.1, scores.2 ++ bands.2)

end Questionnaire
