import Questionnaire.Audit.Finding
import Questionnaire.Order
import Questionnaire.Scoring.Bands
import Questionnaire.Scoring.Points

/-!
Checks of a scoring configuration: whether the bands cover the percentages without overlapping,
whether questions and categories fit together, and whether the weights are in proportion.
-/

namespace Questionnaire.Audit

/-- Joins lists of findings. -/
def gather (parts : List (Except Fault (List Finding))) : Except Fault (List Finding) := do
  return (← parts.mapM id).flatten

/-- A finding that is made only under a condition. -/
def onlyIf (condition : Bool) (finding : Except Fault Finding) : Except Fault (List Finding) :=
  if condition then finding.map ([·]) else .ok []

/-- The first `n` characters of a text. -/
def firstChars (n : Nat) (s : String) : String := String.ofList (s.toList.take n)

/-- A text cut to `n` characters, with dots where something is cut off. -/
def shortened (n : Nat) (s : String) : String :=
  if s.length ≤ n then s else firstChars n s ++ "..."

/-- A gap between two percentages, both included. -/
def gapFinding (first last : Number) : Except Fault Finding := do
  return {
    code := "BAND_GAP"
    severity := .error
    message := "Score range " ++ (← first.compactText) ++ "-" ++ (← last.compactText)
      ++ " has no assigned band"
    details := [("gapStart", .num first), ("gapEnd", .num last)] }

/-- The gaps from `covered` on, over bands sorted by their lower bound. -/
def gapsFrom (covered : Number) : List ScoreBand → Except Fault (List Finding)
  | [] => onlyIf (covered.le 100) (gapFinding covered 100)
  | band :: rest => do
    let here ← onlyIf (covered.lt band.min) do gapFinding covered (← band.min.sub 1)
    return here ++ (← gapsFrom (Number.max covered (← band.max.add 1)) rest)

/-- The percentages from zero to a hundred that no band covers. -/
def coverage (bands : List ScoreBand) : Except Fault (List Finding) :=
  if bands.isEmpty then
    .ok [{
      code := "NO_BANDS_DEFINED"
      severity := .warning
      message := "Scoring is enabled but no score bands are defined" }]
  else gapsFrom 0 (sortBy (fun a b => a.min.lt b.min) bands)

/-- Whether two bands have a value in common, by their bounds. -/
def bandsMeet (a b : ScoreBand) : Bool := a.min.le b.max && b.min.le a.max

def overlapFinding (a b : ScoreBand) : Except Fault Finding := do
  let first := Number.max a.min b.min
  let last := Number.min a.max b.max
  return {
    code := "BAND_OVERLAP"
    severity := .error
    message := "Bands \"" ++ a.label ++ "\" and \"" ++ b.label ++ "\" overlap in range "
      ++ (← first.compactText) ++ "-" ++ (← last.compactText)
    bandId := a.id
    details := [("otherBandId", .str b.id), ("overlapStart", .num first),
      ("overlapEnd", .num last)] }

/-- The pairs of bands that overlap. -/
def overlaps : List ScoreBand → Except Fault (List Finding)
  | [] => .ok []
  | band :: rest => do
    let here ← (rest.filter (bandsMeet band)).mapM (overlapFinding band)
    return here ++ (← overlaps rest)

/-- A lower bound that is not below the upper one. -/
def invertedFinding (band : ScoreBand) : Except Fault Finding := do
  return {
    code := "INVALID_BAND_RANGE"
    severity := .error
    message := "Band \"" ++ band.label ++ "\" has invalid range: min ("
      ++ (← band.min.compactText) ++ ") >= max (" ++ (← band.max.compactText) ++ ")"
    bandId := band.id
    details := [("min", .num band.min), ("max", .num band.max)] }

def negativeFinding (band : ScoreBand) : Except Fault Finding := do
  return {
    code := "BAND_OUT_OF_RANGE"
    severity := .error
    message := "Band \"" ++ band.label ++ "\" has negative min value ("
      ++ (← band.min.compactText) ++ ")"
    bandId := band.id }

def excessiveFinding (band : ScoreBand) : Except Fault Finding := do
  return {
    code := "BAND_OUT_OF_RANGE"
    severity := .warning
    message := "Band \"" ++ band.label ++ "\" max value (" ++ (← band.max.compactText)
      ++ ") exceeds 100"
    bandId := band.id }

/-- Bounds of a band that are out of order or outside the percentages. -/
def bandBounds (band : ScoreBand) : Except Fault (List Finding) :=
  gather
    [onlyIf (band.max.le band.min) (invertedFinding band),
      onlyIf (band.min.lt 0) (negativeFinding band),
      onlyIf (Number.lt 100 band.max) (excessiveFinding band)]

/-- The categories that scored questions count towards. -/
def usedCategories (questions : List Question) : List String :=
  (questions.filter (·.isScorable)).filterMap fun q => q.category.filter (· ≠ "")

/-- Categories that no scored question counts towards. -/
def unusedCategories (questions : List Question) (config : ScoreConfig) : List Finding :=
  (config.categories.filter fun c => c.id ∉ usedCategories questions).map fun c => {
    code := "UNUSED_CATEGORY"
    severity := .warning
    message := "Category \"" ++ (if c.name = "" then c.id else c.name)
      ++ "\" is defined but no questions are assigned to it"
    categoryId := c.id }

/-- Kinds of questions that earn points by their options alone. -/
def needsOptionScores : QuestionKind → Bool
  | .multipleChoice | .dropdown | .yesNo | .checkbox => true
  | _ => false

/-- What is missing from a scored question. -/
def scoredQuestion (known : List String) (question : Question) : List Finding :=
  let category := match question.category.filter (· ≠ "") with
    | none => [({
        code := "SCORABLE_NO_CATEGORY"
        severity := .warning
        message := "Scorable question \"" ++ shortened 50 question.prompt
          ++ "\" has no category assigned"
        questionId := question.id } : Finding)]
    | some category =>
      if !known.isEmpty ∧ category ∉ known then
        [{
          code := "INVALID_CATEGORY_REF"
          severity := .error
          message := "Question references non-existent category \"" ++ category ++ "\""
          questionId := question.id
          categoryId := category }]
      else []
  let options :=
    if needsOptionScores question.kind ∧ question.scores.isEmpty then
      [({
        code := "MISSING_OPTION_SCORES"
        severity := .warning
        message := "Scorable " ++ question.kind.name ++ " question has no option scores defined"
        questionId := question.id } : Finding)]
    else []
  category ++ options

def scoredQuestions (questions : List Question) (config : ScoreConfig) : List Finding :=
  (questions.filter (·.isScorable)).flatMap (scoredQuestion (config.categories.map (·.id)))

/-- A question with more than half of the weight. -/
def imbalance (total : Number) (question : Question) : Except Fault (List Finding) := do
  let share := (← question.weight.div total) * Binary64.ofInt 100
  onlyIf (Number.lt 50 (.float share)) do
    return {
      code := "WEIGHT_IMBALANCE"
      severity := .warning
      message := "Question has " ++ share.placesText 0 ++ "% of total weight ("
        ++ (← question.weight.compactText) ++ " of " ++ (← total.compactText) ++ ")"
      questionId := question.id
      details := [("weight", .num question.weight), ("totalWeight", .num total),
        ("percentage", .num (.float share))] }

/-- A highest weight of more than five times the lowest. -/
def variance (low high : Number) : Except Fault (List Finding) := do
  if Number.lt 0 low && (← low.mul 5).lt high then
    let ratio ← high.div low
    return [{
      code := "EXTREME_WEIGHT_VARIANCE"
      severity := .info
      message := "Weight variance is high: max weight (" ++ (← high.compactText) ++ ") is "
        ++ ratio.placesText 1 ++ "x the min weight (" ++ (← low.compactText) ++ ")"
      details := [("maxWeight", .num high), ("minWeight", .num low),
        ("ratio", .num (.float ratio))] }]
  else return []

/-- The questions with more than half of the weight, where there is any weight. -/
def imbalances (total : Number) (questions : List Question) : Except Fault (List Finding) :=
  if Number.lt 0 total then gather (questions.map (imbalance total)) else .ok []

/-- Weights out of proportion; of fewer than three questions nothing is said. -/
def weights (questions : List Question) : Except Fault (List Finding) :=
  let scorable := questions.filter (·.isScorable)
  match scorable.map (·.weight) with
  | first :: second :: third :: rest => do
    let total ← Number.sum (first :: second :: third :: rest)
    let high := (second :: third :: rest).foldl Number.max first
    let low := (second :: third :: rest).foldl Number.min first
    return (← imbalances total scorable) ++ (← variance low high)
  | _ => .ok []

/-- Everything that is wrong with a scoring configuration; nothing while scoring is off. -/
def scoring (questions : List Question) (config : Option ScoreConfig) :
    Except Fault (List Finding) :=
  match config.filter (·.enabled) with
  | none => .ok []
  | some config =>
    let bands := config.bandsFor .category
    gather
      [coverage bands,
        overlaps bands,
        gather (bands.map bandBounds),
        .ok (unusedCategories questions config),
        .ok (scoredQuestions questions config),
        weights questions]

end Questionnaire.Audit
