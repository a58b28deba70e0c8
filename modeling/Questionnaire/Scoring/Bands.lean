import Questionnaire.Scoring.Config

/-!
Percentages, and the band that a percentage falls into.
-/

namespace Questionnaire

/-- A hundred times the quotient, a half going up, kept within zero and a hundred.  Without points
to be had the percentage is zero. -/
def percentage (score most : Number) : Except Fault Int := do
  if most.le 0 then return 0
  let share := (← score.div most) * Binary64.ofInt 100
  let rounded ← Number.roundHalfUp (.float share)
  return max 0 (min 100 rounded)

/-- The percentage of two values that count as numbers.  The score is only looked at where there are
points to be had. -/
def percentageOf (score most : Json) : Except Fault Int := do
  let most ← most.asNumber
  if most.le 0 then return 0
  percentage (← score.asNumber) most

/-- Where a score is shown: in the breakdown by category or on the results screen. -/
inductive BandView where
  | category
  | results
deriving DecidableEq, Repr

namespace ScoreConfig

/-- The bands of the results screen. -/
def screenBands (config : ScoreConfig) : List ScoreBand :=
  match config.resultsScreen with
  | some screen => screen.bands.getD []
  | none => []

/-- The bands for a view: its own ones, or those of the other view if it has none. -/
def bandsFor (config : ScoreConfig) : BandView → List ScoreBand
  | .category => if config.bands.isEmpty then config.screenBands else config.bands
  | .results => if config.screenBands.isEmpty then config.bands else config.screenBands

/-- The bands of a category: the first non-empty custom ones for it, or those of the survey. -/
def bandsForCategory (config : ScoreConfig) (categoryId : String) : List ScoreBand :=
  let own := (config.resultsScreen.bind (·.categories)).getD []
  let custom := own.filterMap fun results =>
    if results.categoryId = categoryId ∧ results.mode = .custom then
      results.bands.filter (!·.isEmpty)
    else none
  custom.head?.getD (config.bandsFor .category)

end ScoreConfig

namespace ScoreBand

/-- The first band that holds a value. -/
def resolve? (bands : List ScoreBand) (value : Number) : Option ScoreBand :=
  bands.find? (·.holds value)

/-- The first band that holds a value, which has to count as a number unless there are no bands. -/
def resolveOf? (bands : List ScoreBand) (value : Json) : Except Fault (Option ScoreBand) :=
  if bands.isEmpty then .ok none else do return resolve? bands (← value.asNumber)

end ScoreBand

/-- The bands for a category of a configuration, none without one. -/
def bandsOfCategory (config : Option ScoreConfig) (categoryId : String) : List ScoreBand :=
  match config with
  | some config => config.bandsForCategory categoryId
  | none => []

/-- The bands for a view of a configuration, none without one. -/
def bandsOf (config : Option ScoreConfig) (view : BandView) : List ScoreBand :=
  match config with
  | some config => config.bandsFor view
  | none => []

end Questionnaire
