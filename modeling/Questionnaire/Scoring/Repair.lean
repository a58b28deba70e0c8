import Questionnaire.Order
import Questionnaire.Scoring.Config

/-!
Scoring configurations put in order: each id once, bands sorted and apart from one another, weights
and option points within what can be counted.
-/

namespace Questionnaire

/-- The elements with an id, each id once, apart from the ids that have been seen. -/
def distinctBy {α : Type} (id : α → String) (seen : List String) : List α → List α
  | [] => []
  | x :: rest =>
    if id x = "" ∨ id x ∈ seen then distinctBy id seen rest
    else x :: distinctBy id (id x :: seen) rest

namespace ScoreBand

/-- The band with its bounds in order. -/
def upright (band : ScoreBand) : ScoreBand :=
  if band.max.lt band.min then { band with min := band.max, max := band.min } else band

/-- Moves the start of each band behind the end of the one before it, and drops a band of which
nothing is left. -/
def separate (last : Option ScoreBand) : List ScoreBand → Except Fault (List ScoreBand)
  | [] => .ok []
  | band :: rest =>
    match last with
    | none => do return band :: (← separate (some band) rest)
    | some previous =>
      if previous.max.lt band.min then do return band :: (← separate (some band) rest)
      else do
        let start := Number.int ((← previous.max.floor) + 1)
        if start.le band.max then
          let moved := { band with min := start }
          return moved :: (← separate (some moved) rest)
        else separate last rest

/-- The bands without repeated ids, upright, sorted by their lower bound and apart. -/
def repaired (bands : List ScoreBand) : Except Fault (List ScoreBand) :=
  separate none (sortBy (fun a b => a.min.lt b.min) ((distinctBy (·.id) [] bands).map upright))

/-- A list of bands that may be missing. -/
def repaired? : Option (List ScoreBand) → Except Fault (Option (List ScoreBand))
  | none => .ok none
  | some bands => do return some (← repaired bands)

end ScoreBand

def CategoryResults.repaired (results : CategoryResults) : Except Fault CategoryResults := do
  return { results with bands := ← ScoreBand.repaired? results.bands }

def ResultsScreen.repaired (screen : ResultsScreen) : Except Fault ResultsScreen := do
  let bands ← ScoreBand.repaired? screen.bands
  let categories ← screen.categories.mapM fun categories => categories.mapM (·.repaired)
  return { screen with bands, categories }

/-- The configuration in order. -/
def ScoreConfig.repaired (config : ScoreConfig) : Except Fault ScoreConfig := do
  let resultsScreen ← config.resultsScreen.mapM (·.repaired)
  let bands ← ScoreBand.repaired config.bands
  return { config with
    categories := distinctBy (·.id) [] config.categories
    bands
    resultsScreen }

/-- The highest weight of a question. -/
def maxWeight : Number := 1000

/-- A weight kept within zero and the highest one; without a finite number there is none. -/
def clampWeight? : Json → Except Fault (Option Number)
  | .null => .ok none
  | .bool _ => .ok none
  | .num weight => do return if ← weight.isFinite then some (weight.clamp maxWeight) else none
  | _ => .error .wrongKind

/-- The points of an option, zero unless they are a finite number. -/
def repairedPoints : Json → Except Fault Number
  | .num points => do return if ← points.isFinite then points else 0
  | _ => .ok 0

/-- The points of options, which have to have named entries. -/
def repairedOptionScores? : Json → Except Fault (Option (Entries Number))
  | .null => .ok none
  | .obj entries => do
    return some (← entries.mapM fun (label, points) => do return (label, ← repairedPoints points))
  | _ => .error .noEntries

end Questionnaire
