/-!
The ways in which an answer earns points.
-/

namespace Questionnaire

inductive ScoringMode where
  | numericDirect
  | positionMapped
  | custom
  | count
  | nps
  | matrixSum
  | rankingWeighted
  | constantSumTotal
  | none
deriving DecidableEq, Repr

namespace ScoringMode

def all : List ScoringMode :=
  [.numericDirect, .positionMapped, .custom, .count, .nps, .matrixSum, .rankingWeighted,
    .constantSumTotal, .none]

def name : ScoringMode → String
  | .numericDirect => "numeric_direct"
  | .positionMapped => "position_mapped"
  | .custom => "custom"
  | .count => "count"
  | .nps => "nps"
  | .matrixSum => "matrix_sum"
  | .rankingWeighted => "ranking_weighted"
  | .constantSumTotal => "constant_sum_total"
  | .none => "none"

/-- The words with the modes they stand for. -/
def words : List (String × ScoringMode) := all.map fun mode => (mode.name, mode)

end ScoringMode

/-- The three groups of recommendation scores. -/
inductive NpsGroup where
  | detractor
  | passive
  | promoter
deriving DecidableEq, Repr

namespace NpsGroup

def all : List NpsGroup := [.detractor, .passive, .promoter]

def name : NpsGroup → String
  | .detractor => "detractor"
  | .passive => "passive"
  | .promoter => "promoter"

def words : List (String × NpsGroup) := all.map fun group => (group.name, group)

end NpsGroup

end Questionnaire
