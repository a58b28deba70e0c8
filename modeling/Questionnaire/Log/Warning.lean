import Questionnaire.Number.Basic

/-!
Warnings: what is passed over while a survey is walked, scored or reported, with the part of the
library that passes it over and the text that is logged.
-/

namespace Questionnaire

inductive Warning where
  /-- A rule that cannot be resolved is left out. -/
  | ruleSkipped (ruleId reason : String)
  /-- A jump back to a question that was presented already is not taken. -/
  | jumpIgnored (source target ruleId : String)
  /-- A question is not on the path, so what follows it in the survey is taken. -/
  | offPath (questionId : String)
  /-- An engine that is not known is replaced by the default one. -/
  | unknownEngine (quotedId fallback : String)
  /-- There are responses, but no dimension has a score. -/
  | noDimensionScore (responses : Int)
  /-- The same in a summary of scores. -/
  | allScoresNull (responses : Int)
  /-- There are responses, but no band has any. -/
  | allBandsEmpty (responses : Int)
  /-- The data given in place of a file cannot be read. -/
  | unreadableOverride (setting reason : String)
deriving DecidableEq, Repr

namespace Warning

/-- The name under which the warning is logged. -/
def logger : Warning → String
  | .ruleSkipped .. => "survey_engine.core.logic"
  | .jumpIgnored .. | .offPath .. => "survey_engine.core.traversal"
  | .unknownEngine .. => "survey_engine.core.aggregator"
  | .noDimensionScore .. | .allScoresNull .. | .allBandsEmpty .. => "survey_engine.core.status"
  | .unreadableOverride .. => "survey_engine.core.snapshot_loader"

def message : Warning → String
  | .ruleSkipped ruleId reason => "skipping logic rule " ++ ruleId ++ ": " ++ reason
  | .jumpIgnored source target ruleId =>
    "jump from " ++ source ++ " to already presented " ++ target ++
      " ignored (rule " ++ ruleId ++ ")"
  | .offPath questionId =>
    "question " ++ questionId ++ " is not on the replayed path; falling back to survey order"
  | .unknownEngine quotedId fallback =>
    "unknown scoring engine " ++ quotedId ++ ", falling back to " ++ fallback
  | .noDimensionScore responses =>
    "SCORES_ALL_NULL: " ++ toString responses ++ " responses but every dimension score is null; "
      ++ "questions may not be mapped to scoring categories"
  | .allScoresNull responses =>
    "SCORES_ALL_NULL: " ++ toString responses ++ " responses but all dimension scores are null"
  | .allBandsEmpty responses =>
    "BANDS_ALL_ZERO: " ++ toString responses ++ " responses but all band counts are 0"
  | .unreadableOverride setting reason =>
    setting ++ " is not valid JSON (" ++ reason ++ "); falling back to file"

end Warning

end Questionnaire
