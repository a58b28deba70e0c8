import Questionnaire.Proofs.Json.Alike
import Questionnaire.Proofs.Scoring.Reordering

/-!
What the hash of a snapshot is computed from.  The text that is hashed is the canonical document of
the score without the scores of single questions, in which no object has a name twice; so two
snapshots have one text just if these parts of their scores are equal up to the order of names.
-/

namespace Questionnaire

open Json (alike)

/-- An object without the entry of a name. -/
def Json.without (name : String) : Json → Json
  | .obj entries => .obj (Entries.erase entries name)
  | v => v

theorem ScoreBand.hasDistinctNames_toJson (band : ScoreBand) :
    band.toJson.hasDistinctNames = true := by
  apply Json.hasDistinctNames_ofFields
    ["id", "min", "max", "label", "color", "interpretation"] rfl (by decide)
  simp

theorem CategoryScore.hasDistinctNames_toJson (score : CategoryScore) :
    score.toJson.hasDistinctNames = true := by
  apply Json.hasDistinctNames_ofFields
    ["name", "score", "maxScore", "percentage", "label", "bandId"] rfl (by decide)
  simp [Json.ofInt]

namespace SurveyScore

/-- The summary of a score has no name twice, since no category is reported twice. -/
theorem hasDistinctNames_summary {score : SurveyScore} (h : score.byCategory.keys.Nodup) :
    score.summary.hasDistinctNames = true := by
  have hcategories : Json.hasDistinctNames
      (.obj (score.byCategory.map fun entry => (entry.1, entry.2.toJson))) = true := by
    rw [Json.hasDistinctNames_obj]
    constructor
    · rw [Entries.keys, List.map_map]
      exact h
    · intro entry hentry
      obtain ⟨reported, -, rfl⟩ := List.mem_map.mp hentry
      exact reported.2.hasDistinctNames_toJson
  apply Json.hasDistinctNames_ofFields
    ["totalScore", "maxScore", "percentage", "byCategory", "band"] rfl (by decide)
  simpa [summaryFields, Json.ofInt, ScoreBand.hasDistinctNames_toJson] using hcategories

/-- The summary is the data form of the score without the scores of single questions. -/
theorem without_toJson (score : SurveyScore) :
    score.toJson.without "questionScores" = score.summary := by
  obtain ⟨total, maxScore, percentage, byCategory, band, questionScores⟩ := score
  cases band <;> rfl

end SurveyScore

/-- The text that is hashed for a snapshot. -/
theorem summarize_of_score {snapshot : Snapshot} {settings : Settings} {score : SurveyScore}
    (h : (snapshot.score settings.engineId).2 = .ok score) :
    (Verification.summarize settings snapshot).result
        = .ok (score.toJson.without "questionScores")
      ∧ (score.toJson.without "questionScores").hasDistinctNames = true := by
  have hscore : scoreQuestions snapshot.questions snapshot.responses snapshot.config =
      .ok score := h
  have hkeys := SurveyScore.nodup_keys (scoreQuestions_eq_ok_iff.mp hscore)
  rw [score.without_toJson]
  refine ⟨?_, SurveyScore.hasDistinctNames_summary hkeys⟩
  rw [Verification.summarize, Snapshot.score, hscore]

/-- Two data in which no object has a name twice have one canonical text just if they are equal up
to the order of names, numbers being told apart by kind.  So the hashes of two snapshots that have a
score are computed from one text just if the scores agree in all but the scores of single
questions. -/
theorem canonical_identifies :
    (∀ v w : Json, v.hasDistinctNames = true → w.hasDistinctNames = true →
      (v.canonical = w.canonical ↔ alike v w = true))
    ∧ ∀ (settings : Settings) (snapshot other : Snapshot) (score otherScore : SurveyScore),
      (snapshot.score settings.engineId).2 = .ok score →
      (other.score settings.engineId).2 = .ok otherScore →
      ∃ summary otherSummary,
        (Verification.summarize settings snapshot).result = .ok summary
        ∧ (Verification.summarize settings other).result = .ok otherSummary
        ∧ Verification.summaryHash summary = Sha256.hexHash summary.canonical
        ∧ Verification.summaryHash otherSummary = Sha256.hexHash otherSummary.canonical
        ∧ (summary.canonical = otherSummary.canonical
          ↔ alike (score.toJson.without "questionScores")
            (otherScore.toJson.without "questionScores") = true) := by
  refine ⟨fun v w => Json.canonical_eq_canonical_iff, ?_⟩
  intro settings snapshot other score otherScore hscore hother
  obtain ⟨hsummary, hnames⟩ := summarize_of_score hscore
  obtain ⟨hotherSummary, hotherNames⟩ := summarize_of_score hother
  exact ⟨_, _, hsummary, hotherSummary, rfl, rfl,
    Json.canonical_eq_canonical_iff hnames hotherNames⟩

/-- One question on a scale of five points, answered with four. -/
def Snapshot.rated (id : String) : Snapshot where
  surveyId := none
  questions := [{ Survey.Sample.plain id [] with kind := .rating, ratingScale := some 5 }]
  responses := [(id, .num 4)]
  config := none

/-- The order of names is not told and the kind of a number is, and the id of a question is left
out. -/
theorem canonical_identifies_rated :
    (Json.obj [("b", .num 1), ("a", .null)]).canonical
        = (Json.obj [("a", .null), ("b", .num 1)]).canonical
      ∧ (Json.obj [("a", .num 1)]).canonical ≠ (Json.obj [("a", .bool true)]).canonical
      ∧ ∀ settings, ∃ summary other,
        (Verification.summarize settings (.rated "q1")).result = .ok summary
          ∧ (Verification.summarize settings (.rated "q2")).result = .ok other
          ∧ summary.canonical = other.canonical := by
  refine ⟨?_, ?_, fun settings => ?_⟩
  · exact (canonical_identifies.1 _ _ (by decide +kernel) (by decide +kernel)).mpr
      (by decide +kernel)
  · rw [Ne, canonical_identifies.1 _ _ (by decide +kernel) (by decide +kernel)]
    decide +kernel
  · have hscore : scoreQuestions (Snapshot.rated "q1").questions
        (Snapshot.rated "q1").responses none
        = .ok ⟨4, 5, 80, [], none, [⟨"q1", 4, 5, .numericDirect, none, true, none⟩]⟩ := by
      decide +kernel
    have hother : scoreQuestions (Snapshot.rated "q2").questions
        (Snapshot.rated "q2").responses none
        = .ok ⟨4, 5, 80, [], none, [⟨"q2", 4, 5, .numericDirect, none, true, none⟩]⟩ := by
      decide +kernel
    obtain ⟨summary, other, hsummary, hothers, -, -, hiff⟩ :=
      canonical_identifies.2 settings (.rated "q1") (.rated "q2") _ _ hscore hother
    exact ⟨summary, other, hsummary, hothers, hiff.mpr (by decide +kernel)⟩

end Questionnaire
