import Questionnaire.Proofs.Walk.Replay
import Questionnaire.Proofs.Walk.Trigger
import Questionnaire.Scoring.Survey

/-!
Answers to questions that are not presented have no influence, neither on the walk nor on the score
of what a respondent sees.
-/

namespace Questionnaire

/-- Scores depend on the answers to the questions that are scored alone. -/
theorem questionScores_congr {questions : List Question} {a b : Answers}
    (h : Answers.Agree (questions.map (·.id)) a b) :
    questionScores questions a = questionScores questions b := by
  unfold questionScores
  apply mapM_congr_of_mem
  intro question hquestion
  have hmem : question ∈ questions := (List.mem_filter.mp hquestion).1
  have hsame := h question.id (List.mem_map.mpr ⟨question, hmem, rfl⟩)
  rw [Answers.answerTo, Answers.answerTo, hsame]

theorem scoreQuestions_congr {questions : List Question} {a b : Answers}
    (config : Option ScoreConfig) (h : Answers.Agree (questions.map (·.id)) a b) :
    scoreQuestions questions a config = scoreQuestions questions b config := by
  rw [scoreQuestions, scoreQuestions, questionScores_congr h]

namespace Survey

/-- The questions of a path are scored on the answers to the path. -/
theorem scoreQuestions_onPath_congr (survey : Survey) (config : Option ScoreConfig)
    {path : List String} {a b : Answers} (h : Answers.Agree path a b) :
    scoreQuestions (survey.onPath path) a config
      = scoreQuestions (survey.onPath path) b config := by
  apply scoreQuestions_congr
  apply h.mono
  intro id hid
  obtain ⟨question, hquestion, rfl⟩ := List.mem_map.mp hid
  have hpath := (List.mem_filter.mp hquestion).2
  simpa using hpath

namespace Shows

variable {survey : Survey} {a b : Answers} {ids : List String}

theorem strideAt_congr (h : survey.Shows a ids) (hagree : Answers.Agree ids a b) (k : Nat) :
    survey.strideAt b k = survey.strideAt a k := by
  unfold Survey.strideAt
  apply Walker.strideAt_congr
  intro i _
  exact hagree.mono (h.presented_subset k)

theorem walk_congr (h : survey.Shows a ids) (hagree : Answers.Agree ids a b) :
    survey.walk b false = survey.walk a false :=
  walk_eq_of_strideAt_eq (h.strideAt_congr hagree)

end Shows

/-- Every walk that passes unresolvable rules over has a path, and any answers that agree with its
answers on that path give the same walk and the same score: decisions, warnings and failures
included. -/
theorem exists_path_determines_walk_and_score (survey : Survey) (config : Option ScoreConfig)
    (a : Answers) :
    ∃ path, survey.path a false = .ok path ∧
      ∀ b, Answers.Agree path a b →
        survey.walk a false = survey.walk b false ∧
          survey.score a config false = survey.score b config false := by
  obtain ⟨path, hshows⟩ := survey.exists_shows a
  refine ⟨path, hshows.path_eq, ?_⟩
  intro b hagree
  have hwalk : survey.walk a false = survey.walk b false := (hshows.walk_congr hagree).symm
  have hpath : (survey.walk b false).path = .ok path := hwalk ▸ hshows.path_eq
  refine ⟨hwalk, ?_⟩
  rw [score, score, hwalk, hpath]
  dsimp only
  rw [survey.scoreQuestions_onPath_congr config hagree]

/-- Answers to a skipped and to a hidden question make no difference. -/
theorem exists_path_determines_walk_and_score_sample :
    Sample.survey.path Sample.answers false = .ok ["q1", "q2", "q4"] ∧
      Answers.Agree ["q1", "q2", "q4"] Sample.answers Sample.moreAnswers ∧
      Sample.survey.walk Sample.answers false = Sample.survey.walk Sample.moreAnswers false ∧
      Sample.survey.score Sample.answers none false
        = Sample.survey.score Sample.moreAnswers none false := by
  obtain ⟨path, hpath, hdetermined⟩ :=
    exists_path_determines_walk_and_score Sample.survey none Sample.answers
  have hlisted : Sample.survey.path Sample.answers false = .ok ["q1", "q2", "q4"] := rfl
  cases hlisted.symm.trans hpath
  have hagree : Answers.Agree ["q1", "q2", "q4"] Sample.answers Sample.moreAnswers := by
    unfold Answers.Agree
    decide
  exact ⟨hlisted, hagree, hdetermined Sample.moreAnswers hagree⟩

end Survey

end Questionnaire
