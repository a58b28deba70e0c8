import Mathlib.Data.List.TakeWhile
import Questionnaire.Answer.Validation
import Questionnaire.Proofs.Scoring.Maximum
import Questionnaire.Proofs.Scoring.Share

/-!
Answers that are none.  Nothing, a blank text, an empty list and empty entries are scored alike and
checked alike, so that it does not matter which of them stands for a question without an answer.
-/

namespace Questionnaire

variable {answer : Json}

theorem Text.trim_of_allBlank {s : String} (h : Text.allBlank s = true) : Text.trim s = "" := by
  have hdrop : s.toList.dropWhile Text.isBlank = [] :=
    List.dropWhile_eq_nil_iff.mpr (List.all_eq_true.mp h)
  rw [Text.trim, Text.trimChars, hdrop]
  rfl

/-- No answer stands for no number. -/
theorem quantity?_of_isUnanswered (h : isUnanswered answer = true) : answer.quantity? = none := by
  cases answer with
  | null => rfl
  | bool value => rfl
  | num value => cases h
  | str value =>
      change Json.numeral? value = none
      rw [Json.numeral?, Text.trim_of_allBlank h]
      decide +kernel
  | arr items =>
      obtain rfl := List.isEmpty_iff.mp h
      decide +kernel
  | obj entries =>
      obtain rfl := List.isEmpty_iff.mp h
      decide +kernel

namespace Points

variable {question : Question}

/-- Blanks are no word for a truth value. -/
theorem asTruth_of_isUnanswered (h : isUnanswered answer = true) : asTruth answer = answer := by
  cases answer with
  | str word =>
      have hblank : Text.lower "" ≠ "true" ∧ Text.lower "" ≠ "false" := by decide +kernel
      rw [asTruth, Text.trim_of_allBlank h, if_neg hblank.1, if_neg hblank.2]
  | _ => rfl

theorem unlessUnanswered_of_isUnanswered {earned : Except Fault Number}
    (h : isUnanswered answer = true) : unlessUnanswered answer earned = none := if_pos h

theorem earnedByChoice_of_isUnanswered (h : isUnanswered answer = true) :
    earnedByChoice question answer = none := unlessUnanswered_of_isUnanswered h

theorem earnedByCount_of_isUnanswered (h : isUnanswered answer = true) :
    earnedByCount question answer = none := unlessUnanswered_of_isUnanswered h

theorem earnedByGrid_of_isUnanswered (h : isUnanswered answer = true) :
    earnedByGrid question answer = none := by
  cases answer with
  | obj cells => exact unlessUnanswered_of_isUnanswered h
  | _ => rfl

theorem earnedByRanking_of_isUnanswered (h : isUnanswered answer = true) :
    earnedByRanking question answer = none := by
  cases answer with
  | arr items => exact unlessUnanswered_of_isUnanswered h
  | _ => rfl

theorem earnedByAllocation_of_isUnanswered (h : isUnanswered answer = true) :
    earnedByAllocation question answer = none := by
  cases answer with
  | obj allocation => exact unlessUnanswered_of_isUnanswered h
  | _ => rfl

/-- A ranking without an answer ranks no items, whatever stands for the answer. -/
theorem placeCount_of_isUnanswered (h : isUnanswered answer = true) :
    placeCount question answer = placeCount question .null := by
  apply placeCount_eq
  intro _
  cases answer with
  | arr items =>
      obtain rfl := List.isEmpty_iff.mp h
      rfl
  | _ => rfl

theorem ofChoice_of_isUnanswered (h : isUnanswered answer = true) :
    ofChoice question answer = ofChoice question .null := by
  rw [ofChoice, ofChoice, earnedByChoice_of_isUnanswered h]
  rfl

/-- In every mode, what stands for no answer earns what nothing earns. -/
theorem inMode_of_isUnanswered {mode : ScoringMode} (h : isUnanswered answer = true) :
    inMode mode question answer = inMode mode question .null := by
  cases mode with
  | numericDirect => rw [inMode, inMode, ofNumeric, ofNumeric, quantity?_of_isUnanswered h]; rfl
  | positionMapped => exact ofChoice_of_isUnanswered h
  | custom =>
      rw [inMode, inMode, ofCustom, ofCustom, asTruth_of_isUnanswered h]
      exact ofChoice_of_isUnanswered h
  | count =>
      rw [inMode, inMode, ofCount, ofCount, earnedByCount_of_isUnanswered h]
      rfl
  | nps => rw [inMode, inMode, ofNps, ofNps, quantity?_of_isUnanswered h]; rfl
  | matrixSum =>
      rw [inMode, inMode, ofGrid, ofGrid, earnedByGrid_of_isUnanswered h]
      rfl
  | rankingWeighted =>
      rw [inMode, inMode, ofRanking, ofRanking, bestOfRanking, bestOfRanking,
        placeCount_of_isUnanswered h, earnedByRanking_of_isUnanswered h]
      rfl
  | constantSumTotal =>
      rw [inMode, inMode, ofAllocation, ofAllocation,
        earnedByAllocation_of_isUnanswered h]
      rfl
  | none => rfl

/-- Without an answer there are no points. -/
theorem score_inMode_null {mode : ScoringMode} {points : Points}
    (h : inMode mode question .null = .ok points) : points.score = 0 := by
  have hsame := inMode_null (fun _ => rfl) h
  rw [h, Except.ok.injEq] at hsame
  rw [hsame]

/-- A ranking that has no options and ranks nothing has no places, and no points to be had. -/
theorem exists_ofRanking_null (hchoices : question.choices = []) :
    ∃ points, inMode .rankingWeighted question .null = .ok points := by
  have hplaces : places (placeCount question .null) = [] := by
    rw [placeCount, hchoices]
    rfl
  have hmost : ∃ most, (0 : Number).mul question.weight = .ok most := by
    cases question.weight with
    | int weight => exact ⟨_, rfl⟩
    | float weight => exact ⟨_, bind_eq_ok.mpr ⟨_, Number.toBinary64_zero, rfl⟩⟩
  obtain ⟨most, hmost⟩ := hmost
  refine ⟨⟨0, most⟩, ?_⟩
  rw [inMode, ofRanking, bestOfRanking, hplaces]
  exact bind_eq_ok.mpr ⟨0, rfl, bind_eq_ok.mpr ⟨most, hmost, rfl⟩⟩

end Points

namespace Question

variable {question : Question}

/-- What stands for no answer is scored as nothing is. -/
theorem score_of_isUnanswered (h : isUnanswered answer = true) :
    question.score answer = question.score .null := by
  have hgroup : NpsGroup.ofAnswer? answer = NpsGroup.ofAnswer? .null := by
    rw [NpsGroup.ofAnswer?, quantity?_of_isUnanswered h]
    rfl
  have hpoints : question.earned answer = question.earned .null := by
    rw [earned, earned, Points.inMode_of_isUnanswered h]
  have hreported : question.reported answer = question.reported .null := by
    funext points
    rw [reported, reported, h, hgroup]
    rfl
  rw [score_eq, score_eq, hpoints, hreported]

/-- Without an answer there are no points and no group. -/
theorem of_score_null {scored : QuestionScore} (h : question.score .null = .ok scored) :
    scored.score = 0 ∧ scored.answered = false ∧ scored.npsGroup = none := by
  obtain ⟨points, hpoints, rfl⟩ := score_eq_ok_iff.mp h
  have hzero : points.score = 0 := by
    unfold earned at hpoints
    split at hpoints
    · rw [← Except.ok.inj hpoints]
      rfl
    · exact Points.score_inMode_null hpoints
  refine ⟨?_, rfl, ite_self none⟩
  rw [reported, hzero]
  rfl

/-- A question that has a score with some answer has one without an answer. -/
theorem exists_score_null {other : Json} {scored : QuestionScore}
    (h : question.score other = .ok scored) : ∃ scored, question.score .null = .ok scored := by
  by_cases hranking : question.kind = .ranking ∧ question.choices = []
  · obtain ⟨hkind, hchoices⟩ := hranking
    have hpoints : ∃ points, question.earned .null = .ok points := by
      rw [earned, hkind]
      split
      · exact ⟨_, rfl⟩
      · exact Points.exists_ofRanking_null hchoices
    obtain ⟨points, hpoints⟩ := hpoints
    exact ⟨_, score_eq_ok_iff.mpr ⟨points, hpoints, rfl⟩⟩
  · exact ⟨_, score_null (fun hkind hchoices => hranking ⟨hkind, hchoices⟩) h⟩

theorem validate_of_isUnanswered (h : isUnanswered answer = true) :
    question.validate answer = question.validate .null := by
  rw [validate, validate, if_pos h]
  rfl

end Question

/-- Two answers that are the same, or both none. -/
def SameAnswer (a b : Json) : Prop :=
  a = b ∨ isUnanswered a = true ∧ isUnanswered b = true

/-- Answers that differ only in what stands for no answer. -/
def SameAnswers (questions : List Question) (answers others : Answers) : Prop :=
  ∀ question ∈ questions, SameAnswer (answers.answerTo question.id) (others.answerTo question.id)

/-- No question has an answer. -/
def NoneAnswered (questions : List Question) (answers : Answers) : Prop :=
  ∀ question ∈ questions, isUnanswered (answers.answerTo question.id) = true

instance (a b : Json) : Decidable (SameAnswer a b) := inferInstanceAs (Decidable (_ ∨ _))

instance (questions : List Question) (answers others : Answers) :
    Decidable (SameAnswers questions answers others) :=
  inferInstanceAs (Decidable (∀ question ∈ questions, SameAnswer _ _))

instance (questions : List Question) (answers : Answers) :
    Decidable (NoneAnswered questions answers) :=
  inferInstanceAs (Decidable (∀ question ∈ questions, isUnanswered _ = true))

section Surveys

variable {questions : List Question} {answers others : Answers} {config : Option ScoreConfig}
  {scores : List QuestionScore} {result : SurveyScore}

theorem SameAnswer.score_eq {question : Question} {a b : Json} (h : SameAnswer a b) :
    question.score a = question.score b := by
  rcases h with rfl | ⟨ha, hb⟩
  · rfl
  · exact (Question.score_of_isUnanswered ha).trans (Question.score_of_isUnanswered hb).symm

theorem SameAnswer.validate_eq {question : Question} {a b : Json} (h : SameAnswer a b) :
    question.validate a = question.validate b := by
  rcases h with rfl | ⟨ha, hb⟩
  · rfl
  · exact (Question.validate_of_isUnanswered ha).trans (Question.validate_of_isUnanswered hb).symm

theorem questionScores_eq_of_sameAnswers (h : SameAnswers questions answers others) :
    questionScores questions answers = questionScores questions others :=
  mapM_congr_of_mem fun question hquestion =>
    (h question (List.mem_of_mem_filter hquestion)).score_eq

theorem validateAnswers_eq_of_sameAnswers (h : SameAnswers questions answers others) :
    validateAnswers questions answers = validateAnswers questions others := by
  apply foldlM_congr_of_mem
  intro question hquestion failures
  rw [(h question hquestion).validate_eq]

/-- The most points add up to a number. -/
def HasMost (scores : List QuestionScore) : Prop :=
  ∃ most, Number.sum (scores.map (·.maxScore)) = .ok most ∧ most.isNaN = false

theorem Number.sum_map_zero {scores : List QuestionScore} (h : ∀ score ∈ scores, score.score = 0) :
    Number.sum (scores.map (·.score)) = .ok 0 := by
  have hmap : scores.map (·.score) = (scores.map fun _ => (0 : Int)).map Number.int := by
    rw [List.map_map]
    exact List.map_congr_left h
  rw [hmap, Number.sum_int, List.map_const', List.sum_replicate, nsmul_zero]
  rfl

theorem Number.isNaN_tidy (a : Number) : a.tidy.isNaN = a.isNaN := by
  rw [Bool.eq_iff_iff, ← Number.place?_eq_none_iff, ← Number.place?_eq_none_iff,
    Number.place?_tidy]

/-- Where no points are earned there are totals exactly if the most points add up to a number. -/
theorem hasTotals_iff_hasMost (h : ∀ score ∈ scores, score.score = 0) :
    HasTotals scores ↔ HasMost scores := by
  have hshare (most : Number) : HasShare 0 most ↔ most.isNaN = false := by
    rw [← exists_percentage_iff, percentage_zero]
    cases most.isNaN <;> simp
  simp only [HasTotals, Number.sum_map_zero h, Except.ok.injEq, HasMost]
  constructor
  · rintro ⟨_, most, rfl, hmost, hpercent⟩
    exact ⟨most, hmost, (Number.isNaN_tidy most).symm.trans ((hshare most.tidy).mp hpercent)⟩
  · rintro ⟨most, hmost, hnumber⟩
    exact ⟨0, most, rfl, hmost, (hshare most.tidy).mpr ((Number.isNaN_tidy most).trans hnumber)⟩

theorem Total.of_ofScores_zero {total : Total} (h : ∀ score ∈ scores, score.score = 0)
    (htotal : Total.ofScores scores = .ok total) : total.score = 0 ∧ total.percentage = 0 := by
  obtain ⟨score, most, hscore, -, hown, -, hpercent⟩ := Total.ofScores_eq_ok_iff.mp htotal
  rw [Number.sum_map_zero h, Except.ok.injEq] at hscore
  have hzero : total.score = 0 := by rw [hown, ← hscore]; rfl
  rw [hzero, percentage_zero] at hpercent
  split at hpercent
  · cases hpercent
  · exact ⟨hzero, (Except.ok.inj hpercent).symm⟩

theorem NoneAnswered.scores_zero (h : NoneAnswered questions answers)
    (hscores : questionScores questions answers = .ok scores) :
    ∀ score ∈ scores, score.score = 0 := by
  intro score hscore
  obtain ⟨question, hquestion, hown⟩ := (mapM_ok_members hscores).2 score hscore
  change question.score (answers.answerTo question.id) = .ok score at hown
  rw [Question.score_of_isUnanswered (h question (List.mem_of_mem_filter hquestion))] at hown
  exact (Question.of_score_null hown).1

/-- A result without points, overall and in every category. -/
structure SurveyScore.IsZero (result : SurveyScore) : Prop where
  total : result.total = 0
  percentage : result.percentage = 0
  parts : ∀ entry ∈ result.byCategory, entry.2.score = 0 ∧ entry.2.percentage = 0

theorem SurveyScore.IsScore.isZero (h : result.IsScore questions answers config)
    (hzero : ∀ score ∈ result.questionScores, score.score = 0) : result.IsZero := by
  obtain ⟨htotal, hpercent⟩ := Total.of_ofScores_zero hzero h.totals
  refine ⟨htotal, hpercent, fun entry hentry => ?_⟩
  obtain ⟨total, hown, hpart⟩ := categoryScore_eq_ok_iff.mp (h.parts entry hentry)
  rw [hpart]
  exact Total.of_ofScores_zero (fun score hscore => hzero score (List.mem_of_mem_filter hscore))
    hown

/-- Without answers there is a result exactly if the most points add up to a number, overall and in
every category. -/
theorem exists_unanswered_iff (h : NoneAnswered questions answers) :
    (∃ result, scoreQuestions questions answers config = .ok result) ↔
      ∃ scores, questionScores questions answers = .ok scores ∧ HasMost scores
        ∧ ∀ id ∈ categoryIds config scores, HasMost (countedTowards scores (some id)) := by
  rw [exists_scoreQuestions_iff_reportable]
  refine exists_congr fun scores => and_congr_right fun hscores => ?_
  have hzero := h.scores_zero hscores
  refine and_congr (hasTotals_iff_hasMost hzero) (forall₂_congr fun id _ => ?_)
  exact hasTotals_iff_hasMost fun score hscore => hzero score (List.mem_of_mem_filter hscore)

end Surveys

/-- It does not matter what stands for no answer.  A question is scored and checked as it is with
nothing for an answer: it has no points and no group, and it has a score if it has one with any
answer.  Answers that differ only in what stands for no answer have equal survey scores and the same
failures.  Without any answers there is a result exactly if the most points add up to a number,
overall and in every category, and then all points and percentages are zero. -/
theorem unanswered_interchangeable :
    (∀ (question : Question) (answer : Json), isUnanswered answer = true →
        question.score answer = question.score .null
          ∧ question.validate answer = question.validate .null
          ∧ (∀ scored, question.score answer = .ok scored →
            scored.score = 0 ∧ scored.answered = false ∧ scored.npsGroup = none)
          ∧ ((∃ other scored, question.score other = .ok scored) →
            ∃ scored, question.score answer = .ok scored))
      ∧ (∀ (questions : List Question) (answers others : Answers),
        SameAnswers questions answers others →
          (∀ config, scoreQuestions questions answers config
            = scoreQuestions questions others config)
          ∧ validateAnswers questions answers = validateAnswers questions others)
      ∧ ∀ (questions : List Question) (answers : Answers), NoneAnswered questions answers →
        ∀ config,
          ((∃ result, scoreQuestions questions answers config = .ok result) ↔
            ∃ scores, questionScores questions answers = .ok scores ∧ HasMost scores
              ∧ ∀ id ∈ categoryIds config scores, HasMost (countedTowards scores (some id)))
          ∧ ∀ result, scoreQuestions questions answers config = .ok result → result.IsZero := by
  refine ⟨fun question answer h => ?_, fun questions answers others h => ?_,
    fun questions answers h config => ?_⟩
  · have hscore : question.score answer = question.score .null := Question.score_of_isUnanswered h
    refine ⟨hscore, Question.validate_of_isUnanswered h, fun scored hscored => ?_, ?_⟩
    · exact Question.of_score_null (hscore.symm.trans hscored)
    · rintro ⟨other, scored, hscored⟩
      rw [hscore]
      exact Question.exists_score_null hscored
  · refine ⟨fun config => ?_, validateAnswers_eq_of_sameAnswers h⟩
    rw [scoreQuestions, scoreQuestions, questionScores_eq_of_sameAnswers h]
  · refine ⟨exists_unanswered_iff h, fun result hresult => ?_⟩
    have hscore := scoreQuestions_eq_ok_iff.mp hresult
    exact hscore.isZero (h.scores_zero hscore.scored)

open Sample

namespace Sample

def choiceAndSlider : List Question :=
  [options "q1" (some "a"),
    { Survey.Sample.plain "q2" [] with kind := .slider, required := true }]

def blankAnswers : Answers := [("q1", .str " \t"), ("q2", .obj [])]

def emptyAnswers : Answers := [("q2", .arr [])]

end Sample

theorem unanswered_interchangeable_choiceAndSlider :
    (options "q1" none).score (.str " \t") = (options "q1" none).score .null
      ∧ scoreQuestions choiceAndSlider blankAnswers none
        = scoreQuestions choiceAndSlider emptyAnswers none
      ∧ validateAnswers choiceAndSlider blankAnswers = validateAnswers choiceAndSlider emptyAnswers
      ∧ ∃ result, scoreQuestions choiceAndSlider blankAnswers none = .ok result
        ∧ result.maxScore = 103 ∧ result.IsZero := by
  obtain ⟨hquestion, hsurvey, hnone⟩ := unanswered_interchangeable
  have hsame : SameAnswers choiceAndSlider blankAnswers emptyAnswers := by decide +kernel
  have hblank : NoneAnswered choiceAndSlider blankAnswers := by decide +kernel
  obtain ⟨hscore, hvalidate⟩ := hsurvey _ _ _ hsame
  have hmost : (scoreQuestions choiceAndSlider blankAnswers none).map (·.maxScore) = .ok 103 := by
    decide +kernel
  obtain ⟨result, hresult, hmost⟩ := map_eq_ok.mp hmost
  exact ⟨(hquestion _ _ (by decide +kernel)).1, hscore none, hvalidate, result, hresult, hmost,
    (hnone _ _ hblank none).2 result hresult⟩

end Questionnaire
