import Questionnaire.Proofs.Scoring.Unanswered

/-!
Higher answers to questions of number.  A number that is raised, or given where there was none,
takes no points away: not from the question, not from its category and not from the survey, and
neither from the percentages, while the most points stay as they are.
-/

namespace Questionnaire

/-- The second answer is an integer; the first one is none, or an integer that is not above it. -/
def Raised (a b : Json) : Prop :=
  ∃ high : Int, b = .num (.int high)
    ∧ (isUnanswered a = true ∨ ∃ low : Int, a = .num (.int low) ∧ low ≤ high)

/-- A weight that is a natural number, and an integer for the number worth the most points. -/
structure Question.HasWholeScale (question : Question) : Prop where
  weight : ∃ weight : Nat, question.weight = .int weight
  bound : ∃ upper : Int, question.numericUpperBound = .int upper

/-- Whole points that are not more than others, for the same question and with the same most
points. -/
structure QuestionScore.AtMost (low high : QuestionScore) : Prop where
  questionId : low.questionId = high.questionId
  category : low.category = high.category
  score : ∃ i j : Int, low.score = .int i ∧ high.score = .int j ∧ i ≤ j
  maxScore : low.maxScore = high.maxScore

theorem QuestionScore.AtMost.countsTowards_eq {low high : QuestionScore} (h : low.AtMost high) :
    low.countsTowards = high.countsTowards := by
  rw [countsTowards, countsTowards, h.category]

namespace Points

theorem clamp_int (value upper : Int) :
    (Number.int value).clamp (.int upper) = .int (max 0 (min value upper)) := by
  have hmin : Number.min (.int value) (.int upper) = .int (min value upper) := by
    unfold Number.min
    split
    · rename_i hover
      rw [min_eq_right (Number.int_lt_int.mp hover).le]
    · rename_i hover
      rw [min_eq_left (not_lt.mp (mt Number.int_lt_int.mpr hover))]
  rw [Number.clamp, hmin]
  unfold Number.max
  split
  · rename_i hpositive
    rw [max_eq_right (Number.zero_lt_int.mp hpositive).le]
  · rename_i hpositive
    rw [max_eq_left (not_lt.mp (mt Number.zero_lt_int.mpr hpositive))]
    rfl

/-- The points of an integer, if there is one, on a scale from zero. -/
def onScale (upper weight : Int) : Option Int → Int
  | none => 0
  | some value => max 0 (min value upper) * weight

theorem onScale_mono {upper weight high : Int} {low : Option Int} (hweight : 0 ≤ weight)
    (h : ∀ value ∈ low, value ≤ high) :
    onScale upper weight low ≤ onScale upper weight (some high) := by
  cases low with
  | none => exact Int.mul_nonneg (le_max_left 0 _) hweight
  | some value =>
      have hvalue : value ≤ high := h value rfl
      exact Int.mul_le_mul_of_nonneg_right (max_le_max_left 0 (min_le_min_right upper hvalue))
        hweight

section Numeric

variable {question : Question} {answer : Json} {upper weight : Int} {value : Option Int}

theorem ofNumeric_int (hupper : question.numericUpperBound = .int upper)
    (hweight : question.weight = .int weight) (hvalue : answer.quantity? = value.map .int) :
    ofNumeric question answer
      = .ok (if upper ≤ 0 then .nothing
        else ⟨.int (onScale upper weight value), .int (upper * weight)⟩) := by
  have hnone : (Number.int upper).le 0 = true ↔ upper ≤ 0 := Number.int_le_int
  rw [ofNumeric, hupper, hweight]
  simp only [hnone, hvalue]
  by_cases hle : upper ≤ 0
  · rw [if_pos hle, if_pos hle]
  · rw [if_neg hle, if_neg hle]
    cases value with
    | none => rfl
    | some i =>
        simp only [Option.map_some, clamp_int]
        rfl

theorem ofNps_int (hvalue : answer.quantity? = value.map .int) :
    ofNps answer = ⟨.int (onScale 10 1 value), npsTop⟩ := by
  rw [ofNps, hvalue]
  cases value with
  | none => rfl
  | some i =>
      have hclamp : (Number.int i).clamp npsTop = .int (max 0 (min i 10)) := clamp_int i 10
      simp only [Option.map_some, hclamp, onScale, Int.mul_one]

end Numeric

/-- A raised number has as many points or more, out of as many. -/
theorem inMode_raised {question : Question} (hscale : question.HasWholeScale) {mode : ScoringMode}
    (hmode : mode = .numericDirect ∨ mode = .nps) {a b : Json} (h : Raised a b) :
    ∃ (i j : Int) (most : Number), inMode mode question a = .ok ⟨.int i, most⟩
      ∧ inMode mode question b = .ok ⟨.int j, most⟩ ∧ i ≤ j := by
  obtain ⟨high, rfl, hlow⟩ := h
  obtain ⟨low, hquantity, hle⟩ : ∃ low : Option Int, a.quantity? = low.map .int
      ∧ ∀ value ∈ low, value ≤ high := by
    rcases hlow with hnone | ⟨low, rfl, hle⟩
    · exact ⟨none, quantity?_of_isUnanswered hnone, nofun⟩
    · exact ⟨some low, rfl, fun value hvalue => Option.mem_some.mp hvalue ▸ hle⟩
  have hother : (Json.num (.int high)).quantity? = (some high).map .int := rfl
  rcases hmode with rfl | rfl
  · obtain ⟨weight, hweight⟩ := hscale.weight
    obtain ⟨upper, hupper⟩ := hscale.bound
    rw [inMode, inMode, ofNumeric_int hupper hweight hquantity,
      ofNumeric_int hupper hweight hother]
    by_cases hpoints : upper ≤ 0
    · rw [if_pos hpoints, if_pos hpoints]
      exact ⟨0, 0, 0, rfl, rfl, Int.le_refl 0⟩
    · rw [if_neg hpoints, if_neg hpoints]
      exact ⟨_, _, _, rfl, rfl, onScale_mono (Int.natCast_nonneg weight) hle⟩
  · rw [inMode, inMode, ofNps_int hquantity, ofNps_int hother]
    exact ⟨_, _, _, rfl, rfl, onScale_mono Int.one_nonneg hle⟩

end Points

namespace Question

variable {question : Question} {a b : Json} {scored : QuestionScore}

/-- A whole score stays one, and gets no lower, when the answer is raised. -/
theorem score_raised (hscale : question.HasWholeScale)
    (hmode : question.kind.scoringMode = .numericDirect ∨ question.kind.scoringMode = .nps)
    (h : Raised a b) (hscored : question.score a = .ok scored) :
    ∃ other, question.score b = .ok other ∧ scored.AtMost other := by
  obtain ⟨points, hpoints, rfl⟩ := score_eq_ok_iff.mp hscored
  by_cases hoff : question.scorable = some false
  · rw [earned, if_pos hoff] at hpoints
    obtain rfl := Except.ok.inj hpoints
    refine ⟨question.reported b .nothing, score_eq_ok_iff.mpr ⟨_, if_pos hoff, rfl⟩, ?_⟩
    exact ⟨rfl, rfl, ⟨0, 0, rfl, rfl, Int.le_refl 0⟩, rfl⟩
  · rw [earned, if_neg hoff] at hpoints
    obtain ⟨i, j, most, ha, hb, hle⟩ := Points.inMode_raised hscale hmode h
    obtain rfl := Except.ok.inj (ha.symm.trans hpoints)
    have hother : question.earned b = .ok ⟨.int j, most⟩ := by rw [earned, if_neg hoff, hb]
    refine ⟨question.reported b ⟨.int j, most⟩, score_eq_ok_iff.mpr ⟨_, hother, rfl⟩, ?_⟩
    exact ⟨rfl, rfl, ⟨i, j, rfl, rfl, hle⟩, rfl⟩

end Question

section Totals

variable {scores others : List QuestionScore}

/-- Scores are compared one by one. -/
def ScoresAtMost (scores others : List QuestionScore) : Prop :=
  List.Forall₂ QuestionScore.AtMost scores others

theorem ScoresAtMost.countedTowards (h : ScoresAtMost scores others) (category : Option String) :
    ScoresAtMost (Questionnaire.countedTowards scores category)
      (Questionnaire.countedTowards others category) := by
  induction h with
  | nil => exact .nil
  | @cons low high scores others hscore _ ih =>
      have hcategory := hscore.countsTowards_eq
      unfold Questionnaire.countedTowards at ih ⊢
      by_cases hcounts : high.countsTowards = category
      · simp only [List.filter_cons, hcategory, hcounts, decide_true, if_true]
        exact .cons hscore ih
      · simp only [List.filter_cons, hcategory, hcounts, decide_false, Bool.false_eq_true, if_false]
        exact ih

theorem ScoresAtMost.categoryIds_eq (h : ScoresAtMost scores others)
    (config : Option ScoreConfig) : categoryIds config scores = categoryIds config others := by
  have hcounts : scores.filterMap (·.countsTowards) = others.filterMap (·.countsTowards) := by
    induction h with
    | nil => rfl
    | cons hscore _ ih =>
        rw [List.filterMap_cons, List.filterMap_cons, hscore.countsTowards_eq, ih]
  rw [categoryIds, categoryIds, hcounts]

theorem ScoresAtMost.maxScores_eq (h : ScoresAtMost scores others) :
    scores.map (·.maxScore) = others.map (·.maxScore) := by
  induction h with
  | nil => rfl
  | cons hscore _ ih => rw [List.map_cons, List.map_cons, hscore.maxScore, ih]

/-- Whole points add up to whole points, and more of them to more. -/
theorem ScoresAtMost.sums (h : ScoresAtMost scores others) :
    ∃ i j : Int, Number.sum (scores.map (·.score)) = .ok (.int i)
      ∧ Number.sum (others.map (·.score)) = .ok (.int j) ∧ i ≤ j := by
  obtain ⟨lows, highs, hlows, hhighs, hle⟩ : ∃ lows highs : List Int,
      scores.map (·.score) = lows.map .int ∧ others.map (·.score) = highs.map .int
        ∧ lows.sum ≤ highs.sum := by
    induction h with
    | nil => exact ⟨[], [], rfl, rfl, Int.le_refl 0⟩
    | cons hscore _ ih =>
        obtain ⟨lows, highs, hlows, hhighs, hle⟩ := ih
        obtain ⟨i, j, hi, hj, hij⟩ := hscore.score
        refine ⟨i :: lows, j :: highs, ?_, ?_, ?_⟩
        · rw [List.map_cons, hi, hlows, List.map_cons]
        · rw [List.map_cons, hj, hhighs, List.map_cons]
        · rw [List.sum_cons, List.sum_cons]
          exact Int.add_le_add hij hle
  rw [hlows, hhighs]
  exact ⟨lows.sum, highs.sum, Number.sum_int lows, Number.sum_int highs, hle⟩

/-- Points and a percentage that are not more than others, out of the same most points. -/
structure Total.AtMost (low high : Total) : Prop where
  score : low.score.le high.score = true
  most : low.most = high.most
  percentage : low.percentage ≤ high.percentage

theorem Total.atMost_of_ofScores {low high : Total} (h : ScoresAtMost scores others)
    (hlow : Total.ofScores scores = .ok low) (hhigh : Total.ofScores others = .ok high) :
    low.AtMost high := by
  obtain ⟨_, most, hscore, hmost, hown, htop, hpercent⟩ := Total.ofScores_eq_ok_iff.mp hlow
  obtain ⟨_, most', hscore', hmost', hown', htop', hpercent'⟩ := Total.ofScores_eq_ok_iff.mp hhigh
  obtain ⟨i, j, hi, hj, hle⟩ := h.sums
  obtain rfl := Except.ok.inj (hscore.symm.trans hi)
  obtain rfl := Except.ok.inj (hscore'.symm.trans hj)
  rw [h.maxScores_eq, hmost', Except.ok.injEq] at hmost
  have hsame : low.most = high.most := by rw [htop, htop', hmost]
  rw [hown] at hpercent
  rw [hown', ← hsame] at hpercent'
  refine ⟨?_, hsame, percentage_mono hle hpercent hpercent'⟩
  rw [hown, hown']
  exact Number.int_le_int.mpr hle

end Totals

/-- Answers that are the same, but for higher numbers in answer to questions of number. -/
def RaisedAnswers (questions : List Question) (answers others : Answers) : Prop :=
  ∀ question ∈ questions, answers.answerTo question.id = others.answerTo question.id
    ∨ (question.kind.scoringMode = .numericDirect ∨ question.kind.scoringMode = .nps)
      ∧ Raised (answers.answerTo question.id) (others.answerTo question.id)

/-- Every question that is scored has a score that is an integer. -/
def HasIntegerScores (questions : List Question) (answers : Answers) : Prop :=
  ∀ question ∈ questions, question.isScorable = true → ∃ (scored : QuestionScore) (points : Int),
    question.score (answers.answerTo question.id) = .ok scored ∧ scored.score = .int points

/-- A category whose points and percentage are not more than those of another of the same name, out
of the same most points. -/
structure CategoryScore.AtMost (low high : CategoryScore) : Prop where
  name : low.name = high.name
  score : low.score.le high.score = true
  maxScore : low.maxScore = high.maxScore
  percentage : low.percentage ≤ high.percentage

/-- A result that is not more than another, overall, in each category and in each question, out of
the same most points. -/
structure SurveyScore.AtMost (low high : SurveyScore) : Prop where
  total : low.total.le high.total = true
  maxScore : low.maxScore = high.maxScore
  percentage : low.percentage ≤ high.percentage
  keys : low.byCategory.keys = high.byCategory.keys
  parts : ∀ entry ∈ low.byCategory, ∀ other ∈ high.byCategory, entry.1 = other.1 →
    entry.2.AtMost other.2
  questionScores : ScoresAtMost low.questionScores high.questionScores

section Surveys

variable {questions : List Question} {answers others : Answers} {config : Option ScoreConfig}

theorem exists_score_atMost {question : Question} (hscale : question.HasWholeScale)
    (hraised : answers.answerTo question.id = others.answerTo question.id
      ∨ (question.kind.scoringMode = .numericDirect ∨ question.kind.scoringMode = .nps)
        ∧ Raised (answers.answerTo question.id) (others.answerTo question.id))
    {scored : QuestionScore} {points : Int}
    (hscored : question.score (answers.answerTo question.id) = .ok scored)
    (hpoints : scored.score = .int points) :
    ∃ other, question.score (others.answerTo question.id) = .ok other ∧ scored.AtMost other := by
  rcases hraised with hsame | ⟨hmode, hraised⟩
  · exact ⟨scored, hsame ▸ hscored, rfl, rfl, ⟨points, points, hpoints, hpoints,
      Int.le_refl points⟩,
      rfl⟩
  · exact Question.score_raised hscale hmode hraised hscored

/-- With raised answers the questions have scores that are as high or higher. -/
theorem exists_questionScores_atMost
    (hscale : ∀ question ∈ questions, question.HasWholeScale)
    (hwhole : HasIntegerScores questions answers)
    (hraised : RaisedAnswers questions answers others) :
    ∃ lows highs, questionScores questions answers = .ok lows
      ∧ questionScores questions others = .ok highs ∧ ScoresAtMost lows highs := by
  have hmembers : ∀ question ∈ questions.filter (·.isScorable), ∃ scored other,
      question.score (answers.answerTo question.id) = .ok scored
        ∧ question.score (others.answerTo question.id) = .ok other ∧ scored.AtMost other := by
    intro question hmem
    obtain ⟨hquestion, hscorable⟩ := List.mem_filter.mp hmem
    obtain ⟨scored, points, hscored, hpoints⟩ := hwhole question hquestion hscorable
    obtain ⟨other, hother, hle⟩ := exists_score_atMost (hscale question hquestion)
      (hraised question hquestion) hscored hpoints
    exact ⟨scored, other, hscored, hother, hle⟩
  simp only [questionScores_eq_ok_iff]
  generalize questions.filter (·.isScorable) = counted at hmembers
  induction counted with
  | nil => exact ⟨[], [], .nil, .nil, .nil⟩
  | cons question rest ih =>
      obtain ⟨scored, other, hscored, hother, hle⟩ := hmembers question List.mem_cons_self
      obtain ⟨lows, highs, hlows, hhighs, hrest⟩ :=
        ih fun next hnext => hmembers next (List.mem_cons_of_mem question hnext)
      exact ⟨scored :: lows, other :: highs, .cons hscored hlows, .cons hother hhighs,
        .cons hle hrest⟩

theorem CategoryScore.atMost_of_categoryScore {scores higher : List QuestionScore}
    (h : ScoresAtMost scores higher) {id : String} {low high : CategoryScore}
    (hlow : categoryScore config scores id = .ok low)
    (hhigh : categoryScore config higher id = .ok high) : low.AtMost high := by
  obtain ⟨total, htotal, rfl⟩ := categoryScore_eq_ok_iff.mp hlow
  obtain ⟨other, hother, rfl⟩ := categoryScore_eq_ok_iff.mp hhigh
  have hle := Total.atMost_of_ofScores (h.countedTowards (some id)) htotal hother
  exact ⟨rfl, hle.score, hle.most, hle.percentage⟩

theorem SurveyScore.IsScore.atMost {low high : SurveyScore}
    (h : ScoresAtMost low.questionScores high.questionScores)
    (hlow : low.IsScore questions answers config) (hhigh : high.IsScore questions others config) :
    low.AtMost high := by
  have hle := Total.atMost_of_ofScores h hlow.totals hhigh.totals
  refine ⟨hle.score, hle.most, hle.percentage, ?_, fun entry hentry other hother hid => ?_, h⟩
  · rw [hlow.keys, hhigh.keys, h.categoryIds_eq]
  · have hpart := hlow.parts entry hentry
    rw [hid] at hpart
    exact CategoryScore.atMost_of_categoryScore h hpart (hhigh.parts other hother)

end Surveys

/-- Raised numbers in answer to questions with whole weights and bounds take nothing away.  Where
the scores are integers, they are integers with the raised answers too; there is a result with the
one answers or the other exactly if its totals add up and have a percentage; and no points and no
percentage of the result are higher than with the raised answers, out of the same most points. -/
theorem scoreQuestions_raised {questions : List Question} {answers others : Answers}
    (hscale : ∀ question ∈ questions, question.HasWholeScale)
    (hwhole : HasIntegerScores questions answers) (hraised : RaisedAnswers questions answers others)
    (config : Option ScoreConfig) :
    ∃ scores higher, questionScores questions answers = .ok scores
      ∧ questionScores questions others = .ok higher ∧ ScoresAtMost scores higher
      ∧ ((∃ low, scoreQuestions questions answers config = .ok low) ↔ Reportable config scores)
      ∧ ((∃ high, scoreQuestions questions others config = .ok high) ↔ Reportable config higher)
      ∧ ∀ low high, scoreQuestions questions answers config = .ok low →
        scoreQuestions questions others config = .ok high → low.AtMost high := by
  obtain ⟨scores, higher, hscores, hhigher, hle⟩ :=
    exists_questionScores_atMost hscale hwhole hraised
  have hreport {answers : Answers} {scores : List QuestionScore}
      (hscores : questionScores questions answers = .ok scores) :
      (∃ result, scoreQuestions questions answers config = .ok result)
        ↔ Reportable config scores := by
    rw [exists_scoreQuestions_iff_reportable, hscores]
    simp
  refine ⟨scores, higher, hscores, hhigher, hle, hreport hscores, hreport hhigher,
    fun low high hlow hhigh => ?_⟩
  have hlow := scoreQuestions_eq_ok_iff.mp hlow
  have hhigh := scoreQuestions_eq_ok_iff.mp hhigh
  obtain rfl := Except.ok.inj (hlow.scored.symm.trans hscores)
  obtain rfl := Except.ok.inj (hhigh.scored.symm.trans hhigher)
  exact SurveyScore.IsScore.atMost hle hlow hhigh

open Sample

namespace Sample

/-- A slider of double weight, a recommendation, and a choice without a category. -/
def scales : List Question :=
  [{ Survey.Sample.plain "q1" [] with
      kind := .slider, scoreWeight := some 2, category := some "a" },
    { Survey.Sample.plain "q2" [] with kind := .nps, category := some "a" },
    options "q3" none]

/-- The slider stands in the middle, and nothing is recommended yet. -/
def earlyAnswers : Answers := [("q1", .num 50), ("q2", .str ""), ("q3", .arr [.str "A"])]

/-- The slider is moved past its end. -/
def lateAnswers : Answers := [("q3", .arr [.str "A"]), ("q1", .num 120), ("q2", .num 8)]

theorem hasWholeScale_scales : ∀ question ∈ scales, question.HasWholeScale := by
  have hslider : scales[0].HasWholeScale := ⟨⟨2, rfl⟩, ⟨100, rfl⟩⟩
  have hnps : scales[1].HasWholeScale := ⟨⟨1, rfl⟩, ⟨0, rfl⟩⟩
  have hchoice : scales[2].HasWholeScale := ⟨⟨1, rfl⟩, ⟨0, rfl⟩⟩
  simp only [scales, List.forall_mem_cons]
  exact ⟨hslider, hnps, hchoice, List.forall_mem_nil _⟩

theorem hasIntegerScores_earlyAnswers : HasIntegerScores scales earlyAnswers := by
  simp only [HasIntegerScores, scales, List.forall_mem_cons]
  refine ⟨fun _ => ⟨⟨"q1", 100, 200, .numericDirect, some "a", true, none⟩, 100, ?_, rfl⟩,
    fun _ => ⟨⟨"q2", 0, 10, .nps, some "a", false, none⟩, 0, ?_, rfl⟩,
    fun _ => ⟨⟨"q3", 1, 3, .count, none, true, none⟩, 1, ?_, rfl⟩, List.forall_mem_nil _⟩
  all_goals decide +kernel

theorem raisedAnswers_lateAnswers : RaisedAnswers scales earlyAnswers lateAnswers := by
  simp only [RaisedAnswers, scales, List.forall_mem_cons]
  refine ⟨.inr ⟨.inl rfl, 120, ?_, .inr ⟨50, ?_, ?_⟩⟩, .inr ⟨.inr rfl, 8, ?_, .inl ?_⟩, .inl ?_,
    List.forall_mem_nil _⟩
  all_goals decide +kernel

end Sample

theorem scoreQuestions_raised_scales :
    ∃ low high, scoreQuestions scales earlyAnswers none = .ok low
      ∧ scoreQuestions scales lateAnswers none = .ok high
      ∧ low.percentage = 47 ∧ high.percentage = 98 ∧ low.AtMost high := by
  have hlow : (scoreQuestions scales earlyAnswers none).map (·.percentage) = .ok 47 := by
    decide +kernel
  have hhigh : (scoreQuestions scales lateAnswers none).map (·.percentage) = .ok 98 := by
    decide +kernel
  obtain ⟨low, hlow, hearly⟩ := map_eq_ok.mp hlow
  obtain ⟨high, hhigh, hlate⟩ := map_eq_ok.mp hhigh
  obtain ⟨_, _, _, _, _, _, _, hle⟩ := scoreQuestions_raised hasWholeScale_scales
    hasIntegerScores_earlyAnswers raisedAnswers_lateAnswers none
  exact ⟨low, high, hlow, hhigh, hearly, hlate, hle low high hlow hhigh⟩

end Questionnaire
