import Questionnaire.Proofs.Audit.Coverage
import Questionnaire.Proofs.Json.Text
import Questionnaire.Proofs.Number.Range
import Questionnaire.Proofs.Scoring.Ordinary
import Questionnaire.Proofs.Scoring.Share

/-!
When scoring has an outcome.  It has one exactly if the points of every question exist, add up, and
have a share in percent, overall and in every category.  Where it has none, a number has outgrown
its format or is none, or an answer has no text; ordinary numbers never get that far, and ordinary
answers have texts.
-/

namespace Questionnaire

attribute [local instance] Binary64.corePow

attribute [local irreducible] Binary64.one Binary64.limit

namespace Number

variable {a b : Number}

theorem div_failsOnly : FailsOnly [.outOfRange] (a.div b) := by
  have hfloat : FailsOnly [.outOfRange]
      (do return (← a.toBinary64) / (← b.toBinary64) : Except Fault Binary64) :=
    toBinary64_failsOnly.bind fun _ _ => toBinary64_failsOnly.bind fun _ _ => .ok
  cases a with
  | float x => exact hfloat
  | int i =>
      cases b with
      | float y => exact hfloat
      | int j =>
          rw [div]
          split
          · exact .ok
          · dsimp only
            split
            · exact .ok
            · rintro _ ⟨rfl⟩
              exact List.mem_singleton_self _

theorem sumOver_failsOnly {α : Type} {causes : List Fault} {countOf : α → Except Fault Number}
    {members : List α} (hrange : [.outOfRange] ⊆ causes)
    (h : ∀ member, FailsOnly causes (countOf member)) :
    FailsOnly causes (sumOver countOf members) :=
  .foldlM (fun _ member => (h member).bind fun _ _ => combine_failsOnly.mono hrange) 0

end Number

namespace Points

section Failures

variable {text : Json → Except Fault String} {question : Question} {answer : Json}
  {causes : List Fault}

theorem weigh_failsOnly {best : Except Fault Number} {earned : Option (Except Fault Number)}
    {weight : Number} (hrange : [.outOfRange] ⊆ causes) (hbest : FailsOnly [.outOfRange] best)
    (hearned : ∀ own ∈ earned, FailsOnly causes own) :
    FailsOnly causes (weigh best earned weight) := by
  have hproduct (a : Number) : FailsOnly causes (a.mul weight) := Number.mul_failsOnly.mono hrange
  refine (hbest.mono hrange).bind fun best _ => (hproduct best).bind fun most _ => ?_
  cases earned with
  | none => exact .ok
  | some own =>
      exact (hearned own rfl).bind fun total _ => (hproduct total).bind fun _ _ => .ok

theorem unlessUnanswered_failsOnly {earned : Except Fault Number} (h : FailsOnly causes earned) :
    ∀ own ∈ unlessUnanswered answer earned, FailsOnly causes own := by
  intro own hown
  unfold unlessUnanswered at hown
  split at hown
  · cases hown
  · exact Option.mem_some.mp hown ▸ h

theorem bestOfChoice_failsOnly : FailsOnly [.outOfRange] (bestOfChoice question) := by
  unfold bestOfChoice
  split
  · exact Number.sum_failsOnly
  · exact .ok

theorem bestOfGrid_failsOnly : FailsOnly [.outOfRange] (bestOfGrid question) := by
  refine FailsOnly.bind ?_ fun _ _ => Number.mul_failsOnly
  unfold rowMost
  split
  · exact .ok
  · split
    · exact Number.sum_failsOnly
    · exact .ok

theorem placedTotal_failsOnly {places : List Nat} {values : List Number} :
    FailsOnly [.outOfRange] (placedTotal places values) :=
  (FailsOnly.mapM fun _ _ => Number.mul_failsOnly).bind fun _ _ => Number.sum_failsOnly

variable (hrange : [.outOfRange] ⊆ causes) (htext : ∀ v, FailsOnly causes (text v))

include htext

theorem quantityBy_failsOnly (v : Json) : FailsOnly causes (v.quantityBy text) := by
  unfold Json.quantityBy
  split
  · exact .ok
  · exact .ok
  · exact .ok
  · split
    · exact .ok
    · exact .ok
    · rename_i cause _ hcause
      intro other hother
      rw [← Except.error.inj hother]
      exact htext _ cause hcause

theorem ofNpsBy_failsOnly : FailsOnly causes (ofNpsBy text answer) := by
  refine (quantityBy_failsOnly htext answer).bind fun value _ => ?_
  split
  · exact .ok
  · exact .ok

include hrange

theorem totalBy_failsOnly (options : List Json) :
    FailsOnly causes (totalBy text question options) :=
  Number.sumOver_failsOnly hrange fun option => (htext option).map

theorem ofNumericBy_failsOnly : FailsOnly causes (ofNumericBy text question answer) := by
  have hproduct (a b : Number) : FailsOnly causes (a.mul b) := Number.mul_failsOnly.mono hrange
  unfold ofNumericBy
  dsimp only
  split
  · exact .ok
  · refine (quantityBy_failsOnly htext answer).bind fun value _ => ?_
    split
    · exact (hproduct _ _).bind fun _ _ => .ok
    · exact (hproduct _ _).bind fun _ _ => (hproduct _ _).bind fun _ _ => .ok

theorem ofChoiceBy_failsOnly : FailsOnly causes (ofChoiceBy text question answer) := by
  refine weigh_failsOnly hrange bestOfChoice_failsOnly (unlessUnanswered_failsOnly ?_)
  unfold chosenPointsBy
  split
  · exact totalBy_failsOnly hrange htext _
  · refine FailsOnly.map ?_
    unfold chosenOptionBy
    split
    · exact .ok
    · exact .ok
    · exact (htext _).map

theorem cellPointsBy_failsOnly (cell : Json) :
    FailsOnly causes (cellPointsBy text question cell) := by
  unfold cellPointsBy
  split
  · exact .ok
  · exact totalBy_failsOnly hrange htext _

theorem rankedPointsBy_failsOnly (ranked : Nat × Json) :
    FailsOnly causes (rankedPointsBy text question ranked) := by
  refine FailsOnly.bind ?_ fun _ _ => Number.mul_failsOnly.mono hrange
  unfold itemValueBy
  split
  · exact .ok
  · exact (htext _).map

theorem allocatedBy_failsOnly (allocation : Answers) :
    FailsOnly causes (allocatedBy text question allocation) := by
  unfold allocatedBy
  split
  · exact (quantityBy_failsOnly htext _).map
  · exact Number.sumOver_failsOnly hrange fun entry => (quantityBy_failsOnly htext entry.2).map

/-- In every mode, points are missing only where a number outgrows its format or a text is
missing. -/
theorem inModeBy_failsOnly (mode : ScoringMode) :
    FailsOnly causes (inModeBy text question mode answer) := by
  have hnothing : ∀ own ∈ (none : Option (Except Fault Number)), FailsOnly causes own := nofun
  cases mode with
  | numericDirect => exact ofNumericBy_failsOnly hrange htext
  | positionMapped => exact ofChoiceBy_failsOnly hrange htext
  | custom => exact ofChoiceBy_failsOnly hrange htext
  | count =>
      exact weigh_failsOnly hrange Number.sum_failsOnly
        (unlessUnanswered_failsOnly (totalBy_failsOnly hrange htext _))
  | nps => exact ofNpsBy_failsOnly htext
  | matrixSum =>
      refine weigh_failsOnly hrange bestOfGrid_failsOnly ?_
      split
      · exact unlessUnanswered_failsOnly
          (Number.sumOver_failsOnly hrange (cellPointsBy_failsOnly hrange htext))
      · exact hnothing
  | rankingWeighted =>
      refine weigh_failsOnly hrange placedTotal_failsOnly ?_
      split
      · exact unlessUnanswered_failsOnly
          (Number.sumOver_failsOnly hrange (rankedPointsBy_failsOnly hrange htext))
      · exact hnothing
  | constantSumTotal =>
      refine weigh_failsOnly hrange .ok ?_
      split
      · exact unlessUnanswered_failsOnly (allocatedBy_failsOnly hrange htext _).map
      · exact hnothing
  | none => exact .ok

end Failures

end Points

theorem Question.scoreBy_failsOnly {text : Json → Except Fault String} {causes : List Fault}
    (hrange : [.outOfRange] ⊆ causes) (htext : ∀ v, FailsOnly causes (text v))
    (question : Question) (answer : Json) : FailsOnly causes (question.scoreBy text answer) := by
  have hearned : FailsOnly causes (question.earnedBy text answer) := by
    unfold earnedBy
    split
    · exact .ok
    · exact Points.inModeBy_failsOnly hrange htext _
  have hgroup : FailsOnly causes (question.npsGroupBy text answer) := by
    unfold npsGroupBy
    split
    · exact (Points.quantityBy_failsOnly htext answer).map
    · exact .ok
  exact hearned.bind fun _ _ => hgroup.bind fun _ _ => .ok

/-- There is no percentage where a number outgrows its format, or where the share is no number. -/
theorem percentage_failsOnly {score most : Number} :
    FailsOnly [.outOfRange, .noSuchValue] (percentage score most) := by
  by_cases hmost : most.le 0 = true
  · rw [percentage, if_pos hmost]
    exact .ok
  · rw [Percentage.percentage_eq_share hmost]
    have hshare : FailsOnly [.outOfRange] (share score most) :=
      Number.div_failsOnly.bind fun _ _ => .ok
    refine (hshare.mono (by simp)).bind fun x _ => FailsOnly.map ?_
    intro cause hcause
    by_cases hfinite : x.isFinite = true
    · obtain ⟨u, hu⟩ := Binary64.exists_toUnits?_iff.mpr hfinite
      rw [Percentage.roundHalfUp_of_toUnits? hu] at hcause
      cases hcause
    · obtain ⟨other, hother, hcauses⟩ :=
        Percentage.roundHalfUp_of_not_finite (Bool.eq_false_iff.mpr hfinite)
      obtain rfl := Except.error.inj (hother.symm.trans hcause)
      simpa using hcauses

theorem Total.ofScores_failsOnly {scores : List QuestionScore} :
    FailsOnly [.outOfRange, .noSuchValue] (Total.ofScores scores) := by
  have hsum (numbers : List Number) :
      FailsOnly [.outOfRange, .noSuchValue] (Number.sum numbers) :=
    Number.sum_failsOnly.mono (by simp)
  exact (hsum _).bind fun _ _ => (hsum _).bind fun _ _ => percentage_failsOnly.bind fun _ _ => .ok

/-- Scoring fails only where a number outgrows its format or is none, or a text is missing. -/
theorem scoreQuestionsWithin_failsOnly {room : Nat} {questions : List Question} {answers : Answers}
    {config : Option ScoreConfig} : FailsOnly [.outOfRange, .noSuchValue, .tooDeep]
      (scoreQuestionsWithin room questions answers config) := by
  have htext (v : Json) :
      FailsOnly [.outOfRange, .noSuchValue, .tooDeep] (Json.displayWithin room v) :=
    Json.displayWithin_failsOnly.mono (by simp)
  have htotal (scores : List QuestionScore) :
      FailsOnly [.outOfRange, .noSuchValue, .tooDeep] (Total.ofScores scores) :=
    Total.ofScores_failsOnly.mono (by simp)
  have hscores : FailsOnly [.outOfRange, .noSuchValue, .tooDeep]
      (questionScoresBy (Json.displayWithin room) questions answers) :=
    .mapM fun question _ => question.scoreBy_failsOnly (by simp) htext _
  exact hscores.bind fun scores _ =>
    SurveyScore.ofScores_failsOnly (htotal scores) fun _ => htotal _

/-- What is bounded has a share in percent in what is bounded and on a grid: on the grid, what is
above zero cannot be too small. -/
theorem hasShare_of_measured {score most : Number} {j p k : Nat} (hscore : score.Bounded j)
    (hmost : most.Measured p k) (hp : p ≤ 1074) (hk : k ≤ 970) (hjp : 7 + (j + p) ≤ 970) :
    HasShare score most := by
  by_cases hnone : most.le 0 = true
  · exact .inl hnone
  · obtain ⟨v, hv, hvbound⟩ := hmost.bounded
    rw [Number.le_iff hv Number.units?_zero, not_le] at hnone
    have hlarge := Int.le_of_dvd hnone (hmost.onGrid v hv)
    have hquotient : Binary64.Fits (2 ^ j * 2 ^ p * Binary64.one) := by
      rw [← Nat.pow_add]
      exact Binary64.fits_pow_one (by omega)
    obtain ⟨x, hx, z, hz, hzbound⟩ := Number.div_within hscore hmost.bounded hv hlarge hp
      (Binary64.fits_pow_one (by omega)) (Binary64.fits_pow_one hk) hquotient
    have hbound : (z * (100 * Binary64.one : Nat)).natAbs
        ≤ 2 ^ (7 + (j + p)) * Binary64.one * Binary64.one := by
      rw [Int.natAbs_mul, Int.natAbs_natCast]
      calc z.natAbs * (100 * Binary64.one)
          ≤ 2 ^ j * 2 ^ p * Binary64.one * (2 ^ (7 : Nat) * Binary64.one) :=
            Nat.mul_le_mul hzbound (Nat.mul_le_mul_right _ (by decide))
        _ = 2 ^ (7 + (j + p)) * Binary64.one * Binary64.one := by
            rw [Nat.pow_add 2 7, Nat.pow_add 2 j]
            ring
    obtain ⟨u, hu, -⟩ := Binary64.exists_toUnits?_of_place? Binary64.one_pos
      (Binary64.fits_pow_one hjp)
      (Binary64.place?_mul hz Percentage.toUnits?_ofInt_hundred) hbound
    exact .inr ⟨_, bind_eq_ok.mpr ⟨x, hx, rfl⟩, Binary64.exists_toUnits?_iff.mp ⟨u, hu⟩⟩

/-- Few scores of ordinary size have totals. -/
theorem hasTotals_of_bounded {scores : List QuestionScore} (hfew : scores.length ≤ longest)
    (hscores : ∀ score ∈ scores, score.score.Bounded 362 ∧ score.maxScore.Measured 256 362) :
    HasTotals scores := by
  have hpoints : ∀ a ∈ scores.map (·.score), a.Bounded 362 :=
    List.forall_mem_map.mpr fun score hscore => (hscores score hscore).1
  have hmost : ∀ a ∈ scores.map (·.maxScore), a.Measured 256 362 :=
    List.forall_mem_map.mpr fun score hscore => (hscores score hscore).2
  obtain ⟨total, htotal, hbounded⟩ := Number.sum_bounded hpoints (by rwa [List.length_map])
        (by omega)
  obtain ⟨most, hmost, hmeasured⟩ := Number.sum_measured hmost (by rwa [List.length_map]) (by omega)
  exact ⟨total, most, htotal, hmost,
    hasShare_of_measured (Number.Within.tidy hbounded) hmeasured.tidy
      (by omega) (by omega) (by omega)⟩

/-- Not too many ordinary questions, with ordinary answers that have texts. -/
structure AllOrdinary (room : Nat) (questions : List Question) (answers : Answers) : Prop where
  few : questions.length ≤ longest
  ordinary : ∀ question ∈ questions,
    question.IsOrdinary ∧ (answers.answerTo question.id).IsOrdinary
  texts : ∀ question ∈ questions, (answers.answerTo question.id).hasText room = true

/-- Where an answer has a text, so has all that is in it. -/
theorem Json.hasScoredTexts_of_hasText {room : Nat} {answer : Json}
    (h : answer.hasText room = true) : answer.HasScoredTexts (displayWithin room) := by
  have hown {v : Json} (hv : v.hasText room = true) : displayWithin room v = .ok v.display :=
    displayWithin_eq_ok_iff.mpr ⟨hv, rfl⟩
  intro v hv
  cases answer with
  | arr items =>
      rcases List.mem_cons.mp hv with rfl | hitem
      · exact hown h
      · exact hown (hasText_of_mem_arr h hitem)
  | obj entries =>
      rcases List.mem_cons.mp hv with rfl | hpart
      · exact hown h
      · obtain ⟨entry, hentry, hpart⟩ := List.mem_flatMap.mp hpart
        have hmember := hasText_of_mem_obj h hentry
        rcases List.mem_cons.mp hpart with rfl | hitem
        · exact hown hmember
        · cases hvalue : entry.2 with
          | arr items =>
              rw [hvalue] at hmember hitem
              exact hown (hasText_of_mem_arr hmember hitem)
          | _ =>
              rw [hvalue] at hitem
              cases hitem
  | _ =>
      obtain rfl := List.mem_singleton.mp hv
      exact hown h

section Surveys

variable {room : Nat} {questions : List Question} {answers : Answers}
  {config : Option ScoreConfig}

/-- Answers that have texts are scored alike in any room for these. -/
theorem scoreQuestionsWithin_eq
    (h : ∀ question ∈ questions, (answers.answerTo question.id).hasText room = true) :
    scoreQuestionsWithin room questions answers config
      = scoreQuestions questions answers config := by
  rw [scoreQuestionsWithin, scoreQuestions, questionScoresBy_eq fun question hquestion =>
    Json.hasScoredTexts_of_hasText (h question hquestion)]

theorem reportable_of_ordinary (h : AllOrdinary room questions answers) :
    ∃ scores, questionScores questions answers = .ok scores ∧ Reportable config scores := by
  have hmembers : ∀ question ∈ questions.filter (·.isScorable), ∃ scored,
      question.score (answers.answerTo question.id) = .ok scored
        ∧ scored.score.Bounded 362 ∧ scored.maxScore.Measured 256 362 := by
    intro question hmem
    obtain ⟨hquestion, hanswer⟩ := h.ordinary question (List.mem_of_mem_filter hmem)
    exact Question.exists_score_ordinary hquestion hanswer
  obtain ⟨scores, hscores, hbounded⟩ := exists_mapM_ok_of_forall hmembers
  have hfew : scores.length ≤ longest := by
    rw [length_questionScores hscores]
    exact (List.length_filter_le _ _).trans h.few
  refine ⟨scores, hscores, hasTotals_of_bounded hfew hbounded, fun id _ => ?_⟩
  exact hasTotals_of_bounded ((List.length_filter_le _ _).trans hfew)
    fun score hscore => hbounded score (List.mem_of_mem_filter hscore)

/-- A percentage is a whole number from zero to a hundred. -/
def IsPercentage (percent : Int) : Prop := 0 ≤ percent ∧ percent ≤ 100

theorem Total.isPercentage {scores : List QuestionScore} {total : Total}
    (h : Total.ofScores scores = .ok total) : IsPercentage total.percentage := by
  obtain ⟨_, _, -, -, -, -, hpercent⟩ := Total.ofScores_eq_ok_iff.mp h
  exact percentage_bounds hpercent

theorem SurveyScore.IsReport.isPercentage {result : SurveyScore} (h : result.IsReport config) :
    IsPercentage result.percentage
      ∧ ∀ entry ∈ result.byCategory, IsPercentage entry.2.percentage := by
  refine ⟨Total.isPercentage h.totals, fun entry hentry => ?_⟩
  obtain ⟨total, htotal, hpart⟩ := categoryScore_eq_ok_iff.mp (h.parts entry hentry)
  rw [hpart]
  exact Total.isPercentage htotal

/-- There is a result exactly if the points of every question exist, and if overall and in every
category the points and the most points add up and have a share in percent.  Ordinary questions with
ordinary answers always have one, whatever the configuration.  Every result has percentages from
zero to a hundred, and where there is none, a number has outgrown its format or is no number, or an
answer has no text, for its integers or for its levels. -/
theorem scoreQuestions_outcome (room : Nat) (questions : List Question) (answers : Answers)
    (config : Option ScoreConfig) :
    ((∃ result, scoreQuestionsWithin room questions answers config = .ok result) ↔
        ∃ scores, questionScoresBy (Json.displayWithin room) questions answers = .ok scores
          ∧ Reportable config scores)
      ∧ (AllOrdinary room questions answers →
        ∃ result, scoreQuestionsWithin room questions answers config = .ok result)
      ∧ (∀ result, scoreQuestionsWithin room questions answers config = .ok result →
        IsPercentage result.percentage
          ∧ ∀ entry ∈ result.byCategory, IsPercentage entry.2.percentage)
      ∧ ∀ cause, scoreQuestionsWithin room questions answers config = .error cause →
        cause ∈ [.outOfRange, .noSuchValue, .tooDeep] := by
  refine ⟨?_, fun h => ?_, fun result hresult => ?_, scoreQuestionsWithin_failsOnly⟩
  · simp only [← SurveyScore.exists_ofScores_iff]
    exact exists_bind_ok_iff
  · rw [scoreQuestionsWithin_eq h.texts]
    exact exists_scoreQuestions_iff_reportable.mpr (reportable_of_ordinary h)
  · obtain ⟨scores, -, hreport⟩ := bind_eq_ok.mp hresult
    exact (SurveyScore.ofScores_eq_ok_iff.mp hreport).2.isPercentage

end Surveys

open Sample

namespace Sample

/-- A choice of half the weight, and a slider. -/
def halfWeighted : List Question :=
  [{ options "q1" (some "a") with scoreWeight := some (.float Number.half) },
    { Survey.Sample.plain "q2" [] with kind := .slider }]

/-- An option that is not configured, and a slider beyond all numbers. -/
def endlessAnswers : Answers :=
  [("q1", .arr [.str "B", .str "C"]), ("q2", .num (.float (.infinite false)))]

theorem ordinary_half : (Number.float Number.half).IsOrdinary := by
  rw [Percentage.half_eq]
  refine ⟨⟨_, rfl, ?_⟩, ?_⟩
  · exact (Nat.div_le_self Binary64.one 2).trans (Nat.le_mul_of_pos_left _ (Nat.pow_pos (by omega)))
  · rintro _ ⟨rfl⟩
    have hgrid : 2 ^ (1074 - 128 : Nat) ∣ Binary64.one / 2 := by decide +kernel
    exact Int.natCast_dvd_natCast.mpr hgrid

theorem ordinary_int {i : Int} (h : i.natAbs ≤ 2 ^ (128 : Nat)) : (Number.int i).IsOrdinary :=
  Number.measured_int h

theorem allOrdinary_halfWeighted : AllOrdinary 2 halfWeighted endlessAnswers := by
  have hchoice : halfWeighted[0].IsOrdinary := {
    weight := ordinary_half
    bound := ordinary_int (i := 0) (by decide)
    share := ordinary_int (i := 100) (by decide)
    points := by
      intro entry hentry
      obtain rfl | rfl := List.mem_pair.mp hentry
      · exact ordinary_int (i := 1) (by decide)
      · exact ordinary_int (i := 2) (by decide)
    few_points := by decide
    few_choices := by decide
    few_rows := by decide }
  have hslider : halfWeighted[1].IsOrdinary := {
    weight := ordinary_int (i := 1) (by decide)
    bound := ordinary_int (i := 100) (by decide)
    share := ordinary_int (i := 100) (by decide)
    points := List.forall_mem_nil _
    few_points := by decide
    few_choices := by decide
    few_rows := by decide }
  have hchosen : (endlessAnswers.answerTo "q1").IsOrdinary :=
    Json.IsShort.isOrdinary (by decide) fun _ h => by cases h
  have hendless : (endlessAnswers.answerTo "q2").IsOrdinary :=
    Json.IsShort.isOrdinary (by decide) fun _ h => by cases h
  refine ⟨by decide, ?_, by decide⟩
  simp only [halfWeighted, List.forall_mem_cons]
  exact ⟨⟨hchoice, hchosen⟩, ⟨hslider, hendless⟩, List.forall_mem_nil _⟩

/-- Two options of which each has nearly as many points as a number can hold. -/
def vast : Question :=
  { Survey.Sample.plain "q1" [] with
    kind := .checkbox, options := some ["A", "B"]
    optionScores := some [("A", .float (.ofInt (10 ^ (308 : Nat)))),
      ("B", .float (.ofInt (10 ^ (308 : Nat))))] }

end Sample

theorem scoreQuestions_outcome_halfWeighted :
    ∃ result, scoreQuestionsWithin 2 halfWeighted endlessAnswers none = .ok result
      ∧ result.total = 101 ∧ IsPercentage result.percentage := by
  obtain ⟨-, hordinary, hpercentage, -⟩ := scoreQuestions_outcome 2 halfWeighted endlessAnswers none
  obtain ⟨result, hresult⟩ := hordinary allOrdinary_halfWeighted
  have htotal : (scoreQuestionsWithin 2 halfWeighted endlessAnswers none).map (·.total) =
      .ok 101 := by
    decide +kernel
  rw [hresult] at htotal
  exact ⟨result, hresult, Except.ok.inj htotal, (hpercentage result hresult).1⟩

/-- The points and the most points are both infinite, and have no share. -/
theorem scoreQuestions_vast :
    scoreQuestionsWithin 2 [vast] [("q1", .arr [.str "A", .str "B"])] none =
      .error .noSuchValue := by
  decide +kernel

end Questionnaire
