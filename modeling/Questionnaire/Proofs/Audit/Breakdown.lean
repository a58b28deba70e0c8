import Questionnaire.Proofs.Audit.Coverage

/-!
Categories that fit the questions.  The checks of the categories look at the questions alone; where
they report nothing, every configured category has a scored question and every scored question has a
configured category, so that the breakdown of a score by category is complete.
-/

namespace Questionnaire

namespace Audit

variable {questions : List Question} {config : ScoreConfig}

/-- The codes of findings about categories that do not fit the questions. -/
def categoryCodes : List String :=
  ["UNUSED_CATEGORY", "SCORABLE_NO_CATEGORY", "INVALID_CATEGORY_REF"]

/-- Every configured category has a scored question, and every scored question has a configured
category. -/
structure FitsCategories (questions : List Question) (config : ScoreConfig) : Prop where
  used : ∀ id ∈ configuredIds (some config), id ≠ "" ∧
    ∃ question ∈ questions, question.isScorable = true ∧ question.category = some id
  known : ∀ question ∈ questions, question.isScorable = true →
    ∃ id ∈ configuredIds (some config), id ≠ "" ∧ question.category = some id

/-- A configured category that is not reported as unused has a scored question. -/
theorem used_of_unusedCategories
    (h : ∀ finding ∈ unusedCategories questions config, finding.code ∉ categoryCodes) {id : String}
    (hid : id ∈ configuredIds (some config)) : id ≠ "" ∧
      ∃ question ∈ questions, question.isScorable = true ∧ question.category = some id := by
  obtain ⟨category, hcategory, rfl⟩ := List.mem_map.mp hid
  have hused : category.id ∈ usedCategories questions := by
    by_contra hunused
    have hfiltered : category ∈ config.categories.filter (·.id ∉ usedCategories questions) :=
      List.mem_filter.mpr ⟨hcategory, decide_eq_true hunused⟩
    exact h _ (List.mem_map_of_mem hfiltered) List.mem_cons_self
  obtain ⟨question, hquestion, hown⟩ := List.mem_filterMap.mp hused
  obtain ⟨hmem, hscorable⟩ := List.mem_filter.mp hquestion
  obtain ⟨hown, hne⟩ := Option.filter_eq_some_iff.mp hown
  exact ⟨of_decide_eq_true hne, question, hmem, hscorable, hown⟩

/-- A scored question of which nothing about its category is reported has a known category. -/
theorem known_of_scoredQuestion {known : List String} (hknown : known ≠ []) {question : Question}
    (h : ∀ finding ∈ scoredQuestion known question, finding.code ∉ categoryCodes) :
    ∃ id ∈ known, id ≠ "" ∧ question.category = some id := by
  unfold scoredQuestion at h
  cases hcategory : question.category.filter (· ≠ "") with
  | none =>
      simp only [hcategory] at h
      exact absurd (show "SCORABLE_NO_CATEGORY" ∈ categoryCodes by decide)
        (h _ (List.mem_append_left _ List.mem_cons_self))
  | some id =>
      obtain ⟨hown, hne⟩ := Option.filter_eq_some_iff.mp hcategory
      refine ⟨id, ?_, of_decide_eq_true hne, hown⟩
      by_contra hunknown
      simp only [hcategory, if_pos (show (!known.isEmpty) = true ∧ id ∉ known from
        ⟨by simpa using hknown, hunknown⟩)] at h
      exact absurd (show "INVALID_CATEGORY_REF" ∈ categoryCodes by decide)
        (h _ (List.mem_append_left _ List.mem_cons_self))

/-- Checks that report nothing about the categories find that they fit the questions. -/
theorem fitsCategories_of_scoring {findings : List Finding} (henabled : config.enabled = true)
    (hcategories : config.categories ≠ [])
    (h : scoring questions (some config) = .ok findings)
    (hclean : ∀ finding ∈ findings, finding.code ∉ categoryCodes) :
    FitsCategories questions config := by
  rw [scoring_of_enabled henabled] at h
  obtain ⟨unused, hunused, hunusedFound⟩ :=
    exists_found_of_gather h (.ok (unusedCategories questions config)) (by simp)
  obtain ⟨scored, hscored, hscoredFound⟩ :=
    exists_found_of_gather h (.ok (scoredQuestions questions config)) (by simp)
  cases hunused
  cases hscored
  constructor
  · intro id hid
    exact used_of_unusedCategories
      (fun finding hfinding => hclean finding (hunusedFound finding hfinding)) hid
  · intro question hquestion hscorable
    refine known_of_scoredQuestion (mt List.map_eq_nil_iff.mp hcategories)
      fun finding hfinding => ?_
    exact hclean finding (hscoredFound finding (List.mem_flatMap.mpr
      ⟨question, List.mem_filter.mpr ⟨hquestion, hscorable⟩, hfinding⟩))

end Audit

section Breakdown

variable {questions : List Question} {answers : Answers} {config : ScoreConfig}
  {scores : List QuestionScore} {result : SurveyScore}

theorem Question.category_of_score {question : Question} {answer : Json} {score : QuestionScore}
    (h : question.score answer = .ok score) : score.category = question.category := by
  obtain ⟨points, -, h⟩ := bind_eq_ok.mp h
  obtain ⟨group, -, h⟩ := bind_eq_ok.mp h
  cases h
  rfl

namespace Audit.FitsCategories

/-- Every score counts towards a configured category. -/
theorem countsTowards (hfits : FitsCategories questions config)
    (hscores : questionScores questions answers = .ok scores) :
    ∀ score ∈ scores, ∃ id ∈ configuredIds (some config), score.countsTowards = some id := by
  intro score hscore
  obtain ⟨question, hquestion, hown⟩ := (mapM_ok_members hscores).2 score hscore
  obtain ⟨hmem, hscorable⟩ := List.mem_filter.mp hquestion
  obtain ⟨id, hid, hne, hcategory⟩ := hfits.known question hmem hscorable
  refine ⟨id, hid, QuestionScore.countsTowards_eq_some_iff.mpr ⟨?_, hne⟩⟩
  rw [Question.category_of_score hown, hcategory]

/-- The categories that are reported are the configured ones. -/
theorem mem_categoryIds_iff (hfits : FitsCategories questions config)
    (hscores : questionScores questions answers = .ok scores) {id : String} :
    id ∈ categoryIds (some config) scores ↔ id ∈ configuredIds (some config) := by
  rw [Questionnaire.mem_categoryIds_iff]
  refine ⟨?_, .inl⟩
  rintro (hid | ⟨score, hscore, hcounts⟩)
  · exact hid
  · obtain ⟨own, hown, hcategory⟩ := hfits.countsTowards hscores score hscore
    cases hcounts.symm.trans hcategory
    exact hown

theorem categoryIds_eq (hfits : FitsCategories questions config)
    (hscores : questionScores questions answers = .ok scores) :
    categoryIds (some config) scores = (configuredIds (some config)).eraseDups := by
  have hothers : (scores.filterMap (·.countsTowards)).filter (· ∉ configuredIds (some config))
      = [] := by
    refine List.filter_eq_nil_iff.mpr fun id hid => ?_
    obtain ⟨score, hscore, hcounts⟩ := List.mem_filterMap.mp hid
    have hconfigured : id ∈ configuredIds (some config) := (hfits.mem_categoryIds_iff hscores).mp
      (Questionnaire.mem_categoryIds_iff.mpr (.inr ⟨score, hscore, hcounts⟩))
    simpa using hconfigured
  rw [Questionnaire.categoryIds_eq, hothers, List.eraseDups_nil, List.append_nil]

/-- No score is left out of the categories. -/
theorem countedTowards_none (hfits : FitsCategories questions config)
    (hscores : questionScores questions answers = .ok scores) :
    countedTowards scores none = [] := by
  refine List.filter_eq_nil_iff.mpr fun score hscore => ?_
  obtain ⟨id, -, hcounts⟩ := hfits.countsTowards hscores score hscore
  simp [hcounts]

/-- Every configured category has the score of a question in it. -/
theorem exists_score (hfits : FitsCategories questions config)
    (hscores : questionScores questions answers = .ok scores) {id : String}
    (hid : id ∈ configuredIds (some config)) :
    ∃ question ∈ questions, question.isScorable = true ∧ question.category = some id
      ∧ ∃ score ∈ countedTowards scores (some id),
        question.score (answers.answerTo question.id) = .ok score := by
  obtain ⟨hne, question, hquestion, hscorable, hcategory⟩ := hfits.used id hid
  obtain ⟨score, hscore, hown⟩ :=
    (mapM_ok_members hscores).1 question (List.mem_filter.mpr ⟨hquestion, hscorable⟩)
  have hcounts : score.countsTowards = some id :=
    QuestionScore.countsTowards_eq_some_iff.mpr
      ⟨(Question.category_of_score hown).trans hcategory, hne⟩
  exact ⟨question, hquestion, hscorable, hcategory, score,
    List.mem_filter.mpr ⟨hscore, by simpa using hcounts⟩, hown⟩

end Audit.FitsCategories

/-- A result whose categories are the configured ones and have all points among them. -/
structure SurveyScore.IsBrokenDown (questions : List Question) (answers : Answers)
    (config : ScoreConfig) (result : SurveyScore) : Prop where
  keys : result.byCategory.keys = (configuredIds (some config)).eraseDups
  scored : ∀ id ∈ result.byCategory.keys,
    ∃ question ∈ questions, question.isScorable = true ∧ question.category = some id
      ∧ ∃ score ∈ countedTowards result.questionScores (some id),
        question.score (answers.answerTo question.id) = .ok score
  whole : ∀ entry ∈ result.byCategory, entry.2.score = .int entry.2.score.intValue
    ∧ entry.2.maxScore = .int entry.2.maxScore.intValue
  total : result.total = .int (result.byCategory.map (·.2.score.intValue)).sum
  maxScore : result.maxScore = .int (result.byCategory.map (·.2.maxScore.intValue)).sum

theorem SurveyScore.IsScore.isBrokenDown (hfits : Audit.FitsCategories questions config)
    (hwhole : HasWholeScores questions answers)
    (h : result.IsScore questions answers (some config)) :
    result.IsBrokenDown questions answers config := by
  have hadds := h.addsUp (hwhole.isWhole h.scored)
  have hkeys := h.keys.trans (hfits.categoryIds_eq h.scored)
  have hnone := hfits.countedTowards_none h.scored
  refine ⟨hkeys, fun id hid => ?_, fun entry hentry => ?_, ?_, ?_⟩
  · rw [hkeys, List.mem_eraseDups] at hid
    exact hfits.exists_score h.scored hid
  · rw [hadds.part_score entry hentry, hadds.part_maxScore entry hentry]
    exact ⟨rfl, rfl⟩
  · rw [hadds.total, ← hadds.split_score, hnone]
    simp [earnedPoints]
  · rw [hadds.maxScore, ← hadds.split_maxScore, hnone]
    simp [mostPoints]

/-- Under a configuration with categories about which the checks report nothing, scores of whole
points are broken down completely.  There is a result exactly if the percentages exist that it
reports; its categories are the configured ones, each with the score of a question in it, and they
have all points among them. -/
theorem breakdown_of_scoring {findings : List Finding} (henabled : config.enabled = true)
    (hcategories : config.categories ≠ [])
    (haudit : Audit.scoring questions (some config) = .ok findings)
    (hclean : ∀ finding ∈ findings, finding.code ∉ Audit.categoryCodes)
    (hwhole : HasWholeScores questions answers) :
    ((∃ result, scoreQuestions questions answers (some config) = .ok result) ↔
      ∃ scores, questionScores questions answers = .ok scores ∧ HasPercentage scores
        ∧ ∀ id ∈ configuredIds (some config), HasPercentage (countedTowards scores (some id)))
      ∧ ∀ result, scoreQuestions questions answers (some config) = .ok result →
        result.IsBrokenDown questions answers config := by
  have hfits := Audit.fitsCategories_of_scoring henabled hcategories haudit hclean
  constructor
  · rw [exists_scoreQuestions_iff hwhole]
    refine exists_congr fun scores => and_congr_right fun hscores => and_congr_right fun _ => ?_
    simp only [hfits.mem_categoryIds_iff hscores]
  · intro result hresult
    exact (scoreQuestions_eq_ok_iff.mp hresult).isBrokenDown hfits hwhole

end Breakdown

open Sample

theorem breakdown_of_scoring_banded :
    ∃ result, scoreQuestions halved halvedAnswers (some banded) = .ok result
      ∧ result.IsBrokenDown halved halvedAnswers banded := by
  have haudit : Audit.scoring halved (some banded) = .ok [] := by decide +kernel
  have hwhole : HasWholeScores halved halvedAnswers := by
    refine hasWholeScores_iff.mpr ⟨[⟨"q1", 1, 2, .count, some "a", true, none⟩,
      ⟨"q2", 1, 2, .count, some "b", true, none⟩], ?_, ?_⟩
    · decide +kernel
    · decide
  have hbreakdown := breakdown_of_scoring rfl (by simp [banded, grouped]) haudit (by simp) hwhole
  have hmost : (scoreQuestions halved halvedAnswers (some banded)).map (·.maxScore) = .ok 4 := by
    decide +kernel
  obtain ⟨result, hscored, -⟩ := map_eq_ok.mp hmost
  exact ⟨result, hscored, hbreakdown.2 result hscored⟩

end Questionnaire
