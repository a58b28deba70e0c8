import Questionnaire.Proofs.Lists
import Questionnaire.Proofs.Scoring.WholePoints
import Questionnaire.Proofs.Walk.Replay
import Questionnaire.Scoring.Survey

/-!
Survey scores of whole points.  Nothing is lost and nothing counts twice: the categories split the
scored questions, so that their points and the points without a category are the points of all.
-/

namespace Questionnaire

/-- Results under their names: the names are the given ones, and each has its own result. -/
theorem mapM_keyed_eq_ok_iff {α : Type} {f : String → Except Fault α} {names : List String}
    {entries : Entries α} : (names.mapM fun name => do return (name, ← f name)) = .ok entries ↔
      entries.keys = names ∧ ∀ entry ∈ entries, f entry.1 = .ok entry.2 := by
  have hentry (name : String) (entry : String × α) :
      (do return (name, ← f name)) = (.ok entry : Except Fault _) ↔
        entry.1 = name ∧ f name = .ok entry.2 := by
    obtain ⟨other, value⟩ := entry
    cases f name with
    | error cause => simp [bind, Except.bind]
    | ok own => simp [bind, Except.bind, pure, Except.pure, eq_comm]
  simp only [mapM_eq_ok_iff, hentry]
  constructor
  · intro h
    have hkeys : List.Forall₂ Eq names entries.keys :=
      List.forall₂_map_right_iff.mpr (h.imp fun _ _ hentry => hentry.1.symm)
    rw [List.forall₂_eq_eq_eq] at hkeys
    rw [hkeys, Entries.keys, List.forall₂_map_left_iff, List.forall₂_same] at h
    exact ⟨hkeys.symm, fun entry hmem => (h entry hmem).2⟩
  · rintro ⟨rfl, hown⟩
    rw [Entries.keys, List.forall₂_map_left_iff, List.forall₂_same]
    exact fun entry hmem => ⟨rfl, hown entry hmem⟩

namespace Number

/-- The value of an integer; a binary number is none and counts as zero. -/
def intValue : Number → Int
  | .int value => value
  | .float _ => 0

end Number

/-- The ids of the configured categories. -/
def configuredIds (config : Option ScoreConfig) : List String :=
  ((config.map (·.categories)).getD []).map (·.id)

/-- The scores that count towards a category, or towards none. -/
def countedTowards (scores : List QuestionScore) (category : Option String) : List QuestionScore :=
  scores.filter fun score => score.countsTowards = category

theorem QuestionScore.countsTowards_eq_some_iff {score : QuestionScore} {id : String} :
    score.countsTowards = some id ↔ score.category = some id ∧ id ≠ "" := by
  simp [QuestionScore.countsTowards, Option.filter_eq_some_iff]

theorem mem_categoryIds_iff {config : Option ScoreConfig} {scores : List QuestionScore}
    {id : String} : id ∈ categoryIds config scores ↔
      id ∈ configuredIds config ∨ ∃ score ∈ scores, score.countsTowards = some id := by
  rw [categoryIds, List.mem_eraseDups, List.mem_append, List.mem_filterMap]
  rfl

theorem nodup_categoryIds (config : Option ScoreConfig) (scores : List QuestionScore) :
    (categoryIds config scores).Nodup := nodup_eraseDups _

/-- The configured categories come first, and after them the others, each where it first comes
up. -/
theorem categoryIds_eq (config : Option ScoreConfig) (scores : List QuestionScore) :
    categoryIds config scores = (configuredIds config).eraseDups
      ++ ((scores.filterMap (·.countsTowards)).filter (· ∉ configuredIds config)).eraseDups := by
  have hothers : (scores.filterMap (·.countsTowards)).removeAll (configuredIds config)
      = (scores.filterMap (·.countsTowards)).filter (· ∉ configuredIds config) := by
    unfold List.removeAll
    apply List.filter_congr
    intro id _
    simp
  rw [← hothers, ← List.eraseDups_append]
  rfl

theorem Total.ofScores_eq_ok_iff {scores : List QuestionScore} {total : Total} :
    Total.ofScores scores = .ok total ↔ ∃ score most,
      Number.sum (scores.map (·.score)) = .ok score
        ∧ Number.sum (scores.map (·.maxScore)) = .ok most
        ∧ total.score = score.tidy ∧ total.most = most.tidy
        ∧ Questionnaire.percentage total.score total.most = .ok total.percentage := by
  constructor
  · intro h
    obtain ⟨score, hscore, h⟩ := bind_eq_ok.mp h
    obtain ⟨most, hmost, h⟩ := bind_eq_ok.mp h
    obtain ⟨percent, hpercent, h⟩ := bind_eq_ok.mp h
    obtain rfl := Except.ok.inj h
    exact ⟨score, most, hscore, hmost, rfl, rfl, hpercent⟩
  · rintro ⟨score, most, hscore, hmost, htotal, htop, hpercent⟩
    rw [htotal, htop] at hpercent
    refine bind_eq_ok.mpr ⟨score, hscore, bind_eq_ok.mpr ⟨most, hmost, bind_eq_ok.mpr
      ⟨total.percentage, hpercent, ?_⟩⟩⟩
    rw [← htotal, ← htop]
    rfl

/-- A category with its totals, and with the band that these fall into. -/
def CategoryScore.ofTotal (config : Option ScoreConfig) (id : String) (total : Total) :
    CategoryScore where
  name := categoryName config id
  score := total.score
  maxScore := total.most
  percentage := total.percentage
  label := (total.band? (bandsOfCategory config id)).map (·.label)
  bandId := (total.band? (bandsOfCategory config id)).map (·.id)

theorem categoryScore_eq_ok_iff {config : Option ScoreConfig} {scores : List QuestionScore}
    {id : String} {part : CategoryScore} : categoryScore config scores id = .ok part ↔
      ∃ total, Total.ofScores (countedTowards scores (some id)) = .ok total
        ∧ part = .ofTotal config id total := by
  constructor
  · intro h
    obtain ⟨total, htotal, h⟩ := bind_eq_ok.mp h
    exact ⟨total, htotal, (Except.ok.inj h).symm⟩
  · rintro ⟨total, htotal, rfl⟩
    exact bind_eq_ok.mpr ⟨total, htotal, rfl⟩

/-- What a result makes of the scores of the questions: their totals, and the same for each
category. -/
structure SurveyScore.IsReport (config : Option ScoreConfig) (result : SurveyScore) : Prop where
  totals : Total.ofScores result.questionScores
    = .ok ⟨result.total, result.maxScore, result.percentage⟩
  keys : result.byCategory.keys = categoryIds config result.questionScores
  parts : ∀ entry ∈ result.byCategory,
    categoryScore config result.questionScores entry.1 = .ok entry.2
  band : result.band = Total.band? ⟨result.total, result.maxScore, result.percentage⟩
    (bandsOf config .results)

/-- A result of questions and answers: a report of their scores. -/
structure SurveyScore.IsScore (questions : List Question) (answers : Answers)
    (config : Option ScoreConfig) (result : SurveyScore) : Prop extends
    result.IsReport config where
  scored : Questionnaire.questionScores questions answers = .ok result.questionScores

section Reports

variable {config : Option ScoreConfig} {scores : List QuestionScore} {result : SurveyScore}

theorem SurveyScore.ofScores_eq_ok_iff : SurveyScore.ofScores config scores = .ok result ↔
    result.questionScores = scores ∧ result.IsReport config := by
  constructor
  · intro h
    obtain ⟨total, htotal, h⟩ := bind_eq_ok.mp h
    obtain ⟨byCategory, hbyCategory, h⟩ := bind_eq_ok.mp h
    obtain rfl := Except.ok.inj h
    obtain ⟨hkeys, hparts⟩ := mapM_keyed_eq_ok_iff.mp hbyCategory
    exact ⟨rfl, htotal, hkeys, hparts, rfl⟩
  · rintro ⟨rfl, h⟩
    refine bind_eq_ok.mpr ⟨_, h.totals, bind_eq_ok.mpr
      ⟨_, mapM_keyed_eq_ok_iff.mpr ⟨h.keys, h.parts⟩, ?_⟩⟩
    rw [← h.band]
    rfl

/-- There is a report exactly if all scores together have totals, and those of each category. -/
theorem SurveyScore.exists_ofScores_iff_totals :
    (∃ result, SurveyScore.ofScores config scores = .ok result) ↔
      (∃ total, Total.ofScores scores = .ok total)
        ∧ ∀ id ∈ categoryIds config scores,
          ∃ total, Total.ofScores (countedTowards scores (some id)) = .ok total := by
  constructor
  · rintro ⟨result, hresult⟩
    obtain ⟨rfl, h⟩ := ofScores_eq_ok_iff.mp hresult
    refine ⟨⟨_, h.totals⟩, fun id hid => ?_⟩
    rw [← h.keys, Entries.keys, List.mem_map] at hid
    obtain ⟨entry, hentry, rfl⟩ := hid
    obtain ⟨total, htotal, -⟩ := categoryScore_eq_ok_iff.mp (h.parts entry hentry)
    exact ⟨total, htotal⟩
  · rintro ⟨⟨total, htotal⟩, hparts⟩
    have hentries : ∀ id ∈ categoryIds config scores, ∃ entry,
        (do return (id, ← categoryScore config scores id) : Except Fault _) = .ok entry := by
      intro id hid
      obtain ⟨own, hown⟩ := hparts id hid
      exact ⟨_, bind_eq_ok.mpr ⟨_, categoryScore_eq_ok_iff.mpr ⟨own, hown, rfl⟩, rfl⟩⟩
    obtain ⟨byCategory, hbyCategory⟩ := exists_mapM_ok_iff.mpr hentries
    obtain ⟨hkeys, hown⟩ := mapM_keyed_eq_ok_iff.mp hbyCategory
    exact ⟨⟨total.score, total.most, total.percentage, byCategory,
        total.band? (bandsOf config .results), scores⟩,
      ofScores_eq_ok_iff.mpr ⟨rfl, htotal, hkeys, hown, rfl⟩⟩

/-- Reporting fails only where all scores together or those of a category do. -/
theorem SurveyScore.ofScores_failsOnly {causes : List Fault}
    (hall : FailsOnly causes (Total.ofScores scores))
    (hparts : ∀ category, FailsOnly causes (Total.ofScores (countedTowards scores category))) :
    FailsOnly causes (SurveyScore.ofScores config scores) := by
  have hcategory (id : String) : FailsOnly causes (categoryScore config scores id) :=
    (hparts (some id)).bind fun _ _ => .ok
  refine hall.bind fun total _ => FailsOnly.bind (.mapM fun id _ => ?_) fun _ _ => .ok
  exact (hcategory id).bind fun _ _ => .ok

end Reports

section Surveys

variable {questions : List Question} {answers : Answers} {config : Option ScoreConfig}

theorem scoreQuestions_eq_ok_iff {result : SurveyScore} :
    scoreQuestions questions answers config = .ok result ↔
      result.IsScore questions answers config := by
  rw [scoreQuestions, bind_eq_ok]
  simp only [SurveyScore.ofScores_eq_ok_iff]
  constructor
  · rintro ⟨_, hscored, rfl, hreport⟩
    exact ⟨hreport, hscored⟩
  · intro h
    exact ⟨_, h.scored, rfl, h.toIsReport⟩

theorem exists_scoreQuestions_iff_totals :
    (∃ result, scoreQuestions questions answers config = .ok result) ↔
      ∃ scores, questionScores questions answers = .ok scores
        ∧ (∃ total, Total.ofScores scores = .ok total)
        ∧ ∀ id ∈ categoryIds config scores,
          ∃ total, Total.ofScores (countedTowards scores (some id)) = .ok total := by
  simp only [← SurveyScore.exists_ofScores_iff_totals]
  exact exists_bind_ok_iff

/-- Scoring fails only where a question, all scores together or those of a category do. -/
theorem scoreQuestions_failsOnly_of {causes : List Fault}
    (hscores : FailsOnly causes (questionScores questions answers))
    (htotals : ∀ scores, questionScores questions answers = .ok scores →
      FailsOnly causes (Total.ofScores scores)
        ∧ ∀ category, FailsOnly causes (Total.ofScores (countedTowards scores category))) :
    FailsOnly causes (scoreQuestions questions answers config) :=
  hscores.bind fun scores hown =>
    SurveyScore.ofScores_failsOnly (htotals scores hown).1 (htotals scores hown).2

end Surveys

namespace QuestionScore

/-- The points and the most points are integers. -/
structure IsWhole (score : QuestionScore) : Prop where
  score_eq : score.score = .int score.score.intValue
  maxScore_eq : score.maxScore = .int score.maxScore.intValue

instance (score : QuestionScore) : Decidable score.IsWhole :=
  decidable_of_iff (score.score = .int score.score.intValue
      ∧ score.maxScore = .int score.maxScore.intValue)
    ⟨fun ⟨hscore, hmost⟩ => ⟨hscore, hmost⟩, fun h => ⟨h.score_eq, h.maxScore_eq⟩⟩

end QuestionScore

/-- Whole points together. -/
def earnedPoints (scores : List QuestionScore) : Int := (scores.map (·.score.intValue)).sum

/-- The most whole points together. -/
def mostPoints (scores : List QuestionScore) : Int := (scores.map (·.maxScore.intValue)).sum

theorem Total.ofScores_whole {scores : List QuestionScore} (h : ∀ score ∈ scores, score.IsWhole) :
    Total.ofScores scores
      = (Questionnaire.percentage (.int (earnedPoints scores)) (.int (mostPoints scores))).map
          fun percent => ⟨.int (earnedPoints scores), .int (mostPoints scores), percent⟩ := by
  have hscore : Number.sum (scores.map (·.score)) = .ok (.int (earnedPoints scores)) := by
    rw [List.map_congr_left fun score hscore => (h score hscore).score_eq, earnedPoints,
      ← Number.sum_int, List.map_map]
    rfl
  have hmost : Number.sum (scores.map (·.maxScore)) = .ok (.int (mostPoints scores)) := by
    rw [List.map_congr_left fun score hscore => (h score hscore).maxScore_eq, mostPoints,
      ← Number.sum_int, List.map_map]
    rfl
  rw [Total.ofScores, hscore, hmost]
  change (Questionnaire.percentage (.int (earnedPoints scores)) (.int (mostPoints scores))
    >>= fun percent => .ok _) = _
  cases Questionnaire.percentage (.int (earnedPoints scores)) (.int (mostPoints scores)) <;> rfl

theorem Total.of_ofScores_whole {scores : List QuestionScore} {total : Total}
    (hwhole : ∀ score ∈ scores, score.IsWhole) (h : Total.ofScores scores = .ok total) :
    total.score = .int (earnedPoints scores) ∧ total.most = .int (mostPoints scores) := by
  rw [Total.ofScores_whole hwhole] at h
  obtain ⟨percent, -, rfl⟩ := map_eq_ok.mp h
  exact ⟨rfl, rfl⟩

/-- The percentage of whole points exists: it does not outgrow the format of binary numbers. -/
def HasPercentage (scores : List QuestionScore) : Prop :=
  ∃ percent, percentage (.int (earnedPoints scores)) (.int (mostPoints scores)) = .ok percent

theorem exists_ofScores_iff {scores : List QuestionScore}
    (hwhole : ∀ score ∈ scores, score.IsWhole) :
    (∃ total, Total.ofScores scores = .ok total) ↔ HasPercentage scores := by
  rw [Total.ofScores_whole hwhole, HasPercentage]
  cases percentage (.int (earnedPoints scores)) (.int (mostPoints scores)) <;> simp [Except.map]

/-- Every question that is scored has a score of whole points. -/
def HasWholeScores (questions : List Question) (answers : Answers) : Prop :=
  ∀ question ∈ questions, question.isScorable = true →
    ∃ score, question.score (answers.answerTo question.id) = .ok score ∧ score.IsWhole

section Whole

variable {questions : List Question} {answers : Answers} {config : Option ScoreConfig}
  {scores : List QuestionScore} {result : SurveyScore}

/-- The scored questions have their scores one by one. -/
theorem questionScores_eq_ok_iff : questionScores questions answers = .ok scores ↔
    List.Forall₂ (fun question score => question.score (answers.answerTo question.id) = .ok score)
      (questions.filter (·.isScorable)) scores := mapM_eq_ok_iff

theorem hasWholeScores_iff : HasWholeScores questions answers ↔
    ∃ scores, questionScores questions answers = .ok scores ∧ ∀ score ∈ scores, score.IsWhole := by
  constructor
  · intro h
    exact exists_mapM_ok_of_forall fun question hquestion =>
      h question (List.mem_of_mem_filter hquestion) (List.of_mem_filter hquestion)
  · rintro ⟨scores, hscores, hwhole⟩ question hquestion hscorable
    obtain ⟨score, hmem, hscore⟩ :=
      (mapM_ok_members hscores).1 question (List.mem_filter.mpr ⟨hquestion, hscorable⟩)
    exact ⟨score, hscore, hwhole score hmem⟩

theorem HasWholeScores.isWhole (h : HasWholeScores questions answers)
    (hscores : questionScores questions answers = .ok scores) :
    ∀ score ∈ scores, score.IsWhole := by
  obtain ⟨others, hothers, hwhole⟩ := hasWholeScores_iff.mp h
  cases hscores.symm.trans hothers
  exact hwhole

theorem isWhole_countedTowards (h : ∀ score ∈ scores, score.IsWhole) (category : Option String) :
    ∀ score ∈ countedTowards scores category, score.IsWhole :=
  fun score hscore => h score (List.mem_of_mem_filter hscore)

/-- The scores that count towards one category each, and those that count towards none, are all of
them. -/
theorem sum_categories (weight : QuestionScore → Int) (config : Option ScoreConfig)
    (scores : List QuestionScore) :
    ((categoryIds config scores).map fun id =>
        ((countedTowards scores (some id)).map weight).sum).sum
      + ((countedTowards scores none).map weight).sum = (scores.map weight).sum := by
  have hnodup : (none :: (categoryIds config scores).map some).Nodup :=
    List.nodup_cons.mpr ⟨by simp,
      (nodup_categoryIds config scores).map (Option.some_injective String)⟩
  have hcovers : ∀ score ∈ scores,
      score.countsTowards ∈ none :: (categoryIds config scores).map some := by
    intro score hscore
    cases hcategory : score.countsTowards with
    | none => exact List.mem_cons_self
    | some id =>
        exact List.mem_cons_of_mem none (List.mem_map_of_mem
          (mem_categoryIds_iff.mpr (.inr ⟨score, hscore, hcategory⟩)))
  have hfibers := sum_fibers (·.countsTowards) weight hnodup hcovers
  rw [List.map_cons, List.sum_cons, List.map_map] at hfibers
  rw [Int.add_comm]
  exact hfibers

/-- A result that adds up: it has the totals of its question scores, each category has the totals
of the scores that count towards it, and all categories together with the scores that count towards
none have the totals of the result. -/
structure SurveyScore.AddsUp (result : SurveyScore) : Prop where
  total : result.total = .int (earnedPoints result.questionScores)
  maxScore : result.maxScore = .int (mostPoints result.questionScores)
  part_score : ∀ entry ∈ result.byCategory, entry.2.score
    = .int (earnedPoints (countedTowards result.questionScores (some entry.1)))
  part_maxScore : ∀ entry ∈ result.byCategory, entry.2.maxScore
    = .int (mostPoints (countedTowards result.questionScores (some entry.1)))
  split_score : (result.byCategory.map (·.2.score.intValue)).sum
    + earnedPoints (countedTowards result.questionScores none)
    = earnedPoints result.questionScores
  split_maxScore : (result.byCategory.map (·.2.maxScore.intValue)).sum
    + mostPoints (countedTowards result.questionScores none)
    = mostPoints result.questionScores

theorem SurveyScore.IsScore.addsUp (h : result.IsScore questions answers config)
    (hwhole : ∀ score ∈ result.questionScores, score.IsWhole) : result.AddsUp := by
  obtain ⟨htotal, hmost⟩ := Total.of_ofScores_whole hwhole h.totals
  have hpart : ∀ entry ∈ result.byCategory,
      entry.2.score = .int (earnedPoints (countedTowards result.questionScores (some entry.1)))
        ∧ entry.2.maxScore
          = .int (mostPoints (countedTowards result.questionScores (some entry.1))) := by
    intro entry hentry
    obtain ⟨total, hown, hentry⟩ := categoryScore_eq_ok_iff.mp (h.parts entry hentry)
    rw [hentry]
    exact Total.of_ofScores_whole (isWhole_countedTowards hwhole _) hown
  -- the values of the parts, told by the ids alone
  have hscore : result.byCategory.map (·.2.score.intValue)
      = result.byCategory.keys.map fun id =>
        earnedPoints (countedTowards result.questionScores (some id)) := by
    rw [Entries.keys, List.map_map]
    exact List.map_congr_left fun entry hentry => congrArg Number.intValue (hpart entry hentry).1
  have hmaxScore : result.byCategory.map (·.2.maxScore.intValue)
      = result.byCategory.keys.map fun id =>
        mostPoints (countedTowards result.questionScores (some id)) := by
    rw [Entries.keys, List.map_map]
    exact List.map_congr_left fun entry hentry => congrArg Number.intValue (hpart entry hentry).2
  refine ⟨htotal, hmost, fun entry hentry => (hpart entry hentry).1,
    fun entry hentry => (hpart entry hentry).2, ?_, ?_⟩
  · rw [hscore, h.keys]
    exact sum_categories (·.score.intValue) config result.questionScores
  · rw [hmaxScore, h.keys]
    exact sum_categories (·.maxScore.intValue) config result.questionScores

/-- Whole points have a result exactly if the percentages exist that it reports. -/
theorem exists_scoreQuestions_iff (hwhole : HasWholeScores questions answers) :
    (∃ result, scoreQuestions questions answers config = .ok result) ↔
      ∃ scores, questionScores questions answers = .ok scores ∧ HasPercentage scores
        ∧ ∀ id ∈ categoryIds config scores, HasPercentage (countedTowards scores (some id)) := by
  rw [exists_scoreQuestions_iff_totals]
  refine exists_congr fun scores => and_congr_right fun hscored => ?_
  have hscores := hwhole.isWhole hscored
  refine and_congr (exists_ofScores_iff hscores) (forall₂_congr fun id _ => ?_)
  exact exists_ofScores_iff (isWhole_countedTowards hscores (some id))

/-- Scores of whole points are added up without loss or repetition.  There is a result exactly if
the percentages exist that it reports.  It holds the score of each scored question in survey order;
its categories are the configured ones and then the others in the order in which they come up; and
it adds up. -/
theorem scoreQuestions_whole (config : Option ScoreConfig)
    (hwhole : HasWholeScores questions answers) :
    ((∃ result, scoreQuestions questions answers config = .ok result) ↔
      ∃ scores, questionScores questions answers = .ok scores ∧ HasPercentage scores
        ∧ ∀ id ∈ categoryIds config scores, HasPercentage (countedTowards scores (some id)))
      ∧ ∀ result, scoreQuestions questions answers config = .ok result →
        List.Forall₂
            (fun question score => question.score (answers.answerTo question.id) = .ok score)
            (questions.filter (·.isScorable)) result.questionScores
          ∧ result.byCategory.keys = (configuredIds config).eraseDups
            ++ ((result.questionScores.filterMap (·.countsTowards)).filter
                (· ∉ configuredIds config)).eraseDups
          ∧ result.AddsUp := by
  refine ⟨exists_scoreQuestions_iff hwhole, fun result hresult => ?_⟩
  have h := scoreQuestions_eq_ok_iff.mp hresult
  refine ⟨questionScores_eq_ok_iff.mp h.scored, ?_, h.addsUp (hwhole.isWhole h.scored)⟩
  rw [h.keys, categoryIds_eq]

end Whole

namespace Sample

/-- A question that asks for options, A being worth a point and B two. -/
def options (id : String) (category : Option String) : Question :=
  { Survey.Sample.plain id [] with
    kind := .checkbox, options := some ["A", "B"], category
    optionScores := some [("A", 1), ("B", 2)] }

/-- Two questions share an id, one has no category, and one does not count. -/
def mixed : List Question :=
  [options "q1" (some "b"), options "q2" none, options "q1" (some "a"),
    { options "q3" (some "c") with scorable := some false }]

def mixedAnswers : Answers := [("q1", .arr [.str "A"]), ("q2", .arr [.str "A", .str "B"])]

/-- A configuration of categories alone. -/
def grouped (categories : List ScoreCategory) : ScoreConfig where
  enabled := true
  categories
  bands := []
  resultsScreen := none
  engineId := none

def mixedConfig : ScoreConfig := grouped [⟨"a", "A"⟩, ⟨"z", "Z"⟩, ⟨"a", "Again"⟩]

theorem hasWholeScores_mixed : HasWholeScores mixed mixedAnswers := by
  refine hasWholeScores_iff.mpr ⟨[⟨"q1", 1, 3, .count, some "b", true, none⟩,
    ⟨"q2", 3, 3, .count, none, true, none⟩, ⟨"q1", 1, 3, .count, some "a", true, none⟩], ?_, ?_⟩
  · decide +kernel
  · decide

end Sample

open Sample

theorem scoreQuestions_whole_mixed :
    ∃ result, scoreQuestions mixed mixedAnswers (some mixedConfig) = .ok result
      ∧ result.byCategory.keys = ["a", "z", "b"] ∧ result.total = 5 ∧ result.AddsUp := by
  have hresult : (scoreQuestions mixed mixedAnswers (some mixedConfig)).map
      (fun result => (result.byCategory.keys, result.total)) = .ok (["a", "z", "b"], 5) := by
    decide +kernel
  obtain ⟨result, hscored, hfields⟩ := map_eq_ok.mp hresult
  obtain ⟨hkeys, htotal⟩ := Prod.mk.inj hfields
  exact ⟨result, hscored, hkeys, htotal,
    ((scoreQuestions_whole (some mixedConfig) hasWholeScores_mixed).2 result hscored).2.2⟩

/-- A score whose category is the empty text counts towards none, even where a category without a
name is configured. -/
theorem scoreQuestions_emptyCategory :
    let questions := [options "q1" (some "")]
    let config := grouped [⟨"", "Rest"⟩]
    (questionScores questions mixedAnswers).map
        (fun scores => scores.map fun score => (score.category, score.score))
      = .ok [(some "", 1)]
    ∧ (scoreQuestions questions mixedAnswers (some config)).map
        (fun result => (result.total, result.byCategory.map fun entry => (entry.1, entry.2.score)))
      = .ok (1, [("", 0)]) := by
  decide +kernel

end Questionnaire
