import Questionnaire.Proofs.Scoring.Percentage
import Questionnaire.Proofs.Scoring.Tally
import Questionnaire.Verification

/-!
Questions in another order.  Whole points are added up to the same totals in every order, and a
category keeps its totals, its name and its band, so that the canonical summary of a score, and with
it the hash, does not tell the order of the questions.
-/

namespace Questionnaire

section Scores

variable {scores others : List QuestionScore} {config : Option ScoreConfig}

theorem earnedPoints_eq_of_perm (h : others.Perm scores) :
    earnedPoints others = earnedPoints scores := (h.map _).sum_eq

theorem mostPoints_eq_of_perm (h : others.Perm scores) :
    mostPoints others = mostPoints scores := (h.map _).sum_eq

/-- Whole points have the same totals in every order. -/
theorem ofScores_eq_of_perm (hwhole : ∀ score ∈ scores, score.IsWhole) (h : others.Perm scores) :
    Total.ofScores others = Total.ofScores scores := by
  have hwhole' : ∀ score ∈ others, score.IsWhole :=
    fun score hscore => hwhole score (h.mem_iff.mp hscore)
  rw [Total.ofScores_whole hwhole, Total.ofScores_whole hwhole', earnedPoints_eq_of_perm h,
    mostPoints_eq_of_perm h]

theorem countedTowards_perm (h : others.Perm scores) (category : Option String) :
    (countedTowards others category).Perm (countedTowards scores category) := h.filter _

theorem hasPercentage_iff_of_perm (h : others.Perm scores) :
    HasPercentage others ↔ HasPercentage scores := by
  rw [HasPercentage, HasPercentage, earnedPoints_eq_of_perm h, mostPoints_eq_of_perm h]

theorem categoryScore_eq_of_perm (hwhole : ∀ score ∈ scores, score.IsWhole)
    (h : others.Perm scores) (id : String) :
    categoryScore config others id = categoryScore config scores id := by
  have htotal := ofScores_eq_of_perm (isWhole_countedTowards hwhole (some id))
    (countedTowards_perm h (some id))
  rw [categoryScore, categoryScore]
  exact congrArg (· >>= _) htotal

theorem categoryIds_perm (h : others.Perm scores) :
    (categoryIds config others).Perm (categoryIds config scores) := by
  rw [List.perm_ext_iff_of_nodup (nodup_categoryIds config others)
    (nodup_categoryIds config scores)]
  intro id
  simp only [mem_categoryIds_iff, h.mem_iff]

/-- Whole points have no totals only where a number outgrows the format. -/
theorem ofScores_failsOnly_whole (hwhole : ∀ score ∈ scores, score.IsWhole) :
    FailsOnly [.outOfRange] (Total.ofScores scores) := by
  rw [Total.ofScores_whole hwhole]
  refine FailsOnly.map fun cause hcause => ?_
  exact List.mem_singleton.mpr (Percentage.cause_of_error hcause)

end Scores

section Surveys

variable {questions others : List Question} {answers : Answers} {config : Option ScoreConfig}
  {result : SurveyScore}

theorem HasWholeScores.of_perm (h : HasWholeScores questions answers)
    (hperm : others.Perm questions) : HasWholeScores others answers :=
  fun question hquestion => h question (hperm.mem_iff.mp hquestion)

/-- Questions in another order keep their scores. -/
theorem zip_questionScores_perm {scores reordered : List QuestionScore}
    (hperm : others.Perm questions) (hscores : questionScores questions answers = .ok scores)
    (hreordered : questionScores others answers = .ok reordered) :
    ((others.filter (·.isScorable)).zip reordered).Perm
      ((questions.filter (·.isScorable)).zip scores) :=
  zip_perm_of_perm (hperm.filter (·.isScorable))
    (questionScores_eq_ok_iff.mp hscores) (questionScores_eq_ok_iff.mp hreordered)

theorem questionScores_perm {scores reordered : List QuestionScore} (hperm : others.Perm questions)
    (hscores : questionScores questions answers = .ok scores)
    (hreordered : questionScores others answers = .ok reordered) : reordered.Perm scores := by
  have hzip := (zip_questionScores_perm hperm hscores hreordered).map Prod.snd
  rwa [List.map_snd_zip (length_questionScores hreordered).le,
    List.map_snd_zip (length_questionScores hscores).le] at hzip

/-- Whole points have no result only where a number outgrows the format. -/
theorem cause_of_scoreQuestions {cause : Fault} (hwhole : HasWholeScores questions answers)
    (h : scoreQuestions questions answers config = .error cause) : cause = .outOfRange := by
  obtain ⟨scores, hscores, hscoresWhole⟩ := hasWholeScores_iff.mp hwhole
  have hfails : FailsOnly [.outOfRange] (scoreQuestions questions answers config) := by
    apply scoreQuestions_failsOnly_of
    · rw [hscores]
      exact .ok
    · intro others hothers
      obtain rfl := Except.ok.inj (hscores.symm.trans hothers)
      exact ⟨ofScores_failsOnly_whole hscoresWhole, fun category =>
        ofScores_failsOnly_whole (isWhole_countedTowards hscoresWhole category)⟩
  exact List.mem_singleton.mp (hfails cause h)

/-- Two results with the same totals, and with the same categories in whatever order. -/
structure SurveyScore.Agrees (result other : SurveyScore) : Prop where
  total : other.total = result.total
  maxScore : other.maxScore = result.maxScore
  percentage : other.percentage = result.percentage
  band : other.band = result.band
  byCategory : other.byCategory.Perm result.byCategory

namespace SurveyScore

theorem nodup_keys (h : result.IsScore questions answers config) :
    result.byCategory.keys.Nodup := h.keys ▸ nodup_categoryIds config result.questionScores

/-- The categories that are reported are told by the question scores. -/
theorem IsScore.mem_byCategory_iff (h : result.IsScore questions answers config)
    {entry : String × CategoryScore} : entry ∈ result.byCategory ↔
      entry.1 ∈ categoryIds config result.questionScores
        ∧ categoryScore config result.questionScores entry.1 = .ok entry.2 := by
  rw [← h.keys]
  constructor
  · intro hentry
    exact ⟨List.mem_map_of_mem hentry, h.parts entry hentry⟩
  · rintro ⟨hid, hpart⟩
    obtain ⟨⟨id, part⟩, hentry, rfl⟩ := List.mem_map.mp hid
    cases (h.parts _ hentry).symm.trans hpart
    exact hentry

/-- The score of one order has the totals and the categories of the score of another. -/
theorem IsScore.agrees {other : SurveyScore} (hperm : others.Perm questions)
    (hwhole : HasWholeScores questions answers) (h : result.IsScore questions answers config)
    (hother : other.IsScore others answers config) : result.Agrees other := by
  have hscores := hwhole.isWhole h.scored
  have hreordered := questionScores_perm hperm h.scored hother.scored
  have htotals := ofScores_eq_of_perm hscores hreordered
  rw [hother.totals, h.totals, Except.ok.injEq, Total.mk.injEq] at htotals
  obtain ⟨htotal, hmost, hpercentage⟩ := htotals
  refine ⟨htotal, hmost, hpercentage, ?_, ?_⟩
  · rw [hother.band, h.band, htotal, hmost, hpercentage]
  · rw [List.perm_ext_iff_of_nodup (nodup_keys hother).of_map (nodup_keys h).of_map]
    intro entry
    rw [hother.mem_byCategory_iff, h.mem_byCategory_iff, (categoryIds_perm hreordered).mem_iff,
      categoryScore_eq_of_perm hscores hreordered]

/-- The canonical summary does not tell the order of the categories. -/
theorem Agrees.canonical_summary {other : SurveyScore} (h : result.Agrees other)
    (hkeys : other.byCategory.keys.Nodup) : other.summary.canonical = result.summary.canonical := by
  rw [Json.canonical, Json.canonical]
  refine congrArg (fun data => String.ofList (Json.write .compact data))
    (Json.sorted_ofFields_congr ?_)
  rw [summaryFields, summaryFields, h.total, h.maxScore, h.percentage, h.band]
  simp only [List.map_cons, Option.map_some]
  rw [Json.sorted_obj_eq_of_perm ?_ (h.byCategory.map _)]
  rw [Entries.keys, List.map_map]
  exact hkeys

end SurveyScore

/-- Questions in another order have a score as well. -/
theorem exists_reordered (hperm : others.Perm questions) (hwhole : HasWholeScores questions answers)
    (h : ∃ result, scoreQuestions questions answers config = .ok result) :
    ∃ other, scoreQuestions others answers config = .ok other := by
  obtain ⟨scores, hscores, hall, hparts⟩ := (exists_scoreQuestions_iff hwhole).mp h
  have hwhole' := hwhole.of_perm hperm
  obtain ⟨reordered, hreordered, -⟩ := hasWholeScores_iff.mp hwhole'
  have hsame : reordered.Perm scores := questionScores_perm hperm hscores hreordered
  refine (exists_scoreQuestions_iff hwhole').mpr ⟨reordered, hreordered, ?_, fun id hid => ?_⟩
  · rwa [hasPercentage_iff_of_perm hsame]
  · rw [hasPercentage_iff_of_perm (countedTowards_perm hsame _)]
    exact hparts id ((categoryIds_perm hsame).mem_iff.mp hid)

/-- What holds of whole points in one order holds of them in another. -/
theorem scoreQuestions_reordered (hperm : others.Perm questions)
    (hwhole : HasWholeScores questions answers) (config : Option ScoreConfig) :
    (∃ result other, scoreQuestions questions answers config = .ok result
        ∧ scoreQuestions others answers config = .ok other ∧ result.Agrees other)
      ∨ (scoreQuestions questions answers config = .error .outOfRange
        ∧ scoreQuestions others answers config = .error .outOfRange) := by
  cases hscored : scoreQuestions questions answers config with
  | ok result =>
      obtain ⟨other, hother⟩ := exists_reordered hperm hwhole ⟨result, hscored⟩
      exact .inl ⟨result, other, rfl, hother, SurveyScore.IsScore.agrees hperm hwhole
        (scoreQuestions_eq_ok_iff.mp hscored) (scoreQuestions_eq_ok_iff.mp hother)⟩
  | error cause =>
      obtain rfl := cause_of_scoreQuestions hwhole hscored
      cases hother : scoreQuestions others answers config with
      | ok other =>
          obtain ⟨result, hresult⟩ :=
            exists_reordered hperm.symm (hwhole.of_perm hperm) ⟨other, hother⟩
          cases hscored.symm.trans hresult
      | error cause =>
          obtain rfl := cause_of_scoreQuestions (hwhole.of_perm hperm) hother
          exact .inr ⟨rfl, rfl⟩

/-- A snapshot of whole points has the same canonical summary in every order of its questions. -/
theorem summarize_reordered {snapshot : Snapshot} (settings : Settings)
    (hperm : others.Perm snapshot.questions)
    (hwhole : HasWholeScores snapshot.questions snapshot.responses) :
    (Verification.summarize settings { snapshot with questions := others }).result.map
        Json.canonical
      = (Verification.summarize settings snapshot).result.map Json.canonical := by
  rw [Verification.summarize, Verification.summarize, Snapshot.score, Snapshot.score]
  rcases scoreQuestions_reordered hperm hwhole snapshot.config with
    ⟨result, other, hresult, hother, hagrees⟩ | ⟨hresult, hother⟩
  · simp only [hresult, hother, Except.map]
    rw [hagrees.canonical_summary (SurveyScore.nodup_keys (scoreQuestions_eq_ok_iff.mp hother))]
  · simp only [hresult, hother]

/-- Whole points in another order of the questions: either both orders have a score, with the same
totals, the same categories and the same question scores in their own order, or both have none for
the same cause; and the summaries have the same canonical text and the same hash. -/
theorem summaryHash_eq_of_perm {snapshot : Snapshot} (hperm : others.Perm snapshot.questions)
    (hwhole : HasWholeScores snapshot.questions snapshot.responses) :
    (∀ result, scoreQuestions snapshot.questions snapshot.responses snapshot.config = .ok result →
        ∃ other, scoreQuestions others snapshot.responses snapshot.config = .ok other
          ∧ result.Agrees other
          ∧ (∀ id, other.byCategory.get? id = result.byCategory.get? id)
          ∧ ((others.filter (·.isScorable)).zip other.questionScores).Perm
            ((snapshot.questions.filter (·.isScorable)).zip result.questionScores))
      ∧ (∀ cause,
        scoreQuestions snapshot.questions snapshot.responses snapshot.config = .error cause →
          scoreQuestions others snapshot.responses snapshot.config = .error cause)
      ∧ ∀ settings,
        let original := Verification.summarize settings snapshot
        let reordered := Verification.summarize settings { snapshot with questions := others }
        reordered.events = original.events
          ∧ reordered.result.map Json.canonical = original.result.map Json.canonical
          ∧ reordered.result.map Verification.summaryHash
            = original.result.map Verification.summaryHash := by
  refine ⟨fun result hresult => ?_, fun cause herror => ?_, fun settings => ⟨rfl, ?_, ?_⟩⟩
  · obtain ⟨other, hother⟩ := exists_reordered hperm hwhole ⟨result, hresult⟩
    have h := scoreQuestions_eq_ok_iff.mp hresult
    have h' := scoreQuestions_eq_ok_iff.mp hother
    have hagrees := SurveyScore.IsScore.agrees hperm hwhole h h'
    exact ⟨other, hother, hagrees,
      Entries.get?_eq_of_perm (SurveyScore.nodup_keys h') hagrees.byCategory,
      zip_questionScores_perm hperm h.scored h'.scored⟩
  · rcases scoreQuestions_reordered hperm hwhole snapshot.config with
      ⟨result, -, hresult, -⟩ | ⟨hboth, hother⟩
    · cases herror.symm.trans hresult
    · rwa [← herror, hboth]
  · exact summarize_reordered settings hperm hwhole
  · -- the hash reads the canonical text alone
    have hhash (summarized : Except CommandError Json) :
        summarized.map Verification.summaryHash
          = (summarized.map Json.canonical).map Sha256.hexHash := by
      cases summarized <;> rfl
    rw [hhash, hhash, summarize_reordered settings hperm hwhole]

end Surveys

open Sample

/-- The categories come up in another order, and the hash is the same. -/
theorem summaryHash_mixed_reverse :
    let snapshot : Snapshot := ⟨none, mixed, mixedAnswers, none⟩
    (scoreQuestions mixed mixedAnswers none).map (·.byCategory.keys) = .ok ["b", "a"]
      ∧ (scoreQuestions mixed.reverse mixedAnswers none).map (·.byCategory.keys) = .ok ["a", "b"]
      ∧ ∀ settings,
        (Verification.summarize settings { snapshot with questions := mixed.reverse }).result.map
            Verification.summaryHash
          = (Verification.summarize settings snapshot).result.map Verification.summaryHash := by
  intro snapshot
  refine ⟨by decide +kernel, by decide +kernel, fun settings => ?_⟩
  have hperm : mixed.reverse.Perm snapshot.questions := List.reverse_perm mixed
  exact ((summaryHash_eq_of_perm hperm hasWholeScores_mixed).2.2 settings).2.2

end Questionnaire
