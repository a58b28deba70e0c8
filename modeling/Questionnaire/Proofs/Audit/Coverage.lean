import Questionnaire.Audit.Scoring
import Questionnaire.Proofs.Scoring.Band
import Questionnaire.Proofs.Scoring.Tally

/-!
Bands without gaps.  The check of the bands goes over them by their lower bounds and takes the next
band to begin one above the highest upper bound so far.  Where the upper bounds are whole this
leaves out no percentage, so that every percentage has a band among those that are checked.
-/

namespace Questionnaire

/-- The lower bound of a band is a number, and its upper bound is whole unless it reaches a
hundred. -/
structure ScoreBand.EndsWhole (band : ScoreBand) : Prop where
  min_isNumber : band.min.isNaN = false
  max_isWhole : band.max.lt 100 = true → ∃ last : Int, band.max.tidy = .int last

namespace Audit

/-- The findings of each part are among those of the whole. -/
theorem exists_found_of_gather {parts : List (Except Fault (List Finding))}
    {findings : List Finding} (h : gather parts = .ok findings)
    (part : Except Fault (List Finding)) (hpart : part ∈ parts) :
    ∃ found, part = .ok found ∧ ∀ finding ∈ found, finding ∈ findings := by
  obtain ⟨lists, hlists, h⟩ := bind_eq_ok.mp h
  cases h
  obtain ⟨found, hfound, hpart⟩ := (mapM_ok_members hlists).1 part hpart
  exact ⟨found, hpart, fun finding hfinding => List.mem_flatten_of_mem hfound hfinding⟩

theorem scoring_of_enabled {config : ScoreConfig} (henabled : config.enabled = true)
    (questions : List Question) : scoring questions (some config)
      = gather [coverage (config.bandsFor .category), overlaps (config.bandsFor .category),
          gather ((config.bandsFor .category).map bandBounds),
          .ok (unusedCategories questions config), .ok (scoredQuestions questions config),
          weights questions] := by
  rw [scoring, Option.filter_some, if_pos henabled]

theorem exists_onlyIf_iff {condition : Bool} {finding : Except Fault Finding} :
    (∃ found, onlyIf condition finding = .ok found)
      ↔ (condition = true → ∃ one, finding = .ok one) := by
  cases condition with
  | false => simp [onlyIf]
  | true => simp [onlyIf, map_eq_ok]

/-- What is found under a condition. -/
theorem mem_onlyIf_iff {condition : Bool} {finding : Except Fault Finding} {found : List Finding}
    (h : onlyIf condition finding = .ok found) {one : Finding} :
    one ∈ found ↔ condition = true ∧ finding = .ok one := by
  cases condition with
  | false =>
    obtain rfl := Except.ok.inj h
    simp
  | true =>
    obtain ⟨gap, hgap, rfl⟩ := map_eq_ok.mp h
    simp [hgap, eq_comm]

theorem eq_false_of_onlyIf_eq_nil {condition : Bool} {finding : Except Fault Finding}
    (h : onlyIf condition finding = .ok []) : condition = false := by
  cases condition with
  | false => rfl
  | true => cases finding <;> cases h

theorem severity_gapFinding {first last : Number} {gap : Finding}
    (h : gapFinding first last = .ok gap) : gap.severity = .error := by
  obtain ⟨_, -, h⟩ := bind_eq_ok.mp h
  obtain ⟨_, -, h⟩ := bind_eq_ok.mp h
  cases h
  rfl

/-- The gap before a band, and the gaps after it. -/
theorem gapsFrom_cons_eq_ok_iff {covered : Number} {band : ScoreBand} {rest : List ScoreBand}
    {found : List Finding} : gapsFrom covered (band :: rest) = .ok found ↔ ∃ here next later,
      onlyIf (covered.lt band.min) (do gapFinding covered (← band.min.sub 1)) = .ok here
        ∧ band.max.add 1 = .ok next ∧ gapsFrom (covered.max next) rest = .ok later
        ∧ found = here ++ later := by
  constructor
  · intro h
    obtain ⟨here, hhere, h⟩ := bind_eq_ok.mp h
    obtain ⟨next, hnext, h⟩ := bind_eq_ok.mp h
    obtain ⟨later, hlater, h⟩ := bind_eq_ok.mp h
    cases h
    exact ⟨here, next, later, hhere, hnext, hlater, rfl⟩
  · rintro ⟨here, next, later, hhere, hnext, hlater, rfl⟩
    exact bind_eq_ok.mpr ⟨here, hhere, bind_eq_ok.mpr ⟨next, hnext,
      bind_eq_ok.mpr ⟨later, hlater, rfl⟩⟩⟩

/-- Every gap is an error. -/
theorem severity_gapsFrom {covered : Number} {bands : List ScoreBand} {found : List Finding}
    (h : gapsFrom covered bands = .ok found) : ∀ gap ∈ found, gap.severity = .error := by
  induction bands generalizing covered found with
  | nil => exact fun gap hgap => severity_gapFinding ((mem_onlyIf_iff h).mp hgap).2
  | cons band rest ih =>
      obtain ⟨here, next, later, hhere, -, hlater, rfl⟩ := gapsFrom_cons_eq_ok_iff.mp h
      intro gap hmem
      rcases List.mem_append.mp hmem with hmem | hmem
      · obtain ⟨_, -, hgap⟩ := bind_eq_ok.mp ((mem_onlyIf_iff hhere).mp hmem).2
        exact severity_gapFinding hgap
      · exact ih hlater gap hmem

/-- A band that does not hold a percentage and does not begin after it ends before it, so that what
is covered with it still does not go beyond the percentage. -/
theorem max_le_of_not_holds {band : ScoreBand} (hwhole : band.EndsWhole) {covered next : Number}
    {p : Nat} (hp : p ≤ 100) (hcovered : covered.le (.int p) = true)
    (hgap : covered.lt band.min = false) (hnext : band.max.add 1 = .ok next)
    (hout : ¬ band.holds (.int p) = true) : (covered.max next).le (.int p) = true := by
  obtain ⟨c, q, hc, hq, -⟩ := Number.exists_place?_of_le hcovered
  have hmin : band.min.place? ≠ none := by
    rw [ne_eq, Number.place?_eq_none_iff, hwhole.min_isNumber]
    exact Bool.false_ne_true
  have hbegun : band.min.le (.int p) = true :=
    Number.le_trans (Number.le_of_not_lt (by simp [hc]) hmin (by simp [hgap])) hcovered
  have hended : ¬ (Number.int p).le band.max = true := by
    simpa [ScoreBand.holds, hbegun] using hout
  rw [Number.max]
  split
  · rename_i hlt
    obtain ⟨-, r, -, hr, -⟩ := Number.exists_place?_of_lt hlt
    have hmax : band.max.place? ≠ none := by
      intro hnan
      rw [Number.place?_of_add_one (Number.place?_eq_none_iff.mp hnan) hnext] at hr
      cases hr
    have hbelow := Number.lt_of_not_le (by simp [hq]) hmax hended
    obtain ⟨last, hlast⟩ := hwhole.max_isWhole
      (Number.lt_of_lt_of_le hbelow (Number.int_le_int.mpr (by exact_mod_cast hp)))
    have hbefore : (Number.int last).lt (.int p) = true := by
      rwa [← hlast, Number.lt, Number.place?_tidy, ← Number.lt]
    obtain ⟨_, hsum, -, hupTo⟩ := Number.exists_add_one hlast
    obtain rfl := Except.ok.inj (hsum.symm.trans hnext)
    exact (hupTo p (.inl ⟨Int.natCast_nonneg p, by omega⟩)).mpr (Number.int_lt_int.mp hbefore)
  · exact hcovered

/-- Without a gap from a place on, every percentage from there on has a band. -/
theorem exists_holds_of_gapsFrom {covered : Number} {bands : List ScoreBand}
    (hwhole : ∀ band ∈ bands, band.EndsWhole) (h : gapsFrom covered bands = .ok []) {p : Nat}
    (hp : p ≤ 100) (hcovered : covered.le (.int p) = true) :
    ∃ band ∈ bands, band.holds (.int p) = true := by
  induction bands generalizing covered with
  | nil =>
      have hfull : covered.le 100 = true :=
        Number.le_trans hcovered (Number.int_le_int.mpr (by exact_mod_cast hp))
      rw [eq_false_of_onlyIf_eq_nil h] at hfull
      cases hfull
  | cons band rest ih =>
      by_cases hheld : band.holds (.int p) = true
      · exact ⟨band, List.mem_cons_self, hheld⟩
      · obtain ⟨here, next, later, hhere, hnext, hlater, hnil⟩ := gapsFrom_cons_eq_ok_iff.mp h
        obtain ⟨rfl, rfl⟩ := List.append_eq_nil_iff.mp hnil.symm
        have hstep := max_le_of_not_holds (hwhole band List.mem_cons_self) hp hcovered
          (eq_false_of_onlyIf_eq_nil hhere) hnext hheld
        obtain ⟨other, hother, hholds⟩ :=
          ih (fun other hother => hwhole other (List.mem_cons_of_mem band hother)) hlater hstep
        exact ⟨other, List.mem_cons_of_mem band hother, hholds⟩

/-- Bands that are reported neither as missing nor with an error have one for every percentage. -/
theorem exists_resolve?_of_coverage {bands : List ScoreBand} {found : List Finding}
    (hwhole : ∀ band ∈ bands, band.EndsWhole) (h : coverage bands = .ok found)
    (hclean : ∀ finding ∈ found, finding.severity ≠ .error ∧ finding.code ≠ "NO_BANDS_DEFINED")
    {p : Nat} (hp : p ≤ 100) : ∃ band, ScoreBand.resolve? bands (.int p) = some band := by
  rw [coverage] at h
  split at h
  · cases h
    exact absurd rfl (hclean _ (List.mem_singleton_self _)).2
  · have hnone : found = [] := List.eq_nil_iff_forall_not_mem.mpr fun gap hgap =>
      (hclean gap hgap).1 (severity_gapsFrom h gap hgap)
    rw [hnone] at h
    have hperm := sortBy_perm (fun a b : ScoreBand => a.min.lt b.min) bands
    obtain ⟨band, hband, hholds⟩ := exists_holds_of_gapsFrom
      (fun band hband => hwhole band (hperm.mem_iff.mp hband)) h hp
      (Number.zero_le_int.mpr (Int.natCast_nonneg p))
    exact Option.isSome_iff_exists.mp
      (List.find?_isSome.mpr ⟨band, hperm.mem_iff.mp hband, hholds⟩)

/-- A configuration that is reported neither without bands nor with an error has a band for every
percentage among those that are checked. -/
theorem exists_resolve?_of_scoring {questions : List Question} {config : ScoreConfig}
    {findings : List Finding} (henabled : config.enabled = true)
    (hwhole : ∀ band ∈ config.bandsFor .category, band.EndsWhole)
    (h : scoring questions (some config) = .ok findings)
    (hclean : ∀ finding ∈ findings,
      finding.severity ≠ .error ∧ finding.code ≠ "NO_BANDS_DEFINED") {p : Nat} (hp : p ≤ 100) :
    ∃ band, ScoreBand.resolve? (config.bandsFor .category) (.int p) = some band := by
  rw [scoring_of_enabled henabled] at h
  obtain ⟨found, hcoverage, hfound⟩ := exists_found_of_gather h _ List.mem_cons_self
  exact exists_resolve?_of_coverage hwhole hcoverage
    (fun finding hfinding => hclean finding (hfound finding hfinding)) hp

end Audit

theorem percentage_bounds {score most : Number} {percent : Int}
    (h : percentage score most = .ok percent) : 0 ≤ percent ∧ percent ≤ 100 := by
  unfold percentage at h
  split at h
  · cases h
    decide
  · obtain ⟨share, -, h⟩ := bind_eq_ok.mp h
    obtain ⟨rounded, -, h⟩ := bind_eq_ok.mp h
    cases h
    omega

/-- Where every percentage has a band, totals have one as soon as there are points to be had. -/
theorem Total.exists_band? {scores : List QuestionScore} {total : Total}
    (h : Total.ofScores scores = .ok total) {bands : List ScoreBand}
    (hbands : ∀ p : Nat, p ≤ 100 → ∃ band, ScoreBand.resolve? bands (.int p) = some band)
    (hmost : Number.lt 0 total.most = true) : ∃ band, total.band? bands = some band := by
  obtain ⟨-, -, -, -, -, -, hpercent⟩ := Total.ofScores_eq_ok_iff.mp h
  obtain ⟨hlow, hhigh⟩ := percentage_bounds hpercent
  obtain ⟨band, hband⟩ := hbands total.percentage.toNat (by omega)
  rw [Int.toNat_of_nonneg hlow] at hband
  exact ⟨band, by rw [Total.band?, if_pos hmost, hband]⟩

/-- A result with a band, and with a label and a band for each category, wherever there are points
to be had and the bands are those that are checked. -/
structure SurveyScore.IsLabelled (config : ScoreConfig) (result : SurveyScore) : Prop where
  band : config.bandsFor .results = config.bandsFor .category →
    Number.lt 0 result.maxScore = true → result.band.isSome
  parts : ∀ entry ∈ result.byCategory,
    config.bandsForCategory entry.1 = config.bandsFor .category →
      Number.lt 0 entry.2.maxScore = true → entry.2.label.isSome ∧ entry.2.bandId.isSome

theorem SurveyScore.IsScore.isLabelled {questions : List Question} {answers : Answers}
    {config : ScoreConfig} {result : SurveyScore}
    (h : result.IsScore questions answers (some config))
    (hbands : ∀ p : Nat, p ≤ 100 →
      ∃ band, ScoreBand.resolve? (config.bandsFor .category) (.int p) = some band) :
    result.IsLabelled config := by
  constructor
  · intro hsame hmost
    obtain ⟨band, hband⟩ := Total.exists_band? h.totals hbands hmost
    rw [h.band, bandsOf, hsame, hband]
    rfl
  · intro entry hentry hsame hmost
    obtain ⟨total, htotal, hpart⟩ := categoryScore_eq_ok_iff.mp (h.parts entry hentry)
    rw [hpart] at hmost ⊢
    obtain ⟨band, hband⟩ := Total.exists_band? htotal hbands hmost
    simp [CategoryScore.ofTotal, bandsOfCategory, hsame, hband]

/-- The score of the questions on the path is the score of these questions. -/
theorem Survey.exists_scoreQuestions_of_score {survey : Survey} {answers : Answers}
    {config : Option ScoreConfig} {strict : Bool} {result : SurveyScore}
    (h : (survey.score answers config strict).2 = .ok result) :
    ∃ path, scoreQuestions (survey.onPath path) answers config = .ok result := by
  simp only [Survey.score] at h
  split at h
  · cases h
  · split at h
    · cases h
    · cases h
      exact ⟨_, ‹_›⟩

/-- A configuration of bands with whole ends that is reported neither without bands nor with an
error labels every score that is resolved against the bands that are checked, whether the questions
are all scored or those on the path alone. -/
theorem labels_of_scoring {survey : Survey} {config : ScoreConfig} {findings : List Finding}
    (henabled : config.enabled = true)
    (hwhole : ∀ band ∈ config.bandsFor .category, band.EndsWhole)
    (haudit : Audit.scoring survey.questions (some config) = .ok findings)
    (hclean : ∀ finding ∈ findings,
      finding.severity ≠ .error ∧ finding.code ≠ "NO_BANDS_DEFINED") (answers : Answers) :
    (∀ result, scoreQuestions survey.questions answers (some config) = .ok result →
        result.IsLabelled config)
      ∧ ∀ strict result, (survey.score answers (some config) strict).2 = .ok result →
        result.IsLabelled config := by
  have hbands (p : Nat) (hp : p ≤ 100) :=
    Audit.exists_resolve?_of_scoring henabled hwhole haudit hclean hp
  have hlabelled (questions : List Question) (result : SurveyScore)
      (h : scoreQuestions questions answers (some config) = .ok result) :
      result.IsLabelled config := (scoreQuestions_eq_ok_iff.mp h).isLabelled hbands
  refine ⟨hlabelled survey.questions, fun strict result h => ?_⟩
  obtain ⟨path, hpath⟩ := survey.exists_scoreQuestions_of_score h
  exact hlabelled (survey.onPath path) result hpath

namespace Sample

/-- A question of which one of two options is worth half of the points. -/
def halves (id category : String) : Question :=
  { options id (some category) with optionScores := some [("A", 1), ("B", 1)] }

def halved : List Question := [halves "q1" "a", halves "q2" "b"]

def halvedAnswers : Answers := [("q1", .arr [.str "A"]), ("q2", .arr [.str "A"])]

/-- Bands that leave out nothing. -/
def banded : ScoreConfig :=
  { grouped [⟨"a", "A"⟩, ⟨"b", "B"⟩] with bands := [band "low" 0 49, band "high" 50 100] }

/-- Bands that leave out the whole percentage between two fractions, a results screen that begins
at eighty, and a category of its own that begins at ninety. -/
def patchy : ScoreConfig :=
  { banded with
    bands := [band "low" 0 (.float (.ofRatio false 99 2)),
      band "high" (.float (.ofRatio false 101 2)) 100]
    resultsScreen := some
      ⟨true, some [band "top" 80 100], some [⟨"b", .custom, some [band "best" 90 100]⟩]⟩ }

end Sample

open Sample

theorem labels_of_scoring_banded :
    ∃ result, scoreQuestions halved halvedAnswers (some banded) = .ok result
      ∧ result.IsLabelled banded ∧ result.band.isSome := by
  have hwhole : ∀ band ∈ banded.bandsFor .category, band.EndsWhole := by
    intro band hband
    obtain rfl | rfl : band = Sample.band "low" 0 49 ∨ band = Sample.band "high" 50 100 := by
      simpa [banded, ScoreConfig.bandsFor] using hband
    · exact ⟨rfl, fun _ => ⟨49, rfl⟩⟩
    · exact ⟨rfl, fun _ => ⟨100, rfl⟩⟩
  have haudit : Audit.scoring (Survey.mk halved []).questions (some banded) = .ok [] := by
    decide +kernel
  have hmost : (scoreQuestions halved halvedAnswers (some banded)).map (·.maxScore) = .ok 4 := by
    decide +kernel
  obtain ⟨result, hscored, hfour⟩ := map_eq_ok.mp hmost
  have hlabelled := (labels_of_scoring rfl hwhole haudit (by simp) halvedAnswers).1 result hscored
  exact ⟨result, hscored, hlabelled, hlabelled.band rfl (by rw [hfour]; decide +kernel)⟩

/-- Nothing is reported, and no score has a band: half of the points is between the two bands of the
survey, below the one of the results screen and below the one of the second category. -/
theorem scoring_patchy :
    patchy.enabled = true ∧ Audit.scoring halved (some patchy) = .ok []
      ∧ (scoreQuestions halved halvedAnswers (some patchy)).map
          (fun result => (result.maxScore, result.band)) = .ok (4, none)
      ∧ (scoreQuestions halved halvedAnswers (some patchy)).map
          (fun result => result.byCategory.map fun entry =>
            (entry.1, entry.2.maxScore, entry.2.label, entry.2.bandId))
        = .ok [("a", 2, none, none), ("b", 2, none, none)] := by
  decide +kernel

end Questionnaire
