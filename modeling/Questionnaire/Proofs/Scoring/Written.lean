import Questionnaire.Proofs.Rule.Written
import Questionnaire.Scoring.Config

/-!
Settings of the scoring that have been written down are read back as they were: categories, bands
with the kinds of their bounds, and the results screen.  With the rules of questions, all that is
configured beside the questions survives being written.
-/

namespace Questionnaire

open Schema

theorem ScoreCategory.readsBack (category : ScoreCategory) :
    ReadsBack ofJson toJson category := by
  refine ⟨?_, by simp [toJson]⟩
  have hfields : category.toJson
      = Json.ofFields [("id", some (.str category.id)), ("name", some (.str category.name))] := rfl
  obtain ⟨entries, hentries, hid, hname, -⟩ :=
    exists_holds_of_eq_ofFields hfields ["id", "name"] rfl (by decide)
  rw [hentries, ofJson, record, required_written (readsBack_text _) hid,
    required_written (readsBack_text _) hname]
  rfl

/-- A band is read back with bounds of the same kinds. -/
theorem ScoreBand.readsBack (band : ScoreBand) : ReadsBack ofJson toJson band := by
  refine ⟨?_, nofun⟩
  obtain ⟨entries, hentries, hid, hmin, hmax, hlabel, hcolor, hinterpretation, -⟩ :=
    exists_holds_of_eq_ofFields (show band.toJson = Json.ofFields _ from rfl)
      ["id", "min", "max", "label", "color", "interpretation"] rfl (by decide)
  rw [hentries, ofJson, record, required_written (readsBack_text _) hid,
    required_written (readsBack_number _) hmin, required_written (readsBack_number _) hmax,
    required_written (readsBack_text _) hlabel, optionalField_written readsBack_text hcolor,
    optionalField_written readsBack_text hinterpretation]
  rfl

theorem readsBack_bands (bands : List ScoreBand) :
    ReadsBack (list ScoreBand.ofJson) (Json.ofList ScoreBand.toJson) bands :=
  readsBack_list fun band _ => band.readsBack

theorem lookup_bandsMode (mode : BandsMode) :
    List.lookup mode.name BandsMode.words = some mode := by
  cases mode <;> rfl

theorem CategoryResults.readsBack (results : CategoryResults) :
    ReadsBack ofJson toJson results := by
  refine ⟨?_, nofun⟩
  obtain ⟨entries, hentries, hid, hmode, hbands, -⟩ :=
    exists_holds_of_eq_ofFields (show results.toJson = Json.ofFields _ from rfl)
      ["categoryId", "bandsMode", "bands"] rfl (by decide)
  rw [hentries, ofJson, record, required_written (readsBack_text _) hid,
    withDefault_written (readsBack_fixed (lookup_bandsMode _)) hmode,
    optionalField_written readsBack_bands hbands]
  rfl

theorem ResultsScreen.readsBack (screen : ResultsScreen) : ReadsBack ofJson toJson screen := by
  refine ⟨?_, nofun⟩
  have hcategories (categories : List CategoryResults) :
      ReadsBack (list CategoryResults.ofJson) (Json.ofList CategoryResults.toJson) categories :=
    readsBack_list fun results _ => results.readsBack
  obtain ⟨entries, hentries, henabled, hbands, hscreens, -⟩ :=
    exists_holds_of_eq_ofFields (show screen.toJson = Json.ofFields _ from rfl)
      ["enabled", "scoreRanges", "categories"] rfl (by decide)
  rw [hentries, ofJson, record, withDefault_written (readsBack_truth _) henabled,
    optionalField_written readsBack_bands hbands,
    optionalField_written hcategories hscreens]
  rfl

theorem ScoreConfig.readsBack (config : ScoreConfig) : ReadsBack ofJson toJson config := by
  refine ⟨?_, nofun⟩
  obtain ⟨entries, hentries, henabled, hcategories, hbands, hscreen, hengine, -⟩ :=
    exists_holds_of_eq_ofFields (show config.toJson = Json.ofFields _ from rfl)
      ["enabled", "categories", "scoreRanges", "resultsScreen", "scoringEngineId"] rfl (by decide)
  rw [hentries, ofJson, record, withDefault_written (readsBack_truth _) henabled,
    withDefault_written (readsBack_list fun category _ => category.readsBack) hcategories,
    withDefault_written (readsBack_bands _) hbands,
    optionalField_written ResultsScreen.readsBack hscreen,
    optionalField_written readsBack_text hengine]
  rfl

/-- A rule or a scoring configuration that has been accepted, in whatever spelling, is accepted
again as it was written down, and is the same in every field: reading has settled the spelling, and
writing keeps the kind of every value. -/
theorem accepted_survives_writing :
    (∀ v rule, Rule.ofJson v = .valid rule → Rule.ofJson rule.toJson = .valid rule)
      ∧ ∀ v config, ScoreConfig.ofJson v = .valid config →
        ScoreConfig.ofJson config.toJson = .valid config := by
  constructor
  · intro v rule hread
    exact (Rule.readsBack (Rule.target?_ne_of_ofJson hread)).valid
  · intro v config _
    exact config.readsBack.valid

/-- A rule in the form with underscores: the junction in capitals, a single value beside an operator
that takes a list, and a range whose bounds are the two zeros of binary numbers. -/
def spelledRule : Json :=
  .obj [("id", .str "r1"), ("condition_logic", .str "OR"), ("action", .str "jump"),
    ("target_question_id", .str "q9"), ("conditions", .arr [
      .obj [("question_id", .str "q1"), ("operator", .str "includes_any"), ("value", .bool true)],
      .obj [("question_id", .str "q2"), ("operator", .str "between"), ("value", .obj [
        ("min", .num (.float (.finite true 0 Binary64.fits_zero))),
        ("max", .num (.float (.finite false 0 Binary64.fits_zero)))])]])]

/-- A configuration in the form with underscores, a truth value in the place of one bound. -/
def spelledConfig : Json :=
  .obj [("enabled", .str "yes"), ("score_ranges", .arr [.obj [("id", .str "low"),
    ("min", .bool false), ("max", .num (.float (.finite false 0 Binary64.fits_zero))),
    ("label", .str "Low")]]),
    ("results_screen", .obj [("enabled", .num 1), ("categories", .arr [
      .obj [("category_id", .str "c1"), ("bands_mode", .str "custom"), ("bands", .arr [])]])])]

theorem accepted_survives_writing_spelled : ∃ rule config,
    Rule.ofJson spelledRule = .valid rule ∧ Rule.ofJson rule.toJson = .valid rule
      ∧ ScoreConfig.ofJson spelledConfig = .valid config
      ∧ ScoreConfig.ofJson config.toJson = .valid config :=
  ⟨_, _, rfl, accepted_survives_writing.1 spelledRule _ rfl, rfl,
    accepted_survives_writing.2 spelledConfig _ rfl⟩

end Questionnaire
