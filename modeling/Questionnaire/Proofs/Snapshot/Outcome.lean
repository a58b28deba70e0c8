import Questionnaire.Proofs.Question.Faults
import Questionnaire.Verification

/-!
What comes of data that should be a snapshot.  They are a snapshot, or it is known why they are
none, except where the questions cannot be gone through or a condition of one of them cannot be
checked.  The command ends with its own code for all data that are no snapshot, under the same
exception.
-/

namespace Questionnaire

open Validated Schema

theorem ScoreCategory.ofJson_faultless (v : Json) : (ScoreCategory.ofJson v).Faultless := by
  refine record_faultless (fun entries => ?_) v
  simp only [faultless_seq_iff, faultless_map_iff, required_faultless, text_faultless, implies_true,
    and_self]

theorem ScoreBand.ofJson_faultless (v : Json) : (ScoreBand.ofJson v).Faultless := by
  refine record_faultless (fun entries => ?_) v
  simp only [faultless_seq_iff, faultless_map_iff, required_faultless, optionalField_faultless,
    text_faultless, number_faultless, implies_true, and_self]

theorem CategoryResults.ofJson_faultless (v : Json) : (CategoryResults.ofJson v).Faultless := by
  refine record_faultless (fun entries => ?_) v
  simp only [faultless_seq_iff, faultless_map_iff, required_faultless, withDefault_faultless,
    optionalField_faultless, text_faultless, fixed_faultless, list_faultless,
    ScoreBand.ofJson_faultless, implies_true, and_self]

theorem ResultsScreen.ofJson_faultless (v : Json) : (ResultsScreen.ofJson v).Faultless := by
  refine record_faultless (fun entries => ?_) v
  simp only [faultless_seq_iff, faultless_map_iff, withDefault_faultless, optionalField_faultless,
    truth_faultless, list_faultless, ScoreBand.ofJson_faultless, CategoryResults.ofJson_faultless,
    implies_true, and_self]

theorem ScoreConfig.ofJson_faultless (v : Json) : (ScoreConfig.ofJson v).Faultless := by
  refine record_faultless (fun entries => ?_) v
  simp only [faultless_seq_iff, faultless_map_iff, withDefault_faultless, optionalField_faultless,
    text_faultless, truth_faultless, list_faultless, ScoreCategory.ofJson_faultless,
    ScoreBand.ofJson_faultless, ResultsScreen.ofJson_faultless, implies_true, and_self]

namespace Snapshot

/-- The questions cannot be gone through, or a condition of one of them cannot be checked before
another question is found wrong. -/
def IsUncheckable (v : Json) : Prop := ∃ entries questions, v = .obj entries
  ∧ Entries.get? entries "questions" = some questions ∧ Question.ListIsUncheckable questions

theorem ofFields_faultless (entries : Entries Json) (questions : List Question) :
    (ofFields entries (.valid questions)).Faultless := by
  unfold ofFields
  simp only [faultless_seq_iff, faultless_map_iff, faultless_valid, withDefault_faultless,
    optionalField_faultless, text_faultless, dictionary_faultless, ScoreConfig.ofJson_faultless,
    any, implies_true, and_self]

/-- Data are neither a snapshot nor is it known why they are none, exactly if they cannot be
checked. -/
theorem parse_eq_error_iff {v : Json} {cause : Fault} :
    parse v = .error cause ↔ cause = .wrongKind ∧ IsUncheckable v := by
  cases v with
  | obj entries =>
      have hlist : cause = .wrongKind ∧ IsUncheckable (.obj entries) ↔
          Question.listOfRaw ((Entries.get? entries "questions").getD .null)
            = .error (.fault cause) := by
        rw [Question.listOfRaw_eq_fault_iff]
        cases hget : Entries.get? entries "questions" <;>
          simp [IsUncheckable, hget, Question.ListIsUncheckable]
      rw [hlist]
      unfold parse
      dsimp only
      cases hquestions : Question.listOfRaw ((Entries.get? entries "questions").getD .null) with
      | error error => cases error <;> simp
      | ok questions =>
          have hfields := ofFields_faultless entries questions
          dsimp only
          cases hsnapshot : ofFields entries (.valid questions) with
          | fault other => exact absurd hsnapshot (hfields other)
          | _ => simp
  | _ => simp [parse, IsUncheckable]

/-- Questions that are given by a number cannot be gone through, and a condition whose operator is a
list cannot be checked. -/
theorem parse_uncheckable :
    parse (.obj [("questions", .num 5)]) = .error .wrongKind
      ∧ parse (.obj [("questions", .arr [.obj [("logicRules", .arr [.obj [("conditions",
          .arr [.obj [("operator", .arr [])]])]])]])]) = .error .wrongKind :=
  by decide +kernel

end Snapshot

namespace Verification

variable {room : Nat} {settings : Settings} {given : Option String} {files : String → FileEntry}
  {args : List String}

theorem compare_result_ne (expected found source : String)
    (summarized : CommandRun (Except CommandError Json)) :
    (compare expected found source summarized).result ≠ .ok 2 := by
  unfold compare
  dsimp only
  split
  · simp
  · split <;> simp

/-- A snapshot that has been read never ends the command as one that could not be. -/
theorem check_result_ne (settings : Settings) (files : String → FileEntry) (snapshot : Snapshot)
    (source : String) (expectedPath : Option String) :
    (check settings files snapshot source expectedPath).result ≠ .ok 2 := by
  unfold check
  dsimp only
  split
  · simp
  · split
    · simp
    · split
      · simp
      · exact compare_result_ne _ _ _ _

/-- What the command comes to with data that it has found. -/
theorem verify_result (hlevel : (LogLevel.ofSetting? settings.logLevel).isSome)
    (hargs : args.length ≤ 2) {v : Json} {source : String}
    (hlocated : (locate room settings given files args[0]?).result = .ok (v, source)) :
    (verify room settings given files args).result = match Snapshot.parse v with
      | .error cause => .error (.fault cause)
      | .ok (.error _) => .ok 2
      | .ok (.ok snapshot) => (check settings files snapshot source args[1]?).result := by
  have hknown : (LogLevel.ofSetting? settings.logLevel).isNone = false := by
    rw [Option.isNone_eq_false_iff]
    exact hlevel
  simp only [verify, hknown, Bool.false_eq_true, if_false, if_neg (Nat.not_lt_of_le hargs), load,
    hlocated]
  cases Snapshot.parse v with
  | error cause => rfl
  | ok outcome => cases outcome <;> rfl

/-- Data end in a snapshot, or in an error that says why they are none, unless they cannot be
checked; and of the data that the command finds, it answers those with such an error, and no others,
with the code for them.  What cannot be checked breaks the command off. -/
theorem verify_snapshot_data (v : Json) :
    ((∃ outcome, Snapshot.parse v = .ok outcome) ↔ ¬ Snapshot.IsUncheckable v)
      ∧ ∀ (room : Nat) (settings : Settings) (given : Option String) (files : String → FileEntry)
        (args : List String) (source : String),
        (LogLevel.ofSetting? settings.logLevel).isSome → args.length ≤ 2 →
        (locate room settings given files args[0]?).result = .ok (v, source) →
        ((verify room settings given files args).result = .ok 2
            ↔ ∃ error, Snapshot.parse v = .ok (.error error))
          ∧ (Snapshot.IsUncheckable v →
            (verify room settings given files args).result = .error (.fault .wrongKind)) := by
  refine ⟨?_, fun room settings given files args source hlevel hargs hlocated => ?_⟩
  · cases hparse : Snapshot.parse v with
    | error cause => simp [(Snapshot.parse_eq_error_iff.mp hparse).2]
    | ok outcome =>
        have hcheckable : ¬ Snapshot.IsUncheckable v := by
          intro h
          cases hparse.symm.trans (Snapshot.parse_eq_error_iff.mpr ⟨rfl, h⟩)
        simp [hcheckable]
  · have hresult := verify_result hlevel hargs hlocated
    constructor
    · rw [hresult]
      cases Snapshot.parse v with
      | error cause => simp
      | ok outcome =>
          cases outcome with
          | error error => simp
          | ok snapshot => simpa using check_result_ne settings files snapshot source args[1]?
    · intro h
      rw [hresult, Snapshot.parse_eq_error_iff.mpr ⟨rfl, h⟩]

/-- A snapshot with a list where a question should be, as it stands in a file. -/
def listedDocument : String := "\x7b\"questions\": [[]]\x7d"

theorem verify_snapshot_data_listedDocument :
    let files : String → FileEntry := fun _ => .text listedDocument
    (locate 3 {} none files (some "snapshot.json")).result
        = .ok (.obj [("questions", .arr [.arr []])], "file:" ++ plainPath "snapshot.json")
      ∧ (verify 3 {} none files ["snapshot.json"]).result = .ok 2 := by
  intro files
  have hread : Json.readWithin (limits 3) (Text.ofFile listedDocument)
      = .ok (.obj [("questions", .arr [.arr []])]) := by decide +kernel
  have hlocated : (locate 3 {} none files (some "snapshot.json")).result
      = .ok (.obj [("questions", .arr [.arr []])], "file:" ++ plainPath "snapshot.json") := by
    simp [locate, readFile, files, hread, Except.map, Option.filter]
  have hanswer := (verify_snapshot_data (.obj [("questions", .arr [.arr []])])).2 3 {} none files
    ["snapshot.json"] _ (by decide +kernel) (by decide) hlocated
  exact ⟨hlocated, hanswer.1.mpr ⟨.question (.notAnObject "list"), by decide +kernel⟩⟩

end Verification

end Questionnaire
