import Questionnaire.Proofs.Rule.Key
import Questionnaire.Proofs.Schema.Faultless
import Questionnaire.Proofs.Schema.Written
import Questionnaire.Rule.Document

/-!
Rules that have been written down are read back as they were, with the kind of every value in a
condition: a truth value, a number of either kind, a text, a list of these, or a range.  The
liberties that reading takes do not touch what writing puts down.
-/

namespace Questionnaire

open Schema

theorem Scalar.readsBack (scalar : Scalar) : ReadsBack Scalar.ofJson Scalar.toJson scalar :=
  ⟨by cases scalar <;> rfl, by cases scalar <;> simp [toJson]⟩

namespace NumberRange

theorem ofBounds_self (range : NumberRange) : ofBounds range.low range.high = .valid range :=
  dif_pos range.ordered

theorem readsBack (range : NumberRange) : ReadsBack ofJson toJson range := by
  refine ⟨?_, by simp [toJson]⟩
  have hfields : range.toJson
      = Json.ofFields [("min", some (.num range.low)), ("max", some (.num range.high))] := rfl
  obtain ⟨entries, hentries, hlow, hhigh, -⟩ :=
    exists_holds_of_eq_ofFields hfields ["min", "max"] rfl (by decide)
  rw [hentries, ofJson, record, required_written (readsBack_number _) hlow,
    required_written (readsBack_number _) hhigh]
  exact range.ofBounds_self

end NumberRange

namespace Operand

/-- What is written of a value is read back. -/
theorem ofJson_of_toJson? {operand : Operand} {v : Json} (h : operand.toJson? = some v) :
    ofJson v = .valid operand := by
  cases operand with
  | none => cases h
  | scalar value =>
      cases h
      cases value <;> rfl
  | list values =>
      cases h
      have hlist := (readsBack_list fun value (_ : value ∈ values) => Scalar.readsBack value).valid
      rw [Json.ofList] at hlist
      simp only [ofJson, NumberRange.ofJson, record, Validated.issue, hlist]
  | range bounds =>
      cases h
      have hrange := (NumberRange.readsBack bounds).valid
      rw [NumberRange.toJson] at hrange ⊢
      simp only [ofJson, hrange]

/-- An operand stands beside an operator under its name, or there is none. -/
theorem withDefault_of_find? {entries : Entries Json} {name : String} {operand : Operand}
    (hfind : find? entries name = Option.map (name, ·) operand.toJson?) :
    withDefault entries name .none ofJson = .valid operand := by
  rw [withDefault, hfind]
  cases hv : operand.toJson? with
  | none =>
      cases operand with
      | none => rfl
      | _ => cases hv
  | some v =>
      change (ofJson v).under (.name name) = _
      rw [ofJson_of_toJson? hv]
      rfl

end Operand

namespace Condition

theorem lookup_operator (operator : Operator) :
    List.lookup operator.name Operator.words = some operator := by
  cases operator with
  | order direction => cases direction <;> rfl
  | _ => rfl

/-- A value beside an operator that takes a list is written as a list, so that it is not wrapped
again. -/
theorem wrapSingle_written {condition : Condition} {entries : Entries Json}
    (hoperator : entries.get? "operator" = some (.str condition.operator.name))
    (hvalue : entries.get? "value" = condition.test.operand.toJson?) :
    wrapSingle entries = .valid entries := by
  unfold wrapSingle
  rw [hoperator, hvalue]
  obtain ⟨id, test⟩ := condition
  cases test with
  | order direction value => cases direction <;> rfl
  | _ => rfl

theorem readsBack (condition : Condition) : ReadsBack ofJson toJson condition := by
  refine ⟨?_, nofun⟩
  obtain ⟨entries, hentries, hid, hoperator, hvalue, -⟩ :=
    exists_holds_of_eq_ofFields (show condition.toJson = Json.ofFields _ from rfl)
      ["questionId", "operator", "value"] rfl (by decide)
  have hwrap : wrapSingle entries = .valid entries :=
    wrapSingle_written (get?_of_find? hoperator) (get?_of_find? hvalue)
  rw [hentries, ofJson, record, hwrap]
  change Validated.andThen (_ <$> required entries "questionId" text
    <*> required entries "operator" (choice Operator.words)
    <*> withDefault entries "value" .none Operand.ofJson) _ = _
  rw [required_written (readsBack_text _) hid,
    required_written (readsBack_choice (lookup_operator _)) hoperator,
    Operand.withDefault_of_find? hvalue]
  change (AnswerTest.ofOperand condition.test.operator condition.test.operand).map _ = _
  rw [AnswerTest.ofOperand_operand]
  rfl

end Condition

namespace Action

/-- An action is told by its kind and its target, and a target has a name. -/
theorem ofTarget_eq_valid_iff {kind : ActionKind} {target : Option String} {action : Action} :
    ofTarget kind target = .valid action
      ↔ action.kind = kind ∧ action.writtenTarget? = target ∧ action.target? ≠ some "" := by
  have hnamed (kind : ActionKind) (make : String → Action) :
      withTarget kind make target = .valid action
        ↔ ∃ name, target = some name ∧ name ≠ "" ∧ make name = action := by
    cases target with
    | none => simp [withTarget, withTarget.missing, Validated.issue]
    | some name =>
        by_cases hname : name = ""
        · simp [withTarget, withTarget.missing, Validated.issue, hname]
        · simp [withTarget, hname]
  have hfinish : ofTarget .finish target = .valid action
      ↔ target = none ∧ action = .finish false ∨ target = some "" ∧ action = .finish true := by
    cases target with
    | none => simp [ofTarget, @eq_comm _ action]
    | some name =>
        by_cases hname : name = ""
        · simp [ofTarget, hname, @eq_comm _ action]
        · simp [ofTarget, hname, Validated.issue]
  cases kind with
  | finish =>
      refine hfinish.trans ?_
      cases action with
      | finish emptyTarget =>
          cases emptyTarget <;> simp [Action.kind, writtenTarget?, target?, eq_comm]
      | _ => simp [Action.kind]
  | _ =>
      refine (hnamed _ _).trans ?_
      cases action <;> simp [Action.kind, writtenTarget?, target?, @eq_comm _ target]

end Action

namespace Rule

theorem lookup_junction (junction : Junction) :
    List.lookup junction.name Junction.words = some junction := by
  cases junction <;> rfl

/-- The words for a junction are in small letters. -/
theorem lower_junction (junction : Junction) : Text.lower junction.name = junction.name := by
  cases junction <;> decide +kernel

theorem lookup_actionKind (kind : ActionKind) :
    List.lookup kind.name ActionKind.words = some kind := by
  cases kind <;> rfl

/-- A rule with a named target, if it has one, is read back. -/
theorem readsBack {rule : Rule} (h : rule.action.target? ≠ some "") :
    ReadsBack ofJson toJson rule := by
  refine ⟨?_, nofun⟩
  obtain ⟨entries, hentries, hid, hconditions, hjunction, haction, htarget, -⟩ :=
    exists_holds_of_eq_ofFields (show rule.toJson = Json.ofFields _ from rfl)
      ["id", "conditions", "conditionLogic", "action", "targetQuestionId"] rfl (by decide)
  rw [hentries, ofJson, record, required_written (readsBack_text _) hid,
    required_written (readsBack_boundedList (fun condition _ => condition.readsBack)
      (List.length_pos_iff.mpr rule.nonempty)) hconditions,
    required_written (readsBack_choice (lookup_actionKind _)) haction,
    optionalField_written readsBack_text htarget,
    withDefault_written (show ReadsBack _ (fun junction => .str (Junction.name junction))
      rule.junction from ⟨?_, nofun⟩) hjunction]
  · change (Action.ofTarget rule.action.kind rule.action.writtenTarget?).andThen _ = _
    rw [Action.ofTarget_eq_valid_iff.mpr ⟨rfl, rfl, h⟩]
    exact dif_pos rule.nonempty
  · change choice Junction.words (.str (Text.lower rule.junction.name)) = _
    rw [lower_junction]
    exact (readsBack_choice (lookup_junction rule.junction)).valid

/-- The target of a rule that has been read has a name. -/
theorem target?_ne_of_ofJson {v : Json} {rule : Rule} (h : ofJson v = .valid rule) :
    rule.action.target? ≠ some "" := by
  cases v with
  | obj entries =>
      obtain ⟨⟨id, conditions, junction, kind, target⟩, -, haction⟩ :=
        Validated.andThen_eq_valid_iff.mp h
      obtain ⟨action, htarget, hrule⟩ := Validated.andThen_eq_valid_iff.mp haction
      cases conditions with
      | nil => cases hrule
      | cons condition rest =>
          cases hrule
          exact (Action.ofTarget_eq_valid_iff.mp htarget).2.2
  | _ => cases h

end Rule

namespace LegacySkip

theorem readsBack (skip : LegacySkip) : ReadsBack ofJson toJson skip := by
  refine ⟨?_, nofun⟩
  have hfields : skip.toJson = Json.ofFields
      [("questionId", some (.str skip.questionId)), ("answer", some skip.answer.toJson)] := rfl
  obtain ⟨entries, hentries, hid, hanswer, -⟩ :=
    exists_holds_of_eq_ofFields hfields ["questionId", "answer"] rfl (by decide)
  rw [hentries, ofJson, record, required_written (readsBack_text _) hid,
    required_written (Scalar.readsBack _) hanswer]
  rfl

end LegacySkip

end Questionnaire
