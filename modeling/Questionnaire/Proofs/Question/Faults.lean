import Questionnaire.Proofs.Lists
import Questionnaire.Proofs.Question.Filling
import Questionnaire.Proofs.Schema.Outcome
import Questionnaire.Proofs.Schema.Written

/-!
Questions that cannot even be checked.  A condition looks its operator up in a set, which a list or
an object cannot be: data that write an operator as one of these end the check, wherever the
condition stands, and nothing else in the data of a question does.
-/

namespace Questionnaire

open Validated Schema

/-- Lists and objects. -/
def Json.isCompound : Json → Bool
  | .arr _ => true
  | .obj _ => true
  | _ => false

theorem Scalar.ofJson_faultless (v : Json) : (Scalar.ofJson v).Faultless := by
  cases v <;> nofun

theorem NumberRange.ofJson_faultless (v : Json) : (NumberRange.ofJson v).Faultless := by
  refine record_faultless (fun entries => Faultless.andThen ?_ ?_) v
  · rw [faultless_seq_iff, faultless_map_iff]
    exact ⟨required_faultless number_faultless, required_faultless number_faultless⟩
  · rintro ⟨low, high⟩
    change (ofBounds low high).Faultless
    unfold ofBounds
    split
    · exact faultless_valid
    · exact faultless_issue

theorem Operand.ofJson_faultless (v : Json) : (Operand.ofJson v).Faultless := by
  unfold ofJson
  split
  · exact faultless_valid
  · split
    · exact faultless_valid
    · rename_i hfault
      exact absurd hfault (NumberRange.ofJson_faultless _ _)
    · split
      · exact faultless_valid
      · rename_i hfault
        exact absurd hfault (list_faultless Scalar.ofJson_faultless _ _)
      · intro cause hfault
        cases v <;> cases hfault

theorem AnswerTest.ofOperand_faultless (operator : Operator) (operand : Operand) :
    (AnswerTest.ofOperand operator operand).Faultless := by
  intro cause hfault
  cases operand with
  | list values => cases values <;> cases operator <;> cases hfault
  | _ => cases operator <;> cases hfault

namespace Condition

/-- The operator of a condition is written as a list or an object. -/
def IsUncheckable (v : Json) : Prop :=
  ∃ entries operator, v = .obj entries ∧ Entries.get? entries "operator" = some operator
    ∧ operator.isCompound = true

theorem wrapSingle_faultsIff (entries : Entries Json) : (wrapSingle entries).FaultsIff
    (∃ operator, entries.get? "operator" = some operator ∧ operator.isCompound = true) := by
  unfold wrapSingle
  cases hoperator : entries.get? "operator" with
  | none => simp [FaultsIff]
  | some operator =>
      cases operator with
      | str word =>
          have hword : ¬ ∃ operator, some (Json.str word) = some operator
              ∧ operator.isCompound = true := by simp [Json.isCompound]
          dsimp only
          split
          · split <;> exact hword
          · exact hword
      | _ => simp [FaultsIff, Json.isCompound]

/-- A condition cannot be checked exactly if its operator is a list or an object. -/
theorem ofJson_faultsIff (v : Json) : (ofJson v).FaultsIff (IsUncheckable v) := by
  cases v with
  | obj entries =>
      refine ((wrapSingle_faultsIff entries).andThen fun entries => ?_).congr ?_
      · refine Faultless.andThen ?_ ?_
        · simp only [faultless_seq_iff, faultless_map_iff]
          exact ⟨⟨required_faultless text_faultless, required_faultless (choice_faultless _)⟩,
            withDefault_faultless Operand.ofJson_faultless⟩
        · rintro ⟨id, operator, operand⟩
          exact (AnswerTest.ofOperand_faultless operator operand).map
      · simp [IsUncheckable]
  | _ => simp [ofJson, record, FaultsIff, issue, IsUncheckable]

end Condition

theorem Action.ofTarget_faultless (kind : ActionKind) (target : Option String) :
    (Action.ofTarget kind target).Faultless := by
  intro cause hfault
  cases target with
  | none => cases kind <;> cases hfault
  | some name =>
      by_cases hname : name = "" <;> cases kind <;>
        simp [ofTarget, withTarget, withTarget.missing, issue, hname] at hfault

namespace Rule

/-- One of the conditions cannot be checked. -/
def IsUncheckable (v : Json) : Prop :=
  ∃ entries, v = .obj entries ∧ Finds entries "conditions" (HasItem Condition.IsUncheckable)

theorem ofJson_faultsIff (v : Json) : (ofJson v).FaultsIff (IsUncheckable v) := by
  cases v with
  | obj entries =>
      have hid : (required entries "id" text).Faultless := required_faultless text_faultless
      have hconditions := required_faultsIff
        (boundedList_faultsIff Condition.ofJson_faultsIff 1) entries "conditions"
      have haction : (required entries "action" (choice ActionKind.words)).Faultless :=
        required_faultless (choice_faultless _)
      have htarget : (optionalField entries "targetQuestionId" text).Faultless :=
        optionalField_faultless text_faultless
      refine (((((hid.faultsIff.map.seq hconditions).seq
        (withDefault_faultless fun v => ?_).faultsIff).seq haction.faultsIff).seq
        htarget.faultsIff).andThen ?_).congr (by simp [IsUncheckable])
      · cases v with
        | str word => exact choice_faultless Junction.words (.str (Text.lower word))
        | _ => nofun
      · rintro ⟨id, conditions, junction, kind, target⟩
        refine (Action.ofTarget_faultless kind target).andThen fun action => ?_
        cases conditions <;> nofun
  | _ => simp [ofJson, record, FaultsIff, issue, IsUncheckable]

end Rule

theorem LegacySkip.ofJson_faultless (v : Json) : (LegacySkip.ofJson v).Faultless := by
  refine record_faultless (fun entries => ?_) v
  rw [faultless_seq_iff, faultless_map_iff]
  exact ⟨required_faultless text_faultless, required_faultless Scalar.ofJson_faultless⟩

namespace Question

/-- A condition of one of the rules cannot be checked. -/
def IsUncheckable (v : Json) : Prop :=
  ∃ entries, v = .obj entries ∧ Finds entries "logicRules" (HasItem Rule.IsUncheckable)

theorem ofEntries_faultsIff (entries : Entries Json) : (ofEntries entries).FaultsIff
    (Finds entries "logicRules" (HasItem Rule.IsUncheckable)) := by
  have hrules : (withDefault entries "logicRules" [] (list Rule.ofJson)).FaultsIff _ :=
    withDefault_faultsIff (list_faultsIff Rule.ofJson_faultsIff) entries "logicRules"
  have hskip : (optionalField entries "skipCondition" LegacySkip.ofJson).Faultless :=
    optionalField_faultless LegacySkip.ofJson_faultless
  have hextras : (pure (Schema.extras fieldNames entries) : Validated (Entries Json)).Faultless :=
    faultless_valid
  unfold ofEntries
  refine (((Faultless.faultsIff ?_).seq hrules).seq hskip.faultsIff).seq hextras.faultsIff |>.congr
    (by simp)
  simp only [faultless_seq_iff, faultless_map_iff, required_faultless, withDefault_faultless,
    optionalField_faultless, text_faultless, truth_faultless, integer_faultless, number_faultless,
    choice_faultless, fixed_faultless, list_faultless, dictionary_faultless, implies_true, and_self]

/-- What is filled in does not change whether the rules can be checked. -/
theorem ofJson_fill_faultsIff (entries : Entries Json) :
    (ofJson (.obj (Builder.fill entries))).FaultsIff (IsUncheckable (.obj entries)) := by
  have hfind : find? (Builder.fill entries) "logicRules" = find? entries "logicRules" :=
    find?_congr (Builder.get?_fill entries (by decide)) (Builder.get?_fill entries (by decide))
  refine (ofEntries_faultsIff (Builder.fill entries)).congr ?_
  simp [IsUncheckable, Finds, hfind]

/-- Reading a question ends in a fault exactly if a condition of its rules cannot be checked. -/
theorem ofRaw_eq_fault_iff {v : Json} {cause : Fault} :
    ofRaw v = .error (.fault cause) ↔ cause = .wrongKind ∧ IsUncheckable v := by
  cases v with
  | obj entries =>
      rw [← (ofJson_fill_faultsIff entries).eq_fault_iff]
      change ofFilled (Builder.fill entries) = _ ↔ _
      unfold ofFilled
      cases ofJson (.obj (Builder.fill entries)) <;> simp
  | _ => simp [ofRaw, IsUncheckable]

/-- Data that should list questions cannot be gone through, or list a question that cannot be
checked after questions that can be read. -/
def ListIsUncheckable : Json → Prop
  | .bool value => value = true
  | .num value => value.isZero = false
  | .arr items => ∃ before item after, items = before ++ item :: after
      ∧ (∀ other ∈ before, ∃ question, ofRaw other = .ok question) ∧ IsUncheckable item
  | _ => False

theorem mapM_texts_ne_fault {texts : List String} {cause : Fault} :
    (texts.map Json.str).mapM ofRaw ≠ .error (.fault cause) := by
  intro hfault
  obtain ⟨before, v, after, hsplit, -, hv⟩ := mapM_eq_error_iff.mp hfault
  have hmem : v ∈ texts.map Json.str := hsplit ▸ List.mem_append_right before List.mem_cons_self
  obtain ⟨text, -, rfl⟩ := List.mem_map.mp hmem
  cases hv

theorem listOfRaw_eq_fault_iff {v : Json} {cause : Fault} :
    listOfRaw v = .error (.fault cause) ↔ cause = .wrongKind ∧ ListIsUncheckable v := by
  have htexts (texts : List String) (b : Bool) :
      (if b then (texts.map Json.str).mapM ofRaw else .ok []) ≠ .error (.fault cause) := by
    cases b with
    | false => nofun
    | true => exact mapM_texts_ne_fault
  cases v with
  | null => simp [listOfRaw, Json.isTruthy, ListIsUncheckable]
  | bool value =>
      cases value <;> simp [listOfRaw, Json.isTruthy, Json.parts, ListIsUncheckable, eq_comm]
  | num value =>
      cases hzero : value.isZero <;>
        simp [listOfRaw, Json.isTruthy, Json.parts, ListIsUncheckable, hzero, eq_comm]
  | str s =>
      refine iff_of_false ?_ fun h => h.2
      have h := htexts (s.toList.map (·.toString)) (Json.str s).isTruthy
      rwa [List.map_map] at h
  | obj entries =>
      refine iff_of_false ?_ fun h => h.2
      have h := htexts (entries.map (·.1)) (Json.obj entries).isTruthy
      rwa [List.map_map] at h
  | arr items =>
      have hmapM : listOfRaw (.arr items) = items.mapM ofRaw := by
        cases items <;> rfl
      rw [hmapM, mapM_eq_error_iff]
      simp only [ofRaw_eq_fault_iff, ListIsUncheckable]
      constructor
      · rintro ⟨before, item, after, hsplit, hbefore, hcause, hitem⟩
        exact ⟨hcause, before, item, after, hsplit, hbefore, hitem⟩
      · rintro ⟨hcause, before, item, after, hsplit, hbefore, hitem⟩
        exact ⟨before, item, after, hsplit, hbefore, hcause, hitem⟩

end Question

end Questionnaire
