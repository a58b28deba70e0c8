import Questionnaire.Proofs.Walk.Trigger

/-!
When a rule can be resolved, and when a rule that can be resolved matches.  Both are told condition
by condition, so that neither the order nor the number of equal conditions counts.
-/

namespace Questionnaire

namespace Condition

variable {condition : Condition} {questions : List Question}

/-- A condition can be resolved if its source exists and its operator suits the kind of the
source. -/
theorem exists_resolve_iff : (∃ kind, condition.resolve (some questions) = .ok kind) ↔
    ∃ source, findQuestion? questions condition.questionId = some source ∧
      condition.operator ∈ source.kind.operators := by
  rw [resolve]
  cases findQuestion? questions condition.questionId with
  | none => simp
  | some source => by_cases hsuits : condition.operator ∈ source.kind.operators <;> simp [hsuits]

theorem evaluate_of_resolve {kind : Option QuestionKind}
    (h : condition.resolve (some questions) = .ok kind) (answers : Answers) :
    condition.evaluate (some questions) answers
      = .ok (condition.holds kind (answers.answerTo condition.questionId)) := by
  rw [evaluate, h]

end Condition

namespace Rule

variable {rule : Rule} {questions : List Question}

theorem resolveTarget_eq_ok_iff : rule.resolveTarget (some questions) = .ok () ↔
    ∀ target, rule.action.target? = some target → (findQuestion? questions target).isSome := by
  unfold resolveTarget
  cases rule.action.target? with
  | none => simp
  | some target => cases hfind : findQuestion? questions target <;> simp [hfind]

/-- A rule can be resolved if its target exists and each of its conditions can be resolved. -/
theorem exists_resolve_iff : (∃ typed, rule.resolve (some questions) = .ok typed) ↔
    (∀ target, rule.action.target? = some target → (findQuestion? questions target).isSome) ∧
      ∀ condition ∈ rule.conditions, ∃ kind, condition.resolve (some questions) = .ok kind := by
  have hconditions : (∃ typed, (rule.conditions.mapM fun condition =>
        (condition.resolve (some questions)).map fun kind => (condition, kind)) = .ok typed) ↔
      ∀ condition ∈ rule.conditions, ∃ kind, condition.resolve (some questions) = .ok kind := by
    rw [exists_mapM_ok_iff]
    refine forall₂_congr fun condition _ => ?_
    cases condition.resolve (some questions) <;> simp [Except.map]
  rw [← resolveTarget_eq_ok_iff, ← hconditions, resolve]
  cases rule.resolveTarget (some questions) with
  | error reason => simp
  | ok found =>
      dsimp only
      generalize (rule.conditions.mapM fun condition =>
        (condition.resolve (some questions)).map fun kind => (condition, kind)) = typed
      cases typed <;> simp

/-- What a rule that cannot be resolved complains of names the rule. -/
theorem ruleId_of_resolve {invalid : InvalidRule}
    (h : rule.resolve (some questions) = .error invalid) : invalid.ruleId = some rule.id := by
  rw [resolve] at h
  split at h
  · cases h
    rfl
  · split at h
    · cases h
      rfl
    · cases h

/-- The conditions of a resolved rule hold together if all or some of them hold, as the rule joins
them. -/
theorem joined_iff {typed : List (Condition × Option QuestionKind)}
    (h : rule.resolve (some questions) = .ok typed) (answers : Answers) :
    joined rule.junction typed answers = true ↔ match rule.junction with
      | .all => ∀ condition ∈ rule.conditions,
          condition.evaluate (some questions) answers = .ok true
      | .any => ∃ condition ∈ rule.conditions,
          condition.evaluate (some questions) answers = .ok true := by
  obtain ⟨hconditions, hentries⟩ := mapM_ok_members (mapM_of_resolve h)
  have hentry {condition : Condition} {entry : Condition × Option QuestionKind}
      (hok : (condition.resolve (some questions)).map (fun kind => (condition, kind)) = .ok entry) :
      condition.evaluate (some questions) answers
        = .ok (entry.1.holds entry.2 (answers.answerTo entry.1.questionId)) := by
    cases hkind : condition.resolve (some questions) with
    | error reason =>
        rw [hkind] at hok
        cases hok
    | ok kind =>
        rw [hkind] at hok
        cases hok
        exact Condition.evaluate_of_resolve hkind answers
  cases rule.junction with
  | all =>
      dsimp only [joined]
      rw [List.all_eq_true]
      constructor
      · intro hall condition hcondition
        obtain ⟨entry, hmem, hok⟩ := hconditions condition hcondition
        rw [hentry hok, hall entry hmem]
      · intro hall entry hmem
        obtain ⟨condition, hcondition, hok⟩ := hentries entry hmem
        exact Except.ok.inj ((hentry hok).symm.trans (hall condition hcondition))
  | any =>
      dsimp only [joined]
      rw [List.any_eq_true]
      constructor
      · rintro ⟨entry, hmem, hholds⟩
        obtain ⟨condition, hcondition, hok⟩ := hentries entry hmem
        exact ⟨condition, hcondition, by rw [hentry hok, hholds]⟩
      · rintro ⟨condition, hcondition, hholds⟩
        obtain ⟨entry, hmem, hok⟩ := hconditions condition hcondition
        exact ⟨entry, hmem, Except.ok.inj ((hentry hok).symm.trans hholds)⟩

/-- A rule matches if it can be resolved, and all or some of its conditions hold. -/
theorem evaluate_eq_true_iff {answers : Answers} :
    rule.evaluate (some questions) answers = .ok true ↔
      (∃ typed, rule.resolve (some questions) = .ok typed) ∧ match rule.junction with
        | .all => ∀ condition ∈ rule.conditions,
            condition.evaluate (some questions) answers = .ok true
        | .any => ∃ condition ∈ rule.conditions,
            condition.evaluate (some questions) answers = .ok true := by
  rw [evaluate]
  cases hresolve : rule.resolve (some questions) with
  | error invalid => simp [Except.map]
  | ok typed =>
      rw [← joined_iff hresolve answers]
      simp [Except.map]

theorem holdsOn_eq_true_iff {answers : Answers} : rule.holdsOn questions answers = true ↔
    rule.evaluate (some questions) answers = .ok true := by
  unfold holdsOn
  cases rule.evaluate (some questions) answers <;> simp

/-- With a rule every other one matches that joins the same conditions in the same way and whose
target exists. -/
theorem holdsOn_of_perm {other : Rule} (hjunction : rule.junction = other.junction)
    (hperm : rule.conditions.Perm other.conditions)
    (htarget : ∀ target, rule.action.target? = some target →
      (findQuestion? questions target).isSome)
    {answers : Answers} (h : other.holdsOn questions answers = true) :
    rule.holdsOn questions answers = true := by
  rw [holdsOn_eq_true_iff, evaluate_eq_true_iff, exists_resolve_iff] at h ⊢
  obtain ⟨⟨_, hresolve⟩, hholds⟩ := h
  refine ⟨⟨htarget, fun condition hmem => hresolve condition (hperm.mem_iff.mp hmem)⟩, ?_⟩
  rw [hjunction]
  cases hother : other.junction with
  | all =>
      rw [hother] at hholds
      exact fun condition hmem => hholds condition (hperm.mem_iff.mp hmem)
  | any =>
      rw [hother] at hholds
      obtain ⟨condition, hmem, htrue⟩ := hholds
      exact ⟨condition, hperm.mem_iff.mpr hmem, htrue⟩

end Rule

end Questionnaire
