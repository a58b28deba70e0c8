import Questionnaire.Proofs.Walk.Matching

/-!
What rules see of the questions of a survey: which ids there are, in which order, and the kinds of
the questions.  Questions that differ in nothing but their own rules and settings are all the same
to a rule.
-/

namespace Questionnaire

/-- What rules see of a question. -/
def Question.seen (question : Question) : String × QuestionKind := (question.id, question.kind)

section Kinds

variable {a b : List Question} (h : a.map Question.seen = b.map Question.seen)

include h

theorem position?_of_kinds (id : String) : position? id a = position? id b := by
  induction a generalizing b with
  | nil =>
      rw [List.map_nil, eq_comm, List.map_eq_nil_iff] at h
      rw [h]
  | cons question rest ih =>
      obtain ⟨other, others, rfl, hsame, hrest⟩ := List.map_eq_cons_iff.mp h.symm
      have hid : question.id = other.id := (congrArg Prod.fst hsame).symm
      rw [position?, position?, ih hrest.symm, hid]

/-- A question of a name is found in both or in neither, and has the same kind. -/
theorem findQuestion?_of_kinds (id : String) :
    (findQuestion? a id).map Question.seen = (findQuestion? b id).map Question.seen := by
  have hfind (questions : List Question) : (findQuestion? questions id).map Question.seen
      = (questions.map Question.seen).reverse.find? (·.1 = id) := by
    rw [← List.map_reverse, List.find?_map]
    rfl
  rw [hfind, hfind, h]

theorem findQuestion?_isSome_of_kinds (id : String) :
    (findQuestion? a id).isSome = (findQuestion? b id).isSome := by
  have hsome := congrArg Option.isSome (findQuestion?_of_kinds h id)
  rwa [Option.isSome_map, Option.isSome_map] at hsome

theorem Condition.resolve_of_kinds (condition : Condition) :
    condition.resolve (some a) = condition.resolve (some b) := by
  have hfound := findQuestion?_of_kinds h condition.questionId
  rw [resolve, resolve]
  cases hb : findQuestion? b condition.questionId with
  | none =>
      rw [hb, Option.map_none, Option.map_eq_none_iff] at hfound
      rw [hfound]
  | some other =>
      rw [hb] at hfound
      obtain ⟨question, ha, hsame⟩ := Option.map_eq_some_iff.mp hfound
      obtain ⟨hid, hkind⟩ := Prod.mk.inj hsame
      rw [ha]
      dsimp only
      rw [hid, hkind]

namespace Rule

theorem resolve_of_kinds (rule : Rule) : rule.resolve (some a) = rule.resolve (some b) := by
  have htarget : rule.resolveTarget (some a) = rule.resolveTarget (some b) := by
    unfold resolveTarget
    cases rule.action.target? with
    | none => rfl
    | some target => simp only [findQuestion?_isSome_of_kinds h target]
  unfold resolve
  rw [htarget]
  simp only [Condition.resolve_of_kinds h]

theorem holdsOn_of_kinds (rule : Rule) (answers : Answers) :
    rule.holdsOn a answers = rule.holdsOn b answers := by
  rw [holdsOn, holdsOn, evaluate, evaluate, rule.resolve_of_kinds h]

theorem trigger_of_kinds (rule : Rule) (owner : String) :
    rule.trigger owner a = rule.trigger owner b := by
  unfold trigger
  simp only [position?_of_kinds h]

end Rule

end Kinds

end Questionnaire
