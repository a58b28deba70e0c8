import Questionnaire.Proofs.Json.Fields
import Questionnaire.Survey.Walk

/-!
The rules that match after a question.  They depend on the answers to the presented questions alone.
A walk that passes unresolvable rules over finds in every group the first rule that can be resolved
and holds, and the target of such a rule exists.
-/

namespace Questionnaire

namespace Answers

/-- Two respondents agree on some questions: both gave the same answer, or both gave none. -/
def Agree (ids : List String) (a b : Answers) : Prop :=
  ∀ id ∈ ids, a.get? id = b.get? id

theorem Agree.mono {ids more : List String} {a b : Answers} (h : Agree more a b)
    (hsub : ∀ id ∈ ids, id ∈ more) : Agree ids a b :=
  fun id hid => h id (hsub id hid)

/-- A restriction keeps the answers to its questions and no others. -/
theorem get?_restrict (answers : Answers) (ids : List String) (id : String) :
    (answers.restrict ids).get? id = if id ∈ ids then answers.get? id else none := by
  simpa [restrict] using Entries.get?_filter answers (fun other => decide (other ∈ ids)) id

theorem agree_restrict (answers : Answers) (ids : List String) :
    Agree ids answers (answers.restrict ids) := by
  intro id hid
  rw [get?_restrict, if_pos hid]

/-- Answers that agree on some questions are the same for whoever sees those questions alone. -/
theorem Agree.answerTo_restrict {ids : List String} {a b : Answers} (h : Agree ids a b) :
    (a.restrict ids).answerTo = (b.restrict ids).answerTo := by
  funext id
  rw [answerTo, answerTo, get?_restrict, get?_restrict]
  by_cases hid : id ∈ ids
  · rw [if_pos hid, if_pos hid, h id hid]
  · rw [if_neg hid, if_neg hid]

end Answers

namespace Rule

theorem evaluate_congr (rule : Rule) (questions : Option (List Question)) {a b : Answers}
    (h : a.answerTo = b.answerTo) : rule.evaluate questions a = rule.evaluate questions b := by
  unfold evaluate joined
  rw [h]

/-- Whether a rule can be resolved and holds. -/
def holdsOn (rule : Rule) (questions : List Question) (answers : Answers) : Bool :=
  match rule.evaluate (some questions) answers with
  | .ok held => held
  | .error _ => false

end Rule

theorem firstMatch_congr (questions : Option (List Question)) (strict : Bool) {a b : Answers}
    (h : a.answerTo = b.answerTo) :
    firstMatch questions a strict = firstMatch questions b strict := by
  have hevaluate : (fun rule : Rule => rule.evaluate questions a)
      = fun rule => rule.evaluate questions b :=
    funext fun rule => rule.evaluate_congr questions h
  unfold firstMatch
  rw [hevaluate]

/-- Where unresolvable rules are passed over, the first rule that can be resolved and holds is
found. -/
theorem firstMatch_lenient (questions : List Question) (answers : Answers) (rules : List Rule) :
    (firstMatch (some questions) answers false rules).2
      = .ok (rules.find? (·.holdsOn questions answers)) := by
  unfold firstMatch
  induction rules with
  | nil => rfl
  | cons rule rest ih =>
      rw [firstMatchBy]
      cases hrule : rule.evaluate (some questions) answers with
      | error invalid => simpa [Rule.holdsOn, hrule] using ih
      | ok held =>
          cases held with
          | false => simpa [Rule.holdsOn, hrule] using ih
          | true => simp [Rule.holdsOn, hrule]

theorem position?_isSome_iff (id : String) (questions : List Question) :
    (position? id questions).isSome ↔ ∃ question ∈ questions, question.id = id := by
  induction questions with
  | nil => simp [position?]
  | cons question rest ih =>
      unfold position?
      cases hrest : position? id rest with
      | some i =>
          have hmem := ih.mp (by simp [hrest])
          simpa using Or.inr hmem
      | none =>
          have hnone : ¬ ∃ question ∈ rest, question.id = id := by
            simpa [hrest] using not_congr ih
          by_cases hid : question.id = id <;> simp [hid, hnone]

/-- The target of a rule that can be resolved is a question of the survey. -/
theorem Rule.position?_isSome_of_holdsOn {rule : Rule} {questions : List Question}
    {answers : Answers} (h : rule.holdsOn questions answers = true) {target : String}
    (htarget : rule.action.target? = some target) : (position? target questions).isSome := by
  rw [position?_isSome_iff]
  cases hfind : findQuestion? questions target with
  | none => simp [holdsOn, evaluate, resolve, resolveTarget, htarget, hfind, Except.map] at h
  | some question =>
      have hmem : question ∈ questions.reverse := List.mem_of_find?_eq_some hfind
      have hid := List.find?_some hfind
      exact ⟨question, by simpa using hmem, by simpa using hid⟩

namespace Survey

/-- The first rule of each group after a question that can be resolved and holds, on the answers to
the questions presented so far. -/
def matched (survey : Survey) (answers : Answers) (presented : List String) (id : String) :
    List Rule :=
  (survey.groupsAt id).filterMap fun group =>
    group.rules.find? (·.holdsOn survey.questions (answers.restrict presented))

theorem firstMatches_congr (survey : Survey) (strict : Bool) (groups : List RuleGroup)
    {a b : Answers} (h : a.answerTo = b.answerTo) :
    survey.firstMatches a strict groups = survey.firstMatches b strict groups := by
  induction groups with
  | nil => rfl
  | cons group rest ih =>
      rw [firstMatches, firstMatches, firstMatch_congr (some survey.questions) strict h, ih]

/-- What matches after a question depends on the answers to the presented questions alone. -/
theorem matchesAt_congr (survey : Survey) (strict : Bool) (progress : Progress) (id : String)
    {a b : Answers} (h : Answers.Agree progress.presented a b) :
    survey.matchesAt a strict progress id = survey.matchesAt b strict progress id :=
  survey.firstMatches_congr strict (survey.groupsAt id) h.answerTo_restrict

theorem firstMatches_lenient (survey : Survey) (answers : Answers) (groups : List RuleGroup) :
    (survey.firstMatches answers false groups).2
      = .ok (groups.filterMap fun group =>
          group.rules.find? (·.holdsOn survey.questions answers)) := by
  induction groups with
  | nil => rfl
  | cons group rest ih =>
      have hgroup := firstMatch_lenient survey.questions answers group.rules
      rw [firstMatches]
      split
      · rename_i warnings invalid hfirst
        rw [hfirst] at hgroup
        cases hgroup
      · rename_i warnings found hfirst
        rw [hfirst] at hgroup
        injection hgroup with hfound
        change Except.map _ (survey.firstMatches answers false rest).2 = _
        rw [ih, List.filterMap_cons, ← hfound]
        cases found <;> rfl

/-- A walk that passes unresolvable rules over always knows which rules match. -/
theorem matchesAt_lenient (survey : Survey) (answers : Answers) (progress : Progress)
    (id : String) :
    (survey.matchesAt answers false progress id).2
      = .ok (survey.matched answers progress.presented id) :=
  survey.firstMatches_lenient (answers.restrict progress.presented) (survey.groupsAt id)

/-- A rule that matches has its target in the survey. -/
theorem position?_isSome_of_mem_matched {survey : Survey} {answers : Answers}
    {presented : List String} {id : String} {rule : Rule}
    (h : rule ∈ survey.matched answers presented id) {target : String}
    (htarget : rule.action.target? = some target) : (survey.position? target).isSome := by
  obtain ⟨group, _, hfind⟩ := List.mem_filterMap.mp h
  have hholds := List.find?_some hfind
  exact Rule.position?_isSome_of_holdsOn hholds htarget

end Survey

end Questionnaire
