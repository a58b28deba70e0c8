import Mathlib.Data.List.Basic
import Mathlib.Data.List.Find
import Questionnaire.Proofs.Rule.Kinds
import Questionnaire.Proofs.Walk.Replay
import Questionnaire.Proofs.Walk.Trigger

/-!
Surveys with rules deleted.  A rule that cannot be resolved never matches, so that a walk that
passes such rules over does the same without it.  There is one trace that it leaves: a question that
some rule may reveal is hidden at first, whether or not that rule can be resolved.
-/

namespace Questionnaire

/-- Whether the rule that stands for an older skip is among some. -/
def LegacySkip.isAmong (drop : Rule → Bool) (owner : String) (skip : LegacySkip) : Bool :=
  match skip.toRule owner with
  | .valid rule => drop rule
  | _ => false

namespace Question

/-- A question without some of the rules that it declares. -/
def without (drop : Rule → Bool) (question : Question) : Question :=
  { question with
    rules := question.rules.filter fun rule => !drop rule
    legacySkip := question.legacySkip.filter fun skip => !skip.isAmong drop question.id }

variable (drop : Rule → Bool)

@[simp] theorem without_id (question : Question) : (question.without drop).id = question.id := rfl

@[simp] theorem without_kind (question : Question) :
    (question.without drop).kind = question.kind := rfl

theorem declaredRules_without {question : Question} {rules : List Rule}
    (h : question.declaredRules = .valid rules) :
    (question.without drop).declaredRules = .valid (rules.filter fun rule => !drop rule) := by
  cases hskip : question.legacySkip with
  | none =>
      have hrules : question.rules = rules := by simpa [declaredRules, hskip] using h
      simp [declaredRules, without, hskip, hrules]
  | some skip =>
      cases hrule : skip.toRule question.id with
      | issues found => simp [declaredRules, hskip, hrule, Validated.map] at h
      | fault cause => simp [declaredRules, hskip, hrule, Validated.map] at h
      | valid rule =>
          have hrules : question.rules ++ [rule] = rules := by
            simpa [declaredRules, hskip, hrule, Validated.map] using h
          have hamong : skip.isAmong drop question.id = drop rule := by
            simp [LegacySkip.isAmong, hrule]
          have hkept : (question.without drop).legacySkip
              = if drop rule then none else some skip := by
            cases hdrop : drop rule <;> simp [without, hskip, Option.filter, hamong, hdrop]
          have hleft : (question.without drop).rules
              = question.rules.filter fun rule => !drop rule := rfl
          rw [declaredRules, hkept, hleft, ← hrules, List.filter_append]
          cases hdrop : drop rule with
          | false => simp [hrule, hdrop, Validated.map]
          | true => simp [hdrop]

end Question

section Deletion

variable (drop : Rule → Bool) (questions : List Question)

theorem map_seen_without :
    (questions.map (Question.without drop)).map Question.seen = questions.map Question.seen := by
  rw [List.map_map]
  rfl

@[simp] theorem position?_without (id : String) :
    position? id (questions.map (Question.without drop)) = position? id questions :=
  position?_of_kinds (map_seen_without drop questions) id

namespace Rule

/-- Whether a rule holds does not depend on the rules of the survey. -/
theorem holdsOn_without (rule : Rule) (answers : Answers) :
    rule.holdsOn (questions.map (Question.without drop)) answers
      = rule.holdsOn questions answers :=
  rule.holdsOn_of_kinds (map_seen_without drop questions) answers

@[simp] theorem trigger_without (rule : Rule) (owner : String) :
    rule.trigger owner (questions.map (Question.without drop)) = rule.trigger owner questions :=
  rule.trigger_of_kinds (map_seen_without drop questions) owner

/-- Whether a rule cannot be resolved. -/
def isUnresolvable (rule : Rule) (questions : List Question) : Bool :=
  match rule.resolve (some questions) with
  | .ok _ => false
  | .error _ => true

theorem evaluate_of_isUnresolvable {questions : List Question} {rule : Rule}
    (h : rule.isUnresolvable questions = true) (answers : Answers) :
    ∃ invalid, rule.evaluate (some questions) answers = .error invalid := by
  unfold isUnresolvable at h
  split at h
  · cases h
  · rename_i invalid hinvalid
    exact ⟨invalid, (rule.evaluate_eq_error_iff (some questions) answers invalid).mpr hinvalid⟩

/-- A rule that cannot be resolved does not hold. -/
theorem holdsOn_eq_false_of_resolve {rule : Rule} {questions : List Question}
    {invalid : InvalidRule} (h : rule.resolve (some questions) = .error invalid)
    (answers : Answers) : rule.holdsOn questions answers = false := by
  rw [holdsOn, (rule.evaluate_eq_error_iff (some questions) answers invalid).mpr h]

end Rule

end Deletion

namespace Survey

/-- A survey without some of its rules. -/
def without (drop : Rule → Bool) (survey : Survey) : Survey where
  questions := survey.questions.map (Question.without drop)
  declared := survey.declared.map fun group =>
    ⟨group.owner, group.rules.filter fun rule => !drop rule⟩

theorem declaredGroups_without (drop : Rule → Bool) {questions : List Question}
    {groups : List RuleGroup} (h : declaredGroups questions = .valid groups) :
    declaredGroups (questions.map (Question.without drop)) = .valid (groups.map fun group =>
      ⟨group.owner, group.rules.filter fun rule => !drop rule⟩) := by
  induction questions generalizing groups with
  | nil =>
      cases h
      rfl
  | cons question rest ih =>
      obtain ⟨rules, more, hrules, hmore, rfl⟩ := declaredGroups_cons_iff.mp h
      exact declaredGroups_cons_iff.mpr
        ⟨_, _, Question.declaredRules_without drop hrules, ih hmore, rfl⟩

/-- Deleting the rules of the questions deletes them from the survey. -/
theorem ofQuestions_without (drop : Rule → Bool) {questions : List Question} {survey : Survey}
    (h : ofQuestions questions = .valid survey) :
    ofQuestions (questions.map (Question.without drop)) = .valid (survey.without drop) := by
  obtain ⟨hquestions, hgroups⟩ := ofQuestions_eq_valid_iff.mp h
  refine ofQuestions_eq_valid_iff.mpr ⟨?_, declaredGroups_without drop hgroups⟩
  rw [without, hquestions]

theorem mem_declaredRules_without {drop : Rule → Bool} {survey : Survey} {entry : String × Rule} :
    entry ∈ (survey.without drop).declaredRules
      ↔ entry ∈ survey.declaredRules ∧ drop entry.2 = false := by
  obtain ⟨owner, rule⟩ := entry
  simp only [declaredRules, without, List.mem_flatMap, List.mem_map]
  constructor
  · rintro ⟨_, ⟨group, hgroup, rfl⟩, other, hother, hentry⟩
    obtain ⟨hrule, hstays⟩ := List.mem_filter.mp hother
    obtain ⟨rfl, rfl⟩ := Prod.mk.inj hentry
    exact ⟨⟨group, hgroup, other, hrule, rfl⟩, by simpa using hstays⟩
  · rintro ⟨⟨group, hgroup, other, hrule, hentry⟩, hstays⟩
    obtain ⟨rfl, rfl⟩ := Prod.mk.inj hentry
    exact ⟨_, ⟨group, hgroup, rfl⟩, other, List.mem_filter.mpr ⟨hrule, by simpa using hstays⟩, rfl⟩

/-- Two surveys in which the same questions stand at the same places, the same ones may be
presented, and the same rules match. -/
structure Alike (a b : Survey) (answers : Answers) : Prop where
  idAt?_eq : a.idAt? = b.idAt?
  position?_eq : a.position? = b.position?
  nextVisible_eq : a.nextVisible = b.nextVisible
  matched_eq : a.matched answers = b.matched answers

theorem Alike.follow_eq {a b : Survey} {answers : Answers} (h : a.Alike b answers) :
    a.follow = b.follow := by
  funext progress current position matched
  have hmoveOn : a.moveOn = b.moveOn := by
    funext progress current start ruleId
    simp only [moveOn, decisionTo, h.nextVisible_eq, h.idAt?_eq]
  unfold follow
  rw [hmoveOn, h.position?_eq]

end Survey

/-- Two strides that differ in their warnings at most. -/
structure Stride.Alike (a b : Stride) : Prop where
  progress_eq : a.progress = b.progress
  walker_eq : a.walker = b.walker
  outcome_eq : a.outcome = b.outcome

namespace Survey.Alike

variable {a b : Survey} {answers : Answers}

/-- Where the same rules match, presenting a question comes to the same. -/
theorem present (h : a.Alike b answers) (progress : Progress) (position : Nat) (current : String) :
    (Walker.present a answers false progress position current).Alike
      (Walker.present b answers false progress position current) := by
  have hmatchesA := a.matchesAt_lenient answers (progress.present current) current
  have hmatchesB := b.matchesAt_lenient answers (progress.present current) current
  rw [h.matched_eq] at hmatchesA
  unfold Walker.present
  dsimp only
  generalize a.matchesAt answers false (progress.present current) current = foundA at *
  generalize b.matchesAt answers false (progress.present current) current = foundB at *
  -- the warnings are where the two surveys differ
  obtain ⟨warningsA, outcomeA⟩ := foundA
  obtain ⟨warningsB, outcomeB⟩ := foundB
  obtain rfl : outcomeA = _ := hmatchesA
  obtain rfl : outcomeB = _ := hmatchesB
  dsimp only
  rw [h.follow_eq]
  split <;> exact ⟨rfl, rfl, rfl⟩

theorem advance (h : a.Alike b answers) (progress : Progress) (walker : Walker) :
    (walker.advance a answers false progress).Alike (walker.advance b answers false progress) := by
  have hposition : walker.position? a = walker.position? b := by
    cases walker with
    | fresh => rw [Walker.position?, Walker.position?, h.nextVisible_eq]
    | ahead position => rfl
    | done => rfl
  rw [Walker.advance_eq_presentAt, Walker.advance_eq_presentAt, hposition, Walker.presentAt,
    Walker.presentAt, h.idAt?_eq]
  split
  · exact h.present (walker.base progress) _ _
  · exact ⟨rfl, rfl, rfl⟩

/-- Walks through the two surveys decide alike at every step. -/
theorem decisions_following (h : a.Alike b answers) (steps : Nat) (progress : Progress)
    (walker : Walker) :
    (Trail.following a answers false steps progress walker).decisions
      = (Trail.following b answers false steps progress walker).decisions := by
  induction steps generalizing progress walker with
  | zero => rfl
  | succ steps ih =>
      obtain ⟨hprogress, hwalker, houtcome⟩ := h.advance progress walker
      rw [Trail.following, Trail.following, houtcome]
      split
      · rfl
      · rfl
      · rename_i decision _
        have hrest := ih (walker.advance a answers false progress).progress
          (walker.advance a answers false progress).walker
        simp only [Trail.decisions, Trail.cons, List.map_cons] at hrest ⊢
        rw [hrest, hprogress, hwalker]

end Survey.Alike

namespace Survey

variable {survey : Survey} {drop : Rule → Bool}

/-- The hidden questions stay hidden if each of them may still be revealed. -/
theorem isHidden_without (hkept : ∀ entry ∈ survey.declaredRules, ∀ id, drop entry.2 = true →
      entry.2.action = .reveal id → (survey.position? id).isSome →
      ∃ other ∈ survey.declaredRules, drop other.2 = false ∧ other.2.action = .reveal id) :
    (survey.without drop).isHidden = survey.isHidden := by
  funext id
  have hposition : (survey.without drop).position? id = survey.position? id :=
    position?_without drop survey.questions id
  rw [isHidden, isHidden, hposition]
  cases hknown : (survey.position? id).isSome with
  | false => rfl
  | true =>
      rw [Bool.true_and, Bool.true_and, Bool.eq_iff_iff, List.any_eq_true, List.any_eq_true]
      constructor
      · rintro ⟨entry, hentry, hreveals⟩
        exact ⟨entry, (mem_declaredRules_without.mp hentry).1, hreveals⟩
      · rintro ⟨entry, hentry, hreveals⟩
        cases hdrop : drop entry.2 with
        | false => exact ⟨entry, mem_declaredRules_without.mpr ⟨hentry, hdrop⟩, hreveals⟩
        | true =>
            obtain ⟨other, hother, hstays, haction⟩ :=
              hkept entry hentry id hdrop (by simpa using hreveals) hknown
            exact ⟨other, mem_declaredRules_without.mpr ⟨hother, hstays⟩, by simpa using haction⟩

/-- Rules that cannot be resolved are not among the matching ones anyway. -/
theorem matched_without (hdrop : ∀ entry ∈ survey.declaredRules, drop entry.2 = true →
      ∃ invalid, entry.2.resolve (some survey.questions) = .error invalid) (answers : Answers) :
    (survey.without drop).matched answers = survey.matched answers := by
  funext presented id
  rw [matched_eq, matched_eq, without, List.filterMap_map]
  apply List.filterMap_congr
  intro group hgroup
  dsimp only [Function.comp, triggeredBy]
  rw [List.find?_filter, List.find?_filter, List.find?_filter]
  apply List.find?_congr
  intro rule hrule
  rw [rule.trigger_without, rule.holdsOn_without]
  cases hgone : drop rule with
  | false => simp
  | true =>
      have hentry : (group.owner, rule) ∈ survey.declaredRules :=
        List.mem_flatMap.mpr ⟨group, hgroup, List.mem_map.mpr ⟨rule, hrule, rfl⟩⟩
      obtain ⟨invalid, hinvalid⟩ := hdrop (group.owner, rule) hentry hgone
      simp [Rule.holdsOn_eq_false_of_resolve hinvalid]

theorem alike_without (hdrop : ∀ entry ∈ survey.declaredRules, drop entry.2 = true →
      ∃ invalid, entry.2.resolve (some survey.questions) = .error invalid)
    (hkept : ∀ entry ∈ survey.declaredRules, ∀ id, drop entry.2 = true →
      entry.2.action = .reveal id → (survey.position? id).isSome →
      ∃ other ∈ survey.declaredRules, drop other.2 = false ∧ other.2.action = .reveal id)
    (answers : Answers) : (survey.without drop).Alike survey answers where
  idAt?_eq := by
    funext position
    simp only [idAt?, without, List.getElem?_map, Option.map_map]
    rfl
  position?_eq := by
    funext id
    exact position?_without drop survey.questions id
  nextVisible_eq := by
    funext progress start
    unfold nextVisible isVisible
    rw [isHidden_without hkept, without, ← List.map_drop, List.findIdx?_map]
    rfl
  matched_eq := matched_without hdrop answers

/-- A walk that passes unresolvable rules over decides alike without any of them, as long as the
questions that the deleted ones reveal may also be revealed by a rule that stays. -/
theorem complete_walk_without_unresolvable {questions : List Question}
    (hsurvey : ofQuestions questions = .valid survey) (answers : Answers)
    (hdrop : ∀ entry ∈ survey.declaredRules, drop entry.2 = true →
      ∃ invalid, entry.2.evaluate (some questions) answers = .error invalid)
    (hkept : ∀ entry ∈ survey.declaredRules, ∀ id, drop entry.2 = true →
      entry.2.action = .reveal id → (survey.position? id).isSome →
      ∃ other ∈ survey.declaredRules, drop other.2 = false ∧ other.2.action = .reveal id) :
    ∃ fewer, ofQuestions (questions.map (Question.without drop)) = .valid fewer
      ∧ (fewer.walk answers false).complete = (survey.walk answers false).complete := by
  have hquestions : survey.questions = questions := (ofQuestions_eq_valid_iff.mp hsurvey).1
  have hunresolvable : ∀ entry ∈ survey.declaredRules, drop entry.2 = true →
      ∃ invalid, entry.2.resolve (some survey.questions) = .error invalid := by
    intro entry hentry hgone
    obtain ⟨invalid, hinvalid⟩ := hdrop entry hentry hgone
    rw [hquestions]
    exact ⟨invalid, (entry.2.evaluate_eq_error_iff (some questions) answers invalid).mp hinvalid⟩
  have halike := alike_without hunresolvable hkept answers
  have hlength : (survey.without drop).questions.length = survey.questions.length :=
    List.length_map _
  refine ⟨survey.without drop, ofQuestions_without drop hsurvey, ?_⟩
  rw [walk, walk, hlength, Trail.complete, Trail.complete, Walker.following_failure_lenient,
    Walker.following_failure_lenient, halike.decisions_following]

namespace Sample

/-- The first question skips another one if a question that does not exist has an answer, the second
one reveals what does not exist. -/
def brokenSkip : Survey :=
  let questions := [
    plain "q1" [onAnswer "r1" "missing" (.skip "q2"), onAnswer "r2" "q1" (.reveal "q3")],
    plain "q2" [onAnswer "r3" "q2" (.reveal "missing")],
    plain "q3" []]
  ⟨questions, questions.map fun question => ⟨question.id, question.rules⟩⟩

/-- The first question reveals the second one if a question that does not exist has an answer. -/
def brokenReveal : List Question := [
  plain "q1" [onAnswer "r1" "missing" (.reveal "q2")],
  plain "q2" []]

end Sample

theorem complete_walk_without_unresolvable_brokenSkip :
    ∃ fewer, ofQuestions (Sample.brokenSkip.questions.map
        (Question.without (·.isUnresolvable Sample.brokenSkip.questions))) = .valid fewer
      ∧ (fewer.walk Sample.answers false).complete
        = (Sample.brokenSkip.walk Sample.answers false).complete := by
  have hgone : ∀ entry ∈ Sample.brokenSkip.declaredRules,
      entry.2.isUnresolvable Sample.brokenSkip.questions = true →
        entry.2.action = .skip "q2" ∨ entry.2.action = .reveal "missing" := by decide
  apply complete_walk_without_unresolvable
    (show ofQuestions Sample.brokenSkip.questions = .valid Sample.brokenSkip from rfl)
  · exact fun entry _ hdrop => Rule.evaluate_of_isUnresolvable hdrop Sample.answers
  · intro entry hentry id hdrop hreveals hknown
    rcases hgone entry hentry hdrop with haction | haction
    · rw [haction] at hreveals
      cases hreveals
    · rw [haction] at hreveals
      cases hreveals
      exact absurd hknown (by decide)

/-- A question that can only be revealed by a rule that cannot be resolved is never presented;
without the rule it is. -/
theorem decisions_brokenReveal : ∃ survey fewer,
    ofQuestions Sample.brokenReveal = .valid survey
      ∧ ofQuestions (Sample.brokenReveal.map
          (Question.without (·.isUnresolvable Sample.brokenReveal))) = .valid fewer
      ∧ (survey.walk [] false).decisions = [⟨some "q1", none, true, none⟩]
      ∧ (fewer.walk [] false).decisions
        = [⟨some "q1", some "q2", false, none⟩, ⟨some "q2", none, true, none⟩] :=
  ⟨_, _, rfl, rfl, rfl, rfl⟩

end Survey

end Questionnaire
