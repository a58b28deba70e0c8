import Questionnaire.Proofs.Audit.Reference
import Questionnaire.Proofs.Rule.Key
import Questionnaire.Proofs.Walk.Strict

/-!
Rules that are reported because they share their conditions.  The rules that one question declares
for one trigger stay in declared order when they are evaluated, so the first of those with the same
conditions stands before all others of them; and if another one of them matches, so does the first,
unless its target does not exist.
-/

namespace Questionnaire

/-- Of two members of a list, one stands before the other unless they are the same. -/
theorem eq_or_mem_of_append_cons {α : Type} {front back before after : List α} {x y : α}
    (h : front ++ x :: back = before ++ y :: after) : x = y ∨ x ∈ before ∨ y ∈ front := by
  rcases List.append_eq_append_iff.mp h with ⟨between, hbefore, hrest⟩ | ⟨between, hfront, hrest⟩
  · cases between with
    | nil => exact Or.inl (List.cons.inj hrest).1
    | cons z between =>
        have hx : x ∈ before := by simp [hbefore, (List.cons.inj hrest).1]
        exact Or.inr (Or.inl hx)
  · cases between with
    | nil => exact Or.inl (List.cons.inj hrest).1.symm
    | cons z between =>
        have hy : y ∈ front := by simp [hfront, (List.cons.inj hrest).1]
        exact Or.inr (Or.inr hy)

namespace Survey

variable {survey : Survey} {id : String} {group : RuleGroup}

/-- The rules of other questions are no rules of a question. -/
theorem filter_owner_eq_nil {groups : List RuleGroup} {owner : String} (p : String × Rule → Prop)
    [DecidablePred p] (h : ∀ other ∈ groups, other.owner ≠ owner) :
    (groups.flatMap fun other => other.rules.map fun rule => (other.owner, rule)).filter
      (fun declared => declared.1 = owner ∧ p declared) = [] := by
  rw [List.filter_eq_nil_iff]
  intro declared hdeclared hkept
  obtain ⟨other, hother, hrule⟩ := List.mem_flatMap.mp hdeclared
  obtain ⟨rule, _, rfl⟩ := List.mem_map.mp hrule
  exact h other hother (of_decide_eq_true hkept).1

/-- The rules of a group are those that its question declares for the trigger, in the order in which
they are declared. -/
theorem map_rules_of_mem_groupsAt (hids : (survey.declared.map (·.owner)).Nodup)
    (hgroup : group ∈ survey.groupsAt id) :
    group.rules.map (fun rule => (group.owner, rule)) = survey.declaredRules.filter fun declared =>
      declared.1 = group.owner ∧ declared.2.trigger declared.1 survey.questions = id := by
  obtain ⟨source, hsource, htriggered⟩ := List.mem_filterMap.mp hgroup
  have hgroup : group = ⟨source.owner, survey.triggeredBy id source⟩ := by
    split at htriggered
    · cases htriggered
    · exact (Option.some.inj htriggered).symm
  obtain ⟨front, back, hsplit⟩ := List.append_of_mem hsource
  rw [hsplit, List.map_append, List.map_cons, List.nodup_middle, List.nodup_cons,
    ← List.map_append] at hids
  have hothers : ∀ other ∈ front ++ back, other.owner ≠ source.owner := by
    intro other hother howner
    exact hids.1 (List.mem_map.mpr ⟨other, hother, howner⟩)
  have hfront := filter_owner_eq_nil
    (fun declared => declared.2.trigger declared.1 survey.questions = id)
    fun other hother => hothers other (List.mem_append_left back hother)
  have hback := filter_owner_eq_nil
    (fun declared => declared.2.trigger declared.1 survey.questions = id)
    fun other hother => hothers other (List.mem_append_right front hother)
  rw [hgroup, declaredRules, hsplit, List.flatMap_append, List.flatMap_cons, List.filter_append,
    List.filter_append, hfront, hback, List.nil_append, List.append_nil, triggeredBy,
    List.filter_map]
  simp [Function.comp_def]

/-- A rule is the match of its group when a walk with some progress evaluates the rules after a
question. -/
def Fires (survey : Survey) (answers : Answers) (strict : Bool) (progress : Progress)
    (id owner : String) (rule : Rule) : Prop :=
  ∃ group ∈ survey.groupsAt id, group.owner = owner ∧
    (firstMatch (some survey.questions) (answers.restrict progress.presented) strict group.rules).2
      = .ok (some rule)

theorem mem_firstMatches_iff {answers : Answers} {strict : Bool} {groups : List RuleGroup}
    {matched : List Rule} (h : (survey.firstMatches answers strict groups).2 = .ok matched)
    {rule : Rule} : rule ∈ matched ↔ ∃ group ∈ groups,
      (firstMatch (some survey.questions) answers strict group.rules).2 = .ok (some rule) := by
  induction groups generalizing matched with
  | nil =>
      cases h
      simp
  | cons group rest ih =>
      rw [firstMatches] at h
      split at h
      · cases h
      · rename_i warnings found hgroup
        dsimp only at h
        cases hrest : (survey.firstMatches answers strict rest).2 with
        | error invalid =>
            rw [hrest] at h
            cases h
        | ok more =>
            rw [hrest] at h
            cases h
            have hfound : (firstMatch (some survey.questions) answers strict group.rules).2
                = .ok found := by rw [hgroup]
            simp only [List.mem_append, ih hrest, List.mem_cons, exists_eq_or_imp, hfound,
              Except.ok.injEq, Option.mem_toList]

/-- What a walk takes up after a question are the matches of the groups there. -/
theorem mem_matchesAt_iff {answers : Answers} {strict : Bool} {progress : Progress}
    {matched : List Rule} (h : (survey.matchesAt answers strict progress id).2 = .ok matched)
    {rule : Rule} :
    rule ∈ matched ↔ ∃ owner, survey.Fires answers strict progress id owner rule := by
  rw [mem_firstMatches_iff h]
  constructor
  · rintro ⟨group, hgroup, hrule⟩
    exact ⟨group.owner, group, hgroup, rfl, hrule⟩
  · rintro ⟨owner, group, hgroup, _, hrule⟩
    exact ⟨group, hgroup, hrule⟩

end Survey

namespace Audit

/-- The members of a class belong with its first element, and no element before that one does. -/
theorem exists_split_of_mem_classes {α : Type} {together : α → α → Bool}
    (htrans : ∀ a b c, together a b = true → together b c = true → together a c = true)
    {xs members : List α} {x : α} (h : x :: members ∈ classes together xs) :
    ∃ front back, xs = front ++ x :: back ∧ (∀ y ∈ front, together y x = false) ∧
      ∀ y ∈ members, together x y = true := by
  fun_induction classes together xs with
  | case1 => cases h
  | case2 head rest ih =>
      rcases List.mem_cons.mp h with hclass | hlater
      · obtain ⟨rfl, rfl⟩ := List.cons.inj hclass
        exact ⟨[], rest, rfl, by simp, fun y hy => (List.mem_filter.mp hy).2⟩
      · obtain ⟨front, back, hsplit, hfront, hmembers⟩ := ih hlater
        rw [apart, List.filter_eq_append_iff] at hsplit
        obtain ⟨early, late, hrest, hearly, hlate⟩ := hsplit
        obtain ⟨between, later, rfl, hbetween, hx, _⟩ := List.filter_eq_cons_iff.mp hlate
        have hapart : together head x = false := by simpa using hx
        refine ⟨head :: (early ++ between), later, by simp [hrest], ?_, hmembers⟩
        -- What was taken out for the class of `head` does not belong with `x`, as `head` does not.
        have htaken (y : α) (hy : together head y = true) : together y x = false := by
          cases hyx : together y x with
          | false => rfl
          | true => rw [htrans head y x hy hyx] at hapart; cases hapart
        intro y hy
        rcases List.mem_cons.mp hy with rfl | hy
        · exact hapart
        · cases hyhead : together head y with
          | true => exact htaken y hyhead
          | false =>
              rcases List.mem_append.mp hy with hmem | hmem
              · exact hfront y (by rw [← hearly]; simp [hmem, hyhead])
              · have := hbetween y hmem
                simp [hyhead] at this

variable {survey : Survey} {first other : DeclaredRule}

theorem sameConditions_iff : sameConditions survey first other = true ↔
    first.trigger survey = other.trigger survey ∧ first.owner = other.owner ∧
      first.rule.junction = other.rule.junction ∧
        first.rule.conditions.Perm other.rule.conditions := by
  rw [← Rule.conditionKey_eq_iff]
  simp [sameConditions, and_assoc]

theorem sameConditions_comm (h : sameConditions survey first other = true) :
    sameConditions survey other first = true := by
  obtain ⟨htrigger, howner, hjunction, hperm⟩ := sameConditions_iff.mp h
  exact sameConditions_iff.mpr ⟨htrigger.symm, howner.symm, hjunction.symm, hperm.symm⟩

theorem sameConditions_trans (a b c : DeclaredRule) (hab : sameConditions survey a b = true)
    (hbc : sameConditions survey b c = true) : sameConditions survey a c = true := by
  obtain ⟨htrigger, howner, hjunction, hperm⟩ := sameConditions_iff.mp hab
  obtain ⟨htrigger', howner', hjunction', hperm'⟩ := sameConditions_iff.mp hbc
  exact sameConditions_iff.mpr ⟨htrigger.trans htrigger', howner.trans howner',
    hjunction.trans hjunction', hperm.trans hperm'⟩

/-- With a rule every other one with the same conditions matches whose target exists. -/
theorem holdsOn_of_sameConditions (hsame : sameConditions survey first other = true)
    (htarget : missingTarget survey first = []) {answers : Answers}
    (h : other.rule.holdsOn survey.questions answers = true) :
    first.rule.holdsOn survey.questions answers = true := by
  obtain ⟨_, _, hjunction, hperm⟩ := sameConditions_iff.mp hsame
  have hknown := (Action.forall_writtenTarget?.mp (missingTarget_eq_nil_iff.mp htarget)).1
  exact Rule.holdsOn_of_perm hjunction hperm hknown h

/-- A finding is reported because several rules share their conditions. -/
def ReportsConflict (survey : Survey) (finding : Finding) (first : DeclaredRule)
    (rest : List DeclaredRule) : Prop :=
  finding ∈ routing survey ∧ finding.code = "CONFLICTING_RULES" ∧
    first :: rest ∈ classes (sameConditions survey) survey.declaredRules ∧
      finding ∈ conflict survey (first :: rest)

theorem exists_reportsConflict {finding : Finding} (hfinding : finding ∈ routing survey)
    (hcode : finding.code = "CONFLICTING_RULES") :
    ∃ first rest, ReportsConflict survey finding first rest := by
  rcases mem_routing_iff.mp hfinding with ⟨declared, _, h⟩ | ⟨declared, _, h⟩ | ⟨id, _, h⟩ | h
  · have hother := code_of_mem_references h
    simp [hcode] at hother
  · have hother := code_of_mem_direction h
    simp [hcode] at hother
  · have hother := code_of_mem_unreachable h
    simp [hcode] at hother
  · obtain ⟨rules, hrules, hconflict⟩ := h
    cases rules with
    | nil => cases hconflict
    | cons first rest => exact ⟨first, rest, hfinding, hcode, hrules, hconflict⟩

section Fires

variable (hids : (survey.declared.map (·.owner)).Nodup) {answers : Answers} {strict : Bool}
  {progress : Progress} {id : String}

include hids

/-- If a rule fires that has the same conditions as one whose target exists, it is that one, unless
such a rule is declared even before that one. -/
theorem eq_first_of_fires {rule : Rule}
    (hfires : survey.Fires answers strict progress id first.owner rule)
    (hsame : sameConditions survey first (first.owner, rule) = true)
    (htarget : missingTarget survey first = []) {front back : List DeclaredRule}
    (hsplit : survey.declaredRules = front ++ first :: back)
    (hfront : ∀ declared ∈ front, sameConditions survey declared first = false) :
    rule = first.rule := by
  obtain ⟨group, hgroup, howner, hmatch⟩ := hfires
  have hfind := find?_of_firstMatch hmatch
  obtain ⟨hholds, before, after, hrules, hbefore⟩ := List.find?_eq_some_iff_append.mp hfind
  have htrigger : first.2.trigger first.1 survey.questions = id := by
    have hrule := (Survey.declared_of_mem_groupsAt hgroup (List.mem_of_find?_eq_some hfind)).2
    rw [howner] at hrule
    exact (sameConditions_iff.mp hsame).1.trans hrule
  have hkept : first.1 = first.owner ∧ first.2.trigger first.1 survey.questions = id :=
    ⟨rfl, htrigger⟩
  have hpairs := Survey.map_rules_of_mem_groupsAt hids hgroup
  rw [hrules, hsplit, howner, List.map_append, List.map_cons, List.filter_append, List.filter_cons,
    if_pos (decide_eq_true hkept)] at hpairs
  rcases eq_or_mem_of_append_cons hpairs with heq | hmem | hmem
  · exact congrArg Prod.snd heq
  · -- `rule` would stand before `first` among the declared rules.
    have hother := hfront _ (List.mem_filter.mp hmem).1
    rw [sameConditions_comm hsame] at hother
    cases hother
  · -- `first` would stand before `rule` in the group, and does not match.
    obtain ⟨passed, hpassed, heq⟩ := List.mem_map.mp hmem
    have hnot := hbefore passed hpassed
    have hfirst := holdsOn_of_sameConditions hsame htarget hholds
    rw [show passed = first.rule from congrArg Prod.snd heq, hfirst] at hnot
    cases hnot

end Fires

/-- Of the rules that are reported because they share their conditions, none but the first is ever
the match of its group, whatever the answers are and whether or not the walk is strict, if the
target of the first is not reported to be missing. -/
theorem only_first_fires {questions : List Question} {survey : Survey}
    (hsurvey : Survey.ofQuestions questions = .valid survey)
    (hids : (questions.map (·.id)).Nodup) :
    (∀ finding ∈ routing survey, finding.code = "CONFLICTING_RULES" →
      ∃ first rest, ReportsConflict survey finding first rest) ∧
    ∀ finding first rest, ReportsConflict survey finding first rest →
      (∀ missing ∈ routing survey, missing.code = "MISSING_TARGET" →
        missing ∉ references survey first) →
      ∀ answers strict progress id rule,
        survey.Fires answers strict progress id first.owner rule →
          ∀ other ∈ rest, rule = other.rule → rule = first.rule := by
  refine ⟨fun finding hfinding hcode => exists_reportsConflict hfinding hcode, ?_⟩
  rintro finding first rest ⟨_, _, hclass, _⟩ hmissing answers strict progress id rule hfires other
    hother rfl
  have howners : (survey.declared.map (·.owner)).Nodup := by
    rw [Survey.declared_map_owner hsurvey, (Survey.ofQuestions_eq_valid_iff.mp hsurvey).1]
    exact hids
  obtain ⟨front, back, hsplit, hfront, hmembers⟩ :=
    exists_split_of_mem_classes sameConditions_trans hclass
  have hsame := hmembers other hother
  have hpair : (first.owner, other.rule) = other := by
    rw [(sameConditions_iff.mp hsame).2.1]
    rfl
  have htarget : missingTarget survey first = [] := by
    have hdeclared : first ∈ survey.declaredRules := by simp [hsplit]
    rw [List.eq_nil_iff_forall_not_mem]
    intro missing hmem
    have href : missing ∈ references survey first := List.mem_append_left _ hmem
    exact hmissing missing (mem_routing_of_mem_references hdeclared href)
      (code_of_mem_missingTarget hmem) href
  rw [← hpair] at hsame
  exact eq_first_of_fires howners hfires hsame htarget hsplit hfront

end Audit

namespace Survey.Sample

def chosen : Condition := ⟨"q1", .includesAny [.text "a", .text "b"] (by simp)⟩

def enough : Condition := ⟨"q2", .order .gte (.number 2)⟩

/-- The second question declares two rules with the same conditions in a different order: one skips
the third question, the other one ends the survey. -/
def sharedConditions : Survey :=
  let questions := [
    { plain "q1" [] with kind := .checkbox },
    { plain "q2" [⟨"r1", [chosen, enough], by simp, .all, .skip "q3"⟩,
      ⟨"r2", [enough, chosen], by simp, .all, .finish false⟩] with kind := .number },
    plain "q3" []]
  ⟨questions, questions.map fun question => ⟨question.id, question.rules⟩⟩

end Survey.Sample

namespace Audit

open Survey.Sample

/-- Of two rules with the same conditions the one that ends the survey never does. -/
theorem only_first_fires_sharedConditions :
    Survey.ofQuestions sharedConditions.questions = .valid sharedConditions ∧
    ∃ finding first other, ReportsConflict sharedConditions finding first [other] ∧
      other.rule.action = .finish false ∧ ∀ answers strict progress id,
        ¬sharedConditions.Fires answers strict progress id first.owner other.rule := by
  have hsurvey : Survey.ofQuestions sharedConditions.questions = .valid sharedConditions := rfl
  let first : DeclaredRule := ("q2", ⟨"r1", [chosen, enough], by simp, .all, .skip "q3"⟩)
  let other : DeclaredRule := ("q2", ⟨"r2", [enough, chosen], by simp, .all, .finish false⟩)
  have hsame : sameConditions sharedConditions first other = true :=
    sameConditions_iff.mpr ⟨rfl, rfl, rfl, List.Perm.swap enough chosen []⟩
  have hclass : [first, other] ∈ classes (sameConditions sharedConditions)
      sharedConditions.declaredRules := by
    change [first, other] ∈ classes (sameConditions sharedConditions) [first, other]
    rw [classes, List.filter_cons, if_pos hsame]
    exact List.mem_cons_self
  have hconflict : conflict sharedConditions [first, other] ≠ [] := by
    simp [conflict, first, other, DeclaredRule.rule]
  obtain ⟨finding, hfinding⟩ := List.exists_mem_of_ne_nil _ hconflict
  have hreports : ReportsConflict sharedConditions finding first [other] :=
    ⟨mem_routing_iff.mpr (Or.inr (Or.inr (Or.inr ⟨_, hclass, hfinding⟩))),
      code_of_mem_conflict hfinding, hclass, hfinding⟩
  have hreferences : references sharedConditions first = [] := by decide
  refine ⟨hsurvey, finding, first, other, hreports, rfl, ?_⟩
  intro answers strict progress id hfires
  have hrule : other.rule = first.rule :=
    (only_first_fires hsurvey (by decide)).2 finding first [other] hreports
      (by simp [hreferences]) answers strict progress id other.rule hfires other
      List.mem_cons_self rfl
  exact absurd (congrArg Rule.action hrule) (by decide)

end Audit

end Questionnaire
