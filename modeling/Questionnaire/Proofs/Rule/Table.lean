import Questionnaire.Proofs.Schema.Faultless
import Questionnaire.Proofs.Walk.Replay
import Questionnaire.Proofs.Walk.Trigger

/-!
The table of rules by trigger.  Every rule that is declared is filed once, under its trigger; the
groups under a trigger stand in survey order of the questions that declare them, and the rules of a
group in the order in which they are declared.
-/

namespace Questionnaire

/-- The rules that a question writes down: its own, and last the older skip as a rule that skips the
question itself. -/
def Question.writtenRules (question : Question) : List Rule :=
  question.rules ++ question.legacySkip.toList.map fun skip =>
    ⟨LegacySkip.ruleId question.id, [⟨skip.questionId, .equals skip.answer⟩], by simp, .all,
      .skip question.id⟩

theorem Question.writtenRules_of_declaredRules {question : Question} {rules : List Rule}
    (h : question.declaredRules = .valid rules) : rules = question.writtenRules := by
  rw [declaredRules] at h
  rw [writtenRules]
  cases hskip : question.legacySkip with
  | none =>
      rw [hskip] at h
      cases h
      simp
  | some skip =>
      rw [hskip] at h
      obtain ⟨rule, hrule, hrules⟩ := Validated.map_eq_valid_iff.mp h
      obtain ⟨-, rfl⟩ := (skip.toRule_eq_valid_iff question.id rule).mp hrule
      exact hrules.symm

theorem declaredGroups_eq_map {questions : List Question} {groups : List RuleGroup}
    (h : declaredGroups questions = .valid groups) :
    groups = questions.map fun question => ⟨question.id, question.writtenRules⟩ := by
  induction questions generalizing groups with
  | nil =>
      cases h
      rfl
  | cons question rest ih =>
      obtain ⟨rules, more, hrules, hmore, rfl⟩ := Survey.declaredGroups_cons_iff.mp h
      rw [Question.writtenRules_of_declaredRules hrules, ih hmore, List.map_cons]

/-- What the trigger of a rule is: of the questions that the rule reads the last one in the survey
if all of them exist, and else the question that declares the rule. -/
structure Rule.IsTrigger (rule : Rule) (owner : String) (ids : List String) (trigger : String) :
    Prop where
  last : (∀ condition ∈ rule.conditions, condition.questionId ∈ ids) →
    (∃ source ∈ rule.conditions, source.questionId = trigger)
      ∧ ∀ condition ∈ rule.conditions, ids.idxOf condition.questionId ≤ ids.idxOf trigger
  owner_of_missing : (∃ condition ∈ rule.conditions, condition.questionId ∉ ids) → trigger = owner

theorem isSome_position?_iff_mem {questions : List Question} {id : String} :
    (position? id questions).isSome ↔ id ∈ questions.map (·.id) := by
  rw [position?_isSome_iff, List.mem_map]

/-- Where ids are distinct the position of a question is that of its id. -/
theorem idxOf_of_position? {questions : List Question}
    (hdistinct : (questions.map (·.id)).Nodup) {id : String} {position : Nat}
    (h : position? id questions = some position) :
    (questions.map (·.id)).idxOf id = position := by
  have hat : Survey.idAt? ⟨questions, []⟩ position = some id := Survey.idAt?_of_position? h
  rw [Survey.idAt?, ← List.getElem?_map] at hat
  obtain ⟨hlt, rfl⟩ := List.getElem?_eq_some_iff.mp hat
  exact hdistinct.idxOf_getElem position hlt

theorem Rule.isTrigger_trigger (rule : Rule) (owner : String) {questions : List Question}
    (hdistinct : (questions.map (·.id)).Nodup) :
    rule.IsTrigger owner (questions.map (·.id)) (rule.trigger owner questions) where
  last := by
    intro hknown
    obtain ⟨source, hsource, last, htrigger, hlast, hle⟩ := rule.exists_source_trigger owner
      fun condition hcondition => isSome_position?_iff_mem.mpr (hknown condition hcondition)
    refine ⟨⟨source, hsource, htrigger.symm⟩, fun condition hcondition => ?_⟩
    obtain ⟨position, hposition, hbefore⟩ := hle condition hcondition
    rwa [htrigger, idxOf_of_position? hdistinct hposition, idxOf_of_position? hdistinct hlast]
  owner_of_missing := by
    rintro ⟨condition, hcondition, hmissing⟩
    apply Rule.trigger_eq_owner owner hcondition
    rwa [← Option.not_isSome_iff_eq_none, isSome_position?_iff_mem]

/-- A trigger is a question of the survey if the question that declares the rule is one. -/
theorem Rule.IsTrigger.mem_ids {rule : Rule} {owner trigger : String} {ids : List String}
    (h : rule.IsTrigger owner ids trigger) (howner : owner ∈ ids) : trigger ∈ ids := by
  by_cases hknown : ∀ condition ∈ rule.conditions, condition.questionId ∈ ids
  · obtain ⟨⟨source, hsource, rfl⟩, -⟩ := h.last hknown
    exact hknown source hsource
  · push Not at hknown
    rwa [h.owner_of_missing hknown]

namespace Survey

variable {survey : Survey}

/-- The rules of the table, with the question that they are filed under and the question that
declares them. -/
def filedRules (survey : Survey) : List (String × String × Rule) :=
  survey.ruleTable.flatMap fun (trigger, groups) =>
    groups.flatMap fun group => group.rules.map fun rule => (trigger, group.owner, rule)

theorem mem_groupsAt_iff {id : String} {group : RuleGroup} :
    group ∈ survey.groupsAt id ↔ group.rules ≠ []
      ∧ ∃ declared ∈ survey.declared, declared.owner = group.owner
        ∧ group.rules = survey.triggeredBy id declared := by
  rw [groupsAt, List.mem_filterMap]
  constructor
  · rintro ⟨declared, hdeclared, htriggered⟩
    split at htriggered
    · cases htriggered
    · rename_i rules hne
      cases htriggered
      exact ⟨hne, declared, hdeclared, rfl, rfl⟩
  · rintro ⟨hne, declared, hdeclared, howner, hrules⟩
    refine ⟨declared, hdeclared, ?_⟩
    split
    · rename_i hnone
      exact absurd (hrules.trans hnone) hne
    · rw [howner, ← hrules]

/-- The groups under a trigger hold, one after the other, the declared rules with that trigger. -/
theorem flatMap_groupsAt (survey : Survey) (id : String) :
    ((survey.groupsAt id).flatMap fun group => group.rules.map fun rule => (group.owner, rule))
      = survey.declaredRules.filter fun (owner, rule) =>
        rule.trigger owner survey.questions = id := by
  rw [groupsAt, declaredRules]
  induction survey.declared with
  | nil => rfl
  | cons group rest ih =>
      have hown : (group.rules.map fun rule => (group.owner, rule)).filter
            (fun (owner, rule) => rule.trigger owner survey.questions = id)
          = (survey.triggeredBy id group).map fun rule => (group.owner, rule) := List.filter_map
      rw [List.flatMap_cons, List.filter_append, hown, ← ih, List.filterMap_cons]
      cases survey.triggeredBy id group with
      | nil => rfl
      | cons rule more => rfl

/-- The declaring questions of the groups under a trigger stand in the order of the declared
groups. -/
theorem owners_groupsAt_sublist (survey : Survey) (id : String) :
    ((survey.groupsAt id).map (·.owner)).Sublist (survey.declared.map (·.owner)) := by
  rw [groupsAt]
  induction survey.declared with
  | nil => exact List.Sublist.refl _
  | cons group rest ih =>
      rw [List.filterMap_cons]
      split
      · exact ih.cons _
      · rename_i hkept
        split at hkept
        · cases hkept
        · cases hkept
          exact ih.cons_cons _

variable {questions : List Question} (hsurvey : ofQuestions questions = .valid survey)
  (hdistinct : (questions.map (·.id)).Nodup)

include hsurvey in
theorem declared_eq_map : survey.questions = questions ∧ survey.declared
    = questions.map fun question => ⟨question.id, question.writtenRules⟩ := by
  obtain ⟨hquestions, hdeclared⟩ := ofQuestions_eq_valid_iff.mp hsurvey
  exact ⟨hquestions, declaredGroups_eq_map hdeclared⟩

include hdistinct in
theorem ids_of_nodup (hquestions : survey.questions = questions) :
    survey.ids = questions.map (·.id) := by
  rw [ids, hquestions]
  exact eraseDups_of_nodup hdistinct

include hsurvey hdistinct

/-- Every declared rule is filed once, under its trigger. -/
theorem perm_filedRules : survey.filedRules.Perm (questions.flatMap fun question =>
    question.writtenRules.map fun rule =>
      (rule.trigger question.id questions, question.id, rule)) := by
  obtain ⟨hquestions, hdeclared⟩ := declared_eq_map hsurvey
  let trigger (entry : String × Rule) := entry.2.trigger entry.1 questions
  have hrules : survey.declaredRules = questions.flatMap fun question =>
      question.writtenRules.map fun rule => (question.id, rule) := by
    rw [declaredRules, hdeclared, List.flatMap_map]
  have hknown : ∀ entry ∈ survey.declaredRules, trigger entry ∈ questions.map (·.id) := by
    intro entry hentry
    rw [hrules] at hentry
    obtain ⟨question, hquestion, hentry⟩ := List.mem_flatMap.mp hentry
    obtain ⟨rule, -, rfl⟩ := List.mem_map.mp hentry
    exact (rule.isTrigger_trigger question.id hdistinct).mem_ids (List.mem_map_of_mem hquestion)
  have hfiled : survey.filedRules = ((questions.map (·.id)).flatMap fun id =>
      survey.declaredRules.filter fun entry => trigger entry = id).map
        fun entry => (trigger entry, entry) := by
    rw [filedRules, ruleTable, ids_of_nodup hdistinct hquestions, List.flatMap_map,
      List.map_flatMap]
    refine List.flatMap_congr fun id _ => ?_
    have hgroups := survey.flatMap_groupsAt id
    rw [hquestions] at hgroups
    calc (survey.groupsAt id).flatMap (fun group => group.rules.map fun rule =>
          (id, group.owner, rule))
        = ((survey.groupsAt id).flatMap fun group =>
            group.rules.map fun rule => (group.owner, rule)).map (id, ·) := by
          simp only [List.map_flatMap, List.map_map, Function.comp_def]
      _ = (survey.declaredRules.filter fun entry => trigger entry = id).map (id, ·) := by
          rw [hgroups]
      _ = (survey.declaredRules.filter fun entry => trigger entry = id).map
            fun entry => (trigger entry, entry) := by
          refine List.map_congr_left fun entry hentry => ?_
          rw [of_decide_eq_true (List.mem_filter.mp hentry).2]
  rw [hfiled]
  refine ((perm_flatMap_fibers trigger hdistinct hknown).map _).trans (List.Perm.of_eq ?_)
  simp only [hrules, List.map_flatMap, List.map_map, Function.comp_def, trigger]

/-- The table of rules regroups the declared ones.  It lists the questions in survey order; every
rule that a question writes down is filed once, under its trigger; and the groups under a trigger
are not empty, stand in survey order of the questions that declare them, one for each, and keep the
order in which those write their rules down. -/
theorem ruleTable_regroups : survey.ruleTable.map (·.1) = questions.map (·.id)
    ∧ survey.filedRules.Perm (questions.flatMap fun question =>
        question.writtenRules.map fun rule =>
          (rule.trigger question.id questions, question.id, rule))
    ∧ (∀ question ∈ questions, ∀ rule ∈ question.writtenRules, rule.IsTrigger question.id
        (questions.map (·.id)) (rule.trigger question.id questions))
    ∧ ∀ entry ∈ survey.ruleTable, (entry.2.map (·.owner)).Sublist (questions.map (·.id))
      ∧ ∀ group ∈ entry.2, group.rules ≠ [] ∧ ∃ question ∈ questions, question.id = group.owner
        ∧ group.rules = question.writtenRules.filter
          fun rule => rule.trigger question.id questions = entry.1 := by
  obtain ⟨hquestions, hdeclared⟩ := declared_eq_map hsurvey
  have howners : survey.declared.map (·.owner) = questions.map (·.id) := by
    rw [hdeclared, List.map_map]
    rfl
  refine ⟨?_, perm_filedRules hsurvey hdistinct,
    fun question _ rule _ => rule.isTrigger_trigger question.id hdistinct, ?_⟩
  · rw [ruleTable, List.map_map, ids_of_nodup hdistinct hquestions]
    exact List.map_id _
  · intro entry hentry
    obtain ⟨id, -, rfl⟩ := List.mem_map.mp hentry
    refine ⟨howners ▸ survey.owners_groupsAt_sublist id, fun group hgroup => ?_⟩
    obtain ⟨hne, declared, hmem, howner, hrules⟩ := mem_groupsAt_iff.mp hgroup
    rw [hdeclared] at hmem
    obtain ⟨question, hquestion, rfl⟩ := List.mem_map.mp hmem
    refine ⟨hne, question, hquestion, howner, ?_⟩
    rw [hrules, triggeredBy, hquestions]

omit hsurvey hdistinct

namespace Sample

/-- The first question reads the last one, the second one a question that does not exist; the last
one has an older skip, which reads the first. -/
def crossed : List Question := [
  plain "q1" [⟨"r1", [⟨"q3", .answered⟩, ⟨"q1", .answered⟩], by simp, .any, .reveal "q2"⟩,
    onAnswer "r2" "q1" (.jump "q3")],
  plain "q2" [onAnswer "r3" "missing" (.finish false)],
  { plain "q3" [onAnswer "r4" "q3" (.reveal "q2"), onAnswer "r5" "q1" (.skip "q2")] with
    legacySkip := some ⟨"q1", .text "a"⟩ }]

end Sample

theorem ruleTable_regroups_crossed :
    ∃ survey, ofQuestions Sample.crossed = .valid survey ∧ (Sample.crossed.map (·.id)).Nodup
      ∧ survey.ruleTable.map (fun (id, groups) =>
          (id, groups.map fun group => (group.owner, group.rules.map (·.id))))
        = [("q1", [("q1", ["r2"]), ("q3", ["r5", "legacy-skip-q3"])]), ("q2", [("q2", ["r3"])]),
          ("q3", [("q1", ["r1"]), ("q3", ["r4"])])]
      ∧ survey.filedRules.Perm (Sample.crossed.flatMap fun question =>
          question.writtenRules.map fun rule =>
            (rule.trigger question.id Sample.crossed, question.id, rule)) := by
  have hdistinct : (Sample.crossed.map (·.id)).Nodup := by decide
  exact ⟨_, rfl, hdistinct, by decide, (ruleTable_regroups rfl hdistinct).2.1⟩

end Survey

end Questionnaire
