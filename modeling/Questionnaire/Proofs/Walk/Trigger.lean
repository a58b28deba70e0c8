import Questionnaire.Proofs.Lists
import Questionnaire.Proofs.Walk.Turn

/-!
Triggers.  A rule whose sources exist is evaluated after the last of them in survey order, and the
groups after a question hold declared rules with that trigger and no others.
-/

namespace Questionnaire

/-- The later one of two entries; of equals the first. -/
def later (best next : Nat × String) : Nat × String := if best.1 < next.1 then next else best

theorem later_spec (best next : Nat × String) :
    (later best next = best ∨ later best next = next) ∧
      best.1 ≤ (later best next).1 ∧ next.1 ≤ (later best next).1 := by
  rw [later]
  split
  · rename_i hlater
    exact ⟨Or.inr rfl, Nat.le_of_lt hlater, Nat.le_refl _⟩
  · rename_i hlater
    exact ⟨Or.inl rfl, Nat.le_refl _, Nat.le_of_not_lt hlater⟩

/-- The latest of an entry and some others is one of them, and none of them is later. -/
theorem foldl_later_spec (rest : List (Nat × String)) (best : Nat × String) :
    (rest.foldl later best = best ∨ rest.foldl later best ∈ rest) ∧
      best.1 ≤ (rest.foldl later best).1 ∧
        ∀ entry ∈ rest, entry.1 ≤ (rest.foldl later best).1 := by
  induction rest generalizing best with
  | nil => simp
  | cons next rest ih =>
      obtain ⟨hone, hbest, hnext⟩ := later_spec best next
      obtain ⟨hmem, hle, hall⟩ := ih (later best next)
      rw [List.foldl_cons]
      refine ⟨?_, Nat.le_trans hbest hle, ?_⟩
      · rcases hmem with hsame | hrest
        · rw [hsame]
          rcases hone with hold | hnew
          · exact Or.inl hold
          · rw [hnew]
            exact Or.inr List.mem_cons_self
        · exact Or.inr (List.mem_cons_of_mem next hrest)
      · intro entry hentry
        rcases List.mem_cons.mp hentry with rfl | hentry
        · exact Nat.le_trans hnext hle
        · exact hall entry hentry

/-- The latest of some entries is one of them, and there is one unless there are none. -/
theorem latest?_spec {entries : List (Nat × String)} (h : entries ≠ []) :
    ∃ position id, latest? entries = some id ∧ (position, id) ∈ entries ∧
      ∀ entry ∈ entries, entry.1 ≤ position := by
  cases entries with
  | nil => exact absurd rfl h
  | cons first rest =>
      obtain ⟨hmem, hfirst, hrest⟩ := foldl_later_spec rest first
      let last := rest.foldl later first
      refine ⟨last.1, last.2, rfl, ?_, ?_⟩
      · rcases hmem with hsame | hmem
        · exact List.mem_cons.mpr (Or.inl hsame)
        · exact List.mem_cons_of_mem first hmem
      · intro entry hentry
        rcases List.mem_cons.mp hentry with rfl | hentry
        · exact hfirst
        · exact hrest entry hentry

/-- The source of a condition with its position, if it exists. -/
def Condition.place? (questions : List Question) (condition : Condition) : Option (Nat × String) :=
  (position? condition.questionId questions).map fun position => (position, condition.questionId)

namespace Rule

theorem trigger_eq (rule : Rule) (owner : String) (questions : List Question) :
    rule.trigger owner questions
      = ((rule.conditions.mapM (Condition.place? questions)).bind latest?).getD owner := rfl

/-- The trigger of a rule whose sources exist is one of them, and none of them comes after it. -/
theorem exists_source_trigger {rule : Rule} (owner : String) {questions : List Question}
    (hsources : ∀ condition ∈ rule.conditions,
      (position? condition.questionId questions).isSome) :
    ∃ source ∈ rule.conditions, ∃ last, rule.trigger owner questions = source.questionId ∧
      position? source.questionId questions = some last ∧
        ∀ condition ∈ rule.conditions,
          ∃ position, position? condition.questionId questions = some position ∧
            position ≤ last := by
  have hplaces : rule.conditions.mapM (Condition.place? questions)
      = some (rule.conditions.filterMap (Condition.place? questions)) := by
    apply mapM_eq_filterMap
    intro condition hcondition
    rw [Condition.place?, Option.isSome_map]
    exact hsources condition hcondition
  have hentry : ∀ condition ∈ rule.conditions,
      ∃ position, position? condition.questionId questions = some position ∧
        (position, condition.questionId)
          ∈ rule.conditions.filterMap (Condition.place? questions) := by
    intro condition hcondition
    obtain ⟨position, hposition⟩ := Option.isSome_iff_exists.mp (hsources condition hcondition)
    refine ⟨position, hposition, List.mem_filterMap.mpr ⟨condition, hcondition, ?_⟩⟩
    rw [Condition.place?, hposition, Option.map_some]
  have hne : rule.conditions.filterMap (Condition.place? questions) ≠ [] := by
    obtain ⟨first, hfirst⟩ := List.exists_mem_of_ne_nil rule.conditions rule.nonempty
    obtain ⟨position, _, hmem⟩ := hentry first hfirst
    exact List.ne_nil_of_mem hmem
  obtain ⟨last, id, hlatest, hmem, hle⟩ := latest?_spec hne
  obtain ⟨source, hmember, hsource⟩ := List.mem_filterMap.mp hmem
  obtain ⟨position, hposition, hpair⟩ := Option.map_eq_some_iff.mp hsource
  cases hpair
  refine ⟨source, hmember, last, ?_, hposition, ?_⟩
  · rw [trigger_eq, hplaces, Option.bind_some, hlatest, Option.getD_some]
  · intro condition hcondition
    obtain ⟨position, hposition, hmem⟩ := hentry condition hcondition
    exact ⟨position, hposition, hle _ hmem⟩

/-- The trigger of a rule whose sources exist is one of the survey's questions, and none of the
sources comes after it. -/
theorem position?_trigger {rule : Rule} (owner : String) {questions : List Question}
    (hsources : ∀ condition ∈ rule.conditions,
      (position? condition.questionId questions).isSome) :
    ∃ last, position? (rule.trigger owner questions) questions = some last ∧
      ∀ condition ∈ rule.conditions,
        ∃ position, position? condition.questionId questions = some position ∧
          position ≤ last := by
  obtain ⟨source, _, last, htrigger, hlast, hle⟩ := exists_source_trigger owner hsources
  exact ⟨last, by rw [htrigger, hlast], hle⟩

/-- A rule that reads a question which does not exist is evaluated after the question that declares
it. -/
theorem trigger_eq_owner {rule : Rule} (owner : String) {questions : List Question}
    {condition : Condition} (hcondition : condition ∈ rule.conditions)
    (hmissing : position? condition.questionId questions = none) :
    rule.trigger owner questions = owner := by
  rw [trigger_eq]
  cases hplaces : rule.conditions.mapM (Condition.place? questions) with
  | none => rfl
  | some places =>
      have hplace := mapM_isSome_members hplaces condition hcondition
      rw [Condition.place?, hmissing] at hplace
      cases hplace

theorem mapM_of_resolve {rule : Rule} {questions : Option (List Question)}
    {typed : List (Condition × Option QuestionKind)} (h : rule.resolve questions = .ok typed) :
    (rule.conditions.mapM fun condition =>
      (condition.resolve questions).map fun kind => (condition, kind)) = .ok typed := by
  rw [resolve] at h
  split at h
  · cases h
  · split at h
    · cases h
    · rename_i hfound
      cases h
      exact hfound

/-- The sources of a rule that can be resolved exist. -/
theorem sources_of_resolve {rule : Rule} {questions : List Question}
    {typed : List (Condition × Option QuestionKind)}
    (h : rule.resolve (some questions) = .ok typed) :
    ∀ condition ∈ rule.conditions, (position? condition.questionId questions).isSome := by
  intro condition hcondition
  obtain ⟨entry, _, hentry⟩ := (mapM_ok_members (mapM_of_resolve h)).1 condition hcondition
  rw [position?_isSome_iff]
  cases hfind : findQuestion? questions condition.questionId with
  | none => simp [Condition.resolve, hfind, Except.map] at hentry
  | some question =>
      have hmem : question ∈ questions.reverse := List.mem_of_find?_eq_some hfind
      have hid := List.find?_some hfind
      exact ⟨question, by simpa using hmem, by simpa using hid⟩

/-- Resolving a rule finds out about its own conditions. -/
theorem mem_conditions_of_resolve {rule : Rule} {questions : Option (List Question)}
    {typed : List (Condition × Option QuestionKind)} (h : rule.resolve questions = .ok typed) :
    ∀ entry ∈ typed, entry.1 ∈ rule.conditions := by
  intro entry hentry
  obtain ⟨condition, hcondition, hok⟩ := (mapM_ok_members (mapM_of_resolve h)).2 entry hentry
  cases hkind : condition.resolve questions with
  | error reason =>
      rw [hkind] at hok
      cases hok
  | ok kind =>
      rw [hkind] at hok
      cases hok
      exact hcondition

/-- What a rule says depends on the answers to its sources alone. -/
theorem evaluate_congr_sources (rule : Rule) (questions : Option (List Question)) {a b : Answers}
    (h : ∀ condition ∈ rule.conditions,
      a.answerTo condition.questionId = b.answerTo condition.questionId) :
    rule.evaluate questions a = rule.evaluate questions b := by
  rw [evaluate, evaluate]
  cases hresolve : rule.resolve questions with
  | error invalid => rfl
  | ok typed =>
      have htests : ∀ entry ∈ typed,
          entry.1.holds entry.2 (a.answerTo entry.1.questionId)
            = entry.1.holds entry.2 (b.answerTo entry.1.questionId) := by
        intro entry hentry
        rw [h entry.1 (mem_conditions_of_resolve hresolve entry hentry)]
      have hsame := List.map_congr_left htests
      have hall := congrArg (List.all · fun held => held) hsame
      have hany := congrArg (List.any · fun held => held) hsame
      simp only [List.all_map, List.any_map] at hall hany
      cases hjunction : rule.junction with
      | all => exact congrArg Except.ok hall
      | any => exact congrArg Except.ok hany

/-- A rule that holds can be resolved. -/
theorem exists_resolve_of_holdsOn {rule : Rule} {questions : List Question} {answers : Answers}
    (h : rule.holdsOn questions answers = true) :
    ∃ typed, rule.resolve (some questions) = .ok typed := by
  cases hresolve : rule.resolve (some questions) with
  | error invalid => simp [holdsOn, evaluate, hresolve, Except.map] at h
  | ok typed => exact ⟨typed, rfl⟩

end Rule

namespace Survey

theorem declaredGroups_cons_iff {question : Question} {rest : List Question}
    {groups : List RuleGroup} :
    declaredGroups (question :: rest) = .valid groups ↔
      ∃ rules more, question.declaredRules = .valid rules ∧ declaredGroups rest = .valid more ∧
        groups = ⟨question.id, rules⟩ :: more := by
  rw [declaredGroups]
  cases question.declaredRules with
  | issues found => simp [Validated.andThen]
  | fault cause => simp [Validated.andThen]
  | valid rules =>
      cases declaredGroups rest with
      | issues found => simp [Validated.andThen, Validated.map]
      | fault cause => simp [Validated.andThen, Validated.map]
      | valid more => simp [Validated.andThen, Validated.map, eq_comm]

/-- Questions make a survey if each of them has its rules. -/
theorem ofQuestions_eq_valid_iff {questions : List Question} {survey : Survey} :
    ofQuestions questions = .valid survey ↔
      survey.questions = questions ∧ declaredGroups questions = .valid survey.declared := by
  rw [ofQuestions]
  cases declaredGroups questions with
  | issues found => simp [Validated.map]
  | fault cause => simp [Validated.map]
  | valid groups =>
      constructor
      · intro h
        cases h
        exact ⟨rfl, rfl⟩
      · rintro ⟨hquestions, hgroups⟩
        cases hgroups
        rw [← hquestions]
        rfl

variable {survey : Survey} {id : String}

/-- The first matching rules, group by group. -/
theorem matched_eq (survey : Survey) (answers : Answers) (presented : List String) (id : String) :
    survey.matched answers presented id = survey.declared.filterMap fun group =>
      (survey.triggeredBy id group).find?
        (·.holdsOn survey.questions (answers.restrict presented)) := by
  unfold matched groupsAt
  rw [List.filterMap_filterMap]
  congr 1
  funext group
  cases survey.triggeredBy id group <;> rfl

/-- The groups after a question hold declared rules that it triggers. -/
theorem declared_of_mem_groupsAt {group : RuleGroup} (hgroup : group ∈ survey.groupsAt id)
    {rule : Rule} (hrule : rule ∈ group.rules) :
    (group.owner, rule) ∈ survey.declaredRules ∧
      rule.trigger group.owner survey.questions = id := by
  obtain ⟨declared, hdeclared, htriggered⟩ := List.mem_filterMap.mp hgroup
  split at htriggered
  · cases htriggered
  · cases htriggered
    have hmem : rule ∈ survey.triggeredBy id declared := hrule
    obtain ⟨hold, htrigger⟩ := List.mem_filter.mp hmem
    refine ⟨?_, by simpa using htrigger⟩
    exact List.mem_flatMap.mpr ⟨declared, hdeclared, List.mem_map.mpr ⟨rule, hold, rfl⟩⟩

/-- The rules that match after a question are declared, can be resolved, and are triggered by the
question. -/
theorem exists_declared_of_mem_matched {answers : Answers} {presented : List String} {rule : Rule}
    (h : rule ∈ survey.matched answers presented id) :
    ∃ owner, (owner, rule) ∈ survey.declaredRules ∧
      rule.trigger owner survey.questions = id ∧
        ∃ typed, rule.resolve (some survey.questions) = .ok typed := by
  obtain ⟨group, hgroup, hfind⟩ := List.mem_filterMap.mp h
  obtain ⟨hdeclared, htrigger⟩ := declared_of_mem_groupsAt hgroup (List.mem_of_find?_eq_some hfind)
  have hholds := List.find?_some hfind
  exact ⟨group.owner, hdeclared, htrigger, Rule.exists_resolve_of_holdsOn hholds⟩

end Survey

end Questionnaire
