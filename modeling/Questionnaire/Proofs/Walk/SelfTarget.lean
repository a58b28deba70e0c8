import Questionnaire.Proofs.Audit.Report
import Questionnaire.Proofs.Rule.Kinds
import Questionnaire.Proofs.Walk.Abreast

/-!
Rules that are reported to target the question that triggers them.  The question has been presented
when such a rule is evaluated, so that the rule itself asks for nothing any more.  Still it is not
without effect.  A question that some rule may reveal is hidden at first, even if only by its own
rule; a matching rule keeps the later ones of its group from being found; and a jump that is not
taken keeps later ends and jumps from being followed.
-/

namespace Questionnaire

namespace Audit

variable {survey : Survey} {declared : DeclaredRule}

/-- A rule is reported to target the question that triggers it. -/
def ReportsSelfTarget (survey : Survey) (declared : DeclaredRule) : Prop :=
  ∃ finding ∈ routing survey, finding.code = "SELF_TARGET" ∧ finding ∈ direction survey declared

theorem reportsSelfTarget_iff (hdeclared : declared ∈ survey.declaredRules) :
    ReportsSelfTarget survey declared ↔
      declared.rule.action.writtenTarget? = some (declared.trigger survey) ∧
        (survey.position? (declared.trigger survey)).isSome := by
  constructor
  · rintro ⟨finding, _, hcode, hfinding⟩
    unfold direction at hfinding
    dsimp only at hfinding
    split at hfinding
    · cases hfinding
    · rename_i target htarget
      split at hfinding
      · rename_i there here _ hhere
        split at hfinding
        · rename_i hself
          exact ⟨hself ▸ htarget, by rw [hhere]; rfl⟩
        · split at hfinding
          · rw [List.mem_singleton.mp hfinding] at hcode
            simp [backwards] at hcode
          · cases hfinding
      · cases hfinding
  · rintro ⟨htarget, hknown⟩
    obtain ⟨here, hhere⟩ := Option.isSome_iff_exists.mp hknown
    have hfinding : selfTarget declared (declared.trigger survey) (declared.trigger survey)
        ∈ direction survey declared := by
      simp [direction, htarget, hhere]
    exact ⟨_, mem_routing_of_mem_direction hdeclared hfinding, rfl, hfinding⟩

end Audit

theorem eq_take_append_cons_drop {α : Type} {xs : List α} {i : Nat} {x : α} (h : xs[i]? = some x) :
    xs = xs.take i ++ x :: xs.drop (i + 1) := by
  obtain ⟨hi, rfl⟩ := List.getElem?_eq_some_iff.mp h
  rw [List.getElem_cons_drop, List.take_append_drop]

theorem filterMap_append_cons {α β : Type} (f : α → Option β) (before after : List α) (x : α) :
    (before ++ x :: after).filterMap f
      = before.filterMap f ++ (f x).toList ++ after.filterMap f := by
  rw [List.filterMap_append, List.filterMap_cons, List.append_assoc]
  cases f x <;> rfl

/-- Without a member that is not accepted the same one is found. -/
theorem find?_append_cons {α : Type} (accept : α → Bool) (before after : List α) (x : α) :
    (before ++ x :: after).find? accept = (before ++ after).find? accept ∨
      accept x = true ∧ (before ++ x :: after).find? accept = some x ∧
        (before ++ after).find? accept = after.find? accept := by
  rw [List.find?_append, List.find?_append]
  cases before.find? accept with
  | some found => exact Or.inl rfl
  | none =>
      cases hx : accept x with
      | false =>
          left
          rw [List.find?_cons_of_neg (by simp [hx])]
      | true => exact Or.inr ⟨rfl, List.find?_cons_of_pos hx, rfl⟩

namespace Question

/-- A question without the declared rule of a number; the older skip comes last. -/
def withoutRule (i : Nat) (question : Question) : Question :=
  if i < question.rules.length then { question with rules := question.rules.eraseIdx i }
  else { question with legacySkip := none }

@[simp] theorem seen_withoutRule (i : Nat) (question : Question) :
    (question.withoutRule i).seen = question.seen := by
  unfold withoutRule
  split <;> rfl

@[simp] theorem id_withoutRule (i : Nat) (question : Question) :
    (question.withoutRule i).id = question.id :=
  congrArg Prod.fst (question.seen_withoutRule i)

theorem declaredRules_withoutRule {question : Question} {rules : List Rule} {i : Nat}
    (h : question.declaredRules = .valid rules) (hi : i < rules.length) :
    (question.withoutRule i).declaredRules = .valid (rules.eraseIdx i) := by
  cases hskip : question.legacySkip with
  | none =>
      have hrules : question.rules = rules := by simpa [declaredRules, hskip] using h
      simp [declaredRules, withoutRule, hskip, hrules, hi]
  | some skip =>
      cases hrule : skip.toRule question.id with
      | issues found => simp [declaredRules, hskip, hrule, Validated.map] at h
      | fault cause => simp [declaredRules, hskip, hrule, Validated.map] at h
      | valid rule =>
          have hrules : question.rules ++ [rule] = rules := by
            simpa [declaredRules, hskip, hrule, Validated.map] using h
          subst hrules
          by_cases hown : i < question.rules.length
          · simp [declaredRules, withoutRule, hskip, hrule, hown, Validated.map,
              List.eraseIdx_append_of_lt_length]
          · obtain rfl : i = question.rules.length := by
              rw [List.length_append, List.length_singleton] at hi
              omega
            simp [declaredRules, withoutRule, List.eraseIdx_append_of_length_le]

end Question

def RuleGroup.withoutRule (i : Nat) (group : RuleGroup) : RuleGroup :=
  ⟨group.owner, group.rules.eraseIdx i⟩

namespace Survey

/-- A survey without one of its declared rules, given by the places of the question that declares it
and of the rule among the rules of the question. -/
def withoutRule (place i : Nat) (survey : Survey) : Survey where
  questions := survey.questions.modify place (Question.withoutRule i)
  declared := survey.declared.modify place (RuleGroup.withoutRule i)

theorem declaredGroups_withoutRule {questions : List Question} {groups : List RuleGroup}
    (h : declaredGroups questions = .valid groups) {place i : Nat} {group : RuleGroup}
    (hgroup : groups[place]? = some group) (hi : i < group.rules.length) :
    declaredGroups (questions.modify place (Question.withoutRule i))
      = .valid (groups.modify place (RuleGroup.withoutRule i)) := by
  induction questions generalizing groups place with
  | nil =>
      cases h
      cases hgroup
  | cons question rest ih =>
      obtain ⟨rules, more, hrules, hmore, rfl⟩ := declaredGroups_cons_iff.mp h
      cases place with
      | zero =>
          cases hgroup
          rw [List.modify_zero_cons, List.modify_zero_cons, declaredGroups_cons_iff]
          refine ⟨rules.eraseIdx i, more, Question.declaredRules_withoutRule hrules hi, hmore, ?_⟩
          rw [Question.id_withoutRule]
          rfl
      | succ place =>
          rw [List.modify_succ_cons, List.modify_succ_cons, declaredGroups_cons_iff]
          exact ⟨rules, _, hrules, ih hmore hgroup, rfl⟩

/-- Taking a rule away from its question takes it out of the survey. -/
theorem ofQuestions_withoutRule {questions : List Question} {survey : Survey}
    (h : ofQuestions questions = .valid survey) {place i : Nat} {group : RuleGroup}
    (hgroup : survey.declared[place]? = some group) (hi : i < group.rules.length) :
    ofQuestions (questions.modify place (Question.withoutRule i))
      = .valid (survey.withoutRule place i) := by
  obtain ⟨hquestions, hgroups⟩ := ofQuestions_eq_valid_iff.mp h
  refine ofQuestions_eq_valid_iff.mpr ⟨?_, declaredGroups_withoutRule hgroups hgroup hi⟩
  rw [withoutRule, hquestions]

/-- Rules see no difference between the questions. -/
theorem map_seen_withoutRule (survey : Survey) (place i : Nat) :
    (survey.withoutRule place i).questions.map Question.seen
      = survey.questions.map Question.seen := by
  apply List.ext_getElem?
  intro position
  rw [List.getElem?_map, List.getElem?_map, withoutRule, List.getElem?_modify]
  cases survey.questions[position]? with
  | none => rfl
  | some question =>
      simp only [Option.map_eq_map, Option.map_some]
      split
      · rw [Question.seen_withoutRule]
      · rfl

/-- The rule that is found among those that one question declares. -/
def foundIn (survey : Survey) (answers : Answers) (presented : List String) (id : String)
    (group : RuleGroup) : Option Rule :=
  (survey.triggeredBy id group).find?
    (·.holdsOn survey.questions (answers.restrict presented))

theorem foundIn_eq (survey : Survey) (answers : Answers) (presented : List String) (id : String)
    (group : RuleGroup) : survey.foundIn answers presented id group = group.rules.find? fun rule =>
      decide (rule.trigger group.owner survey.questions = id)
        && rule.holdsOn survey.questions (answers.restrict presented) := by
  rw [foundIn, triggeredBy, List.find?_filter]
  simp

theorem foundIn_withoutRule (survey : Survey) (place i : Nat) :
    (survey.withoutRule place i).foundIn = survey.foundIn := by
  funext answers presented id group
  have hseen := survey.map_seen_withoutRule place i
  rw [foundIn_eq, foundIn_eq]
  simp only [Rule.trigger_of_kinds hseen, Rule.holdsOn_of_kinds hseen]

section Removal

variable {survey : Survey} {place i : Nat} {group : RuleGroup} {rule : Rule}

/-- Without the rule the same one is found, unless it is found itself; then it is the next one that
holds. -/
theorem foundIn_withoutRule_cases (survey : Survey) (hrule : group.rules[i]? = some rule)
    (answers : Answers) (presented : List String) (id : String) :
    survey.foundIn answers presented id (group.withoutRule i)
        = survey.foundIn answers presented id group ∨
      rule.trigger group.owner survey.questions = id ∧
        rule.holdsOn survey.questions (answers.restrict presented) = true ∧
        survey.foundIn answers presented id group = some rule ∧
        survey.foundIn answers presented id (group.withoutRule i)
          = survey.foundIn answers presented id ⟨group.owner, group.rules.drop (i + 1)⟩ := by
  have hfind := find?_append_cons (fun rule : Rule =>
      decide (rule.trigger group.owner survey.questions = id)
        && rule.holdsOn survey.questions (answers.restrict presented))
    (group.rules.take i) (group.rules.drop (i + 1)) rule
  rw [← eq_take_append_cons_drop hrule, ← List.eraseIdx_eq_take_drop_succ] at hfind
  rw [foundIn_eq, foundIn_eq, foundIn_eq]
  rcases hfind with hsame | ⟨haccept, hfound, hnext⟩
  · exact Or.inl hsame.symm
  · rw [Bool.and_eq_true, decide_eq_true_eq] at haccept
    exact Or.inr ⟨haccept.1, haccept.2, hfound, hnext⟩

variable (hgroup : survey.declared[place]? = some group)

include hgroup

theorem declared_withoutRule : (survey.withoutRule place i).declared
    = survey.declared.take place ++ group.withoutRule i :: survey.declared.drop (place + 1) := by
  obtain ⟨hplace, rfl⟩ := List.getElem?_eq_some_iff.mp hgroup
  exact List.modify_eq_take_cons_drop hplace

theorem matched_split (answers : Answers) (presented : List String) (id : String) :
    survey.matched answers presented id
      = (survey.declared.take place).filterMap (survey.foundIn answers presented id)
        ++ (survey.foundIn answers presented id group).toList
        ++ (survey.declared.drop (place + 1)).filterMap (survey.foundIn answers presented id) := by
  rw [← filterMap_append_cons, ← eq_take_append_cons_drop hgroup]
  exact survey.matched_eq answers presented id

theorem matched_withoutRule (answers : Answers) (presented : List String) (id : String) :
    (survey.withoutRule place i).matched answers presented id
      = (survey.declared.take place).filterMap (survey.foundIn answers presented id)
        ++ (survey.foundIn answers presented id (group.withoutRule i)).toList
        ++ (survey.declared.drop (place + 1)).filterMap (survey.foundIn answers presented id) := by
  rw [← filterMap_append_cons, ← foundIn_withoutRule survey place i, ← declared_withoutRule hgroup]
  exact (survey.withoutRule place i).matched_eq answers presented id

/-- The declared rules are the one that is taken out and those that stay. -/
theorem mem_declaredRules_iff (hrule : group.rules[i]? = some rule) {entry : String × Rule} :
    entry ∈ survey.declaredRules ↔
      entry = (group.owner, rule) ∨ entry ∈ (survey.withoutRule place i).declaredRules := by
  let entries (group : RuleGroup) := group.rules.map fun rule => (group.owner, rule)
  have hsplit : survey.declaredRules = (survey.declared.take place).flatMap entries
      ++ (entries group ++ (survey.declared.drop (place + 1)).flatMap entries) := by
    rw [← List.flatMap_cons, ← List.flatMap_append, ← eq_take_append_cons_drop hgroup]
    rfl
  have hfewer : (survey.withoutRule place i).declaredRules
      = (survey.declared.take place).flatMap entries
        ++ (entries (group.withoutRule i)
          ++ (survey.declared.drop (place + 1)).flatMap entries) := by
    rw [← List.flatMap_cons, ← List.flatMap_append, ← declared_withoutRule hgroup]
    rfl
  have hentries : entries group = (group.rules.take i).map (fun rule => (group.owner, rule))
      ++ (group.owner, rule)
        :: (group.rules.drop (i + 1)).map fun rule => (group.owner, rule) := by
    rw [← List.map_cons, ← List.map_append, ← eq_take_append_cons_drop hrule]
  have hentries' : entries (group.withoutRule i)
      = (group.rules.take i).map (fun rule => (group.owner, rule))
        ++ (group.rules.drop (i + 1)).map fun rule => (group.owner, rule) := by
    rw [← List.map_append, ← List.eraseIdx_eq_take_drop_succ]
    rfl
  rw [hsplit, hfewer, hentries, hentries']
  simp only [List.mem_append, List.mem_cons, or_assoc, or_left_comm]

/-- The same questions are hidden at first if the rule reveals nothing, or nothing that the other
rules do not. -/
theorem sameQuestions_withoutRule (hrule : group.rules[i]? = some rule)
    (hkept : ∀ id, rule.action = .reveal id → (survey.withoutRule place i).isHidden id = true) :
    survey.SameQuestions (survey.withoutRule place i) where
  idAt?_eq := by
    funext position
    have hseen := congrArg (fun seen => (seen[position]?).map Prod.fst)
      (survey.map_seen_withoutRule place i)
    simp only [List.getElem?_map, Option.map_map] at hseen
    exact hseen.symm
  position?_eq := by
    funext id
    exact (position?_of_kinds (survey.map_seen_withoutRule place i) id).symm
  isHidden_eq := by
    funext id
    have hposition : (survey.withoutRule place i).position? id = survey.position? id :=
      position?_of_kinds (survey.map_seen_withoutRule place i) id
    rw [Bool.eq_iff_iff]
    constructor
    · intro hhidden
      obtain ⟨hknown, entry, hentry, haction⟩ := isHidden_iff.mp hhidden
      rcases (mem_declaredRules_iff hgroup hrule).mp hentry with rfl | hstays
      · exact hkept id haction
      · exact isHidden_iff.mpr ⟨by rwa [hposition], entry, hstays, haction⟩
    · intro hhidden
      obtain ⟨hknown, entry, hentry, haction⟩ := isHidden_iff.mp hhidden
      rw [hposition] at hknown
      exact isHidden_iff.mpr
        ⟨hknown, entry, (mem_declaredRules_iff hgroup hrule).mpr (Or.inr hentry), haction⟩

end Removal

/-- Wherever the question that triggers a rule is presented and the rule holds, nothing hangs on the
rule: the later rules of its group that hold take the same action, and if the rule decides where the
walk goes on, all matching rules that do so jump to the presented question. -/
structure StandsAlone (survey : Survey) (answers : Answers) (path : List String)
    (group : RuleGroup) (i : Nat) (rule : Rule) : Prop where
  later_eq : ∀ place, path[place]? = some (rule.trigger group.owner survey.questions) →
    rule.holdsOn survey.questions (answers.restrict (path.take (place + 1))) = true →
      ∀ later ∈ group.rules.drop (i + 1), later.trigger group.owner survey.questions
          = rule.trigger group.owner survey.questions →
        later.holdsOn survey.questions (answers.restrict (path.take (place + 1))) = true →
          later.action = rule.action
  flow_eq : ∀ place, path[place]? = some (rule.trigger group.owner survey.questions) →
    rule.holdsOn survey.questions (answers.restrict (path.take (place + 1))) = true →
      rule.action.isFlow = true → ∀ other ∈ survey.matchedAt answers path place,
        other.action.isFlow = true →
          other.action = .jump (rule.trigger group.owner survey.questions)

section Path

variable {survey : Survey} {answers : Answers} {ids : List String} {place i : Nat}
  {group : RuleGroup} {rule : Rule} (hgroup : survey.declared[place]? = some group)
  (hrule : group.rules[i]? = some rule)

include hgroup hrule

/-- Along the path the rules that match act alike with and without the rule. -/
theorem StandsAlone.actAlike (h : survey.StandsAlone answers ids group i rule)
    (hself : rule.action.writtenTarget? = some (rule.trigger group.owner survey.questions))
    {n : Nat} {id : String} (hid : ids[n]? = some id) :
    ActAlike (ids.take (n + 1)) (survey.matched answers (ids.take (n + 1)) id)
      ((survey.withoutRule place i).matched answers (ids.take (n + 1)) id) := by
  have hmatched := matched_split hgroup answers (ids.take (n + 1)) id
  rw [hmatched, matched_withoutRule hgroup]
  rcases survey.foundIn_withoutRule_cases hrule answers (ids.take (n + 1)) id with
    hsame | ⟨rfl, hholds, hfound, hnext⟩
  · rw [hsame]
    exact .refl _ _
  · have hpresented : rule.trigger group.owner survey.questions ∈ ids.take (n + 1) := by
      rw [List.take_add_one, hid]
      exact List.mem_append_right _ List.mem_cons_self
    have hjumps : rule.action.isFlow = true → ∀ other ∈ survey.matched answers (ids.take (n + 1))
        (rule.trigger group.owner survey.questions), other.action.isFlow = true →
          other.action = .jump (rule.trigger group.owner survey.questions) := by
      intro hflow other hother
      have hat : other ∈ survey.matchedAt answers ids n := by
        rw [matchedAt, hid]
        exact hother
      exact h.flow_eq n hid hholds hflow other hat
    have hlater : ∀ later ∈ (survey.foundIn answers (ids.take (n + 1))
        (rule.trigger group.owner survey.questions) (group.withoutRule i)).toList,
          later.action = rule.action := by
      intro later hmem
      rw [Option.mem_toList, hnext, foundIn_eq] at hmem
      have haccept := List.find?_some hmem
      rw [Bool.and_eq_true, decide_eq_true_eq] at haccept
      exact h.later_eq n hid hholds later (List.mem_of_find?_eq_some hmem) haccept.1 haccept.2
    rw [hmatched, hfound] at hjumps
    rw [hfound]
    exact actAlike_replace hpresented hself hlater hjumps

/-- A rule that is reported to target its own trigger can be taken away without a change of the
path, if the question that it reveals stays hidden at first and nothing else hangs on the rule. -/
theorem path_withoutRule {questions : List Question}
    (hsurvey : ofQuestions questions = .valid survey)
    (hself : Audit.ReportsSelfTarget survey (group.owner, rule))
    (hkept : ∀ id, rule.action = .reveal id → (survey.withoutRule place i).isHidden id = true)
    (hpath : survey.path answers false = .ok ids)
    (halone : survey.StandsAlone answers ids group i rule) :
    ofQuestions (questions.modify place (Question.withoutRule i))
        = .valid (survey.withoutRule place i) ∧
      (survey.withoutRule place i).path answers false = .ok ids := by
  have hi : i < group.rules.length := (List.getElem?_eq_some_iff.mp hrule).1
  have hdeclared : (group.owner, rule) ∈ survey.declaredRules :=
    (mem_declaredRules_iff hgroup hrule).mpr (Or.inl rfl)
  have htarget := ((Audit.reportsSelfTarget_iff hdeclared).mp hself).1
  obtain ⟨shown, hshown⟩ := survey.exists_shows answers
  obtain rfl : ids = shown := Except.ok.inj (hpath.symm.trans hshown.path_eq)
  refine ⟨ofQuestions_withoutRule hsurvey hgroup hi, ?_⟩
  rw [← hpath]
  exact (sameQuestions_withoutRule hgroup hrule hkept).path_eq_of_actAlike hshown
    fun _ _ hid => halone.actAlike hgroup hrule htarget hid

end Path

namespace Sample

/-- A jump to the question that triggers it. -/
def jumpBack : Rule := onAnswer "r1" "q1" (.jump "q1")

/-- The first question jumps to itself, and the third one is skipped after it. -/
def selfJump : Survey :=
  let questions := [
    plain "q1" [jumpBack],
    plain "q2" [onAnswer "r2" "q1" (.skip "q3")],
    plain "q3" []]
  ⟨questions, questions.map fun question => ⟨question.id, question.rules⟩⟩

end Sample

/-- The jump holds but is not taken, and the path is the same without it. -/
theorem path_withoutRule_selfJump :
    Audit.ReportsSelfTarget Sample.selfJump ("q1", Sample.jumpBack) ∧
    Sample.selfJump.path Sample.answers false = .ok ["q1", "q2"] ∧
    (Sample.selfJump.withoutRule 0 0).path Sample.answers false = .ok ["q1", "q2"] := by
  have hsurvey : ofQuestions Sample.selfJump.questions = .valid Sample.selfJump := rfl
  have hgroup : Sample.selfJump.declared[0]? = some ⟨"q1", [Sample.jumpBack]⟩ := rfl
  have hself : Audit.ReportsSelfTarget Sample.selfJump ("q1", Sample.jumpBack) :=
    (Audit.reportsSelfTarget_iff (by decide)).mpr (by decide)
  have hkept : ∀ id, Sample.jumpBack.action = .reveal id →
      (Sample.selfJump.withoutRule 0 0).isHidden id = true := by
    intro id hreveals
    cases hreveals
  have hpath : Sample.selfJump.path Sample.answers false = .ok ["q1", "q2"] := rfl
  have hplace (place : Nat) (h : ["q1", "q2"][place]? = some "q1") : place = 0 := by
    match place with
    | 0 => rfl
    | 1 => exact absurd h (by decide)
    | place + 2 => cases h
  have halone : Sample.selfJump.StandsAlone Sample.answers ["q1", "q2"] ⟨"q1", [Sample.jumpBack]⟩
      0 Sample.jumpBack := by
    constructor
    · intro place _ _ later hlater
      cases hlater
    · intro place hat _ _
      rw [hplace place hat]
      decide
  exact ⟨hself, hpath, (path_withoutRule hgroup rfl hsurvey hself hkept hpath halone).2⟩

namespace Sample

/-- The only question is revealed by its own rule. -/
def selfReveal : Survey :=
  let questions := [plain "q1" [onAnswer "r1" "q1" (.reveal "q1")]]
  ⟨questions, questions.map fun question => ⟨question.id, question.rules⟩⟩

/-- The first question skips itself before another rule would end the survey. -/
def selfSkip : Survey :=
  let questions := [
    plain "q1" [onAnswer "r1" "q1" (.skip "q1"), onAnswer "r2" "q1" (.finish false)],
    plain "q2" []]
  ⟨questions, questions.map fun question => ⟨question.id, question.rules⟩⟩

/-- The first question jumps to itself before a rule of the second one would end the survey. -/
def jumpBeforeEnd : Survey :=
  let questions := [
    plain "q1" [jumpBack],
    plain "q2" [onAnswer "r2" "q1" (.finish false)]]
  ⟨questions, questions.map fun question => ⟨question.id, question.rules⟩⟩

end Sample

/-- A question that only its own rule reveals is never presented; without the rule it is. -/
theorem path_selfReveal :
    Survey.ofQuestions Sample.selfReveal.questions = .valid Sample.selfReveal ∧
    Audit.ReportsSelfTarget Sample.selfReveal ("q1", Sample.onAnswer "r1" "q1" (.reveal "q1")) ∧
    Sample.selfReveal.path [] false = .ok [] ∧
    ∃ fewer, Survey.ofQuestions (Sample.selfReveal.questions.modify 0 (Question.withoutRule 0))
        = .valid fewer ∧ fewer.path [] false = .ok ["q1"] :=
  ⟨rfl, (Audit.reportsSelfTarget_iff (by decide)).mpr (by decide), rfl, _, rfl, rfl⟩

example : Sample.selfSkip.path Sample.answers false = .ok ["q1", "q2"] ∧
    (Sample.selfSkip.withoutRule 0 0).path Sample.answers false = .ok ["q1"] := ⟨rfl, rfl⟩

example : Sample.jumpBeforeEnd.path Sample.answers false = .ok ["q1", "q2"] ∧
    (Sample.jumpBeforeEnd.withoutRule 0 0).path Sample.answers false = .ok ["q1"] := ⟨rfl, rfl⟩

end Survey

end Questionnaire
