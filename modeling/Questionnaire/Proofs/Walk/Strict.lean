import Questionnaire.Proofs.Audit.Reference
import Questionnaire.Proofs.Walk.Text

/-!
Strict walks beside walks that pass unresolvable rules over.  Which unresolvable rules are met
depends on the answers: a search ends with the first match of each group.  As long as none is met
the two walks do the same; the strict one stops with the first rule that the other one warns of.
-/

namespace Questionnaire

namespace Warning

/-- Whether the warning is that a rule is left out. -/
def isRuleSkipped : Warning → Bool
  | .ruleSkipped _ _ => true
  | _ => false

/-- The warning is about the rule that cannot be resolved, and tells why. -/
def Names (warning : Warning) (invalid : InvalidRule) : Prop :=
  ∃ ruleId, invalid.ruleId = some ruleId ∧ warning = .ruleSkipped ruleId invalid.reason.message

theorem Names.isRuleSkipped {warning : Warning} {invalid : InvalidRule}
    (h : warning.Names invalid) : warning.isRuleSkipped = true := by
  obtain ⟨ruleId, _, rfl⟩ := h
  rfl

end Warning

/-- What a strict search finds beside one that passes unresolvable rules over: the same without
warnings, or else only the first rule that the other search warns of. -/
inductive StopsBeside {α : Type} :
    List Warning × Except InvalidRule α → List Warning × Except InvalidRule α → Prop where
  | same (outcome : Except InvalidRule α) : StopsBeside ([], outcome) ([], outcome)
  | stopped {warning : Warning} {invalid : InvalidRule} (names : warning.Names invalid)
      (rest : List Warning) (outcome : Except InvalidRule α) :
      StopsBeside ([], .error invalid) (warning :: rest, outcome)

theorem firstMatchBy_strict {attempt : Rule → Except InvalidRule Bool}
    (hnames : ∀ rule invalid, attempt rule = .error invalid → invalid.ruleId = some rule.id)
    (rules : List Rule) :
    StopsBeside (firstMatchBy attempt true rules) (firstMatchBy attempt false rules) := by
  induction rules with
  | nil => exact .same _
  | cons rule rest ih =>
      rw [firstMatchBy, firstMatchBy]
      cases hrule : attempt rule with
      | error invalid => exact .stopped ⟨rule.id, hnames rule invalid hrule, rfl⟩ _ _
      | ok held =>
          cases held with
          | true => exact .same _
          | false => exact ih

theorem firstMatch_strict (questions : List Question) (answers : Answers) (rules : List Rule) :
    StopsBeside (firstMatch (some questions) answers true rules)
      (firstMatch (some questions) answers false rules) := by
  refine firstMatchBy_strict (fun rule invalid herror => ?_) rules
  exact Rule.ruleId_of_resolve ((rule.evaluate_eq_error_iff _ answers invalid).mp herror)

/-- What a search finds is the first rule that can be resolved and holds, even if it is strict. -/
theorem find?_of_firstMatch {questions : List Question} {answers : Answers} {strict : Bool}
    {rules : List Rule} {rule : Rule}
    (h : (firstMatch (some questions) answers strict rules).2 = .ok (some rule)) :
    rules.find? (·.holdsOn questions answers) = some rule := by
  have hlenient := firstMatch_lenient questions answers rules
  cases strict with
  | false => exact Except.ok.inj (hlenient.symm.trans h)
  | true =>
      have hbeside := firstMatch_strict questions answers rules
      generalize firstMatch (some questions) answers true rules = strict at h hbeside
      generalize firstMatch (some questions) answers false rules = lenient at hlenient hbeside
      cases hbeside with
      | same outcome => exact Except.ok.inj (hlenient.symm.trans h)
      | stopped names rest outcome => cases h

/-- A search among rules that can be resolved warns of none. -/
theorem firstMatch_warnings_eq_nil {questions : List Question} {rules : List Rule}
    (hresolve : ∀ rule ∈ rules, ∃ typed, rule.resolve (some questions) = .ok typed)
    (answers : Answers) : (firstMatch (some questions) answers false rules).1 = [] := by
  unfold firstMatch
  induction rules with
  | nil => rfl
  | cons rule rest ih =>
      obtain ⟨typed, htyped⟩ := hresolve rule List.mem_cons_self
      have hrest := ih fun other hother => hresolve other (List.mem_cons_of_mem rule hother)
      rw [firstMatchBy, Rule.evaluate, htyped]
      cases hheld : Rule.joined rule.junction typed answers with
      | true => simp [Except.map, hheld]
      | false => simpa [Except.map, hheld] using hrest

namespace Survey

variable (survey : Survey) (answers : Answers)

theorem firstMatches_strict (groups : List RuleGroup) :
    StopsBeside (survey.firstMatches answers true groups)
      (survey.firstMatches answers false groups) := by
  induction groups with
  | nil => exact .same _
  | cons group rest ih =>
      rw [firstMatches, firstMatches]
      have hgroup := firstMatch_strict survey.questions answers group.rules
      generalize firstMatch (some survey.questions) answers true group.rules = strict at hgroup ⊢
      generalize firstMatch (some survey.questions) answers false group.rules = lenient at hgroup ⊢
      cases hgroup with
      | same outcome =>
          cases outcome with
          | error invalid => exact .same _
          | ok found =>
              dsimp only
              generalize survey.firstMatches answers true rest = strict at ih ⊢
              generalize survey.firstMatches answers false rest = lenient at ih ⊢
              cases ih with
              | same outcome => exact .same _
              | stopped names more outcome => exact .stopped names _ _
      | stopped names more outcome =>
          cases outcome with
          | error invalid => exact .stopped names _ _
          | ok found => exact .stopped names _ _

theorem firstMatches_warnings_eq_nil {groups : List RuleGroup}
    (hresolve : ∀ group ∈ groups, ∀ rule ∈ group.rules,
      ∃ typed, rule.resolve (some survey.questions) = .ok typed) :
    (survey.firstMatches answers false groups).1 = [] := by
  induction groups with
  | nil => rfl
  | cons group rest ih =>
      have hgroup := firstMatch_warnings_eq_nil (hresolve group List.mem_cons_self) answers
      have hrest := ih fun other hother => hresolve other (List.mem_cons_of_mem group hother)
      rw [firstMatches]
      split
      · rename_i warnings invalid hfirst
        rwa [hfirst] at hgroup
      · rename_i warnings found hfirst
        rw [hfirst] at hgroup
        dsimp only at hgroup ⊢
        rw [hgroup, hrest]
        rfl

/-- Where a walk goes on is no matter of unresolvable rules. -/
theorem isRuleSkipped_of_mem_follow (progress : Progress) (current : String) (position : Nat)
    (matched : List Rule) :
    ∀ warning ∈ (survey.follow progress current position matched).1,
      warning.isRuleSkipped = false := by
  intro warning hwarning
  unfold follow at hwarning
  split at hwarning
  · cases hwarning
  · split at hwarning
    · split at hwarning
      · rw [List.mem_singleton.mp hwarning]
        rfl
      · split at hwarning <;> cases hwarning
    · cases hwarning

end Survey

/-- A strict stride beside one that passes unresolvable rules over: the same, without a warning of
an unresolvable rule, or it stops with the rule that the other stride warns of first. -/
def Stride.StopsBeside (strict lenient : Stride) : Prop :=
  (strict = lenient ∧ ∀ warning ∈ lenient.warnings, warning.isRuleSkipped = false) ∨
    ∃ warning invalid, lenient.warnings.head? = some warning ∧ warning.Names invalid ∧
      strict.outcome = .error invalid

namespace Walker

variable (survey : Survey) (answers : Answers) (progress : Progress)

/-- Only the search for matching rules warns of unresolvable ones. -/
theorem isRuleSkipped_of_mem_present (position : Nat) {current : String}
    (hnil : (survey.matchesAt answers false (progress.present current) current).1 = []) :
    ∀ warning ∈ (present survey answers false progress position current).warnings,
      warning.isRuleSkipped = false := by
  unfold present
  dsimp only
  split
  · rename_i warnings invalid hmatches
    rw [hmatches] at hnil
    rw [show warnings = [] from hnil]
    intro warning hwarning
    cases hwarning
  · rename_i warnings matched hmatches
    rw [hmatches] at hnil
    rw [show warnings = [] from hnil]
    have hfollow := survey.isRuleSkipped_of_mem_follow
      ((progress.present current).applyAll matched) current position matched
    split
    · rename_i more invalid hgoes
      rwa [hgoes] at hfollow
    · rename_i more move hgoes
      rwa [hgoes] at hfollow

theorem present_strict (position : Nat) (current : String) :
    (present survey answers true progress position current).StopsBeside
      (present survey answers false progress position current) := by
  have hmatches : StopsBeside (survey.matchesAt answers true (progress.present current) current)
      (survey.matchesAt answers false (progress.present current) current) :=
    survey.firstMatches_strict _ _
  generalize hstrict : survey.matchesAt answers true (progress.present current) current = strict
    at hmatches
  generalize hlenient : survey.matchesAt answers false (progress.present current) current = lenient
    at hmatches
  cases hmatches with
  | same outcome =>
      refine Or.inl ⟨?_, isRuleSkipped_of_mem_present survey answers progress position
        (by rw [hlenient])⟩
      unfold present
      dsimp only
      rw [hstrict, hlenient]
  | @stopped warning invalid names rest outcome =>
      refine Or.inr ⟨warning, invalid, ?_, names, ?_⟩
      · unfold present
        dsimp only
        rw [hlenient]
        cases outcome with
        | error _ => rfl
        | ok matched =>
            dsimp only
            split <;> rfl
      · unfold present
        dsimp only
        rw [hstrict]

theorem advance_strict (walker : Walker) :
    (walker.advance survey answers true progress).StopsBeside
      (walker.advance survey answers false progress) := by
  cases hid : walker.upcoming? survey with
  | none =>
      rw [advance_of_upcoming?_eq_none survey answers true progress hid,
        advance_of_upcoming?_eq_none survey answers false progress hid]
      refine Or.inl ⟨rfl, ?_⟩
      intro warning hwarning
      cases hwarning
  | some id =>
      obtain ⟨position, hposition, hat⟩ := Option.bind_eq_some_iff.mp hid
      rw [advance_of_position? survey answers true progress hposition hat,
        advance_of_position? survey answers false progress hposition hat]
      exact present_strict survey answers (walker.base progress) position id

end Walker

namespace Trail

/-- The number of the first step at which a walk warns of an unresolvable rule. -/
def firstSkip? (trail : Trail) : Option Nat :=
  trail.steps.findIdx? fun step => step.2.any Warning.isRuleSkipped

/-- A strict walk beside one that passes unresolvable rules over: the same if no step of the other
one warns of an unresolvable rule; or else it has the steps before the first one that does, and
stops there with the rule of the warning. -/
def StopsBeside (strict lenient : Trail) : Prop :=
  match lenient.firstSkip? with
  | none => strict = lenient
  | some k => strict.steps = lenient.steps.take k ∧
      ∃ decision warning rest invalid, lenient.steps[k]? = some (decision, warning :: rest) ∧
        warning.Names invalid ∧ strict.failure = some invalid

variable {strict lenient : Trail} {decision : Decision} {warnings : List Warning}

/-- A step without such a warning is the same in both. -/
theorem StopsBeside.cons (h : strict.StopsBeside lenient)
    (hwarnings : ∀ warning ∈ warnings, warning.isRuleSkipped = false) :
    (strict.cons decision warnings).StopsBeside (lenient.cons decision warnings) := by
  have hnone : warnings.any Warning.isRuleSkipped = false := by
    rw [List.any_eq_false]
    intro warning hwarning
    rw [hwarnings warning hwarning]
    exact Bool.false_ne_true
  have hskip : (lenient.cons decision warnings).firstSkip? = lenient.firstSkip?.map (· + 1) := by
    simp [firstSkip?, Trail.cons, List.findIdx?_cons, hnone]
  unfold StopsBeside at h ⊢
  rw [hskip]
  cases hfirst : lenient.firstSkip? with
  | none =>
      rw [hfirst] at h
      exact congrArg (Trail.cons decision warnings) h
  | some k =>
      rw [hfirst] at h
      obtain ⟨hsteps, stop⟩ := h
      refine ⟨?_, stop⟩
      simp [Trail.cons, hsteps]

/-- At the first step with such a warning the strict walk stops. -/
theorem stopsBeside_of_names {progress : Progress} {invalid : InvalidRule} {warning : Warning}
    {rest : List Warning} (hnames : warning.Names invalid) :
    StopsBeside ⟨[], progress, some invalid⟩ (lenient.cons decision (warning :: rest)) := by
  have hskip : (lenient.cons decision (warning :: rest)).firstSkip? = some 0 := by
    simp [firstSkip?, Trail.cons, List.findIdx?_cons, hnames.isRuleSkipped]
  unfold StopsBeside
  rw [hskip]
  exact ⟨rfl, decision, warning, rest, invalid, rfl, hnames, rfl⟩

theorem following_strict (survey : Survey) (answers : Answers) (steps : Nat) (progress : Progress)
    (walker : Walker) :
    (following survey answers true steps progress walker).StopsBeside
      (following survey answers false steps progress walker) := by
  induction steps generalizing progress walker with
  | zero => rfl
  | succ steps ih =>
      have hadvance := walker.advance_strict survey answers progress
      cases hid : walker.upcoming? survey with
      | none =>
          rw [following, following,
            walker.advance_of_upcoming?_eq_none survey answers true progress hid,
            walker.advance_of_upcoming?_eq_none survey answers false progress hid]
          rfl
      | some id =>
          obtain ⟨ruleId, houtcome⟩ := (Walker.advance_lenient survey answers progress hid).2
          rw [following, following]
          generalize walker.advance survey answers true progress = strict at hadvance ⊢
          generalize walker.advance survey answers false progress = lenient at hadvance houtcome ⊢
          rcases hadvance with ⟨rfl, hwarnings⟩ | ⟨warning, invalid, hhead, hnames, herror⟩
          · rw [houtcome]
            exact (ih strict.progress strict.walker).cons hwarnings
          · obtain ⟨rest, hrest⟩ := List.head?_eq_some_iff.mp hhead
            rw [houtcome, herror, hrest]
            exact stopsBeside_of_names hnames

/-- Where no step warns of an unresolvable rule, nothing stops the strict walk. -/
theorem StopsBeside.eq_of_warnings (h : strict.StopsBeside lenient)
    (hwarnings : ∀ warning ∈ lenient.warnings, warning.isRuleSkipped = false) :
    strict = lenient := by
  have hskip : lenient.firstSkip? = none := by
    rw [firstSkip?, List.findIdx?_eq_none_iff]
    intro step hstep
    rw [List.any_eq_false]
    intro warning hwarning
    rw [hwarnings warning (List.mem_flatMap.mpr ⟨step, hstep, hwarning⟩)]
    exact Bool.false_ne_true
  unfold StopsBeside at h
  rwa [hskip] at h

end Trail

namespace Audit

variable {survey : Survey}

/-- No finding is about a reference exactly if the check of references passes every declared
rule. -/
theorem forall_routing_code_iff :
    (∀ finding ∈ routing survey, finding.code ∉ referenceCodes) ↔
      ∀ declared ∈ survey.declaredRules, references survey declared = [] := by
  constructor
  · intro h declared hdeclared
    rw [List.eq_nil_iff_forall_not_mem]
    intro finding hfinding
    exact h finding (mem_routing_of_mem_references hdeclared hfinding)
      (code_of_mem_references hfinding)
  · intro h finding hfinding hcode
    rcases mem_routing_iff.mp hfinding with
      ⟨declared, hdeclared, hof⟩ | ⟨declared, _, hof⟩ | ⟨id, _, hof⟩ | ⟨rules, _, hof⟩
    · rw [h declared hdeclared] at hof
      cases hof
    · have hother := code_of_mem_direction hof
      simp only [List.mem_cons, List.not_mem_nil, or_false] at hother
      rcases hother with hself | hback
      · simp [hself, referenceCodes] at hcode
      · simp [hback, referenceCodes] at hcode
    · simp [code_of_mem_unreachable hof, referenceCodes] at hcode
    · simp [code_of_mem_conflict hof, referenceCodes] at hcode

end Audit

section Resolvable

variable {survey : Survey} (hresolve : ∀ declared ∈ survey.declaredRules,
  ∃ typed, declared.2.resolve (some survey.questions) = .ok typed)

include hresolve

theorem Survey.matchesAt_warnings (answers : Answers) (progress : Progress) (id : String) :
    (survey.matchesAt answers false progress id).1 = [] := by
  apply survey.firstMatches_warnings_eq_nil
  intro group hgroup rule hrule
  exact hresolve _ (Survey.declared_of_mem_groupsAt hgroup hrule).1

/-- Where every declared rule can be resolved, no step warns of an unresolvable one. -/
theorem Trail.following_warnings (answers : Answers) (steps : Nat) (progress : Progress)
    (walker : Walker) :
    ∀ warning ∈ (following survey answers false steps progress walker).warnings,
      warning.isRuleSkipped = false := by
  induction steps generalizing progress walker with
  | zero =>
      intro warning hwarning
      cases hwarning
  | succ steps ih =>
      cases hid : walker.upcoming? survey with
      | none =>
          rw [following, walker.advance_of_upcoming?_eq_none survey answers false progress hid]
          intro warning hwarning
          cases hwarning
      | some id =>
          obtain ⟨position, _, _, hadvance⟩ :=
            walker.advance_of_upcoming?_eq_some survey answers false progress hid
          have hwarnings := Walker.isRuleSkipped_of_mem_present survey answers
            (walker.base progress) position (Survey.matchesAt_warnings hresolve answers _ id)
          obtain ⟨ruleId, houtcome⟩ := (Walker.advance_lenient survey answers progress hid).2
          rw [following, houtcome]
          rw [← hadvance] at hwarnings
          intro warning hwarning
          rcases List.mem_append.mp hwarning with hfirst | hlater
          · exact hwarnings warning hfirst
          · exact ih _ _ warning hlater

end Resolvable

namespace Survey

/-- The strict walk does the same as the one that passes unresolvable rules over, up to the first
step at which that one warns of such a rule, and stops there with the rule.  Where the check of
references has nothing to report, no answers make the other one warn, or the strict walk stop; and
it does not fail where the answers and the values of the rules have texts. -/
theorem strict_walk (survey : Survey) :
    (∀ answers, (survey.walk answers true).StopsBeside (survey.walk answers false)) ∧
    ((∀ finding ∈ Audit.routing survey, finding.code ∉ Audit.referenceCodes) → ∀ answers,
      (∀ warning ∈ (survey.walk answers false).warnings, warning.isRuleSkipped = false) ∧
      (survey.walk answers true).failure = none ∧
      ∀ room, survey.HasTexts room → answers.HasTexts room →
        survey.walkWithin room answers true = .ok (survey.walk answers true)) := by
  have hstops (answers : Answers) :
      (survey.walk answers true).StopsBeside (survey.walk answers false) :=
    Trail.following_strict survey answers _ _ _
  refine ⟨hstops, ?_⟩
  intro hfindings answers
  have hresolve : ∀ declared ∈ survey.declaredRules,
      ∃ typed, declared.2.resolve (some survey.questions) = .ok typed := by
    intro declared hdeclared
    have hnil := Audit.forall_routing_code_iff.mp hfindings declared hdeclared
    exact (Audit.references_eq_nil_iff.mp hnil).1
  have hwarnings : ∀ warning ∈ (survey.walk answers false).warnings,
      warning.isRuleSkipped = false :=
    Trail.following_warnings hresolve answers _ _ _
  refine ⟨hwarnings, ?_, fun room hsurvey hanswers => walkWithin_eq_ok hsurvey hanswers true⟩
  rw [(hstops answers).eq_of_warnings hwarnings]
  exact Walker.following_failure_lenient survey .start .fresh answers _

/-- The references of the survey that skips and reveals are sound, and its rules compare nothing as
text. -/
theorem strict_walk_sample :
    (∀ finding ∈ Audit.routing Sample.survey, finding.code ∉ Audit.referenceCodes) ∧
    Sample.survey.HasTexts 1 ∧ Sample.answers.HasTexts 1 ∧
    (∀ warning ∈ (Sample.survey.walk Sample.answers false).warnings,
      warning.isRuleSkipped = false) ∧
    ∃ trail, Sample.survey.walkWithin 1 Sample.answers true = .ok trail ∧ trail.failure = none := by
  have hfindings : ∀ finding ∈ Audit.routing Sample.survey, finding.code ∉ Audit.referenceCodes :=
    Audit.forall_routing_code_iff.mpr (by decide)
  have hsurvey : Sample.survey.HasTexts 1 := by
    intro declared hdeclared target htarget
    have hnone : ∀ declared ∈ Sample.survey.declaredRules, declared.2.targets = [] := by decide
    rw [hnone declared hdeclared] at htarget
    cases htarget
  have hanswers : Sample.answers.HasTexts 1 := by
    intro entry hentry
    obtain rfl | rfl := List.mem_pair.mp hentry <;> rfl
  obtain ⟨hwarnings, hfailure, hwithin⟩ := (strict_walk Sample.survey).2 hfindings Sample.answers
  exact ⟨hfindings, hsurvey, hanswers, hwarnings, _, hwithin 1 hsurvey hanswers, hfailure⟩

/-- After the first question a rule of no use is met if the question has no answer; with an answer
the rule before it matches. -/
def Sample.shadowed : Survey :=
  let questions := [
    plain "q1" [onAnswer "r1" "q1" (.skip "q2"), onAnswer "r2" "q1" (.jump "missing")],
    plain "q2" []]
  ⟨questions, questions.map fun question => ⟨question.id, question.rules⟩⟩

example : (Sample.shadowed.walk [] true).failure = some ⟨some "r2", .unknownTarget "missing"⟩ ∧
    Sample.shadowed.path [("q1", .str "a")] true = .ok ["q1"] := ⟨rfl, rfl⟩

end Survey

end Questionnaire
