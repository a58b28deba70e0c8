import Questionnaire.Audit.Routing
import Questionnaire.Proofs.Walk.Trigger

/-!
What the checks of the rules of a survey report, and what follows from it.  Each check has codes of
its own, so a finding is traced back to the check that made it by its code.
-/

namespace Questionnaire.Audit

variable {survey : Survey} {declared : DeclaredRule} {finding : Finding}

/-- Every finding comes from one of the four checks. -/
theorem mem_routing_iff : finding ∈ routing survey ↔
    (∃ declared ∈ survey.declaredRules, finding ∈ references survey declared) ∨
    (∃ declared ∈ survey.declaredRules, finding ∈ direction survey declared) ∨
    (∃ id ∈ revealTargets survey, finding ∈ unreachable survey id) ∨
    ∃ rules ∈ classes (sameConditions survey) survey.declaredRules,
      finding ∈ conflict survey rules := by
  simp only [routing, List.mem_append, List.mem_flatMap, or_assoc]

/-- A finding with a code is reported for a rule that jumps. -/
def ReportsJump (survey : Survey) (code : String) : Prop :=
  ∃ finding ∈ routing survey, finding.code = code ∧
    ∃ declared ∈ survey.declaredRules, declared.2.action.kind = .jump ∧
      finding ∈ direction survey declared

/-- Everything that is found about the direction of a declared rule is reported. -/
theorem mem_routing_of_mem_direction (hdeclared : declared ∈ survey.declaredRules)
    (h : finding ∈ direction survey declared) : finding ∈ routing survey := by
  exact mem_routing_iff.mpr (Or.inr (Or.inl ⟨declared, hdeclared, h⟩))

theorem reportsJump_iff {code : String} :
    ReportsJump survey code ↔ ∃ declared ∈ survey.declaredRules, declared.2.action.kind = .jump ∧
      ∃ finding ∈ direction survey declared, finding.code = code := by
  constructor
  · rintro ⟨finding, _, hcode, declared, hdeclared, hkind, hfinding⟩
    exact ⟨declared, hdeclared, hkind, finding, hfinding, hcode⟩
  · rintro ⟨declared, hdeclared, hkind, finding, hfinding, hcode⟩
    exact ⟨finding, mem_routing_of_mem_direction hdeclared hfinding, hcode, declared, hdeclared,
      hkind, hfinding⟩

section Jump

variable (hdeclared : declared ∈ survey.declaredRules) {target : String}
  (haction : declared.2.action = .jump target) {here : Nat}
  (hhere : survey.position? (declared.trigger survey) = some here)

include hdeclared haction hhere

/-- A jump that is not reported to point back has its target at its trigger or behind it. -/
theorem le_of_not_reportsJump {there : Nat} (hthere : survey.position? target = some there)
    (h : ¬ReportsJump survey "BACKWARDS_JUMP") :
    target = declared.trigger survey ∨ here ≤ there := by
  rcases Nat.lt_or_ge there here with hback | hahead
  · left
    apply Classical.byContradiction
    intro hother
    refine h (reportsJump_iff.mpr ⟨declared, hdeclared, by rw [haction]; rfl,
      backwards declared (declared.trigger survey) target, ?_, rfl⟩)
    simp [direction, DeclaredRule.rule, haction, Action.writtenTarget?, Action.target?, hhere,
      hthere, hother, hback]
  · exact Or.inr hahead

/-- A jump that is not reported to point at its trigger points elsewhere. -/
theorem ne_trigger_of_not_reportsJump (h : ¬ReportsJump survey "SELF_TARGET") :
    target ≠ declared.trigger survey := by
  intro hself
  refine h (reportsJump_iff.mpr ⟨declared, hdeclared, by rw [haction]; rfl,
    selfTarget declared (declared.trigger survey) target, ?_, rfl⟩)
  rw [← hself] at hhere
  simp [direction, DeclaredRule.rule, haction, Action.writtenTarget?, Action.target?, hhere,
    ← hself]

end Jump

theorem code_of_mem_missingTarget (h : finding ∈ missingTarget survey declared) :
    finding.code = "MISSING_TARGET" := by
  rw [missingTarget] at h
  split at h
  · cases h
  · split at h
    · cases h
    · rw [List.mem_singleton.mp h]

theorem code_of_mem_references (h : finding ∈ references survey declared) :
    finding.code ∈ ["MISSING_TARGET", "UNKNOWN_CONDITION_QUESTION", "INVALID_OPERATOR"] := by
  rcases List.mem_append.mp h with htarget | hconditions
  · rw [code_of_mem_missingTarget htarget]
    simp
  · obtain ⟨condition, _, hcondition⟩ := List.mem_flatMap.mp hconditions
    rw [badCondition] at hcondition
    split at hcondition
    · rw [List.mem_singleton.mp hcondition]
      simp
    · split at hcondition
      · cases hcondition
      · rw [List.mem_singleton.mp hcondition]
        simp

theorem code_of_mem_direction (h : finding ∈ direction survey declared) :
    finding.code ∈ ["SELF_TARGET", "BACKWARDS_JUMP"] := by
  rw [direction] at h
  split at h
  · cases h
  · split at h
    · split at h
      · rw [List.mem_singleton.mp h]
        simp [selfTarget]
      · split at h
        · rw [List.mem_singleton.mp h]
          simp [backwards]
        · cases h
    · cases h

theorem code_of_mem_conflict {rules : List DeclaredRule} (h : finding ∈ conflict survey rules) :
    finding.code = "CONFLICTING_RULES" := by
  cases rules with
  | nil => cases h
  | cons first rest =>
      rw [conflict] at h
      split at h
      · cases h
      · rw [List.mem_singleton.mp h]

theorem code_of_mem_unreachable {id : String} (h : finding ∈ unreachable survey id) :
    finding.code = "UNREACHABLE_QUESTION" := by
  rw [unreachable] at h
  split at h
  · cases h
  · split at h
    · rw [List.mem_singleton.mp h]
    · cases h

theorem mem_revealTargets_iff {id : String} :
    id ∈ revealTargets survey ↔ (survey.position? id).isSome ∧
      ∃ declared ∈ survey.declaredRules, declared.2.action = .reveal id := by
  rw [revealTargets, List.mem_eraseDups, List.mem_filterMap]
  constructor
  · rintro ⟨⟨owner, rule⟩, hdeclared, htarget⟩
    dsimp only at htarget
    split at htarget
    · rename_i target haction
      split at htarget
      · rename_i hknown
        cases htarget
        exact ⟨hknown, (owner, rule), hdeclared, haction⟩
      · cases htarget
    · cases htarget
  · rintro ⟨hknown, ⟨owner, rule⟩, hdeclared, haction⟩
    refine ⟨(owner, rule), hdeclared, ?_⟩
    dsimp only at haction ⊢
    rw [haction]
    exact if_pos hknown

theorem mem_revealedFrom {id : String} {trigger : Nat} (hdeclared : declared ∈ survey.declaredRules)
    (haction : declared.2.action = .reveal id)
    (htrigger : survey.position? (declared.trigger survey) = some trigger) :
    trigger ∈ revealedFrom survey id := by
  rw [revealedFrom, List.mem_filterMap]
  exact ⟨declared, List.mem_filter.mpr ⟨hdeclared, by simpa using haction⟩, htrigger⟩

/-- A question that is reported to be unreachable is hidden at first, and every rule that reveals it
is triggered by a question that does not come before it. -/
theorem unreachable_of_reported (hfinding : finding ∈ routing survey)
    (hcode : finding.code = "UNREACHABLE_QUESTION") {id : String}
    (hid : finding.questionId = some id) :
    survey.isHidden id = true ∧ ∃ position, survey.position? id = some position ∧
      ∀ trigger ∈ revealedFrom survey id, position ≤ trigger := by
  have htarget : ∃ target ∈ revealTargets survey, finding ∈ unreachable survey target := by
    rcases mem_routing_iff.mp hfinding with ⟨declared, _, h⟩ | ⟨declared, _, h⟩ | h | ⟨rules, _, h⟩
    · have hother := code_of_mem_references h
      simp [hcode] at hother
    · have hother := code_of_mem_direction h
      simp [hcode] at hother
    · exact h
    · have hother := code_of_mem_conflict h
      simp [hcode] at hother
  obtain ⟨target, htarget, hunreachable⟩ := htarget
  have hhidden : survey.isHidden target = true :=
    Survey.isHidden_iff.mpr (mem_revealTargets_iff.mp htarget)
  rw [unreachable] at hunreachable
  split at hunreachable
  · cases hunreachable
  · rename_i position hposition
    split at hunreachable
    · rename_i hlate
      rw [List.mem_singleton.mp hunreachable] at hid
      obtain rfl : target = id := Option.some.inj hid
      refine ⟨hhidden, position, hposition, ?_⟩
      intro trigger htrigger
      simpa using List.all_eq_true.mp hlate trigger htrigger
    · cases hunreachable

end Questionnaire.Audit
