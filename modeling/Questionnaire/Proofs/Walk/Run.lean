import Questionnaire.Proofs.Walk.Course

/-!
Runs: what a walk presents from where it stands until it is over, with the rules that its decisions
name.  A run is given by its steps alone, without a bound on their number, so that walks of
different length may be compared step by step.
-/

namespace Questionnaire

/-- What a decision says about where the walk is and why it goes on, leaving out where to. -/
def Decision.route (decision : Decision) : Option String × Option String :=
  (decision.current, decision.ruleId)

namespace Survey

/-- What a walk that passes unresolvable rules over presents from a progress and a position on. -/
inductive Runs (survey : Survey) (answers : Answers) :
    Progress → Option Nat → List (Option String × Option String) → Prop
  | ended (progress : Progress) : Runs survey answers progress none []
  | step {progress : Progress} {position : Nat} {current : String}
      {steps : List (Option String × Option String)}
      (hcurrent : survey.idAt? position = some current)
      (hrest : Runs survey answers
        ((survey.turnAfter answers progress current).opening
          (survey.acted answers progress current))
        ((survey.turnAfter answers progress current).next survey
          (survey.acted answers progress current) position) steps) :
      Runs survey answers progress (some position)
        ((some current,
          (decisive? (survey.matchedAfter answers progress current)).map (·.id)) :: steps)

variable {survey : Survey} {answers : Answers}

/-- There is one run from where a walk stands. -/
theorem Runs.unique {progress : Progress} {next : Option Nat}
    {first second : List (Option String × Option String)}
    (hfirst : survey.Runs answers progress next first)
    (hsecond : survey.Runs answers progress next second) : first = second := by
  induction hfirst generalizing second with
  | ended progress =>
      cases hsecond
      rfl
  | step hcurrent hrest ih =>
      cases hsecond with
      | step hsame hother =>
          cases hcurrent.symm.trans hsame
          rw [ih hother]

namespace Shows

variable {ids : List String}

theorem length_decisions (h : survey.Shows answers ids) :
    (survey.walk answers false).decisions.length = ids.length := by
  have hlength := congrArg List.length h.map_current_decisions
  rwa [List.length_map, List.length_map] at hlength

/-- By induction on the number of questions that are still to come. -/
theorem runs_drop (h : survey.Shows answers ids) (count place : Nat)
    (hplace : place + count = ids.length) :
    survey.Runs answers (survey.progressAt answers place) (survey.positionAt? answers place)
      (((survey.walk answers false).decisions.map Decision.route).drop place) := by
  induction count generalizing place with
  | zero =>
      have hover : survey.positionAt? answers place = none := by
        cases hposition : survey.positionAt? answers place with
        | none => rfl
        | some position =>
            obtain ⟨id, hid, _⟩ := h.isVisible_progressAt hposition
            obtain ⟨hlt, _⟩ := List.getElem?_eq_some_iff.mp hid
            omega
      have hnone : ((survey.walk answers false).decisions.map Decision.route).drop place = [] := by
        rw [List.drop_eq_nil_iff, List.length_map, h.length_decisions]
        omega
      rw [hover, hnone]
      exact .ended _
  | succ count ih =>
      have hlt : place < ids.length := by omega
      have hid := List.getElem?_eq_getElem hlt
      obtain ⟨position, hposition, hat, _⟩ := h.exists_positionAt? hid
      have hrest := ih (place + 1) (by omega)
      rw [h.progressAt_succ hid hposition, h.positionAt?_succ hid hposition,
        h.turnAt_eq hid] at hrest
      obtain ⟨decision, hdecision, hcurrent, hrule⟩ := h.decision_ruleId hid
      obtain ⟨hlength, hget⟩ := List.getElem?_eq_some_iff.mp hdecision
      have hroute : decision.route = (some ids[place], (decisive? (survey.matchedAfter answers
          (survey.progressAt answers place) ids[place])).map (·.id)) := by
        rw [Decision.route, hcurrent, hrule, h.matchedAt_eq hid]
      rw [hposition, List.drop_eq_getElem_cons (by rwa [List.length_map]), List.getElem_map, hget,
        hroute]
      exact .step hat hrest

end Shows

/-- The decisions of a walk that passes unresolvable rules over are a run from its beginning. -/
theorem exists_runs (survey : Survey) (answers : Answers) :
    ∃ decisions, (survey.walk answers false).complete = .ok decisions ∧
      survey.Runs answers .start (survey.nextVisible .start 0) (decisions.map Decision.route) := by
  obtain ⟨ids, hids⟩ := survey.exists_shows answers
  refine ⟨(survey.walk answers false).decisions, ?_, hids.runs_drop ids.length 0 (by omega)⟩
  rw [Trail.complete, walk, Walker.following_failure_lenient]

end Survey

end Questionnaire
