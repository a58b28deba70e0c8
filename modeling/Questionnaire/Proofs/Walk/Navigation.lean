import Questionnaire.Proofs.Walk.Replay

/-!
Going through a survey question by question.  A respondent who asks after every question where to go
on, with the answers given so far, sees the same questions as a walk on all answers.
-/

namespace Questionnaire

/-- The decision after a question is the first one that a walk takes there. -/
theorem Survey.decisionAfter_eq_of_first {current : String}
    {steps : List (Decision × List Warning)} {k : Nat} {decision : Decision}
    {warnings : List Warning} (hstep : steps[k]? = some (decision, warnings))
    (hcurrent : decision.current = some current)
    (hbefore : ∀ j < k, ∀ step, steps[j]? = some step → step.1.current ≠ some current) :
    (decisionAfter current steps).2 = some decision := by
  induction steps generalizing k with
  | nil => cases hstep
  | cons step rest ih =>
      rcases step with ⟨first, before⟩
      rw [decisionAfter]
      cases k with
      | zero =>
          cases hstep
          rw [if_pos hcurrent]
      | succ k =>
          have hfirst : first.current ≠ some current := hbefore 0 (Nat.zero_lt_succ k) _ rfl
          rw [if_neg hfirst]
          exact ih hstep fun j hj step hj' => hbefore (j + 1) (Nat.succ_lt_succ hj) step hj'

namespace Survey

/-- The questions that a respondent comes to who asks after each of them where to go on, at most the
given number of times, with the answers to the questions so far; `before` are those that were left
behind already. -/
def visitedFrom (survey : Survey) (answers : Answers) :
    Nat → List String → Option String → List String
  | steps + 1, before, some current =>
    let sofar := before ++ [current]
    match survey.next (answers.restrict sofar) false current with
    | (_, .ok decision) => current :: visitedFrom survey answers steps sofar decision.next
    | (_, .error _) => [current]
  | _, _, _ => []

/-- The same from the first question on. -/
def visited (survey : Survey) (answers : Answers) (steps : Nat) : List String :=
  survey.visitedFrom answers steps [] survey.firstQuestion?

namespace Shows

variable {survey : Survey} {answers : Answers} {path : List String}

theorem firstQuestion?_eq (h : survey.Shows answers path) :
    survey.firstQuestion? = path.head? :=
  h.head_eq.symm

/-- The strides up to a question are the same on the answers to the questions so far. -/
theorem strideAt_restrict (h : survey.Shows answers path) {j k : Nat} (hjk : j ≤ k)
    (hk : k < path.length) :
    survey.strideAt (answers.restrict (path.take (k + 1))) j = survey.strideAt answers j := by
  have hpresented := (h.strideAt_presents j (Nat.lt_of_le_of_lt hjk hk)).presented_eq
  unfold Survey.strideAt at hpresented ⊢
  apply Walker.strideAt_congr
  intro i _
  rw [hpresented]
  apply (answers.agree_restrict (path.take (k + 1))).mono
  intro id hid
  exact List.take_subset_take_left path (Nat.succ_le_succ hjk) hid

theorem steps_restrict (h : survey.Shows answers path) {j k : Nat} (hjk : j ≤ k)
    (hk : k < path.length) :
    (survey.walk (answers.restrict (path.take (k + 1))) false).steps[j]?
      = (survey.walk answers false).steps[j]? := by
  obtain ⟨seen, hseen⟩ := survey.exists_shows (answers.restrict (path.take (k + 1)))
  rw [hseen.walk_steps, h.walk_steps, h.strideAt_restrict hjk hk]

theorem position?_isSome (h : survey.Shows answers path) {id : String} (hid : id ∈ path) :
    (survey.position? id).isSome := by
  obtain ⟨question, hquestion, hname⟩ := List.mem_map.mp (h.mem_questions id hid)
  exact (position?_isSome_iff id survey.questions).mpr ⟨question, hquestion, hname⟩

/-- Asked for the next question with the answers so far, the survey takes the decision of the walk
on all answers. -/
theorem next_restrict (h : survey.Shows answers path) (k : Nat) (hk : k < path.length) :
    ∃ decision, (survey.walk answers false).decisions[k]? = some decision ∧
      decision.next = path[k + 1]? ∧
      (survey.next (answers.restrict (path.take (k + 1))) false path[k]).2 = .ok decision := by
  obtain ⟨position, hposition⟩ :=
    Option.isSome_iff_exists.mp (h.position?_isSome (List.getElem_mem hk))
  obtain ⟨ruleId, hstep⟩ := (h.strideAt_presents k hk).step?_eq
  have hwalk := h.walk_steps k
  rw [hstep] at hwalk
  refine ⟨⟨some path[k], path[k + 1]?, path[k + 1]?.isNone, ruleId⟩, ?_, rfl, ?_⟩
  · rw [Trail.decisions, List.getElem?_map, hwalk]
    rfl
  · have hlast := (h.steps_restrict (Nat.le_refl k) hk).trans hwalk
    have hbefore : ∀ j < k, ∀ step,
        (survey.walk (answers.restrict (path.take (k + 1))) false).steps[j]? = some step →
          step.1.current ≠ some path[k] := by
      intro j hj step hearlier
      obtain ⟨other, hother⟩ := (h.strideAt_presents j (Nat.lt_trans hj hk)).step?_eq
      rw [h.steps_restrict (Nat.le_of_lt hj) hk, h.walk_steps, hother] at hearlier
      cases hearlier
      intro hsame
      have heq : j = k := (List.getElem_inj h.ids_nodup).mp (Option.some.inj hsame)
      omega
    have hfound := decisionAfter_eq_of_first hlast rfl hbefore
    rw [next, hposition]
    dsimp only
    split
    · rename_i warnings decision hafter
      rw [hafter] at hfound
      exact congrArg Except.ok (Option.some.inj hfound)
    · rename_i warnings hafter
      rw [hafter] at hfound
      cases hfound

/-- Whoever asks often enough comes to the rest of the path, and no further. -/
theorem visitedFrom_eq_drop (h : survey.Shows answers path) (steps k : Nat)
    (hsteps : path.length ≤ k + steps) :
    survey.visitedFrom answers steps (path.take k) path[k]? = path.drop k := by
  induction steps generalizing k with
  | zero =>
      have hend : path.length ≤ k := hsteps
      rw [List.drop_eq_nil_of_le hend]
      rfl
  | succ steps ih =>
      by_cases hk : k < path.length
      · obtain ⟨decision, _, hnext, hdecision⟩ := h.next_restrict k hk
        have hsofar : path.take k ++ [path[k]] = path.take (k + 1) := by simp
        rw [List.getElem?_eq_getElem hk, visitedFrom, hsofar]
        split
        · rename_i warnings found hfound
          rw [hfound] at hdecision
          cases hdecision
          rw [hnext, ih (k + 1) (by omega), List.drop_eq_getElem_cons hk]
        · rename_i warnings error hfound
          rw [hfound] at hdecision
          cases hdecision
      · have hend : path.length ≤ k := Nat.le_of_not_lt hk
        rw [List.getElem?_eq_none hend, List.drop_eq_nil_of_le hend]
        rfl

end Shows

/-- Let a path be walked on all answers, unresolvable rules being passed over.  Its first question
is the first question of the survey; asked for the next question after any of its questions, with
the answers to the path so far, the survey takes the decision of the walk; so whoever asks after
each question, as often as the path is long or more often, comes to the questions of the path and to
no others. -/
theorem live_navigation_agrees (survey : Survey) (answers : Answers) :
    ∃ path, survey.path answers false = .ok path ∧
      survey.firstQuestion? = path[0]? ∧
      (∀ k (hk : k < path.length), ∃ decision,
        (survey.walk answers false).decisions[k]? = some decision ∧
          (survey.next (answers.restrict (path.take (k + 1))) false path[k]).2 = .ok decision) ∧
      ∀ steps, path.length ≤ steps → survey.visited answers steps = path := by
  obtain ⟨path, hshows⟩ := survey.exists_shows answers
  have hfirst : survey.firstQuestion? = path[0]? :=
    hshows.firstQuestion?_eq.trans List.head?_eq_getElem?
  refine ⟨path, hshows.path_eq, hfirst, ?_, ?_⟩
  · intro k hk
    obtain ⟨decision, hdecision, _, hnext⟩ := hshows.next_restrict k hk
    exact ⟨decision, hdecision, hnext⟩
  · intro steps hsteps
    rw [visited, hfirst]
    exact hshows.visitedFrom_eq_drop steps 0 (by omega)

end Survey

end Questionnaire
