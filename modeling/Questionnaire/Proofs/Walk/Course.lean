import Questionnaire.Proofs.Walk.Replay
import Questionnaire.Proofs.Walk.Turn

/-!
The course of a walk, place by place: the progress and the position with which a walk that passes
unresolvable rules over comes to each place of its path, the rules that match there, and the turn
that they take.
-/

namespace Questionnaire

namespace Walker

variable {survey : Survey} {answers : Answers} {strict : Bool} {progress : Progress}
  {walker : Walker}

/-- A stride goes on from the one before it. -/
theorem strideAt_succ (k : Nat) :
    let last := strideAt survey strict (fun _ => answers) progress walker k
    strideAt survey strict (fun _ => answers) progress walker (k + 1)
      = last.walker.advance survey answers strict last.progress := by
  induction k generalizing progress walker with
  | zero => rfl
  | succ k ih => exact ih

theorem base_strideAt (k : Nat) :
    let stride := strideAt survey strict (fun _ => answers) progress walker k
    stride.walker.base stride.progress = stride.progress := by
  cases k with
  | zero => exact base_advance survey answers strict progress walker
  | succ k =>
      intro stride
      rw [show stride = _ from strideAt_succ k]
      exact base_advance survey answers strict _ _

end Walker

namespace Survey

/-- The rules that match after the question at a place of a path, on the answers to the questions up
to that place. -/
def matchedAt (survey : Survey) (answers : Answers) (path : List String) (place : Nat) :
    List Rule :=
  match path[place]? with
  | some id => survey.matched answers (path.take (place + 1)) id
  | none => []

/-- The turn that a walk takes at a place of its path. -/
def turnAt (survey : Survey) (answers : Answers) (path : List String) (place : Nat) : Turn :=
  Turn.of (path.take (place + 1)) (survey.matchedAt answers path place)

/-- The progress with which a walk comes to a place of its path. -/
def progressAt (survey : Survey) (answers : Answers) : Nat → Progress
  | 0 => .start
  | place + 1 => (survey.strideAt answers place).progress

/-- The position with which a walk comes to a place of its path. -/
def positionAt? (survey : Survey) (answers : Answers) : Nat → Option Nat
  | 0 => survey.nextVisible .start 0
  | place + 1 => (survey.strideAt answers place).walker.position? survey

variable {survey : Survey} {answers : Answers} {ids : List String}

theorem strideAt_eq_presentAt (place : Nat) :
    survey.strideAt answers place = Walker.presentAt survey answers false
      (survey.progressAt answers place) (survey.positionAt? answers place) := by
  cases place with
  | zero => rfl
  | succ place =>
      rw [strideAt, Walker.strideAt_succ, Walker.advance_eq_presentAt, Walker.base_strideAt]
      rfl

namespace Shows

/-- The path so far is what was presented. -/
theorem presented_progressAt (h : survey.Shows answers ids) (place : Nat) :
    (survey.progressAt answers place).presented = ids.take place := by
  cases place with
  | zero => rfl
  | succ place =>
      by_cases hplace : place < ids.length
      · exact (h.strideAt_presents place hplace).presented_eq
      · have hover : ids.length ≤ place := Nat.le_of_not_lt hplace
        rw [List.take_of_length_le (Nat.le_succ_of_le hover)]
        exact (h.strideAt_isOver place hover).presented_eq

/-- A walk comes to the positions of the questions on its path. -/
theorem idAt?_positionAt? (h : survey.Shows answers ids) (place : Nat) :
    (survey.positionAt? answers place).bind survey.idAt? = ids[place]? := by
  cases place with
  | zero => exact h.head_eq.symm.trans List.head?_eq_getElem?
  | succ place =>
      let last := survey.strideAt answers place
      have hbase : last.walker.base last.progress = last.progress := Walker.base_strideAt place
      have hstride : survey.strideAt answers (place + 1)
          = last.walker.advance survey answers false last.progress := Walker.strideAt_succ place
      have hpresented := h.presented_progressAt (place + 1 + 1)
      rw [progressAt, hstride, Walker.advance_presented, hbase, List.take_add_one,
        show last.progress.presented = _ from h.presented_progressAt (place + 1)] at hpresented
      have hnext := congrArg List.head? (List.append_cancel_left hpresented)
      rwa [Option.head?_toList, Option.head?_toList] at hnext

/-- Where a walk comes to a question, it may present it. -/
theorem isVisible_progressAt (h : survey.Shows answers ids) {place position : Nat}
    (hposition : survey.positionAt? answers place = some position) :
    ∃ id, ids[place]? = some id ∧ survey.idAt? position = some id ∧
      survey.isVisible (survey.progressAt answers place) id = true := by
  have hat := h.idAt?_positionAt? place
  rw [hposition, Option.bind_some] at hat
  have hready : ∃ id, survey.idAt? position = some id ∧
      survey.isVisible (survey.progressAt answers place) id = true := by
    cases place with
    | zero => exact Walker.ready_fresh survey .start position hposition
    | succ place =>
        let last := survey.strideAt answers place
        have hbase : last.walker.base last.progress = last.progress := Walker.base_strideAt place
        have hsound : Walker.Sound survey last.progress last.walker :=
          Walker.strideAt_invariant (Walker.Sound survey) false (fun _ => answers)
            (fun _ _ _ hsound => hsound.advance answers) (Walker.sound_fresh survey .start) place
        have hopen := hsound.ready position hposition
        rwa [hbase] at hopen
  obtain ⟨id, hid, hvisible⟩ := hready
  exact ⟨id, hat.symm.trans hid, hid, hvisible⟩

theorem exists_positionAt? (h : survey.Shows answers ids) {place : Nat} {id : String}
    (hid : ids[place]? = some id) :
    ∃ position, survey.positionAt? answers place = some position ∧
      survey.idAt? position = some id ∧
        survey.isVisible (survey.progressAt answers place) id = true := by
  have hat := (h.idAt?_positionAt? place).trans hid
  obtain ⟨position, hposition, _⟩ := Option.bind_eq_some_iff.mp hat
  obtain ⟨same, hsame, hseen, hvisible⟩ := h.isVisible_progressAt hposition
  obtain rfl : same = id := Option.some.inj (hsame.symm.trans hid)
  exact ⟨position, hposition, hseen, hvisible⟩

section Step

variable (h : survey.Shows answers ids) {place position : Nat} {id : String}
  (hid : ids[place]? = some id)

include h hid

theorem take_succ : (survey.progressAt answers place).presented ++ [id] = ids.take (place + 1) := by
  rw [h.presented_progressAt, List.take_add_one, hid]
  rfl

theorem matchedAt_eq : survey.matchedAt answers ids place
    = survey.matchedAfter answers (survey.progressAt answers place) id := by
  rw [matchedAfter, h.take_succ hid, matchedAt, hid]

theorem turnAt_eq : survey.turnAt answers ids place
    = survey.turnAfter answers (survey.progressAt answers place) id := by
  rw [turnAfter, h.take_succ hid, turnAt, h.matchedAt_eq hid]

variable (hposition : survey.positionAt? answers place = some position)

include hposition

/-- A walk does at a place what the rules that match there ask for. -/
theorem strideAt_turn :
    let acted := survey.acted answers (survey.progressAt answers place) id
    let turn := survey.turnAt answers ids place
    let next := turn.next survey acted position
    let stride := survey.strideAt answers place
    stride.progress = turn.opening acted ∧ stride.walker = .ofNext next ∧
      stride.outcome = .ok (some (survey.decisionTo id next
        ((decisive? (survey.matchedAt answers ids place)).map (·.id)))) := by
  have hat := h.idAt?_positionAt? place
  rw [hposition, Option.bind_some, hid] at hat
  have hstride : survey.strideAt answers place
      = Walker.present survey answers false (survey.progressAt answers place) position id := by
    rw [strideAt_eq_presentAt, hposition, Walker.presentAt]
    simp [hat]
  rw [h.turnAt_eq hid, h.matchedAt_eq hid, hstride]
  exact present_turn survey answers (survey.progressAt answers place) position id

theorem progressAt_succ : survey.progressAt answers (place + 1)
    = (survey.turnAt answers ids place).opening
        (survey.acted answers (survey.progressAt answers place) id) :=
  (h.strideAt_turn hid hposition).1

theorem positionAt?_succ : survey.positionAt? answers (place + 1)
    = (survey.turnAt answers ids place).next survey
        (survey.acted answers (survey.progressAt answers place) id) position := by
  rw [positionAt?, (h.strideAt_turn hid hposition).2.1, Walker.position?_ofNext]

end Step

/-- A decision names the rule that was decisive, if any rule matched. -/
theorem decision_ruleId (h : survey.Shows answers ids) {place : Nat} {id : String}
    (hid : ids[place]? = some id) :
    ∃ decision, (survey.walk answers false).decisions[place]? = some decision ∧
      decision.current = some id ∧
        decision.ruleId = (decisive? (survey.matchedAt answers ids place)).map (·.id) := by
  obtain ⟨position, hposition, _⟩ := h.exists_positionAt? hid
  have houtcome := (h.strideAt_turn hid hposition).2.2
  have hdecision : (survey.walk answers false).decisions[place]? = some (survey.decisionTo id
      ((survey.turnAt answers ids place).next survey
        (survey.acted answers (survey.progressAt answers place) id) position)
      ((decisive? (survey.matchedAt answers ids place)).map (·.id))) := by
    rw [Trail.decisions, List.getElem?_map, h.walk_steps, Stride.step?, houtcome]
    rfl
  exact ⟨_, hdecision, rfl, rfl⟩

end Shows

end Survey

end Questionnaire
