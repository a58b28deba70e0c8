import Questionnaire.Proofs.Walk.Termination
import Questionnaire.Survey.Path

/-!
Complete walks, stride by stride.  The trail of a walk lists what its strides yield, and it is never
cut short: there are more strides than questions.
-/

namespace Questionnaire

/-- What a stride adds to a trail. -/
def Stride.step? (stride : Stride) : Option (Decision × List Warning) :=
  match stride.outcome with
  | .ok (some decision) => some (decision, stride.warnings)
  | _ => none

theorem Stride.Presents.step?_eq {stride : Stride} {id : String} {next : Option String}
    {presented : List String} (h : stride.Presents id next presented) :
    ∃ ruleId, stride.step? = some (⟨some id, next, next.isNone, ruleId⟩, stride.warnings) := by
  obtain ⟨ruleId, houtcome⟩ := h.outcome_eq
  exact ⟨ruleId, by rw [Stride.step?, houtcome]⟩

theorem Stride.IsOver.step?_eq {stride : Stride} {presented : List String}
    (h : stride.IsOver presented) : stride.step? = none := by
  rw [Stride.step?, h.outcome_eq]

namespace Walker

variable {survey : Survey} {progress : Progress} {walker : Walker}

theorem presented_subset_strideAt (strict : Bool) (answersAt : Nat → Answers) (k : Nat) :
    ∀ id ∈ (walker.base progress).presented,
      id ∈ (strideAt survey strict answersAt progress walker k).progress.presented := by
  intro id hid
  have hfirst : id ∈ (walker.advance survey (answersAt 0) strict progress).progress.presented := by
    rw [advance_presented]
    exact List.mem_append_left _ hid
  induction k generalizing answersAt progress walker with
  | zero => exact hfirst
  | succ k ih =>
      have hbase : id ∈ ((walker.advance survey (answersAt 0) strict progress).walker.base
          (walker.advance survey (answersAt 0) strict progress).progress).presented := by
        rw [base_advance]
        exact hfirst
      apply ih (fun i => answersAt (i + 1)) hbase
      rw [advance_presented]
      exact List.mem_append_left _ hbase

/-- The strides up to one depend on the answers to the questions presented by then alone. -/
theorem strideAt_congr (strict : Bool) (k : Nat) {a b : Nat → Answers}
    (h : ∀ i ≤ k, Answers.Agree (strideAt survey strict a progress walker k).progress.presented
      (a i) (b i)) :
    strideAt survey strict b progress walker k = strideAt survey strict a progress walker k := by
  induction k generalizing a b progress walker with
  | zero => exact advance_congr survey strict progress walker (h 0 (Nat.le_refl 0))
  | succ k ih =>
      let first := walker.advance survey (a 0) strict progress
      let last := strideAt survey strict (fun i => a (i + 1)) first.progress first.walker k
      have hsub : ∀ id ∈ (first.walker.base first.progress).presented,
          id ∈ last.progress.presented := presented_subset_strideAt strict _ k
      rw [base_advance survey (a 0) strict progress walker] at hsub
      have hfirst : walker.advance survey (b 0) strict progress = first :=
        advance_congr survey strict progress walker ((h 0 (Nat.zero_le _)).mono hsub)
      rw [strideAt, hfirst]
      exact ih fun i hi => h (i + 1) (Nat.succ_le_succ hi)

/-- A stride that yields no decision ends the walk. -/
theorem advance_walker_eq_done (survey : Survey) (answers : Answers) (strict : Bool)
    (progress : Progress) (walker : Walker)
    (h : (walker.advance survey answers strict progress).step? = none) :
    (walker.advance survey answers strict progress).walker = .done := by
  cases hupcoming : walker.upcoming? survey with
  | none => rw [advance_of_upcoming?_eq_none survey answers strict progress hupcoming]
  | some id =>
      obtain ⟨position, _, _, hadvance⟩ :=
        advance_of_upcoming?_eq_some survey answers strict progress hupcoming
      rw [hadvance] at h ⊢
      rcases present_cases survey answers strict (walker.base progress) position id with
        ⟨_, _, hdone, _⟩ | ⟨move, _, _, _, houtcome⟩
      · exact hdone
      · rw [Stride.step?, houtcome] at h
        cases h

theorem strideAt_walker_eq_done (strict : Bool) (answersAt : Nat → Answers) (k : Nat)
    (h : (strideAt survey strict answersAt progress walker k).step? = none) :
    (strideAt survey strict answersAt progress walker k).walker = .done := by
  induction k generalizing answersAt progress walker with
  | zero => exact advance_walker_eq_done survey (answersAt 0) strict progress walker h
  | succ k ih => exact ih (fun i => answersAt (i + 1)) h

variable (survey progress walker) (answers : Answers) (strict : Bool)

theorem following_of_step?_eq_none (steps : Nat)
    (h : (walker.advance survey answers strict progress).step? = none) :
    let trail := Trail.following survey answers strict (steps + 1) progress walker
    trail.steps = [] ∧
      trail.progress = (walker.advance survey answers strict progress).progress := by
  unfold Stride.step? at h
  unfold Trail.following
  dsimp only
  split
  · exact ⟨rfl, rfl⟩
  · exact ⟨rfl, rfl⟩
  · rename_i decision houtcome
    rw [houtcome] at h
    cases h

theorem following_of_step?_eq_some (steps : Nat) {decision : Decision} {warnings : List Warning}
    (h : (walker.advance survey answers strict progress).step? = some (decision, warnings)) :
    let stride := walker.advance survey answers strict progress
    Trail.following survey answers strict (steps + 1) progress walker
      = (Trail.following survey answers strict steps stride.progress stride.walker).cons
          decision warnings := by
  unfold Stride.step? at h
  rw [Trail.following]
  dsimp only
  split
  · rename_i invalid houtcome
    rw [houtcome] at h
    cases h
  · rename_i houtcome
    rw [houtcome] at h
    cases h
  · rename_i yielded houtcome
    rw [houtcome] at h
    cases h
    rfl

/-- The trail of a walk lists what its strides yield. -/
theorem following_steps (steps k : Nat) :
    (Trail.following survey answers strict steps progress walker).steps[k]?
      = if k < steps then (strideAt survey strict (fun _ => answers) progress walker k).step?
        else none := by
  induction steps generalizing progress walker k with
  | zero => simp [Trail.following]
  | succ steps ih =>
      cases hstep : (walker.advance survey answers strict progress).step? with
      | none =>
          have hdone := advance_walker_eq_done survey answers strict progress walker hstep
          rw [(following_of_step?_eq_none survey progress walker answers strict steps hstep).1]
          cases k with
          | zero => simp [strideAt, hstep]
          | succ k =>
              rw [strideAt, hdone, strideAt_done]
              simp [Stride.step?]
      | some entry =>
          rw [following_of_step?_eq_some survey progress walker answers strict steps hstep]
          cases k with
          | zero => simp [Trail.cons, strideAt, hstep]
          | succ k =>
              have hlater := ih (walker.advance survey answers strict progress).progress
                (walker.advance survey answers strict progress).walker k
              simpa [Trail.cons, strideAt] using hlater

/-- The progress that a walk leaves behind is that of its last stride. -/
theorem following_progress (steps : Nat) :
    (Trail.following survey answers strict (steps + 1) progress walker).progress
      = (strideAt survey strict (fun _ => answers) progress walker steps).progress := by
  induction steps generalizing progress walker with
  | zero =>
      cases hstep : (walker.advance survey answers strict progress).step? with
      | none => exact (following_of_step?_eq_none survey progress walker answers strict 0 hstep).2
      | some entry =>
          rw [following_of_step?_eq_some survey progress walker answers strict 0 hstep]
          rfl
  | succ steps ih =>
      cases hstep : (walker.advance survey answers strict progress).step? with
      | none =>
          have hdone := advance_walker_eq_done survey answers strict progress walker hstep
          rw [(following_of_step?_eq_none survey progress walker answers strict _ hstep).2,
            strideAt, hdone, strideAt_done]
      | some entry =>
          rw [following_of_step?_eq_some survey progress walker answers strict _ hstep]
          exact ih _ _

/-- A walk that passes unresolvable rules over is never stopped. -/
theorem following_failure_lenient (steps : Nat) :
    (Trail.following survey answers false steps progress walker).failure = none := by
  induction steps generalizing progress walker with
  | zero => rfl
  | succ steps ih =>
      rw [Trail.following]
      cases hid : walker.upcoming? survey with
      | none => rw [advance_of_upcoming?_eq_none survey answers false progress hid]
      | some id =>
          obtain ⟨ruleId, houtcome⟩ := (advance_lenient survey answers progress hid).2
          rw [houtcome]
          exact ih _ _

end Walker

namespace Survey

/-- The stride of a given number of a walk that passes unresolvable rules over. -/
def strideAt (survey : Survey) (answers : Answers) (k : Nat) : Stride :=
  Walker.strideAt survey false (fun _ => answers) .start .fresh k

/-- The questions that such a walk presents, in order. -/
def Shows (survey : Survey) (answers : Answers) (ids : List String) : Prop :=
  Walker.Unfolds survey (fun _ => answers) .start .fresh ids

theorem exists_shows (survey : Survey) (answers : Answers) : ∃ ids, survey.Shows answers ids :=
  (Walker.sound_fresh survey .start).exists_unfolds survey.ids.length (fun _ => answers)
    (Nat.le_add_left _ _)

namespace Shows

variable {survey : Survey} {answers : Answers} {ids : List String}

theorem ids_nodup (h : survey.Shows answers ids) : ids.Nodup := h.nodup

theorem mem_questions (h : survey.Shows answers ids) :
    ∀ id ∈ ids, id ∈ survey.questions.map (·.id) := by
  intro id hid
  exact List.mem_eraseDups.mp (h.known id hid)

theorem length_le (h : survey.Shows answers ids) : ids.length ≤ survey.questions.length := by
  have hle := h.ids_nodup.length_le_of_subset h.mem_questions
  rwa [List.length_map] at hle

theorem strideAt_presents (h : survey.Shows answers ids) (k : Nat) (hk : k < ids.length) :
    (survey.strideAt answers k).Presents ids[k] ids[k + 1]? (ids.take (k + 1)) :=
  h.presents k hk

theorem strideAt_isOver (h : survey.Shows answers ids) (k : Nat) (hk : ids.length ≤ k) :
    (survey.strideAt answers k).IsOver ids :=
  h.isOver k hk

/-- What a stride has presented is part of what the walk presents. -/
theorem presented_subset (h : survey.Shows answers ids) (k : Nat) :
    ∀ id ∈ (survey.strideAt answers k).progress.presented, id ∈ ids := by
  intro id hid
  by_cases hk : k < ids.length
  · rw [(h.strideAt_presents k hk).presented_eq] at hid
    exact List.mem_of_mem_take hid
  · rw [(h.strideAt_isOver k (Nat.le_of_not_lt hk)).presented_eq] at hid
    exact hid

/-- There are more strides than questions, so no decision is cut off. -/
theorem walk_steps (h : survey.Shows answers ids) (k : Nat) :
    (survey.walk answers false).steps[k]? = (survey.strideAt answers k).step? := by
  rw [walk, Walker.following_steps]
  by_cases hk : k < survey.questions.length + 1
  · rw [if_pos hk]
    rfl
  · have hlength := h.length_le
    rw [if_neg hk, (h.strideAt_isOver k (by omega)).step?_eq]

/-- A walk yields one decision for each question that it presents: to go on with the following one,
or to end after the last. -/
theorem decisions_eq (h : survey.Shows answers ids) (k : Nat) (hk : k < ids.length) :
    ∃ ruleId, (survey.walk answers false).decisions[k]?
      = some ⟨some ids[k], ids[k + 1]?, ids[k + 1]?.isNone, ruleId⟩ := by
  obtain ⟨ruleId, hstep⟩ := (h.strideAt_presents k hk).step?_eq
  refine ⟨ruleId, ?_⟩
  rw [Trail.decisions, List.getElem?_map, h.walk_steps, hstep]
  rfl

theorem map_current_decisions (h : survey.Shows answers ids) :
    (survey.walk answers false).decisions.map (·.current) = ids.map some := by
  apply List.ext_getElem?
  intro k
  rw [List.getElem?_map, List.getElem?_map]
  by_cases hk : k < ids.length
  · obtain ⟨ruleId, hdecision⟩ := h.decisions_eq k hk
    rw [hdecision, List.getElem?_eq_getElem hk]
    rfl
  · have hover := (h.strideAt_isOver k (Nat.le_of_not_lt hk)).step?_eq
    rw [Trail.decisions, List.getElem?_map, h.walk_steps, hover,
      List.getElem?_eq_none (Nat.le_of_not_lt hk)]
    rfl

/-- The path of a walk that passes unresolvable rules over always exists. -/
theorem path_eq (h : survey.Shows answers ids) : survey.path answers false = .ok ids := by
  have hcurrent : (survey.walk answers false).decisions.filterMap (·.current) = ids := by
    have hmap := congrArg (List.filterMap id) h.map_current_decisions
    simpa [List.filterMap_map] using hmap
  have hfailure : (survey.walk answers false).failure = none :=
    Walker.following_failure_lenient survey .start .fresh answers _
  rw [path, Trail.path, Trail.complete, hfailure]
  exact congrArg Except.ok hcurrent

end Shows

/-- Walks with the same strides are the same. -/
theorem walk_eq_of_strideAt_eq {survey : Survey} {a b : Answers}
    (h : ∀ k, survey.strideAt a k = survey.strideAt b k) :
    survey.walk a false = survey.walk b false := by
  obtain ⟨ids, hids⟩ := survey.exists_shows a
  obtain ⟨others, hothers⟩ := survey.exists_shows b
  have hsteps : (survey.walk a false).steps = (survey.walk b false).steps := by
    apply List.ext_getElem?
    intro k
    rw [hids.walk_steps, hothers.walk_steps, h]
  have hprogress : (survey.walk a false).progress = (survey.walk b false).progress := by
    rw [walk, walk, Walker.following_progress, Walker.following_progress]
    exact congrArg Stride.progress (h survey.questions.length)
  have hfailure : (survey.walk a false).failure = (survey.walk b false).failure := by
    rw [walk, walk, Walker.following_failure_lenient, Walker.following_failure_lenient]
  calc survey.walk a false
      = ⟨(survey.walk a false).steps, (survey.walk a false).progress,
          (survey.walk a false).failure⟩ := rfl
    _ = survey.walk b false := by rw [hsteps, hprogress, hfailure]

namespace Sample

/-- A text question without settings of its own. -/
def plain (id : String) (rules : List Rule) : Question where
  id
  kind := .text
  prompt := ""
  description := none
  required := false
  options := none
  rowLabels := none
  colLabels := none
  gridKind := .radio
  allowOther := false
  selection := .single
  yesLabel := "Yes"
  noLabel := "No"
  ratingScale := none
  scale := none
  points := none
  likertPoints := none
  min := none
  max := none
  step := none
  minSelections := none
  maxSelections := none
  totalPoints := none
  correctOption := none
  scorable := none
  scoreWeight := none
  category := none
  optionScores := none
  rules
  legacySkip := none
  extras := []

/-- A rule that acts if a question has an answer. -/
def onAnswer (id source : String) (action : Action) : Rule :=
  ⟨id, [⟨source, .answered⟩], by simp, .all, action⟩

/-- The third question is revealed by the first and skipped by the second; the fifth one is revealed
by the third. -/
def survey : Survey :=
  let questions := [
    plain "q1" [onAnswer "r1" "q1" (.reveal "q3")],
    plain "q2" [onAnswer "r2" "q2" (.skip "q3")],
    plain "q3" [onAnswer "r3" "q3" (.reveal "q5")],
    plain "q4" [],
    plain "q5" []]
  ⟨questions, questions.map fun question => ⟨question.id, question.rules⟩⟩

def answers : Answers := [("q1", .str "a"), ("q2", .str "b")]

/-- More answers, to questions that are not on the path. -/
def moreAnswers : Answers := answers ++ [("q3", .str "c"), ("q5", .str "d")]

example : ofQuestions survey.questions = .valid survey := rfl

example : survey.path answers false = .ok ["q1", "q2", "q4"] := rfl

end Sample

end Survey

end Questionnaire
