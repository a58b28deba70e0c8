import Questionnaire.Proofs.Walk.Stride

/-!
A walk always ends.  Its answers may change before each stride: what it has come to is fixed before
they do.  The measure is not the position, since jumps go back, but the number of questions that are
not presented yet.
-/

namespace Questionnaire

/-- A stride that presents a question and yields the decision after it. -/
structure Stride.Presents (stride : Stride) (id : String) (next : Option String)
    (presented : List String) : Prop where
  outcome_eq : ∃ ruleId, stride.outcome = .ok (some ⟨some id, next, next.isNone, ruleId⟩)
  presented_eq : stride.progress.presented = presented

/-- A stride that finds the walk over. -/
structure Stride.IsOver (stride : Stride) (presented : List String) : Prop where
  outcome_eq : stride.outcome = .ok none
  presented_eq : stride.progress.presented = presented

namespace Walker

/-- The strides of a walk by number, with the answers as they are at each of them. -/
def strideAt (survey : Survey) (strict : Bool) (answersAt : Nat → Answers) (progress : Progress)
    (walker : Walker) : Nat → Stride
  | 0 => walker.advance survey (answersAt 0) strict progress
  | k + 1 =>
    let first := walker.advance survey (answersAt 0) strict progress
    strideAt survey strict (fun i => answersAt (i + 1)) first.progress first.walker k

/-- What holds of a walk between two strides: the question that it has come to may be presented, and
questions of the survey were presented, each once. -/
structure Sound (survey : Survey) (progress : Progress) (walker : Walker) : Prop where
  ready : walker.Ready survey progress
  nodup : (walker.base progress).presented.Nodup
  known : ∀ id ∈ (walker.base progress).presented, id ∈ survey.ids

variable {survey : Survey} {progress : Progress} {walker : Walker}

theorem sound_fresh (survey : Survey) (progress : Progress) : Sound survey progress .fresh where
  ready := ready_fresh survey progress
  nodup := List.nodup_nil
  known := by
    intro id hid
    cases hid

namespace Sound

/-- The question that a walk has come to is one of the survey and was not presented. -/
theorem upcoming_fresh (h : Sound survey progress walker) {id : String}
    (hid : walker.upcoming? survey = some id) :
    id ∈ survey.ids ∧ id ∉ (walker.base progress).presented := by
  obtain ⟨position, hposition, hat⟩ := Option.bind_eq_some_iff.mp hid
  obtain ⟨seen, hseen, hvisible⟩ := h.ready position hposition
  have hsame : seen = id := Option.some.inj (hseen.symm.trans hat)
  subst hsame
  constructor
  · obtain ⟨question, hquestion, rfl⟩ := Option.map_eq_some_iff.mp hat
    have hmem : question ∈ survey.questions := List.mem_of_getElem? hquestion
    rw [Survey.ids, List.mem_eraseDups]
    exact List.mem_map.mpr ⟨question, hmem, rfl⟩
  · intro hpresented
    rw [survey.isVisible_presented hpresented] at hvisible
    cases hvisible

theorem presented_append (h : Sound survey progress walker) {id : String}
    (hid : walker.upcoming? survey = some id) :
    ((walker.base progress).presented ++ [id]).Nodup ∧
      ∀ other ∈ (walker.base progress).presented ++ [id], other ∈ survey.ids := by
  obtain ⟨hknown, hfresh⟩ := h.upcoming_fresh hid
  constructor
  · rw [List.nodup_append]
    refine ⟨h.nodup, List.nodup_cons.mpr ⟨List.not_mem_nil, List.nodup_nil⟩, ?_⟩
    intro other hother last hlast heq
    rw [List.mem_singleton] at hlast
    exact hfresh (hlast ▸ heq ▸ hother)
  · intro other hother
    rcases List.mem_append.mp hother with hold | hnew
    · exact h.known other hold
    · rw [List.mem_singleton] at hnew
      exact hnew ▸ hknown

/-- A stride keeps a walk sound. -/
theorem advance (h : Sound survey progress walker) (answers : Answers) :
    let stride := walker.advance survey answers false progress
    Sound survey stride.progress stride.walker := by
  intro stride
  have hbase : stride.walker.base stride.progress = stride.progress :=
    base_advance survey answers false progress walker
  have hpresented : stride.progress.presented
      = (walker.base progress).presented ++ (walker.upcoming? survey).toList :=
    advance_presented survey answers false progress walker
  cases hid : walker.upcoming? survey with
  | none =>
      rw [hid, Option.toList_none, List.append_nil] at hpresented
      refine ⟨?_, ?_, ?_⟩
      · have hover := advance_of_upcoming?_eq_none survey answers false progress hid
        intro position hposition
        rw [show stride.walker = .done from congrArg Stride.walker hover] at hposition
        cases hposition
      · rw [hbase, hpresented]
        exact h.nodup
      · rw [hbase, hpresented]
        exact h.known
  | some id =>
      obtain ⟨hnodup, hknown⟩ := h.presented_append hid
      rw [hid, Option.toList_some] at hpresented
      refine ⟨(advance_lenient survey answers progress hid).1, ?_, ?_⟩
      · rw [hbase, hpresented]
        exact hnodup
      · rw [hbase, hpresented]
        exact hknown

end Sound

/-- What every stride keeps holds all along a walk. -/
theorem strideAt_invariant (Holds : Progress → Walker → Prop) (strict : Bool)
    (answersAt : Nat → Answers)
    (hstep : ∀ i progress walker, Holds progress walker →
      let stride := walker.advance survey (answersAt i) strict progress
      Holds stride.progress stride.walker)
    (h : Holds progress walker) (k : Nat) :
    let stride := strideAt survey strict answersAt progress walker k
    Holds stride.progress stride.walker := by
  induction k generalizing answersAt progress walker with
  | zero => exact hstep 0 progress walker h
  | succ k ih => exact ih (fun i => answersAt (i + 1)) (fun i => hstep (i + 1)) (hstep 0 _ _ h)

/-- A walk that is over stays so. -/
theorem strideAt_done (strict : Bool) (answersAt : Nat → Answers) (k : Nat) :
    strideAt survey strict answersAt progress .done k = ⟨[], progress, .done, .ok none⟩ := by
  induction k generalizing answersAt with
  | zero => rfl
  | succ k ih => exact ih fun i => answersAt (i + 1)

theorem strideAt_of_upcoming?_eq_none (strict : Bool) (answersAt : Nat → Answers)
    (h : walker.upcoming? survey = none) (k : Nat) :
    (strideAt survey strict answersAt progress walker k).IsOver
      (walker.base progress).presented := by
  have hover := advance_of_upcoming?_eq_none survey (answersAt 0) strict progress h
  cases k with
  | zero =>
      rw [strideAt, hover]
      exact ⟨rfl, rfl⟩
  | succ k =>
      rw [strideAt, hover, strideAt_done]
      exact ⟨rfl, rfl⟩

/-- The questions that are still to come: they are presented one after the other, each decision goes
on with the following one, and then the walk is over. -/
structure Unfolds (survey : Survey) (answersAt : Nat → Answers) (progress : Progress)
    (walker : Walker) (ids : List String) : Prop where
  head_eq : ids.head? = walker.upcoming? survey
  nodup : ((walker.base progress).presented ++ ids).Nodup
  known : ∀ id ∈ ids, id ∈ survey.ids
  presents : ∀ k (hk : k < ids.length),
    (strideAt survey false answersAt progress walker k).Presents ids[k] ids[k + 1]?
      ((walker.base progress).presented ++ ids.take (k + 1))
  isOver : ∀ k, ids.length ≤ k →
    (strideAt survey false answersAt progress walker k).IsOver
      ((walker.base progress).presented ++ ids)

theorem Sound.unfolds_nil (h : Sound survey progress walker) (answersAt : Nat → Answers)
    (hid : walker.upcoming? survey = none) : Unfolds survey answersAt progress walker [] where
  head_eq := hid.symm
  nodup := by
    rw [List.append_nil]
    exact h.nodup
  known := by
    intro id hmem
    cases hmem
  presents := by
    intro k hk
    cases hk
  isOver := by
    intro k _
    rw [List.append_nil]
    exact strideAt_of_upcoming?_eq_none false answersAt hid k

theorem Sound.unfolds_cons (h : Sound survey progress walker) {answersAt : Nat → Answers}
    {id : String} {ids : List String} (hid : walker.upcoming? survey = some id)
    (hrest : let stride := walker.advance survey (answersAt 0) false progress
      Unfolds survey (fun i => answersAt (i + 1)) stride.progress stride.walker ids) :
    Unfolds survey answersAt progress walker (id :: ids) := by
  let stride := walker.advance survey (answersAt 0) false progress
  have hbase : (stride.walker.base stride.progress).presented
      = (walker.base progress).presented ++ [id] := by
    rw [base_advance survey (answersAt 0) false progress walker,
      advance_presented survey (answersAt 0) false progress walker, hid]
    rfl
  have hnodup := hrest.nodup
  rw [hbase, List.append_assoc] at hnodup
  refine ⟨hid.symm, hnodup, ?_, ?_, ?_⟩
  · intro other hother
    rcases List.mem_cons.mp hother with rfl | hmem
    · exact (h.upcoming_fresh hid).1
    · exact hrest.known other hmem
  · intro k hk
    cases k with
    | zero =>
        obtain ⟨ruleId, houtcome⟩ := (advance_lenient survey (answersAt 0) progress hid).2
        have hnext : (id :: ids)[1]? = stride.walker.upcoming? survey := by
          rw [← hrest.head_eq]
          simp [List.head?_eq_getElem?]
        refine ⟨⟨ruleId, ?_⟩, ?_⟩
        · rw [hnext]
          exact houtcome
        · rw [strideAt, advance_presented, hid]
          rfl
    | succ k =>
        have hlater := hrest.presents k (Nat.lt_of_succ_lt_succ hk)
        rw [hbase, List.append_assoc] at hlater
        exact hlater
  · intro k hk
    cases k with
    | zero => cases hk
    | succ k =>
        have hlater := hrest.isOver k (Nat.le_of_succ_le_succ hk)
        rw [hbase, List.append_assoc] at hlater
        exact hlater

/-- By induction on the number of questions that were not presented yet. -/
theorem Sound.exists_unfolds (remaining : Nat) (answersAt : Nat → Answers)
    (h : Sound survey progress walker)
    (hremaining : survey.ids.length ≤ (walker.base progress).presented.length + remaining) :
    ∃ ids, Unfolds survey answersAt progress walker ids := by
  induction remaining generalizing answersAt progress walker with
  | zero =>
      cases hid : walker.upcoming? survey with
      | none => exact ⟨[], h.unfolds_nil answersAt hid⟩
      | some id =>
          -- there is no question left that was not presented
          obtain ⟨hnodup, hknown⟩ := h.presented_append hid
          have hlength := hnodup.length_le_of_subset hknown
          simp only [List.length_append, List.length_singleton] at hlength
          omega
  | succ remaining ih =>
      cases hid : walker.upcoming? survey with
      | none => exact ⟨[], h.unfolds_nil answersAt hid⟩
      | some id =>
          have hlonger : survey.ids.length
              ≤ ((walker.base progress).presented ++ [id]).length + remaining := by
            simp only [List.length_append, List.length_singleton]
            omega
          obtain ⟨ids, hids⟩ := ih (fun i => answersAt (i + 1)) (h.advance (answersAt 0)) (by
            rw [base_advance, advance_presented, hid]
            exact hlonger)
          exact ⟨id :: ids, h.unfolds_cons hid hids⟩

/-- A walk that passes unresolvable rules over, with answers that change in any way between its
strides: it presents questions of the survey, each at most once.  The stride that presents one of
them yields the decision to go on with the following one, or to end after the last.  Then the walk
is over. -/
theorem strideAt_fresh_total (survey : Survey) (answersAt : Nat → Answers) (before : Progress) :
    ∃ ids : List String, ids.Nodup ∧ (∀ id ∈ ids, id ∈ survey.ids) ∧
      ids.length ≤ survey.ids.length ∧
      (∀ k (hk : k < ids.length),
        let stride := strideAt survey false answersAt before .fresh k
        stride.progress.presented = ids.take (k + 1) ∧
          ∃ ruleId, stride.outcome =
            .ok (some ⟨some ids[k], ids[k + 1]?, decide (k + 1 = ids.length), ruleId⟩)) ∧
      ∀ k, ids.length ≤ k →
        let stride := strideAt survey false answersAt before .fresh k
        stride.progress.presented = ids ∧ stride.outcome = .ok none := by
  have hsound := sound_fresh survey before
  obtain ⟨ids, hids⟩ := hsound.exists_unfolds survey.ids.length answersAt (Nat.le_add_left _ _)
  have hnodup : ids.Nodup := hids.nodup
  refine ⟨ids, hnodup, hids.known, hnodup.length_le_of_subset hids.known, ?_, ?_⟩
  · intro k hk
    have hpresents := hids.presents k hk
    obtain ⟨ruleId, houtcome⟩ := hpresents.outcome_eq
    refine ⟨hpresents.presented_eq, ruleId, ?_⟩
    rw [houtcome]
    by_cases hlast : k + 1 = ids.length
    · simp [hlast]
    · have hmore : k + 1 < ids.length := by omega
      simp [hlast, hmore]
  · intro k hk
    have hover := hids.isOver k hk
    exact ⟨hover.presented_eq, hover.outcome_eq⟩

end Walker

end Questionnaire
