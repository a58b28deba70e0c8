import Questionnaire.Proofs.Walk.Matching

/-!
One stride of a walk.  A stride presents the question that the walk has come to and no other,
whatever the answers are.  Where unresolvable rules are passed over it always yields a decision, and
the question that the decision goes on with may be presented.
-/

namespace Questionnaire

namespace Progress

@[simp] theorem presented_present (progress : Progress) (id : String) :
    (progress.present id).presented = progress.presented ++ [id] := rfl

@[simp] theorem presented_apply (progress : Progress) (action : Action) :
    (progress.apply action).presented = progress.presented := by
  cases action <;> rfl

@[simp] theorem presented_applyAll (progress : Progress) (rules : List Rule) :
    (progress.applyAll rules).presented = progress.presented := by
  unfold applyAll
  induction rules generalizing progress with
  | nil => rfl
  | cons rule rest ih =>
      rw [List.foldl_cons, ih, presented_apply]

end Progress

namespace Survey

/-- What every way of going on has in common: nothing more is presented, the decision says where the
walk goes on, and the question there may be presented. -/
structure GoesOn (survey : Survey) (progress : Progress) (current : String) (move : Move) :
    Prop where
  presented_eq : move.progress.presented = progress.presented
  decision_eq : ∃ ruleId, move.decision = survey.decisionTo current move.next ruleId
  visible : ∀ position, move.next = some position →
    ∃ id, survey.idAt? position = some id ∧ survey.isVisible move.progress id = true

theorem goesOn_moveOn (survey : Survey) (progress : Progress) (current : String) (start : Nat)
    (ruleId : Option String) :
    survey.GoesOn progress current (survey.moveOn progress current start ruleId) where
  presented_eq := rfl
  decision_eq := ⟨ruleId, rfl⟩
  visible := by
    intro position hnext
    obtain ⟨id, hid, hvisible, _⟩ := survey.nextVisible_isVisible progress hnext
    exact ⟨id, hid, hvisible⟩

theorem goesOn_of_follow {survey : Survey} {progress : Progress} {current : String}
    {position : Nat} {matched : List Rule} {move : Move}
    (h : (survey.follow progress current position matched).2 = .ok move) :
    survey.GoesOn progress current move := by
  unfold follow at h
  split at h
  · injection h with hmove
    exact hmove ▸ survey.goesOn_moveOn progress current (position + 1) _
  · rename_i rule _
    split at h
    · rename_i target _
      split at h
      · injection h with hmove
        exact hmove ▸ survey.goesOn_moveOn progress current (position + 1) _
      · split at h
        · rename_i landing _
          injection h with hmove
          subst hmove
          have hopen := survey.goesOn_moveOn (progress.unlock target) current landing (some rule.id)
          exact ⟨hopen.presented_eq, hopen.decision_eq, hopen.visible⟩
        · cases h
    · injection h with hmove
      subst hmove
      exact ⟨rfl, ⟨some rule.id, rfl⟩, fun _ hnext => by cases hnext⟩

/-- A walk can always go on if the targets of the matching rules exist. -/
theorem follow_isOk {survey : Survey} {matched : List Rule}
    (htargets : ∀ rule ∈ matched, ∀ target, rule.action.target? = some target →
      (survey.position? target).isSome)
    (progress : Progress) (current : String) (position : Nat) :
    ∃ move, (survey.follow progress current position matched).2 = .ok move := by
  unfold follow
  split
  · exact ⟨_, rfl⟩
  · rename_i rule hflow
    split
    · rename_i target haction
      split
      · exact ⟨_, rfl⟩
      · have hmem : rule ∈ matched := List.mem_of_find?_eq_some hflow
        have hsome := htargets rule hmem target (by rw [haction]; rfl)
        obtain ⟨landing, hlanding⟩ := Option.isSome_iff_exists.mp hsome
        rw [hlanding]
        exact ⟨_, rfl⟩
    · exact ⟨_, rfl⟩

end Survey

namespace Walker

variable (survey : Survey) (answers : Answers) (strict : Bool) (progress : Progress)

/-- The progress that a walk goes on from: at its beginning it forgets all of it. -/
def base (progress : Progress) : Walker → Progress
  | .fresh => .start
  | _ => progress

/-- The position that a walk has come to. -/
def position? (survey : Survey) : Walker → Option Nat
  | .fresh => survey.nextVisible .start 0
  | .ahead position => some position
  | .done => none

@[simp] theorem base_ofNext (progress : Progress) (next : Option Nat) :
    (ofNext next).base progress = progress := by
  cases next <;> rfl

@[simp] theorem position?_ofNext (survey : Survey) (next : Option Nat) :
    (ofNext next).position? survey = next := by
  cases next <;> rfl

/-- The question that a walk presents next. -/
def upcoming? (survey : Survey) (walker : Walker) : Option String :=
  (walker.position? survey).bind survey.idAt?

/-- The question that a walk has come to may be presented. -/
def Ready (survey : Survey) (progress : Progress) (walker : Walker) : Prop :=
  ∀ position, walker.position? survey = some position →
    ∃ id, survey.idAt? position = some id ∧ survey.isVisible (walker.base progress) id = true

theorem ready_fresh : Ready survey progress .fresh := by
  intro position hposition
  obtain ⟨id, hid, hvisible, _⟩ := survey.nextVisible_isVisible .start hposition
  exact ⟨id, hid, hvisible⟩

theorem ready_ofNext {move : Survey.Move} {current : String}
    (h : survey.GoesOn progress current move) : Ready survey move.progress (ofNext move.next) := by
  intro position hposition
  rw [position?_ofNext] at hposition
  rw [base_ofNext]
  exact h.visible position hposition

theorem advance_eq_presentAt (walker : Walker) :
    walker.advance survey answers strict progress
      = presentAt survey answers strict (walker.base progress) (walker.position? survey) := by
  cases walker <;> rfl

/-- A walk that has come to no question is over. -/
theorem advance_of_upcoming?_eq_none {walker : Walker} (h : walker.upcoming? survey = none) :
    walker.advance survey answers strict progress
      = ⟨[], walker.base progress, .done, .ok none⟩ := by
  rw [advance_eq_presentAt]
  unfold upcoming? at h
  unfold presentAt
  cases hposition : walker.position? survey with
  | none => rfl
  | some position =>
      have hid : survey.idAt? position = none := by simpa [hposition] using h
      simp [hid]

/-- A walk that has come to a question presents it. -/
theorem advance_of_position? {walker : Walker} {position : Nat} {id : String}
    (hposition : walker.position? survey = some position) (hid : survey.idAt? position = some id) :
    walker.advance survey answers strict progress
      = present survey answers strict (walker.base progress) position id := by
  rw [advance_eq_presentAt]
  simp [presentAt, hposition, hid]

theorem advance_of_upcoming?_eq_some {walker : Walker} {id : String}
    (h : walker.upcoming? survey = some id) :
    ∃ position, walker.position? survey = some position ∧ survey.idAt? position = some id ∧
      walker.advance survey answers strict progress
        = present survey answers strict (walker.base progress) position id := by
  obtain ⟨position, hposition, hid⟩ := Option.bind_eq_some_iff.mp h
  exact ⟨position, hposition, hid,
    advance_of_position? survey answers strict progress hposition hid⟩

/-- Presenting a question either goes on from it, or a rule that cannot be resolved or followed ends
the walk there. -/
theorem present_cases (position : Nat) (current : String) :
    let stride := present survey answers strict progress position current
    (∃ invalid, stride.outcome = .error invalid ∧ stride.walker = .done ∧
        stride.progress.presented = progress.presented ++ [current]) ∨
      ∃ move, survey.GoesOn (progress.present current) current move ∧
        stride.progress = move.progress ∧ stride.walker = ofNext move.next ∧
          stride.outcome = .ok (some move.decision) := by
  unfold present
  dsimp only
  split
  · exact Or.inl ⟨_, rfl, rfl, rfl⟩
  · rename_i warnings matched _
    have happlied := Progress.presented_applyAll (progress.present current) matched
    split
    · exact Or.inl ⟨_, rfl, rfl, happlied⟩
    · rename_i more move hfollow
      have hgoes := Survey.goesOn_of_follow (congrArg Prod.snd hfollow)
      have hpresented := hgoes.presented_eq.trans happlied
      exact Or.inr ⟨move, ⟨hpresented, hgoes.decision_eq, hgoes.visible⟩, rfl, rfl, rfl⟩

theorem present_presented (position : Nat) (current : String) :
    (present survey answers strict progress position current).progress.presented
      = progress.presented ++ [current] := by
  rcases present_cases survey answers strict progress position current with
    ⟨_, _, _, hpresented⟩ | ⟨move, hgoes, hprogress, _⟩
  · exact hpresented
  · rw [hprogress]
    exact hgoes.presented_eq

/-- A stride presents the question that the walk has come to and no other. -/
theorem advance_presented (walker : Walker) :
    (walker.advance survey answers strict progress).progress.presented
      = (walker.base progress).presented ++ (walker.upcoming? survey).toList := by
  cases hupcoming : walker.upcoming? survey with
  | none => simp [advance_of_upcoming?_eq_none survey answers strict progress hupcoming]
  | some id =>
      obtain ⟨position, _, _, hadvance⟩ :=
        advance_of_upcoming?_eq_some survey answers strict progress hupcoming
      rw [hadvance, present_presented]
      rfl

/-- After a stride a walk is no longer at its beginning. -/
theorem base_advance (walker : Walker) :
    let stride := walker.advance survey answers strict progress
    stride.walker.base stride.progress = stride.progress := by
  intro stride
  cases hupcoming : walker.upcoming? survey with
  | none =>
      have hover := advance_of_upcoming?_eq_none survey answers strict progress hupcoming
      rw [show stride = _ from hover]
      rfl
  | some id =>
      obtain ⟨position, _, _, hadvance⟩ :=
        advance_of_upcoming?_eq_some survey answers strict progress hupcoming
      rw [show stride = _ from hadvance]
      rcases present_cases survey answers strict (walker.base progress) position id with
        ⟨_, _, hdone, _⟩ | ⟨move, _, _, hwalker, _⟩
      · rw [hdone]
        rfl
      · rw [hwalker, base_ofNext]

theorem present_congr (position : Nat) (current : String) {a b : Answers}
    (h : Answers.Agree (progress.presented ++ [current]) a b) :
    present survey a strict progress position current
      = present survey b strict progress position current := by
  have hmatches := survey.matchesAt_congr strict (progress.present current) current
    (a := a) (b := b) h
  unfold present
  dsimp only
  rw [hmatches]

/-- A stride depends on the answers to the questions that are presented after it alone. -/
theorem advance_congr (walker : Walker) {a b : Answers}
    (h : Answers.Agree (walker.advance survey a strict progress).progress.presented a b) :
    walker.advance survey b strict progress = walker.advance survey a strict progress := by
  rw [advance_presented] at h
  cases hupcoming : walker.upcoming? survey with
  | none =>
      rw [advance_of_upcoming?_eq_none survey a strict progress hupcoming,
        advance_of_upcoming?_eq_none survey b strict progress hupcoming]
  | some id =>
      rw [hupcoming] at h
      obtain ⟨position, hposition, _, ha⟩ :=
        advance_of_upcoming?_eq_some survey a strict progress hupcoming
      obtain ⟨other, hother, _, hb⟩ :=
        advance_of_upcoming?_eq_some survey b strict progress hupcoming
      have hsame : other = position := Option.some.inj (hother.symm.trans hposition)
      rw [ha, hb, hsame]
      exact (present_congr survey strict (walker.base progress) position id h).symm

theorem present_of_follow {position : Nat} {current : String} {matched : List Rule}
    {warnings more : List Warning} {move : Survey.Move}
    (hmatches : survey.matchesAt answers strict (progress.present current) current
      = (warnings, .ok matched))
    (hfollow : survey.follow ((progress.present current).applyAll matched) current position matched
      = (more, .ok move)) :
    present survey answers strict progress position current
      = ⟨warnings ++ more, move.progress, ofNext move.next, .ok (some move.decision)⟩ := by
  unfold present
  dsimp only
  rw [hmatches]
  dsimp only
  rw [hfollow]

theorem present_lenient (position : Nat) (current : String) :
    ∃ warnings move, survey.GoesOn (progress.present current) current move ∧
      present survey answers false progress position current
        = ⟨warnings, move.progress, ofNext move.next, .ok (some move.decision)⟩ := by
  let shown := progress.present current
  let matched := survey.matched answers shown.presented current
  have htargets : ∀ rule ∈ matched, ∀ target, rule.action.target? = some target →
      (survey.position? target).isSome :=
    fun rule hrule target htarget => Survey.position?_isSome_of_mem_matched hrule htarget
  obtain ⟨move, hmove⟩ := Survey.follow_isOk htargets (shown.applyAll matched) current position
  have hgoes := Survey.goesOn_of_follow hmove
  have hpresented : move.progress.presented = shown.presented :=
    hgoes.presented_eq.trans (Progress.presented_applyAll shown matched)
  have hmatches := survey.matchesAt_lenient answers shown current
  exact ⟨_, move, ⟨hpresented, hgoes.decision_eq, hgoes.visible⟩,
    present_of_follow survey answers false progress (Prod.ext rfl hmatches) (Prod.ext rfl hmove)⟩

/-- Where unresolvable rules are passed over, a stride that presents a question yields the decision
after it, and the walk is ready to go on as the decision says. -/
theorem advance_lenient {walker : Walker} {id : String} (h : walker.upcoming? survey = some id) :
    let stride := walker.advance survey answers false progress
    let next := stride.walker.upcoming? survey
    stride.walker.Ready survey stride.progress ∧
      ∃ ruleId, stride.outcome = .ok (some ⟨some id, next, next.isNone, ruleId⟩) := by
  obtain ⟨position, _, _, hadvance⟩ :=
    advance_of_upcoming?_eq_some survey answers false progress h
  obtain ⟨warnings, move, hgoes, hpresent⟩ :=
    present_lenient survey answers (walker.base progress) position id
  obtain ⟨ruleId, hdecision⟩ := hgoes.decision_eq
  rw [hadvance, hpresent]
  refine ⟨ready_ofNext survey _ hgoes, ruleId, ?_⟩
  cases hnext : move.next with
  | none => simp [hdecision, hnext, Survey.decisionTo, upcoming?]
  | some next =>
      obtain ⟨following, hfollowing, _⟩ := hgoes.visible next hnext
      simp [hdecision, hnext, Survey.decisionTo, upcoming?, hfollowing]

end Walker

end Questionnaire
