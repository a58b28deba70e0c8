import Questionnaire.Proofs.Walk.Replay
import Questionnaire.Proofs.Walk.Trigger

/-!
Surveys that only skip and reveal.  Without jumps and early ends the path of a walk has a
description that knows no progress: by recursion on the position, a question is on the path unless a
question on the path before it skips it, or it has to be revealed and no question on the path before
it does.
-/

namespace Questionnaire

namespace Survey

/-- Whether some declared rule reveals a question. -/
def isRevealTarget (survey : Survey) (id : String) : Bool :=
  survey.declaredRules.any fun (_, rule) => rule.action = .reveal id

/-- Whether the question at a position triggers a group whose first matching rule takes an action,
on the answers to the questions at some positions. -/
def triggers (survey : Survey) (answers : Answers) (known : List Nat) (position : Nat)
    (action : Action) : Bool :=
  (survey.idAt? position).any fun id =>
    (survey.matched answers (known.filterMap survey.idAt?) id).any (·.action = action)

/-- Whether one of the questions at some positions triggers an action, on the answers to those of
them up to itself. -/
def fired (survey : Survey) (answers : Answers) (positions : List Nat) (action : Action) : Bool :=
  positions.any fun position =>
    survey.triggers answers (positions.filter (· ≤ position)) position action

/-- Whether a question is on the path, given the positions on the path before it. -/
def admits (survey : Survey) (answers : Answers) (before : List Nat) (id : String) : Bool :=
  (!survey.isRevealTarget id || survey.fired answers before (.reveal id))
    && !survey.fired answers before (.skip id)

/-- The positions on the path below a bound. -/
def members (survey : Survey) (answers : Answers) : Nat → List Nat
  | 0 => []
  | position + 1 =>
    let before := members survey answers position
    if (survey.idAt? position).any (survey.admits answers before) then before ++ [position]
    else before

end Survey

namespace Survey

variable {survey : Survey} {answers : Answers}

/-- The positions on the path meet their recursive description. -/
theorem mem_members_iff {bound position : Nat} :
    position ∈ survey.members answers bound ↔ position < bound ∧
      ∃ id, survey.idAt? position = some id ∧
        survey.admits answers (survey.members answers position) id = true := by
  induction bound with
  | zero => simp [members]
  | succ bound ih =>
      rw [members]
      split
      · rename_i hallows
        rw [List.mem_append, List.mem_singleton, ih]
        constructor
        · rintro (⟨hlt, hold⟩ | rfl)
          · exact ⟨Nat.lt_succ_of_lt hlt, hold⟩
          · exact ⟨Nat.lt_succ_self position, (Option.any_eq_true _ _).mp hallows⟩
        · rintro ⟨hlt, hold⟩
          rcases Nat.lt_or_eq_of_le (Nat.le_of_lt_succ hlt) with hbelow | hlast
          · exact Or.inl ⟨hbelow, hold⟩
          · exact Or.inr hlast
      · rename_i hallows
        rw [ih]
        constructor
        · rintro ⟨hlt, hold⟩
          exact ⟨Nat.lt_succ_of_lt hlt, hold⟩
        · rintro ⟨hlt, hold⟩
          rcases Nat.lt_or_eq_of_le (Nat.le_of_lt_succ hlt) with hbelow | rfl
          · exact ⟨hbelow, hold⟩
          · exact absurd ((Option.any_eq_true _ _).mpr hold) hallows

theorem lt_of_mem_members {bound position : Nat} (h : position ∈ survey.members answers bound) :
    position < bound :=
  (mem_members_iff.mp h).1

/-- A position after all others only adds what it triggers itself. -/
theorem fired_append {positions : List Nat} {position : Nat} (action : Action)
    (hlast : ∀ other ∈ positions, other < position) :
    survey.fired answers (positions ++ [position]) action
      = (survey.fired answers positions action
        || survey.triggers answers (positions ++ [position]) position action) := by
  have hearlier : ∀ other ∈ positions,
      (positions ++ [position]).filter (· ≤ other) = positions.filter (· ≤ other) := by
    intro other hother
    have hbelow := hlast other hother
    rw [List.filter_append]
    simp [hbelow]
  have hwhole : (positions ++ [position]).filter (· ≤ position) = positions ++ [position] := by
    rw [List.filter_eq_self]
    intro other hother
    rcases List.mem_append.mp hother with hold | hnew
    · simpa using Nat.le_of_lt (hlast other hold)
    · rw [List.mem_singleton] at hnew
      simp [hnew]
  have hsame : (positions.any fun other => survey.triggers answers
        ((positions ++ [position]).filter (· ≤ other)) other action)
      = survey.fired answers positions action := by
    rw [fired, Bool.eq_iff_iff, List.any_eq_true, List.any_eq_true]
    constructor
    · rintro ⟨other, hother, htriggers⟩
      rw [hearlier other hother] at htriggers
      exact ⟨other, hother, htriggers⟩
    · rintro ⟨other, hother, htriggers⟩
      rw [← hearlier other hother] at htriggers
      exact ⟨other, hother, htriggers⟩
  rw [← hsame, fired, List.any_append, List.any_cons, List.any_nil, Bool.or_false, hwhole]

theorem isHidden_idAt? {position : Nat} {id : String} (h : survey.idAt? position = some id) :
    survey.isHidden id = survey.isRevealTarget id := by
  obtain ⟨question, hquestion, rfl⟩ := Option.map_eq_some_iff.mp h
  have hmem : question ∈ survey.questions := List.mem_of_getElem? hquestion
  have hsome : (survey.position? question.id).isSome :=
    (position?_isSome_iff question.id survey.questions).mpr ⟨question, hmem, rfl⟩
  rw [isHidden, hsome, Bool.true_and, isRevealTarget]

/-- Progress that has come about by the questions on the path below a bound: they were presented,
and what they trigger was skipped and revealed. -/
structure Tracks (survey : Survey) (answers : Answers) (bound : Nat) (progress : Progress) :
    Prop where
  presented_eq : progress.presented = (survey.members answers bound).filterMap survey.idAt?
  mem_skipped : ∀ id, id ∈ progress.skipped ↔
    survey.fired answers (survey.members answers bound) (.skip id) = true
  mem_revealed : ∀ id, id ∈ progress.revealed ↔
    survey.fired answers (survey.members answers bound) (.reveal id) = true

theorem tracks_start (survey : Survey) (answers : Answers) : Tracks survey answers 0 .start where
  presented_eq := rfl
  mem_skipped := by
    intro id
    simp [Progress.start, members, fired]
  mem_revealed := by
    intro id
    simp [Progress.start, members, fired]

namespace Tracks

variable {bound : Nat} {progress : Progress}

/-- What may be presented next is what is on the path. -/
theorem isVisible_eq (h : Tracks survey answers bound progress)
    (hdistinct : (survey.questions.map (·.id)).Nodup) {id : String}
    (hid : survey.idAt? bound = some id) :
    survey.isVisible progress id = survey.admits answers (survey.members answers bound) id := by
  have hfresh : id ∉ progress.presented := by
    intro hmem
    rw [h.presented_eq] at hmem
    obtain ⟨position, hposition, hat⟩ := List.mem_filterMap.mp hmem
    have hbelow := lt_of_mem_members hposition
    have hsame := idAt?_inj hdistinct hat hid
    omega
  have hskipped := h.mem_skipped id
  have hrevealed := h.mem_revealed id
  unfold isVisible admits
  rw [isHidden_idAt? hid, Bool.eq_iff_iff]
  simp only [Bool.and_eq_true, Bool.or_eq_true, Bool.not_eq_true', decide_eq_true_eq,
    hskipped, hrevealed, hfresh, not_false_eq_true, and_true, Bool.not_eq_true]
  exact and_comm

theorem members_succ (h : Tracks survey answers bound progress)
    (hdistinct : (survey.questions.map (·.id)).Nodup) {id : String}
    (hid : survey.idAt? bound = some id) :
    survey.members answers (bound + 1)
      = if survey.isVisible progress id then survey.members answers bound ++ [bound]
        else survey.members answers bound := by
  rw [members, hid, h.isVisible_eq hdistinct hid]
  rfl

/-- A question that may not be presented is passed. -/
theorem pass (h : Tracks survey answers bound progress)
    (hdistinct : (survey.questions.map (·.id)).Nodup) {id : String}
    (hid : survey.idAt? bound = some id) (hvisible : survey.isVisible progress id = false) :
    Tracks survey answers (bound + 1) progress := by
  have hmembers := h.members_succ hdistinct hid
  rw [hvisible] at hmembers
  refine ⟨?_, ?_, ?_⟩
  · rw [hmembers]
    exact h.presented_eq
  · rw [hmembers]
    exact h.mem_skipped
  · rw [hmembers]
    exact h.mem_revealed

/-- A question that is presented adds what it triggers. -/
theorem present (h : Tracks survey answers bound progress)
    (hdistinct : (survey.questions.map (·.id)).Nodup) {id : String}
    (hid : survey.idAt? bound = some id) (hvisible : survey.isVisible progress id = true) :
    let shown := progress.present id
    Tracks survey answers (bound + 1)
      (shown.applyAll (survey.matched answers shown.presented id)) := by
  intro shown
  have hmembers : survey.members answers (bound + 1) = survey.members answers bound ++ [bound] := by
    rw [h.members_succ hdistinct hid, if_pos hvisible]
  have hpresented : shown.presented
      = (survey.members answers bound ++ [bound]).filterMap survey.idAt? := by
    rw [Progress.presented_present, h.presented_eq, List.filterMap_append]
    simp [hid]
  have hfired (action : Action) :
      survey.fired answers (survey.members answers bound ++ [bound]) action = true ↔
        survey.fired answers (survey.members answers bound) action = true ∨
          ∃ rule ∈ survey.matched answers shown.presented id, rule.action = action := by
    rw [fired_append action fun other hother => lt_of_mem_members hother, triggers, hid,
      ← hpresented]
    simp
  refine ⟨?_, ?_, ?_⟩
  · rw [hmembers, Progress.presented_applyAll, hpresented]
  · intro other
    rw [hmembers, hfired, Progress.mem_skipped_applyAll, ← h.mem_skipped]
    rfl
  · intro other
    rw [hmembers, hfired, Progress.mem_revealed_applyAll, ← h.mem_revealed]
    rfl

theorem pass_all (h : Tracks survey answers bound progress)
    (hdistinct : (survey.questions.map (·.id)).Nodup) {stop : Nat} (hbound : bound ≤ stop)
    (hstop : stop ≤ survey.questions.length)
    (hclosed : ∀ position, bound ≤ position → position < stop →
      survey.isOpenAt progress position = false) :
    Tracks survey answers stop progress := by
  induction hbound with
  | refl => exact h
  | @step stop hle ih =>
      have hlt : stop < survey.questions.length := hstop
      have hid : survey.idAt? stop = some survey.questions[stop].id := by
        rw [idAt?, List.getElem?_eq_getElem hlt]
        rfl
      have hbefore := ih (Nat.le_of_lt hlt) fun position hlow hhigh =>
        hclosed position hlow (Nat.lt_succ_of_lt hhigh)
      have hinvisible := hclosed stop hle (Nat.lt_succ_self stop)
      rw [isOpenAt, hid] at hinvisible
      exact hbefore.pass hdistinct hid hinvisible

/-- The walk goes on to the next position on the path, or to the end. -/
theorem scan (h : Tracks survey answers bound progress)
    (hdistinct : (survey.questions.map (·.id)).Nodup) (hbound : bound ≤ survey.questions.length) :
    Tracks survey answers
      ((survey.nextVisible progress bound).getD survey.questions.length) progress := by
  cases hnext : survey.nextVisible progress bound with
  | none =>
      have hclosed := nextVisible_eq_none_iff.mp hnext
      exact h.pass_all hdistinct hbound (Nat.le_refl _) fun position hlow _ => hclosed position hlow
  | some stop =>
      obtain ⟨hstop, hopen, hclosed⟩ := nextVisible_eq_some_iff.mp hnext
      obtain ⟨id, hid, _⟩ := isOpenAt_iff.mp hopen
      have hlt : stop < survey.questions.length := by
        obtain ⟨question, hquestion, _⟩ := Option.map_eq_some_iff.mp hid
        exact (List.getElem?_eq_some_iff.mp hquestion).1
      exact h.pass_all hdistinct hstop (Nat.le_of_lt hlt) hclosed

end Tracks

/-- Without jumps and ends a matching rule never decides where the walk goes on. -/
theorem follow_of_no_flow {matched : List Rule}
    (hflow : ∀ rule ∈ matched, rule.action.isFlow = false) (progress : Progress) (current : String)
    (position : Nat) :
    survey.follow progress current position matched
      = ([], .ok (survey.moveOn progress current (position + 1) (matched.head?.map (·.id)))) := by
  have hnone : matched.find? (·.action.isFlow) = none := by
    rw [List.find?_eq_none]
    intro rule hrule
    simp [hflow rule hrule]
  rw [follow, hnone]

/-- A walk that has come to the next position on the path, or has passed all of them. -/
structure Aligned (survey : Survey) (answers : Answers) (progress : Progress) (walker : Walker) :
    Prop where
  sound : Walker.Sound survey progress walker
  tracks : Tracks survey answers ((walker.position? survey).getD survey.questions.length)
    (walker.base progress)

theorem aligned_fresh (answers : Answers) (hdistinct : (survey.questions.map (·.id)).Nodup) :
    Aligned survey answers .start .fresh where
  sound := Walker.sound_fresh survey .start
  tracks := (tracks_start survey answers).scan hdistinct (Nat.zero_le _)

/-- A stride takes a walk from one position on the path to the next. -/
theorem Aligned.advance {progress : Progress} {walker : Walker}
    (h : Aligned survey answers progress walker)
    (hdistinct : (survey.questions.map (·.id)).Nodup)
    (hflow : ∀ entry ∈ survey.declaredRules, entry.2.action.isFlow = false) :
    let stride := walker.advance survey answers false progress
    Aligned survey answers stride.progress stride.walker := by
  intro stride
  refine ⟨h.sound.advance answers, ?_⟩
  have htracks := h.tracks
  cases hposition : walker.position? survey with
  | none =>
      have hupcoming : walker.upcoming? survey = none := by rw [Walker.upcoming?, hposition]; rfl
      have hover : stride = ⟨[], walker.base progress, .done, .ok none⟩ :=
        Walker.advance_of_upcoming?_eq_none survey answers false progress hupcoming
      rw [hposition] at htracks
      rw [hover]
      exact htracks
  | some position =>
      obtain ⟨id, hid, hvisible⟩ := h.sound.ready position hposition
      rw [hposition, Option.getD_some] at htracks
      let shown := (walker.base progress).present id
      let matched := survey.matched answers shown.presented id
      have hmatched : ∀ rule ∈ matched, rule.action.isFlow = false := by
        intro rule hrule
        obtain ⟨owner, hdeclared, _⟩ := exists_declared_of_mem_matched hrule
        exact hflow _ hdeclared
      have hadvance : stride
          = Walker.present survey answers false (walker.base progress) position id :=
        Walker.advance_of_position? survey answers false progress hposition hid
      have hpresent := Walker.present_of_follow survey answers false (walker.base progress)
        (Prod.ext rfl (survey.matchesAt_lenient answers shown id))
        (follow_of_no_flow hmatched (shown.applyAll matched) id position)
      have hbound : position + 1 ≤ survey.questions.length := by
        obtain ⟨question, hquestion, _⟩ := Option.map_eq_some_iff.mp hid
        exact (List.getElem?_eq_some_iff.mp hquestion).1
      rw [hadvance.trans hpresent, Walker.position?_ofNext, Walker.base_ofNext]
      exact (htracks.present hdistinct hid hvisible).scan hdistinct hbound

/-- In a survey with distinct ids and without jumps and early ends, the path of a walk that passes
unresolvable rules over lists the positions on the path, in survey order. -/
theorem path_eq_members (survey : Survey) (answers : Answers)
    (hdistinct : (survey.questions.map (·.id)).Nodup)
    (hflow : ∀ entry ∈ survey.declaredRules, entry.2.action.isFlow = false) :
    survey.path answers false
      = .ok ((survey.members answers survey.questions.length).filterMap survey.idAt?) := by
  obtain ⟨ids, hshows⟩ := survey.exists_shows answers
  let stride := survey.strideAt answers survey.questions.length
  have haligned : Aligned survey answers stride.progress stride.walker :=
    Walker.strideAt_invariant (Aligned survey answers) false (fun _ => answers)
      (fun _ _ _ h => h.advance hdistinct hflow) (aligned_fresh answers hdistinct) _
  have hover := hshows.strideAt_isOver survey.questions.length hshows.length_le
  have hdone : stride.walker = .done :=
    Walker.strideAt_walker_eq_done false (fun _ => answers) _ hover.step?_eq
  -- a walk that is over has passed all positions
  have htracks := haligned.tracks
  rw [hdone] at htracks
  have hpresented : stride.progress.presented
      = (survey.members answers survey.questions.length).filterMap survey.idAt? :=
    htracks.presented_eq
  rw [hshows.path_eq, ← hover.presented_eq, hpresented]

/-- The third question is skipped although it is revealed, and so the fifth one stays hidden. -/
theorem path_eq_members_sample :
    Sample.survey.path Sample.answers false = .ok ["q1", "q2", "q4"] := by
  have hdistinct : (Sample.survey.questions.map (·.id)).Nodup := by decide
  have hflow : ∀ entry ∈ Sample.survey.declaredRules, entry.2.action.isFlow = false := by decide
  have hmembers : (Sample.survey.members Sample.answers Sample.survey.questions.length).filterMap
      Sample.survey.idAt? = ["q1", "q2", "q4"] := by decide
  rw [path_eq_members Sample.survey Sample.answers hdistinct hflow, hmembers]

end Survey

end Questionnaire
