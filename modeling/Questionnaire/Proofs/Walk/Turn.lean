import Questionnaire.Proofs.Walk.Stride

/-!
Turns of a walk.  The rules that match after a question skip and reveal others, and together they
decide where the walk goes on: behind the question, on the target of a jump, or nowhere.  A jump
lands on its target whether that was skipped or hidden, so no scan is needed there.
-/

namespace Questionnaire

namespace Progress

theorem mem_insert {name other : String} {names : List String} :
    other ∈ insert name names ↔ other ∈ names ∨ other = name := by
  rw [insert]
  split
  · rename_i hmem
    constructor
    · exact Or.inl
    · rintro (hold | rfl)
      · exact hold
      · exact hmem
  · simp

theorem mem_skipped_apply {progress : Progress} {action : Action} {id : String} :
    id ∈ (progress.apply action).skipped ↔ id ∈ progress.skipped ∨ action = .skip id := by
  cases action with
  | skip target => simp [apply, skip, mem_insert, eq_comm]
  | reveal target => simp [apply, reveal]
  | jump target => simp [apply]
  | finish emptyTarget => simp [apply]

theorem mem_revealed_apply {progress : Progress} {action : Action} {id : String} :
    id ∈ (progress.apply action).revealed ↔ id ∈ progress.revealed ∨ action = .reveal id := by
  cases action with
  | skip target => simp [apply, skip]
  | reveal target => simp [apply, reveal, mem_insert, eq_comm]
  | jump target => simp [apply]
  | finish emptyTarget => simp [apply]

theorem mem_skipped_applyAll {progress : Progress} {rules : List Rule} {id : String} :
    id ∈ (progress.applyAll rules).skipped
      ↔ id ∈ progress.skipped ∨ ∃ rule ∈ rules, rule.action = .skip id := by
  unfold applyAll
  induction rules generalizing progress with
  | nil => simp
  | cons rule rest ih =>
      rw [List.foldl_cons, ih, mem_skipped_apply, or_assoc]
      simp

theorem mem_revealed_applyAll {progress : Progress} {rules : List Rule} {id : String} :
    id ∈ (progress.applyAll rules).revealed
      ↔ id ∈ progress.revealed ∨ ∃ rule ∈ rules, rule.action = .reveal id := by
  unfold applyAll
  induction rules generalizing progress with
  | nil => simp
  | cons rule rest ih =>
      rw [List.foldl_cons, ih, mem_revealed_apply, or_assoc]
      simp

@[simp] theorem presented_unlock (progress : Progress) (id : String) :
    (progress.unlock id).presented = progress.presented := rfl

theorem mem_skipped_unlock {progress : Progress} {target id : String} :
    id ∈ (progress.unlock target).skipped ↔ id ∈ progress.skipped ∧ id ≠ target := by
  simp [unlock]

theorem mem_revealed_unlock {progress : Progress} {target id : String} :
    id ∈ (progress.unlock target).revealed ↔ id ∈ progress.revealed ∨ id = target := by
  simp [unlock, reveal, mem_insert]

end Progress

namespace Survey

variable {survey : Survey} {progress : Progress}

/-- Whether a walk may present the question at a position. -/
def isOpenAt (survey : Survey) (progress : Progress) (position : Nat) : Bool :=
  (survey.idAt? position).any (survey.isVisible progress)

theorem isOpenAt_iff {position : Nat} :
    survey.isOpenAt progress position = true ↔
      ∃ id, survey.idAt? position = some id ∧ survey.isVisible progress id = true :=
  Option.any_eq_true _ _

theorem isOpenAt_add (start offset : Nat) :
    survey.isOpenAt progress (start + offset)
      = ((survey.questions.drop start)[offset]?).any
          fun question => survey.isVisible progress question.id := by
  rw [isOpenAt, idAt?, Option.any_map, List.getElem?_drop]

/-- A scan stops at the first position from its start on that a walk may present. -/
theorem nextVisible_eq_some_iff {start position : Nat} :
    survey.nextVisible progress start = some position ↔
      start ≤ position ∧ survey.isOpenAt progress position = true ∧
        ∀ earlier, start ≤ earlier → earlier < position →
          survey.isOpenAt progress earlier = false := by
  unfold nextVisible
  rw [Option.map_eq_some_iff]
  constructor
  · rintro ⟨offset, hoffset, rfl⟩
    obtain ⟨hlt, hopen, hpassed⟩ := List.findIdx?_eq_some_iff_getElem.mp hoffset
    refine ⟨Nat.le_add_right _ _, ?_, ?_⟩
    · rw [isOpenAt_add, List.getElem?_eq_getElem hlt]
      exact hopen
    · intro earlier hstart hearlier
      obtain ⟨before, rfl⟩ := Nat.exists_eq_add_of_le hstart
      have hbefore : before < offset := by omega
      rw [isOpenAt_add, List.getElem?_eq_getElem (Nat.lt_trans hbefore hlt)]
      exact Bool.eq_false_iff.mpr (hpassed before hbefore)
  · rintro ⟨hstart, hopen, hpassed⟩
    obtain ⟨offset, rfl⟩ := Nat.exists_eq_add_of_le hstart
    rw [isOpenAt_add, Option.any_eq_true] at hopen
    obtain ⟨question, hquestion, hvisible⟩ := hopen
    obtain ⟨hlt, rfl⟩ := List.getElem?_eq_some_iff.mp hquestion
    refine ⟨offset, List.findIdx?_eq_some_iff_getElem.mpr ⟨hlt, hvisible, ?_⟩, rfl⟩
    intro before hbefore
    have hclosed := hpassed (start + before) (Nat.le_add_right _ _) (by omega)
    rw [isOpenAt_add, List.getElem?_eq_getElem (Nat.lt_trans hbefore hlt)] at hclosed
    exact Bool.eq_false_iff.mp hclosed

/-- A scan that finds nothing has passed every position from its start on. -/
theorem nextVisible_eq_none_iff {start : Nat} :
    survey.nextVisible progress start = none ↔
      ∀ position, start ≤ position → survey.isOpenAt progress position = false := by
  unfold nextVisible
  rw [Option.map_eq_none_iff, List.findIdx?_eq_none_iff]
  constructor
  · intro hpassed position hstart
    obtain ⟨offset, rfl⟩ := Nat.exists_eq_add_of_le hstart
    rw [isOpenAt_add, Option.any_eq_false]
    intro question hquestion
    exact hpassed question (List.mem_of_getElem? hquestion)
  · intro hclosed question hquestion
    obtain ⟨offset, hoffset⟩ := List.getElem?_of_mem hquestion
    have hpassed := hclosed (start + offset) (Nat.le_add_right _ _)
    rw [isOpenAt_add, hoffset] at hpassed
    exact hpassed

/-- A scan that starts where the walk may go on stops at once. -/
theorem nextVisible_self {position : Nat} (h : survey.isOpenAt progress position = true) :
    survey.nextVisible progress position = some position :=
  nextVisible_eq_some_iff.mpr
    ⟨Nat.le_refl _, h, fun _ hstart hearlier => absurd hearlier (Nat.not_lt.mpr hstart)⟩

theorem idAt?_of_position? {id : String} {position : Nat}
    (h : survey.position? id = some position) : survey.idAt? position = some id := by
  unfold position? at h
  unfold idAt?
  generalize survey.questions = questions at h ⊢
  induction questions generalizing position with
  | nil => cases h
  | cons question rest ih =>
      rw [Questionnaire.position?] at h
      split at h
      · rename_i later hlater
        cases h
        exact ih hlater
      · split at h
        · rename_i hid
          cases h
          simp [hid]
        · cases h

/-- Where ids are distinct a question has one position. -/
theorem idAt?_inj (hdistinct : (survey.questions.map (·.id)).Nodup) {i j : Nat} {id : String}
    (hi : survey.idAt? i = some id) (hj : survey.idAt? j = some id) : i = j := by
  unfold idAt? at hi hj
  rw [← List.getElem?_map] at hi hj
  have hlt : i < (survey.questions.map (·.id)).length := (List.getElem?_eq_some_iff.mp hi).1
  exact (List.getElem?_inj hlt hdistinct).mp (hi.trans hj.symm)

theorem position?_isSome_of_idAt? {position : Nat} {id : String}
    (h : survey.idAt? position = some id) : (survey.position? id).isSome := by
  obtain ⟨question, hquestion, hid⟩ := Option.map_eq_some_iff.mp h
  exact (position?_isSome_iff id survey.questions).mpr
    ⟨question, List.mem_of_getElem? hquestion, hid⟩

theorem position?_of_idAt? (hdistinct : (survey.questions.map (·.id)).Nodup) {position : Nat}
    {id : String} (h : survey.idAt? position = some id) : survey.position? id = some position := by
  obtain ⟨same, hsame⟩ := Option.isSome_iff_exists.mp (position?_isSome_of_idAt? h)
  rw [hsame, idAt?_inj hdistinct (idAt?_of_position? hsame) h]

/-- The questions that are hidden at first are those that declared rules reveal. -/
theorem isHidden_iff {id : String} :
    survey.isHidden id = true ↔ (survey.position? id).isSome ∧
      ∃ entry ∈ survey.declaredRules, entry.2.action = .reveal id := by
  rw [isHidden, Bool.and_eq_true, List.any_eq_true]
  simp only [decide_eq_true_eq]

/-- A jump opens its target. -/
theorem isVisible_unlock {id : String} (h : id ∉ progress.presented) :
    survey.isVisible (progress.unlock id) id = true := by
  have hskipped : id ∉ (progress.unlock id).skipped := fun hmem =>
    (Progress.mem_skipped_unlock.mp hmem).2 rfl
  have hrevealed : id ∈ (progress.unlock id).revealed :=
    Progress.mem_revealed_unlock.mpr (Or.inr rfl)
  simp [isVisible, hskipped, hrevealed, h]

end Survey

/-- Where the rules that match after a question take a walk. -/
inductive Turn where
  | onward
  | landing (target : String)
  | finish
deriving DecidableEq, Repr

namespace Turn

/-- Of the matching rules the first one that ends the survey or jumps counts.  A jump to a question
that was presented already is not taken. -/
def of (presented : List String) (matched : List Rule) : Turn :=
  match matched.find? (·.action.isFlow) with
  | none => .onward
  | some rule => match rule.action with
    | .jump target => if target ∈ presented then .onward else .landing target
    | _ => .finish

/-- The question that a jump lands on is opened. -/
def opening (progress : Progress) : Turn → Progress
  | .landing target => progress.unlock target
  | _ => progress

/-- The position that a walk goes on at. -/
def next (survey : Survey) (progress : Progress) (position : Nat) : Turn → Option Nat
  | .onward => survey.nextVisible progress (position + 1)
  | .landing target => survey.position? target
  | .finish => none

/-- A walk lands on questions that were not presented and that a matching rule jumps to. -/
theorem of_eq_landing_iff {presented : List String} {matched : List Rule} {target : String} :
    of presented matched = .landing target ↔
      ∃ rule, matched.find? (·.action.isFlow) = some rule ∧ rule.action = .jump target ∧
        target ∉ presented := by
  unfold of
  cases matched.find? (·.action.isFlow) with
  | none => simp
  | some rule =>
      obtain ⟨name, conditions, hconditions, junction, action⟩ := rule
      cases action with
      | skip _ => simp
      | reveal _ => simp
      | finish _ => simp
      | jump aim =>
          by_cases haim : aim = target
          · subst haim
            simp
          · by_cases hpresented : aim ∈ presented <;> simp [haim, hpresented]

theorem mem_skipped_opening {progress : Progress} {turn : Turn} {id : String} :
    id ∈ (turn.opening progress).skipped ↔ id ∈ progress.skipped ∧ turn ≠ .landing id := by
  cases turn with
  | onward => simp [opening]
  | landing target => simp [opening, Progress.mem_skipped_unlock, eq_comm]
  | finish => simp [opening]

theorem mem_revealed_opening {progress : Progress} {turn : Turn} {id : String} :
    id ∈ (turn.opening progress).revealed ↔ id ∈ progress.revealed ∨ turn = .landing id := by
  cases turn with
  | onward => simp [opening]
  | landing target => simp [opening, Progress.mem_revealed_unlock, eq_comm]
  | finish => simp [opening]

end Turn

namespace Survey

variable {survey : Survey} {answers : Answers}

/-- The rule that a decision names: the first matching one that ends the survey or jumps, or without
such a rule the first matching one. -/
def decisive? (matched : List Rule) : Option Rule :=
  (matched.find? (·.action.isFlow)).or matched.head?

/-- A walk goes on where the turn takes it. -/
theorem follow_eq {matched : List Rule}
    (htargets : ∀ rule ∈ matched, ∀ target, rule.action.target? = some target →
      (survey.position? target).isSome)
    (progress : Progress) (current : String) (position : Nat) :
    let turn := Turn.of progress.presented matched
    let next := turn.next survey progress position
    (survey.follow progress current position matched).2
      = .ok ⟨turn.opening progress, next,
          survey.decisionTo current next ((decisive? matched).map (·.id))⟩ := by
  unfold follow Turn.of decisive?
  cases hflow : matched.find? (·.action.isFlow) with
  | none => rfl
  | some rule =>
      have hmem : rule ∈ matched := List.mem_of_find?_eq_some hflow
      have hflows := List.find?_some hflow
      obtain ⟨name, conditions, hconditions, junction, action⟩ := rule
      cases action with
      | skip _ => cases hflows
      | reveal _ => cases hflows
      | finish _ => rfl
      | jump target =>
          dsimp only
          by_cases hpresented : target ∈ progress.presented
          · rw [if_pos hpresented, if_pos hpresented]
            rfl
          · obtain ⟨landing, hlanding⟩ := Option.isSome_iff_exists.mp (htargets _ hmem target rfl)
            have hopen : survey.isOpenAt (progress.unlock target) landing = true :=
              isOpenAt_iff.mpr ⟨target, idAt?_of_position? hlanding, isVisible_unlock hpresented⟩
            rw [if_neg hpresented, if_neg hpresented, hlanding]
            simp only [moveOn, nextVisible_self hopen, Turn.opening, Turn.next, hlanding]
            rfl

/-- The rules that match after a walk has presented a question. -/
def matchedAfter (survey : Survey) (answers : Answers) (progress : Progress) (current : String) :
    List Rule :=
  survey.matched answers (progress.presented ++ [current]) current

/-- The turn that a walk takes after it has presented a question. -/
def turnAfter (survey : Survey) (answers : Answers) (progress : Progress) (current : String) :
    Turn :=
  Turn.of (progress.presented ++ [current]) (survey.matchedAfter answers progress current)

/-- The progress of a walk that has presented a question: matching rules skip and reveal others. -/
def acted (survey : Survey) (answers : Answers) (progress : Progress) (current : String) :
    Progress :=
  (progress.present current).applyAll (survey.matchedAfter answers progress current)

@[simp] theorem presented_acted (progress : Progress) (current : String) :
    (survey.acted answers progress current).presented = progress.presented ++ [current] := by
  rw [acted, Progress.presented_applyAll, Progress.presented_present]

/-- What a stride does where unresolvable rules are passed over: after the question is presented the
matching rules act, and the walk goes on where their turn takes it. -/
theorem present_turn (survey : Survey) (answers : Answers) (progress : Progress) (position : Nat)
    (current : String) :
    let turn := survey.turnAfter answers progress current
    let acted := survey.acted answers progress current
    let next := turn.next survey acted position
    let stride := Walker.present survey answers false progress position current
    stride.progress = turn.opening acted ∧ stride.walker = .ofNext next ∧
      stride.outcome = .ok (some (survey.decisionTo current next
        ((decisive? (survey.matchedAfter answers progress current)).map (·.id)))) := by
  intro turn acted next stride
  have htargets : ∀ rule ∈ survey.matchedAfter answers progress current, ∀ target,
      rule.action.target? = some target → (survey.position? target).isSome :=
    fun rule hrule target htarget => position?_isSome_of_mem_matched hrule htarget
  have hfollow := follow_eq htargets acted current position
  rw [presented_acted] at hfollow
  have hstride := Walker.present_of_follow survey answers false progress
    (Prod.ext rfl (survey.matchesAt_lenient answers (progress.present current) current))
    (Prod.ext rfl hfollow)
  rw [show stride = _ from hstride]
  exact ⟨rfl, rfl, rfl⟩

end Survey

end Questionnaire
