import Mathlib.Data.List.Basic
import Mathlib.Data.List.Find
import Questionnaire.Proofs.Walk.History
import Questionnaire.Proofs.Walk.Run
import Questionnaire.Proofs.Walk.Trigger

/-!
Surveys with a question inserted.  Where no rule reads or targets the new question, walks through
the two surveys go side by side: the positions behind it are shifted by one, and the longer walk
makes at most one stop more, after which it goes on as if it had not stopped.
-/

namespace Questionnaire

/-- Where a position is found after a question has been inserted at a place. -/
def shift (place position : Nat) : Nat := if position < place then position else position + 1

theorem shift_of_lt {place position : Nat} (h : position < place) :
    shift place position = position := if_pos h

theorem shift_of_le {place position : Nat} (h : place ≤ position) :
    shift place position = position + 1 := if_neg (Nat.not_lt.mpr h)

theorem shift_lt_shift {place i j : Nat} : shift place i < shift place j ↔ i < j := by
  rw [shift, shift]
  split <;> split <;> omega

theorem exists_shift {place position : Nat} (h : position ≠ place) :
    ∃ i, shift place i = position := by
  rcases Nat.lt_or_gt_of_ne h with hbelow | habove
  · exact ⟨position, shift_of_lt hbelow⟩
  · refine ⟨position - 1, ?_⟩
    rw [shift_of_le (by omega)]
    omega

/-- Shifting positions does not change which of them is the latest. -/
theorem latest?_shift (place : Nat) (entries : List (Nat × String)) :
    latest? (entries.map fun entry => (shift place entry.1, entry.2)) = latest? entries := by
  have hlater (best next : Nat × String) :
      later (shift place best.1, best.2) (shift place next.1, next.2)
        = (shift place (later best next).1, (later best next).2) := by
    rw [later, later]
    simp only [shift_lt_shift]
    split <;> rfl
  have hfold (rest : List (Nat × String)) (best : Nat × String) :
      (rest.map fun entry => (shift place entry.1, entry.2)).foldl later
          (shift place best.1, best.2)
        = (shift place (rest.foldl later best).1, (rest.foldl later best).2) := by
    induction rest generalizing best with
    | nil => rfl
    | cons next rest ih =>
        rw [List.map_cons, List.foldl_cons, hlater, ih]
        rfl
  cases entries with
  | nil => rfl
  | cons first rest => exact congrArg (fun last => some last.2) (hfold rest first)

section Rules

variable {before after : List Question} {extra : Question}

theorem position?_insert {id : String} (hid : id ≠ extra.id) :
    position? id (before ++ extra :: after)
      = (position? id (before ++ after)).map (shift before.length) := by
  induction before with
  | nil =>
      rw [List.nil_append, List.nil_append, position?]
      cases position? id after with
      | none => exact if_neg (Ne.symm hid)
      | some position => exact congrArg some (shift_of_le (Nat.zero_le position)).symm
  | cons question before ih =>
      rw [List.cons_append, List.cons_append, position?, position?, ih]
      cases position? id (before ++ after) with
      | none =>
          rw [Option.map_none]
          dsimp only
          split
          · exact congrArg some (shift_of_lt (Nat.zero_lt_succ _)).symm
          · rfl
      | some position =>
          simp only [Option.map_some, Option.some.injEq, List.length_cons, shift]
          split <;> split <;> omega

theorem findQuestion?_insert {id : String} (hid : id ≠ extra.id) :
    findQuestion? (before ++ extra :: after) id = findQuestion? (before ++ after) id := by
  simp [findQuestion?, List.find?_append, Ne.symm hid]

theorem place?_insert {condition : Condition} (h : condition.questionId ≠ extra.id) :
    condition.place? (before ++ extra :: after)
      = (condition.place? (before ++ after)).map
          fun entry => (shift before.length entry.1, entry.2) := by
  rw [Condition.place?, Condition.place?, position?_insert h, Option.map_map, Option.map_map]
  rfl

theorem mapM_place?_insert {conditions : List Condition}
    (h : ∀ condition ∈ conditions, condition.questionId ≠ extra.id) :
    conditions.mapM (Condition.place? (before ++ extra :: after))
      = (conditions.mapM (Condition.place? (before ++ after))).map
          (List.map fun entry => (shift before.length entry.1, entry.2)) := by
  induction conditions with
  | nil => rfl
  | cons first rest ih =>
      rw [List.mapM_cons, List.mapM_cons, place?_insert (h first List.mem_cons_self),
        ih fun condition hcondition => h condition (List.mem_cons_of_mem first hcondition)]
      cases first.place? (before ++ after) with
      | none => rfl
      | some entry => cases rest.mapM (Condition.place? (before ++ after)) <;> rfl

namespace Rule

variable {rule : Rule} (hreads : ∀ condition ∈ rule.conditions, condition.questionId ≠ extra.id)

include hreads

/-- The trigger of a rule stays the same. -/
theorem trigger_insert (owner : String) :
    rule.trigger owner (before ++ extra :: after) = rule.trigger owner (before ++ after) := by
  rw [trigger_eq, trigger_eq, mapM_place?_insert hreads]
  cases rule.conditions.mapM (Condition.place? (before ++ after)) with
  | none => rfl
  | some entries => rw [Option.map_some, Option.bind_some, Option.bind_some, latest?_shift]

/-- Whether a rule can be resolved, and as what, stays the same. -/
theorem resolve_insert (htarget : rule.action.target? ≠ some extra.id) :
    rule.resolve (some (before ++ extra :: after)) = rule.resolve (some (before ++ after)) := by
  have htargets : rule.resolveTarget (some (before ++ extra :: after))
      = rule.resolveTarget (some (before ++ after)) := by
    unfold resolveTarget
    cases haction : rule.action.target? with
    | none => rfl
    | some target =>
        have hother : target ≠ extra.id :=
          fun hsame => htarget (haction.trans (congrArg some hsame))
        simp only [findQuestion?_insert hother]
  have hconditions : (rule.conditions.mapM fun condition =>
        (condition.resolve (some (before ++ extra :: after))).map fun kind => (condition, kind))
      = rule.conditions.mapM fun condition =>
        (condition.resolve (some (before ++ after))).map fun kind => (condition, kind) := by
    apply mapM_congr_of_mem
    intro condition hcondition
    simp only [Condition.resolve, findQuestion?_insert (hreads condition hcondition)]
  rw [resolve, resolve, htargets, hconditions]

/-- Rules hold on the same answers, whatever was answered to the new question. -/
theorem holdsOn_insert (htarget : rule.action.target? ≠ some extra.id) {a b : Answers}
    (hanswers : ∀ id, id ≠ extra.id → a.answerTo id = b.answerTo id) :
    rule.holdsOn (before ++ extra :: after) b = rule.holdsOn (before ++ after) a := by
  have hresolved : rule.evaluate (some (before ++ extra :: after)) b
      = rule.evaluate (some (before ++ after)) b := by
    rw [evaluate, evaluate, resolve_insert hreads htarget]
  have hsame : rule.evaluate (some (before ++ after)) b =
      rule.evaluate (some (before ++ after)) a :=
    rule.evaluate_congr_sources _ fun condition hcondition =>
      (hanswers condition.questionId (hreads condition hcondition)).symm
  rw [holdsOn, holdsOn, hresolved, hsame]

end Rule

end Rules

/-- Two walks have come to the same, but that the first may have presented one question more. -/
structure Progress.Beside (extra : String) (wider progress : Progress) : Prop where
  presented_eq : wider.presented.filter (· ≠ extra) = progress.presented
  skipped_eq : wider.skipped = progress.skipped
  revealed_eq : wider.revealed = progress.revealed
  not_skipped : extra ∉ progress.skipped

namespace Progress.Beside

variable {extra : String} {wider progress : Progress}

theorem start (extra : String) : Progress.start.Beside extra Progress.start :=
  ⟨rfl, rfl, rfl, List.not_mem_nil⟩

variable (h : wider.Beside extra progress)

include h

theorem mem_presented {id : String} (hid : id ≠ extra) :
    id ∈ wider.presented ↔ id ∈ progress.presented := by
  rw [← h.presented_eq, List.mem_filter]
  simp [hid]

theorem presented_append {id : String} (hid : id ≠ extra) :
    (wider.presented ++ [id]).filter (· ≠ extra) = progress.presented ++ [id] := by
  rw [List.filter_append, h.presented_eq]
  simp [hid]

theorem present {id : String} (hid : id ≠ extra) :
    (wider.present id).Beside extra (progress.present id) :=
  ⟨h.presented_append hid, h.skipped_eq, h.revealed_eq, h.not_skipped⟩

/-- The walks are still side by side when one has presented the question that the other lacks. -/
theorem present_extra : (wider.present extra).Beside extra progress := by
  refine ⟨?_, h.skipped_eq, h.revealed_eq, h.not_skipped⟩
  rw [Progress.presented_present, List.filter_append, h.presented_eq]
  simp

theorem apply {action : Action} (htarget : action.target? ≠ some extra) :
    (wider.apply action).Beside extra (progress.apply action) := by
  have hskipped : extra ∉ (progress.apply action).skipped := by
    rw [Progress.mem_skipped_apply]
    rintro (hold | rfl)
    · exact h.not_skipped hold
    · exact htarget rfl
  refine ⟨?_, ?_, ?_, hskipped⟩
  · rw [Progress.presented_apply, Progress.presented_apply, h.presented_eq]
  · cases action <;> simp [Progress.apply, Progress.skip, Progress.reveal, h.skipped_eq]
  · cases action <;> simp [Progress.apply, Progress.skip, Progress.reveal, h.revealed_eq]

theorem applyAll {rules : List Rule} (htargets : ∀ rule ∈ rules, rule.action.target? ≠ some extra) :
    (wider.applyAll rules).Beside extra (progress.applyAll rules) := by
  induction rules generalizing wider progress with
  | nil => exact h
  | cons rule rest ih =>
      exact ih (h.apply (htargets rule List.mem_cons_self)) fun other hother =>
        htargets other (List.mem_cons_of_mem rule hother)

theorem unlock (target : String) : (wider.unlock target).Beside extra (progress.unlock target) := by
  refine ⟨h.presented_eq, ?_, ?_, ?_⟩
  · simp [Progress.unlock, h.skipped_eq]
  · simp [Progress.unlock, Progress.reveal, h.revealed_eq]
  · exact fun hmem => h.not_skipped (Progress.mem_skipped_unlock.mp hmem).1

theorem opening (turn : Turn) : (turn.opening wider).Beside extra (turn.opening progress) := by
  cases turn with
  | onward => exact h
  | landing target => exact h.unlock target
  | finish => exact h

end Progress.Beside

/-- Where the matching rules do not jump to the new question, walks side by side turn alike. -/
theorem Turn.of_filter {extra : String} {presented : List String} {matched : List Rule}
    (htargets : ∀ rule ∈ matched, rule.action.target? ≠ some extra) :
    Turn.of presented matched = Turn.of (presented.filter (· ≠ extra)) matched := by
  rw [of, of]
  cases hflow : matched.find? (·.action.isFlow) with
  | none => rfl
  | some rule =>
      have htarget := htargets rule (List.mem_of_find?_eq_some hflow)
      obtain ⟨name, conditions, hconditions, junction, action⟩ := rule
      cases action with
      | skip _ => rfl
      | reveal _ => rfl
      | finish _ => rfl
      | jump target =>
          have hother : target ≠ extra := fun hsame => htarget (congrArg some hsame)
          simp [hother]

namespace Survey

/-- One survey is another with a question inserted at a place that the rules know nothing of, and
its answers are those to the other one, whatever was answered to the new question. -/
structure Widens (longer survey : Survey) (place : Nat) (extra : String) (a b : Answers) :
    Prop where
  idAt?_shift : ∀ position, longer.idAt? (shift place position) = survey.idAt? position
  idAt?_place : longer.idAt? place = some extra
  fresh : ∀ position, survey.idAt? position ≠ some extra
  position?_eq : ∀ id, id ≠ extra → longer.position? id = (survey.position? id).map (shift place)
  isHidden_eq : ∀ id, id ≠ extra → longer.isHidden id = survey.isHidden id
  isHidden_extra : longer.isHidden extra = false
  matched_eq : ∀ presented id, id ≠ extra →
    longer.matched b presented id = survey.matched a (presented.filter (· ≠ extra)) id
  matched_extra : ∀ presented, longer.matched b presented extra = []
  target_ne : ∀ presented id, ∀ rule ∈ survey.matched a presented id,
    rule.action.target? ≠ some extra

/-- Where the longer walk stands when the other one is about to go on: at the same question, or
before the new one, after which it goes on to the same question. -/
def Meets (longer : Survey) (place : Nat) (extra : String) (wider : Progress)
    (next next' : Option Nat) : Prop :=
  next' = next.map (shift place) ∨
    next' = some place ∧ longer.nextVisible (wider.present extra) (place + 1)
      = next.map (shift place)

namespace Widens

variable {longer survey : Survey} {place : Nat} {extra : String} {a b : Answers}
  {wider progress : Progress} (h : longer.Widens survey place extra a b)
  (hbeside : wider.Beside extra progress)

include h

theorem ne_extra {position : Nat} {id : String} (hid : survey.idAt? position = some id) :
    id ≠ extra := by
  rintro rfl
  exact h.fresh position hid

section Scan

include hbeside

theorem isOpenAt_shift (position : Nat) :
    longer.isOpenAt wider (shift place position) = survey.isOpenAt progress position := by
  rw [isOpenAt, isOpenAt, h.idAt?_shift]
  cases hid : survey.idAt? position with
  | none => rfl
  | some id =>
      have hother := h.ne_extra hid
      simp [isVisible, h.isHidden_eq id hother, hbeside.mem_presented hother, hbeside.skipped_eq,
        hbeside.revealed_eq]

/-- The new question may be presented unless it was presented already. -/
theorem isOpenAt_place : longer.isOpenAt wider place = decide (extra ∉ wider.presented) := by
  have hskipped : extra ∉ wider.skipped := hbeside.skipped_eq ▸ hbeside.not_skipped
  rw [isOpenAt, h.idAt?_place]
  simp [isVisible, h.isHidden_extra, hskipped]

/-- Scans that do not come upon the new question stop at the same question. -/
theorem nextVisible_shift {start start' : Nat}
    (hopen : ∀ position, start ≤ position → survey.isOpenAt progress position = true →
      start' ≤ shift place position)
    (hback : ∀ position, start' ≤ shift place position → start ≤ position)
    (hextra : extra ∈ wider.presented ∨ place < start') :
    longer.nextVisible wider start' = (survey.nextVisible progress start).map (shift place) := by
  have hclosed (position : Nat) (hstart : start' ≤ position)
      (hearlier : ∀ i, shift place i = position → survey.isOpenAt progress i = false) :
      longer.isOpenAt wider position = false := by
    by_cases hplace : position = place
    · subst hplace
      rw [h.isOpenAt_place hbeside]
      rcases hextra with hpresented | hpassed
      · simp [hpresented]
      · omega
    · obtain ⟨i, hi⟩ := exists_shift hplace
      rw [← hi, h.isOpenAt_shift hbeside]
      exact hearlier i hi
  cases hnext : survey.nextVisible progress start with
  | none =>
      rw [nextVisible_eq_none_iff] at hnext
      refine nextVisible_eq_none_iff.mpr fun position hstart => hclosed position hstart ?_
      rintro i rfl
      exact hnext i (hback i hstart)
  | some stop =>
      obtain ⟨hstart, hstop, hearlier⟩ := nextVisible_eq_some_iff.mp hnext
      refine nextVisible_eq_some_iff.mpr
        ⟨hopen stop hstart hstop, (h.isOpenAt_shift hbeside stop).trans hstop, ?_⟩
      intro position hlow hhigh
      refine hclosed position hlow ?_
      rintro i rfl
      exact hearlier i (hback i hlow) (shift_lt_shift.mp hhigh)

/-- A scan that stops before the new question stops there in both surveys. -/
theorem nextVisible_before {start stop : Nat}
    (hnext : survey.nextVisible progress start = some stop) (hstop : stop < place) :
    longer.nextVisible wider start = some stop := by
  obtain ⟨hstart, hopen, hearlier⟩ := nextVisible_eq_some_iff.mp hnext
  refine nextVisible_eq_some_iff.mpr ⟨hstart, ?_, ?_⟩
  · rw [← shift_of_lt hstop, h.isOpenAt_shift hbeside, hopen]
  · intro i hi hlt
    rw [← shift_of_lt (Nat.lt_trans hlt hstop), h.isOpenAt_shift hbeside]
    exact hearlier i hi hlt

/-- A scan that comes upon the new question stops there, and behind it where the other one stops. -/
theorem nextVisible_place {start : Nat} (hstart : start ≤ place) (hfresh : extra ∉ wider.presented)
    (hclosed : ∀ position, start ≤ position → position < place →
      survey.isOpenAt progress position = false) :
    longer.nextVisible wider start = some place ∧
      longer.nextVisible (wider.present extra) (place + 1)
        = (survey.nextVisible progress start).map (shift place) := by
  constructor
  · refine nextVisible_eq_some_iff.mpr ⟨hstart, ?_, ?_⟩
    · rw [h.isOpenAt_place hbeside]
      simpa using hfresh
    · intro i hi hlt
      rw [← shift_of_lt hlt, h.isOpenAt_shift hbeside]
      exact hclosed i hi hlt
  · apply h.nextVisible_shift hbeside.present_extra _ _ (Or.inr (Nat.lt_succ_self place))
    · intro position hle hopen
      rcases Nat.lt_or_ge position place with hlt | hge
      · rw [hclosed position hle hlt] at hopen
        cases hopen
      · rw [shift_of_le hge]
        exact Nat.succ_le_succ hge
    · intro position hle
      have hplace : start < shift place position := Nat.lt_of_le_of_lt hstart hle
      rw [shift] at hplace
      split at hplace <;> omega

/-- Scans that start at the same question, or at the new one and the one behind it, stop at the same
question, but that the longer walk may stop at the new one before. -/
theorem nextVisible_meets {start start' : Nat}
    (hstart : start' = start ∧ start ≤ place ∨ start' = start + 1 ∧ place ≤ start) :
    longer.Meets place extra wider (survey.nextVisible progress start)
      (longer.nextVisible wider start') := by
  by_cases hextra : extra ∈ wider.presented ∨ place < start'
  · refine Or.inl (h.nextVisible_shift hbeside ?_ ?_ hextra)
    · intro position hle _
      rw [shift]
      split <;> omega
    · intro position hle
      rw [shift] at hle
      split at hle <;> omega
  · obtain ⟨hfresh, hbelow⟩ := not_or.mp hextra
    obtain rfl : start' = start := by omega
    have hplace : start' ≤ place := Nat.le_of_not_lt hbelow
    rcases hnext : survey.nextVisible progress start' with _ | stop
    · rw [← hnext]
      exact Or.inr (h.nextVisible_place hbeside hplace hfresh fun position hlow _ =>
        nextVisible_eq_none_iff.mp hnext position hlow)
    · obtain ⟨_, _, hearlier⟩ := nextVisible_eq_some_iff.mp hnext
      rcases Nat.lt_or_ge stop place with hsooner | hlater
      · left
        rw [h.nextVisible_before hbeside hnext hsooner, Option.map_some, shift_of_lt hsooner]
      · rw [← hnext]
        exact Or.inr (h.nextVisible_place hbeside hplace hfresh fun position hlow hhigh =>
          hearlier position hlow (Nat.lt_of_lt_of_le hhigh hlater))

end Scan

section Step

variable {position : Nat} {id : String} (hid : survey.idAt? position = some id)

include hbeside hid

/-- At the same question the same rules match. -/
theorem matchedAfter_eq : longer.matchedAfter b wider id = survey.matchedAfter a progress id := by
  have hother := h.ne_extra hid
  rw [matchedAfter, matchedAfter, h.matched_eq _ id hother, hbeside.presented_append hother]

theorem turnAfter_eq : longer.turnAfter b wider id = survey.turnAfter a progress id := by
  have htargets : ∀ rule ∈ survey.matchedAfter a progress id, rule.action.target? ≠ some extra :=
    h.target_ne _ _
  rw [turnAfter, turnAfter, h.matchedAfter_eq hbeside hid, Turn.of_filter htargets,
    hbeside.presented_append (h.ne_extra hid)]

theorem acted_beside : (longer.acted b wider id).Beside extra (survey.acted a progress id) := by
  rw [acted, acted, h.matchedAfter_eq hbeside hid]
  exact (hbeside.present (h.ne_extra hid)).applyAll (h.target_ne _ _)

/-- After the same question the walks go on to the same one, but that the longer walk may stop at
the new one before. -/
theorem next_meets :
    longer.Meets place extra
      ((survey.turnAfter a progress id).opening (longer.acted b wider id))
      ((survey.turnAfter a progress id).next survey (survey.acted a progress id) position)
      ((survey.turnAfter a progress id).next longer (longer.acted b wider id)
        (shift place position)) := by
  have hacted := h.acted_beside hbeside hid
  cases hturn : survey.turnAfter a progress id with
  | onward =>
      apply h.nextVisible_meets hacted
      rw [shift]
      split <;> omega
  | landing target =>
      obtain ⟨rule, hflow, haction, _⟩ := Turn.of_eq_landing_iff.mp hturn
      have htarget := h.target_ne _ _ rule (List.mem_of_find?_eq_some hflow)
      rw [haction] at htarget
      exact Or.inl (h.position?_eq target fun hsame => htarget (congrArg some hsame))
  | finish => exact Or.inl rfl

end Step

/-- The new question triggers nothing: the longer walk goes on behind it. -/
theorem runs_extra {steps : List (Option String × Option String)}
    (hrest : longer.Runs b (wider.present extra)
      (longer.nextVisible (wider.present extra) (place + 1)) steps) :
    longer.Runs b wider (some place) ((some extra, none) :: steps) := by
  have hmatched : longer.matchedAfter b wider extra = [] := h.matched_extra _
  have hturn : longer.turnAfter b wider extra = .onward := by
    rw [turnAfter, hmatched]
    rfl
  have hacted : longer.acted b wider extra = wider.present extra := by
    rw [acted, hmatched]
    rfl
  have hnamed : (decisive? (longer.matchedAfter b wider extra)).map (·.id) = none := by
    rw [hmatched]
    rfl
  rw [← hnamed]
  refine .step h.idAt?_place ?_
  rw [hturn, hacted]
  exact hrest

/-- Where there is a run beside another from the same question, there is one from where the longer
walk may stop before. -/
theorem exists_runs_of_meets {next next' : Option Nat}
    {steps : List (Option String × Option String)}
    (hruns : ∀ wider : Progress, wider.Beside extra progress →
      ∃ steps', longer.Runs b wider (next.map (shift place)) steps' ∧
        steps'.filter (·.1 ≠ some extra) = steps)
    (hbeside : wider.Beside extra progress) (hmeets : longer.Meets place extra wider next next') :
    ∃ steps', longer.Runs b wider next' steps' ∧ steps'.filter (·.1 ≠ some extra) = steps := by
  rcases hmeets with rfl | ⟨rfl, hbehind⟩
  · exact hruns wider hbeside
  · obtain ⟨steps', hsteps', hsame⟩ := hruns (wider.present extra) hbeside.present_extra
    rw [← hbehind] at hsteps'
    refine ⟨_, h.runs_extra hsteps', ?_⟩
    rw [List.filter_cons_of_neg (by simp)]
    exact hsame

/-- A run from a question has a run of the longer walk beside it that differs in the new question
alone.  By induction on the run: after each step the longer walk stands at the same question, or
takes one step more to get there. -/
theorem exists_runs_shift {next : Option Nat} {steps : List (Option String × Option String)}
    (hruns : survey.Runs a progress next steps) :
    ∀ wider : Progress, wider.Beside extra progress →
      ∃ steps', longer.Runs b wider (next.map (shift place)) steps' ∧
        steps'.filter (·.1 ≠ some extra) = steps := by
  induction hruns with
  | ended progress => exact fun wider _ => ⟨[], .ended wider, rfl⟩
  | @step progress position id steps hid hrest ih =>
      intro wider hbeside
      have hacted := (h.acted_beside hbeside hid).opening (survey.turnAfter a progress id)
      obtain ⟨steps', hsteps', hsame⟩ :=
        h.exists_runs_of_meets ih hacted (h.next_meets hbeside hid)
      rw [← h.turnAfter_eq hbeside hid] at hsteps'
      have hshift : longer.idAt? (shift place position) = some id :=
        (h.idAt?_shift position).trans hid
      refine ⟨_, .step hshift hsteps', ?_⟩
      have hother : some id ≠ some extra := fun h' => h.ne_extra hid (Option.some.inj h')
      rw [List.filter_cons_of_pos (by simpa using hother), hsame, h.matchedAfter_eq hbeside hid]

end Widens

/-- One survey is another with a question inserted that declares no rules. -/
structure Inserts (longer survey : Survey) (before : List Question) (extra : Question)
    (after : List Question) : Prop where
  questions_longer : longer.questions = before ++ extra :: after
  questions_eq : survey.questions = before ++ after
  exists_declared : ∃ first rest, longer.declared = first ++ ⟨extra.id, []⟩ :: rest ∧
    survey.declared = first ++ rest

section Insertion

variable {before after : List Question} {extra : Question}

/-- A question without rules brings an empty group. -/
theorem declaredGroups_insert (hextra : extra.declaredRules = .valid []) {groups : List RuleGroup}
    (h : declaredGroups (before ++ after) = .valid groups) :
    ∃ first rest, groups = first ++ rest ∧
      declaredGroups (before ++ extra :: after) = .valid (first ++ ⟨extra.id, []⟩ :: rest) := by
  induction before generalizing groups with
  | nil => exact ⟨[], groups, rfl, declaredGroups_cons_iff.mpr ⟨[], groups, hextra, h, rfl⟩⟩
  | cons question before ih =>
      obtain ⟨rules, more, hrules, hmore, rfl⟩ := declaredGroups_cons_iff.mp h
      obtain ⟨first, rest, rfl, hinserted⟩ := ih hmore
      refine ⟨⟨question.id, rules⟩ :: first, rest, rfl, ?_⟩
      exact declaredGroups_cons_iff.mpr ⟨rules, _, hrules, hinserted, rfl⟩

/-- With the question inserted the questions still make a survey. -/
theorem exists_inserts (hextra : extra.declaredRules = .valid []) {survey : Survey}
    (hsurvey : ofQuestions (before ++ after) = .valid survey) :
    ∃ longer, ofQuestions (before ++ extra :: after) = .valid longer ∧
      longer.Inserts survey before extra after := by
  obtain ⟨hquestions, hdeclared⟩ := ofQuestions_eq_valid_iff.mp hsurvey
  obtain ⟨first, rest, hgroups, hinserted⟩ := declaredGroups_insert hextra hdeclared
  exact ⟨⟨before ++ extra :: after, first ++ ⟨extra.id, []⟩ :: rest⟩,
    ofQuestions_eq_valid_iff.mpr ⟨rfl, hinserted⟩, rfl, hquestions, first, rest, rfl, hgroups⟩

namespace Inserts

variable {longer survey : Survey} (h : longer.Inserts survey before extra after)

include h

theorem declaredRules_eq : longer.declaredRules = survey.declaredRules := by
  obtain ⟨first, rest, hlonger, hsurvey⟩ := h.exists_declared
  simp [declaredRules, hlonger, hsurvey]

theorem idAt?_shift (position : Nat) :
    longer.idAt? (shift before.length position) = survey.idAt? position := by
  rw [idAt?, idAt?, h.questions_longer, h.questions_eq]
  rcases Nat.lt_or_ge position before.length with hlt | hge
  · rw [shift_of_lt hlt, List.getElem?_append_left hlt, List.getElem?_append_left hlt]
  · rw [shift_of_le hge, List.getElem?_append_right (Nat.le_succ_of_le hge),
      List.getElem?_append_right hge, Nat.succ_sub hge, List.getElem?_cons_succ]

theorem idAt?_place : longer.idAt? before.length = some extra.id := by
  rw [idAt?, h.questions_longer, List.getElem?_append_right (Nat.le_refl _), Nat.sub_self]
  rfl

theorem position?_eq {id : String} (hid : id ≠ extra.id) :
    longer.position? id = (survey.position? id).map (shift before.length) := by
  rw [position?, position?, h.questions_longer, h.questions_eq, position?_insert hid]

theorem isHidden_eq {id : String} (hid : id ≠ extra.id) :
    longer.isHidden id = survey.isHidden id := by
  rw [isHidden, isHidden, h.declaredRules_eq, h.position?_eq hid, Option.isSome_map]

variable (htargets : ∀ entry ∈ survey.declaredRules, entry.2.action.target? ≠ some extra.id)

include htargets

theorem isHidden_extra : longer.isHidden extra.id = false := by
  apply Bool.eq_false_iff.mpr
  intro hhidden
  obtain ⟨_, entry, hentry, haction⟩ := isHidden_iff.mp hhidden
  rw [h.declaredRules_eq] at hentry
  refine htargets entry hentry ?_
  rw [haction]
  rfl

variable (hreads : ∀ entry ∈ survey.declaredRules,
    ∀ condition ∈ entry.2.conditions, condition.questionId ≠ extra.id)
  {a b : Answers} (hanswers : ∀ id, id ≠ extra.id → a.get? id = b.get? id)

include hreads hanswers

/-- In every group the same rule matches first. -/
theorem find?_triggeredBy_eq (presented : List String) (id : String) {group : RuleGroup}
    (hgroup : group ∈ survey.declared) :
    (longer.triggeredBy id group).find? (·.holdsOn longer.questions (b.restrict presented))
      = (survey.triggeredBy id group).find? (·.holdsOn survey.questions
          (a.restrict (presented.filter (· ≠ extra.id)))) := by
  have hseen (other : String) (hother : other ≠ extra.id) :
      (a.restrict (presented.filter (· ≠ extra.id))).answerTo other
        = (b.restrict presented).answerTo other := by
    rw [Answers.answerTo, Answers.answerTo, Answers.get?_restrict, Answers.get?_restrict,
      hanswers other hother]
    simp [hother]
  rw [triggeredBy, triggeredBy, List.find?_filter, List.find?_filter, h.questions_longer,
    h.questions_eq]
  apply List.find?_congr
  intro rule hrule
  have hentry : (group.owner, rule) ∈ survey.declaredRules :=
    List.mem_flatMap.mpr ⟨group, hgroup, List.mem_map.mpr ⟨rule, hrule, rfl⟩⟩
  rw [Rule.trigger_insert (hreads _ hentry),
    Rule.holdsOn_insert (hreads _ hentry) (htargets _ hentry) hseen]

/-- The same rules match after every question. -/
theorem matched_eq (presented : List String) (id : String) :
    longer.matched b presented id
      = survey.matched a (presented.filter (· ≠ extra.id)) id := by
  have hgroups : longer.matched b presented id = survey.declared.filterMap fun group =>
      (longer.triggeredBy id group).find?
        (·.holdsOn longer.questions (b.restrict presented)) := by
    obtain ⟨first, rest, hlonger, hsurvey⟩ := h.exists_declared
    rw [Survey.matched_eq, hlonger, hsurvey, List.filterMap_append, List.filterMap_append]
    -- no rule of the empty group matches
    rfl
  rw [hgroups, Survey.matched_eq]
  exact List.filterMap_congr fun group hgroup =>
    h.find?_triggeredBy_eq htargets hreads hanswers presented id hgroup

variable (hfresh : ∀ question ∈ before ++ after, question.id ≠ extra.id)

include hfresh

omit htargets hreads hanswers in
theorem idAt?_ne (position : Nat) : survey.idAt? position ≠ some extra.id := by
  rw [idAt?, h.questions_eq]
  intro hid
  obtain ⟨question, hquestion, hsame⟩ := Option.map_eq_some_iff.mp hid
  exact hfresh question (List.mem_of_getElem? hquestion) hsame

/-- A rule that matches is triggered by one of its sources, and the new question is none. -/
theorem matched_extra (presented : List String) : longer.matched b presented extra.id = [] := by
  rw [h.matched_eq htargets hreads hanswers, List.eq_nil_iff_forall_not_mem]
  intro rule hrule
  obtain ⟨owner, _, htrigger, typed, htyped⟩ := exists_declared_of_mem_matched hrule
  obtain ⟨last, hlast, _⟩ := rule.position?_trigger owner (Rule.sources_of_resolve htyped)
  rw [htrigger] at hlast
  have hknown : (Questionnaire.position? extra.id survey.questions).isSome := by rw [hlast]; rfl
  obtain ⟨question, hquestion, hsame⟩ := (position?_isSome_iff _ _).mp hknown
  rw [h.questions_eq] at hquestion
  exact hfresh question hquestion hsame

theorem widens : longer.Widens survey before.length extra.id a b where
  idAt?_shift := h.idAt?_shift
  idAt?_place := h.idAt?_place
  fresh := h.idAt?_ne hfresh
  position?_eq _ := h.position?_eq
  isHidden_eq _ := h.isHidden_eq
  isHidden_extra := h.isHidden_extra htargets
  matched_eq presented id _ := h.matched_eq htargets hreads hanswers presented id
  matched_extra := h.matched_extra htargets hreads hanswers hfresh
  target_ne := by
    intro presented id rule hrule
    obtain ⟨owner, hdeclared, _⟩ := exists_declared_of_mem_matched hrule
    exact htargets (owner, rule) hdeclared

end Inserts

/-- Inserting a question without rules that no rule reads or targets leaves the routing as it is:
but for the new question the same ones are presented in the same order, and each decision names the
same rule, whatever the answer to the new question is. -/
theorem routing_insert {survey : Survey}
    (hsurvey : ofQuestions (before ++ after) = .valid survey)
    (hfresh : ∀ question ∈ before ++ after, question.id ≠ extra.id)
    (hrules : extra.rules = []) (hskip : extra.legacySkip = none)
    (hreads : ∀ entry ∈ survey.declaredRules,
      ∀ condition ∈ entry.2.conditions, condition.questionId ≠ extra.id)
    (htargets : ∀ entry ∈ survey.declaredRules, entry.2.action.target? ≠ some extra.id)
    {a b : Answers} (hanswers : ∀ id, id ≠ extra.id → a.get? id = b.get? id) :
    ∃ longer, ofQuestions (before ++ extra :: after) = .valid longer ∧
      ∃ decisions others, (survey.walk a false).complete = .ok decisions ∧
        (longer.walk b false).complete = .ok others ∧
        (others.filter (·.current ≠ some extra.id)).map Decision.route
          = decisions.map Decision.route := by
  have hextra : extra.declaredRules = .valid [] := by
    rw [Question.declaredRules, hskip, hrules]
  obtain ⟨longer, hlonger, hinserts⟩ := exists_inserts hextra hsurvey
  have hwidens := hinserts.widens htargets hreads hanswers hfresh
  obtain ⟨decisions, hdecisions, hruns⟩ := survey.exists_runs a
  obtain ⟨others, hothers, hothersRuns⟩ := longer.exists_runs b
  refine ⟨longer, hlonger, decisions, others, hdecisions, hothers, ?_⟩
  have hbeside := Progress.Beside.start extra.id
  have hmeets := hwidens.nextVisible_meets hbeside (Or.inl ⟨rfl, Nat.zero_le before.length⟩)
  obtain ⟨steps, hsteps, hsame⟩ :=
    hwidens.exists_runs_of_meets (hwidens.exists_runs_shift hruns) hbeside hmeets
  have hroutes : others.map Decision.route = steps := hothersRuns.unique hsteps
  rw [← hroutes, List.filter_map] at hsame
  exact hsame

end Insertion

theorem routing_insert_detour :
    ∃ longer, ofQuestions (Sample.detour.questions.take 1 ++
        Sample.plain "extra" [] :: Sample.detour.questions.drop 1) = .valid longer ∧
      longer.path (("extra", .str "x") :: Sample.allAnswers) false
        = .ok ["q1", "extra", "q2", "q3", "q4"] ∧
      ∃ decisions others, (Sample.detour.walk Sample.allAnswers false).complete = .ok decisions ∧
        (longer.walk (("extra", .str "x") :: Sample.allAnswers) false).complete = .ok others ∧
        (others.filter (·.current ≠ some "extra")).map Decision.route
          = decisions.map Decision.route := by
  have hanswers : ∀ id, id ≠ "extra" → Sample.allAnswers.get? id
      = Entries.get? (("extra", .str "x") :: Sample.allAnswers) id := by
    intro id hid
    rw [Entries.get?, Entries.get?, List.lookup_cons, beq_false_of_ne hid]
  have hsurvey : ofQuestions (Sample.detour.questions.take 1 ++ Sample.detour.questions.drop 1)
      = .valid Sample.detour := rfl
  have hfresh : ∀ question ∈ Sample.detour.questions.take 1 ++ Sample.detour.questions.drop 1,
      question.id ≠ (Sample.plain "extra" []).id := by decide
  obtain ⟨longer, hlonger, hroutes⟩ :=
    routing_insert hsurvey hfresh rfl rfl (by decide) (by decide) hanswers
  refine ⟨longer, hlonger, ?_, hroutes⟩
  cases hlonger
  rfl

end Survey

end Questionnaire
