import Questionnaire.Proofs.Session.History

/-!
Walks beside each other.  The walks of one traversal share their progress, and a walk that begins
forgets the progress of all the others.  So a walk is only sure of its own decisions while no other
walk goes on between its first step and its last.
-/

namespace Questionnaire

namespace SessionAction

/-- Whether an action takes the walk of a name further. -/
def isStepOf (walk : String) : SessionAction → Bool
  | .step name => name = walk
  | _ => false

/-- Whether an action begins a walk of a name. -/
def isStartOf (walk : String) : SessionAction → Bool
  | .start name => name = walk
  | _ => false

end SessionAction

namespace Session

/-- What the steps of one walk yield among other actions. -/
def outcomesOf (walk : String) (session : Session) :
    List SessionAction → List (Except SessionError SessionReply)
  | [] => []
  | action :: rest =>
    let step := session.perform action
    let later := step.session.outcomesOf walk rest
    if action.isStepOf walk then step.outcome :: later else later

/-- Whether a walk has begun and is not over. -/
def isUnderWay (session : Session) (walk : String) : Bool :=
  match session.walkers.get? walk with
  | some (.ahead _) => true
  | _ => false

/-- Whether an action works on the progress for another purpose than a certain walk: a complete walk
does, and a step of another walk that is not over. -/
def disturbs (session : Session) (walk : String) : SessionAction → Bool
  | .path => true
  | .step other => other ≠ walk && match session.walkers.get? other with
    | none => false
    | some walker => walker ≠ .done
  | _ => false

/-- Actions that leave a walk to itself: none begins another walk of its name, and none disturbs it
while it is under way. -/
def keepsApart (walk : String) (session : Session) : List SessionAction → Bool
  | [] => true
  | action :: rest =>
    !action.isStartOf walk && !(session.isUnderWay walk && session.disturbs walk action)
      && (session.perform action).session.keepsApart walk rest

/-- Actions under which the answers that the traversal sees do not change. -/
def keepsAnswers (session : Session) : List SessionAction → Bool
  | [] => true
  | action :: rest =>
    let next := (session.perform action).session
    next.seenAnswers = session.seenAnswers && next.keepsAnswers rest

/-- Two sessions in which a walk goes on alike: it stands at the same place, and with the same
progress if it is under way. -/
structure Abreast (walk : String) (session other : Session) : Prop where
  survey_eq : session.survey = other.survey
  strict_eq : session.strict = other.strict
  seenAnswers_eq : session.seenAnswers = other.seenAnswers
  walker_eq : session.walkers.get? walk = other.walkers.get? walk
  isThere : (session.walkers.get? walk).isSome
  progress_eq : session.isUnderWay walk = true → session.progress = other.progress

end Session

/-- A walk that is not under way does not depend on the progress that is there. -/
theorem Walker.advance_eq_of_progress (survey : Survey) (answers : Answers) (strict : Bool)
    {progress other : Progress} {walker : Walker}
    (h : ∀ position, walker = .ahead position → progress = other) :
    let stride := walker.advance survey answers strict progress
    let beside := walker.advance survey answers strict other
    stride.outcome = beside.outcome ∧ stride.walker = beside.walker
      ∧ (stride.walker ≠ .done → stride.progress = beside.progress) := by
  cases walker with
  | fresh => exact ⟨rfl, rfl, fun _ => rfl⟩
  | ahead position =>
      rw [h position rfl]
      exact ⟨rfl, rfl, fun _ => rfl⟩
  | done => exact ⟨rfl, rfl, fun hdone => absurd rfl hdone⟩

namespace Session

theorem isUnderWay_eq_true_iff {session : Session} {walk : String} :
    session.isUnderWay walk = true
      ↔ ∃ position, session.walkers.get? walk = some (.ahead position) := by
  unfold isUnderWay
  split
  · simp [*]
  · rename_i hother
    simpa using fun position hposition => hother position hposition

variable {walk : String} {session other : Session}

theorem Abreast.refl (h : (session.walkers.get? walk).isSome) : Abreast walk session session where
  survey_eq := rfl
  strict_eq := rfl
  seenAnswers_eq := rfl
  walker_eq := rfl
  isThere := h
  progress_eq := fun _ => rfl

/-- A step of the walk yields the same in both sessions and keeps them abreast. -/
theorem Abreast.step (h : Abreast walk session other) :
    (session.step walk).outcome = (other.step walk).outcome
      ∧ Abreast walk (session.step walk).session (other.step walk).session := by
  obtain ⟨walker, hwalker⟩ := Option.isSome_iff_exists.mp h.isThere
  have hother : other.walkers.get? walk = some walker := h.walker_eq.symm.trans hwalker
  have hstep := session.step_eq hwalker
  have hbeside := other.step_eq hother
  rw [← h.survey_eq, ← h.strict_eq, ← h.seenAnswers_eq] at hbeside
  have hagree (position : Nat) (hposition : walker = .ahead position) :
      session.progress = other.progress :=
    h.progress_eq (isUnderWay_eq_true_iff.mpr ⟨position, hposition ▸ hwalker⟩)
  obtain ⟨houtcome, hplace, hprogress⟩ := Walker.advance_eq_of_progress session.survey
    session.seenAnswers session.strict hagree
  refine ⟨by rw [hstep.1, hbeside.1, houtcome], ?_⟩
  rw [hstep.2, hbeside.2]
  refine ⟨rfl, rfl, h.seenAnswers_eq, ?_, ?_, ?_⟩
  · simp only [Entries.get?_put, if_pos, hplace]
  · simp only [Entries.get?_put, if_pos, Option.isSome_some]
  · intro hunderWay
    obtain ⟨position, hposition⟩ := isUnderWay_eq_true_iff.mp hunderWay
    simp only [Entries.get?_put, if_pos, Option.some.injEq] at hposition
    exact hprogress (by rw [hposition]; nofun)

/-- What another action leaves of the walks and of the progress. -/
theorem perform_walker {action : SessionAction} (hstep : action.isStepOf walk = false)
    (hstart : action.isStartOf walk = false) :
    (session.perform action).session.walkers.get? walk = session.walkers.get? walk := by
  cases action with
  | set questionId answer => simp only [perform, set_session]
  | unset questionId => simp only [perform, unset_session]
  | start name =>
      have hne : walk ≠ name := fun hname => by simp [SessionAction.isStartOf, hname] at hstart
      change (session.walkers.put name .fresh).get? walk = _
      rw [Entries.get?_put, if_neg hne]
  | step name =>
      have hne : walk ≠ name := fun hname => by simp [SessionAction.isStepOf, hname] at hstep
      cases hname : session.walkers.get? name with
      | none => rw [perform, session.step_unknown hname]
      | some walker =>
          rw [perform, (session.step_eq hname).2]
          exact (Entries.get?_put ..).trans (if_neg hne)
  | path => simp only [perform, path_session]
  | next questionId => simp only [perform, next_session]
  | validate => simp only [perform, validate_session]
  | score respectLogic config => simp only [perform, score_session]
  | nothing => rfl

theorem perform_progress_of_not_disturbs {action : SessionAction}
    (hstep : action.isStepOf walk = false) (h : session.disturbs walk action = false) :
    (session.perform action).session.progress = session.progress := by
  cases action with
  | path => cases h
  | step name =>
      have hne : name ≠ walk := by simpa [SessionAction.isStepOf] using hstep
      cases hname : session.walkers.get? name with
      | none => rw [perform, session.step_unknown hname]
      | some walker =>
          have hdone : walker = .done := by simpa [disturbs, hne, hname] using h
          rw [perform, (session.step_eq hname).2, hdone]
          rfl
  | _ => exact session.perform_progress id

/-- Another action keeps the sessions abreast if it leaves the walk to itself. -/
theorem Abreast.beside (h : Abreast walk session other) {action : SessionAction}
    (hstep : action.isStepOf walk = false) (hstart : action.isStartOf walk = false)
    (hanswers : (session.perform action).session.seenAnswers = session.seenAnswers)
    (hapart : session.isUnderWay walk = true → session.disturbs walk action = false) :
    Abreast walk (session.perform action).session other := by
  have hwalker := session.perform_walker hstep hstart
  have hunderWay : (session.perform action).session.isUnderWay walk = session.isUnderWay walk := by
    rw [isUnderWay, isUnderWay, hwalker]
  obtain ⟨progress, walkers, hperform⟩ := session.perform_session action
  refine ⟨?_, ?_, hanswers.trans h.seenAnswers_eq, hwalker.trans h.walker_eq, ?_, ?_⟩
  · rw [hperform]
    exact h.survey_eq
  · rw [hperform]
    exact h.strict_eq
  · rw [hwalker]
    exact h.isThere
  · intro hnow
    rw [hunderWay] at hnow
    rw [perform_progress_of_not_disturbs hstep (hapart hnow)]
    exact h.progress_eq hnow

/-- By induction on the actions: the walk among all of them stays abreast of the walk alone. -/
theorem Abreast.outcomesOf_eq (h : Abreast walk session other) {actions : List SessionAction}
    (hanswers : session.keepsAnswers actions = true)
    (hapart : session.keepsApart walk actions = true) :
    session.outcomesOf walk actions
      = other.outcomesOf walk (actions.filter (·.isStepOf walk)) := by
  induction actions generalizing session other with
  | nil => rfl
  | cons action rest ih =>
      simp only [keepsAnswers, Bool.and_eq_true, decide_eq_true_eq] at hanswers
      simp only [keepsApart, Bool.and_eq_true, Bool.not_eq_true', Bool.and_eq_false_imp] at hapart
      obtain ⟨hsame, hanswers⟩ := hanswers
      obtain ⟨⟨hstart, hleft⟩, hapart⟩ := hapart
      cases hstep : action.isStepOf walk with
      | true =>
          obtain rfl : action = .step walk := by
            cases action with
            | step name => rw [show name = walk by simpa [SessionAction.isStepOf] using hstep]
            | _ => cases hstep
          obtain ⟨houtcome, hnext⟩ := h.step
          simp only [outcomesOf, List.filter_cons, hstep, if_true]
          exact List.cons_eq_cons.mpr ⟨houtcome, ih hnext hanswers hapart⟩
      | false =>
          simp only [outcomesOf, List.filter_cons, hstep, Bool.false_eq_true, if_false]
          exact ih (h.beside hstep hstart hsame hleft) hanswers hapart

/-- A walk that has not begun yields among any actions what it yields alone, if the answers do not
change and no other walk goes on between its first step and its end.  Before its beginning, after
its end, and by anything but walking it is not disturbed. -/
theorem outcomesOf_eq_alone (session : Session) (walk : String) (actions : List SessionAction)
    (hfresh : session.walkers.get? walk = some .fresh)
    (hanswers : session.keepsAnswers actions = true)
    (hapart : session.keepsApart walk actions = true) :
    session.outcomesOf walk actions
      = session.outcomesOf walk (actions.filter (·.isStepOf walk)) :=
  (Abreast.refl (by rw [hfresh]; rfl)).outcomesOf_eq hanswers hapart

namespace Sample

/-- Two walks have been begun, neither of which has taken a step. -/
def pair : Session :=
  let questions := ["q1", "q2", "q3"].map (Survey.Sample.plain · [])
  let survey : Survey := ⟨questions, questions.map fun question => ⟨question.id, question.rules⟩⟩
  (ofAnswers survey none false false).after [.start "a", .start "b"]

/-- The second walk is left unfinished before the first one begins, and goes on after its end. -/
def apart : List SessionAction :=
  [.step "b", .step "b", .step "a", .next "q1", .step "a", .validate, .step "a", .path, .step "b",
    .step "a"]

/-- The second walk is taken to its end between two steps of the first. -/
def crossed : List SessionAction := [.step "a", .step "b", .step "b", .step "b", .step "a"]

end Sample

open Session.Sample

theorem outcomesOf_eq_alone_apart :
    (pair.walkers.get? "a" = some .fresh ∧ pair.keepsAnswers apart = true
        ∧ pair.keepsApart "a" apart = true)
      ∧ pair.outcomesOf "a" apart
        = pair.outcomesOf "a" [.step "a", .step "a", .step "a", .step "a"] := by
  have hfresh : pair.walkers.get? "a" = some .fresh := by decide +kernel
  have hanswers : pair.keepsAnswers apart = true := by decide +kernel
  have hapart : pair.keepsApart "a" apart = true := by decide +kernel
  exact ⟨⟨hfresh, hanswers, hapart⟩, outcomesOf_eq_alone pair "a" apart hfresh hanswers hapart⟩

/-- The first walk ends with the second question, as the third one was presented by the other walk.
Alone it goes on. -/
theorem outcomesOf_disturbed :
    pair.walkers.get? "a" = some .fresh ∧ pair.keepsAnswers crossed = true
      ∧ pair.outcomesOf "a" crossed
        ≠ pair.outcomesOf "a" (crossed.filter (·.isStepOf "a")) := by
  have hcrossed : pair.outcomesOf "a" crossed
      = [.ok (.decision ⟨some "q1", some "q2", false, none⟩),
        .ok (.decision ⟨some "q2", none, true, none⟩)] := rfl
  have halone : pair.outcomesOf "a" (crossed.filter (·.isStepOf "a"))
      = [.ok (.decision ⟨some "q1", some "q2", false, none⟩),
        .ok (.decision ⟨some "q2", some "q3", false, none⟩)] := rfl
  refine ⟨by decide +kernel, by decide +kernel, ?_⟩
  rw [hcrossed, halone]
  simp

end Session

end Questionnaire
