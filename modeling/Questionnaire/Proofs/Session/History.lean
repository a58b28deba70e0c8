import Questionnaire.Proofs.Walk.Replay
import Questionnaire.Survey.Session

/-!
What a session keeps of the actions in it.  The answers are what the changes to them have made; the
progress is what walks have left behind, and a walk that begins forgets it.
-/

namespace Questionnaire

namespace SessionAction

/-- What an action makes of the answers, if there is anything to keep them in. -/
def change (answers : Option Answers) : SessionAction → Option Answers
  | .set questionId answer => answers.map (·.put questionId answer)
  | .unset questionId => answers.map (·.erase questionId)
  | _ => answers

/-- Whether an action takes a walk of the traversal further. -/
def IsWalking : SessionAction → Prop
  | .step _ => True
  | .path => True
  | _ => False

end SessionAction

/-- What a step of a walk yields. -/
def SessionReply.ofStride : Except InvalidRule (Option Decision) → Except SessionError SessionReply
  | .error invalid => .error (.invalidRule invalid)
  | .ok none => .ok .done
  | .ok (some yielded) => .ok (.decision yielded)

namespace Session

/-- The session after actions one after the other. -/
def after (session : Session) (actions : List SessionAction) : Session :=
  actions.foldl (fun session action => (session.perform action).session) session

@[simp] theorem after_nil (session : Session) : session.after [] = session := rfl

@[simp] theorem after_cons (session : Session) (action : SessionAction)
    (rest : List SessionAction) :
    session.after (action :: rest) = (session.perform action).session.after rest := rfl

variable (session : Session)

theorem set_session (questionId : String) (answer : Json) : (session.set questionId answer).session
    = { session with answers := session.answers.map (·.put questionId answer) } := by
  unfold set
  cases h : session.answers with
  | none =>
      change session = { session with answers := none }
      rw [← h]
  | some answers => rfl

theorem unset_session (questionId : String) : (session.unset questionId).session
    = { session with answers := session.answers.map (·.erase questionId) } := by
  unfold unset
  cases h : session.answers with
  | none =>
      change session = { session with answers := none }
      rw [← h]
  | some answers => rfl

/-- A walk that is there is taken further, on the progress of the session. -/
theorem step_eq {walk : String} {walker : Walker} (h : session.walkers.get? walk = some walker) :
    let stride := walker.advance session.survey session.seenAnswers session.strict session.progress
    (session.step walk).outcome = SessionReply.ofStride stride.outcome
      ∧ (session.step walk).session = { session with
          progress := stride.progress
          walkers := session.walkers.put walk stride.walker } := by
  unfold step
  rw [h]
  dsimp only
  split
  · rename_i invalid houtcome
    rw [houtcome]
    exact ⟨rfl, rfl⟩
  · rename_i houtcome
    rw [houtcome]
    exact ⟨rfl, rfl⟩
  · rename_i yielded houtcome
    rw [houtcome]
    exact ⟨rfl, rfl⟩

/-- A step of a walk that is not there changes nothing. -/
theorem step_unknown {walk : String} (h : session.walkers.get? walk = none) :
    (session.step walk).session = session := by
  unfold step
  rw [h]
  rfl

theorem step_session (walk : String) : ∃ progress walkers,
    (session.step walk).session = { session with progress, walkers } := by
  cases h : session.walkers.get? walk with
  | none => exact ⟨session.progress, session.walkers, session.step_unknown h⟩
  | some walker => exact ⟨_, _, (session.step_eq h).2⟩

theorem path_session : session.path.session = { session with
    progress := (session.survey.walk session.seenAnswers session.strict).progress } := by
  unfold path
  dsimp only
  split
  · rfl
  · rfl

theorem next_session (questionId : String) : (session.next questionId).session = session := by
  unfold next
  split
  · rfl
  · rfl
  · rfl

theorem validate_session : session.validate.session = session := by
  unfold validate
  split
  · rfl
  · rfl

theorem score_session (respectLogic : Bool) (config : Option ScoreConfig) :
    (session.score respectLogic config).session = session := by
  unfold score
  dsimp only
  split
  · split
    · rfl
    · rfl
    · rfl
  · split
    · rfl
    · rfl

/-- An action changes the answers as it says, and beside them the progress and the walks at most. -/
theorem perform_session (action : SessionAction) : ∃ progress walkers,
    (session.perform action).session
      = { session with answers := action.change session.answers, progress, walkers } := by
  cases action with
  | set questionId answer => exact ⟨_, _, session.set_session questionId answer⟩
  | unset questionId => exact ⟨_, _, session.unset_session questionId⟩
  | start walk => exact ⟨_, _, rfl⟩
  | step walk => exact session.step_session walk
  | path => exact ⟨_, _, session.path_session⟩
  | next questionId => exact ⟨_, _, session.next_session questionId⟩
  | validate => exact ⟨_, _, session.validate_session⟩
  | score respectLogic config => exact ⟨_, _, session.score_session respectLogic config⟩
  | nothing => exact ⟨_, _, rfl⟩

/-- The progress is changed by walking alone. -/
theorem perform_progress {action : SessionAction} (h : ¬ action.IsWalking) :
    (session.perform action).session.progress = session.progress := by
  cases action with
  | set questionId answer => simp only [perform, set_session]
  | unset questionId => simp only [perform, unset_session]
  | start walk => rfl
  | step walk => exact absurd trivial h
  | path => exact absurd trivial h
  | next questionId => simp only [perform, next_session]
  | validate => simp only [perform, validate_session]
  | score respectLogic config => simp only [perform, score_session]
  | nothing => rfl

/-- Actions change the answers one after the other, and beside them the progress and the walks at
most. -/
theorem after_eq (actions : List SessionAction) : ∃ progress walkers,
    session.after actions = { session with
      answers := actions.foldl SessionAction.change session.answers, progress, walkers } := by
  induction actions generalizing session with
  | nil => exact ⟨session.progress, session.walkers, rfl⟩
  | cons action rest ih =>
      obtain ⟨progress, walkers, hfirst⟩ := session.perform_session action
      obtain ⟨progress', walkers', hrest⟩ := ih (session.perform action).session
      refine ⟨progress', walkers', ?_⟩
      rw [after_cons, hrest, hfirst]
      rfl

/-- A complete walk of a traversal that passes unresolvable rules over. -/
theorem path_outcome {session : Session} (h : session.strict = false) :
    ∃ ids, session.survey.path session.seenAnswers false = .ok ids
      ∧ session.path.outcome = .ok (.path ids) := by
  obtain ⟨ids, hids⟩ := session.survey.exists_shows session.seenAnswers
  refine ⟨ids, hids.path_eq, ?_⟩
  have htrail : (session.survey.walk session.seenAnswers false).path = .ok ids := hids.path_eq
  unfold path
  rw [h]
  simp only [htrail]
  rfl

/-- Whatever was done in a session before, a complete walk presents the questions of a walk on the
answers as they are by then, if the session began with any, and without answers otherwise.  It is
the walk that would come of a beginning on the progress left behind.  That progress is left as it is
by everything but walking: changes of the answers, navigation, validation and scores. -/
theorem path_current (survey : Survey) (answers : Option Answers) (actions : List SessionAction) :
    let session := (ofAnswers survey answers false false).after actions
    let current := actions.foldl SessionAction.change answers
    let seen := if (answers.getD []).isEmpty then [] else current.getD []
    (∃ ids, survey.path seen false = .ok ids ∧ session.path.outcome = .ok (.path ids)
        ∧ (Trail.following survey seen false (survey.questions.length + 1) session.progress
            .fresh).path = .ok ids)
      ∧ ∀ action : SessionAction, ¬ action.IsWalking →
        (session.perform action).session.progress = session.progress := by
  intro session current seen
  obtain ⟨progress, walkers, hafter⟩ := (ofAnswers survey answers false false).after_eq actions
  have hsession : session = { ofAnswers survey answers false false with
    answers := current, progress, walkers } := hafter
  have hseen : session.seenAnswers = seen := by
    rw [hsession]
    simp only [seenAnswers, ofAnswers, seen, Bool.not_eq_true']
    cases List.isEmpty (answers.getD []) <;> rfl
  have hsurvey : session.survey = survey := congrArg Session.survey hsession
  have hstrict : session.strict = false := congrArg Session.strict hsession
  obtain ⟨ids, hpath, houtcome⟩ := path_outcome hstrict
  rw [hseen, hsurvey] at hpath
  exact ⟨⟨ids, hpath, houtcome, hpath⟩, fun action h => session.perform_progress h⟩

namespace Sample

/-- A walk is left unfinished, and another answer is given meanwhile. -/
def unfinished : List SessionAction :=
  [.start "a", .step "a", .set "q2" (.str "b"), .next "q1", .step "a"]

end Sample

/-- The answer that was given meanwhile counts, and the walk that was left unfinished does not. -/
theorem path_current_unfinished :
    let session := (ofAnswers Survey.Sample.survey (some [("q1", .str "a")]) false false).after
      Sample.unfinished
    session.path.outcome = .ok (.path ["q1", "q2", "q4"])
      ∧ ¬ SessionAction.validate.IsWalking
        ∧ (session.perform .validate).session.progress = session.progress := by
  intro session
  obtain ⟨⟨ids, hpath, houtcome, -⟩, hkept⟩ :=
    path_current Survey.Sample.survey (some [("q1", .str "a")]) Sample.unfinished
  have hids : Survey.Sample.survey.path [("q1", .str "a"), ("q2", .str "b")] false
      = .ok ["q1", "q2", "q4"] := rfl
  cases hids.symm.trans hpath
  exact ⟨houtcome, id, hkept .validate id⟩

end Session

end Questionnaire
