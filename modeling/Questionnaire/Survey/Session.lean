import Questionnaire.Answer.Validation
import Questionnaire.Scoring.Survey

/-!
Sessions: a respondent's answers change while one traversal of the survey is open, of which several
walks may be under way at once.  The walks share their progress.
-/

namespace Questionnaire

/-- A traversal of a survey with the answers it is for. -/
structure Session where
  survey : Survey
  /-- Whether an unresolvable rule stops the walks of the traversal. -/
  strict : Bool
  /-- Whether an unresolvable rule stops walks outside of the traversal. -/
  strictOutside : Bool
  /-- The answers, if there is anything to keep them in. -/
  answers : Option Answers
  /-- Whether the traversal sees the answers as they change. -/
  attached : Bool
  progress : Progress
  walkers : Entries Walker

/-- What is done in a session. -/
inductive SessionAction where
  | set (questionId : String) (answer : Json)
  | unset (questionId : String)
  | start (walk : String)
  | step (walk : String)
  | path
  | next (questionId : String)
  | validate
  | score (respectLogic : Bool) (config : Option ScoreConfig)
  | nothing

/-- What comes out of it. -/
inductive SessionReply where
  | nothing
  | decision (decision : Decision)
  | done
  | path (ids : List String)
  | failures (found : Entries (List String))
  | score (score : SurveyScore)

/-- Why nothing comes out of it. -/
inductive SessionError where
  | fault (cause : Fault)
  | invalidRule (invalid : InvalidRule)
  | unknownQuestion (id : String)
  | unknownWalk (name : String)
deriving DecidableEq, Repr

/-- The outcome of an action and the session after it. -/
structure SessionStep where
  session : Session
  warnings : List Warning
  outcome : Except SessionError SessionReply

namespace Session

/-- A session on answers.  The traversal only follows answers that are not empty at the start; else
it goes on without any. -/
def ofAnswers (survey : Survey) (answers : Option Answers)
    (strict strictOutside : Bool) : Session where
  survey
  strict
  strictOutside
  answers
  attached := !(answers.getD []).isEmpty
  progress := .start
  walkers := []

/-- The answers as the traversal sees them. -/
def seenAnswers (session : Session) : Answers :=
  if session.attached then session.answers.getD [] else []

/-- An outcome that leaves the session as it is. -/
def reply (session : Session) (outcome : Except SessionError SessionReply)
    (warnings : List Warning) : SessionStep := ⟨session, warnings, outcome⟩

def set (session : Session) (questionId : String) (answer : Json) : SessionStep :=
  match session.answers with
  | none => session.reply (.error (.fault .wrongKind)) []
  | some answers =>
    { session with answers := some (answers.put questionId answer) }.reply (.ok .nothing) []

def unset (session : Session) (questionId : String) : SessionStep :=
  match session.answers with
  | none => session.reply (.error (.fault .noEntries)) []
  | some answers =>
    { session with answers := some (answers.erase questionId) }.reply (.ok .nothing) []

/-- Begins a walk under a name, in place of one that had it. -/
def start (session : Session) (walk : String) : SessionStep :=
  { session with walkers := session.walkers.put walk .fresh }.reply (.ok .nothing) []

/-- Takes a walk one question further, on the shared progress. -/
def step (session : Session) (walk : String) : SessionStep :=
  match session.walkers.get? walk with
  | none => session.reply (.error (.unknownWalk walk)) []
  | some walker =>
    let stride := walker.advance session.survey session.seenAnswers session.strict session.progress
    let after := { session with
      progress := stride.progress
      walkers := session.walkers.put walk stride.walker }
    match stride.outcome with
    | .error invalid => after.reply (.error (.invalidRule invalid)) stride.warnings
    | .ok none => after.reply (.ok .done) stride.warnings
    | .ok (some decision) => after.reply (.ok (.decision decision)) stride.warnings

/-- A complete walk of the traversal, which leaves its progress behind. -/
def path (session : Session) : SessionStep :=
  let trail := session.survey.walk session.seenAnswers session.strict
  let after := { session with progress := trail.progress }
  match trail.path with
  | .error invalid => after.reply (.error (.invalidRule invalid)) trail.warnings
  | .ok ids => after.reply (.ok (.path ids)) trail.warnings

/-- Where the survey goes on after a question, on the current answers. -/
def next (session : Session) (questionId : String) : SessionStep :=
  match session.survey.next (session.answers.getD []) session.strictOutside questionId with
  | (warnings, .ok decision) => session.reply (.ok (.decision decision)) warnings
  | (warnings, .error (.unknownQuestion id)) =>
    session.reply (.error (.unknownQuestion id)) warnings
  | (warnings, .error (.invalidRule invalid)) =>
    session.reply (.error (.invalidRule invalid)) warnings

/-- The current answers that are not accepted. -/
def validate (session : Session) : SessionStep :=
  match validateAnswers session.survey.questions (session.answers.getD []) with
  | .error cause => session.reply (.error (.fault cause)) []
  | .ok failures => session.reply (.ok (.failures failures)) []

/-- The score of all questions, or of those that are seen on the current answers. -/
def score (session : Session) (respectLogic : Bool) (config : Option ScoreConfig) : SessionStep :=
  let answers := session.answers.getD []
  if respectLogic then
    match session.survey.score answers config session.strictOutside with
    | (warnings, .ok score) => session.reply (.ok (.score score)) warnings
    | (warnings, .error (.fault cause)) => session.reply (.error (.fault cause)) warnings
    | (warnings, .error (.invalidRule invalid)) =>
      session.reply (.error (.invalidRule invalid)) warnings
  else
    match scoreQuestions session.survey.questions answers config with
    | .ok score => session.reply (.ok (.score score)) []
    | .error cause => session.reply (.error (.fault cause)) []

def perform (session : Session) : SessionAction → SessionStep
  | .set questionId answer => session.set questionId answer
  | .unset questionId => session.unset questionId
  | .start walk => session.start walk
  | .step walk => session.step walk
  | .path => session.path
  | .next questionId => session.next questionId
  | .validate => session.validate
  | .score respectLogic config => session.score respectLogic config
  | .nothing => session.reply (.ok .nothing) []

/-- The outcomes of actions one after the other. -/
def performAll (session : Session) : List SessionAction → List SessionStep
  | [] => []
  | action :: rest =>
    let step := session.perform action
    step :: step.session.performAll rest

/-- A walk that is started changes nothing before its first step. -/
theorem start_progress (session : Session) (walk : String) :
    (session.start walk).session.progress = session.progress := rfl

end Session

end Questionnaire
