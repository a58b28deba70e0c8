import Questionnaire.Survey.Basic

/-!
Walks through a survey, one question at a time.  After a question is presented, the rules that it
triggers are evaluated on the answers to the questions presented so far; they may skip and reveal
questions, and decide where the walk goes on.  A step of a walk fails if a rule takes the text of a
value that has none.
-/

namespace Questionnaire

/-- What a walk has done so far. -/
structure Progress where
  presented : List String
  skipped : List String
  revealed : List String
deriving DecidableEq, Repr

namespace Progress

def start : Progress := ⟨[], [], []⟩

/-- Adds a name to a list unless it is there. -/
def insert (name : String) (names : List String) : List String :=
  if name ∈ names then names else names ++ [name]

def present (progress : Progress) (id : String) : Progress :=
  { progress with presented := progress.presented ++ [id] }

def skip (progress : Progress) (id : String) : Progress :=
  { progress with skipped := insert id progress.skipped }

def reveal (progress : Progress) (id : String) : Progress :=
  { progress with revealed := insert id progress.revealed }

/-- Opens a question whether it was skipped or hidden. -/
def unlock (progress : Progress) (id : String) : Progress :=
  { progress.reveal id with skipped := progress.skipped.filter (· ≠ id) }

/-- Skips or reveals the target of an action; the other actions change nothing. -/
def apply (progress : Progress) : Action → Progress
  | .skip target => progress.skip target
  | .reveal target => progress.reveal target
  | _ => progress

/-- Applies the actions of several rules, one after the other. -/
def applyAll (progress : Progress) (rules : List Rule) : Progress :=
  rules.foldl (fun progress rule => progress.apply rule.action) progress

end Progress

/-- Only the answers to some questions. -/
def Answers.restrict (answers : Answers) (ids : List String) : Answers :=
  answers.filter fun (id, _) => id ∈ ids

namespace Survey

/-- Whether a walk may present a question: it is not skipped, was not presented, and is not hidden
unless it was revealed. -/
def isVisible (survey : Survey) (progress : Progress) (id : String) : Bool :=
  id ∉ progress.skipped && id ∉ progress.presented
    && (!survey.isHidden id || id ∈ progress.revealed)

/-- The position of the first visible question from `start` on. -/
def nextVisible (survey : Survey) (progress : Progress) (start : Nat) : Option Nat :=
  ((survey.questions.drop start).findIdx? fun question => survey.isVisible progress question.id).map
    (start + ·)

def idAt? (survey : Survey) (position : Nat) : Option String :=
  survey.questions[position]?.map (·.id)

/-- The first matching rule of every group that has one. -/
def firstMatches (survey : Survey) (answers : Answers) (strict : Bool) :
    List RuleGroup → List Warning × Except InvalidRule (List Rule)
  | [] => ([], .ok [])
  | group :: rest =>
    match firstMatch (some survey.questions) answers strict group.rules with
    | (warnings, .error invalid) => (warnings, .error invalid)
    | (warnings, .ok found) =>
      let (more, outcome) := firstMatches survey answers strict rest
      (warnings ++ more, outcome.map fun rules => found.toList ++ rules)

/-- The rules that match after a question, on the answers to the presented questions. -/
def matchesAt (survey : Survey) (answers : Answers) (strict : Bool) (progress : Progress)
    (id : String) : List Warning × Except InvalidRule (List Rule) :=
  survey.firstMatches (answers.restrict progress.presented) strict (survey.groupsAt id)

/-- The values whose texts are taken to find the first matching rule of every group. -/
def textsOfGroups (survey : Survey) (answers : Answers) (strict : Bool) : List RuleGroup → List Json
  | [] => []
  | group :: rest => textsOfFirst (some survey.questions) answers strict group.rules ++
    match (firstMatch (some survey.questions) answers strict group.rules).2 with
    | .error _ => []
    | .ok _ => textsOfGroups survey answers strict rest

/-- The values whose texts are taken to find the rules that match after a question. -/
def textsAt (survey : Survey) (answers : Answers) (strict : Bool) (progress : Progress)
    (id : String) : List Json :=
  survey.textsOfGroups (answers.restrict progress.presented) strict (survey.groupsAt id)

/-- The decision to go on to a position, or to end where there is none. -/
def decisionTo (survey : Survey) (current : String) (next : Option Nat) (ruleId : Option String) :
    Decision :=
  ⟨some current, next.bind survey.idAt?, next.isNone, ruleId⟩

/-- A decision with the progress and the next position that come with it. -/
structure Move where
  progress : Progress
  next : Option Nat
  decision : Decision
deriving DecidableEq

/-- Goes on from `start`. -/
def moveOn (survey : Survey) (progress : Progress) (current : String) (start : Nat)
    (ruleId : Option String) : Move :=
  let next := survey.nextVisible progress start
  ⟨progress, next, survey.decisionTo current next ruleId⟩

/-- Follows the first matching rule that ends the survey or jumps; without one the walk goes on with
the following question.  A jump opens its target, unless that was presented already; it cannot land
on a question that does not exist. -/
def follow (survey : Survey) (progress : Progress) (current : String) (position : Nat)
    (matched : List Rule) : List Warning × Except InvalidRule Move :=
  match matched.find? (·.action.isFlow) with
  | none => ([], .ok (survey.moveOn progress current (position + 1) (matched.head?.map (·.id))))
  | some rule => match rule.action with
    | .jump target =>
      if target ∈ progress.presented then
        ([.jumpIgnored current target rule.id],
          .ok (survey.moveOn progress current (position + 1) (some rule.id)))
      else match survey.position? target with
        | some landing =>
          ([], .ok (survey.moveOn (progress.unlock target) current landing (some rule.id)))
        | none => ([], .error ⟨some rule.id, .unknownTarget target⟩)
    | _ => ([], .ok ⟨progress, none, ⟨some current, none, true, some rule.id⟩⟩)

end Survey

/-- Where a walk stands between two of its steps. -/
inductive Walker where
  | fresh
  | ahead (position : Nat)
  | done
deriving DecidableEq, Repr

/-- One step of a walk: what it leaves behind, and the decision that it yields unless it is over. -/
structure Stride where
  warnings : List Warning
  progress : Progress
  walker : Walker
  outcome : Except InvalidRule (Option Decision)

namespace Walker

/-- A walk that goes on at a position, or is over. -/
def ofNext : Option Nat → Walker
  | some position => .ahead position
  | none => .done

/-- Presents the question at a position and moves on.  The question stays presented when a rule
cannot be resolved or followed, and the walk is over. -/
def present (survey : Survey) (answers : Answers) (strict : Bool) (progress : Progress)
    (position : Nat) (current : String) : Stride :=
  let progress := progress.present current
  match survey.matchesAt answers strict progress current with
  | (warnings, .error invalid) => ⟨warnings, progress, .done, .error invalid⟩
  | (warnings, .ok matched) =>
    let progress := progress.applyAll matched
    match survey.follow progress current position matched with
    | (more, .error invalid) => ⟨warnings ++ more, progress, .done, .error invalid⟩
    | (more, .ok move) =>
      ⟨warnings ++ more, move.progress, ofNext move.next, .ok (some move.decision)⟩

/-- Goes on at a position, if there is a question. -/
def presentAt (survey : Survey) (answers : Answers) (strict : Bool) (progress : Progress)
    (next : Option Nat) : Stride :=
  match next.bind fun position => (survey.idAt? position).map fun id => (position, id) with
  | some (position, id) => present survey answers strict progress position id
  | none => ⟨[], progress, .done, .ok none⟩

/-- The values whose texts are taken where a walk goes on at a position. -/
def textsOfNext (survey : Survey) (answers : Answers) (strict : Bool) (progress : Progress)
    (next : Option Nat) : List Json :=
  match next.bind survey.idAt? with
  | some id => survey.textsAt answers strict (progress.present id) id
  | none => []

/-- Takes a walk one question further.  A walk begins by forgetting all progress; one that is over
changes nothing. -/
def advance (survey : Survey) (answers : Answers) (strict : Bool) (progress : Progress) :
    Walker → Stride
  | .fresh => presentAt survey answers strict .start (survey.nextVisible .start 0)
  | .ahead position => presentAt survey answers strict progress (some position)
  | .done => ⟨[], progress, .done, .ok none⟩

/-- The values whose texts are taken on the way to the next question of a walk. -/
def texts (survey : Survey) (answers : Answers) (strict : Bool) (progress : Progress) :
    Walker → List Json
  | .fresh => textsOfNext survey answers strict .start (survey.nextVisible .start 0)
  | .ahead position => textsOfNext survey answers strict progress (some position)
  | .done => []

/-- Takes a walk one question further, where there is room for values of so many levels.  It fails
at the first value that has no text. -/
def advanceWithin (room : Nat) (survey : Survey) (answers : Answers) (strict : Bool)
    (progress : Progress) (walker : Walker) : Except Fault Stride := do
  let _ ← (walker.texts survey answers strict progress).mapM (Json.displayWithin room)
  return walker.advance survey answers strict progress

end Walker

namespace Survey

theorem isVisible_presented (survey : Survey) {progress : Progress} {id : String}
    (h : id ∈ progress.presented) : survey.isVisible progress id = false := by
  simp [isVisible, h]

/-- The walk only goes on to visible questions. -/
theorem nextVisible_isVisible (survey : Survey) (progress : Progress) {start position : Nat}
    (h : survey.nextVisible progress start = some position) :
    ∃ id, survey.idAt? position = some id ∧ survey.isVisible progress id = true
      ∧ start ≤ position := by
  unfold nextVisible at h
  obtain ⟨offset, hoffset, rfl⟩ := Option.map_eq_some_iff.1 h
  obtain ⟨hlt, hvisible, _⟩ := List.findIdx?_eq_some_iff_getElem.1 hoffset
  refine ⟨((survey.questions.drop start)[offset]).id, ?_, hvisible, Nat.le_add_right _ _⟩
  have hposition : start + offset < survey.questions.length := by
    simp only [List.length_drop] at hlt
    omega
  simp [idAt?, List.getElem_drop, List.getElem?_eq_getElem hposition]

end Survey

end Questionnaire
