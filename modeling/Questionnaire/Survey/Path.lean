import Questionnaire.Survey.Walk

/-!
Complete walks: the decisions of a walk from its beginning to its end, the path of the questions
that it presents, and where the survey goes on after a question.
-/

namespace Questionnaire

/-- A walk taken as far as it goes: its decisions with the warnings before each of them, and the
rule that stopped it, if one did. -/
structure Trail where
  steps : List (Decision × List Warning)
  progress : Progress
  failure : Option InvalidRule

namespace Trail

def decisions (trail : Trail) : List Decision := trail.steps.map (·.1)

def warnings (trail : Trail) : List Warning := trail.steps.flatMap (·.2)

/-- The decisions of a walk that nothing stopped. -/
def complete (trail : Trail) : Except InvalidRule (List Decision) :=
  match trail.failure with
  | some invalid => .error invalid
  | none => .ok trail.decisions

/-- The presented questions of a walk that nothing stopped. -/
def path (trail : Trail) : Except InvalidRule (List String) :=
  trail.complete.map fun decisions => decisions.filterMap (·.current)

/-- Puts a step in front. -/
def cons (decision : Decision) (warnings : List Warning) (trail : Trail) : Trail :=
  { trail with steps := (decision, warnings) :: trail.steps }

/-- Takes a walk further, at most the given number of steps. -/
def following (survey : Survey) (answers : Answers) (strict : Bool) :
    Nat → Progress → Walker → Trail
  | 0, progress, _ => ⟨[], progress, none⟩
  | steps + 1, progress, walker =>
    let stride := walker.advance survey answers strict progress
    match stride.outcome with
    | .error invalid => ⟨[], stride.progress, some invalid⟩
    | .ok none => ⟨[], stride.progress, none⟩
    | .ok (some decision) =>
      (following survey answers strict steps stride.progress stride.walker).cons
        decision stride.warnings

/-- The same where there is room for values of so many levels; a step that fails leaves no trail. -/
def followingWithin (room : Nat) (survey : Survey) (answers : Answers) (strict : Bool) :
    Nat → Progress → Walker → Except Fault Trail
  | 0, progress, _ => .ok ⟨[], progress, none⟩
  | steps + 1, progress, walker => do
    let stride ← walker.advanceWithin room survey answers strict progress
    match stride.outcome with
    | .error invalid => return ⟨[], stride.progress, some invalid⟩
    | .ok none => return ⟨[], stride.progress, none⟩
    | .ok (some decision) =>
      let trail ← followingWithin room survey answers strict steps stride.progress stride.walker
      return trail.cons decision stride.warnings

end Trail

/-- Why a question has no following one. -/
inductive NavigationError where
  | unknownQuestion (id : String)
  | invalidRule (invalid : InvalidRule)
deriving DecidableEq, Repr

namespace Survey

/-- A complete walk.  Every step presents a question that was not presented before, so there are no
more steps than questions, and one that finds the walk over. -/
def walk (survey : Survey) (answers : Answers) (strict : Bool) : Trail :=
  Trail.following survey answers strict (survey.questions.length + 1) .start .fresh

/-- A complete walk where there is room for values of so many levels. -/
def walkWithin (room : Nat) (survey : Survey) (answers : Answers) (strict : Bool) :
    Except Fault Trail :=
  Trail.followingWithin room survey answers strict (survey.questions.length + 1) .start .fresh

/-- The questions that are presented to a respondent with these answers, in order. -/
def path (survey : Survey) (answers : Answers) (strict : Bool) : Except InvalidRule (List String) :=
  (survey.walk answers strict).path

/-- The question that every walk presents first. -/
def firstQuestion? (survey : Survey) : Option String :=
  (survey.nextVisible .start 0).bind survey.idAt?

/-- Walks up to the decision after a question. -/
def decisionAfter (current : String) :
    List (Decision × List Warning) → List Warning × Option Decision
  | [] => ([], none)
  | (decision, warnings) :: rest =>
    if decision.current = some current then (warnings, some decision)
    else
      let (more, found) := decisionAfter current rest
      (warnings ++ more, found)

/-- The decision after a question that the walk does not present: the following one in survey
order. -/
def inOrder (survey : Survey) (current : String) (position : Nat) : Decision :=
  let next := survey.idAt? (position + 1)
  ⟨some current, next, next.isNone, none⟩

/-- Where the survey goes on after a question. -/
def next (survey : Survey) (answers : Answers) (strict : Bool) (current : String) :
    List Warning × Except NavigationError Decision :=
  match survey.position? current with
  | none => ([], .error (.unknownQuestion current))
  | some position =>
    let trail := survey.walk answers strict
    match decisionAfter current trail.steps with
    | (warnings, some decision) => (warnings, .ok decision)
    | (warnings, none) => match trail.failure with
      | some invalid => (warnings, .error (.invalidRule invalid))
      | none => (warnings ++ [.offPath current], .ok (survey.inOrder current position))

/-- A survey has a first question unless all of its questions are hidden. -/
theorem firstQuestion?_eq_none_iff (survey : Survey) :
    survey.firstQuestion? = none ↔
      ∀ question ∈ survey.questions, survey.isHidden question.id = true := by
  have visible (id : String) : survey.isVisible .start id = !survey.isHidden id := by
    simp [isVisible, Progress.start]
  constructor
  · intro h
    cases hn : survey.nextVisible .start 0 with
    | none =>
      simpa [nextVisible, List.findIdx?_eq_none_iff, visible] using hn
    | some position =>
      obtain ⟨id, hid, _⟩ := survey.nextVisible_isVisible .start hn
      simp [firstQuestion?, hn, hid] at h
  · intro h
    have hn : survey.nextVisible .start 0 = none := by
      simpa [nextVisible, List.findIdx?_eq_none_iff, visible] using h
    simp [firstQuestion?, hn]

end Survey

end Questionnaire
