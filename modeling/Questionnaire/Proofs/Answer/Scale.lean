import Questionnaire.Proofs.Answer.Verdict
import Questionnaire.Proofs.Number.Nearest
import Questionnaire.Proofs.Number.Numerals
import Questionnaire.Proofs.Scoring.Bound

/-!
Numbers as answers.  The check of an answer and its scoring read numbers on their own: the check
takes an integer or a binary number from the answer, and scoring takes an exact integer or a binary
number.  On an answer that is accepted, no truth value and free of stray underscores, the two
readings have the same nearest binary number, so on scales up to `2 ^ 53` the number that is scored
is the one that was checked.
-/

namespace Questionnaire

attribute [local irreducible] Binary64.one Binary64.limit

namespace Validated

variable {α β : Type} {x y z : Validated α}

/-- A check that accepts only what another one reads, as it reads it, and refuses nothing without an
issue. -/
def Narrows (x read : Validated α) : Prop :=
  x ≠ .issues [] ∧ ∀ value, x = .valid value → read = .valid value

theorem narrows_issue {kind : IssueKind} : (Validated.issue kind).Narrows y := ⟨nofun, nofun⟩

theorem narrows_fault {cause : Fault} : (Validated.fault cause).Narrows y := ⟨nofun, nofun⟩

theorem narrows_valid {value : α} : (Validated.valid value).Narrows (.valid value) :=
  ⟨nofun, fun _ h => h⟩

theorem Narrows.map {f : α → β} (h : x.Narrows y) : (x.map f).Narrows (y.map f) := by
  cases x with
  | issues found =>
      refine ⟨fun hnone => h.1 ?_, nofun⟩
      injection hnone with hfound
      rw [hfound]
  | fault cause => exact narrows_fault
  | valid value =>
      rw [h.2 value rfl]
      exact narrows_valid

/-- A further check of what has been read narrows it down. -/
theorem Narrows.andThen {check : α → Validated α} (h : x.Narrows y)
    (hcheck : ∀ value, (check value).Narrows (.valid value)) : (x.andThen check).Narrows y := by
  cases x with
  | issues found => exact ⟨h.1, nofun⟩
  | fault cause => exact narrows_fault
  | valid value =>
      rw [h.2 value rfl]
      exact hcheck value

end Validated

namespace Schema

open Validated

theorem integer_narrows (v : Json) : (integer v).Narrows (integer v) := by
  unfold integer
  split
  · exact narrows_valid
  · exact narrows_valid
  · split
    · exact narrows_issue
    · split
      · split
        · exact narrows_valid
        · exact narrows_issue
      · exact narrows_issue
  · split
    · split
      · exact narrows_issue
      · exact narrows_valid
    · exact narrows_issue
  · exact narrows_issue

theorem float_narrows (v : Json) : (float v).Narrows (float v) := by
  unfold float
  split
  · exact narrows_valid
  · split
    · exact narrows_valid
    · exact narrows_issue
  · exact narrows_valid
  · split
    · exact narrows_valid
    · exact narrows_issue
  · exact narrows_issue

end Schema

namespace AnswerCheck

open Validated

theorem boundedInteger_narrows (low high : Int) (v : Json) :
    (boundedInteger low high v).Narrows (Schema.integer v) := by
  refine (Schema.integer_narrows v).andThen fun i => ?_
  split
  · exact narrows_issue
  · split
    · exact narrows_issue
    · exact narrows_valid

theorem boundedFloat_narrows (low high : Option Number) (v : Json) :
    (boundedFloat low high v).Narrows (Schema.float v) := by
  unfold boundedFloat
  rcases bound_reads low with ⟨-, hlow⟩ | ⟨-, least, hlow⟩
  · rw [hlow]
    exact narrows_fault
  · rcases bound_reads high with ⟨-, hhigh⟩ | ⟨-, most, hhigh⟩
    · rw [hlow, hhigh]
      exact narrows_fault
    · rw [hlow, hhigh]
      refine (Schema.float_narrows v).andThen fun x => ?_
      split
      · exact narrows_issue
      · split
        · exact narrows_issue
        · exact narrows_valid

theorem onStep_narrows (low step : Number) (x : Binary64) :
    (onStep low step x).Narrows (.valid x) := by
  rw [onStep]
  cases isOnStep low step (.float x) with
  | ok reached =>
      cases reached with
      | true => exact narrows_valid
      | false => exact narrows_issue
  | error cause =>
      cases cause with
      | noSuchValue => exact narrows_issue
      | _ => exact narrows_fault

end AnswerCheck

namespace Json

open Numeral Text

variable {answer : Json}

/-- Whether the underscores of a text stand between digits. -/
def isJoinable : Json → Bool
  | .str text => (joinDigits? false (trimChars isSpace text.toList)).isSome
  | _ => true

/-- An integer that is taken from an answer is nearest to what the answer stands for. -/
theorem exists_quantity?_of_integer {i : Int} (h : Schema.integer answer = .valid i)
    (htruth : ∀ value, answer ≠ .bool value) :
    ∃ value, answer.quantity? = some value ∧ value.Near (.int i) := by
  unfold Schema.integer at h
  split at h
  · cases h
    exact ⟨_, rfl, rfl⟩
  · rename_i value
    exact absurd rfl (htruth value)
  · rename_i x
    split at h
    · cases h
    · split at h
      · rename_i j hj
        split at h
        · cases h
          have hplace := Binary64.place?_of_toUnits? (Binary64.toUnits?_of_toInt? hj)
          exact ⟨.float x, rfl, Number.near_of_place?_eq hplace⟩
        · cases h
      · cases h
  · rename_i text
    split at h
    · rename_i j hj
      split at h
      · cases h
      · cases h
        obtain ⟨x, hread, hplace⟩ := quantity?_of_whole? hj
        exact ⟨.float x, hread, hplace⟩
    · cases h
  · cases h

/-- A binary number that is taken from an answer is nearest to what the answer stands for. -/
theorem exists_quantity?_of_float {x : Binary64} (h : Schema.float answer = .valid x)
    (htruth : ∀ value, answer ≠ .bool value) (hjoin : answer.isJoinable = true) :
    ∃ value, answer.quantity? = some value ∧ value.Near (.float x) := by
  unfold Schema.float at h
  split at h
  · cases h
    exact ⟨_, rfl, rfl⟩
  · rename_i i
    split at h
    · cases h
      exact ⟨.int i, rfl, rfl⟩
    · cases h
  · rename_i value
    exact absurd rfl (htruth value)
  · rename_i text
    split at h
    · rename_i y hy
      cases h
      exact ⟨.float x, quantity?_of_data? hy hjoin, rfl⟩
    · cases h
  · cases h

end Json

namespace Question

open AnswerCheck Points Validated

variable {question : Question} {answer : Json}

/-- A question that is answered with a whole number. -/
def AsksForWhole (question : Question) : Prop :=
  question.kind.isRating = true ∨ question.kind = .nps

/-- A question that is answered with a binary number up to a configured one. -/
def AsksForReal (question : Question) : Prop :=
  question.kind = .slider ∨ question.kind = .number ∧ question.max.isSome = true

theorem answerCheck_narrows_whole (hkind : question.AsksForWhole) :
    (question.answerCheck answer).Narrows ((Schema.integer answer).map .ofInt) := by
  unfold answerCheck
  rcases hkind with hrating | hnps
  · cases hkind : question.kind with
    | rating | opinionScale | emojiRating | likert => exact (boundedInteger_narrows _ _ _).map
    | _ =>
        rw [hkind] at hrating
        cases hrating
  · rw [hnps]
    exact (boundedInteger_narrows _ _ _).map

theorem answerCheck_narrows_real (hkind : question.AsksForReal) :
    (question.answerCheck answer).Narrows
      ((Schema.float answer).map fun x => .num (.float x)) := by
  unfold answerCheck
  rcases hkind with hslider | ⟨hnumber, hmax⟩
  · rw [hslider]
    exact ((boundedFloat_narrows _ _ _).andThen fun x => onStep_narrows _ _ x).map
  · have hbounded : (question.min.isSome || question.max.isSome) = true := by
      rw [hmax, Bool.or_true]
    rw [hnumber]
    dsimp only
    rw [if_pos hbounded]
    exact (boundedFloat_narrows _ _ _).map

/-- An answer that is accepted has been read as a value. -/
theorem exists_valid_of_validate {read : Validated Json}
    (hnarrows : (question.answerCheck answer).Narrows read)
    (hanswered : isUnanswered answer = false)
    (haccepted : question.validate answer = .ok []) :
    ∃ value, question.answerCheck answer = .valid value ∧ read = .valid value := by
  have hlines := lines_of_validate hanswered haccepted
  cases hcheck : question.answerCheck answer with
  | valid value => exact ⟨value, rfl, hnarrows.2 value hcheck⟩
  | issues found =>
      rw [hcheck] at hlines
      have hnone : found = [] := List.map_eq_nil_iff.mp (Except.ok.inj hlines)
      exact absurd (hnone ▸ hcheck) hnarrows.1
  | fault cause =>
      rw [hcheck] at hlines
      cases hlines

/-- An accepted answer that is no truth value has been read as a number, and stands for one with the
same nearest binary number. -/
theorem exists_coerced
    (hkind : question.AsksForWhole ∨ question.AsksForReal ∧ answer.isJoinable = true)
    (hanswered : isUnanswered answer = false) (htruth : ∀ value, answer ≠ .bool value)
    (haccepted : question.validate answer = .ok []) :
    ∃ checked read, question.answerCheck answer = .valid (.num checked)
      ∧ answer.quantity? = some read ∧ read.Near checked := by
  rcases hkind with hwhole | ⟨hreal, hjoin⟩
  · obtain ⟨v, hcheck, hv⟩ :=
      exists_valid_of_validate (answerCheck_narrows_whole hwhole) hanswered haccepted
    obtain ⟨i, hi, rfl⟩ := map_eq_valid_iff.mp hv
    obtain ⟨read, hread, hnear⟩ := Json.exists_quantity?_of_integer hi htruth
    exact ⟨.int i, read, hcheck, hread, hnear⟩
  · obtain ⟨v, hcheck, hv⟩ :=
      exists_valid_of_validate (answerCheck_narrows_real hreal) hanswered haccepted
    obtain ⟨x, hx, rfl⟩ := map_eq_valid_iff.mp hv
    obtain ⟨read, hread, hnear⟩ := Json.exists_quantity?_of_float hx htruth hjoin
    exact ⟨.float x, read, hcheck, hread, hnear⟩

/-- The number that is worth the most points. -/
def scaleTop (question : Question) : Number :=
  if question.kind = .nps then npsTop else question.numericUpperBound

/-- The points of a number on the scale, out of those of its top.  Recommendations have no
weight. -/
def pointsOnScale (question : Question) (value : Number) : Except Fault Points :=
  if question.kind = .nps then .ok ⟨value, npsTop⟩
  else weighted value question.numericUpperBound question.weight

/-- No points, out of those of the top of the scale. -/
def noPointsOnScale (question : Question) : Except Fault Points :=
  if question.kind = .nps then .ok ⟨0, npsTop⟩
  else do return ⟨0, ← question.numericUpperBound.mul question.weight⟩

theorem nps_or_numericDirect (hkind : question.AsksForWhole ∨ question.AsksForReal) :
    question.kind = .nps
      ∨ question.kind ≠ .nps ∧ question.kind.scoringMode = .numericDirect := by
  rcases hkind with (hrating | hnps) | hslider | ⟨hnumber, -⟩
  · cases hkind : question.kind with
    | rating | opinionScale | emojiRating | likert => exact .inr ⟨nofun, rfl⟩
    | _ =>
        rw [hkind] at hrating
        cases hrating
  · exact .inl hnps
  · exact .inr (hslider ▸ ⟨nofun, rfl⟩)
  · exact .inr (hnumber ▸ ⟨nofun, rfl⟩)

/-- What an answer stands for is kept on the scale, and what stands for no number has no points. -/
theorem earned_onScale (hkind : question.AsksForWhole ∨ question.AsksForReal)
    (hpositive : Number.lt 0 question.scaleTop = true)
    (hscorable : question.scorable ≠ some false) :
    question.earned answer = match answer.quantity? with
      | none => question.noPointsOnScale
      | some read => question.pointsOnScale (read.clamp question.scaleTop) := by
  rw [earned, if_neg hscorable]
  unfold pointsOnScale noPointsOnScale scaleTop at *
  rcases nps_or_numericDirect hkind with hnps | ⟨hother, hmode⟩
  · rw [if_pos hnps, if_pos hnps, hnps]
    change Except.ok (ofNps answer) = _
    unfold ofNps
    cases answer.quantity? with
    | none => rfl
    | some read => exact (if_pos rfl).symm
  · rw [if_neg hother] at hpositive
    obtain ⟨hzero, hupper⟩ := Number.place?_ne_none_of_le (Number.le_of_lt hpositive)
    have habove : ¬ question.numericUpperBound.le 0 = true :=
      (Number.lt_iff_not_le hzero hupper).mp hpositive
    rw [if_neg hother, if_neg hother, hmode, inMode, ofNumeric, if_neg habove]
    cases answer.quantity? with
    | none => rfl
    | some read => exact (if_neg hother).symm

/-- A slider from zero to a hundred. -/
def percentSlider : Question := { Survey.Sample.plain "q1" [] with kind := .slider }

/-- A scale of points from one. -/
def pointScale (top : Int) : Question :=
  { Survey.Sample.plain "q1" [] with kind := .rating, ratingScale := some top }

end Question

end Questionnaire
