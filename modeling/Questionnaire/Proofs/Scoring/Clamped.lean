import Questionnaire.Proofs.Number.Counted
import Questionnaire.Proofs.Scoring.Maximum

/-!
Scores of numbers.  A number that is scored is first kept between zero and the top of its scale, so
that its points are in range whatever the answer was: a text, a truth value, a list, not a number or
an infinity.  Only what stands for no number goes without the weight.
-/

namespace Questionnaire

/-- Whatever a number was, kept within a range that is not empty it is one of the range. -/
theorem Number.inRange_clamp {top : Number} (hcounted : top.IsCounted)
    (hnonneg : Number.le 0 top = true) (value : Number) : (value.clamp top).isNaN = false
      ∧ Number.le 0 (value.clamp top) = true ∧ (value.clamp top).le top = true := by
  obtain ⟨hkept, hle⟩ : (value.clamp top).IsCounted ∧ _ := clamp_spec hcounted hnonneg
  exact ⟨place?_ne_none_iff.mp hkept.place?_ne_none, zero_le_clamp value, hle⟩

/-- The points of a number between zero and a top under a weight, out of those of the top.  An
answer that nothing is read from has no points; a finite weight makes no difference to that. -/
structure QuestionScore.IsClamped (scored : QuestionScore) (top weight : Number) (read : Bool) :
    Prop where
  maxScore : (top.mul weight).map Number.tidy = .ok scored.maxScore
  score : ∃ value : Number, value.isNaN = false ∧ Number.le 0 value = true ∧ value.le top = true
    ∧ (read = true ∨ weight.IsCounted → (value.mul weight).map Number.tidy = .ok scored.score)
  score_of_unread : read = false → scored.score = 0

namespace QuestionScore

variable {scored : QuestionScore} {points : Points} {top weight : Number}
  (hscore : scored.score = points.score.tidy) (hmost : scored.maxScore = points.most.tidy)
  (htop : top.mul weight = .ok points.most)

include hscore hmost htop

theorem isClamped_of_clamp (hcounted : top.IsCounted) (hnonneg : Number.le 0 top = true)
    {value : Number} (hvalue : (value.clamp top).mul weight = .ok points.score) :
    scored.IsClamped top weight true where
  maxScore := by
    rw [htop, hmost]
    rfl
  score := by
    obtain ⟨hnumber, hlow, hhigh⟩ := Number.inRange_clamp hcounted hnonneg value
    refine ⟨value.clamp top, hnumber, hlow, hhigh, fun _ => ?_⟩
    rw [hvalue, hscore]
    rfl
  score_of_unread := nofun

theorem isClamped_of_unread (hnonneg : Number.le 0 top = true) (hzero : points.score = 0) :
    scored.IsClamped top weight false where
  maxScore := by
    rw [htop, hmost]
    rfl
  score := by
    have hnone : scored.score = 0 := by
      rw [hscore, hzero]
      rfl
    refine ⟨0, rfl, Number.le_refl Number.isCounted_zero.place?_ne_none, hnonneg, fun hread => ?_⟩
    obtain ⟨product, hproduct, htidy⟩ := Number.exists_zero_mul (hread.resolve_left nofun)
    rw [hproduct, hnone, ← htidy]
    rfl
  score_of_unread _ := by
    rw [hscore, hzero]
    rfl

end QuestionScore

/-- Whether points are shared out in an answer. -/
def sharesOut (answer : Json) : Bool :=
  match answer with
  | .obj allocation => !allocation.isEmpty
  | _ => false

section Modes

open Points

variable {question : Question} {answer : Json} {scored : QuestionScore} {points : Points}
  (hscore : scored.score = points.score.tidy) (hmost : scored.maxScore = points.most.tidy)

include hscore hmost

theorem QuestionScore.isClamped_of_ofNumeric (h : ofNumeric question answer = .ok points)
    (hcounted : question.numericUpperBound.IsCounted)
    (hpositive : Number.lt 0 question.numericUpperBound = true) :
    scored.IsClamped question.numericUpperBound question.weight answer.quantity?.isSome := by
  have habove : ¬ question.numericUpperBound.le 0 = true :=
    (Number.lt_iff_not_le Number.isCounted_zero.place?_ne_none hcounted.place?_ne_none).mp hpositive
  have hnonneg := Number.le_of_lt hpositive
  rw [ofNumeric, if_neg habove] at h
  cases hread : answer.quantity? with
  | none =>
      rw [hread] at h
      obtain ⟨most, htop, h⟩ := bind_eq_ok.mp h
      obtain rfl := Except.ok.inj h
      exact isClamped_of_unread hscore hmost htop hnonneg rfl
  | some value =>
      rw [hread] at h
      obtain ⟨score, hvalue, h⟩ := bind_eq_ok.mp h
      obtain ⟨most, htop, h⟩ := bind_eq_ok.mp h
      obtain rfl := Except.ok.inj h
      exact isClamped_of_clamp hscore hmost htop hcounted hnonneg hvalue

theorem QuestionScore.isClamped_of_ofAllocation (h : ofAllocation question answer = .ok points)
    (hcounted : question.pointsToShare.IsCounted)
    (hnonneg : Number.le 0 question.pointsToShare = true) :
    scored.IsClamped question.pointsToShare question.weight (sharesOut answer) := by
  rw [ofAllocation] at h
  obtain ⟨top, hbest, htop, hearned⟩ := of_weigh h
  obtain rfl := Except.ok.inj hbest
  have hread : sharesOut answer = (earnedByAllocation question answer).isSome := by
    cases answer with
    | obj allocation => cases allocation <;> rfl
    | _ => rfl
  rw [hread]
  rcases hearned with ⟨hnone, hzero⟩ | ⟨total, hsome, hvalue⟩
  · rw [hnone]
    exact isClamped_of_unread hscore hmost htop hnonneg hzero
  · rw [hsome]
    obtain ⟨shared, rfl⟩ := exists_clamp_of_earnedByAllocation hsome
    exact isClamped_of_clamp hscore hmost htop hcounted hnonneg hvalue

/-- Recommendations are kept between zero and ten, without a weight. -/
theorem QuestionScore.exists_clamped_of_ofNps (h : points = ofNps answer) :
    ∃ value : Number, value.isNaN = false ∧ Number.le 0 value = true ∧ value.le npsTop = true
      ∧ scored.score = value.tidy ∧ scored.maxScore = npsTop := by
  have hnonneg : Number.le 0 npsTop = true := Number.zero_le_int.mpr (by decide)
  subst h
  unfold ofNps at hscore hmost
  cases hread : answer.quantity? with
  | none =>
      rw [hread] at hscore hmost
      exact ⟨0, rfl, Number.zero_le_int.mpr (Int.le_refl 0), hnonneg, hscore, hmost⟩
  | some read =>
      rw [hread] at hscore hmost
      obtain ⟨hnumber, hlow, hhigh⟩ := Number.inRange_clamp (Number.isCounted_int 10) hnonneg read
      exact ⟨read.clamp npsTop, hnumber, hlow, hhigh, hscore, hmost⟩

end Modes

namespace Question

open Points

variable {question : Question} {answer : Json} {scored : QuestionScore}

/-- Scores of numbers are in range whatever the answer is.  A question that is not scorable, or
whose scale is empty, has no points to be had; on every other scale, and on every total of points
that is not negative, the score is that of a number between zero and the top. -/
theorem score_clamped (h : question.score answer = .ok scored) :
    (question.scorable = some false → scored.score = 0 ∧ scored.maxScore = 0)
      ∧ (question.scorable ≠ some false →
        (question.kind.scoringMode = .numericDirect → question.numericUpperBound.IsCounted →
          (question.numericUpperBound.le 0 = true → scored.score = 0 ∧ scored.maxScore = 0)
            ∧ (Number.lt 0 question.numericUpperBound = true →
              scored.IsClamped question.numericUpperBound question.weight
                answer.quantity?.isSome))
        ∧ (question.kind.scoringMode = .nps →
          ∃ value : Number, value.isNaN = false ∧ Number.le 0 value = true
            ∧ value.le npsTop = true ∧ scored.score = value.tidy ∧ scored.maxScore = npsTop)
        ∧ (question.kind.scoringMode = .constantSumTotal → question.pointsToShare.IsCounted →
          Number.le 0 question.pointsToShare = true →
            scored.IsClamped question.pointsToShare question.weight (sharesOut answer))) := by
  obtain ⟨points, hscore, hmost, hcases⟩ := of_score h
  rcases hcases with ⟨hoff, rfl⟩ | ⟨hon, hpoints⟩
  · exact ⟨fun _ => ⟨hscore, hmost⟩, fun hon => absurd hoff hon⟩
  refine ⟨fun hoff => absurd hoff hon, fun _ => ⟨?_, ?_, ?_⟩⟩
  · intro hmode hcounted
    rw [hmode] at hpoints
    constructor
    · intro hempty
      rw [inMode, ofNumeric, if_pos hempty] at hpoints
      obtain rfl := Except.ok.inj hpoints
      exact ⟨hscore, hmost⟩
    · exact QuestionScore.isClamped_of_ofNumeric hscore hmost hpoints hcounted
  · intro hmode
    rw [hmode] at hpoints
    exact QuestionScore.exists_clamped_of_ofNps hscore hmost (Except.ok.inj hpoints).symm
  · intro hmode hcounted
    rw [hmode] at hpoints
    exact QuestionScore.isClamped_of_ofAllocation hscore hmost hpoints hcounted

namespace Sample

/-- A hundred points to share out. -/
def shares : Question := { Survey.Sample.plain "q1" [] with kind := .constantSum }

/-- A scale of five points. -/
def fivePoints (scorable : Option Bool) (weight : Number) : Question :=
  { Survey.Sample.plain "q1" [] with
    kind := .rating, ratingScale := some 5, scorable, scoreWeight := some weight }

end Sample

/-- Infinities of both signs add up to no number, which counts as zero. -/
theorem score_clamped_oppositeInfinities :
    ∃ scored, Sample.shares.score (.obj [("A", .num (.float (.infinite false))),
        ("B", .num (.float (.infinite true)))]) = .ok scored ∧ scored.score = 0
      ∧ scored.IsClamped 100 1 true := by
  have hscored : Sample.shares.score (.obj [("A", .num (.float (.infinite false))),
      ("B", .num (.float (.infinite true)))])
        = .ok ⟨"q1", 0, 100, .constantSumTotal, none, true, none⟩ := by decide +kernel
  exact ⟨_, hscored, rfl, ((score_clamped hscored).2 nofun).2.2 rfl (by decide +kernel)
    (by decide +kernel)⟩

/-- A question that is not scorable has no points to be had, whatever its scale is.  Under an
infinite weight an answer that is no number scores zero, which is the score of no number. -/
theorem score_not_clamped :
    ((Sample.fivePoints (some false) 1).score (.num 3)).map (fun scored => (scored.score,
        scored.maxScore)) = .ok (0, 0)
      ∧ ((Number.int 5).mul 1).map Number.tidy = .ok 5
      ∧ ((Sample.fivePoints none (.float (.infinite false))).score (.str "x")).map (·.score) = .ok 0
      ∧ ∀ value : Number,
        (value.mul (.float (.infinite false))).map Number.tidy ≠ .ok 0 := by
  refine ⟨by decide +kernel, rfl, by decide +kernel, fun value h => ?_⟩
  obtain ⟨product, hproduct, hzero⟩ := map_eq_ok.mp h
  obtain ⟨x, y, -, hy, rfl⟩ := Number.mul_binary hproduct nofun
  obtain rfl := Except.ok.inj hy
  -- such a product is infinite or no number, so it is not where zero is
  have hplace := congrArg Number.place? hzero
  rw [Number.place?_tidy] at hplace
  change (Binary64.mul x (.infinite false)).place? = some (.at (0 * Binary64.one)) at hplace
  cases x with
  | nan => cases hplace
  | infinite negative => cases negative <;> cases hplace
  | finite negative units fits =>
      rw [Binary64.mul] at hplace
      split at hplace
      · cases hplace
      · cases negative <;> cases hplace

end Question

end Questionnaire
