import Questionnaire.Proofs.Scoring.Texts
import Questionnaire.Proofs.Walk.Replay

/-!
The most points of a question.  They depend on the question alone: scored without an answer, a
question has no points and the same most points.  The exception is a ranking without options, which
has as many places as its answer has items.
-/

namespace Questionnaire

namespace Points

/-- Whatever is allocated, it counts up to the points to share. -/
theorem exists_clamp_of_earnedByAllocation {question : Question} {answer : Json} {total : Number}
    (h : earnedByAllocation question answer = some (.ok total)) :
    ∃ shared : Number, total = shared.clamp question.pointsToShare := by
  unfold earnedByAllocation unlessUnanswered at h
  split at h
  · split at h
    · cases h
    · obtain ⟨shared, -, htotal⟩ := bind_eq_ok.mp (Option.some.inj h)
      exact ⟨shared, (Except.ok.inj htotal).symm⟩
  · cases h

section Weigh

variable {best : Except Fault Number} {earned : Option (Except Fault Number)} {weight : Number}
  {points : Points}

/-- Whether points are earned or not, the most points come from the best ones. -/
theorem of_weigh (h : weigh best earned weight = .ok points) :
    ∃ value, best = .ok value ∧ value.mul weight = .ok points.most
      ∧ (earned = none ∧ points.score = 0
        ∨ ∃ total, earned = some (.ok total) ∧ total.mul weight = .ok points.score) := by
  obtain ⟨value, hvalue, h⟩ := bind_eq_ok.mp h
  obtain ⟨most, hmost, h⟩ := bind_eq_ok.mp h
  refine ⟨value, hvalue, ?_⟩
  cases earned with
  | none =>
    obtain rfl := Except.ok.inj h
    exact ⟨hmost, Or.inl ⟨rfl, rfl⟩⟩
  | some earned =>
    obtain ⟨total, htotal, h⟩ := bind_eq_ok.mp h
    obtain ⟨score, hscore, h⟩ := bind_eq_ok.mp h
    obtain rfl := Except.ok.inj h
    exact ⟨hmost, Or.inr ⟨total, by rw [htotal], hscore⟩⟩

theorem weigh_none (h : weigh best earned weight = .ok points) :
    weigh best none weight = .ok ⟨0, points.most⟩ := by
  obtain ⟨value, hvalue, hmost, -⟩ := of_weigh h
  exact bind_eq_ok.mpr ⟨value, hvalue, bind_eq_ok.mpr ⟨points.most, hmost, rfl⟩⟩

end Weigh

section Unanswered

variable {question : Question} {answer : Json} {points : Points}

theorem ofNumeric_null (h : ofNumeric question answer = .ok points) :
    ofNumeric question .null = .ok ⟨0, points.most⟩ := by
  unfold ofNumeric at h ⊢
  dsimp only at h ⊢
  split at h
  · rename_i hempty
    rw [if_pos hempty, ← Except.ok.inj h]
    rfl
  · rename_i hupper
    rw [if_neg hupper]
    apply bind_eq_ok.mpr
    split at h
    · obtain ⟨most, hmost, h⟩ := bind_eq_ok.mp h
      exact ⟨most, hmost, Except.ok.inj h ▸ rfl⟩
    · obtain ⟨score, -, h⟩ := bind_eq_ok.mp h
      obtain ⟨most, hmost, h⟩ := bind_eq_ok.mp h
      exact ⟨most, hmost, Except.ok.inj h ▸ rfl⟩

theorem ofChoice_null (h : ofChoice question answer = .ok points) :
    ofChoice question .null = .ok ⟨0, points.most⟩ := by
  rw [ofChoice] at h ⊢
  exact weigh_none h

/-- In every mode, a question has the same most points without an answer as with one, if only a
ranking has as many places. -/
theorem inMode_null {mode : ScoringMode}
    (hplaces : mode = .rankingWeighted → placeCount question answer = placeCount question .null)
    (h : inMode mode question answer = .ok points) :
    inMode mode question .null = .ok ⟨0, points.most⟩ := by
  cases mode with
  | numericDirect => exact ofNumeric_null h
  | positionMapped => exact ofChoice_null h
  | custom =>
    rw [inMode, ofCustom] at h ⊢
    exact ofChoice_null h
  | count =>
    rw [inMode, ofCount] at h ⊢
    exact weigh_none h
  | nps =>
    rw [inMode, Except.ok.injEq] at h ⊢
    rw [← h, ofNps, ofNps]
    cases answer.quantity? <;> rfl
  | matrixSum =>
    rw [inMode, ofGrid] at h ⊢
    exact weigh_none h
  | rankingWeighted =>
    rw [inMode, ofRanking] at h ⊢
    rw [bestOfRanking, hplaces rfl] at h
    exact weigh_none h
  | constantSumTotal =>
    rw [inMode, ofAllocation] at h ⊢
    exact weigh_none h
  | none =>
    rw [inMode, Except.ok.injEq] at h ⊢
    rw [← h]
    rfl

end Unanswered

theorem placeCount_eq {question : Question} {a b : Json}
    (h : question.choices = [] → (listItems a).length = (listItems b).length) :
    placeCount question a = placeCount question b := by
  unfold placeCount
  split
  · rename_i hempty
    exact h (List.isEmpty_iff.mp hempty)
  · rfl

/-- The answer has no part in the most points, but for the number of places. -/
theorem most_eq_of_placeCount {mode : ScoringMode} {question : Question} {a b : Json}
    {pointsA pointsB : Points}
    (hplaces : mode = .rankingWeighted → placeCount question a = placeCount question b)
    (ha : inMode mode question a = .ok pointsA) (hb : inMode mode question b = .ok pointsB) :
    pointsA.most = pointsB.most := by
  by_cases hmode : mode = .rankingWeighted
  · subst hmode
    rw [inMode, ofRanking] at ha hb
    rw [bestOfRanking, hplaces rfl] at ha
    have hnullA := weigh_none ha
    have hnullB := weigh_none hb
    rw [← bestOfRanking, hnullB] at hnullA
    injection hnullA with hpoints
    injection hpoints with _ hmost
    exact hmost.symm
  · have hnullA := inMode_null (fun h => absurd h hmode) ha
    have hnullB := inMode_null (fun h => absurd h hmode) hb
    rw [hnullB] at hnullA
    injection hnullA with hpoints
    injection hpoints with _ hmost
    exact hmost.symm

end Points

namespace Question

variable {question : Question}

theorem of_score {answer : Json} {scored : QuestionScore} (h : question.score answer = .ok scored) :
    ∃ points : Points, scored.score = points.score.tidy ∧ scored.maxScore = points.most.tidy
      ∧ (question.scorable = some false ∧ points = .nothing
        ∨ question.scorable ≠ some false
          ∧ Points.inMode question.kind.scoringMode question answer = .ok points) := by
  obtain ⟨points, hpoints, rfl⟩ := score_eq_ok_iff.mp h
  refine ⟨points, rfl, rfl, ?_⟩
  by_cases hoff : question.scorable = some false
  · rw [earned, if_pos hoff] at hpoints
    exact .inl ⟨hoff, (Except.ok.inj hpoints).symm⟩
  · rw [earned, if_neg hoff] at hpoints
    exact .inr ⟨hoff, hpoints⟩

/-- A mode that is the mode of one kind only gives the kind away. -/
theorem kind_eq_of_scoringMode {kind only : QuestionKind} {mode : ScoringMode}
    (h : kind.scoringMode = mode)
    (honly : QuestionKind.all.filter (·.scoringMode = mode) = [only]) : kind = only := by
  have hmem : kind ∈ QuestionKind.all.filter (·.scoringMode = mode) :=
    List.mem_filter.mpr ⟨kind.mem_all, decide_eq_true h⟩
  rw [honly] at hmem
  exact List.mem_singleton.mp hmem

/-- The most points of a question do not depend on the answer that is scored, apart from the number
of items ranked where a ranking has no options. -/
theorem maxScore_eq_of_same_places {a b : Json} {scoredA scoredB : QuestionScore}
    (hplaces : question.kind = .ranking → question.choices = [] →
      (Points.listItems a).length = (Points.listItems b).length)
    (ha : question.score a = .ok scoredA) (hb : question.score b = .ok scoredB) :
    scoredA.maxScore = scoredB.maxScore := by
  obtain ⟨pointsA, -, hmostA, hpointsA⟩ := of_score ha
  obtain ⟨pointsB, -, hmostB, hpointsB⟩ := of_score hb
  rw [hmostA, hmostB]
  rcases hpointsA with ⟨hoff, rfl⟩ | ⟨hon, hpointsA⟩
  · rcases hpointsB with ⟨-, rfl⟩ | ⟨hon, -⟩
    · rfl
    · exact absurd hoff hon
  · rcases hpointsB with ⟨hoff, -⟩ | ⟨-, hpointsB⟩
    · exact absurd hoff hon
    · have hcount (hmode : question.kind.scoringMode = .rankingWeighted) :=
        Points.placeCount_eq (hplaces (kind_eq_of_scoringMode hmode rfl))
      rw [Points.most_eq_of_placeCount hcount hpointsA hpointsB]

/-- A ranking without options of its own. -/
def freeRanking : Question := { Survey.Sample.plain "q1" [] with kind := .ranking }

/-- Two items ranked the one way and the other. -/
theorem maxScore_eq_of_same_places_freeRanking :
    ∃ scoredA scoredB, freeRanking.score (.arr [.str "a", .str "b"]) = .ok scoredA
      ∧ freeRanking.score (.arr [.str "b", .str "a"]) = .ok scoredB
      ∧ scoredA.maxScore = scoredB.maxScore := by
  have hone : freeRanking.score (.arr [.str "a", .str "b"])
      = .ok ⟨"q1", 3, 3, .rankingWeighted, none, true, none⟩ := by decide +kernel
  have hother : freeRanking.score (.arr [.str "b", .str "a"])
      = .ok ⟨"q1", 3, 3, .rankingWeighted, none, true, none⟩ := by decide +kernel
  exact ⟨_, _, hone, hother, maxScore_eq_of_same_places (fun _ _ => by rfl) hone hother⟩

theorem maxScore_freeRanking :
    (freeRanking.score .null).map (·.maxScore) = .ok 0
      ∧ (freeRanking.score (.arr [.str "a", .str "b"])).map (·.maxScore) = .ok 3 := by
  decide +kernel

/-- A question without an answer has no points and the most points that it has with any answer. -/
theorem score_null {answer : Json} {scored : QuestionScore}
    (hplaces : question.kind = .ranking → question.choices ≠ [])
    (h : question.score answer = .ok scored) :
    question.score .null
      = .ok { scored with score := 0, answered := false, npsGroup := none } := by
  obtain ⟨points, hpoints, rfl⟩ := score_eq_ok_iff.mp h
  have hnull : question.earned .null = .ok ⟨0, points.most⟩ := by
    unfold earned at hpoints ⊢
    split at hpoints
    · rename_i hoff
      rw [if_pos hoff, ← Except.ok.inj hpoints]
      rfl
    · rename_i hon
      have hcount (hmode : question.kind.scoringMode = .rankingWeighted) :=
        Points.placeCount_eq (a := answer) (b := .null) fun hempty =>
          absurd hempty (hplaces (kind_eq_of_scoringMode hmode rfl))
      rw [if_neg hon, Points.inMode_null hcount hpoints]
  rw [score_eq, hnull]
  have hgroup : (if question.kind.scoringMode = .nps then NpsGroup.ofAnswer? .null else none)
      = none := ite_self none
  rw [Except.map, reported, hgroup]
  rfl

end Question

end Questionnaire
