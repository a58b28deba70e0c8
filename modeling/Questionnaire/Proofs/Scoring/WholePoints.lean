import Questionnaire.Proofs.Json.Canonical
import Questionnaire.Proofs.Number.Counted
import Questionnaire.Proofs.Scoring.Selection
import Questionnaire.Proofs.Scoring.Texts

/-!
The points of options as numbers.  No option has more points than the best one.  Where all points
are whole numbers, sums and products with places are exact, and the best values can be put in
descending order.
-/

namespace Questionnaire

attribute [local irreducible] Binary64.one Binary64.limit

namespace Number

theorem mapM_zip_int {combine : Nat × Number → Except Fault Number} {exact : Nat → Int → Int}
    (h : ∀ place value, combine (place, .int value) = .ok (.int (exact place value)))
    (places : List Nat) (values : List Int) :
    (places.zip (values.map .int)).mapM combine
      = .ok ((List.zipWith exact places values).map .int) := by
  induction places generalizing values with
  | nil => rfl
  | cons place rest ih =>
    cases values with
    | nil => rfl
    | cons value more =>
      rw [List.map_cons, List.zip_cons_cons, List.mapM_cons, h, ih]
      rfl

/-- Integers are multiplied with their places exactly. -/
theorem placedTotal_int (places : List Nat) (values : List Int) :
    Points.placedTotal places (values.map .int) = .ok (.int (Selection.placed places values)) := by
  rw [Points.placedTotal, mapM_zip_int fun _ _ => rfl]
  exact sum_int _

end Number

namespace Question

variable {question : Question}

theorem scoreOf_isCounted (hpoints : ∀ entry ∈ question.scores, entry.2.IsCounted)
    (option : String) : (question.scoreOf option).IsCounted := by
  unfold scoreOf
  cases hfound : Entries.get? question.scores option with
  | none => exact Number.isCounted_zero
  | some points => exact hpoints _ (Entries.mem_of_get? hfound)

/-- The best score is at least zero and at least every positive one. -/
theorem bestScore_spec (hpoints : ∀ entry ∈ question.scores, entry.2.IsCounted) :
    question.bestScore.IsCounted ∧ Number.le 0 question.bestScore = true
      ∧ ∀ points ∈ question.positiveScores, points.le question.bestScore = true := by
  have hpositive : ∀ points ∈ question.positiveScores,
      points.IsCounted ∧ Number.lt 0 points = true := by
    intro points hmem
    obtain ⟨hvalue, hlt⟩ := List.mem_filter.mp hmem
    obtain ⟨entry, hentry, rfl⟩ := List.mem_map.mp hvalue
    exact ⟨hpoints entry hentry, hlt⟩
  unfold bestScore
  cases hscores : question.positiveScores with
  | nil => exact ⟨Number.isCounted_zero, Number.le_refl Number.isCounted_zero.place?_ne_none, nofun⟩
  | cons first rest =>
    rw [hscores] at hpositive
    obtain ⟨hfirst, habove⟩ := hpositive first (List.mem_cons_self ..)
    obtain ⟨hcounted, hle⟩ := Number.foldl_max_spec rest
      (fun points hmem => (hpositive points (List.mem_cons_of_mem first hmem)).1) first hfirst
    have hnonneg := Number.le_of_lt habove
    exact ⟨hcounted, Number.le_trans hnonneg
      (hle first (List.mem_cons_self ..)), hle⟩

/-- No option has more points than the best one. -/
theorem scoreOf_le_bestScore (hpoints : ∀ entry ∈ question.scores, entry.2.IsCounted)
    (option : String) : (question.scoreOf option).le question.bestScore = true := by
  obtain ⟨hcounted, hnonneg, hbest⟩ := bestScore_spec hpoints
  unfold scoreOf
  cases hfound : Entries.get? question.scores option with
  | none => exact hnonneg
  | some points =>
    have hentry := Entries.mem_of_get? hfound
    have hown : points.IsCounted := hpoints _ hentry
    by_cases hpositive : Number.lt 0 points = true
    · exact hbest points (List.mem_filter.mpr ⟨List.mem_map_of_mem hentry, hpositive⟩)
    · have hnonpos := Number.le_of_not_lt Number.isCounted_zero.place?_ne_none
        hown.place?_ne_none hpositive
      exact Number.le_trans hnonpos hnonneg

/-- The points of the options are whole numbers. -/
def HasWholePoints (question : Question) (points : Entries Int) : Prop :=
  question.scores = points.map fun (option, value) => (option, .int value)

theorem exists_hasWholePoints (h : ∀ entry ∈ question.scores, ∃ value, entry.2 = .int value) :
    ∃ points, question.HasWholePoints points := by
  unfold HasWholePoints
  generalize question.scores = scores at h ⊢
  induction scores with
  | nil => exact ⟨[], rfl⟩
  | cons entry rest ih =>
    obtain ⟨points, hpoints⟩ := ih fun other hother => h other (List.mem_cons_of_mem entry hother)
    obtain ⟨name, own⟩ := entry
    obtain ⟨value, rfl⟩ := h _ (List.mem_cons_self ..)
    exact ⟨(name, value) :: points, by rw [List.map_cons, ← hpoints]⟩

open Selection

namespace HasWholePoints

variable {points : Entries Int}

theorem scoreOf_eq (h : question.HasWholePoints points) (option : String) :
    question.scoreOf option = .int (pointsOf points option) := by
  rw [scoreOf, h]
  -- the induction is on the points alone
  clear h
  induction points with
  | nil => rfl
  | cons entry rest ih =>
    obtain ⟨name, value⟩ := entry
    by_cases hname : option = name
    · simp [Entries.get?, pointsOf, hname]
    · simpa [Entries.get?, pointsOf, List.lookup_cons, beq_false_of_ne hname] using ih

theorem positiveScores_eq (h : question.HasWholePoints points) :
    question.positiveScores = (positive (points.map (·.2))).map .int := by
  rw [positiveScores, h]
  clear h
  induction points with
  | nil => rfl
  | cons entry rest ih =>
    obtain ⟨name, value⟩ := entry
    by_cases hvalue : 0 < value
    · simpa [positive, Number.zero_lt_int.mpr hvalue, hvalue] using ih
    · simpa [positive, mt Number.zero_lt_int.mp hvalue, hvalue] using ih

theorem positiveTotal_eq (h : question.HasWholePoints points) :
    question.positiveTotal = .ok (.int (positive (points.map (·.2))).sum) := by
  rw [positiveTotal, h.positiveScores_eq, Number.sum_int]

theorem totalOf_eq (h : question.HasWholePoints points) (options : List Json) :
    question.totalOf options
      = .ok (.int ((options.map Json.display).map (pointsOf points)).sum) := by
  have hvalues : (options.map fun option => question.scoreOf option.display)
      = ((options.map Json.display).map (pointsOf points)).map .int := by
    simp only [List.map_map]
    exact List.map_congr_left fun option _ => h.scoreOf_eq option.display
  rw [totalOf, hvalues, Number.sum_int]

/-- The best option has a whole number of points, too. -/
theorem exists_bestScore (h : question.HasWholePoints points) :
    ∃ best, question.bestScore = .int best := by
  unfold bestScore
  rw [h.positiveScores_eq]
  cases positive (points.map (·.2)) with
  | nil => exact ⟨0, rfl⟩
  | cons first rest => exact Number.exists_foldl_max_int first rest

/-- The best values in descending order. -/
theorem exists_sorted (h : question.HasWholePoints points) :
    ∃ sorted : List Int,
      sortBy (fun a b => Number.lt b a) question.positiveScores = sorted.map .int
      ∧ sorted.Perm (positive (points.map (·.2))) ∧ sorted.Pairwise fun a b => b ≤ a := by
  have hbelow : (fun a b => (Number.int b).lt (.int a)) = fun a b : Int => decide (b < a) := by
    funext a b
    rw [Bool.eq_iff_iff, Number.int_lt_int, decide_eq_true_eq]
  refine ⟨sortBy (fun a b => decide (b < a)) (positive (points.map (·.2))), ?_, sortBy_perm _ _, ?_⟩
  · rw [h.positiveScores_eq, sortBy_map, hbelow]
  · have hasymm : ∀ a b : Int, decide (b < a) = true → decide (a < b) = false := by
      intro a b hab
      simp only [decide_eq_true_eq, decide_eq_false_iff_not] at hab ⊢
      omega
    have htrans : ∀ a b c : Int, decide (a < b) = false → decide (b < c) = false →
        decide (a < c) = false := by
      intro a b c hab hbc
      simp only [decide_eq_false_iff_not] at hab hbc ⊢
      omega
    exact (sortBy_pairwise hasymm htrans _).imp fun hab => by simpa using hab

end HasWholePoints

end Question

end Questionnaire
