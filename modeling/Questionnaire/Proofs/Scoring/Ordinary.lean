import Questionnaire.Proofs.Json.Canonical
import Questionnaire.Proofs.Number.Magnitude
import Questionnaire.Proofs.Scoring.Maximum
import Questionnaire.Scoring.Survey

/-!
Questions whose numbers are of ordinary size have scores of ordinary size.  Ordinary is every
integer up to `2 ^ 128`, and every binary number up to there that is a multiple of `2 ^ -128`.
Answers may hold any numbers: a number in answer to a question is kept within bounds, and of the
points shared out only the integers must not be too large.
-/

namespace Questionnaire

attribute [local instance] Binary64.corePow

attribute [local irreducible] Binary64.one Binary64.limit

/-- A multiple of `2 ^ -128` of a magnitude that is at most `2 ^ 128`. -/
def Number.IsOrdinary (a : Number) : Prop := a.Measured 128 128

/-- How long a list may be for its members to be counted exactly. -/
def longest : Nat := 2 ^ (53 : Nat)

/-- A question with ordinary numbers, and not too many of them. -/
structure Question.IsOrdinary (question : Question) : Prop where
  weight : question.weight.IsOrdinary
  bound : question.numericUpperBound.IsOrdinary
  share : question.pointsToShare.IsOrdinary
  points : ∀ entry ∈ question.scores, entry.2.IsOrdinary
  few_points : question.scores.length ≤ longest
  few_choices : question.choices.length ≤ longest
  few_rows : (question.rowLabels.getD []).length ≤ longest

/-- A list is not too long. -/
def Json.IsShort (v : Json) : Prop := (Points.listItems v).length ≤ longest

instance (v : Json) : Decidable v.IsShort := inferInstanceAs (Decidable (_ ≤ _))

/-- An answer that is not too long, and whose entries are short and no integers that are too
large. -/
structure Json.IsOrdinary (answer : Json) : Prop where
  short : answer.IsShort
  few_entries : ∀ entries, answer = .obj entries → entries.length ≤ longest
  entries : ∀ entries, answer = .obj entries → ∀ entry ∈ entries,
    entry.2.IsShort ∧ entry.2.quantityOrZero.IntWithin (2 ^ (128 : Nat))

theorem Json.IsShort.isOrdinary {answer : Json} (h : answer.IsShort)
    (hentries : ∀ entries, answer ≠ .obj entries) : answer.IsOrdinary :=
  ⟨h, fun entries hobj => absurd hobj (hentries entries),
    fun entries hobj => absurd hobj (hentries entries)⟩

/-- Points of which few together still have a share in percent. -/
structure Points.IsOrdinary (points : Points) : Prop where
  score : points.score.Bounded 362
  most : points.most.Measured 256 362

namespace Question

section Options

variable {question : Question}

theorem scoreOf_ordinary (h : question.IsOrdinary) (option : String) :
    (question.scoreOf option).IsOrdinary := by
  unfold scoreOf
  cases hfound : Entries.get? question.scores option with
  | none => exact Number.measured_zero
  | some points => exact h.points _ (Entries.mem_of_get? hfound)

theorem positiveScores_ordinary (h : question.IsOrdinary) :
    ∀ points ∈ question.positiveScores, points.IsOrdinary := by
  intro points hpoints
  obtain ⟨entry, hentry, rfl⟩ := List.mem_map.mp (List.mem_of_mem_filter hpoints)
  exact h.points entry hentry

theorem length_positiveScores_le (h : question.IsOrdinary) :
    question.positiveScores.length ≤ longest := by
  refine (List.length_filter_le _ _).trans ?_
  rw [List.length_map]
  exact h.few_points

theorem bestScore_ordinary (h : question.IsOrdinary) : question.bestScore.IsOrdinary := by
  have hpositive := positiveScores_ordinary h
  unfold bestScore
  split
  · exact Number.measured_zero
  · rename_i first rest hscores
    exact hpositive _ (hscores ▸ Number.foldl_max_mem first rest)

theorem exists_positiveTotal (h : question.IsOrdinary) :
    ∃ total, question.positiveTotal = .ok total ∧ total.Measured 128 181 :=
  Number.sum_measured (positiveScores_ordinary h) (length_positiveScores_le h) (by omega)

theorem exists_totalOf (h : question.IsOrdinary) {options : List Json}
    (hoptions : options.length ≤ longest) :
    ∃ total, question.totalOf options = .ok total ∧ total.Measured 128 181 := by
  refine Number.sum_measured (k := 128) (fun points hpoints => ?_) ?_ (by omega)
  · obtain ⟨option, -, rfl⟩ := List.mem_map.mp hpoints
    exact scoreOf_ordinary h option.display
  · rw [List.length_map]
    exact hoptions

end Options

end Question

namespace Points

variable {question : Question} {answer : Json}

theorem exists_weigh {best : Except Fault Number} {earned : Option (Except Fault Number)}
    {weight : Number} (hweight : weight.IsOrdinary)
    (hbest : ∃ value, best = .ok value ∧ value.Measured 128 234)
    (hearned : ∀ own, earned = some own → ∃ total, own = .ok total ∧ total.Bounded 234) :
    ∃ points, weigh best earned weight = .ok points ∧ points.IsOrdinary := by
  obtain ⟨value, rfl, hvalue⟩ := hbest
  obtain ⟨most, hmost, hmeasured⟩ := Number.mul_measured hvalue hweight (by omega) (by omega)
  cases earned with
  | none =>
      exact ⟨⟨0, most⟩, bind_eq_ok.mpr ⟨value, rfl, bind_eq_ok.mpr ⟨most, hmost, rfl⟩⟩,
        Number.bounded_zero, hmeasured⟩
  | some own =>
      obtain ⟨total, rfl, htotal⟩ := hearned own rfl
      obtain ⟨score, hscore, hwithin⟩ := Number.mul_bounded htotal hweight.bounded (by omega)
      refine ⟨⟨score, most⟩, bind_eq_ok.mpr ⟨value, rfl, bind_eq_ok.mpr ⟨most, hmost,
        bind_eq_ok.mpr ⟨total, rfl, bind_eq_ok.mpr ⟨score, hscore, rfl⟩⟩⟩⟩, hwithin, hmeasured⟩

theorem exists_of_unlessUnanswered {earned own : Except Fault Number} {Holds : Number → Prop}
    (h : ∃ total, earned = .ok total ∧ Holds total)
    (hown : unlessUnanswered answer earned = some own) :
      ∃ total, own = .ok total ∧ Holds total := by
  unfold unlessUnanswered at hown
  split at hown
  · cases hown
  · exact Option.some.inj hown ▸ h

theorem exists_ofNumeric (h : question.IsOrdinary) :
    ∃ points, ofNumeric question answer = .ok points ∧ points.IsOrdinary := by
  obtain ⟨most, hmost, hmeasured⟩ := Number.mul_measured h.bound h.weight (by omega) (by omega)
  have hmeasured : most.Measured 256 362 := hmeasured.mono (by omega) (by omega)
  unfold ofNumeric
  dsimp only
  split
  · exact ⟨nothing, rfl, Number.bounded_zero, Number.measured_zero⟩
  · split
    · exact ⟨⟨0, most⟩, bind_eq_ok.mpr ⟨most, hmost, rfl⟩, Number.bounded_zero, hmeasured⟩
    · rename_i value _
      have hclamped : (value.clamp question.numericUpperBound).Bounded 128 :=
        Number.clamp_within h.bound.bounded
      obtain ⟨score, hscore, hwithin⟩ := Number.mul_bounded hclamped h.weight.bounded (by omega)
      exact ⟨⟨score, most⟩, bind_eq_ok.mpr ⟨score, hscore, bind_eq_ok.mpr ⟨most, hmost, rfl⟩⟩,
        hwithin.mono (by omega), hmeasured⟩

theorem exists_bestOfChoice (h : question.IsOrdinary) :
    ∃ value, bestOfChoice question = .ok value ∧ value.Measured 128 181 := by
  unfold bestOfChoice
  split
  · exact Question.exists_positiveTotal h
  · exact ⟨_, rfl, (Question.bestScore_ordinary h).mono (by omega) (by omega)⟩

theorem exists_ofChoice (h : question.IsOrdinary) (hanswer : answer.IsShort) :
    ∃ points, ofChoice question answer = .ok points ∧ points.IsOrdinary := by
  rw [ofChoice]
  refine exists_weigh h.weight ?_ fun own hown => exists_of_unlessUnanswered ?_ hown
  · exact (exists_bestOfChoice h).imp fun value hvalue =>
      ⟨hvalue.1, hvalue.2.mono (by omega) (by omega)⟩
  · cases answer with
    | arr options =>
        obtain ⟨total, htotal, hmeasured⟩ := Question.exists_totalOf h hanswer
        exact ⟨total, htotal, hmeasured.bounded.mono (by omega)⟩
    | _ =>
        exact ⟨_, rfl, (Question.scoreOf_ordinary h _).bounded.mono (by omega)⟩

theorem exists_ofCount (h : question.IsOrdinary) (hanswer : answer.IsShort) :
    ∃ points, ofCount question answer = .ok points ∧ points.IsOrdinary := by
  rw [ofCount]
  refine exists_weigh h.weight ?_ fun own hown => exists_of_unlessUnanswered ?_ hown
  · obtain ⟨best, hbest, hmeasured⟩ := Question.exists_positiveTotal h
    exact ⟨best, hbest, hmeasured.mono (by omega) (by omega)⟩
  · have hchosen : (chosenOptions answer).length ≤ longest := by
      cases answer with
      | arr options => exact hanswer
      | _ => exact Nat.one_le_two_pow
    obtain ⟨total, htotal, hmeasured⟩ := Question.exists_totalOf h hchosen
    exact ⟨total, htotal, hmeasured.bounded.mono (by omega)⟩

theorem exists_rowMost (h : question.IsOrdinary) :
    ∃ most, rowMost question = .ok most ∧ most.Measured 128 181 := by
  unfold rowMost
  split
  · exact ⟨1, rfl, Number.measured_int Nat.one_le_two_pow⟩
  · split
    · exact Question.exists_positiveTotal h
    · exact ⟨_, rfl, (Question.bestScore_ordinary h).mono (by omega) (by omega)⟩

theorem exists_bestOfGrid (h : question.IsOrdinary) :
    ∃ best, bestOfGrid question = .ok best ∧ best.Measured 128 234 := by
  obtain ⟨most, hmost, hmeasured⟩ := exists_rowMost h
  have hrows : (Number.int (question.rowLabels.getD []).length).Measured 0 53 :=
    Number.measured_int h.few_rows
  obtain ⟨best, hbest, hproduct⟩ := Number.mul_measured hrows hmeasured (by omega) (by omega)
  exact ⟨best, bind_eq_ok.mpr ⟨most, hmost, hbest⟩, hproduct⟩

theorem exists_ofCell (h : question.IsOrdinary) {cell : Json} (hcell : cell.IsShort) :
    ∃ points, ofCell question cell = .ok points ∧ points.Bounded 181 := by
  unfold ofCell
  split
  · exact ⟨1, rfl, (Number.measured_int (p := 0) Nat.one_le_two_pow).bounded⟩
  · have hsingle : [cell].length ≤ longest := Nat.one_le_two_pow
    split
    · exact (Question.exists_totalOf h hcell).imp fun total htotal =>
        ⟨htotal.1, htotal.2.bounded⟩
    · exact (Question.exists_totalOf h hsingle).imp fun total htotal =>
        ⟨htotal.1, htotal.2.bounded⟩

theorem short_null : Json.null.IsShort := Nat.zero_le _

/-- What is found in an ordinary answer is short. -/
theorem short_answerTo {cells : Answers} (hanswer : (Json.obj cells).IsOrdinary) (row : String) :
    (cells.answerTo row).IsShort := by
  unfold Answers.answerTo
  cases hfound : Entries.get? cells row with
  | none => exact short_null
  | some cell => exact (hanswer.entries cells rfl _ (Entries.mem_of_get? hfound)).1

theorem exists_earnedByGrid (h : question.IsOrdinary) (hanswer : answer.IsOrdinary)
    {own : Except Fault Number} (hown : earnedByGrid question answer = some own) :
    ∃ total, own = .ok total ∧ total.Bounded 234 := by
  cases answer with
  | obj cells =>
      refine exists_of_unlessUnanswered ?_ hown
      have hcells : ∀ cell ∈ answeredCells question cells,
          ∃ points, ofCell question cell = .ok points ∧ points.Bounded 181 := by
        intro cell hcell
        obtain ⟨row, -, rfl⟩ := List.mem_map.mp (List.mem_of_mem_filter hcell)
        exact exists_ofCell h (short_answerTo hanswer row)
      obtain ⟨points, hpoints, hbounded⟩ := exists_mapM_ok_of_forall hcells
      have hlength : points.length ≤ longest := by
        rw [length_mapM_ok hpoints, answeredCells]
        refine (List.length_filter_le _ _).trans ?_
        rw [List.length_map]
        exact h.few_rows
      obtain ⟨total, htotal, hsum⟩ := Number.sum_bounded hbounded hlength (by omega)
      exact ⟨total, bind_eq_ok.mpr ⟨points, hpoints, htotal⟩, hsum⟩
  | _ => cases hown

theorem le_of_mem_places {n place : Nat} (h : place ∈ places n) : place ≤ n := by
  induction n with
  | zero => cases h
  | succ n ih =>
      rcases List.mem_cons.mp h with rfl | hrest
      · exact Nat.le_refl _
      · exact (ih hrest).trans (Nat.le_succ n)

theorem exists_placedTotal {n : Nat} (hn : n ≤ longest) {values : List Number}
    (hvalues : ∀ value ∈ values, value.IsOrdinary) :
    ∃ total, placedTotal (places n) values = .ok total ∧ total.Measured 128 234 := by
  have hproducts : ∀ pair ∈ (places n).zip values,
      ∃ product, (Number.int pair.1).mul pair.2 = .ok product ∧ product.Measured 128 181 := by
    intro pair hpair
    obtain ⟨hplace, hvalue⟩ := List.of_mem_zip (a := pair.1) (b := pair.2) hpair
    have hcounted : (Number.int pair.1).Measured 0 53 :=
      Number.measured_int ((le_of_mem_places hplace).trans hn)
    exact Number.mul_measured hcounted (hvalues _ hvalue) (by omega) (by omega)
  obtain ⟨products, hall, hmeasured⟩ := exists_mapM_ok_of_forall hproducts
  have hlength : products.length ≤ longest := by
    rw [length_mapM_ok hall, List.length_zip, length_places]
    exact (min_le_left n _).trans hn
  obtain ⟨total, htotal, hsum⟩ := Number.sum_measured hmeasured hlength (by omega)
  exact ⟨total, bind_eq_ok.mpr ⟨products, hall, htotal⟩, hsum⟩

theorem placeCount_le (h : question.IsOrdinary) (hanswer : answer.IsShort) :
    placeCount question answer ≤ longest := by
  unfold placeCount
  split
  · exact hanswer
  · exact h.few_choices

theorem exists_bestOfRanking (h : question.IsOrdinary) (hanswer : answer.IsShort) :
    ∃ best, bestOfRanking question answer = .ok best ∧ best.Measured 128 234 := by
  refine exists_placedTotal (placeCount_le h hanswer) ?_
  split
  · intro value hvalue
    obtain ⟨place, -, rfl⟩ := List.mem_map.mp hvalue
    exact Number.measured_int Nat.one_le_two_pow
  · intro value hvalue
    exact Question.positiveScores_ordinary h value ((sortBy_perm _ _).mem_iff.mp hvalue)

theorem exists_earnedByRanking (h : question.IsOrdinary) (hanswer : answer.IsShort)
    {own : Except Fault Number} (hown : earnedByRanking question answer = some own) :
    ∃ total, own = .ok total ∧ total.Bounded 234 := by
  cases answer with
  | arr items =>
      refine exists_of_unlessUnanswered ?_ hown
      have hvalues : ∀ value ∈ items.map (itemValue question), value.IsOrdinary := by
        intro value hvalue
        obtain ⟨item, -, rfl⟩ := List.mem_map.mp hvalue
        unfold itemValue
        split
        · exact Number.measured_int Nat.one_le_two_pow
        · exact Question.scoreOf_ordinary h item.display
      obtain ⟨total, htotal, hmeasured⟩ :=
        exists_placedTotal (placeCount_le h hanswer) hvalues
      exact ⟨total, htotal, hmeasured.bounded⟩
  | _ => cases hown

/-- What is shared out is kept within the points there are, so that it does not matter how much it
is. -/
theorem exists_earnedByAllocation (h : question.IsOrdinary) (hanswer : answer.IsOrdinary)
    {own : Except Fault Number} (hown : earnedByAllocation question answer = some own) :
    ∃ total, own = .ok total ∧ total.Bounded 234 := by
  cases answer with
  | obj allocation =>
      refine exists_of_unlessUnanswered ?_ hown
      have hallocated : ∃ points, allocated question allocation = .ok points := by
        unfold allocated
        split
        · exact ⟨_, rfl⟩
        · refine Number.exists_sum (k := 128) (fun points hpoints => ?_) ?_ (by omega)
          · obtain ⟨entry, hentry, rfl⟩ := List.mem_map.mp hpoints
            exact (hanswer.entries allocation rfl entry hentry).2
          · rw [List.length_map]
            exact hanswer.few_entries allocation rfl
      obtain ⟨points, hpoints⟩ := hallocated
      have hclamped : (points.clamp question.pointsToShare).Bounded 128 :=
        Number.clamp_within h.share.bounded
      exact ⟨_, bind_eq_ok.mpr ⟨points, hpoints, rfl⟩, hclamped.mono (by omega)⟩
  | _ => cases hown

theorem ofNps_ordinary (answer : Json) : (ofNps answer).IsOrdinary := by
  have hten : npsTop.Measured 0 4 := Number.measured_int (i := 10) (by decide)
  have htop : npsTop.Measured 256 362 := hten.mono (by omega) (by omega)
  unfold ofNps
  split
  · exact ⟨Number.bounded_zero, htop⟩
  · exact ⟨Number.clamp_within htop.bounded, htop⟩

theorem short_asTruth (h : answer.IsShort) : (asTruth answer).IsShort := by
  cases answer with
  | str word =>
      rcases asTruth_str word with hword | ⟨value, hword⟩
      · rw [hword]
        exact h
      · rw [hword]
        exact Nat.zero_le _
  | _ => exact h

/-- In every mode an ordinary question gives an ordinary answer ordinary points. -/
theorem exists_inMode (mode : ScoringMode) (h : question.IsOrdinary) (hanswer : answer.IsOrdinary) :
    ∃ points, inMode mode question answer = .ok points ∧ points.IsOrdinary := by
  have hshort : answer.IsShort := hanswer.short
  cases mode with
  | numericDirect => exact exists_ofNumeric h
  | positionMapped => exact exists_ofChoice h hshort
  | custom => exact exists_ofChoice h (short_asTruth hshort)
  | count => exact exists_ofCount h hshort
  | nps => exact ⟨_, rfl, ofNps_ordinary answer⟩
  | matrixSum =>
      rw [inMode, ofGrid]
      exact exists_weigh h.weight (exists_bestOfGrid h) fun _ => exists_earnedByGrid h hanswer
  | rankingWeighted =>
      rw [inMode, ofRanking]
      exact exists_weigh h.weight (exists_bestOfRanking h hshort)
        fun _ => exists_earnedByRanking h hshort
  | constantSumTotal =>
      rw [inMode, ofAllocation]
      exact exists_weigh h.weight ⟨_, rfl, h.share.mono (by omega) (by omega)⟩
        fun _ => exists_earnedByAllocation h hanswer
  | none => exact ⟨nothing, rfl, Number.bounded_zero, Number.measured_zero⟩

end Points

/-- An ordinary question has a score for an ordinary answer. -/
theorem Question.exists_score_ordinary {question : Question} {answer : Json}
    (h : question.IsOrdinary) (hanswer : answer.IsOrdinary) :
    ∃ scored, question.score answer = .ok scored
      ∧ scored.score.Bounded 362 ∧ scored.maxScore.Measured 256 362 := by
  have hpoints : ∃ points, question.earned answer = .ok points ∧ points.IsOrdinary := by
    unfold earned
    split
    · exact ⟨_, rfl, Number.bounded_zero, Number.measured_zero⟩
    · exact Points.exists_inMode _ h hanswer
  obtain ⟨points, hpoints, hordinary⟩ := hpoints
  exact ⟨_, score_eq_ok_iff.mpr ⟨points, hpoints, rfl⟩, Number.Within.tidy hordinary.score,
    hordinary.most.tidy⟩

end Questionnaire
