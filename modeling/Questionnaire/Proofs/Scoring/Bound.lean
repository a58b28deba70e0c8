import Questionnaire.Answer.Validation
import Questionnaire.Proofs.Scoring.Maximum
import Questionnaire.Proofs.Scoring.WholePoints

/-!
The points of an answer are not more than the most points of its question.  This takes an answer
that is accepted, and what acceptance leaves open: that no option is chosen twice, and no more than
one where a single one is asked for.  Where the points of several options are added up they have to
be whole numbers, so that the sums are exact.
-/

namespace Questionnaire

attribute [local irreducible] Binary64.one Binary64.limit

namespace Question

/-- Whether the points of several options may be added up. -/
def addsUp (question : Question) : Bool :=
  question.kind ∈ [.checkbox, .matrix, .ranking] || Points.takesSeveral question

/-- Points that leave no room for rounding: all of them finite, whole where they are added up, and
none to share out that there are not. -/
structure HasExactPoints (question : Question) : Prop where
  counted : ∀ entry ∈ question.scores, entry.2.IsCounted
  whole : question.addsUp = true → ∀ entry ∈ question.scores, ∃ value, entry.2 = .int value
  toShare : question.kind = .constantSum → Number.le 0 question.pointsToShare = true

end Question

namespace Points

/-- A choice of options of which none is the same as another one, and only one if a single one is
asked for. -/
def PicksOnce (single : Bool) (choice : Json) : Prop :=
  ((listItems choice).map Json.display).Nodup
    ∧ (single = true → (listItems choice).length ≤ 1)

/-- The cell of a row in an answer to a grid. -/
def cellOf : Json → String → Json
  | .obj cells, row => Answers.answerTo cells row
  | _, _ => .null

end Points

namespace Question

open Points

/-- An answer that chooses no option twice, and no more than one where a single one is asked for: on
its own, or in each row of a grid. -/
def PicksOnce (question : Question) (answer : Json) : Prop :=
  match question.kind with
  | .checkbox | .ranking => Points.PicksOnce false answer
  | .imageChoice => Points.PicksOnce (question.selection = .single) answer
  | .matrix => ∀ row ∈ question.rowLabels.getD [],
    Points.PicksOnce (question.gridKind = .radio) (cellOf answer row)
  | _ => True

end Question

namespace Points

variable {question : Question} {answer : Json} {points : Points}

/-- What is earned stays below the best under a weight that is not negative. -/
theorem weigh_le {best : Except Fault Number} {earned : Option (Except Fault Number)}
    {weight : Number} (h : weigh best earned weight = .ok points)
    (hweight : Number.le 0 weight = true)
    (hbest : ∀ value, best = .ok value → Number.le 0 value = true)
    (hearned : ∀ total value, earned = some (.ok total) → best = .ok value → value.IsCounted →
      total.IsCounted ∧ total.le value = true)
    (hbound : points.most.lt Number.exactBound = true) :
    points.score.le points.most = true := by
  obtain ⟨value, hvalue, hmost, hscore⟩ := of_weigh h
  have hnonneg := hbest value hvalue
  rcases hscore with ⟨-, hzero⟩ | ⟨total, htotal, hscore⟩
  · rw [hzero]
    exact Number.mul_nonneg hnonneg hweight hmost
      (Number.place?_ne_none_of_le (Number.le_of_lt hbound)).1
  · obtain ⟨u, v, hu, -⟩ := Number.units?_of_mul_lt hnonneg hweight hmost hbound
    obtain ⟨⟨units, hunits⟩, hle⟩ := hearned total value htotal hvalue ⟨u, hu⟩
    exact Number.mul_le_mul hle hunits hnonneg hweight hscore hmost hbound

theorem ofNumeric_le (h : ofNumeric question answer = .ok points)
    (hweight : Number.le 0 question.weight = true)
    (hbound : points.most.lt Number.exactBound = true) :
    points.score.le points.most = true := by
  unfold ofNumeric at h
  dsimp only at h
  split at h
  · obtain rfl := Except.ok.inj h
    exact Number.le_refl Number.isCounted_zero.place?_ne_none
  · rename_i hempty
    have hupper {most : Number} (hmost : question.numericUpperBound.mul question.weight = .ok most)
        (hplace : most.place? ≠ none) : Number.le 0 question.numericUpperBound = true :=
      Number.le_of_not_le (Number.place?_ne_none_of_mul hmost hplace) (Option.some_ne_none _) hempty
    have hplace := (Number.place?_ne_none_of_le (Number.le_of_lt hbound)).1
    split at h
    · obtain ⟨most, hmost, h⟩ := bind_eq_ok.mp h
      obtain rfl := Except.ok.inj h
      exact Number.mul_nonneg (hupper hmost hplace) hweight hmost hplace
    · rename_i value _
      obtain ⟨score, hscore, h⟩ := bind_eq_ok.mp h
      obtain ⟨most, hmost, h⟩ := bind_eq_ok.mp h
      obtain rfl := Except.ok.inj h
      have hnonneg := hupper hmost hplace
      obtain ⟨u, v, hu, -⟩ := Number.units?_of_mul_lt hnonneg hweight hmost hbound
      have hclamp : (value.clamp question.numericUpperBound).IsCounted
          ∧ (value.clamp question.numericUpperBound).le question.numericUpperBound = true :=
        Number.clamp_spec ⟨u, hu⟩ hnonneg
      obtain ⟨⟨units, hunits⟩, hle⟩ := hclamp
      exact Number.mul_le_mul hle hunits hnonneg hweight hscore hmost hbound

theorem ofNps_le (answer : Json) : (ofNps answer).score.le (ofNps answer).most = true := by
  have hnonneg : Number.le 0 npsTop = true := Number.zero_le_int.mpr (by decide)
  unfold ofNps
  split
  · exact hnonneg
  · exact (Number.clamp_spec (Number.isCounted_int 10) hnonneg).2

/-- The best points for a choice of one option, or of several. -/
def bestOf (question : Question) (single : Bool) : Except Fault Number :=
  if single then .ok question.bestScore else question.positiveTotal

section Choice

variable {single : Bool} {best : Number} (hexact : question.HasExactPoints)
  (hwhole : single = false → ∃ values, question.HasWholePoints values)
  (hbest : bestOf question single = .ok best)

include hexact hwhole hbest

/-- The best points are not negative, and no option has more. -/
theorem scoreOf_le_bestOf :
    Number.le 0 best = true ∧ ∀ option, (question.scoreOf option).le best = true := by
  cases single with
  | true =>
    obtain rfl := Except.ok.inj hbest
    exact ⟨(Question.bestScore_spec hexact.counted).2.1,
      Question.scoreOf_le_bestScore hexact.counted⟩
  | false =>
    obtain ⟨values, hvalues⟩ := hwhole rfl
    have htotal : question.positiveTotal = .ok best := hbest
    rw [hvalues.positiveTotal_eq] at htotal
    obtain rfl := Except.ok.inj htotal
    have hnone := Selection.sum_pointsOf_le values List.nodup_nil
    refine ⟨Number.zero_le_int.mpr hnone, fun option => ?_⟩
    rw [hvalues.scoreOf_eq, Number.int_le_int]
    have hone := Selection.sum_pointsOf_le values (List.nodup_singleton option)
    rwa [List.map_singleton, List.sum_singleton] at hone

/-- Options that differ, or a single one, do not have more points together than there are. -/
theorem totalOf_le_bestOf {options : List Json} (hdistinct : (options.map Json.display).Nodup)
    (hsingle : single = true → options.length ≤ 1) {total : Number}
    (htotal : question.totalOf options = .ok total) :
    total.IsCounted ∧ total.le best = true := by
  cases single with
  | true =>
    obtain ⟨hnonneg, hle⟩ := scoreOf_le_bestOf hexact hwhole hbest
    -- a single option is not rounded when it is added to nothing, whatever its kind
    match options, hsingle rfl with
    | [], _ =>
      obtain rfl := Except.ok.inj htotal
      exact ⟨Number.isCounted_zero, hnonneg⟩
    | [option], _ =>
      have hcounted := Question.scoreOf_isCounted hexact.counted option.display
      have hsum : ((0 : Number).add (question.scoreOf option.display) >>= pure) = .ok total :=
        htotal
      rw [bind_pure] at hsum
      have hsame := Number.zero_add_spec hcounted hsum
      obtain ⟨u, hu⟩ := hcounted
      rw [hu] at hsame
      have hown := hle option.display
      rw [Number.le, Number.place?_of_units? hu] at hown
      rw [Number.le, Number.place?_of_units? hsame]
      exact ⟨⟨u, hsame⟩, hown⟩
  | false =>
    obtain ⟨values, hvalues⟩ := hwhole rfl
    have hpositive : question.positiveTotal = .ok best := hbest
    rw [hvalues.positiveTotal_eq] at hpositive
    rw [hvalues.totalOf_eq] at htotal
    obtain rfl := Except.ok.inj hpositive
    obtain rfl := Except.ok.inj htotal
    have hle := Selection.sum_pointsOf_le values hdistinct
    exact ⟨Number.isCounted_int _, Number.int_le_int.mpr hle⟩

omit hwhole in
/-- The options of a list, or a single one, that are added up. -/
theorem chosenOptions_le (hwhole : ∃ values, question.HasWholePoints values)
    (hpick : PicksOnce single answer) {total : Number}
    (htotal : question.totalOf (chosenOptions answer) = .ok total) :
    total.IsCounted ∧ total.le best = true := by
  apply totalOf_le_bestOf hexact (fun _ => hwhole) hbest _ _ htotal
  · cases answer with
    | arr options => exact hpick.1
    | _ => exact List.nodup_singleton _
  · cases answer with
    | arr options => exact hpick.2
    | _ => exact fun _ => Nat.le_refl 1

end Choice

theorem listItems_asTruth (answer : Json) : listItems (asTruth answer) = listItems answer := by
  cases answer with
  | str word =>
    rcases asTruth_str word with hword | ⟨value, hword⟩
    · rw [hword]
    · rw [hword]
      rfl
  | _ => rfl

section Exact

variable (hexact : question.HasExactPoints) (hweight : Number.le 0 question.weight = true)
  (hbound : points.most.lt Number.exactBound = true)

include hexact hweight hbound

theorem ofChoice_le (h : ofChoice question answer = .ok points)
    (hwhole : takesSeveral question = true → ∃ values, question.HasWholePoints values)
    (hpick : PicksOnce (!takesSeveral question) answer) : points.score.le points.most = true := by
  have hbestOf : bestOfChoice question = bestOf question (!takesSeveral question) := by
    unfold bestOfChoice bestOf
    cases takesSeveral question <;> rfl
  have hwhole' (hseveral : (!takesSeveral question) = false) := hwhole (by simpa using hseveral)
  rw [ofChoice, hbestOf] at h
  apply weigh_le h hweight _ _ hbound
  · exact fun best hbest => (scoreOf_le_bestOf hexact hwhole' hbest).1
  · intro total best hearned hbest _
    unfold earnedByChoice unlessUnanswered at hearned
    split at hearned
    · cases hearned
    · have hearned := Option.some.inj hearned
      unfold chosenPoints at hearned
      split at hearned
      · exact totalOf_le_bestOf hexact hwhole' hbest hpick.1 hpick.2 hearned
      · obtain rfl := Except.ok.inj hearned
        exact ⟨Question.scoreOf_isCounted hexact.counted _,
          (scoreOf_le_bestOf hexact hwhole' hbest).2 _⟩

theorem ofCount_le (h : ofCount question answer = .ok points)
    (hwhole : ∃ values, question.HasWholePoints values) (hpick : PicksOnce false answer) :
    points.score.le points.most = true := by
  rw [ofCount] at h
  have hbestOf {best : Number} (hbest : question.positiveTotal = .ok best) :
      bestOf question false = .ok best := hbest
  apply weigh_le h hweight _ _ hbound
  · exact fun best hbest => (scoreOf_le_bestOf hexact (fun _ => hwhole) (hbestOf hbest)).1
  · intro total best hearned hbest _
    unfold earnedByCount unlessUnanswered at hearned
    split at hearned
    · cases hearned
    · exact chosenOptions_le hexact (hbestOf hbest) hwhole hpick (Option.some.inj hearned)

end Exact

theorem rowMost_eq_bestOf (h : ¬ question.scores.isEmpty = true) :
    rowMost question = bestOf question (question.gridKind = .radio) := by
  unfold rowMost bestOf
  rw [if_neg h]
  cases question.gridKind <;> rfl

theorem ofCell_eq_totalOf (h : ¬ question.scores.isEmpty = true) (cell : Json) :
    ofCell question cell = question.totalOf (chosenOptions cell) := by
  unfold ofCell
  rw [if_neg h]
  cases cell <;> rfl

/-- The points of a cell are whole, and not more than the most points of a row. -/
theorem ofCell_le (hexact : question.HasExactPoints)
    (hwhole : ∃ values, question.HasWholePoints values) :
    ∃ most : Int, 0 ≤ most ∧ rowMost question = .ok (.int most)
      ∧ ∀ cell, PicksOnce (question.gridKind = .radio) cell →
        ∃ total ≤ most, ofCell question cell = .ok (.int total) := by
  by_cases hempty : question.scores.isEmpty = true
  · exact ⟨1, by decide, if_pos hempty, fun _ _ => ⟨1, Int.le_refl 1, if_pos hempty⟩⟩
  · obtain ⟨values, hvalues⟩ := hwhole
    have hrow : ∃ most : Int, bestOf question (question.gridKind = .radio) = .ok (.int most) := by
      unfold bestOf
      split
      · obtain ⟨best, hbest⟩ := hvalues.exists_bestScore
        exact ⟨best, by rw [hbest]⟩
      · exact ⟨_, hvalues.positiveTotal_eq⟩
    obtain ⟨most, hbestOf⟩ := hrow
    have hnonneg := (scoreOf_le_bestOf hexact (fun _ => ⟨values, hvalues⟩) hbestOf).1
    have hmost := (rowMost_eq_bestOf hempty).trans hbestOf
    refine ⟨most, Number.zero_le_int.mp hnonneg, hmost, fun cell hcell => ?_⟩
    have htotal := hvalues.totalOf_eq (chosenOptions cell)
    have hle := (chosenOptions_le hexact hbestOf ⟨values, hvalues⟩ hcell htotal).2
    exact ⟨_, Number.int_le_int.mp hle, (ofCell_eq_totalOf hempty cell).trans htotal⟩

theorem exists_mapM_ofCell {cells : List Json} {most : Int}
    (h : ∀ cell ∈ cells, ∃ total ≤ most, ofCell question cell = .ok (.int total)) :
    ∃ values : List Int, cells.mapM (ofCell question) = .ok (values.map .int)
      ∧ values.sum ≤ cells.length * most := by
  induction cells with
  | nil => exact ⟨[], rfl, by simp⟩
  | cons cell rest ih =>
    obtain ⟨total, hle, htotal⟩ := h cell (List.mem_cons_self ..)
    obtain ⟨values, hvalues, hsum⟩ :=
      ih fun other hother => h other (List.mem_cons_of_mem cell hother)
    refine ⟨total :: values, ?_, ?_⟩
    · rw [List.mapM_cons, htotal, hvalues]
      rfl
    · rw [List.sum_cons, List.length_cons]
      push_cast
      linarith

/-- The answered cells of a grid have together at most what the best ones have in all rows. -/
theorem earnedByGrid_le {most : Int} (hnonneg : 0 ≤ most)
    (hcell : ∀ row ∈ question.rowLabels.getD [],
      ∃ total ≤ most, ofCell question (cellOf answer row) = .ok (.int total))
    {outcome : Except Fault Number} (h : earnedByGrid question answer = some outcome) :
    ∃ total ≤ (question.rowLabels.getD []).length * most, outcome = .ok (.int total) := by
  unfold earnedByGrid unlessUnanswered at h
  split at h
  · rename_i cells
    split at h
    · cases h
    · have hcells : ∀ cell ∈ answeredCells question cells,
          ∃ total ≤ most, ofCell question cell = .ok (.int total) := by
        intro cell hmem
        obtain ⟨row, hrow, rfl⟩ := List.mem_map.mp (List.mem_of_mem_filter hmem)
        exact hcell row hrow
      obtain ⟨values, hvalues, hsum⟩ := exists_mapM_ofCell hcells
      have houtcome := Option.some.inj h
      rw [hvalues] at houtcome
      have houtcome : Number.sum (values.map .int) = outcome := houtcome
      rw [Number.sum_int] at houtcome
      -- rows without an answer count towards the most points all the same
      have hlength : (answeredCells question cells).length
          ≤ (question.rowLabels.getD []).length :=
        (List.length_filter_le _ _).trans (List.length_map _).le
      refine ⟨values.sum, hsum.trans ?_, houtcome.symm⟩
      exact Int.mul_le_mul_of_nonneg_right (by exact_mod_cast hlength) hnonneg
  · cases h

theorem bestOfGrid_int {most : Int} (h : rowMost question = .ok (.int most)) :
    bestOfGrid question = .ok (.int ((question.rowLabels.getD []).length * most)) := by
  rw [bestOfGrid, h]
  rfl

theorem ofGrid_le (hexact : question.HasExactPoints) (hweight : Number.le 0 question.weight = true)
    (hbound : points.most.lt Number.exactBound = true) (h : ofGrid question answer = .ok points)
    (hwhole : ∃ values, question.HasWholePoints values)
    (hpick : ∀ row ∈ question.rowLabels.getD [],
      PicksOnce (question.gridKind = .radio) (cellOf answer row)) :
    points.score.le points.most = true := by
  obtain ⟨most, hnonneg, hmost, hcell⟩ := ofCell_le hexact hwhole
  rw [ofGrid, bestOfGrid_int hmost] at h
  apply weigh_le h hweight _ _ hbound
  · intro best hvalue
    obtain rfl := Except.ok.inj hvalue
    exact Number.zero_le_int.mpr (Int.mul_nonneg (Int.natCast_nonneg _) hnonneg)
  · intro total best hearned hvalue _
    obtain rfl := Except.ok.inj hvalue
    obtain ⟨reached, hle, hreached⟩ :=
      earnedByGrid_le hnonneg (fun row hrow => hcell _ (hpick row hrow)) hearned
    obtain rfl := Except.ok.inj hreached
    exact ⟨Number.isCounted_int _, Number.int_le_int.mpr hle⟩

variable (answer) in
/-- The best order of a ranking is whole, and no order of items that differ has more points. -/
theorem ranking_le (hwhole : ∃ values, question.HasWholePoints values) :
    ∃ most : Int, 0 ≤ most ∧ bestOfRanking question answer = .ok (.int most)
      ∧ ∀ items : List Json, (items.map Json.display).Nodup →
        ∃ total ≤ most, placedTotal (places (placeCount question answer))
          (items.map (itemValue question)) = .ok (.int total) := by
  have hitem : itemValue question = fun item =>
      if question.scores.isEmpty then 1 else question.scoreOf item.display := rfl
  have hones {α : Type} (items : List α) :
      (items.map fun _ => (1 : Number)) = (items.map fun _ => (1 : Int)).map .int := by
    rw [List.map_map]
    rfl
  unfold bestOfRanking
  dsimp only
  generalize placeCount question answer = n
  by_cases hempty : question.scores.isEmpty = true
  · simp only [hitem, hempty, if_true, hones, Number.placedTotal_int]
    refine ⟨_, Selection.placed_nonneg n ?_, rfl, fun items _ => ⟨_, ?_, rfl⟩⟩
    · intro value hvalue
      obtain ⟨_, -, rfl⟩ := List.mem_map.mp hvalue
      decide
    · have hle := Selection.placed_ones_le items (places n)
      rwa [length_places] at hle
  · obtain ⟨values, hvalues⟩ := hwhole
    obtain ⟨sorted, hsorted, hperm, hdescends⟩ := hvalues.exists_sorted
    have hitems (items : List Json) : (items.map fun item => question.scoreOf item.display)
        = ((items.map Json.display).map (Selection.pointsOf values)).map .int := by
      rw [List.map_map, List.map_map]
      exact List.map_congr_left fun item _ => hvalues.scoreOf_eq item.display
    simp only [hitem, hempty, Bool.false_eq_true, if_false, hsorted, hitems, Number.placedTotal_int]
    refine ⟨_, Selection.placed_nonneg n ?_, rfl, fun items hdistinct => ⟨_, ?_, rfl⟩⟩
    · exact fun value hvalue => Selection.positive_nonneg value (hperm.mem_iff.mp hvalue)
    · exact Selection.placed_pointsOf_le n values hdistinct hperm hdescends

theorem ofRanking_le (hweight : Number.le 0 question.weight = true)
    (hbound : points.most.lt Number.exactBound = true) (h : ofRanking question answer = .ok points)
    (hwhole : ∃ values, question.HasWholePoints values)
    (hdistinct : ((listItems answer).map Json.display).Nodup) :
    points.score.le points.most = true := by
  obtain ⟨most, hnonneg, hmost, hitems⟩ := ranking_le answer hwhole
  rw [ofRanking, hmost] at h
  apply weigh_le h hweight _ _ hbound
  · intro best hvalue
    obtain rfl := Except.ok.inj hvalue
    exact Number.zero_le_int.mpr hnonneg
  · intro total best hearned hvalue _
    obtain rfl := Except.ok.inj hvalue
    unfold earnedByRanking unlessUnanswered at hearned
    split at hearned
    · rename_i items
      split at hearned
      · cases hearned
      · obtain ⟨reached, hle, hreached⟩ := hitems items hdistinct
        have htotal := Option.some.inj hearned
        rw [hreached] at htotal
        obtain rfl := Except.ok.inj htotal
        exact ⟨Number.isCounted_int _, Number.int_le_int.mpr hle⟩
    · cases hearned

theorem ofAllocation_le (hweight : Number.le 0 question.weight = true)
    (hbound : points.most.lt Number.exactBound = true)
    (h : ofAllocation question answer = .ok points)
    (hshare : Number.le 0 question.pointsToShare = true) : points.score.le points.most = true := by
  rw [ofAllocation] at h
  apply weigh_le h hweight _ _ hbound
  · intro best hvalue
    obtain rfl := Except.ok.inj hvalue
    exact hshare
  · intro total best hearned hvalue hcounted
    obtain rfl := Except.ok.inj hvalue
    obtain ⟨shared, rfl⟩ := exists_clamp_of_earnedByAllocation hearned
    exact Number.clamp_spec hcounted hshare

end Points

namespace Question

variable {question : Question} {answer : Json}

/-- A list is not accepted where a single text or a truth value is asked for. -/
theorem listItems_of_validate
    (hkind : question.kind ∈ [.multipleChoice, .dropdown, .yesNo])
    (hvalid : question.validate answer = .ok []) : Points.listItems answer = [] := by
  cases answer with
  | arr items =>
    by_contra hitems
    have hanswered : isUnanswered (.arr items) = false := by
      simpa [isUnanswered, Points.listItems] using hitems
    have hissue : ∃ issue, question.answerCheck (.arr items) = .issues [issue] := by
      simp only [List.mem_cons, List.not_mem_nil, or_false] at hkind
      unfold answerCheck
      rcases hkind with hkind | hkind | hkind
      · rw [hkind]
        exact ⟨_, rfl⟩
      · rw [hkind]
        exact ⟨_, rfl⟩
      · rw [hkind]
        exact ⟨_, rfl⟩
    obtain ⟨issue, hissue⟩ := hissue
    have hlines := lines_of_validate hanswered hvalid
    rw [hissue] at hlines
    cases hlines
  | _ => rfl

/-- What an accepted answer chooses where a choice is scored. -/
theorem picksOnce_of_choice (hmode : question.kind.scoringMode = .positionMapped
      ∨ question.kind.scoringMode = .custom)
    (hvalid : question.validate answer = .ok []) (hpick : question.PicksOnce answer) :
    Points.PicksOnce (!Points.takesSeveral question) answer := by
  by_cases himage : question.kind = .imageChoice
  · simp only [PicksOnce, himage] at hpick
    refine ⟨hpick.1, fun hone => hpick.2 ?_⟩
    cases hselection : question.selection with
    | single => rfl
    | multiple => simp [Points.takesSeveral, himage, hselection] at hone
  · have hkind : question.kind ∈ [.multipleChoice, .dropdown, .yesNo] := by
      revert hmode himage
      cases question.kind <;> decide
    rw [Points.PicksOnce, listItems_of_validate hkind hvalid]
    exact ⟨List.nodup_nil, fun _ => Nat.zero_le 1⟩

theorem inMode_le {points : Points} (hexact : question.HasExactPoints)
    (hweight : Number.le 0 question.weight = true)
    (hbound : points.most.lt Number.exactBound = true)
    (h : Points.inMode question.kind.scoringMode question answer = .ok points)
    (hvalid : question.validate answer = .ok []) (hpick : question.PicksOnce answer) :
    points.score.le points.most = true := by
  have hwhole (hadds : question.addsUp = true) := exists_hasWholePoints (hexact.whole hadds)
  have hseveral (htakes : Points.takesSeveral question = true) :=
    hwhole (by rw [addsUp, htakes, Bool.or_true])
  unfold PicksOnce at hpick
  -- only the modes that add points up ask for whole ones
  cases hmode : question.kind.scoringMode <;> rw [hmode] at h
  case numericDirect => exact Points.ofNumeric_le h hweight hbound
  case positionMapped =>
    have hchoice := picksOnce_of_choice (Or.inl hmode) hvalid hpick
    exact Points.ofChoice_le hexact hweight hbound h hseveral hchoice
  case custom =>
    have hchoice := picksOnce_of_choice (Or.inr hmode) hvalid hpick
    rw [Points.PicksOnce, ← Points.listItems_asTruth] at hchoice
    exact Points.ofChoice_le hexact hweight hbound h hseveral hchoice
  case count =>
    have hkind := kind_eq_of_scoringMode hmode rfl
    rw [hkind] at hpick
    exact Points.ofCount_le hexact hweight hbound h (hwhole (by simp [addsUp, hkind])) hpick
  case nps =>
    obtain rfl := Except.ok.inj h
    exact Points.ofNps_le answer
  case matrixSum =>
    have hkind := kind_eq_of_scoringMode hmode rfl
    rw [hkind] at hpick
    exact Points.ofGrid_le hexact hweight hbound h (hwhole (by simp [addsUp, hkind])) hpick
  case rankingWeighted =>
    have hkind := kind_eq_of_scoringMode hmode rfl
    rw [hkind] at hpick
    exact Points.ofRanking_le hweight hbound h (hwhole (by simp [addsUp, hkind])) hpick.1
  case constantSumTotal =>
    have hkind := kind_eq_of_scoringMode hmode rfl
    exact Points.ofAllocation_le hweight hbound h (hexact.toShare hkind)
  case none =>
    obtain rfl := Except.ok.inj h
    exact Number.le_refl Number.isCounted_zero.place?_ne_none

/-- A question with exact points and a weight that is not negative: an answer that is accepted and
chooses no option twice has at most the most points, as long as those are below `2 ^ 53`. -/
theorem score_le_maxScore {scored : QuestionScore} (hscored : question.score answer = .ok scored)
    (hvalid : question.validate answer = .ok []) (hweight : Number.le 0 question.weight = true)
    (hexact : question.HasExactPoints) (hpick : question.PicksOnce answer)
    (hbound : scored.maxScore.lt Number.exactBound = true) :
    scored.score.le scored.maxScore = true := by
  obtain ⟨points, hscore, hmost, hpoints⟩ := of_score hscored
  have hplaces (a b : Number) : a.tidy.le b.tidy = a.le b := by
    rw [Number.le, Number.le, Number.place?_tidy, Number.place?_tidy]
  rw [hscore, hmost, hplaces]
  rw [hmost, Number.lt, Number.place?_tidy, ← Number.lt] at hbound
  rcases hpoints with ⟨-, rfl⟩ | ⟨-, hpoints⟩
  · exact Number.le_refl Number.isCounted_zero.place?_ne_none
  · exact inMode_le hexact hweight hbound hpoints hvalid hpick

/-- Two options that are worth something, chosen together. -/
def twoOptions : Question :=
  { Survey.Sample.plain "q1" [] with
    kind := .checkbox, options := some ["A", "B"], optionScores := some [("A", 1), ("B", 2)] }

theorem score_le_maxScore_twoOptions :
    ∃ scored, twoOptions.score (.arr [.str "A", .str "B"]) = .ok scored
      ∧ scored.score.le scored.maxScore = true := by
  have hscored : twoOptions.score (.arr [.str "A", .str "B"])
      = .ok ⟨"q1", 3, 3, .count, none, true, none⟩ := by decide +kernel
  have hwhole : ∀ entry ∈ twoOptions.scores, ∃ value, entry.2 = .int value := by
    change ∀ entry ∈ [("A", Number.int 1), ("B", Number.int 2)], ∃ value, entry.2 = .int value
    simp
  have hexact : twoOptions.HasExactPoints := by
    refine ⟨fun entry hentry => ?_, fun _ => hwhole, fun hkind => by cases hkind⟩
    obtain ⟨value, hvalue⟩ := hwhole entry hentry
    rw [hvalue]
    exact Number.isCounted_int value
  have hpick : twoOptions.PicksOnce (.arr [.str "A", .str "B"]) :=
    ⟨by decide +kernel, fun hsingle => by cases hsingle⟩
  exact ⟨_, hscored, score_le_maxScore hscored (by decide +kernel) (by decide +kernel) hexact hpick
    (by decide +kernel)⟩

/-- An option chosen twice is accepted, and counts twice. -/
theorem score_optionTwice :
    let question := { twoOptions with optionScores := some [("A", 1), ("B", 0)] }
    let answer := Json.arr [.str "A", .str "A"]
    question.kind.isScorable = true ∧ Number.le 0 question.weight = true
      ∧ question.validate answer = .ok []
      ∧ (question.score answer).map (fun scored => scored.score.le scored.maxScore)
        = .ok false := by
  decide +kernel

end Question

end Questionnaire
