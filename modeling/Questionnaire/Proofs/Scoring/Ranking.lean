import Questionnaire.Proofs.Scoring.Optimum

/-!
The most points of a ranking are the best that an order of its options can have.  Places are counted
down to one, so the options with positive points come first, those with more points before the
others.  Items are known by their text: an order that names no text twice has at most the most
points.
-/

namespace Questionnaire

attribute [local irreducible] Binary64.one Binary64.limit

namespace Points

variable {question : Question}

/-- Texts can be put into any order that their points can be put into. -/
theorem exists_perm_of_map_perm {points : String → Int} {values : List Int} {texts : List String}
    (h : values.Perm (texts.map points)) :
    ∃ ranking : List String, ranking.Perm texts ∧ values = ranking.map points := by
  have hcomp := congrFun (congrFun (List.eq_map_comp_perm points) values) texts
  obtain ⟨ranking, hvalues, hranking⟩ := hcomp.mpr h
  exact ⟨ranking, hranking, hvalues⟩

theorem exists_ranking_le (hwhole : question.HasWholeOptions) {items : List Json}
    (hdistinct : (items.map Json.display).Nodup) :
    ∃ i j : Int, ofRanking question (.arr items) = .ok ⟨.int i, .int j⟩ ∧ i ≤ j := by
  obtain ⟨weight, hweight⟩ := hwhole.weight
  obtain ⟨points, hpoints, -⟩ := hwhole.exists_points
  obtain ⟨most, hnonneg, hmost, hitems⟩ := ranking_le (.arr items) ⟨points, hpoints⟩
  obtain ⟨total, hle, htotal⟩ := hitems items hdistinct
  rw [ofRanking, hmost, hweight]
  apply exists_weigh_le hnonneg
  intro outcome houtcome
  exact ⟨total, hle, (eq_of_unlessUnanswered houtcome).symm.trans htotal⟩

/-- The values of the best order of a ranking with `n` places. -/
def bestValues (question : Question) (n : Nat) : List Number :=
  if question.scores.isEmpty then (places n).map fun _ => 1
  else sortBy (fun a b => Number.lt b a) question.positiveScores

/-- Items whose values are those of the best order have the most points. -/
theorem exists_ranking_eq_of_values (hwhole : question.HasWholeOptions) {items : List Json}
    {values : List Int} (hitems : items.map (itemValue question) = values.map .int)
    (hbest : bestValues question (placeCount question (.arr items)) = values.map .int) :
    ∃ most : Int, ofRanking question (.arr items) = .ok ⟨.int most, .int most⟩ := by
  obtain ⟨weight, hweight⟩ := hwhole.weight
  have hmost : bestOfRanking question (.arr items)
      = placedTotal (places (placeCount question (.arr items)))
        (bestValues question (placeCount question (.arr items))) := rfl
  rw [ofRanking, hmost, hbest, Number.placedTotal_int, hweight]
  apply exists_weigh_eq
  rw [earnedByRanking, hitems, Number.placedTotal_int]
  unfold unlessUnanswered
  by_cases hnone : items = []
  · right
    have hvalues : values = [] := by simpa [hnone, eq_comm] using hitems
    rw [hnone, hvalues, Selection.placed, List.zipWith_nil_right]
    exact ⟨rfl, rfl⟩
  · left
    rw [if_neg]
    simpa [isUnanswered] using hnone

/-- Where options have no points of their own, all of them in any order have the most points. -/
theorem exists_choices_eq (hwhole : question.HasWholeOptions)
    (hempty : question.scores.isEmpty = true) :
    ∃ most : Int, ofRanking question (.arr (question.choices.map .str))
      = .ok ⟨.int most, .int most⟩ := by
  have hcount : placeCount question (.arr (question.choices.map .str))
      = question.choices.length := by
    unfold placeCount
    split
    · rw [listItems, List.length_map]
    · rfl
  have hones {α : Type} (items : List α) : (items.map fun _ => (1 : Number))
      = (List.replicate items.length (1 : Int)).map .int := by
    rw [List.map_const', List.map_replicate]
    rfl
  have hvalue : itemValue question = fun _ => 1 := funext fun _ => if_pos hempty
  have hitems : (question.choices.map Json.str).map (itemValue question)
      = (List.replicate question.choices.length (1 : Int)).map .int := by
    rw [hvalue, hones, List.length_map]
  apply exists_ranking_eq_of_values hwhole hitems
  rw [hcount, bestValues, if_pos hempty, hones, length_places]

/-- The worthwhile labels in the order of their points have the most points. -/
theorem exists_worthwhile_eq (hwhole : question.HasWholeOptions)
    (hempty : ¬ question.scores.isEmpty = true) :
    ∃ ranking : List String, ranking.Perm question.worthwhile ∧ ∃ most : Int,
      ofRanking question (.arr (ranking.map .str)) = .ok ⟨.int most, .int most⟩ := by
  obtain ⟨points, hpoints, hlabels⟩ := hwhole.exists_points
  obtain ⟨sorted, hsorted, hperm, -⟩ := hpoints.exists_sorted
  rw [← Selection.map_pointsOf_worthwhile hlabels, ← hpoints.worthwhile_eq] at hperm
  obtain ⟨ranking, hranking, rfl⟩ := exists_perm_of_map_perm hperm
  refine ⟨ranking, hranking, exists_ranking_eq_of_values hwhole ?_ ((if_neg hempty).trans hsorted)⟩
  rw [List.map_map, List.map_map]
  apply List.map_congr_left
  intro label _
  exact (if_neg hempty).trans (hpoints.scoreOf_eq label)

end Points

namespace Question

variable {question : Question}

/-- The most points of a ranking with whole points are the optimum over the orders of its options.
No items with different texts have more.  Where all labels with positive points are among the
options, some order of options, each of them placed at most once, has as many. -/
theorem ranking_optimal (hkind : question.kind = .ranking) (hdistinct : question.choices.Nodup)
    (hwhole : question.HasWholeOptions) :
    (∀ items : List Json, (items.map Json.display).Nodup → question.KeepsMost (.arr items))
      ∧ (question.worthwhile ⊆ question.choices →
        ∃ ranking : List String, ranking.Nodup ∧ ranking ⊆ question.choices
          ∧ question.ReachesMost (.arr (ranking.map .str))) := by
  have hreaches {items : List Json}
      (hmost : ∃ most : Int, Points.ofRanking question (.arr items) = .ok ⟨.int most, .int most⟩) :
      question.ReachesMost (.arr items) := by
    apply reachesMost_of_inMode
    rw [hkind]
    exact hmost
  constructor
  · intro items hitems
    apply keepsMost_of_inMode
    rw [hkind]
    exact Points.exists_ranking_le hwhole hitems
  · intro hlabels
    by_cases hempty : question.scores.isEmpty = true
    · exact ⟨question.choices, hdistinct, List.Subset.refl _,
        hreaches (Points.exists_choices_eq hwhole hempty)⟩
    · obtain ⟨ranking, hranking, hmost⟩ := Points.exists_worthwhile_eq hwhole hempty
      refine ⟨ranking, hranking.nodup_iff.mpr hwhole.nodup_worthwhile, ?_, hreaches hmost⟩
      exact fun label hlabel => hlabels (hranking.subset hlabel)

/-- Two of three directions have points, the one in the middle more. -/
def directions : Question :=
  { Survey.Sample.plain "q1" [] with
    kind := .ranking, options := some ["1", "2", "3"]
    optionScores := some [("1", 1), ("2", 4), ("3", .int (-2))] }

theorem hasWholeOptions_directions : directions.HasWholeOptions where
  weight := ⟨1, rfl⟩
  points := by
    change ∀ entry ∈ [("1", Number.int 1), ("2", .int 4), ("3", .int (-2))], ∃ value,
      entry.2 = .int value
    simp
  labels := by
    change ["1", "2", "3"].Nodup
    decide

theorem ranking_optimal_directions :
    directions.KeepsMost (.arr (["3", "2", "east"].map .str))
      ∧ ∃ ranking : List String, ranking.Nodup ∧ ranking ⊆ directions.choices
        ∧ directions.ReachesMost (.arr (ranking.map .str)) := by
  have hdistinct : directions.choices.Nodup := by
    change ["1", "2", "3"].Nodup
    decide
  have hlabels : directions.worthwhile ⊆ directions.choices := by
    have hworthwhile : directions.worthwhile = ["1", "2"] := by decide +kernel
    rw [hworthwhile]
    change ["1", "2"] ⊆ ["1", "2", "3"]
    decide
  obtain ⟨hbelow, hbest⟩ := ranking_optimal rfl hdistinct hasWholeOptions_directions
  exact ⟨hbelow _ (by decide), hbest hlabels⟩

/-- A number and the text of that number are two items, and have the points of one label twice. -/
theorem ranking_numberAndText :
    let items : List Json := [.num 2, .str "2"]
    directions.kind = .ranking ∧ directions.choices ≠ [] ∧ directions.choices.Nodup
      ∧ directions.HasWholeOptions ∧ items.Nodup ∧ ¬ directions.KeepsMost (.arr items) := by
  have hscored : directions.score (.arr [.num 2, .str "2"])
      = .ok ⟨"q1", 20, 14, .rankingWeighted, none, true, none⟩ := by decide +kernel
  refine ⟨rfl, by decide, ?_, hasWholeOptions_directions, by decide, ?_⟩
  · change ["1", "2", "3"].Nodup
    decide
  · rintro ⟨scored, hown, hle⟩
    rw [hscored] at hown
    obtain rfl := Except.ok.inj hown
    exact absurd hle (by decide +kernel)

end Question

end Questionnaire
