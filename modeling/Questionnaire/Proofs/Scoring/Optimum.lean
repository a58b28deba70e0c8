import Questionnaire.Proofs.Scoring.Bound

/-!
The most points of a question are the best that an answer can have.  Where the points of the options
are whole numbers and the weight is a natural number, no answer has more that chooses no option
twice, and one has as many: the labels with positive points together, or the best of them where a
single one is asked for, in every row of a grid.
-/

namespace Questionnaire

attribute [local irreducible] Binary64.one Binary64.limit

namespace Selection

/-- The labels of the options with positive points. -/
def worthwhile (points : Entries Int) : List String :=
  (points.filter fun entry => 0 < entry.2).map (·.1)

/-- No label standing twice, the worthwhile labels have the positive points. -/
theorem map_pointsOf_worthwhile {points : Entries Int} (hlabels : points.keys.Nodup) :
    (worthwhile points).map (pointsOf points) = positive (points.map (·.2)) := by
  have hown : ∀ entry ∈ points.filter fun entry => 0 < entry.2,
      pointsOf points entry.1 = entry.2 := by
    intro entry hentry
    have hfound := (Entries.get?_eq_some_iff hlabels).mpr (List.mem_of_mem_filter hentry)
    rw [pointsOf, hfound]
    rfl
  rw [worthwhile, List.map_map, positive, List.filter_map]
  exact List.map_congr_left hown

theorem nodup_worthwhile {points : Entries Int} (hlabels : points.keys.Nodup) :
    (worthwhile points).Nodup :=
  hlabels.sublist (List.filter_sublist.map _)

end Selection

namespace Question

/-- Whole points and a weight that is a natural number; no label stands twice, as in any object. -/
structure HasWholeOptions (question : Question) : Prop where
  weight : ∃ weight : Nat, question.weight = .int weight
  points : ∀ entry ∈ question.scores, ∃ value, entry.2 = .int value
  labels : question.scores.keys.Nodup

/-- The labels of the options with positive points. -/
def worthwhile (question : Question) : List String :=
  (question.scores.filter fun entry => Number.lt 0 entry.2).map (·.1)

/-- The answer is scored, and has at most the most points. -/
def KeepsMost (question : Question) (answer : Json) : Prop :=
  ∃ scored, question.score answer = .ok scored ∧ scored.score.le scored.maxScore = true

/-- The answer is scored, and has the most points. -/
def ReachesMost (question : Question) (answer : Json) : Prop :=
  ∃ scored, question.score answer = .ok scored ∧ scored.score = scored.maxScore

variable {question : Question} {answer : Json}

theorem HasWholePoints.worthwhile_eq {points : Entries Int} (h : question.HasWholePoints points) :
    question.worthwhile = Selection.worthwhile points := by
  have hpositive : (fun entry : String × Int => Number.lt 0 (.int entry.2))
      = fun entry => decide (0 < entry.2) := by
    funext entry
    rw [Bool.eq_iff_iff, Number.zero_lt_int, decide_eq_true_eq]
  rw [worthwhile, h, List.filter_map, List.map_map]
  exact congrArg (fun below => (points.filter below).map (·.1)) hpositive

theorem HasWholePoints.labels {points : Entries Int} (h : question.HasWholePoints points)
    (hlabels : question.scores.keys.Nodup) : points.keys.Nodup := by
  rw [h, Entries.keys, List.map_map] at hlabels
  exact hlabels

/-- The options of a question with whole points: their points, and the worthwhile ones. -/
theorem HasWholeOptions.exists_points (h : question.HasWholeOptions) :
    ∃ points, question.HasWholePoints points ∧ points.keys.Nodup := by
  obtain ⟨points, hpoints⟩ := exists_hasWholePoints h.points
  exact ⟨points, hpoints, hpoints.labels h.labels⟩

theorem HasWholeOptions.nodup_worthwhile (h : question.HasWholeOptions) :
    question.worthwhile.Nodup :=
  h.labels.sublist (List.filter_sublist.map _)

/-- A question that is not to be scored has no points out of none. -/
theorem score_of_not_scorable (hoff : question.scorable = some false) (answer : Json) :
    question.score answer = .ok (question.reported answer .nothing) := by
  apply score_eq_ok_iff.mpr
  exact ⟨.nothing, if_pos hoff, rfl⟩

theorem keepsMost_of_inMode
    (h : ∃ i j : Int, Points.inMode question.kind.scoringMode question answer
      = .ok ⟨.int i, .int j⟩ ∧ i ≤ j) : question.KeepsMost answer := by
  by_cases hoff : question.scorable = some false
  · exact ⟨_, score_of_not_scorable hoff answer, Number.int_le_int.mpr (Int.le_refl 0)⟩
  · obtain ⟨i, j, hpoints, hle⟩ := h
    have hearned : question.earned answer = .ok ⟨.int i, .int j⟩ := (if_neg hoff).trans hpoints
    exact ⟨_, score_eq_ok_iff.mpr ⟨_, hearned, rfl⟩, Number.int_le_int.mpr hle⟩

theorem reachesMost_of_inMode
    (h : ∃ most : Int, Points.inMode question.kind.scoringMode question answer
      = .ok ⟨.int most, .int most⟩) : question.ReachesMost answer := by
  by_cases hoff : question.scorable = some false
  · exact ⟨_, score_of_not_scorable hoff answer, rfl⟩
  · obtain ⟨most, hpoints⟩ := h
    have hearned : question.earned answer = .ok ⟨.int most, .int most⟩ :=
      (if_neg hoff).trans hpoints
    exact ⟨_, score_eq_ok_iff.mpr ⟨_, hearned, rfl⟩, rfl⟩

end Question

namespace Points

variable {question : Question} {answer : Json} {best : Int} {weight : Nat}
  {earned : Option (Except Fault Number)}

/-- Whole points that are at most the best ones stay so under a weight. -/
theorem exists_weigh_le (hbest : 0 ≤ best)
    (hearned : ∀ outcome, earned = some outcome → ∃ total ≤ best, outcome = .ok (.int total)) :
    ∃ i j : Int, weigh (.ok (.int best)) earned (.int weight) = .ok ⟨.int i, .int j⟩ ∧ i ≤ j := by
  have hweight : (0 : Int) ≤ weight := Int.natCast_nonneg weight
  cases earned with
  | none => exact ⟨0, best * weight, rfl, Int.mul_nonneg hbest hweight⟩
  | some outcome =>
      obtain ⟨total, hle, rfl⟩ := hearned outcome rfl
      exact ⟨total * weight, best * weight, rfl, Int.mul_le_mul_of_nonneg_right hle hweight⟩

/-- The best points are reached by whoever earns them, and without an answer where they are none. -/
theorem exists_weigh_eq (hearned : earned = some (.ok (.int best)) ∨ earned = none ∧ best = 0) :
    ∃ most : Int, weigh (.ok (.int best)) earned (.int weight) = .ok ⟨.int most, .int most⟩ := by
  rcases hearned with rfl | ⟨rfl, rfl⟩
  · exact ⟨best * weight, rfl⟩
  · have hnone : weigh (.ok (.int 0)) none (.int weight) = .ok ⟨0, .int (0 * weight)⟩ := rfl
    rw [hnone, Int.zero_mul]
    exact ⟨0, rfl⟩

/-- What an answer earns is its points, or nothing where it is none. -/
theorem eq_of_unlessUnanswered {outcome earned : Except Fault Number}
    (h : unlessUnanswered answer earned = some outcome) : earned = outcome := by
  unfold unlessUnanswered at h
  split at h
  · cases h
  · exact Option.some.inj h

theorem display_texts (texts : List String) : (texts.map Json.str).map Json.display = texts := by
  rw [List.map_map]
  exact List.map_id texts

/-- Texts that differ have at most all positive points together. -/
theorem exists_weigh_texts_le (hwhole : question.HasWholeOptions) {texts : List String}
    (hdistinct : texts.Nodup) :
    ∃ i j : Int, weigh question.positiveTotal
      (unlessUnanswered (.arr (texts.map .str)) (question.totalOf (texts.map .str))) question.weight
        = .ok ⟨.int i, .int j⟩ ∧ i ≤ j := by
  obtain ⟨weight, hweight⟩ := hwhole.weight
  obtain ⟨points, hpoints, -⟩ := hwhole.exists_points
  rw [hpoints.positiveTotal_eq, hpoints.totalOf_eq, display_texts, hweight]
  apply exists_weigh_le
  · exact Selection.sum_pointsOf_le points List.nodup_nil
  · intro outcome houtcome
    exact ⟨_, Selection.sum_pointsOf_le points hdistinct, (eq_of_unlessUnanswered houtcome).symm⟩

/-- The worthwhile labels have all positive points together. -/
theorem exists_weigh_worthwhile (hwhole : question.HasWholeOptions) :
    ∃ most : Int, weigh question.positiveTotal
      (unlessUnanswered (.arr (question.worthwhile.map .str))
        (question.totalOf (question.worthwhile.map .str))) question.weight
          = .ok ⟨.int most, .int most⟩ := by
  obtain ⟨weight, hweight⟩ := hwhole.weight
  obtain ⟨points, hpoints, hlabels⟩ := hwhole.exists_points
  have htotal := Selection.map_pointsOf_worthwhile hlabels
  rw [hpoints.positiveTotal_eq, hpoints.totalOf_eq, display_texts, hpoints.worthwhile_eq, htotal,
    hweight]
  apply exists_weigh_eq
  unfold unlessUnanswered
  by_cases hnone : Selection.worthwhile points = []
  · rw [hnone, List.map_nil] at htotal
    rw [hnone, ← htotal]
    exact .inr ⟨rfl, rfl⟩
  · left
    rw [if_neg]
    simpa [isUnanswered] using hnone

/-- How a list of options is scored where several may be chosen. -/
theorem inMode_several
    (hkind : question.kind = .checkbox
      ∨ question.kind = .imageChoice ∧ question.selection = .multiple)
    (options : List Json) : inMode question.kind.scoringMode question (.arr options)
      = weigh question.positiveTotal
        (unlessUnanswered (.arr options) (question.totalOf options)) question.weight := by
  rcases hkind with hkind | ⟨hkind, hselection⟩
  · rw [hkind]
    rfl
  · have hseveral : takesSeveral question = true := by simp [takesSeveral, hkind, hselection]
    have hbest : bestOfChoice question = question.positiveTotal := if_pos hseveral
    rw [hkind, ← hbest]
    rfl

/-- A single option has at most the points of the best one. -/
theorem ofChoice_single_le (hwhole : question.HasWholeOptions)
    (hsingle : takesSeveral question = false) (hanswer : ∀ items, answer ≠ .arr items) :
    ∃ i j : Int, ofChoice question answer = .ok ⟨.int i, .int j⟩ ∧ i ≤ j := by
  obtain ⟨weight, hweight⟩ := hwhole.weight
  obtain ⟨points, hpoints, -⟩ := hwhole.exists_points
  obtain ⟨best, hbest⟩ := hpoints.exists_bestScore
  have hcounted : ∀ entry ∈ question.scores, entry.2.IsCounted := by
    intro entry hentry
    obtain ⟨value, hvalue⟩ := hwhole.points entry hentry
    rw [hvalue]
    exact Number.isCounted_int value
  have hnonneg := (Question.bestScore_spec hcounted).2.1
  have hle (option : String) := Question.scoreOf_le_bestScore hcounted option
  rw [hbest] at hnonneg
  simp only [hbest, hpoints.scoreOf_eq, Number.int_le_int] at hle
  have hbestOf : bestOfChoice question = .ok (.int best) := by
    rw [bestOfChoice, hsingle, ← hbest]
    rfl
  rw [ofChoice, hbestOf, hweight]
  apply exists_weigh_le (Number.zero_le_int.mp hnonneg)
  intro outcome houtcome
  have houtcome := eq_of_unlessUnanswered houtcome
  refine ⟨_, hle (chosenOption question answer), ?_⟩
  rw [← houtcome, ← hpoints.scoreOf_eq]
  unfold chosenPoints
  split
  · exact absurd rfl (hanswer _)
  · rfl

theorem asTruth_ne_arr (hanswer : ∀ items, answer ≠ .arr items) (items : List Json) :
    asTruth answer ≠ .arr items := by
  cases answer with
  | arr own => exact absurd rfl (hanswer own)
  | str word =>
      rcases asTruth_str word with hword | ⟨value, hword⟩
      · rw [hword]
        exact nofun
      · rw [hword]
        exact nofun
  | _ => exact nofun

/-- How a single option is scored where a single one is asked for. -/
theorem inMode_single_le (hwhole : question.HasWholeOptions)
    (hkind : question.kind ∈ [.multipleChoice, .dropdown, .yesNo]
      ∨ question.kind = .imageChoice ∧ question.selection = .single)
    (hanswer : ∀ items, answer ≠ .arr items) :
    ∃ i j : Int, inMode question.kind.scoringMode question answer = .ok ⟨.int i, .int j⟩
      ∧ i ≤ j := by
  have hsingle : takesSeveral question = false := by
    unfold takesSeveral
    rcases hkind with hkind | ⟨-, hselection⟩
    · have himage : question.kind ≠ .imageChoice := by
        intro himage
        simp [himage] at hkind
      simp [himage]
    · simp [hselection]
  have hplain := ofChoice_single_le hwhole hsingle hanswer
  have hcustom := ofChoice_single_le hwhole hsingle (asTruth_ne_arr hanswer)
  rcases hkind with hkind | ⟨hkind, -⟩
  · simp only [List.mem_cons, List.not_mem_nil, or_false] at hkind
    rcases hkind with hkind | hkind | hkind
    · rw [hkind]
      exact hplain
    · rw [hkind]
      exact hplain
    · rw [hkind]
      exact hcustom
  · rw [hkind]
    exact hcustom

/-- A cell of a grid: a text, or, where several may be chosen, a list of texts that differ. -/
def IsCell (question : Question) (cell : Json) : Prop :=
  match question.gridKind with
  | .radio => ∃ text, cell = .str text
  | .checkbox => ∃ texts : List String, texts.Nodup ∧ cell = .arr (texts.map .str)

theorem IsCell.picksOnce {cell : Json} (h : IsCell question cell) :
    PicksOnce (question.gridKind = .radio) cell := by
  unfold IsCell at h
  split at h
  · obtain ⟨text, rfl⟩ := h
    exact ⟨List.nodup_nil, fun _ => Nat.zero_le 1⟩
  · rename_i hkind
    obtain ⟨texts, hdistinct, rfl⟩ := h
    refine ⟨(display_texts texts).symm ▸ hdistinct, fun hradio => ?_⟩
    simp [hkind] at hradio

theorem exists_grid_le (hwhole : question.HasWholeOptions) (hkind : question.kind = .matrix)
    {cells : Answers} (hcells : ∀ cell ∈ cells, IsCell question cell.2) :
    ∃ i j : Int, ofGrid question (.obj cells) = .ok ⟨.int i, .int j⟩ ∧ i ≤ j := by
  obtain ⟨weight, hweight⟩ := hwhole.weight
  obtain ⟨points, hpoints, -⟩ := hwhole.exists_points
  have hexact : question.HasExactPoints := by
    refine ⟨fun entry hentry => ?_, fun _ => hwhole.points, fun hshare => ?_⟩
    · obtain ⟨value, hvalue⟩ := hwhole.points entry hentry
      rw [hvalue]
      exact Number.isCounted_int value
    · rw [hkind] at hshare
      cases hshare
  obtain ⟨most, hnonneg, hmost, hcell⟩ := ofCell_le hexact ⟨points, hpoints⟩
  have hpick : ∀ row, PicksOnce (question.gridKind = .radio) (cellOf (.obj cells) row) := by
    intro row
    change PicksOnce _ ((Entries.get? cells row).getD .null)
    cases hfound : Entries.get? cells row with
    | none => exact ⟨List.nodup_nil, fun _ => Nat.zero_le 1⟩
    | some cell => exact (hcells _ (Entries.mem_of_get? hfound)).picksOnce
  rw [ofGrid, bestOfGrid_int hmost, hweight]
  apply exists_weigh_le
  · exact Int.mul_nonneg (Int.natCast_nonneg _) hnonneg
  · intro outcome houtcome
    exact earnedByGrid_le hnonneg (fun row _ => hcell _ (hpick row)) houtcome

theorem ofCell_single (hempty : ¬ question.scores.isEmpty = true) (label : String) :
    ofCell question (.str label) = question.totalOf [.str label] :=
  ofCell_eq_totalOf hempty (.str label)

/-- The best option is one of those that have points, unless none has positive points. -/
theorem exists_best_label {points : Entries Int} (hpoints : question.HasWholePoints points)
    (hlabels : question.scores.keys.Nodup) :
    ∃ best : Int, question.bestScore = .int best
      ∧ (best = 0 ∨ ∃ entry ∈ question.scores, Selection.pointsOf points entry.1 = best) := by
  obtain ⟨best, hbest⟩ := hpoints.exists_bestScore
  refine ⟨best, hbest, ?_⟩
  have hmember : question.bestScore = 0 ∨ question.bestScore ∈ question.positiveScores := by
    unfold Question.bestScore
    cases question.positiveScores with
    | nil => exact .inl rfl
    | cons first rest => exact .inr (Number.foldl_max_mem first rest)
  rcases hmember with hzero | hmember
  · rw [hbest] at hzero
    exact .inl (Number.int.inj hzero)
  · obtain ⟨entry, hentry, hown⟩ := List.mem_map.mp (List.mem_of_mem_filter hmember)
    have hscore : question.scoreOf entry.1 = entry.2 := by
      rw [Question.scoreOf, (Entries.get?_eq_some_iff hlabels).mpr hentry]
      rfl
    rw [hown, hbest, hpoints.scoreOf_eq] at hscore
    exact .inr ⟨entry, hentry, Number.int.inj hscore⟩

/-- A row has its most points for some cell, unless they are none. -/
theorem exists_bestCell (hwhole : question.HasWholeOptions)
    (hlabels : ∀ entry ∈ question.scores, Text.allBlank entry.1 = false) :
    ∃ most : Int, rowMost question = .ok (.int most) ∧ (most = 0 ∨ ∃ cell, IsCell question cell
      ∧ isUnanswered cell = false ∧ ofCell question cell = .ok (.int most)) := by
  obtain ⟨points, hpoints, hnames⟩ := hwhole.exists_points
  by_cases hempty : question.scores.isEmpty = true
  · refine ⟨1, if_pos hempty, .inr ?_⟩
    have hone (cell : Json) : ofCell question cell = .ok (.int 1) := if_pos hempty
    unfold IsCell
    cases question.gridKind with
    | radio => exact ⟨.str "x", ⟨"x", rfl⟩, by decide, hone _⟩
    | checkbox =>
        exact ⟨.arr [.str "x"], ⟨["x"], List.nodup_singleton "x", rfl⟩, by decide, hone _⟩
  · rw [rowMost_eq_bestOf hempty]
    unfold IsCell
    cases question.gridKind with
    | radio =>
        obtain ⟨best, hbest, hlabel⟩ := exists_best_label hpoints hwhole.labels
        refine ⟨best, congrArg Except.ok hbest, hlabel.imp_right ?_⟩
        rintro ⟨entry, hentry, hown⟩
        refine ⟨.str entry.1, ⟨entry.1, rfl⟩, hlabels entry hentry, ?_⟩
        rw [ofCell_single hempty, hpoints.totalOf_eq]
        simp [Json.display, hown]
    | checkbox =>
        have htotal := Selection.map_pointsOf_worthwhile hnames
        refine ⟨_, hpoints.positiveTotal_eq, ?_⟩
        rw [← htotal]
        by_cases hnone : Selection.worthwhile points = []
        · rw [hnone]
          exact .inl rfl
        · refine .inr ⟨.arr ((Selection.worthwhile points).map .str),
            ⟨_, Selection.nodup_worthwhile hnames, rfl⟩, by simpa [isUnanswered] using hnone, ?_⟩
          rw [ofCell_eq_totalOf hempty, chosenOptions, hpoints.totalOf_eq, display_texts]

theorem mapM_ofCell_const {α : Type} {cell : Json} {most : Int}
    (hcell : ofCell question cell = .ok (.int most)) (rows : List α) :
    (rows.map fun _ => cell).mapM (ofCell question) = .ok ((rows.map fun _ => most).map .int) := by
  induction rows with
  | nil => rfl
  | cons row rest ih =>
      rw [List.map_cons, List.mapM_cons, hcell, ih]
      rfl

/-- The same cell in every row. -/
def everywhere (rows : List String) (cell : Json) : Answers :=
  rows.eraseDups.map fun row => (row, cell)

theorem nodup_everywhere (rows : List String) (cell : Json) :
    (everywhere rows cell).keys.Nodup := by
  have hkeys : (everywhere rows cell).keys = rows.eraseDups := by
    rw [everywhere, Entries.keys, List.map_map]
    exact List.map_id _
  rw [hkeys]
  exact nodup_eraseDups rows

theorem answeredCells_everywhere {cell : Json} (hanswered : isUnanswered cell = false) :
    answeredCells question (everywhere (question.rowLabels.getD []) cell)
      = (question.rowLabels.getD []).map fun _ => cell := by
  unfold answeredCells
  generalize question.rowLabels.getD [] = rows
  have hfound : ∀ row ∈ rows, (everywhere rows cell).answerTo row = cell := by
    intro row hrow
    have hentry : (row, cell) ∈ everywhere rows cell :=
      List.mem_map_of_mem (List.mem_eraseDups.mpr hrow)
    rw [Answers.answerTo, (Entries.get?_eq_some_iff (nodup_everywhere rows cell)).mpr hentry]
    rfl
  rw [List.map_congr_left hfound, List.filter_eq_self]
  intro other hother
  obtain ⟨_, -, rfl⟩ := List.mem_map.mp hother
  rw [hanswered]
  rfl

/-- A cell in every row has the points of all rows together. -/
theorem earnedByGrid_everywhere {cell : Json} {most : Int} (hanswered : isUnanswered cell = false)
    (hcell : ofCell question cell = .ok (.int most)) (hrows : question.rowLabels.getD [] ≠ []) :
    earnedByGrid question (.obj (everywhere (question.rowLabels.getD []) cell))
      = some (.ok (.int ((question.rowLabels.getD []).length * most))) := by
  have hfilled : isUnanswered (.obj (everywhere (question.rowLabels.getD []) cell)) = false := by
    obtain ⟨row, hrow⟩ := List.exists_mem_of_ne_nil _ hrows
    have hentry := List.mem_map_of_mem (f := fun row => (row, cell)) (List.mem_eraseDups.mpr hrow)
    simpa [isUnanswered, everywhere] using List.ne_nil_of_mem hentry
  have hsum : ((question.rowLabels.getD []).map fun _ => most).sum
      = (question.rowLabels.getD []).length * most := by
    rw [List.map_const', List.sum_replicate, nsmul_eq_mul]
  rw [earnedByGrid, unlessUnanswered, hfilled, answeredCells_everywhere hanswered,
    mapM_ofCell_const hcell, ← hsum, ← Number.sum_int]
  rfl

/-- Where no label is blank, some cells have the most points. -/
theorem exists_grid_eq (hwhole : question.HasWholeOptions)
    (hlabels : ∀ entry ∈ question.scores, Text.allBlank entry.1 = false) :
    ∃ cells : Answers, cells.keys.Nodup ∧ (∀ cell ∈ cells, IsCell question cell.2)
      ∧ ∃ most : Int, ofGrid question (.obj cells) = .ok ⟨.int most, .int most⟩ := by
  obtain ⟨weight, hweight⟩ := hwhole.weight
  obtain ⟨most, hmost, hbest⟩ := exists_bestCell hwhole hlabels
  simp only [ofGrid, bestOfGrid_int hmost, hweight]
  -- without rows or without positive points an empty answer has the most points
  have hempty (hnone : ((question.rowLabels.getD []).length * most : Int) = 0) :
      ∃ top : Int, weigh (.ok (.int ((question.rowLabels.getD []).length * most)))
        (earnedByGrid question (.obj [])) (.int weight) = .ok ⟨.int top, .int top⟩ :=
    exists_weigh_eq (.inr ⟨rfl, hnone⟩)
  by_cases hrows : question.rowLabels.getD [] = []
  · exact ⟨[], List.nodup_nil, List.forall_mem_nil _, hempty (by rw [hrows, List.length_nil]; simp)⟩
  · rcases hbest with rfl | ⟨cell, hkind, hanswered, hcell⟩
    · exact ⟨[], List.nodup_nil, List.forall_mem_nil _, hempty (Int.mul_zero _)⟩
    · refine ⟨everywhere (question.rowLabels.getD []) cell, nodup_everywhere _ _, ?_, ?_⟩
      · intro entry hentry
        obtain ⟨_, -, rfl⟩ := List.mem_map.mp hentry
        exact hkind
      · exact exists_weigh_eq (.inl (earnedByGrid_everywhere hanswered hcell hrows))

end Points

namespace Question

variable {question : Question}

/-- The most points of a question with whole points are the optimum over the answers that choose no
option twice.  Where several options may be chosen, no list of texts that differ has more, and the
labels with positive points together have as many.  Where a single one is asked for, no text and no
truth value has more.  In a grid, no cells of that kind have more, and some have as many, if no
label is blank. -/
theorem maxScore_optimal (hwhole : question.HasWholeOptions) :
    (question.kind = .checkbox ∨ question.kind = .imageChoice ∧ question.selection = .multiple →
      (∀ texts : List String, texts.Nodup → question.KeepsMost (.arr (texts.map .str)))
        ∧ question.ReachesMost (.arr (question.worthwhile.map .str)))
    ∧ (question.kind ∈ [.multipleChoice, .dropdown, .yesNo]
          ∨ question.kind = .imageChoice ∧ question.selection = .single →
      (∀ text, question.KeepsMost (.str text)) ∧ ∀ value, question.KeepsMost (.bool value))
    ∧ (question.kind = .matrix →
      (∀ cells : Answers, (∀ cell ∈ cells, Points.IsCell question cell.2) →
          question.KeepsMost (.obj cells))
        ∧ ((∀ entry ∈ question.scores, Text.allBlank entry.1 = false) →
          ∃ cells : Answers, cells.keys.Nodup ∧ (∀ cell ∈ cells, Points.IsCell question cell.2)
            ∧ question.ReachesMost (.obj cells))) := by
  refine ⟨fun hkind => ?_, fun hkind => ?_, fun hkind => ?_⟩
  · constructor
    · intro texts hdistinct
      apply keepsMost_of_inMode
      rw [Points.inMode_several hkind]
      exact Points.exists_weigh_texts_le hwhole hdistinct
    · apply reachesMost_of_inMode
      rw [Points.inMode_several hkind]
      exact Points.exists_weigh_worthwhile hwhole
  · constructor
    · exact fun text => keepsMost_of_inMode (Points.inMode_single_le hwhole hkind nofun)
    · exact fun value => keepsMost_of_inMode (Points.inMode_single_le hwhole hkind nofun)
  · constructor
    · intro cells hcells
      apply keepsMost_of_inMode
      rw [hkind]
      exact Points.exists_grid_le hwhole hkind hcells
    · intro hlabels
      obtain ⟨cells, hdistinct, hcells, hmost⟩ := Points.exists_grid_eq hwhole hlabels
      refine ⟨cells, hdistinct, hcells, ?_⟩
      apply reachesMost_of_inMode
      rw [hkind]
      exact hmost

/-- Two options with positive points and one that takes a point away, in two rows of a grid, too. -/
def distracting (kind : QuestionKind) : Question :=
  { Survey.Sample.plain "q1" [] with
    kind, rowLabels := some ["north", "south"], scoreWeight := some 3
    optionScores := some [("A", 1), ("B", 2), ("C", .int (-1))] }

theorem hasWholeOptions_distracting (kind : QuestionKind) : (distracting kind).HasWholeOptions where
  weight := ⟨3, rfl⟩
  points := by
    change ∀ entry ∈ [("A", Number.int 1), ("B", .int 2), ("C", .int (-1))], ∃ value,
      entry.2 = .int value
    simp
  labels := by
    change ["A", "B", "C"].Nodup
    decide

theorem maxScore_optimal_distracting :
    (distracting .checkbox).KeepsMost (.arr (["C", "B", "Z"].map .str))
      ∧ (distracting .checkbox).ReachesMost (.arr (["A", "B"].map .str))
      ∧ (distracting .yesNo).KeepsMost (.str "B") ∧ (distracting .yesNo).KeepsMost (.bool true)
      ∧ (distracting .matrix).KeepsMost (.obj [("south", .str "A"), ("east", .str "B")])
      ∧ ∃ cells : Answers, (distracting .matrix).ReachesMost (.obj cells) := by
  obtain ⟨hbelow, hreached⟩ :=
    (maxScore_optimal (hasWholeOptions_distracting .checkbox)).1 (.inl rfl)
  obtain ⟨htext, htruth⟩ :=
    (maxScore_optimal (hasWholeOptions_distracting .yesNo)).2.1 (.inl (by decide))
  obtain ⟨hcells, hbest⟩ :=
    (maxScore_optimal (hasWholeOptions_distracting .matrix)).2.2 rfl
  obtain ⟨cells, -, -, hmost⟩ := hbest (by decide)
  have hlabels : (distracting .checkbox).worthwhile = ["A", "B"] := by decide +kernel
  rw [hlabels] at hreached
  refine ⟨hbelow _ (by decide), hreached, htext "B", htruth true, hcells _ ?_, cells, hmost⟩
  simp only [List.forall_mem_cons]
  exact ⟨⟨"A", rfl⟩, ⟨"B", rfl⟩, List.forall_mem_nil _⟩

end Question

end Questionnaire
