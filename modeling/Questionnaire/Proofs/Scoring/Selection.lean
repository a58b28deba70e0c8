import Mathlib.Algebra.Order.BigOperators.Group.Finset
import Mathlib.Algebra.Order.BigOperators.Group.List
import Mathlib.Algebra.Ring.Int.Defs
import Mathlib.Data.List.Perm.Subperm
import Questionnaire.Scoring.Points

/-!
Sums of whole points.  Whoever chooses no option twice gets at most the sum of all positive points,
with a few options at most the sum of as many of the best, and with options placed in an order at
most what the best order yields.
-/

namespace Questionnaire

namespace Selection

/-- The whole points of an option, zero unless configured. -/
def pointsOf (points : Entries Int) (option : String) : Int := (points.get? option).getD 0

/-- The positive points. -/
def positive (values : List Int) : List Int := values.filter (0 < ·)

theorem sum_le_sum_positive (values : List Int) : values.sum ≤ (positive values).sum := by
  induction values with
  | nil => exact Int.le_refl 0
  | cons value rest ih =>
    rw [positive, List.filter_cons, List.sum_cons]
    split
    · rw [List.sum_cons]
      exact Int.add_le_add_left ih value
    · rename_i hvalue
      have : ¬ 0 < value := by simpa using hvalue
      change value + rest.sum ≤ (positive rest).sum
      omega

theorem positive_nonneg {values : List Int} : ∀ value ∈ positive values, 0 ≤ value := by
  intro value hvalue
  have := List.of_mem_filter hvalue
  have : 0 < value := by simpa using this
  omega

theorem subperm_positive_cons {chosen values : List Int} (value : Int)
    (h : (positive chosen).Subperm (positive values)) :
    (positive (value :: chosen)).Subperm (positive (value :: values)) := by
  by_cases hvalue : 0 < value
  · have hcons (rest : List Int) : positive (value :: rest) = value :: positive rest := by
      simp [positive, hvalue]
    rw [hcons, hcons]
    exact (List.subperm_cons value).mpr h
  · have hcons (rest : List Int) : positive (value :: rest) = positive rest := by
      simp [positive, hvalue]
    rw [hcons, hcons]
    exact h

/-- The positive points of different options are among the configured ones. -/
theorem subperm_positive (points : Entries Int) {options : List String} (h : options.Nodup) :
    (positive (options.map (pointsOf points))).Subperm (positive (points.map (·.2))) := by
  induction points generalizing options with
  | nil =>
    have hzero : positive (options.map (pointsOf [])) = [] := by
      rw [positive, List.filter_eq_nil_iff]
      simp [pointsOf, Entries.get?]
    rw [hzero]
    exact List.nil_subperm
  | cons entry rest ih =>
    obtain ⟨name, value⟩ := entry
    have hothers {others : List String} (hname : name ∉ others) :
        others.map (pointsOf ((name, value) :: rest)) = others.map (pointsOf rest) := by
      apply List.map_congr_left
      intro option hoption
      have hne : option ≠ name := fun heq => hname (heq ▸ hoption)
      simp [pointsOf, Entries.get?, List.lookup_cons, beq_false_of_ne hne]
    by_cases hname : name ∈ options
    · have hsplit : options.Perm (name :: options.erase name) := List.perm_cons_erase hname
      have hown : pointsOf ((name, value) :: rest) name = value := by
        simp [pointsOf, Entries.get?]
      have hchosen := (hsplit.map (pointsOf ((name, value) :: rest))).filter (0 < ·)
      rw [List.map_cons, hown, hothers h.not_mem_erase] at hchosen
      exact hchosen.subperm.trans (subperm_positive_cons value (ih (h.erase name)))
    · rw [hothers hname]
      exact (ih h).trans ((List.sublist_cons_self value _).filter _).subperm

/-- No option being chosen twice, all chosen ones together have at most the positive points. -/
theorem sum_pointsOf_le (points : Entries Int) {options : List String} (h : options.Nodup) :
    (options.map (pointsOf points)).sum ≤ (positive (points.map (·.2))).sum := by
  obtain ⟨kept, hperm, hsublist⟩ := subperm_positive points h
  calc (options.map (pointsOf points)).sum
      ≤ (positive (options.map (pointsOf points))).sum := sum_le_sum_positive _
    _ = kept.sum := hperm.sum_eq.symm
    _ ≤ (positive (points.map (·.2))).sum := hsublist.sum_le_sum positive_nonneg

/-- Of a descending list, the first ones have the greatest sum. -/
theorem sum_le_sum_take {sorted : List Int} (hsorted : sorted.Pairwise fun a b => b ≤ a)
    (hnonneg : ∀ value ∈ sorted, 0 ≤ value) {chosen : List Int} (hsub : chosen.Subperm sorted)
    {count : Nat} (hcount : chosen.length ≤ count) : chosen.sum ≤ (sorted.take count).sum := by
  induction sorted generalizing chosen count with
  | nil => simp [List.subperm_nil.mp hsub]
  | cons best rest ih =>
    obtain ⟨hbest, hrest⟩ := List.pairwise_cons.mp hsorted
    have hnonneg' : ∀ value ∈ rest, 0 ≤ value :=
      fun value hvalue => hnonneg value (List.mem_cons_of_mem best hvalue)
    have herase := hsub.erase best
    rw [List.erase_cons_head] at herase
    cases count with
    | zero => simp [List.length_eq_zero_iff.mp (Nat.le_zero.mp hcount)]
    | succ count =>
      rw [List.take_succ_cons, List.sum_cons]
      -- the best is taken away from both sides, or takes the place of whatever was chosen first
      by_cases hmem : best ∈ chosen
      · have hlength := List.length_erase_of_mem hmem
        have hless := ih hrest hnonneg' herase (show (chosen.erase best).length ≤ count by omega)
        rw [(List.perm_cons_erase hmem).sum_eq, List.sum_cons]
        omega
      · rw [List.erase_of_not_mem hmem] at herase
        cases chosen with
        | nil =>
          have hless := ih hrest hnonneg' List.nil_subperm (Nat.zero_le count)
          have := hnonneg best (List.mem_cons_self ..)
          rw [List.sum_nil] at hless ⊢
          omega
        | cons value more =>
          have hvalue := hbest value (herase.subset (List.mem_cons_self ..))
          have hmore := (List.sublist_cons_self value more).subperm.trans herase
          rw [List.length_cons] at hcount
          have hless := ih hrest hnonneg' hmore (show more.length ≤ count by omega)
          rw [List.sum_cons]
          omega

/-- The sum of the products of places and whole points. -/
def placed (places : List Nat) (values : List Int) : Int :=
  (List.zipWith (fun (place : Nat) value => (place : Int) * value) places values).sum

/-- Points at places that are counted down to one, as sums of the first so many points. -/
theorem placed_places (n : Nat) (values : List Int) :
    placed (Points.places n) values = ∑ count ∈ Finset.range n, (values.take (count + 1)).sum := by
  induction n generalizing values with
  | zero => rfl
  | succ n ih =>
    cases values with
    | nil => simp [placed]
    | cons value rest =>
      have hplaced : placed (Points.places (n + 1)) (value :: rest)
          = (n + 1 : Nat) * value + placed (Points.places n) rest := rfl
      rw [hplaced, ih]
      simp only [List.take_succ_cons, List.sum_cons]
      rw [Finset.sum_add_distrib, Finset.sum_range_succ' (fun count => (rest.take count).sum)]
      simp

theorem placed_le (n : Nat) {values others : List Int}
    (h : ∀ count ≤ n, (values.take count).sum ≤ (others.take count).sum) :
    placed (Points.places n) values ≤ placed (Points.places n) others := by
  rw [placed_places, placed_places]
  exact Finset.sum_le_sum fun count hcount => h (count + 1) (Finset.mem_range.mp hcount)

theorem placed_nonneg (n : Nat) {values : List Int} (h : ∀ value ∈ values, 0 ≤ value) :
    0 ≤ placed (Points.places n) values := by
  have hnone : placed (Points.places n) [] = 0 := by simp [placed]
  rw [← hnone]
  apply placed_le
  intro count _
  rw [List.take_nil, List.sum_nil]
  exact List.sum_nonneg fun value hvalue => h value (List.mem_of_mem_take hvalue)

/-- Where every place counts the same, no more items count than there are places. -/
theorem placed_ones_le {α β : Type} (items : List α) (places : List β) :
    placed (Points.places places.length) (items.map fun _ => 1)
      ≤ placed (Points.places places.length) (places.map fun _ => 1) := by
  have hsum {γ : Type} (values : List γ) : (values.map fun _ => (1 : Int)).sum = values.length := by
    induction values with
    | nil => rfl
    | cons value rest ih =>
      rw [List.map_cons, List.sum_cons, ih, List.length_cons]
      omega
  apply placed_le
  intro count hcount
  rw [← List.map_take, ← List.map_take, hsum, hsum, List.length_take, List.length_take]
  omega

/-- No option being placed twice, the best order is to place the positive points in descending
order. -/
theorem placed_pointsOf_le (n : Nat) (points : Entries Int) {options : List String}
    (h : options.Nodup) {sorted : List Int} (hperm : sorted.Perm (positive (points.map (·.2))))
    (hsorted : sorted.Pairwise fun a b => b ≤ a) :
    placed (Points.places n) (options.map (pointsOf points)) ≤ placed (Points.places n) sorted := by
  apply placed_le
  intro count _
  have hnonneg : ∀ value ∈ sorted, 0 ≤ value :=
    fun value hvalue => positive_nonneg value (hperm.mem_iff.mp hvalue)
  have hsub := (subperm_positive points (h.sublist (List.take_sublist count options))).trans
    hperm.symm.subperm
  have hlength : (positive ((options.take count).map (pointsOf points))).length ≤ count := by
    calc (positive ((options.take count).map (pointsOf points))).length
        ≤ ((options.take count).map (pointsOf points)).length := List.length_filter_le _ _
      _ ≤ count := by
        rw [List.length_map, List.length_take]
        omega
  rw [← List.map_take]
  exact (sum_le_sum_positive _).trans (sum_le_sum_take hsorted hnonneg hsub hlength)

end Selection

end Questionnaire
