import Mathlib.Algebra.Order.BigOperators.Group.List
import Mathlib.Algebra.Ring.Int.Defs
import Mathlib.Data.List.Nodup
import Questionnaire.Fault
import Questionnaire.Order

/-!
Lists: results of all members, keys that are kept once, sums by key, and sorts by key.
-/

namespace Questionnaire

theorem mapM_eq_filterMap {α β : Type} {f : α → Option β} {xs : List α}
    (h : ∀ x ∈ xs, (f x).isSome) : xs.mapM f = some (xs.filterMap f) := by
  induction xs with
  | nil => rfl
  | cons x rest ih =>
      obtain ⟨y, hy⟩ := Option.isSome_iff_exists.mp (h x List.mem_cons_self)
      rw [List.mapM_cons, hy, ih fun other hother => h other (List.mem_cons_of_mem x hother),
        List.filterMap_cons_some hy]
      rfl

/-- Where there are results of all members there is one of each. -/
theorem mapM_isSome_members {α β : Type} {f : α → Option β} {xs : List α} {ys : List β}
    (h : xs.mapM f = some ys) : ∀ x ∈ xs, (f x).isSome := by
  induction xs generalizing ys with
  | nil => nofun
  | cons x rest ih =>
      rw [List.mapM_cons] at h
      obtain ⟨y, hy, h⟩ := Option.bind_eq_some_iff.mp h
      obtain ⟨more, hmore, -⟩ := Option.bind_eq_some_iff.mp h
      exact List.forall_mem_cons.mpr ⟨Option.isSome_of_eq_some hy, ih hmore⟩

theorem mapM_congr_of_mem {α β ε : Type} {f g : α → Except ε β} {xs : List α}
    (h : ∀ x ∈ xs, f x = g x) : xs.mapM f = xs.mapM g := by
  induction xs with
  | nil => rfl
  | cons x rest ih =>
      rw [List.mapM_cons, List.mapM_cons, h x List.mem_cons_self,
        ih fun y hy => h y (List.mem_cons_of_mem x hy)]

theorem foldlM_congr_of_mem {α β ε : Type} {f g : β → α → Except ε β} {xs : List α}
    (h : ∀ x ∈ xs, ∀ state, f state x = g state x) (start : β) :
    xs.foldlM f start = xs.foldlM g start := by
  induction xs generalizing start with
  | nil => rfl
  | cons x rest ih =>
      have hrest : ∀ other ∈ rest, ∀ state, f state other = g state other :=
        fun other hother => h other (List.mem_cons_of_mem x hother)
      simp only [List.foldlM_cons, h x List.mem_cons_self, ih hrest]

/-- There are results of all members exactly if they are results of the members one by one. -/
theorem mapM_eq_ok_iff {α β ε : Type} {f : α → Except ε β} {xs : List α} {ys : List β} :
    xs.mapM f = .ok ys ↔ List.Forall₂ (fun x y => f x = .ok y) xs ys := by
  induction xs generalizing ys with
  | nil => cases ys <;> simp [pure, Except.pure]
  | cons x rest ih =>
      rw [List.mapM_cons]
      cases hx : f x with
      | error cause => cases ys <;> simp [bind, Except.bind, hx]
      | ok y =>
          cases hrest : rest.mapM f with
          | error cause => cases ys <;> simp [bind, Except.bind, ← ih, hrest, hx]
          | ok more => cases ys <;> simp [bind, Except.bind, pure, Except.pure, ← ih, hrest, hx]

/-- Results of all members that are what a function gives, under a condition on each of them. -/
theorem mapM_eq_ok_map_iff {α β ε : Type} {f : α → Except ε β} {g : α → β} {Holds : α → Prop}
    {xs : List α} (h : ∀ x ∈ xs, ∀ y, f x = .ok y ↔ Holds x ∧ y = g x) {ys : List β} :
    xs.mapM f = .ok ys ↔ (∀ x ∈ xs, Holds x) ∧ ys = xs.map g := by
  rw [mapM_eq_ok_iff]
  induction xs generalizing ys with
  | nil => cases ys <;> simp
  | cons x rest ih =>
      have hrest (more : List β) :=
        @ih (fun other hother => h other (List.mem_cons_of_mem x hother)) more
      cases ys with
      | nil => simp
      | cons y more =>
          rw [List.forall₂_cons, h x List.mem_cons_self, hrest, List.forall_mem_cons, List.map_cons,
            List.cons.injEq]
          tauto

/-- Results of all members are results of members and no others. -/
theorem mapM_ok_members {α β ε : Type} {f : α → Except ε β} {xs : List α} {ys : List β}
    (h : xs.mapM f = .ok ys) :
    (∀ x ∈ xs, ∃ y ∈ ys, f x = .ok y) ∧ ∀ y ∈ ys, ∃ x ∈ xs, f x = .ok y := by
  rw [mapM_eq_ok_iff] at h
  induction h with
  | nil => simp
  | @cons first result xs ys hfirst _ ih =>
      obtain ⟨hmembers, hresults⟩ := ih
      constructor
      · intro x hx
        rcases List.mem_cons.mp hx with rfl | hx
        · exact ⟨result, List.mem_cons_self, hfirst⟩
        · obtain ⟨y, hy, hok⟩ := hmembers x hx
          exact ⟨y, List.mem_cons_of_mem result hy, hok⟩
      · intro y hy
        rcases List.mem_cons.mp hy with rfl | hy
        · exact ⟨first, List.mem_cons_self, hfirst⟩
        · obtain ⟨x, hx, hok⟩ := hresults y hy
          exact ⟨x, List.mem_cons_of_mem first hx, hok⟩

/-- There are results of all members exactly if every member has one. -/
theorem exists_mapM_ok_iff {α β ε : Type} {f : α → Except ε β} {xs : List α} :
    (∃ ys, xs.mapM f = .ok ys) ↔ ∀ x ∈ xs, ∃ y, f x = .ok y := by
  constructor
  · rintro ⟨ys, hys⟩ x hx
    obtain ⟨y, _, hy⟩ := (mapM_ok_members hys).1 x hx
    exact ⟨y, hy⟩
  · intro h
    induction xs with
    | nil => exact ⟨[], rfl⟩
    | cons x rest ih =>
        obtain ⟨y, hy⟩ := h x List.mem_cons_self
        obtain ⟨ys, hys⟩ := ih fun other hother => h other (List.mem_cons_of_mem x hother)
        refine ⟨y :: ys, ?_⟩
        rw [List.mapM_cons, hy, hys]
        rfl

/-- If every member has a result of which something holds, it holds of all the results. -/
theorem exists_mapM_ok_of_forall {α β ε : Type} {f : α → Except ε β} {xs : List α}
    {Holds : β → Prop} (h : ∀ x ∈ xs, ∃ y, f x = .ok y ∧ Holds y) :
    ∃ ys, xs.mapM f = .ok ys ∧ ∀ y ∈ ys, Holds y := by
  obtain ⟨ys, hys⟩ := exists_mapM_ok_iff.mpr fun x hx => (h x hx).imp fun _ hown => hown.1
  refine ⟨ys, hys, fun y hy => ?_⟩
  obtain ⟨x, hx, hown⟩ := (mapM_ok_members hys).2 y hy
  obtain ⟨other, hother, hholds⟩ := h x hx
  exact Except.ok.inj (hother.symm.trans hown) ▸ hholds

/-- There are no results of all members exactly if the first of them that has none fails so. -/
theorem mapM_eq_error_iff {α β ε : Type} {f : α → Except ε β} {xs : List α} {e : ε} :
    xs.mapM f = .error e ↔ ∃ before x after, xs = before ++ x :: after
      ∧ (∀ other ∈ before, ∃ y, f other = .ok y) ∧ f x = .error e := by
  constructor
  · intro h
    induction xs with
    | nil => cases h
    | cons x rest ih =>
        rw [List.mapM_cons] at h
        cases hx : f x with
        | error own =>
            rw [hx] at h
            cases h
            exact ⟨[], x, rest, rfl, nofun, hx⟩
        | ok y =>
            cases hrest : rest.mapM f with
            | error own =>
                rw [hx, hrest] at h
                cases h
                obtain ⟨before, failed, after, rfl, hbefore, hfailed⟩ := ih hrest
                exact ⟨x :: before, failed, after, rfl,
                  List.forall_mem_cons.mpr ⟨⟨y, hx⟩, hbefore⟩, hfailed⟩
            | ok more =>
                rw [hx, hrest] at h
                cases h
  · rintro ⟨before, x, after, rfl, hbefore, hx⟩
    induction before with
    | nil =>
        rw [List.nil_append, List.mapM_cons, hx]
        rfl
    | cons other rest ih =>
        obtain ⟨⟨y, hy⟩, hrest⟩ := List.forall_mem_cons.mp hbefore
        rw [List.cons_append, List.mapM_cons, hy, ih hrest]
        rfl

theorem exists_error_of_mapM {α β : Type} {f : α → Except Fault β} {xs : List α} {cause : Fault}
    (h : xs.mapM f = .error cause) : ∃ x ∈ xs, f x = .error cause := by
  obtain ⟨before, x, after, rfl, -, hx⟩ := mapM_eq_error_iff.mp h
  exact ⟨x, List.mem_append_right before List.mem_cons_self, hx⟩

namespace FailsOnly

variable {α β : Type} {causes : List Fault} {xs : List α}

theorem mapM {f : α → Except Fault β} (hf : ∀ a ∈ xs, FailsOnly causes (f a)) :
    FailsOnly causes (xs.mapM f) := by
  intro cause hcause
  obtain ⟨a, ha, herror⟩ := exists_error_of_mapM hcause
  exact hf a ha cause herror

theorem foldlM {f : β → α → Except Fault β} (hf : ∀ state a, FailsOnly causes (f state a))
    (start : β) : FailsOnly causes (xs.foldlM f start) := by
  induction xs generalizing start with
  | nil => exact ok
  | cons a rest ih =>
      rw [List.foldlM_cons]
      exact bind (hf start a) fun next _ => ih next

end FailsOnly

/-- Members stay with their results in another order. -/
theorem zip_perm_of_perm {α β ε : Type} {f : α → Except ε β} {xs others : List α}
    {ys results : List β} (h : others.Perm xs)
    (hxs : List.Forall₂ (fun x y => f x = .ok y) xs ys)
    (hothers : List.Forall₂ (fun x y => f x = .ok y) others results) :
    (others.zip results).Perm (xs.zip ys) := by
  -- the pairs are told by the members alone
  have hzip {xs : List α} {ys : List β} (h : List.Forall₂ (fun x y => f x = .ok y) xs ys) :
      (xs.zip ys).map (fun pair => (pair.1, (.ok pair.2 : Except ε β)))
        = xs.map fun x => (x, f x) := by
    induction h with
    | nil => rfl
    | cons hxy _ ih => rw [List.zip_cons_cons, List.map_cons, List.map_cons, ih, hxy]
  have hinjective : Function.Injective
      fun pair : α × β => (pair.1, (.ok pair.2 : Except ε β)) := by
    rintro ⟨a, b⟩ ⟨c, d⟩ hpair
    simpa using hpair
  rw [← List.map_perm_map_iff hinjective, hzip hxs, hzip hothers]
  exact h.map _

/-- The pairs of elements, every element with each one behind it. -/
def pairsOf {α : Type} : List α → List (α × α)
  | [] => []
  | x :: rest => rest.map (x, ·) ++ pairsOf rest

theorem forall_mem_pairsOf_iff {α : Type} {R : α → α → Prop} {xs : List α} :
    (∀ pair ∈ pairsOf xs, R pair.1 pair.2) ↔ xs.Pairwise R := by
  induction xs with
  | nil => simp [pairsOf]
  | cons x rest ih =>
      rw [pairsOf, List.forall_mem_append, List.forall_mem_map, ih, List.pairwise_cons]

/-- Every key is kept once. -/
theorem nodup_eraseDups (keys : List String) : keys.eraseDups.Nodup := by
  match keys with
  | [] => simp
  | key :: rest =>
      rw [List.eraseDups_cons, List.nodup_cons]
      refine ⟨?_, nodup_eraseDups _⟩
      simp
termination_by keys.length
decreasing_by
  rw [List.length_cons]
  exact Nat.lt_succ_of_le (List.length_filter_le ..)

/-- Keys of which none is repeated are all kept. -/
theorem eraseDups_of_nodup {keys : List String} (h : keys.Nodup) : keys.eraseDups = keys := by
  induction keys with
  | nil => rfl
  | cons key rest ih =>
      obtain ⟨hkey, hrest⟩ := List.nodup_cons.mp h
      have hothers : (rest.filter fun other => !other == key) = rest := by
        rw [List.filter_eq_self]
        intro other hother
        have hne : other ≠ key := fun heq => hkey (heq ▸ hother)
        simpa using hne
      rw [List.eraseDups_cons, hothers, ih hrest]

/-- The members with one key each, put together key by key, are all members. -/
theorem perm_flatMap_fibers {α β : Type} [DecidableEq β] (key : α → β) {xs : List α}
    {keys : List β} (hkeys : keys.Nodup) (hcovers : ∀ x ∈ xs, key x ∈ keys) :
    (keys.flatMap fun k => xs.filter fun x => key x = k).Perm xs := by
  induction keys generalizing xs with
  | nil =>
      rw [List.eq_nil_iff_forall_not_mem.mpr fun x hx => List.not_mem_nil (hcovers x hx)]
      exact List.Perm.refl _
  | cons first rest ih =>
      obtain ⟨hfirst, hrest⟩ := List.nodup_cons.mp hkeys
      have hothers : ∀ x ∈ xs.filter fun x => key x ≠ first, key x ∈ rest := by
        intro x hx
        obtain ⟨hx, hne⟩ := List.mem_filter.mp hx
        exact (List.mem_cons.mp (hcovers x hx)).resolve_left (of_decide_eq_true hne)
      -- the members with a later key are found among those that do not have the first one
      have hlater : (rest.flatMap fun k => xs.filter fun x => key x = k)
          = rest.flatMap fun k => (xs.filter fun x => key x ≠ first).filter fun x => key x = k := by
        refine List.flatMap_congr fun k hk => ?_
        rw [List.filter_filter]
        refine List.filter_congr fun x _ => ?_
        by_cases hx : key x = k
        · have hne : k ≠ first := fun heq => hfirst (heq ▸ hk)
          simp [hx, hne]
        · simp [hx]
      rw [List.flatMap_cons, hlater]
      refine ((ih hrest hothers).append_left _).trans ?_
      have hsplit := List.filter_append_perm (fun x => decide (key x = first)) xs
      simpa using hsplit

/-- Sums over the members with one key each, together, are the sum over all members. -/
theorem sum_fibers {α β : Type} [DecidableEq β] (key : α → β) (weight : α → Int) {xs : List α}
    {keys : List β} (hkeys : keys.Nodup) (hcovers : ∀ x ∈ xs, key x ∈ keys) :
    (keys.map fun k => ((xs.filter fun x => key x = k).map weight).sum).sum
      = (xs.map weight).sum := by
  rw [← ((perm_flatMap_fibers key hkeys hcovers).map weight).sum_eq, List.map_flatMap,
    List.flatMap_def, List.sum_flatten, List.map_map]
  rfl

section Stable

variable {α : Type} {below : α → α → Bool}

/-- Breaking ties by position, as the standard library does, is standing as before. -/
theorem zipIdxLE_iff_standsBefore {a b : α × Nat} :
    List.zipIdxLE (fun x y => !below y x) a b = true
      ↔ StandsBefore (fun a b : α × Nat => below a.1 b.1) (fun a b => a.2 ≤ b.2) a b := by
  unfold List.zipIdxLE StandsBefore
  cases hba : below b.1 a.1 <;> cases hab : below a.1 b.1 <;> simp [hab, hba]

/-- Where being below is an order, sorting gives what the stable sort of the standard library
gives. -/
theorem sortBy_eq_mergeSort_of_order (hasymm : ∀ a b, below a b = true → below b a = false)
    (htrans : ∀ a b c, below b a = false → below c b = false → below c a = false) (xs : List α) :
    sortBy below xs = xs.mergeSort fun a b => !below b a := by
  have hpositions : xs.zipIdx.Pairwise fun a b => a.2 ≤ b.2 := by
    have hsorted : (xs.zipIdx.map Prod.snd).Pairwise (· ≤ ·) := by
      rw [List.zipIdx_map_snd]
      exact List.pairwise_le_range' ..
    exact List.pairwise_map.mp hsorted
  have hdistinct : (xs.zipIdx.map Prod.snd).Nodup := by
    rw [List.zipIdx_map_snd]
    exact List.nodup_range' ..
  have hsorted := sortBy_stable (fun a b => hasymm a.1 b.1) (fun a b c => htrans a.1 b.1 c.1)
    hpositions
  have hmerged : (xs.zipIdx.mergeSort (List.zipIdxLE fun a b => !below b a)).Pairwise
      (StandsBefore (fun a b : α × Nat => below a.1 b.1) fun a b => a.2 ≤ b.2) := by
    refine (List.pairwise_mergeSort (List.zipIdxLE_trans fun a b c hab hbc => ?_)
      (List.zipIdxLE_total fun a b => ?_) _).imp zipIdxLE_iff_standsBefore.mp
    · simpa using htrans a b c (by simpa using hab) (by simpa using hbc)
    · cases hab : below a b <;> simp [hasymm, hab]
  have heq := List.Perm.eq_of_pairwise (fun a b ha hb hab hba => ?_) hsorted hmerged
    ((sortBy_perm _ _).trans (List.mergeSort_perm _ _).symm)
  · rw [← List.mergeSort_zipIdx, ← heq, ← sortBy_map, List.zipIdx_map_fst]
  · -- elements at the same position are the same
    refine List.inj_on_of_nodup_map hdistinct ((sortBy_perm _ _).mem_iff.mp ha)
      (List.mem_mergeSort.mp hb) (le_antisymm (hab.2 hba.1) (hba.2 hab.1))

/-- A sort by a key is the stable sort of the standard library, where being below and being up to
an element are told by the keys. -/
theorem sortBy_eq_mergeSort {κ : Type} [LinearOrder κ] {upTo : α → α → Bool} {key : α → κ}
    {xs : List α} (hbelow : ∀ a ∈ xs, ∀ b ∈ xs, (below a b = true ↔ key a < key b))
    (hupTo : ∀ a ∈ xs, ∀ b ∈ xs, (upTo a b = true ↔ key a ≤ key b)) :
    sortBy below xs = xs.mergeSort upTo := by
  have hlt (a b : {x // x ∈ xs}) : below a b = true ↔ key a < key b := hbelow a a.2 b b.2
  have hle (a b : {x // x ∈ xs}) : below b a = false ↔ key a ≤ key b := by
    rw [← Bool.not_eq_true, hlt, not_lt]
  have hasymm (a b : {x // x ∈ xs}) (hab : below a b = true) : below b a = false :=
    (hle a b).mpr (le_of_lt ((hlt a b).mp hab))
  have htrans (a b c : {x // x ∈ xs}) (hab : below b a = false) (hbc : below c b = false) :
      below c a = false := (hle a c).mpr (le_trans ((hle a b).mp hab) ((hle b c).mp hbc))
  have hupTo' (a b : {x // x ∈ xs}) : (!below b a) = upTo a b := by
    rw [Bool.eq_iff_iff, Bool.not_eq_true', hle a b, hupTo a a.2 b b.2]
  calc sortBy below xs
      = (sortBy (fun a b : {x // x ∈ xs} => below a b) xs.attach).map Subtype.val := by
        rw [← sortBy_map, List.attach_map_subtype_val]
    _ = (xs.attach.mergeSort fun a b => !below b a).map Subtype.val := by
        rw [sortBy_eq_mergeSort_of_order hasymm htrans]
    _ = xs.mergeSort upTo := by
        rw [List.map_mergeSort fun a _ b _ => hupTo' a b, List.attach_map_subtype_val]

section Key

variable {κ : Type} [LinearOrder κ] {key : α → κ} {xs : List α}
  (hbelow : ∀ a ∈ xs, ∀ b ∈ xs, (below a b = true ↔ key a < key b))

include hbelow

/-- The keys ascend once the elements are sorted. -/
theorem pairwise_sortBy : (sortBy below xs).Pairwise fun a b => key a ≤ key b := by
  have hupTo (a b : α) : decide (key a ≤ key b) = true ↔ key a ≤ key b := decide_eq_true_iff
  rw [sortBy_eq_mergeSort hbelow fun a _ b _ => hupTo a b]
  refine (List.pairwise_mergeSort (fun a b c hab hbc => ?_) (fun a b => ?_) xs).imp (hupTo _ _).mp
  · exact (hupTo a c).mpr (le_trans ((hupTo a b).mp hab) ((hupTo b c).mp hbc))
  · simpa using le_total (key a) (key b)

/-- Elements whose keys ascend are sorted already. -/
theorem sortBy_of_pairwise (h : xs.Pairwise fun a b => key a ≤ key b) : sortBy below xs = xs := by
  have hupTo (a b : α) : decide (key a ≤ key b) = true ↔ key a ≤ key b := decide_eq_true_iff
  rw [sortBy_eq_mergeSort hbelow fun a _ b _ => hupTo a b]
  exact List.mergeSort_of_pairwise (h.imp (hupTo _ _).mpr)

end Key

/-- A sort by a key does not tell in which order the elements were, if the key tells them apart. -/
theorem sortBy_eq_of_perm {κ : Type} [LinearOrder κ] {key : α → κ}
    (hbelow : ∀ a b, below a b = true ↔ key a < key b) {xs ys : List α}
    (hkey : ∀ a ∈ xs, ∀ b ∈ xs, key a = key b → a = b) (h : xs.Perm ys) :
    sortBy below xs = sortBy below ys := by
  have hsorted (zs : List α) : (sortBy below zs).Pairwise fun a b => key a ≤ key b :=
    pairwise_sortBy fun a _ b _ => hbelow a b
  have hperm := (sortBy_perm below xs).trans (h.trans (sortBy_perm below ys).symm)
  refine List.Perm.eq_of_pairwise (fun a b ha hb hab hba => ?_) (hsorted xs) (hsorted ys) hperm
  exact hkey a ((sortBy_perm below xs).mem_iff.mp ha) b
    (h.mem_iff.mpr ((sortBy_perm below ys).mem_iff.mp hb)) (le_antisymm hab hba)

end Stable

end Questionnaire
