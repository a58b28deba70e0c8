import Questionnaire.Proofs.Scoring.Band
import Questionnaire.Scoring.Repair

/-!
Bands put in order.  Each id is kept once, and of bands that overlap the first in order keeps the
values that they share; no integer changes its band.
-/

namespace Questionnaire

attribute [local irreducible] Binary64.one Binary64.limit

section Distinct

variable {α : Type} {id : α → String} {seen : List String} {xs : List α}

/-- Of the elements with an id the first of each id is kept. -/
theorem distinctBy_eq_eraseDupsBy : distinctBy id seen xs
    = (xs.filter fun x => id x ≠ "" ∧ id x ∉ seen).eraseDupsBy fun a b => id a == id b := by
  induction xs generalizing seen with
  | nil => rfl
  | cons x rest ih =>
      by_cases hskip : id x = "" ∨ id x ∈ seen
      · have hout : ¬ decide (id x ≠ "" ∧ id x ∉ seen) = true := by
          simpa [or_iff_not_imp_left] using hskip
        rw [distinctBy, if_pos hskip, ih, List.filter_cons, if_neg hout]
      · have hnew : decide (id x ≠ "" ∧ id x ∉ seen) = true := by simpa using hskip
        rw [distinctBy, if_neg hskip, ih, List.filter_cons, if_pos hnew, List.eraseDupsBy_cons,
          List.filter_filter]
        congr 2
        refine List.filter_congr fun y _ => ?_
        simp [Bool.and_left_comm]

theorem distinctBy_nil_eq_eraseDupsBy : distinctBy id [] xs
    = (xs.filter fun x => id x ≠ "").eraseDupsBy fun a b => id a == id b := by
  rw [distinctBy_eq_eraseDupsBy]
  simp

theorem mem_distinctBy {x : α} (h : x ∈ distinctBy id seen xs) :
    x ∈ xs ∧ id x ≠ "" ∧ id x ∉ seen := by
  induction xs generalizing seen with
  | nil => cases h
  | cons y rest ih =>
      rw [distinctBy] at h
      split at h
      · exact (ih h).imp_left (List.mem_cons_of_mem y)
      · rename_i hkept
        rw [not_or] at hkept
        rcases List.mem_cons.mp h with rfl | h
        · exact ⟨List.mem_cons_self, hkept⟩
        · obtain ⟨hmem, hid, hseen⟩ := ih h
          exact ⟨List.mem_cons_of_mem y hmem, hid, fun hx => hseen (List.mem_cons_of_mem _ hx)⟩

theorem nodup_distinctBy : ((distinctBy id seen xs).map id).Nodup := by
  induction xs generalizing seen with
  | nil => exact List.nodup_nil
  | cons y rest ih =>
      rw [distinctBy]
      split
      · exact ih
      · rw [List.map_cons, List.nodup_cons]
        refine ⟨fun hy => ?_, ih⟩
        obtain ⟨x, hx, heq⟩ := List.mem_map.mp hy
        exact (mem_distinctBy hx).2.2 (heq ▸ List.mem_cons_self)

/-- Elements that differ in their ids are all kept. -/
theorem distinctBy_of_nodup (hnodup : (xs.map id).Nodup)
    (hnew : ∀ x ∈ xs, id x ≠ "" ∧ id x ∉ seen) : distinctBy id seen xs = xs := by
  induction xs generalizing seen with
  | nil => rfl
  | cons x rest ih =>
      obtain ⟨hx, hrest⟩ := List.forall_mem_cons.mp hnew
      rw [List.map_cons, List.nodup_cons] at hnodup
      rw [distinctBy, if_neg (not_or.mpr hx), ih hnodup.2]
      intro y hy
      refine ⟨(hrest y hy).1, fun hseen => ?_⟩
      rcases List.mem_cons.mp hseen with heq | hseen
      · exact hnodup.1 (heq ▸ List.mem_map_of_mem hy)
      · exact (hrest y hy).2 hseen

end Distinct

namespace ScoreBand

section Upright

variable {band : ScoreBand}

theorem upright_of_le (h : band.min.le band.max = true) : band.upright = band := by
  obtain ⟨hmin, hmax⟩ := Number.place?_ne_none_of_le h
  refine if_neg fun hlt => ?_
  exact (Number.lt_iff_not_le hmax hmin).mp hlt h

@[simp] theorem id_upright : band.upright.id = band.id := by
  unfold upright
  split <;> rfl

theorem IsFinite.upright (h : band.IsFinite) :
    band.upright.IsFinite ∧ band.upright.min.le band.upright.max = true := by
  unfold ScoreBand.upright
  split
  · rename_i hlt
    exact ⟨⟨h.max_isCounted, h.min_isCounted⟩, Number.le_of_lt hlt⟩
  · rename_i hle
    exact ⟨h, Number.le_of_not_lt h.max_isCounted.place?_ne_none h.min_isCounted.place?_ne_none hle⟩

end Upright

/-- Values behind the last band. -/
def Behind (last : Option ScoreBand) (value : Number) : Prop :=
  ∀ previous ∈ last, previous.max.lt value = true

@[simp] theorem behind_none {value : Number} : Behind none value := by simp [Behind]

@[simp] theorem behind_some {previous : ScoreBand} {value : Number} :
    Behind (some previous) value ↔ previous.max.lt value = true := by simp [Behind]

/-- A band without the values up to the end of the last one. -/
structure IsCut (last : Option ScoreBand) (band kept : ScoreBand) : Prop where
  eq : kept = { band with min := kept.min }
  min_isCounted : kept.min.IsCounted
  ordered : kept.min.le kept.max = true
  behind : Behind last kept.min
  holds_iff : ∀ v : Int, Behind last (.int v) →
    (kept.holds (.int v) = true ↔ band.holds (.int v) = true)

theorem IsCut.max_eq {last : Option ScoreBand} {band kept : ScoreBand}
    (h : IsCut last band kept) : kept.max = band.max := by
  rw [h.eq]

/-- Bands, and the bands that are left when each is cut where the last one that is left ends. -/
inductive Separates : Option ScoreBand → List ScoreBand → List ScoreBand → Prop
  | nil {last : Option ScoreBand} : Separates last [] []
  | keep {last : Option ScoreBand} {band kept : ScoreBand} {rest more : List ScoreBand}
    (cut : IsCut last band kept) (next : Separates (some kept) rest more) :
    Separates last (band :: rest) (kept :: more)
  | drop {last : Option ScoreBand} {band : ScoreBand} {rest more : List ScoreBand}
    (covered : ∀ v : Int, Behind last (.int v) → ¬ band.holds (.int v) = true)
    (next : Separates last rest more) : Separates last (band :: rest) more

section Separate

variable {last : Option ScoreBand} {band : ScoreBand} {bands kept : List ScoreBand}

theorem separate_some_cons {previous : ScoreBand} {whole : Int}
    (hfloor : previous.max.floor = .ok whole) (rest : List ScoreBand) :
    separate (some previous) (band :: rest)
      = if previous.max.lt band.min then (separate (some band) rest).map (band :: ·)
        else if (Number.int (whole + 1)).le band.max then
          (separate (some { band with min := .int (whole + 1) }) rest).map
            ({ band with min := .int (whole + 1) } :: ·)
        else separate (some previous) rest := by
  rw [separate, hfloor]
  rfl

/-- A band is cut behind the last one and kept, or it holds no integer there and is dropped. -/
theorem separate_cons (hlast : ∀ previous ∈ last, previous.max.IsCounted) (hband : band.IsFinite)
    (hordered : band.min.le band.max = true) (rest : List ScoreBand) :
    (∃ kept, IsCut last band kept
      ∧ separate last (band :: rest) = (separate (some kept) rest).map (kept :: ·))
    ∨ (∀ v : Int, Behind last (.int v) → ¬ band.holds (.int v) = true)
      ∧ separate last (band :: rest) = separate last rest := by
  have huncut (hbehind : Behind last band.min) : IsCut last band band :=
    ⟨rfl, hband.min_isCounted, hordered, hbehind, fun _ _ => .rfl⟩
  cases last with
  | none => exact .inl ⟨band, huncut behind_none, rfl⟩
  | some previous =>
      have hprevious := hlast previous rfl
      obtain ⟨whole, hfloor, hupTo⟩ := hprevious.exists_floor
      rw [separate_some_cons hfloor]
      by_cases hapart : previous.max.lt band.min = true
      · rw [if_pos hapart]
        exact .inl ⟨band, huncut (behind_some.mpr hapart), rfl⟩
      · rw [if_neg hapart]
        have hbegun := Number.le_of_not_lt hprevious.place?_ne_none
          hband.min_isCounted.place?_ne_none hapart
        have hbehind (v : Int) : Behind (some previous) (.int v) ↔ whole + 1 ≤ v := by
          rw [behind_some, Number.lt_iff_not_le hprevious.place?_ne_none
            (Number.isCounted_int v).place?_ne_none, hupTo, not_le, Int.add_one_le_iff]
        by_cases hleft : (Number.int (whole + 1)).le band.max = true
        · rw [if_pos hleft]
          refine .inl ⟨_, ⟨rfl, Number.isCounted_int _, hleft, (hbehind _).mpr le_rfl, ?_⟩, rfl⟩
          intro v hv
          -- behind the last band both begin at or before the integer
          have hbegins : band.min.le (.int v) = true :=
            Number.le_trans hbegun (Number.le_of_lt (hv previous rfl))
          rw [holds_iff, holds_iff, Number.int_le_int]
          simp [hbegins, (hbehind v).mp hv]
        · rw [if_neg hleft]
          refine .inr ⟨fun v hv hheld => hleft ?_, rfl⟩
          exact Number.le_trans (Number.int_le_int.mpr ((hbehind v).mp hv)) (holds_iff.mp hheld).2

/-- Finite bands with ordered bounds can always be separated. -/
theorem exists_separates (hlast : ∀ previous ∈ last, previous.max.IsCounted)
    (hbands : ∀ band ∈ bands, band.IsFinite ∧ band.min.le band.max = true) :
    ∃ kept, separate last bands = .ok kept ∧ Separates last bands kept := by
  induction bands generalizing last with
  | nil => exact ⟨[], rfl, .nil⟩
  | cons band rest ih =>
      obtain ⟨⟨hband, hordered⟩, hrest⟩ := List.forall_mem_cons.mp hbands
      rcases separate_cons hlast hband hordered rest with ⟨kept, hcut, heq⟩ | ⟨hcovered, heq⟩
      · have hkept : ∀ previous ∈ some kept, previous.max.IsCounted := by
          simpa [hcut.max_eq] using hband.max_isCounted
        obtain ⟨more, hmore, hseparates⟩ := ih hkept hrest
        exact ⟨kept :: more, by rw [heq, hmore]; rfl, .keep hcut hseparates⟩
      · obtain ⟨more, hmore, hseparates⟩ := ih hlast hrest
        exact ⟨more, heq.trans hmore, .drop hcovered hseparates⟩

namespace Separates

theorem ids_sublist (h : Separates last bands kept) :
    (kept.map (·.id)).Sublist (bands.map (·.id)) := by
  induction h with
  | nil => exact List.Sublist.refl _
  | keep cut _ ih =>
      rw [List.map_cons, List.map_cons, cut.eq]
      exact ih.cons_cons _
  | drop _ _ ih => exact ih.cons _

theorem ordered (h : Separates last bands kept) (hbands : ∀ band ∈ bands, band.IsFinite) :
    ∀ band ∈ kept, band.IsFinite ∧ band.min.le band.max = true := by
  induction h with
  | nil => exact List.forall_mem_nil _
  | keep cut _ ih =>
      obtain ⟨hband, hrest⟩ := List.forall_mem_cons.mp hbands
      have hmax := cut.max_eq ▸ hband.max_isCounted
      exact List.forall_mem_cons.mpr ⟨⟨⟨cut.min_isCounted, hmax⟩, cut.ordered⟩, ih hrest⟩
  | drop _ _ ih => exact ih (List.forall_mem_of_forall_mem_cons hbands)

/-- The bands that are left begin one behind the end of the other. -/
theorem apart (h : Separates last bands kept) :
    (∀ band ∈ kept, Behind last band.min)
      ∧ kept.Pairwise fun a b => a.max.lt b.min = true := by
  induction h with
  | nil => exact ⟨List.forall_mem_nil _, List.Pairwise.nil⟩
  | @keep last band kept rest more cut _ ih =>
      have hmore : ∀ other ∈ more, kept.max.lt other.min = true :=
        fun other hother => ih.1 other hother kept rfl
      refine ⟨List.forall_mem_cons.mpr ⟨cut.behind, ?_⟩, List.pairwise_cons.mpr ⟨hmore, ih.2⟩⟩
      intro other hother previous hprevious
      have hkept := Number.lt_of_lt_of_le (cut.behind previous hprevious) cut.ordered
      exact Number.lt_of_lt_of_le hkept (Number.le_of_lt (hmore other hother))
  | drop _ _ ih => exact ih

/-- Of sorted bands, an integer behind the last band has the same band before and after. -/
theorem resolve?_rel (h : Separates last bands kept) (hbands : ∀ band ∈ bands, band.IsFinite)
    (hsorted : bands.Pairwise fun a b => a.min.le b.min = true) {v : Int}
    (hv : Behind last (.int v)) :
    Option.Rel (fun band kept => kept = { band with min := kept.min })
      (resolve? bands (.int v)) (resolve? kept (.int v)) := by
  induction h with
  | nil => exact .none
  | @keep last band kept rest more cut next ih =>
      obtain ⟨hband, hrest⟩ := List.forall_mem_cons.mp hbands
      obtain ⟨hfirst, hsorted⟩ := List.pairwise_cons.mp hsorted
      by_cases hheld : band.holds (.int v) = true
      · have hkept := (cut.holds_iff v hv).mpr hheld
        rw [resolve?_cons_of_holds hheld, resolve?_cons_of_holds hkept]
        exact .some cut.eq
      · have hkept : ¬ kept.holds (.int v) = true :=
          fun hkept => hheld ((cut.holds_iff v hv).mp hkept)
        rw [resolve?_cons_of_not_holds hheld, resolve?_cons_of_not_holds hkept]
        by_cases hended : band.max.lt (.int v) = true
        · exact ih hrest hsorted (behind_some.mpr (cut.max_eq ▸ hended))
        · -- the integer is before the band, and so before all that follow
          have hwithin : (Number.int v).le band.max = true :=
            Number.le_of_not_lt hband.max_isCounted.place?_ne_none
              (Number.isCounted_int v).place?_ne_none hended
          have hout : resolve? rest (.int v) = none := by
            refine resolve?_eq_none_iff.mpr fun other hother hholds => hheld ?_
            have hbegun := Number.le_trans (hfirst other hother) (holds_iff.mp hholds).1
            exact holds_iff.mpr ⟨hbegun, hwithin⟩
          have hout' : resolve? more (.int v) = none := by
            refine resolve?_eq_none_iff.mpr fun other hother hholds => hended ?_
            have hafter := next.apart.1 other hother kept rfl
            exact cut.max_eq ▸ Number.lt_of_lt_of_le hafter (holds_iff.mp hholds).1
          rw [hout, hout']
          exact .none
  | drop covered _ ih =>
      obtain ⟨-, hrest⟩ := List.forall_mem_cons.mp hbands
      rw [resolve?_cons_of_not_holds (covered v hv)]
      exact ih hrest (List.pairwise_cons.mp hsorted).2 hv

end Separates

end Separate

/-- The first band of each id, its bounds in order, by the lower bounds. -/
def inOrder (bands : List ScoreBand) : List ScoreBand :=
  (((bands.filter (·.id ≠ "")).eraseDupsBy fun a b => a.id == b.id).map upright).mergeSort
    fun a b => a.min.le b.min

section Repaired

variable {bands : List ScoreBand} (hbands : ∀ band ∈ bands, band.IsFinite)

include hbands

theorem mem_map_upright : ∀ band ∈ (distinctBy (·.id) [] bands).map upright,
    band.IsFinite ∧ band.min.le band.max = true :=
  List.forall_mem_map.mpr fun band hband => (hbands band (mem_distinctBy hband).1).upright

theorem inOrder_eq_sortBy : inOrder bands
    = sortBy (fun a b => a.min.lt b.min) ((distinctBy (·.id) [] bands).map upright) := by
  have hcounted : ∀ band ∈ (distinctBy (·.id) [] bands).map upright, band.min.IsCounted :=
    fun band hband => (mem_map_upright hbands band hband).1.min_isCounted
  have hsort : sortBy (fun a b => a.min.lt b.min) ((distinctBy (·.id) [] bands).map upright)
      = ((distinctBy (·.id) [] bands).map upright).mergeSort fun a b => a.min.le b.min :=
    sortBy_eq_mergeSort (fun a ha b hb => (hcounted a ha).lt_iff (hcounted b hb))
      fun a ha b hb => (hcounted a ha).le_iff (hcounted b hb)
  rw [hsort, distinctBy_nil_eq_eraseDupsBy, inOrder]

theorem inOrder_perm : (inOrder bands).Perm ((distinctBy (·.id) [] bands).map upright) := by
  rw [inOrder_eq_sortBy hbands]
  exact sortBy_perm ..

theorem mem_inOrder : ∀ band ∈ inOrder bands, band.IsFinite ∧ band.min.le band.max = true :=
  fun band hband => mem_map_upright hbands band ((inOrder_perm hbands).mem_iff.mp hband)

theorem pairwise_inOrder : (inOrder bands).Pairwise fun a b => a.min.le b.min = true := by
  rw [inOrder_eq_sortBy hbands]
  exact pairwise_sortBy_min fun band hband => (mem_map_upright hbands band hband).1

/-- Finite bands can always be put in order, and what comes out are the bands of `inOrder`, each cut
where the last one ends. -/
theorem exists_repaired :
    ∃ fixed, repaired bands = .ok fixed ∧ Separates none (inOrder bands) fixed := by
  have hnone : ∀ previous ∈ (none : Option ScoreBand), previous.max.IsCounted := by simp
  obtain ⟨fixed, hfixed, hseparates⟩ := exists_separates hnone (mem_inOrder hbands)
  rw [inOrder_eq_sortBy hbands] at hfixed
  exact ⟨fixed, hfixed, hseparates⟩

/-- Putting bands in order changes no integer's band: the first of the ordered bands that holds it
still does, with a later lower bound at most. -/
theorem resolve?_repaired : ∃ fixed, repaired bands = .ok fixed ∧ ∀ v : Int,
    (resolve? fixed (.int v) = none ↔ resolve? (inOrder bands) (.int v) = none)
      ∧ ∀ band kept, resolve? (inOrder bands) (.int v) = some band →
        resolve? fixed (.int v) = some kept → kept = { band with min := kept.min } := by
  obtain ⟨fixed, hfixed, hseparates⟩ := exists_repaired hbands
  refine ⟨fixed, hfixed, fun v => ?_⟩
  have hrel := hseparates.resolve?_rel (fun band hband => (mem_inOrder hbands band hband).1)
    (pairwise_inOrder hbands) (v := v) behind_none
  generalize resolve? (inOrder bands) (.int v) = before at hrel ⊢
  generalize resolve? fixed (.int v) = after at hrel ⊢
  cases hrel with
  | none => simp
  | some heq =>
      refine ⟨by simp, fun band kept hband hkept => ?_⟩
      cases hband
      cases hkept
      exact heq

end Repaired

end ScoreBand

namespace Sample

/-- Bands out of order: one that ends with a fraction, one turned around that begins within it, one
within it, and two that are left out, without an id and with one that is taken. -/
def tangled : List ScoreBand :=
  [band "low" 0 (.float (.ofRatio false 99 2)), band "high" 100 40, band "inner" 10 20,
    band "" 0 100, band "low" 60 70]

end Sample

open Sample

theorem ScoreBand.resolve?_repaired_tangled :
    ∃ fixed, repaired tangled = .ok fixed ∧ (resolve? fixed (.int 49)).map (·.id) = some "low"
      ∧ (resolve? fixed (.int 50)).map (·.id) = some "high" ∧ resolve? fixed (.int 101) = none := by
  have hbands : ∀ band ∈ tangled, band.IsFinite := by decide +kernel
  have hbefore : (resolve? (inOrder tangled) (.int 49)).map (·.id) = some "low"
      ∧ (resolve? (inOrder tangled) (.int 50)).map (·.id) = some "high"
      ∧ resolve? (inOrder tangled) (.int 101) = none := by
    rw [inOrder_eq_sortBy hbands]
    decide +kernel
  obtain ⟨hlow, hhigh, hnone⟩ := hbefore
  obtain ⟨fixed, hfixed, hsame⟩ := resolve?_repaired hbands
  have hid {v : Int} {id : String} (h : (resolve? (inOrder tangled) (.int v)).map (·.id) =
      some id) :
      (resolve? fixed (.int v)).map (·.id) = some id := by
    obtain ⟨band, hband, rfl⟩ := Option.map_eq_some_iff.mp h
    obtain ⟨kept, hkept⟩ := Option.ne_none_iff_exists'.mp
      (mt (hsame v).1.mp (by rw [hband]; exact Option.some_ne_none band))
    rw [hkept, Option.map_some, (hsame v).2 band kept hband hkept]
  exact ⟨fixed, hfixed, hid hlow, hid hhigh, (hsame 101).1.mpr hnone⟩

end Questionnaire
