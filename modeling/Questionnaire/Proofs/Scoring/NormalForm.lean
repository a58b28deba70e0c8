import Questionnaire.Proofs.Audit.Overlap
import Questionnaire.Proofs.Scoring.Repair

/-!
The normal form of a scoring configuration: in each of its lists of bands the ids are distinct and
one band lies behind the other.  A configuration that is in order is in normal form, and what is in
normal form is in order already.
-/

namespace Questionnaire

attribute [local irreducible] Binary64.one Binary64.limit

namespace ScoreBand

variable {bands : List ScoreBand}

/-- Bands with ids of their own, each behind the end of the ones before it. -/
structure AreApart (bands : List ScoreBand) : Prop where
  ids_nodup : (bands.map (·.id)).Nodup
  ids_nonempty : ∀ band ∈ bands, band.id ≠ ""
  ordered : ∀ band ∈ bands, band.min.le band.max = true
  apart : bands.Pairwise fun a b => a.max.lt b.min = true

/-- Putting finite bands in order takes them apart. -/
theorem exists_repaired_areApart (hbands : ∀ band ∈ bands, band.IsFinite) :
    ∃ fixed, repaired bands = .ok fixed ∧ AreApart fixed ∧ ∀ band ∈ fixed, band.IsFinite := by
  obtain ⟨fixed, hfixed, hseparates⟩ := exists_repaired hbands
  have hordered := hseparates.ordered fun band hband => (mem_inOrder hbands band hband).1
  have hids : ((inOrder bands).map (·.id)).Perm ((distinctBy (·.id) [] bands).map (·.id)) := by
    have hperm := (inOrder_perm hbands).map (·.id)
    simpa [Function.comp_def] using hperm
  refine ⟨fixed, hfixed, ⟨?_, fun band hband => ?_, fun band hband => (hordered band hband).2,
    hseparates.apart.2⟩, fun band hband => (hordered band hband).1⟩
  · exact hseparates.ids_sublist.nodup (hids.nodup_iff.mpr nodup_distinctBy)
  · have hid := hids.mem_iff.mp (hseparates.ids_sublist.subset (List.mem_map_of_mem hband))
    obtain ⟨own, hown, heq⟩ := List.mem_map.mp hid
    exact heq ▸ (mem_distinctBy hown).2.1

/-- Bands that begin behind the last one and behind one another are kept as they are. -/
theorem separate_of_apart {last : Option ScoreBand} (hbehind : ∀ band ∈ bands, Behind last band.min)
    (hapart : bands.Pairwise fun a b => a.max.lt b.min = true) :
    separate last bands = .ok bands := by
  induction bands generalizing last with
  | nil => rfl
  | cons band rest ih =>
      obtain ⟨hband, -⟩ := List.forall_mem_cons.mp hbehind
      obtain ⟨hfirst, hrest⟩ := List.pairwise_cons.mp hapart
      have hnext : separate (some band) rest = .ok rest :=
        ih (fun other hother => behind_some.mpr (hfirst other hother)) hrest
      cases last with
      | none => rw [separate, hnext]; rfl
      | some previous => rw [separate, if_pos (hband previous rfl), hnext]; rfl

namespace AreApart

theorem repaired_eq (h : AreApart bands) (hfinite : ∀ band ∈ bands, band.IsFinite) :
    repaired bands = .ok bands := by
  have hdistinct : distinctBy (·.id) [] bands = bands :=
    distinctBy_of_nodup h.ids_nodup fun band hband => ⟨h.ids_nonempty band hband, by simp⟩
  have hupright : bands.map upright = bands :=
    (List.map_congr_left fun band hband => upright_of_le (h.ordered band hband)).trans
      (List.map_id _)
  have hsorted : bands.Pairwise fun a b => a.min.units ≤ b.min.units := by
    refine h.apart.imp_of_mem fun {a b} ha hb hlt => ?_
    rw [← (hfinite a ha).min_isCounted.le_iff (hfinite b hb).min_isCounted]
    exact Number.le_of_lt (Number.lt_of_le_of_lt (h.ordered a ha) hlt)
  have hsort : sortBy (fun a b => a.min.lt b.min) bands = bands :=
    sortBy_of_pairwise (fun a ha b hb =>
      (hfinite a ha).min_isCounted.lt_iff (hfinite b hb).min_isCounted) hsorted
  rw [repaired, hdistinct, hupright, hsort]
  exact separate_of_apart (fun _ _ => behind_none) h.apart

theorem overlaps_eq_nil (h : AreApart bands) : Audit.overlaps bands = .ok [] := by
  refine Audit.overlaps_eq_nil (h.apart.imp fun {a b} hlt => ?_)
  have hout : ¬ b.min.le a.max = true := fun hle => by
    have hself := Number.lt_of_lt_of_le hlt hle
    obtain ⟨hmax, -⟩ := Number.place?_ne_none_of_le (Number.le_of_lt hlt)
    exact (Number.lt_iff_not_le hmax hmax).mp hself (Number.le_refl hmax)
  rw [Audit.bandsMeet, Bool.and_eq_false_iff]
  exact .inr (by simpa using hout)

end AreApart

end ScoreBand

section Parts

variable {α β : Type} {f : α → Except Fault α} {g : β → Except Fault β} {parts : α → List β}

/-- What changes the parts of each member one by one does so with the parts of them all. -/
theorem map_flatMap_mapM (h : ∀ x, (f x).map parts = (parts x).mapM g) (xs : List α) :
    (xs.mapM f).map (·.flatMap parts) = (xs.flatMap parts).mapM g := by
  induction xs with
  | nil => rfl
  | cons x rest ih =>
      rw [List.flatMap_cons, List.mapM_append, ← ih, ← h, List.mapM_cons]
      cases f x with
      | error cause => rfl
      | ok y => cases rest.mapM f <;> rfl

theorem map_toList_mapM (h : ∀ x, (f x).map parts = (parts x).mapM g) (x : Option α) :
    (x.mapM f).map (·.toList.flatMap parts) = (x.toList.flatMap parts).mapM g := by
  cases x with
  | none => rfl
  | some own =>
      rw [Option.toList_some, List.flatMap_singleton, ← h, Option.mapM_some]
      cases f own with
      | error cause => rfl
      | ok y => simp [Except.map, Functor.map]

theorem mapM_self {xs : List α} (h : ∀ x ∈ xs, f x = .ok x) : xs.mapM f = .ok xs :=
  mapM_eq_ok_iff.mpr (List.forall₂_same.mpr h)

theorem mapM_self? {x : Option α} (h : ∀ own ∈ x, f own = .ok own) : x.mapM f = .ok x := by
  cases x with
  | none => rfl
  | some own =>
      rw [Option.mapM_some, h own rfl]
      rfl

end Parts

namespace ScoreBand

/-- Lists of bands are put in order where they stand. -/
theorem map_toList_repaired? (bands : Option (List ScoreBand)) :
    (repaired? bands).map Option.toList = bands.toList.mapM repaired := by
  cases bands with
  | none => rfl
  | some own =>
      rw [repaired?, Option.toList_some, List.mapM_cons]
      cases repaired own <;> rfl

theorem repaired?_self {bands : Option (List ScoreBand)}
    (h : ∀ own ∈ bands.toList, repaired own = .ok own) : repaired? bands = .ok bands := by
  cases bands with
  | none => rfl
  | some own =>
      rw [repaired?, h own (by simp)]
      rfl

end ScoreBand

namespace CategoryResults

/-- The bands of a category's results. -/
def bandLists (results : CategoryResults) : List (List ScoreBand) := results.bands.toList

theorem map_bandLists_repaired (results : CategoryResults) :
    results.repaired.map bandLists = results.bandLists.mapM ScoreBand.repaired := by
  rw [bandLists, ← ScoreBand.map_toList_repaired?, repaired]
  cases ScoreBand.repaired? results.bands <;> rfl

theorem repaired_self {results : CategoryResults}
    (h : ∀ bands ∈ results.bandLists, ScoreBand.repaired bands = .ok bands) :
    results.repaired = .ok results := by
  rw [repaired, ScoreBand.repaired?_self h]
  rfl

end CategoryResults

namespace ResultsScreen

/-- The bands of a results screen and of its categories. -/
def bandLists (screen : ResultsScreen) : List (List ScoreBand) :=
  screen.bands.toList ++ screen.categories.toList.flatMap (·.flatMap CategoryResults.bandLists)

theorem map_bandLists_repaired (screen : ResultsScreen) :
    screen.repaired.map bandLists = screen.bandLists.mapM ScoreBand.repaired := by
  have hcategories := map_toList_mapM (map_flatMap_mapM CategoryResults.map_bandLists_repaired)
  rw [bandLists, List.mapM_append, ← ScoreBand.map_toList_repaired?, ← hcategories, repaired]
  cases ScoreBand.repaired? screen.bands with
  | error cause => rfl
  | ok bands =>
      cases screen.categories.mapM fun categories => categories.mapM (·.repaired) <;> rfl

theorem repaired_self {screen : ResultsScreen}
    (h : ∀ bands ∈ screen.bandLists, ScoreBand.repaired bands = .ok bands) :
    screen.repaired = .ok screen := by
  obtain ⟨hbands, hcategories⟩ := List.forall_mem_append.mp h
  have hall : (screen.categories.mapM fun categories => categories.mapM (·.repaired))
      = .ok screen.categories :=
    mapM_self? fun categories hown => mapM_self fun results hresults =>
      CategoryResults.repaired_self fun bands hmem => hcategories bands <|
        List.mem_flatMap.mpr ⟨categories, Option.mem_toList.mpr hown,
          List.mem_flatMap.mpr ⟨results, hresults, hmem⟩⟩
  rw [repaired, ScoreBand.repaired?_self hbands, hall]
  rfl

end ResultsScreen

namespace ScoreConfig

/-- The bands of a configuration, those of its results screen first. -/
def bandLists (config : ScoreConfig) : List (List ScoreBand) :=
  config.resultsScreen.toList.flatMap ResultsScreen.bandLists ++ [config.bands]

theorem map_bandLists_repaired (config : ScoreConfig) :
    config.repaired.map bandLists = config.bandLists.mapM ScoreBand.repaired := by
  have hscreen := map_toList_mapM ResultsScreen.map_bandLists_repaired
  rw [bandLists, List.mapM_append, ← hscreen, repaired, List.mapM_cons]
  cases config.resultsScreen.mapM (·.repaired) with
  | error cause => rfl
  | ok screen => cases ScoreBand.repaired config.bands <;> rfl

theorem repaired_self {config : ScoreConfig}
    (hcategories : distinctBy (·.id) [] config.categories = config.categories)
    (h : ∀ bands ∈ config.bandLists, ScoreBand.repaired bands = .ok bands) :
    config.repaired = .ok config := by
  obtain ⟨hscreens, hbands⟩ := List.forall_mem_append.mp h
  have hscreen : config.resultsScreen.mapM (·.repaired) = .ok config.resultsScreen :=
    mapM_self? fun screen hown => ResultsScreen.repaired_self fun bands hmem =>
      hscreens bands (List.mem_flatMap.mpr ⟨screen, Option.mem_toList.mpr hown, hmem⟩)
  rw [repaired, hscreen, hbands config.bands (List.mem_singleton_self _), hcategories]
  rfl

theorem categories_of_repaired {config fixed : ScoreConfig} (h : config.repaired = .ok fixed) :
    fixed.categories = distinctBy (·.id) [] config.categories := by
  obtain ⟨_, -, h⟩ := bind_eq_ok.mp h
  obtain ⟨_, -, h⟩ := bind_eq_ok.mp h
  obtain rfl := Except.ok.inj h
  rfl

/-- Putting a configuration with finite bounds in order puts each of its lists of bands in order
where it stands; the bands are then apart, the categories are the first of each id, and putting the
configuration in order once more changes nothing. -/
theorem repaired_isNormal {config : ScoreConfig}
    (hfinite : ∀ bands ∈ config.bandLists, ∀ band ∈ bands, band.IsFinite) :
    ∃ fixed, config.repaired = .ok fixed
      ∧ config.bandLists.mapM ScoreBand.repaired = .ok fixed.bandLists
      ∧ (∀ bands ∈ fixed.bandLists, ScoreBand.AreApart bands ∧ Audit.overlaps bands = .ok [])
      ∧ fixed.categories
        = (config.categories.filter (·.id ≠ "")).eraseDupsBy (fun a b => a.id == b.id)
      ∧ (fixed.categories.map (·.id)).Nodup ∧ (∀ category ∈ fixed.categories, category.id ≠ "")
      ∧ fixed.repaired = .ok fixed := by
  obtain ⟨lists, hlists, hall⟩ := exists_mapM_ok_of_forall fun bands hbands =>
    ScoreBand.exists_repaired_areApart (hfinite bands hbands)
  obtain ⟨fixed, hfixed, rfl⟩ := map_eq_ok.mp ((map_bandLists_repaired config).trans hlists)
  have hcategories := categories_of_repaired hfixed
  have hnodup : (fixed.categories.map (·.id)).Nodup := hcategories ▸ nodup_distinctBy
  have hnonempty : ∀ category ∈ fixed.categories, category.id ≠ "" := fun category hcategory =>
    (mem_distinctBy (hcategories ▸ hcategory)).2.1
  have hdistinct : distinctBy (·.id) [] fixed.categories = fixed.categories :=
    distinctBy_of_nodup hnodup fun category hcategory => ⟨hnonempty category hcategory, by simp⟩
  exact ⟨fixed, hfixed, hlists,
    fun bands hbands => ⟨(hall bands hbands).1, (hall bands hbands).1.overlaps_eq_nil⟩,
    hcategories.trans distinctBy_nil_eq_eraseDupsBy, hnodup, hnonempty,
    repaired_self hdistinct fun bands hbands =>
      (hall bands hbands).1.repaired_eq (hall bands hbands).2⟩

end ScoreConfig

namespace Sample

/-- A configuration with bands out of order on two levels, a list of bands that is empty and one
that is missing, a category without an id and one with an id that is taken. -/
def cluttered : ScoreConfig where
  enabled := true
  categories := [⟨"a", "A"⟩, ⟨"", "None"⟩, ⟨"a", "Again"⟩, ⟨"b", "B"⟩]
  bands := tangled
  resultsScreen := some
    ⟨true, some [], some [⟨"a", .custom, some tangled⟩, ⟨"b", .shared, none⟩]⟩
  engineId := none

end Sample

open Sample

theorem ScoreConfig.repaired_isNormal_cluttered :
    ∃ fixed, cluttered.repaired = .ok fixed ∧ fixed.bandLists.map (·.map (·.id))
        = [[], ["low", "high"], ["low", "high"]]
      ∧ fixed.categories = [⟨"a", "A"⟩, ⟨"b", "B"⟩] ∧ fixed.repaired = .ok fixed := by
  have hfinite : ∀ bands ∈ cluttered.bandLists, ∀ band ∈ bands, band.IsFinite := by
    decide +kernel
  have hids : (cluttered.bandLists.mapM ScoreBand.repaired).map (·.map (·.map (·.id)))
      = .ok [[], ["low", "high"], ["low", "high"]] := by decide +kernel
  obtain ⟨fixed, hfixed, hlists, -, hcategories, -, -, hagain⟩ := repaired_isNormal hfinite
  rw [hlists] at hids
  exact ⟨fixed, hfixed, Except.ok.inj hids, hcategories.trans (by decide +kernel), hagain⟩

end Questionnaire
