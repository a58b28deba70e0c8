import Questionnaire.Proofs.Json.Canonical
import Questionnaire.Proofs.Json.Fields

/-!
What holds everywhere in data: of the data themselves and of all that is in them, at any depth.  Two
such properties matter to data that are written down: no object has a name twice, and no integer has
more digits than are read.  Where an object has a name twice, reading merges the entries.
-/

namespace Questionnaire.Json

/-- Neither a list nor an object. -/
def isSingle : Json → Bool
  | .arr _ => false
  | .obj _ => false
  | _ => true

/-- What holds of single values, and of a list or an object when it holds of all that is in it,
holds of all data. -/
@[elab_as_elim]
theorem inductionOn {P : Json → Prop} (v : Json) (single : ∀ v, v.isSingle = true → P v)
    (arr : ∀ items, (∀ item ∈ items, P item) → P (.arr items))
    (obj : ∀ entries : Entries Json, (∀ entry ∈ entries, P entry.2) → P (.obj entries)) : P v := by
  -- the lists inside are gone through beside the data
  apply @Json.rec P (fun items => ∀ item ∈ items, P item)
    (fun entries => ∀ entry ∈ entries, P entry.2) (fun entry => P entry.2)
  · exact single .null rfl
  · exact fun value => single (.bool value) rfl
  · exact fun value => single (.num value) rfl
  · exact fun value => single (.str value) rfl
  · exact arr
  · exact obj
  · nofun
  · exact fun _ _ hitem hitems => List.forall_mem_cons.mpr ⟨hitem, hitems⟩
  · nofun
  · exact fun entry entries hentry hentries =>
      List.forall_mem_cons.mpr ⟨hentry, hentries⟩
  · exact fun _ _ hitem => hitem

/-- No object has a name twice. -/
def hasDistinctNames : Json → Bool :=
  everywhere fun
    | .obj entries => decide (Entries.keys entries).Nodup
    | _ => true

variable {entries : Entries Json} {items : List Json} {v : Json}

theorem hasDistinctNames_arr : hasDistinctNames (.arr items) = true
    ↔ ∀ item ∈ items, hasDistinctNames item = true := by
  rw [hasDistinctNames, everywhere_arr]
  exact and_iff_right rfl

theorem hasDistinctNames_obj : hasDistinctNames (.obj entries) = true
    ↔ entries.keys.Nodup ∧ ∀ entry ∈ entries, hasDistinctNames entry.2 = true := by
  rw [hasDistinctNames, everywhere_obj, decide_eq_true_eq]

@[simp] theorem hasDistinctNames_num (n : Number) : hasDistinctNames (.num n) = true := rfl

@[simp] theorem hasDistinctNames_str (s : String) : hasDistinctNames (.str s) = true := rfl

/-- Putting names in order repeats none. -/
theorem hasDistinctNames_sorted (h : hasDistinctNames v = true) :
    hasDistinctNames v.sorted = true := by
  induction v using inductionOn with
  | single v hsingle =>
      cases v with
      | arr items => cases hsingle
      | obj entries => cases hsingle
      | _ => rfl
  | arr items ih =>
      rw [hasDistinctNames_arr] at h
      rw [sorted, sortedItems_eq_map, hasDistinctNames_arr, List.forall_mem_map]
      exact fun item hitem => ih item hitem (h item hitem)
  | obj entries ih =>
      obtain ⟨hnames, hvalues⟩ := hasDistinctNames_obj.mp h
      rw [sorted, sortedEntries_eq_map, hasDistinctNames_obj]
      have hperm := sortBy_perm (fun a b : String × Json => textBelow a.1 b.1)
        (entries.map fun entry => (entry.1, sorted entry.2))
      constructor
      · rw [Entries.keys, (hperm.map Prod.fst).nodup_iff, List.map_map]
        exact hnames
      · intro entry hentry
        obtain ⟨own, hown, rfl⟩ := List.mem_map.mp (hperm.mem_iff.mp hentry)
        exact ih own hown (hvalues own hown)

/-- A record has distinct names if its fields have and its values do. -/
theorem hasDistinctNames_ofFields {fields : List (String × Option Json)} (names : List String)
    (hform : fields.map (·.1) = names) (hnames : names.Nodup)
    (h : ∀ field ∈ fields, ∀ v ∈ field.2, hasDistinctNames v = true) :
    hasDistinctNames (ofFields fields) = true := by
  subst hform
  rw [ofFields, hasDistinctNames_obj]
  constructor
  · exact (Entries.keys_given_sublist fields).nodup hnames
  · intro entry hentry
    obtain ⟨field, hfield, hvalue⟩ := List.mem_filterMap.mp hentry
    obtain ⟨v, hv, rfl⟩ := Option.map_eq_some_iff.mp hvalue
    exact h field hfield v hv

mutual

/-- The data with one entry for each name of an object: the last one, in the place of the first. -/
def merged : Json → Json
  | .arr items => .arr (mergedItems items)
  | .obj entries => .obj (mergedEntries [] entries)
  | v => v

def mergedItems : List Json → List Json
  | [] => []
  | item :: items => merged item :: mergedItems items

/-- Merges entries into those that are there already. -/
def mergedEntries (before : List (String × Json)) : List (String × Json) → List (String × Json)
  | [] => before
  | (name, item) :: entries => mergedEntries (Entries.put before name (merged item)) entries

end

theorem merged_single (h : v.isSingle = true) : merged v = v := by
  cases v with
  | arr items => cases h
  | obj entries => cases h
  | _ => rfl

theorem mergedItems_eq_map (items : List Json) : mergedItems items = items.map merged := by
  induction items with
  | nil => rfl
  | cons item items ih => rw [mergedItems, ih, List.map_cons]

/-- Nothing is merged into entries of other names. -/
theorem mergedEntries_eq_append {before : Entries Json} (hnames : (before ++ entries).keys.Nodup) :
    mergedEntries before entries =
      before ++ entries.map fun entry => (entry.1, merged entry.2) := by
  induction entries generalizing before with
  | nil => rw [mergedEntries, List.map_nil, List.append_nil]
  | cons entry entries ih =>
      obtain ⟨name, item⟩ := entry
      have hfresh : name ∉ before.keys := by
        rw [Entries.keys, List.map_append, List.nodup_append] at hnames
        exact fun hmem => hnames.2.2 name hmem name List.mem_cons_self rfl
      have hnext : ((before ++ [(name, merged item)]) ++ entries).keys.Nodup := by
        simpa [Entries.keys] using hnames
      rw [mergedEntries, Entries.put_of_not_mem _ hfresh, ih hnext, List.append_assoc]
      rfl

theorem merged_obj (hnames : entries.keys.Nodup) :
    merged (.obj entries) = .obj (entries.map fun entry => (entry.1, merged entry.2)) := by
  rw [merged, @mergedEntries_eq_append entries [] hnames, List.nil_append]

/-- Where no object has a name twice there is nothing to merge. -/
theorem merged_of_hasDistinctNames (h : hasDistinctNames v = true) : merged v = v := by
  induction v using inductionOn with
  | single v hsingle => exact merged_single hsingle
  | arr items ih =>
      have hitems : items.map merged = items := by
        refine (List.map_congr_left fun item hitem => ?_).trans (List.map_id items)
        exact ih item hitem (hasDistinctNames_arr.mp h item hitem)
      rw [merged, mergedItems_eq_map, hitems]
  | obj entries ih =>
      obtain ⟨hnames, hvalues⟩ := hasDistinctNames_obj.mp h
      have hentries : entries.map (fun entry => (entry.1, merged entry.2)) = entries := by
        refine (List.map_congr_left fun entry hentry => ?_).trans (List.map_id entries)
        rw [ih entry hentry (hvalues entry hentry)]
        rfl
      rw [merged_obj hnames, hentries]

end Questionnaire.Json
