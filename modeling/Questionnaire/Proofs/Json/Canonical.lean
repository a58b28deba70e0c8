import Mathlib.Data.String.Basic
import Questionnaire.Json.Writer
import Questionnaire.Proofs.Lists

/-!
The canonical order of entries.  Entries without a repeated name are told apart by their names, so
that looking up a name and the canonical form of an object do not depend on the order of the
entries.
-/

namespace Questionnaire

namespace Entries

variable {α : Type} {entries others : Entries α}

theorem mem_of_get? {name : String} {value : α} (h : entries.get? name = some value) :
    (name, value) ∈ entries := by
  obtain ⟨before, after, hsplit, -⟩ := List.lookup_eq_some_iff.mp h
  rw [hsplit]
  exact List.mem_append_right before (List.mem_cons_self ..)

/-- Without a repeated name every entry is found under its name. -/
theorem get?_eq_some_iff (hnames : entries.keys.Nodup) {name : String} {value : α} :
    entries.get? name = some value ↔ (name, value) ∈ entries := by
  refine ⟨mem_of_get?, fun hmem => ?_⟩
  induction entries with
  | nil => cases hmem
  | cons entry rest ih =>
      obtain ⟨other, own⟩ := entry
      obtain ⟨habsent, hrest⟩ := List.nodup_cons.mp hnames
      rcases List.mem_cons.mp hmem with heq | hlater
      · cases heq
        simp [get?]
      · have hne : name ≠ other := by
          rintro rfl
          exact habsent (List.mem_map.mpr ⟨(name, value), hlater, rfl⟩)
        simpa [get?, List.lookup_cons, beq_false_of_ne hne] using ih hrest hlater

theorem get?_eq_of_perm (hnames : entries.keys.Nodup) (h : entries.Perm others) (name : String) :
    entries.get? name = others.get? name := by
  have hnames' : others.keys.Nodup := (h.map Prod.fst).nodup_iff.mp hnames
  ext value
  rw [get?_eq_some_iff hnames, get?_eq_some_iff hnames', h.mem_iff]

/-- Entries sorted by their names do not tell in which order they were. -/
theorem sortBy_eq_of_perm (hnames : entries.keys.Nodup) (h : entries.Perm others) :
    sortBy (fun a b => textBelow a.1 b.1) entries
      = sortBy (fun a b => textBelow a.1 b.1) others :=
  Questionnaire.sortBy_eq_of_perm (fun _ _ => decide_eq_true_iff)
    (fun _ ha _ hb hname => List.inj_on_of_nodup_map hnames ha hb hname) h

end Entries

namespace Json

theorem sortedEntries_eq_map (entries : Entries Json) :
    sortedEntries entries = entries.map fun entry => (entry.1, sorted entry.2) := by
  induction entries with
  | nil => rfl
  | cons entry rest ih =>
      rw [sortedEntries, ih]
      rfl

theorem sortedItems_eq_map (items : List Json) : sortedItems items = items.map sorted := by
  induction items with
  | nil => rfl
  | cons item rest ih => rw [sortedItems, ih, List.map_cons]

/-- The canonical form of an object does not tell in which order its entries were. -/
theorem sorted_obj_eq_of_perm {entries others : Entries Json} (hnames : entries.keys.Nodup)
    (h : entries.Perm others) : sorted (.obj entries) = sorted (.obj others) := by
  rw [sorted, sorted, sortedEntries_eq_map, sortedEntries_eq_map]
  refine congrArg Json.obj (Entries.sortBy_eq_of_perm ?_ (h.map _))
  rw [Entries.keys, List.map_map]
  exact hnames

/-- Fields with the same canonical forms make objects with the same canonical form. -/
theorem sorted_ofFields_congr {fields others : List (String × Option Json)}
    (h : (fields.map fun field => (field.1, field.2.map sorted))
      = others.map fun field => (field.1, field.2.map sorted)) :
    sorted (ofFields fields) = sorted (ofFields others) := by
  -- the fields with a value are the entries
  have hform (fields : List (String × Option Json)) : sorted (ofFields fields)
      = .obj (sortBy (fun a b => textBelow a.1 b.1)
          ((fields.map fun field => (field.1, field.2.map sorted)).filterMap
            fun field => field.2.map (field.1, ·))) := by
    rw [ofFields, sorted, sortedEntries_eq_map, List.map_filterMap, List.filterMap_map]
    refine congrArg (fun entries => obj (sortBy _ entries)) (List.filterMap_congr ?_)
    rintro ⟨name, value⟩ -
    cases value <;> rfl
  rw [hform, hform, h]

end Json

end Questionnaire
