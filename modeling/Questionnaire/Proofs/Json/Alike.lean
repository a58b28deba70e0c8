import Questionnaire.Proofs.Json.Written

/-!
Data that differ in the order of names only.  They have one canonical document, and no other data
have it: the document is read back as the data in canonical order.
-/

namespace Questionnaire.Json

mutual

/-- Equality up to the order of the entries of objects, at any depth.  Numbers are told apart by
kind, and the two zeros by their signs. -/
def alike : Json → Json → Bool
  | .arr items, .arr others => alikeItems items others
  | .obj entries, .obj others =>
    decide (entries.length = others.length) && alikeEntries entries others
  | v, w => decide (v = w)

def alikeItems : List Json → List Json → Bool
  | [], [] => true
  | item :: items, other :: others => alike item other && alikeItems items others
  | _, _ => false

/-- Every entry has one of the same name beside it, whose value is alike. -/
def alikeEntries : List (String × Json) → List (String × Json) → Bool
  | [], _ => true
  | (name, item) :: entries, others =>
    (match Entries.get? others name with
      | some other => alike item other
      | none => false) && alikeEntries entries others

end

variable {v w : Json} {items : List Json} {entries others : Entries Json}

theorem alike_single (h : v.isSingle = true) : alike v w = true ↔ v = w := by
  cases v with
  | arr items => cases h
  | obj entries => cases h
  | _ => cases w <;> simp [alike]

theorem alikeEntries_iff : alikeEntries entries others = true ↔ ∀ entry ∈ entries,
    ∃ other, others.get? entry.1 = some other ∧ alike entry.2 other = true := by
  induction entries with
  | nil => simp [alikeEntries]
  | cons entry rest ih =>
      rw [alikeEntries, Bool.and_eq_true, ih, List.forall_mem_cons]
      apply and_congr_left
      intro _
      cases others.get? entry.1 <;> simp

theorem alike_obj : alike (.obj entries) (.obj others) = true ↔ entries.length = others.length
    ∧ ∀ entry ∈ entries, ∃ other, others.get? entry.1 = some other ∧
      alike entry.2 other = true := by
  rw [alike, Bool.and_eq_true, decide_eq_true_eq, alikeEntries_iff]

/-- Two lists have items of one canonical form each if their items are alike. -/
theorem map_sorted_eq_iff {others : List Json}
    (h : ∀ item ∈ items, ∀ other ∈ others, item.sorted = other.sorted ↔ alike item other = true) :
    items.map sorted = others.map sorted ↔ alikeItems items others = true := by
  induction items generalizing others with
  | nil => cases others <;> simp [alikeItems]
  | cons item items ih =>
      cases others with
      | nil => simp [alikeItems]
      | cons other others =>
          have hrest : items.map sorted = others.map sorted ↔ alikeItems items others = true :=
            ih fun v hv w hw => h v (List.mem_cons_of_mem item hv) w (List.mem_cons_of_mem other hw)
          rw [List.map_cons, List.map_cons, List.cons.injEq, alikeItems, Bool.and_eq_true, hrest,
            h item List.mem_cons_self other List.mem_cons_self]

theorem sorted_single (h : v.isSingle = true) : v.sorted = v := by
  cases v with
  | arr items => cases h
  | obj entries => cases h
  | _ => rfl

theorem isSingle_sorted (v : Json) : v.sorted.isSingle = v.isSingle := by
  cases v <;> rfl

theorem length_sortedEntries (entries : Entries Json) :
    (sortedEntries entries).length = entries.length := by
  rw [sortedEntries_eq_map, List.length_map]

theorem keys_sortedEntries (entries : Entries Json) :
    Entries.keys (sortedEntries entries) = entries.keys := by
  rw [sortedEntries_eq_map, Entries.keys, List.map_map]
  rfl

theorem mem_sortedEntries_iff {name : String} {value : Json} :
    (name, value) ∈ sortedEntries entries
      ↔ ∃ item, (name, item) ∈ entries ∧ item.sorted = value := by
  rw [sortedEntries_eq_map, List.mem_map]
  constructor
  · rintro ⟨⟨own, item⟩, hitem, heq⟩
    obtain ⟨rfl, hvalue⟩ := Prod.mk.inj heq
    exact ⟨item, hitem, hvalue⟩
  · rintro ⟨item, hitem, rfl⟩
    exact ⟨(name, item), hitem, rfl⟩

/-- Two objects have one canonical form if they hold the same names with values of one canonical
form each. -/
theorem sorted_obj_eq_iff_perm (hnames : entries.keys.Nodup) :
    sorted (.obj entries) = sorted (.obj others)
      ↔ (sortedEntries entries).Perm (sortedEntries others) := by
  rw [sorted, sorted, Json.obj.injEq]
  constructor
  · intro h
    exact (sortBy_perm _ (sortedEntries entries)).symm.trans
      (h ▸ sortBy_perm _ (sortedEntries others))
  · exact Entries.sortBy_eq_of_perm (by rwa [keys_sortedEntries])

/-- Two objects have one canonical form if every entry of the one is found in the other, with a
value of the same canonical form. -/
theorem sorted_obj_eq_iff (hnames : entries.keys.Nodup) (hothers : others.keys.Nodup) :
    sorted (.obj entries) = sorted (.obj others) ↔ entries.length = others.length
      ∧ ∀ entry ∈ entries, ∃ other, others.get? entry.1 = some other
        ∧ entry.2.sorted = other.sorted := by
  rw [sorted_obj_eq_iff_perm hnames]
  constructor
  · intro h
    have hlength := h.length_eq
    rw [length_sortedEntries, length_sortedEntries] at hlength
    refine ⟨hlength, fun entry hentry => ?_⟩
    have hmem : (entry.1, entry.2.sorted) ∈ sortedEntries others :=
      h.mem_iff.mp (mem_sortedEntries_iff.mpr ⟨entry.2, hentry, rfl⟩)
    obtain ⟨other, hother, hvalue⟩ := mem_sortedEntries_iff.mp hmem
    exact ⟨other, (Entries.get?_eq_some_iff hothers).mpr hother, hvalue.symm⟩
  · rintro ⟨hlength, h⟩
    have hsubset : sortedEntries entries ⊆ sortedEntries others := by
      rintro ⟨name, value⟩ hentry
      obtain ⟨item, hitem, rfl⟩ := mem_sortedEntries_iff.mp hentry
      obtain ⟨other, hother, hvalue⟩ := h (name, item) hitem
      exact mem_sortedEntries_iff.mpr ⟨other, Entries.mem_of_get? hother, hvalue.symm⟩
    have hkeys : (Entries.keys (sortedEntries entries)).Nodup := by rwa [keys_sortedEntries]
    have hsub : (sortedEntries entries).Subperm (sortedEntries others) :=
      List.subperm_of_subset (List.Nodup.of_map Prod.fst hkeys) hsubset
    apply hsub.perm_of_length_le
    rw [length_sortedEntries, length_sortedEntries, hlength]

/-- Data in which no object has a name twice have one canonical form just if they are alike. -/
theorem sorted_eq_sorted_iff (hv : v.hasDistinctNames = true) (hw : w.hasDistinctNames = true) :
    v.sorted = w.sorted ↔ alike v w = true := by
  induction v using inductionOn generalizing w with
  | single v hsingle =>
      rw [alike_single hsingle, sorted_single hsingle]
      constructor
      · intro h
        have hw : w.isSingle = true := by rw [← isSingle_sorted, ← h, hsingle]
        exact h.trans (sorted_single hw)
      · rintro rfl
        exact (sorted_single hsingle).symm
  | arr items ih =>
      cases w with
      | arr others =>
          rw [hasDistinctNames_arr] at hv hw
          rw [sorted, sorted, sortedItems_eq_map, sortedItems_eq_map, Json.arr.injEq, alike]
          exact map_sorted_eq_iff fun item hitem other hother =>
            ih item hitem (hv item hitem) (hw other hother)
      | _ => simp [sorted, alike]
  | obj entries ih =>
      cases w with
      | obj others =>
          obtain ⟨hnames, hvalues⟩ := hasDistinctNames_obj.mp hv
          obtain ⟨hnames', hvalues'⟩ := hasDistinctNames_obj.mp hw
          rw [sorted_obj_eq_iff hnames hnames', alike_obj]
          refine and_congr_right fun _ => forall₂_congr fun entry hentry => ?_
          refine exists_congr fun other => and_congr_right fun hother => ?_
          exact ih entry hentry (hvalues entry hentry)
            (hvalues' (entry.1, other) (Entries.mem_of_get? hother))
      | _ => simp [sorted, alike]

/-- The canonical document tells the data up to the order of names, and nothing else. -/
theorem canonical_eq_canonical_iff (hv : v.hasDistinctNames = true)
    (hw : w.hasDistinctNames = true) : v.canonical = w.canonical ↔ alike v w = true := by
  rw [← sorted_eq_sorted_iff hv hw]
  constructor
  · intro h
    apply write_injective separates_compact (hasDistinctNames_sorted hv)
        (hasDistinctNames_sorted hw)
    exact String.ofList_inj.mp h
  · intro h
    rw [canonical, canonical, h]

end Questionnaire.Json
