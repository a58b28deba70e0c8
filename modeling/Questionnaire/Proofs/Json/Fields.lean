import Questionnaire.Json.Basic

/-!
Entries by their names, after the operations that build an object: what is found under a name where
two runs of entries follow one another, where entries are left out by their names, and where an
object is made of the fields that have a value.
-/

namespace Questionnaire.Entries

variable {α : Type}

theorem get?_append (entries others : Entries α) (name : String) :
    (entries ++ others).get? name = (entries.get? name).or (others.get? name) :=
  List.lookup_append

theorem get?_eq_none_iff {entries : Entries α} {name : String} :
    entries.get? name = none ↔ name ∉ entries.keys := by
  induction entries with
  | nil => simp [get?, keys]
  | cons entry rest ih =>
      simp only [get?, keys] at ih ⊢
      by_cases hname : name = entry.1
      · simp [hname]
      · simpa [List.lookup_cons, beq_false_of_ne hname, hname] using ih

theorem contains_iff {entries : Entries α} {name : String} :
    entries.contains name = true ↔ name ∈ entries.keys := by
  simp [contains, keys]

theorem get?_cons (entry : String × α) (rest : Entries α) (name : String) :
    get? (entry :: rest) name = if name = entry.1 then some entry.2 else get? rest name := by
  obtain ⟨own, value⟩ := entry
  by_cases hname : name = own
  · simp [get?, hname]
  · simp [get?, List.lookup_cons, beq_false_of_ne hname, hname]

/-- Entries that are kept by their names are found as before, and the others are gone. -/
theorem get?_filter (entries : Entries α) (keep : String → Bool) (name : String) :
    get? (entries.filter fun entry => keep entry.1) name
      = if keep name then entries.get? name else none := by
  induction entries with
  | nil => simp [get?]
  | cons entry rest ih =>
      obtain ⟨other, value⟩ := entry
      simp only [get?, List.filter_cons, List.lookup_cons] at ih ⊢
      by_cases hname : name = other
      · subst hname
        cases hkeep : keep name with
        | false => simpa [hkeep] using ih
        | true => simp
      · cases hkeep : keep other with
        | false => simpa [beq_false_of_ne hname] using ih
        | true => simpa [List.lookup_cons, beq_false_of_ne hname] using ih

theorem get?_putNew_of_ne (entries : Entries α) {name other : String} (value : α)
    (h : other ≠ name) : (entries.putNew name value).get? other = entries.get? other := by
  have hnone : get? [(name, value)] other = none := by
    simp [get?, List.lookup_cons, beq_false_of_ne h]
  unfold putNew
  split
  · rfl
  · rw [get?_append, hnone, Option.or_none]

/-- An entry that is there is not added again. -/
theorem putNew_of_get? {entries : Entries α} {name : String} {value : α}
    (h : entries.get? name = some value) (other : α) : entries.putNew name other = entries := by
  have hcontains : entries.contains name = true := by
    obtain ⟨before, after, hsplit, -⟩ := List.lookup_eq_some_iff.mp h
    simp [contains, hsplit]
  exact if_pos hcontains

/-- What is put under a new name comes last. -/
theorem put_of_not_mem {entries : Entries α} {name : String} (value : α)
    (h : name ∉ entries.keys) : entries.put name value = entries ++ [(name, value)] := by
  induction entries with
  | nil => rfl
  | cons entry rest ih =>
      obtain ⟨hfirst, hrest⟩ := not_or.mp (fun hmem => h (List.mem_cons.mpr hmem))
      rw [put, if_neg (Ne.symm hfirst), ih hrest, List.cons_append]

/-- The entries of the fields that have a value. -/
def given (fields : List (String × Option α)) : Entries α :=
  fields.filterMap fun field => field.2.map (field.1, ·)

/-- The names of the entries are names of fields, in the same order. -/
theorem keys_given_sublist (fields : List (String × Option α)) :
    (given fields).keys.Sublist (fields.map (·.1)) := by
  induction fields with
  | nil => exact List.Sublist.refl _
  | cons field rest ih =>
      obtain ⟨name, value⟩ := field
      cases value with
      | none => exact ih.cons name
      | some v => exact ih.cons_cons name

theorem get?_given_of_not_mem {fields : List (String × Option α)} {name : String}
    (h : name ∉ fields.map (·.1)) : (given fields).get? name = none :=
  get?_eq_none_iff.mpr fun hmem => h ((keys_given_sublist fields).subset hmem)

/-- Fields of different names are found with their values, and without a value not at all. -/
theorem get?_given {fields : List (String × Option α)} (hnames : (fields.map (·.1)).Nodup)
    {name : String} {value : Option α} (h : (name, value) ∈ fields) :
    (given fields).get? name = value := by
  induction fields with
  | nil => cases h
  | cons field rest ih =>
      obtain ⟨hfresh, hrest⟩ := List.nodup_cons.mp hnames
      have hsplit : given (field :: rest) = given [field] ++ given rest := by
        cases hvalue : field.2 <;> simp [given, hvalue]
      rw [hsplit, get?_append]
      rcases List.mem_cons.mp h with rfl | hlater
      · rw [get?_given_of_not_mem hfresh, Option.or_none]
        cases value <;> simp [given, get?]
      · have hne : name ∉ [field].map (·.1) := by
          intro hname
          rw [List.mem_singleton.mp hname] at hlater
          exact hfresh (List.mem_map.mpr ⟨_, hlater, rfl⟩)
        rw [get?_given_of_not_mem hne, Option.none_or, ih hrest hlater]

end Questionnaire.Entries
