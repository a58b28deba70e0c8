import Mathlib.Data.List.TakeWhile
import Questionnaire.Json.Reader
import Questionnaire.Proofs.Lists
import Questionnaire.Proofs.Number.Written

/-!
Which data have a text.  The text of a value exists exactly if its integers are short and there is
room for its levels.  Whatever is read from a document has a text, as far as there is room for one
level more than the reader takes.
-/

namespace Questionnaire

/-- What holds of all values and of one that is put among them. -/
theorem Entries.forall_put {α : Type} {P : α → Prop} {entries : Entries α} (name : String)
    {value : α} (h : ∀ entry ∈ entries, P entry.2) (hvalue : P value) :
    ∀ entry ∈ entries.put name value, P entry.2 := by
  induction entries with
  | nil => exact List.forall_mem_singleton.mpr hvalue
  | cons entry rest ih =>
      obtain ⟨hentry, hrest⟩ := List.forall_mem_cons.mp h
      rw [put]
      split
      · exact List.forall_mem_cons.mpr ⟨hvalue, hrest⟩
      · exact List.forall_mem_cons.mpr ⟨hentry, ih hrest⟩

namespace Json

variable {v : Json} {room limit : Nat} {items : List Json} {entries : Entries Json} {text : String}

theorem depth_pos (v : Json) : 0 < v.depth := by
  cases v <;> exact Nat.succ_pos _

theorem depth_arr_le_iff : depth (.arr items) ≤ room + 1 ↔ ∀ item ∈ items, item.depth ≤ room := by
  have hitems : depthItems items ≤ room ↔ ∀ item ∈ items, item.depth ≤ room := by
    induction items with
    | nil => simp [depthItems]
    | cons item rest ih => rw [depthItems, Nat.max_le, ih, List.forall_mem_cons]
  rw [depth, Nat.add_le_add_iff_right, hitems]

theorem depth_obj_le_iff :
    depth (.obj entries) ≤ room + 1 ↔ ∀ entry ∈ entries, entry.2.depth ≤ room := by
  have hentries : depthEntries entries ≤ room ↔ ∀ entry ∈ entries, entry.2.depth ≤ room := by
    induction entries with
    | nil => simp [depthEntries]
    | cons entry rest ih => rw [depthEntries, Nat.max_le, ih, List.forall_mem_cons]
  rw [depth, Nat.add_le_add_iff_right, hentries]

theorem shownItems_eq_map (items : List Json) : shownItems items = items.map shown := by
  induction items with
  | nil => rfl
  | cons item items ih => rw [shownItems, ih, List.map_cons]

/-- An entry as it is shown. -/
def shownEntry (entry : String × Json) : String := Text.quoted entry.1 ++ ": " ++ shown entry.2

theorem shownEntries_eq_map (entries : Entries Json) :
    shownEntries entries = entries.map shownEntry := by
  induction entries with
  | nil => rfl
  | cons entry entries ih => rw [shownEntries, ih, List.map_cons, shownEntry]

theorem shownItemsWithin_eq_mapM (room : Nat) (items : List Json) :
    shownItemsWithin room items = items.mapM (shownWithin room) := by
  induction items with
  | nil => rfl
  | cons item items ih => rw [shownItemsWithin, ih, List.mapM_cons]

theorem shownEntriesWithin_eq_mapM (room : Nat) (entries : Entries Json) :
    shownEntriesWithin room entries = entries.mapM fun entry =>
      (shownWithin room entry.2).map (Text.quoted entry.1 ++ ": " ++ ·) := by
  induction entries with
  | nil => rfl
  | cons entry entries ih =>
      rw [shownEntriesWithin, ih, List.mapM_cons]
      cases shownWithin room entry.2 <;> rfl

/-- The condition under which a value is shown, whether it is a text or not. -/
def IsShowable (room : Nat) (v : Json) : Prop :=
  v.hasDigitsWithin maxIntegerDigits = true ∧ v.depth ≤ room

theorem isShowable_num {value : Number} :
    IsShowable (room + 1) (.num value) ↔ value.HasText :=
  ⟨fun h => of_decide_eq_true h.1, fun h => ⟨decide_eq_true h, Nat.succ_le_succ room.zero_le⟩⟩

theorem isShowable_arr :
    IsShowable (room + 1) (.arr items) ↔ ∀ item ∈ items, IsShowable room item := by
  rw [IsShowable, hasDigitsWithin_arr, depth_arr_le_iff, ← forall₂_and]
  rfl

theorem isShowable_obj :
    IsShowable (room + 1) (.obj entries) ↔ ∀ entry ∈ entries, IsShowable room entry.2 := by
  rw [IsShowable, hasDigitsWithin_obj, depth_obj_le_iff, ← forall₂_and]
  rfl

theorem not_isShowable_zero : ¬ IsShowable 0 v := fun h => Nat.not_le.mpr v.depth_pos h.2

/-- A value is shown inside a collection exactly if its integers are short and there is room. -/
theorem shownWithin_eq_ok_iff :
    shownWithin room v = .ok text ↔ IsShowable room v ∧ text = v.shown := by
  induction room generalizing v text with
  | zero => simp [shownWithin, not_isShowable_zero]
  | succ room ih =>
      cases v with
      | num value =>
          rw [isShowable_num]
          exact numberText_eq_ok_iff
      | arr items =>
          rw [shownWithin, shownItemsWithin_eq_mapM, bind_eq_ok, isShowable_arr, shown,
            shownItems_eq_map]
          simp only [mapM_eq_ok_map_iff fun _ _ _ => ih]
          constructor
          · rintro ⟨texts, ⟨hitems, rfl⟩, ⟨⟩⟩
            exact ⟨hitems, rfl⟩
          · rintro ⟨hitems, rfl⟩
            exact ⟨_, ⟨hitems, rfl⟩, rfl⟩
      | obj entries =>
          have hentry : ∀ entry ∈ entries, ∀ y,
              (shownWithin room entry.2).map (Text.quoted entry.1 ++ ": " ++ ·) = .ok y
                ↔ IsShowable room entry.2 ∧ y = shownEntry entry := by
            intro entry _ y
            rw [map_eq_ok]
            simp only [ih]
            constructor
            · rintro ⟨_, ⟨hshown, rfl⟩, rfl⟩
              exact ⟨hshown, rfl⟩
            · rintro ⟨hshown, rfl⟩
              exact ⟨_, ⟨hshown, rfl⟩, rfl⟩
          rw [shownWithin, shownEntriesWithin_eq_mapM, bind_eq_ok, isShowable_obj, shown,
            shownEntries_eq_map]
          simp only [mapM_eq_ok_map_iff hentry]
          constructor
          · rintro ⟨texts, ⟨hall, rfl⟩, ⟨⟩⟩
            exact ⟨hall, rfl⟩
          · rintro ⟨hall, rfl⟩
            exact ⟨_, ⟨hall, rfl⟩, rfl⟩
      | _ => exact ⟨fun h => ⟨⟨rfl, Nat.succ_le_succ room.zero_le⟩, (Except.ok.inj h).symm⟩,
          fun h => congrArg Except.ok h.2.symm⟩

theorem hasText_iff : v.hasText room = true ↔ (∃ s, v = .str s) ∨ IsShowable room v := by
  cases v <;> simp [hasText, IsShowable]

theorem IsShowable.hasText (h : IsShowable room v) : v.hasText room = true :=
  hasText_iff.mpr (.inr h)

/-- A value has a text exactly if it can be shown, and then it is what it is shown as. -/
theorem displayWithin_eq_ok_iff :
    displayWithin room v = .ok text ↔ v.hasText room = true ∧ text = v.display := by
  cases v with
  | str s => simp [displayWithin, hasText, display, eq_comm]
  | _ => simp [displayWithin, display, shownWithin_eq_ok_iff, hasText_iff]

theorem shownWithin_failsOnly : FailsOnly [.noSuchValue, .tooDeep] (shownWithin room v) := by
  induction room generalizing v with
  | zero =>
      intro cause hcause
      simp_all [shownWithin]
  | succ room ih =>
      cases v with
      | num value =>
          intro cause hcause
          rw [(numberText_eq_error_iff.mp hcause).1]
          exact List.mem_cons_self
      | arr items =>
          rw [shownWithin, shownItemsWithin_eq_mapM]
          exact (FailsOnly.mapM fun _ _ => ih).bind fun _ _ => .ok
      | obj entries =>
          rw [shownWithin, shownEntriesWithin_eq_mapM]
          exact (FailsOnly.mapM fun _ _ => ih.map).bind fun _ _ => .ok
      | _ => exact .ok

/-- What is missing where a value has no text is a short integer, or room. -/
theorem displayWithin_failsOnly : FailsOnly [.noSuchValue, .tooDeep] (displayWithin room v) := by
  cases v with
  | str s => exact .ok
  | _ => exact shownWithin_failsOnly

theorem IsShowable.mono {more : Nat} (h : IsShowable room v) (hroom : room ≤ more) :
    IsShowable more v := ⟨h.1, h.2.trans hroom⟩

/-- The items of a list that has a text have texts. -/
theorem hasText_of_mem_arr (h : hasText room (.arr items) = true) {item : Json}
    (hitem : item ∈ items) :
    item.hasText room = true := by
  have hshowable : IsShowable room (.arr items) := by simpa [hasText_iff] using h
  cases room with
  | zero => exact absurd hshowable not_isShowable_zero
  | succ room => exact ((isShowable_arr.mp hshowable item hitem).mono (Nat.le_succ room)).hasText

/-- The values of an object that has a text have texts. -/
theorem hasText_of_mem_obj (h : hasText room (.obj entries) = true) {entry : String × Json}
    (hentry : entry ∈ entries) : entry.2.hasText room = true := by
  have hshowable : IsShowable room (.obj entries) := by simpa [hasText_iff] using h
  cases room with
  | zero => exact absurd hshowable not_isShowable_zero
  | succ room => exact ((isShowable_obj.mp hshowable entry hentry).mono (Nat.le_succ room)).hasText

/-- What the limits of a reader say of a value. -/
structure Limits.Allow (limits : Limits) (v : Json) : Prop where
  digits : ∀ limit ∈ limits.digits, v.hasDigitsWithin limit = true
  levels : ∀ levels ∈ limits.levels, v.depth ≤ levels + 1

section Limits

variable {limits inner : Limits} {s rest : List Char} {fuel : Nat}

/-- Inside a bracket the limit of digits is the same, and there is one level less. -/
theorem Limits.inner?_eq_some (h : limits.inner? = some inner) :
    inner.digits = limits.digits
      ∧ ∀ levels ∈ limits.levels, ∃ fewer, levels = fewer + 1 ∧ inner.levels = some fewer := by
  unfold inner? at h
  split at h
  · cases h
    simp_all
  · cases h
  · cases h
    simp_all

theorem Limits.allow_arr (hinner : limits.inner? = some inner)
    (h : ∀ item ∈ items, inner.Allow item) : limits.Allow (.arr items) := by
  obtain ⟨hdigits, hlevels⟩ := inner?_eq_some hinner
  constructor
  · rw [← hdigits]
    exact fun limit hlimit =>
      hasDigitsWithin_arr.mpr fun item hitem => (h item hitem).digits limit hlimit
  · intro levels hmem
    obtain ⟨fewer, rfl, hfewer⟩ := hlevels levels hmem
    exact depth_arr_le_iff.mpr fun item hitem => (h item hitem).levels fewer hfewer

theorem Limits.allow_obj (hinner : limits.inner? = some inner)
    (h : ∀ entry ∈ entries, inner.Allow entry.2) : limits.Allow (.obj entries) := by
  obtain ⟨hdigits, hlevels⟩ := inner?_eq_some hinner
  constructor
  · rw [← hdigits]
    exact fun limit hlimit =>
      hasDigitsWithin_obj.mpr fun entry hentry => (h entry hentry).digits limit hlimit
  · intro levels hmem
    obtain ⟨fewer, rfl, hfewer⟩ := hlevels levels hmem
    exact depth_obj_le_iff.mpr fun entry hentry => (h entry hentry).levels fewer hfewer

theorem Limits.allow_single (hdepth : v.depth = 1)
    (hdigits : ∀ limit, v.hasDigitsWithin limit = true) : limits.Allow v :=
  ⟨fun limit _ => hdigits limit, fun levels _ => hdepth ▸ Nat.le_add_left 1 levels⟩

theorem Limits.allow_num {n : Number} (h : ∀ limit ∈ limits.digits, integerDigits n ≤ limit) :
    limits.Allow (.num n) :=
  ⟨fun limit hlimit => decide_eq_true (h limit hlimit), fun levels _ => Nat.le_add_left 1 levels⟩

/-- The number that digits write is below the power of ten of their count. -/
theorem digitsValue_lt {digits : List Char} (h : ∀ c ∈ digits, Numeral.isDigit c = true) (n : Nat) :
    Numeral.digitsValue n digits < (n + 1) * 10 ^ digits.length := by
  induction digits generalizing n with
  | nil =>
      rw [Numeral.digitsValue, List.foldl_nil, List.length_nil, Nat.pow_zero, Nat.mul_one]
      exact Nat.lt_succ_self n
  | cons c rest ih =>
      obtain ⟨hc, hrest⟩ := List.forall_mem_cons.mp h
      have hdigit : c.toNat - 48 ≤ 9 := by
        rw [Numeral.isDigit, Bool.and_eq_true, decide_eq_true_eq, decide_eq_true_eq] at hc
        have hnine : c.toNat ≤ 57 := hc.2
        omega
      change Numeral.digitsValue (n * 10 + (c.toNat - 48)) rest < _
      apply (ih hrest _).trans_le
      rw [List.length_cons, Nat.pow_succ, Nat.mul_comm (10 ^ rest.length), ← Nat.mul_assoc]
      exact Nat.mul_le_mul_right _ (by omega)

theorem isDigit_of_mem_wholePart {c : Char} (h : c ∈ wholePart s) : Numeral.isDigit c = true := by
  unfold wholePart at h
  split at h
  · obtain rfl := List.mem_singleton.mp h
    rfl
  · exact List.mem_takeWhile_imp h

/-- An integer of a document has no more digits than the document gives it. -/
theorem integerDigits_of_unsigned? {most : Option Nat} {negative : Bool} {n : Number}
    (h : unsigned? most negative s = some (.ok (n, rest))) :
    ∀ limit ∈ most, integerDigits n ≤ limit := by
  intro limit hlimit
  unfold unsigned? at h
  dsimp only at h
  split at h
  · cases h
  · rename_i hsome
    split at h
    · split at h
      · cases h
      · rename_i hshort
        obtain ⟨rfl, -⟩ := Prod.mk.inj (Except.ok.inj (Option.some.inj h))
        have hlength : (wholePart s).length ≤ limit := by
          rw [Option.mem_def.mp hlimit] at hshort
          simpa using hshort
        refine Nat.le_trans ?_ hlength
        have habs : (if negative = true then -(Numeral.digitsValue 0 (wholePart s) : Int)
            else Numeral.digitsValue 0 (wholePart s)).natAbs
              = Numeral.digitsValue 0 (wholePart s) := by
          split <;> omega
        have hpos : 0 < (wholePart s).length := List.length_pos_iff.mpr (by simpa using hsome)
        rw [integerDigits, habs, Digits.count, Nat.length_toDigits_le_iff (by decide) hpos]
        simpa using digitsValue_lt (fun c => isDigit_of_mem_wholePart) 0
    · obtain ⟨rfl, -⟩ := Prod.mk.inj (Except.ok.inj (Option.some.inj h))
      exact Nat.zero_le limit

theorem integerDigits_of_number? {most : Option Nat} {n : Number}
    (h : number? most s = some (.ok (n, rest))) : ∀ limit ∈ most, integerDigits n ≤ limit := by
  unfold number? at h
  split at h <;> exact integerDigits_of_unsigned? h

theorem Limits.allow_of_word? (h : word? s = some (v, rest)) : limits.Allow v := by
  unfold word? at h
  split at h
  case h_7 => cases h
  all_goals
    cases h
    exact allow_single rfl fun _ => rfl

/-- What the three readers yield is allowed by their limits, as far as the fuel goes. -/
structure ReaderAllows (fuel : Nat) : Prop where
  value : ∀ limits s v rest, Json.value limits fuel s = .ok (v, rest) → limits.Allow v
  elements : ∀ limits s v rest, Json.elements limits fuel s = .ok (v, rest) →
    ∃ items, v = .arr items ∧ ∀ item ∈ items, limits.Allow item
  members : ∀ limits before s v rest, Json.members limits fuel before s = .ok (v, rest) →
    (∀ entry ∈ before, limits.Allow entry.2) →
    ∃ entries : Entries Json, v = .obj entries ∧ ∀ entry ∈ entries, limits.Allow entry.2

namespace ReaderAllows

theorem value_succ (h : ReaderAllows fuel)
    (hread : Json.value limits (fuel + 1) s = .ok (v, rest)) :
    limits.Allow v := by
  unfold Json.value at hread
  split at hread
  · obtain ⟨⟨name, after⟩, -, hstr⟩ := map_eq_ok.mp hread
    cases hstr
    exact Limits.allow_single rfl fun _ => rfl
  · split at hread
    · cases hread
    · rename_i inner hinner
      split at hread
      · cases hread
        exact Limits.allow_obj hinner (List.forall_mem_nil _)
      · obtain ⟨entries, rfl, hentries⟩ := h.members inner _ _ _ _ hread (List.forall_mem_nil _)
        exact Limits.allow_obj hinner hentries
  · split at hread
    · cases hread
    · rename_i inner hinner
      split at hread
      · cases hread
        exact Limits.allow_arr hinner (List.forall_mem_nil _)
      · obtain ⟨items, rfl, hitems⟩ := h.elements inner _ _ _ hread
        exact Limits.allow_arr hinner hitems
  · split at hread
    · rename_i found hfound
      cases hread
      exact Limits.allow_of_word? hfound
    · split at hread
      · rename_i found hfound
        obtain ⟨⟨n, after⟩, rfl, hnum⟩ := map_eq_ok.mp hread
        cases hnum
        exact Limits.allow_num (integerDigits_of_number? hfound)
      · cases hread

theorem elements_succ (h : ReaderAllows fuel)
    (hread : Json.elements limits (fuel + 1) s = .ok (v, rest)) :
    ∃ items, v = .arr items ∧ ∀ item ∈ items, limits.Allow item := by
  unfold Json.elements at hread
  split at hread
  · cases hread
  · rename_i item after hitem
    have hfirst := h.value limits s item after hitem
    split at hread
    · cases hread
      exact ⟨[item], rfl, List.forall_mem_singleton.mpr hfirst⟩
    · split at hread
      · rename_i items last hrest
        cases hread
        obtain ⟨more, hmore, hallow⟩ := h.elements limits _ _ _ hrest
        cases hmore
        exact ⟨item :: items, rfl, List.forall_mem_cons.mpr ⟨hfirst, hallow⟩⟩
      · rename_i hother
        obtain ⟨items, rfl, -⟩ := h.elements limits _ _ _ hread
        exact absurd hread (hother items rest)
    · cases hread

theorem members_succ (h : ReaderAllows fuel) {before : Entries Json}
    (hread : Json.members limits (fuel + 1) before s = .ok (v, rest))
    (hbefore : ∀ entry ∈ before, limits.Allow entry.2) :
    ∃ entries : Entries Json, v = .obj entries ∧ ∀ entry ∈ entries, limits.Allow entry.2 := by
  unfold Json.members at hread
  split at hread
  · split at hread
    · cases hread
    · rename_i name _ _
      split at hread
      · split at hread
        · cases hread
        · rename_i item after hitem
          dsimp only at hread
          have hall : ∀ entry ∈ before.put name item, limits.Allow entry.2 :=
            Entries.forall_put name hbefore (h.value limits _ item after hitem)
          split at hread
          · cases hread
            exact ⟨_, rfl, hall⟩
          · exact h.members limits _ _ _ _ hread hall
          · cases hread
      · cases hread
  · cases hread

end ReaderAllows

theorem readerAllows (fuel : Nat) : ReaderAllows fuel := by
  induction fuel with
  | zero => exact ⟨nofun, nofun, nofun⟩
  | succ fuel ih =>
      exact ⟨fun _ _ _ _ => ih.value_succ, fun _ _ _ _ => ih.elements_succ,
        fun _ _ _ _ _ => ih.members_succ⟩

/-- What a document holds is within the limits that it is read within. -/
theorem allow_of_readWithin {document : String} (h : readWithin limits document = .ok v) :
    limits.Allow v := by
  unfold readWithin at h
  dsimp only at h
  split at h
  · cases h
  · split at h
    · cases h
    · rename_i found rest hvalue
      split at h
      · cases h
        exact (readerAllows _).value limits _ _ _ hvalue
      · cases h

/-- What a document holds has a text where there is room for one level more than it is read with. -/
theorem hasText_of_readWithin {document : String} {levels : Nat}
    (h : readWithin ⟨some maxIntegerDigits, some levels⟩ document = .ok v) :
    v.hasText (levels + 1) = true := by
  have hallow := allow_of_readWithin h
  exact IsShowable.hasText ⟨hallow.digits _ rfl, hallow.levels _ rfl⟩

end Limits

end Json

end Questionnaire
