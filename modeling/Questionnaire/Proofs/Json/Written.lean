import Questionnaire.Proofs.Json.Numeral
import Questionnaire.Proofs.Json.Quoted
import Questionnaire.Proofs.Number.Numerals

/-!
Documents that have been written are read back as the data they were written of, with the entries of
one name merged, as long as no integer has more digits than are read.  So no two data without
repeated names have one document, and what is written on one line is one line.
-/

namespace Questionnaire.Json

open Numeral

/-- A style that separates items by commas and names by colons, with gaps after them. -/
structure WriteStyle.Separates (style : WriteStyle) : Prop where
  items : ∃ gap, style.itemGap = ',' :: gap ∧ ∀ c ∈ gap, c = ' '
  names : ∃ gap, style.nameGap = ':' :: gap ∧ ∀ c ∈ gap, c = ' '

theorem separates_compact : WriteStyle.compact.Separates := ⟨⟨[], rfl, nofun⟩, ⟨[], rfl, nofun⟩⟩

theorem separates_line : WriteStyle.line.Separates :=
  ⟨⟨[' '], rfl, by simp⟩, ⟨[' '], rfl, by simp⟩⟩

variable {most : Option Nat} {style : WriteStyle} {s rest : List Char}

/-- The characters begin with what is no gap, closes nothing and is no mark of an encoding. -/
def BeginsValue (s : List Char) : Prop :=
  ∃ c tail, s = c :: tail ∧ isGap c = false ∧ c ≠ ']' ∧ c ≠ '}' ∧ c ≠ '\uFEFF'

/-- What stands after a value inside a list or an object, or at the end. -/
def EndsValue (rest : List Char) : Prop := ∀ c ∈ rest.head?, c = ',' ∨ c = ']' ∨ c = '}'

theorem EndsValue.endsNumber (h : EndsValue rest) : EndsNumber rest := by
  intro c hc
  rcases h c hc with rfl | rfl | rfl <;> decide

theorem BeginsValue.skipGap_append (h : BeginsValue s) {gap : List Char}
    (hgap : ∀ c ∈ gap, c = ' ') : skipGap (gap ++ s) = s := by
  obtain ⟨c, tail, rfl, hc, -⟩ := h
  have hall : ∀ c ∈ gap, isGap c = true := fun c hblank => by rw [hgap c hblank]; rfl
  rw [skipGap, List.dropWhile_append_of_pos hall, List.dropWhile_cons_of_neg (by simp [hc])]

theorem BeginsValue.skipGap (h : BeginsValue s) : skipGap s = s :=
  h.skipGap_append (List.forall_mem_nil (· = ' '))

theorem skipGap_cons {c : Char} (h : isGap c = false) (tail : List Char) :
    Json.skipGap (c :: tail) = c :: tail := List.dropWhile_cons_of_neg (by simp [h])

theorem BeginsValue.append (h : BeginsValue s) (rest : List Char) : BeginsValue (s ++ rest) := by
  obtain ⟨c, tail, rfl, hc⟩ := h
  exact ⟨c, tail ++ rest, rfl, hc⟩

theorem beginsValue_writeText (ascii : Bool) (name : String) : BeginsValue (writeText ascii name) :=
  ⟨'"', _, rfl, by decide⟩

theorem beginsValue_writeNumber (n : Number) : BeginsValue (writeNumber n) := by
  have hsigned {body : List Char} (negative : Bool) (h : BeginsWithDigit body) :
      BeginsValue (if negative then '-' :: body else body) := by
    obtain ⟨c, tail, rfl, hc⟩ := h
    cases negative with
    | true => exact ⟨'-', c :: tail, rfl, by decide⟩
    | false =>
        have hne {d : Char} (hd : isDigit d = false) : c ≠ d := ne_of_isDigit hc hd
        refine ⟨c, tail, rfl, ?_, hne (by decide), hne (by decide), hne (by decide)⟩
        simp [isGap, hne (d := ' ') (by decide), hne (d := '\t') (by decide),
          hne (d := '\n') (by decide), hne (d := '\r') (by decide)]
  cases n with
  | int i =>
      rw [writeNumber_int]
      exact hsigned _ (isWhole_toDigits i.natAbs).beginsWithDigit
  | float x =>
      cases x with
      | nan => exact ⟨'N', _, rfl, by decide⟩
      | infinite negative =>
          cases negative
          · exact ⟨'I', _, rfl, by decide⟩
          · exact ⟨'-', _, rfl, by decide⟩
      | finite negative units fits =>
          rw [writeNumber_finite]
          exact hsigned negative (isFractional_shortest fits).beginsWithDigit

theorem beginsValue_write (style : WriteStyle) (v : Json) : BeginsValue (write style v) := by
  cases v with
  | null => exact ⟨'n', _, rfl, by decide⟩
  | bool value =>
      cases value
      · exact ⟨'f', _, rfl, by decide⟩
      · exact ⟨'t', _, rfl, by decide⟩
  | num value => exact beginsValue_writeNumber value
  | str value => exact beginsValue_writeText style.ascii value
  | arr items => cases items <;> exact ⟨'[', _, rfl, by decide⟩
  | obj entries =>
      cases entries with
      | nil => exact ⟨'\x7b', _, rfl, by decide⟩
      | cons entry entries => exact ⟨'\x7b', _, rfl, by decide⟩

/-- What is written of the data is read back, whatever follows it. -/
def IsReadBack (most : Option Nat) (style : WriteStyle) (v : Json) : Prop :=
  ∀ fuel rest, (write style v).length ≤ fuel → EndsValue rest →
    value ⟨most, none⟩ fuel (write style v ++ rest) = .ok (v.merged, rest)

theorem endsValue_cons {c : Char} (h : c = ',' ∨ c = ']' ∨ c = '}') (tail : List Char) :
    EndsValue (c :: tail) := by
  rintro _ ⟨⟩
  exact h

/-- The items of a list are read up to the closing bracket, which is read as well. -/
theorem elements_write (hstyle : style.Separates) {item : Json} {items : List Json}
    (h : ∀ v ∈ item :: items, IsReadBack most style v) {fuel : Nat}
    (hfuel : (write style item).length + (writeItems style items).length ≤ fuel)
    (rest : List Char) :
    elements ⟨most, none⟩ fuel (write style item ++ (writeItems style items ++ rest))
      = .ok (.arr (mergedItems (item :: items)), rest) := by
  have hitem := h item List.mem_cons_self
  induction items generalizing item fuel with
  | nil =>
      change (write style item).length + 1 ≤ fuel at hfuel
      obtain ⟨fuel, rfl⟩ := Nat.exists_eq_add_of_le' (show 1 ≤ fuel by omega)
      have hread := hitem fuel (']' :: rest) (by omega) (endsValue_cons (by simp) rest)
      change elements ⟨most, none⟩ (fuel + 1) (write style item ++ ']' :: rest) = _
      rw [elements, hread]
      rfl
  | cons next items ih =>
      obtain ⟨gap, hgap, hblank⟩ := hstyle.items
      have hwritten : writeItems style (next :: items)
          = ',' :: (gap ++ (write style next ++ writeItems style items)) := by
        rw [writeItems, hgap]
        simp
      rw [hwritten] at hfuel ⊢
      simp only [List.length_cons, List.length_append] at hfuel
      obtain ⟨fuel, rfl⟩ := Nat.exists_eq_add_of_le' (show 1 ≤ fuel by omega)
      have hread := hitem fuel
          (',' :: (gap ++ (write style next ++ (writeItems style items ++ rest))))
        (by omega) (endsValue_cons (by simp) _)
      have hrest : elements ⟨most, none⟩ fuel (write style next ++ (writeItems style items ++ rest))
          = .ok (.arr (mergedItems (next :: items)), rest) :=
        ih (fun v hv => h v (List.mem_cons_of_mem item hv)) (by omega) (h next (by simp))
      have hskip := ((beginsValue_write style next).append
        (writeItems style items ++ rest)).skipGap_append hblank
      simp only [List.cons_append, List.append_assoc]
      rw [elements, hread]
      dsimp only
      rw [skipGap_cons rfl]
      simp only [hskip, hrest]
      rfl

/-- A name and its value are read, and then what follows a comma, if there is one. -/
theorem members_write_entry (hstyle : style.Separates) (name : String) {item : Json}
    (before : Entries Json) (hitem : IsReadBack most style item) {fuel : Nat}
    (hfuel : (write style item).length ≤ fuel) {c : Char} (hc : c = ',' ∨ c = '\x7d')
    (tail : List Char) :
    members ⟨most, none⟩ (fuel + 1) before
        (writeText style.ascii name ++ (style.nameGap ++ (write style item ++ c :: tail)))
      = if c = ',' then members ⟨most, none⟩ fuel (before.put name item.merged) (skipGap tail)
        else .ok (.obj (before.put name item.merged), tail) := by
  obtain ⟨gap, hgap, hblank⟩ := hstyle.names
  have hskip := ((beginsValue_write style item).append (c :: tail)).skipGap_append hblank
  have hread := hitem fuel (c :: tail) hfuel (endsValue_cons (by tauto) tail)
  rw [hgap, writeText]
  simp only [List.cons_append, List.append_assoc, List.nil_append]
  rw [members, text_flatMap_writeChar]
  dsimp only
  rw [skipGap_cons rfl]
  simp only [hskip, hread]
  rcases hc with rfl | rfl <;> rfl

/-- The entries of an object are read up to the closing brace, into those already read. -/
theorem members_write (hstyle : style.Separates) {name : String} {item : Json}
    {entries : Entries Json} (before : Entries Json)
    (h : ∀ entry ∈ (name, item) :: entries, IsReadBack most style entry.2) {fuel : Nat}
    (hfuel : (write style item).length + (writeEntries style entries).length ≤ fuel)
    (rest : List Char) :
    members ⟨most, none⟩ fuel before (writeText style.ascii name ++ (style.nameGap
        ++ (write style item ++ (writeEntries style entries ++ rest))))
      = .ok (.obj (mergedEntries before ((name, item) :: entries)), rest) := by
  have hitem : IsReadBack most style item := h (name, item) List.mem_cons_self
  induction entries generalizing name item before fuel with
  | nil =>
      change (write style item).length + 1 ≤ fuel at hfuel
      obtain ⟨fuel, rfl⟩ := Nat.exists_eq_add_of_le' (show 1 ≤ fuel by omega)
      exact members_write_entry hstyle name before hitem (by omega) (.inr rfl) rest
  | cons next entries ih =>
      obtain ⟨other, value⟩ := next
      obtain ⟨gap, hgap, hblank⟩ := hstyle.items
      have hwritten : writeEntries style ((other, value) :: entries)
          = ',' :: (gap ++ (writeText style.ascii other ++ (style.nameGap
            ++ (write style value ++ writeEntries style entries)))) := by
        rw [writeEntries, hgap]
        simp
      rw [hwritten] at hfuel ⊢
      simp only [List.length_cons, List.length_append] at hfuel
      obtain ⟨fuel, rfl⟩ := Nat.exists_eq_add_of_le' (show 1 ≤ fuel by omega)
      have hskip := ((beginsValue_writeText style.ascii other).append (style.nameGap
        ++ (write style value ++ (writeEntries style entries ++ rest)))).skipGap_append hblank
      simp only [List.cons_append, List.append_assoc]
      rw [members_write_entry hstyle name before hitem (by omega) (.inl rfl), if_pos rfl, hskip]
      exact ih _ (fun entry hentry => h entry (List.mem_cons_of_mem _ hentry)) (by omega)
        (h (other, value) (by simp))

/-- After a bracket that is not closed at once there are items. -/
theorem value_bracket (h : BeginsValue s) (fuel : Nat) :
    value ⟨most, none⟩ (fuel + 1) ('[' :: s) = elements ⟨most, none⟩ fuel s := by
  rw [value, h.skipGap]
  obtain ⟨c, tail, rfl, -, hclosed, -⟩ := h
  dsimp only [Limits.inner?]
  split
  · rename_i heq
    exact absurd (List.cons.inj heq).1 hclosed
  · rfl

/-- After a brace that is not closed at once there are entries. -/
theorem value_brace (h : BeginsValue s) (fuel : Nat) :
    value ⟨most, none⟩ (fuel + 1) ('\x7b' :: s) = members ⟨most, none⟩ fuel [] s := by
  rw [value, h.skipGap]
  obtain ⟨c, tail, rfl, -, -, hclosed, -⟩ := h
  dsimp only [Limits.inner?]
  split
  · rename_i heq
    exact absurd (List.cons.inj heq).1 hclosed
  · rfl

/-- Something is written of all data, so that there is fuel to read it. -/
theorem exists_fuel {v : Json} {fuel : Nat} (h : (write style v).length ≤ fuel) :
    ∃ more, fuel = more + 1 := by
  obtain ⟨c, tail, hwritten, -⟩ := beginsValue_write style v
  rw [hwritten, List.length_cons] at h
  exact Nat.exists_eq_add_of_le' (Nat.le_trans (Nat.le_add_left 1 _) h)

theorem isReadBack_single {v : Json} (hsingle : v.isSingle = true)
    (hmost : ∀ limit ∈ most, v.hasDigitsWithin limit = true) : IsReadBack most style v := by
  intro fuel rest hfuel hrest
  obtain ⟨fuel, rfl⟩ := exists_fuel hfuel
  rw [merged_single hsingle]
  cases v with
  | null => rfl
  | bool value => cases value <;> rfl
  | num n =>
      apply value_writeNumber _ hrest.endsNumber fuel
      exact fun limit hlimit => of_decide_eq_true (hmost limit hlimit)
  | str s =>
      change value ⟨most, none⟩ (fuel + 1) (writeText style.ascii s ++ rest) = _
      rw [writeText]
      simp only [List.cons_append, List.append_assoc, List.nil_append]
      rw [value, text_flatMap_writeChar]
      rfl
  | arr items => cases hsingle
  | obj entries => cases hsingle

theorem isReadBack_arr (hstyle : style.Separates) {items : List Json}
    (h : ∀ item ∈ items, IsReadBack most style item) : IsReadBack most style (.arr items) := by
  intro fuel rest hfuel hrest
  obtain ⟨fuel, rfl⟩ := exists_fuel hfuel
  cases items with
  | nil => rfl
  | cons item items =>
      rw [write] at hfuel ⊢
      simp only [List.cons_append, List.append_assoc, List.length_cons,
        List.length_append] at hfuel ⊢
      have hbegins := (beginsValue_write style item).append (writeItems style items ++ rest)
      rw [value_bracket hbegins]
      exact elements_write hstyle h (by omega) rest

theorem isReadBack_obj (hstyle : style.Separates) {entries : Entries Json}
    (h : ∀ entry ∈ entries, IsReadBack most style entry.2) :
    IsReadBack most style (.obj entries) := by
  intro fuel rest hfuel hrest
  obtain ⟨fuel, rfl⟩ := exists_fuel hfuel
  cases entries with
  | nil => rfl
  | cons entry entries =>
      obtain ⟨name, item⟩ := entry
      rw [write] at hfuel ⊢
      simp only [List.cons_append, List.append_assoc, List.length_cons,
        List.length_append] at hfuel ⊢
      have hbegins := (beginsValue_writeText style.ascii name).append (style.nameGap
        ++ (write style item ++ (writeEntries style entries ++ rest)))
      rw [value_brace hbegins]
      exact members_write hstyle [] h (by omega) rest

/-- All data are read back, integers up to the limit. -/
theorem isReadBack (hstyle : style.Separates) {v : Json}
    (hmost : ∀ limit ∈ most, v.hasDigitsWithin limit = true) : IsReadBack most style v := by
  induction v using inductionOn with
  | single v hsingle => exact isReadBack_single hsingle hmost
  | arr items ih =>
      apply isReadBack_arr hstyle
      intro item hitem
      exact ih item hitem fun limit hlimit => hasDigitsWithin_arr.mp (hmost limit hlimit) item hitem
  | obj entries ih =>
      apply isReadBack_obj hstyle
      intro entry hentry
      exact ih entry hentry
        fun limit hlimit => hasDigitsWithin_obj.mp (hmost limit hlimit) entry hentry

/-- A document of data is read as the data. -/
theorem readWithin_write (hstyle : style.Separates) {v : Json}
    (hmost : ∀ limit ∈ most, v.hasDigitsWithin limit = true) :
    readWithin ⟨most, none⟩ (String.ofList (write style v)) = .ok v.merged := by
  have hread := isReadBack hstyle hmost ((write style v).length + 1) [] (Nat.le_succ _) nofun
  have hbegins := beginsValue_write style v
  rw [List.append_nil] at hread
  rw [readWithin, String.toList_ofList]
  obtain ⟨c, tail, hwritten, -, -, -, hmark⟩ := hbegins
  split
  · rename_i heq
    rw [hwritten] at heq
    exact absurd (List.cons.inj heq).1 hmark
  · rw [(beginsValue_write style v).skipGap, hread]
    rfl

/-- No two data without repeated names have one document. -/
theorem write_injective (hstyle : style.Separates) {v w : Json} (hv : v.hasDistinctNames = true)
    (hw : w.hasDistinctNames = true) (h : write style v = write style w) : v = w := by
  have hread (v : Json) (hv : v.hasDistinctNames = true) :
      readWithin ⟨none, none⟩ (String.ofList (write style v)) = .ok v := by
    have hmost : ∀ limit ∈ (none : Option Nat), v.hasDigitsWithin limit = true := nofun
    rw [readWithin_write hstyle hmost, merged_of_hasDistinctNames hv]
  exact Except.ok.inj ((hread v hv).symm.trans (h ▸ hread w hw))

/-- Data on one line are read back. -/
theorem read_writeLine {v : Json} (h : v.hasDigitsWithin maxIntegerDigits = true) :
    read (writeLine v) = .ok v.merged := by
  apply readWithin_write separates_line
  rintro _ ⟨⟩
  exact h

theorem isPrinted_of_isNumberChar {c : Char} (h : Number.isNumberChar c = true) : IsPrinted c := by
  rw [Number.isNumberChar, Bool.or_eq_true] at h
  rcases h with hdigit | hmark
  · exact Nat.le_trans (by decide) (toNat_of_isDigit hdigit).1
  · have hmarks : ∀ d ∈ ['+', '-', '.', 'e', 'i', 'n', 'f', 'a'], IsPrinted d :=
      isPrinted_of_all rfl
    exact hmarks c (of_decide_eq_true hmark)

theorem isPrinted_writeNumber (n : Number) : ∀ c ∈ writeNumber n, IsPrinted c := by
  have htext : ∀ c ∈ n.text.toList, IsPrinted c :=
    fun c hc => isPrinted_of_isNumberChar (n.isNumberChar_text c hc)
  cases n with
  | int i => exact htext
  | float x =>
      cases x with
      | nan => exact isPrinted_of_all rfl
      | infinite negative => cases negative <;> exact isPrinted_of_all rfl
      | finite negative units fits => exact htext

/-- Gaps hold no control character. -/
theorem WriteStyle.Separates.isPrinted (hstyle : style.Separates) :
    (∀ c ∈ style.itemGap, IsPrinted c) ∧ ∀ c ∈ style.nameGap, IsPrinted c := by
  have hgap {mark : Char} {gap : List Char} (hmark : IsPrinted mark) (hblank : ∀ c ∈ gap, c = ' ') :
      ∀ c ∈ mark :: gap, IsPrinted c :=
    List.forall_mem_cons.mpr ⟨hmark, fun c hc => hblank c hc ▸ (by decide : IsPrinted ' ')⟩
  obtain ⟨itemGap, hitems, hitemBlank⟩ := hstyle.items
  obtain ⟨nameGap, hnames, hnameBlank⟩ := hstyle.names
  rw [hitems, hnames]
  exact ⟨hgap (by decide) hitemBlank, hgap (by decide) hnameBlank⟩

theorem isPrinted_writeItems (hstyle : style.Separates) {items : List Json}
    (h : ∀ item ∈ items, ∀ c ∈ write style item, IsPrinted c) :
    ∀ c ∈ writeItems style items, IsPrinted c := by
  induction items with
  | nil => exact isPrinted_of_all rfl
  | cons item items ih =>
      obtain ⟨hitem, hitems⟩ := List.forall_mem_cons.mp h
      rw [writeItems]
      exact List.forall_mem_append.mpr
        ⟨List.forall_mem_append.mpr ⟨hstyle.isPrinted.1, hitem⟩, ih hitems⟩

theorem isPrinted_writeEntries (hstyle : style.Separates) {entries : Entries Json}
    (h : ∀ entry ∈ entries, ∀ c ∈ write style entry.2, IsPrinted c) :
    ∀ c ∈ writeEntries style entries, IsPrinted c := by
  induction entries with
  | nil => exact isPrinted_of_all rfl
  | cons entry entries ih =>
      obtain ⟨name, item⟩ := entry
      obtain ⟨hitem, hentries⟩ := List.forall_mem_cons.mp h
      rw [writeEntries]
      simp only [List.forall_mem_append]
      exact ⟨⟨⟨⟨hstyle.isPrinted.1, isPrinted_writeText style.ascii name⟩, hstyle.isPrinted.2⟩,
        hitem⟩, ih hentries⟩

/-- What is written in one line holds no control character. -/
theorem isPrinted_write (hstyle : style.Separates) (v : Json) :
    ∀ c ∈ write style v, IsPrinted c := by
  induction v using inductionOn with
  | single v hsingle =>
      cases v with
      | null => exact isPrinted_of_all rfl
      | bool value => cases value <;> exact isPrinted_of_all rfl
      | num n => exact isPrinted_writeNumber n
      | str s => exact isPrinted_writeText style.ascii s
      | arr items => cases hsingle
      | obj entries => cases hsingle
  | arr items ih =>
      cases items with
      | nil => exact isPrinted_of_all rfl
      | cons item items =>
          obtain ⟨hitem, hitems⟩ := List.forall_mem_cons.mp ih
          rw [write]
          simp only [List.forall_mem_append, List.forall_mem_cons]
          exact ⟨⟨by decide, hitem⟩, isPrinted_writeItems hstyle hitems⟩
  | obj entries ih =>
      cases entries with
      | nil => exact isPrinted_of_all rfl
      | cons entry entries =>
          obtain ⟨name, item⟩ := entry
          obtain ⟨hitem, hentries⟩ := List.forall_mem_cons.mp ih
          rw [write]
          simp only [List.forall_mem_append, List.forall_mem_cons]
          exact ⟨⟨⟨⟨by decide, isPrinted_writeText style.ascii name⟩, hstyle.isPrinted.2⟩, hitem⟩,
            isPrinted_writeEntries hstyle hentries⟩

/-- Data on one line have no line break in them. -/
theorem not_mem_writeLine (v : Json) : '\n' ∉ (writeLine v).toList := by
  rw [writeLine, String.toList_ofList]
  intro hbreak
  exact absurd (isPrinted_write separates_line v '\n' hbreak) (by decide)

end Questionnaire.Json
