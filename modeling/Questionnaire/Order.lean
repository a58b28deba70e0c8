/-!
Sorting.  The longest run at the front that is in order, or in reverse order, is kept; every later
element finds its place in it by bisection.  Elements that are not told apart keep their order.
-/

namespace Questionnaire

variable {α : Type}

/-- The longest run at the front in which every element leads to the next, and the rest. -/
def leadingChain (leads : α → α → Bool) (first : α) : List α → List α × List α
  | [] => ([first], [])
  | next :: rest =>
    if leads first next then
      let (chain, left) := leadingChain leads next rest
      (first :: chain, left)
    else ([first], next :: rest)

/-- The longest sorted run at the front, and the rest.  A run that descends at every step is turned
around. -/
def leadingRun (below : α → α → Bool) : List α → List α × List α
  | [] => ([], [])
  | [x] => ([x], [])
  | x :: y :: rest =>
    if below y x then
      let (run, left) := leadingChain (fun a b => below b a) x (y :: rest)
      (run.reverse, left)
    else leadingChain (fun a b => !below b a) x (y :: rest)

/-- Places an element by bisection: before the middle of the list if it is below that, else behind
it. -/
def insertBy (below : α → α → Bool) (x : α) (sorted : List α) : List α :=
  match _split : sorted.drop (sorted.length / 2) with
  | [] => [x]
  | middle :: back =>
    if below x middle then
      insertBy below x (sorted.take (sorted.length / 2)) ++ middle :: back
    else sorted.take (sorted.length / 2) ++ middle :: insertBy below x back
termination_by sorted.length
decreasing_by
  · have hlength := congrArg List.length ‹sorted.drop _ = _›
    simp only [List.length_drop, List.length_cons] at hlength
    rw [List.length_take]
    omega
  · have hlength := congrArg List.length ‹sorted.drop _ = _›
    simp only [List.length_drop, List.length_cons] at hlength
    omega

/-- The elements in ascending order, the first of equals first. -/
def sortBy (below : α → α → Bool) (xs : List α) : List α :=
  let (run, rest) := leadingRun below xs
  rest.foldl (fun sorted x => insertBy below x sorted) run

/-- Texts in the order of their code points. -/
def textBelow (a b : String) : Bool := decide (a < b)

@[simp] theorem sortBy_nil (below : α → α → Bool) : sortBy below [] = [] := rfl

theorem leadingChain_append (leads : α → α → Bool) (first : α) (rest : List α) :
    (leadingChain leads first rest).1 ++ (leadingChain leads first rest).2 = first :: rest := by
  induction rest generalizing first with
  | nil => rfl
  | cons next rest ih =>
    simp only [leadingChain]
    split
    · simp [ih next]
    · rfl

theorem leadingRun_perm (below : α → α → Bool) (xs : List α) :
    ((leadingRun below xs).1 ++ (leadingRun below xs).2).Perm xs := by
  fun_cases leadingRun below xs with
  | case1 => exact List.Perm.refl _
  | case2 x => exact List.Perm.refl _
  | case3 x y rest h run left hrun =>
    have hchain := leadingChain_append (fun a b => below b a) x (y :: rest)
    rw [hrun] at hchain
    exact (run.reverse_perm.append_right left).trans (hchain ▸ List.Perm.refl _)
  | case4 x y rest h =>
    exact leadingChain_append (fun a b => !below b a) x (y :: rest) ▸ List.Perm.refl _

theorem insertBy_perm (below : α → α → Bool) (x : α) (sorted : List α) :
    (insertBy below x sorted).Perm (x :: sorted) := by
  fun_induction insertBy below x sorted with
  | case1 sorted h =>
    have hlength := congrArg List.length ‹sorted.drop _ = _›
    simp only [List.length_drop, List.length_nil] at hlength
    have hnil : sorted = [] := List.length_eq_zero_iff.1 (by omega)
    rw [hnil]
  | case2 sorted middle back h _ ih =>
    have hsplit := List.take_append_drop (sorted.length / 2) sorted
    rw [h] at hsplit
    exact (ih.append_right (middle :: back)).trans (by rw [List.cons_append, hsplit])
  | case3 sorted middle back h _ ih =>
    have hsplit := List.take_append_drop (sorted.length / 2) sorted
    rw [h] at hsplit
    have hback := (ih.cons middle).trans (List.Perm.swap x middle back)
    exact (hback.append_left _).trans (List.perm_middle.trans (by rw [hsplit]))

theorem foldl_insertBy_perm (below : α → α → Bool) (xs sorted : List α) :
    (xs.foldl (fun acc x => insertBy below x acc) sorted).Perm (sorted ++ xs) := by
  induction xs generalizing sorted with
  | nil => simp
  | cons x rest ih =>
    have hplaced := (insertBy_perm below x sorted).append_right rest
    exact (ih (insertBy below x sorted)).trans (hplaced.trans List.perm_middle.symm)

/-- Sorting loses and adds nothing. -/
theorem sortBy_perm (below : α → α → Bool) (xs : List α) : (sortBy below xs).Perm xs :=
  (foldl_insertBy_perm below _ _).trans (leadingRun_perm below xs)

theorem leadingChain_pairwise (leads : α → α → Bool) (before : α → α → Prop)
    (himp : ∀ a b, leads a b = true → before a b)
    (htrans : ∀ a b c, before a b → before b c → before a c) (first : α) (rest : List α) :
    (∀ b ∈ (leadingChain leads first rest).1, first = b ∨ before first b)
      ∧ (leadingChain leads first rest).1.Pairwise before := by
  induction rest generalizing first with
  | nil => simp [leadingChain]
  | cons next rest ih =>
    simp only [leadingChain]
    split
    · rename_i hleads
      have hfirst := himp first next hleads
      have hchain := ih next
      have hall : ∀ b ∈ (leadingChain leads next rest).1, before first b := by
        intro b hb
        rcases hchain.1 b hb with rfl | hnext
        · exact hfirst
        · exact htrans first next b hfirst hnext
      constructor
      · intro b hb
        rcases List.mem_cons.1 hb with rfl | hb
        · exact Or.inl rfl
        · exact Or.inr (hall b hb)
      · exact List.pairwise_cons.2 ⟨hall, hchain.2⟩
    · simp

section Ordered

/-- In order, and of two that are not told apart the earlier one first. -/
def StandsBefore (below : α → α → Bool) (earlier : α → α → Prop) (a b : α) : Prop :=
  below b a = false ∧ (below a b = false → earlier a b)

variable {below : α → α → Bool} {earlier : α → α → Prop}

variable (below) in
/-- The run at the front is made of what stands before the rest. -/
theorem leadingRun_earlier {xs : List α} (h : xs.Pairwise earlier) :
    (leadingRun below xs).2.Pairwise earlier
      ∧ ∀ x ∈ (leadingRun below xs).1, ∀ y ∈ (leadingRun below xs).2, earlier x y := by
  fun_cases leadingRun below xs with
  | case1 => simp
  | case2 x => simp
  | case3 x y rest hbelow run left hrun =>
    have hsplit := leadingChain_append (fun a b => below b a) x (y :: rest)
    rw [hrun] at hsplit
    rw [← hsplit, List.pairwise_append] at h
    exact ⟨h.2.1, fun a ha b hb => h.2.2 a (List.mem_reverse.1 ha) b hb⟩
  | case4 x y rest hbelow =>
    have hsplit := leadingChain_append (fun a b => !below b a) x (y :: rest)
    rw [← hsplit, List.pairwise_append] at h
    exact ⟨h.2.1, h.2.2⟩

variable (hasymm : ∀ a b, below a b = true → below b a = false)
  (htrans : ∀ a b c, below b a = false → below c b = false → below c a = false)

include hasymm htrans

theorem leadingRun_pairwise {xs : List α} (h : xs.Pairwise earlier) :
    (leadingRun below xs).1.Pairwise (StandsBefore below earlier) := by
  fun_cases leadingRun below xs with
  | case1 => simp
  | case2 x => simp
  | case3 x y rest hbelow run left hrun =>
    have hdescends (a b c : α) (hab : below b a = true) (hbc : below c b = true) :
        below c a = true := by
      cases hca : below c a with
      | true => rfl
      | false => simp [htrans b a c (hasymm b a hab) hca] at hbc
    have hchain := (leadingChain_pairwise (fun a b => below b a) (fun a b => below b a = true)
      (fun _ _ h => h) hdescends x (y :: rest)).2
    rw [hrun] at hchain
    -- in a run that descends at every step no two elements are alike
    refine List.pairwise_reverse.2 (hchain.imp fun hab => ⟨hasymm _ _ hab, fun hba => ?_⟩)
    rw [hab] at hba
    cases hba
  | case4 x y rest hbelow =>
    have hsplit := leadingChain_append (fun a b => !below b a) x (y :: rest)
    rw [← hsplit, List.pairwise_append] at h
    have hchain := (leadingChain_pairwise (fun a b => !below b a) (fun a b => below b a = false)
      (fun _ _ h => by simpa using h) htrans x (y :: rest)).2
    exact hchain.imp₂ (fun _ _ hab hearlier => ⟨hab, fun _ => hearlier⟩) h.1

theorem insertBy_pairwise (x : α) (sorted : List α)
    (hsorted : sorted.Pairwise (StandsBefore below earlier)) (hx : ∀ a ∈ sorted, earlier a x) :
    (insertBy below x sorted).Pairwise (StandsBefore below earlier) := by
  fun_induction insertBy below x sorted with
  | case1 sorted h => simp
  | case2 sorted middle back h hbelow ih =>
    rw [← List.take_append_drop (sorted.length / 2) sorted, h, List.pairwise_append] at hsorted
    obtain ⟨hfront, hback, hacross⟩ := hsorted
    have hall (b : α) (hb : b ∈ middle :: back) : below x b = true := by
      rcases List.mem_cons.1 hb with rfl | hb
      · exact hbelow
      · cases hxb : below x b with
        | true => rfl
        | false => simp [htrans _ _ _ ((List.pairwise_cons.1 hback).1 b hb).1 hxb] at hbelow
    refine List.pairwise_append.2 ⟨ih hfront fun a ha => hx a (List.mem_of_mem_take ha), hback, ?_⟩
    intro a ha b hb
    rcases List.mem_cons.1 ((insertBy_perm below x _).mem_iff.1 ha) with rfl | ha
    · exact ⟨hasymm _ _ (hall b hb), fun hab => by simp [hall b hb] at hab⟩
    · exact hacross a ha b hb
  | case3 sorted middle back h hbelow ih =>
    rw [← List.take_append_drop (sorted.length / 2) sorted, h, List.pairwise_append,
      List.pairwise_cons] at hsorted
    obtain ⟨hfront, ⟨hmiddle, hback⟩, hacross⟩ := hsorted
    have hplace : below x middle = false := by simpa using hbelow
    have hdrop (a : α) (ha : a ∈ middle :: back) : earlier a x :=
      hx a (List.mem_of_mem_drop (h ▸ ha))
    have hrest := ih hback fun a ha => hdrop a (List.mem_cons_of_mem _ ha)
    refine List.pairwise_append.2 ⟨hfront, List.pairwise_cons.2 ⟨?_, hrest⟩, ?_⟩
    · intro b hb
      rcases List.mem_cons.1 ((insertBy_perm below x back).mem_iff.1 hb) with rfl | hb
      · exact ⟨hplace, fun _ => hdrop middle (List.mem_cons_self ..)⟩
      · exact hmiddle b hb
    · intro a ha b hb
      have hahead := hacross a ha middle (List.mem_cons_self ..)
      rcases List.mem_cons.1 hb with rfl | hb
      · exact hahead
      · rcases List.mem_cons.1 ((insertBy_perm below x back).mem_iff.1 hb) with rfl | hb
        · exact ⟨htrans _ _ _ hahead.1 hplace, fun _ => hx a (List.mem_of_mem_take ha)⟩
        · exact hacross a ha b (List.mem_cons_of_mem _ hb)

/-- No element stands behind one that it is below, and elements that are not told apart stand as
they stood. -/
theorem sortBy_stable {xs : List α} (h : xs.Pairwise earlier) :
    (sortBy below xs).Pairwise (StandsBefore below earlier) := by
  have hrun := leadingRun_pairwise hasymm htrans h
  obtain ⟨hrest, hacross⟩ := leadingRun_earlier below h
  unfold sortBy
  generalize leadingRun below xs = split at hrun hrest hacross
  obtain ⟨run, rest⟩ := split
  change (rest.foldl (fun sorted x => insertBy below x sorted) run).Pairwise _
  induction rest generalizing run with
  | nil => exact hrun
  | cons x rest ih =>
    obtain ⟨hx, hrest⟩ := List.pairwise_cons.1 hrest
    have hplaced := insertBy_pairwise hasymm htrans x run hrun
      fun a ha => hacross a ha x (List.mem_cons_self ..)
    refine ih _ hplaced hrest fun a ha y hy => ?_
    rcases List.mem_cons.1 ((insertBy_perm below x run).mem_iff.1 ha) with rfl | ha
    · exact hx y hy
    · exact hacross a ha y (List.mem_cons_of_mem _ hy)

/-- No element stands behind one that it is below. -/
theorem sortBy_pairwise (xs : List α) :
    (sortBy below xs).Pairwise fun a b => below b a = false := by
  have hall : xs.Pairwise fun _ _ => True := List.pairwise_of_forall fun _ _ => trivial
  exact (sortBy_stable hasymm htrans hall).imp fun h => h.1

end Ordered

theorem length_sortBy (below : α → α → Bool) (xs : List α) :
    (sortBy below xs).length = xs.length := (sortBy_perm below xs).length_eq

section Map

variable {β : Type} (below : α → α → Bool) (f : β → α)

theorem leadingChain_map (leads : α → α → Bool) (first : β) (rest : List β) :
    leadingChain leads (f first) (rest.map f)
      = Prod.map (List.map f) (List.map f)
        (leadingChain (fun a b => leads (f a) (f b)) first rest) := by
  induction rest generalizing first with
  | nil => rfl
  | cons next rest ih =>
    rw [List.map_cons, leadingChain, leadingChain, ih]
    split <;> rfl

theorem leadingRun_map (xs : List β) :
    leadingRun below (xs.map f)
      = Prod.map (List.map f) (List.map f)
        (leadingRun (fun a b => below (f a) (f b)) xs) := by
  match xs with
  | [] => rfl
  | [x] => rfl
  | x :: y :: rest =>
    have hdescending := leadingChain_map f (fun a b => below b a) x (y :: rest)
    have hascending := leadingChain_map f (fun a b => !below b a) x (y :: rest)
    rw [List.map_cons] at hdescending hascending
    rw [List.map_cons, List.map_cons, leadingRun, leadingRun, hdescending, hascending]
    split
    · simp [Prod.map, List.map_reverse]
    · rfl

/-- Placing an element in a list that has a middle. -/
theorem insertBy_of_drop {x : α} {sorted : List α} {middle : α} {back : List α}
    (h : sorted.drop (sorted.length / 2) = middle :: back) :
    insertBy below x sorted = if below x middle then
        insertBy below x (sorted.take (sorted.length / 2)) ++ middle :: back
      else sorted.take (sorted.length / 2) ++ middle :: insertBy below x back := by
  rw [insertBy]
  split
  · rename_i hnil
    rw [h] at hnil
    cases hnil
  · rename_i other rest hsplit
    rw [h] at hsplit
    obtain ⟨rfl, rfl⟩ := List.cons.inj hsplit
    rfl

theorem insertBy_map (x : β) (sorted : List β) :
    insertBy below (f x) (sorted.map f)
      = (insertBy (fun a b => below (f a) (f b)) x sorted).map f := by
  have hdrop (sorted : List β) : (sorted.map f).drop ((sorted.map f).length / 2)
      = (sorted.drop (sorted.length / 2)).map f := by
    rw [List.length_map, List.map_drop]
  fun_induction insertBy (fun a b => below (f a) (f b)) x sorted with
  | case1 sorted h =>
    have hlength := congrArg List.length h
    simp only [List.length_drop, List.length_nil] at hlength
    have hnil : sorted = [] := List.length_eq_zero_iff.1 (by omega)
    rw [hnil, List.map_nil, insertBy]
    split
    · rfl
    · rename_i hsplit
      simp at hsplit
  | case2 sorted middle back h hbelow ih =>
    rw [insertBy_of_drop below ((hdrop sorted).trans (congrArg (List.map f) h)), if_pos hbelow,
      List.length_map, ← List.map_take, ih, List.map_append]
    rfl
  | case3 sorted middle back h hbelow ih =>
    rw [insertBy_of_drop below ((hdrop sorted).trans (congrArg (List.map f) h)), if_neg hbelow,
      List.length_map, ← List.map_take]
    change _ ++ f middle :: insertBy below (f x) (back.map f) = _
    rw [ih, List.map_append]
    rfl

/-- Sorting what elements are taken to is taking them to it once they are sorted. -/
theorem sortBy_map (xs : List β) :
    sortBy below (xs.map f) = (sortBy (fun a b => below (f a) (f b)) xs).map f := by
  unfold sortBy
  rw [leadingRun_map]
  generalize leadingRun (fun a b => below (f a) (f b)) xs = split
  obtain ⟨run, rest⟩ := split
  change (rest.map f).foldl (fun sorted x => insertBy below x sorted) (run.map f)
    = (rest.foldl _ run).map f
  induction rest generalizing run with
  | nil => rfl
  | cons x rest ih =>
    rw [List.map_cons, List.foldl_cons, List.foldl_cons, insertBy_map, ih]

end Map

end Questionnaire
