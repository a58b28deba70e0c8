import Questionnaire.Proofs.Walk.Course

/-!
Two surveys with the same questions, of which the same ones are hidden at first, but with different
rules.  What a rule says about a question that was presented already is never asked for again, so
walks through the two surveys go abreast as long as the matching rules say the same about the other
questions and take the same turn.
-/

namespace Questionnaire

/-- Matching rules that take the same turn, and skip and reveal the same of the questions that were
not presented. -/
structure ActAlike (presented : List String) (as bs : List Rule) : Prop where
  turn_eq : Turn.of presented as = Turn.of presented bs
  skip_iff : ∀ id, id ∉ presented →
    ((∃ rule ∈ as, rule.action = .skip id) ↔ ∃ rule ∈ bs, rule.action = .skip id)
  reveal_iff : ∀ id, id ∉ presented →
    ((∃ rule ∈ as, rule.action = .reveal id) ↔ ∃ rule ∈ bs, rule.action = .reveal id)

theorem ActAlike.refl (presented : List String) (rules : List Rule) :
    ActAlike presented rules rules :=
  ⟨rfl, fun _ _ => Iff.rfl, fun _ _ => Iff.rfl⟩

theorem ActAlike.trans {presented : List String} {as bs cs : List Rule}
    (hab : ActAlike presented as bs) (hbc : ActAlike presented bs cs) :
    ActAlike presented as cs where
  turn_eq := hab.turn_eq.trans hbc.turn_eq
  skip_iff := fun id hid => (hab.skip_iff id hid).trans (hbc.skip_iff id hid)
  reveal_iff := fun id hid => (hab.reveal_iff id hid).trans (hbc.reveal_iff id hid)

theorem ActAlike.symm {presented : List String} {as bs : List Rule}
    (h : ActAlike presented as bs) : ActAlike presented bs as where
  turn_eq := h.turn_eq.symm
  skip_iff := fun id hid => (h.skip_iff id hid).symm
  reveal_iff := fun id hid => (h.reveal_iff id hid).symm

namespace Turn

/-- Where all jumps go to a question that was presented, a walk does not jump. -/
theorem of_eq_onward {presented : List String} {matched : List Rule} {target : String}
    (htarget : target ∈ presented)
    (hflow : ∀ rule ∈ matched, rule.action.isFlow = true → rule.action = .jump target) :
    of presented matched = .onward := by
  unfold of
  cases hfind : matched.find? (·.action.isFlow) with
  | none => rfl
  | some rule =>
      have hflows := List.find?_some hfind
      have haction := hflow rule (List.mem_of_find?_eq_some hfind) hflows
      dsimp only
      rw [haction]
      exact if_pos htarget

/-- Rules that do not decide where a walk goes on do not matter for its turn. -/
theorem of_append {presented : List String} {before inserted after : List Rule}
    (hflow : ∀ rule ∈ inserted, rule.action.isFlow = false) :
    of presented (before ++ inserted ++ after) = of presented (before ++ after) := by
  have hnone : inserted.find? (·.action.isFlow) = none := by
    rw [List.find?_eq_none]
    intro rule hrule
    simp [hflow rule hrule]
  rw [of, of, List.find?_append, List.find?_append, List.find?_append, hnone, Option.or_none]

end Turn

/-- Rules about a question that was presented make no difference, unless they jump where others
would end the survey or jump elsewhere. -/
theorem actAlike_append {presented : List String} {before inserted after : List Rule}
    {target : String} (htarget : target ∈ presented)
    (hself : ∀ rule ∈ inserted, rule.action.writtenTarget? = some target)
    (hflow : ∀ rule ∈ inserted, rule.action.isFlow = true →
      ∀ other ∈ before ++ inserted ++ after, other.action.isFlow = true →
        other.action = .jump target) :
    ActAlike presented (before ++ inserted ++ after) (before ++ after) := by
  have hsub : ∀ rule ∈ before ++ after, rule ∈ before ++ inserted ++ after := by
    intro rule hrule
    simp only [List.mem_append] at hrule ⊢
    exact hrule.imp_left Or.inl
  have hacts (action : Action) {id : String} (hid : id ∉ presented)
      (hwritten : action.writtenTarget? = some id) :
      (∃ rule ∈ before ++ inserted ++ after, rule.action = action) ↔
        ∃ rule ∈ before ++ after, rule.action = action := by
    constructor
    · rintro ⟨rule, hrule, rfl⟩
      refine ⟨rule, ?_, rfl⟩
      simp only [List.mem_append] at hrule ⊢
      rcases hrule with (hbefore | hinserted) | hafter
      · exact Or.inl hbefore
      · rw [hself rule hinserted] at hwritten
        exact absurd htarget (Option.some.inj hwritten ▸ hid)
      · exact Or.inr hafter
    · rintro ⟨rule, hrule, haction⟩
      exact ⟨rule, hsub rule hrule, haction⟩
  refine ⟨?_, fun id hid => hacts (.skip id) hid rfl, fun id hid => hacts (.reveal id) hid rfl⟩
  by_cases hany : ∃ rule ∈ inserted, rule.action.isFlow = true
  · obtain ⟨rule, hrule, hflows⟩ := hany
    have hjumps := hflow rule hrule hflows
    rw [Turn.of_eq_onward htarget hjumps,
      Turn.of_eq_onward htarget fun other hother => hjumps other (hsub other hother)]
  · apply Turn.of_append
    intro rule hrule
    exact Bool.eq_false_iff.mpr fun hflows => hany ⟨rule, hrule, hflows⟩

/-- A rule about a question that was presented may be replaced by others with the same action, or
by none. -/
theorem actAlike_replace {presented : List String} {before after others : List Rule} {rule : Rule}
    {target : String} (htarget : target ∈ presented)
    (hself : rule.action.writtenTarget? = some target)
    (hothers : ∀ other ∈ others, other.action = rule.action)
    (hflow : rule.action.isFlow = true → ∀ other ∈ before ++ [rule] ++ after,
      other.action.isFlow = true → other.action = .jump target) :
    ActAlike presented (before ++ [rule] ++ after) (before ++ others ++ after) := by
  have hwithout : ActAlike presented (before ++ [rule] ++ after) (before ++ after) := by
    apply actAlike_append htarget
    · intro member hmember
      rwa [List.mem_singleton.mp hmember]
    · intro member hmember
      rwa [List.mem_singleton.mp hmember]
  have hwith : ActAlike presented (before ++ others ++ after) (before ++ after) := by
    apply actAlike_append htarget
    · intro other hother
      rwa [hothers other hother]
    · intro other hother hflows member hmember
      rw [hothers other hother] at hflows
      have hjumps := hflow hflows
      simp only [List.mem_append, List.mem_singleton] at hmember hjumps
      rcases hmember with (hbefore | hreplaced) | hafter
      · exact hjumps member (Or.inl (Or.inl hbefore))
      · rw [hothers member hreplaced]
        exact hjumps rule (Or.inl (Or.inr rfl))
      · exact hjumps member (Or.inr hafter)
  exact hwithout.trans hwith.symm

/-- Two walks have come to the same, but for what they have noted about questions that were
presented already. -/
structure Progress.Abreast (a b : Progress) : Prop where
  presented_eq : a.presented = b.presented
  skipped_iff : ∀ id, id ∉ a.presented → (id ∈ a.skipped ↔ id ∈ b.skipped)
  revealed_iff : ∀ id, id ∉ a.presented → (id ∈ a.revealed ↔ id ∈ b.revealed)

namespace Progress.Abreast

theorem refl (progress : Progress) : progress.Abreast progress :=
  ⟨rfl, fun _ _ => Iff.rfl, fun _ _ => Iff.rfl⟩

variable {a b : Progress} (h : a.Abreast b)

include h

theorem present (id : String) : (a.present id).Abreast (b.present id) where
  presented_eq := congrArg (· ++ [id]) h.presented_eq
  skipped_iff := fun _ hother =>
    h.skipped_iff _ fun hmem => hother (List.mem_append_left [id] hmem)
  revealed_iff := fun _ hother =>
    h.revealed_iff _ fun hmem => hother (List.mem_append_left [id] hmem)

theorem applyAll {as bs : List Rule} (halike : ActAlike a.presented as bs) :
    (a.applyAll as).Abreast (b.applyAll bs) where
  presented_eq := by
    rw [Progress.presented_applyAll, Progress.presented_applyAll, h.presented_eq]
  skipped_iff := by
    intro id hid
    rw [Progress.presented_applyAll] at hid
    rw [Progress.mem_skipped_applyAll, Progress.mem_skipped_applyAll, h.skipped_iff id hid,
      halike.skip_iff id hid]
  revealed_iff := by
    intro id hid
    rw [Progress.presented_applyAll] at hid
    rw [Progress.mem_revealed_applyAll, Progress.mem_revealed_applyAll, h.revealed_iff id hid,
      halike.reveal_iff id hid]

theorem opening (turn : Turn) : (turn.opening a).Abreast (turn.opening b) := by
  cases turn with
  | onward => exact h
  | finish => exact h
  | landing target =>
      refine ⟨h.presented_eq, ?_, ?_⟩
      · intro id hid
        rw [Turn.mem_skipped_opening, Turn.mem_skipped_opening, h.skipped_iff id hid]
      · intro id hid
        rw [Turn.mem_revealed_opening, Turn.mem_revealed_opening, h.revealed_iff id hid]

end Progress.Abreast

namespace Survey

/-- Two surveys with the same questions, of which the same ones are hidden at first. -/
structure SameQuestions (a b : Survey) : Prop where
  idAt?_eq : a.idAt? = b.idAt?
  position?_eq : a.position? = b.position?
  isHidden_eq : a.isHidden = b.isHidden

namespace SameQuestions

variable {a b : Survey} (h : a.SameQuestions b) {first second : Progress}
  (habreast : first.Abreast second)

include h habreast

theorem isVisible_eq (id : String) : a.isVisible first id = b.isVisible second id := by
  rw [isVisible, isVisible, h.isHidden_eq, ← habreast.presented_eq]
  by_cases hid : id ∈ first.presented
  · simp [hid]
  · simp [hid, habreast.skipped_iff id hid, habreast.revealed_iff id hid]

theorem isOpenAt_eq (position : Nat) : a.isOpenAt first position = b.isOpenAt second position := by
  rw [isOpenAt, isOpenAt, h.idAt?_eq]
  exact congrArg (Option.any · _) (funext (h.isVisible_eq habreast))

theorem nextVisible_eq (start : Nat) : a.nextVisible first start = b.nextVisible second start := by
  apply Option.ext
  intro position
  simp only [nextVisible_eq_some_iff, h.isOpenAt_eq habreast]

theorem next_eq (turn : Turn) (position : Nat) :
    turn.next a first position = turn.next b second position := by
  cases turn with
  | onward => exact h.nextVisible_eq habreast (position + 1)
  | landing target => exact congrFun h.position?_eq target
  | finish => rfl

end SameQuestions

section Walks

variable {a b : Survey} {answers : Answers} {ids others : List String}

/-- By induction on the place: walks that have come to the same place of their paths abreast do so
after the question there, too. -/
theorem SameQuestions.abreast_progressAt (h : a.SameQuestions b) (hids : a.Shows answers ids)
    (hothers : b.Shows answers others)
    (halike : ∀ place id, ids[place]? = some id → ActAlike (ids.take (place + 1))
      (a.matched answers (ids.take (place + 1)) id) (b.matched answers (ids.take (place + 1)) id))
    (place : Nat) (hplace : place ≤ ids.length) :
    (a.progressAt answers place).Abreast (b.progressAt answers place) ∧
      a.positionAt? answers place = b.positionAt? answers place := by
  induction place with
  | zero => exact ⟨.refl _, h.nextVisible_eq (.refl _) 0⟩
  | succ place ih =>
      obtain ⟨habreast, hsame⟩ := ih (Nat.le_of_succ_le hplace)
      have hid := List.getElem?_eq_getElem hplace
      obtain ⟨position, hposition, hat, _⟩ := hids.exists_positionAt? hid
      have hposition' : b.positionAt? answers place = some position := hsame ▸ hposition
      have hid' : others[place]? = some ids[place] := by
        have hother := hothers.idAt?_positionAt? place
        rw [hposition', Option.bind_some, ← h.idAt?_eq, hat] at hother
        exact hother.symm
      have hpresented := hids.take_succ hid
      have hpresented' : (b.progressAt answers place).presented ++ [ids[place]]
          = ids.take (place + 1) := habreast.presented_eq ▸ hpresented
      have hmatched : ActAlike (ids.take (place + 1))
          (a.matchedAfter answers (a.progressAt answers place) ids[place])
          (b.matchedAfter answers (b.progressAt answers place) ids[place]) := by
        rw [matchedAfter, matchedAfter, hpresented, hpresented']
        exact halike place ids[place] hid
      have hturn : a.turnAt answers ids place = b.turnAt answers others place := by
        rw [hids.turnAt_eq hid, hothers.turnAt_eq hid', turnAfter, turnAfter, hpresented,
          hpresented']
        exact hmatched.turn_eq
      have hacted : (a.acted answers (a.progressAt answers place) ids[place]).Abreast
          (b.acted answers (b.progressAt answers place) ids[place]) := by
        apply (habreast.present ids[place]).applyAll
        rw [Progress.presented_present, hpresented]
        exact hmatched
      rw [hids.progressAt_succ hid hposition, hothers.progressAt_succ hid' hposition',
        hids.positionAt?_succ hid hposition, hothers.positionAt?_succ hid' hposition', hturn]
      exact ⟨hacted.opening _, h.next_eq hacted _ position⟩

/-- Where the rules that match along the path of one survey act alike in the other one, both have
the same path. -/
theorem SameQuestions.path_eq_of_actAlike (h : a.SameQuestions b) (hids : a.Shows answers ids)
    (halike : ∀ place id, ids[place]? = some id → ActAlike (ids.take (place + 1))
      (a.matched answers (ids.take (place + 1)) id) (b.matched answers (ids.take (place + 1)) id)) :
    b.path answers false = a.path answers false := by
  obtain ⟨others, hothers⟩ := b.exists_shows answers
  have hsame (place : Nat) (hplace : place ≤ ids.length) : others[place]? = ids[place]? := by
    rw [← hids.idAt?_positionAt? place, ← hothers.idAt?_positionAt? place, h.idAt?_eq,
      (h.abreast_progressAt hids hothers halike place hplace).2]
  have hpath : others = ids := by
    have hover : others.length ≤ ids.length := by
      rw [← List.getElem?_eq_none_iff, hsame ids.length (Nat.le_refl _)]
      exact List.getElem?_eq_none (Nat.le_refl _)
    apply List.ext_getElem?
    intro place
    rcases Nat.le_total place ids.length with hle | hge
    · exact hsame place hle
    · rw [List.getElem?_eq_none hge, List.getElem?_eq_none (Nat.le_trans hover hge)]
  rw [hids.path_eq, hothers.path_eq, hpath]

end Walks

end Survey

end Questionnaire
