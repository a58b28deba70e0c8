import Questionnaire.Proofs.Walk.Course

/-!
What becomes of the rules that match on the way.  At every place of its path, the questions that a
walk has skipped and revealed are given by the rules that matched before that place and by the
jumps that were taken: a jump undoes the skips of its target and reveals it.
-/

namespace Questionnaire

namespace Survey

/-- A rule that matches at a place of a path takes an action. -/
def ActsAt (survey : Survey) (answers : Answers) (path : List String) (place : Nat)
    (action : Action) : Prop :=
  ∃ rule ∈ survey.matchedAt answers path place, rule.action = action

variable {survey : Survey} {answers : Answers} {ids : List String}

/-- Rules match only where a question is presented. -/
theorem lt_length_of_mem_matchedAt {place : Nat} {rule : Rule}
    (h : rule ∈ survey.matchedAt answers ids place) : place < ids.length := by
  rcases Nat.lt_or_ge place ids.length with hplace | hover
  · exact hplace
  · rw [matchedAt, List.getElem?_eq_none hover] at h
    cases h

theorem mem_matched_of_mem_matchedAt {place : Nat} {id : String} (hid : ids[place]? = some id)
    {rule : Rule} (h : rule ∈ survey.matchedAt answers ids place) :
    rule ∈ survey.matched answers (ids.take (place + 1)) id := by
  rwa [matchedAt, hid] at h

/-- A jump that is taken belongs to a rule that matches. -/
theorem exists_jump_of_turnAt {place : Nat} {target : String}
    (h : survey.turnAt answers ids place = .landing target) :
    target ∉ ids.take (place + 1) ∧
      ∃ rule ∈ survey.matchedAt answers ids place, rule.action = .jump target := by
  obtain ⟨rule, hrule, haction, hfresh⟩ := Turn.of_eq_landing_iff.mp h
  exact ⟨hfresh, rule, List.mem_of_find?_eq_some hrule, haction⟩

namespace Shows

/-- A jump that is taken makes its target the following question. -/
theorem next_of_landing (h : survey.Shows answers ids) {place : Nat} {target : String}
    (hturn : survey.turnAt answers ids place = .landing target) :
    ids[place + 1]? = some target := by
  obtain ⟨_, rule, hrule, haction⟩ := exists_jump_of_turnAt hturn
  have hid := List.getElem?_eq_getElem (lt_length_of_mem_matchedAt hrule)
  obtain ⟨position, hposition, _⟩ := h.exists_positionAt? hid
  have hmatched := mem_matched_of_mem_matchedAt hid hrule
  have hknown : (survey.position? target).isSome :=
    position?_isSome_of_mem_matched hmatched (by rw [haction]; rfl)
  obtain ⟨landing, hlanding⟩ := Option.isSome_iff_exists.mp hknown
  have hnext : survey.positionAt? answers (place + 1) = some landing := by
    rw [h.positionAt?_succ hid hposition, hturn, Turn.next, hlanding]
  rw [← h.idAt?_positionAt? (place + 1), hnext]
  exact idAt?_of_position? hlanding

/-- Nothing is presented after an end. -/
theorem length_of_finish (h : survey.Shows answers ids) {place : Nat}
    (hturn : survey.turnAt answers ids place = .finish) : place + 1 = ids.length := by
  have hplace : place < ids.length := by
    rcases Nat.lt_or_ge place ids.length with hplace | hover
    · exact hplace
    · rw [turnAt, matchedAt, List.getElem?_eq_none hover] at hturn
      cases hturn
  have hid := List.getElem?_eq_getElem hplace
  obtain ⟨position, hposition, _⟩ := h.exists_positionAt? hid
  have hnext : ids[place + 1]? = none := by
    rw [← h.idAt?_positionAt? (place + 1), h.positionAt?_succ hid hposition, hturn]
    rfl
  have hlast : ids.length ≤ place + 1 := List.getElem?_eq_none_iff.mp hnext
  omega

section Step

variable (h : survey.Shows answers ids) {place : Nat} (hplace : place < ids.length) (other : String)

include h hplace

theorem mem_skipped_succ : other ∈ (survey.progressAt answers (place + 1)).skipped ↔
    (other ∈ (survey.progressAt answers place).skipped ∨
        survey.ActsAt answers ids place (.skip other)) ∧
      survey.turnAt answers ids place ≠ .landing other := by
  have hid := List.getElem?_eq_getElem hplace
  obtain ⟨position, hposition, _⟩ := h.exists_positionAt? hid
  rw [h.progressAt_succ hid hposition, Turn.mem_skipped_opening, acted,
    Progress.mem_skipped_applyAll, ActsAt, h.matchedAt_eq hid]
  rfl

theorem mem_revealed_succ : other ∈ (survey.progressAt answers (place + 1)).revealed ↔
    (other ∈ (survey.progressAt answers place).revealed ∨
        survey.ActsAt answers ids place (.reveal other)) ∨
      survey.turnAt answers ids place = .landing other := by
  have hid := List.getElem?_eq_getElem hplace
  obtain ⟨position, hposition, _⟩ := h.exists_positionAt? hid
  rw [h.progressAt_succ hid hposition, Turn.mem_revealed_opening, acted,
    Progress.mem_revealed_applyAll, ActsAt, h.matchedAt_eq hid]
  rfl

end Step

/-- A question is skipped if a rule skipped it on the way and no jump has landed on it since. -/
theorem mem_skipped_iff (h : survey.Shows answers ids) {place : Nat} (hplace : place ≤ ids.length)
    (other : String) :
    other ∈ (survey.progressAt answers place).skipped ↔
      ∃ earlier < place, survey.ActsAt answers ids earlier (.skip other) ∧
        ∀ between, earlier ≤ between → between < place →
          survey.turnAt answers ids between ≠ .landing other := by
  induction place with
  | zero => simp [progressAt, Progress.start]
  | succ place ih =>
      rw [h.mem_skipped_succ hplace, ih (Nat.le_of_lt hplace)]
      constructor
      · rintro ⟨⟨earlier, hearlier, hskips, hsince⟩ | hskips, hturn⟩
        · refine ⟨earlier, Nat.lt_succ_of_lt hearlier, hskips, ?_⟩
          intro between hlow hhigh
          rcases Nat.lt_succ_iff_lt_or_eq.mp hhigh with hbefore | rfl
          · exact hsince between hlow hbefore
          · exact hturn
        · refine ⟨place, Nat.lt_succ_self place, hskips, ?_⟩
          intro between hlow hhigh
          obtain rfl : between = place := by omega
          exact hturn
      · rintro ⟨earlier, hearlier, hskips, hsince⟩
        refine ⟨?_, hsince place (Nat.le_of_lt_succ hearlier) (Nat.lt_succ_self place)⟩
        rcases Nat.lt_succ_iff_lt_or_eq.mp hearlier with hbefore | rfl
        · exact Or.inl ⟨earlier, hbefore, hskips, fun between hlow hhigh =>
            hsince between hlow (Nat.lt_succ_of_lt hhigh)⟩
        · exact Or.inr hskips

/-- A question is revealed if a rule revealed it on the way or a jump landed on it. -/
theorem mem_revealed_iff (h : survey.Shows answers ids) {place : Nat} (hplace : place ≤ ids.length)
    (other : String) :
    other ∈ (survey.progressAt answers place).revealed ↔
      ∃ earlier < place, survey.ActsAt answers ids earlier (.reveal other) ∨
        survey.turnAt answers ids earlier = .landing other := by
  induction place with
  | zero => simp [progressAt, Progress.start]
  | succ place ih =>
      rw [h.mem_revealed_succ hplace, ih (Nat.le_of_lt hplace), or_assoc]
      constructor
      · rintro (⟨earlier, hearlier, hreveals⟩ | hreveals)
        · exact ⟨earlier, Nat.lt_succ_of_lt hearlier, hreveals⟩
        · exact ⟨place, Nat.lt_succ_self place, hreveals⟩
      · rintro ⟨earlier, hearlier, hreveals⟩
        rcases Nat.lt_succ_iff_lt_or_eq.mp hearlier with hbefore | rfl
        · exact Or.inl ⟨earlier, hbefore, hreveals⟩
        · exact Or.inr hreveals

/-- A question that was skipped on the way is presented only where a jump lands on it right after
the question before it. -/
theorem landing_of_skipped (h : survey.Shows answers ids) {place earlier : Nat} {id : String}
    (hid : ids[place]? = some id) (hearlier : earlier < place)
    (hskips : survey.ActsAt answers ids earlier (.skip id)) :
    ∃ before, place = before + 1 ∧ earlier ≤ before ∧
      survey.turnAt answers ids before = .landing id := by
  obtain ⟨hplace, rfl⟩ := List.getElem?_eq_some_iff.mp hid
  obtain ⟨_, _, _, hvisible⟩ := h.exists_positionAt? hid
  have hunskipped : ids[place] ∉ (survey.progressAt answers place).skipped := by
    intro hskipped
    simp [isVisible, hskipped] at hvisible
  rw [h.mem_skipped_iff (Nat.le_of_lt hplace)] at hunskipped
  -- some jump has landed on the question since it was skipped, and it is presented only once
  have hjump : ∃ before, earlier ≤ before ∧ before < place ∧
      survey.turnAt answers ids before = .landing ids[place] := by
    apply Classical.byContradiction
    intro hnone
    refine hunskipped ⟨earlier, hearlier, hskips, ?_⟩
    intro between hlow hhigh hturn
    exact hnone ⟨between, hlow, hhigh, hturn⟩
  obtain ⟨before, hlow, hhigh, hturn⟩ := hjump
  obtain ⟨hnext, hsame⟩ := List.getElem?_eq_some_iff.mp (h.next_of_landing hturn)
  have hplaces : before + 1 = place := (List.getElem_inj h.ids_nodup).mp hsame
  exact ⟨before, hplaces.symm, hlow, hturn⟩

/-- A question that has to be revealed is presented only after a rule revealed it or a jump landed
on it. -/
theorem revealed_of_isHidden (h : survey.Shows answers ids) {place : Nat} {id : String}
    (hid : ids[place]? = some id) (hhidden : survey.isHidden id = true) :
    ∃ earlier < place, survey.ActsAt answers ids earlier (.reveal id) ∨
      survey.turnAt answers ids earlier = .landing id := by
  obtain ⟨hplace, _⟩ := List.getElem?_eq_some_iff.mp hid
  obtain ⟨_, _, _, hvisible⟩ := h.exists_positionAt? hid
  have hrevealed : id ∈ (survey.progressAt answers place).revealed := by
    simp only [isVisible, hhidden, Bool.not_true, Bool.false_or, Bool.and_eq_true,
      decide_eq_true_eq] at hvisible
    exact hvisible.2
  exact (h.mem_revealed_iff (Nat.le_of_lt hplace) id).mp hrevealed

end Shows

/-- Every walk that passes unresolvable rules over has a path.  At each place it evaluates the rules
that match there, and its decision names the decisive one of them.  A jump that is taken makes its
target the following question.  A question that was skipped on the way is presented only where a
jump lands on it, taken from the question before it and not before the skip.  A question that
declared rules reveal is presented only after one of them matched or a jump landed on it.  Nothing
is presented after an end. -/
theorem path_respects_actions (survey : Survey) (answers : Answers) :
    ∃ path, survey.path answers false = .ok path ∧
      (∀ place id, path[place]? = some id →
        (survey.matchesAt answers false ((survey.progressAt answers place).present id) id).2
            = .ok (survey.matchedAt answers path place) ∧
        ∃ decision, (survey.walk answers false).decisions[place]? = some decision ∧
          decision.current = some id ∧
            decision.ruleId = (decisive? (survey.matchedAt answers path place)).map (·.id)) ∧
      (∀ place target, survey.turnAt answers path place = .landing target →
        path[place + 1]? = some target) ∧
      (∀ place earlier id, path[place]? = some id → earlier < place →
        survey.ActsAt answers path earlier (.skip id) →
          ∃ before, place = before + 1 ∧ earlier ≤ before ∧
            survey.turnAt answers path before = .landing id) ∧
      (∀ place id, path[place]? = some id →
        (∃ entry ∈ survey.declaredRules, entry.2.action = .reveal id) →
          ∃ earlier < place, survey.ActsAt answers path earlier (.reveal id) ∨
            survey.turnAt answers path earlier = .landing id) ∧
      ∀ place, survey.turnAt answers path place = .finish → place + 1 = path.length := by
  obtain ⟨path, hshows⟩ := survey.exists_shows answers
  refine ⟨path, hshows.path_eq, ?_, ?_, ?_, ?_, ?_⟩
  · intro place id hid
    refine ⟨?_, hshows.decision_ruleId hid⟩
    rw [survey.matchesAt_lenient, hshows.matchedAt_eq hid]
    rfl
  · intro place target hturn
    exact hshows.next_of_landing hturn
  · intro place earlier id hid hearlier hskips
    exact hshows.landing_of_skipped hid hearlier hskips
  · intro place id hid hreveals
    obtain ⟨_, _, hat, _⟩ := hshows.exists_positionAt? hid
    have hhidden : survey.isHidden id = true :=
      isHidden_iff.mpr ⟨position?_isSome_of_idAt? hat, hreveals⟩
    exact hshows.revealed_of_isHidden hid hhidden
  · intro place hturn
    exact hshows.length_of_finish hturn

namespace Sample

/-- The first question skips the third one, which the second one jumps to; the fourth one, which the
third one reveals, ends the survey before the fifth. -/
def detour : Survey :=
  let questions := [
    plain "q1" [onAnswer "r1" "q1" (.skip "q3")],
    plain "q2" [onAnswer "r2" "q2" (.jump "q3")],
    plain "q3" [onAnswer "r3" "q3" (.reveal "q4")],
    plain "q4" [onAnswer "r4" "q4" (.finish false)],
    plain "q5" []]
  ⟨questions, questions.map fun question => ⟨question.id, question.rules⟩⟩

def allAnswers : Answers :=
  [("q1", .str "a"), ("q2", .str "b"), ("q3", .str "c"), ("q4", .str "d"), ("q5", .str "e")]

end Sample

example : Sample.detour.path Sample.allAnswers false = .ok ["q1", "q2", "q3", "q4"] := rfl

end Survey

end Questionnaire
