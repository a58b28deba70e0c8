import Questionnaire.Proofs.Audit.Report
import Questionnaire.Proofs.Walk.History

/-!
Surveys in which no jump is reported to point back.  Their walks present questions in survey order,
so that rules see the final answers to their sources, and a question that is reported to be
unreachable is never presented.
-/

namespace Questionnaire

namespace Survey

variable {survey : Survey} {answers : Answers} {current target ruleId : String}

theorem jumpIgnored_not_mem_firstMatchBy (attempt : Rule → Except InvalidRule Bool) (strict : Bool)
    (rules : List Rule) :
    Warning.jumpIgnored current target ruleId ∉ (firstMatchBy attempt strict rules).1 := by
  induction rules with
  | nil => simp [firstMatchBy]
  | cons rule rest ih =>
      rw [firstMatchBy]
      split
      · simp
      · exact ih
      · split
        · simp
        · simpa using ih

theorem jumpIgnored_not_mem_firstMatches (strict : Bool) (groups : List RuleGroup) :
    Warning.jumpIgnored current target ruleId ∉ (survey.firstMatches answers strict groups).1 := by
  induction groups with
  | nil => simp [firstMatches]
  | cons group rest ih =>
      have hgroup : Warning.jumpIgnored current target ruleId
          ∉ (firstMatch (some survey.questions) answers strict group.rules).1 :=
        jumpIgnored_not_mem_firstMatchBy _ strict group.rules
      rw [firstMatches]
      split
      · rename_i warnings invalid hfirst
        rwa [hfirst] at hgroup
      · rename_i warnings found hfirst
        rw [hfirst] at hgroup
        exact fun hmem => (List.mem_append.mp hmem).elim hgroup ih

/-- Following the matching rules ignores a jump only to a question that was presented. -/
theorem exists_jump_of_jumpIgnored_follow {progress : Progress} {id : String} {position : Nat}
    {matched : List Rule} (h : Warning.jumpIgnored current target ruleId
      ∈ (survey.follow progress id position matched).1) :
    ∃ rule ∈ matched, rule.action = .jump target ∧ target ∈ progress.presented := by
  rw [follow] at h
  split at h
  · cases h
  · rename_i rule hflow
    split at h
    · rename_i aim haction
      split at h
      · rename_i hpresented
        cases List.mem_singleton.mp h
        exact ⟨rule, List.mem_of_find?_eq_some hflow, haction, hpresented⟩
      · split at h <;> cases h
    · cases h

/-- A stride warns of an ignored jump only if a matching rule jumps to a question that was
presented. -/
theorem exists_jump_of_jumpIgnored_present {progress : Progress} {id : String} {position : Nat}
    (h : Warning.jumpIgnored current target ruleId
      ∈ (Walker.present survey answers false progress position id).warnings) :
    ∃ rule ∈ survey.matched answers (progress.presented ++ [id]) id,
      rule.action = .jump target ∧ target ∈ progress.presented ++ [id] := by
  let shown := progress.present id
  let matched := survey.matched answers shown.presented id
  have hmatches : survey.matchesAt answers false shown id = (_, .ok matched) :=
    Prod.ext rfl (survey.matchesAt_lenient answers shown id)
  have hquiet : Warning.jumpIgnored current target ruleId
      ∉ (survey.matchesAt answers false shown id).1 :=
    jumpIgnored_not_mem_firstMatches false (survey.groupsAt id)
  have hwarnings : (Walker.present survey answers false progress position id).warnings
      = (survey.matchesAt answers false shown id).1
        ++ (survey.follow (shown.applyAll matched) id position matched).1 := by
    rw [Walker.present]
    dsimp only
    rw [hmatches]
    dsimp only
    split
    · rename_i more invalid hfollow
      rw [show survey.follow (shown.applyAll matched) id position matched = _ from hfollow]
    · rename_i more move hfollow
      rw [show survey.follow (shown.applyAll matched) id position matched = _ from hfollow]
  rw [hwarnings] at h
  rcases List.mem_append.mp h with hmatching | hfollowing
  · exact absurd hmatching hquiet
  · obtain ⟨rule, hrule, haction, hpresented⟩ := exists_jump_of_jumpIgnored_follow hfollowing
    rw [Progress.presented_applyAll] at hpresented
    exact ⟨rule, hrule, haction, hpresented⟩

/-- A walk warns of an ignored jump only at a place where a matching rule jumps to a question that
was presented by then. -/
theorem Shows.exists_jump_of_jumpIgnored {ids : List String} (h : survey.Shows answers ids)
    (hwarning : Warning.jumpIgnored current target ruleId
      ∈ (survey.walk answers false).warnings) :
    ∃ place, ∃ rule ∈ survey.matchedAt answers ids place,
      rule.action = .jump target ∧ target ∈ ids.take (place + 1) := by
  obtain ⟨⟨decision, warnings⟩, hstep, hmem⟩ := List.mem_flatMap.mp hwarning
  obtain ⟨place, hplace⟩ := List.getElem?_of_mem hstep
  rw [h.walk_steps] at hplace
  have hlt : place < ids.length := by
    rcases Nat.lt_or_ge place ids.length with hlt | hover
    · exact hlt
    · rw [(h.strideAt_isOver place hover).step?_eq] at hplace
      cases hplace
  have hid := List.getElem?_eq_getElem hlt
  obtain ⟨position, hposition, hat, _⟩ := h.exists_positionAt? hid
  have hstride : survey.strideAt answers place = Walker.present survey answers false
      (survey.progressAt answers place) position ids[place] := by
    rw [strideAt_eq_presentAt, hposition, Walker.presentAt]
    simp [hat]
  have hsame : (survey.strideAt answers place).warnings = warnings := by
    rw [Stride.step?] at hplace
    split at hplace
    · cases hplace
      rfl
    · cases hplace
  rw [← hsame, hstride] at hmem
  obtain ⟨rule, hrule, haction, hpresented⟩ := exists_jump_of_jumpIgnored_present hmem
  rw [h.take_succ hid] at hpresented
  exact ⟨place, rule, (h.matchedAt_eq hid).symm ▸ hrule, haction, hpresented⟩

end Survey

namespace Survey.Shows

variable {survey : Survey} {answers : Answers} {ids : List String}

/-- The rules that match at a place are declared and triggered by the question there. -/
theorem exists_declared (h : survey.Shows answers ids) {place : Nat} {id : String}
    (hid : ids[place]? = some id) {rule : Rule}
    (hrule : rule ∈ survey.matchedAt answers ids place) :
    ∃ owner, (owner, rule) ∈ survey.declaredRules ∧
      Audit.DeclaredRule.trigger (owner, rule) survey = id := by
  rw [h.matchedAt_eq hid] at hrule
  obtain ⟨owner, hdeclared, htrigger, _⟩ := exists_declared_of_mem_matched hrule
  exact ⟨owner, hdeclared, htrigger⟩

variable (h : survey.Shows answers ids) (hdistinct : (survey.questions.map (·.id)).Nodup)

include h hdistinct

/-- The position with which a walk comes to a question is that of the question. -/
theorem position?_eq {place position : Nat} {id : String} (hid : ids[place]? = some id)
    (hposition : survey.positionAt? answers place = some position) :
    survey.position? id = some position := by
  obtain ⟨same, hsame, hat, _⟩ := h.isVisible_progressAt hposition
  obtain rfl : same = id := Option.some.inj (hsame.symm.trans hid)
  exact position?_of_idAt? hdistinct hat

variable (hbackwards : ¬Audit.ReportsJump survey "BACKWARDS_JUMP")

include hbackwards

/-- Step by step a walk goes ahead: a scan starts behind the question, and a jump that is taken does
not land on the question itself. -/
theorem positionAt?_lt_succ {place here next : Nat}
    (hhere : survey.positionAt? answers place = some here)
    (hnext : survey.positionAt? answers (place + 1) = some next) : here < next := by
  obtain ⟨id, hid, _⟩ := h.isVisible_progressAt hhere
  have hturned := h.positionAt?_succ hid hhere
  rw [hnext] at hturned
  cases hturn : survey.turnAt answers ids place with
  | onward =>
      rw [hturn, Turn.next] at hturned
      exact (nextVisible_eq_some_iff.mp hturned.symm).1
  | finish =>
      rw [hturn, Turn.next] at hturned
      cases hturned
  | landing target =>
      rw [hturn, Turn.next] at hturned
      obtain ⟨hfresh, rule, hrule, haction⟩ := exists_jump_of_turnAt hturn
      obtain ⟨owner, hdeclared, htrigger⟩ := h.exists_declared hid hrule
      have hposition : survey.position? (Audit.DeclaredRule.trigger (owner, rule) survey)
          = some here := htrigger ▸ h.position?_eq hdistinct hid hhere
      have hother : target ≠ id := by
        rintro rfl
        exact hfresh (h.take_succ hid ▸ List.mem_append_right _ (List.mem_singleton.mpr rfl))
      rcases Audit.le_of_not_reportsJump hdeclared haction hposition hturned.symm hbackwards with
        hself | hahead
      · exact absurd (hself.trans htrigger) hother
      · refine Nat.lt_of_le_of_ne hahead ?_
        rintro rfl
        have hat := h.idAt?_positionAt? place
        rw [hhere, Option.bind_some, hid, idAt?_of_position? hturned.symm] at hat
        exact hother (Option.some.inj hat)

/-- Later places have later positions. -/
theorem positionAt?_lt {earlier place before here : Nat} (hearlier : earlier < place)
    (hbefore : survey.positionAt? answers earlier = some before)
    (hhere : survey.positionAt? answers place = some here) : before < here := by
  induction place generalizing here with
  | zero => cases hearlier
  | succ place ih =>
      rcases Nat.lt_succ_iff_lt_or_eq.mp hearlier with hlt | rfl
      · obtain ⟨_, hid, _⟩ := h.isVisible_progressAt hhere
        have hplace : place < ids.length :=
          Nat.lt_of_succ_lt (List.getElem?_eq_some_iff.mp hid).1
        obtain ⟨between, hbetween, _⟩ := h.exists_positionAt? (List.getElem?_eq_getElem hplace)
        exact Nat.lt_trans (ih hlt hbetween)
          (h.positionAt?_lt_succ hdistinct hbackwards hbetween hhere)
      · exact h.positionAt?_lt_succ hdistinct hbackwards hbefore hhere

/-- The questions of a path stand in survey order. -/
theorem position?_lt {earlier place : Nat} {first second : String}
    (hfirst : ids[earlier]? = some first) (hsecond : ids[place]? = some second)
    (hearlier : earlier < place) :
    ∃ before here, survey.position? first = some before ∧ survey.position? second = some here ∧
      before < here := by
  obtain ⟨before, hbefore, _⟩ := h.exists_positionAt? hfirst
  obtain ⟨here, hhere, _⟩ := h.exists_positionAt? hsecond
  exact ⟨before, here, h.position?_eq hdistinct hfirst hbefore,
    h.position?_eq hdistinct hsecond hhere,
    h.positionAt?_lt hdistinct hbackwards hearlier hbefore hhere⟩

/-- A question with a position up to that of a place is not presented after it. -/
theorem not_mem_drop_of_le {place : Nat} {id other : String} (hid : ids[place]? = some id)
    {here there : Nat} (hhere : survey.position? id = some here)
    (hthere : survey.position? other = some there) (hle : there ≤ here) :
    other ∉ ids.drop (place + 1) := by
  intro hmem
  obtain ⟨offset, hoffset⟩ := List.getElem?_of_mem hmem
  rw [List.getElem?_drop] at hoffset
  obtain ⟨before, after, hbefore, hafter, hlt⟩ :=
    h.position?_lt hdistinct hbackwards hid hoffset (by omega)
  rw [hhere] at hbefore
  rw [hthere] at hafter
  cases hbefore
  cases hafter
  omega

/-- A rule that can be resolved is evaluated when no source of it is to come. -/
theorem sources_not_mem_drop {place : Nat} {id : String} (hid : ids[place]? = some id)
    {group : RuleGroup} (hgroup : group ∈ survey.groupsAt id) {rule : Rule}
    (hrule : rule ∈ group.rules)
    (hresolve : ∃ typed, rule.resolve (some survey.questions) = .ok typed) :
    ∀ condition ∈ rule.conditions, condition.questionId ∉ ids.drop (place + 1) := by
  obtain ⟨typed, htyped⟩ := hresolve
  obtain ⟨_, htrigger⟩ := declared_of_mem_groupsAt hgroup hrule
  obtain ⟨last, hlast, hsources⟩ :=
    Rule.position?_trigger group.owner (Rule.sources_of_resolve htyped)
  rw [htrigger] at hlast
  intro condition hcondition
  obtain ⟨position, hposition, hle⟩ := hsources condition hcondition
  exact h.not_mem_drop_of_le hdistinct hbackwards hid hlast hposition hle

/-- A jump that matches was not overtaken, unless it points at its trigger. -/
theorem target_not_mem_take (hself : ¬Audit.ReportsJump survey "SELF_TARGET") {place : Nat}
    {rule : Rule} (hrule : rule ∈ survey.matchedAt answers ids place) {target : String}
    (haction : rule.action = .jump target) : target ∉ ids.take (place + 1) := by
  have hid := List.getElem?_eq_getElem (lt_length_of_mem_matchedAt hrule)
  obtain ⟨here, hhere, _⟩ := h.exists_positionAt? hid
  obtain ⟨owner, hdeclared, htrigger⟩ := h.exists_declared hid hrule
  have hposition : survey.position? (Audit.DeclaredRule.trigger (owner, rule) survey)
      = some here := htrigger ▸ h.position?_eq hdistinct hid hhere
  have hother := Audit.ne_trigger_of_not_reportsJump hdeclared haction hposition hself
  rw [htrigger] at hother
  intro hmem
  obtain ⟨earlier, hearlier⟩ := List.getElem?_of_mem hmem
  rw [List.getElem?_take] at hearlier
  split at hearlier
  · rename_i hle
    rcases Nat.lt_succ_iff_lt_or_eq.mp hle with hlt | rfl
    · obtain ⟨there, same, hthere, hsame, hback⟩ :=
        h.position?_lt hdistinct hbackwards hearlier hid hlt
      rw [← htrigger, hposition] at hsame
      cases hsame
      rcases Audit.le_of_not_reportsJump hdeclared haction hposition hthere hbackwards with
        hself | hahead
      · exact hother (hself.trans htrigger)
      · omega
    · exact hother (Option.some.inj (hearlier.symm.trans hid))
  · cases hearlier

end Survey.Shows

/-- Answers to a part of a path and to all of it are the same for whoever does not see the rest. -/
theorem Answers.answerTo_restrict_take (answers : Answers) {path : List String} {count : Nat}
    {id : String} (h : id ∉ path.drop count) :
    (answers.restrict (path.take count)).answerTo id = (answers.restrict path).answerTo id := by
  have hmem : id ∈ path ↔ id ∈ path.take count := by
    constructor
    · intro hid
      rw [← List.take_append_drop count path] at hid
      exact (List.mem_append.mp hid).resolve_right h
    · exact List.mem_of_mem_take
  simp only [answerTo, get?_restrict, hmem]

namespace Survey

/-- In a survey with distinct ids in which no jump is reported to point back or at its trigger, a
walk that passes unresolvable rules over presents questions in survey order.  No jump that matches
leads to a question that was presented, and none is ignored.  When a rule that can be resolved is
evaluated, none of its sources is to come, so that the rule says what it says on the answers to the
whole path. -/
theorem forward_walk_in_order (survey : Survey)
    (hdistinct : (survey.questions.map (·.id)).Nodup)
    (hbackwards : ¬Audit.ReportsJump survey "BACKWARDS_JUMP")
    (hself : ¬Audit.ReportsJump survey "SELF_TARGET") (answers : Answers) :
    ∃ path, survey.path answers false = .ok path ∧
      (path.Pairwise fun first second => ∃ before here,
        survey.position? first = some before ∧ survey.position? second = some here ∧
          before < here) ∧
      (∀ place, ∀ rule ∈ survey.matchedAt answers path place, ∀ target,
        rule.action = .jump target → target ∉ path.take (place + 1)) ∧
      (∀ current target ruleId,
        Warning.jumpIgnored current target ruleId ∉ (survey.walk answers false).warnings) ∧
      ∀ place id, path[place]? = some id → ∀ group ∈ survey.groupsAt id, ∀ rule ∈ group.rules,
        (∃ typed, rule.resolve (some survey.questions) = .ok typed) →
          (∀ condition ∈ rule.conditions, condition.questionId ∉ path.drop (place + 1)) ∧
            rule.evaluate (some survey.questions) (answers.restrict (path.take (place + 1)))
              = rule.evaluate (some survey.questions) (answers.restrict path) := by
  obtain ⟨path, hshows⟩ := survey.exists_shows answers
  refine ⟨path, hshows.path_eq, ?_, ?_, ?_, ?_⟩
  · rw [List.pairwise_iff_getElem]
    intro earlier place hearlier hplace hlt
    exact hshows.position?_lt hdistinct hbackwards (List.getElem?_eq_getElem hearlier)
      (List.getElem?_eq_getElem hplace) hlt
  · intro place rule hrule target haction
    exact hshows.target_not_mem_take hdistinct hbackwards hself hrule haction
  · intro current target ruleId hwarning
    obtain ⟨place, rule, hrule, haction, hmem⟩ := hshows.exists_jump_of_jumpIgnored hwarning
    exact hshows.target_not_mem_take hdistinct hbackwards hself hrule haction hmem
  · intro place id hid group hgroup rule hrule hresolve
    have hsources :=
      hshows.sources_not_mem_drop hdistinct hbackwards hid hgroup hrule hresolve
    refine ⟨hsources, rule.evaluate_congr_sources _ ?_⟩
    intro condition hcondition
    exact answers.answerTo_restrict_take (hsources condition hcondition)

theorem forward_walk_in_order_detour :
    Sample.detour.path Sample.allAnswers false = .ok ["q1", "q2", "q3", "q4"] ∧
      (["q1", "q2", "q3", "q4"].Pairwise fun first second => ∃ before here,
        Sample.detour.position? first = some before ∧ Sample.detour.position? second = some here ∧
          before < here) ∧
      ∀ current target ruleId, Warning.jumpIgnored current target ruleId
        ∉ (Sample.detour.walk Sample.allAnswers false).warnings := by
  have hbackwards : ¬Audit.ReportsJump Sample.detour "BACKWARDS_JUMP" := by
    rw [Audit.reportsJump_iff]
    decide
  have hself : ¬Audit.ReportsJump Sample.detour "SELF_TARGET" := by
    rw [Audit.reportsJump_iff]
    decide
  obtain ⟨path, hpath, horder, _, hquiet, _⟩ :=
    forward_walk_in_order Sample.detour (by decide) hbackwards hself Sample.allAnswers
  have hlisted : Sample.detour.path Sample.allAnswers false = .ok ["q1", "q2", "q3", "q4"] := rfl
  cases hlisted.symm.trans hpath
  exact ⟨hlisted, horder, hquiet⟩

/-- In a survey with distinct ids in which no jump is reported to point back, a question that is
reported to be unreachable and that no rule jumps to is on no path of a walk that passes
unresolvable rules over. -/
theorem unreachable_not_on_path (survey : Survey)
    (hdistinct : (survey.questions.map (·.id)).Nodup)
    (hbackwards : ¬Audit.ReportsJump survey "BACKWARDS_JUMP") {id : String}
    (hreported : ∃ finding ∈ Audit.routing survey,
      finding.code = "UNREACHABLE_QUESTION" ∧ finding.questionId = some id)
    (hjumps : ∀ declared ∈ survey.declaredRules, declared.2.action ≠ .jump id)
    (answers : Answers) : ∃ path, survey.path answers false = .ok path ∧ id ∉ path := by
  obtain ⟨path, hshows⟩ := survey.exists_shows answers
  refine ⟨path, hshows.path_eq, ?_⟩
  obtain ⟨finding, hfinding, hcode, hid⟩ := hreported
  obtain ⟨hhidden, position, hposition, hlate⟩ := Audit.unreachable_of_reported hfinding hcode hid
  intro hmem
  obtain ⟨place, hplace⟩ := List.getElem?_of_mem hmem
  obtain ⟨earlier, hearlier, hreveals | hturn⟩ := hshows.revealed_of_isHidden hplace hhidden
  · obtain ⟨rule, hrule, haction⟩ := hreveals
    have hbefore := List.getElem?_eq_getElem (lt_length_of_mem_matchedAt hrule)
    obtain ⟨owner, hdeclared, htrigger⟩ := hshows.exists_declared hbefore hrule
    -- the rule was triggered before the question, yet all its triggers come after it
    obtain ⟨trigger, same, hthere, hsame, hlt⟩ :=
      hshows.position?_lt hdistinct hbackwards hbefore hplace hearlier
    have hle := hlate trigger (Audit.mem_revealedFrom hdeclared haction (htrigger ▸ hthere))
    rw [hposition] at hsame
    cases hsame
    omega
  · obtain ⟨_, rule, hrule, haction⟩ := exists_jump_of_turnAt hturn
    have hbefore := List.getElem?_eq_getElem (lt_length_of_mem_matchedAt hrule)
    obtain ⟨owner, hdeclared, _⟩ := hshows.exists_declared hbefore hrule
    exact hjumps (owner, rule) hdeclared haction

namespace Sample

/-- The second question is revealed by the third one alone, which jumps over the fourth. -/
def lateReveal : Survey :=
  let questions := [
    plain "q1" [],
    plain "q2" [onAnswer "r1" "q3" (.reveal "q2")],
    plain "q3" [onAnswer "r2" "q3" (.jump "q5")],
    plain "q4" [],
    plain "q5" []]
  ⟨questions, questions.map fun question => ⟨question.id, question.rules⟩⟩

end Sample

theorem unreachable_not_on_path_lateReveal :
    Sample.lateReveal.path Sample.allAnswers false = .ok ["q1", "q3", "q5"] ∧
      ∀ answers, ∃ path, Sample.lateReveal.path answers false = .ok path ∧ "q2" ∉ path := by
  have hbackwards : ¬Audit.ReportsJump Sample.lateReveal "BACKWARDS_JUMP" := by
    rw [Audit.reportsJump_iff]
    decide
  have hreported : ∃ finding ∈ Audit.routing Sample.lateReveal,
      finding.code = "UNREACHABLE_QUESTION" ∧ finding.questionId = some "q2" := by
    have hfound : ∃ finding ∈ (Audit.revealTargets Sample.lateReveal).flatMap
        (Audit.unreachable Sample.lateReveal),
        finding.code = "UNREACHABLE_QUESTION" ∧ finding.questionId = some "q2" := by decide
    obtain ⟨finding, hfinding, hcode⟩ := hfound
    exact ⟨finding, List.mem_append_left _ (List.mem_append_right _ hfinding), hcode⟩
  have hjumps : ∀ declared ∈ Sample.lateReveal.declaredRules,
      declared.2.action ≠ .jump "q2" := by decide
  exact ⟨rfl, unreachable_not_on_path Sample.lateReveal (by decide) hbackwards hreported hjumps⟩

end Survey

end Questionnaire
