import Questionnaire.Proofs.Json.Canonical
import Questionnaire.Proofs.Json.Text
import Questionnaire.Proofs.Walk.Replay
import Questionnaire.Proofs.Walk.Trigger

/-!
The texts that a walk takes.  They are those of answers, of the items of answers and of the values
that rules compare answers with; where all of these have a text, no walk fails for one.  So a walk
that passes unresolvable rules over always ends, and it fails for nothing but a text that there is
not.
-/

namespace Questionnaire

theorem mem_of_mem_upToFirst {α : Type} {passes : α → Bool} {xs : List α} {x : α}
    (h : x ∈ upToFirst passes xs) : x ∈ xs := by
  induction xs with
  | nil => exact h
  | cons first rest ih =>
      rw [upToFirst] at h
      split at h
      · exact List.mem_singleton.mp h ▸ List.mem_cons_self
      · rcases List.mem_cons.mp h with rfl | hrest
        · exact List.mem_cons_self
        · exact List.mem_cons_of_mem first (ih hrest)

/-- All answers have texts where there is room for so many levels. -/
def Answers.HasTexts (room : Nat) (answers : Answers) : Prop :=
  ∀ entry ∈ answers, entry.2.hasText room = true

/-- The values that a rule compares answers with have texts. -/
def Rule.HasTexts (room : Nat) (rule : Rule) : Prop :=
  ∀ target ∈ rule.targets, target.toJson.hasText room = true

/-- The values that the rules of a survey compare answers with have texts. -/
def Survey.HasTexts (room : Nat) (survey : Survey) : Prop :=
  ∀ declared ∈ survey.declaredRules, declared.2.HasTexts room

variable {room : Nat} {v : Json}

namespace AnswerTest

variable {test : AnswerTest} {numeric : Bool} {answer : Json} {target : Scalar}

/-- A value is an answer, an item of one, or one of the values that it is compared with. -/
def Reads (test : AnswerTest) (answer v : Json) : Prop :=
  (isUnanswered answer = false ∧ (v = answer ∨ ∃ items, answer = .arr items ∧ v ∈ items))
    ∨ ∃ target ∈ test.targets, v = target.toJson

theorem mem_textsOfEqual (h : v ∈ textsOfEqual numeric answer target) :
    isUnanswered answer = false ∧ (v = answer ∨ v = target.toJson) := by
  unfold textsOfEqual at h
  split at h
  · cases h
  · split at h
    · cases h
    · rename_i hplain
      have hanswered : isUnanswered answer = false := by simp_all
      split at h
      · cases h
      · exact ⟨hanswered, List.mem_pair.mp h⟩

theorem mem_textsOfOrder (h : v ∈ textsOfOrder numeric answer target) :
    isUnanswered answer = false ∧ (v = answer ∨ v = target.toJson) := by
  unfold textsOfOrder at h
  split at h
  · cases h
  · cases h
  · cases h
  · split at h
    · cases h
    · rename_i hplain
      have hanswered : isUnanswered answer = false := by simp_all
      split at h
      · cases h
      · exact ⟨hanswered, List.mem_pair.mp h⟩

theorem isUnanswered_arr_of_mem {items : List Json} (h : v ∈ items) :
    isUnanswered (.arr items) = false := by
  cases items with
  | nil => cases h
  | cons item rest => rfl

theorem mem_textsOfIncludes (h : v ∈ textsOfIncludes target answer) :
    (∃ items, answer = .arr items ∧ v ∈ items) ∨ v = target.toJson := by
  unfold textsOfIncludes at h
  split at h
  · rename_i items
    rcases List.mem_cons.mp h with htarget | hitem
    · exact .inr htarget
    · exact .inl ⟨items, rfl, mem_of_mem_upToFirst hitem⟩
  · exact .inr (List.mem_singleton.mp h)
  · cases h

theorem mem_textsOfMembers {values : List Scalar} (h : v ∈ textsOfMembers values answer) :
    isUnanswered answer = false ∧ (v = answer ∨ (∃ items, answer = .arr items ∧ v ∈ items)
      ∨ ∃ value ∈ values, v = value.toJson) := by
  unfold textsOfMembers at h
  split at h
  · cases h
  · rename_i hanswered
    refine ⟨Bool.eq_false_iff.mpr hanswered, ?_⟩
    have hvalues (h : v ∈ values.map Scalar.toJson) : ∃ value ∈ values, v = value.toJson :=
      (List.mem_map.mp h).imp fun _ hvalue => ⟨hvalue.1, hvalue.2.symm⟩
    split at h
    · rename_i items
      rcases List.mem_append.mp h with hitem | hvalue
      · exact .inr (.inl ⟨items, rfl, hitem⟩)
      · exact .inr (.inr (hvalues hvalue))
    · rcases List.mem_cons.mp h with hown | hvalue
      · exact .inl hown
      · exact .inr (.inr (hvalues hvalue))

/-- A test takes the texts of an answer, of its items and of the values that it is compared with. -/
theorem reads_of_mem_texts (h : v ∈ test.texts numeric answer) : test.Reads answer v := by
  have hone {target : Scalar} (htargets : test.targets = [target])
      (h : isUnanswered answer = false ∧ (v = answer ∨ v = target.toJson)) :
      test.Reads answer v :=
    h.2.elim (fun hown => .inl ⟨h.1, .inl hown⟩)
      fun htarget => .inr ⟨target, htargets ▸ List.mem_singleton_self target, htarget⟩
  have hseveral {values : List Scalar} (htargets : test.targets = values)
      (h : v ∈ textsOfMembers values answer) : test.Reads answer v := by
    obtain ⟨hanswered, hown | hitem | hvalue⟩ := mem_textsOfMembers h
    · exact .inl ⟨hanswered, .inl hown⟩
    · exact .inl ⟨hanswered, .inr hitem⟩
    · exact .inr (htargets ▸ hvalue)
  cases test with
  | equals target => exact hone rfl (mem_textsOfEqual h)
  | notEquals target => exact hone rfl (mem_textsOfEqual h)
  | order direction target => exact hone rfl (mem_textsOfOrder h)
  | contains target =>
      rcases mem_textsOfIncludes h with ⟨items, rfl, hitem⟩ | htarget
      · exact .inl ⟨isUnanswered_arr_of_mem hitem, .inr ⟨items, rfl, hitem⟩⟩
      · exact .inr ⟨target, List.mem_singleton_self target, htarget⟩
  | includesAny values nonempty => exact hseveral rfl h
  | includesAll values nonempty => exact hseveral rfl h
  | _ => cases h

theorem Reads.hasText (h : test.Reads answer v)
    (htargets : ∀ target ∈ test.targets, target.toJson.hasText room = true)
    (hanswer : isUnanswered answer = false → answer.hasText room = true) :
    v.hasText room = true := by
  rcases h with ⟨hanswered, rfl | ⟨items, rfl, hitem⟩⟩ | ⟨target, htarget, rfl⟩
  · exact hanswer hanswered
  · exact Json.hasText_of_mem_arr (hanswer hanswered) hitem
  · exact htargets target htarget

end AnswerTest

variable {answers : Answers}

theorem Answers.HasTexts.answerTo (h : answers.HasTexts room) (id : String)
    (hanswered : isUnanswered (answers.answerTo id) = false) :
    (answers.answerTo id).hasText room = true := by
  unfold Answers.answerTo at hanswered ⊢
  cases hfound : Entries.get? answers id with
  | none =>
      rw [hfound] at hanswered
      cases hanswered
  | some answer => exact h _ (Entries.mem_of_get? hfound)

/-- Answers from a document have texts where there is room for one level more than the document is
read with. -/
theorem Answers.hasTexts_of_readWithin {document : String} {levels : Nat}
    (h : Json.readWithin ⟨some Json.maxIntegerDigits, some levels⟩ document =
      .ok (.obj answers)) :
    answers.HasTexts (levels + 1) :=
  fun _ hentry => Json.hasText_of_mem_obj (Json.hasText_of_readWithin h) hentry

theorem Answers.HasTexts.restrict (h : answers.HasTexts room) (ids : List String) :
    (answers.restrict ids).HasTexts room :=
    fun entry hentry => h entry (List.mem_of_mem_filter hentry)

namespace Rule

variable {rule : Rule} {questions : Option (List Question)}

theorem HasTexts.hasText (h : rule.HasTexts room) (hanswers : answers.HasTexts room) :
    ∀ v ∈ rule.texts questions answers, v.hasText room = true := by
  intro v hv
  unfold texts at hv
  split at hv
  · cases hv
  · rename_i typed htyped
    obtain ⟨entry, hentry, htext⟩ := List.mem_flatMap.mp hv
    have hmem : entry ∈ typed := by
      revert hentry
      dsimp only
      split <;> exact mem_of_mem_upToFirst
    have hcondition := mem_conditions_of_resolve htyped entry hmem
    refine (AnswerTest.reads_of_mem_texts htext).hasText (fun target htarget => ?_)
      (hanswers.answerTo entry.1.questionId)
    exact h target (List.mem_flatMap.mpr ⟨entry.1, hcondition, htarget⟩)

end Rule

/-- The search for a matching rule takes the texts that the evaluations of its rules take. -/
theorem exists_rule_of_mem_textsOfFirst {questions : Option (List Question)} {strict : Bool}
    {rules : List Rule} (h : v ∈ textsOfFirst questions answers strict rules) :
    ∃ rule ∈ rules, v ∈ rule.texts questions answers := by
  induction rules with
  | nil => cases h
  | cons rule rest ih =>
      rw [textsOfFirst] at h
      rcases List.mem_append.mp h with hown | hlater
      · exact ⟨rule, List.mem_cons_self, hown⟩
      · have hrest : v ∈ textsOfFirst questions answers strict rest := by
          split at hlater
          · cases hlater
          · exact hlater
          · split at hlater
            · cases hlater
            · exact hlater
        obtain ⟨other, hother, htext⟩ := ih hrest
        exact ⟨other, List.mem_cons_of_mem rule hother, htext⟩

namespace Survey

variable {survey : Survey} {strict : Bool} {progress : Progress}

theorem exists_group_of_mem_textsOfGroups {groups : List RuleGroup}
    (h : v ∈ survey.textsOfGroups answers strict groups) :
    ∃ group ∈ groups, v ∈ textsOfFirst (some survey.questions) answers strict group.rules := by
  induction groups with
  | nil => cases h
  | cons group rest ih =>
      rw [textsOfGroups] at h
      rcases List.mem_append.mp h with hown | hlater
      · exact ⟨group, List.mem_cons_self, hown⟩
      · have hrest : v ∈ survey.textsOfGroups answers strict rest := by
          split at hlater
          · cases hlater
          · exact hlater
        obtain ⟨other, hother, htext⟩ := ih hrest
        exact ⟨other, List.mem_cons_of_mem group hother, htext⟩

theorem HasTexts.hasText (h : survey.HasTexts room) (hanswers : answers.HasTexts room)
    {id : String} : ∀ v ∈ survey.textsAt answers strict progress id, v.hasText room = true := by
  intro v hv
  obtain ⟨group, hgroup, hfirst⟩ := exists_group_of_mem_textsOfGroups hv
  obtain ⟨rule, hrule, htext⟩ := exists_rule_of_mem_textsOfFirst hfirst
  have hdeclared := (declared_of_mem_groupsAt hgroup hrule).1
  exact (h _ hdeclared).hasText (hanswers.restrict progress.presented) v htext

end Survey

namespace Walker

variable {survey : Survey} {strict : Bool} {progress : Progress} {walker : Walker} {stride : Stride}

theorem hasText_of_mem_texts (hsurvey : survey.HasTexts room) (hanswers : answers.HasTexts room) :
    ∀ v ∈ walker.texts survey answers strict progress, v.hasText room = true := by
  have hnext {progress : Progress} {next : Option Nat} :
      ∀ v ∈ textsOfNext survey answers strict progress next, v.hasText room = true := by
    unfold textsOfNext
    split
    · exact hsurvey.hasText hanswers
    · exact List.forall_mem_nil _
  cases walker with
  | fresh => exact hnext
  | ahead position => exact hnext
  | done => exact List.forall_mem_nil _

/-- A stride that takes texts is the stride if all of the texts exist, and else there is none. -/
theorem advanceWithin_eq_ok_iff :
    walker.advanceWithin room survey answers strict progress = .ok stride ↔
      (∀ v ∈ walker.texts survey answers strict progress, v.hasText room = true)
        ∧ stride = walker.advance survey answers strict progress := by
  rw [advanceWithin, bind_eq_ok]
  simp only [mapM_eq_ok_map_iff fun v _ _ => Json.displayWithin_eq_ok_iff]
  constructor
  · rintro ⟨texts, ⟨htexts, rfl⟩, ⟨⟩⟩
    exact ⟨htexts, rfl⟩
  · rintro ⟨htexts, rfl⟩
    exact ⟨_, ⟨htexts, rfl⟩, rfl⟩

theorem advanceWithin_eq_ok (hsurvey : survey.HasTexts room) (hanswers : answers.HasTexts room) :
    walker.advanceWithin room survey answers strict progress
      = .ok (walker.advance survey answers strict progress) :=
  advanceWithin_eq_ok_iff.mpr ⟨hasText_of_mem_texts hsurvey hanswers, rfl⟩

theorem advanceWithin_failsOnly :
    FailsOnly [.noSuchValue, .tooDeep] (walker.advanceWithin room survey answers strict progress) :=
  (FailsOnly.mapM fun _ _ => Json.displayWithin_failsOnly).bind fun _ _ => .ok

/-- The strides of a walk by number, where there is room for values of so many levels.  A walk that
has failed goes no further. -/
def strideAtWithin (room : Nat) (survey : Survey) (strict : Bool) (answersAt : Nat → Answers)
    (progress : Progress) (walker : Walker) : Nat → Except Fault Stride
  | 0 => walker.advanceWithin room survey (answersAt 0) strict progress
  | k + 1 => do
    let first ← walker.advanceWithin room survey (answersAt 0) strict progress
    strideAtWithin room survey strict (fun i => answersAt (i + 1)) first.progress first.walker k

/-- A stride that has not failed is the stride of that number. -/
theorem eq_strideAt_of_within {answersAt : Nat → Answers} {k : Nat}
    (h : strideAtWithin room survey strict answersAt progress walker k = .ok stride) :
    stride = strideAt survey strict answersAt progress walker k := by
  induction k generalizing answersAt progress walker with
  | zero => exact (advanceWithin_eq_ok_iff.mp h).2
  | succ k ih =>
      obtain ⟨first, hfirst, hlater⟩ := bind_eq_ok.mp h
      rw [(advanceWithin_eq_ok_iff.mp hfirst).2] at hlater
      exact ih hlater

theorem strideAtWithin_failsOnly {answersAt : Nat → Answers} (k : Nat) :
    FailsOnly [.noSuchValue, .tooDeep]
      (strideAtWithin room survey strict answersAt progress walker k) := by
  induction k generalizing answersAt progress walker with
  | zero => exact advanceWithin_failsOnly
  | succ k ih => exact advanceWithin_failsOnly.bind fun _ _ => ih

theorem strideAtWithin_eq_ok {answersAt : Nat → Answers} (hsurvey : survey.HasTexts room)
    (hanswers : ∀ i, (answersAt i).HasTexts room) (k : Nat) :
    strideAtWithin room survey strict answersAt progress walker k
      = .ok (strideAt survey strict answersAt progress walker k) := by
  induction k generalizing answersAt progress walker with
  | zero => exact advanceWithin_eq_ok hsurvey (hanswers 0)
  | succ k ih =>
      rw [strideAtWithin, advanceWithin_eq_ok hsurvey (hanswers 0)]
      exact ih fun i => hanswers (i + 1)

end Walker

namespace Trail

variable {survey : Survey} {strict : Bool} {progress : Progress} {walker : Walker}

theorem followingWithin_eq_ok (hsurvey : survey.HasTexts room) (hanswers : answers.HasTexts room)
    (steps : Nat) : followingWithin room survey answers strict steps progress walker
      = .ok (following survey answers strict steps progress walker) := by
  induction steps generalizing progress walker with
  | zero => rfl
  | succ steps ih =>
      rw [followingWithin, following, Walker.advanceWithin_eq_ok hsurvey hanswers]
      generalize walker.advance survey answers strict progress = stride
      cases houtcome : stride.outcome with
      | error invalid => simp only [bind, Except.bind, houtcome, pure, Except.pure]
      | ok decision =>
          cases decision with
          | none => simp only [bind, Except.bind, houtcome, pure, Except.pure]
          | some decision => simp only [bind, Except.bind, houtcome, pure, Except.pure, ih]

end Trail

/-- Where answers and the values of rules have texts, a walk is what it comes to. -/
theorem Survey.walkWithin_eq_ok {survey : Survey} (hsurvey : survey.HasTexts room)
    (hanswers : answers.HasTexts room) (strict : Bool) :
    survey.walkWithin room answers strict = .ok (survey.walk answers strict) :=
  Trail.followingWithin_eq_ok hsurvey hanswers _

namespace Survey

namespace Sample

/-- The second question is left out if the first has a certain answer, which is compared as text. -/
def compared : Survey :=
  let rule : Rule := ⟨"r1", [⟨"q1", .equals (.text "no")⟩], by simp, .all, .skip "q2"⟩
  let questions := [plain "q1" [rule], plain "q2" []]
  ⟨questions, questions.map fun question => ⟨question.id, question.rules⟩⟩

/-- An answer that is compared as text although it is none, and is another one every time. -/
def alternating (i : Nat) : Answers := [("q1", .obj [("even", .bool (i % 2 == 0))])]

end Sample

open Survey.Sample

theorem hasTexts_compared : compared.HasTexts 2 := by
  intro declared hdeclared target htarget
  obtain rfl := List.mem_singleton.mp hdeclared
  obtain rfl := List.mem_singleton.mp htarget
  rfl

/-- With room for one level only, there is no text to compare. -/
example : Walker.advanceWithin 1 compared (alternating 5) false .start .fresh = .error .tooDeep :=
  rfl

end Survey

end Questionnaire
