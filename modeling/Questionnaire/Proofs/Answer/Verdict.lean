import Questionnaire.Answer.Validation
import Questionnaire.Proofs.Lists
import Questionnaire.Proofs.Number.Decimal
import Questionnaire.Proofs.Number.Range
import Questionnaire.Proofs.Schema.Faultless
import Questionnaire.Proofs.Walk.Replay

/-!
When an answer gets a verdict.  A check of an answer ends without one in three ways only: a bound
that the question configures has no text, a limit cannot be compared with, or a slider has more
steps between its lower end and the answer than decimal arithmetic can count.
-/

namespace Questionnaire

attribute [local instance] Binary64.corePow

attribute [local irreducible] Binary64.one Binary64.limit

/-- A limit is configured that cannot be used. -/
def LimitFails {α : Type} (usable : α → Prop) (limit : Option α) : Prop :=
  ∃ a, limit = some a ∧ ¬ usable a

/-- A count of items that a list can have. -/
def IsLength (n : Int) : Prop := 0 ≤ n ∧ n ≤ AnswerCheck.maxLength

namespace AnswerCheck

open Validated

/-- A limit is read, unless it fails. -/
def ReadsLimit {α : Type} (x : Validated α) (fails : Prop) : Prop :=
  fails ∧ x = .fault .unusableLimit ∨ ¬ fails ∧ ∃ limit, x = .valid limit

/-- A check behind two limits ends in a fault exactly if one of them fails. -/
theorem limits_eq_fault_iff {α β γ : Type} {first : Validated α} {second : Validated β}
    {check : α → β → Validated γ} {firstFails secondFails : Prop} {cause : Fault}
    (hfirst : ReadsLimit first firstFails) (hsecond : ReadsLimit second secondFails)
    (hcheck : ∀ a b, (check a b).Faultless) :
    (first.andThen fun a => second.andThen (check a)) = .fault cause ↔
      cause = .unusableLimit ∧ (firstFails ∨ secondFails) := by
  rcases hfirst with ⟨hfails, rfl⟩ | ⟨hreads, a, rfl⟩
  · simp [andThen, hfails, eq_comm]
  · rcases hsecond with ⟨hfails, rfl⟩ | ⟨hreads', b, rfl⟩
    · simp [andThen, hfails, eq_comm]
    · simp [andThen, hreads, hreads', hcheck a b cause]

theorem bound_reads (limit : Option Number) :
    ReadsLimit (bound limit) (LimitFails Number.IsUsable limit) := by
  cases limit with
  | none => exact .inr ⟨by simp [LimitFails], none, rfl⟩
  | some limit =>
      have hlimit : LimitFails Number.IsUsable (some limit) ↔ ¬ limit.IsUsable := by
        simp [LimitFails]
      rw [ReadsLimit, hlimit, ← Number.exists_toBinary64_iff, bound]
      cases limit.toBinary64 with
      | ok x => exact .inr ⟨by simp, some x, rfl⟩
      | error cause => exact .inl ⟨by simp, rfl⟩

theorem lengthLimit_reads (limit : Option Int) :
    ReadsLimit (lengthLimit limit) (LimitFails IsLength limit) := by
  cases limit with
  | none => exact .inr ⟨by simp [LimitFails], none, rfl⟩
  | some n =>
      have hlimit : LimitFails IsLength (some n) ↔ ¬ IsLength n := by simp [LimitFails]
      rw [ReadsLimit, hlimit, lengthLimit]
      split
      · rename_i husable
        exact .inr ⟨not_not_intro husable, some n.toNat, rfl⟩
      · rename_i hunusable
        exact .inl ⟨hunusable, rfl⟩

theorem boundedFloat_eq_fault_iff {low high : Option Number} {v : Json} {cause : Fault} :
    boundedFloat low high v = .fault cause ↔
      cause = .unusableLimit
        ∧ (LimitFails Number.IsUsable low ∨ LimitFails Number.IsUsable high) := by
  refine limits_eq_fault_iff (bound_reads low) (bound_reads high) fun low high => ?_
  refine (Schema.float_faultless v).andThen fun x => ?_
  split
  · exact faultless_issue
  · split
    · exact faultless_issue
    · exact faultless_valid

theorem boundedTexts_eq_fault_iff {least most : Option Int} {v : Json} {cause : Fault} :
    boundedTexts least most v = .fault cause ↔
      cause = .unusableLimit ∧ (LimitFails IsLength least ∨ LimitFails IsLength most) :=
  limits_eq_fault_iff (lengthLimit_reads least) (lengthLimit_reads most) fun _ _ =>
    (Schema.boundedList_faultless Schema.text_faultless _ _ v).map

/-- A number between two bounds, the bounds brought into binary. -/
def Between (low high : Number) (x : Binary64) : Prop :=
  ∃ least most, low.toBinary64 = .ok least ∧ high.toBinary64 = .ok most
    ∧ Number.le (.float least) (.float x) = true ∧ Number.le (.float x) (.float most) = true

theorem bound_some_eq_valid_iff {limit : Number} {x : Option Binary64} :
    bound (some limit) = .valid x ↔ ∃ y, limit.toBinary64 = .ok y ∧ some y = x := by
  rw [bound]
  cases limit.toBinary64 <;> simp

theorem boundedFloat_eq_valid_iff {low high : Number} {v : Json} {x : Binary64} :
    boundedFloat (some low) (some high) v = .valid x ↔
      Schema.float v = .valid x ∧ Between low high x := by
  have hkept (least most y : Binary64) :
      (if !keeps Number.le (some most) y then .issue (.atMost (boundText (some most)))
        else if !keeps (fun a b => b.le a) (some least) y then
          .issue (.atLeast (boundText (some least)))
        else .valid y) = (.valid x : Validated Binary64) ↔
      y = x ∧ Number.le (.float least) (.float y) = true
        ∧ Number.le (.float y) (.float most) = true := by
    unfold keeps
    cases hlow : Number.le (.float least) (.float y) <;>
      cases hhigh : Number.le (.float y) (.float most) <;> simp [hlow, hhigh, issue]
  rw [boundedFloat]
  simp only [andThen_eq_valid_iff, bound_some_eq_valid_iff]
  constructor
  · rintro ⟨_, ⟨least, hleast, rfl⟩, _, ⟨most, hmost, rfl⟩, y, hy, hvalid⟩
    obtain ⟨rfl, hbetween⟩ := (hkept least most y).mp hvalid
    exact ⟨hy, least, most, hleast, hmost, hbetween⟩
  · rintro ⟨hx, least, most, hleast, hmost, hbetween⟩
    exact ⟨_, ⟨least, hleast, rfl⟩, _, ⟨most, hmost, rfl⟩, x, hx,
      (hkept least most x).mpr ⟨rfl, hbetween⟩⟩

theorem decimalOf_eq_ok_iff {a : Number} {d : Decimal} :
    decimalOf a = .ok d ↔ a.HasText ∧ d = .ofNumber a := by
  rw [decimalOf, map_eq_ok]
  simp only [Json.numberText_eq_ok_iff]
  exact ⟨fun ⟨_, ⟨hshort, _⟩, hd⟩ => ⟨hshort, hd.symm⟩,
    fun ⟨hshort, hd⟩ => ⟨a.text, ⟨hshort, rfl⟩, hd.symm⟩⟩

theorem decimalOf_of_hasText {a : Number} (h : a.HasText) :
    decimalOf a = .ok (.ofNumber a) := decimalOf_eq_ok_iff.mpr ⟨h, rfl⟩

theorem decimalOf_of_not_hasText {a : Number} (h : ¬ a.HasText) :
    decimalOf a = .error .noSuchValue := by
  rw [decimalOf, Json.numberText_eq_error_iff.mpr ⟨rfl, h⟩]
  rfl

theorem decimalOf_failsOnly (a : Number) : FailsOnly [.noSuchValue] (decimalOf a) := by
  intro cause hcause
  by_cases hshort : a.HasText
  · rw [decimalOf_of_hasText hshort] at hcause
    cases hcause
  · rw [decimalOf_of_not_hasText hshort] at hcause
    exact List.mem_singleton.mpr (Except.error.inj hcause).symm

section Rules

variable {α : Type} {x : Except Fault (Validated α)} {cause : Fault}

/-- A rule has no verdict where its arithmetic has no result. -/
theorem byRule_eq_fault_iff : byRule x = .fault cause ↔
    x = .error cause ∧ cause ≠ .noSuchValue ∨ x = .ok (.fault cause) := by
  unfold byRule
  split
  · simp
  · simp only [issue, reduceCtorEq, Except.error.injEq, or_false, false_iff]
    rintro ⟨rfl, hother⟩
    exact hother rfl
  · rename_i other hother
    simp only [fault.injEq, Except.error.injEq, reduceCtorEq, or_false]
    exact ⟨fun h => ⟨h, h ▸ hother⟩, And.left⟩

theorem byRule_eq_valid_iff {a : α} : byRule x = .valid a ↔ x = .ok (.valid a) := by
  unfold byRule
  split <;> simp [issue]

end Rules

/-- Decimal arithmetic cannot count the steps from the lower end to a value: both are the same
infinity, or the distance has no remainder by the step.  An end or a step without a text is not
taken in. -/
def LacksSteps (low step value : Number) : Prop :=
  (∃ negative, value = .float (.infinite negative) ∧ low = .float (.infinite negative))
    ∨ low.HasText ∧ step.HasText
      ∧ ∃ distance, (Decimal.ofNumber value).sub (.ofNumber low) = .ok distance
        ∧ distance.LacksRemainder (.ofNumber step)

section Steps

variable {low step : Number} {x : Binary64} {cause : Fault}

theorem isOnStep_of_hasText (h : low.HasText) : isOnStep low step (.float x)
    = (Decimal.ofNumber (.float x)).sub (.ofNumber low) >>= fun distance =>
      decimalOf step >>= distance.isMultipleOf := by
  rw [isOnStep, decimalOf_of_hasText (Number.hasText_float x), decimalOf_of_hasText h]
  rfl

theorem isOnStep_of_not_hasText (h : ¬ low.HasText) :
    isOnStep low step (.float x) = .error .noSuchValue := by
  rw [isOnStep, decimalOf_of_hasText (Number.hasText_float x), decimalOf_of_not_hasText h]
  rfl

/-- Steps are not counted where a text or a decimal result is missing. -/
theorem isOnStep_eq_error_iff : isOnStep low step (.float x) = .error cause
    ∧ cause ≠ .noSuchValue ↔ cause = .noDecimalResult ∧ LacksSteps low step (.float x) := by
  by_cases hlow : low.HasText
  · rw [isOnStep_of_hasText hlow, bind_eq_error, Decimal.sub_eq_error_iff, LacksSteps]
    simp only [Decimal.ofNumber_eq_infinite_iff]
    by_cases hstep : step.HasText
    · have hmultiple (distance : Decimal) : (decimalOf step >>= distance.isMultipleOf)
          = .error cause ↔ cause = .noDecimalResult ∧ distance.LacksRemainder (.ofNumber step) := by
        rw [decimalOf_of_hasText hstep, ← Decimal.isMultipleOf_eq_error_iff]
        rfl
      simp only [hmultiple, hlow, hstep, true_and]
      constructor
      · rintro ⟨⟨hcause, hinfinite⟩ | ⟨distance, hdistance, hcause, hlacks⟩, -⟩
        · exact ⟨hcause, .inl hinfinite⟩
        · exact ⟨hcause, .inr ⟨distance, hdistance, hlacks⟩⟩
      · rintro ⟨rfl, hinfinite | ⟨distance, hdistance, hlacks⟩⟩
        · exact ⟨.inl ⟨rfl, hinfinite⟩, nofun⟩
        · exact ⟨.inr ⟨distance, hdistance, rfl, hlacks⟩, nofun⟩
    · have hmultiple (distance : Decimal) : (decimalOf step >>= distance.isMultipleOf)
          = .error cause ↔ cause = .noSuchValue := by
        rw [decimalOf_of_not_hasText hstep]
        exact ⟨fun h => (Except.error.inj h).symm, fun h => congrArg Except.error h.symm⟩
      simp only [hmultiple, hstep, false_and, and_false, or_false]
      constructor
      · rintro ⟨⟨hcause, hinfinite⟩ | ⟨distance, -, hcause⟩, hother⟩
        · exact ⟨hcause, hinfinite⟩
        · exact absurd hcause hother
      · rintro ⟨rfl, hinfinite⟩
        exact ⟨.inl ⟨rfl, hinfinite⟩, nofun⟩
  · rw [isOnStep_of_not_hasText hlow]
    refine iff_of_false (fun ⟨hcause, hother⟩ => hother (Except.error.inj hcause).symm) ?_
    rintro ⟨-, ⟨negative, -, rfl⟩ | ⟨hshort, -⟩⟩
    · exact hlow (Number.hasText_float _)
    · exact hlow hshort

theorem onStep_eq_fault_iff : onStep low step x = .fault cause ↔
    cause = .noDecimalResult ∧ LacksSteps low step (.float x) := by
  rw [← isOnStep_eq_error_iff, onStep, byRule_eq_fault_iff]
  cases isOnStep low step (.float x) with
  | error other => simp [bind, Except.bind]
  | ok reached => cases reached <;> simp [bind, Except.bind, pure, Except.pure, issue]

end Steps

/-- The decimals of points exist exactly if each of them has a text. -/
theorem mapM_decimalOf_eq_ok_iff {allocation : Entries Number} {terms : List Decimal} :
    (allocation.mapM fun entry => decimalOf entry.2) = .ok terms ↔
      (∀ entry ∈ allocation, entry.2.HasText)
        ∧ terms = allocation.map fun entry => .ofNumber entry.2 :=
  mapM_eq_ok_map_iff fun _ _ _ => decimalOf_eq_ok_iff

/-- Points that are not negative have a sum. -/
theorem sumsTo_faultless (total : Number) (allocation : Entries Number) :
    (sumsTo total allocation).Faultless := by
  unfold sumsTo
  split
  · exact faultless_issue
  · rename_i hnonneg
    have hsum {terms : List Decimal}
        (hterms : (allocation.mapM fun entry => decimalOf entry.2) = .ok terms) :
        FailsOnly [.noSuchValue] (Decimal.sum terms) := by
      obtain ⟨-, rfl⟩ := mapM_decimalOf_eq_ok_iff.mp hterms
      have hfinite : ∀ term ∈ allocation.map fun entry => Decimal.ofNumber entry.2,
          term ≠ .infinite true := by
        intro term hterm hbelow
        obtain ⟨entry, hentry, rfl⟩ := List.mem_map.mp hterm
        have hpoints := Decimal.ofNumber_eq_infinite_iff.mp hbelow
        refine hnonneg (List.any_eq_true.mpr ⟨entry, hentry, ?_⟩)
        rw [hpoints]
        rfl
      obtain ⟨sum, hsum⟩ := Decimal.exists_sum hfinite
      rw [hsum]
      exact .ok
    intro cause hfault
    rcases byRule_eq_fault_iff.mp hfault with ⟨herror, hother⟩ | hverdict
    · -- Only a missing text fails, and the rule takes that for an issue.
      refine hother (List.mem_singleton.mp (FailsOnly.bind
        (.mapM fun entry _ => decimalOf_failsOnly entry.2) (fun terms hterms => ?_) cause herror))
      refine (hsum hterms).bind fun allocated _ => (decimalOf_failsOnly total).bind fun most _ => ?_
      split
      · exact .ok
      · exact .ok
    · obtain ⟨terms, -, hverdict⟩ := bind_eq_ok.mp hverdict
      obtain ⟨allocated, -, hverdict⟩ := bind_eq_ok.mp hverdict
      obtain ⟨most, -, hverdict⟩ := bind_eq_ok.mp hverdict
      split at hverdict
      · cases hverdict
      · cases hverdict

theorem keysIn_faultless (allowed : List String) (allocation : Entries Number) :
    (keysIn allowed allocation).Faultless := by
  unfold keysIn
  dsimp only
  split
  · exact faultless_valid
  · exact faultless_issue

theorem oneOf_faultless (allowed texts : List String) (answer : Json) :
    (oneOf allowed texts answer).Faultless := by
  unfold oneOf
  dsimp only
  split
  · exact faultless_valid
  · exact faultless_issue

end AnswerCheck

theorem AnswerShape.value_faultless (shape : AnswerShape) (v : Json) :
    (shape.value v).Faultless := by
  have htexts (v : Json) : (AnswerShape.texts.value v).Faultless :=
    (Schema.list_faultless Schema.text_faultless v).map
  cases shape with
  | text => exact (Schema.text_faultless v).map
  | number => exact (Schema.number_faultless v).map
  | integer => exact (Schema.integer_faultless v).map
  | truth => exact (Schema.strictTruth_faultless v).map
  | texts => exact htexts v
  | textOrTexts =>
      exact Schema.either_faultless (fun v => (Schema.text_faultless v).map) htexts v
  | grid =>
      exact Schema.either_faultless
        (fun v => (Schema.dictionary_faultless Schema.text_faultless v).map)
        (fun v => (Schema.dictionary_faultless (Schema.list_faultless Schema.text_faultless) v).map)
        v
  | allocation => exact (Schema.dictionary_faultless Schema.number_faultless v).map
  | nothing => exact (Schema.nothing_faultless v).map

namespace Question

open AnswerCheck Validated

/-- A limit that the question puts on its answers cannot be compared with. -/
def HasUnusableLimit (question : Question) : Prop :=
  match question.kind with
  | .checkbox => LimitFails IsLength question.minSelections
      ∨ LimitFails IsLength question.maxSelections
  | .slider => ¬ question.sliderMin.IsUsable ∨ ¬ question.sliderMax.IsUsable
  | .number => LimitFails Number.IsUsable question.min ∨ LimitFails Number.IsUsable question.max
  | _ => False

/-- The answer to a slider lies between its ends, but decimal arithmetic cannot count the steps. -/
def StepsBeyond (question : Question) (answer : Json) : Prop :=
  question.kind = .slider ∧ ∃ x, Schema.float answer = .valid x
    ∧ Between question.sliderMin question.sliderMax x
    ∧ LacksSteps question.sliderMin question.sliderStep (.float x)

variable {question : Question} {answer : Json} {cause : Fault}

theorem boundedInteger_faultless (low high : Int) (v : Json) :
    (boundedInteger low high v).Faultless := by
  refine (Schema.integer_faultless v).andThen fun i => ?_
  split
  · exact faultless_issue
  · split
    · exact faultless_issue
    · exact faultless_valid

theorem among_eq_fault_iff {check : Schema.Check Json} :
    ((check answer).andThen fun value =>
        if question.restrictsOptions then oneOf question.choices (chosenTexts value) value
        else .valid value) = .fault cause ↔ check answer = .fault cause := by
  rw [andThen_eq_fault_iff]
  have hrest (value : Json) : (if question.restrictsOptions
      then oneOf question.choices (chosenTexts value) value else .valid value).Faultless := by
    split
    · exact oneOf_faultless _ _ _
    · exact faultless_valid
  simp [fun value => hrest value cause]

theorem constantSum_faultless :
    ((((Schema.dictionary Schema.number answer).andThen fun allocation =>
      if question.choices.isEmpty then .valid allocation
      else keysIn question.choices allocation).andThen
        (sumsTo question.pointsToShare)).map AnswerShape.ofAllocation).Faultless := by
  have hkeys (allocation : Entries Number) : (if question.choices.isEmpty then .valid allocation
      else keysIn question.choices allocation).Faultless := by
    split
    · exact faultless_valid
    · exact keysIn_faultless _ _
  exact (((Schema.dictionary_faultless Schema.number_faultless answer).andThen hkeys).andThen
    (sumsTo_faultless _)).map

theorem answerCheck_slider (hkind : question.kind = .slider) :
    question.answerCheck answer = .fault cause ↔
      cause = .unusableLimit ∧ (¬ question.sliderMin.IsUsable ∨ ¬ question.sliderMax.IsUsable)
        ∨ cause = .noDecimalResult ∧ ∃ x, Schema.float answer = .valid x
          ∧ Between question.sliderMin question.sliderMax x
          ∧ LacksSteps question.sliderMin question.sliderStep (.float x) := by
  have hlimit (limit : Number) : LimitFails Number.IsUsable (some limit) ↔ ¬ limit.IsUsable := by
    simp [LimitFails]
  rw [answerCheck, hkind]
  dsimp only
  rw [map_eq_fault_iff, andThen_eq_fault_iff, boundedFloat_eq_fault_iff, hlimit, hlimit]
  simp only [boundedFloat_eq_valid_iff, onStep_eq_fault_iff]
  refine or_congr Iff.rfl ?_
  constructor
  · rintro ⟨x, ⟨hx, hbetween⟩, hcause, hlacks⟩
    exact ⟨hcause, x, hx, hbetween, hlacks⟩
  · rintro ⟨hcause, x, hx, hbetween, hlacks⟩
    exact ⟨x, ⟨hx, hbetween⟩, hcause, hlacks⟩

theorem answerCheck_number (hkind : question.kind = .number) :
    question.answerCheck answer = .fault cause ↔ cause = .unusableLimit
      ∧ (LimitFails Number.IsUsable question.min ∨ LimitFails Number.IsUsable question.max) := by
  rw [answerCheck, hkind]
  dsimp only
  split
  · rw [map_eq_fault_iff, boundedFloat_eq_fault_iff]
  · rename_i hnone
    have hmin : ¬ LimitFails Number.IsUsable question.min := by
      rintro ⟨limit, hlimit, -⟩
      simp [hlimit] at hnone
    have hmax : ¬ LimitFails Number.IsUsable question.max := by
      rintro ⟨limit, hlimit, -⟩
      simp [hlimit] at hnone
    simp [hmin, hmax, AnswerShape.value_faultless _ answer cause]

theorem answerCheck_checkbox (hkind : question.kind = .checkbox) :
    question.answerCheck answer = .fault cause ↔ cause = .unusableLimit
      ∧ (LimitFails IsLength question.minSelections
        ∨ LimitFails IsLength question.maxSelections) := by
  rw [answerCheck, hkind, ← boundedTexts_eq_fault_iff (v := answer)]
  exact among_eq_fault_iff

/-- The other kinds of questions look at every answer. -/
theorem answerCheck_faultless (hslider : question.kind ≠ .slider)
    (hnumber : question.kind ≠ .number) (hcheckbox : question.kind ≠ .checkbox) :
    (question.answerCheck answer).Faultless := by
  have hamong (shape : AnswerShape) : ((shape.value answer).andThen fun value =>
      if question.restrictsOptions then oneOf question.choices (chosenTexts value) value
      else .valid value).Faultless := fun cause hfault =>
    shape.value_faultless answer cause (among_eq_fault_iff.mp hfault)
  rw [answerCheck]
  cases hkind : question.kind with
  | slider => exact absurd hkind hslider
  | number => exact absurd hkind hnumber
  | checkbox => exact absurd hkind hcheckbox
  | rating | opinionScale | emojiRating | likert =>
      exact (boundedInteger_faultless 1 question.ratingUpperBound answer).map
  | nps => exact (boundedInteger_faultless 0 10 answer).map
  | constantSum => exact constantSum_faultless
  | multipleChoice | dropdown | imageChoice => exact hamong _
  | _ => exact AnswerShape.value_faultless _ answer

/-- An answer that is not null gets no verdict exactly if a limit is unusable, or if the steps of a
slider cannot be counted. -/
theorem answerCheck_eq_fault_iff : question.answerCheck answer = .fault cause ↔
    cause = .unusableLimit ∧ question.HasUnusableLimit
      ∨ cause = .noDecimalResult ∧ question.StepsBeyond answer := by
  by_cases hslider : question.kind = .slider
  · simp [answerCheck_slider hslider, HasUnusableLimit, StepsBeyond, hslider]
  · have hsteps : ¬ question.StepsBeyond answer := fun h => hslider h.1
    by_cases hnumber : question.kind = .number
    · simp [answerCheck_number hnumber, HasUnusableLimit, hnumber, hsteps]
    · by_cases hcheckbox : question.kind = .checkbox
      · simp [answerCheck_checkbox hcheckbox, HasUnusableLimit, hcheckbox, hsteps]
      · have hlimit : ¬ question.HasUnusableLimit := by
          unfold HasUnusableLimit
          split
          · exact absurd ‹_› hcheckbox
          · exact absurd ‹_› hslider
          · exact absurd ‹_› hnumber
          · exact not_false
        simp [answerCheck_faultless hslider hnumber hcheckbox cause, hlimit, hsteps]

/-- A number that bounds the answers has too many digits to be part of the name of their check. -/
def HasUnwritableBound (question : Question) : Prop :=
  ∃ bound ∈ question.answerBounds, ¬ bound.HasText

theorem mapM_answerBounds_eq_error_iff :
    question.answerBounds.mapM Json.numberText = .error cause ↔
      cause = .noSuchValue ∧ question.HasUnwritableBound := by
  constructor
  · intro h
    obtain ⟨bound, hbound, hnone⟩ := exists_error_of_mapM h
    obtain ⟨hcause, hlong⟩ := Json.numberText_eq_error_iff.mp hnone
    exact ⟨hcause, bound, hbound, hlong⟩
  · rintro ⟨rfl, bound, hbound, hlong⟩
    cases htexts : question.answerBounds.mapM Json.numberText with
    | error other =>
        obtain ⟨_, _, hnone⟩ := exists_error_of_mapM htexts
        rw [(Json.numberText_eq_error_iff.mp hnone).1]
    | ok texts =>
        obtain ⟨text, -, htext⟩ := (mapM_ok_members htexts).1 bound hbound
        exact absurd (Json.numberText_eq_ok_iff.mp htext).1 hlong

/-- An answer that is one gets the verdict of its check, if the check has a name. -/
theorem validate_of_answered (hanswered : isUnanswered answer = false)
    (hbounds : ¬ question.HasUnwritableBound) :
    question.validate answer = lines (question.answerCheck answer) := by
  rw [validate, hanswered]
  cases htexts : question.answerBounds.mapM Json.numberText with
  | error other => exact absurd (mapM_answerBounds_eq_error_iff.mp htexts).2 hbounds
  | ok texts => rfl

theorem validate_eq_error_iff : question.validate answer = .error cause ↔
    isUnanswered answer = false ∧ (cause = .noSuchValue ∧ question.HasUnwritableBound
      ∨ ¬ question.HasUnwritableBound ∧ (cause = .unusableLimit ∧ question.HasUnusableLimit
        ∨ cause = .noDecimalResult ∧ question.StepsBeyond answer)) := by
  cases hunanswered : isUnanswered answer with
  | true => simp [validate, hunanswered]
  | false =>
      by_cases hbounds : question.HasUnwritableBound
      · have hnone := mapM_answerBounds_eq_error_iff.mpr ⟨rfl, hbounds⟩
        simp [validate, hunanswered, hnone, hbounds, bind, Except.bind, eq_comm]
      · rw [validate_of_answered hunanswered hbounds, ← answerCheck_eq_fault_iff]
        cases question.answerCheck answer <;> simp [lines, hbounds]

/-- Every answer gets a verdict, with exceptions of three sorts.  No answer that is one gets a
verdict where the question bounds it by an integer of too many digits to have a text, or limits a
list to a length that no list has, or a number by an integer that has no binary counterpart; and an
answer between the ends of a slider gets none where decimal arithmetic cannot count the steps up to
it. -/
theorem validate_outcome (question : Question) (answer : Json) :
    ((∃ lines, question.validate answer = .ok lines) ↔ isUnanswered answer = true
        ∨ ¬ question.HasUnwritableBound ∧ ¬ question.HasUnusableLimit
          ∧ ¬ question.StepsBeyond answer)
      ∧ ∀ cause, question.validate answer = .error cause ↔
        isUnanswered answer = false ∧ (cause = .noSuchValue ∧ question.HasUnwritableBound
          ∨ ¬ question.HasUnwritableBound ∧ (cause = .unusableLimit ∧ question.HasUnusableLimit
            ∨ cause = .noDecimalResult ∧ question.StepsBeyond answer)) := by
  refine ⟨?_, fun cause => validate_eq_error_iff⟩
  have herror : (∃ lines, question.validate answer = .ok lines) ↔
      ∀ cause, question.validate answer ≠ .error cause := by
    cases question.validate answer <;> simp
  rw [herror]
  simp only [ne_eq, validate_eq_error_iff]
  cases isUnanswered answer with
  | true => simp
  | false =>
      constructor
      · intro h
        have hbounds : ¬ question.HasUnwritableBound := fun hbound =>
          h _ ⟨rfl, .inl ⟨rfl, hbound⟩⟩
        exact .inr ⟨hbounds, fun hlimit => h _ ⟨rfl, .inr ⟨hbounds, .inl ⟨rfl, hlimit⟩⟩⟩,
          fun hsteps => h _ ⟨rfl, .inr ⟨hbounds, .inr ⟨rfl, hsteps⟩⟩⟩⟩
      · rintro (hfalse | ⟨hbounds, hlimit, hsteps⟩) cause ⟨-, ⟨-, h⟩ | ⟨-, ⟨-, h⟩ | ⟨-, h⟩⟩⟩
        · cases hfalse
        · cases hfalse
        · cases hfalse
        · exact hbounds h
        · exact hlimit h
        · exact hsteps h

/-- A slider from zero to one in steps of `10 ^ -30`. -/
def fineSlider : Question :=
  { Survey.Sample.plain "q1" [] with
    kind := .slider, max := some 1
    step := some (.float (Digits.toBinary64 false ⟨1, -30⟩)) }

/-- A list of options that may have fewer than no members. -/
def emptiedList : Question :=
  { Survey.Sample.plain "q1" [] with kind := .checkbox, maxSelections := some (-1) }

theorem validate_withoutVerdict :
    fineSlider.validate (.num 1) = .error .noDecimalResult
      ∧ emptiedList.validate (.arr [.str "A"]) = .error .unusableLimit := by
  decide +kernel

end Question

end Questionnaire
