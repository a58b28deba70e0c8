import Questionnaire.Proofs.Scoring.Bound

/-!
Configured options as answers.  A question that takes its configured options only accepts each of
them that is not blank.  The points that the answer has are those of the label that it is read as:
the text without the blanks at its ends, and where several readings of a choice are tried, a truth
value for a word that stands for one.  An option that is its own label has its own points.
-/

namespace Questionnaire

namespace Points

/-- The label that a single text is looked up under. -/
def labelOf (question : Question) (text : String) : String :=
  chosenOption question (if question.kind = .imageChoice then asTruth (.str text) else .str text)

/-- A word for a truth value. -/
def IsTruthWord (text : String) : Prop := Text.lower (Text.trim text) ∈ ["true", "false"]

instance (text : String) : Decidable (IsTruthWord text) :=
  inferInstanceAs (Decidable (_ ∈ _))

theorem asTruth_of_not_isTruthWord {text : String} (h : ¬ IsTruthWord text) :
    asTruth (.str text) = .str text := by
  simp only [IsTruthWord, List.mem_cons, List.not_mem_nil, or_false, not_or] at h
  unfold asTruth
  dsimp only
  rw [if_neg h.1, if_neg h.2]

/-- A text without blanks at its ends is its own label, unless it is read as a truth value. -/
theorem labelOf_eq {question : Question} {text : String} (htrim : Text.trim text = text)
    (hword : question.kind = .imageChoice → ¬ IsTruthWord text) : labelOf question text = text := by
  unfold labelOf
  split
  · rename_i himage
    rw [asTruth_of_not_isTruthWord (hword himage)]
    exact htrim
  · exact htrim

/-- A single answer is looked up under its label. -/
theorem ofChoice_single {question : Question} {answer : Json}
    (hsingle : takesSeveral question = false) (hanswered : isUnanswered answer = false)
    (hlist : ∀ items, answer ≠ .arr items) : ofChoice question answer = (do
      let most ← question.bestScore.mul question.weight
      let score ← (question.scoreOf (chosenOption question answer)).mul question.weight
      return ⟨score, most⟩) := by
  unfold ofChoice bestOfChoice earnedByChoice unlessUnanswered
  rw [hsingle, hanswered]
  cases answer with
  | arr items => exact absurd rfl (hlist items)
  | _ => rfl

end Points

namespace Question

open AnswerCheck Points

/-- A question with one option to choose. -/
def AsksForOne (question : Question) : Prop :=
  question.kind ∈ [.multipleChoice, .dropdown]
    ∨ question.kind = .imageChoice ∧ question.selection = .single

variable {question : Question} {option : String}

theorem oneOf_of_mem (h : option ∈ question.choices) :
    oneOf question.choices (chosenTexts (.str option)) (.str option) = .valid (.str option) := by
  have hknown : (chosenTexts (.str option)).filter (· ∉ question.choices) = [] := by
    simp [chosenTexts, h]
  unfold oneOf
  rw [hknown]
  rfl

/-- A configured option is taken as it stands. -/
theorem answerCheck_option (hkind : question.AsksForOne) (hother : question.allowOther = false)
    (hoption : option ∈ question.choices) :
    question.answerCheck (.str option) = .valid (.str option) := by
  have hrestricts : question.restrictsOptions = true := by
    have hsome := List.ne_nil_of_mem hoption
    simp [restrictsOptions, hother, hsome]
  have hkept : (if question.restrictsOptions
      then oneOf question.choices (chosenTexts (.str option)) (.str option)
      else .valid (.str option)) = .valid (.str option) := by
    rw [if_pos hrestricts, oneOf_of_mem hoption]
  unfold AsksForOne at hkind
  simp only [List.mem_cons, List.not_mem_nil, or_false] at hkind
  unfold answerCheck
  rcases hkind with (hkind | hkind) | ⟨hkind, -⟩
  · rw [hkind]
    exact hkept
  · rw [hkind]
    exact hkept
  · rw [hkind]
    exact hkept

/-- Options bound their answers by no number. -/
theorem AsksForOne.answerBounds_eq (h : question.AsksForOne) : question.answerBounds = [] := by
  unfold AsksForOne at h
  simp only [List.mem_cons, List.not_mem_nil, or_false] at h
  unfold answerBounds
  rcases h with (hkind | hkind) | ⟨hkind, -⟩
  · rw [hkind]
  · rw [hkind]
  · rw [hkind]

theorem validate_option (hkind : question.AsksForOne) (hother : question.allowOther = false)
    (hoption : option ∈ question.choices) (hblank : Text.allBlank option = false) :
    question.validate (.str option) = .ok [] := by
  have hanswered : isUnanswered (.str option) = false := hblank
  rw [validate, hanswered, hkind.answerBounds_eq, answerCheck_option hkind hother hoption]
  rfl

/-- A text that answers a question with one option to choose has the points of its label, unless the
question is not to be scored. -/
theorem score_option (hkind : question.AsksForOne) (hblank : Text.allBlank option = false) :
    question.score (.str option)
      = if question.scorable = some false then .ok (question.reported (.str option) .nothing)
        else do
          let most ← question.bestScore.mul question.weight
          let score ← (question.scoreOf (labelOf question option)).mul question.weight
          return question.reported (.str option) ⟨score, most⟩ := by
  have hmode : inMode question.kind.scoringMode question (.str option) = (do
      let most ← question.bestScore.mul question.weight
      let score ← (question.scoreOf (labelOf question option)).mul question.weight
      return ⟨score, most⟩) := by
    unfold AsksForOne at hkind
    simp only [List.mem_cons, List.not_mem_nil, or_false] at hkind
    unfold labelOf
    rcases hkind with (hkind | hkind) | ⟨hkind, hselection⟩
    · rw [hkind]
      exact ofChoice_single (by simp [takesSeveral, hkind]) hblank (by rintro _ ⟨⟩)
    · rw [hkind]
      exact ofChoice_single (by simp [takesSeveral, hkind]) hblank (by rintro _ ⟨⟩)
    · have hsingle : takesSeveral question = false := by simp [takesSeveral, hselection]
      rw [if_pos hkind, hkind, QuestionKind.scoringMode, inMode, ofCustom]
      rcases asTruth_str option with hword | ⟨value, hword⟩
      · rw [hword]
        exact ofChoice_single hsingle hblank (by rintro _ ⟨⟩)
      · rw [hword]
        exact ofChoice_single hsingle rfl (by rintro _ ⟨⟩)
  rw [score_eq, earned, hmode]
  split
  · rfl
  · cases question.bestScore.mul question.weight with
    | error cause => rfl
    | ok most => cases (question.scoreOf (labelOf question option)).mul question.weight <;> rfl

/-- An option that is not blank is accepted where only the configured options are.  Where its text
has no blanks at its ends and, for images, is no word for a truth value, it has its own points under
the weight, zero unless configured, out of the most points. -/
theorem option_accepted_and_scored (hkind : question.AsksForOne)
    (hother : question.allowOther = false) (hoption : option ∈ question.choices)
    (hblank : Text.allBlank option = false) :
    question.validate (.str option) = .ok []
      ∧ (Text.trim option = option → (question.kind = .imageChoice → ¬ IsTruthWord option) →
        question.score (.str option)
          = if question.scorable = some false then .ok (question.reported (.str option) .nothing)
            else do
              let most ← question.bestScore.mul question.weight
              let score ← (question.scoreOf option).mul question.weight
              return question.reported (.str option) ⟨score, most⟩) := by
  refine ⟨validate_option hkind hother hoption hblank, fun htrim hword => ?_⟩
  rw [score_option hkind hblank, labelOf_eq htrim hword]

/-- Options that are not what they are looked up under: one with blanks around it, and a truth
value. -/
def disguisedOptions (kind : QuestionKind) : Question :=
  { Survey.Sample.plain "q1" [] with
    kind, options := some [" A ", "True", "B"]
    optionScores := some [(" A ", 3), ("True", 2), ("B", 1)] }

theorem option_accepted_and_scored_disguised :
    (disguisedOptions .dropdown).validate (.str "True") = .ok []
      ∧ (disguisedOptions .dropdown).score (.str "True")
        = .ok ⟨"q1", 2, 3, .positionMapped, none, true, none⟩ := by
  obtain ⟨haccepted, hscored⟩ := @option_accepted_and_scored (disguisedOptions .dropdown) "True"
    (.inl (by decide)) rfl (by decide) (by decide)
  refine ⟨haccepted, (hscored (by decide) (fun himage => by cases himage)).trans ?_⟩
  decide +kernel

/-- An accepted option with blanks around it, and an image named for a truth value, have no
points. -/
theorem score_disguisedOption :
    (disguisedOptions .dropdown).validate (.str " A ") = .ok []
      ∧ ((disguisedOptions .dropdown).score (.str " A ")).map (·.score) = .ok 0
      ∧ (disguisedOptions .dropdown).scoreOf " A " = 3
      ∧ (disguisedOptions .imageChoice).validate (.str "True") = .ok []
      ∧ ((disguisedOptions .imageChoice).score (.str "True")).map (·.score) = .ok 0
      ∧ (disguisedOptions .imageChoice).scoreOf "True" = 2 := by
  decide +kernel

end Question

end Questionnaire
