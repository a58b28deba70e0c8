import Questionnaire.Proofs.Number.Numerals
import Questionnaire.Proofs.Number.Order
import Questionnaire.Proofs.Scoring.Unanswered

/-!
Comparisons of answers with numbers.  Where a question has numeric answers, or its kind is not
known, the tests see of an answer just the single number that it stands for: an answer without such
a number does not have the text of a number either.  The tests therefore form one order.
-/

namespace Questionnaire

variable {answer : Json}

theorem Text.mem_trim {s : String} {c : Char} (hc : c ∈ s.toList) (hkept : isBlank c = false) :
    c ∈ (trim s).toList := by
  obtain ⟨before, after, hsplit, hbefore, hafter⟩ := exists_trimChars_split isBlank s.toList
  rw [hsplit, List.mem_append, List.mem_append] at hc
  rw [trim, String.toList_ofList]
  rcases hc with hc | hc | hc
  · rw [hbefore c hc] at hkept
    cases hkept
  · exact hc
  · rw [hafter c hc] at hkept
    cases hkept

theorem Text.mem_of_mem_trim {s : String} {c : Char} (hc : c ∈ (trim s).toList) : c ∈ s.toList := by
  obtain ⟨before, after, hsplit, -, -⟩ := exists_trimChars_split isBlank s.toList
  rw [trim, String.toList_ofList] at hc
  rw [hsplit]
  exact List.mem_append_right _ (List.mem_append_left _ hc)

theorem singleQuantity?_of_isUnanswered (h : isUnanswered answer = true) :
    singleQuantity? answer = none := by
  cases answer with
  | arr items => rfl
  | obj entries => rfl
  | _ =>
      rw [singleQuantity?]
      · exact quantity?_of_isUnanswered h
      · exact nofun
      · exact nofun

/-- A value with the text of a number stands for a single number. -/
theorem singleQuantity?_ne_none_of_plainText {t : Number}
    (h : plainText answer = plainText (.num t)) : singleQuantity? answer ≠ none := by
  have hforeign {c : Char} (hc : c ∈ answer.display.toList) (hkept : Text.isBlank c = false) :
      Number.isNumberChar c = true := by
    have hmem : c ∈ (plainText answer).toList := Text.mem_trim hc hkept
    rw [h] at hmem
    exact Number.isNumberChar_text t c (Text.mem_of_mem_trim hmem)
  cases answer with
  | num value => exact Option.some_ne_none value
  | str s =>
      obtain ⟨x, hx⟩ := Json.quantity?_text t
      have hread : (Json.str s).quantity? = some (.float x) := by
        rw [← Json.quantity?_trim s, ← hx, ← Json.quantity?_trim t.text]
        exact congrArg (fun text => (Json.str text).quantity?) h
      rw [singleQuantity?, hread]
      · exact Option.some_ne_none _
      · exact nofun
      · exact nofun
  -- Everything else is shown with a character that no number has.
  | null => exact absurd (hforeign (c := 'N') (by decide) (by decide)) (by decide)
  | bool value =>
      cases value with
      | true => exact absurd (hforeign (c := 'T') (by decide) (by decide)) (by decide)
      | false => exact absurd (hforeign (c := 'F') (by decide) (by decide)) (by decide)
  | arr items =>
      have hopen : '[' ∈ (Json.arr items).display.toList := by simp [Json.display, Json.shown]
      exact absurd (hforeign hopen (by decide)) (by decide)
  | obj entries =>
      have hopen : '\x7b' ∈ (Json.obj entries).display.toList := by
        simp [Json.display, Json.shown]
      exact absurd (hforeign hopen (by decide)) (by decide)

namespace AnswerTest

variable (answer)

theorem ordered_number (direction : Direction) (t : Number) :
    ordered true direction answer (.number t)
      = (singleQuantity? answer).any fun a => compareNumbers direction a t := by
  unfold ordered
  split
  · rfl
  · rfl
  · rfl
  · split
    · rename_i hnone
      rw [singleQuantity?_of_isUnanswered hnone]
      rfl
    · rw [show singleQuantity? (Scalar.number t).toJson = some t from rfl]
      cases singleQuantity? answer <;> rfl

theorem sameValue_number (t : Number) :
    sameValue true answer (.num t) = (singleQuantity? answer).any fun a => a.same t := by
  have hnumber : singleQuantity? (.num t) = some t := rfl
  unfold sameValue
  rw [hnumber]
  cases hread : singleQuantity? answer with
  | some a => rfl
  | none =>
      have htext : plainText answer ≠ plainText (.num t) :=
        fun h => singleQuantity?_ne_none_of_plainText h hread
      simp [htext]

theorem equal_number (t : Number) :
    equal true answer (.number t) = (singleQuantity? answer).any fun a => a.same t := by
  unfold equal
  split
  · rfl
  · split
    · rename_i hnone
      rw [singleQuantity?_of_isUnanswered hnone]
      rfl
    · split
      · -- a truth value is no number, and a number has no truth value
        rename_i htruth
        rw [show isBool (Scalar.number t).toJson = false from rfl, Bool.or_false] at htruth
        cases answer with
        | bool value => rfl
        | _ => cases htruth
      · exact sameValue_number answer t

theorem within_eq (range : NumberRange) :
    within range answer
      = (singleQuantity? answer).any fun a => range.low.le a && a.le range.high := by
  unfold within
  split
  · rename_i hnone
    rw [singleQuantity?_of_isUnanswered hnone]
    rfl
  · cases singleQuantity? answer <;> rfl

end AnswerTest

namespace Condition

/-- The tests whether an answer is above, at or below a number. -/
def standings (t : Number) : List AnswerTest :=
  [.order .gt (.number t), .equals (.number t), .order .lt (.number t)]

/-- On numeric kinds, and where no kind is known, the comparisons with a number form one order: each
inclusive one is the strict one or equality, no two of the strict ones and equality hold together,
one of them does if the answer stands for a single number, inequality is the opposite of equality,
and the range test joins two inclusive ones. -/
theorem numeric_order (id : String) {kind : Option QuestionKind}
    (hkind : ∀ k ∈ kind, k.isNumeric = true) {t : Number} (ht : t.isNaN = false) (answer : Json) :
    let holds (test : AnswerTest) : Bool := Condition.holds ⟨id, test⟩ kind answer
    (holds (.order .gte (.number t)) ↔ holds (.order .gt (.number t)) ∨ holds (.equals (.number t)))
      ∧ (holds (.order .lte (.number t))
        ↔ holds (.order .lt (.number t)) ∨ holds (.equals (.number t)))
      ∧ ((standings t).map holds).count true ≤ 1
      ∧ (∀ n, singleQuantity? answer = some n → n.isNaN = false →
        ((standings t).map holds).count true = 1)
      ∧ (holds (.notEquals (.number t)) ↔ ¬ holds (.equals (.number t)))
      ∧ ∀ range : NumberRange, (holds (.between range)
        ↔ holds (.order .gte (.number range.low)) ∧ holds (.order .lte (.number range.high))) := by
  intro holds
  have hnumeric : (kind.map (·.isNumeric)).getD true = true := by
    cases kind with
    | none => rfl
    | some k => exact hkind k rfl
  have hholds (test : AnswerTest) : holds test = test.holds true answer := by
    change test.holds ((kind.map (·.isNumeric)).getD true) answer = _
    rw [hnumeric]
  have horder (direction : Direction) (t : Number) : holds (.order direction (.number t))
      = (singleQuantity? answer).any fun a => AnswerTest.compareNumbers direction a t :=
    (hholds _).trans (AnswerTest.ordered_number answer direction t)
  have hequals : holds (.equals (.number t)) = (singleQuantity? answer).any fun a => a.same t :=
    (hholds _).trans (AnswerTest.equal_number answer t)
  have hbetween (range : NumberRange) : holds (.between range)
      = (singleQuantity? answer).any fun a => range.low.le a && a.le range.high :=
    (hholds _).trans (AnswerTest.within_eq answer range)
  have hnot : holds (.notEquals (.number t)) = !holds (.equals (.number t)) := by
    rw [hholds, hholds]
    rfl
  have hcount : (standings t).map holds = [holds (.order .gt (.number t)),
      holds (.equals (.number t)), holds (.order .lt (.number t))] := rfl
  simp only [hcount, hnot, horder, hequals, hbetween, Bool.not_eq_true', Bool.not_eq_true,
    iff_self, true_and]
  cases singleQuantity? answer with
  | none => simp
  | some a =>
      have hone (ha : a.isNaN = false) : [t.lt a, a.same t, a.lt t].count true = 1 :=
        Number.count_standing (Number.place?_ne_none_iff.mpr ha) (Number.place?_ne_none_iff.mpr ht)
      simp only [Option.any_some, AnswerTest.compareNumbers]
      refine ⟨?_, Number.le_iff_lt_or_same, ?_, ?_, fun range => Bool.and_eq_true_iff⟩
      · rw [Number.same_comm]
        exact Number.le_iff_lt_or_same
      · by_cases ha : a.isNaN = true
        · rw [Number.count_standing_of_isNaN ha]
          exact Nat.zero_le 1
        · exact (hone (Bool.eq_false_of_not_eq_true ha)).le
      · intro n hn hnumber
        obtain rfl := Option.some.inj hn
        exact hone hnumber

theorem numeric_order_numeral :
    let holds (test : AnswerTest) : Bool :=
      Condition.holds ⟨"q1", test⟩ (some .slider) (.str " 5,50 ")
    (∀ k ∈ some QuestionKind.slider, k.isNumeric = true) ∧ (5 : Number).isNaN = false
      ∧ holds (.order .gt (.number 5)) = true ∧ ((standings 5).map holds).count true = 1 := by
  intro holds
  have hkind : ∀ k ∈ some QuestionKind.slider, k.isNumeric = true := by decide
  have hread : singleQuantity? (.str " 5,50 ")
      = some (.float (Digits.toBinary64 false ⟨55, -1⟩)) := by decide +kernel
  exact ⟨hkind, rfl, by decide +kernel,
    (numeric_order "q1" hkind rfl (.str " 5,50 ")).2.2.2.1 _ hread (by decide +kernel)⟩

end Condition

end Questionnaire
