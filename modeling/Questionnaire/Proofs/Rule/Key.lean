import Mathlib.Data.Prod.Lex
import Mathlib.Data.String.Basic
import Questionnaire.Proofs.Lists
import Questionnaire.Proofs.Number.Written
import Questionnaire.Proofs.Text.Quoted
import Questionnaire.Rule.Key

/-!
Keys tell conditions apart exactly as the conditions themselves do.  What is shown of a value begins
with a character that tells its kind, and ends where the text of its last part ends, so that a value
can be had back from it.
-/

namespace Questionnaire

/-- What the first character that is shown of a value tells of it. -/
inductive ShownKind where
  | absent
  | truth
  | number
  | text
  | list
  | range
deriving DecidableEq

def ShownKind.ofHead (c : Char) : ShownKind :=
  if Number.isNumberChar c then .number
  else if c = '\'' ∨ c = '"' then .text
  else if c = '[' then .list
  else if c = 'R' then .range
  else if c = 'T' ∨ c = 'F' then .truth
  else .absent

/-- A text begins with a character that tells a certain kind. -/
def ShownKind.Heads (kind : ShownKind) (s : List Char) : Prop :=
  ∃ c rest, s = c :: rest ∧ ofHead c = kind

theorem ShownKind.Heads.eq {kind other : ShownKind} {s t rest more : List Char}
    (hs : kind.Heads s) (ht : other.Heads t) (h : s ++ rest = t ++ more) : kind = other := by
  obtain ⟨c, _, rfl, rfl⟩ := hs
  obtain ⟨d, _, rfl, rfl⟩ := ht
  rw [(List.cons.inj h).1]

namespace Scalar

def shownKind : Scalar → ShownKind
  | .truth _ => .truth
  | .number _ => .number
  | .text _ => .text

theorem heads_shown (scalar : Scalar) : scalar.shownKind.Heads scalar.toJson.shown.toList := by
  cases scalar with
  | truth value => cases value <;> exact ⟨_, _, rfl, rfl⟩
  | number value =>
      obtain ⟨c, rest, htext⟩ := List.exists_cons_of_ne_nil (Number.text_toList_ne_nil value)
      have hc : Number.isNumberChar c = true := Number.isNumberChar_text value c (by simp [htext])
      exact ⟨c, rest, htext, if_pos hc⟩
  | text value =>
      obtain ⟨rest, htext⟩ := List.head?_eq_some_iff.mp (Text.head?_quoted value)
      refine ⟨_, rest, htext, ?_⟩
      rcases Text.quoteFor_cases value.toList with hquote | hquote <;> rw [hquote] <;> rfl

/-- What is shown of a value ends where something else than a number goes on. -/
theorem shown_append_inj {a b : Scalar} {rest other : List Char}
    (hrest : ∀ c ∈ rest.head?, Number.isNumberChar c = false)
    (hother : ∀ c ∈ other.head?, Number.isNumberChar c = false)
    (h : a.toJson.shown.toList ++ rest = b.toJson.shown.toList ++ other) :
    a = b ∧ rest = other := by
  have hkind : a.shownKind = b.shownKind := a.heads_shown.eq b.heads_shown h
  cases a with
  | truth value =>
      cases b with
      | truth value' =>
          cases value <;> cases value'
          · exact ⟨rfl, List.append_cancel_left h⟩
          · cases h
          · cases h
          · exact ⟨rfl, List.append_cancel_left h⟩
      | number value' => cases hkind
      | text value' => cases hkind
  | number value =>
      cases b with
      | truth value' => cases hkind
      | number value' =>
          obtain ⟨hvalue, hrests⟩ := Number.text_append_inj hrest hother h
          exact ⟨congrArg Scalar.number hvalue, hrests⟩
      | text value' => cases hkind
  | text value =>
      cases b with
      | truth value' => cases hkind
      | number value' => cases hkind
      | text value' =>
          obtain ⟨hvalue, hrests⟩ := Text.quoted_append_inj h
          exact ⟨congrArg Scalar.text hvalue, hrests⟩

theorem shownKind_ne (scalar : Scalar) : scalar.shownKind ≠ .absent ∧
    scalar.shownKind ≠ .list ∧ scalar.shownKind ≠ .range := by
  cases scalar <;> exact ⟨nofun, nofun, nofun⟩

/-- What is shown of a list after an item. -/
def shownRest : List Scalar → List Char
  | [] => [']']
  | value :: values => ',' :: ' ' :: (value.toJson.shown.toList ++ shownRest values)

/-- What is shown of a list after its bracket. -/
def shownWhole : List Scalar → List Char
  | [] => [']']
  | value :: values => value.toJson.shown.toList ++ shownRest values

theorem isNumberChar_head?_shownRest (values : List Scalar) :
    ∀ c ∈ (shownRest values).head?, Number.isNumberChar c = false := by
  cases values <;> exact Number.isNumberChar_head? _ rfl _

theorem shownItems_map (values : List Scalar) :
    Json.shownItems (values.map toJson) = values.map fun value => value.toJson.shown := by
  induction values with
  | nil => rfl
  | cons value values ih => rw [List.map_cons, Json.shownItems, ih, List.map_cons]

theorem shown_list (values : List Scalar) :
    (Json.ofList toJson values).shown.toList = '[' :: shownWhole values := by
  have hitems (value : Scalar) (values : List Scalar) :
      (", ".intercalate ((value :: values).map fun value => value.toJson.shown)).toList ++ [']']
        = value.toJson.shown.toList ++ shownRest values := by
    induction values generalizing value with
    | nil =>
        rw [List.map_singleton, String.intercalate_singleton]
        rfl
    | cons next values ih =>
        have hnext := ih next
        rw [List.map_cons] at hnext
        rw [List.map_cons, List.map_cons, String.intercalate_cons_cons, String.toList_append,
          String.toList_append, List.append_assoc, List.append_assoc, hnext]
        rfl
  rw [Json.ofList, Json.shown, shownItems_map, Json.commaSeparated, String.toList_append,
    String.toList_append, List.append_assoc]
  cases values with
  | nil => rfl
  | cons value values => exact congrArg ('[' :: ·) (hitems value values)

theorem shownRest_injective : Function.Injective shownRest := by
  intro values others h
  induction values generalizing others with
  | nil =>
      cases others with
      | nil => rfl
      | cons other others => cases h
  | cons value values ih =>
      cases others with
      | nil => cases h
      | cons other others =>
          have hitems := (List.cons.inj (List.cons.inj h).2).2
          obtain ⟨hvalue, hrests⟩ := shown_append_inj (isNumberChar_head?_shownRest values)
            (isNumberChar_head?_shownRest others) hitems
          rw [hvalue, ih hrests]

theorem shownWhole_injective : Function.Injective shownWhole := by
  have hempty (value : Scalar) (values : List Scalar) : shownWhole (value :: values) ≠ [']'] := by
    intro h
    have hclosing : ShownKind.absent.Heads [']'] := ⟨']', [], rfl, rfl⟩
    exact value.shownKind_ne.1 (value.heads_shown.eq hclosing (h.trans (List.append_nil _).symm))
  intro values others h
  cases values with
  | nil =>
      cases others with
      | nil => rfl
      | cons other others => exact absurd h.symm (hempty other others)
  | cons value values =>
      cases others with
      | nil => exact absurd h (hempty value values)
      | cons other others =>
          obtain ⟨hvalue, hrests⟩ := shown_append_inj (isNumberChar_head?_shownRest values)
            (isNumberChar_head?_shownRest others) h
          rw [hvalue, shownRest_injective hrests]

end Scalar

namespace Operand

def shownKind : Operand → ShownKind
  | .none => .absent
  | .scalar value => value.shownKind
  | .list _ => .list
  | .range _ => .range

theorem shown_range (bounds : NumberRange) : (Operand.range bounds).shown.toList
    = 'R' :: ("angeValue(min=".toList ++ (bounds.low.text.toList
      ++ ',' :: (" max=".toList ++ (bounds.high.text.toList ++ [')'])))) := by
  have hopening : "RangeValue(min=".toList = 'R' :: "angeValue(min=".toList := by decide
  have hcomma : ", max=".toList = ',' :: " max=".toList := by decide
  have hclosing : ")".toList = [')'] := by decide
  change ("RangeValue(min=" ++ bounds.low.text ++ ", max=" ++ bounds.high.text ++ ")").toList = _
  simp only [String.toList_append, List.append_assoc, List.cons_append, hopening, hcomma, hclosing]

theorem heads_shown (operand : Operand) : operand.shownKind.Heads operand.shown.toList := by
  cases operand with
  | none => exact ⟨_, _, rfl, rfl⟩
  | scalar value => exact value.heads_shown
  | list values => exact ⟨_, _, Scalar.shown_list values, rfl⟩
  | range bounds => exact ⟨'R', _, shown_range bounds, rfl⟩

theorem range_shown_injective {a b : NumberRange}
    (h : (Operand.range a).shown = (Operand.range b).shown) : a = b := by
  have hshown := congrArg String.toList h
  rw [shown_range, shown_range] at hshown
  have hcomma := Number.isNumberChar_head? ',' rfl
  have hclosing := Number.isNumberChar_head? ')' rfl []
  obtain ⟨hlow, hrest⟩ := Number.text_append_inj (hcomma _) (hcomma _)
    (List.append_cancel_left (List.cons.inj hshown).2)
  obtain ⟨hhigh, _⟩ := Number.text_append_inj hclosing hclosing
    (List.append_cancel_left (List.cons.inj hrest).2)
  cases a
  cases b
  cases hlow
  cases hhigh
  rfl

/-- No two values are shown alike. -/
theorem shown_injective : Function.Injective shown := by
  intro a b h
  have hshown : a.shown.toList ++ [] = b.shown.toList ++ [] := by rw [h]
  have hkind : a.shownKind = b.shownKind := a.heads_shown.eq b.heads_shown hshown
  cases a with
  | none =>
      cases b with
      | none => rfl
      | scalar other => exact absurd hkind.symm other.shownKind_ne.1
      | list others => cases hkind
      | range other => cases hkind
  | scalar value =>
      cases b with
      | none => exact absurd hkind value.shownKind_ne.1
      | scalar other =>
          have hvalue := Scalar.shown_append_inj (by simp) (by simp) hshown
          exact congrArg Operand.scalar hvalue.1
      | list others => exact absurd hkind value.shownKind_ne.2.1
      | range other => exact absurd hkind value.shownKind_ne.2.2
  | list values =>
      cases b with
      | none => cases hkind
      | scalar other => exact absurd hkind.symm other.shownKind_ne.2.1
      | list others =>
          have hshown : '[' :: Scalar.shownWhole values = '[' :: Scalar.shownWhole others := by
            rw [← Scalar.shown_list, ← Scalar.shown_list]
            exact congrArg String.toList h
          exact congrArg Operand.list (Scalar.shownWhole_injective (List.cons.inj hshown).2)
      | range other => cases hkind
  | range bounds =>
      cases b with
      | none => cases hkind
      | scalar other => exact absurd hkind.symm other.shownKind_ne.2.2
      | list others => cases hkind
      | range other => exact congrArg Operand.range (range_shown_injective h)

end Operand

theorem Operator.name_injective : Function.Injective Operator.name := by
  have hnames : ∀ a ∈ all, ∀ b ∈ all, a.name = b.name → a = b := by decide
  exact fun a b h => hnames a a.mem_all b b.mem_all h

/-- A test is told by its operator and its value. -/
theorem AnswerTest.ofOperand_operand (test : AnswerTest) :
    ofOperand test.operator test.operand = .valid test := by
  cases test with
  | includesAny values nonempty =>
      cases values with
      | nil => exact absurd rfl nonempty
      | cons value values => rfl
  | includesAll values nonempty =>
      cases values with
      | nil => exact absurd rfl nonempty
      | cons value values => rfl
  | _ => rfl

/-- No two conditions have one key. -/
theorem Condition.key_injective : Function.Injective Condition.key := by
  intro a b h
  obtain ⟨hquestion, hoperator, hvalue⟩ := ConditionKey.mk.inj h
  have htest : a.test = b.test := by
    apply Validated.valid.inj
    rw [← a.test.ofOperand_operand, ← b.test.ofOperand_operand,
      show a.test.operator = b.test.operator from Operator.name_injective hoperator,
      Operand.shown_injective hvalue]
  cases a
  cases b
  dsimp only at hquestion htest
  rw [hquestion, htest]

namespace ConditionKey

/-- A key as the order looks at it. -/
def words (key : ConditionKey) : String ×ₗ String ×ₗ String :=
  toLex (key.questionId, toLex (key.operator, key.value))

theorem words_injective : Function.Injective words := by
  intro a b h
  cases a
  cases b
  cases h
  rfl

theorem below_iff {a b : ConditionKey} : a.below b = true ↔ a.words < b.words := by
  simp [below, words, textBelow, Prod.Lex.toLex_lt_toLex]

/-- Keys in order do not tell where they came from. -/
theorem sortBy_eq_of_perm {keys others : List ConditionKey} (h : keys.Perm others) :
    sortBy below keys = sortBy below others := by
  have hbelow (a b : ConditionKey) : a.below b = true ↔ a.words < b.words := below_iff
  exact Questionnaire.sortBy_eq_of_perm hbelow
    (fun _ _ _ _ hwords => words_injective hwords) h

end ConditionKey

theorem Junction.name_injective : Function.Injective Junction.name := by
  intro a b h
  cases a <;> cases b <;> first | rfl | exact absurd h (by decide)

/-- Rules have one key exactly if they join the same conditions in the same way, in whatever
order. -/
theorem Rule.conditionKey_eq_iff {a b : Rule} : a.conditionKey = b.conditionKey ↔
    a.junction = b.junction ∧ a.conditions.Perm b.conditions := by
  constructor
  · intro h
    obtain ⟨hjunction, hkeys⟩ := Prod.mk.inj h
    refine ⟨Junction.name_injective hjunction, ?_⟩
    have hsorted := sortBy_perm ConditionKey.below (b.conditions.map Condition.key)
    rw [← hkeys] at hsorted
    have hperm : (a.conditions.map Condition.key).Perm (b.conditions.map Condition.key) :=
      (sortBy_perm ConditionKey.below _).symm.trans hsorted
    exact (List.map_perm_map_iff Condition.key_injective).mp hperm
  · rintro ⟨hjunction, hperm⟩
    rw [conditionKey, conditionKey, hjunction,
      ConditionKey.sortBy_eq_of_perm (hperm.map Condition.key)]

end Questionnaire
