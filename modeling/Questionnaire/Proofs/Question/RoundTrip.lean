import Questionnaire.Proofs.Question.Filling
import Questionnaire.Proofs.Rule.Written
import Questionnaire.Proofs.Schema.Outcome

/-!
Questions that go to the builder and come back.  A question that has been read from data has rules
with named targets and further settings under names of their own, so that every declared field is
found again in what the builder keeps, and what is filled in on the way back does not reach them.
-/

namespace Questionnaire

open Schema

theorem lookup_questionKind (kind : QuestionKind) :
    List.lookup kind.name QuestionKind.words = some kind :=
  QuestionKind.ofName?_name kind

theorem lookup_gridKind (kind : GridKind) : List.lookup kind.name GridKind.words = some kind := by
  cases kind <;> rfl

theorem lookup_selectionKind (kind : SelectionKind) :
    List.lookup kind.name SelectionKind.words = some kind := by
  cases kind <;> rfl

namespace Question

/-- Reading a question takes the targets of its rules as they are named, and keeps what is under
further names. -/
theorem ofEntries_yields (entries : Entries Json) : (ofEntries entries).Yields fun question =>
    question.extras = Schema.extras fieldNames entries
      ∧ ∀ rule ∈ question.rules, rule.action.target? ≠ some "" := by
  have hrules : (withDefault entries "logicRules" [] (list Rule.ofJson)).Yields
      fun rules => ∀ rule ∈ rules, rule.action.target? ≠ some "" :=
    withDefault_yields nofun (list_yields fun _ _ => Rule.target?_ne_of_ofJson) entries "logicRules"
  have hextras : (pure (Schema.extras fieldNames entries) : Validated (Entries Json)).Yields
      fun extras => extras = Schema.extras fieldNames entries := Validated.yields_valid rfl
  refine .seq hextras (.seq_any (.seq hrules ?_))
  -- nothing is asked of the other fields
  iterate 27 refine .seq_any ?_
  refine .map fun _ _ => ?_
  beta_reduce
  intros
  exact ⟨‹_›, ‹_›⟩

/-- A question is read from entries in which its fields are found. -/
theorem ofEntries_of_holds {question : Question} {entries : Entries Json}
    (h : Holds entries question.fields)
    (hrules : ∀ rule ∈ question.rules, rule.action.target? ≠ some "") :
    ofEntries entries = .valid { question with extras := Schema.extras fieldNames entries } := by
  have hlists (values : List String) : ReadsBack (list text) texts values :=
    readsBack_list fun value _ => readsBack_text value
  obtain ⟨hid, hkind, hprompt, hdescription, hrequired, hoptions, hrows, hcolumns, hgrid, hother,
    hselection, hyes, hno, hratingScale, hscale, hpoints, hlikert, hmin, hmax, hstep, hleast, hmost,
    htotal, hcorrect, hscorable, hweight, hcategory, hscores, hlogic, hskip, -⟩ := h
  simp only [ofEntries]
  rw [required_written (readsBack_text _) hid,
    required_written (readsBack_choice (lookup_questionKind _)) hkind,
    withDefault_written (readsBack_text _) hprompt,
    optionalField_written readsBack_text hdescription,
    withDefault_written (readsBack_truth _) hrequired,
    optionalField_written hlists hoptions,
    optionalField_written hlists hrows,
    optionalField_written hlists hcolumns,
    withDefault_written (readsBack_fixed (lookup_gridKind _)) hgrid,
    withDefault_written (readsBack_truth _) hother,
    withDefault_written (readsBack_fixed (lookup_selectionKind _)) hselection,
    withDefault_written (readsBack_text _) hyes,
    withDefault_written (readsBack_text _) hno,
    optionalField_written readsBack_integer hratingScale,
    optionalField_written readsBack_integer hscale,
    optionalField_written readsBack_integer hpoints,
    optionalField_written readsBack_integer hlikert,
    optionalField_written readsBack_number hmin,
    optionalField_written readsBack_number hmax,
    optionalField_written readsBack_number hstep,
    optionalField_written readsBack_integer hleast,
    optionalField_written readsBack_integer hmost,
    optionalField_written readsBack_number htotal,
    optionalField_written readsBack_text hcorrect,
    optionalField_written readsBack_truth hscorable,
    optionalField_written readsBack_number hweight,
    optionalField_written readsBack_text hcategory,
    optionalField_written (readsBack_dictionary readsBack_number) hscores,
    withDefault_written (readsBack_list fun rule h => Rule.readsBack (hrules rule h)) hlogic,
    optionalField_written LegacySkip.readsBack hskip]
  rfl

/-- The further settings are under names that no field has in either form. -/
def KeepsApart (question : Question) : Prop := ∀ name ∈ fieldNames,
  question.extras.get? name = none ∧ question.extras.get? (underscored name) = none

theorem map_fields (question : Question) : question.fields.map (·.1) = fieldNames := rfl

theorem get?_writtenExtras {question : Question} {name : String}
    (h : question.extras.get? name = none) : question.writtenExtras.get? name = none := by
  rw [Entries.get?_eq_none_iff] at h ⊢
  intro hmem
  obtain ⟨entry, hentry, hname⟩ := List.mem_map.mp hmem
  obtain ⟨own, hown, rfl⟩ := List.mem_map.mp hentry
  exact h (List.mem_map.mpr ⟨own, (List.mem_filter.mp hown).1, hname⟩)

/-- The fields of a question are found in what it is written to. -/
theorem holds_toEntries {question : Question} (h : question.KeepsApart) :
    Holds question.toEntries question.fields := by
  refine holds_given_append fieldNames question.map_fields (by decide +kernel) fun name hname => ?_
  obtain ⟨hown, hform⟩ := h name hname
  exact ⟨get?_writtenExtras hown, get?_writtenExtras hform⟩

/-- What is read of the builder's form of a question. -/
def returned (question : Question) (place : Json) : Entries Json :=
  let kept := ((question.toEntries.put "text" (.str question.prompt)).put "order" place).put
    "hasLogic" (.bool question.hasLogic)
  Entries.put (kept.filter fun entry => entry.1 ∉ Builder.ownNames) "question"
    (.str question.prompt)

theorem ofBuilder_eq_ofRaw (question : Question) (place : Json) :
    ofBuilder (question.toBuilder place) = ofRaw (.obj (question.returned place)) := by
  have hprompt : Entries.get? (((question.toEntries.put "text" (.str question.prompt)).put "order"
      place).put "hasLogic" (.bool question.hasLogic)) "text" = some (.str question.prompt) := by
    simp [Entries.get?_put]
  simp only [ofBuilder, toBuilder, hprompt]
  rfl

variable {question : Question}

/-- Apart from what only the builder keeps, everything is found as the question was written. -/
theorem get?_returned (h : question.KeepsApart) (place : Json) {name : String}
    (hname : name ∉ Builder.ownNames) :
    (question.returned place).get? name = question.toEntries.get? name := by
  obtain ⟨-, -, hprompt, -⟩ := holds_toEntries h
  rw [returned, Entries.get?_put]
  split
  · rename_i hquestion
    rw [hquestion, get?_of_find? hprompt]
  · refine (Entries.get?_filter _ (fun other => decide (other ∉ Builder.ownNames)) name).trans ?_
    simp only [Builder.ownNames, List.mem_cons, List.not_mem_nil, or_false, not_or] at hname
    obtain ⟨htext, horder, hlogic⟩ := hname
    simp [Builder.ownNames, Entries.get?_put, htext, horder, hlogic]

theorem get?_returned_text (question : Question) (place : Json) :
    (question.returned place).get? "text" = none := by
  rw [returned, Entries.get?_put, if_neg (by decide)]
  exact Entries.get?_filter _ (fun other => decide (other ∉ Builder.ownNames)) "text"

/-- The choices of a question count as something. -/
theorem isTruthy_returned (h : question.KeepsApart) (place : Json) {name : String}
    (hname : name ∈ Builder.choiceNames) :
    (Builder.setting (question.returned place) name).isTruthy = true := by
  obtain ⟨-, -, -, -, -, -, -, -, hgrid, -, hselection, -⟩ := holds_toEntries h
  simp only [Builder.choiceNames, List.mem_cons, List.not_mem_nil, or_false] at hname
  rcases hname with rfl | rfl
  · rw [Builder.setting, get?_returned h place (by decide), get?_of_find? hselection]
    cases question.selection <;> rfl
  · rw [Builder.setting, get?_returned h place (by decide), get?_of_find? hgrid]
    cases question.gridKind <;> rfl

/-- What is filled in on the way back does not reach the fields. -/
theorem holds_fill_returned (h : question.KeepsApart) (place : Json) :
    Holds (Builder.fill (question.returned place)) question.fields := by
  have hholds := holds_toEntries h
  obtain ⟨-, -, -, -, hrequired, -⟩ := hholds
  rw [Builder.fill_eq_fillKind (question.get?_returned_text place)
    ((get?_returned h place (by decide)).trans (get?_of_find? hrequired))]
  have hnames : ∀ name ∈ fieldNames, ∀ form ∈ [name, underscored name],
      form ∉ Builder.ownNames ∧ (form ∈ Builder.kindNames → form ∈ Builder.choiceNames) := by
    decide +kernel
  have hget {name form : String} (hname : name ∈ fieldNames)
      (hform : form ∈ [name, underscored name]) :
      (Builder.fillKind (question.returned place)).get? form = question.toEntries.get? form := by
    obtain ⟨hown, hkind⟩ := hnames name hname form hform
    rw [Builder.get?_fillKind _ fun hmem => ⟨hkind hmem, isTruthy_returned h place (hkind hmem)⟩,
      get?_returned h place hown]
  refine holds_iff.mpr fun name value hfield => ?_
  have hname : name ∈ fieldNames :=
    question.map_fields ▸ List.mem_map.mpr ⟨(name, value), hfield, rfl⟩
  rw [find?_congr (hget hname (by simp)) (hget hname (by simp))]
  exact holds_iff.mp (holds_toEntries h) name value hfield

/-- A question that has been read from data, with no further setting under the other form of a
field's name, comes back from the builder with every declared field, wherever it stands in the
survey and whatever further settings of the builder's own names it has. -/
theorem ofBuilder_toBuilder {v : Json} (hread : ofJson v = .valid question)
    (hforms : ∀ name ∈ fieldNames, underscored name ≠ name →
      question.extras.get? (underscored name) = none) (place : Json) :
    ∃ back, ofBuilder (question.toBuilder place) = .ok back
      ∧ { back with extras := question.extras } = question := by
  cases v with
  | obj entries =>
      obtain ⟨hextras, hrules⟩ := ofEntries_yields entries question hread
      have hfields {name : String} (hname : name ∈ fieldNames) :
          question.extras.get? name = none := hextras ▸ get?_extras fieldNames entries hname
      have happart : question.KeepsApart := by
        refine fun name hname => ⟨hfields hname, ?_⟩
        by_cases hsame : underscored name = name
        · rw [hsame, hfields hname]
        · exact hforms name hname hsame
      have hback : ofBuilder (question.toBuilder place) = .ok { question with
          extras := Schema.extras fieldNames (Builder.fill (question.returned place)) } := by
        rw [ofBuilder_eq_ofRaw]
        exact (ofFilled_eq_ok_iff _ _).mpr
          (ofEntries_of_holds (holds_fill_returned happart place) hrules)
      exact ⟨_, hback, rfl⟩
  | _ => cases hread

/-- A choice of images with a rule, read under the other forms of some names, that has settings
under the builder's own names. -/
def pictured : Json :=
  .obj [("id", .str "q1"), ("type", .str "image_choice"), ("text", .str "Old"), ("order", .num 7),
    ("question", .str "Which?"), ("options", .arr [.str "cat", .str "dog"]),
    ("score_weight", .num 2), ("hasLogic", .null), ("logic_rules", .arr [.obj [("id", .str "r1"),
      ("conditions", .arr [.obj [("questionId", .str "q1"), ("operator", .str "includes_any"),
        ("value", .bool true)]]), ("action", .str "skip"), ("targetQuestionId", .str "q2")]])]

theorem ofBuilder_toBuilder_pictured : ∃ question, ofJson pictured = .valid question
    ∧ question.extras.keys = ["text", "order", "hasLogic"]
    ∧ ∃ back, ofBuilder (question.toBuilder (.ofInt 4)) = .ok back
      ∧ { back with extras := question.extras } = question := by
  refine ⟨_, rfl, by decide +kernel, ?_⟩
  exact ofBuilder_toBuilder (v := pictured) rfl (by decide +kernel) (.ofInt 4)

end Question

end Questionnaire
