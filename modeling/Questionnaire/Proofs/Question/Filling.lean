import Questionnaire.Proofs.Json.Fields
import Questionnaire.Question.Builder

/-!
What filling in leaves as it is.  Only a few settings are ever filled in; every other one is found
as before, and so are the settings of a question that has a prompt, a selection and a kind of grid.
-/

namespace Questionnaire.Builder

/-- The settings that are filled in for some kinds of questions. -/
def kindNames : List String :=
  ["allowedTypes", "maxFileSize", "maxFiles", "selectionType", "imageSize", "columns", "showLabels",
    "imageOptions", "matrixType", "videoUrl", "maxDuration"]

/-- The settings among these that stay as they are where they count as something. -/
def choiceNames : List String := ["selectionType", "matrixType"]

/-- The settings that are filled in. -/
def filledNames : List String := "question" :: "required" :: kindNames

variable {name : String}

theorem get?_put_orText (entries : Entries Json) {other : String} (default : String)
    (h : name = other → (setting entries name).isTruthy = true) :
    (entries.put other (orText (setting entries other) default)).get? name
      = entries.get? name := by
  rw [Entries.get?_put]
  split
  · rename_i hname
    have htruthy := h hname
    subst hname
    rw [orText, if_pos htruthy]
    unfold setting at htruthy ⊢
    cases hget : entries.get? name with
    | none =>
        rw [hget] at htruthy
        cases htruthy
    | some v => rfl
  · rfl

theorem get?_pairImages (entries : Entries Json) (h : name ≠ "imageOptions") :
    (pairImages entries).get? name = entries.get? name := by
  unfold pairImages
  split
  · split
    · rfl
    · rw [Entries.get?_put, if_neg h]
  · rfl

/-- What a kind of question needs is filled in under a few names, and a choice that has been made
stays. -/
theorem get?_fillKind (entries : Entries Json)
    (h : name ∈ kindNames → name ∈ choiceNames ∧ (setting entries name).isTruthy = true) :
    (fillKind entries).get? name = entries.get? name := by
  have hne {other : String} (hother : other ∈ kindNames ∧ other ∉ choiceNames) : name ≠ other := by
    rintro rfl
    exact hother.2 (h hother.1).1
  have hput (entries : Entries Json) {other : String} (v : Json)
      (hother : other ∈ kindNames ∧ other ∉ choiceNames) :
      (entries.put other v).get? name = entries.get? name := by
    rw [Entries.get?_put, if_neg (hne hother)]
  have hputNew (entries : Entries Json) {other : String} (v : Json)
      (hother : other ∈ kindNames ∧ other ∉ choiceNames) :
      (entries.putNew other v).get? name = entries.get? name :=
    Entries.get?_putNew_of_ne entries v (hne hother)
  have hchoice {other : String} (default : String) (hother : other ∈ kindNames) :
      (entries.put other (orText (setting entries other) default)).get? name
        = entries.get? name :=
    get?_put_orText entries default fun heq => (h (heq ▸ hother)).2
  unfold fillKind
  split
  · rw [fillFileUpload, hput _ _ (by decide), hput _ _ (by decide), hput _ _ (by decide)]
  · rw [fillImageChoice, get?_pairImages _ (hne (by decide)), hputNew _ _ (by decide),
      hputNew _ _ (by decide), hputNew _ _ (by decide), hchoice _ (by decide)]
  · exact hchoice _ (by decide)
  · exact hput _ _ (by decide)
  · exact hput _ _ (by decide)
  · rfl

theorem get?_fillPrompt (entries : Entries Json) (h : name ≠ "question") :
    (fillPrompt entries).get? name = entries.get? name := by
  unfold fillPrompt
  split
  · rfl
  · split
    · rw [Entries.get?_put, if_neg h]
    · rfl

/-- Every setting that is not among the few that are filled in is found as before. -/
theorem get?_fill (entries : Entries Json) (h : name ∉ filledNames) :
    (fill entries).get? name = entries.get? name := by
  rw [filledNames, List.mem_cons, List.mem_cons, not_or, not_or] at h
  obtain ⟨hprompt, hrequired, hkind⟩ := h
  rw [fill, get?_fillKind _ fun hmem => absurd hmem hkind,
    Entries.get?_putNew_of_ne _ _ hrequired, get?_fillPrompt entries hprompt]

/-- Where there is no prompt of the builder's own and it is known whether an answer is required,
only the needs of the kind are filled in. -/
theorem fill_eq_fillKind {entries : Entries Json} {required : Json}
    (htext : entries.get? "text" = none) (hrequired : entries.get? "required" = some required) :
    fill entries = fillKind entries := by
  have hprompt : fillPrompt entries = entries := by
    unfold fillPrompt setting
    rw [htext]
    exact ite_self entries
  rw [fill, hprompt, Entries.putNew_of_get? hrequired]

end Questionnaire.Builder
