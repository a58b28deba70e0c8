import Questionnaire.Log.Record
import Questionnaire.Proofs.Json.Written

/-!
Lines of a log that are data.  The fields of a record itself stand in its line under their names
whatever else is logged with it, every further field stands there once, and whatever texts are in
them, the line is one line and is read as one object.
-/

namespace Questionnaire

namespace LoggedValue

/-- The value can be written and read: it does not contain itself, and its integers are within the
limit. -/
def IsReadable (value : LoggedValue) : Prop :=
  ∃ v, value.written? = some v ∧ v.hasDigitsWithin Json.maxIntegerDigits = true

theorem IsReadable.written?_ne_none {value : LoggedValue} (h : value.IsReadable) :
    value.written? ≠ none := by
  obtain ⟨v, hv, -⟩ := h
  exact Option.ne_none_iff_exists'.mpr ⟨v, hv⟩

/-- A value is written as itself or as its text. -/
theorem written?_eq_some_iff {value : LoggedValue} {v : Json} : value.written? = some v
    ↔ value.encoding = .data v ∨ value.encoding = .foreign ∧ v = .str value.text := by
  unfold written?
  cases value.encoding with
  | data other => simp [eq_comm]
  | foreign => simp [eq_comm]
  | endless => simp

end LoggedValue

namespace LogRecord

variable {record : LogRecord} {time message : String} {fields all : Entries Json}
  {extras : Entries LoggedValue}

/-- A further field is found with its value, unless its name is taken. -/
theorem addExtra_spec {extra : String × LoggedValue}
    (h : fields.get? extra.1 = none → extra.2.written? ≠ none) :
    ∃ next, addExtra fields extra = some next ∧ (fields.keys.Nodup → next.keys.Nodup)
      ∧ ∀ name, next.get? name
        = (fields.get? name).or (if name = extra.1 then extra.2.written? else none) := by
  unfold addExtra
  split
  · rename_i htaken
    refine ⟨fields, rfl, id, fun name => ?_⟩
    split
    · rename_i hname
      have hfound : fields.get? name ≠ none := by
        rw [Ne, Entries.get?_eq_none_iff, not_not, hname]
        exact Entries.contains_iff.mp htaken
      obtain ⟨v, hv⟩ := Option.ne_none_iff_exists'.mp hfound
      rw [hv, Option.some_or]
    · rw [Option.or_none]
  · rename_i hfresh
    have habsent : extra.1 ∉ fields.keys := fun hmem => hfresh (Entries.contains_iff.mpr hmem)
    obtain ⟨v, hv⟩ := Option.ne_none_iff_exists'.mp (h (Entries.get?_eq_none_iff.mpr habsent))
    refine ⟨fields ++ [(extra.1, v)], by rw [hv]; rfl, fun hnodup => ?_, fun name => ?_⟩
    · rw [Entries.keys, List.map_append, List.nodup_append]
      refine ⟨hnodup, List.nodup_singleton _, ?_⟩
      rintro name hname _ hsame rfl
      have hown : name = extra.1 := List.mem_singleton.mp hsame
      exact habsent (hown ▸ hname)
    · rw [Entries.get?_append, Entries.get?_cons, hv]
      rfl

/-- Further fields are added one after the other: every name is found with the value that it has
first. -/
theorem foldlM_addExtra_spec (h : ∀ name value, extras.get? name = some value →
      fields.get? name = none → value.written? ≠ none) :
    ∃ all, extras.foldlM addExtra fields = some all ∧ (fields.keys.Nodup → all.keys.Nodup)
      ∧ ∀ name, all.get? name
        = (fields.get? name).or ((extras.get? name).bind LoggedValue.written?) := by
  induction extras generalizing fields with
  | nil => exact ⟨fields, rfl, id, fun name => by simp [Entries.get?]⟩
  | cons extra rest ih =>
      have hfirst : fields.get? extra.1 = none → extra.2.written? ≠ none :=
        h extra.1 extra.2 (by rw [Entries.get?_cons, if_pos rfl])
      obtain ⟨next, hnext, hnodup, hget⟩ := addExtra_spec hfirst
      have hrest : ∀ name value, Entries.get? rest name = some value → next.get? name = none →
          value.written? ≠ none := by
        intro name value hvalue hnone
        rw [hget, Option.or_eq_none_iff] at hnone
        -- the name of the first field is taken by now, so a later field of that name is not
        -- asked for
        have hne : name ≠ extra.1 := by
          rintro rfl
          rw [if_pos rfl] at hnone
          exact hfirst hnone.1 hnone.2
        exact h name value (by rw [Entries.get?_cons, if_neg hne, hvalue]) hnone.1
      obtain ⟨all, hall, hdistinct, hfound⟩ := ih hrest
      refine ⟨all, ?_, hdistinct ∘ hnodup, fun name => ?_⟩
      · rw [List.foldlM_cons, hnext]
        exact hall
      · rw [hfound, hget, Entries.get?_cons, Option.or_assoc]
        cases hown : fields.get? name with
        | some v => rw [Option.some_or, Option.some_or]
        | none =>
            rw [Option.none_or, Option.none_or]
            split
            · rename_i heq
              subst heq
              obtain ⟨v, hv⟩ := Option.ne_none_iff_exists'.mp (hfirst hown)
              rw [hv, Option.some_or, Option.bind_some, hv]
            · rw [Option.none_or]

/-- A name that is neither left out nor that of a field of the record itself. -/
def IsFurther (name : String) : Prop := name ∉ omittedNames ∧ name ∉ ["ts", "level", "logger"]

instance (name : String) : Decidable (IsFurther name) := inferInstanceAs (Decidable (_ ∧ _))

/-- The record itself has fields of six names at most, the last one for a failure. -/
theorem keys_leading_sublist (record : LogRecord) (time message : String) :
    (record.leading time message).keys.Sublist
      ["ts", "level", "logger", "msg", "survey_id", "exc_info"] := by
  unfold leading
  cases record.failure with
  | none =>
    exact List.sublist_append_left ["ts", "level", "logger", "msg", "survey_id"] ["exc_info"]
  | some failure => exact List.Sublist.refl _

theorem nodup_keys_leading : (record.leading time message).keys.Nodup :=
  (keys_leading_sublist record time message).nodup (by decide)

/-- The further names are those that are not left out and not taken. -/
theorem isFurther_iff {name : String} :
    IsFurther name ↔ name ∉ omittedNames ∧ (record.leading time message).get? name = none := by
  rw [Entries.get?_eq_none_iff]
  constructor
  · refine fun hfurther => ⟨hfurther.1, fun hmem => ?_⟩
    have hall : ∀ own ∈ ["ts", "level", "logger", "msg", "survey_id", "exc_info"],
        ¬ IsFurther own := by decide
    exact hall name ((keys_leading_sublist record time message).subset hmem) hfurther
  · refine fun ⟨homitted, hfresh⟩ => ⟨homitted, fun hmem => hfresh ?_⟩
    have hfirst : ["ts", "level", "logger"].Sublist (record.leading time message).keys := by
      rw [leading, Entries.keys, List.map_append]
      exact List.sublist_append_of_sublist_left
        (List.sublist_append_left ["ts", "level", "logger"] ["msg", "survey_id"])
    exact hfirst.subset hmem


/-- The fields that are written: those of the record itself, and the further ones that are not left
out. -/
theorem payload?_spec (h : ∀ name value, record.extras.get? name = some value → IsFurther name →
      value.written? ≠ none) :
    ∃ fields, record.payload? time message = some fields ∧ fields.keys.Nodup
      ∧ ∀ name, fields.get? name = ((record.leading time message).get? name).or
        (if name ∉ omittedNames then (record.extras.get? name).bind LoggedValue.written?
          else none) := by
  have hkept (name : String) :
      Entries.get? (record.extras.filter fun extra => extra.1 ∉ omittedNames) name
        = if name ∉ omittedNames then record.extras.get? name else none := by
    rw [Entries.get?_filter record.extras fun name => decide (name ∉ omittedNames)]
    simp
  have hwritten : ∀ name value,
      Entries.get? (record.extras.filter fun extra => extra.1 ∉ omittedNames) name = some value →
      (record.leading time message).get? name = none → value.written? ≠ none := by
    intro name value hvalue hnone
    rw [hkept] at hvalue
    split at hvalue
    · rename_i homitted
      exact h name value hvalue (isFurther_iff.mpr ⟨homitted, hnone⟩)
    · cases hvalue
  obtain ⟨fields, hfields, hnodup, hget⟩ := foldlM_addExtra_spec hwritten
  refine ⟨fields, hfields, hnodup nodup_keys_leading, fun name => ?_⟩
  rw [hget, hkept]
  split <;> rfl

/-- The fields are those of the record, each under one name: its own, and every further one as its
value or as its text. -/
structure IsLoggedAs (record : LogRecord) (time message : String) (fields : Entries Json) :
    Prop where
  distinct : fields.keys.Nodup
  ts : fields.get? "ts" = some (.str time)
  level : fields.get? "level" = some (.str record.level.name)
  logger : fields.get? "logger" = some (.str record.logger)
  msg : fields.get? "msg" = some (.str message)
  surveyId : fields.get? "survey_id" = some record.surveyId
  failure : fields.get? "exc_info" = record.failure.map (.str ·.line)
  further : ∀ name value, record.extras.get? name = some value → IsFurther name →
    fields.keys.count name = 1 ∧ ∃ v, fields.get? name = some v
      ∧ (value.encoding = .data v ∨ value.encoding = .foreign ∧ v = .str value.text)
  nothingElse : ∀ name ∈ fields.keys,
    name ∈ (record.leading time message).keys ∨ IsFurther name ∧ name ∈ record.extras.keys

/-- What is written is what the record says. -/
theorem payload?_isLoggedAs (h : ∀ name value, record.extras.get? name = some value →
      IsFurther name → value.written? ≠ none) (time message : String) :
    ∃ fields, record.payload? time message = some fields
      ∧ record.IsLoggedAs time message fields := by
  obtain ⟨fields, hfields, hnodup, hget⟩ := payload?_spec h
  have hown {name : String} {v : Json} (hname : (record.leading time message).get? name = some v) :
      fields.get? name = some v := by rw [hget, hname, Option.some_or]
  refine ⟨fields, hfields, hnodup, hown rfl, hown rfl, hown rfl, hown rfl, hown rfl, ?_, ?_, ?_⟩
  · rw [hget, if_neg (by decide), Option.or_none, leading]
    cases record.failure <;> rfl
  · intro name value hvalue hfurther
    obtain ⟨v, hv⟩ := Option.ne_none_iff_exists'.mp (h name value hvalue hfurther)
    obtain ⟨homitted, hfresh⟩ := isFurther_iff.mp hfurther
    have hfound : fields.get? name = some v := by
      rw [hget, hfresh, if_pos homitted, hvalue, Option.none_or, Option.bind_some, hv]
    have hmem : name ∈ fields.keys := by
      by_contra habsent
      rw [Entries.get?_eq_none_iff.mpr habsent] at hfound
      cases hfound
    exact ⟨List.count_eq_one_of_mem hnodup hmem, v, hfound, LoggedValue.written?_eq_some_iff.mp hv⟩
  · intro name hname
    by_cases hleading : name ∈ (record.leading time message).keys
    · exact .inl hleading
    · have hfound : fields.get? name ≠ none := fun hnone => Entries.get?_eq_none_iff.mp hnone hname
      have hfresh := Entries.get?_eq_none_iff.mpr hleading
      rw [hget, hfresh, Option.none_or] at hfound
      split at hfound
      · rename_i homitted
        refine .inr ⟨isFurther_iff.mpr ⟨homitted, hfresh⟩, ?_⟩
        by_contra habsent
        rw [Entries.get?_eq_none_iff.mpr habsent] at hfound
        exact hfound rfl
      · exact absurd rfl hfound

/-- The integers of a record itself are those of its survey. -/
theorem hasDigitsWithin_leading {limit : Nat} (h : record.surveyId.hasDigitsWithin limit = true) :
    ∀ field ∈ record.leading time message, field.2.hasDigitsWithin limit = true := by
  unfold leading
  simp only [List.forall_mem_append, List.forall_mem_cons]
  refine ⟨⟨rfl, rfl, rfl, rfl, h, nofun⟩, ?_⟩
  cases record.failure with
  | none => nofun
  | some failure => exact List.forall_mem_singleton.mpr rfl

/-- The integers that are written are those of the survey and of the further values. -/
theorem hasDigitsWithin_payload (hfields : record.payload? time message = some fields)
    (hsurvey : record.surveyId.hasDigitsWithin Json.maxIntegerDigits = true)
    (hextras : ∀ name value, record.extras.get? name = some value → IsFurther name →
      value.IsReadable) :
    ∀ field ∈ fields, field.2.hasDigitsWithin Json.maxIntegerDigits = true := by
  obtain ⟨all, hall, hnodup, hget⟩ := payload?_spec fun name value hvalue hfurther =>
    (hextras name value hvalue hfurther).written?_ne_none
  cases Option.some.inj (hfields.symm.trans hall)
  intro field hfield
  have hfound := (Entries.get?_eq_some_iff hnodup).mpr hfield
  rw [hget, Option.or_eq_some_iff] at hfound
  rcases hfound with hown | ⟨hfresh, hfurther⟩
  · exact hasDigitsWithin_leading hsurvey _ (Entries.mem_of_get? hown)
  · split at hfurther
    · rename_i homitted
      obtain ⟨value, hvalue, hwritten⟩ := Option.bind_eq_some_iff.mp hfurther
      obtain ⟨v, hv, hdigits⟩ := hextras field.1 value hvalue (isFurther_iff.mpr ⟨homitted, hfresh⟩)
      cases Option.some.inj (hwritten.symm.trans hv)
      exact hdigits
    · cases hfurther

end LogRecord

namespace LogSettings

open LogRecord

/-- A record whose message can be made and whose values can be written has a line, which is the line
of one object and is read as it. -/
theorem line?_reads_back {settings : LogSettings} {record : LogRecord} {message : String}
    (hdocuments : settings.documents = true)
    (hkept : settings.threshold.keeps record.level = true)
    (hmessage : record.message = some message)
    (hsurvey : record.surveyId.hasDigitsWithin Json.maxIntegerDigits = true)
    (hextras : ∀ name value, record.extras.get? name = some value → IsFurther name →
      value.IsReadable) (time : String) :
    ∃ line fields, settings.line? time record = some line ∧ '\n' ∉ line.toList
      ∧ line = Json.writeLine (.obj fields)
      ∧ Json.read line = .ok (.obj (fields.map fun field => (field.1, field.2.merged)))
      ∧ record.IsLoggedAs time message fields := by
  have hwritten : ∀ name value, record.extras.get? name = some value → IsFurther name →
      value.written? ≠ none :=
    fun name value hvalue hfurther => (hextras name value hvalue hfurther).written?_ne_none
  obtain ⟨fields, hfields, hlogged⟩ := payload?_isLoggedAs hwritten time message
  have hline : settings.line? time record = some (Json.writeLine (.obj fields)) := by
    rw [line?, if_pos hkept, hmessage, Option.bind_some, if_pos hdocuments, documentLine?, hfields]
    rfl
  have hread := Json.read_writeLine
    (Json.hasDigitsWithin_obj.mpr (hasDigitsWithin_payload hfields hsurvey hextras))
  rw [Json.merged_obj hlogged.distinct] at hread
  exact ⟨_, fields, hline, Json.not_mem_writeLine _, rfl, hread, hlogged⟩

/-- A record that tries to pass for another: by a message with a line of its own, and by further
fields of the names that are taken. -/
def forging : LogRecord where
  level := .warning
  logger := "app"
  message := some "done\n\x7b\"ts\": \"then\"\x7d"
  surveyId := .str "phq9"
  failure := some ⟨"ValueError", "line\nbreak"⟩
  extras := [("ts", .ofData (.str "then")), ("msg", .ofData .null),
    ("points", .foreign "Decimal('1.5')" "1.5"), ("a\"b", .ofData (.num (.int 3)))]

theorem line?_reads_back_forging :
    ∃ line fields, (⟨.info, true⟩ : LogSettings).line? "now" forging = some line
      ∧ '\n' ∉ line.toList ∧ line = Json.writeLine (.obj fields)
      ∧ Json.read line = .ok (.obj (fields.map fun field => (field.1, field.2.merged)))
      ∧ forging.IsLoggedAs "now" "done\n\x7b\"ts\": \"then\"\x7d" fields := by
  apply line?_reads_back rfl rfl rfl rfl
  intro name value hvalue _
  have hmem := Entries.mem_of_get? hvalue
  simp only [forging, List.mem_cons, List.not_mem_nil, Prod.mk.injEq, or_false] at hmem
  rcases hmem with ⟨-, rfl⟩ | ⟨-, rfl⟩ | ⟨-, rfl⟩ | ⟨-, rfl⟩ <;> exact ⟨_, rfl, rfl⟩

/-- A record that is kept has no line when its values do not fit its message. -/
theorem line?_misfit :
    LogLevel.info.keeps .info = true
      ∧ (⟨.info, true⟩ : LogSettings).line? "now"
        { level := .info, logger := "app", surveyId := .null
          message := Template.message "scored %s of %d" [.str "é"] } = none := by
  decide

end LogSettings

end Questionnaire
