import Questionnaire.Json.Display

/-!
Values that are logged beside a message.  Such a value is known by what is made of it: the data that
it is written as, unless it is none, and its text.  A list or a dictionary is data if everything in
it is.
-/

namespace Questionnaire

/-- What becomes of a value that is to be written as data. -/
inductive Encoding where
  | data (v : Json)
  /-- There is something in it that is no data. -/
  | foreign
  /-- It contains itself. -/
  | endless
deriving DecidableEq

namespace Encoding

/-- What becomes of a collection: it is made of the data of its parts, or the first part that is no
data decides. -/
def collect (make : List Json → Json) : List Encoding → Encoding
  | [] => .data (make [])
  | .data v :: rest => collect (fun vs => make (v :: vs)) rest
  | .foreign :: _ => .foreign
  | .endless :: _ => .endless

end Encoding

/-- A value beside a message. -/
structure LoggedValue where
  encoding : Encoding
  /-- The text inside a collection. -/
  shown : String
  /-- The text on its own. -/
  text : String
deriving DecidableEq

namespace LoggedValue

def ofData (v : Json) : LoggedValue := ⟨.data v, v.shown, v.display⟩

/-- Something that is no data. -/
def foreign (shown text : String) : LoggedValue := ⟨.foreign, shown, text⟩

/-- A collection that is met again inside itself. -/
def endless (shown : String) : LoggedValue := ⟨.endless, shown, shown⟩

def list (items : List LoggedValue) : LoggedValue :=
  let shown := "[" ++ Json.commaSeparated (items.map fun item => item.shown) ++ "]"
  ⟨.collect .arr (items.map fun item => item.encoding), shown, shown⟩

def dictionary (entries : Entries LoggedValue) : LoggedValue :=
  let shown := "\x7b" ++ Json.commaSeparated
    (entries.map fun (name, v) => Text.quoted name ++ ": " ++ v.shown) ++ "\x7d"
  ⟨.collect (fun vs => .obj (entries.keys.zip vs)) (entries.map fun (_, v) => v.encoding), shown,
    shown⟩

/-- What is written of a value: the value itself, or its text if something in it is no data.  A
value that contains itself cannot be written. -/
def written? (v : LoggedValue) : Option Json :=
  match v.encoding with
  | .data data => some data
  | .foreign => some (.str v.text)
  | .endless => none

theorem collect_map_data (make : List Json → Json) (vs : List Json) :
    Encoding.collect make (vs.map .data) = .data (make vs) := by
  induction vs generalizing make with
  | nil => rfl
  | cons v vs ih => rw [List.map_cons, Encoding.collect, ih]

/-- A list of data is data. -/
theorem list_map_ofData (vs : List Json) : list (vs.map ofData) = ofData (.arr vs) := by
  have hshown : (vs.map ofData).map (fun item => item.shown) = Json.shownItems vs := by
    induction vs with
    | nil => rfl
    | cons v vs ih => rw [List.map_cons, List.map_cons, ih, Json.shownItems, ofData]
  have hencoding : (vs.map ofData).map (fun item => item.encoding) = vs.map .data := by
    rw [List.map_map]
    rfl
  rw [list, hencoding, hshown, collect_map_data]
  rfl

/-- A dictionary of data is data. -/
theorem dictionary_map_ofData (entries : Entries Json) :
    dictionary (entries.map fun entry => (entry.1, ofData entry.2)) = ofData (.obj entries) := by
  let logged : Entries LoggedValue := entries.map fun entry => (entry.1, ofData entry.2)
  have hshown : logged.map (fun entry => Text.quoted entry.1 ++ ": " ++ entry.2.shown)
      = Json.shownEntries entries := by
    unfold logged
    induction entries with
    | nil => rfl
    | cons entry rest ih =>
      obtain ⟨name, v⟩ := entry
      rw [List.map_cons, List.map_cons, ih, Json.shownEntries, ofData]
  have hencoding : logged.map (fun entry => entry.2.encoding)
      = (entries.map fun entry => entry.2).map .data := by
    rw [List.map_map, List.map_map]
    rfl
  have hnames : logged.keys = entries.map fun entry => entry.1 := by
    rw [Entries.keys, List.map_map]
    rfl
  have hzip : logged.keys.zip (entries.map fun entry => entry.2) = entries := by
    rw [hnames, List.zip_map', List.map_id']
  have hdictionary : dictionary logged =
      let shown := "\x7b" ++ Json.commaSeparated
        (logged.map fun entry => Text.quoted entry.1 ++ ": " ++ entry.2.shown) ++ "\x7d"
      ⟨.collect (fun vs => .obj (logged.keys.zip vs)) (logged.map fun entry => entry.2.encoding),
        shown, shown⟩ := rfl
  rw [hdictionary, hencoding, hshown, collect_map_data]
  dsimp only
  rw [hzip]
  rfl

end LoggedValue

end Questionnaire
