import Questionnaire.Proofs.Json.Canonical
import Questionnaire.Proofs.Lists
import Questionnaire.Proofs.Number.Range
import Questionnaire.Scoring.Survey

/-!
The points of answers whose texts exist.  Scoring takes the text of an answer, or the texts of its
members, and where these are there it does not matter how they are taken: the points are those of
the texts that the values display.
-/

namespace Questionnaire

namespace Number

variable {α : Type} {members : List α}

theorem sumOver_congr {f g : α → Except Fault Number}
    (h : ∀ member ∈ members, f member = g member) :
    sumOver f members = sumOver g members :=
  foldlM_congr_of_mem (fun member hmember total => by rw [h member hmember]) 0

theorem sumOver_ok (f : α → Number) (members : List α) :
    sumOver (fun member => .ok (f member)) members = sum (members.map f) := by
  rw [sum, List.foldlM_map]
  rfl

theorem mul_failsOnly {a b : Number} : FailsOnly [.outOfRange] (a.mul b) := combine_failsOnly

theorem sum_failsOnly {numbers : List Number} : FailsOnly [.outOfRange] (sum numbers) :=
  .foldlM (fun _ _ => combine_failsOnly) 0

/-- Whether counts are added up one by one or after all of them are known makes no difference where
both fail for the same cause. -/
theorem foldlM_add_eq_bind {f : α → Except Fault Number}
    (h : ∀ member ∈ members, FailsOnly [.outOfRange] (f member)) (start : Number) :
    (members.foldlM (fun total member => do total.add (← f member)) start)
      = members.mapM f >>= fun counts => counts.foldlM add start := by
  induction members generalizing start with
  | nil => rfl
  | cons member rest ih =>
      have hrest := (List.forall_mem_cons.mp h).2
      calc (member :: rest).foldlM (fun total member => do total.add (← f member)) start
          = f member >>= fun count => start.add count >>= fun total =>
              rest.mapM f >>= fun counts => counts.foldlM add total := by
            simp only [List.foldlM_cons, bind_assoc, ih hrest]
        _ = f member >>= fun count => rest.mapM f >>= fun counts =>
              start.add count >>= fun total => counts.foldlM add total := by
            refine bind_congr fun count => ?_
            exact FailsOnly.bind_comm combine_failsOnly (.mapM hrest) _
        _ = (member :: rest).mapM f >>= fun counts => counts.foldlM add start := by
            simp only [List.mapM_cons, bind_assoc, pure_bind, List.foldlM_cons]

theorem sumOver_eq_bind {f : α → Except Fault Number}
    (h : ∀ member ∈ members, FailsOnly [.outOfRange] (f member)) :
    sumOver f members = members.mapM f >>= sum := foldlM_add_eq_bind h 0

end Number

/-- The values whose texts scoring may take: an answer, its members, and where these are named the
members of each. -/
def Json.scoredParts : Json → List Json
  | .arr items => .arr items :: items
  | .obj entries =>
    .obj entries :: entries.flatMap fun entry => entry.2 :: Points.listItems entry.2
  | v => [v]

/-- Every text that scoring may take exists. -/
def Json.HasScoredTexts (text : Json → Except Fault String) (answer : Json) : Prop :=
  ∀ v ∈ answer.scoredParts, text v = .ok v.display

theorem Json.hasScoredTexts_assumedText (answer : Json) :
    answer.HasScoredTexts Json.assumedText := fun _ _ => rfl

namespace Json.HasScoredTexts

variable {text : Json → Except Fault String} {answer : Json}

theorem self (h : answer.HasScoredTexts text) : text answer = .ok answer.display := by
  cases answer <;> exact h _ List.mem_cons_self

theorem items {items : List Json} (h : (Json.arr items).HasScoredTexts text) :
    ∀ item ∈ items, text item = .ok item.display :=
  fun item hitem => h item (List.mem_cons_of_mem _ hitem)

theorem entry {entries : Entries Json} (h : (Json.obj entries).HasScoredTexts text)
    {entry : String × Json} (hentry : entry ∈ entries) :
    ∀ v ∈ entry.2 :: Points.listItems entry.2, text v = .ok v.display :=
  fun v hv => h v (List.mem_cons_of_mem _ (List.mem_flatMap.mpr ⟨entry, hentry, hv⟩))

end Json.HasScoredTexts

/-- The points of several options together. -/
def Question.totalOf (question : Question) (options : List Json) : Except Fault Number :=
  Number.sum (options.map fun option => question.scoreOf option.display)

namespace Points

variable (question : Question) (answer : Json)

/-- The answer as a number from zero to the upper bound. -/
def ofNumeric : Except Fault Points :=
  let upper := question.numericUpperBound
  if upper.le 0 then .ok nothing
  else match answer.quantity? with
    | none => do return ⟨0, ← upper.mul question.weight⟩
    | some value => weighted (value.clamp upper) upper question.weight

/-- The option a single answer stands for; a truth value stands for its label. -/
def chosenOption : Json → String
  | .bool true => question.yesLabel
  | .bool false => question.noLabel
  | answer => Text.trim answer.display

/-- The points of the chosen option, or of the chosen options together. -/
def chosenPoints : Json → Except Fault Number
  | .arr options => question.totalOf options
  | single => .ok (question.scoreOf (chosenOption question single))

def earnedByChoice : Option (Except Fault Number) :=
  unlessUnanswered answer (chosenPoints question answer)

def ofChoice : Except Fault Points :=
  weigh (bestOfChoice question) (earnedByChoice question answer) question.weight

def ofCustom : Except Fault Points := ofChoice question (asTruth answer)

def earnedByCount : Option (Except Fault Number) :=
  unlessUnanswered answer (question.totalOf (chosenOptions answer))

def ofCount : Except Fault Points :=
  weigh question.positiveTotal (earnedByCount question answer) question.weight

/-- The answer as a number from zero to ten. -/
def ofNps : Points :=
  match answer.quantity? with
  | none => ⟨0, npsTop⟩
  | some value => ⟨value.clamp npsTop, npsTop⟩

/-- The points of a cell of a grid. -/
def ofCell (cell : Json) : Except Fault Number :=
  if question.scores.isEmpty then .ok 1
  else match cell with
    | .arr options => question.totalOf options
    | single => question.totalOf [single]

def earnedByGrid : Option (Except Fault Number) :=
  match answer with
  | .obj cells => unlessUnanswered answer do
    Number.sum (← (answeredCells question cells).mapM (ofCell question))
  | _ => none

def ofGrid : Except Fault Points :=
  weigh (bestOfGrid question) (earnedByGrid question answer) question.weight

/-- The value of a ranked item. -/
def itemValue (item : Json) : Number :=
  if question.scores.isEmpty then 1 else question.scoreOf item.display

def earnedByRanking : Option (Except Fault Number) :=
  match answer with
  | .arr items => unlessUnanswered answer
    (placedTotal (places (placeCount question answer)) (items.map (itemValue question)))
  | _ => none

def ofRanking : Except Fault Points :=
  weigh (bestOfRanking question answer) (earnedByRanking question answer) question.weight

/-- The points allocated to the correct option, or to all options together. -/
def allocated (allocation : Answers) : Except Fault Number :=
  match question.correctOption.filter (· ≠ "") with
  | some option => .ok (allocation.answerTo option).quantityOrZero
  | none => Number.sum (allocation.map fun (_, points) => points.quantityOrZero)

def earnedByAllocation : Option (Except Fault Number) :=
  match answer with
  | .obj allocation => unlessUnanswered answer
    (do return (← allocated question allocation).clamp question.pointsToShare)
  | _ => none

def ofAllocation : Except Fault Points :=
  weigh (.ok question.pointsToShare) (earnedByAllocation question answer) question.weight

/-- The points of an answer in a mode of scoring. -/
def inMode (mode : ScoringMode) (question : Question) (answer : Json) : Except Fault Points :=
  match mode with
  | .numericDirect => ofNumeric question answer
  | .positionMapped => ofChoice question answer
  | .custom => ofCustom question answer
  | .count => ofCount question answer
  | .nps => .ok (ofNps answer)
  | .matrixSum => ofGrid question answer
  | .rankingWeighted => ofRanking question answer
  | .constantSumTotal => ofAllocation question answer
  | .none => .ok nothing

section Agreement

variable {question : Question} {answer : Json} {text : Json → Except Fault String}

theorem totalBy_eq {options : List Json}
    (h : ∀ option ∈ options, text option = .ok option.display) :
    totalBy text question options = question.totalOf options := by
  rw [totalBy, Number.sumOver_congr (g := fun option => .ok (question.scoreOf option.display)) ?_,
    Number.sumOver_ok, Question.totalOf]
  intro option hoption
  rw [h option hoption]
  rfl

theorem ofNumericBy_eq (h : text answer = .ok answer.display) :
    ofNumericBy text question answer = ofNumeric question answer := by
  unfold ofNumericBy ofNumeric
  rw [Json.quantityBy_eq h]
  rfl

/-- A truth value stands for its label, and for other answers a text is taken. -/
theorem chosenPointsBy_eq (h : (∀ value, answer ≠ .bool value) → answer.HasScoredTexts text) :
    chosenPointsBy text question answer = chosenPoints question answer := by
  cases answer with
  | bool value => cases value <;> rfl
  | arr options => exact totalBy_eq (h (by simp)).items
  | _ => simp only [chosenPointsBy, chosenOptionBy, (h (by simp)).self, Except.map, chosenPoints,
      chosenOption]

theorem ofChoiceBy_eq (h : (∀ value, answer ≠ .bool value) → answer.HasScoredTexts text) :
    ofChoiceBy text question answer = ofChoice question answer := by
  rw [ofChoiceBy, chosenPointsBy_eq h, ofChoice, earnedByChoice]

/-- A word for a truth value becomes one, and any other text stays as it is. -/
theorem asTruth_str (word : String) :
    asTruth (.str word) = .str word ∨ ∃ value, asTruth (.str word) = .bool value := by
  unfold asTruth
  dsimp only
  split
  · exact .inr ⟨true, rfl⟩
  · split
    · exact .inr ⟨false, rfl⟩
    · exact .inl rfl

theorem ofCustomBy_eq (h : answer.HasScoredTexts text) :
    ofCustomBy text question answer = ofCustom question answer := by
  refine ofChoiceBy_eq fun htruth => ?_
  cases answer with
  | str word =>
      rcases asTruth_str word with hword | ⟨value, hword⟩
      · rw [hword]
        exact h
      · exact absurd hword (htruth value)
  | _ => exact h

theorem ofCountBy_eq (h : answer.HasScoredTexts text) :
    ofCountBy text question answer = ofCount question answer := by
  have htexts : ∀ option ∈ chosenOptions answer, text option = .ok option.display := by
    cases answer with
    | arr options => exact h.items
    | _ => exact List.forall_mem_singleton.mpr h.self
  rw [ofCountBy, totalBy_eq htexts, ofCount, earnedByCount]

theorem ofNpsBy_eq (h : text answer = .ok answer.display) :
    ofNpsBy text answer = .ok (ofNps answer) := by
  rw [ofNpsBy, Json.quantityBy_eq h, ofNps]
  cases answer.quantity? <;> rfl

/-- What is answered in a grid is found there. -/
theorem exists_entry_of_mem_answeredCells {cells : Answers} {cell : Json}
    (h : cell ∈ answeredCells question cells) : ∃ entry ∈ cells, entry.2 = cell := by
  obtain ⟨hcell, hanswered⟩ := List.mem_filter.mp h
  obtain ⟨row, -, rfl⟩ := List.mem_map.mp hcell
  cases hfound : Entries.get? cells row with
  | none =>
      rw [Answers.answerTo, hfound] at hanswered
      cases hanswered
  | some cell =>
      rw [Answers.answerTo, hfound]
      exact ⟨_, Entries.mem_of_get? hfound, rfl⟩

theorem cellPointsBy_eq {cell : Json}
    (h : ∀ v ∈ cell :: listItems cell, text v = .ok v.display) :
    cellPointsBy text question cell = ofCell question cell := by
  unfold cellPointsBy ofCell
  split
  · rfl
  · cases cell with
    | arr options => exact totalBy_eq (List.forall_mem_cons.mp h).2
    | _ => exact totalBy_eq (List.forall_mem_singleton.mpr (h _ List.mem_cons_self))

theorem ofCell_failsOnly {cell : Json} : FailsOnly [.outOfRange] (ofCell question cell) := by
  unfold ofCell
  split
  · exact .ok
  · split <;> exact Number.sum_failsOnly

theorem ofGridBy_eq (h : answer.HasScoredTexts text) :
    ofGridBy text question answer = ofGrid question answer := by
  cases answer with
  | obj cells =>
      have hcells : Number.sumOver (cellPointsBy text question) (answeredCells question cells)
          = (answeredCells question cells).mapM (ofCell question) >>= Number.sum := by
        rw [← Number.sumOver_eq_bind fun _ _ => ofCell_failsOnly]
        refine Number.sumOver_congr fun cell hcell => ?_
        obtain ⟨entry, hentry, rfl⟩ := exists_entry_of_mem_answeredCells hcell
        exact cellPointsBy_eq (h.entry hentry)
      rw [ofGridBy, hcells]
      rfl
  | _ => rfl

theorem itemValueBy_eq {item : Json} (h : text item = .ok item.display) :
    itemValueBy text question item = .ok (itemValue question item) := by
  unfold itemValueBy itemValue
  split
  · rfl
  · rw [h]
    rfl

theorem ofRankingBy_eq (h : answer.HasScoredTexts text) :
    ofRankingBy text question answer = ofRanking question answer := by
  cases answer with
  | arr items =>
      have hranked (places : List Nat) :
          Number.sumOver (rankedPointsBy text question) (places.zip items)
            = placedTotal places (items.map (itemValue question)) := by
        have hpoints : ∀ ranked ∈ places.zip items, rankedPointsBy text question ranked
            = (Number.int ranked.1).mul (itemValue question ranked.2) := by
          intro ranked hmem
          rw [rankedPointsBy, itemValueBy_eq (h.items _ (List.of_mem_zip hmem).2)]
          rfl
        rw [Number.sumOver_congr hpoints, Number.sumOver_eq_bind fun _ _ => Number.mul_failsOnly,
          placedTotal, List.zip_map_right, List.mapM_map]
        rfl
      rw [ofRankingBy, hranked]
      rfl
  | _ => rfl

theorem allocatedBy_eq {allocation : Answers} (h : (Json.obj allocation).HasScoredTexts text) :
    allocatedBy text question allocation = allocated question allocation := by
  have hshare (option : String) : ((allocation.answerTo option).quantityBy text).map .orZero
      = .ok (allocation.answerTo option).quantityOrZero := by
    unfold Answers.answerTo
    cases hfound : Entries.get? allocation option with
    | none => rfl
    | some points =>
        have hpoints := h.entry (Entries.mem_of_get? hfound) points List.mem_cons_self
        rw [Option.getD_some, Json.quantityBy_eq hpoints]
        rfl
  have htotal : Number.sumOver (fun entry => (entry.2.quantityBy text).map .orZero) allocation
      = Number.sum (allocation.map fun entry => entry.2.quantityOrZero) := by
    rw [← Number.sumOver_ok]
    refine Number.sumOver_congr fun entry hentry => ?_
    rw [Json.quantityBy_eq (h.entry hentry _ List.mem_cons_self)]
    rfl
  unfold allocatedBy allocated
  cases question.correctOption.filter (· ≠ "") with
  | some option => exact hshare option
  | none => exact htotal

theorem ofAllocationBy_eq (h : answer.HasScoredTexts text) :
    ofAllocationBy text question answer = ofAllocation question answer := by
  cases answer with
  | obj allocation =>
      rw [ofAllocationBy, allocatedBy_eq h]
      rfl
  | _ => rfl

/-- In every mode, the points are those of the displayed texts if these exist. -/
theorem inModeBy_eq (h : answer.HasScoredTexts text) (mode : ScoringMode) :
    inModeBy text question mode answer = inMode mode question answer := by
  cases mode with
  | numericDirect => exact ofNumericBy_eq h.self
  | positionMapped => exact ofChoiceBy_eq fun _ => h
  | custom => exact ofCustomBy_eq h
  | count => exact ofCountBy_eq h
  | nps => exact ofNpsBy_eq h.self
  | matrixSum => exact ofGridBy_eq h
  | rankingWeighted => exact ofRankingBy_eq h
  | constantSumTotal => exact ofAllocationBy_eq h
  | none => rfl

end Agreement

end Points

/-- The group of the number that an answer stands for. -/
def NpsGroup.ofAnswer? (answer : Json) : Option NpsGroup := answer.quantity?.bind ofNumber?

namespace Question

/-- The points of an answer, none at all where the question is not to be scored. -/
def earned (question : Question) (answer : Json) : Except Fault Points :=
  if question.scorable = some false then .ok .nothing
  else Points.inMode question.kind.scoringMode question answer

/-- The score that reports points. -/
def reported (question : Question) (answer : Json) (points : Points) : QuestionScore where
  questionId := question.id
  score := points.score.tidy
  maxScore := points.most.tidy
  mode := question.kind.scoringMode
  category := question.category
  answered := !isUnanswered answer
  npsGroup := if question.kind.scoringMode = .nps then NpsGroup.ofAnswer? answer else none

variable {text : Json → Except Fault String} {answer : Json}

/-- Scoring an answer is reporting its points. -/
theorem scoreBy_eq (question : Question) (h : answer.HasScoredTexts text) :
    question.scoreBy text answer = (question.earned answer).map (question.reported answer) := by
  have hearned : question.earnedBy text answer = question.earned answer := by
    rw [earnedBy, Points.inModeBy_eq h, earned]
  have hgroup : question.npsGroupBy text answer
      = .ok (if question.kind.scoringMode = .nps then NpsGroup.ofAnswer? answer else none) := by
    unfold npsGroupBy
    split
    · rw [NpsGroup.ofAnswerBy, Json.quantityBy_eq h.self]
      rfl
    · rfl
  rw [scoreBy, hearned, hgroup]
  cases question.earned answer <;> rfl

theorem score_eq (question : Question) (answer : Json) :
    question.score answer = (question.earned answer).map (question.reported answer) :=
  question.scoreBy_eq answer.hasScoredTexts_assumedText

theorem score_eq_ok_iff {question : Question} {scored : QuestionScore} :
    question.score answer = .ok scored ↔
      ∃ points, question.earned answer = .ok points ∧ question.reported answer points = scored := by
  rw [score_eq, map_eq_ok]

end Question

/-- Where the texts of all answers exist, the scores do not depend on how they are taken. -/
theorem questionScoresBy_eq {text : Json → Except Fault String} {questions : List Question}
    {answers : Answers}
    (h : ∀ question ∈ questions, (answers.answerTo question.id).HasScoredTexts text) :
    questionScoresBy text questions answers = questionScores questions answers := by
  refine mapM_congr_of_mem fun question hquestion => ?_
  have htexts := h question (List.mem_of_mem_filter hquestion)
  rw [Question.scoreBy_eq question htexts]
  exact (Question.score_eq question _).symm

end Questionnaire
