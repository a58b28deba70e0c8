import Questionnaire.Schema.Fields

/-!
How a survey is scored as a whole: the categories that questions count towards and the bands that
percentages fall into, with their data forms.
-/

namespace Questionnaire

structure ScoreCategory where
  id : String
  name : String
deriving DecidableEq

/-- A named range of percentages, both bounds included. -/
structure ScoreBand where
  id : String
  min : Number
  max : Number
  label : String
  color : Option String
  interpretation : Option String
deriving DecidableEq

/-- Whether a category uses the bands of the survey or bands of its own. -/
inductive BandsMode where
  | shared
  | custom
deriving DecidableEq, Repr

structure CategoryResults where
  categoryId : String
  mode : BandsMode
  bands : Option (List ScoreBand)
deriving DecidableEq

structure ResultsScreen where
  enabled : Bool
  bands : Option (List ScoreBand)
  categories : Option (List CategoryResults)
deriving DecidableEq

structure ScoreConfig where
  enabled : Bool
  categories : List ScoreCategory
  bands : List ScoreBand
  resultsScreen : Option ResultsScreen
  engineId : Option String
deriving DecidableEq

namespace ScoreCategory

def ofJson : Schema.Check ScoreCategory :=
  Schema.record "ScoreCategory" fun entries =>
    ScoreCategory.mk <$> Schema.required entries "id" Schema.text
      <*> Schema.required entries "name" Schema.text

def toJson (category : ScoreCategory) : Json :=
  .obj [("id", .str category.id), ("name", .str category.name)]

end ScoreCategory

namespace ScoreBand

/-- Whether a value lies between the bounds. -/
def holds (band : ScoreBand) (value : Number) : Bool := band.min.le value && value.le band.max

def ofJson : Schema.Check ScoreBand :=
  Schema.record "ScoreBand" fun entries =>
    ScoreBand.mk <$> Schema.required entries "id" Schema.text
      <*> Schema.required entries "min" Schema.number
      <*> Schema.required entries "max" Schema.number
      <*> Schema.required entries "label" Schema.text
      <*> Schema.optionalField entries "color" Schema.text
      <*> Schema.optionalField entries "interpretation" Schema.text

def toJson (band : ScoreBand) : Json :=
  Json.ofFields
    [("id", some (.str band.id)), ("min", some (.num band.min)), ("max", some (.num band.max)),
      ("label", some (.str band.label)), ("color", band.color.map .str),
      ("interpretation", band.interpretation.map .str)]

end ScoreBand

namespace BandsMode

def name : BandsMode → String
  | .shared => "global"
  | .custom => "custom"

def words : List (String × BandsMode) := [BandsMode.shared, .custom].map fun m => (m.name, m)

end BandsMode

namespace CategoryResults

def ofJson : Schema.Check CategoryResults :=
  Schema.record "CategoryResultConfig" fun entries =>
    CategoryResults.mk <$> Schema.required entries "categoryId" Schema.text
      <*> Schema.withDefault entries "bandsMode" .shared (Schema.fixed BandsMode.words)
      <*> Schema.optionalField entries "bands" (Schema.list ScoreBand.ofJson)

def toJson (results : CategoryResults) : Json :=
  Json.ofFields
    [("categoryId", some (.str results.categoryId)), ("bandsMode", some (.str results.mode.name)),
      ("bands", results.bands.map (Json.ofList ScoreBand.toJson))]

end CategoryResults

namespace ResultsScreen

def ofJson : Schema.Check ResultsScreen :=
  Schema.record "ResultsScreenConfig" fun entries =>
    ResultsScreen.mk <$> Schema.withDefault entries "enabled" false Schema.truth
      <*> Schema.optionalField entries "scoreRanges" (Schema.list ScoreBand.ofJson)
      <*> Schema.optionalField entries "categories" (Schema.list CategoryResults.ofJson)

def toJson (screen : ResultsScreen) : Json :=
  Json.ofFields
    [("enabled", some (.bool screen.enabled)),
      ("scoreRanges", screen.bands.map (Json.ofList ScoreBand.toJson)),
      ("categories", screen.categories.map (Json.ofList CategoryResults.toJson))]

end ResultsScreen

namespace ScoreConfig

def ofJson : Schema.Check ScoreConfig :=
  Schema.record "ScoreConfig" fun entries =>
    ScoreConfig.mk <$> Schema.withDefault entries "enabled" false Schema.truth
      <*> Schema.withDefault entries "categories" [] (Schema.list ScoreCategory.ofJson)
      <*> Schema.withDefault entries "scoreRanges" [] (Schema.list ScoreBand.ofJson)
      <*> Schema.optionalField entries "resultsScreen" ResultsScreen.ofJson
      <*> Schema.optionalField entries "scoringEngineId" Schema.text

def toJson (config : ScoreConfig) : Json :=
  Json.ofFields
    [("enabled", some (.bool config.enabled)),
      ("categories", some (Json.ofList ScoreCategory.toJson config.categories)),
      ("scoreRanges", some (Json.ofList ScoreBand.toJson config.bands)),
      ("resultsScreen", config.resultsScreen.map ResultsScreen.toJson),
      ("scoringEngineId", config.engineId.map .str)]

end ScoreConfig

end Questionnaire
