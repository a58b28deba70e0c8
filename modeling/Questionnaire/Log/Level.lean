import Questionnaire.Text.Case

/-!
Levels of log records.  A record is kept if its level is not below the one that is set; only levels
that have a name of their own can be set.
-/

namespace Questionnaire

/-- A level by its name, which may be any text, and by its rank. -/
structure LogLevel where
  name : String
  rank : Int
deriving DecidableEq, Repr

namespace LogLevel

def unset : LogLevel := ⟨"NOTSET", 0⟩
def debug : LogLevel := ⟨"DEBUG", 10⟩
def info : LogLevel := ⟨"INFO", 20⟩
def warning : LogLevel := ⟨"WARNING", 30⟩
def error : LogLevel := ⟨"ERROR", 40⟩
def critical : LogLevel := ⟨"CRITICAL", 50⟩

/-- The levels that have a name of their own. -/
def named : List LogLevel := [unset, debug, info, warning, error, critical]

/-- The names of the levels, two of which have another one. -/
def words : List (String × LogLevel) :=
  named.map (fun level => (level.name, level)) ++ [("WARN", .warning), ("FATAL", .critical)]

def ofName? (name : String) : Option LogLevel := List.lookup name words

/-- The level that a setting asks for, in any case. -/
def ofSetting? (setting : String) : Option LogLevel := ofName? (Text.upper setting)

/-- Whether a record of a level is kept. -/
def keeps (threshold level : LogLevel) : Bool := threshold.rank ≤ level.rank

theorem ofName?_name : ∀ level ∈ named, ofName? level.name = some level := by decide +kernel

end LogLevel

end Questionnaire
