import Questionnaire.Text.CaseTable

/-!
Texts in lower and in upper case.  One character may become several, and a capital sigma at the end
of a word becomes the final form of the letter.
-/

namespace Questionnaire.Text

private def shifted (runs : List CaseRun) (c : Char) : Char :=
  match runs.findSome? (·.shift? c.toNat) with
  | some shift => Char.ofNat (c.toNat + shift).toNat
  | none => c

private def isCased (c : Char) : Bool := inRanges casedRanges c

private def isCaseIgnorable (c : Char) : Bool := inRanges caseIgnorableRanges c

/-- Whether the nearest character that is not passed over has case. -/
private def nextIsCased (s : List Char) : Bool :=
  match s.dropWhile isCaseIgnorable with
  | c :: _ => isCased c
  | [] => false

private def lowerChar (c : Char) : List Char :=
  if c.toNat < 0x80 then [c.toLower]
  else if c = 'İ' then ['i', '\u0307']
  else [shifted lowerRuns c]

/-- Lower case, `before` being the characters already read, the last one first. -/
def lowerChars (before : List Char) : List Char → List Char
  | [] => []
  | c :: rest =>
    let here := if c = 'Σ' then (if nextIsCased before && !nextIsCased rest then ['ς'] else ['σ'])
      else lowerChar c
    here ++ lowerChars (c :: before) rest

def upperChar (c : Char) : List Char :=
  if c.toNat < 0x80 then [c.toUpper]
  else match upperSpecial.find? (·.1 = c.toNat) with
    | some (_, codes) => codes.map Char.ofNat
    | none => [shifted upperRuns c]

def lower (s : String) : String := String.ofList (lowerChars [] s.toList)

def upper (s : String) : String := String.ofList (s.toList.flatMap upperChar)

/-- The text with its first character in upper case. -/
def capitalizeFirst (s : String) : String :=
  match s.toList with
  | [] => ""
  | c :: rest => String.ofList (upperChar c ++ rest)

end Questionnaire.Text
