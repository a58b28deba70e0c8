import Questionnaire.Json.Display
import Questionnaire.Number.Numeral

/-!
Message templates: a percent sign begins a directive that a value is put in place of, with flags, a
width and a precision.
-/

namespace Questionnaire

/-- A width or precision: given in the directive, or taken from the values. -/
inductive Measure where
  | given (size : Nat)
  | taken
deriving DecidableEq, Repr

/-- What is put in a place, and how. -/
structure Directive where
  key : Option String
  leftAligned : Bool
  showsPlus : Bool
  showsBlank : Bool
  zeroPadded : Bool
  alternate : Bool
  width : Option Measure
  precision : Option Measure
  conversion : Char
deriving DecidableEq, Repr

inductive TemplatePart where
  | literal (c : Char)
  | directive (directive : Directive)
deriving DecidableEq, Repr

/-- The values for a template: one after the other, or under their names. -/
inductive TemplateValues where
  | listed (values : List Json)
  | named (entries : Entries Json)

namespace Directive

/-- A width or precision at the head of the characters. -/
def measure : List Char → Option Measure × List Char
  | '*' :: rest => (some .taken, rest)
  | s =>
    let digits := s.takeWhile Numeral.isDigit
    (if digits.isEmpty then none else some (.given (Numeral.digitsValue 0 digits)),
      s.drop digits.length)

/-- A name in parentheses, which may hold others. -/
def keyEnd : Nat → List Char → Option (List Char × List Char)
  | _, [] => none
  | depth, c :: rest =>
    if c = ')' then
      match depth with
      | 0 => some ([], rest)
      | depth + 1 => (keyEnd depth rest).map fun (key, after) => (c :: key, after)
    else if c = '(' then (keyEnd (depth + 1) rest).map fun (key, after) => (c :: key, after)
    else (keyEnd depth rest).map fun (key, after) => (c :: key, after)

/-- A name in parentheses at the head of the characters, if there is one. -/
def leadingKey : List Char → Option (Option String × List Char)
  | '(' :: rest => (keyEnd 0 rest).map fun (key, after) => (some (String.ofList key), after)
  | s => some (none, s)

/-- A precision after a point at the head of the characters; the point alone stands for zero. -/
def pointed : List Char → Option Measure × List Char
  | '.' :: rest => ((measure rest).1.getD (.given 0), (measure rest).2)
  | s => (none, s)

def isFlag (c : Char) : Bool := c ∈ ['-', '+', ' ', '#', '0']

/-- The characters without a mark of size, which says nothing here. -/
def dropSize : List Char → List Char
  | c :: rest => if c ∈ ['h', 'l', 'L'] then rest else c :: rest
  | [] => []

/-- A directive after its percent sign, and what follows it. -/
def read (s : List Char) : Option (Directive × List Char) := do
  let (key, s) ← leadingKey s
  let flags := s.takeWhile isFlag
  let (width, s) := measure (s.drop flags.length)
  let (precision, s) := pointed s
  match dropSize s with
  | [] => none
  | conversion :: rest =>
    some (⟨key, '-' ∈ flags, '+' ∈ flags, ' ' ∈ flags, '0' ∈ flags, '#' ∈ flags, width, precision,
      conversion⟩, rest)

end Directive

namespace Template

/-- The parts of a template; each takes at least one character, so their count is enough fuel. -/
def parts : Nat → List Char → Option (List TemplatePart)
  | _, [] => some []
  | 0, _ => none
  | fuel + 1, '%' :: '%' :: rest => do return .literal '%' :: (← parts fuel rest)
  | fuel + 1, '%' :: rest => do
    let (directive, after) ← Directive.read rest
    return .directive directive :: (← parts fuel after)
  | fuel + 1, c :: rest => do return .literal c :: (← parts fuel rest)

/-- A number as it is laid out: its sign, what marks its base, and its digits. -/
structure Layout where
  sign : List Char
  mark : List Char
  body : List Char

/-- Puts a laid out number into a width. -/
def Layout.pad (layout : Layout) (directive : Directive) (width : Nat) (left : Bool) : List Char :=
  let text := layout.sign ++ layout.mark ++ layout.body
  let missing := width - text.length
  if left then text ++ List.replicate missing ' '
  else if directive.zeroPadded then
    layout.sign ++ layout.mark ++ List.replicate missing '0' ++ layout.body
  else List.replicate missing ' ' ++ text

def signOf (directive : Directive) (negative : Bool) : List Char :=
  if negative then ['-']
  else if directive.showsPlus then ['+']
  else if directive.showsBlank then [' ']
  else []

/-- An integer in a base, with at least `precision` digits. -/
def layoutInt (directive : Directive) (base : Nat) (mark : List Char) (precision : Option Nat)
    (value : Int) : Layout :=
  let digits := Nat.toDigits base value.natAbs
  ⟨signOf directive (value < 0), if directive.alternate then mark else [],
    List.replicate (precision.getD 0 - digits.length) '0' ++ digits⟩

/-- The text of a number taken apart from its sign. -/
def layoutText (directive : Directive) (text : String) : Layout :=
  match text.toList with
  | '-' :: body => ⟨signOf directive true, [], body⟩
  | body => ⟨signOf directive false, [], body⟩

def upperCase (layout : Layout) : Layout :=
  ⟨layout.sign, layout.mark.map Char.toUpper, layout.body.map Char.toUpper⟩

/-- A text with everything outside ASCII escaped. -/
def asciiOnly (s : String) : String :=
  String.ofList (s.toList.flatMap fun c =>
    if c.toNat < 0x80 then [c]
    else if c.toNat < 0x100 then '\\' :: 'x' :: Text.hexDigits 2 c.toNat
    else if c.toNat < 0x10000 then '\\' :: 'u' :: Text.hexDigits 4 c.toNat
    else '\\' :: 'U' :: Text.hexDigits 8 c.toNat)

/-- An integer as such; a number with a fraction is none. -/
def exactInt? : Json → Option Int
  | .num (.int value) => some value
  | .bool value => some (if value then 1 else 0)
  | _ => none

def number? (v : Json) : Option Number := v.asNumber.toOption

/-- A number without its fraction. -/
def whole? (v : Json) : Option Int := (number? v).bind (·.whole.toOption)

def binary? (v : Json) : Option Binary64 := (number? v).bind (·.toBinary64.toOption)

/-- A single character, given as a text or as its code. -/
def character? : Json → Option (List Char)
  | .str s => if s.length = 1 then some s.toList else none
  | v => do
    let code ← exactInt? v
    if h : 0 ≤ code ∧ code.toNat.isValidChar then some [Char.ofNatAux code.toNat h.2] else none

/-- The text of a number with a point, before the exponent or at the end if there was none. -/
def withPoint (text : String) : String :=
  let s := text.toList
  if '.' ∈ s then text
  else String.ofList (s.takeWhile (· ≠ 'e') ++ '.' :: s.dropWhile (· ≠ 'e'))

/-- A value put in the place of a directive. -/
def place (directive : Directive) (width : Nat) (left : Bool) (precision : Option Nat) (v : Json) :
    Option (List Char) :=
  let text (s : List Char) : List Char :=
    let cut := match precision with
      | some count => s.take count
      | none => s
    ({ sign := [], mark := [], body := cut } : Layout).pad { directive with zeroPadded := false }
      width left
  let laid (layout : Layout) : List Char := layout.pad directive width left
  let places := precision.getD 6
  let floating (write : Binary64 → String) : Option Layout :=
    (binary? v).map fun x =>
      layoutText directive
        (if directive.alternate && x.isFinite then withPoint (write x) else write x)
  let significant := if directive.alternate then Binary64.fullText else Binary64.significantText
  match directive.conversion with
  | 's' => some (text v.display.toList)
  | 'r' => some (text v.shown.toList)
  | 'a' => some (text (asciiOnly v.shown).toList)
  | 'c' => (character? v).map fun c => ({ sign := [], mark := [], body := c } : Layout).pad
      { directive with zeroPadded := false } width left
  | 'd' | 'i' | 'u' => (whole? v).map (laid ∘ layoutInt directive 10 [] precision)
  | 'x' => (exactInt? v).map (laid ∘ layoutInt directive 16 ['0', 'x'] precision)
  | 'X' => (exactInt? v).map (laid ∘ upperCase ∘ layoutInt directive 16 ['0', 'x'] precision)
  | 'o' => (exactInt? v).map (laid ∘ layoutInt directive 8 ['0', 'o'] precision)
  | 'f' => (floating (Binary64.placesText places)).map laid
  | 'F' => (floating (Binary64.placesText places)).map (laid ∘ upperCase)
  | 'e' => (floating (Binary64.exponentText places)).map laid
  | 'E' => (floating (Binary64.exponentText places)).map (laid ∘ upperCase)
  | 'g' => (floating (significant places)).map laid
  | 'G' => (floating (significant places)).map (laid ∘ upperCase)
  | _ => none

/-- Takes a width or precision from the values. -/
def takeSize : List Json → Option (Int × List Json)
  | v :: rest => (exactInt? v).map fun size => (size, rest)
  | [] => none

/-- The size of a measure, and the values that are left. -/
def size (measure : Option Measure) (values : List Json) : Option (Option Int × List Json) :=
  match measure with
  | none => some (none, values)
  | some (.given n) => some (some (n : Int), values)
  | some .taken => (takeSize values).map fun (n, rest) => (some n, rest)

/-- The values from which a directive takes its own. -/
def source (named : Option (Entries Json)) (directive : Directive) (values : List Json) :
    Option (List Json) :=
  match directive.key with
  | none => some values
  | some key => named.bind fun entries => (Entries.get? entries key).map fun v => [v]

/-- The parts of a template with the values in their places; every listed value has to be used. -/
def fillParts (named : Option (Entries Json)) :
    List Json → List TemplatePart → Option (List Char)
  | values, [] => if values.isEmpty || named.isSome then some [] else none
  | values, .literal c :: rest => (fillParts named values rest).map (c :: ·)
  | values, .directive directive :: rest => do
    let values ← source named directive values
    let (width, values) ← size directive.width values
    let (precision, values) ← size directive.precision values
    match values with
    | [] => none
    | v :: values =>
      let given := width.getD 0
      let placed ← place directive given.natAbs (directive.leftAligned || given < 0)
        (precision.map (·.toNat)) v
      return placed ++ (← fillParts named values rest)

/-- A template with its values, unless they do not fit. -/
def fill (template : String) (values : TemplateValues) : Option String := do
  let s := template.toList
  let parts ← parts s.length s
  let filled ← match values with
    | .listed values => fillParts none values parts
    | .named entries => fillParts (some entries) [.obj entries] parts
  return String.ofList filled

/-- The message of a template with the arguments given to it.  A single object that is not empty
gives the values by their names. -/
def message (template : String) : List Json → Option String
  | [] => some template
  | [.obj (entry :: entries)] => fill template (.named (entry :: entries))
  | values => fill template (.listed values)

theorem parts_literal {s : List Char} (h : '%' ∉ s) :
    parts s.length s = some (s.map .literal) := by
  induction s with
  | nil => rfl
  | cons c rest ih =>
    simp only [List.mem_cons, not_or] at h
    rw [List.length_cons, parts]
    · simp [ih h.2]
    · intro tail hc
      exact absurd hc.symm h.1
    · intro hc
      exact absurd hc.symm h.1

theorem fillParts_literal (s : List Char) :
    fillParts none [] (s.map .literal) = some s := by
  induction s with
  | nil => rfl
  | cons c rest ih => simp [fillParts, ih]

/-- A template without directives stands for itself. -/
theorem fill_literal {template : String} (h : '%' ∉ template.toList) :
    fill template (.listed []) = some template := by
  simp [fill, parts_literal h, fillParts_literal]

end Template

end Questionnaire
