import Questionnaire.Json.Basic
import Questionnaire.Order
import Questionnaire.Text.Quoted

/-!
Writing documents.  A style says what separates items and names, and whether characters outside
ASCII are escaped; a canonical document has no gaps and its names in code point order.  Integers are
written out at any length: whether they have too many digits to be written is said of the data.
-/

namespace Questionnaire.Json

structure WriteStyle where
  /-- Between two items. -/
  itemGap : List Char
  /-- Between a name and its value. -/
  nameGap : List Char
  /-- Whether every character outside the printable ASCII range is escaped. -/
  ascii : Bool

namespace WriteStyle

/-- No gaps, ASCII only. -/
def compact : WriteStyle := ⟨[','], [':'], true⟩

/-- One line with gaps, all characters but controls as they are. -/
def line : WriteStyle := ⟨[',', ' '], [':', ' '], false⟩

end WriteStyle

/-- A code unit as an escape. -/
def unitEscape (n : Nat) : List Char := '\\' :: 'u' :: Text.hexDigits 4 n

/-- A code point as one escape, or as two for a pair of surrogates. -/
def codeEscape (n : Nat) : List Char :=
  if n < 0x10000 then unitEscape n
  else unitEscape (0xD800 + (n - 0x10000) / 0x400) ++ unitEscape (0xDC00 + (n - 0x10000) % 0x400)

/-- A character inside quotes. -/
def writeChar (ascii : Bool) (c : Char) : List Char :=
  if c = '"' then ['\\', '"']
  else if c = '\\' then ['\\', '\\']
  else if c = '\n' then ['\\', 'n']
  else if c = '\r' then ['\\', 'r']
  else if c = '\t' then ['\\', 't']
  else if c = '\x0c' then ['\\', 'f']
  else if c = '\x08' then ['\\', 'b']
  else if c.toNat < 0x20 then codeEscape c.toNat
  else if ascii && 0x7E < c.toNat then codeEscape c.toNat
  else [c]

def writeText (ascii : Bool) (s : String) : List Char :=
  '"' :: s.toList.flatMap (writeChar ascii) ++ ['"']

def writeNumber : Number → List Char
  | .int value => (toString value).toList
  | .float value => (value.text .document).toList

mutual

/-- The document of a value, if none of its integers has too many digits. -/
def write (style : WriteStyle) : Json → List Char
  | .null => ['n', 'u', 'l', 'l']
  | .bool true => ['t', 'r', 'u', 'e']
  | .bool false => ['f', 'a', 'l', 's', 'e']
  | .num value => writeNumber value
  | .str value => writeText style.ascii value
  | .arr [] => ['[', ']']
  | .arr (item :: items) => '[' :: write style item ++ writeItems style items
  | .obj [] => ['{', '}']
  | .obj ((name, item) :: entries) =>
    '{' :: writeText style.ascii name ++ style.nameGap ++ write style item
      ++ writeEntries style entries

/-- The items after the first, and the closing bracket. -/
def writeItems (style : WriteStyle) : List Json → List Char
  | [] => [']']
  | item :: items => style.itemGap ++ write style item ++ writeItems style items

/-- The entries after the first, and the closing brace. -/
def writeEntries (style : WriteStyle) : List (String × Json) → List Char
  | [] => ['}']
  | (name, item) :: entries =>
    style.itemGap ++ writeText style.ascii name ++ style.nameGap ++ write style item
      ++ writeEntries style entries

end

mutual

/-- The same data with the entries of every object in code point order of their names. -/
def sorted : Json → Json
  | .arr items => .arr (sortedItems items)
  | .obj entries => .obj (sortBy (fun a b => textBelow a.1 b.1) (sortedEntries entries))
  | v => v

def sortedItems : List Json → List Json
  | [] => []
  | item :: items => sorted item :: sortedItems items

def sortedEntries : List (String × Json) → List (String × Json)
  | [] => []
  | (name, item) :: entries => (name, sorted item) :: sortedEntries entries

end

/-- The canonical document of data: the same for data that differ in the order of entries only. -/
def canonical (v : Json) : String := String.ofList (write .compact (sorted v))

/-- The data on one line. -/
def writeLine (v : Json) : String := String.ofList (write .line v)

private def newline (depth : Nat) : List Char := '\n' :: List.replicate (2 * depth) ' '

mutual

/-- One item or entry a line, two blanks for each level. -/
def writeBlock (depth : Nat) : Json → List Char
  | .arr [] => ['[', ']']
  | .arr (item :: items) =>
    '[' :: newline (depth + 1) ++ writeBlock (depth + 1) item ++ writeBlockItems depth items
  | .obj [] => ['{', '}']
  | .obj ((name, item) :: entries) =>
    '{' :: newline (depth + 1) ++ writeText false name ++ [':', ' '] ++ writeBlock (depth + 1) item
      ++ writeBlockEntries depth entries
  | v => write .line v

def writeBlockItems (depth : Nat) : List Json → List Char
  | [] => newline depth ++ [']']
  | item :: items =>
    ',' :: newline (depth + 1) ++ writeBlock (depth + 1) item ++ writeBlockItems depth items

def writeBlockEntries (depth : Nat) : List (String × Json) → List Char
  | [] => newline depth ++ ['}']
  | (name, item) :: entries =>
    ',' :: newline (depth + 1) ++ writeText false name ++ [':', ' '] ++ writeBlock (depth + 1) item
      ++ writeBlockEntries depth entries

end

/-- The data on several lines. -/
def writeIndented (v : Json) : String := String.ofList (writeBlock 0 v)

end Questionnaire.Json
