import Questionnaire.Json.Display
import Questionnaire.Number.Numeral

/-!
Reading documents.  The first fault of a document is reported with its place; a place is kept as the
number of characters that are left, and turned into line, column and offset at the end.  How many
digits an integer may have and how many levels a document may have are parameters: documents have
limits, data in general have none.
-/

namespace Questionnaire.Json

/-- What is wrong at a place of a document. -/
inductive Malformed where
  | byteOrderMark
  | value
  | propertyName
  | colon
  | comma
  | extra
  | unterminated
  | controlCharacter
  | escape
  | codePoint
deriving DecidableEq, Repr

def Malformed.message : Malformed → String
  | .byteOrderMark => "Unexpected UTF-8 BOM (decode using utf-8-sig)"
  | .value => "Expecting value"
  | .propertyName => "Expecting property name enclosed in double quotes"
  | .colon => "Expecting ':' delimiter"
  | .comma => "Expecting ',' delimiter"
  | .extra => "Extra data"
  | .unterminated => "Unterminated string starting at"
  | .controlCharacter => "Invalid control character at"
  | .escape => "Invalid \\escape"
  | .codePoint => "Invalid \\uXXXX escape"

inductive ReadError where
  /-- A fault of the document, `left` characters before its end. -/
  | malformed (kind : Malformed) (left : Nat)
  /-- An integer of more digits than are read. -/
  | oversized
  /-- More levels than there is room for. -/
  | tooDeep
  /-- Half of a pair of surrogates that stands alone, so that no text has it. -/
  | unpaired
deriving DecidableEq, Repr

/-- How many digits an integer of a document may have, and how many levels of brackets there may be;
`none` is no limit. -/
structure Limits where
  digits : Option Nat
  levels : Option Nat
deriving DecidableEq, Repr

/-- The limits inside a bracket, if it may be opened. -/
def Limits.inner? (limits : Limits) : Option Limits :=
  match limits.levels with
  | none => some limits
  | some 0 => none
  | some (levels + 1) => some { limits with levels := some levels }

def isGap (c : Char) : Bool := c = ' ' || c = '\t' || c = '\n' || c = '\r'

def skipGap (s : List Char) : List Char := s.dropWhile isGap

def hexValue? (c : Char) : Option Nat :=
  if '0' ≤ c ∧ c ≤ '9' then some (c.toNat - 48)
  else if 'a' ≤ c ∧ c ≤ 'f' then some (c.toNat - 87)
  else if 'A' ≤ c ∧ c ≤ 'F' then some (c.toNat - 55)
  else none

/-- The number written by four hexadecimal digits. -/
def hex4? (a b c d : Char) : Option Nat := do
  return (((← hexValue? a) * 16 + (← hexValue? b)) * 16 + (← hexValue? c)) * 16 + (← hexValue? d)

/-- The character after a backslash, where it stands for another one. -/
def simpleEscape? : Char → Option Char
  | '"' => some '"'
  | '\\' => some '\\'
  | '/' => some '/'
  | 'b' => some '\x08'
  | 'f' => some '\x0c'
  | 'n' => some '\n'
  | 'r' => some '\r'
  | 't' => some '\t'
  | _ => none

def isHighSurrogate (n : Nat) : Bool := 0xD800 ≤ n && n < 0xDC00

def isLowSurrogate (n : Nat) : Bool := 0xDC00 ≤ n && n < 0xE000

/-- A code point as a character; half of a pair is none. -/
def scalar? (n : Nat) : Option Char :=
  if isHighSurrogate n || isLowSurrogate n then none else some (Char.ofNat n)

/-- The characters of code points, the two halves of each pair of surrogates joined, if each half is
in a pair. -/
def joinPairs : List Nat → Option (List Char)
  | [] => some []
  | [n] => (scalar? n).map ([·])
  | high :: low :: rest =>
    if isHighSurrogate high && isLowSurrogate low then
      (joinPairs rest).map
        (Char.ofNat (0x10000 + (high - 0xD800) * 0x400 + (low - 0xDC00)) :: ·)
    else do return (← scalar? high) :: (← joinPairs (low :: rest))

/-- The code points of a text up to its closing quote, and what follows; `start` is the number of
characters left at the opening quote. -/
def units (start : Nat) : List Char → Except ReadError (List Nat × List Char)
  | [] => .error (.malformed .unterminated start)
  | '"' :: rest => .ok ([], rest)
  | ['\\'] => .error (.malformed .unterminated start)
  | '\\' :: 'u' :: a :: b :: c :: d :: next :: rest =>
    match hex4? a b c d with
    | none => .error (.malformed .codePoint (rest.length + 6))
    | some n => (units start (next :: rest)).map fun (ns, after) => (n :: ns, after)
  | '\\' :: 'u' :: rest => .error (.malformed .codePoint (rest.length + 1))
  | '\\' :: c :: rest =>
    match simpleEscape? c with
    | some character => (units start rest).map fun (ns, after) => (character.toNat :: ns, after)
    | none => .error (.malformed .escape (rest.length + 2))
  | c :: rest =>
    if c.toNat ≤ 0x1F then .error (.malformed .controlCharacter (rest.length + 1))
    else (units start rest).map fun (ns, after) => (c.toNat :: ns, after)

/-- A text up to its closing quote, and what follows. -/
def text (start : Nat) (s : List Char) : Except ReadError (String × List Char) := do
  let (ns, after) ← units start s
  match joinPairs ns with
  | some characters => return (String.ofList characters, after)
  | none => .error .unpaired

/-- The digits before the point; a zero that leads stands alone. -/
def wholePart : List Char → List Char
  | '0' :: _ => ['0']
  | s => s.takeWhile Numeral.isDigit

/-- The digits after a point, and what follows them. -/
def fractionPart : List Char → List Char × List Char
  | '.' :: tail =>
    if (tail.takeWhile Numeral.isDigit).isEmpty then ([], '.' :: tail)
    else (tail.takeWhile Numeral.isDigit, tail.dropWhile Numeral.isDigit)
  | s => ([], s)

/-- The value of an exponent, and what follows it. -/
def exponentPart : List Char → Option Int × List Char
  | [] => (none, [])
  | c :: tail =>
    if c = 'e' ∨ c = 'E' then
      let (negative, unsigned) := Numeral.sign tail
      let digits := unsigned.takeWhile Numeral.isDigit
      if digits.isEmpty then (none, c :: tail)
      else
        let value : Int := Numeral.digitsValue 0 digits
        (some (if negative then -value else value), unsigned.dropWhile Numeral.isDigit)
    else (none, c :: tail)

/-- A number after its sign: whole digits without a leading zero, a fraction and an exponent.  A
point or an exponent mark that no digit follows is left over.  An integer has `most` digits at
most. -/
def unsigned? (most : Option Nat) (negative : Bool) (s : List Char) :
    Option (Except ReadError (Number × List Char)) :=
  let whole := wholePart s
  if whole.isEmpty then none
  else
    let (fraction, rest) := fractionPart (s.drop whole.length)
    let (exponent, rest) := exponentPart rest
    if fraction.isEmpty && exponent.isNone then
      if most.any (· < whole.length) then some (.error .oversized)
      else
        let value : Int := Numeral.digitsValue 0 whole
        some (.ok (.int (if negative then -value else value), rest))
    else
      let digits : Digits :=
        ⟨Numeral.digitsValue 0 (whole ++ fraction), exponent.getD 0 - fraction.length⟩
      some (.ok (.float (digits.toBinary64 negative), rest))

/-- A number with its sign, of which there is only the minus. -/
def number? (most : Option Nat) : List Char → Option (Except ReadError (Number × List Char))
  | '-' :: rest => unsigned? most true rest
  | s => unsigned? most false s

/-- The words that stand for a value. -/
def word? : List Char → Option (Json × List Char)
  | 'n' :: 'u' :: 'l' :: 'l' :: rest => some (.null, rest)
  | 't' :: 'r' :: 'u' :: 'e' :: rest => some (.bool true, rest)
  | 'f' :: 'a' :: 'l' :: 's' :: 'e' :: rest => some (.bool false, rest)
  | 'N' :: 'a' :: 'N' :: rest => some (.num (.float .nan), rest)
  | 'I' :: 'n' :: 'f' :: 'i' :: 'n' :: 'i' :: 't' :: 'y' :: rest =>
    some (.num (.float (.infinite false)), rest)
  | '-' :: 'I' :: 'n' :: 'f' :: 'i' :: 'n' :: 'i' :: 't' :: 'y' :: rest =>
    some (.num (.float (.infinite true)), rest)
  | _ => none

mutual

/-- One value at the head of the characters.  Each level and each item takes at least one
character, so the count of characters is enough fuel. -/
def value (limits : Limits) : Nat → List Char → Except ReadError (Json × List Char)
  | 0, s => .error (.malformed .value s.length)
  | fuel + 1, s =>
    match s with
    | '"' :: rest => (text s.length rest).map fun (name, after) => (.str name, after)
    | '{' :: rest =>
      match limits.inner? with
      | none => .error .tooDeep
      | some inner =>
        match skipGap rest with
        | '}' :: after => .ok (.obj [], after)
        | first => members inner fuel [] first
    | '[' :: rest =>
      match limits.inner? with
      | none => .error .tooDeep
      | some inner =>
        match skipGap rest with
        | ']' :: after => .ok (.arr [], after)
        | first => elements inner fuel first
    | _ =>
      match word? s with
      | some found => .ok found
      | none =>
        match number? limits.digits s with
        | some found => found.map fun (n, after) => (.num n, after)
        | none => .error (.malformed .value s.length)

/-- The items of an array up to its closing bracket. -/
def elements (limits : Limits) : Nat → List Char → Except ReadError (Json × List Char)
  | 0, s => .error (.malformed .value s.length)
  | fuel + 1, s =>
    match value limits fuel s with
    | .error e => .error e
    | .ok (item, rest) =>
      match skipGap rest with
      | ']' :: after => .ok (.arr [item], after)
      | ',' :: more =>
        match elements limits fuel (skipGap more) with
        | .ok (.arr items, after) => .ok (.arr (item :: items), after)
        | other => other
      | stop => .error (.malformed .comma stop.length)

/-- The entries of an object up to its closing brace, after those already read.  A name that is
given again replaces the earlier value. -/
def members (limits : Limits) :
    Nat → List (String × Json) → List Char → Except ReadError (Json × List Char)
  | 0, _, s => .error (.malformed .value s.length)
  | fuel + 1, entries, s =>
    match s with
    | '"' :: rest =>
      match text s.length rest with
      | .error e => .error e
      | .ok (name, afterName) =>
        match skipGap afterName with
        | ':' :: afterColon =>
          match value limits fuel (skipGap afterColon) with
          | .error e => .error e
          | .ok (item, afterItem) =>
            let entries := Entries.put entries name item
            match skipGap afterItem with
            | '}' :: after => .ok (.obj entries, after)
            | ',' :: more => members limits fuel entries (skipGap more)
            | stop => .error (.malformed .comma stop.length)
        | stop => .error (.malformed .colon stop.length)
    | _ => .error (.malformed .propertyName s.length)

end

/-- A whole document within limits. -/
def readWithin (limits : Limits) (document : String) : Except ReadError Json :=
  let s := document.toList
  match s with
  | '\uFEFF' :: _ => .error (.malformed .byteOrderMark s.length)
  | _ =>
    match value limits (s.length + 1) (skipGap s) with
    | .error e => .error e
    | .ok (v, rest) =>
      match skipGap rest with
      | [] => .ok v
      | stop => .error (.malformed .extra stop.length)

/-- A whole document of any number of levels. -/
def read (document : String) : Except ReadError Json :=
  readWithin ⟨some maxIntegerDigits, none⟩ document

/-- Where in a document a fault is: line and column counted from one, and the offset. -/
def placeText (document : String) (left : Nat) : String :=
  let s := document.toList
  let offset := s.length - left
  let before := s.take offset
  let line := before.count '\n' + 1
  let column := (before.reverse.takeWhile (· ≠ '\n')).length + 1
  s!"line {line} column {column} (char {offset})"

/-- The text of a fault with its place. -/
def malformedText (document : String) (kind : Malformed) (left : Nat) : String :=
  kind.message ++ ": " ++ placeText document left

end Questionnaire.Json
