/-
Reading JSON text. Blanks are space, tab, line feed and carriage return; the three special numbers
`NaN`, `Infinity` and `-Infinity` are read too. Reading stops at the first fault, which is known by
its kind and position. Of a field name that repeats, the first place and the last value stay.
-/
import StructuralTyping.Json.Basic

namespace StructuralTyping.Json

/-- What was wrong at a position of the text. -/
inductive Mistake where
  | valueExpected
  | nameExpected
  | colonExpected
  | commaExpected
  | extraData
  | unterminated
  | controlCharacter
  | badEscape
  | badCodeEscape
  | byteOrderMark
  deriving Repr, DecidableEq

/-- Why a text is not read: a mistake at a position, or an integer with too many digits. -/
inductive Fault where
  | misplaced (mistake : Mistake) (pos : Nat)
  | tooManyDigits (count : Nat)
  deriving Repr, DecidableEq

/-- The most digits that an integer may have. -/
def maxDigits : Nat := 4300

/-- The words for a mistake. -/
def Mistake.text : Mistake → String
  | .valueExpected => "Expecting value"
  | .nameExpected => "Expecting property name enclosed in double quotes"
  | .colonExpected => "Expecting ':' delimiter"
  | .commaExpected => "Expecting ',' delimiter"
  | .extraData => "Extra data"
  | .unterminated => "Unterminated string starting at"
  | .controlCharacter => "Invalid control character at"
  | .badEscape => "Invalid \\escape"
  | .badCodeEscape => "Invalid \\uXXXX escape"
  | .byteOrderMark => "Unexpected UTF-8 BOM (decode using utf-8-sig)"

/-- Line and column of a position, both counted from one; only line feeds end a line. -/
def lineColumn (text : List Char) (pos : Nat) : Nat × Nat :=
  let before := text.take pos
  (before.count '\n' + 1, (before.reverse.takeWhile (· != '\n')).length + 1)

/-- The message of a fault in a text. -/
def Fault.message (text : List Char) : Fault → String
  | .misplaced mistake pos =>
    let (line, column) := lineColumn text pos
    mistake.text ++ ": line " ++ toString line ++ " column " ++ toString column ++
      " (char " ++ toString pos ++ ")"
  | .tooManyDigits count =>
    "Exceeds the limit (" ++ toString maxDigits ++
      " digits) for integer string conversion: value has " ++ toString count ++
      " digits; use sys.set_int_max_str_digits() to increase the limit"

/-- A position in a text, with the characters from there on. -/
structure Cursor where
  pos : Nat
  rest : List Char

/-- The cursor after some characters. -/
def Cursor.drop (c : Cursor) (n : Nat) : Cursor := ⟨c.pos + n, c.rest.drop n⟩

/-- A mistake at a cursor. -/
def Cursor.refuse {α : Type} (c : Cursor) (mistake : Mistake) : Except Fault α :=
  .error (.misplaced mistake c.pos)

/-- Whether a character may stand between the parts of a document. -/
def isGap (c : Char) : Bool := c == ' ' || c == '\t' || c == '\n' || c == '\r'

/-- The cursor after the blanks. -/
def Cursor.skip (c : Cursor) : Cursor := c.drop (c.rest.takeWhile isGap).length

/-- Whether a character is one of the ten digits. -/
def isDigit (c : Char) : Bool := '0' ≤ c && c ≤ '9'

/-- The number that decimal digits write. -/
def natOf (digits : List Char) : Nat :=
  digits.foldl (fun n c => n * 10 + (c.toNat - '0'.toNat)) 0

/-! ## Text -/

/-- The value of a hexadecimal digit. -/
def hexValue? (c : Char) : Option Nat :=
  if isDigit c then some (c.toNat - '0'.toNat)
  else if 'a' ≤ c && c ≤ 'f' then some (c.toNat - 'a'.toNat + 10)
  else if 'A' ≤ c && c ≤ 'F' then some (c.toNat - 'A'.toNat + 10)
  else none

/-- The code that four hexadecimal digits write. -/
def codeOf? (a b c d : Char) : Option Nat := do
  let a ← hexValue? a
  let b ← hexValue? b
  let c ← hexValue? c
  let d ← hexValue? d
  return ((a * 16 + b) * 16 + c) * 16 + d

/-- The character that a letter after a backslash stands for. -/
def escaped? (c : Char) : Option Char :=
  if c == '"' || c == '\\' || c == '/' then some c
  else if c == 'b' then some '\x08'
  else if c == 'f' then some '\x0c'
  else if c == 'n' then some '\n'
  else if c == 'r' then some '\r'
  else if c == 't' then some '\t'
  else none

/-- The characters of a list of codes. A high surrogate and a low one after it are one character;
a surrogate alone is none and leaves the replacement character. -/
def joinCodes : List Nat → List Char
  | [] => []
  | [code] => [if 0xd800 ≤ code && code ≤ 0xdfff then '\ufffd' else Char.ofNat code]
  | code :: next :: rest =>
    if 0xd800 ≤ code && code ≤ 0xdbff && 0xdc00 ≤ next && next ≤ 0xdfff then
      Char.ofNat (0x10000 + (code - 0xd800) * 0x400 + (next - 0xdc00)) :: joinCodes rest
    else
      (if 0xd800 ≤ code && code ≤ 0xdfff then '\ufffd' else Char.ofNat code) ::
        joinCodes (next :: rest)

/-- Reads a text after its opening quote, which stands at `start`. The codes read so far are in
`done`, last first. A numbered escape needs a character after its four digits. -/
def readText (start : Nat) (done : List Nat) (pos : Nat) :
    List Char → Except Fault (String × Cursor)
  | [] => .error (.misplaced .unterminated start)
  | '"' :: rest => .ok (String.ofList (joinCodes done.reverse), ⟨pos + 1, rest⟩)
  | '\\' :: [] => .error (.misplaced .unterminated start)
  | '\\' :: 'u' :: a :: b :: c :: d :: next :: rest =>
    match codeOf? a b c d with
    | some code => readText start (code :: done) (pos + 6) (next :: rest)
    | none => .error (.misplaced .badCodeEscape (pos + 1))
  | '\\' :: 'u' :: _ => .error (.misplaced .badCodeEscape (pos + 1))
  | '\\' :: letter :: rest =>
    match escaped? letter with
    | some c => readText start (c.toNat :: done) (pos + 2) rest
    | none => .error (.misplaced .badEscape pos)
  | c :: rest =>
    if c.toNat ≤ 0x1f then .error (.misplaced .controlCharacter pos)
    else readText start (c.toNat :: done) (pos + 1) rest

/-! ## Numbers -/

/-- The digits of a fraction, if a point and a digit come next. -/
def fraction (text : List Char) : List Char :=
  match text with
  | '.' :: rest => rest.takeWhile isDigit
  | _ => []

/-- The exponent that comes next, with the number of characters that write it. -/
def exponent (text : List Char) : Option (Int × Nat) :=
  match text with
  | mark :: rest =>
    if mark == 'e' || mark == 'E' then
      let (negative, signs) :=
        match rest with
        | '-' :: _ => (true, 1)
        | '+' :: _ => (false, 1)
        | _ => (false, 0)
      let digits := (rest.drop signs).takeWhile isDigit
      if digits.isEmpty then none
      else
        let size : Int := natOf digits
        some (if negative then -size else size, 1 + signs + digits.length)
    else none
  | [] => none

/-- Reads a number. It is an integer unless a fraction or an exponent is written. -/
def readNumber (c : Cursor) : Except Fault (Json × Cursor) :=
  let negative := c.rest.head? == some '-'
  let sign := if negative then 1 else 0
  let digits := (c.rest.drop sign).takeWhile isDigit
  let whole := if digits.head? == some '0' then ['0'] else digits
  if whole.isEmpty then c.refuse .valueExpected
  else
    let afterWhole := c.drop (sign + whole.length)
    let part := fraction afterWhole.rest
    let afterPart := if part.isEmpty then afterWhole else afterWhole.drop (1 + part.length)
    match exponent afterPart.rest with
    | some (power, size) =>
      let value := Double.ofDecimal negative (natOf (whole ++ part)) (power - part.length)
      .ok (.number (.double value), afterPart.drop size)
    | none =>
      if !part.isEmpty then
        let value := Double.ofDecimal negative (natOf (whole ++ part)) (-(part.length : Int))
        .ok (.number (.double value), afterPart)
      else if maxDigits < whole.length then .error (.tooManyDigits whole.length)
      else
        let size : Int := natOf whole
        .ok (.number (.int (if negative then -size else size)), afterPart)

/-! ## Values -/

/-- The constants, by their spelling. -/
def constants : List (String × Json) :=
  [("null", .null), ("true", .bool true), ("false", .bool false),
    ("NaN", .number (.double .nan)), ("Infinity", .number (.double (.infinite false))),
    ("-Infinity", .number (.double (.infinite true)))]

/-- Reads a constant or a number. -/
def readSimple (c : Cursor) : Except Fault (Json × Cursor) :=
  match constants.find? fun (word, _) => word.toList.isPrefixOf c.rest with
  | some (word, value) => .ok (value, c.drop word.length)
  | none => readNumber c

mutual

/-- Reads a value. Each call spends one unit of fuel. -/
def readValue : Nat → Cursor → Except Fault (Json × Cursor)
  | 0, c => c.refuse .valueExpected
  | fuel + 1, c =>
    match c.rest with
    | '"' :: rest => do
      let (value, after) ← readText c.pos [] (c.pos + 1) rest
      return (.text value, after)
    | '\x7b' :: _ =>
      let inner := (c.drop 1).skip
      if inner.rest.head? == some '\x7d' then .ok (.object [], inner.drop 1)
      else readFields fuel inner []
    | '[' :: _ =>
      let inner := (c.drop 1).skip
      if inner.rest.head? == some ']' then .ok (.array [], inner.drop 1)
      else readItems fuel inner []
    | _ => readSimple c

/-- Reads the items of an array up to its end, after those in `done`, last first. -/
def readItems : Nat → Cursor → List Json → Except Fault (Json × Cursor)
  | 0, c, _ => c.refuse .valueExpected
  | fuel + 1, c, done => do
    let (value, after) ← readValue fuel c
    let next := after.skip
    match next.rest with
    | ']' :: _ => return (.array (value :: done).reverse, next.drop 1)
    | ',' :: _ => readItems fuel (next.drop 1).skip (value :: done)
    | _ => next.refuse .commaExpected

/-- Reads the fields of an object up to its end, after those in `done`. -/
def readFields : Nat → Cursor → List (String × Json) → Except Fault (Json × Cursor)
  | 0, c, _ => c.refuse .nameExpected
  | fuel + 1, c, done =>
    match c.rest with
    | '"' :: rest => do
      let (name, afterName) ← readText c.pos [] (c.pos + 1) rest
      let colon := afterName.skip
      if colon.rest.head? != some ':' then colon.refuse .colonExpected
      else
        let (value, after) ← readValue fuel (colon.drop 1).skip
        let next := after.skip
        let fields := Dict.put name value done
        match next.rest with
        | '\x7d' :: _ => return (.object fields, next.drop 1)
        | ',' :: _ => readFields fuel (next.drop 1).skip fields
        | _ => next.refuse .commaExpected
    | _ => c.refuse .nameExpected

end

/-- Reads a document: one value with blanks around it. No text needs more than two units of fuel
for each of its characters. -/
def parse (text : List Char) : Except Fault Json :=
  if text.head? == some '\ufeff' then .error (.misplaced .byteOrderMark 0)
  else do
    let (value, after) ← readValue (2 * text.length + 2) (Cursor.skip ⟨0, text⟩)
    let rest := after.skip
    if rest.rest.isEmpty then return value else rest.refuse .extraData

end StructuralTyping.Json
