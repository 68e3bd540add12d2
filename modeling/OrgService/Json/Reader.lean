import OrgService.Json
import OrgService.OrderedMap
import OrgService.Text.Integer

/-!
# Reading documents

Reading accepts JSON together with `NaN`, `Infinity` and `-Infinity`. A repeated member keeps its
first place and its last value. A failure tells what was expected and where; inside the reader
the place is the number of characters that were left.
-/

namespace OrgService.Json

/-- Why a text is no document. -/
inductive Problem where
  | byteOrderMark
  | value
  | memberName
  | colon
  | comma
  | extraData
  | openText
  | controlCharacter
  | escape
  | unicodeEscape
  | longInteger (digits : Nat)
  deriving DecidableEq, Repr

/-- A problem and the number of characters left where it lies. -/
structure Failure where
  problem : Problem
  left : Nat
  deriving DecidableEq, Repr

namespace Reader

def isSpace (c : Char) : Bool := c == ' ' || c == '\t' || c == '\n' || c == '\r'

def skipSpace (cs : List Char) : List Char := cs.dropWhile isSpace

def fail {α : Type} (problem : Problem) (cs : List Char) : Except Failure α :=
  .error ⟨problem, cs.length⟩

def fourHex? : List Char → Option Nat
  | [a, b, c, d] => do
    let a ← Text.hexValue? a
    let b ← Text.hexValue? b
    let c ← Text.hexValue? c
    let d ← Text.hexValue? d
    some (((a * 16 + b) * 16 + c) * 16 + d)
  | _ => none

def simpleEscape? : Char → Option Char
  | '"' => some '"'
  | '\\' => some '\\'
  | '/' => some '/'
  | 'b' => some '\x08'
  | 'f' => some '\x0c'
  | 'n' => some '\n'
  | 'r' => some '\r'
  | 't' => some '\t'
  | _ => none

/-- Reads the four digits after `\u`, and a low surrogate that follows a high one. More characters
must follow the digits. -/
def readUnit (digits : List Char) : Except Failure (Char × List Char) :=
  if digits.length ≤ 4 then .error ⟨.unicodeEscape, digits.length + 1⟩
  else match fourHex? (digits.take 4) with
    | none => .error ⟨.unicodeEscape, digits.length + 1⟩
    | some high =>
      let rest := digits.drop 4
      if 0xD800 ≤ high && high ≤ 0xDBFF && 6 < rest.length && rest.take 2 == ['\\', 'u'] then
        match fourHex? ((rest.drop 2).take 4) with
        | none => .error ⟨.unicodeEscape, rest.length - 1⟩
        | some low =>
          if 0xDC00 ≤ low && low ≤ 0xDFFF then
            .ok (Char.ofNat (0x10000 + (high - 0xD800) * 0x400 + (low - 0xDC00)), rest.drop 6)
          else .ok (Char.ofNat high, rest)
      else .ok (Char.ofNat high, rest)

/-- Reads the rest of a text; `start` is what was left at its opening quote and `acc` holds the
characters read, last first. -/
def readText (start : Nat) (acc : List Char) : (fuel : Nat) → List Char →
    Except Failure (String × List Char)
  | 0, _ => .error ⟨.openText, start⟩
  | _ + 1, [] => .error ⟨.openText, start⟩
  | fuel + 1, c :: cs =>
    if c == '"' then .ok (String.ofList acc.reverse, cs)
    else if c == '\\' then
      match cs with
      | [] => .error ⟨.openText, start⟩
      | 'u' :: digits => do
        let (c, rest) ← readUnit digits
        readText start (c :: acc) fuel rest
      | e :: rest =>
        match simpleEscape? e with
        | some c => readText start (c :: acc) fuel rest
        | none => .error ⟨.escape, cs.length + 1⟩
    else if c.toNat < 0x20 then .error ⟨.controlCharacter, cs.length + 1⟩
    else readText start (c :: acc) fuel cs

def digitsValue (cs : List Char) : Nat := cs.foldl (fun n c ↦ 10 * n + (c.toNat - 0x30)) 0

/-- The fraction after the whole part of a number: a point and at least one digit. -/
def splitFraction (cs : List Char) : List Char × List Char :=
  match cs with
  | '.' :: rest =>
    if (rest.takeWhile Char.isDigit).isEmpty then ([], cs)
    else (rest.takeWhile Char.isDigit, rest.dropWhile Char.isDigit)
  | _ => ([], cs)

/-- The exponent of a number, if its `e` and sign are followed by a digit. -/
def splitExponent (cs : List Char) : Option Int × List Char :=
  match cs with
  | e :: rest =>
    if e == 'e' || e == 'E' then
      let (negative, ds) := Text.splitSign rest
      if (ds.takeWhile Char.isDigit).isEmpty then (none, cs)
      else (some (Text.signed negative (digitsValue (ds.takeWhile Char.isDigit))),
        ds.dropWhile Char.isDigit)
    else (none, cs)
  | [] => (none, cs)

/-- Reads a number whose sign has been split off; `whole` is what was left at its start. -/
def readNumber (negative : Bool) (whole cs : List Char) : Except Failure (Json × List Char) :=
  let ds := if cs.head? == some '0' then ['0'] else cs.takeWhile Char.isDigit
  if ds.isEmpty then fail .value whole
  else
    let (fraction, rest) := splitFraction (cs.drop ds.length)
    let (exponent, rest) := splitExponent rest
    if fraction.isEmpty && exponent.isNone then
      if Text.maxDecimalDigits < ds.length then fail (.longInteger ds.length) whole
      else .ok (.int (Text.signed negative (digitsValue ds)), rest)
    else
      .ok (.double (Double.ofDecimal negative (digitsValue (ds ++ fraction))
        (exponent.getD 0 - fraction.length)), rest)

def constants : List (List Char × Json) :=
  [("null".toList, .null), ("true".toList, .bool true), ("false".toList, .bool false),
    ("NaN".toList, .double .nan), ("Infinity".toList, .double (.infinity false)),
    ("-Infinity".toList, .double (.infinity true))]

/-- Reads a document that is no text, list or object. -/
def readScalar (cs : List Char) : Except Failure (Json × List Char) :=
  match constants.find? fun e ↦ e.1.isPrefixOf cs with
  | some e => .ok (e.2, cs.drop e.1.length)
  | none =>
    match cs with
    | '-' :: rest => readNumber true cs rest
    | _ => readNumber false cs cs

mutual

def readValue : (fuel : Nat) → List Char → Except Failure (Json × List Char)
  | 0, cs => fail .value cs
  | fuel + 1, cs =>
    match cs with
    | '"' :: rest => do
      let (s, rest) ← readText cs.length [] cs.length rest
      .ok (.str s, rest)
    | '[' :: rest =>
      match skipSpace rest with
      | ']' :: rest => .ok (.arr [], rest)
      | rest => do
        let (xs, rest) ← readItems fuel rest
        .ok (.arr xs, rest)
    | '\x7b' :: rest =>
      match skipSpace rest with
      | '\x7d' :: rest => .ok (.obj [], rest)
      | rest => do
        let (xs, rest) ← readMembers fuel rest
        .ok (.obj (OrderedMap.ofList xs).entries, rest)
    | _ => readScalar cs

def readItems : (fuel : Nat) → List Char → Except Failure (List Json × List Char)
  | 0, cs => fail .value cs
  | fuel + 1, cs => do
    let (x, rest) ← readValue fuel cs
    match skipSpace rest with
    | ']' :: rest => .ok ([x], rest)
    | ',' :: rest =>
      let (xs, rest) ← readItems fuel (skipSpace rest)
      .ok (x :: xs, rest)
    | rest => fail .comma rest

def readMembers : (fuel : Nat) → List Char → Except Failure (List (String × Json) × List Char)
  | 0, cs => fail .value cs
  | fuel + 1, cs =>
    match cs with
    | '"' :: rest => do
      let (name, rest) ← readText cs.length [] cs.length rest
      match skipSpace rest with
      | ':' :: rest =>
        let (x, rest) ← readValue fuel (skipSpace rest)
        match skipSpace rest with
        | '\x7d' :: rest => .ok ([(name, x)], rest)
        | ',' :: rest =>
          let (xs, rest) ← readMembers fuel (skipSpace rest)
          .ok ((name, x) :: xs, rest)
        | rest => fail .comma rest
      | rest => fail .colon rest
    | _ => fail .memberName cs

end

def readAll (cs : List Char) : Except Failure Json := do
  if cs.head? == some '\ufeff' then fail .byteOrderMark cs
  else
    let (x, rest) ← readValue (2 * cs.length + 2) (skipSpace cs)
    match skipSpace rest with
    | [] => .ok x
    | rest => fail .extraData rest

end Reader

/-- A problem with its place, counted in characters from the start of the text. -/
structure ReadError where
  problem : Problem
  position : Nat
  line : Nat
  column : Nat
  deriving DecidableEq, Repr

def Problem.message : Problem → String
  | .byteOrderMark => "Unexpected UTF-8 BOM (decode using utf-8-sig)"
  | .value => "Expecting value"
  | .memberName => "Expecting property name enclosed in double quotes"
  | .colon => "Expecting ':' delimiter"
  | .comma => "Expecting ',' delimiter"
  | .extraData => "Extra data"
  | .openText => "Unterminated string starting at"
  | .controlCharacter => "Invalid control character at"
  | .escape => "Invalid \\escape"
  | .unicodeEscape => "Invalid \\uXXXX escape"
  | .longInteger digits =>
    "Exceeds the limit (4300 digits) for integer string conversion: value has " ++
      toString digits ++ " digits; use sys.set_int_max_str_digits() to increase the limit"

def ReadError.message (e : ReadError) : String :=
  e.problem.message ++ ": line " ++ toString e.line ++ " column " ++ toString e.column ++
    " (char " ++ toString e.position ++ ")"

def Failure.locate (text : List Char) (e : Failure) : ReadError :=
  let position := text.length - e.left
  let before := text.take position
  ⟨e.problem, position, before.count '\n' + 1,
    (before.reverse.takeWhile (· != '\n')).length + 1⟩

def parse (s : String) : Except ReadError Json :=
  (Reader.readAll s.toList).mapError (·.locate s.toList)

end OrgService.Json
