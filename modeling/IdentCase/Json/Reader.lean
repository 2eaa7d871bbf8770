import IdentCase.Json.ReadError
import IdentCase.Text.Basic

/-!
# Reading JSON

Readers take the text that is left and answer a value with the text behind it, or the first problem.
A value of the wrong type is read only as far as needed to name it. What is read character by
character counts in `skip` those that an escape has taken already. Whole numbers are kept in 64
bits, and what does not fit is a double. Readers that repeat carry a bound, for which the length of
the text suffices, as each round takes a character.
-/

set_option autoImplicit false

namespace IdentCase

namespace Json

abbrev Reader (α : Type) := Text → Except ReadError (α × Text)

def isBlank (c : Char) : Bool := c == ' ' || c == '\n' || c == '\t' || c == '\r'

def skipBlanks (text : Text) : Text := text.dropWhile isBlank

def readWord : List Char → Text → Except ReadError Text
  | [], text => .ok text
  | _ :: _, [] => .error .endInValue
  | expected :: more, c :: rest =>
    if c = expected then readWord more rest else .error .expectedIdent

/-! ## Strings -/

def hexValue? (c : Char) : Option Nat :=
  if '0' ≤ c ∧ c ≤ '9' then some (c.toNat - '0'.toNat)
  else if 'a' ≤ c ∧ c ≤ 'f' then some (c.toNat - 'a'.toNat + 10)
  else if 'A' ≤ c ∧ c ≤ 'F' then some (c.toNat - 'A'.toNat + 10)
  else none

def hexNumber? : Nat → Text → Option Nat
  | value, [] => some value
  | value, c :: rest =>
    match hexValue? c with
    | none => none
    | some digit => hexNumber? (16 * value + digit) rest

def readUnit (text : Text) : Except ReadError Nat :=
  let digits := text.take 4
  if digits.length = 4 then
    match hexNumber? 0 digits with
    | some value => .ok value
    | none => .error .invalidEscape
  else if 4 ≤ text.byteLength then .error .invalidEscape
  else .error .endInString

/-- The character written by `\u` and the text behind it, and how many characters of the text that
takes. Beyond the basic plane two units are needed. -/
def readCodePoint (text : Text) : Except ReadError (Char × Nat) := do
  let unit ← readUnit text
  if 0xDC00 ≤ unit ∧ unit ≤ 0xDFFF then .error .loneSurrogate
  else if 0xD800 ≤ unit ∧ unit ≤ 0xDBFF then
    match text.drop 4 with
    | [] => .error .endInString
    | c :: rest =>
      if c = '\\' then
        match rest with
        | [] => .error .endInString
        | d :: more =>
          if d = 'u' then do
            let second ← readUnit more
            if 0xDC00 ≤ second ∧ second ≤ 0xDFFF then
              .ok (Char.ofNat (0x10000 + (unit - 0xD800) * 0x400 + (second - 0xDC00)), 10)
            else .error .loneSurrogate
          else .error .unfinishedSurrogate
      else .error .unfinishedSurrogate
  else .ok (Char.ofNat unit, 4)

def simpleEscape? (c : Char) : Option Char :=
  if c = '"' then some '"'
  else if c = '\\' then some '\\'
  else if c = '/' then some '/'
  else if c = 'b' then some (Char.ofNat 8)
  else if c = 'f' then some (Char.ofNat 12)
  else if c = 'n' then some '\n'
  else if c = 'r' then some '\r'
  else if c = 't' then some '\t'
  else none

def readEscape : Text → Except ReadError (Char × Nat)
  | [] => .error .endInString
  | c :: rest =>
    if c = 'u' then do
      let (value, taken) ← readCodePoint rest
      .ok (value, taken + 1)
    else
      match simpleEscape? c with
      | some value => .ok (value, 1)
      | none => .error .invalidEscape

def readChars : Nat → Reader Text
  | _, [] => .error .endInString
  | skip + 1, _ :: rest => readChars skip rest
  | 0, c :: rest =>
    if c = '"' then .ok ([], rest)
    else if c = '\\' then do
      let (value, taken) ← readEscape rest
      let (chars, behind) ← readChars taken rest
      .ok (value :: chars, behind)
    else if c.toNat < 0x20 then .error .controlCharacter
    else do
      let (chars, behind) ← readChars 0 rest
      .ok (c :: chars, behind)

def readStringBody : Reader String := fun text => do
  let (chars, rest) ← readChars 0 text
  .ok (String.ofList chars, rest)

/-! ## Numbers -/

def maxSignificand : Nat := 18446744073709551615

def appendDigits (significand : Nat) : Text → Nat × Nat
  | [] => (significand, 0)
  | c :: rest =>
    let next := 10 * significand + (c.toNat - '0'.toNat)
    if next ≤ maxSignificand then appendDigits next rest else (significand, rest.length + 1)

def readDouble (negative : Bool) (significand : Nat) (exponent : Int) : Except ReadError Found :=
  match Number.Binary64.ofDecimal? significand exponent with
  | some magnitude => .ok (.double negative magnitude)
  | none => .error .numberOutOfRange

def spanDigits (text : Text) : Text × Text :=
  (text.takeWhile Char.isDigit, text.dropWhile Char.isDigit)

def maxExponent : Nat := 2147483647

def readExponent (negative : Bool) (significand : Nat) (exponent : Int) :
    Reader Found := fun text => do
  let (down, text) : Bool × Text :=
    match text with
    | '+' :: rest => (false, rest)
    | '-' :: rest => (true, rest)
    | _ => (false, text)
  let (digits, rest) := spanDigits text
  match digits with
  | [] => .error (if rest.isEmpty then .endInValue else .invalidNumber)
  | _ :: _ =>
    let value := digits.foldl (fun n c => 10 * n + (c.toNat - '0'.toNat)) 0
    if maxExponent < value then
      if significand ≠ 0 ∧ !down then .error .numberOutOfRange
      else .ok (.double negative .zero, rest)
    else do
      let exponent := if down then exponent - value else exponent + value
      let found ← readDouble negative significand exponent
      .ok (found, rest)

def readFraction (negative : Bool) (significand : Nat) (exponent : Int) :
    Reader Found := fun text => do
  let (digits, rest) := spanDigits text
  match digits with
  | [] => .error (if rest.isEmpty then .endInValue else .invalidNumber)
  | _ :: _ =>
    let (significand, left) := appendDigits significand digits
    let exponent := exponent - (digits.length - left : Nat)
    match rest with
    | 'e' :: behind => readExponent negative significand exponent behind
    | 'E' :: behind => readExponent negative significand exponent behind
    | _ => do
      let found ← readDouble negative significand exponent
      .ok (found, rest)

def maxNegative : Nat := 9223372036854775808

def wholeNumber (negative : Bool) (significand : Nat) : Except ReadError Found :=
  if !negative then .ok (.integer significand)
  else if significand = 0 ∨ maxNegative < significand then readDouble true significand 0
  else .ok (.integer (-significand))

def readNumber (negative : Bool) : Reader Found := fun text => do
  let (digits, rest) := spanDigits text
  match digits with
  | [] => .error (if rest.isEmpty then .endInValue else .invalidNumber)
  | '0' :: _ :: _ => .error .invalidNumber
  | _ =>
    let (significand, left) := appendDigits 0 digits
    match rest with
    | '.' :: behind => readFraction negative significand left behind
    | 'e' :: behind => readExponent negative significand left behind
    | 'E' :: behind => readExponent negative significand left behind
    | _ => do
      let found ←
        if left = 0 then wholeNumber negative significand
        else readDouble negative significand left
      .ok (found, rest)

/-! ## Values of one kind -/

def mismatch (expected : String) (text : Text) : ReadError :=
  let found : Except ReadError Found :=
    match text with
    | 'n' :: rest => (readWord ['u', 'l', 'l'] rest).map fun _ => .null
    | 't' :: rest => (readWord ['r', 'u', 'e'] rest).map fun _ => .bool true
    | 'f' :: rest => (readWord ['a', 'l', 's', 'e'] rest).map fun _ => .bool false
    | '-' :: rest => (readNumber true rest).map Prod.fst
    | '"' :: rest => (readStringBody rest).map fun (value, _) => .string value
    | '[' :: _ => .ok .sequence
    | '{' :: _ => .ok .map
    | c :: _ => if c.isDigit then (readNumber false text).map Prod.fst else .error .expectedValue
    | [] => .error .endInValue
  match found with
  | .ok value => .wrongType value expected
  | .error problem => problem

def readStringAs (expected : String) : Reader String := fun text =>
  match skipBlanks text with
  | '"' :: rest => readStringBody rest
  | other => .error (mismatch expected other)

def readString : Reader String := readStringAs "a string"

def readChar : Reader Char := fun text => do
  let (value, rest) ← readStringAs "a character" text
  match value.toList with
  | [c] => .ok (c, rest)
  | _ => .error (.wrongValue (.string value) "a character")

def readOption {α : Type} (value : Reader α) : Reader (Option α) := fun text =>
  match skipBlanks text with
  | 'n' :: rest => do
    let behind ← readWord ['u', 'l', 'l'] rest
    .ok (none, behind)
  | other => do
    let (v, rest) ← value other
    .ok (some v, rest)

def readNull : Reader Unit := fun text =>
  match skipBlanks text with
  | 'n' :: rest => do
    let behind ← readWord ['u', 'l', 'l'] rest
    .ok ((), behind)
  | other => .error (mismatch "unit" other)

/-! ## Lists and objects -/

def nextItem? (first : Bool) (text : Text) : Except ReadError (Option Text) :=
  match skipBlanks text with
  | [] => .error .endInList
  | ']' :: _ => .ok none
  | c :: rest =>
    if first then .ok (some (c :: rest))
    else if c = ',' then
      match skipBlanks rest with
      | [] => .error .endInValue
      | ']' :: _ => .error .trailingComma
      | other => .ok (some other)
    else .error .expectedListEnd

def closeList (text : Text) : Except ReadError Text :=
  match skipBlanks text with
  | [] => .error .endInList
  | ']' :: rest => .ok rest
  | ',' :: rest =>
    match skipBlanks rest with
    | ']' :: _ => .error .trailingComma
    | _ => .error .trailingCharacters
  | _ => .error .trailingCharacters

def readItems {α : Type} (item : Reader α) : Nat → Bool → Reader (List α)
  | 0, _, _ => .error .endInList
  | fuel + 1, first, text => do
    match ← nextItem? first text with
    | none => do
      let rest ← closeList text
      .ok ([], rest)
    | some start => do
      let (value, behind) ← item start
      let (values, rest) ← readItems item fuel false behind
      .ok (value :: values, rest)

def readList {α : Type} (item : Reader α) : Reader (List α) := fun text =>
  match skipBlanks text with
  | '[' :: rest => readItems item (rest.length + 1) true rest
  | other => .error (mismatch "a sequence" other)

def nextMember (first : Bool) (text : Text) : Except ReadError (Text ⊕ String × Text) :=
  match skipBlanks text with
  | [] => .error .endInObject
  | '}' :: rest => .ok (.inl rest)
  | c :: rest =>
    if first then
      if c = '"' then do
        let member ← readStringBody rest
        .ok (.inr member)
      else .error .keyNotString
    else if c = ',' then
      match skipBlanks rest with
      | [] => .error .endInValue
      | '"' :: more => do
        let member ← readStringBody more
        .ok (.inr member)
      | '}' :: _ => .error .trailingComma
      | _ => .error .keyNotString
    else .error .expectedObjectEnd

def readColon (text : Text) : Except ReadError Text :=
  match skipBlanks text with
  | [] => .error .endInObject
  | ':' :: rest => .ok rest
  | _ => .error .expectedColon

def readMember {α : Type} (value : Reader α) : Reader α := fun text => do
  let rest ← readColon text
  value rest

def readOnce {α : Type} (key : String) (old : Option α) (value : Reader α) : Reader α := fun text =>
  if old.isSome then .error (.duplicateField key) else readMember value text

def readPlace {α : Type} (first : Bool) (value : Reader α) : Reader (Option α) := fun text => do
  match ← nextItem? first text with
  | none => .ok (none, text)
  | some start => do
    let (v, rest) ← value start
    .ok (some v, rest)

def readAll {α : Type} (value : Reader α) (text : Text) : Except ReadError α := do
  let (v, rest) ← value text
  if (skipBlanks rest).isEmpty then .ok v else .error .trailingCharacters

end Json

end IdentCase
