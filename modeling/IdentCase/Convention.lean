import IdentCase.Text.Basic
import IdentCase.Text.Cased
import IdentCase.Text.CaseMap

/-!
# Casing conventions

The three conventions and the conversion of one identifier into each. A conversion looks at single
characters and their direct neighbours only: words of capitals are not taken apart, and digits,
marks and letters without case pass through. One underscore at the end of an identifier stays. The
short name of a convention is read in any ASCII case, the name written in the convention itself only
as it stands.
-/

set_option autoImplicit false

namespace IdentCase

inductive Convention where
  | camel
  | snake
  | pascal
deriving DecidableEq, Repr

def asciiLower (name : String) : String := String.ofList (name.toList.map Char.toLower)

namespace Convention

def name : Convention → String
  | camel => "camel"
  | snake => "snake"
  | pascal => "pascal"

def ofName? (name : String) : Option Convention :=
  if name = "camelCase" then some camel
  else if name = "snake_case" then some snake
  else if name = "PascalCase" then some pascal
  else
    let short := asciiLower name
    if short = "camel" then some camel
    else if short = "snake" then some snake
    else if short = "pascal" then some pascal
    else none

def splitFinalUnderscore (identifier : Text) : Text × Text :=
  if 1 < identifier.length ∧ identifier.getLast? = some '_' then (identifier.dropLast, ['_'])
  else (identifier, [])

def joinWords : Text → Text
  | [] => []
  | [c] => [c]
  | c :: d :: rest =>
    if c = '_' ∧ Text.isLowercase d then Text.upper d ++ joinWords rest
    else c :: joinWords (d :: rest)

def camelBody : Text → Text
  | [] => []
  | c :: rest => Text.lower c ++ joinWords rest

def toCamel (identifier : Text) : Text :=
  let (body, tail) := splitFinalUnderscore identifier
  camelBody body ++ tail

def capitalize : Text → Text
  | [] => []
  | c :: rest => Text.upper c ++ rest

def toPascal (identifier : Text) : Text := capitalize (toCamel identifier)

def startsWord (previous : Option Char) (c : Char) : Bool :=
  Text.isUppercase c && previous.any Text.isLowercase

def separateWords (previous : Option Char) : Text → Text
  | [] => []
  | c :: rest =>
    (if startsWord previous c then ['_'] else []) ++ Text.lower c ++ separateWords (some c) rest

def toSnake (identifier : Text) : Text := separateWords none identifier

def convert : Convention → Text → Text
  | camel => toCamel
  | snake => toSnake
  | pascal => toPascal

end Convention

end IdentCase
