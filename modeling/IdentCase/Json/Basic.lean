import IdentCase.Text.Basic

/-!
# JSON values and their texts

The values that answers are made of. Numbers are natural, and the members of an object stand in the
order in which they are written. A value is written on one line without blanks, or laid out with one
member or item a line and two spaces for each level. Only quotes, backslashes and control characters
are escaped.
-/

set_option autoImplicit false

namespace IdentCase

inductive Json where
  | null
  | bool (value : Bool)
  | num (value : Nat)
  | str (value : String)
  | arr (items : List Json)
  | obj (members : List (String × Json))
deriving Repr

namespace Json

def keyed (members : List (String × Json)) : Json :=
  obj (members.mergeSort fun a b => decide (a.1 ≤ b.1))

def optional (key : String) (value : Option Json) : List (String × Json) :=
  match value with
  | none => []
  | some v => [(key, v)]

def strings (values : List String) : Json := arr (values.map str)

def orNull : Option String → Json
  | none => null
  | some value => str value

def escaped (c : Char) : Text :=
  if c = '"' then ['\\', '"']
  else if c = '\\' then ['\\', '\\']
  else if c = Char.ofNat 8 then ['\\', 'b']
  else if c = Char.ofNat 12 then ['\\', 'f']
  else if c = '\n' then ['\\', 'n']
  else if c = '\r' then ['\\', 'r']
  else if c = '\t' then ['\\', 't']
  else if c.toNat < 0x20 then
    ['\\', 'u', '0', '0', Nat.digitChar (c.toNat / 16), Nat.digitChar (c.toNat % 16)]
  else [c]

def writeString (value : String) : Text := '"' :: value.toList.flatMap escaped ++ ['"']

def writeBool (value : Bool) : Text := (if value then "true" else "false").toList

def writeNat (value : Nat) : Text := Nat.toDigits 10 value

def newline (level : Nat) : Text := '\n' :: List.replicate (2 * level) ' '

mutual

def compact : Json → Text
  | null => "null".toList
  | bool value => writeBool value
  | num value => writeNat value
  | str value => writeString value
  | arr items => '[' :: compactItems true items
  | obj members => '{' :: compactMembers true members

def compactItems (first : Bool) : List Json → Text
  | [] => [']']
  | item :: rest => (if first then [] else [',']) ++ compact item ++ compactItems false rest

def compactMembers (first : Bool) : List (String × Json) → Text
  | [] => ['}']
  | (key, value) :: rest =>
    (if first then [] else [',']) ++ writeString key ++ ':' :: compact value ++
      compactMembers false rest

end

mutual

def layout (level : Nat) : Json → Text
  | null => "null".toList
  | bool value => writeBool value
  | num value => writeNat value
  | str value => writeString value
  | arr [] => ['[', ']']
  | arr (item :: rest) =>
    '[' :: newline (level + 1) ++ layout (level + 1) item ++ layoutItems level rest
  | obj [] => ['{', '}']
  | obj ((key, value) :: rest) =>
    '{' :: newline (level + 1) ++ writeString key ++ ':' :: ' ' :: layout (level + 1) value ++
      layoutMembers level rest

def layoutItems (level : Nat) : List Json → Text
  | [] => newline level ++ [']']
  | item :: rest => ',' :: newline (level + 1) ++ layout (level + 1) item ++ layoutItems level rest

def layoutMembers (level : Nat) : List (String × Json) → Text
  | [] => newline level ++ ['}']
  | (key, value) :: rest =>
    ',' :: newline (level + 1) ++ writeString key ++ ':' :: ' ' :: layout (level + 1) value ++
      layoutMembers level rest

end

end Json

end IdentCase
