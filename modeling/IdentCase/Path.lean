import IdentCase.Text.Basic

/-!
# Paths

A path is the text a user gives. Two spellings that differ only in repeated or final slashes, or in
`.` parts behind the first, have the same parts, and paths are ordered part by part. Of several
spellings of one path the first given is kept.
-/

set_option autoImplicit false

namespace IdentCase

namespace Path

def stretches : Text → List Text
  | [] => [[]]
  | c :: rest =>
    if c = '/' then [] :: stretches rest
    else
      match stretches rest with
      | [] => [[c]]
      | first :: others => (c :: first) :: others

def split (path : String) : List String := (stretches path.toList).map String.ofList

def isAbsolute (path : String) : Bool := path.toList.head? == some '/'

inductive Part where
  | root
  | here
  | parent
  | name (text : String)
deriving DecidableEq, Repr

def partOf? (stretch : String) : Option Part :=
  if stretch = "" ∨ stretch = "." then none
  else if stretch = ".." then some .parent
  else some (.name stretch)

def parts (path : String) : List Part :=
  let start : List Part :=
    if isAbsolute path then [.root]
    else if (split path).head? = some "." then [.here]
    else []
  start ++ (split path).filterMap partOf?

def Part.key : Part → List Nat
  | root => [0]
  | here => [1]
  | parent => [2]
  | name text => 3 :: text.toList.map Char.toNat

def key (path : String) : List (List Nat) := (parts path).map Part.key

def numbersLe : List Nat → List Nat → Bool
  | [], _ => true
  | _ :: _, [] => false
  | a :: as, b :: bs => if a = b then numbersLe as bs else decide (a < b)

def keyLe : List (List Nat) → List (List Nat) → Bool
  | [], _ => true
  | _ :: _, [] => false
  | a :: as, b :: bs => if a = b then keyLe as bs else numbersLe a b

def le (a b : String) : Bool := keyLe (key a) (key b)

def dropRepeats (previous : String) : List String → List String
  | [] => []
  | path :: rest =>
    if key path = key previous then dropRepeats previous rest else path :: dropRepeats path rest

def distinct (paths : List String) : List String :=
  match paths.mergeSort le with
  | [] => []
  | first :: rest => first :: dropRepeats first rest

def fileName? (path : String) : Option String :=
  match (parts path).getLast? with
  | some (.name text) => some text
  | _ => none

def extension? (path : String) : Option String :=
  match fileName? path with
  | none => none
  | some name =>
    let reversed := name.toList.reverse
    let behind := reversed.takeWhile (· ≠ '.')
    match reversed.drop behind.length with
    | [] => none
    | [_] => none
    | _ :: _ :: _ => some (String.ofList behind.reverse)

end Path

end IdentCase
