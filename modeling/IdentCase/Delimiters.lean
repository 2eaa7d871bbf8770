import IdentCase.Text.Basic

/-!
# Delimiters and bounded occurrences

A delimiter set cuts a line into pieces. Blank characters always delimit and the double quote never
does, since quotes are followed by the tokens. Adjacent delimiters have an empty piece between them,
so the pieces and the delimiters between them give the line back.

A term occurs bounded in a line where each side of it is a delimiter or an end of the line. The
search goes from left to right, and matches do not overlap: behind a match, `skip` counts the
characters of it that are left to pass. An empty term does not occur. Replacing goes from the last
match to the first, so that the positions of the others stay valid.
-/

set_option autoImplicit false

namespace IdentCase

structure Delimiters where
  marks : List Char
  quote_not_mem : '"' ∉ marks
deriving Repr

namespace Delimiters

def ofChars (chars : List Char) : Delimiters where
  marks := chars.filter (· ≠ '"')
  quote_not_mem := by simp

def contains (d : Delimiters) (c : Char) : Bool := Text.isBlank c || d.marks.contains c

theorem contains_ofChars (chars : List Char) (c : Char) :
    (ofChars chars).contains c = true ↔ Text.isBlank c = true ∨ c ∈ chars ∧ c ≠ '"' := by
  simp [contains, ofChars]

theorem contains_newline (d : Delimiters) : d.contains '\n' = true := by
  simp [contains, Text.isBlank_newline]

structure Segments where
  head : Text
  tail : List (Char × Text)
deriving DecidableEq, Repr

namespace Segments

def pieces (s : Segments) : List Text := s.head :: s.tail.map Prod.snd

def join (s : Segments) : Text := s.head ++ s.tail.flatMap fun (c, piece) => c :: piece

def map (f : Text → Text) (s : Segments) : Segments :=
  ⟨f s.head, s.tail.map fun (c, piece) => (c, f piece)⟩

end Segments

def segments (d : Delimiters) : Text → Segments
  | [] => ⟨[], []⟩
  | c :: rest =>
    let s := d.segments rest
    if d.contains c then ⟨[], (c, s.head) :: s.tail⟩ else ⟨c :: s.head, s.tail⟩

def pieces (d : Delimiters) (line : Text) : List Text := (d.segments line).pieces

def placeTail (offset : Nat) : List (Char × Text) → List (Nat × Text)
  | [] => []
  | (c, piece) :: rest =>
    (offset + c.utf8Size, piece) :: placeTail (offset + c.utf8Size + piece.byteLength) rest

def split (d : Delimiters) (line : Text) : List (Nat × Text) :=
  let s := d.segments line
  (0, s.head) :: placeTail s.head.byteLength s.tail

end Delimiters

namespace Occurrence

def bounds (d : Delimiters) (neighbour : Option Char) : Bool := neighbour.all d.contains

def bounded (d : Delimiters) (term : Text) (previous : Option Char) (text : Text) : Bool :=
  term.isPrefixOf text && bounds d previous && bounds d (text.drop term.length).head?

def positionsFrom (d : Delimiters) (term : Text) (skip : Nat) (previous : Option Char) (i : Nat) :
    Text → List Nat
  | [] => []
  | c :: rest =>
    match skip with
    | k + 1 => positionsFrom d term k (some c) (i + 1) rest
    | 0 =>
      if bounded d term previous (c :: rest) then
        i :: positionsFrom d term (term.length - 1) (some c) (i + 1) rest
      else positionsFrom d term 0 (some c) (i + 1) rest

def positions (d : Delimiters) (term text : Text) : List Nat :=
  if term.isEmpty then [] else positionsFrom d term 0 none 0 text

def find (d : Delimiters) (term text : Text) : List Nat :=
  (positions d term text).map text.byteOffset

def splice (text : Text) (i length : Nat) (replacement : Text) : Text :=
  text.take i ++ replacement ++ text.drop (i + length)

def replace? (d : Delimiters) (old new line : Text) : Option Text :=
  match positions d old line with
  | [] => none
  | found => some (found.foldr (fun i text => splice text i old.length new) line)

end Occurrence

end IdentCase
