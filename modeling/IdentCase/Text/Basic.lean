/-!
# Texts

A text is a list of characters. Offsets into a text count the bytes of its UTF-8 form.

A property of characters is a list of runs of code points and a mapping of characters a list of
shifted runs, both in ascending order. A look-up stops at the first run that starts beyond the code
point. The blank characters are those with the Unicode property White_Space.
-/

set_option autoImplicit false

namespace IdentCase

abbrev Text := List Char

namespace Text

instance : Hashable Text where
  hash text := text.foldl (fun h c => mixHash h (UInt64.ofNat c.toNat)) 7

def byteLength : Text → Nat
  | [] => 0
  | c :: rest => c.utf8Size + byteLength rest

theorem byteLength_append (s t : Text) :
    byteLength (s ++ t) = byteLength s + byteLength t := by
  induction s with
  | nil => simp [byteLength]
  | cons c rest ih => simp [byteLength, ih, Nat.add_assoc]

def byteOffset (text : Text) (i : Nat) : Nat := byteLength (text.take i)

/-- The code points `first`, `first + step`, … up to `last`. -/
structure Run where
  first : Nat
  last : Nat
  step : Nat
deriving DecidableEq, Repr

def Run.covers : List Run → Nat → Bool
  | [], _ => false
  | r :: rest, code =>
    if code < r.first then false
    else if code ≤ r.last then (code - r.first) % r.step == 0
    else Run.covers rest code

structure Shift where
  first : Nat
  last : Nat
  step : Nat
  -- where the first code point goes; the others keep their distance from it
  target : Nat
deriving DecidableEq, Repr

def Shift.image? : List Shift → Nat → Option Nat
  | [], _ => none
  | s :: rest, code =>
    if code < s.first then none
    else if code ≤ s.last then
      if (code - s.first) % s.step == 0 then some (s.target + (code - s.first)) else none
    else Shift.image? rest code

def blankRuns : List Run := [
  ⟨0x9, 0xD, 1⟩, ⟨0x20, 0x20, 1⟩, ⟨0x85, 0x85, 1⟩, ⟨0xA0, 0xA0, 1⟩, ⟨0x1680, 0x1680, 1⟩,
  ⟨0x2000, 0x200A, 1⟩, ⟨0x2028, 0x2029, 1⟩, ⟨0x202F, 0x202F, 1⟩, ⟨0x205F, 0x205F, 1⟩,
  ⟨0x3000, 0x3000, 1⟩]

def isBlank (c : Char) : Bool := Run.covers blankRuns c.toNat

theorem isBlank_newline : isBlank '\n' = true := by decide

end Text

end IdentCase
