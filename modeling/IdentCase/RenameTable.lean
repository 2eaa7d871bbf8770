import IdentCase.Convention
import IdentCase.IgnorePattern
import IdentCase.Token
import Std.Data.HashMap

/-!
# Rename tables

The renames of one file in the order of discovery, with an index by the old identifier. An
identifier is renamed once: the first conversion recorded for it stays. Candidates for a rename are
the words that start with no ASCII digit and are neither a keyword nor ignored.
-/

set_option autoImplicit false

namespace IdentCase

structure Rename where
  old : Text
  new : Text
deriving DecidableEq, Repr

structure CandidateFilter where
  keywords : List Text
  ignore : List String
  accepts : String → String → Bool

namespace CandidateFilter

def ofNames (keywords : List String) (ignore : List String) : CandidateFilter :=
  ⟨keywords.map String.toList, ignore, IgnorePattern.accepts⟩

def ignores (f : CandidateFilter) (token : Text) : Bool :=
  f.ignore.any fun pattern => f.accepts pattern (String.ofList token)

def admits (f : CandidateFilter) (token : Text) : Bool :=
  match token with
  | [] => false
  | c :: _ => !c.isDigit && !f.keywords.contains token && !f.ignores token

theorem admits_iff (f : CandidateFilter) (word : Text) :
    f.admits word = true ↔ word ≠ [] ∧ word.head?.any Char.isDigit = false ∧
      word ∉ f.keywords ∧ f.ignores word = false := by
  cases word with
  | nil => simp [admits]
  | cons c rest => simp [admits, and_assoc]

end CandidateFilter

structure RenameTable where
  renames : Array Rename
  index : Std.HashMap Text Nat

namespace RenameTable

def empty : RenameTable := ⟨#[], ∅⟩

def contains (t : RenameTable) (old : Text) : Bool := t.index.contains old

def insert (t : RenameTable) (rename : Rename) : RenameTable × Bool :=
  if t.contains rename.old then (t, false)
  else (⟨t.renames.push rename, t.index.insert rename.old t.renames.size⟩, true)

def get? (t : RenameTable) (old : Text) : Option Text :=
  (t.index[old]?).bind fun i => (t.renames[i]?).map Rename.new

def size (t : RenameTable) : Nat := t.renames.size

def isEmpty (t : RenameTable) : Bool := t.renames.isEmpty

def toList (t : RenameTable) : List Rename := t.renames.toList

def ofList (renames : List Rename) : RenameTable :=
  renames.foldl (fun t rename => (t.insert rename).1) empty

def renameOf? (filter : CandidateFilter) (convention : Convention) (token : Token) :
    Option Rename :=
  let new := convention.convert token.text
  if !token.quoted && filter.admits token.text && new != token.text then some ⟨token.text, new⟩
  else none

def ofLines (d : Delimiters) (filter : CandidateFilter) (convention : Convention)
    (carry : QuoteCarry) (lines : List Text) : RenameTable :=
  let tokens := (Token.ofLines d carry .outside lines).flatMap Prod.fst
  ofList (tokens.filterMap (renameOf? filter convention))

end RenameTable

end IdentCase
