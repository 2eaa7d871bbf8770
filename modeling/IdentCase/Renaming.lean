import IdentCase.RenameTable

/-!
# Renaming passes

A pass applies the renames of a table to the lines of a file, one rename after the other. A line
that a rename changes is claimed by it. A rename that would change a claimed line is skipped whole,
so the changes of two renames never share a line.

An applied rename is reported with a message and its edits. The edits of reports can be applied to
any copy of the lines: an edit takes effect where the line still reads as it did.
-/

set_option autoImplicit false

namespace IdentCase

structure LineEdit where
  line : Nat
  before : Text
  after : Text
deriving DecidableEq, Repr

structure AppliedRename where
  rename : Rename
  edits : List LineEdit
deriving DecidableEq, Repr

def AppliedRename.changedLines (a : AppliedRename) : List Nat :=
  (a.edits.map LineEdit.line).mergeSort.eraseDups

structure Renaming where
  lines : List Text
  claimed : List Nat
  applied : List AppliedRename
  skipped : List Rename
deriving DecidableEq, Repr

namespace Renaming

def start (lines : List Text) : Renaming := ⟨lines, [], [], []⟩

def edits? (d : Delimiters) (claimed : List Nat) (rename : Rename) (n : Nat) :
    List Text → Option (List LineEdit)
  | [] => some []
  | line :: rest =>
    match Occurrence.replace? d rename.old rename.new line with
    | none => edits? d claimed rename (n + 1) rest
    | some changed =>
      if claimed.contains n then none
      else (edits? d claimed rename (n + 1) rest).map (⟨n, line, changed⟩ :: ·)

def putEdit (lines : List Text) (edit : LineEdit) : List Text :=
  lines.set (edit.line - 1) edit.after

def step (d : Delimiters) (r : Renaming) (rename : Rename) : Renaming :=
  match edits? d r.claimed rename 1 r.lines with
  | none => { r with skipped := r.skipped ++ [rename] }
  | some [] => r
  | some edits =>
    { r with
      lines := edits.foldl putEdit r.lines
      claimed := r.claimed ++ edits.map LineEdit.line
      applied := r.applied ++ [⟨rename, edits⟩] }

def run (d : Delimiters) (lines : List Text) (table : RenameTable) : Renaming :=
  table.toList.foldl (step d) (start lines)

end Renaming

structure Report where
  rename : Rename
  message : String
  firstLine : Nat
  edits : List LineEdit
deriving DecidableEq, Repr

namespace Report

def describe (rename : Rename) (lineCount : Nat) : String :=
  let change := s!"Change '{String.ofList rename.old}' to '{String.ofList rename.new}'"
  if 1 < lineCount then change ++ s!": {lineCount} lines affected" else change

def ofApplied? (a : AppliedRename) : Option Report :=
  match a.edits with
  | [] => none
  | first :: _ => some ⟨a.rename, describe a.rename a.edits.length, first.line, a.edits⟩

def ofAppliedList (applied : List AppliedRename) : List Report := applied.filterMap ofApplied?

def fits (lines : List Text) (edit : LineEdit) : Bool :=
  edit.line != 0 && lines[edit.line - 1]? == some edit.before

def applyEdit : List Text × Nat → LineEdit → List Text × Nat
  | (lines, count), edit =>
    if fits lines edit then (Renaming.putEdit lines edit, count + 1) else (lines, count)

def applyAll (lines : List Text) (reports : List Report) : List Text × Nat :=
  (reports.flatMap Report.edits).foldl applyEdit (lines, 0)

end Report

end IdentCase
