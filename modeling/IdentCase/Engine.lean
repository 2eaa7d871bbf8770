import IdentCase.Renaming
import IdentCase.Settings.Basic

/-!
# Engines

An engine is a set of settings with its language found. It turns the lines of a file into reports
and new lines, and keeps nothing from one file to the next. A text is divided into lines behind each
newline. Every line keeps its newline, and only the last may lack one.
-/

set_option autoImplicit false

namespace IdentCase

namespace Lines

def ofText : Text → List Text
  | [] => []
  | c :: rest =>
    if c = '\n' then [c] :: ofText rest
    else
      match ofText rest with
      | [] => [[c]]
      | line :: others => (c :: line) :: others

def toText (lines : List Text) : Text := lines.flatten

theorem toText_ofText (text : Text) : toText (ofText text) = text := by
  induction text with
  | nil => rfl
  | cons c rest ih =>
    simp only [ofText]
    split
    · simpa [toText] using ih
    · split <;> simp_all [toText]

end Lines

structure Engine where
  convention : Convention
  language : String
  delimiters : Delimiters
  filter : CandidateFilter
  carry : QuoteCarry

structure Outcome where
  reports : List Report
  skipped : List Rename
  lines : List Text
deriving DecidableEq, Repr

namespace Outcome

def content (o : Outcome) : Text := Lines.toText o.lines

def hasChanges (o : Outcome) : Bool := !o.reports.isEmpty

end Outcome

namespace Engine

def ofSettings (registry : Registry) (settings : Settings) : Except Fault Engine := do
  let convention ← settings.requiredConvention
  settings.checkIgnore
  let name ← settings.requiredLanguage
  let language ← (registry.insertMany settings.languages).resolve name
  return {
    convention
    language := language.name
    delimiters := .ofChars language.delimiters.toList
    filter := .ofNames language.keywords.toList settings.ignore
    carry := settings.effectiveCarry }

def table (e : Engine) (lines : List Text) : RenameTable :=
  .ofLines e.delimiters e.filter e.convention e.carry lines

def run (e : Engine) (lines : List Text) : Outcome :=
  let pass := Renaming.run e.delimiters lines (e.table lines)
  ⟨Report.ofAppliedList pass.applied, pass.skipped, pass.lines⟩

def runText (e : Engine) (content : Text) : Outcome := e.run (Lines.ofText content)

end Engine

end IdentCase
