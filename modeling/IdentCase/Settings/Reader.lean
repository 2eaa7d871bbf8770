import IdentCase.Json.Skip
import IdentCase.Settings.Basic

/-!
# Reading settings

Settings are a JSON object with known members only, or the list of their values in order. A language
table is an object too, in which unknown members are skipped, or the list of its four values.
-/

set_option autoImplicit false

namespace IdentCase

open Json

namespace QuoteCarry

def names : List String := ["line", "file"]

def ofNameOrError (name : String) : Except ReadError QuoteCarry :=
  match ofName? name with
  | some carry => .ok carry
  | none => .error (.unknownVariant name names)

def read : Reader QuoteCarry := fun text =>
  match skipBlanks text with
  | [] => .error .endInValue
  | '"' :: rest => do
    let (name, behind) ← readStringBody rest
    let carry ← ofNameOrError name
    .ok (carry, behind)
  | '{' :: rest => do
    let (name, behind) ← readStringAs "variant identifier" rest
    let carry ← ofNameOrError name
    let (_, behind) ← readMember readNull behind
    match skipBlanks behind with
    | '}' :: behind => .ok (carry, behind)
    | [] => .error .endInObject
    | _ => .error .expectedValue
  | _ => .error .expectedValue

end QuoteCarry

namespace Language

structure Draft where
  name : Option String
  aliases : Option (List String)
  keywords : Option (List String)
  delimiters : Option (List Char)

namespace Draft

def empty : Draft := ⟨none, none, none, none⟩

def finish (d : Draft) : Except ReadError Language :=
  match d.name, d.keywords, d.delimiters with
  | none, _, _ => .error (.missingField "name")
  | some _, none, _ => .error (.missingField "keywords")
  | some _, some _, none => .error (.missingField "delimiters")
  | some name, some keywords, some delimiters =>
    .ok ⟨name, d.aliases.getD [], .ofList keywords, .ofList delimiters⟩

end Draft

def readMembers : Nat → Bool → Draft → Reader Language
  | 0, _, _, _ => .error .endInObject
  | fuel + 1, first, draft, text => do
    match ← nextMember first text with
    | .inl rest => do
      let language ← draft.finish
      .ok (language, rest)
    | .inr (key, rest) =>
      if key = "name" then do
        let (value, rest) ← readOnce key draft.name readString rest
        readMembers fuel false { draft with name := some value } rest
      else if key = "aliases" then do
        let (value, rest) ← readOnce key draft.aliases (readList readString) rest
        readMembers fuel false { draft with aliases := some value } rest
      else if key = "keywords" then do
        let (value, rest) ← readOnce key draft.keywords (readList readString) rest
        readMembers fuel false { draft with keywords := some value } rest
      else if key = "delimiters" then do
        let (value, rest) ← readOnce key draft.delimiters (readList readChar) rest
        readMembers fuel false { draft with delimiters := some value } rest
      else do
        let (_, rest) ← readMember skipValue rest
        readMembers fuel false draft rest

def readRequired {α : Type} (index : Nat) (value : Reader α) : Reader α := fun text => do
  match ← readPlace (index == 0) value text with
  | (some v, rest) => .ok (v, rest)
  | (none, _) => .error (.wrongLength index "struct LanguageTable with 4 elements")

def readValues : Reader Language := fun text => do
  let (name, text) ← readRequired 0 readString text
  let (aliases, text) ← readPlace false (readList readString) text
  let (keywords, text) ← readRequired 2 (readList readString) text
  let (delimiters, text) ← readRequired 3 (readList readChar) text
  let rest ← closeList text
  .ok (⟨name, aliases.getD [], .ofList keywords, .ofList delimiters⟩, rest)

def read : Reader Language := fun text =>
  match skipBlanks text with
  | '{' :: rest => readMembers (rest.length + 1) true .empty rest
  | '[' :: rest => readValues rest
  | other => .error (mismatch "struct LanguageTable" other)

end Language

namespace Settings

def fields : List String := ["convention", "language", "ignore", "quoteCarry", "languages"]

structure Draft where
  convention : Option (Option String)
  language : Option (Option String)
  ignore : Option (List String)
  quoteCarry : Option (Option QuoteCarry)
  languages : Option (List Language)

namespace Draft

def empty : Draft := ⟨none, none, none, none, none⟩

def finish (d : Draft) : Settings :=
  ⟨d.convention.join, d.language.join, d.ignore.getD [], d.quoteCarry.join, d.languages.getD []⟩

end Draft

def readMembers : Nat → Bool → Draft → Reader Settings
  | 0, _, _, _ => .error .endInObject
  | fuel + 1, first, draft, text => do
    match ← nextMember first text with
    | .inl rest => .ok (draft.finish, rest)
    | .inr (key, rest) =>
      if key = "convention" then do
        let (value, rest) ← readOnce key draft.convention (readOption readString) rest
        readMembers fuel false { draft with convention := some value } rest
      else if key = "language" then do
        let (value, rest) ← readOnce key draft.language (readOption readString) rest
        readMembers fuel false { draft with language := some value } rest
      else if key = "ignore" then do
        let (value, rest) ← readOnce key draft.ignore (readList readString) rest
        readMembers fuel false { draft with ignore := some value } rest
      else if key = "quoteCarry" then do
        let (value, rest) ← readOnce key draft.quoteCarry (readOption QuoteCarry.read) rest
        readMembers fuel false { draft with quoteCarry := some value } rest
      else if key = "languages" then do
        let (value, rest) ← readOnce key draft.languages (readList Language.read) rest
        readMembers fuel false { draft with languages := some value } rest
      else .error (.unknownField key fields)

def readValues : Reader Settings := fun text => do
  let (convention, text) ← readPlace true (readOption readString) text
  let (language, text) ← readPlace false (readOption readString) text
  let (ignore, text) ← readPlace false (readList readString) text
  let (quoteCarry, text) ← readPlace false (readOption QuoteCarry.read) text
  let (languages, text) ← readPlace false (readList Language.read) text
  let rest ← closeList text
  .ok (Draft.finish ⟨convention, language, ignore, quoteCarry, languages⟩, rest)

def read : Reader Settings := fun text =>
  match skipBlanks text with
  | '{' :: rest => readMembers (rest.length + 1) true .empty rest
  | '[' :: rest => readValues rest
  | other => .error (mismatch "struct CasingSettings" other)

def ofText (text : String) : Except ReadError Settings := readAll read text.toList

def ofSource (source text : String) : Except Fault Settings :=
  (ofText text).mapError (.invalidJson source)

end Settings

end IdentCase
