import IdentCase.Json.Basic
import IdentCase.Language
import IdentCase.Token

/-!
# Settings

What a run can be told, in layers. Of two layers the later one decides where it sets a value, and
lists are joined. Where no layer says so, an unclosed literal is carried through the whole file.
Settings are written as a JSON object, in which what is not set is null and keywords and delimiters
are listed in order.
-/

set_option autoImplicit false

namespace IdentCase

namespace Language

def toJson (l : Language) : Json :=
  .obj [
    ("name", .str l.name),
    ("aliases", .strings l.aliases),
    ("keywords", .strings l.keywords.toList),
    ("delimiters", .strings (l.delimiters.toList.map Char.toString))]

end Language

structure Settings where
  convention : Option String
  language : Option String
  ignore : List String
  quoteCarry : Option QuoteCarry
  languages : List Language
deriving DecidableEq, Repr

namespace Settings

def empty : Settings := ⟨none, none, [], none, []⟩

def merge (base layer : Settings) : Settings where
  convention := layer.convention.or base.convention
  language := layer.language.or base.language
  ignore := base.ignore ++ layer.ignore
  quoteCarry := layer.quoteCarry.or base.quoteCarry
  languages := base.languages ++ layer.languages

def mergeAll (layers : List Settings) : Settings := layers.foldl merge empty

def requiredConvention (s : Settings) : Except Fault Convention :=
  match s.convention with
  | none => .error (.missingKey "convention" none)
  | some name =>
    match Convention.ofName? name with
    | none => .error (.unknownConvention name)
    | some convention => .ok convention

def requiredLanguage (s : Settings) : Except Fault String :=
  match s.language with
  | none => .error (.missingKey "language" none)
  | some name => .ok name

def effectiveCarry (s : Settings) : QuoteCarry := s.quoteCarry.getD .file

def checkIgnore (s : Settings) : Except Fault Unit :=
  if s.ignore.any String.isEmpty then .error .emptyIgnorePattern else .ok ()

def toJson (s : Settings) : Json :=
  .obj [
    ("convention", .orNull s.convention),
    ("language", .orNull s.language),
    ("ignore", .strings s.ignore),
    ("quoteCarry", .orNull (s.quoteCarry.map QuoteCarry.name)),
    ("languages", .arr (s.languages.map Language.toJson))]

def toText (s : Settings) : String := String.ofList s.toJson.compact

end Settings

end IdentCase
