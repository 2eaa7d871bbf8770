import IdentCase.Json.Basic
import IdentCase.Json.ReadError

/-!
# Faults

Why a run can fail as a whole, with the code, the message, the details and the hints that answers
show.
-/

set_option autoImplicit false

namespace IdentCase

inductive Fault where
  | missingKey (key : String) (path : Option String)
  | invalidJson (path : String) (problem : Json.ReadError)
  | invalidValue (key : String) (value : Option String) (problem : String)
  | invalidArgument (field : String) (problem : String)
  | languageNotFound (language : String) (known : List String)
  | inputOutput (problem : String) (context : Option String)
  | serialization (problem : String) (context : Option String)
deriving DecidableEq, Repr

namespace Fault

def code : Fault → String
  | missingKey .. => "config.missing_key"
  | invalidJson .. => "config.invalid_json"
  | invalidValue .. => "config.invalid_value"
  | invalidArgument .. => "validation.invalid_argument"
  | languageNotFound .. => "language.not_found"
  | inputOutput .. => "internal.io_error"
  | serialization .. => "internal.json_error"

def message : Fault → String
  | missingKey .. => "Missing required configuration key"
  | invalidJson .. => "Invalid JSON in configuration"
  | invalidValue .. => "Invalid configuration value"
  | invalidArgument .. => "Invalid argument"
  | languageNotFound language _ => "No keyword/delimiter table for language '" ++ language ++ "'"
  | inputOutput .. => "IO error"
  | serialization .. => "JSON error"

def details : Fault → Json
  | missingKey key path => .keyed ([("key", .str key)] ++ Json.optional "path" (path.map .str))
  | invalidJson path problem => .keyed [("path", .str path), ("error", .str problem.message)]
  | invalidValue key value problem =>
    .keyed ([("key", .str key), ("problem", .str problem)] ++
      Json.optional "value" (value.map .str))
  | invalidArgument field problem => .keyed [("field", .str field), ("problem", .str problem)]
  | languageNotFound language known =>
    .keyed [("language", .str language), ("known", .strings known)]
  | inputOutput problem context =>
    .keyed ([("error", .str problem)] ++ Json.optional "context" (context.map .str))
  | serialization problem context =>
    .keyed ([("error", .str problem)] ++ Json.optional "context" (context.map .str))

def hints : Fault → List String
  | languageNotFound .. =>
    ["Run 'recase languages' to see available languages",
      "Custom tables can be declared under \"languages\" in the settings file"]
  | _ => []

def exitCode : Fault → Nat
  | missingKey .. | invalidJson .. | invalidValue .. | invalidArgument .. => 2
  | languageNotFound .. => 4
  | inputOutput .. | serialization .. => 1

def unknownConvention (name : String) : Fault :=
  .invalidValue "convention" (some name)
    ("Unknown casing convention '" ++ name ++ "'. Use: camel, snake, pascal")

def emptyIgnorePattern : Fault := .invalidValue "ignore" none "Ignore patterns must not be empty"

end Fault

end IdentCase
