import IdentCase.Disk
import IdentCase.Settings.Reader
import IdentCase.Text.Alphanumeric

/-!
# Sessions

What a command finds around it: the environment, the current directory and the disk. The path of a
settings file may name environment variables and, at its start, the home directory. A `$` that names
no variable stands for itself, and `$$` for one `$`. A variable that is not set needs a default. A
value is put in as it is and not expanded again.
-/

set_option autoImplicit false

namespace IdentCase.Command

abbrev Environment := List (String × String)

namespace Expansion

structure Unset where
  name : String
deriving DecidableEq, Repr

def Unset.message (u : Unset) : String :=
  "error looking key '" ++ u.name ++ "' up: environment variable not found"

def isNameChar (c : Char) : Bool := Text.isAlphanumeric c || c == '_'

def splitDefault : Text → Option (Text × Text)
  | [] => none
  | [_] => none
  | a :: b :: rest =>
    if a = ':' ∧ b = '-' then some ([], rest)
    else (splitDefault (b :: rest)).map fun (name, fallback) => (a :: name, fallback)

inductive Segment where
  | char (c : Char)
  | reference (name : Text) (fallback : Option Text)
deriving DecidableEq, Repr

def braced (body : Text) : Segment :=
  match splitDefault body with
  | some (c :: name, fallback) => .reference (c :: name) (some fallback)
  | _ => .reference body none

def segmentsFrom : Nat → Text → List Segment
  | _, [] => []
  | skip + 1, _ :: rest => segmentsFrom skip rest
  | 0, c :: rest =>
    if c ≠ '$' then .char c :: segmentsFrom 0 rest
    else
      match rest with
      | '{' :: body =>
        let inner := body.takeWhile (· ≠ '}')
        if inner.length < body.length then braced inner :: segmentsFrom (inner.length + 2) rest
        else .char '$' :: .char '{' :: segmentsFrom 1 rest
      | '$' :: _ => .char '$' :: segmentsFrom 1 rest
      | _ =>
        let name := rest.takeWhile isNameChar
        if name.isEmpty then .char '$' :: segmentsFrom 0 rest
        else .reference name none :: segmentsFrom name.length rest

def segments (text : String) : List Segment := segmentsFrom 0 text.toList

def variableNames (text : String) : List String :=
  "HOME" :: (segments text).filterMap fun
    | .char _ => none
    | .reference name _ => some (String.ofList name)

def Segment.value (env : Environment) : Segment → Except Unset Text
  | char c => .ok [c]
  | reference name fallback =>
    match env.lookup (String.ofList name), fallback with
    | some text, _ => .ok text.toList
    | none, some text => .ok text
    | none, none => .error ⟨String.ofList name⟩

def home? (env : Environment) : Option Text :=
  match env.lookup "HOME" with
  | some text => if text.isEmpty then none else some text.toList
  | none => none

def homeExpanded (env : Environment) (path : Text) : Text :=
  match path, home? env with
  | ['~'], some home => home
  | '~' :: '/' :: rest, some home => home ++ '/' :: rest
  | _, _ => path

def path (env : Environment) (text : String) : Except Unset String := do
  let values ← (segments text).mapM (Segment.value env)
  let expanded := values.flatten
  if expanded.head? = some '~' ∧ text.toList.head? ≠ some '~' then return String.ofList expanded
  return String.ofList (homeExpanded env expanded)

end Expansion

structure Session where
  environment : Environment
  directory : Location
  disk : Disk

namespace Session

def read (s : Session) (path : String) : Except FileError String := s.disk.read s.directory path

def loadSettings (s : Session) (path : String) : Except Fault Settings :=
  match Expansion.path s.environment path with
  | .error unset => .error (.invalidValue "config" (some path) unset.message)
  | .ok expanded =>
    match s.read expanded with
    | .error problem =>
      .error (.inputOutput problem.message (some ("read settings " ++ expanded)))
    | .ok text => Settings.ofSource expanded text

def settings (s : Session) : Option String → Except Fault Settings
  | none => .ok .empty
  | some path => s.loadSettings path

end Session

end IdentCase.Command
