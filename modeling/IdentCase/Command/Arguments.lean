/-!
# Arguments

The command line: a command with options and, for `fix`, files. Options and files may be mixed. An
option takes its value from behind a `=` or from the next argument, which then must not look like an
option. Behind `--` everything is a file.
-/

set_option autoImplicit false

namespace IdentCase.Command

structure FixOptions where
  files : List String
  convention : Option String
  language : Option String
  ignore : List String
  config : Option String
  quoteCarry : Option String
  write : Bool
  check : Bool
deriving DecidableEq, Repr

inductive Invocation where
  | fix (options : FixOptions)
  | languages (config : Option String)
deriving DecidableEq, Repr

inductive Stop where
  | misuse
  | help
  | version
deriving DecidableEq, Repr

inductive Argument where
  | escape
  | long (name : String) (value : Option String)
  | short (letter : Char) (tail : List Char)
  | plain (text : String)
deriving DecidableEq, Repr

namespace Argument

def ofLong (body : List Char) : Argument :=
  let (name, tail) := body.span (· ≠ '=')
  match tail with
  | [] => .long (String.ofList name) none
  | _ :: value => .long (String.ofList name) (some (String.ofList value))

def ofText (text : String) : Argument :=
  match text.toList with
  | ['-', '-'] => .escape
  | '-' :: '-' :: body => ofLong body
  | '-' :: letter :: tail => .short letter tail
  | _ => .plain text

def attached? : List Char → Option String
  | [] => none
  | '=' :: value => some (String.ofList value)
  | value => some (String.ofList value)

end Argument

inductive ValueOption where
  | convention
  | language
  | ignore
  | config
  | quoteCarry
deriving DecidableEq, Repr

def ValueOption.ofName? (name : String) : Option ValueOption :=
  if name = "convention" then some .convention
  else if name = "language" then some .language
  else if name = "ignore" then some .ignore
  else if name = "config" then some .config
  else if name = "quote-carry" then some .quoteCarry
  else none

namespace FixOptions

def empty : FixOptions := ⟨[], none, none, [], none, none, false, false⟩

def once (old : Option String) (value : String) : Except Stop (Option String) :=
  if old.isSome then .error .misuse else .ok (some value)

def set (o : FixOptions) (option : ValueOption) (value : String) : Except Stop FixOptions :=
  match option with
  | .convention => (once o.convention value).map fun v => { o with convention := v }
  | .language => (once o.language value).map fun v => { o with language := v }
  | .ignore => .ok { o with ignore := o.ignore ++ [value] }
  | .config => (once o.config value).map fun v => { o with config := v }
  | .quoteCarry => (once o.quoteCarry value).map fun v => { o with quoteCarry := v }

def setFlag (o : FixOptions) (name : String) : Except Stop FixOptions :=
  if name = "write" then if o.write then .error .misuse else .ok { o with write := true }
  else if name = "check" then if o.check then .error .misuse else .ok { o with check := true }
  else if name = "help" then .error .help
  else .error .misuse

def addFiles (o : FixOptions) (files : List String) : FixOptions :=
  { o with files := o.files ++ files }

def read (o : FixOptions) (pending : Option ValueOption) : List String → Except Stop FixOptions
  | [] => if pending.isSome || o.files.isEmpty then .error .misuse else .ok o
  | text :: rest =>
    match pending, Argument.ofText text with
    | some option, .plain value => do read (← o.set option value) none rest
    | some _, _ => .error .misuse
    | none, .escape =>
      let o := o.addFiles rest
      if o.files.isEmpty then .error .misuse else .ok o
    | none, .plain file => read (o.addFiles [file]) none rest
    | none, .long name value =>
      match ValueOption.ofName? name, value with
      | some option, some value => do read (← o.set option value) none rest
      | some option, none => read o (some option) rest
      | none, some _ => .error .misuse
      | none, none => do read (← o.setFlag name) none rest
    | none, .short letter tail =>
      if letter = 'l' then
        match Argument.attached? tail with
        | some value => do read (← o.set .language value) none rest
        | none => read o (some .language) rest
      else if letter = 'h' then .error .help
      else .error .misuse

end FixOptions

def readLanguages (config : Option String) : List String → Except Stop (Option String)
  | [] => .ok config
  | text :: rest =>
    match Argument.ofText text with
    | .escape => if rest.isEmpty then .ok config else .error .misuse
    | .plain _ => .error .misuse
    | .short letter _ => .error (if letter = 'h' then .help else .misuse)
    | .long name value =>
      if name = "help" ∧ value.isNone then .error .help
      else if name = "config" then
        match value, rest with
        | some value, rest => do readLanguages (← FixOptions.once config value) rest
        | none, next :: rest =>
          match Argument.ofText next with
          | .plain value => do readLanguages (← FixOptions.once config value) rest
          | _ => .error .misuse
        | none, [] => .error .misuse
      else .error .misuse

def Invocation.read : List String → Except Stop Invocation
  | [] => .error .misuse
  | first :: rest =>
    match Argument.ofText first with
    | .plain name =>
      if name = "fix" then (FixOptions.empty.read none rest).map .fix
      else if name = "languages" then (readLanguages none rest).map .languages
      else if name = "help" ∧ rest ∈ [[], ["fix"], ["languages"], ["help"]] then .error .help
      else .error .misuse
    | .long name none =>
      if name = "version" then .error .version
      else if name = "help" then .error .help
      else .error .misuse
    | .short letter _ =>
      if letter = 'V' then .error .version
      else if letter = 'h' then .error .help
      else .error .misuse
    | _ => .error .misuse

end IdentCase.Command
