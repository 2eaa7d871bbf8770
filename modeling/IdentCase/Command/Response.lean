import IdentCase.Command.Fix

/-!
# Responses

A command line as a whole: from arguments and session to the exit status, the output and the disk
that is left. The output is one JSON object, with the data or with the fault. The command
`languages` lists the builtin languages and those of a settings file.
-/

set_option autoImplicit false

namespace IdentCase.Command

namespace Languages

def listing (l : Language) : Json :=
  .keyed [("name", .str l.name), ("aliases", .strings l.aliases),
    ("keywords", .num l.keywords.size), ("delimiters", .str (String.ofList l.delimiters.toList))]

def registryOf (s : Session) (config : Option String) : Except Fault Registry := do
  let settings ← s.settings config
  return Registry.builtin.insertMany settings.languages

def toJson (r : Registry) : Json :=
  .keyed [("command", .str "languages"), ("languages", .arr (r.languages.map listing))]

end Languages

structure Response where
  exitCode : Nat
  output : String
  disk : Disk

def version : String := "recase 0.1.0"

def usage : String :=
  "Usage: recase fix [OPTIONS] <FILES>...\n" ++
  "       recase languages [--config <CONFIG>]\n" ++
  "\n" ++
  "Options of fix:\n" ++
  "      --convention <CONVENTION>  camel, snake or pascal\n" ++
  "  -l, --language <LANGUAGE>      by default that of each file's extension\n" ++
  "      --ignore <GLOB>            identifiers to leave alone, repeatable\n" ++
  "      --config <CONFIG>          a settings file\n" ++
  "      --quote-carry <MODE>       line or file\n" ++
  "      --write                    write the files\n" ++
  "      --check                    fail when there is something to rename\n"

def successText (data : Json) : String :=
  String.ofList (Json.layout 0 (.obj [("success", .bool true), ("data", data)])) ++ "\n"

def faultJson (f : Fault) : Json :=
  let hints :=
    match f.hints with
    | [] => []
    | hints => [("hints", .arr (hints.map fun hint => .obj [("message", .str hint)]))]
  .obj ([("code", .str f.code), ("message", .str f.message), ("details", f.details)] ++ hints)

def faultText (f : Fault) : String :=
  String.ofList (Json.layout 0 (.obj [("success", .bool false), ("error", faultJson f)])) ++ "\n"

def respond (workers : Nat) (s : Session) : Invocation → Response
  | .fix options =>
    match Fix.run workers s options with
    | .ok (answer, exitCode, disk) => ⟨exitCode, successText answer.toJson, disk⟩
    | .error fault => ⟨fault.exitCode, faultText fault, s.disk⟩
  | .languages config =>
    match Languages.registryOf s config with
    | .ok registry => ⟨0, successText (Languages.toJson registry), s.disk⟩
    | .error fault => ⟨fault.exitCode, faultText fault, s.disk⟩

def run (workers : Nat) (s : Session) (arguments : List String) : Response :=
  match Invocation.read arguments with
  | .ok invocation => respond workers s invocation
  | .error .misuse => ⟨2, "", s.disk⟩
  | .error .help => ⟨0, usage, s.disk⟩
  | .error .version => ⟨0, version ++ "\n", s.disk⟩

end IdentCase.Command
