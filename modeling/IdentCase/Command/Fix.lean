import IdentCase.Command.Arguments
import IdentCase.Command.Session
import IdentCase.Engine
import IdentCase.PathPattern

/-!
# The command `fix`

Every file named becomes one job, however often and in whatever spelling it is named. Jobs are done
in batches: the jobs of a batch see the same disk, and what they write is put in place behind it. A
file that cannot be handled is reported and does not stop the others. A language that is set holds
for all files and has to be known; where none is set, each file goes by its extension.
-/

set_option autoImplicit false

namespace IdentCase.Command.Fix

structure FileResult where
  file : String
  language : Option String
  reports : List Report
  skipped : List Rename
  applied : Bool
  error : Option String
deriving DecidableEq, Repr

structure Summary where
  files : Nat
  renames : Nat
  skipped : Nat
  errors : Nat
deriving DecidableEq, Repr

structure Answer where
  convention : Convention
  dryRun : Bool
  files : List FileResult
  summary : Summary
deriving DecidableEq, Repr

/-! ## Settings and files -/

def readCarry (name : String) : Except Fault QuoteCarry :=
  match QuoteCarry.ofName? name with
  | some carry => .ok carry
  | none =>
    .error (.invalidArgument "quote-carry"
      ("Unknown quote carry mode '" ++ name ++ "'. Use: line, file"))

def layer (o : FixOptions) : Except Fault Settings := do
  let carry ← o.quoteCarry.mapM readCarry
  return ⟨o.convention, o.language, o.ignore, carry, []⟩

def settingsOf (s : Session) (o : FixOptions) : Except Fault Settings := do
  let base ← s.settings o.config
  let top ← layer o
  return base.merge top

def pathsOf (s : Session) (argument : String) : Except Fault (List String) :=
  if PathPattern.isPattern argument then
    match PathPattern.files s.disk s.directory argument with
    | .ok found => .ok (found.map Location.toPath)
    | .error problem =>
      .error (.invalidArgument "files"
        ("Invalid glob '" ++ argument ++ "': " ++ problem.message))
  else .ok [argument]

def canonical (s : Session) (path : String) : String :=
  match s.disk.resolve s.directory path with
  | .ok location => location.toPath
  | .error _ => path

def filesOf (s : Session) (arguments : List String) : Except Fault (List String) := do
  let paths ← arguments.mapM (pathsOf s)
  match paths.flatten with
  | [] => .error (.invalidArgument "files" "No files matched the given paths")
  | found => return Path.distinct (found.map (canonical s))

/-! ## Jobs -/

structure Job where
  path : String
  engine : Except String Engine

abbrev EngineCache := List (String × Engine)

def engineFor (registry : Registry) (settings : Settings) (cache : EngineCache) (path : String) :
    Except String Engine × EngineCache :=
  match Path.extension? path with
  | none => (.error "Cannot infer language: file has no extension (use --language)", cache)
  | some extension =>
    match cache.lookup extension with
    | some engine => (.ok engine, cache)
    | none =>
      match Engine.ofSettings registry { settings with language := some extension } with
      | .ok engine => (.ok engine, (extension, engine) :: cache)
      | .error fault => (.error fault.message, cache)

def inferredJobs (registry : Registry) (settings : Settings) : EngineCache → List String → List Job
  | _, [] => []
  | cache, path :: rest =>
    let (engine, cache) := engineFor registry settings cache path
    ⟨path, engine⟩ :: inferredJobs registry settings cache rest

def jobsOf (registry : Registry) (settings : Settings) (files : List String) :
    Except Fault (List Job) :=
  match settings.language with
  | some _ => do
    let engine ← Engine.ofSettings registry settings
    return files.map (⟨·, .ok engine⟩)
  | none => .ok (inferredJobs registry settings [] files)

def failed (path : String) (language : Option String) (problem : String) : FileResult :=
  ⟨path, language, [], [], false, some problem⟩

structure Change where
  location : Location
  content : Text

def perform (s : Session) (write : Bool) (job : Job) : FileResult × Option Change :=
  match job.engine with
  | .error problem => (failed job.path none problem, none)
  | .ok engine =>
    let source := do
      let location ← s.disk.resolve s.directory job.path
      let text ← s.disk.readAt location
      return (location, text)
    match source with
    | .error problem =>
      (failed job.path (some engine.language) ("Failed to read file: " ++ problem.message), none)
    | .ok (location, text) =>
      let outcome := engine.runText text.toList
      let applied := write && outcome.hasChanges
      (⟨job.path, some engine.language, outcome.reports, outcome.skipped, applied, none⟩,
        if applied then some ⟨location, outcome.content⟩ else none)

def Change.put (disk : Disk) (change : Change) : Disk :=
  disk.write change.location (String.ofList change.content).toUTF8

def performBatch (s : Session) (write : Bool) (jobs : List Job) : List FileResult × Disk :=
  let done := jobs.map (perform s write)
  (done.map Prod.fst, (done.filterMap Prod.snd).foldl Change.put s.disk)

def performAll (workers : Nat) (s : Session) (write : Bool) (jobs : List Job) :
    List FileResult × Disk :=
  match jobs with
  | [] => ([], s.disk)
  | job :: rest =>
    let size := max 1 workers
    let (results, disk) := performBatch s write ((job :: rest).take size)
    let (others, disk) := performAll workers { s with disk } write ((job :: rest).drop size)
    (results ++ others, disk)
termination_by jobs.length
decreasing_by simp only [List.length_drop, List.length_cons]; omega

/-! ## The command -/

def summarize (results : List FileResult) : Summary where
  files := results.length
  renames := results.foldl (fun total r => total + r.reports.length) 0
  skipped := results.foldl (fun total r => total + r.skipped.length) 0
  errors := (results.filter fun r => r.error.isSome).length

def exitCode (check : Bool) (summary : Summary) : Nat :=
  if 0 < summary.errors ∨ (check ∧ 0 < summary.renames) then 1 else 0

def run (workers : Nat) (s : Session) (o : FixOptions) : Except Fault (Answer × Nat × Disk) := do
  let settings ← settingsOf s o
  let convention ← settings.requiredConvention
  settings.checkIgnore
  let files ← filesOf s o.files
  let jobs ← jobsOf .builtin settings files
  let (results, disk) := performAll workers s o.write jobs
  let summary := summarize results
  return (⟨convention, !o.write, results, summary⟩, exitCode o.check summary, disk)

/-! ## The answer as JSON -/

def text (t : Text) : Json := .str (String.ofList t)

def editJson (e : LineEdit) : Json :=
  .keyed [("line", .num e.line), ("original", text e.before), ("replacement", text e.after)]

def renameJson (r : Rename) : Json := .keyed [("original", text r.old), ("converted", text r.new)]

def reportJson (r : Report) : Json :=
  .keyed [("original", text r.rename.old), ("converted", text r.rename.new),
    ("message", .str r.message), ("firstLine", .num r.firstLine),
    ("diff", .arr (r.edits.map editJson))]

def FileResult.toJson (r : FileResult) : Json :=
  .keyed ([("file", .str r.file), ("reports", .arr (r.reports.map reportJson)),
    ("skipped", .arr (r.skipped.map renameJson)), ("applied", .bool r.applied)] ++
    Json.optional "language" (r.language.map .str) ++ Json.optional "error" (r.error.map .str))

def Summary.toJson (s : Summary) : Json :=
  .keyed [("files", .num s.files), ("renames", .num s.renames), ("skipped", .num s.skipped),
    ("errors", .num s.errors)]

def Answer.toJson (a : Answer) : Json :=
  .keyed [("command", .str "fix"), ("convention", .str a.convention.name),
    ("dryRun", .bool a.dryRun), ("files", .arr (a.files.map FileResult.toJson)),
    ("summary", a.summary.toJson)]

end IdentCase.Command.Fix
