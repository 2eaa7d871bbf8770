import Mathlib.Algebra.Order.Ring.Nat
import IdentCase.Command.Response
import IdentCase.Proofs.Jobs
import IdentCase.Proofs.PathOrder

/-!
# Files are handled independently

A run on several files gives each of them the result and the bytes that a run on this file alone
gives it. The engine of a file is the same whatever engines were found before it, and the files are
apart because two canonical paths of one location are the same path.
-/

set_option autoImplicit false

namespace IdentCase.Command.Fix

/-! ## Engines -/

def engineOf (settings : Settings) (path : String) : Except String Engine :=
  match settings.language.or (Path.extension? path) with
  | none => .error "Cannot infer language: file has no extension (use --language)"
  | some language =>
    match Engine.ofSettings .builtin { settings with language := some language } with
    | .ok engine => .ok engine
    | .error fault => .error fault.message

def Faithful (settings : Settings) (cache : EngineCache) : Prop :=
  ∀ extension engine, cache.lookup extension = some engine →
    Engine.ofSettings .builtin { settings with language := some extension } = .ok engine

theorem faithful_nil (settings : Settings) : Faithful settings [] := by
  intro extension engine h
  cases h

theorem faithful_cons (settings : Settings) (cache : EngineCache) (h : Faithful settings cache)
    (extension : String) (engine : Engine)
    (hengine : Engine.ofSettings .builtin { settings with language := some extension } =
      .ok engine) : Faithful settings ((extension, engine) :: cache) := by
  intro other found hfound
  rw [List.lookup_cons] at hfound
  split at hfound
  · rename_i hsame
    rw [beq_iff_eq.mp hsame, hengine, Option.some.inj hfound]
  · exact h other found hfound

theorem engineFor_faithful (settings : Settings) (hlanguage : settings.language = none)
    (cache : EngineCache) (h : Faithful settings cache) (path : String) :
    (engineFor .builtin settings cache path).1 = engineOf settings path ∧
      Faithful settings (engineFor .builtin settings cache path).2 := by
  unfold engineFor engineOf
  rw [hlanguage, Option.none_or]
  cases Path.extension? path with
  | none => exact ⟨rfl, h⟩
  | some extension =>
    cases hlookup : cache.lookup extension with
    | some engine => simp only [hlookup, h extension engine hlookup, true_and]; exact h
    | none =>
      cases hengine : Engine.ofSettings .builtin { settings with language := some extension } with
      | error fault => simp only [hlookup, hengine, true_and]; exact h
      | ok engine =>
        simp only [hlookup, hengine, true_and]
        exact faithful_cons settings cache h extension engine hengine

def cacheAfter (settings : Settings) (files : List String) : EngineCache :=
  files.foldl (fun cache path => (engineFor .builtin settings cache path).2) []

theorem cacheAfter_faithful (settings : Settings) (hlanguage : settings.language = none)
    (files : List String) : Faithful settings (cacheAfter settings files) :=
  List.foldlRecOn files _ (faithful_nil settings) fun cache h path _ =>
    (engineFor_faithful settings hlanguage cache h path).2

def jobFor (settings : Settings) (path : String) : Job := ⟨path, engineOf settings path⟩

theorem inferredJobs_eq (settings : Settings) (hlanguage : settings.language = none)
    (cache : EngineCache) (h : Faithful settings cache) (files : List String) :
    inferredJobs .builtin settings cache files = files.map (jobFor settings) := by
  induction files generalizing cache with
  | nil => rfl
  | cons path rest ih =>
    obtain ⟨hengine, hcache⟩ := engineFor_faithful settings hlanguage cache h path
    rw [List.map_cons, ← ih _ hcache, jobFor, ← hengine]
    rfl

/-! ## Results -/

structure Settled (s : Session) (engine : Except String Engine) (write : Bool) (disk : Disk)
    (r : FileResult) : Prop where
  unknown : ∀ problem, engine = .error problem → r = failed r.file none problem
  unread : ∀ e problem, engine = .ok e → s.read r.file = .error problem →
    r = failed r.file (some e.language) ("Failed to read file: " ++ problem.message)
  outcome : ∀ e text, engine = .ok e → s.read r.file = .ok text →
    r.error = none ∧ r.language = some e.language ∧
      r.reports = (e.runText text.toList).reports ∧ r.skipped = (e.runText text.toList).skipped ∧
      (r.applied = true → disk.bytes? s.directory r.file =
        some (String.ofList (e.runText text.toList).content).toUTF8)
  applied_iff : r.applied = true ↔ write = true ∧ r.error = none ∧ r.reports ≠ []
  changed_iff : disk.bytes? s.directory r.file ≠ s.disk.bytes? s.directory r.file ↔
    r.applied = true

theorem settled_congr (s : Session) (engine : Except String Engine) (write : Bool)
    (a b : Disk) (r : FileResult) (h : Settled s engine write a r)
    (hbytes : b.bytes? s.directory r.file = a.bytes? s.directory r.file) :
    Settled s engine write b r where
  unknown := h.unknown
  unread := h.unread
  outcome := by rw [hbytes]; exact h.outcome
  applied_iff := h.applied_iff
  changed_iff := by rw [hbytes]; exact h.changed_iff

theorem written_bytes (s : Session) (write : Bool) (job : Job) (change : Change)
    (h : (perform s write job).2 = some change) :
    (after s write job).bytes? s.directory job.path =
      some (String.ofList change.content).toUTF8 := by
  have hleads := (perform_lands s write job change h).1
  unfold Leads at hleads
  simp only [Disk.bytes?, Disk.resolve_sameTree s.disk _ (after_sameTree s write job), hleads]
  rw [Disk.bytesAt?_eq_some, after_change s write job change h, if_pos rfl]

theorem runText_bytes (e : Engine) (text : String)
    (h : (e.runText text.toList).reports ≠ []) :
    (String.ofList (e.runText text.toList).content).toUTF8 ≠ text.toUTF8 := by
  intro hsame
  have htext : String.ofList (e.runText text.toList).content = text :=
    String.toByteArray_inj.mp hsame
  have hcontent := congrArg String.toList htext
  rw [String.toList_ofList] at hcontent
  exact h ((e.runText_unchanged_iff text.toList).mp hcontent)

theorem perform_settled (s : Session) (write : Bool) (job : Job) :
    Settled s job.engine write (after s write job) (perform s write job).1 := by
  cases hdone : perform s write job with
  | mk result change =>
    have hending := perform_ending s write job
    rw [hdone] at hending
    cases hending with
    | unknown problem hengine =>
      rw [after_none s write job (by rw [hdone]), hengine]
      constructor <;> simp [failed]
    | unread engine problem hengine hread =>
      rw [after_none s write job (by rw [hdone]), hengine]
      constructor <;> simp [failed, hread]
    | kept engine location text hengine hleads hread hkept =>
      rw [after_none s write job (by rw [hdone]), hengine]
      have hreads := (read_leads s job.path location hleads).trans hread
      constructor
      · simp
      · simp [hreads]
      · simp [hreads]
      · simpa using hkept
      · simp
    | written engine location text hengine hleads hread hwritten =>
      have hbytes := written_bytes s write job ⟨location, (engine.runText text.toList).content⟩
        (by rw [hdone])
      dsimp only at hbytes
      have hreads := (read_leads s job.path location hleads).trans hread
      have hold : s.disk.bytes? s.directory job.path = some text.toUTF8 := by
        unfold Leads at hleads
        simp only [Disk.bytes?, hleads, (s.disk.readAt_eq_ok location text).mp hread]
      rw [hengine]
      constructor
      · simp
      · simp [hreads]
      · intro e found hfound hcontent
        cases hfound
        cases hreads.symm.trans hcontent
        simp only [hbytes, implies_true, and_self]
      · simpa using hwritten
      · show (after s write job).bytes? s.directory job.path ≠
          s.disk.bytes? s.directory job.path ↔ _
        rw [hbytes, hold, ne_eq, Option.some_inj]
        simp only [runText_bytes engine text hwritten.2, not_false_eq_true]

/-! ## Runs -/

def checks (s : Session) (o : FixOptions) : Except Fault (Settings × Convention) := do
  let settings ← settingsOf s o
  let convention ← settings.requiredConvention
  settings.checkIgnore
  if settings.language.isSome then
    let _ ← Engine.ofSettings .builtin settings
  return (settings, convention)

theorem pathsOf_plain (s : Session) (arguments : List String)
    (hplain : ∀ p ∈ arguments, PathPattern.isPattern p = false) :
    arguments.mapM (pathsOf s) = .ok (arguments.map fun p => [p]) := by
  induction arguments with
  | nil => rfl
  | cons argument rest ih =>
    have hfirst : pathsOf s argument = .ok [argument] := by
      simp [pathsOf, hplain argument (by simp)]
    rw [List.mapM_cons, hfirst, ih fun p hp => hplain p (by simp [hp])]
    rfl

theorem filesOf_canonical (s : Session) (arguments : List String) (hne : arguments ≠ [])
    (hplain : ∀ p ∈ arguments, PathPattern.isPattern p = false)
    (hcanonical : ∀ p ∈ arguments, canonical s p = p) :
    filesOf s arguments = .ok (Path.distinct arguments) := by
  have hflat : (arguments.map fun p => [p]).flatten = arguments := by
    rw [← List.flatMap_def, List.flatMap_singleton']
  have hsame : arguments.map (canonical s) = arguments :=
    (List.map_congr_left hcanonical).trans (List.map_id arguments)
  simp only [filesOf, pathsOf_plain s arguments hplain, bind, Except.bind, hflat]
  cases arguments with
  | nil => exact absurd rfl hne
  | cons first rest => simp only [hsame, pure, Except.pure]

/-- Canonical paths that differ lead to different locations. -/
theorem apart_canonical (s : Session) (settings : Settings) (files : List String)
    (hcanonical : ∀ p ∈ files, canonical s p = p)
    (hdistinct : files.Pairwise fun p q => Path.key p ≠ Path.key q) :
    Apart s (files.map (jobFor settings)) := by
  rw [Apart, List.pairwise_map]
  refine hdistinct.imp_of_mem fun {p q} hp hq hne location hleads hother => hne ?_
  -- A path that leads somewhere and is canonical is the spelling of where it leads.
  have hspelled (path : String) (hmem : path ∈ files) (h : Leads s path location) :
      path = location.toPath := by
    unfold Leads at h
    rw [← hcanonical path hmem, canonical, h]
  rw [hspelled p hp hleads, hspelled q hq hother]

/-- A set language gives its engine to every file. -/
theorem engineOf_set (settings : Settings) (language : String)
    (hlanguage : settings.language = some language) (engine : Engine)
    (hengine : Engine.ofSettings .builtin settings = .ok engine) (path : String) :
    engineOf settings path = .ok engine := by
  have hsame : { settings with language := some language } = settings := by rw [← hlanguage]
  simp only [engineOf, hlanguage, Option.some_or, hsame, hengine]

/-- A run is its checks and then its jobs. -/
theorem run_jobs (workers : Nat) (s : Session) (o : FixOptions) (files : List String)
    (hfiles : filesOf s o.files = .ok files) :
    run workers s o = (checks s o).map fun (settings, convention) =>
      let done := performAll workers s o.write (files.map (jobFor settings))
      (⟨convention, !o.write, done.1, summarize done.1⟩, exitCode o.check (summarize done.1),
        done.2) := by
  unfold run checks
  cases settingsOf s o with
  | error fault => rfl
  | ok settings =>
    simp only [bind, Except.bind, hfiles]
    cases settings.requiredConvention with
    | error fault => rfl
    | ok convention =>
      cases settings.checkIgnore with
      | error fault => rfl
      | ok =>
        cases hlanguage : settings.language with
        | none =>
          simp only [jobsOf, hlanguage,
            inferredJobs_eq settings hlanguage [] (faithful_nil settings) files]
          rfl
        | some language =>
          simp only [jobsOf, hlanguage]
          cases hengine : Engine.ofSettings .builtin settings with
          | error fault => rfl
          | ok engine =>
            -- The engine that was made to check the language is that of every job.
            have hjobs : files.map (⟨·, .ok engine⟩) = files.map (jobFor settings) :=
              List.map_congr_left fun path _ => by
                rw [jobFor, engineOf_set settings language hlanguage engine hengine]
            simp only [bind, Except.bind, pure, Except.pure, hjobs, Option.isSome_some, if_true,
              Except.map]

theorem apart_distinct (s : Session) (settings : Settings) (files : List String)
    (hcanonical : ∀ p ∈ files, canonical s p = p) :
    Apart s ((Path.distinct files).map (jobFor settings)) :=
  apart_canonical s settings (Path.distinct files)
    (fun p hp => hcanonical p (Path.distinct_subset files p hp))
    ((Path.distinct_ascending files).imp fun h => ne_of_lt h)

/-- A run on canonical paths is its checks and then one batch, whatever the number of workers. -/
theorem run_batch (s : Session) (o : FixOptions) (hne : o.files ≠ [])
    (hplain : ∀ p ∈ o.files, PathPattern.isPattern p = false)
    (hcanonical : ∀ p ∈ o.files, canonical s p = p) (settings : Settings) (convention : Convention)
    (hchecks : checks s o = .ok (settings, convention)) (workers : Nat) :
    run workers s o =
      let done := performBatch s o.write ((Path.distinct o.files).map (jobFor settings))
      .ok (⟨convention, !o.write, done.1, summarize done.1⟩, exitCode o.check (summarize done.1),
        done.2) := by
  have hapart := apart_distinct s settings o.files hcanonical
  rw [run_jobs workers s o _ (filesOf_canonical s o.files hne hplain hcanonical), hchecks]
  simp only [Except.map, performAll_eq workers s o.write _ hapart]

/-! ## Totals -/

structure Totals (check : Bool) (results : List FileResult) (summary : Summary) (status : Nat) :
    Prop where
  files : summary.files = results.length
  renames : summary.renames = (results.map fun r => r.reports.length).sum
  skipped : summary.skipped = (results.map fun r => r.skipped.length).sum
  errors : summary.errors = results.countP fun r => r.error.isSome
  fails_iff : status = 1 ↔
    (∃ r ∈ results, r.error ≠ none) ∨ (check = true ∧ ∃ r ∈ results, r.reports ≠ [])
  passes : status ≠ 1 → status = 0

theorem total_eq_sum (f : FileResult → Nat) (results : List FileResult) :
    results.foldl (fun total r => total + f r) 0 = (results.map f).sum := by
  rw [List.sum_eq_foldl_nat, List.foldl_map]

theorem totals (check : Bool) (results : List FileResult) :
    Totals check results (summarize results) (exitCode check (summarize results)) := by
  have herrors : 0 < (summarize results).errors ↔ ∃ r ∈ results, r.error ≠ none := by
    simp only [summarize, ← List.countP_eq_length_filter, List.countP_pos_iff,
      Option.isSome_iff_ne_none]
  have hrenames : 0 < (summarize results).renames ↔ ∃ r ∈ results, r.reports ≠ [] := by
    simp only [summarize, total_eq_sum, List.sum_pos_iff_exists_pos_nat, List.mem_map,
      exists_exists_and_eq_and, List.length_pos_iff]
  constructor
  · rfl
  · exact total_eq_sum (fun r => r.reports.length) results
  · exact total_eq_sum (fun r => r.skipped.length) results
  · exact List.countP_eq_length_filter.symm
  · rw [← herrors, ← hrenames, exitCode]
    split
    · rename_i hfails
      exact iff_of_true rfl hfails
    · rename_i hpasses
      exact iff_of_false Nat.zero_ne_one hpasses
  · simp only [exitCode]
    split <;> simp

/-! ## Independence -/

structure Handled (s : Session) (o : FixOptions) (settings : Settings) (convention : Convention)
    (results : List FileResult) (disk : Disk) : Prop where
  once : (results.map FileResult.file).Perm o.files
  ascending : results.Pairwise fun a b => Path.key a.file < Path.key b.file
  settled : ∀ r ∈ results, Settled s (engineOf settings r.file) o.write disk r
  alone : ∀ r ∈ results, ∃ summary status left,
    (∀ workers, run workers s { o with files := [r.file] } =
      .ok (⟨convention, !o.write, [r], summary⟩, status, left)) ∧
    left.bytes? s.directory r.file = disk.bytes? s.directory r.file
  engines : settings.language = none → ∀ earlier, ∀ r ∈ results,
    (engineFor .builtin settings (cacheAfter settings earlier) r.file).1 = engineOf settings r.file
  others : ∀ place, (∀ r ∈ results, ¬Leads s r.file place) →
    disk.node? place = s.disk.node? place

theorem batch_files (s : Session) (write : Bool) (settings : Settings) (files : List String) :
    (performBatch s write (files.map (jobFor settings))).1.map FileResult.file = files := by
  simp only [performBatch, List.map_map]
  refine (List.map_congr_left fun path _ => ?_).trans (List.map_id files)
  exact perform_file s write (jobFor settings path)

theorem batch_result (s : Session) (write : Bool) (settings : Settings) (files : List String)
    (r : FileResult) (hr : r ∈ (performBatch s write (files.map (jobFor settings))).1) :
    r.file ∈ files ∧ (perform s write (jobFor settings r.file)).1 = r := by
  simp only [performBatch, List.map_map, List.mem_map, Function.comp_apply] at hr
  obtain ⟨path, hpath, rfl⟩ := hr
  rw [perform_file]
  exact ⟨hpath, rfl⟩

theorem run_alone (s : Session) (o : FixOptions) (path : String)
    (hplain : PathPattern.isPattern path = false) (hcanonical : canonical s path = path)
    (settings : Settings) (convention : Convention)
    (hchecks : checks s o = .ok (settings, convention)) (workers : Nat) :
    run workers s { o with files := [path] } =
      let r := (perform s o.write (jobFor settings path)).1
      .ok (⟨convention, !o.write, [r], summarize [r]⟩, exitCode o.check (summarize [r]),
        after s o.write (jobFor settings path)) := by
  have hrun := run_batch s { o with files := [path] } (by simp) (by simpa using hplain)
    (by simpa using hcanonical) settings convention hchecks workers
  rw [hrun, Path.distinct_singleton, List.map_singleton, performBatch_singleton]

theorem batch_handled (s : Session) (o : FixOptions)
    (hplain : ∀ p ∈ o.files, PathPattern.isPattern p = false)
    (hcanonical : ∀ p ∈ o.files, canonical s p = p)
    (hdistinct : o.files.Pairwise fun p q => Path.key p ≠ Path.key q) (settings : Settings)
    (convention : Convention) (hchecks : checks s o = .ok (settings, convention)) :
    Handled s o settings convention
      (performBatch s o.write ((Path.distinct o.files).map (jobFor settings))).1
      (performBatch s o.write ((Path.distinct o.files).map (jobFor settings))).2 := by
  have hapart := apart_distinct s settings o.files hcanonical
  have hfiles := batch_files s o.write settings (Path.distinct o.files)
  have hresult := batch_result s o.write settings (Path.distinct o.files)
  have hbytes (path : String) (hpath : path ∈ Path.distinct o.files) :=
    performBatch_bytes s o.write _ hapart (jobFor settings path) (List.mem_map_of_mem hpath)
  constructor
  case once =>
    rw [hfiles]
    exact Path.distinct_perm o.files hdistinct
  case ascending =>
    have hascending := Path.distinct_ascending o.files
    rwa [← hfiles, List.pairwise_map] at hascending
  case settled =>
    intro r hr
    obtain ⟨hpath, hperform⟩ := hresult r hr
    have hsettled := perform_settled s o.write (jobFor settings r.file)
    rw [hperform] at hsettled
    exact settled_congr _ _ _ _ _ r hsettled (hbytes r.file hpath)
  case alone =>
    intro r hr
    obtain ⟨hpath, hperform⟩ := hresult r hr
    have hmem := Path.distinct_subset o.files r.file hpath
    have halone := run_alone s o r.file (hplain _ hmem) (hcanonical _ hmem) settings convention
      hchecks
    rw [hperform] at halone
    exact ⟨_, _, _, halone, (hbytes r.file hpath).symm⟩
  case engines =>
    intro hlanguage earlier r _
    exact (engineFor_faithful settings hlanguage _
      (cacheAfter_faithful settings hlanguage earlier) r.file).1
  case others =>
    intro place hplace
    refine performBatch_other s o.write _ hapart place fun job hjob => ?_
    obtain ⟨path, hpath, rfl⟩ := List.mem_map.mp hjob
    rw [← hfiles] at hpath
    obtain ⟨r, hr, rfl⟩ := List.mem_map.mp hpath
    exact hplace r hr

/-- The files of a run on distinct canonical paths are handled independently, and a run that fails
its checks does nothing. -/
theorem run_independent (s : Session) (o : FixOptions) (hne : o.files ≠ [])
    (hplain : ∀ p ∈ o.files, PathPattern.isPattern p = false)
    (hcanonical : ∀ p ∈ o.files, canonical s p = p)
    (hdistinct : o.files.Pairwise fun p q => Path.key p ≠ Path.key q) :
    (∀ fault, checks s o = .error fault → ∀ workers, run workers s o = .error fault ∧
      respond workers s (.fix o) = ⟨fault.exitCode, faultText fault, s.disk⟩) ∧
    ∀ settings convention, checks s o = .ok (settings, convention) →
      ∃ results summary status disk,
        (∀ workers, run workers s o =
          .ok (⟨convention, !o.write, results, summary⟩, status, disk)) ∧
        Handled s o settings convention results disk ∧
        Totals o.check results summary status := by
  constructor
  · intro fault hchecks workers
    have hrun : run workers s o = .error fault := by
      rw [run_jobs workers s o _ (filesOf_canonical s o.files hne hplain hcanonical), hchecks]
      rfl
    simp only [respond, hrun, and_self]
  · intro settings convention hchecks
    exact ⟨_, _, _, _, run_batch s o hne hplain hcanonical settings convention hchecks,
      batch_handled s o hplain hcanonical hdistinct settings convention hchecks, totals o.check _⟩

/-- A path that leads nowhere fails the run, and the file beside it is written all the same. -/
theorem run_independent_of_lost :
    let s : Session := ⟨[], [], ⟨[(["b.c"], .file "int fooBar;\n".toUTF8)]⟩⟩
    let o : FixOptions := ⟨["/lost.c", "/b.c"], some "snake", none, [], none, none, true, false⟩
    ∃ results summary disk,
      (∀ workers, run workers s o = .ok (⟨.snake, false, results, summary⟩, 1, disk)) ∧
        Handled s o ⟨some "snake", none, [], none, []⟩ .snake results disk ∧
        disk.bytes? s.directory "/b.c" = some "int foo_bar;\n".toUTF8 := by
  intro s o
  obtain ⟨hb, hlost⟩ : s.disk.resolve s.directory "/b.c" = .ok ["b.c"] ∧
      s.disk.resolve s.directory "/lost.c" = .error .notFound := by
    simp [s, Disk.resolve, Disk.walk, Disk.node?, Path.split, Path.stretches, Path.isAbsolute,
      List.lookup_cons]
  have hcanonical : ∀ p ∈ o.files, canonical s p = p := by
    simp [o, canonical, hb, hlost, Location.toPath]
  obtain ⟨results, summary, status, disk, hrun, hhandled, htotals⟩ :=
    (run_independent s o (by decide) (by decide) hcanonical (by decide +kernel)).2
      ⟨some "snake", none, [], none, []⟩ .snake rfl
  obtain ⟨e, hlostEngine, hengine, hcontent⟩ :
      ∃ e, engineOf ⟨some "snake", none, [], none, []⟩ "/lost.c" = .ok e ∧
        engineOf ⟨some "snake", none, [], none, []⟩ "/b.c" = .ok e ∧
        (e.runText "int fooBar;\n".toList).content = "int foo_bar;\n".toList := by
    refine ⟨⟨.snake, "c", .ofChars Language.c.delimiters.toList,
      .ofNames Language.c.keywords.toList [], .file⟩, rfl, rfl, ?_⟩
    rw [Outcome.content, Engine.runText, Engine.run_lines, Engine.passOver_firsts]
    decide +kernel
  refine ⟨results, summary, disk, ?_, hhandled, ?_⟩
  · obtain ⟨r, hr, hfile⟩ : ∃ r ∈ results, r.file = "/lost.c" :=
      List.mem_map.mp (hhandled.once.mem_iff.mpr (by decide))
    have hread : s.read r.file = .error .notFound := by
      simp only [Session.read, Disk.read, hfile, hlost, bind, Except.bind]
    have hfailed := (hhandled.settled r hr).unread e .notFound (by rw [hfile, hlostEngine]) hread
    have herror : r.error ≠ none := by
      rw [hfailed]
      exact Option.some_ne_none _
    have hstatus : status = 1 := htotals.fails_iff.mpr (Or.inl ⟨r, hr, herror⟩)
    exact hstatus ▸ hrun
  · obtain ⟨r, hr, hfile⟩ : ∃ r ∈ results, r.file = "/b.c" :=
      List.mem_map.mp (hhandled.once.mem_iff.mpr (by decide))
    have hread : s.read r.file = .ok "int fooBar;\n" := by
      rw [hfile, read_leads s "/b.c" ["b.c"] hb, Disk.readAt_eq_ok]
      rfl
    obtain ⟨hnone, -, hreports, -, hbytes⟩ := (hhandled.settled r hr).outcome e _
      (by rw [hfile, hengine]) hread
    have hchanges : r.reports ≠ [] := by
      rw [hreports, ne_eq, ← Engine.runText_unchanged_iff, hcontent]
      decide +kernel
    have hwritten := hbytes ((hhandled.settled r hr).applied_iff.mpr ⟨rfl, hnone, hchanges⟩)
    rw [hcontent, String.ofList_toList] at hwritten
    rw [← hfile, hwritten]

end IdentCase.Command.Fix
