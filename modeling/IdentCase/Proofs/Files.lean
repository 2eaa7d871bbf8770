import Mathlib.Data.List.Sort
import IdentCase.Proofs.Jobs
import IdentCase.Proofs.Location

/-!
# Every file is one job

The arguments of a run name paths, some of them by patterns. The paths are brought to their
canonical spelling and put in order, and of equal ones a single one is kept. What is left depends on
the files alone, not on how often, in which order or in which spelling they were named.
-/

set_option autoImplicit false

namespace IdentCase

namespace Path

/-- Paths in order are told by the set of their keys. -/
theorem distinct_keys_congr (a b : List String) (h : ∀ k, k ∈ a.map key ↔ k ∈ b.map key) :
    (distinct a).map key = (distinct b).map key := by
  have hascending (paths : List String) : ((distinct paths).map key).Pairwise (· < ·) :=
    List.pairwise_map.mpr (distinct_ascending paths)
  apply (hascending a).eq_of_mem_iff (hascending b)
  intro k
  rw [distinct_keys, distinct_keys, h]

theorem distinct_same (path : String) (paths : List String) (hne : paths ≠ [])
    (h : ∀ p ∈ paths, p = path) : distinct paths = [path] := by
  have hascending := distinct_ascending paths
  have hsame : ∀ p ∈ distinct paths, p = path := fun p hp => h p (distinct_subset paths p hp)
  cases hdistinct : distinct paths with
  | nil =>
    obtain ⟨first, rest, rfl⟩ := List.exists_cons_of_ne_nil hne
    have hkey := (distinct_keys (first :: rest) (key first)).mpr (by simp)
    rw [hdistinct] at hkey
    cases hkey
  | cons first rest =>
    rw [hdistinct] at hascending hsame
    obtain rfl := hsame first (by simp)
    cases rest with
    | nil => rfl
    | cons next rest =>
      have hless := (List.pairwise_cons.mp hascending).1 next (by simp)
      rw [hsame next (by simp)] at hless
      exact absurd hless (lt_irrefl _)

end Path

namespace PathPattern

def places (disk : Disk) (directory : Location) (pattern : String) (parts : List (List Symbol)) :
    List Location :=
  let all :=
    if Path.isAbsolute pattern then expandFrom disk false [[]] parts
    else ((behindDots? parts).map (expandFrom disk false [directory])).getD []
  if pattern.toList.getLast? = some '/' then all.filter disk.isDirectory else all

theorem isFile_not_directory (disk : Disk) (location : Location)
    (h : disk.isDirectory location = true) : disk.isFile location = false := by
  unfold Disk.isDirectory at h
  unfold Disk.isFile
  split at h
  · rename_i hnode
    rw [hnode]
  · cases h

/-- A pattern stands for the regular files among its places. -/
theorem files_eq (disk : Disk) (directory : Location) (pattern : String) :
    files disk directory pattern =
      (components pattern).map fun parts =>
        (places disk directory pattern parts).filter disk.isFile := by
  unfold files places
  cases components pattern with
  | error problem => rfl
  | ok parts =>
    simp only [bind, Except.bind, pure, Except.pure, Except.map]
    by_cases hslash : pattern.toList.getLast? = some '/'
    · have hnone (all : List Location) : (all.filter disk.isDirectory).filter disk.isFile = [] := by
        rw [List.filter_filter, List.filter_eq_nil_iff]
        intro location _ hboth
        obtain ⟨hfile, hdirectory⟩ := Bool.and_eq_true_iff.mp hboth
        rw [isFile_not_directory disk location hdirectory] at hfile
        cases hfile
      rw [if_pos hslash, if_pos hslash, hnone]
    · rw [if_neg hslash, if_neg hslash]
      by_cases habsolute : Path.isAbsolute pattern = true
      · rw [if_pos habsolute, if_pos habsolute]
      · rw [if_neg habsolute, if_neg habsolute]
        cases behindDots? parts with
        | none => rfl
        | some parts => rfl

end PathPattern

namespace Command.Fix

inductive Names (s : Session) : String → String → Prop
  | plain {path : String} (plain : PathPattern.isPattern path = false) : Names s path path
  | found {pattern : String} {parts : List (List PathPattern.Symbol)} {location : Location}
      (marked : PathPattern.isPattern pattern = true)
      (parsed : PathPattern.components pattern = .ok parts)
      (place : location ∈ PathPattern.places s.disk s.directory pattern parts)
      (regular : s.disk.isFile location = true) : Names s pattern location.toPath

def Named (s : Session) (arguments : List String) (path : String) : Prop :=
  ∃ argument ∈ arguments, Names s argument path

def Valid (arguments : List String) : Prop :=
  ∀ pattern ∈ arguments, PathPattern.isPattern pattern = true →
    ∃ parts, PathPattern.components pattern = .ok parts

def LeadsInto (s : Session) (arguments others : List String) : Prop :=
  ∀ path, Named s arguments path →
    ∃ other location, Named s others other ∧ Leads s path location ∧ Leads s other location

theorem pathsOf_names (s : Session) (argument : String)
    (h : PathPattern.isPattern argument = true →
      ∃ parts, PathPattern.components argument = .ok parts) :
    ∃ paths, pathsOf s argument = .ok paths ∧ ∀ path, path ∈ paths ↔ Names s argument path := by
  by_cases hmarked : PathPattern.isPattern argument = true
  · obtain ⟨parts, hparts⟩ := h hmarked
    refine ⟨((PathPattern.places s.disk s.directory argument parts).filter s.disk.isFile).map
      Location.toPath, ?_, fun path => ?_⟩
    · simp only [pathsOf, if_pos hmarked, PathPattern.files_eq, hparts, Except.map]
    · constructor
      · intro hpath
        obtain ⟨location, hlocation, rfl⟩ := List.mem_map.mp hpath
        obtain ⟨hplace, hregular⟩ := List.mem_filter.mp hlocation
        exact .found hmarked hparts hplace hregular
      · intro hnames
        cases hnames with
        | plain hplain => simp [hmarked] at hplain
        | found _ hparsed hplace hregular =>
          rw [hparts] at hparsed
          cases hparsed
          exact List.mem_map_of_mem (List.mem_filter.mpr ⟨hplace, hregular⟩)
  · refine ⟨[argument], by simp only [pathsOf, if_neg hmarked], fun path => ?_⟩
    constructor
    · intro hpath
      rw [List.mem_singleton.mp hpath]
      exact .plain (by simpa using hmarked)
    · intro hnames
      cases hnames with
      | plain => simp
      | found hpattern => exact absurd hpattern hmarked

theorem mapM_pathsOf (s : Session) (arguments : List String) (h : Valid arguments) :
    ∃ paths, arguments.mapM (pathsOf s) = .ok paths ∧
      ∀ path, path ∈ paths.flatten ↔ Named s arguments path := by
  induction arguments with
  | nil => exact ⟨[], rfl, by simp [Named]⟩
  | cons argument rest ih =>
    obtain ⟨first, hfirst, hmem⟩ := pathsOf_names s argument (h argument (by simp))
    obtain ⟨paths, hpaths, hrest⟩ := ih fun pattern hpattern => h pattern (by simp [hpattern])
    refine ⟨first :: paths, ?_, fun path => ?_⟩
    · rw [List.mapM_cons, hfirst, hpaths]
      rfl
    · simp only [List.flatten_cons, List.mem_append, hmem, hrest, Named, List.exists_mem_cons_iff]

theorem filesOf_eq (s : Session) (arguments : List String) (hvalid : Valid arguments)
    (hsome : ∃ path, Named s arguments path) :
    ∃ paths : List String, filesOf s arguments = .ok (Path.distinct (paths.map (canonical s))) ∧
      ∀ path, path ∈ paths ↔ Named s arguments path := by
  obtain ⟨paths, hpaths, hmem⟩ := mapM_pathsOf s arguments hvalid
  refine ⟨paths.flatten, ?_, hmem⟩
  simp only [filesOf, hpaths, bind, Except.bind]
  cases hfound : paths.flatten with
  | nil =>
    obtain ⟨path, hpath⟩ := hsome
    rw [← hmem, hfound] at hpath
    cases hpath
  | cons first rest => rfl

theorem canonical_leads (s : Session) (path : String) (location : Location)
    (h : Leads s path location) : canonical s path = location.toPath := by
  unfold Leads at h
  simp only [canonical, h]

/-- Arguments that all lead to one file make one job. -/
theorem filesOf_same (s : Session) (arguments : List String) (hvalid : Valid arguments)
    (hsome : ∃ path, Named s arguments path) (location : Location)
    (h : ∀ path, Named s arguments path → Leads s path location) :
    filesOf s arguments = .ok [location.toPath] := by
  obtain ⟨paths, hfiles, hpaths⟩ := filesOf_eq s arguments hvalid hsome
  rw [hfiles, Path.distinct_same location.toPath]
  · obtain ⟨path, hpath⟩ := hsome
    exact List.ne_nil_of_mem (List.mem_map_of_mem ((hpaths path).mpr hpath))
  · intro file hfile
    obtain ⟨path, hpath, rfl⟩ := List.mem_map.mp hfile
    exact canonical_leads s path location (h path ((hpaths path).mp hpath))

theorem canonical_into (s : Session) (arguments others paths found : List String)
    (hinto : LeadsInto s arguments others) (hpaths : ∀ path, path ∈ paths ↔ Named s arguments path)
    (hfound : ∀ path, path ∈ found ↔ Named s others path) :
    ∀ file ∈ paths.map (canonical s), file ∈ found.map (canonical s) := by
  intro file hfile
  obtain ⟨path, hpath, rfl⟩ := List.mem_map.mp hfile
  obtain ⟨other, location, hother, hleads, hsame⟩ := hinto path ((hpaths path).mp hpath)
  rw [canonical_leads s path location hleads, ← canonical_leads s other location hsame]
  exact List.mem_map_of_mem ((hfound other).mpr hother)

/-- Canonical paths of files are spelled alike when they are equal as paths. -/
theorem canonical_spelling (s : Session) (hproper : s.directory.Proper)
    (arguments others paths : List String) (hinto : LeadsInto s arguments others)
    (hpaths : ∀ path, path ∈ paths ↔ Named s arguments path) :
    ∀ file ∈ paths.map (canonical s), ∃ location : Location,
      location.Proper ∧ file = location.toPath := by
  intro file hfile
  obtain ⟨path, hpath, rfl⟩ := List.mem_map.mp hfile
  obtain ⟨-, location, -, hleads, -⟩ := hinto path ((hpaths path).mp hpath)
  exact ⟨location, s.disk.resolve_proper s.directory hproper path location hleads,
    canonical_leads s path location hleads⟩

theorem eq_of_keys (a b : List String)
    (ha : ∀ file ∈ a, ∃ location : Location, location.Proper ∧ file = location.toPath)
    (hb : ∀ file ∈ b, ∃ location : Location, location.Proper ∧ file = location.toPath)
    (h : a.map Path.key = b.map Path.key) : a = b := by
  induction a generalizing b with
  | nil => simpa using h.symm
  | cons file rest ih =>
    cases b with
    | nil => cases h
    | cons other others =>
      obtain ⟨hkey, hkeys⟩ := List.cons.inj h
      obtain ⟨location, hlocation, rfl⟩ := ha file (by simp)
      obtain ⟨place, hplace, rfl⟩ := hb other (by simp)
      rw [Location.eq_of_key_eq location place hlocation hplace hkey,
        ih others (fun x hx => ha x (by simp [hx])) (fun x hx => hb x (by simp [hx])) hkeys]

/-- The files of valid arguments are in ascending order, each once: they are the canonical spellings
of the paths that the arguments name. Arguments that name the same existing files otherwise, in
another order, more often or by other spellings, give the same list. -/
theorem filesOf_each_once (s : Session) (arguments : List String) (hvalid : Valid arguments)
    (hsome : ∃ path, Named s arguments path) :
    ∃ files, filesOf s arguments = .ok files ∧
      files.Pairwise (fun p q => Path.key p < Path.key q) ∧
      (∀ file ∈ files, ∃ path, Named s arguments path ∧ file = canonical s path) ∧
      (∀ path, Named s arguments path →
        ∃ file ∈ files, Path.key file = Path.key (canonical s path)) ∧
      ∀ others, Valid others → LeadsInto s arguments others → LeadsInto s others arguments →
        ∃ same, filesOf s others = .ok same ∧ same.map Path.key = files.map Path.key ∧
          (s.directory.Proper → same = files) := by
  obtain ⟨paths, hfiles, hpaths⟩ := filesOf_eq s arguments hvalid hsome
  refine ⟨_, hfiles, Path.distinct_ascending _, fun file hfile => ?_, fun path hpath => ?_,
    fun others hothers hinto hback => ?_⟩
  · obtain ⟨path, hpath, rfl⟩ := List.mem_map.mp (Path.distinct_subset _ file hfile)
    exact ⟨path, (hpaths path).mp hpath, rfl⟩
  · have hmem := List.mem_map_of_mem (f := canonical s) ((hpaths path).mpr hpath)
    exact List.mem_map.mp ((Path.distinct_keys _ _).mpr (List.mem_map_of_mem (f := Path.key) hmem))
  · obtain ⟨path, hpath⟩ := hsome
    obtain ⟨other, -, hother, -⟩ := hinto path hpath
    obtain ⟨found, hsame, hfound⟩ := filesOf_eq s others hothers ⟨other, hother⟩
    have hkeys := Path.distinct_keys_congr (found.map (canonical s)) (paths.map (canonical s))
      fun k => ⟨fun hk => List.map_subset Path.key
          (canonical_into s others arguments found paths hback hfound hpaths) hk,
        fun hk => List.map_subset Path.key
          (canonical_into s arguments others paths found hinto hpaths hfound) hk⟩
    refine ⟨_, hsame, hkeys, fun hproper => eq_of_keys _ _ ?_ ?_ hkeys⟩
    · exact fun file hfile => canonical_spelling s hproper others arguments found hback hfound file
        (Path.distinct_subset _ file hfile)
    · exact fun file hfile => canonical_spelling s hproper arguments others paths hinto hpaths file
        (Path.distinct_subset _ file hfile)

/-- A link and a pattern name one file, and so do two spellings of its path. -/
theorem filesOf_each_once_linked :
    let s : Session := ⟨[], ["w"], ⟨[(["w"], .directory), (["w", "a.c"], .file "int x;\n".toUTF8),
      (["w", "l.c"], .link "a.c")]⟩⟩
    let arguments := ["l.c", "*.c"]
    let others := ["./a.c", "/w//a.c", "./a.c"]
    LeadsInto s arguments others ∧ LeadsInto s others arguments ∧
      filesOf s arguments = .ok ["/w/a.c"] ∧ filesOf s others = .ok ["/w/a.c"] := by
  intro s arguments others
  have hparts : PathPattern.components "*.c" = .ok [[.anyChars, .char '.', .char 'c']] := by
    simp [PathPattern.components, PathPattern.read, PathPattern.readFrom, Path.stretches,
      Path.isAbsolute, bind, Except.bind, pure, Except.pure]
  have hwalk : s.disk.walk Disk.maxLinks ["w"] ["a.c"] = .ok ["w", "a.c"] ∧
      s.disk.walk Disk.maxLinks ["w"] ["l.c"] = .ok ["w", "a.c"] := by
    simp [s, Disk.maxLinks, Disk.walk, Disk.node?, Path.split, Path.stretches, Path.isAbsolute,
      List.lookup_cons]
  have hplaces : PathPattern.places s.disk s.directory "*.c" [[.anyChars, .char '.', .char 'c']] =
      [["w", "a.c"], ["w", "a.c"]] := by
    have hchildren : s.disk.children ["w"] = ["a.c", "l.c"] := by simp [s, Disk.children]
    have hdirectory : s.disk.isDirectory ["w"] = true := rfl
    simp [PathPattern.places, PathPattern.expandFrom, PathPattern.behindDots?, PathPattern.namesIn,
      PathPattern.literal?, PathPattern.Symbol.char?, PathPattern.accepts,
      PathPattern.Symbol.accepts, Path.isAbsolute, Except.toOption, hwalk, hchildren, hdirectory,
      show s.directory = ["w"] from rfl]
  have hresolve : ∀ path ∈ ["l.c", "/w/a.c", "./a.c", "/w//a.c"], Leads s path ["w", "a.c"] := by
    simp [Leads, s, Disk.resolve, Disk.maxLinks, Disk.walk, Disk.node?, Path.split, Path.stretches,
      Path.isAbsolute, List.lookup_cons]
  have hleads (path : String) (hpath : Named s arguments path) : Leads s path ["w", "a.c"] := by
    obtain ⟨argument, hargument, hnames⟩ := hpath
    cases hnames with
    | plain hplain =>
      rcases List.mem_pair.mp hargument with rfl | rfl
      · exact hresolve "l.c" (by simp)
      · exact absurd hplain (by decide)
    | found hmarked hparsed hplace hregular =>
      rcases List.mem_pair.mp hargument with rfl | rfl
      · exact absurd hmarked (by decide)
      · rw [hparts] at hparsed
        cases hparsed
        rw [hplaces] at hplace
        obtain rfl : _ = ["w", "a.c"] := by simpa using hplace
        exact hresolve "/w/a.c" (by simp)
  have hplain : ∀ path ∈ others, PathPattern.isPattern path = false := by decide
  have hothers (path : String) (hpath : Named s others path) : Leads s path ["w", "a.c"] := by
    obtain ⟨argument, hargument, hnames⟩ := hpath
    cases hnames with
    | plain => exact hresolve path (by simp [others] at hargument ⊢; tauto)
    | found hmarked => simp [hplain _ hargument] at hmarked
  have hlink : Named s arguments "l.c" := ⟨"l.c", by simp [arguments], .plain (by decide)⟩
  have hdot : Named s others "./a.c" := ⟨"./a.c", by simp [others], .plain (by decide)⟩
  have hinto : LeadsInto s arguments others := fun path hpath =>
    ⟨"./a.c", _, hdot, hleads path hpath, hothers _ hdot⟩
  have hback : LeadsInto s others arguments := fun path hpath =>
    ⟨"l.c", _, hlink, hothers path hpath, hleads _ hlink⟩
  have hvalid : Valid arguments := by
    intro pattern hpattern hmarked
    rcases List.mem_pair.mp hpattern with rfl | rfl
    · exact absurd hmarked (by decide)
    · exact ⟨_, hparts⟩
  have hproper : s.directory.Proper := by
    intro name hname
    obtain rfl := List.mem_singleton.mp hname
    exact ⟨by decide, by decide, by decide, by decide⟩
  have hone := filesOf_same s arguments hvalid ⟨"l.c", hlink⟩ ["w", "a.c"] hleads
  obtain ⟨files, hfiles, -, -, -, hspellings⟩ :=
    filesOf_each_once s arguments hvalid ⟨"l.c", hlink⟩
  obtain ⟨same, hsame, -, hequal⟩ := hspellings others
    (fun path hpath hmarked => absurd hmarked (by simp [hplain path hpath])) hinto hback
  rw [hequal hproper, ← hfiles, hone] at hsame
  exact ⟨hinto, hback, hone, hsame⟩

end Command.Fix

end IdentCase
