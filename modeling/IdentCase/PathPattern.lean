import IdentCase.Disk

/-!
# Path patterns

A path pattern stands for the files it matches. Inside a component `*` stands for any characters,
`?` for one, `[a-z]` and `[!a-z]` for one of a class; `**` as a whole component stands for any
number of directories. Names that start with a dot are matched like others. The first character of a
class never closes it. A pattern that ends with a slash stands for directories, so for no file.
-/

set_option autoImplicit false

namespace IdentCase

namespace PathPattern

def isPattern (text : String) : Bool := text.toList.any fun c => c == '*' || c == '?' || c == '['

structure Range where
  low : Char
  high : Char
deriving DecidableEq, Repr

inductive Symbol where
  | char (c : Char)
  | anyChar
  | anyChars
  | anyDirectories
  | oneOf (ranges : List Range)
  | noneOf (ranges : List Range)
deriving DecidableEq, Repr

inductive Problem where
  | wildcards
  | recursion
  | range
deriving DecidableEq, Repr

structure Malformed where
  position : Nat
  problem : Problem
deriving DecidableEq, Repr

def Problem.message : Problem → String
  | wildcards => "wildcards are either regular `*` or recursive `**`"
  | recursion => "recursive wildcards must form a single path component"
  | range => "invalid range pattern"

def Malformed.message (m : Malformed) : String :=
  "Pattern syntax error near position " ++ toString m.position ++ ": " ++ m.problem.message

def rangesOf : Text → List Range
  | a :: '-' :: b :: rest => ⟨a, b⟩ :: rangesOf rest
  | a :: rest => ⟨a, a⟩ :: rangesOf rest
  | [] => []

def classLength? (text : Text) : Option Nat :=
  match text with
  | [] => none
  | _ :: rest => (rest.findIdx? (· == ']')).map (· + 1)

def readClass? (text : Text) : Option (Symbol × Nat) :=
  match text with
  | '!' :: rest => (classLength? rest).map fun n => (.noneOf (rangesOf (rest.take n)), n + 2)
  | _ => (classLength? text).map fun n => (.oneOf (rangesOf (text.take n)), n + 1)

def readFrom (previous : Option Char) (i : Nat) (text : Text) : Except Malformed (List Symbol) :=
  match text with
  | [] => .ok []
  | '?' :: rest => do return .anyChar :: (← readFrom (some '?') (i + 1) rest)
  | '*' :: rest =>
    let more := (rest.takeWhile (· == '*')).length
    if 2 ≤ more then .error ⟨i + 2, .wildcards⟩
    else if more = 1 then
      if previous = none ∨ previous = some '/' then
        match rest.drop 1 with
        | [] => .ok [.anyDirectories]
        | '/' :: _ => do return .anyDirectories :: (← readFrom (some '/') (i + 3) (rest.drop 2))
        | _ => .error ⟨i + 2, .recursion⟩
      else .error ⟨i - 1, .recursion⟩
    else do return .anyChars :: (← readFrom (some '*') (i + 1) rest)
  | '[' :: rest =>
    match readClass? rest with
    | none => .error ⟨i, .range⟩
    | some (symbol, taken) => do
      return symbol :: (← readFrom (some ']') (i + 1 + taken) (rest.drop taken))
  | c :: rest => do return .char c :: (← readFrom (some c) (i + 1) rest)
termination_by text.length
decreasing_by all_goals simp_wf; try omega

def read (text : Text) : Except Malformed (List Symbol) := readFrom none 0 text

def components (pattern : String) : Except Malformed (List (List Symbol)) := do
  let _ ← read pattern.toList
  let stretches := Path.stretches pattern.toList
  let stretches := if Path.isAbsolute pattern then stretches.drop 1 else stretches
  let stretches := if stretches.getLast? = some [] then stretches.dropLast else stretches
  stretches.mapM read

def inRanges (ranges : List Range) (c : Char) : Bool := ranges.any fun r => r.low ≤ c && c ≤ r.high

def Symbol.accepts : Symbol → Char → Bool
  | char a, c => a == c
  | anyChar, _ => true
  | oneOf ranges, c => inRanges ranges c
  | noneOf ranges, c => !inRanges ranges c
  | anyChars, _ => true
  | anyDirectories, _ => true

def Symbol.char? : Symbol → Option Char
  | char c => some c
  | _ => none

def accepts (symbols : List Symbol) (name : Text) : Bool :=
  match symbols, name with
  | [], [] => true
  | [], _ :: _ => false
  | .anyChars :: rest, [] => accepts rest []
  | .anyChars :: rest, c :: more => accepts rest (c :: more) || accepts (.anyChars :: rest) more
  | _ :: _, [] => false
  | symbol :: rest, c :: more => symbol.accepts c && accepts rest more
termination_by symbols.length + name.length

def literal? (symbols : List Symbol) : Option String :=
  (symbols.mapM Symbol.char?).map String.ofList

def directoriesIn (disk : Disk) (place : Location) : List Location :=
  (disk.children place).filterMap fun name =>
    match disk.resolve place name with
    | .ok inner => if disk.isDirectory inner then some inner else none
    | .error _ => none

def freshDirectories (disk : Disk) (seen : List Location) : List Location :=
  ((seen.flatMap (directoriesIn disk)).filter fun place => !seen.contains place).eraseDups

def unseen (disk : Disk) (seen : List Location) : Nat :=
  (disk.directories.filter fun place => !seen.contains place).length

theorem mem_directoriesIn {disk : Disk} {place inner : Location}
    (h : inner ∈ directoriesIn disk place) : disk.isDirectory inner = true := by
  obtain ⟨name, -, hname⟩ := List.mem_filterMap.mp h
  split at hname
  · split at hname
    · cases hname; assumption
    · cases hname
  · cases hname

/-- A fresh directory is one of the disk, so there are fewer left to see. -/
theorem unseen_decreases {disk : Disk} {seen : List Location}
    (h : (freshDirectories disk seen).isEmpty = false) :
    unseen disk (seen ++ freshDirectories disk seen) < unseen disk seen := by
  obtain ⟨place, hplace⟩ := List.isEmpty_eq_false_iff_exists_mem.mp h
  obtain ⟨hfound, hunseen⟩ := List.mem_filter.mp (List.mem_eraseDups.mp hplace)
  obtain ⟨outer, -, hinner⟩ := List.mem_flatMap.mp hfound
  have hdirectory := disk.mem_directories (mem_directoriesIn hinner)
  have hfilter : disk.directories.filter
        (fun other => !(seen ++ freshDirectories disk seen).contains other) =
      (disk.directories.filter fun other => !seen.contains other).filter
        fun other => !(freshDirectories disk seen).contains other := by
    rw [List.filter_filter]
    apply List.filter_congr
    intro other _
    rw [List.contains_append, Bool.not_or, Bool.and_comm]
  rw [unseen, unseen, hfilter, List.length_filter_lt_length_iff_exists]
  exact ⟨place, List.mem_filter.mpr ⟨hdirectory, hunseen⟩, by simpa using hplace⟩

def reachable (disk : Disk) (seen : List Location) : List Location :=
  if (freshDirectories disk seen).isEmpty then seen
  else reachable disk (seen ++ freshDirectories disk seen)
termination_by unseen disk seen
decreasing_by
  rename_i hfresh
  exact unseen_decreases (Bool.not_eq_true _ ▸ hfresh)

/-- The names in a directory that a component stands for. `.` and `..` are matched only by a
component that starts with a dot, and by none right behind `**`. -/
def namesIn (disk : Disk) (behindRecursion : Bool) (component : List Symbol)
    (directory : Location) : List String :=
  let matching (names : List String) := names.filter fun name => accepts component name.toList
  if behindRecursion then matching (disk.children directory)
  else
    match literal? component with
    | some name => [name]
    | none =>
      matching (disk.children directory ++
        if component.head? = some (.char '.') then [".", ".."] else [])

def behindDots? : List (List Symbol) → Option (List (List Symbol))
  | [] => some []
  | [] :: _ => none
  | component :: rest =>
    if component = [.char '.'] then behindDots? rest else some (component :: rest)

def expandFrom (disk : Disk) (behindRecursion : Bool) (places : List Location) :
    List (List Symbol) → List Location
  | [] => places
  | component :: rest =>
    let directories := places.filter disk.isDirectory
    if component = [.anyDirectories] then
      expandFrom disk true (reachable disk directories) rest
    else
      let next := directories.flatMap fun directory =>
        (namesIn disk behindRecursion component directory).filterMap fun name =>
          (disk.walk Disk.maxLinks directory [name]).toOption
      expandFrom disk false next rest

def files (disk : Disk) (directory : Location) (pattern : String) :
    Except Malformed (List Location) := do
  let parts ← components pattern
  if pattern.toList.getLast? = some '/' then return []
  if Path.isAbsolute pattern then return (expandFrom disk false [[]] parts).filter disk.isFile
  match behindDots? parts with
  | none => return []
  | some parts => return (expandFrom disk false [directory] parts).filter disk.isFile

end PathPattern

end IdentCase
