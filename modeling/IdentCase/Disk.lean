import IdentCase.Path

/-!
# Disks

The files that a command can see: a tree of directories, files and symbolic links as the list of its
entries, each under the names that lead to it from the root. The root has no entry and is always a
directory. A path may go through no more than forty symbolic links.
-/

set_option autoImplicit false

namespace IdentCase

abbrev Location := List String

namespace Location

def toPath (location : Location) : String := "/" ++ "/".intercalate location

end Location

inductive Node where
  | file (bytes : ByteArray)
  | directory
  | link (target : String)

inductive FileError where
  | notFound
  | notDirectory
  | isDirectory
  | tooManyLinks
  | notText
deriving DecidableEq, Repr

def FileError.message : FileError → String
  | notFound => "No such file or directory (os error 2)"
  | notDirectory => "Not a directory (os error 20)"
  | isDirectory => "Is a directory (os error 21)"
  | tooManyLinks => "Too many levels of symbolic links (os error 40)"
  | notText => "stream did not contain valid UTF-8"

structure Disk where
  entries : List (Location × Node)

namespace Disk

def empty : Disk := ⟨[]⟩

def node? (disk : Disk) (location : Location) : Option Node :=
  if location.isEmpty then some .directory else disk.entries.lookup location

def makeDirectory (disk : Disk) (location : Location) : Disk :=
  if (disk.node? location).isSome then disk else ⟨disk.entries ++ [(location, .directory)]⟩

def makeParents (disk : Disk) (location : Location) : Disk :=
  ((List.range location.length).map location.take).foldl makeDirectory disk

def create (disk : Disk) (location : Location) (node : Node) : Disk :=
  let disk := disk.makeParents location
  if (disk.node? location).isSome then disk else ⟨disk.entries ++ [(location, node)]⟩

def write (disk : Disk) (location : Location) (bytes : ByteArray) : Disk :=
  ⟨disk.entries.map fun (place, node) =>
    if place = location then (place, .file bytes) else (place, node)⟩

def children (disk : Disk) (directory : Location) : List String :=
  disk.entries.filterMap fun (place, _) =>
    match place.getLast? with
    | some name => if place.dropLast = directory then some name else none
    | none => none

def maxLinks : Nat := 40

def walk (disk : Disk) (links : Nat) (directory : Location) (names : List String) :
    Except FileError Location :=
  match names with
  | [] => .ok directory
  | name :: rest =>
    if name = "" ∨ name = "." then walk disk links directory rest
    else if name = ".." then walk disk links directory.dropLast rest
    else
      let place := directory ++ [name]
      match disk.node? place with
      | none => .error .notFound
      | some .directory => walk disk links place rest
      | some (.file _) => if rest.isEmpty then .ok place else .error .notDirectory
      | some (.link target) =>
        match links with
        | 0 => .error .tooManyLinks
        | links + 1 =>
          walk disk links (if Path.isAbsolute target then [] else directory)
            (Path.split target ++ rest)
termination_by (links, names.length)

def resolve (disk : Disk) (directory : Location) (path : String) : Except FileError Location :=
  if path = "" then .error .notFound
  else disk.walk maxLinks (if Path.isAbsolute path then [] else directory) (Path.split path)

def isDirectory (disk : Disk) (location : Location) : Bool :=
  match disk.node? location with
  | some .directory => true
  | _ => false

def directories (disk : Disk) : List Location :=
  ([] :: disk.entries.map Prod.fst).filter disk.isDirectory

theorem mem_directories (disk : Disk) {place : Location} (h : disk.isDirectory place = true) :
    place ∈ disk.directories := by
  refine List.mem_filter.mpr ⟨?_, h⟩
  cases place with
  | nil => exact List.mem_cons_self
  | cons name rest =>
    apply List.mem_cons_of_mem
    unfold isDirectory at h
    split at h
    · rename_i hnode
      obtain ⟨before, behind, hentries, -⟩ := List.lookup_eq_some_iff.mp hnode
      rw [hentries]
      simp
    · cases h

def isFile (disk : Disk) (location : Location) : Bool :=
  match disk.node? location with
  | some (.file _) => true
  | _ => false

def readAt (disk : Disk) (location : Location) : Except FileError String :=
  match disk.node? location with
  | some (.file bytes) =>
    match String.fromUTF8? bytes with
    | some text => .ok text
    | none => .error .notText
  | some .directory => .error .isDirectory
  | _ => .error .notFound

def read (disk : Disk) (directory : Location) (path : String) : Except FileError String := do
  disk.readAt (← disk.resolve directory path)

end Disk

end IdentCase
