import IdentCase.Disk
import IdentCase.Proofs.PathOrder

/-!
# The paths of locations

The path of a location has the names of the location as its parts, and no other location has that
path. This takes names as directories have them, and following a path from a place with such names
leads to a place with such names.
-/

set_option autoImplicit false

namespace IdentCase

namespace Path

theorem stretches_free (text : Text) (h : '/' ∉ text) : stretches text = [text] := by
  induction text with
  | nil => rfl
  | cons c text ih =>
    obtain ⟨hc, htext⟩ := not_or.mp (mt List.mem_cons.mpr h)
    simp [stretches, Ne.symm hc, ih htext]

theorem stretches_slash (text rest : Text) (h : '/' ∉ text) :
    stretches (text ++ '/' :: rest) = text :: stretches rest := by
  induction text with
  | nil => simp [stretches]
  | cons c text ih =>
    obtain ⟨hc, htext⟩ := not_or.mp (mt List.mem_cons.mpr h)
    simp [stretches, Ne.symm hc, ih htext]

theorem stretches_intercalate (names : List Text) (hne : names ≠ [])
    (h : ∀ name ∈ names, '/' ∉ name) : stretches (List.intercalate ['/'] names) = names := by
  induction names with
  | nil => exact absurd rfl hne
  | cons name names ih =>
    have hname : '/' ∉ name := h name (by simp)
    cases names with
    | nil => simpa using stretches_free name hname
    | cons next names =>
      have hrest := ih (by simp) fun other hother => h other (by simp [hother])
      rw [List.intercalate_cons_cons, List.append_assoc, List.singleton_append,
        stretches_slash name _ hname, hrest]

theorem stretches_no_slash (text : Text) : ∀ stretch ∈ stretches text, '/' ∉ stretch := by
  induction text with
  | nil => simp [stretches]
  | cons c text ih =>
    by_cases hc : c = '/'
    · simpa [stretches, hc] using ih
    · cases hrest : stretches text with
      | nil => simpa [stretches, hc, hrest] using Ne.symm hc
      | cons first others =>
        rw [hrest] at ih
        simpa [stretches, hc, hrest, Ne.symm hc] using ih

theorem split_no_slash (path : String) : ∀ name ∈ split path, '/' ∉ name.toList := by
  intro name hname
  obtain ⟨stretch, hstretch, rfl⟩ := List.mem_map.mp hname
  rw [String.toList_ofList]
  exact stretches_no_slash path.toList stretch hstretch

end Path

namespace Location

structure ProperName (name : String) : Prop where
  filled : name ≠ ""
  notHere : name ≠ "."
  notParent : name ≠ ".."
  noSlash : '/' ∉ name.toList

def Proper (location : Location) : Prop := ∀ name ∈ location, ProperName name

theorem toPath_toList (location : Location) :
    location.toPath.toList = '/' :: List.intercalate ['/'] (location.map String.toList) := by
  rw [toPath, String.toList_append, String.toList_intercalate]
  rfl

theorem parts_toPath (location : Location) (h : location.Proper) :
    Path.parts location.toPath = .root :: location.map .name := by
  have habsolute : Path.isAbsolute location.toPath = true := by
    simp [Path.isAbsolute, toPath_toList]
  have hsplit : Path.split location.toPath =
      "" :: (Path.stretches (List.intercalate ['/'] (location.map String.toList))).map
        String.ofList := by
    rw [Path.split, toPath_toList]
    rfl
  have hnames : (Path.split location.toPath).filterMap Path.partOf? = location.map .name := by
    rw [hsplit]
    by_cases hroot : location = []
    · subst hroot
      rfl
    · have hslash : ∀ name ∈ location.map String.toList, '/' ∉ name := by
        intro name hname
        obtain ⟨origin, horigin, rfl⟩ := List.mem_map.mp hname
        exact (h origin horigin).noSlash
      rw [Path.stretches_intercalate _ (by simpa using hroot) hslash, List.map_map,
        List.filterMap_cons_none (by rfl)]
      have hback : location.map (String.ofList ∘ String.toList) = location := by simp
      rw [hback, ← List.filterMap_eq_map]
      apply List.filterMap_congr
      intro name hname
      have hproper := h name hname
      simp [Path.partOf?, hproper.filled, hproper.notHere, hproper.notParent]
  simp only [Path.parts, habsolute, if_true, hnames, List.singleton_append]

/-- Two locations with one path are one location. -/
theorem eq_of_key_eq (a b : Location) (ha : a.Proper) (hb : b.Proper)
    (h : Path.key a.toPath = Path.key b.toPath) : a = b := by
  have hinjective : Function.Injective fun name : String => (Path.Part.name name).key := by
    intro x y hxy
    have hcodes : x.toList.map Char.toNat = y.toList.map Char.toNat := (List.cons.inj hxy).2
    exact String.toList_inj.mp
      (List.map_injective_iff.mpr (fun _ _ => Char.toNat_inj.mp) hcodes)
  simp only [Path.key, parts_toPath a ha, parts_toPath b hb, List.map_cons, List.map_map,
    List.cons.injEq, true_and] at h
  exact List.map_injective_iff.mpr hinjective h

end Location

namespace Disk
open Location

theorem proper_parent (location : Location) (h : location.Proper) :
    Proper location.dropLast := fun name hname => h name (List.dropLast_subset _ hname)

theorem proper_child (location : Location) (h : location.Proper) (name : String)
    (hname : ProperName name) : Proper (location ++ [name]) := by
  intro other hother
  rcases List.mem_append.mp hother with hother | hother
  · exact h other hother
  · rw [List.mem_singleton.mp hother]
    exact hname

/-- The names on the way are stretches of paths, so that none of them has a slash. -/
theorem walk_proper (disk : Disk) (links : Nat) (directory : Location) (names : List String)
    (hdirectory : directory.Proper) (hnames : ∀ name ∈ names, '/' ∉ name.toList)
    (location : Location) (h : disk.walk links directory names = .ok location) :
    location.Proper := by
  fun_induction walk disk links directory names with
  | case1 links directory =>
    cases h
    exact hdirectory
  | case2 links directory name rest hname ih =>
    exact ih hdirectory (fun other hother => hnames other (by simp [hother])) h
  | case3 links directory rest hname ih =>
    exact ih (proper_parent directory hdirectory)
      (fun other hother => hnames other (by simp [hother])) h
  | case4 links directory name rest hname hparent place hnode => cases h
  | case5 links directory name rest hname hparent place hnode ih =>
    obtain ⟨hfilled, hhere⟩ := not_or.mp hname
    have hproper : ProperName name := ⟨hfilled, hhere, hparent, hnames name (by simp)⟩
    exact ih (proper_child directory hdirectory name hproper)
      (fun other hother => hnames other (by simp [hother])) h
  | case6 links directory name rest hname hparent place bytes hnode hlast =>
    obtain ⟨hfilled, hhere⟩ := not_or.mp hname
    have hproper : ProperName name := ⟨hfilled, hhere, hparent, hnames name (by simp)⟩
    rw [← Except.ok.inj h]
    exact proper_child directory hdirectory name hproper
  | case7 links directory name rest hname hparent place bytes hnode hlast => cases h
  | case8 directory name rest hname hparent place target hnode => cases h
  | case9 directory name rest hname hparent place target hnode links ih =>
    refine ih ?_ ?_ h
    · split
      · simp [Proper]
      · exact hdirectory
    · intro other hother
      rcases List.mem_append.mp hother with hother | hother
      · exact Path.split_no_slash target other hother
      · exact hnames other (by simp [hother])

theorem resolve_proper (disk : Disk) (directory : Location) (hdirectory : directory.Proper)
    (path : String) (location : Location) (h : disk.resolve directory path = .ok location) :
    location.Proper := by
  unfold resolve at h
  split at h
  · cases h
  · refine walk_proper disk maxLinks _ _ ?_ (Path.split_no_slash path) location h
    split
    · simp [Proper]
    · exact hdirectory

end Disk

end IdentCase
