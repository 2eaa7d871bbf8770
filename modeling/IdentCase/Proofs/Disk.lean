import Mathlib.Data.List.Basic
import IdentCase.Disk

/-!
# Disks under writes

Writing to a file changes its bytes and nothing else. Where paths lead does not depend on the bytes
of files, so every path leads after a write to where it led before.
-/

set_option autoImplicit false

namespace IdentCase.Disk

def bytesAt? (disk : Disk) (location : Location) : Option ByteArray :=
  match disk.node? location with
  | some (.file bytes) => some bytes
  | _ => none

def bytes? (disk : Disk) (directory : Location) (path : String) : Option ByteArray :=
  match disk.resolve directory path with
  | .ok location => disk.bytesAt? location
  | .error _ => none

theorem bytesAt?_eq_some (disk : Disk) (location : Location) (bytes : ByteArray) :
    disk.bytesAt? location = some bytes ↔ disk.node? location = some (.file bytes) := by
  unfold bytesAt?
  constructor
  · intro h
    split at h
    · rename_i hnode
      rw [hnode, Option.some.inj h]
    · cases h
  · intro h
    rw [h]

theorem readAt_eq_ok (disk : Disk) (location : Location) (text : String) :
    disk.readAt location = .ok text ↔ disk.bytesAt? location = some text.toUTF8 := by
  rw [bytesAt?_eq_some]
  unfold readAt
  constructor
  · intro h
    split at h
    · rename_i bytes hnode
      rw [String.fromUTF8?] at h
      by_cases hvalid : bytes.IsValidUTF8
      · rw [dif_pos hvalid] at h
        cases h
        exact hnode
      · rw [dif_neg hvalid] at h
        cases h
    · cases h
    · cases h
  · intro h
    have hvalid : text.toUTF8.IsValidUTF8 := text.isValidUTF8
    simp only [h, String.fromUTF8?, dif_pos hvalid]
    rfl

/-! ## Disks that differ in bytes only -/

def SameTree (a b : Disk) : Prop :=
  ∀ location, a.node? location = b.node? location ∨
    ∃ x y, a.bytesAt? location = some x ∧ b.bytesAt? location = some y

theorem sameTree_refl (disk : Disk) : SameTree disk disk := fun _ => Or.inl rfl

theorem sameTree_file (a b : Disk) (h : SameTree a b) (location : Location) (bytes : ByteArray)
    (hbytes : a.bytesAt? location = some bytes) : ∃ other, b.bytesAt? location = some other := by
  rcases h location with hsame | ⟨-, y, -, hy⟩
  · rw [bytesAt?_eq_some, hsame] at hbytes
    exact ⟨bytes, (bytesAt?_eq_some b location bytes).mpr hbytes⟩
  · exact ⟨y, hy⟩

theorem sameTree_symm (a b : Disk) (h : SameTree a b) : SameTree b a := by
  intro location
  rcases h location with hsame | ⟨x, y, hx, hy⟩
  · exact Or.inl hsame.symm
  · exact Or.inr ⟨y, x, hy, hx⟩

theorem sameTree_trans (a b c : Disk) (hab : SameTree a b) (hbc : SameTree b c) :
    SameTree a c := by
  intro location
  rcases hab location with hsame | ⟨x, y, hx, hy⟩
  · rcases hbc location with hsame' | ⟨x, y, hx, hy⟩
    · exact Or.inl (hsame.trans hsame')
    · rw [bytesAt?_eq_some, ← hsame, ← bytesAt?_eq_some] at hx
      exact Or.inr ⟨x, y, hx, hy⟩
  · obtain ⟨z, hz⟩ := sameTree_file b c hbc location y hy
    exact Or.inr ⟨x, z, hx, hz⟩

theorem sameTree_node (a b : Disk) (h : SameTree a b) (location : Location) (node : Option Node)
    (hnode : a.node? location = node) (hfile : ∀ bytes, node ≠ some (.file bytes)) :
    b.node? location = node := by
  rcases h location with hsame | ⟨x, -, hx, -⟩
  · exact hsame.symm.trans hnode
  · rw [bytesAt?_eq_some, hnode] at hx
    exact absurd hx (hfile x)

/-- Where names lead depends on directories and links alone. -/
theorem walk_sameTree (a b : Disk) (h : SameTree a b) (links : Nat) (directory : Location)
    (names : List String) : a.walk links directory names = b.walk links directory names := by
  fun_induction walk a links directory names with
  | case1 links directory => rw [walk]
  | case2 links directory name rest hname ih => rw [ih, walk, if_pos hname]
  | case3 links directory rest hname ih => rw [ih, walk, if_neg hname, if_pos rfl]
  | case4 links directory name rest hname hparent place hnode =>
    have hother := sameTree_node a b h place _ hnode (by simp)
    rw [walk, if_neg hname, if_neg hparent]
    simp only [place, hother]
  | case5 links directory name rest hname hparent place hnode ih =>
    have hother := sameTree_node a b h place _ hnode (by simp)
    rw [ih, walk, if_neg hname, if_neg hparent]
    simp only [place, hother]
  | case6 links directory name rest hname hparent place bytes hnode hlast =>
    obtain ⟨other, hother⟩ := sameTree_file a b h place bytes
      ((bytesAt?_eq_some a place bytes).mpr hnode)
    rw [bytesAt?_eq_some] at hother
    rw [walk, if_neg hname, if_neg hparent]
    simp only [place, hother, if_pos hlast]
  | case7 links directory name rest hname hparent place bytes hnode hlast =>
    obtain ⟨other, hother⟩ := sameTree_file a b h place bytes
      ((bytesAt?_eq_some a place bytes).mpr hnode)
    rw [bytesAt?_eq_some] at hother
    rw [walk, if_neg hname, if_neg hparent]
    simp only [place, hother, if_neg hlast]
  | case8 directory name rest hname hparent place target hnode =>
    have hother := sameTree_node a b h place _ hnode (by simp)
    rw [walk, if_neg hname, if_neg hparent]
    simp only [place, hother]
  | case9 directory name rest hname hparent place target hnode links ih =>
    have hother := sameTree_node a b h place _ hnode (by simp)
    rw [walk, if_neg hname, if_neg hparent]
    simp only [place, hother]
    exact ih

theorem resolve_sameTree (a b : Disk) (h : SameTree a b) (directory : Location) (path : String) :
    b.resolve directory path = a.resolve directory path := by
  simp only [resolve, walk_sameTree a b h]

theorem readAt_congr (a b : Disk) (location : Location)
    (h : b.node? location = a.node? location) : b.readAt location = a.readAt location := by
  simp only [readAt, h]

theorem bytes?_congr (a b : Disk) (h : SameTree a b) (directory : Location) (path : String)
    (hnode : ∀ location, a.resolve directory path = .ok location →
      b.node? location = a.node? location) :
    b.bytes? directory path = a.bytes? directory path := by
  unfold bytes?
  rw [resolve_sameTree a b h]
  cases hresolve : a.resolve directory path with
  | error problem => rfl
  | ok location => simp only [bytesAt?, hnode location hresolve]

/-! ## Writes -/

theorem lookup_write (entries : List (Location × Node)) (location place : Location) (node : Node) :
    (entries.map fun (at_, old) =>
      if at_ = location then (at_, node) else (at_, old)).lookup place =
      (entries.lookup place).map fun old => if place = location then node else old := by
  induction entries with
  | nil => rfl
  | cons entry entries ih =>
    obtain ⟨key, old⟩ := entry
    by_cases hplace : place = key
    · subst hplace
      by_cases hlocation : place = location
      · simp [hlocation]
      · simp [hlocation]
    · have hmiss : (place == key) = false := by simpa using hplace
      by_cases hlocation : key = location
      · subst hlocation
        simp [List.lookup_cons, hmiss, ih]
      · simp [List.lookup_cons, hlocation, hmiss, ih]

theorem node?_write (disk : Disk) (location place : Location) (bytes : ByteArray)
    (h : ∃ old, disk.bytesAt? location = some old) :
    (disk.write location bytes).node? place =
      if place = location then some (.file bytes) else disk.node? place := by
  obtain ⟨old, hold⟩ := h
  rw [bytesAt?_eq_some] at hold
  unfold node? write at *
  by_cases hroot : place.isEmpty = true
  · have hne : place ≠ location := by
      rintro rfl
      simp [hroot] at hold
    simp [hroot, hne]
  · by_cases hplace : place = location
    · subst hplace
      rw [if_neg hroot] at hold
      simp [hroot, lookup_write, hold]
    · simp [hroot, lookup_write, hplace]

theorem write_sameTree (disk : Disk) (location : Location) (bytes : ByteArray)
    (h : ∃ old, disk.bytesAt? location = some old) :
    SameTree disk (disk.write location bytes) := by
  intro place
  by_cases hplace : place = location
  · subst hplace
    obtain ⟨old, hold⟩ := h
    refine Or.inr ⟨old, bytes, hold, ?_⟩
    rw [bytesAt?_eq_some, node?_write disk place place bytes ⟨old, hold⟩, if_pos rfl]
  · rw [node?_write disk location place bytes h, if_neg hplace]
    exact Or.inl rfl

end IdentCase.Disk
