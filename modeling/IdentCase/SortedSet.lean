/-!
# Sorted sets

A finite set as the ascending list of its members, so that equal sets are equal values and members
are listed in order.
-/

set_option autoImplicit false

namespace IdentCase

class Ranked (α : Type) where
  before : α → α → Bool
  before_trans : ∀ {a b c : α}, before a b = true → before b c = true → before a c = true
  eq_of_not_before : ∀ {a b : α}, ¬before a b = true → ¬before b a = true → a = b

instance : Ranked Char where
  before a b := decide (a.toNat < b.toNat)
  before_trans h k := by
    have h := of_decide_eq_true h
    have k := of_decide_eq_true k
    exact decide_eq_true (Nat.lt_trans h k)
  eq_of_not_before h k := by
    have h := Nat.le_of_not_lt fun lt => h (decide_eq_true lt)
    have k := Nat.le_of_not_lt fun lt => k (decide_eq_true lt)
    exact Char.toNat_inj.mp (Nat.le_antisymm k h)

instance : Ranked String where
  before a b := decide (a < b)
  before_trans h k := by
    have h := of_decide_eq_true h
    have k := of_decide_eq_true k
    exact decide_eq_true (String.lt_trans h k)
  eq_of_not_before h k :=
    String.le_antisymm (fun lt => k (decide_eq_true lt)) (fun lt => h (decide_eq_true lt))

structure SortedSet (α : Type) [Ranked α] where
  toList : List α
  ascending : toList.Pairwise (fun a b => Ranked.before a b = true)
deriving Repr

namespace SortedSet

variable {α : Type} [Ranked α]

theorem eq_of_toList_eq {s t : SortedSet α} (h : s.toList = t.toList) : s = t := by
  cases s
  cases t
  cases h
  rfl

instance [DecidableEq α] : DecidableEq (SortedSet α) := fun s t =>
  if h : s.toList = t.toList then isTrue (eq_of_toList_eq h) else isFalse fun e => h (e ▸ rfl)

def empty : SortedSet α := ⟨[], .nil⟩

def insertList (x : α) : List α → List α
  | [] => [x]
  | y :: rest =>
    if Ranked.before x y then x :: y :: rest
    else if Ranked.before y x then y :: insertList x rest
    else y :: rest

theorem mem_insertList {x z : α} {members : List α} :
    z ∈ insertList x members ↔ z = x ∨ z ∈ members := by
  induction members with
  | nil => simp [insertList]
  | cons y rest ih =>
    simp only [insertList]
    split
    · simp
    · split
      · simp only [List.mem_cons, ih, or_left_comm]
      · rename_i hxy hyx
        simp [Ranked.eq_of_not_before hxy hyx]

theorem ascending_insertList (x : α) {members : List α}
    (h : members.Pairwise (fun a b => Ranked.before a b = true)) :
    (insertList x members).Pairwise (fun a b => Ranked.before a b = true) := by
  induction members with
  | nil => simp [insertList]
  | cons y rest ih =>
    obtain ⟨head, tail⟩ := List.pairwise_cons.mp h
    simp only [insertList]
    split
    · rename_i hxy
      refine List.pairwise_cons.mpr ⟨fun z hz => ?_, h⟩
      rcases List.mem_cons.mp hz with rfl | hz
      · exact hxy
      · exact Ranked.before_trans hxy (head z hz)
    · split
      · rename_i hyx
        refine List.pairwise_cons.mpr ⟨fun z hz => ?_, ih tail⟩
        rcases mem_insertList.mp hz with rfl | hz
        · exact hyx
        · exact head z hz
      · exact h

def insert (s : SortedSet α) (x : α) : SortedSet α :=
  ⟨insertList x s.toList, ascending_insertList x s.ascending⟩

theorem mem_toList_insert {s : SortedSet α} {x z : α} :
    z ∈ (s.insert x).toList ↔ z = x ∨ z ∈ s.toList := mem_insertList

def ofList (members : List α) : SortedSet α := members.foldl insert empty

theorem mem_toList_foldl_insert {s : SortedSet α} {z : α} {members : List α} :
    z ∈ (members.foldl insert s).toList ↔ z ∈ s.toList ∨ z ∈ members := by
  induction members generalizing s with
  | nil => simp
  | cons x rest ih =>
    simp only [List.foldl_cons, ih, mem_toList_insert, List.mem_cons, or_assoc, or_left_comm]

/-- The set has exactly the listed members. -/
theorem mem_toList_ofList {z : α} {members : List α} :
    z ∈ (ofList members).toList ↔ z ∈ members := by
  simp [ofList, mem_toList_foldl_insert, empty]

def size (s : SortedSet α) : Nat := s.toList.length

end SortedSet

end IdentCase
