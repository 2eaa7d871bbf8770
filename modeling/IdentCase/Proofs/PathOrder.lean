import Mathlib.Data.List.Lex
import IdentCase.Path

/-!
# The order of paths

Keys are compared like words in a dictionary, which is the order of lists of lists of numbers. So
sorting by it ends with the paths in ascending order, and dropping what repeats the path before it
leaves each path once.
-/

set_option autoImplicit false

namespace IdentCase.Path

theorem numbersLe_iff (a b : List Nat) : numbersLe a b = true ↔ a ≤ b := by
  rw [← not_lt]
  fun_induction numbersLe a b with
  | case1 b => simp
  | case2 a as => simp
  | case3 a as bs ih => simp [ih]
  | case4 a as b bs h =>
    simp only [decide_eq_true_eq, List.cons_lt_cons_iff, Ne.symm h, false_and, or_false]
    omega

theorem keyLe_iff (a b : List (List Nat)) : keyLe a b = true ↔ a ≤ b := by
  rw [← not_lt]
  fun_induction keyLe a b with
  | case1 b => simp
  | case2 a as => simp
  | case3 a as bs ih => simp [ih]
  | case4 a as b bs h =>
    simp only [numbersLe_iff, List.cons_lt_cons_iff, Ne.symm h, false_and, or_false, not_lt]

theorem le_iff (p q : String) : le p q = true ↔ key p ≤ key q := keyLe_iff (key p) (key q)

theorem sort_ascending (paths : List String) :
    (paths.mergeSort le).Pairwise fun p q => key p ≤ key q := by
  have htrans (a b c : String) (hab : le a b = true) (hbc : le b c = true) : le a c = true :=
    (le_iff a c).mpr (((le_iff a b).mp hab).trans ((le_iff b c).mp hbc))
  have htotal (a b : String) : (le a b || le b a) = true := by
    rw [Bool.or_eq_true, le_iff, le_iff]
    exact le_total (key a) (key b)
  exact (List.pairwise_mergeSort htrans htotal paths).imp fun {p q} h => (le_iff p q).mp h

theorem dropRepeats_subset (previous : String) (paths : List String) :
    ∀ p ∈ dropRepeats previous paths, p ∈ paths := by
  induction paths generalizing previous with
  | nil => simp [dropRepeats]
  | cons path rest ih =>
    intro p hp
    rw [dropRepeats] at hp
    split at hp
    · exact List.mem_cons_of_mem path (ih previous p hp)
    · rcases List.mem_cons.mp hp with rfl | hp
      · simp
      · exact List.mem_cons_of_mem path (ih path p hp)

theorem dropRepeats_ascending (previous : String) (paths : List String)
    (h : (previous :: paths).Pairwise fun p q => key p ≤ key q) :
    (previous :: dropRepeats previous paths).Pairwise fun p q => key p < key q := by
  induction paths generalizing previous with
  | nil => exact List.pairwise_singleton _ _
  | cons path rest ih =>
    obtain ⟨hfirst, hrest⟩ := List.pairwise_cons.mp h
    rw [dropRepeats]
    by_cases hsame : key path = key previous
    · rw [if_pos hsame]
      exact ih previous (List.pairwise_cons.mpr
        ⟨fun q hq => hfirst q (by simp [hq]), (List.pairwise_cons.mp hrest).2⟩)
    · rw [if_neg hsame]
      have hless : key previous < key path :=
        lt_of_le_of_ne (hfirst path (by simp)) (Ne.symm hsame)
      refine List.pairwise_cons.mpr ⟨fun q hq => ?_, ih path hrest⟩
      rcases List.mem_cons.mp hq with rfl | hq
      · exact hless
      · exact lt_of_lt_of_le hless
          ((List.pairwise_cons.mp hrest).1 q (dropRepeats_subset path rest q hq))

theorem distinct_ascending (paths : List String) :
    (distinct paths).Pairwise fun p q => key p < key q := by
  have hsorted := sort_ascending paths
  unfold distinct
  cases h : paths.mergeSort le with
  | nil => exact .nil
  | cons first rest =>
    rw [h] at hsorted
    exact dropRepeats_ascending first rest hsorted

theorem distinct_subset (paths : List String) : ∀ p ∈ distinct paths, p ∈ paths := by
  intro p hp
  unfold distinct at hp
  rw [← (List.mergeSort_perm paths le).mem_iff]
  cases h : paths.mergeSort le with
  | nil => rwa [h] at hp
  | cons first rest =>
    rw [h] at hp
    rcases List.mem_cons.mp hp with rfl | hp
    · simp
    · exact List.mem_cons_of_mem first (dropRepeats_subset first rest p hp)

theorem dropRepeats_keys (previous : String) (paths : List String) (k : List (List Nat)) :
    k ∈ (previous :: dropRepeats previous paths).map key ↔ k ∈ (previous :: paths).map key := by
  induction paths generalizing previous with
  | nil => rfl
  | cons path rest ih =>
    rw [dropRepeats]
    by_cases hsame : key path = key previous
    · rw [if_pos hsame, ih previous]
      simp [hsame]
    · have hrest := ih path
      simp only [if_neg hsame, List.map_cons, List.mem_cons] at hrest ⊢
      rw [hrest]

/-- No path is lost, up to its spelling. -/
theorem distinct_keys (paths : List String) (k : List (List Nat)) :
    k ∈ (distinct paths).map key ↔ k ∈ paths.map key := by
  rw [← ((List.mergeSort_perm paths le).map key).mem_iff]
  unfold distinct
  cases paths.mergeSort le with
  | nil => rfl
  | cons first rest => exact dropRepeats_keys first rest k

theorem distinct_singleton (path : String) : distinct [path] = [path] := by
  simp [distinct, dropRepeats]

theorem dropRepeats_distinct (previous : String) (paths : List String)
    (h : (previous :: paths).Pairwise fun p q => key p ≠ key q) :
    dropRepeats previous paths = paths := by
  induction paths generalizing previous with
  | nil => rfl
  | cons path rest ih =>
    obtain ⟨hfirst, hrest⟩ := List.pairwise_cons.mp h
    rw [dropRepeats, if_neg (Ne.symm (hfirst path (by simp))), ih path hrest]

/-- Paths that differ as paths are all kept. -/
theorem distinct_perm (paths : List String) (h : paths.Pairwise fun p q => key p ≠ key q) :
    (distinct paths).Perm paths := by
  have hperm := List.mergeSort_perm paths le
  have hsorted := (hperm.pairwise_iff fun hne => Ne.symm hne).mpr h
  unfold distinct
  cases hsort : paths.mergeSort le with
  | nil => rwa [hsort] at hperm
  | cons first rest =>
    rw [hsort] at hperm hsorted
    simpa [dropRepeats_distinct first rest hsorted] using hperm

end IdentCase.Path
