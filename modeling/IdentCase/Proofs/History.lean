import Mathlib.Data.Finset.Card
import IdentCase.Proofs.Discovery

/-!
# Tables after a history of insertions

A new table takes one rename after another, some of them for an identifier that it already has. All
that the table answers afterwards is determined by the list of these calls: a call counts when no
call before it has the same old identifier.
-/

set_option autoImplicit false

namespace IdentCase.RenameTable

def firstCalls (calls : List Rename) : List Rename :=
  (calls.zipIdx.filter fun placed =>
    (calls.take placed.2).all fun earlier => earlier.old ≠ placed.1.old).map Prod.fst

theorem ofList_append_singleton (calls : List Rename) (call : Rename) :
    ofList (calls ++ [call]) = ((ofList calls).insert call).1 := by
  rw [ofList, List.foldl_append, List.foldl_cons, List.foldl_nil, ← ofList]

theorem mem_olds_ofList (calls : List Rename) (old : Text) :
    old ∈ (ofList calls).toList.map Rename.old ↔ old ∈ calls.map Rename.old := by
  rw [toList_ofList, firsts_olds, List.mem_eraseDups]

theorem contains_ofList (calls : List Rename) (old : Text) :
    (ofList calls).contains old = true ↔ old ∈ calls.map Rename.old :=
  (contains_iff (ofList calls) (ofList_indexed calls) old).trans (mem_olds_ofList calls old)

theorem firstCalls_append_singleton (calls : List Rename) (call : Rename) :
    firstCalls (calls ++ [call]) =
      if call.old ∈ calls.map Rename.old then firstCalls calls else firstCalls calls ++ [call] := by
  have hbefore : calls.zipIdx.filter (fun placed =>
        ((calls ++ [call]).take placed.2).all fun earlier => earlier.old ≠ placed.1.old) =
      calls.zipIdx.filter fun placed =>
        (calls.take placed.2).all fun earlier => earlier.old ≠ placed.1.old := by
    apply List.filter_congr
    intro placed hplaced
    have hlt := List.snd_lt_of_mem_zipIdx hplaced
    rw [List.take_append_of_le_length (by omega)]
  have hlast : ((calls ++ [call]).take calls.length).all (fun earlier => earlier.old ≠ call.old) =
      decide (call.old ∉ calls.map Rename.old) := by
    rw [List.take_left, Bool.eq_iff_iff]
    simp
  rw [firstCalls, List.zipIdx_append, List.filter_append, hbefore, List.map_append, ← firstCalls,
    Nat.zero_add, List.zipIdx_singleton, List.filter_singleton, hlast]
  by_cases hold : call.old ∈ calls.map Rename.old
  · simp [hold]
  · simp [hold]

/-- A table lists the first call for each old identifier, in the order of the calls. -/
theorem toList_firstCalls (calls : List Rename) : (ofList calls).toList = firstCalls calls := by
  -- A table grows at its end, so the induction takes the last call off.
  induction calls using List.reverseRecOn with
  | nil => rfl
  | append_singleton calls call ih =>
    rw [ofList_append_singleton, toList_insert _ (ofList_indexed calls), ih,
      firstCalls_append_singleton, ← ih]
    simp only [mem_olds_ofList]

theorem get?_eq_find (t : RenameTable) (h : t.Indexed) (old : Text) :
    t.get? old = (t.toList.find? fun r => r.old = old).map Rename.new := by
  cases hfound : t.toList.find? fun r => r.old = old with
  | none =>
    apply get?_of_not_mem t h old
    intro hold
    obtain ⟨r, hr, hrold⟩ := List.mem_map.mp hold
    exact List.find?_eq_none.mp hfound r hr (decide_eq_true hrold)
  | some r =>
    have hold : r.old = old := by simpa using List.find?_some hfound
    rw [← hold]
    exact get?_of_mem t h r (List.mem_of_find?_eq_some hfound)

theorem firsts_find (calls : List Rename) (old : Text) :
    (firsts calls).find? (fun r => r.old = old) = calls.find? fun r => r.old = old := by
  induction calls with
  | nil => rfl
  | cons call calls ih =>
    by_cases hold : call.old = old
    · simp [firsts, hold]
    · rw [firsts, List.find?_cons_of_neg (by simpa using hold),
        List.find?_cons_of_neg (by simpa using hold), List.find?_filter, ← ih]
      congr 1
      funext later
      -- A rename for `old` is none of those that `call` shadows.
      by_cases hlater : later.old = old
      · simp [hlater, Ne.symm hold]
      · simp [hlater]

/-- The first call for an identifier decides what the identifier becomes. -/
theorem get?_ofList (calls : List Rename) (old : Text) :
    (ofList calls).get? old = (calls.find? fun call => call.old = old).map Rename.new := by
  rw [get?_eq_find _ (ofList_indexed calls), toList_ofList, firsts_find]

theorem olds_nodup (calls : List Rename) : ((ofList calls).toList.map Rename.old).Nodup := by
  rw [toList_ofList, List.Nodup, List.pairwise_map]
  exact firsts_distinct calls

theorem size_ofList (calls : List Rename) :
    (ofList calls).size = (calls.map Rename.old).toFinset.card := by
  have hsame : (calls.map Rename.old).toFinset =
      ((ofList calls).toList.map Rename.old).toFinset := by
    ext old
    rw [List.mem_toFinset, List.mem_toFinset, mem_olds_ofList]
  rw [hsame, List.toFinset_card_of_nodup (olds_nodup calls), List.length_map]
  rfl

theorem isEmpty_ofList (calls : List Rename) : (ofList calls).isEmpty = true ↔ calls = [] := by
  have hsize : (ofList calls).isEmpty = true ↔ (ofList calls).size = 0 := by
    rw [isEmpty, size, Array.isEmpty_iff_size_eq_zero]
  rw [hsize, size_ofList, Finset.card_eq_zero, List.toFinset_eq_empty_iff, List.map_eq_nil_iff]

theorem insert_ofList (calls : List Rename) (call : Rename) :
    (ofList calls).insert call =
      if call.old ∈ calls.map Rename.old then (ofList calls, false)
      else (ofList (calls ++ [call]), true) := by
  have hknown := contains_ofList calls call.old
  rw [ofList_append_singleton, insert]
  by_cases hold : call.old ∈ calls.map Rename.old
  · rw [if_pos hold, if_pos (hknown.mpr hold)]
  · rw [if_neg hold, if_neg (mt hknown.mp hold)]

/-- After any calls on a new table, the index has an identifier at a place exactly when the rename
there is for it, so places are in range and old identifiers differ. The table answers with the first
call for an identifier, lists the first calls in order and counts the distinct identifiers; it is
empty only before the first call. The next call is answered with true exactly when its identifier is
new, and otherwise the table stays as it is. -/
theorem ofList_answers_history (calls : List Rename) :
    let t := ofList calls
    (∀ (old : Text) (i : Nat),
      t.index[old]? = some i ↔ ∃ r, t.renames[i]? = some r ∧ r.old = old) ∧
    (∀ (old : Text) (i : Nat), t.index[old]? = some i → i < t.renames.size) ∧
    (t.toList.map Rename.old).Nodup ∧
    (∀ old, t.get? old = (calls.find? fun call => call.old = old).map Rename.new) ∧
    t.toList = firstCalls calls ∧
    t.size = (calls.map Rename.old).toFinset.card ∧
    (t.isEmpty = true ↔ calls = []) ∧
    ∀ call, (t.insert call).1 = ofList (calls ++ [call]) ∧
      ((t.insert call).2 = true ↔ call.old ∉ calls.map Rename.old) ∧
      ((t.insert call).2 = false → (t.insert call).1 = t) := by
  intro t
  have hplace (old : Text) (i : Nat) :
      t.index[old]? = some i ↔ ∃ r, t.renames[i]? = some r ∧ r.old = old :=
    (ofList_indexed calls old i).trans Option.map_eq_some_iff
  refine ⟨hplace, fun old i hi => ?_, olds_nodup calls, get?_ofList calls, toList_firstCalls calls,
    size_ofList calls, isEmpty_ofList calls, fun call => ?_⟩
  · obtain ⟨r, hr, -⟩ := (hplace old i).mp hi
    exact (Array.getElem?_eq_some_iff.mp hr).1
  · refine ⟨(ofList_append_singleton calls call).symm, ?_⟩
    rw [insert_ofList]
    by_cases hold : call.old ∈ calls.map Rename.old
    · simp [hold, t]
    · simp [hold]

/-- A second conversion for an identifier changes nothing. -/
theorem ofList_answers_repeated_call :
    let first : Rename := ⟨"fooBar".toList, "foo_bar".toList⟩
    let second : Rename := ⟨"barBaz".toList, "bar_baz".toList⟩
    let again : Rename := ⟨"fooBar".toList, "something_else".toList⟩
    let t := ofList [first, second, again]
    t.toList = [first, second] ∧ t.size = 2 ∧ t.get? "fooBar".toList = some "foo_bar".toList ∧
      t.get? "fooBaz".toList = none ∧
      t.index["barBaz".toList]? = some 1 ∧ 1 < t.renames.size ∧
      (t.insert again).2 = false ∧ (t.insert again).1 = t := by
  intro first second again t
  obtain ⟨hplace, hrange, -, hget, hlist, hsize, -, hcall⟩ :=
    ofList_answers_history [first, second, again]
  have hlisted : t.toList = [first, second] :=
    hlist.trans (by decide +kernel : firstCalls [first, second, again] = [first, second])
  have hsecond : t.renames[1]? = some second := by
    rw [← Array.getElem?_toList, ← toList, hlisted]
    rfl
  have hindex : t.index["barBaz".toList]? = some 1 := (hplace _ 1).mpr ⟨second, hsecond, rfl⟩
  obtain ⟨-, hnew, hkept⟩ := hcall again
  have hknown : (t.insert again).2 = false := by
    rw [← Bool.not_eq_true, hnew, not_not]
    simp [first, again]
  refine ⟨hlisted, hsize.trans (by decide +kernel), (hget _).trans (by decide +kernel),
    (hget _).trans (by decide +kernel), hindex, hrange _ 1 hindex, hknown, hkept hknown⟩

end IdentCase.RenameTable
