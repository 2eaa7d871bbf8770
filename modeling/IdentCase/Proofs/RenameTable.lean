import Mathlib.Data.List.Basic
import IdentCase.RenameTable
import IdentCase.Proofs.Convention

/-!
# What rename tables hold

The index of a table always agrees with its list, so a table filled from a list of renames holds the
first of them for each old identifier. A table filled from lines holds renames of unquoted tokens,
which are whole pieces of the lines.
-/

set_option autoImplicit false

namespace IdentCase

namespace RenameTable

def Indexed (t : RenameTable) : Prop :=
  ∀ (old : Text) (i : Nat), t.index[old]? = some i ↔ (t.renames[i]?).map Rename.old = some old

def firsts : List Rename → List Rename
  | [] => []
  | r :: rest => r :: (firsts rest).filter fun later => later.old ≠ r.old

theorem empty_indexed : Indexed empty := by
  intro old i
  simp [empty]

theorem contains_iff (t : RenameTable) (h : t.Indexed) (old : Text) :
    t.contains old = true ↔ old ∈ t.toList.map Rename.old := by
  rw [contains, Std.HashMap.contains_eq_isSome_getElem?, Option.isSome_iff_exists]
  constructor
  · rintro ⟨i, hi⟩
    obtain ⟨r, hr, rfl⟩ := Option.map_eq_some_iff.mp ((h old i).mp hi)
    exact List.mem_map_of_mem (Array.mem_toList_iff.mpr (Array.mem_of_getElem? hr))
  · intro hold
    obtain ⟨r, hr, rfl⟩ := List.mem_map.mp hold
    obtain ⟨i, hi⟩ := Array.mem_iff_getElem?.mp (Array.mem_toList_iff.mp hr)
    exact ⟨i, (h r.old i).mpr (by simp [hi])⟩

theorem get?_of_mem (t : RenameTable) (h : t.Indexed) (r : Rename) (hr : r ∈ t.toList) :
    t.get? r.old = some r.new := by
  obtain ⟨i, hi⟩ := Array.mem_iff_getElem?.mp (Array.mem_toList_iff.mp hr)
  have hplace : t.index[r.old]? = some i := (h r.old i).mpr (by simp [hi])
  simp [get?, hplace, hi]

theorem get?_of_not_mem (t : RenameTable) (h : t.Indexed) (old : Text)
    (hold : old ∉ t.toList.map Rename.old) : t.get? old = none := by
  have hnone := mt (contains_iff t h old).mp hold
  rw [contains, Std.HashMap.contains_eq_isSome_getElem?, Bool.not_eq_true,
    Option.isSome_eq_false_iff, Option.isNone_iff_eq_none] at hnone
  simp [get?, hnone]

theorem insert_indexed (t : RenameTable) (h : t.Indexed) (r : Rename) :
    (t.insert r).1.Indexed := by
  by_cases hknown : t.contains r.old = true
  · simpa [insert, hknown] using h
  · have hnone (i : Nat) : (t.renames[i]?).map Rename.old ≠ some r.old := by
      intro hi
      have hsome := (h r.old i).mpr hi
      rw [contains, Std.HashMap.contains_eq_isSome_getElem?, hsome] at hknown
      simp at hknown
    have hfilled : (t.insert r).1 =
        ⟨t.renames.push r, t.index.insert r.old t.renames.size⟩ := by simp [insert, hknown]
    rw [hfilled]
    intro old i
    rw [Std.HashMap.getElem?_insert, Array.getElem?_push]
    by_cases hold : r.old = old
    · subst hold
      by_cases hi : i = t.renames.size
      · simp [hi]
      · rw [if_neg hi]
        simpa [Ne.symm hi] using hnone i
    · have hplace := h old i
      by_cases hi : i = t.renames.size
      · subst hi
        simpa [hold] using hplace
      · simpa [hold, hi] using hplace

theorem toList_insert (t : RenameTable) (h : t.Indexed) (r : Rename) :
    (t.insert r).1.toList =
      if r.old ∈ t.toList.map Rename.old then t.toList else t.toList ++ [r] := by
  by_cases hknown : t.contains r.old = true
  · rw [if_pos ((contains_iff t h r.old).mp hknown)]
    simp [insert, hknown]
  · rw [if_neg (mt (contains_iff t h r.old).mpr hknown)]
    simp [insert, hknown, toList]

theorem foldl_insert (renames : List Rename) (t : RenameTable) (h : t.Indexed) :
    let filled := renames.foldl (fun t r => (t.insert r).1) t
    filled.Indexed ∧ filled.toList =
      t.toList ++ (firsts renames).filter fun r => r.old ∉ t.toList.map Rename.old := by
  induction renames generalizing t with
  | nil => exact ⟨h, by simp [firsts]⟩
  | cons r renames ih =>
    obtain ⟨hindexed, hlist⟩ := ih (t.insert r).1 (insert_indexed t h r)
    refine ⟨hindexed, hlist.trans ?_⟩
    rw [toList_insert t h r]
    by_cases hold : r.old ∈ t.toList.map Rename.old
    · rw [if_pos hold, firsts, List.filter_cons_of_neg (by simpa using hold), List.filter_filter]
      congr 1
      apply List.filter_congr
      intro later _
      -- A later rename that is new to the table cannot share the old identifier of `r`.
      by_cases hlater : later.old = r.old
      · simp only [hlater, hold]
        rfl
      · simp [hlater]
    · rw [if_neg hold, firsts, List.filter_cons_of_pos (by simpa using hold), List.filter_filter,
        List.append_assoc, List.singleton_append]
      congr 2
      apply List.filter_congr
      intro later _
      simp only [List.map_append, List.map_cons, List.map_nil, List.mem_append, List.mem_singleton,
        not_or, Bool.decide_and]

theorem ofList_indexed (renames : List Rename) : (ofList renames).Indexed :=
  (foldl_insert renames empty empty_indexed).1

/-- A table holds the first of the renames for each old identifier. -/
theorem toList_ofList (renames : List Rename) : (ofList renames).toList = firsts renames := by
  have h := (foldl_insert renames empty empty_indexed).2
  have hall : (firsts renames).filter (fun r => r.old ∉ empty.toList.map Rename.old) =
      firsts renames := List.filter_eq_self.mpr fun r _ => by simp [empty, toList]
  rw [hall] at h
  exact h

theorem firsts_subset (renames : List Rename) : ∀ r ∈ firsts renames, r ∈ renames := by
  induction renames with
  | nil => simp [firsts]
  | cons first renames ih =>
    intro r hr
    rcases List.mem_cons.mp hr with rfl | hr
    · simp
    · exact List.mem_cons_of_mem first (ih r (List.mem_filter.mp hr).1)

theorem firsts_distinct (renames : List Rename) :
    (firsts renames).Pairwise fun p q => p.old ≠ q.old := by
  induction renames with
  | nil => exact .nil
  | cons r renames ih =>
    refine List.pairwise_cons.mpr ⟨fun later hlater => ?_, ih.filter _⟩
    have hne := (List.mem_filter.mp hlater).2
    simp only [ne_eq, decide_eq_true_eq] at hne
    exact Ne.symm hne

theorem renameOf_iff (filter : CandidateFilter) (convention : Convention) (token : Token)
    (r : Rename) :
    renameOf? filter convention token = some r ↔
      token.quoted = false ∧ token.text = r.old ∧ filter.admits r.old = true ∧
        r.new = convention.convert r.old ∧ r.new ≠ r.old := by
  obtain ⟨old, new⟩ := r
  simp only [renameOf?]
  constructor
  · intro h
    split at h
    · rename_i hasks
      simp only [Option.some.injEq, Rename.mk.injEq] at h
      obtain ⟨rfl, rfl⟩ := h
      simpa [and_assoc] using hasks
    · cases h
  · rintro ⟨hquoted, rfl, hadmits, hnew, hne⟩
    subst hnew
    simp [hquoted, hadmits, hne]

end RenameTable

namespace Token

def Reads (t : Token) (piece : Text) : Prop :=
  (t.text = piece ∧ (t.quoted = false → piece.head? ≠ some '"')) ∨
  (t.quoted = true ∧ piece = '"' :: t.text)

theorem ofPiece_reads (state : QuoteState) (start : Nat) (piece : Text) :
    (ofPiece state start piece).1.Reads piece := by
  unfold ofPiece Reads
  split
  · exact Or.inr ⟨rfl, rfl⟩
  · rename_i hopens
    refine Or.inl ⟨rfl, fun _ hquote => ?_⟩
    obtain ⟨rest, hrest⟩ := List.head?_eq_some_iff.mp hquote
    exact hopens rest hrest
  · exact Or.inl ⟨rfl, by simp⟩

theorem ofPieces_reads (state : QuoteState) (pieces : List (Nat × Text)) (k : Nat) (t : Token)
    (h : (ofPieces state pieces).1[k]? = some t) :
    ∃ piece, (pieces.map Prod.snd)[k]? = some piece ∧ t.Reads piece := by
  induction pieces generalizing state k with
  | nil => simp [ofPieces] at h
  | cons placed rest ih =>
    obtain ⟨start, piece⟩ := placed
    cases k with
    | zero =>
      have hfirst : (ofPiece state start piece).1 = t := by simpa [ofPieces] using h
      exact ⟨piece, rfl, hfirst ▸ ofPiece_reads state start piece⟩
    | succ k => exact ih (ofPiece state start piece).2 k (by simpa [ofPieces] using h)

theorem ofLines_reads (d : Delimiters) (carry : QuoteCarry) (state : QuoteState)
    (lines : List Text) (i : Nat) (scanned : List Token × QuoteState)
    (h : (ofLines d carry state lines)[i]? = some scanned) (k : Nat) (t : Token)
    (ht : scanned.1[k]? = some t) :
    ∃ line, lines[i]? = some line ∧ ∃ piece, (d.pieces line)[k]? = some piece ∧ t.Reads piece := by
  induction lines generalizing state i with
  | nil => simp [ofLines] at h
  | cons line rest ih =>
    cases i with
    | zero =>
      have hfirst : ofLine d state line = scanned := by simpa [ofLines] using h
      rw [← hfirst] at ht
      refine ⟨line, rfl, ?_⟩
      rw [← d.split_pieces line]
      exact ofPieces_reads state (d.split line) k t ht
    | succ i => exact ih _ i (by simpa [ofLines] using h)

def unquoted (d : Delimiters) (carry : QuoteCarry) (lines : List Text) : List Token :=
  ((ofLines d carry .outside lines).flatMap Prod.fst).filter fun t => !t.quoted

/-- A token outside literals is a whole piece that opens none. -/
theorem unquoted_piece (d : Delimiters) (carry : QuoteCarry) (lines : List Text) (t : Token)
    (ht : t ∈ unquoted d carry lines) :
    t.text.head? ≠ some '"' ∧ ∃ line ∈ lines, t.text ∈ d.pieces line := by
  obtain ⟨htoken, hquoted⟩ := List.mem_filter.mp ht
  rw [Bool.not_eq_true'] at hquoted
  obtain ⟨scanned, hscanned, hmem⟩ := List.mem_flatMap.mp htoken
  obtain ⟨i, hi⟩ := List.mem_iff_getElem?.mp hscanned
  obtain ⟨k, hk⟩ := List.mem_iff_getElem?.mp hmem
  obtain ⟨line, hline, piece, hpiece, hreads⟩ :=
    ofLines_reads d carry .outside lines i scanned hi k t hk
  rcases hreads with ⟨rfl, hopens⟩ | ⟨hinside, -⟩
  · exact ⟨hopens hquoted, line, List.mem_of_getElem? hline, List.mem_of_getElem? hpiece⟩
  · rw [hquoted] at hinside
    cases hinside

end Token

namespace RenameTable

theorem renames_unquoted (d : Delimiters) (filter : CandidateFilter) (convention : Convention)
    (carry : QuoteCarry) (lines : List Text) :
    ((Token.ofLines d carry .outside lines).flatMap Prod.fst).filterMap
        (renameOf? filter convention) =
      (Token.unquoted d carry lines).filterMap (renameOf? filter convention) := by
  rw [Token.unquoted, List.filterMap_filter]
  apply List.filterMap_congr
  intro t _
  cases hquoted : t.quoted <;> simp [renameOf?, hquoted]

theorem toList_ofLines (d : Delimiters) (filter : CandidateFilter) (convention : Convention)
    (carry : QuoteCarry) (lines : List Text) :
    (ofLines d filter convention carry lines).toList =
      firsts ((Token.unquoted d carry lines).filterMap (renameOf? filter convention)) := by
  rw [← renames_unquoted, ← toList_ofList, ofLines]

/-- A rename of the table is what the convention makes of a candidate outside literals. -/
theorem mem_ofLines (d : Delimiters) (filter : CandidateFilter) (convention : Convention)
    (carry : QuoteCarry) (lines : List Text) (r : Rename)
    (hr : r ∈ (ofLines d filter convention carry lines).toList) :
    (∃ t ∈ Token.unquoted d carry lines, t.text = r.old) ∧ filter.admits r.old = true ∧
      r.new = convention.convert r.old ∧ r.new ≠ r.old := by
  rw [toList_ofLines] at hr
  obtain ⟨t, ht, hasks⟩ := List.mem_filterMap.mp (firsts_subset _ r hr)
  obtain ⟨-, hold, hrest⟩ := (renameOf_iff filter convention t r).mp hasks
  exact ⟨⟨t, ht, hold⟩, hrest⟩

theorem admits_nonempty (filter : CandidateFilter) (token : Text)
    (h : filter.admits token = true) : token ≠ [] := by
  rintro rfl
  cases h

/-- An old identifier of the table is a piece of a line. -/
theorem ofLines_piece (d : Delimiters) (filter : CandidateFilter) (convention : Convention)
    (carry : QuoteCarry) (lines : List Text) (r : Rename)
    (hr : r ∈ (ofLines d filter convention carry lines).toList) :
    r.old ≠ [] ∧ d.Free r.old ∧ ∃ line ∈ lines, r.old ∈ d.pieces line := by
  obtain ⟨⟨t, ht, hold⟩, hadmits, -⟩ := mem_ofLines d filter convention carry lines r hr
  obtain ⟨-, line, hline, hpiece⟩ := Token.unquoted_piece d carry lines t ht
  rw [hold] at hpiece
  exact ⟨admits_nonempty filter r.old hadmits, d.pieces_free line r.old hpiece, line, hline, hpiece⟩

theorem ofLines_opens_none (d : Delimiters) (filter : CandidateFilter) (convention : Convention)
    (carry : QuoteCarry) (lines : List Text) (r : Rename)
    (hr : r ∈ (ofLines d filter convention carry lines).toList) : r.old.head? ≠ some '"' := by
  obtain ⟨⟨t, ht, hold⟩, -⟩ := mem_ofLines d filter convention carry lines r hr
  rw [← hold]
  exact (Token.unquoted_piece d carry lines t ht).1

theorem ofLines_ascii (d : Delimiters) (filter : CandidateFilter) (convention : Convention)
    (carry : QuoteCarry) (lines : List Text) (ha : ∀ line ∈ lines, Text.Ascii line) (r : Rename)
    (hr : r ∈ (ofLines d filter convention carry lines).toList) : Text.Ascii r.old := by
  obtain ⟨-, -, line, hline, hpiece⟩ := ofLines_piece d filter convention carry lines r hr
  intro c hc
  exact ha line hline c (d.pieces_chars line r.old hpiece c hc)

/-- What a conversion gives is not converted again, so it is no old identifier. -/
theorem ofLines_new_not_old (d : Delimiters) (filter : CandidateFilter) (convention : Convention)
    (carry : QuoteCarry) (lines : List Text) (ha : ∀ line ∈ lines, Text.Ascii line) (p q : Rename)
    (hp : p ∈ (ofLines d filter convention carry lines).toList)
    (hq : q ∈ (ofLines d filter convention carry lines).toList) : p.new ≠ q.old := by
  have hascii := ofLines_ascii d filter convention carry lines ha p hp
  obtain ⟨-, -, hp', -⟩ := mem_ofLines d filter convention carry lines p hp
  obtain ⟨-, -, hq', hne⟩ := mem_ofLines d filter convention carry lines q hq
  intro heq
  rw [hq', ← heq, hp', Convention.convert_twice convention p.old hascii] at hne
  exact hne rfl

/-- An empty table means that every candidate follows the convention. -/
theorem ofLines_empty (d : Delimiters) (filter : CandidateFilter) (convention : Convention)
    (carry : QuoteCarry) (lines : List Text)
    (h : (ofLines d filter convention carry lines).toList = []) :
    ∀ t ∈ Token.unquoted d carry lines, filter.admits t.text = true →
      convention.convert t.text = t.text := by
  intro t ht hadmits
  by_contra hne
  have hquoted : t.quoted = false := by simpa using (List.mem_filter.mp ht).2
  have hasks : renameOf? filter convention t = some ⟨t.text, convention.convert t.text⟩ :=
    (renameOf_iff filter convention t _).mpr ⟨hquoted, rfl, hadmits, rfl, hne⟩
  have hmem := List.mem_filterMap.mpr ⟨t, ht, hasks⟩
  rw [toList_ofLines] at h
  cases hrenames : (Token.unquoted d carry lines).filterMap (renameOf? filter convention) with
  | nil => simp [hrenames] at hmem
  | cons r rest => simp [hrenames, firsts] at h

end RenameTable

end IdentCase
