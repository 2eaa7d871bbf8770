import IdentCase.Proofs.Segments

/-!
# Bounded occurrences are pieces

A term without delimiters occurs bounded exactly where a piece of the line equals it. Replacing its
occurrences, from the last to the first, therefore exchanges those pieces and nothing else.
-/

set_option autoImplicit false

namespace IdentCase.Occurrence
open Delimiters

def placesBehind (term : Text) (i : Nat) : List (Char × Text) → List Nat
  | [] => []
  | (_, piece) :: tail =>
    (if piece = term then [i + 1] else []) ++ placesBehind term (i + 1 + piece.length) tail

def places (term : Text) (i : Nat) (s : Segments) : List Nat :=
  (if s.head = term then [i] else []) ++ placesBehind term (i + s.head.length) s.tail

theorem places_cons (term : Text) (i : Nat) (head : Text) (c : Char) (piece : Text)
    (tail : List (Char × Text)) :
    places term i ⟨head, (c, piece) :: tail⟩ =
      (if head = term then [i] else []) ++ places term (i + head.length + 1) ⟨piece, tail⟩ := rfl

theorem places_nil (term : Text) (i : Nat) (s : Segments) :
    places term i s = [] ↔ term ∉ s.pieces := by
  obtain ⟨head, tail⟩ := s
  induction tail generalizing head i with
  | nil => by_cases h : head = term <;> simp [places, placesBehind, Segments.pieces, h, Ne.symm]
  | cons part tail ih =>
    obtain ⟨c, piece⟩ := part
    rw [places_cons, List.append_eq_nil_iff, ih]
    by_cases h : head = term
    · simp [Segments.pieces, h]
    · simp [Segments.pieces, h, Ne.symm h]

theorem positions_skip (d : Delimiters) (term s rest : Text) (previous : Option Char) (i : Nat) :
    ∃ last, positionsFrom d term s.length previous i (s ++ rest) =
      positionsFrom d term 0 last (i + s.length) rest := by
  induction s generalizing previous i with
  | nil => exact ⟨previous, rfl⟩
  | cons c s ih =>
    obtain ⟨last, hlast⟩ := ih (some c) (i + 1)
    refine ⟨last, ?_⟩
    rw [List.length_cons, Nat.add_comm s.length 1, ← Nat.add_assoc, ← hlast, Nat.add_comm 1]
    simp [positionsFrom]

/-- Behind a character that does not delimit nothing is bounded up to the next delimiter. -/
theorem positions_inside (d : Delimiters) (term s rest : Text) (x : Char) (i : Nat)
    (hx : d.contains x = false) (hs : d.Free s) :
    ∃ last, positionsFrom d term 0 (some x) i (s ++ rest) =
      positionsFrom d term 0 last (i + s.length) rest := by
  induction s generalizing x i with
  | nil => exact ⟨some x, rfl⟩
  | cons c s ih =>
    have hc : d.contains c = false := hs c (by simp)
    have hnot : bounded d term (some x) (c :: (s ++ rest)) = false := by
      simp [bounded, bounds, hx]
    obtain ⟨last, hlast⟩ := ih c (i + 1) hc fun y hy => hs y (by simp [hy])
    refine ⟨last, ?_⟩
    rw [List.length_cons, Nat.add_comm s.length 1, ← Nat.add_assoc, ← hlast]
    simp [positionsFrom, hnot]

theorem positions_mark (d : Delimiters) (term rest : Text) (c : Char) (previous : Option Char)
    (i : Nat) (hterm : term ≠ []) (hfree : d.Free term) (hc : d.contains c = true) :
    positionsFrom d term 0 previous i (c :: rest) =
      positionsFrom d term 0 (some c) (i + 1) rest := by
  obtain ⟨a, term', rfl⟩ := List.exists_cons_of_ne_nil hterm
  have ha : d.contains a = false := hfree a (by simp)
  have hne : a ≠ c := by
    intro h
    rw [h, hc] at ha
    cases ha
  have hnot : bounded d (a :: term') previous (c :: rest) = false := by
    simp [bounded, hne]
  simp [positionsFrom, hnot]

/-- At the start of a piece the term is bounded exactly when it is the whole piece. -/
theorem bounded_piece (d : Delimiters) (term p rest : Text) (previous : Option Char)
    (hfree : d.Free term) (hp : d.Free p) (hprevious : bounds d previous = true)
    (hrest : bounds d rest.head? = true) :
    bounded d term previous (p ++ rest) = true ↔ p = term := by
  constructor
  · intro h
    simp only [bounded, Bool.and_eq_true] at h
    obtain ⟨⟨hpre, -⟩, hbehind⟩ := h
    obtain ⟨u, hu⟩ := List.isPrefixOf_iff_prefix.mp hpre
    rw [← hu, List.drop_left] at hbehind
    rw [← head_before_mark d p rest hp hrest, ← hu, head_before_mark d term u hfree hbehind]
  · rintro rfl
    simp [bounded, hprevious, hrest]

theorem positions_piece (d : Delimiters) (term p rest : Text) (previous : Option Char) (i : Nat)
    (hterm : term ≠ []) (hfree : d.Free term) (hp : d.Free p)
    (hprevious : bounds d previous = true) (hrest : bounds d rest.head? = true) :
    ∃ last, positionsFrom d term 0 previous i (p ++ rest) =
      (if p = term then [i] else []) ++ positionsFrom d term 0 last (i + p.length) rest := by
  have hbounded := bounded_piece d term p rest previous hfree hp hprevious hrest
  cases p with
  | nil => exact ⟨previous, by simp [hterm.symm]⟩
  | cons a s =>
    rw [List.cons_append] at hbounded ⊢
    have hlength : i + (a :: s).length = i + 1 + s.length := by
      rw [List.length_cons]
      omega
    rw [hlength]
    by_cases h : a :: s = term
    · have hskip : term.length - 1 = s.length := by simp [← h]
      obtain ⟨last, hlast⟩ := positions_skip d term s rest (some a) (i + 1)
      refine ⟨last, ?_⟩
      simp [positionsFrom, hbounded.mpr h, h, hskip, hlast]
    · have ha : d.contains a = false := hp a (by simp)
      obtain ⟨last, hlast⟩ := positions_inside d term s rest a (i + 1) ha
        fun y hy => hp y (by simp [hy])
      refine ⟨last, ?_⟩
      simp [positionsFrom, mt hbounded.mp h, h, hlast]

theorem positions_join (d : Delimiters) (term : Text) (previous : Option Char) (i : Nat)
    (s : Segments) (hterm : term ≠ []) (hfree : d.Free term)
    (hprevious : bounds d previous = true) (hs : d.Cut s) :
    positionsFrom d term 0 previous i s.join = places term i s := by
  obtain ⟨head, tail⟩ := s
  induction tail generalizing head previous i with
  | nil =>
    have hhead : d.Free head := hs.free head (by simp [Segments.pieces])
    obtain ⟨last, hlast⟩ :=
      positions_piece d term head [] previous i hterm hfree hhead hprevious rfl
    simpa [Segments.join, places, placesBehind, positionsFrom] using hlast
  | cons part tail ih =>
    obtain ⟨c, piece⟩ := part
    have hc : d.contains c = true := hs.marked (c, piece) (by simp)
    have hhead : d.Free head := hs.free head (by simp [Segments.pieces])
    have hcut : d.Cut ⟨piece, tail⟩ :=
      ⟨fun part hpart => hs.marked part (by simp [hpart]),
        fun p hp => hs.free p (by simpa [Segments.pieces] using Or.inr hp)⟩
    obtain ⟨last, hlast⟩ := positions_piece d term head (c :: Segments.join ⟨piece, tail⟩)
      previous i hterm hfree hhead hprevious (by simpa [bounds] using hc)
    rw [join_cons, hlast, positions_mark d term _ c last _ hterm hfree hc,
      ih (some c) _ (by simpa [bounds] using hc) piece hcut, places_cons]

/-- The search finds the pieces equal to the term. -/
theorem positions_free (d : Delimiters) (term line : Text) (hterm : term ≠ [])
    (hfree : d.Free term) : positions d term line = places term 0 (d.segments line) := by
  have h := positions_join d term none 0 (d.segments line) hterm hfree rfl (segments_cut d line)
  rw [segments_join] at h
  simpa [positions, hterm] using h

theorem splice_between (before old new behind : Text) :
    splice (before ++ (old ++ behind)) before.length old.length new =
      before ++ (new ++ behind) := by
  have hbehind : (before ++ (old ++ behind)).drop (before.length + old.length) = behind := by
    rw [← List.append_assoc, ← List.length_append, List.drop_left]
  rw [splice, List.take_left, hbehind, List.append_assoc]

theorem splice_places (old new before : Text) (s : Segments) :
    (places old before.length s).foldr (fun i text => splice text i old.length new)
      (before ++ s.join) = before ++ (s.swap old new).join := by
  obtain ⟨head, tail⟩ := s
  induction tail generalizing head before with
  | nil =>
    by_cases h : head = old
    · have hs := splice_between before old new []
      simp only [List.append_nil] at hs
      simp [places, placesBehind, Segments.join, Segments.swap, Segments.map, h, hs]
    · simp [places, placesBehind, Segments.join, Segments.swap, Segments.map, h, exchange_other]
  | cons part tail ih =>
    obtain ⟨c, piece⟩ := part
    have hbehind := ih (before ++ head ++ [c]) piece
    have hlength : (before ++ head ++ [c]).length = before.length + head.length + 1 := by
      simp
      omega
    rw [hlength, List.append_assoc, List.singleton_append] at hbehind
    rw [places_cons, join_cons, List.foldr_append, ← List.append_assoc, hbehind, swap_join_cons]
    by_cases h : head = old
    · simp [h, splice_between]
    · simp [h, exchange_other]

/-- Replacing a term without delimiters exchanges the pieces equal to it, if there are any. -/
theorem replace_free (d : Delimiters) (old new line : Text) (hold : old ≠ [])
    (hfree : d.Free old) :
    replace? d old new line =
      if old ∈ d.pieces line then some ((d.segments line).swap old new).join else none := by
  have hplaces := positions_free d old line hold hfree
  have hnil := places_nil old 0 (d.segments line)
  have hsplice := splice_places old new [] (d.segments line)
  simp only [List.length_nil, List.nil_append, segments_join] at hsplice
  by_cases h : old ∈ d.pieces line
  · rw [if_pos h]
    have hne : positions d old line ≠ [] := by
      rw [hplaces]
      exact fun hempty => hnil.mp hempty h
    rw [replace?]
    split
    · contradiction
    · rw [hplaces, hsplice]
  · rw [if_neg h, replace?, hplaces, hnil.mpr h]

theorem replaced_free (d : Delimiters) (old new line changed : Text) (hold : old ≠ [])
    (hfree : d.Free old) (h : replace? d old new line = some changed) :
    old ∈ d.pieces line ∧ changed = ((d.segments line).swap old new).join := by
  rw [replace_free d old new line hold hfree] at h
  by_cases hpiece : old ∈ d.pieces line
  · rw [if_pos hpiece] at h
    exact ⟨hpiece, (Option.some.inj h).symm⟩
  · rw [if_neg hpiece] at h
    cases h

theorem replaced_keeps (d : Delimiters) (old new line changed piece : Text) (hold : old ≠ [])
    (hfree : d.Free old) (h : replace? d old new line = some changed) (hne : piece ≠ old)
    (hpiece : piece ∈ d.pieces line) : piece ∈ d.pieces changed := by
  obtain ⟨-, rfl⟩ := replaced_free d old new line changed hold hfree h
  rw [Segments.swap, d.pieces_map_join, List.mem_flatMap]
  refine ⟨piece, hpiece, ?_⟩
  rw [exchange_other old new piece hne, d.pieces_of_free piece (d.pieces_free line piece hpiece)]
  simp

end IdentCase.Occurrence
