import Mathlib.Data.List.Basic
import IdentCase.Delimiters

/-!
# Cutting and joining lines

The segments of a line are its only cut: no piece holds a delimiter, one delimiter stands between
two pieces, and all together give the line back. When pieces are exchanged for other texts, the
pieces of the new line are those of the texts put in, in order.
-/

set_option autoImplicit false

namespace IdentCase.Delimiters

def Free (d : Delimiters) (text : Text) : Prop := ∀ c ∈ text, d.contains c = false

instance (d : Delimiters) (text : Text) : Decidable (d.Free text) :=
  List.decidableBAll (fun c => d.contains c = false) text

def Marked (d : Delimiters) (tail : List (Char × Text)) : Prop :=
  ∀ part ∈ tail, d.contains part.1 = true

structure Cut (d : Delimiters) (s : Segments) : Prop where
  marked : d.Marked s.tail
  free : ∀ piece ∈ s.pieces, d.Free piece

def exchange (old new piece : Text) : Text := if piece = old then new else piece

def Segments.swap (old new : Text) (s : Segments) : Segments := s.map (exchange old new)

@[simp] theorem exchange_old (old new : Text) : exchange old new old = new := if_pos rfl

theorem exchange_other (old new piece : Text) (h : piece ≠ old) :
    exchange old new piece = piece := if_neg h

theorem swap_join_cons (old new head : Text) (c : Char) (piece : Text)
    (tail : List (Char × Text)) :
    (Segments.swap old new ⟨head, (c, piece) :: tail⟩).join =
      exchange old new head ++ c :: (Segments.swap old new ⟨piece, tail⟩).join := by
  simp [Segments.join, Segments.swap, Segments.map]

theorem join_cons (head : Text) (c : Char) (piece : Text) (tail : List (Char × Text)) :
    Segments.join ⟨head, (c, piece) :: tail⟩ = head ++ c :: Segments.join ⟨piece, tail⟩ := by
  simp [Segments.join]

theorem segments_mark (d : Delimiters) (c : Char) (rest : Text) (hc : d.contains c = true) :
    d.segments (c :: rest) = ⟨[], (c, (d.segments rest).head) :: (d.segments rest).tail⟩ := by
  simp [segments, hc]

theorem segments_free_append (d : Delimiters) (p rest : Text) (hp : d.Free p) :
    d.segments (p ++ rest) = ⟨p ++ (d.segments rest).head, (d.segments rest).tail⟩ := by
  induction p with
  | nil => rfl
  | cons c p ih =>
    have hc : d.contains c = false := hp c (by simp)
    have hrest := ih fun x hx => hp x (by simp [hx])
    simp [segments, hc, hrest]

theorem segments_join (d : Delimiters) (line : Text) : (d.segments line).join = line := by
  induction line with
  | nil => rfl
  | cons c rest ih =>
    by_cases hc : d.contains c = true
    · rw [segments_mark d c rest hc, join_cons]
      simpa using ih
    · simpa [segments, hc, Segments.join] using ih

theorem segments_cut (d : Delimiters) (line : Text) : d.Cut (d.segments line) := by
  induction line with
  | nil => exact ⟨by simp [Marked, segments], by simp [Segments.pieces, segments, Free]⟩
  | cons c rest ih =>
    by_cases hc : d.contains c = true
    · rw [segments_mark d c rest hc]
      constructor
      · intro part hpart
        rcases List.mem_cons.mp hpart with rfl | hpart
        · exact hc
        · exact ih.marked part hpart
      · intro piece hpiece
        rcases List.mem_cons.mp hpiece with rfl | hpiece
        · simp [Free]
        · exact ih.free piece hpiece
    · have hcut : d.segments (c :: rest) =
          ⟨c :: (d.segments rest).head, (d.segments rest).tail⟩ := by simp [segments, hc]
      rw [hcut]
      refine ⟨ih.marked, fun piece hpiece => ?_⟩
      rcases List.mem_cons.mp hpiece with rfl | hpiece
      · have hhead := ih.free (d.segments rest).head (by simp [Segments.pieces])
        intro x hx
        rcases List.mem_cons.mp hx with rfl | hx
        · simpa using hc
        · exact hhead x hx
      · exact ih.free piece (by simpa [Segments.pieces] using Or.inr hpiece)

theorem pieces_free (d : Delimiters) (line piece : Text) (h : piece ∈ d.pieces line) :
    d.Free piece :=
  (segments_cut d line).free piece h

theorem pieces_chars (d : Delimiters) (line piece : Text) (h : piece ∈ d.pieces line) :
    ∀ c ∈ piece, c ∈ line := by
  intro c hc
  rw [← segments_join d line, Segments.join, List.mem_append]
  rcases List.mem_cons.mp h with rfl | htail
  · exact Or.inl hc
  · obtain ⟨part, hpart, rfl⟩ := List.mem_map.mp htail
    exact Or.inr (List.mem_flatMap.mpr ⟨part, hpart, List.mem_cons_of_mem _ hc⟩)

theorem pieces_of_free (d : Delimiters) (text : Text) (h : d.Free text) :
    d.pieces text = [text] := by
  have hcut := segments_free_append d text [] h
  simp only [List.append_nil] at hcut
  simp [pieces, hcut, segments, Segments.pieces]

theorem split_pieces (d : Delimiters) (line : Text) :
    (d.split line).map Prod.snd = d.pieces line := by
  have htail (offset : Nat) (tail : List (Char × Text)) :
      (placeTail offset tail).map Prod.snd = tail.map Prod.snd := by
    induction tail generalizing offset with
    | nil => rfl
    | cons part tail ih => simp [placeTail, ih]
  simp [split, pieces, Segments.pieces, htail]

/-- The first piece reaches to the first delimiter. -/
theorem head_before_mark (d : Delimiters) (p rest : Text) (hp : d.Free p)
    (hrest : rest.head?.all d.contains = true) : (d.segments (p ++ rest)).head = p := by
  rw [segments_free_append d p rest hp]
  cases rest with
  | nil => simp [segments]
  | cons c rest =>
    have hc : d.contains c = true := by simpa using hrest
    simp [segments_mark d c rest hc]

theorem segments_append_mark (d : Delimiters) (x y : Text) (c : Char) (hc : d.contains c = true) :
    d.segments (x ++ c :: y) = ⟨(d.segments x).head,
      (d.segments x).tail ++ (c, (d.segments y).head) :: (d.segments y).tail⟩ := by
  induction x with
  | nil => simp [segments_mark d c y hc, segments]
  | cons a x ih =>
    by_cases ha : d.contains a = true
    · simp [segments, ha, ih]
    · simp [segments, ha, ih]

theorem pieces_append_mark (d : Delimiters) (x y : Text) (c : Char) (hc : d.contains c = true) :
    d.pieces (x ++ c :: y) = d.pieces x ++ d.pieces y := by
  simp [pieces, segments_append_mark d x y c hc, Segments.pieces]

/-- A line joined from texts at delimiters has the pieces of those texts. -/
theorem pieces_join (d : Delimiters) (s : Segments) (hs : d.Marked s.tail) :
    d.pieces s.join = s.pieces.flatMap d.pieces := by
  obtain ⟨head, tail⟩ := s
  induction tail generalizing head with
  | nil => simp [Segments.join, Segments.pieces]
  | cons part tail ih =>
    obtain ⟨c, piece⟩ := part
    have hc : d.contains c = true := hs (c, piece) (by simp)
    rw [join_cons, pieces_append_mark d head _ c hc,
      ih piece fun part hpart => hs part (by simp [hpart])]
    simp [Segments.pieces]

/-- Exchanging pieces leaves the delimiters in place, so each piece gives way to the pieces of what
is put in for it. -/
theorem pieces_map_join (d : Delimiters) (f : Text → Text) (line : Text) :
    d.pieces ((d.segments line).map f).join = (d.pieces line).flatMap fun p => d.pieces (f p) := by
  have hmarks : d.Marked ((d.segments line).map f).tail := by
    intro part hpart
    obtain ⟨old, hold, rfl⟩ := List.mem_map.mp hpart
    exact (segments_cut d line).marked old hold
  have hpieces : ((d.segments line).map f).pieces = (d.pieces line).map f := by
    simp [Segments.pieces, Segments.map, pieces]
  rw [pieces_join d _ hmarks, hpieces, List.flatMap_map]

theorem pieces_map_free (d : Delimiters) (f : Text → Text) (line : Text)
    (hf : ∀ p ∈ d.pieces line, d.Free (f p)) :
    d.pieces ((d.segments line).map f).join = (d.pieces line).map f := by
  rw [pieces_map_join, List.map_eq_flatMap]
  apply List.flatMap_congr
  intro p hp
  exact pieces_of_free d (f p) (hf p hp)

theorem Segments.map_congr (s : Segments) (f g : Text → Text)
    (h : ∀ piece ∈ s.pieces, f piece = g piece) : s.map f = s.map g := by
  have hhead : f s.head = g s.head := h s.head (by simp [Segments.pieces])
  have htail : (s.tail.map fun part => (part.1, f part.2)) =
      s.tail.map fun part => (part.1, g part.2) := by
    apply List.map_congr_left
    intro part hpart
    rw [h part.2 (List.mem_cons_of_mem _ (List.mem_map_of_mem hpart))]
  simp only [Segments.map, hhead, htail]

theorem segments_map_self (d : Delimiters) (line : Text) (f : Text → Text)
    (h : ∀ piece ∈ d.pieces line, f piece = piece) : ((d.segments line).map f).join = line := by
  have hid : (d.segments line).map id = d.segments line := by simp [Segments.map]
  rw [Segments.map_congr (d.segments line) f id h, hid, segments_join]

/-- The characters of a line with exchanged pieces come from the line or from what is put in. -/
theorem map_chars (d : Delimiters) (f : Text → Text) (line : Text) :
    ∀ c ∈ ((d.segments line).map f).join, c ∈ line ∨ ∃ piece ∈ d.pieces line, c ∈ f piece := by
  intro c hc
  simp only [Segments.map, Segments.join, List.mem_append, List.mem_flatMap, List.mem_map] at hc
  rcases hc with hc | ⟨part, ⟨origin, horigin, rfl⟩, hc⟩
  · exact Or.inr ⟨_, by simp [pieces, Segments.pieces], hc⟩
  · rcases List.mem_cons.mp hc with rfl | hc
    · left
      rw [← segments_join d line, Segments.join]
      exact List.mem_append_right _ (List.mem_flatMap.mpr ⟨origin, horigin, by simp⟩)
    · exact Or.inr ⟨origin.2, List.mem_cons_of_mem _ (List.mem_map_of_mem horigin), hc⟩

theorem swap_chars (d : Delimiters) (old new line : Text) :
    ∀ c ∈ ((d.segments line).swap old new).join, c ∈ line ∨ c ∈ new := by
  intro c hc
  rcases map_chars d (exchange old new) line c hc with hline | ⟨piece, hpiece, hc⟩
  · exact Or.inl hline
  · by_cases h : piece = old
    · rw [h, exchange_old] at hc
      exact Or.inr hc
    · rw [exchange_other old new piece h] at hc
      exact Or.inl (pieces_chars d line piece hpiece c hc)

end IdentCase.Delimiters
