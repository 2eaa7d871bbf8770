import IdentCase.Proofs.Bytes
import IdentCase.Proofs.Segments
import IdentCase.Token

/-!
# Where pieces and tokens stand

Splitting a line loses nothing. The pieces and the single delimiters between them cover the line
from its first byte to its last, each behind the one before it. A token is the part of the line at
its start, which is the whole piece or, if the piece opens a literal, what stands behind the quote.
-/

set_option autoImplicit false

namespace IdentCase

namespace Text

def Slice (text : Text) (o : Nat) (part : Text) : Prop :=
  ∃ before behind : Text, text = before ++ (part ++ behind) ∧ before.byteLength = o

theorem slice_append (before part behind : Text) :
    Slice (before ++ (part ++ behind)) before.byteLength part := ⟨before, behind, rfl, rfl⟩

theorem slice_behind (text part : Text) (o : Nat) (c : Char) (h : Slice text o (c :: part)) :
    Slice text (o + c.utf8Size) part := by
  obtain ⟨before, behind, rfl, rfl⟩ := h
  refine ⟨before ++ [c], behind, by simp, ?_⟩
  simp [byteLength_append, byteLength]

end Text

namespace Delimiters
open Text

def interleave : List Text → List Char → Text
  | piece :: pieces, c :: marks => piece ++ c :: interleave pieces marks
  | pieces, _ => pieces.flatten

inductive Tiles (d : Delimiters) : Nat → List (Nat × Text) → List Char → Text → Prop
  | last {offset : Nat} {piece : Text} (free : d.Free piece) :
      Tiles d offset [(offset, piece)] [] piece
  | next {offset : Nat} {piece rest : Text} {c : Char} {placed : List (Nat × Text)}
      {marks : List Char} (free : d.Free piece) (mark : d.contains c = true)
      (behind : Tiles d (offset + piece.byteLength + c.utf8Size) placed marks rest) :
      Tiles d offset ((offset, piece) :: placed) (c :: marks) (piece ++ c :: rest)

theorem placeTail_tiles (d : Delimiters) (offset : Nat) (head : Text) (tail : List (Char × Text))
    (h : d.Cut ⟨head, tail⟩) :
    Tiles d offset ((offset, head) :: placeTail (offset + head.byteLength) tail)
      (tail.map Prod.fst) (Segments.join ⟨head, tail⟩) := by
  induction tail generalizing offset head with
  | nil =>
    have hfree : d.Free head := h.free head (by simp [Segments.pieces])
    simpa [Segments.join, placeTail] using Tiles.last hfree
  | cons part tail ih =>
    obtain ⟨c, piece⟩ := part
    have hfree : d.Free head := h.free head (by simp [Segments.pieces])
    have hmark : d.contains c = true := h.marked (c, piece) (by simp)
    have hrest : d.Cut ⟨piece, tail⟩ :=
      ⟨fun other hother => h.marked other (by simp [hother]),
        fun p hp => h.free p (by simpa [Segments.pieces] using Or.inr hp)⟩
    rw [join_cons]
    exact Tiles.next hfree hmark (ih _ piece hrest)

theorem split_tiles (d : Delimiters) (line : Text) :
    Tiles d 0 (d.split line) ((d.segments line).tail.map Prod.fst) line := by
  have h := placeTail_tiles d 0 _ _ (segments_cut d line)
  have hjoin : Segments.join ⟨(d.segments line).head, (d.segments line).tail⟩ = line :=
    segments_join d line
  rw [Nat.zero_add, hjoin] at h
  exact h

namespace Tiles

variable {d : Delimiters} {offset : Nat} {placed : List (Nat × Text)} {marks : List Char}
  {text : Text}

theorem first (h : Tiles d offset placed marks text) :
    ∃ piece, placed[0]? = some (offset, piece) := by
  cases h with
  | last => exact ⟨_, rfl⟩
  | next => exact ⟨_, rfl⟩

theorem count (h : Tiles d offset placed marks text) : placed.length = marks.length + 1 := by
  induction h with
  | last => rfl
  | next _ _ _ ih => simp [ih]

theorem free (h : Tiles d offset placed marks text) : ∀ p ∈ placed, d.Free p.2 := by
  induction h with
  | last hfree => simpa using hfree
  | next hfree _ _ ih => simpa using ⟨hfree, fun o p => ih (o, p)⟩

theorem marked (h : Tiles d offset placed marks text) : ∀ c ∈ marks, d.contains c = true := by
  induction h with
  | last => simp
  | next _ hmark _ ih => simpa using ⟨hmark, ih⟩

theorem joined (h : Tiles d offset placed marks text) :
    interleave (placed.map Prod.snd) marks = text := by
  induction h with
  | last => simp [interleave]
  | next _ _ _ ih => simp [interleave, ih]

theorem final (h : Tiles d offset placed marks text) :
    ∃ o piece, placed.getLast? = some (o, piece) ∧
      o + piece.byteLength = offset + text.byteLength := by
  induction h with
  | @last offset piece => exact ⟨offset, piece, rfl, rfl⟩
  | next _ _ behind ih =>
    obtain ⟨o, piece, hlast, hlength⟩ := ih
    refine ⟨o, piece, ?_, ?_⟩
    · rw [List.getLast?_cons, hlast]
      rfl
    · rw [hlength, byteLength_append, byteLength]
      omega

/-- What stands before the text has the length of the offset. -/
theorem slices (h : Tiles d offset placed marks text) (before : Text)
    (hbefore : before.byteLength = offset) :
    ∀ p ∈ placed, Slice (before ++ text) p.1 p.2 := by
  induction h generalizing before with
  | @last offset piece =>
    subst hbefore
    simpa using slice_append before piece []
  | @next offset piece rest c placed marks _ _ _ ih =>
    subst hbefore
    have hshift : before ++ (piece ++ c :: rest) = (before ++ (piece ++ [c])) ++ rest := by simp
    have hrest := ih (before ++ (piece ++ [c])) (by simp [byteLength_append, byteLength]; omega)
    rw [← hshift] at hrest
    intro p hp
    rcases List.mem_cons.mp hp with rfl | hp
    · exact slice_append before piece (c :: rest)
    · exact hrest p hp

/-- A delimiter starts where the piece before it ends, and ends where the piece behind it starts. -/
theorem between (h : Tiles d offset placed marks text) (before : Text)
    (hbefore : before.byteLength = offset) (k : Nat) (c : Char) (hc : marks[k]? = some c) :
    ∃ o piece next, placed[k]? = some (o, piece) ∧
      placed[k + 1]? = some (o + piece.byteLength + c.utf8Size, next) ∧
      Slice (before ++ text) (o + piece.byteLength) [c] := by
  induction h generalizing before k with
  | last => simp at hc
  | @next offset piece rest mark placed marks _ _ behind ih =>
    subst hbefore
    have hshift : before ++ (piece ++ mark :: rest) = (before ++ (piece ++ [mark])) ++ rest := by
      simp
    cases k with
    | zero =>
      obtain rfl : mark = c := by simpa using hc
      obtain ⟨next, hnext⟩ := behind.first
      refine ⟨_, piece, next, rfl, hnext, before ++ piece, rest, by simp, ?_⟩
      rw [byteLength_append]
    | succ k =>
      rw [hshift]
      exact ih _ (by simp [byteLength_append, byteLength]; omega) k (by simpa using hc)

end Tiles

end Delimiters

namespace Token
open Text

def stateBefore (state : QuoteState) (placed : List (Nat × Text)) (k : Nat) : QuoteState :=
  (ofPieces state (placed.take k)).2

def Opens (state : QuoteState) (piece : Text) : Prop :=
  state = .outside ∧ piece.head? = some '"'

instance (state : QuoteState) (piece : Text) : Decidable (Opens state piece) :=
  inferInstanceAs (Decidable (_ ∧ _))

theorem ofPieces_length (state : QuoteState) (placed : List (Nat × Text)) :
    (ofPieces state placed).1.length = placed.length := by
  induction placed generalizing state with
  | nil => rfl
  | cons p placed ih => simp [ofPieces, ih]

theorem ofPieces_token (state : QuoteState) (placed : List (Nat × Text)) (k o : Nat) (piece : Text)
    (h : placed[k]? = some (o, piece)) :
    (ofPieces state placed).1[k]? = some (ofPiece (stateBefore state placed k) o piece).1 := by
  induction placed generalizing state k with
  | nil => simp at h
  | cons p placed ih =>
    cases k with
    | zero =>
      obtain rfl : p = (o, piece) := by simpa using h
      rfl
    | succ k => exact ih (ofPiece state p.1 p.2).2 k (by simpa using h)

theorem ofPiece_opens (state : QuoteState) (o : Nat) (piece : Text) (h : Opens state piece) :
    piece = '"' :: (ofPiece state o piece).1.text ∧ (ofPiece state o piece).1.start = o + 1 := by
  obtain ⟨rfl, hhead⟩ := h
  obtain ⟨text, rfl⟩ := List.head?_eq_some_iff.mp hhead
  exact ⟨rfl, rfl⟩

theorem ofPiece_whole (state : QuoteState) (o : Nat) (piece : Text) (h : ¬Opens state piece) :
    (ofPiece state o piece).1.text = piece ∧ (ofPiece state o piece).1.start = o := by
  unfold ofPiece
  split
  · exact absurd ⟨rfl, rfl⟩ h
  · exact ⟨rfl, rfl⟩
  · exact ⟨rfl, rfl⟩

theorem ofPiece_slice (line : Text) (state : QuoteState) (o : Nat) (piece : Text)
    (h : Slice line o piece) :
    Slice line (ofPiece state o piece).1.start (ofPiece state o piece).1.text := by
  by_cases hopens : Opens state piece
  · obtain ⟨hpiece, hstart⟩ := ofPiece_opens state o piece hopens
    rw [hpiece] at h
    rw [hstart]
    exact slice_behind line _ o '"' h
  · obtain ⟨htext, hstart⟩ := ofPiece_whole state o piece hopens
    rw [htext, hstart]
    exact h

structure Positioned (line : Text) (state : QuoteState) (placed : List (Nat × Text))
    (tokens : List Token) : Prop where
  count : tokens.length = placed.length
  token : ∀ (k o : Nat) (piece : Text), placed[k]? = some (o, piece) →
    ∃ t, tokens[k]? = some t ∧ Slice line t.start t.text ∧
      if Opens (stateBefore state placed k) piece then piece = '"' :: t.text ∧ t.start = o + 1
      else t.text = piece ∧ t.start = o

theorem ofPieces_positioned (line : Text) (state : QuoteState) (placed : List (Nat × Text))
    (h : ∀ p ∈ placed, Slice line p.1 p.2) :
    Positioned line state placed (ofPieces state placed).1 where
  count := ofPieces_length state placed
  token := by
    intro k o piece hk
    refine ⟨_, ofPieces_token state placed k o piece hk, ?_, ?_⟩
    · exact ofPiece_slice line _ o piece (h (o, piece) (List.mem_of_getElem? hk))
    · split
      · rename_i hopens
        exact ofPiece_opens _ o piece hopens
      · rename_i hopens
        exact ofPiece_whole _ o piece hopens

end Token

namespace Delimiters
open Text

structure Lossless (d : Delimiters) (line : Text) (placed : List (Nat × Text))
    (marks : List Char) : Prop where
  count : placed.length = marks.length + 1
  free : ∀ p ∈ placed, d.Free p.2
  marked : ∀ c ∈ marks, d.contains c = true
  first : ∃ piece, placed[0]? = some (0, piece)
  between : ∀ (k : Nat) (c : Char), marks[k]? = some c →
    ∃ o piece next, placed[k]? = some (o, piece) ∧
      placed[k + 1]? = some (o + piece.byteLength + c.utf8Size, next) ∧
      Slice line (o + piece.byteLength) [c]
  final : ∃ o piece, placed.getLast? = some (o, piece) ∧
    o + piece.byteLength = line.byteLength
  slices : ∀ p ∈ placed, Slice line p.1 p.2
  joined : interleave (placed.map Prod.snd) marks = line

theorem split_decomposes (d : Delimiters) (line : Text) :
    Lossless d line (d.split line) ((d.segments line).tail.map Prod.fst) := by
  have h := split_tiles d line
  exact ⟨h.count, h.free, h.marked, h.first, h.between [] rfl, by simpa using h.final,
    h.slices [] rfl, h.joined⟩

/-- Splitting a line is lossless, and from whatever state a line is scanned, its tokens stand where
they say. -/
theorem split_lossless (d : Delimiters) (line : Text) :
    (∃ marks, Lossless d line (d.split line) marks) ∧
    ∀ state, Token.Positioned line state (d.split line) (Token.ofLine d state line).1 := by
  have hsplit := split_decomposes d line
  exact ⟨⟨_, hsplit⟩, fun state =>
    Token.ofPieces_positioned line state (d.split line) hsplit.slices⟩

/-- An ideographic space takes three bytes. The piece between it and the semicolon is empty, and the
piece behind that opens a literal. -/
theorem split_lossless_wide_space :
    let d := Delimiters.ofChars [';']
    let line := "a\u3000;\"b c".toList
    d.split line = [(0, "a".toList), (4, []), (5, "\"b".toList), (8, "c".toList)] ∧
    (∃ marks, Lossless d line (d.split line) marks ∧ marks.length = 3) ∧
    ∃ t, (Token.ofLine d .outside line).1[2]? = some t ∧ Slice line 6 "b".toList ∧
      t.start = 6 ∧ t.text = "b".toList := by
  intro d line
  obtain ⟨⟨marks, hlossless⟩, htokens⟩ := split_lossless d line
  have hsplit : d.split line = [(0, "a".toList), (4, []), (5, "\"b".toList), (8, "c".toList)] := by
    decide +kernel
  have hcount := hlossless.count
  rw [hsplit] at hcount
  obtain ⟨t, ht, hslice, hplace⟩ := (htokens .outside).token 2 5 "\"b".toList (by rw [hsplit]; rfl)
  rw [if_pos (by rw [hsplit]; decide +kernel)] at hplace
  obtain ⟨hpiece, hstart⟩ := hplace
  have htext : "b".toList = t.text := by simpa using hpiece
  rw [hstart, ← htext] at hslice
  exact ⟨hsplit, ⟨marks, hlossless, by simpa using hcount.symm⟩, t, ht, hslice, hstart, htext.symm⟩

end Delimiters

end IdentCase
