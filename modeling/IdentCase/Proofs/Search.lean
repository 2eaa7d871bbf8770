import IdentCase.Proofs.Bytes
import IdentCase.Proofs.Occurrence

/-!
# The search for bounded occurrences

The search looks for the bytes of the term from an offset on. A bounded occurrence is kept and the
search goes on behind it. Any other is left, and the search goes on behind its first character. What
is found is therefore the leftmost choice of bounded occurrences that do not overlap. For a term
without delimiters these are the pieces equal to it.
-/

set_option autoImplicit false

namespace IdentCase.Occurrence
open Delimiters Text

def OccursAt (term text : Text) (o : Nat) : Prop := term.utf8 <+: text.utf8.drop o

instance (term text : Text) (o : Nat) : Decidable (OccursAt term text o) :=
  inferInstanceAs (Decidable (term.utf8 <+: text.utf8.drop o))

structure BoundedAt (d : Delimiters) (term text : Text) (o : Nat) : Prop where
  occurs : OccursAt term text o
  left : ∀ (before behind : Text) (c : Char), text = before ++ c :: behind →
    before.byteLength + c.utf8Size = o → d.contains c = true
  right : ∀ (before behind : Text) (c : Char), text = before ++ c :: behind →
    before.byteLength = o + term.byteLength → d.contains c = true

structure Next (term text : Text) (start o : Nat) : Prop where
  le : start ≤ o
  occurs : OccursAt term text o
  first : ∀ p, start ≤ p → p < o → ¬OccursAt term text p

inductive Scan (d : Delimiters) (term text : Text) : Nat → List Nat → Prop
  | stop {start : Nat} (none : ∀ o, start ≤ o → ¬OccursAt term text o) : Scan d term text start []
  | hit {start o : Nat} {found : List Nat} (next : Next term text start o)
      (bounded : BoundedAt d term text o)
      (rest : Scan d term text (o + term.byteLength) found) : Scan d term text start (o :: found)
  | miss {start o : Nat} {found : List Nat} (next : Next term text start o)
      (unbounded : ¬BoundedAt d term text o)
      (rest : Scan d term text (o + byteLength (term.take 1)) found) : Scan d term text start found

/-- The search character by character: the text before and behind the place it has come to, and the
positions it finds from there on. -/
inductive Walk (d : Delimiters) (term : Text) : Text → Text → List Nat → Prop
  | done (before : Text) : Walk d term before [] []
  | hit {before behind : Text} {found : List Nat}
      (stands : bounded d term before.getLast? (term ++ behind) = true)
      (rest : Walk d term (before ++ term) behind found) :
      Walk d term before (term ++ behind) (before.length :: found)
  | step {before behind : Text} {c : Char} {found : List Nat}
      (other : bounded d term before.getLast? (c :: behind) = false)
      (rest : Walk d term (before ++ [c]) behind found) : Walk d term before (c :: behind) found

theorem occursAt_append (term before rest : Text) :
    OccursAt term (before ++ rest) before.byteLength ↔ term <+: rest := by
  rw [OccursAt, drop_utf8, utf8_prefix_iff]

theorem OccursAt.boundary {term text : Text} {o : Nat} (h : OccursAt term text o)
    (hterm : term ≠ []) : text.Boundary o ∧ text.Boundary (o + term.byteLength) := by
  obtain ⟨before, behind, rfl, rfl⟩ := (utf8_occurs_iff term text o hterm).mp h
  refine ⟨⟨before, term ++ behind, rfl, rfl⟩, before ++ term, behind, ?_, ?_⟩
  · rw [List.append_assoc]
  · rw [byteLength_append]

/-- Two occurrences lie at least the first character of the term apart. -/
theorem OccursAt.apart {term text : Text} {o p : Nat} (ho : OccursAt term text o)
    (hp : OccursAt term text p) (hterm : term ≠ []) (hlt : o < p) :
    o + byteLength (term.take 1) ≤ p := by
  have hboundary := (hp.boundary hterm).1
  obtain ⟨before, behind, rfl, rfl⟩ := (utf8_occurs_iff term text o hterm).mp ho
  obtain ⟨c, rest, rfl⟩ := List.exists_cons_of_ne_nil hterm
  have hfirst : byteLength (List.take 1 (c :: rest)) = c.utf8Size := by simp [byteLength]
  rcases boundary_beside before (rest ++ behind) c p hboundary with h | h
  · omega
  · omega

theorem boundedAt_append (d : Delimiters) (term before rest : Text) :
    BoundedAt d term (before ++ rest) before.byteLength ↔
      bounded d term before.getLast? rest = true := by
  simp only [bounded, bounds, Bool.and_eq_true, Option.all_eq_true, List.isPrefixOf_iff_prefix]
  constructor
  · intro h
    obtain ⟨behind, rfl⟩ := (occursAt_append term before rest).mp h.occurs
    refine ⟨⟨⟨behind, rfl⟩, fun c hc => ?_⟩, fun c hc => ?_⟩
    · obtain ⟨start, rfl⟩ := List.getLast?_eq_some_iff.mp hc
      exact h.left start (term ++ behind) c (by simp) (by simp [byteLength_append, byteLength])
    · rw [List.drop_left] at hc
      obtain ⟨finish, rfl⟩ := List.head?_eq_some_iff.mp hc
      exact h.right (before ++ term) finish c (by simp) (by rw [byteLength_append])
  · rintro ⟨⟨⟨behind, rfl⟩, hleft⟩, hright⟩
    refine ⟨(occursAt_append term before _).mpr ⟨behind, rfl⟩, ?_, ?_⟩
    · intro start finish c hcut hlength
      have hsplit : before ++ (term ++ behind) = start ++ [c] ++ finish := by simpa using hcut
      have hends : byteLength before = byteLength (start ++ [c]) := by
        simp [byteLength_append, byteLength, hlength]
      obtain ⟨rfl, -⟩ := cut_unique _ _ _ _ hsplit hends
      exact hleft c (by simp)
    · intro start finish c hcut hlength
      have hsplit : before ++ term ++ behind = start ++ c :: finish := by simpa using hcut
      obtain ⟨-, rfl⟩ := cut_unique _ _ _ _ hsplit (by rw [byteLength_append, hlength])
      exact hright c (by simp)

theorem Next.unique {term text : Text} {start o p : Nat} (ho : Next term text start o)
    (hp : Next term text start p) : o = p := by
  rcases Nat.lt_trichotomy o p with h | h | h
  · exact absurd ho.occurs (hp.first o ho.le h)
  · exact h
  · exact absurd hp.occurs (ho.first p hp.le h)

namespace Scan
variable {d : Delimiters} {term text : Text} {start : Nat} {found : List Nat}

/-- A search may start earlier where nothing occurs before its start. -/
theorem earlier {later : Nat} (h : Scan d term text later found) (hle : start ≤ later)
    (hnone : ∀ p, start ≤ p → p < later → ¬OccursAt term text p) :
    Scan d term text start found := by
  have hnext (o : Nat) (ho : Next term text later o) : Next term text start o := by
    refine ⟨Nat.le_trans hle ho.le, ho.occurs, fun p hp hlt => ?_⟩
    by_cases hlater : later ≤ p
    · exact ho.first p hlater hlt
    · exact hnone p hp (by omega)
  cases h with
  | stop none =>
    refine stop fun o ho => ?_
    by_cases hlater : later ≤ o
    · exact none o hlater
    · exact hnone o ho (by omega)
  | hit next bounded rest => exact hit (hnext _ next) bounded rest
  | miss next unbounded rest => exact miss (hnext _ next) unbounded rest

theorem unique {found' : List Nat} (h : Scan d term text start found)
    (h' : Scan d term text start found') : found = found' := by
  induction h generalizing found' with
  | stop none =>
    cases h' with
    | stop => rfl
    | hit next => exact absurd next.occurs (none _ next.le)
    | miss next => exact absurd next.occurs (none _ next.le)
  | hit next bounded rest ih =>
    cases h' with
    | stop none => exact absurd next.occurs (none _ next.le)
    | hit next' bounded' rest' =>
      obtain rfl := next.unique next'
      rw [ih rest']
    | miss next' unbounded' rest' =>
      obtain rfl := next.unique next'
      exact absurd bounded unbounded'
  | miss next unbounded rest ih =>
    cases h' with
    | stop none => exact absurd next.occurs (none _ next.le)
    | hit next' bounded' rest' =>
      obtain rfl := next.unique next'
      exact absurd bounded' unbounded
    | miss next' unbounded' rest' =>
      obtain rfl := next.unique next'
      exact ih rest'

theorem lower (h : Scan d term text start found) : ∀ o ∈ found, start ≤ o := by
  induction h with
  | stop => simp
  | hit next bounded rest ih =>
    intro p hp
    rcases List.mem_cons.mp hp with rfl | hp
    · exact next.le
    · have hbehind := ih p hp
      have hle := next.le
      omega
  | miss next unbounded rest ih =>
    intro p hp
    have hbehind := ih p hp
    have hle := next.le
    omega

theorem bounded (h : Scan d term text start found) : ∀ o ∈ found, BoundedAt d term text o := by
  induction h with
  | stop => simp
  | hit next bounded rest ih =>
    intro p hp
    rcases List.mem_cons.mp hp with rfl | hp
    · exact bounded
    · exact ih p hp
  | miss next unbounded rest ih => exact ih

theorem apart (h : Scan d term text start found) :
    found.Pairwise fun o next => o + term.byteLength ≤ next := by
  induction h with
  | stop => exact .nil
  | hit next bounded rest ih => exact List.pairwise_cons.mpr ⟨rest.lower, ih⟩
  | miss next unbounded rest ih => exact ih

/-- What is not found begins inside something found before it. -/
theorem covers (h : Scan d term text start found) (hterm : term ≠ []) (p : Nat)
    (hp : BoundedAt d term text p) (hstart : start ≤ p) :
    p ∈ found ∨ ∃ o ∈ found, o < p ∧ p < o + term.byteLength := by
  induction h with
  | stop none => exact absurd hp.occurs (none p hstart)
  | @hit start o found next bounded rest ih =>
    rcases Nat.lt_trichotomy p o with h | rfl | h
    · exact absurd hp.occurs (next.first p hstart h)
    · exact Or.inl (by simp)
    · by_cases hinside : p < o + term.byteLength
      · exact Or.inr ⟨o, by simp, h, hinside⟩
      · rcases ih (by omega) with hmem | ⟨q, hq, hspan⟩
        · exact Or.inl (List.mem_cons_of_mem o hmem)
        · exact Or.inr ⟨q, List.mem_cons_of_mem o hq, hspan⟩
  | @miss start o found next unbounded rest ih =>
    rcases Nat.lt_trichotomy p o with h | rfl | h
    · exact absurd hp.occurs (next.first p hstart h)
    · exact absurd hp unbounded
    · exact ih (next.occurs.apart hp.occurs hterm h)

end Scan

/-- The positions are those of a walk that starts behind the characters to skip. -/
theorem positionsFrom_walk (d : Delimiters) (term before rest : Text) (skip : Nat)
    (hterm : term ≠ []) (hskip : skip ≤ rest.length) :
    Walk d term (before ++ rest.take skip) (rest.drop skip)
      (positionsFrom d term skip before.getLast? before.length rest) := by
  induction rest generalizing before skip with
  | nil => simpa [positionsFrom] using Walk.done before
  | cons c rest ih =>
    have hbehind := ih (before ++ [c])
    simp only [List.append_assoc, List.singleton_append, List.getLast?_append,
      List.getLast?_singleton, Option.some_or, List.length_append, List.length_singleton] at hbehind
    cases skip with
    | succ k => exact hbehind k (by simpa using hskip)
    | zero =>
      rw [List.take_zero, List.append_nil, List.drop_zero, positionsFrom]
      by_cases h : bounded d term before.getLast? (c :: rest) = true
      · rw [if_pos h]
        have hprefix : term <+: c :: rest := by
          simp only [bounded, Bool.and_eq_true, List.isPrefixOf_iff_prefix] at h
          exact h.1.1
        obtain ⟨behind, hcut⟩ := hprefix
        obtain ⟨a, tail, rfl⟩ := List.exists_cons_of_ne_nil hterm
        rw [List.cons_append] at hcut
        obtain ⟨rfl, rfl⟩ := List.cons.inj hcut
        have hrest := hbehind tail.length (by simp)
        rw [List.take_left, List.drop_left] at hrest
        exact Walk.hit h hrest
      · rw [if_neg h]
        have hrest := hbehind 0 (Nat.zero_le _)
        rw [List.take_zero, List.drop_zero] at hrest
        exact Walk.step (Bool.eq_false_iff.mpr h) hrest

theorem positions_walk (d : Delimiters) (term text : Text) (hterm : term ≠ []) :
    Walk d term [] text (positions d term text) := by
  have h := positionsFrom_walk d term [] text 0 hterm (Nat.zero_le _)
  simpa [positions, hterm] using h

/-- A walk finds what the search by bytes finds. -/
theorem Walk.scan {d : Delimiters} {term before rest : Text} {found : List Nat}
    (h : Walk d term before rest found) (hterm : term ≠ []) :
    Scan d term (before ++ rest) before.byteLength (found.map (before ++ rest).byteOffset) := by
  induction h with
  | done before =>
    refine Scan.stop fun o ho hoccurs => ?_
    obtain ⟨start, behind, hcut, rfl⟩ := (utf8_occurs_iff term _ o hterm).mp hoccurs
    have hlength := congrArg byteLength hcut
    have hpos := byteLength_pos term hterm
    simp only [List.append_nil, byteLength_append] at hlength
    omega
  | @hit before behind found stands rest ih =>
    have hat := (boundedAt_append d term before (term ++ behind)).mpr stands
    rw [List.append_assoc, byteLength_append] at ih
    rw [List.map_cons, byteOffset_left]
    exact Scan.hit ⟨Nat.le_refl _, hat.occurs, fun p hp hlt => by omega⟩ hat ih
  | @step before behind c found other rest ih =>
    have hnot := mt (boundedAt_append d term before (c :: behind)).mp (by simp [other])
    rw [List.append_assoc, List.singleton_append, byteLength_append] at ih
    by_cases hoccurs : OccursAt term (before ++ c :: behind) before.byteLength
    · obtain ⟨tail, hcut⟩ := (occursAt_append term before (c :: behind)).mp hoccurs
      obtain ⟨a, term, rfl⟩ := List.exists_cons_of_ne_nil hterm
      obtain ⟨rfl, -⟩ := List.cons.inj hcut
      exact Scan.miss ⟨Nat.le_refl _, hoccurs, fun p hp hlt => by omega⟩ hnot ih
    · -- Nothing occurs at the character, and nothing can start inside it.
      refine ih.earlier (Nat.le_add_right _ _) fun p hp hlt hat => ?_
      have hbeside := boundary_beside before behind c p (hat.boundary hterm).1
      have hwidth : byteLength [c] = c.utf8Size := by simp [byteLength]
      have hsame : p = before.byteLength := by omega
      exact hoccurs (hsame ▸ hat)

theorem find_scan (d : Delimiters) (term text : Text) (hterm : term ≠ []) :
    Scan d term text 0 (find d term text) :=
  (positions_walk d term text hterm).scan hterm

theorem find_ascending (d : Delimiters) (term text : Text) (hterm : term ≠ []) :
    (find d term text).Pairwise (· < ·) := by
  have hpos := byteLength_pos term hterm
  apply (find_scan d term text hterm).apart.imp
  intro o next h
  omega

/-- The search ends, and what it finds is the leftmost choice of bounded occurrences that do not
overlap. The offsets ascend by at least the length of the term, each occurrence starts and ends at
a boundary of the text, and a bounded occurrence that is left out starts inside one found before
it. -/
theorem find_leftmost (d : Delimiters) (term text : Text) (hterm : term ≠ []) :
    let found := find d term text
    (∀ result, Scan d term text 0 result ↔ result = found) ∧
    found.Pairwise (· < ·) ∧
    (found.Pairwise fun o next => o + term.byteLength ≤ next) ∧
    (∀ o ∈ found, BoundedAt d term text o ∧ text.Boundary o ∧
      text.Boundary (o + term.byteLength)) ∧
    ∀ p, BoundedAt d term text p → p ∉ found → ∃ o ∈ found, o < p ∧ p < o + term.byteLength := by
  intro found
  have hscan : Scan d term text 0 found := find_scan d term text hterm
  refine ⟨fun result => ⟨fun h => h.unique hscan, fun h => h ▸ hscan⟩,
    find_ascending d term text hterm, hscan.apart, ?_, ?_⟩
  · intro o ho
    have hbounded := hscan.bounded o ho
    exact ⟨hbounded, hbounded.occurs.boundary hterm⟩
  · intro p hp hmem
    exact (hscan.covers hterm p hp (Nat.zero_le p)).resolve_left hmem

/-- Of two bounded occurrences that overlap, the second is left out. -/
theorem find_leftmost_overlapping :
    let d := Delimiters.ofChars [',']
    let term : Text := "a,a".toList
    let text : Text := "é a,a,a".toList
    (find d term text = [3] ∧ BoundedAt d term text 3 ∧ text.Boundary 3 ∧ text.Boundary 6) ∧
      BoundedAt d term text 5 ∧ 5 ∉ find d term text ∧
      ∃ o ∈ find d term text, o < 5 ∧ 5 < o + term.byteLength := by
  intro d term text
  have hfound : find d term text = [3] := by decide +kernel
  have hsecond : BoundedAt d term text 5 :=
    (boundedAt_append d term "é a,".toList term).mpr (by decide +kernel)
  have hmem : 5 ∉ find d term text := by simp [hfound]
  obtain ⟨-, -, -, hbounded, hcovers⟩ := find_leftmost d term text (by decide +kernel)
  exact ⟨⟨hfound, hbounded 3 (by simp [hfound])⟩, hsecond, hmem, hcovers 5 hsecond hmem⟩

theorem places_offsets (term before : Text) (s : Segments) :
    (places term before.length s).map (before ++ s.join).byteOffset =
      (((before.byteLength, s.head) ::
        placeTail (before.byteLength + s.head.byteLength) s.tail).filter
          fun placed => placed.2 = term).map Prod.fst := by
  obtain ⟨head, tail⟩ := s
  induction tail generalizing head before with
  | nil =>
    have hoffset : (before ++ head).byteOffset before.length = before.byteLength :=
      byteOffset_left before head
    by_cases h : head = term
    · simp [places, placesBehind, placeTail, Segments.join, ← h, hoffset]
    · simp [places, placesBehind, placeTail, h]
  | cons part tail ih =>
    obtain ⟨c, piece⟩ := part
    have hrest := ih (before ++ head ++ [c]) piece
    have hlength : (before ++ head ++ [c]).length = before.length + head.length + 1 := by
      simp only [List.length_append, List.length_singleton]
    have hbytes : byteLength (before ++ head ++ [c]) =
        before.byteLength + head.byteLength + c.utf8Size := by
      simp only [byteLength_append, byteLength, Nat.add_zero]
    have hoffset : (before ++ (head ++ c :: Segments.join ⟨piece, tail⟩)).byteOffset
        before.length = before.byteLength := byteOffset_left before _
    rw [hlength, hbytes, List.append_assoc, List.append_assoc, List.singleton_append] at hrest
    rw [places_cons, join_cons, List.map_append, hrest]
    by_cases h : head = term
    · simp [placeTail, h, ← hoffset]
    · simp [placeTail, h]

theorem find_split (d : Delimiters) (term line : Text) (hterm : term ≠ []) (hfree : d.Free term) :
    find d term line =
      ((d.split line).filter fun placed => placed.2 = term).map Prod.fst := by
  have h := places_offsets term [] (d.segments line)
  rw [List.nil_append, segments_join, List.length_nil] at h
  rw [find, positions_free d term line hterm hfree, h, split]
  simp [byteLength]

/-- The search finds, in ascending order, the offsets of the pieces equal to the term. -/
theorem find_eq_pieces (d : Delimiters) (term text : Text) (hterm : term ≠ [])
    (hfree : d.Free term) :
    (find d term text).Pairwise (· < ·) ∧
      ∀ o, o ∈ find d term text ↔ (o, term) ∈ d.split text := by
  refine ⟨find_ascending d term text hterm, fun o => ?_⟩
  rw [find_split d term text hterm hfree]
  simp

/-- A term that overlaps itself, beside words that start or end with it. -/
theorem find_eq_pieces_overlapping :
    let d := Delimiters.ofChars [',']
    let term : Text := "aa".toList
    let text : Text := "éaa aaa,aa aaé".toList
    9 ∈ find d term text ∧ ∀ o ∈ [2, 5, 6, 12], OccursAt term text o ∧ o ∉ find d term text := by
  intro d term text
  have hpieces := (find_eq_pieces d term text (by decide +kernel) (by decide +kernel)).2
  have hoccurs : ∀ o ∈ [2, 5, 6, 12], OccursAt term text o := by decide +kernel
  have hwords : ∀ o ∈ [2, 5, 6, 12], (o, term) ∉ d.split text := by decide +kernel
  refine ⟨(hpieces 9).mpr (by decide +kernel), fun o ho => ⟨hoccurs o ho, fun hfound => ?_⟩⟩
  exact hwords o ho ((hpieces o).mp hfound)

end IdentCase.Occurrence
