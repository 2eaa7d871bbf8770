import IdentCase.Proofs.Search

/-!
# Splicing from the back

Replacing splices the new text into the line at one occurrence after the other, from the last to
the first. Each splice leaves everything before it as it was, so the offsets found in the line stay
valid and the result is the line with all occurrences exchanged at once.
-/

set_option autoImplicit false

namespace IdentCase.Occurrence
open Delimiters Text

def stretches (length : Nat) (bytes : List UInt8) (start : Nat) : List Nat → List (List UInt8)
  | [] => [bytes.drop start]
  | o :: offsets => (bytes.take o).drop start :: stretches length bytes (o + length) offsets

def spans (size : Text → Nat) (old : Text) (o : Nat) (gap : Text) : List Text → List Nat
  | [] => []
  | next :: gaps => (o + size gap) :: spans size old (o + size gap + size old) next gaps

def spliceBytes (bytes : List UInt8) (o length : Nat) (replacement : List UInt8) : List UInt8 :=
  bytes.take o ++ replacement ++ bytes.drop (o + length)

theorem intercalate_next (before middle gap next : Text) (gaps : List Text) :
    before ++ List.intercalate middle (gap :: next :: gaps) =
      before ++ gap ++ middle ++ List.intercalate middle (next :: gaps) := by
  simp

/-- A walk leaves gaps between the places where it finds the term. -/
theorem Walk.gaps {d : Delimiters} {old before rest : Text} {found : List Nat}
    (h : Walk d old before rest found) :
    ∃ (gap : Text) (gaps : List Text), List.intercalate old (gap :: gaps) = rest ∧
      found = spans List.length old before.length gap gaps := by
  induction h with
  | done before => exact ⟨[], [], by simp, rfl⟩
  | hit stands rest ih =>
    obtain ⟨gap, gaps, hrest, hfound⟩ := ih
    exact ⟨[], gap :: gaps, by simp [hrest], by simp [spans, hfound]⟩
  | @step before behind c found other rest ih =>
    obtain ⟨gap, gaps, hrest, hfound⟩ := ih
    refine ⟨c :: gap, gaps, by simp [hrest], ?_⟩
    have hplace : before.length + 1 + gap.length = before.length + (gap.length + 1) := by omega
    cases gaps with
    | nil => simpa [spans] using hfound
    | cons next gaps => simpa [spans, hplace] using hfound

theorem spans_offsets (old before gap : Text) (gaps : List Text) :
    (spans List.length old before.length gap gaps).map
        (before ++ List.intercalate old (gap :: gaps)).byteOffset =
      spans byteLength old before.byteLength gap gaps := by
  induction gaps generalizing before gap with
  | nil => rfl
  | cons next gaps ih =>
    have hrest := ih (before ++ gap ++ old) next
    have hfirst := byteOffset_left (before ++ gap) (old ++ List.intercalate old (next :: gaps))
    simp only [List.length_append, byteLength_append] at hrest hfirst
    rw [← List.append_assoc] at hfirst
    rw [intercalate_next, spans, spans, List.map_cons, hrest, hfirst]

/-- The invariant of splicing: what stands before the gaps is left as it is. -/
theorem splice_spans (old new before gap : Text) (gaps : List Text) :
    (spans List.length old before.length gap gaps).foldr
        (fun i text => splice text i old.length new)
        (before ++ List.intercalate old (gap :: gaps)) =
      before ++ List.intercalate new (gap :: gaps) := by
  induction gaps generalizing before gap with
  | nil => simp [spans]
  | cons next gaps ih =>
    have hrest := ih (before ++ gap ++ old) next
    have hspan := splice_between (before ++ gap) old new (List.intercalate new (next :: gaps))
    simp only [List.length_append] at hrest hspan
    rw [← List.append_assoc, ← List.append_assoc] at hspan
    rw [intercalate_next, intercalate_next, spans, List.foldr_cons, hrest, hspan]

theorem spliceBytes_between (before old new behind : Text) :
    spliceBytes (before ++ (old ++ behind)).utf8 before.byteLength old.byteLength new.utf8 =
      (before ++ (new ++ behind)).utf8 := by
  have hbehind : (before ++ (old ++ behind)).utf8.drop (before.byteLength + old.byteLength) =
      behind.utf8 := by rw [← List.append_assoc, ← byteLength_append, drop_utf8]
  rw [spliceBytes, take_utf8, hbehind, utf8_append, utf8_append, List.append_assoc]

theorem spliceBytes_spans (old new before gap : Text) (gaps : List Text) :
    (spans byteLength old before.byteLength gap gaps).foldr
        (fun o bytes => spliceBytes bytes o old.byteLength new.utf8)
        (before ++ List.intercalate old (gap :: gaps)).utf8 =
      (before ++ List.intercalate new (gap :: gaps)).utf8 := by
  induction gaps generalizing before gap with
  | nil => simp [spans]
  | cons next gaps ih =>
    have hrest := ih (before ++ gap ++ old) next
    have hspan := spliceBytes_between (before ++ gap) old new (List.intercalate new (next :: gaps))
    simp only [byteLength_append] at hrest hspan
    rw [← List.append_assoc, ← List.append_assoc] at hspan
    rw [intercalate_next, intercalate_next, spans, List.foldr_cons, hrest, hspan]

theorem stretches_spans (old before gap : Text) (gaps : List Text) :
    stretches old.byteLength (before ++ List.intercalate old (gap :: gaps)).utf8 before.byteLength
        (spans byteLength old before.byteLength gap gaps) =
      (gap :: gaps).map utf8 := by
  induction gaps generalizing before gap with
  | nil => simp [stretches, spans, drop_utf8]
  | cons next gaps ih =>
    have hrest := ih (before ++ gap ++ old) next
    have hgap : ((before ++ gap ++ old ++ List.intercalate old (next :: gaps)).utf8.take
        (before.byteLength + gap.byteLength)).drop before.byteLength = gap.utf8 := by
      rw [List.append_assoc, ← byteLength_append, take_utf8, drop_utf8]
    rw [byteLength_append, byteLength_append] at hrest
    rw [intercalate_next, spans, stretches, hgap, hrest, ← List.map_cons]

theorem replace_nil (d : Delimiters) (new line : Text) : replace? d [] new line = none := by
  simp [replace?, positions]

theorem replace_none_iff (d : Delimiters) (old new line : Text) :
    replace? d old new line = none ↔ find d old line = [] := by
  rw [replace?, find, List.map_eq_nil_iff]
  cases positions d old line with
  | nil => simp
  | cons i found => simp

theorem replace_some (d : Delimiters) (old new line : Text) (h : find d old line ≠ []) :
    replace? d old new line = some ((positions d old line).foldr
      (fun i text => splice text i old.length new) line) := by
  have hpositions : positions d old line ≠ [] := by
    intro hnone
    rw [find, hnone] at h
    exact h rfl
  rw [replace?]
  split
  · contradiction
  · rfl

/-- The line is cut at what the search finds into gaps with the old text between them. -/
theorem positions_gaps (d : Delimiters) (old line : Text) :
    ∃ (gap : Text) (gaps : List Text), List.intercalate old (gap :: gaps) = line ∧
      positions d old line = spans List.length old 0 gap gaps := by
  by_cases hold : old = []
  · subst hold
    exact ⟨line, [], by simp, by simp [positions, spans]⟩
  · exact (positions_walk d old line hold).gaps

theorem replace_pieces (d : Delimiters) (old new line changed : Text) (hold : d.Free old)
    (hnew : d.Free new) (h : replace? d old new line = some changed) :
    d.pieces changed = (d.pieces line).map (exchange old new) := by
  have hne : old ≠ [] := by
    rintro rfl
    rw [replace_nil] at h
    cases h
  obtain ⟨-, rfl⟩ := replaced_free d old new line changed hne hold h
  apply d.pieces_map_free
  intro piece hpiece
  by_cases hp : piece = old
  · rw [hp, exchange_old]
    exact hnew
  · rw [exchange_other old new piece hp]
    exact d.pieces_free line piece hpiece

/-- Replacing gives nothing exactly when nothing is found. Otherwise the stretches of the line
before, between and behind the occurrences stay, with the new text between them, which is also what
splicing the bytes at the offsets gives. If neither text holds a delimiter, then the pieces of the
result are those of the line, with the new text for the old. -/
theorem replace_at_once (d : Delimiters) (old new line : Text) :
    let offsets := find d old line
    (replace? d old new line = none ↔ offsets = []) ∧
    (∃ gaps : List Text, gaps.map utf8 = stretches old.byteLength line.utf8 0 offsets ∧
      List.intercalate old gaps = line ∧
      (offsets ≠ [] → replace? d old new line = some (List.intercalate new gaps)) ∧
      offsets.foldr (fun o bytes => spliceBytes bytes o old.byteLength new.utf8) line.utf8 =
        utf8 (List.intercalate new gaps)) ∧
    (d.Free old → d.Free new → ∀ changed, replace? d old new line = some changed →
      (d.split changed).map Prod.snd = ((d.split line).map Prod.snd).map (exchange old new)) := by
  intro offsets
  refine ⟨replace_none_iff d old new line, ?_, fun hold hnew changed h => ?_⟩
  · obtain ⟨gap, gaps, rfl, hpositions⟩ := positions_gaps d old line
    have hoffsets : offsets = spans byteLength old 0 gap gaps := by
      have hmap := spans_offsets old [] gap gaps
      rw [List.length_nil, ← hpositions] at hmap
      exact hmap
    refine ⟨gap :: gaps, ?_, rfl, fun hfound => ?_, ?_⟩
    · rw [hoffsets]
      exact (stretches_spans old [] gap gaps).symm
    · rw [replace_some d old new _ hfound, hpositions]
      exact congrArg some (splice_spans old new [] gap gaps)
    · rw [hoffsets]
      exact spliceBytes_spans old new [] gap gaps
  · rw [d.split_pieces, d.split_pieces]
    exact replace_pieces d old new line changed hold hnew h

/-- The new text holds the old one, and a longer word stays. -/
theorem replace_at_once_growing :
    let d := Delimiters.ofChars [';', '=']
    let old : Text := "foo".toList
    let new : Text := "foofoo".toList
    let line : Text := "é foo=foobar;foo\n".toList
    let changed : Text := "é foofoo=foobar;foofoo\n".toList
    find d old line = [3, 14] ∧ replace? d old new line = some changed ∧
      (∃ gaps : List Text, gaps.map utf8 = stretches old.byteLength line.utf8 0 [3, 14] ∧
        List.intercalate old gaps = line ∧ List.intercalate new gaps = changed) ∧
      (d.split changed).map Prod.snd = ((d.split line).map Prod.snd).map (exchange old new) := by
  intro d old new line changed
  have hfound : find d old line = [3, 14] := by decide +kernel
  have hchanged : replace? d old new line = some changed := by decide +kernel
  obtain ⟨-, ⟨gaps, hgaps, hline, hreplaced, -⟩, hpieces⟩ := replace_at_once d old new line
  have hresult := hreplaced (by rw [hfound]; simp)
  rw [hchanged, Option.some.injEq] at hresult
  rw [hfound] at hgaps
  exact ⟨hfound, hchanged, ⟨gaps, hgaps, hline, hresult.symm⟩,
    hpieces (by decide +kernel) (by decide +kernel) changed hchanged⟩

end IdentCase.Occurrence
