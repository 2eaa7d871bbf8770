import IdentCase.Proofs.Content

/-!
# Scanning across line ends

A newline delimits, so a piece ends there whether or not the text is divided behind it. Dividing
leaves one more piece at the end of each line. This piece is empty and moves the scan neither into a
literal nor out of one. Where the state is carried from line to line, the lines of a text therefore
have the tokens of the whole text, and ask for the same renames.
-/

set_option autoImplicit false

namespace IdentCase

namespace Delimiters
open Text

def further (n : Nat) (placed : Nat × Text) : Nat × Text := (n + placed.1, placed.2)

theorem placeTail_append (offset : Nat) (front tail : List (Char × Text)) :
    placeTail offset (front ++ tail) = placeTail offset front ++
      placeTail (offset + byteLength (front.flatMap fun (c, piece) => c :: piece)) tail := by
  induction front generalizing offset with
  | nil => simp [placeTail, byteLength]
  | cons part front ih =>
    obtain ⟨c, piece⟩ := part
    simp [placeTail, ih, byteLength, byteLength_append, Nat.add_assoc]

theorem placeTail_further (n offset : Nat) (tail : List (Char × Text)) :
    placeTail (n + offset) tail = (placeTail offset tail).map (further n) := by
  induction tail generalizing offset with
  | nil => rfl
  | cons part tail ih =>
    obtain ⟨c, piece⟩ := part
    simp [placeTail, further, Nat.add_assoc, ih]

/-- The pieces on both sides of a delimiter are cut apart from each other. -/
theorem split_append_mark (d : Delimiters) (x y : Text) (c : Char) (hc : d.contains c = true) :
    d.split (x ++ c :: y) =
      d.split x ++ (d.split y).map (further (x.byteLength + c.utf8Size)) := by
  have hlength : x.byteLength = (d.segments x).head.byteLength +
      byteLength ((d.segments x).tail.flatMap fun (c, piece) => c :: piece) := by
    rw [← byteLength_append]
    exact congrArg byteLength (segments_join d x).symm
  simp only [split, segments_append_mark d x y c hc, placeTail_append, ← hlength, placeTail,
    placeTail_further, List.map_cons, List.cons_append]
  rfl

end Delimiters

namespace Token

def moved (n : Nat) (t : Token) : Token := { t with start := n + t.start }

def worded (tokens : List Token) : List Token := tokens.filter fun t => !t.text.isEmpty

def finish (state : QuoteState) (scanned : List (List Token × QuoteState)) : QuoteState :=
  ((scanned.map Prod.snd).getLast?).getD state

def inText (offset : Nat) : List Text → List (List Token × QuoteState) → List Token
  | line :: lines, scanned :: others =>
    scanned.1.map (moved offset) ++ inText (offset + line.byteLength) lines others
  | _, _ => []

theorem moved_zero (tokens : List Token) : tokens.map (moved 0) = tokens := by
  have hid : moved 0 = id := by
    funext t
    simp [moved]
  rw [hid, List.map_id]

theorem moved_moved (m n : Nat) (tokens : List Token) :
    (tokens.map (moved n)).map (moved m) = tokens.map (moved (m + n)) := by
  rw [List.map_map]
  apply List.map_congr_left
  intro t _
  simp [moved, Nat.add_assoc]

theorem worded_append (front tokens : List Token) :
    worded (front ++ tokens) = worded front ++ worded tokens := List.filter_append ..

theorem worded_moved (n : Nat) (tokens : List Token) :
    worded (tokens.map (moved n)) = (worded tokens).map (moved n) := by
  rw [worded, List.filter_map]
  rfl

theorem finish_cons (state : QuoteState) (scanned : List Token × QuoteState)
    (others : List (List Token × QuoteState)) :
    finish state (scanned :: others) = finish scanned.2 others := by
  simp [finish, List.getLast?_cons]

theorem ofPiece_moved (state : QuoteState) (n start : Nat) (piece : Text) :
    ofPiece state (n + start) piece =
      ((ofPiece state start piece).1.moved n, (ofPiece state start piece).2) := by
  unfold ofPiece
  split <;> simp [moved, Nat.add_assoc]

theorem ofPieces_moved (state : QuoteState) (n : Nat) (pieces : List (Nat × Text)) :
    ofPieces state (pieces.map (Delimiters.further n)) =
      ((ofPieces state pieces).1.map (moved n), (ofPieces state pieces).2) := by
  induction pieces generalizing state with
  | nil => rfl
  | cons placed pieces ih => simp [ofPieces, Delimiters.further, ofPiece_moved, ih]

theorem ofPieces_append (state : QuoteState) (front pieces : List (Nat × Text)) :
    ofPieces state (front ++ pieces) =
      ((ofPieces state front).1 ++ (ofPieces (ofPieces state front).2 pieces).1,
        (ofPieces (ofPieces state front).2 pieces).2) := by
  induction front generalizing state with
  | nil => rfl
  | cons placed front ih => simp [ofPieces, ih]

/-- The scan goes over a delimiter as it goes from one line to the next. -/
theorem ofLine_append_mark (d : Delimiters) (state : QuoteState) (x y : Text) (c : Char)
    (hc : d.contains c = true) :
    ofLine d state (x ++ c :: y) =
      ((ofLine d state x).1 ++
          (ofLine d (ofLine d state x).2 y).1.map (moved (x.byteLength + c.utf8Size)),
        (ofLine d (ofLine d state x).2 y).2) := by
  rw [ofLine, d.split_append_mark x y c hc, ofPieces_append, ofPieces_moved]
  rfl

/-- Nothing to read leaves the state as it is and gives no word. -/
theorem ofLine_nil (d : Delimiters) (state : QuoteState) :
    worded (ofLine d state []).1 = [] ∧ (ofLine d state []).2 = state := by
  cases state <;> exact ⟨rfl, rfl⟩

/-- The piece behind a final delimiter is empty, so it is as if it were not there. -/
theorem ofLine_final_mark (d : Delimiters) (state : QuoteState) (x : Text) (c : Char)
    (hc : d.contains c = true) :
    worded (ofLine d state (x ++ [c])).1 = worded (ofLine d state x).1 ∧
      (ofLine d state (x ++ [c])).2 = (ofLine d state x).2 := by
  obtain ⟨hempty, hstate⟩ := ofLine_nil d (ofLine d state x).2
  rw [ofLine_append_mark d state x [] c hc, worded_append, worded_moved, hempty]
  exact ⟨List.append_nil _, hstate⟩

theorem ofLine_divide (d : Delimiters) (state : QuoteState) (body rest : Text) :
    worded (ofLine d state (body ++ '\n' :: rest)).1 =
        worded (ofLine d state (body ++ ['\n'])).1 ++
          (worded (ofLine d (ofLine d state (body ++ ['\n'])).2 rest).1).map
            (moved (Text.byteLength (body ++ ['\n']))) ∧
      (ofLine d state (body ++ '\n' :: rest)).2 =
        (ofLine d (ofLine d state (body ++ ['\n'])).2 rest).2 := by
  have hlength : Text.byteLength (body ++ ['\n']) = body.byteLength + '\n'.utf8Size := by
    simp [Text.byteLength_append, Text.byteLength]
  obtain ⟨htokens, hstate⟩ := ofLine_final_mark d state body '\n' d.contains_newline
  rw [ofLine_append_mark d state body rest '\n' d.contains_newline, htokens, hstate, hlength,
    worded_append, worded_moved]
  exact ⟨rfl, rfl⟩

/-- The scan of the lines, one after the other, is the scan of the text that they make up. -/
theorem ofLines_divided (d : Delimiters) (state : QuoteState) (offset : Nat) (lines : List Text)
    (h : Lines.Divided lines) :
    let scanned := ofLines d .file state lines
    worded (inText offset lines scanned) =
        (worded (ofLine d state (Lines.toText lines)).1).map (moved offset) ∧
      finish state scanned = (ofLine d state (Lines.toText lines)).2 := by
  induction h generalizing state offset with
  | nil =>
    obtain ⟨hempty, hstate⟩ := ofLine_nil d state
    refine ⟨?_, hstate.symm⟩
    simp only [Lines.toText, List.flatten_nil, hempty]
    rfl
  | last line hne hopen =>
    simp [Lines.toText, ofLines, inText, finish, worded_moved]
  | line body rest hbody h ih =>
    obtain ⟨htokens, hstate⟩ := ofLine_divide d state body (Lines.toText rest)
    obtain ⟨ihtokens, ihstate⟩ := ih (ofLine d state (body ++ ['\n'])).2
      (offset + Text.byteLength (body ++ ['\n']))
    have htext : Lines.toText ((body ++ ['\n']) :: rest) = body ++ '\n' :: Lines.toText rest := by
      simp [Lines.toText]
    -- The rest is scanned from the state behind the whole line, so its empty last piece has to be
    -- neutral in both states, inside a literal too.
    simp only [ofLines, QuoteCarry.nextLine, inText, finish_cons, htext]
    rw [worded_append, worded_moved, ihtokens, htokens, List.map_append, moved_moved, ihstate,
      hstate]
    exact ⟨rfl, rfl⟩

theorem ofLines_ofText (d : Delimiters) (state : QuoteState) (content : Text) :
    let lines := Lines.ofText content
    let scanned := ofLines d .file state lines
    worded (inText 0 lines scanned) = worded (ofLine d state content).1 ∧
      finish state scanned = (ofLine d state content).2 := by
  have h := ofLines_divided d state 0 _ (Lines.ofText_divided content)
  rwa [moved_zero, Lines.toText_ofText] at h

end Token

namespace RenameTable
open Token

theorem renames_worded (filter : CandidateFilter) (convention : Convention) (tokens : List Token) :
    (worded tokens).filterMap (renameOf? filter convention) =
      tokens.filterMap (renameOf? filter convention) := by
  rw [worded, List.filterMap_filter]
  apply List.filterMap_congr
  intro t _
  cases htext : t.text with
  | nil => simp [renameOf?, htext, CandidateFilter.admits]
  | cons c text => simp

theorem renames_inText (filter : CandidateFilter) (convention : Convention) (d : Delimiters)
    (carry : QuoteCarry) (state : QuoteState) (offset : Nat) (lines : List Text) :
    (inText offset lines (Token.ofLines d carry state lines)).filterMap
        (renameOf? filter convention) =
      ((Token.ofLines d carry state lines).flatMap Prod.fst).filterMap
        (renameOf? filter convention) := by
  induction lines generalizing state offset with
  | nil => rfl
  | cons line lines ih =>
    simp only [Token.ofLines, inText, List.flatMap_cons, List.filterMap_append, List.filterMap_map,
      ih]
    rfl

theorem ofLines_eq_text (d : Delimiters) (filter : CandidateFilter) (convention : Convention)
    (content : Text) :
    ofLines d filter convention .file (Lines.ofText content) =
      ofLines d filter convention .file [content] := by
  have htokens := (ofLines_ofText d .outside content).1
  have hrenames := congrArg (List.filterMap (renameOf? filter convention)) htokens
  rw [renames_worded, renames_worded, renames_inText] at hrenames
  simp only [ofLines, Token.ofLines, hrenames, List.flatMap_cons, List.flatMap_nil,
    List.append_nil]

end RenameTable

namespace Token

/-- When the state is carried over line ends, the lines of a text have the tokens of the text at the
same places, quoted alike, empty ones aside. They end in the same state and fill the same table. -/
theorem scan_ignores_division (d : Delimiters) (state : QuoteState) (content : Text) :
    let lines := Lines.ofText content
    let scanned := ofLines d .file state lines
    worded (inText 0 lines scanned) = worded (ofLine d state content).1 ∧
    finish state scanned = (ofLine d state content).2 ∧
    ∀ (filter : CandidateFilter) (convention : Convention),
      RenameTable.ofLines d filter convention .file lines =
        RenameTable.ofLines d filter convention .file [content] := by
  intro lines scanned
  obtain ⟨htokens, hstate⟩ := ofLines_ofText d state content
  exact ⟨htokens, hstate, fun filter convention =>
    RenameTable.ofLines_eq_text d filter convention content⟩

/-- The tokens that dividing adds are there, so they have to be left out. -/
example :
    let d := Delimiters.ofChars [',']
    let content := "a \"b\r\nc\",d".toList
    let lines := Lines.ofText content
    inText 0 lines (ofLines d .file .outside lines) ≠ (ofLine d .outside content).1 := by
  decide +kernel

end Token

end IdentCase
