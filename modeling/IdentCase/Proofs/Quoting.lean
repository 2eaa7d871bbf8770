import Mathlib.Data.List.Forall2
import IdentCase.Proofs.Substitution

/-!
# Literals

A run reads quotes when it collects renames and does not look at them again. A word inside a literal
is therefore exchanged exactly when the file has it, outside of literals, as a reported identifier.
What a run never does is move a quote: on ASCII lines, cut by delimiters that leave words whole,
every literal opens and closes where it did.
-/

set_option autoImplicit false

namespace IdentCase

namespace Token

theorem closesQuote_final (text : Text) (c : Char) :
    closesQuote (text ++ [c]) = true ↔ c = '"' ∧ text.getLast? ≠ some '\\' := by
  rcases List.eq_nil_or_concat' text with rfl | ⟨body, b, rfl⟩
  · by_cases hc : c = '"' <;> simp [closesQuote, hc]
  · by_cases hc : c = '"' <;> by_cases hb : b = '\\' <;> simp [closesQuote, hc, hb]

/-- A converted text closes a literal where the text did. -/
theorem closesQuote_convert (convention : Convention) (text : Text) (ha : Text.Ascii text) :
    closesQuote (convention.convert text) = closesQuote text := by
  rcases List.eq_nil_or_concat' text with rfl | ⟨body, c, rfl⟩
  · rw [Convention.convert_nil]
  · have hbody : Text.Ascii body := fun x hx => ha x (by simp [hx])
    by_cases hc : c = '"'
    · subst hc
      have hescape := Convention.convert_getLast convention body hbody '\\' (by decide)
      rw [Convention.convert_final convention body hbody '"' (by decide) (by decide),
        Bool.eq_iff_iff, closesQuote_final, closesQuote_final, Ne, hescape]
    · obtain ⟨converted, d, hconverted, -⟩ := Convention.convert_last convention body c ha
      have hlast := Convention.convert_getLast convention _ ha '"' (by decide)
      rw [hconverted] at hlast ⊢
      have hd : d = '"' ↔ c = '"' := by simpa using hlast
      rw [Bool.eq_iff_iff, closesQuote_final, closesQuote_final, hd]
      simp [hc]

def Converts (convention : Convention) (p q : Text) : Prop :=
  q = p ∨ (Text.Ascii p ∧ p.head? ≠ some '"' ∧ q = convention.convert p)

def Matches (convention : Convention) (t u : Token) : Prop :=
  u.quoted = t.quoted ∧ (u.text = t.text ∨ u.text = convention.convert t.text)

theorem ofPiece_outside (start : Nat) (piece : Text) (h : piece.head? ≠ some '"') :
    ofPiece .outside start piece = (⟨start, piece, false⟩, .outside) := by
  unfold ofPiece
  split
  · simp at h
  · rfl
  · contradiction

theorem ofPiece_inside (start : Nat) (piece : Text) :
    ofPiece .inside start piece =
      (⟨start, piece, true⟩, if closesQuote piece then .outside else .inside) := rfl

theorem ofPiece_start (state : QuoteState) (i j : Nat) (piece : Text) :
    (ofPiece state j piece).2 = (ofPiece state i piece).2 ∧
      (ofPiece state j piece).1.quoted = (ofPiece state i piece).1.quoted ∧
      (ofPiece state j piece).1.text = (ofPiece state i piece).1.text := by
  unfold ofPiece
  split <;> simp

theorem ofPiece_converts (convention : Convention) (state : QuoteState) (i j : Nat) (p q : Text)
    (h : Converts convention p q) :
    Matches convention (ofPiece state i p).1 (ofPiece state j q).1 ∧
      (ofPiece state j q).2 = (ofPiece state i p).2 := by
  rcases h with rfl | ⟨ha, hopens, rfl⟩
  · obtain ⟨hstate, hquoted, htext⟩ := ofPiece_start state i j q
    exact ⟨⟨hquoted, Or.inl htext⟩, hstate⟩
  · cases state with
    | outside =>
      have hconverted : (convention.convert p).head? ≠ some '"' := by
        rwa [Ne, Convention.convert_head convention p ha '"' (by decide)]
      rw [ofPiece_outside i p hopens, ofPiece_outside j _ hconverted]
      exact ⟨⟨rfl, Or.inr rfl⟩, rfl⟩
    | inside =>
      rw [ofPiece_inside, ofPiece_inside, closesQuote_convert convention p ha]
      exact ⟨⟨rfl, Or.inr rfl⟩, rfl⟩

theorem ofPieces_converts (convention : Convention) (state : QuoteState)
    (pieces others : List (Nat × Text))
    (h : List.Forall₂ (fun a b => Converts convention a.2 b.2) pieces others) :
    List.Forall₂ (Matches convention) (ofPieces state pieces).1 (ofPieces state others).1 ∧
      (ofPieces state others).2 = (ofPieces state pieces).2 := by
  induction h generalizing state with
  | nil => exact ⟨.nil, rfl⟩
  | @cons a b pieces others hab _ ih =>
    obtain ⟨hmatches, hstate⟩ := ofPiece_converts convention state a.1 b.1 a.2 b.2 hab
    obtain ⟨htokens, hfinish⟩ := ih (ofPiece state a.1 a.2).2
    simp only [ofPieces, hstate]
    exact ⟨.cons hmatches htokens, hfinish⟩

theorem ofLine_converts (d : Delimiters) (convention : Convention) (state : QuoteState)
    (line other : Text)
    (h : List.Forall₂ (Converts convention) (d.pieces line) (d.pieces other)) :
    List.Forall₂ (Matches convention) (ofLine d state line).1 (ofLine d state other).1 ∧
      (ofLine d state other).2 = (ofLine d state line).2 := by
  rw [← d.split_pieces, ← d.split_pieces, List.forall₂_map_left_iff,
    List.forall₂_map_right_iff] at h
  exact ofPieces_converts convention state (d.split line) (d.split other) h

/-- Each line leaves the state to the next that it left before. -/
theorem ofLines_converts (d : Delimiters) (convention : Convention) (carry : QuoteCarry)
    (state : QuoteState) (lines others : List Text)
    (h : List.Forall₂ (fun line other =>
      List.Forall₂ (Converts convention) (d.pieces line) (d.pieces other)) lines others) :
    List.Forall₂ (fun a b => List.Forall₂ (Matches convention) a.1 b.1 ∧ b.2 = a.2)
      (ofLines d carry state lines) (ofLines d carry state others) := by
  induction h generalizing state with
  | nil => exact .nil
  | @cons line other lines others hline _ ih =>
    have hscanned := ofLine_converts d convention state line other hline
    simp only [ofLines, hscanned.2]
    exact .cons hscanned (ih _)

def tokenAt (d : Delimiters) (carry : QuoteCarry) (lines : List Text) (i k : Nat) : Option Token :=
  ((ofLines d carry .outside lines)[i]?).bind fun scanned => scanned.1[k]?

theorem tokenAt_reads (d : Delimiters) (carry : QuoteCarry) (lines : List Text) (i k : Nat)
    (t : Token) (h : tokenAt d carry lines i k = some t) :
    ∃ piece, d.pieceAt lines i k = some piece ∧ t.Reads piece := by
  obtain ⟨scanned, hscanned, ht⟩ := Option.bind_eq_some_iff.mp h
  obtain ⟨line, hline, piece, hpiece, hreads⟩ :=
    ofLines_reads d carry .outside lines i scanned hscanned k t ht
  refine ⟨piece, ?_, hreads⟩
  rw [Delimiters.pieceAt, hline, Option.bind_some, hpiece]

end Token

namespace Engine

theorem substitute_changes_iff (e : Engine) (lines : List Text) (piece : Text) :
    Report.substitute (e.run lines).reports piece ≠ piece ↔
      ∃ r ∈ (e.run lines).reports, r.rename.old = piece := by
  constructor
  · intro hne
    rcases Report.substitute_cases (e.run lines).reports piece with ⟨r, hr, hold, -⟩ | ⟨-, hsame⟩
    · exact ⟨r, hr, hold⟩
    · exact absurd hsame hne
  · rintro ⟨r, hr, rfl⟩
    rw [substitute_reported e lines r hr]
    exact (report_new e lines r hr).2

theorem opening_kept (e : Engine) (lines : List Text) (text : Text) :
    Report.substitute (e.run lines).reports ('"' :: text) = '"' :: text := by
  apply Report.substitute_other
  intro r hr hold
  have hopens := RenameTable.ofLines_opens_none _ _ _ _ _ _ (report_in_table e lines r hr)
  rw [hold] at hopens
  exact hopens rfl

/-- A reported identifier inside a literal stands outside of literals too. -/
theorem renamed_in_literal (e : Engine) (lines : List Text) (t : Token) (piece : Text)
    (hreads : t.Reads piece)
    (hchanges : Report.substitute (e.run lines).reports piece ≠ piece) :
    ∃ u ∈ Token.unquoted e.delimiters e.carry lines, u.text = t.text := by
  rcases hreads with ⟨htext, -⟩ | ⟨-, hopens⟩
  · obtain ⟨r, hr, hold⟩ := (substitute_changes_iff e lines piece).mp hchanges
    rw [htext, ← hold]
    exact (RenameTable.mem_ofLines _ _ _ _ _ _ (report_in_table e lines r hr)).1
  · rw [hopens] at hchanges
    exact absurd (opening_kept e lines t.text) hchanges

/-- A run makes the same exchange inside and outside of literals. A piece inside a literal changes
exactly when it is a reported identifier. It stays when the file has no such token outside of
literals, and when it opens the literal. -/
theorem literals_kept_unless_renamed (e : Engine) (lines : List Text) :
    let outcome := e.run lines
    let change := Report.substitute outcome.reports
    outcome.lines = lines.map (fun line => ((e.delimiters.segments line).map change).join) ∧
    ∀ (i k : Nat) (t : Token), Token.tokenAt e.delimiters e.carry lines i k = some t →
      t.quoted = true →
      ∃ piece, e.delimiters.pieceAt lines i k = some piece ∧
        (piece = t.text ∨ piece = '"' :: t.text) ∧
        (change piece ≠ piece ↔ ∃ r ∈ outcome.reports, r.rename.old = piece) ∧
        ((∀ u ∈ Token.unquoted e.delimiters e.carry lines, u.text ≠ t.text) →
          change piece = piece) ∧
        (piece = '"' :: t.text → change piece = piece) := by
  intro outcome change
  refine ⟨run_substitutes e lines, fun i k t ht _ => ?_⟩
  obtain ⟨piece, hpiece, hreads⟩ := Token.tokenAt_reads e.delimiters e.carry lines i k t ht
  refine ⟨piece, hpiece, ?_, substitute_changes_iff e lines piece, fun hnone => ?_,
    fun hopens => ?_⟩
  · rcases hreads with ⟨htext, -⟩ | ⟨-, hopens⟩
    · exact Or.inl htext.symm
    · exact Or.inr hopens
  · by_contra hchanges
    obtain ⟨u, hu, htext⟩ := renamed_in_literal e lines t piece hreads hchanges
    exact hnone u hu htext
  · rw [hopens]
    exact opening_kept e lines t.text

/-- The last word of the literal, with its quote, is no token outside of literals. -/
theorem literal_kept_beside_rename :
    let e : Engine :=
      ⟨.snake, "mini", .ofChars ['(', ')', ';', ','], ⟨[], [], IgnorePattern.accepts⟩, .line⟩
    let lines := ["show(\"the fooBar\", fooBar);\n".toList]
    Token.tokenAt e.delimiters e.carry lines 0 2 = some ⟨10, "fooBar\"".toList, true⟩ ∧
      (e.run lines).reports ≠ [] ∧
      ∃ piece, e.delimiters.pieceAt lines 0 2 = some piece ∧
        Report.substitute (e.run lines).reports piece = piece := by
  intro e lines
  have htoken : Token.tokenAt e.delimiters e.carry lines 0 2 =
      some ⟨10, "fooBar\"".toList, true⟩ := by decide +kernel
  have hreports : (e.run lines).reports ≠ [] := by
    rw [run_reports, passOver_firsts]
    decide +kernel
  obtain ⟨piece, hpiece, -, -, hkept, -⟩ :=
    (literals_kept_unless_renamed e lines).2 0 2 _ htoken rfl
  exact ⟨htoken, hreports, piece, hpiece, hkept (by decide +kernel)⟩

/-- The word inside the literal is renamed together with the variable. -/
theorem literal_renamed_with_code :
    let e : Engine := ⟨.snake, "c", .ofChars Language.c.delimiters.toList,
      .ofNames Language.c.keywords.toList [], .file⟩
    let lines := ["int fooBar = 1;\n".toList, "printf(\"the fooBar value\");\n".toList]
    Token.tokenAt e.delimiters e.carry lines 1 2 = some ⟨12, "fooBar".toList, true⟩ ∧
      (e.run lines).lines[1]? = some "printf(\"the foo_bar value\");\n".toList := by
  intro e lines
  refine ⟨by decide +kernel, ?_⟩
  rw [run_lines, passOver_firsts]
  decide +kernel

theorem run_converts (e : Engine) (hd : e.delimiters.KeepsWords) (lines : List Text)
    (ha : ∀ line ∈ lines, Text.Ascii line) :
    List.Forall₂ (fun line other => List.Forall₂ (Token.Converts e.convention)
      (e.delimiters.pieces line) (e.delimiters.pieces other)) lines (e.run lines).lines := by
  rw [run_substitutes, List.forall₂_map_right_iff, List.forall₂_same]
  intro line _
  rw [substituted_pieces e hd lines ha, List.forall₂_map_right_iff, List.forall₂_same]
  intro piece _
  exact substitute_converts e lines ha piece

/-- The lines of a run over ASCII lines, cut by delimiters that leave words whole, have the tokens
of the input: line by line as many, quoted alike, each with its text or the conversion of it, and
the same state at the end. -/
theorem quoting_survives_run (e : Engine) (hd : e.delimiters.KeepsWords) (lines : List Text)
    (ha : ∀ line ∈ lines, Text.Ascii line) :
    List.Forall₂ (fun before after =>
        List.Forall₂ (Token.Matches e.convention) before.1 after.1 ∧ after.2 = before.2)
      (Token.ofLines e.delimiters e.carry .outside lines)
      (Token.ofLines e.delimiters e.carry .outside (e.run lines).lines) :=
  Token.ofLines_converts e.delimiters e.convention e.carry .outside lines (e.run lines).lines
    (run_converts e hd lines ha)

/-- An identifier that ends with a quote is renamed where the quote says nothing and where it closes
the literal of the line before; one with an escaped quote is renamed inside the literal. -/
theorem quoting_survives_trailing_quotes :
    let e : Engine := ⟨.camel, "mini", .ofChars [';'], ⟨[], [], IgnorePattern.accepts⟩, .file⟩
    let lines := ["ab_cd\" \"open\n".toList, "ab_cd\" x\n".toList,
      "ef_gh\\\";\"a ef_gh\\\" \n".toList]
    (e.run lines).lines = ["abCd\" \"open\n".toList, "abCd\" x\n".toList,
        "efGh\\\";\"a efGh\\\" \n".toList] ∧
      (Token.ofLines e.delimiters e.carry .outside (e.run lines).lines).map Prod.snd =
        [.inside, .outside, .inside] := by
  intro e lines
  have hlines : (e.run lines).lines = ["abCd\" \"open\n".toList, "abCd\" x\n".toList,
      "efGh\\\";\"a efGh\\\" \n".toList] := by
    rw [run_lines, passOver_firsts]
    decide +kernel
  have hd : e.delimiters.KeepsWords := Delimiters.ofChars_keepsWords _ (by decide)
  have hquoting := quoting_survives_run e hd lines (by decide +kernel)
  have hstates : List.Forall₂ Eq
      ((Token.ofLines e.delimiters e.carry .outside lines).map Prod.snd)
      ((Token.ofLines e.delimiters e.carry .outside (e.run lines).lines).map Prod.snd) := by
    rw [List.forall₂_map_left_iff, List.forall₂_map_right_iff]
    exact hquoting.imp fun _ _ h => h.2.symm
  rw [List.forall₂_eq_eq_eq] at hstates
  refine ⟨hlines, hstates.symm.trans ?_⟩
  decide +kernel

end Engine

end IdentCase
