import Mathlib.Data.List.Pairwise
import IdentCase.Proofs.Accounting
import IdentCase.Proofs.Convention

/-!
# A run as one substitution

Reports touch different lines, and each touches every line that has its old identifier. Together
they therefore exchange pieces by one rule that is the same for the whole file. On ASCII lines, cut
by delimiters that leave words whole, the rule brings in nothing that another rename is about.
-/

set_option autoImplicit false

namespace IdentCase

def Delimiters.pieceAt (d : Delimiters) (lines : List Text) (i k : Nat) : Option Text :=
  (lines[i]?).bind fun line => (d.pieces line)[k]?

def Report.substitute (reports : List Report) (piece : Text) : Text :=
  match reports.find? fun r => r.rename.old = piece with
  | some r => r.rename.new
  | none => piece

theorem Report.substitute_cases (reports : List Report) (piece : Text) :
    (∃ r ∈ reports, r.rename.old = piece ∧ substitute reports piece = r.rename.new) ∨
    ((∀ r ∈ reports, r.rename.old ≠ piece) ∧ substitute reports piece = piece) := by
  unfold substitute
  cases hfind : reports.find? fun r => r.rename.old = piece with
  | some r =>
    have hold := List.find?_some hfind
    rw [decide_eq_true_eq] at hold
    exact Or.inl ⟨r, List.mem_of_find?_eq_some hfind, hold, rfl⟩
  | none => exact Or.inr ⟨by simpa using hfind, rfl⟩

theorem Report.substitute_other (reports : List Report) (piece : Text)
    (h : ∀ r ∈ reports, r.rename.old ≠ piece) : substitute reports piece = piece := by
  rcases substitute_cases reports piece with ⟨r, hr, hold, -⟩ | ⟨-, hsame⟩
  · exact absurd hold (h r hr)
  · exact hsame

namespace Engine

theorem substitute_reported (e : Engine) (lines : List Text) (r : Report)
    (hr : r ∈ (e.run lines).reports) :
    Report.substitute (e.run lines).reports r.rename.old = r.rename.new := by
  rcases Report.substitute_cases (e.run lines).reports r.rename.old with
    ⟨s, hs, hold, hnew⟩ | ⟨hother, -⟩
  · rw [hnew, (report_new e lines s hs).1, hold, (report_new e lines r hr).1]
  · exact absurd rfl (hother r hr)

theorem touches_iff (e : Engine) (lines : List Text) (r : Report)
    (hr : r ∈ (e.run lines).reports) (i : Nat) :
    r.Touches (i + 1) ↔
      ∃ line, lines[i]? = some line ∧ r.rename.old ∈ e.delimiters.pieces line := by
  rw [← succ_mem_occurrences, ← report_covers e lines r hr, List.mem_map]
  rfl

theorem touched_by_one (e : Engine) (lines : List Text) (r s : Report)
    (hr : r ∈ (e.run lines).reports) (hs : s ∈ (e.run lines).reports) (n : Nat)
    (hrn : r.Touches n) (hsn : s.Touches n) : r = s := by
  by_contra hne
  have hsymm : Std.Symm fun r s : Report => ∀ n, r.Touches n → ¬s.Touches n :=
    ⟨fun r s h n hsn hrn => h n hrn hsn⟩
  exact (reports_apart e lines).forall hr hs hne n hrn hsn

/-- In a touched line no other report finds its old identifier. -/
theorem swap_substitutes (e : Engine) (lines : List Text) (i : Nat) (line : Text)
    (hline : lines[i]? = some line) (r : Report) (hr : r ∈ (e.run lines).reports)
    (htouches : r.Touches (i + 1)) :
    (e.delimiters.segments line).swap r.rename.old r.rename.new =
      (e.delimiters.segments line).map (Report.substitute (e.run lines).reports) := by
  apply Delimiters.Segments.map_congr
  intro piece hpiece
  by_cases hold : piece = r.rename.old
  · rw [hold, Delimiters.exchange_old, substitute_reported e lines r hr]
  · rw [Delimiters.exchange_other _ _ piece hold, Report.substitute_other]
    intro s hs heq
    have hsn : s.Touches (i + 1) := (touches_iff e lines s hs i).mpr ⟨line, hline, heq ▸ hpiece⟩
    have hsame := touched_by_one e lines r s hr hs (i + 1) htouches hsn
    rw [hsame] at hold
    exact hold heq.symm

/-- The lines of a run are those of the input with one substitution made in all of them. -/
theorem run_substitutes (e : Engine) (lines : List Text) :
    (e.run lines).lines = lines.map fun line =>
      ((e.delimiters.segments line).map (Report.substitute (e.run lines).reports)).join := by
  apply List.ext_getElem?
  intro i
  rw [List.getElem?_map]
  cases hline : lines[i]? with
  | none =>
    have hlength : (e.run lines).lines.length = lines.length := (passOver_sound e lines).length_eq
    rw [List.getElem?_eq_none_iff] at hline
    rw [Option.map_none, List.getElem?_eq_none_iff]
    omega
  | some line =>
    rw [Option.map_some]
    by_cases h : ∃ r ∈ (e.run lines).reports, r.Touches (i + 1)
    · obtain ⟨r, hr, htouches⟩ := h
      obtain ⟨origin, horigin, -, hswap⟩ := touched_line e lines i r hr htouches
      rw [hline] at horigin
      cases horigin
      rw [hswap, swap_substitutes e lines i line hline r hr htouches]
    · have hsame := untouched_line e lines i fun r hr htouches => h ⟨r, hr, htouches⟩
      rw [hsame, hline, Delimiters.segments_map_self]
      intro piece hpiece
      apply Report.substitute_other
      intro r hr heq
      exact h ⟨r, hr, (touches_iff e lines r hr i).mpr ⟨line, hline, heq ▸ hpiece⟩⟩

/-- A piece that a run over ASCII lines exchanges is converted, and it opens no literal. -/
theorem substitute_converts (e : Engine) (lines : List Text)
    (ha : ∀ line ∈ lines, Text.Ascii line) (piece : Text) :
    Report.substitute (e.run lines).reports piece = piece ∨
      (Text.Ascii piece ∧ piece.head? ≠ some '"' ∧
        Report.substitute (e.run lines).reports piece = e.convention.convert piece) := by
  rcases Report.substitute_cases (e.run lines).reports piece with ⟨r, hr, hold, hnew⟩ | ⟨-, hsame⟩
  · have hmem := report_in_table e lines r hr
    have hascii := RenameTable.ofLines_ascii _ _ _ _ _ ha _ hmem
    have hopens := RenameTable.ofLines_opens_none _ _ _ _ _ _ hmem
    rw [(report_new e lines r hr).1] at hnew
    rw [hold] at hascii hopens hnew
    exact Or.inr ⟨hascii, hopens, hnew⟩
  · exact Or.inl hsame

theorem substitute_free (e : Engine) (hd : e.delimiters.KeepsWords) (lines : List Text)
    (ha : ∀ line ∈ lines, Text.Ascii line) (piece : Text) (hfree : e.delimiters.Free piece) :
    e.delimiters.Free (Report.substitute (e.run lines).reports piece) := by
  rcases substitute_converts e lines ha piece with hsame | ⟨hascii, -, hconverted⟩
  · rw [hsame]
    exact hfree
  · rw [hconverted]
    exact e.delimiters.convert_free hd e.convention piece hascii hfree

/-- The pieces of a line stand one for one for those of the line it was. -/
theorem substituted_pieces (e : Engine) (hd : e.delimiters.KeepsWords) (lines : List Text)
    (ha : ∀ line ∈ lines, Text.Ascii line) (line : Text) :
    e.delimiters.pieces
        ((e.delimiters.segments line).map (Report.substitute (e.run lines).reports)).join =
      (e.delimiters.pieces line).map (Report.substitute (e.run lines).reports) := by
  apply e.delimiters.pieces_map_free
  intro piece hpiece
  exact substitute_free e hd lines ha piece (e.delimiters.pieces_free line piece hpiece)

theorem skipped_not_reported (e : Engine) (lines : List Text) (r : Report)
    (hr : r ∈ (e.run lines).reports) (q : Rename) (hq : q ∈ (e.run lines).skipped) :
    r.rename.old ≠ q.old := by
  have hlisted := (passOver_accounts e lines).listed
  rw [← reported_renames, ← run_skipped] at hlisted
  have hdistinct := (hlisted.pairwise_iff fun h => Ne.symm h).mpr (table_distinct e lines)
  exact (List.pairwise_append.mp hdistinct).2.2 r.rename (List.mem_map_of_mem hr) q hq

theorem skipped_in_table (e : Engine) (lines : List Text) (q : Rename)
    (hq : q ∈ (e.run lines).skipped) : q ∈ (e.table lines).toList :=
  (Renaming.run_in_order e.delimiters lines (e.table lines)).2.subset hq

theorem reported_new_not_old (e : Engine) (lines : List Text)
    (ha : ∀ line ∈ lines, Text.Ascii line) (r : Report) (hr : r ∈ (e.run lines).reports)
    (q : Rename) (hq : q ∈ (e.table lines).toList) : r.rename.new ≠ q.old :=
  RenameTable.ofLines_new_not_old _ _ _ _ _ ha _ q (report_in_table e lines r hr) hq

theorem substitute_not_old (e : Engine) (lines : List Text)
    (ha : ∀ line ∈ lines, Text.Ascii line) (r : Report) (hr : r ∈ (e.run lines).reports)
    (piece : Text) : Report.substitute (e.run lines).reports piece ≠ r.rename.old := by
  rcases Report.substitute_cases (e.run lines).reports piece with
    ⟨s, hs, -, hnew⟩ | ⟨hother, hsame⟩
  · rw [hnew]
    exact reported_new_not_old e lines ha s hs r.rename (report_in_table e lines r hr)
  · rw [hsame]
    exact Ne.symm (hother r hr)

theorem substitute_skipped (e : Engine) (lines : List Text)
    (ha : ∀ line ∈ lines, Text.Ascii line) (q : Rename) (hq : q ∈ (e.run lines).skipped)
    (piece : Text) : Report.substitute (e.run lines).reports piece = q.old ↔ piece = q.old := by
  constructor
  · intro h
    rcases Report.substitute_cases (e.run lines).reports piece with ⟨s, hs, -, hnew⟩ | ⟨-, hsame⟩
    · rw [hnew] at h
      exact absurd h (reported_new_not_old e lines ha s hs q (skipped_in_table e lines q hq))
    · rw [← h, hsame]
  · rintro rfl
    apply Report.substitute_other
    intro r hr
    exact skipped_not_reported e lines r hr q hq

theorem pieceAt_run (e : Engine) (hd : e.delimiters.KeepsWords) (lines : List Text)
    (ha : ∀ line ∈ lines, Text.Ascii line) (i k : Nat) :
    e.delimiters.pieceAt (e.run lines).lines i k =
      (e.delimiters.pieceAt lines i k).map (Report.substitute (e.run lines).reports) := by
  unfold Delimiters.pieceAt
  rw [run_substitutes, List.getElem?_map]
  cases lines[i]? with
  | none => rfl
  | some line =>
    rw [Option.map_some, Option.bind_some, Option.bind_some, substituted_pieces e hd lines ha,
      List.getElem?_map]

/-- A run over ASCII lines, cut by delimiters that leave words whole, leaves no piece equal to a
reported identifier and every piece equal to a skipped one in its place. All pieces are exchanged by
one rule, and no reported rename gives the old identifier of another rename. -/
theorem renames_all_or_none (e : Engine) (hd : e.delimiters.KeepsWords) (lines : List Text)
    (ha : ∀ line ∈ lines, Text.Ascii line) :
    let outcome := e.run lines
    (∀ r ∈ outcome.reports, ∀ line ∈ outcome.lines, r.rename.old ∉ e.delimiters.pieces line) ∧
    (∀ q ∈ outcome.skipped, ∀ i k, e.delimiters.pieceAt outcome.lines i k = some q.old ↔
      e.delimiters.pieceAt lines i k = some q.old) ∧
    (∀ i k, e.delimiters.pieceAt outcome.lines i k =
      (e.delimiters.pieceAt lines i k).map (Report.substitute outcome.reports)) ∧
    (∀ r ∈ outcome.reports, Report.substitute outcome.reports r.rename.old = r.rename.new) ∧
    ∀ r ∈ outcome.reports, ∀ q ∈ (e.table lines).toList, r.rename.new ≠ q.old := by
  intro outcome
  refine ⟨fun r hr changed hchanged hold => ?_, fun q hq i k => ?_, pieceAt_run e hd lines ha,
    substitute_reported e lines, reported_new_not_old e lines ha⟩
  · rw [run_substitutes] at hchanged
    obtain ⟨line, -, rfl⟩ := List.mem_map.mp hchanged
    rw [substituted_pieces e hd lines ha] at hold
    obtain ⟨piece, -, heq⟩ := List.mem_map.mp hold
    exact substitute_not_old e lines ha r hr piece heq
  · rw [pieceAt_run e hd lines ha, Option.map_eq_some_iff]
    constructor
    · rintro ⟨piece, hpiece, heq⟩
      rw [hpiece, (substitute_skipped e lines ha q hq piece).mp heq]
    · intro hpiece
      exact ⟨q.old, hpiece, (substitute_skipped e lines ha q hq q.old).mpr rfl⟩

/-- The skipped identifier shares a line with each of the two reported ones, and stays there too. -/
theorem renames_all_or_none_around_conflict :
    let e : Engine :=
      ⟨.snake, "mini", .ofChars [';', '=', '+'], ⟨[], [], IgnorePattern.accepts⟩, .file⟩
    let lines := ["a = oneThing + twoThing;\n".toList, "twoThing;\n".toList,
      "b = twoThing + threeThing;\n".toList]
    (∀ line ∈ (e.run lines).lines, "oneThing".toList ∉ e.delimiters.pieces line) ∧
      e.delimiters.pieceAt (e.run lines).lines 2 3 = some "twoThing".toList ∧
      e.delimiters.pieceAt (e.run lines).lines 2 6 = some "three_thing".toList := by
  intro e lines
  have hreports : ∃ r ∈ (e.run lines).reports,
      r.rename = ⟨"oneThing".toList, "one_thing".toList⟩ := by
    rw [run_reports, passOver_firsts]
    decide +kernel
  have hlast : ∃ r ∈ (e.run lines).reports,
      r.rename = ⟨"threeThing".toList, "three_thing".toList⟩ := by
    rw [run_reports, passOver_firsts]
    decide +kernel
  have hskipped : ⟨"twoThing".toList, "two_thing".toList⟩ ∈ (e.run lines).skipped := by
    rw [run_skipped, passOver_firsts]
    decide +kernel
  have hd : e.delimiters.KeepsWords := Delimiters.ofChars_keepsWords _ (by decide)
  obtain ⟨hgone, hstays, hrule, hnew, -⟩ := renames_all_or_none e hd lines (by decide +kernel)
  obtain ⟨r, hr, hrename⟩ := hreports
  obtain ⟨s, hs, hthree⟩ := hlast
  have hold := hgone r hr
  have hconverted := hnew s hs
  rw [hrename] at hold
  rw [hthree] at hconverted
  refine ⟨hold, (hstays _ hskipped 2 3).mpr (by decide +kernel), ?_⟩
  have hthird : e.delimiters.pieceAt lines 2 6 = some "threeThing".toList := by decide +kernel
  rw [hrule, hthird, Option.map_some, hconverted]

end Engine

end IdentCase
