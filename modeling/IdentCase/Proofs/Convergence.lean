import Mathlib.Algebra.Order.BigOperators.Group.List
import Mathlib.Algebra.Order.Ring.Nat
import IdentCase.Proofs.Accounting
import IdentCase.Proofs.Convention

/-!
# Repeated runs

A run over ASCII lines that reports something lowers the number of pieces that the convention would
change. A run that reports nothing found no candidate to change. So runs that each start from the
lines of the one before come to rest.
-/

set_option autoImplicit false

namespace IdentCase.Engine
open Renaming

def unconvertedIn (e : Engine) (line : Text) : Nat :=
  ((e.delimiters.split line).map Prod.snd).countP fun piece => e.convention.convert piece ≠ piece

def unconverted (e : Engine) (lines : List Text) : Nat := (lines.map e.unconvertedIn).sum

def next (e : Engine) (lines : List Text) : List Text := (e.run lines).lines

theorem unconverted_range (e : Engine) (lines : List Text) :
    e.unconverted lines =
      ((List.range lines.length).map fun i => e.unconvertedIn (lines[i]?.getD [])).sum := by
  have hlines : lines = (List.range lines.length).map fun i => lines[i]?.getD [] := by
    apply List.ext_getElem
    · simp
    · intro i hi _
      simp [hi]
  rw [unconverted]
  nth_rewrite 1 [hlines]
  rw [List.map_map]
  rfl

/-- The new identifier needs no change and brings no delimiter, so each exchange counts. -/
theorem swap_unconverted (e : Engine) (hd : e.delimiters.KeepsWords) (old line : Text)
    (ha : Text.Ascii old) (hne : e.convention.convert old ≠ old)
    (hpiece : old ∈ e.delimiters.pieces line) :
    e.unconvertedIn ((e.delimiters.segments line).swap old (e.convention.convert old)).join <
      e.unconvertedIn line := by
  let new := e.convention.convert old
  have hfree : ∀ piece ∈ e.delimiters.pieces line,
      e.delimiters.Free (Delimiters.exchange old new piece) := by
    intro piece hmem
    have hfree := e.delimiters.pieces_free line piece hmem
    by_cases h : piece = old
    · rw [h] at hfree ⊢
      rw [Delimiters.exchange_old]
      exact e.delimiters.convert_free hd e.convention old ha hfree
    · rwa [Delimiters.exchange_other old new piece h]
  have hafter (piece : Text) (h : e.convention.convert (Delimiters.exchange old new piece) ≠
      Delimiters.exchange old new piece) : piece ≠ old ∧ e.convention.convert piece ≠ piece := by
    by_cases heq : piece = old
    · rw [heq, Delimiters.exchange_old] at h
      exact absurd (Convention.convert_twice e.convention old ha) h
    · rw [Delimiters.exchange_other old new piece heq] at h
      exact ⟨heq, h⟩
  have hless (pieces : List Text) :
      (pieces.map (Delimiters.exchange old new)).countP
          (fun piece => e.convention.convert piece ≠ piece) ≤
        pieces.countP (fun piece => e.convention.convert piece ≠ piece) := by
    rw [List.countP_map]
    apply List.countP_mono_left
    intro piece _ h
    exact decide_eq_true (hafter piece (of_decide_eq_true h)).2
  obtain ⟨before, behind, hsplit⟩ := List.append_of_mem hpiece
  have hbefore := hless before
  have hbehind := hless behind
  have hold : e.convention.convert new = new := Convention.convert_twice e.convention old ha
  rw [unconvertedIn, unconvertedIn, Delimiters.split_pieces, Delimiters.split_pieces,
    Delimiters.Segments.swap, e.delimiters.pieces_map_free _ line hfree, hsplit, List.map_append,
    List.map_cons, Delimiters.exchange_old, List.countP_append, List.countP_append,
    List.countP_cons_of_neg (by simpa using hold), List.countP_cons_of_pos (by simpa using hne)]
  omega

/-- What the reports of a run over ASCII lines exchange. -/
theorem report_ascii (e : Engine) (lines : List Text) (ha : ∀ line ∈ lines, Text.Ascii line)
    (r : Report) (hr : r ∈ (e.run lines).reports) :
    Text.Ascii r.rename.old ∧ r.rename.new = e.convention.convert r.rename.old ∧
      e.convention.convert r.rename.old ≠ r.rename.old := by
  have hascii := RenameTable.ofLines_ascii _ _ _ _ _ ha _ (report_in_table e lines r hr)
  obtain ⟨hnew, hne⟩ := report_new e lines r hr
  exact ⟨hascii, hnew, hnew ▸ hne⟩

theorem next_ascii (e : Engine) (lines : List Text) (ha : ∀ line ∈ lines, Text.Ascii line) :
    ∀ line ∈ e.next lines, Text.Ascii line := by
  intro changed hchanged
  obtain ⟨i, hi⟩ := List.mem_iff_getElem?.mp hchanged
  by_cases h : ∃ r ∈ (e.run lines).reports, r.Touches (i + 1)
  · obtain ⟨r, hr, htouches⟩ := h
    obtain ⟨line, hline, -, hswap⟩ := touched_line e lines i r hr htouches
    obtain ⟨hold, hnew, -⟩ := report_ascii e lines ha r hr
    obtain rfl := Option.some.inj (hi.symm.trans hswap)
    intro c hc
    rcases e.delimiters.swap_chars _ _ line c hc with hmem | hmem
    · exact ha line (List.mem_of_getElem? hline) c hmem
    · rw [hnew] at hmem
      exact Convention.convert_ascii e.convention _ hold c hmem
  · have hsame := untouched_line e lines i fun r hr htouches => h ⟨r, hr, htouches⟩
    exact ha changed (List.mem_of_getElem? (hsame.symm.trans hi))

theorem touched_decreases (e : Engine) (hd : e.delimiters.KeepsWords) (lines : List Text)
    (ha : ∀ line ∈ lines, Text.Ascii line) (i : Nat) (r : Report)
    (hr : r ∈ (e.run lines).reports) (htouches : r.Touches (i + 1)) :
    i < lines.length ∧
      e.unconvertedIn ((e.next lines)[i]?.getD []) < e.unconvertedIn (lines[i]?.getD []) := by
  obtain ⟨line, hline, hpiece, hswap⟩ := touched_line e lines i r hr htouches
  obtain ⟨hold, hnew, hne⟩ := report_ascii e lines ha r hr
  refine ⟨(List.getElem?_eq_some_iff.mp hline).1, ?_⟩
  rw [next, hswap, hline, hnew]
  exact swap_unconverted e hd r.rename.old line hold hne hpiece

theorem next_decreases (e : Engine) (hd : e.delimiters.KeepsWords) (lines : List Text)
    (ha : ∀ line ∈ lines, Text.Ascii line) (h : (e.run lines).reports ≠ []) :
    e.unconverted (e.next lines) < e.unconverted lines := by
  have hlength : (e.next lines).length = lines.length := (passOver_sound e lines).length_eq
  rw [unconverted_range, unconverted_range e lines, hlength]
  apply List.sum_lt_sum
  · intro i _
    by_cases htouched : ∃ r ∈ (e.run lines).reports, r.Touches (i + 1)
    · obtain ⟨r, hr, htouches⟩ := htouched
      exact (touched_decreases e hd lines ha i r hr htouches).2.le
    · rw [next, untouched_line e lines i fun r hr htouches => htouched ⟨r, hr, htouches⟩]
  · obtain ⟨r, hr⟩ := List.exists_mem_of_ne_nil _ h
    obtain ⟨i, htouches⟩ := report_touches e lines r hr
    obtain ⟨hi, hless⟩ := touched_decreases e hd lines ha i r hr htouches
    exact ⟨i, List.mem_range.mpr hi, hless⟩

structure Settled (e : Engine) (lines : List Text) : Prop where
  no_report : (e.run lines).reports = []
  no_skip : (e.run lines).skipped = []
  unchanged : (e.run lines).lines = lines
  converted : ∀ t ∈ Token.unquoted e.delimiters e.carry lines,
    e.filter.admits t.text = true → e.convention.convert t.text = t.text

theorem settled_of_no_report (e : Engine) (lines : List Text) (h : (e.run lines).reports = []) :
    e.Settled lines := by
  have htable : (e.table lines).toList = [] := (no_report_iff e lines).mp h
  obtain ⟨hskipped, hlines⟩ := run_of_empty_table e lines htable
  exact ⟨h, hskipped, hlines, RenameTable.ofLines_empty _ _ _ _ _ htable⟩

/-- Each run that is not the last lowers the number of pieces to convert. -/
theorem settles_within (e : Engine) (hd : e.delimiters.KeepsWords) (lines : List Text)
    (ha : ∀ line ∈ lines, Text.Ascii line) :
    ∃ n ≤ e.unconverted lines, e.Settled (e.next^[n] lines) := by
  induction hm : e.unconverted lines using Nat.strong_induction_on generalizing lines with
  | h m ih =>
    by_cases hreports : (e.run lines).reports = []
    · exact ⟨0, Nat.zero_le m, settled_of_no_report e lines hreports⟩
    · have hless := next_decreases e hd lines ha hreports
      rw [hm] at hless
      obtain ⟨n, hn, hsettled⟩ := ih _ hless (e.next lines) (next_ascii e lines ha) rfl
      exact ⟨n + 1, by omega, hsettled⟩

/-- On ASCII lines, cut by delimiters that leave words whole, a run with a report lowers the number
of pieces that the convention would change. After at most that many runs nothing is reported or
skipped, all candidates follow the convention, and no further run changes a line. -/
theorem runs_settle (e : Engine) (hd : e.delimiters.KeepsWords) (lines : List Text)
    (ha : ∀ line ∈ lines, Text.Ascii line) :
    ((e.run lines).reports ≠ [] → e.unconverted (e.run lines).lines < e.unconverted lines) ∧
    (∃ n ≤ e.unconverted lines, e.Settled (e.next^[n] lines) ∧
      ∀ m, e.next^[m] (e.next^[n] lines) = e.next^[n] lines) ∧
    ∀ l ∈ Registry.builtin.languages, (Delimiters.ofChars l.delimiters.toList).KeepsWords := by
  refine ⟨next_decreases e hd lines ha, ?_, Delimiters.builtin_keepsWords⟩
  obtain ⟨n, hn, hsettled⟩ := settles_within e hd lines ha
  exact ⟨n, hn, hsettled, fun m => Function.iterate_fixed hsettled.unchanged m⟩

/-- Two renames that meet in a line, so that one of them waits for the second run. -/
theorem runs_settle_around_conflict :
    let e : Engine :=
      ⟨.snake, "mini", .ofChars [';', '=', '+'], ⟨[], [], IgnorePattern.accepts⟩, .file⟩
    let lines := ["a = oneThing + twoThing;\n".toList, "twoThing;\n".toList,
      "b = twoThing + threeThing;\n".toList]
    (e.run lines).reports ≠ [] ∧ (e.run lines).skipped ≠ [] ∧
      e.unconverted (e.run lines).lines < 5 ∧ ∃ n ≤ 5, e.Settled (e.next^[n] lines) := by
  intro e lines
  have hreports : (e.run lines).reports ≠ [] := by
    rw [run_reports, passOver_firsts]
    decide +kernel
  have hskipped : (e.run lines).skipped ≠ [] := by
    rw [run_skipped, passOver_firsts]
    decide +kernel
  have hcount : e.unconverted lines = 5 := by decide +kernel
  have hd : e.delimiters.KeepsWords := Delimiters.ofChars_keepsWords _ (by decide)
  obtain ⟨hless, ⟨n, hn, hsettled, -⟩, -⟩ := runs_settle e hd lines (by decide +kernel)
  rw [hcount] at hless hn
  exact ⟨hreports, hskipped, hless hreports, n, hn, hsettled⟩

end IdentCase.Engine
