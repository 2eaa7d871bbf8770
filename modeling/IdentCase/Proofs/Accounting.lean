import IdentCase.Proofs.Frame
import IdentCase.Proofs.Selection

/-!
# Every rename is accounted for

A pass has a way to drop a rename in silence: finding no line to change. It never takes that way
with a table of its own lines, whatever the new identifiers are made of, for replacing one
identifier leaves the pieces equal to another where they are. So each rename is applied or skipped,
and one that is applied has edits in all the lines that ask for it.
-/

set_option autoImplicit false

namespace IdentCase

theorem mem_occurrences (d : Delimiters) (lines : List Text) (term : Text) (n : Nat) :
    n ∈ occurrences d lines term ↔
      1 ≤ n ∧ ∃ line, lines[n - 1]? = some line ∧ term ∈ d.pieces line := by
  simp only [occurrences, List.mem_map, List.mem_filter, Prod.exists,
    List.mk_mem_zipIdx_iff_le_and_getElem?_sub, decide_eq_true_eq]
  constructor
  · rintro ⟨line, m, ⟨⟨hm, hline⟩, hpiece⟩, rfl⟩
    exact ⟨hm, line, hline, hpiece⟩
  · rintro ⟨hn, line, hline, hpiece⟩
    exact ⟨line, n, ⟨⟨hn, hline⟩, hpiece⟩, rfl⟩

theorem succ_mem_occurrences (d : Delimiters) (lines : List Text) (term : Text) (i : Nat) :
    i + 1 ∈ occurrences d lines term ↔ ∃ line, lines[i]? = some line ∧ term ∈ d.pieces line := by
  simp [mem_occurrences]

namespace Renaming

def Passes (d : Delimiters) (r : Renaming) (term : Text) : Prop :=
  ∀ a ∈ r.applied, a.rename.Named d ∧ term ≠ a.rename.old

theorem occurrences_stay (d : Delimiters) (input : List Text) (r : Renaming) (hr : Sound d input r)
    (term : Text) (hterm : r.Passes d term) :
    ∀ n ∈ occurrences d input term, n ∈ occurrences d r.lines term := by
  intro n hn
  have h1 : 1 ≤ n := ((mem_occurrences d input term n).mp hn).1
  rw [show n = n - 1 + 1 by omega, succ_mem_occurrences] at hn ⊢
  obtain ⟨line, hline, hpiece⟩ := hn
  rcases line_cases d input r hr (n - 1) with ⟨-, hsame⟩ | ⟨a, ha, e, -, -, -, hbefore, hafter, h⟩
  · exact ⟨line, hsame.trans hline, hpiece⟩
  · obtain ⟨hnamed, hne⟩ := hterm a ha
    rw [← Option.some.inj (hbefore.symm.trans hline)] at hpiece
    exact ⟨e.after, hafter, Occurrence.replaced_keeps d _ _ _ _ term hnamed.1 hnamed.2 h hne hpiece⟩

/-- A term found in unclaimed lines only is found as in the input. -/
theorem occurrences_unclaimed (d : Delimiters) (input : List Text) (r : Renaming)
    (hr : Sound d input r) (term : Text) (hterm : r.Passes d term)
    (hfree : ∀ n ∈ occurrences d r.lines term, n ∉ r.claimed) :
    occurrences d r.lines term = occurrences d input term := by
  apply Selection.occurrences_congr
  apply List.forall₂_iff_get.mpr
  refine ⟨hr.length_eq, fun i hi hinput => ?_⟩
  have hline : r.lines[i]? = some (r.lines.get ⟨i, hi⟩) := List.getElem?_eq_getElem hi
  have horigin : input[i]? = some (input.get ⟨i, hinput⟩) := List.getElem?_eq_getElem hinput
  by_cases hclaimed : i + 1 ∈ r.claimed
  · -- The claimed line does not have the term now, so it never had.
    have hnow : i + 1 ∉ occurrences d r.lines term := fun h => hfree _ h hclaimed
    have hthen : i + 1 ∉ occurrences d input term := fun h =>
      hnow (occurrences_stay d input r hr term hterm _ h)
    rw [succ_mem_occurrences] at hnow hthen
    have hnow' : term ∉ d.pieces (r.lines.get ⟨i, hi⟩) := fun h => hnow ⟨_, hline, h⟩
    have hthen' : term ∉ d.pieces (input.get ⟨i, hinput⟩) := fun h => hthen ⟨_, horigin, h⟩
    exact iff_of_false hnow' hthen'
  · rw [hr.unclaimed i hclaimed, horigin] at hline
    rw [Option.some.inj hline]

structure Accounts (d : Delimiters) (input : List Text) (done : List Rename) (r : Renaming) :
    Prop where
  listed : (r.applied.map AppliedRename.rename ++ r.skipped).Perm done
  covered : ∀ a ∈ r.applied, a.edits.map LineEdit.line = occurrences d input a.rename.old

theorem step_accounts (d : Delimiters) (input : List Text) (done : List Rename) (r : Renaming)
    (hr : Sound d input r) (h : Accounts d input done r) (q : Rename) (hq : q.Named d)
    (hfound : occurrences d input q.old ≠ []) (hpasses : r.Passes d q.old) :
    Accounts d input (done ++ [q]) (step d r q) := by
  have hedits := Selection.edits_occurrences d q hq r.lines
  rcases step_cases d r q with ⟨-, hstep⟩ | ⟨hnone, -⟩ | ⟨-, hfree, hstep⟩
  · rw [hstep]
    refine ⟨?_, h.covered⟩
    rw [← List.append_assoc]
    exact h.listed.append_right [q]
  · obtain ⟨n, hn⟩ := List.exists_mem_of_ne_nil _ hfound
    have hworking := occurrences_stay d input r hr q.old hpasses n hn
    rw [← hedits, hnone] at hworking
    simp at hworking
  · have hlines : ∀ n ∈ occurrences d r.lines q.old, n ∉ r.claimed := by
      intro n hn
      rw [← hedits] at hn
      obtain ⟨e, he, rfl⟩ := List.mem_map.mp hn
      exact hfree e he
    have hsame := occurrences_unclaimed d input r hr q.old hpasses hlines
    rw [hstep]
    constructor
    · rw [List.map_append, List.append_assoc]
      have hswap : ([q] ++ r.skipped).Perm (r.skipped ++ [q]) := List.perm_append_comm
      have hall := hswap.append_left (r.applied.map AppliedRename.rename)
      rw [← List.append_assoc _ r.skipped] at hall
      exact hall.trans (h.listed.append_right [q])
    · exact List.forall_mem_append.mpr
        ⟨h.covered, List.forall_mem_singleton.mpr (hedits.trans hsame)⟩

theorem steps_account (d : Delimiters) (input : List Text) (renames done : List Rename)
    (r : Renaming) (hr : Sound d input r) (h : Accounts d input done r)
    (hnamed : ∀ q ∈ done ++ renames, q.Named d)
    (hfound : ∀ q ∈ renames, occurrences d input q.old ≠ [])
    (hdistinct : (done ++ renames).Pairwise fun p q => p.old ≠ q.old) :
    Accounts d input (done ++ renames) (renames.foldl (step d) r) := by
  induction renames generalizing done r with
  | nil => simpa using h
  | cons q renames ih =>
    have hpasses : r.Passes d q.old := by
      intro a ha
      have hdone : a.rename ∈ done :=
        h.listed.subset (List.mem_append_left _ (List.mem_map_of_mem ha))
      have hapart := (List.pairwise_append.mp hdistinct).2.2 a.rename hdone q (by simp)
      exact ⟨hnamed a.rename (by simp [hdone]), Ne.symm hapart⟩
    have hstep := step_accounts d input done r hr h q (hnamed q (by simp)) (hfound q (by simp))
      hpasses
    have hsplit : done ++ q :: renames = done ++ [q] ++ renames := by simp
    rw [hsplit] at hnamed hdistinct ⊢
    exact ih (done ++ [q]) (step d r q) (step_sound d input r q hr) hstep hnamed
      (fun p hp => hfound p (by simp [hp])) hdistinct

theorem run_accounts (d : Delimiters) (lines : List Text) (table : RenameTable)
    (hnamed : ∀ q ∈ table.toList, q.Named d)
    (hfound : ∀ q ∈ table.toList, occurrences d lines q.old ≠ [])
    (hdistinct : table.toList.Pairwise fun p q => p.old ≠ q.old) :
    Accounts d lines table.toList (run d lines table) := by
  have hstart : Accounts d lines [] (start lines) := ⟨.nil, by simp [start]⟩
  exact steps_account d lines table.toList [] (start lines) (start_sound d lines) hstart hnamed
    hfound hdistinct

end Renaming

namespace Engine
open Renaming

theorem table_distinct (e : Engine) (lines : List Text) :
    (e.table lines).toList.Pairwise fun p q => p.old ≠ q.old := by
  rw [table, RenameTable.toList_ofLines]
  exact RenameTable.firsts_distinct _

theorem table_named (e : Engine) (lines : List Text) :
    ∀ q ∈ (e.table lines).toList, q.Named e.delimiters := by
  intro q hq
  obtain ⟨hne, hfree, -⟩ := RenameTable.ofLines_piece _ _ _ _ _ q hq
  exact ⟨hne, hfree⟩

theorem table_found (e : Engine) (lines : List Text) :
    ∀ q ∈ (e.table lines).toList, occurrences e.delimiters lines q.old ≠ [] := by
  intro q hq
  obtain ⟨-, -, line, hline, hpiece⟩ := RenameTable.ofLines_piece _ _ _ _ _ q hq
  obtain ⟨i, hi⟩ := List.mem_iff_getElem?.mp hline
  have hmem := (succ_mem_occurrences e.delimiters lines q.old i).mpr ⟨line, hi, hpiece⟩
  exact List.ne_nil_of_mem hmem

theorem passOver_accounts (e : Engine) (lines : List Text) :
    Accounts e.delimiters lines (e.table lines).toList (e.passOver lines) :=
  run_accounts e.delimiters lines (e.table lines) (table_named e lines) (table_found e lines)
    (table_distinct e lines)

theorem reported_renames (e : Engine) (lines : List Text) :
    (e.run lines).reports.map Report.rename =
      (e.passOver lines).applied.map AppliedRename.rename := by
  have h := Report.reports_of_applied _ (passOver_sound e lines).nonempty
  have hfirst := congrArg (List.map Prod.fst) h
  rw [List.map_map, List.map_map] at hfirst
  exact hfirst

theorem report_covers (e : Engine) (lines : List Text) (r : Report)
    (hr : r ∈ (e.run lines).reports) :
    r.edits.map LineEdit.line = occurrences e.delimiters lines r.rename.old := by
  obtain ⟨a, ha, hrename, hedits⟩ := report_applied e lines r hr
  rw [hrename, hedits]
  exact (passOver_accounts e lines).covered a ha

theorem first_report (e : Engine) (lines : List Text) :
    ((e.run lines).reports.map Report.rename).head? = (e.table lines).toList.head? := by
  rw [reported_renames]
  cases htable : (e.table lines).toList with
  | nil => simp [passOver, Renaming.run, htable, start]
  | cons q rest =>
    have hmem : q ∈ (e.table lines).toList := by simp [htable]
    have hedits : editsFrom e.delimiters q 1 lines ≠ [] := by
      intro hnone
      have hlines := Selection.edits_occurrences e.delimiters q (table_named e lines q hmem) lines
      rw [hnone] at hlines
      exact table_found e lines q hmem hlines.symm
    exact run_applies_first e.delimiters lines (e.table lines) q rest htable hedits

theorem no_report_iff (e : Engine) (lines : List Text) :
    (e.run lines).reports = [] ↔ (e.table lines).toList = [] := by
  have hfirst := first_report e lines
  rw [← List.map_eq_nil_iff, ← List.head?_eq_none_iff, hfirst, List.head?_eq_none_iff]

theorem run_of_empty_table (e : Engine) (lines : List Text) (h : (e.table lines).toList = []) :
    (e.run lines).skipped = [] ∧ (e.run lines).lines = lines := by
  have hpass : Renaming.run e.delimiters lines (e.table lines) = start lines := by
    rw [Renaming.run, h, List.foldl_nil]
  rw [run, hpass]
  exact ⟨rfl, rfl⟩

/-- Every rename of the table is reported or skipped, once and in order, and nothing else is. The
edits of a report are in exactly the lines that have its old identifier as a piece. The first rename
is always reported, so a run without changes is a run with an empty table, and it leaves the lines
alone. -/
theorem run_accounts_for_table (e : Engine) (lines : List Text) :
    let table := (e.table lines).toList
    let outcome := e.run lines
    let reported := outcome.reports.map Report.rename
    (reported ++ outcome.skipped).Perm table ∧ (reported ++ outcome.skipped).Nodup ∧
    reported.Sublist table ∧ outcome.skipped.Sublist table ∧
    (∀ r ∈ outcome.reports,
      r.edits.map LineEdit.line = occurrences e.delimiters lines r.rename.old) ∧
    reported.head? = table.head? ∧
    (outcome.hasChanges = false ↔ (e.table lines).isEmpty = true) ∧
    ((e.table lines).isEmpty = true → outcome.skipped = [] ∧ outcome.lines = lines) := by
  intro table outcome reported
  have hreported : reported = (e.passOver lines).applied.map AppliedRename.rename :=
    reported_renames e lines
  have hperm : (reported ++ outcome.skipped).Perm table := by
    rw [hreported]
    exact (passOver_accounts e lines).listed
  have hnodup : table.Nodup :=
    List.Pairwise.imp (fun hne heq => hne (congrArg Rename.old heq)) (table_distinct e lines)
  have horder := run_in_order e.delimiters lines (e.table lines)
  have hempty : (e.table lines).isEmpty = true ↔ table = [] := by
    simp [table, RenameTable.isEmpty, RenameTable.toList]
  refine ⟨hperm, hperm.nodup_iff.mpr hnodup, hreported ▸ horder.1, horder.2, report_covers e lines,
    first_report e lines, ?_, fun h => run_of_empty_table e lines (hempty.mp h)⟩
  have hnone : outcome.hasChanges = false ↔ outcome.reports = [] := by simp [Outcome.hasChanges]
  rw [hnone, hempty]
  exact no_report_iff e lines

/-- The first conversion brings in the second old identifier, and that one is skipped for it. -/
theorem run_accounts_for_skipped :
    let e : Engine := ⟨.pascal, "mini", .ofChars [';', 'X'], ⟨[], [], IgnorePattern.accepts⟩, .file⟩
    let lines := ["a_xb;\n".toList, "b;\n".toList]
    (e.run lines).reports.map (fun r => (String.ofList r.rename.old, r.edits.map LineEdit.line)) =
        [("a_xb", [1])] ∧
      ((e.run lines).skipped.map fun q => String.ofList q.old) = ["b"] ∧
      (e.run ["B;\n".toList]).skipped = [] ∧ (e.run ["B;\n".toList]).lines = ["B;\n".toList] := by
  intro e lines
  have hcovers := (run_accounts_for_table e lines).2.2.2.2.1
  have hempty : (e.table ["B;\n".toList]).isEmpty = true := by
    rw [RenameTable.isEmpty, ← Array.isEmpty_toList, ← RenameTable.toList, table,
      RenameTable.toList_ofLines]
    decide +kernel
  obtain ⟨hskipped, hlines⟩ := (run_accounts_for_table e ["B;\n".toList]).2.2.2.2.2.2.2 hempty
  refine ⟨?_, ?_, hskipped, hlines⟩
  · have hedits : (e.run lines).reports.map
        (fun r => (String.ofList r.rename.old, r.edits.map LineEdit.line)) =
        (e.run lines).reports.map
          (fun r => (String.ofList r.rename.old, occurrences e.delimiters lines r.rename.old)) :=
      List.map_congr_left fun r hr => by rw [hcovers r hr]
    rw [hedits, run_reports, passOver_firsts]
    decide +kernel
  · rw [run_skipped, passOver_firsts]
    decide +kernel

end Engine

end IdentCase
