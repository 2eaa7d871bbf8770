import Mathlib.Algebra.Order.Ring.Nat
import IdentCase.Proofs.Renaming

/-!
# Reports as a patch

The reports of a pass, applied to the lines it started from, lead to its lines. Their edits are made
in different lines, so the order of the reports does not matter, and every edit takes effect.
-/

set_option autoImplicit false

namespace IdentCase.Report
open Renaming

/-- Edits of different lines that all fit take effect one after the other. -/
theorem apply_fitting (edits : List LineEdit) (lines : List Text) (count : Nat)
    (hfits : ∀ e ∈ edits, fits lines e = true)
    (happart : edits.Pairwise fun e f => e.line ≠ f.line) :
    edits.foldl applyEdit (lines, count) = (edits.foldl putEdit lines, count + edits.length) := by
  induction edits generalizing lines count with
  | nil => rfl
  | cons e edits ih =>
    obtain ⟨hhead, htail⟩ := List.pairwise_cons.mp happart
    have he := hfits e (by simp)
    have hrest : ∀ f ∈ edits, fits (putEdit lines e) f = true := fun f hf =>
      fits_putEdit lines e f he (hfits f (by simp [hf])) (hhead f hf)
    have hstep : applyEdit (lines, count) e = (putEdit lines e, count + 1) := by
      simp [applyEdit, he]
    rw [List.foldl_cons, hstep, ih _ _ hrest htail, List.foldl_cons, List.length_cons]
    simp only [Prod.mk.injEq, true_and]
    omega

/-- No applied rename goes unreported, and the reports keep their order. -/
theorem reports_of_applied (applied : List AppliedRename) (h : ∀ a ∈ applied, a.edits ≠ []) :
    (ofAppliedList applied).map (fun r => (r.rename, r.edits)) =
      applied.map fun a => (a.rename, a.edits) := by
  induction applied with
  | nil => rfl
  | cons a applied ih =>
    have hrest := ih fun b hb => h b (by simp [hb])
    cases he : a.edits with
    | nil => exact absurd he (h a (by simp))
    | cons first edits =>
      have hreport : ofApplied? a =
          some ⟨a.rename, describe a.rename a.edits.length, first.line, a.edits⟩ := by
        simp [ofApplied?, he]
      simp only [ofAppliedList, List.filterMap_cons, hreport, List.map_cons, he] at hrest ⊢
      rw [hrest]

theorem applied_of_report (applied : List AppliedRename) (r : Report)
    (hr : r ∈ ofAppliedList applied) :
    ∃ a ∈ applied, r.rename = a.rename ∧ r.edits = a.edits ∧
      r.edits.head?.map LineEdit.line = some r.firstLine := by
  obtain ⟨a, ha, hreport⟩ := List.mem_filterMap.mp hr
  refine ⟨a, ha, ?_⟩
  cases he : a.edits with
  | nil => simp [ofApplied?, he] at hreport
  | cons first edits =>
    simp only [ofApplied?, he, Option.some.injEq] at hreport
    subst hreport
    simp

theorem reported_edits (applied : List AppliedRename) (h : ∀ a ∈ applied, a.edits ≠ []) :
    (ofAppliedList applied).flatMap Report.edits = applied.flatMap AppliedRename.edits := by
  have hall := congrArg (List.flatMap Prod.snd) (reports_of_applied applied h)
  simpa [List.flatMap_map] using hall

theorem mem_changedLines (a : AppliedRename) (n : Nat) :
    n ∈ a.changedLines ↔ ∃ e ∈ a.edits, e.line = n := by
  simp [AppliedRename.changedLines]

/-- The first of ascending edits is in the least line. -/
theorem first_line_least (edits : List LineEdit) (n : Nat)
    (hasc : edits.Pairwise fun e f => e.line < f.line)
    (hfirst : edits.head?.map LineEdit.line = some n) :
    (∀ e ∈ edits, n ≤ e.line) ∧ ∃ e ∈ edits, e.line = n := by
  cases edits with
  | nil => simp at hfirst
  | cons first edits =>
    have hline : first.line = n := by simpa using hfirst
    refine ⟨fun e he => ?_, first, by simp, hline⟩
    rcases List.mem_cons.mp he with rfl | he
    · omega
    · have hlater := (List.pairwise_cons.mp hasc).1 e he
      omega

/-- Any list with the edits of a pass leads from its input to its lines. -/
theorem edits_lead_to_lines (d : Delimiters) (input : List Text) (pass : Renaming)
    (hp : Sound d input pass) (edits : List LineEdit)
    (hedits : edits.Perm (pass.applied.flatMap AppliedRename.edits)) :
    edits.foldl applyEdit (input, 0) = (pass.lines, edits.length) := by
  have hmem (e : LineEdit) : e ∈ edits ↔ ∃ a ∈ pass.applied, e ∈ a.edits := by
    rw [hedits.mem_iff, List.mem_flatMap]
  have hfits : ∀ e ∈ edits, fits input e = true := by
    intro e he
    obtain ⟨a, ha, hea⟩ := (hmem e).mp he
    exact hp.fits a ha e hea
  have happart : edits.Pairwise fun e f => e.line ≠ f.line := by
    rw [hedits.pairwise_iff Ne.symm, List.pairwise_flatMap]
    exact ⟨fun a ha => (hp.ascending a ha).imp Nat.ne_of_lt, hp.apart⟩
  rw [apply_fitting edits input 0 hfits happart, Nat.zero_add]
  -- A line was either edited once or is still the line of the input.
  have hlines : edits.foldl putEdit input = pass.lines := by
    apply List.ext_getElem?
    intro i
    by_cases hi : ∃ e ∈ edits, e.line - 1 = i
    · obtain ⟨e, he, rfl⟩ := hi
      obtain ⟨a, ha, hea⟩ := (hmem e).mp he
      rw [putEdits_at edits input hfits happart e he, hp.changed a ha e hea]
    · rw [putEdits_off edits input i fun e he heq => hi ⟨e, he, heq⟩]
      refine (hp.unclaimed i fun hclaimed => ?_).symm
      obtain ⟨a, ha, e, he, hline⟩ := (hp.claimed_iff (i + 1)).mp hclaimed
      exact hi ⟨e, (hmem e).mpr ⟨a, ha, he⟩, by omega⟩
  rw [hlines]

/-- The reports of any pass tell all that it did, each line at most once and as it was in the input,
and applying them in any order gives the lines of the pass. -/
theorem reports_patch (d : Delimiters) (lines : List Text) (table : RenameTable) :
    let pass := Renaming.run d lines table
    let reports := ofAppliedList pass.applied
    reports.map (fun r => (r.rename, r.edits)) = pass.applied.map (fun a => (a.rename, a.edits)) ∧
    (∀ r ∈ reports, r.edits ≠ [] ∧ (r.edits.Pairwise fun e f => e.line < f.line) ∧
      (∀ e ∈ r.edits, 1 ≤ e.line ∧ e.line ≤ lines.length ∧ r.firstLine ≤ e.line ∧
        lines[e.line - 1]? = some e.before) ∧
      ∃ e ∈ r.edits, e.line = r.firstLine) ∧
    (pass.applied.Pairwise fun a b => ∀ n ∈ a.changedLines, n ∉ b.changedLines) ∧
    ∀ shuffled : List Report, shuffled.Perm reports →
      applyAll lines shuffled = (pass.lines, (reports.map fun r => r.edits.length).sum) := by
  intro pass reports
  have hp : Sound d lines pass := run_sound d lines table
  refine ⟨reports_of_applied pass.applied hp.nonempty, fun r hr => ?_, ?_, fun shuffled hs => ?_⟩
  · obtain ⟨a, ha, -, hedits, hfirst⟩ := applied_of_report pass.applied r hr
    rw [hedits] at hfirst ⊢
    obtain ⟨hleast, hexists⟩ := first_line_least a.edits r.firstLine (hp.ascending a ha) hfirst
    refine ⟨hp.nonempty a ha, hp.ascending a ha, fun e he => ?_, hexists⟩
    obtain ⟨h1, hbefore⟩ := (fits_iff lines e).mp (hp.fits a ha e he)
    obtain ⟨hlength, -⟩ := List.getElem?_eq_some_iff.mp hbefore
    exact ⟨h1, by omega, hleast e he, hbefore⟩
  · refine hp.apart.imp fun happart n hna hnb => ?_
    obtain ⟨e, he, rfl⟩ := (mem_changedLines _ n).mp hna
    obtain ⟨f, hf, heq⟩ := (mem_changedLines _ _).mp hnb
    exact happart e he f hf heq.symm
  · have hedits : (shuffled.flatMap Report.edits).Perm
        (pass.applied.flatMap AppliedRename.edits) := by
      rw [← reported_edits pass.applied hp.nonempty]
      exact hs.flatMap_right Report.edits
    have hcount : (shuffled.flatMap Report.edits).length =
        (reports.map fun r => r.edits.length).sum := by
      rw [(hs.flatMap_right Report.edits).length_eq, List.length_flatMap]
    rw [applyAll, edits_lead_to_lines d lines pass hp _ hedits, hcount]

/-- Two reports, the later one first. What they put in is what other renames are about. -/
theorem reports_patch_reversed :
    let d := Delimiters.ofChars [';']
    let lines := ["one;".toList, "two;".toList, "one".toList]
    let entries : List Rename := [⟨"one".toList, "three".toList⟩, ⟨"two".toList, "a;one".toList⟩,
      ⟨"three".toList, "four".toList⟩]
    let reports := ofAppliedList (Renaming.run d lines (RenameTable.ofList entries)).applied
    reports.length = 2 ∧ applyAll lines reports.reverse =
      (["three;".toList, "a;one;".toList, "three".toList], 3) := by
  intro d lines entries
  dsimp only
  rw [(reports_patch d lines (RenameTable.ofList entries)).2.2.2 _ (List.reverse_perm _),
    run_ofList]
  decide +kernel

end IdentCase.Report
