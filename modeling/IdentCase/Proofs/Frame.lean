import IdentCase.Engine
import IdentCase.Proofs.Occurrence
import IdentCase.Proofs.Patch
import IdentCase.Proofs.RenameTable

/-!
# What a run leaves alone

A run changes a line only by exchanging whole pieces, all of them equal to one candidate, for the
conversion of that candidate. Delimiters, parts of words, keywords and ignored words stay.
-/

set_option autoImplicit false

namespace IdentCase

def Report.Touches (r : Report) (n : Nat) : Prop := ∃ a ∈ r.edits, a.line = n

instance (r : Report) (n : Nat) : Decidable (r.Touches n) :=
  inferInstanceAs (Decidable (∃ a ∈ r.edits, a.line = n))

namespace Engine
open Renaming

def passOver (e : Engine) (lines : List Text) : Renaming :=
  Renaming.run e.delimiters lines (e.table lines)

theorem passOver_sound (e : Engine) (lines : List Text) :
    Sound e.delimiters lines (e.passOver lines) :=
  run_sound e.delimiters lines (e.table lines)

theorem run_lines (e : Engine) (lines : List Text) :
    (e.run lines).lines = (e.passOver lines).lines := rfl

theorem run_reports (e : Engine) (lines : List Text) :
    (e.run lines).reports = Report.ofAppliedList (e.passOver lines).applied := rfl

theorem run_skipped (e : Engine) (lines : List Text) :
    (e.run lines).skipped = (e.passOver lines).skipped := rfl

/-- The pass without the index of its table, in a form that can be evaluated. -/
theorem passOver_firsts (e : Engine) (lines : List Text) :
    e.passOver lines = (RenameTable.firsts ((Token.unquoted e.delimiters e.carry lines).filterMap
      (RenameTable.renameOf? e.filter e.convention))).foldl (step e.delimiters) (start lines) := by
  rw [passOver, Renaming.run, table, RenameTable.toList_ofLines]

theorem applied_in_table (e : Engine) (lines : List Text) (a : AppliedRename)
    (ha : a ∈ (e.passOver lines).applied) : a.rename ∈ (e.table lines).toList :=
  (run_in_order e.delimiters lines (e.table lines)).1.subset (List.mem_map_of_mem ha)

theorem report_applied (e : Engine) (lines : List Text) (r : Report)
    (hr : r ∈ (e.run lines).reports) :
    ∃ a ∈ (e.passOver lines).applied, r.rename = a.rename ∧ r.edits = a.edits := by
  obtain ⟨a, ha, hrename, hedits, -⟩ := Report.applied_of_report _ r hr
  exact ⟨a, ha, hrename, hedits⟩

theorem report_in_table (e : Engine) (lines : List Text) (r : Report)
    (hr : r ∈ (e.run lines).reports) : r.rename ∈ (e.table lines).toList := by
  obtain ⟨a, ha, hrename, -⟩ := report_applied e lines r hr
  rw [hrename]
  exact applied_in_table e lines a ha

theorem report_new (e : Engine) (lines : List Text) (r : Report)
    (hr : r ∈ (e.run lines).reports) :
    r.rename.new = e.convention.convert r.rename.old ∧ r.rename.new ≠ r.rename.old :=
  (RenameTable.mem_ofLines _ _ _ _ _ _ (report_in_table e lines r hr)).2.2

/-- Reports tell of every applied rename, so a claimed line is touched by one. -/
theorem touched_of_claimed (e : Engine) (lines : List Text) (n : Nat)
    (hn : n ∈ (e.passOver lines).claimed) : ∃ r ∈ (e.run lines).reports, r.Touches n := by
  have hs := passOver_sound e lines
  obtain ⟨a, ha, edit, hedit, hline⟩ := (hs.claimed_iff n).mp hn
  have hmem : edit ∈ (e.run lines).reports.flatMap Report.edits := by
    rw [run_reports, Report.reported_edits _ hs.nonempty]
    exact List.mem_flatMap.mpr ⟨a, ha, hedit⟩
  obtain ⟨r, hr, hedit⟩ := List.mem_flatMap.mp hmem
  exact ⟨r, hr, edit, hedit, hline⟩

theorem report_touches (e : Engine) (lines : List Text) (r : Report)
    (hr : r ∈ (e.run lines).reports) : ∃ i, r.Touches (i + 1) := by
  have hs := passOver_sound e lines
  obtain ⟨a, ha, -, hedits⟩ := report_applied e lines r hr
  obtain ⟨edit, hedit⟩ := List.exists_mem_of_ne_nil _ (hs.nonempty a ha)
  have hnumber := ((fits_iff lines edit).mp (hs.fits a ha edit hedit)).1
  refine ⟨edit.line - 1, edit, hedits ▸ hedit, ?_⟩
  omega

theorem untouched_line (e : Engine) (lines : List Text) (i : Nat)
    (h : ∀ r ∈ (e.run lines).reports, ¬r.Touches (i + 1)) :
    (e.run lines).lines[i]? = lines[i]? := by
  refine (passOver_sound e lines).unclaimed i fun hclaimed => ?_
  obtain ⟨r, hr, htouches⟩ := touched_of_claimed e lines (i + 1) hclaimed
  exact h r hr htouches

/-- A touched line has the old identifier as a piece, and its pieces are exchanged. -/
theorem touched_line (e : Engine) (lines : List Text) (i : Nat) (r : Report)
    (hr : r ∈ (e.run lines).reports) (htouches : r.Touches (i + 1)) :
    ∃ line, lines[i]? = some line ∧ r.rename.old ∈ e.delimiters.pieces line ∧
      (e.run lines).lines[i]? =
        some ((e.delimiters.segments line).swap r.rename.old r.rename.new).join := by
  have hs := passOver_sound e lines
  obtain ⟨a, ha, hrename, hedits⟩ := report_applied e lines r hr
  obtain ⟨edit, hedit, hnumber⟩ := htouches
  rw [hedits] at hedit
  have hbefore := ((fits_iff lines edit).mp (hs.fits a ha edit hedit)).2
  have hafter := hs.changed a ha edit hedit
  have hreplace := hs.replaced a ha edit hedit
  rw [hnumber, Nat.add_sub_cancel] at hbefore hafter
  obtain ⟨hne, hfree, -⟩ := RenameTable.ofLines_piece _ _ _ _ _ _ (applied_in_table e lines a ha)
  obtain ⟨hpiece, hswap⟩ :=
    Occurrence.replaced_free e.delimiters _ _ edit.before edit.after hne hfree hreplace
  rw [hrename, run_lines, hafter, hswap]
  exact ⟨edit.before, hbefore, hpiece, rfl⟩

theorem reports_apart (e : Engine) (lines : List Text) :
    (e.run lines).reports.Pairwise fun r s => ∀ n, r.Touches n → ¬s.Touches n := by
  have hs := passOver_sound e lines
  have hpairs : ((e.run lines).reports.map fun r => (r.rename, r.edits)).Pairwise
      fun p q => ∀ a ∈ p.2, ∀ b ∈ q.2, a.line ≠ b.line := by
    rw [run_reports, Report.reports_of_applied _ hs.nonempty, List.pairwise_map]
    exact hs.apart
  rw [List.pairwise_map] at hpairs
  refine hpairs.imp fun hapart n => ?_
  rintro ⟨a, ha, hline⟩ ⟨b, hb, hother⟩
  exact hapart a ha b hb (hline.trans hother.symm)

/-- What is no candidate keeps its place in every line. -/
theorem protected_pieces (e : Engine) (lines : List Text) (i : Nat) (line : Text)
    (hline : lines[i]? = some line) :
    ∃ f : Text → Text, (e.run lines).lines[i]? =
        some ((e.delimiters.segments line).map f).join ∧
      ∀ piece, e.filter.admits piece = false → f piece = piece := by
  by_cases h : ∃ r ∈ (e.run lines).reports, r.Touches (i + 1)
  · obtain ⟨r, hr, htouches⟩ := h
    obtain ⟨origin, horigin, -, hswap⟩ := touched_line e lines i r hr htouches
    rw [hline] at horigin
    cases horigin
    refine ⟨_, hswap, fun piece hpiece => Delimiters.exchange_other _ _ piece ?_⟩
    rintro rfl
    obtain ⟨-, hadmits, -⟩ := RenameTable.mem_ofLines _ _ _ _ _ _ (report_in_table e lines r hr)
    rw [hadmits] at hpiece
    cases hpiece
  · refine ⟨id, ?_, fun piece _ => rfl⟩
    rw [untouched_line e lines i fun r hr htouches => h ⟨r, hr, htouches⟩, hline]
    rw [e.delimiters.segments_map_self line id fun piece _ => rfl]

/-- A run gives one line for each line of the input. A line that no report touches stays. Any other
is touched by one report, and each of its pieces equal to the old identifier gives way to the new
one, while the delimiters and the other pieces stay. The old identifier is a candidate and an
unquoted token of the input, and the new one is its conversion. -/
theorem run_frame (e : Engine) (lines : List Text) :
    let outcome := e.run lines
    outcome.lines.length = lines.length ∧
    (outcome.reports.Pairwise fun r s => ∀ n, r.Touches n → ¬s.Touches n) ∧
    (∀ (i : Nat) (line : Text), lines[i]? = some line →
      let s := e.delimiters.segments line
      s.join = line ∧ s.pieces = (e.delimiters.split line).map Prod.snd ∧ e.delimiters.Cut s ∧
      ((∀ r ∈ outcome.reports, ¬r.Touches (i + 1)) → outcome.lines[i]? = some line) ∧
      (∀ r ∈ outcome.reports, r.Touches (i + 1) →
        outcome.lines[i]? = some (s.swap r.rename.old r.rename.new).join) ∧
      ∃ f : Text → Text, outcome.lines[i]? = some (s.map f).join ∧
        ∀ piece, e.filter.admits piece = false → f piece = piece) ∧
    ∀ r ∈ outcome.reports,
      r.rename.new = e.convention.convert r.rename.old ∧ r.rename.new ≠ r.rename.old ∧
      e.filter.admits r.rename.old = true ∧
      (r.rename.old ≠ [] ∧ r.rename.old.head?.any Char.isDigit = false ∧
        r.rename.old ∉ e.filter.keywords ∧ e.filter.ignores r.rename.old = false) ∧
      ∃ t ∈ Token.unquoted e.delimiters e.carry lines, t.text = r.rename.old := by
  intro outcome
  refine ⟨(passOver_sound e lines).length_eq, reports_apart e lines, fun i line hline => ?_,
    fun r hr => ?_⟩
  · intro s
    refine ⟨e.delimiters.segments_join line, (e.delimiters.split_pieces line).symm,
      e.delimiters.segments_cut line, fun h => ?_, fun r hr htouches => ?_, ?_⟩
    · exact (untouched_line e lines i h).trans hline
    · obtain ⟨origin, horigin, -, hswap⟩ := touched_line e lines i r hr htouches
      rw [hline] at horigin
      cases horigin
      exact hswap
    · exact protected_pieces e lines i line hline
  · obtain ⟨htoken, hadmits, hnew, hne⟩ :=
      RenameTable.mem_ofLines _ _ _ _ _ _ (report_in_table e lines r hr)
    exact ⟨hnew, hne, hadmits, (e.filter.admits_iff _).mp hadmits, htoken⟩

/-- One rename on two lines, beside a longer word and inside quotes. -/
theorem run_frame_whole_words :
    let e : Engine := ⟨.snake, "mini", .ofChars [';', '=', '(', ')'],
      ⟨["int".toList], [], IgnorePattern.accepts⟩, .file⟩
    let lines := ["int fooBar = fooBarBaz;\n".toList, "\"fooBar\" (fooBar)".toList]
    (e.run lines).lines[0]? = some "int foo_bar = fooBarBaz;\n".toList ∧
      (e.run lines).lines[1]? = some "\"fooBar\" (foo_bar)".toList := by
  intro e lines
  have hreport : ∃ r ∈ (e.run lines).reports, r.Touches 1 ∧ r.Touches 2 ∧
      r.rename = ⟨"fooBar".toList, "foo_bar".toList⟩ := by
    rw [run_reports, passOver_firsts]
    decide +kernel
  obtain ⟨r, hr, hfirst, hsecond, hrename⟩ := hreport
  have hframe := (run_frame e lines).2.2.1
  obtain ⟨-, -, -, -, hswap, -⟩ := hframe 0 _ rfl
  obtain ⟨-, -, -, -, hswap', -⟩ := hframe 1 _ rfl
  rw [hswap r hr hfirst, hswap' r hr hsecond, hrename]
  decide +kernel

end Engine

end IdentCase
