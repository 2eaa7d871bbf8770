import IdentCase.Proofs.Convention
import IdentCase.Proofs.Occurrence
import IdentCase.Proofs.RenameTable
import IdentCase.Proofs.Renaming

/-!
# A pass as a choice on the input

A pass searches lines that it has changed itself. When no rename brings in the old identifier of
another, this makes no difference: the pass keeps and skips the renames that a greedy choice on the
untouched input keeps and skips. Tables of ASCII lines are of that kind, since a converted
identifier is never converted again.
-/

set_option autoImplicit false

namespace IdentCase

def occurrences (d : Delimiters) (lines : List Text) (term : Text) : List Nat :=
  ((lines.zipIdx 1).filter fun line => term ∈ d.pieces line.1).map Prod.snd

structure Selection where
  claimed : List Nat
  accepted : List Rename
  skipped : List Rename

namespace Selection

def step (d : Delimiters) (lines : List Text) (s : Selection) (q : Rename) : Selection :=
  let found := occurrences d lines q.old
  if found = [] then s
  else if ∃ n ∈ found, n ∈ s.claimed then { s with skipped := s.skipped ++ [q] }
  else { s with claimed := s.claimed ++ found, accepted := s.accepted ++ [q] }

def run (d : Delimiters) (lines : List Text) (renames : List Rename) : Selection :=
  renames.foldl (step d lines) ⟨[], [], []⟩

end Selection

def Rename.Spares (d : Delimiters) (p q : Rename) : Prop :=
  q.old ≠ p.old ∧ q.old ∉ d.pieces p.new

def Rename.Named (d : Delimiters) (q : Rename) : Prop := q.old ≠ [] ∧ d.Free q.old

instance (d : Delimiters) (q : Rename) : Decidable (q.Named d) :=
  inferInstanceAs (Decidable (q.old ≠ [] ∧ d.Free q.old))

structure RenameTable.Independent (d : Delimiters) (table : RenameTable) : Prop where
  named : ∀ q ∈ table.toList, q.Named d
  spares : ∀ p ∈ table.toList, ∀ q ∈ table.toList, p ≠ q → q.old ∉ d.pieces p.new

namespace Selection
open Renaming

/-- A pass finds a named rename in the lines that have it as a piece. -/
theorem edits_occurrences (d : Delimiters) (q : Rename) (hq : q.Named d) (lines : List Text) :
    (editsFrom d q 1 lines).map LineEdit.line = occurrences d lines q.old := by
  unfold occurrences
  generalize 1 = n
  induction lines generalizing n with
  | nil => rfl
  | cons line rest ih =>
    have hreplace := Occurrence.replace_free d q.old q.new line hq.1 hq.2
    by_cases h : q.old ∈ d.pieces line
    · rw [if_pos h] at hreplace
      simp [editsFrom, hreplace, h, ih (n + 1)]
    · rw [if_neg h] at hreplace
      simp [editsFrom, hreplace, h, ih (n + 1)]

/-- Lines that agree on a piece have it in the same places. -/
theorem occurrences_congr (d : Delimiters) (term : Text) (lines others : List Text)
    (h : List.Forall₂ (fun a b => term ∈ d.pieces a ↔ term ∈ d.pieces b) lines others) :
    occurrences d lines term = occurrences d others term := by
  unfold occurrences
  generalize 1 = n
  induction h generalizing n with
  | nil => rfl
  | cons hab _ ih => simp [List.filter_cons, hab, apply_ite, ih (n + 1)]

/-- Replacing one identifier neither makes nor removes a piece that the rename spares. -/
theorem spared_piece (d : Delimiters) (p q : Rename) (hp : p.Named d)
    (hspares : p.Spares d q) (before after : Text)
    (h : Occurrence.replace? d p.old p.new before = some after) :
    q.old ∈ d.pieces after ↔ q.old ∈ d.pieces before := by
  obtain ⟨-, hafter⟩ := Occurrence.replaced_free d p.old p.new before after hp.1 hp.2 h
  constructor
  · rw [hafter, Delimiters.Segments.swap, d.pieces_map_join, List.mem_flatMap]
    rintro ⟨piece, hpiece, hmem⟩
    by_cases hold : piece = p.old
    · rw [hold, Delimiters.exchange_old] at hmem
      exact absurd hmem hspares.2
    · rw [Delimiters.exchange_other _ _ piece hold,
        d.pieces_of_free piece (d.pieces_free before piece hpiece), List.mem_singleton] at hmem
      rwa [hmem]
  · exact Occurrence.replaced_keeps d p.old p.new before after q.old hp.1 hp.2 h hspares.1

/-- As far as a spared rename is concerned, the working lines are the input. -/
theorem working_pieces (d : Delimiters) (input : List Text) (r : Renaming) (hr : Sound d input r)
    (q : Rename)
    (happlied : ∀ a ∈ r.applied, a.rename.Named d ∧ a.rename.Spares d q) :
    List.Forall₂ (fun a b => q.old ∈ d.pieces a ↔ q.old ∈ d.pieces b) r.lines input := by
  refine List.forall₂_iff_get.mpr ⟨hr.length_eq, fun i hi hinput => ?_⟩
  have hline : r.lines[i]? = some (r.lines.get ⟨i, hi⟩) := List.getElem?_eq_getElem hi
  have horigin : input[i]? = some (input.get ⟨i, hinput⟩) := List.getElem?_eq_getElem hinput
  rcases line_cases d input r hr i with ⟨-, hsame⟩ | ⟨a, ha, e, -, -, -, hbefore, hafter, hreplace⟩
  · rw [hsame, horigin] at hline
    rw [Option.some.inj hline]
  · rw [← Option.some.inj (hafter.symm.trans hline),
      ← Option.some.inj (hbefore.symm.trans horigin)]
    obtain ⟨hnamed, hspares⟩ := happlied a ha
    exact spared_piece d a.rename q hnamed hspares e.before e.after hreplace

structure Follows (d : Delimiters) (input : List Text) (r : Renaming) (s : Selection) : Prop where
  claimed : r.claimed = s.claimed
  accepted : r.applied.map AppliedRename.rename = s.accepted
  skipped : r.skipped = s.skipped
  edited : ∀ a ∈ r.applied, a.edits.map LineEdit.line = occurrences d input a.rename.old

theorem step_follows (d : Delimiters) (input : List Text) (r : Renaming) (s : Selection)
    (hr : Sound d input r) (hs : Follows d input r s) (q : Rename) (hq : q.Named d)
    (happlied : ∀ a ∈ r.applied, a.rename.Named d ∧ a.rename.Spares d q) :
    Follows d input (Renaming.step d r q) (step d input s q) := by
  have hfound : (editsFrom d q 1 r.lines).map LineEdit.line = occurrences d input q.old :=
    (edits_occurrences d q hq r.lines).trans
      (occurrences_congr d q.old _ _ (working_pieces d input r hr q happlied))
  simp only [step]
  rcases step_cases d r q with ⟨⟨e, he, hclaimed⟩, hstep⟩ | ⟨hnone, hstep⟩ | ⟨hne, hfree, hstep⟩
  · have hmeets : e.line ∈ occurrences d input q.old := hfound ▸ List.mem_map_of_mem he
    rw [if_neg (List.ne_nil_of_mem hmeets), if_pos ⟨e.line, hmeets, hs.claimed ▸ hclaimed⟩, hstep]
    exact ⟨hs.claimed, hs.accepted, by simp [hs.skipped], hs.edited⟩
  · rw [hnone, List.map_nil] at hfound
    rw [if_pos hfound.symm, hstep]
    exact hs
  · have hsome : occurrences d input q.old ≠ [] := by
      rw [← hfound]
      simpa using hne
    have hapart : ¬∃ n ∈ occurrences d input q.old, n ∈ s.claimed := by
      rintro ⟨n, hn, hclaimed⟩
      rw [← hfound] at hn
      obtain ⟨e, he, rfl⟩ := List.mem_map.mp hn
      exact hfree e he (hs.claimed ▸ hclaimed)
    rw [if_neg hsome, if_neg hapart, hstep]
    exact ⟨by simp [hs.claimed, hfound], by simp [hs.accepted], hs.skipped,
      List.forall_mem_append.mpr ⟨hs.edited, List.forall_mem_singleton.mpr hfound⟩⟩

theorem applied_step (d : Delimiters) (r : Renaming) (q : Rename) :
    ∀ a ∈ (Renaming.step d r q).applied, a ∈ r.applied ∨ a.rename = q := by
  rcases step_cases d r q with ⟨-, h⟩ | ⟨-, h⟩ | ⟨-, -, h⟩
  · rw [h]
    exact fun a ha => Or.inl ha
  · rw [h]
    exact fun a ha => Or.inl ha
  · rw [h]
    exact List.forall_mem_append.mpr ⟨fun a ha => Or.inl ha,
      List.forall_mem_singleton.mpr (Or.inr rfl)⟩

theorem steps_follow (d : Delimiters) (input : List Text) (renames : List Rename) (r : Renaming)
    (s : Selection) (hr : Sound d input r) (hs : Follows d input r s)
    (hnamed : ∀ q ∈ renames, q.Named d) (hspares : renames.Pairwise (Rename.Spares d))
    (happlied : ∀ a ∈ r.applied, a.rename.Named d ∧ ∀ q ∈ renames, a.rename.Spares d q) :
    Follows d input (renames.foldl (Renaming.step d) r) (renames.foldl (step d input) s) := by
  induction renames generalizing r s with
  | nil => exact hs
  | cons q renames ih =>
    obtain ⟨hhead, htail⟩ := List.pairwise_cons.mp hspares
    have hq : q.Named d := hnamed q (by simp)
    refine ih _ _ (step_sound d input r q hr) ?_ (fun p hp => hnamed p (by simp [hp])) htail ?_
    · exact step_follows d input r s hr hs q hq
        fun a ha => ⟨(happlied a ha).1, (happlied a ha).2 q (by simp)⟩
    · intro a ha
      rcases applied_step d r q a ha with hold | rfl
      · exact ⟨(happlied a hold).1, fun p hp => (happlied a hold).2 p (by simp [hp])⟩
      · exact ⟨hq, hhead⟩

theorem run_follows (d : Delimiters) (lines : List Text) (table : RenameTable)
    (hdistinct : table.toList.Pairwise fun p q => p.old ≠ q.old) (h : table.Independent d) :
    Follows d lines (Renaming.run d lines table) (run d lines table.toList) := by
  apply steps_follow d lines table.toList _ _ (start_sound d lines)
  · exact ⟨rfl, rfl, rfl, by simp [start]⟩
  · exact h.named
  · refine hdistinct.imp_of_mem fun hp hq hne => ⟨Ne.symm hne, h.spares _ hp _ hq ?_⟩
    rintro rfl
    exact hne rfl
  · simp [start]

theorem edits_of_occurrences (d : Delimiters) (input : List Text) (r : Renaming)
    (hr : Sound d input r) (a : AppliedRename) (ha : a ∈ r.applied) :
    a.edits.map (fun e => (e.line, some e.before)) =
      (a.edits.map LineEdit.line).map fun n => (n, input[n - 1]?) := by
  rw [List.map_map]
  apply List.map_congr_left
  intro e he
  have hbefore := ((fits_iff input e).mp (hr.fits a ha e he)).2
  simp [hbefore]

/-- In ASCII lines every converted identifier is one piece and is not converted again. -/
theorem ascii_independent (d : Delimiters) (hd : d.KeepsWords) (filter : CandidateFilter)
    (convention : Convention) (carry : QuoteCarry) (lines : List Text)
    (ha : ∀ line ∈ lines, Text.Ascii line) :
    (RenameTable.ofLines d filter convention carry lines).Independent d := by
  constructor
  · intro q hq
    obtain ⟨hne, hfree, -⟩ := RenameTable.ofLines_piece d filter convention carry lines q hq
    exact ⟨hne, hfree⟩
  · intro p hp q hq _ hpiece
    obtain ⟨-, hfree, -⟩ := RenameTable.ofLines_piece d filter convention carry lines p hp
    have hascii := RenameTable.ofLines_ascii d filter convention carry lines ha p hp
    obtain ⟨-, -, hp', -⟩ := RenameTable.mem_ofLines d filter convention carry lines p hp
    have hnew : d.Free p.new := hp' ▸ d.convert_free hd convention p.old hascii hfree
    rw [d.pieces_of_free p.new hnew, List.mem_singleton] at hpiece
    exact RenameTable.ofLines_new_not_old d filter convention carry lines ha p q hp hq hpiece.symm

/-- A pass over an independent table is the greedy choice on its input, and the edits of a kept
rename are in exactly the lines that have it. The tables of ASCII lines are independent where
neither letters nor the underscore delimit, as in the builtin languages. -/
theorem run_selects_greedily (d : Delimiters) (lines : List Text) :
    (∀ entries : List Rename, (RenameTable.ofList entries).Independent d →
      let table := RenameTable.ofList entries
      let pass := Renaming.run d lines table
      let chosen := run d lines table.toList
      pass.applied.map AppliedRename.rename = chosen.accepted ∧
      pass.skipped = chosen.skipped ∧ pass.claimed = chosen.claimed ∧
      (pass.applied.map AppliedRename.rename).Sublist table.toList ∧
      pass.skipped.Sublist table.toList ∧
      ∀ a ∈ pass.applied, a.edits.map (fun e => (e.line, some e.before)) =
        (occurrences d lines a.rename.old).map fun n => (n, lines[n - 1]?)) ∧
    ((∀ line ∈ lines, Text.Ascii line) → d.KeepsWords →
      ∀ (filter : CandidateFilter) (convention : Convention) (carry : QuoteCarry),
        (RenameTable.ofLines d filter convention carry lines).Independent d) ∧
    ∀ l ∈ Registry.builtin.languages, (Delimiters.ofChars l.delimiters.toList).KeepsWords := by
  refine ⟨fun entries h => ?_, fun ha hd filter convention carry => ?_,
    Delimiters.builtin_keepsWords⟩
  · intro table pass chosen
    have hdistinct : table.toList.Pairwise fun p q => p.old ≠ q.old :=
      RenameTable.toList_ofList entries ▸ RenameTable.firsts_distinct entries
    have hsound : Sound d lines pass := run_sound d lines table
    have hfollows : Follows d lines pass chosen := run_follows d lines table hdistinct h
    obtain ⟨hkept, hleft⟩ := run_in_order d lines table
    refine ⟨hfollows.accepted, hfollows.skipped, hfollows.claimed, hkept, hleft, fun a ha => ?_⟩
    rw [edits_of_occurrences d lines pass hsound a ha, hfollows.edited a ha]
  · exact ascii_independent d hd filter convention carry lines ha

/-- A skipped rename claims no line, so the third rename is kept on a line that both need. -/
theorem run_selects_around_conflict :
    let d := Delimiters.ofChars [';', '=', '+']
    let lines := ["a = oneThing + twoThing;\n".toList, "twoThing;\n".toList,
      "b = twoThing + threeThing;\n".toList]
    let entries : List Rename := [⟨"oneThing".toList, "one_thing".toList⟩,
      ⟨"twoThing".toList, "two_thing".toList⟩, ⟨"threeThing".toList, "three_thing".toList⟩]
    let pass := Renaming.run d lines (RenameTable.ofList entries)
    (pass.applied.map fun a => String.ofList a.rename.old) = ["oneThing", "threeThing"] ∧
      (pass.skipped.map fun q => String.ofList q.old) = ["twoThing"] ∧
      (RenameTable.ofLines d ⟨[], [], IgnorePattern.accepts⟩ .snake .file lines).Independent d ∧
      (Delimiters.ofChars Language.c.delimiters.toList).KeepsWords := by
  intro d lines entries pass
  have hall := run_selects_greedily d lines
  have hindependent : (RenameTable.ofList entries).Independent d := by
    constructor <;> rw [RenameTable.toList_ofList] <;> decide +kernel
  obtain ⟨haccepted, hskipped, -⟩ := hall.1 entries hindependent
  rw [RenameTable.toList_ofList] at haccepted hskipped
  refine ⟨?_, ?_, ?_, hall.2.2 Language.c (by simp [Registry.builtin])⟩
  · have hmap := congrArg (List.map fun q : Rename => String.ofList q.old) haccepted
    rw [List.map_map] at hmap
    exact hmap.trans (by decide +kernel)
  · rw [hskipped]
    decide +kernel
  · exact hall.2.1 (by decide +kernel) (Delimiters.ofChars_keepsWords _ (by decide))
      ⟨[], [], IgnorePattern.accepts⟩
      .snake .file

end Selection

end IdentCase
