import IdentCase.Renaming
import IdentCase.Proofs.RenameTable

/-!
# What a pass keeps

Each step of a pass skips its rename, has nothing to do, or edits lines that no step before it has
edited. So the edits of a pass are all made in lines of the input, and a line holds either its input
or what its one edit made of it.
-/

set_option autoImplicit false

namespace IdentCase.Renaming

def editsFrom (d : Delimiters) (rename : Rename) (n : Nat) : List Text → List LineEdit
  | [] => []
  | line :: rest =>
    match Occurrence.replace? d rename.old rename.new line with
    | none => editsFrom d rename (n + 1) rest
    | some changed => ⟨n, line, changed⟩ :: editsFrom d rename (n + 1) rest

theorem edits_claimed (d : Delimiters) (claimed : List Nat) (rename : Rename) (n : Nat)
    (lines : List Text) :
    edits? d claimed rename n lines =
      if ∃ e ∈ editsFrom d rename n lines, e.line ∈ claimed then none
      else some (editsFrom d rename n lines) := by
  induction lines generalizing n with
  | nil => simp [edits?, editsFrom]
  | cons line rest ih =>
    cases hc : Occurrence.replace? d rename.old rename.new line with
    | none =>
      simp only [edits?, editsFrom, hc]
      exact ih (n + 1)
    | some changed =>
      simp only [edits?, editsFrom, hc, List.contains_iff_mem, ih (n + 1)]
      by_cases hn : n ∈ claimed
      · simp [hn]
      · by_cases h : ∃ e ∈ editsFrom d rename (n + 1) rest, e.line ∈ claimed
        · simp [h, hn]
        · simp [h, hn]

theorem mem_editsFrom (d : Delimiters) (rename : Rename) (n : Nat) (lines : List Text)
    (e : LineEdit) :
    e ∈ editsFrom d rename n lines ↔ n ≤ e.line ∧ lines[e.line - n]? = some e.before ∧
      Occurrence.replace? d rename.old rename.new e.before = some e.after := by
  induction lines generalizing n with
  | nil => simp [editsFrom]
  | cons line rest ih =>
    have hlater (h : n < e.line) : (line :: rest)[e.line - n]? = rest[e.line - (n + 1)]? := by
      rw [show e.line - n = e.line - (n + 1) + 1 by omega, List.getElem?_cons_succ]
    have hmem : e ∈ editsFrom d rename (n + 1) rest ↔
        n < e.line ∧ (line :: rest)[e.line - n]? = some e.before ∧
          Occurrence.replace? d rename.old rename.new e.before = some e.after := by
      rw [ih]
      constructor
      · rintro ⟨h, hline, hnew⟩
        exact ⟨h, (hlater h).trans hline, hnew⟩
      · rintro ⟨h, hline, hnew⟩
        exact ⟨h, (hlater h).symm.trans hline, hnew⟩
    -- The edit of the first line is the only one with number `n`.
    have hfirst (h : n = e.line) : (line :: rest)[e.line - n]? = some line := by
      simp [h]
    simp only [editsFrom]
    cases hc : Occurrence.replace? d rename.old rename.new line with
    | none =>
      simp only [hmem]
      constructor
      · rintro ⟨h, hrest⟩
        exact ⟨by omega, hrest⟩
      · rintro ⟨h, hline, hnew⟩
        refine ⟨Nat.lt_of_le_of_ne h fun heq => ?_, hline, hnew⟩
        have hbefore := Option.some.inj ((hfirst heq).symm.trans hline)
        rw [← hbefore, hc] at hnew
        cases hnew
    | some changed =>
      simp only [List.mem_cons, hmem]
      constructor
      · rintro (rfl | ⟨h, hrest⟩)
        · exact ⟨Nat.le_refl n, by simp, hc⟩
        · exact ⟨by omega, hrest⟩
      · rintro ⟨h, hline, hnew⟩
        rcases Nat.lt_or_eq_of_le h with hlt | heq
        · exact Or.inr ⟨hlt, hline, hnew⟩
        · have hbefore := Option.some.inj ((hfirst heq).symm.trans hline)
          rw [← hbefore, hc] at hnew
          have hafter := Option.some.inj hnew
          exact Or.inl (by cases e; simp_all)

theorem editsFrom_ascending (d : Delimiters) (rename : Rename) (n : Nat) (lines : List Text) :
    (editsFrom d rename n lines).Pairwise fun e f => e.line < f.line := by
  induction lines generalizing n with
  | nil => exact .nil
  | cons line rest ih =>
    simp only [editsFrom]
    cases Occurrence.replace? d rename.old rename.new line with
    | none => exact ih (n + 1)
    | some changed =>
      refine List.pairwise_cons.mpr ⟨fun f hf => ?_, ih (n + 1)⟩
      exact ((mem_editsFrom d rename (n + 1) rest f).mp hf).1

/-- All that a step can do. -/
theorem step_cases (d : Delimiters) (r : Renaming) (rename : Rename) :
    ((∃ e ∈ editsFrom d rename 1 r.lines, e.line ∈ r.claimed) ∧
      step d r rename = { r with skipped := r.skipped ++ [rename] }) ∨
    (editsFrom d rename 1 r.lines = [] ∧ step d r rename = r) ∨
    (editsFrom d rename 1 r.lines ≠ [] ∧
      (∀ e ∈ editsFrom d rename 1 r.lines, e.line ∉ r.claimed) ∧
      step d r rename = { r with
        lines := (editsFrom d rename 1 r.lines).foldl putEdit r.lines
        claimed := r.claimed ++ (editsFrom d rename 1 r.lines).map LineEdit.line
        applied := r.applied ++ [⟨rename, editsFrom d rename 1 r.lines⟩] }) := by
  have hedits := edits_claimed d r.claimed rename 1 r.lines
  by_cases h : ∃ e ∈ editsFrom d rename 1 r.lines, e.line ∈ r.claimed
  · rw [if_pos h] at hedits
    exact Or.inl ⟨h, by simp [step, hedits]⟩
  · rw [if_neg h] at hedits
    have hfree : ∀ e ∈ editsFrom d rename 1 r.lines, e.line ∉ r.claimed :=
      fun e he hclaimed => h ⟨e, he, hclaimed⟩
    right
    cases hall : editsFrom d rename 1 r.lines with
    | nil => exact Or.inl ⟨rfl, by simp [step, hedits, hall]⟩
    | cons e es => exact Or.inr ⟨by simp, hall ▸ hfree, by simp [step, hedits, hall]⟩

theorem fits_iff (lines : List Text) (e : LineEdit) :
    Report.fits lines e = true ↔ 1 ≤ e.line ∧ lines[e.line - 1]? = some e.before := by
  simp [Report.fits, Nat.one_le_iff_ne_zero]

theorem putEdit_at (lines : List Text) (e : LineEdit) (h : Report.fits lines e = true) :
    (putEdit lines e)[e.line - 1]? = some e.after := by
  obtain ⟨hi, -⟩ := List.getElem?_eq_some_iff.mp ((fits_iff lines e).mp h).2
  simp [putEdit, hi]

theorem putEdit_off (lines : List Text) (e : LineEdit) (i : Nat) (h : e.line - 1 ≠ i) :
    (putEdit lines e)[i]? = lines[i]? := by
  simp [putEdit, h]

/-- Edits of different lines do not disturb each other. -/
theorem fits_putEdit (lines : List Text) (e f : LineEdit) (he : Report.fits lines e = true)
    (hf : Report.fits lines f = true) (hne : e.line ≠ f.line) :
    Report.fits (putEdit lines e) f = true := by
  obtain ⟨he1, -⟩ := (fits_iff lines e).mp he
  obtain ⟨hf1, hbefore⟩ := (fits_iff lines f).mp hf
  rw [fits_iff, putEdit_off lines e (f.line - 1) (by omega)]
  exact ⟨hf1, hbefore⟩

theorem putEdits_length (edits : List LineEdit) (lines : List Text) :
    (edits.foldl putEdit lines).length = lines.length := by
  induction edits generalizing lines with
  | nil => rfl
  | cons e edits ih => rw [List.foldl_cons, ih, putEdit, List.length_set]

theorem putEdits_off (edits : List LineEdit) (lines : List Text) (i : Nat)
    (h : ∀ e ∈ edits, e.line - 1 ≠ i) : (edits.foldl putEdit lines)[i]? = lines[i]? := by
  induction edits generalizing lines with
  | nil => rfl
  | cons e edits ih =>
    rw [List.foldl_cons, ih _ fun f hf => h f (by simp [hf]), putEdit_off lines e i (h e (by simp))]

theorem putEdits_at (edits : List LineEdit) (lines : List Text)
    (hfits : ∀ e ∈ edits, Report.fits lines e = true)
    (happart : edits.Pairwise fun e f => e.line ≠ f.line) :
    ∀ e ∈ edits, (edits.foldl putEdit lines)[e.line - 1]? = some e.after := by
  induction edits generalizing lines with
  | nil => simp
  | cons e edits ih =>
    obtain ⟨hhead, htail⟩ := List.pairwise_cons.mp happart
    have he := hfits e (by simp)
    have hrest : ∀ f ∈ edits, Report.fits (putEdit lines e) f = true := fun f hf =>
      fits_putEdit lines e f he (hfits f (by simp [hf])) (hhead f hf)
    intro f hf
    rw [List.foldl_cons]
    rcases List.mem_cons.mp hf with rfl | hf
    · rw [putEdits_off edits, putEdit_at lines f he]
      intro g hg
      have hf1 := ((fits_iff lines f).mp he).1
      have hg1 := ((fits_iff _ g).mp (hrest g hg)).1
      have hne := hhead g hg
      omega
    · exact ih _ hrest htail f hf

structure Sound (d : Delimiters) (input : List Text) (r : Renaming) : Prop where
  length_eq : r.lines.length = input.length
  claimed_iff : ∀ n, n ∈ r.claimed ↔ ∃ a ∈ r.applied, ∃ e ∈ a.edits, e.line = n
  unclaimed : ∀ i, i + 1 ∉ r.claimed → r.lines[i]? = input[i]?
  fits : ∀ a ∈ r.applied, ∀ e ∈ a.edits, Report.fits input e = true
  replaced : ∀ a ∈ r.applied, ∀ e ∈ a.edits,
    Occurrence.replace? d a.rename.old a.rename.new e.before = some e.after
  changed : ∀ a ∈ r.applied, ∀ e ∈ a.edits, r.lines[e.line - 1]? = some e.after
  nonempty : ∀ a ∈ r.applied, a.edits ≠ []
  ascending : ∀ a ∈ r.applied, a.edits.Pairwise fun e f => e.line < f.line
  apart : r.applied.Pairwise fun a b => ∀ e ∈ a.edits, ∀ f ∈ b.edits, e.line ≠ f.line

theorem start_sound (d : Delimiters) (input : List Text) : Sound d input (start input) where
  length_eq := rfl
  claimed_iff := by simp [start]
  unclaimed _ _ := rfl
  fits := by simp [start]
  replaced := by simp [start]
  changed := by simp [start]
  nonempty := by simp [start]
  ascending := by simp [start]
  apart := .nil

/-- A line is as it was in the input, or its one edit has been made. -/
theorem line_cases (d : Delimiters) (input : List Text) (r : Renaming) (hr : Sound d input r)
    (i : Nat) :
    (i + 1 ∉ r.claimed ∧ r.lines[i]? = input[i]?) ∨
    ∃ a ∈ r.applied, ∃ e ∈ a.edits, e.line = i + 1 ∧ i + 1 ∈ r.claimed ∧
      input[i]? = some e.before ∧ r.lines[i]? = some e.after ∧
      Occurrence.replace? d a.rename.old a.rename.new e.before = some e.after := by
  by_cases hclaimed : i + 1 ∈ r.claimed
  · right
    obtain ⟨a, ha, e, he, hnumber⟩ := (hr.claimed_iff (i + 1)).mp hclaimed
    have hbefore := ((fits_iff input e).mp (hr.fits a ha e he)).2
    have hafter := hr.changed a ha e he
    rw [hnumber, Nat.add_sub_cancel] at hbefore hafter
    exact ⟨a, ha, e, he, hnumber, hclaimed, hbefore, hafter, hr.replaced a ha e he⟩
  · exact Or.inl ⟨hclaimed, hr.unclaimed i hclaimed⟩

/-- An unclaimed edit of the working lines is an edit of the input. -/
theorem fits_input (d : Delimiters) (input : List Text) (r : Renaming) (rename : Rename)
    (hr : Sound d input r) (e : LineEdit) (he : e ∈ editsFrom d rename 1 r.lines)
    (hfree : e.line ∉ r.claimed) : Report.fits input e = true := by
  obtain ⟨h1, hbefore, -⟩ := (mem_editsFrom d rename 1 r.lines e).mp he
  have hsame := hr.unclaimed (e.line - 1) (by rwa [Nat.sub_add_cancel h1])
  exact (fits_iff input e).mpr ⟨h1, hsame.symm.trans hbefore⟩

theorem editsFrom_fits (d : Delimiters) (rename : Rename) (lines : List Text) (e : LineEdit)
    (he : e ∈ editsFrom d rename 1 lines) : Report.fits lines e = true := by
  obtain ⟨h1, hbefore, -⟩ := (mem_editsFrom d rename 1 lines e).mp he
  exact (fits_iff lines e).mpr ⟨h1, hbefore⟩

theorem apply_sound (d : Delimiters) (input : List Text) (r : Renaming) (rename : Rename)
    (hr : Sound d input r) (edits : List LineEdit) (hedits : edits = editsFrom d rename 1 r.lines)
    (hne : edits ≠ []) (hfree : ∀ e ∈ edits, e.line ∉ r.claimed) :
    Sound d input { r with
      lines := edits.foldl putEdit r.lines
      claimed := r.claimed ++ edits.map LineEdit.line
      applied := r.applied ++ [⟨rename, edits⟩] } := by
  have hworking : ∀ e ∈ edits, Report.fits r.lines e = true := fun e he =>
    editsFrom_fits d rename r.lines e (hedits ▸ he)
  have hasc : edits.Pairwise fun e f => e.line < f.line :=
    hedits ▸ editsFrom_ascending d rename 1 r.lines
  have happart : edits.Pairwise fun e f => e.line ≠ f.line := hasc.imp Nat.ne_of_lt
  have hold : ∀ a ∈ r.applied, ∀ e ∈ a.edits, ∀ f ∈ edits, e.line ≠ f.line := by
    intro a ha e he f hf heq
    exact hfree f hf ((hr.claimed_iff f.line).mpr ⟨a, ha, e, he, heq⟩)
  constructor
  case length_eq => exact (putEdits_length edits r.lines).trans hr.length_eq
  case claimed_iff =>
    intro n
    simp [hr.claimed_iff, or_and_right, exists_or]
  case unclaimed =>
    intro i hi
    simp only [List.mem_append, List.mem_map, not_or, not_exists, not_and] at hi
    rw [putEdits_off edits r.lines i, hr.unclaimed i hi.1]
    intro e he heq
    have h1 := ((fits_iff r.lines e).mp (hworking e he)).1
    exact hi.2 e he (by omega)
  case fits =>
    refine List.forall_mem_append.mpr ⟨hr.fits, List.forall_mem_singleton.mpr fun e he => ?_⟩
    exact fits_input d input r rename hr e (hedits ▸ he) (hfree e he)
  case replaced =>
    refine List.forall_mem_append.mpr ⟨hr.replaced, List.forall_mem_singleton.mpr fun e he => ?_⟩
    exact ((mem_editsFrom d rename 1 r.lines e).mp (hedits ▸ he)).2.2
  case changed =>
    refine List.forall_mem_append.mpr ⟨fun a ha e he => ?_, List.forall_mem_singleton.mpr ?_⟩
    · rw [putEdits_off edits r.lines, hr.changed a ha e he]
      intro f hf heq
      have he1 := ((fits_iff input e).mp (hr.fits a ha e he)).1
      have hf1 := ((fits_iff r.lines f).mp (hworking f hf)).1
      exact hold a ha e he f hf (by omega)
    · exact putEdits_at edits r.lines hworking happart
  case nonempty =>
    exact List.forall_mem_append.mpr ⟨hr.nonempty, List.forall_mem_singleton.mpr hne⟩
  case ascending =>
    exact List.forall_mem_append.mpr ⟨hr.ascending, List.forall_mem_singleton.mpr hasc⟩
  case apart =>
    refine List.pairwise_append.mpr ⟨hr.apart, List.pairwise_singleton _ _, fun a ha b hb => ?_⟩
    rw [List.mem_singleton] at hb
    exact hb ▸ hold a ha

theorem step_sound (d : Delimiters) (input : List Text) (r : Renaming) (rename : Rename)
    (hr : Sound d input r) : Sound d input (step d r rename) := by
  rcases step_cases d r rename with ⟨-, h⟩ | ⟨-, h⟩ | ⟨hne, hfree, h⟩
  · rw [h]
    exact { hr with }
  · rwa [h]
  · rw [h]
    exact apply_sound d input r rename hr _ rfl hne hfree

theorem steps_sound (d : Delimiters) (input : List Text) (renames : List Rename) (r : Renaming)
    (hr : Sound d input r) : Sound d input (renames.foldl (step d) r) := by
  induction renames generalizing r with
  | nil => exact hr
  | cons rename renames ih => exact ih _ (step_sound d input r rename hr)

/-- A pass goes through the renames in order and keeps or skips some of them. -/
theorem steps_in_order (d : Delimiters) (renames : List Rename) (r : Renaming) :
    (∃ kept, kept.Sublist renames ∧ (renames.foldl (step d) r).applied.map AppliedRename.rename =
      r.applied.map AppliedRename.rename ++ kept) ∧
    ∃ left, left.Sublist renames ∧ (renames.foldl (step d) r).skipped = r.skipped ++ left := by
  induction renames generalizing r with
  | nil => exact ⟨⟨[], .slnil, by simp⟩, [], .slnil, by simp⟩
  | cons rename renames ih =>
    obtain ⟨⟨kept, hkept, happlied⟩, left, hleft, hskipped⟩ := ih (step d r rename)
    rw [List.foldl_cons, happlied, hskipped]
    rcases step_cases d r rename with ⟨-, h⟩ | ⟨-, h⟩ | ⟨-, -, h⟩
    · rw [h]
      exact ⟨⟨kept, hkept.cons rename, rfl⟩, rename :: left, hleft.cons_cons rename, by simp⟩
    · rw [h]
      exact ⟨⟨kept, hkept.cons rename, rfl⟩, left, hleft.cons rename, rfl⟩
    · rw [h]
      exact ⟨⟨rename :: kept, hkept.cons_cons rename, by simp⟩, left, hleft.cons rename, rfl⟩

/-- The pass without the index of its table, in a form that can be evaluated. -/
theorem run_ofList (d : Delimiters) (lines : List Text) (entries : List Rename) :
    run d lines (RenameTable.ofList entries) =
      (RenameTable.firsts entries).foldl (step d) (start lines) := by
  rw [run, RenameTable.toList_ofList]

theorem run_in_order (d : Delimiters) (lines : List Text) (table : RenameTable) :
    ((run d lines table).applied.map AppliedRename.rename).Sublist table.toList ∧
      (run d lines table).skipped.Sublist table.toList := by
  obtain ⟨⟨kept, hkept, happlied⟩, left, hleft, hskipped⟩ :=
    steps_in_order d table.toList (start lines)
  rw [run, happlied, hskipped]
  exact ⟨hkept, hleft⟩

/-- No line is claimed when a pass begins, so nothing keeps it from applying its first rename. -/
theorem run_applies_first (d : Delimiters) (lines : List Text) (table : RenameTable)
    (rename : Rename) (rest : List Rename) (htable : table.toList = rename :: rest)
    (hedits : editsFrom d rename 1 lines ≠ []) :
    ((run d lines table).applied.map AppliedRename.rename).head? = some rename := by
  have hfirst : (step d (start lines) rename).applied.map AppliedRename.rename = [rename] := by
    rcases step_cases d (start lines) rename with ⟨⟨e, -, hclaimed⟩, -⟩ | ⟨hnone, -⟩ | ⟨-, -, h⟩
    · simp [start] at hclaimed
    · exact absurd hnone hedits
    · rw [h]
      rfl
  obtain ⟨⟨kept, -, happlied⟩, -⟩ := steps_in_order d rest (step d (start lines) rename)
  rw [run, htable, List.foldl_cons, happlied, hfirst]
  rfl

theorem run_sound (d : Delimiters) (lines : List Text) (table : RenameTable) :
    Sound d lines (run d lines table) :=
  steps_sound d lines table.toList (start lines) (start_sound d lines)

end IdentCase.Renaming
