import IdentCase.Proofs.Discovery

/-!
# Protecting more identifiers

A filter that admits less takes renames out of the table and does nothing else. A word that is
turned away leaves no trace: the quote state does not depend on it, and neither does the place of
any other rename.
-/

set_option autoImplicit false

namespace IdentCase

namespace CandidateFilter

structure Within (f g : CandidateFilter) : Prop where
  keywords : f.keywords ⊆ g.keywords
  ignore : f.ignore ⊆ g.ignore
  accepts : f.accepts = g.accepts

theorem ignores_iff (f : CandidateFilter) (word : Text) :
    f.ignores word = true ↔
      ∃ pattern ∈ f.ignore, f.accepts pattern (String.ofList word) = true :=
  List.any_eq_true

theorem admits_within (f g : CandidateFilter) (h : f.Within g) (word : Text)
    (hword : g.admits word = true) : f.admits word = true := by
  rw [admits_iff] at hword ⊢
  obtain ⟨hne, hdigit, hkeyword, hignored⟩ := hword
  refine ⟨hne, hdigit, fun hmem => hkeyword (h.keywords hmem), ?_⟩
  rw [← Bool.not_eq_true, ignores_iff] at hignored ⊢
  rintro ⟨pattern, hpattern, haccepts⟩
  exact hignored ⟨pattern, h.ignore hpattern, h.accepts ▸ haccepts⟩

end CandidateFilter

namespace RenameTable

variable (f g : CandidateFilter) (h : ∀ word, g.admits word = true → f.admits word = true)
include h

theorem misnamed_restrict (convention : Convention) (word : Text) :
    misnamed g convention word = (g.admits word && misnamed f convention word) := by
  by_cases hword : g.admits word = true
  · simp [misnamed, hword, h word hword]
  · simp [misnamed, hword]

theorem sought_restrict (d : Delimiters) (convention : Convention) (carry : QuoteCarry)
    (state : QuoteState) (lines : List Text) :
    sought d g convention carry state lines =
      (sought d f convention carry state lines).filter g.admits := by
  induction lines generalizing state with
  | nil => rfl
  | cons line rest ih =>
    rw [sought, sought, List.filter_append, List.filter_filter, ← ih]
    congr 1
    apply List.filter_congr
    intro word _
    exact misnamed_restrict f g h convention word

theorem toList_restrict (d : Delimiters) (convention : Convention) (carry : QuoteCarry)
    (lines : List Text) :
    (ofLines d g convention carry lines).toList =
      (ofLines d f convention carry lines).toList.filter fun r => g.admits r.old := by
  have hrenames : (sought d g convention carry .outside lines).map (converted convention) =
      ((sought d f convention carry .outside lines).map (converted convention)).filter
        fun r => g.admits r.old := by
    rw [sought_restrict f g h, List.filter_map]
    rfl
  rw [ofLines, ofLines, toList_ofList, toList_ofList, renames_of_lines, renames_of_lines, hrenames,
    firsts_filter]

theorem get?_restrict (d : Delimiters) (convention : Convention) (carry : QuoteCarry)
    (lines : List Text) (word : Text) :
    (ofLines d g convention carry lines).get? word =
      if g.admits word then (ofLines d f convention carry lines).get? word else none := by
  have hlist := toList_restrict f g h d convention carry lines
  have hf : (ofLines d f convention carry lines).Indexed := ofList_indexed _
  have hg : (ofLines d g convention carry lines).Indexed := ofList_indexed _
  have hmem : word ∈ (ofLines d g convention carry lines).toList.map Rename.old ↔
      g.admits word = true ∧ word ∈ (ofLines d f convention carry lines).toList.map Rename.old := by
    rw [hlist]
    simp only [List.mem_map, List.mem_filter]
    constructor
    · rintro ⟨r, ⟨hr, hadmits⟩, rfl⟩
      exact ⟨hadmits, r, hr, rfl⟩
    · rintro ⟨hadmits, r, hr, rfl⟩
      exact ⟨r, ⟨hr, hadmits⟩, rfl⟩
  by_cases hword : word ∈ (ofLines d g convention carry lines).toList.map Rename.old
  · rw [if_pos (hmem.mp hword).1]
    obtain ⟨r, hr, rfl⟩ := List.mem_map.mp hword
    rw [get?_of_mem _ hg r hr, get?_of_mem _ hf r]
    rw [hlist] at hr
    exact (List.mem_filter.mp hr).1
  · rw [get?_of_not_mem _ hg word hword]
    by_cases hadmits : g.admits word = true
    · rw [if_pos hadmits, get?_of_not_mem _ hf word fun hold => hword (hmem.mpr ⟨hadmits, hold⟩)]
    · rw [if_neg hadmits]

omit h

/-- Further keywords and ignore patterns take exactly those renames out of the table whose old
identifier is one of the keywords or is accepted by one of the patterns. The others stay, in order
and to the same identifiers. -/
theorem protection_removes (hwithin : f.Within g) (d : Delimiters) (convention : Convention)
    (carry : QuoteCarry) (lines : List Text) :
    let wide := ofLines d f convention carry lines
    let narrow := ofLines d g convention carry lines
    narrow.toList = wide.toList.filter (fun r => g.admits r.old) ∧
    (∀ r ∈ wide.toList, r ∉ narrow.toList ↔ r.old ∈ g.keywords ∨
      ∃ pattern ∈ g.ignore, g.accepts pattern (String.ofList r.old) = true) ∧
    ∀ word, narrow.get? word = if g.admits word then wide.get? word else none := by
  intro wide narrow
  have hless := CandidateFilter.admits_within f g hwithin
  have hlist : narrow.toList = wide.toList.filter fun r => g.admits r.old :=
    toList_restrict f g hless d convention carry lines
  refine ⟨hlist, fun r hr => ?_, get?_restrict f g hless d convention carry lines⟩
  -- What the wider table holds is a word without a leading digit, so that only a keyword or a
  -- pattern can turn it away.
  obtain ⟨-, hadmits, -⟩ := mem_ofLines d f convention carry lines r hr
  obtain ⟨hne, hdigit, -⟩ := (f.admits_iff r.old).mp hadmits
  rw [hlist, List.mem_filter, CandidateFilter.admits_iff, ← CandidateFilter.ignores_iff]
  simp only [hr, hne, hdigit, true_and, ne_eq, not_false_eq_true, not_and_or, not_not,
    Bool.not_eq_false]

/-- A keyword and a pattern take out the first and the third of four renames. -/
theorem protection_removes_two :
    let d := Delimiters.ofChars [';', '=', '(', ')', ',']
    let f : CandidateFilter := ⟨["int".toList], ["x*"], IgnorePattern.accepts⟩
    let g : CandidateFilter :=
      ⟨["int".toList, "fooBar".toList], ["gl*", "x*"], IgnorePattern.accepts⟩
    let lines := ["int fooBar = barBaz;\n".toList, "glBind(\"quxQuux\", barBaz, fooBar);\n".toList,
      "lastOne = barBaz;\n".toList]
    let wide := ofLines d f .snake .file lines
    let narrow := ofLines d g .snake .file lines
    f.Within g ∧
    wide.toList.map Rename.old =
      ["fooBar".toList, "barBaz".toList, "glBind".toList, "lastOne".toList] ∧
    narrow.toList = wide.toList.filter (fun r => g.admits r.old) ∧
    narrow.toList.map Rename.old = ["barBaz".toList, "lastOne".toList] ∧
    narrow.get? "glBind".toList = none := by
  intro d f g lines wide narrow
  have hwithin : f.Within g := by
    constructor
    · decide
    · decide
    · rfl
  obtain ⟨hlist, -, hget⟩ := protection_removes f g hwithin d .snake .file lines
  have hwide : wide.toList = [⟨"fooBar".toList, "foo_bar".toList⟩,
      ⟨"barBaz".toList, "bar_baz".toList⟩, ⟨"glBind".toList, "gl_bind".toList⟩,
      ⟨"lastOne".toList, "last_one".toList⟩] := by
    rw [toList_ofLines]
    decide +kernel
  refine ⟨hwithin, ?_, hlist, ?_, ?_⟩
  · rw [hwide]
    rfl
  · rw [hlist, hwide]
    decide +kernel
  · rw [hget, if_neg (by decide +kernel)]

end RenameTable

end IdentCase
