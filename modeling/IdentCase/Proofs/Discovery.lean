import IdentCase.Proofs.Frame

/-!
# What a scan discovers

The scan goes through the lines with the quote state carried from one to the next. It meets texts
outside literals that are candidates and that the convention writes differently. The table of the
lines has one rename for each of them, in the order in which they are met first.
-/

set_option autoImplicit false

namespace IdentCase.RenameTable

def misnamed (filter : CandidateFilter) (convention : Convention) (text : Text) : Bool :=
  filter.admits text && convention.convert text != text

def sought (d : Delimiters) (filter : CandidateFilter) (convention : Convention)
    (carry : QuoteCarry) (state : QuoteState) : List Text → List Text
  | [] => []
  | line :: rest =>
    let scanned := Token.ofLine d state line
    let outside := scanned.1.filter fun t => !t.quoted
    (outside.map Token.text).filter (misnamed filter convention) ++
      sought d filter convention carry (carry.nextLine scanned.2) rest

def converted (convention : Convention) (text : Text) : Rename := ⟨text, convention.convert text⟩

/-- The tokens of a line ask for the renames of its misnamed texts. -/
theorem renames_of_tokens (filter : CandidateFilter) (convention : Convention)
    (tokens : List Token) :
    tokens.filterMap (renameOf? filter convention) =
      (((tokens.filter fun t => !t.quoted).map Token.text).filter
        (misnamed filter convention)).map (converted convention) := by
  induction tokens with
  | nil => rfl
  | cons t tokens ih =>
    by_cases hquoted : t.quoted = true
    · simp [renameOf?, hquoted, ih]
    · by_cases hname : misnamed filter convention t.text = true
      · have hasks : renameOf? filter convention t = some (converted convention t.text) := by
          simpa [renameOf?, misnamed, converted, hquoted] using hname
        simp [hasks, hquoted, hname, ih]
      · have hasks : renameOf? filter convention t = none := by
          simpa [renameOf?, misnamed, hquoted] using hname
        simp [hasks, hquoted, hname, ih]

theorem renames_of_lines (d : Delimiters) (filter : CandidateFilter) (convention : Convention)
    (carry : QuoteCarry) (state : QuoteState) (lines : List Text) :
    ((Token.ofLines d carry state lines).flatMap Prod.fst).filterMap
        (renameOf? filter convention) =
      (sought d filter convention carry state lines).map (converted convention) := by
  induction lines generalizing state with
  | nil => rfl
  | cons line rest ih =>
    rw [Token.ofLines, List.flatMap_cons, List.filterMap_append, renames_of_tokens, ih, sought,
      List.map_append]

theorem firsts_filter (keep : Text → Bool) (renames : List Rename) :
    firsts (renames.filter fun r => keep r.old) =
      (firsts renames).filter fun r => keep r.old := by
  induction renames with
  | nil => rfl
  | cons r renames ih =>
    by_cases hkeep : keep r.old = true
    · have hkept (rest : List Rename) : (r :: rest).filter (fun r => keep r.old) =
          r :: rest.filter fun r => keep r.old := List.filter_cons_of_pos hkeep
      rw [hkept, firsts, firsts, ih, hkept, List.filter_filter, List.filter_filter]
      congr 1
      apply List.filter_congr
      intro later _
      exact Bool.and_comm _ _
    · have hdropped (rest : List Rename) : (r :: rest).filter (fun r => keep r.old) =
          rest.filter fun r => keep r.old := List.filter_cons_of_neg hkeep
      rw [hdropped, firsts, ih, hdropped, List.filter_filter]
      apply List.filter_congr
      intro later _
      by_cases hold : later.old = r.old
      · simp [hold, hkeep]
      · simp [hold]

/-- The old identifiers of the first renames are all of them without repetitions. -/
theorem firsts_olds (renames : List Rename) :
    (firsts renames).map Rename.old = (renames.map Rename.old).eraseDups := by
  -- The repetitions of the first rename go before the rest is looked at, so the induction is on
  -- the length.
  induction hn : renames.length using Nat.strongRecOn generalizing renames with
  | ind n ih =>
    cases renames with
    | nil => rfl
    | cons r renames =>
      have hshort : (renames.filter fun later => later.old ≠ r.old).length < n := by
        have hle := List.length_filter_le (fun later : Rename => decide (later.old ≠ r.old)) renames
        rw [List.length_cons] at hn
        omega
      have hrest := ih _ hshort _ rfl
      rw [firsts_filter fun old => old ≠ r.old] at hrest
      have holds : (renames.map Rename.old).filter (fun old => !old == r.old) =
          (renames.filter fun later => later.old ≠ r.old).map Rename.old := by
        rw [List.filter_map]
        congr 1
        apply List.filter_congr
        intro later _
        simp [beq_eq_decide]
      rw [firsts, List.map_cons, List.map_cons, List.eraseDups_cons, hrest, holds]

theorem toList_sought (d : Delimiters) (filter : CandidateFilter) (convention : Convention)
    (carry : QuoteCarry) (lines : List Text) :
    (ofLines d filter convention carry lines).toList.map Rename.old =
      (sought d filter convention carry .outside lines).eraseDups := by
  rw [ofLines, toList_ofList, firsts_olds, renames_of_lines, List.map_map]
  congr 1
  exact List.map_id _

/-- The table has one rename for each text that the scan meets, in the order of the first meetings.
Each is to what the convention makes of the text. No text is a keyword, starts with a digit or with
a quote, or holds a delimiter. Asking the table gives the conversion of a text that was met, and
nothing for any other. -/
theorem ofLines_discovers (d : Delimiters) (filter : CandidateFilter) (convention : Convention)
    (carry : QuoteCarry) (lines : List Text) :
    let table := ofLines d filter convention carry lines
    let texts := sought d filter convention carry .outside lines
    table.toList.map Rename.old = texts.eraseDups ∧
    (∀ r ∈ table.toList, r.new = convention.convert r.old ∧ r.old ∉ filter.keywords ∧
      r.old.head?.any Char.isDigit = false ∧ d.Free r.old ∧ r.old.head? ≠ some '"') ∧
    ∀ text, table.get? text = if text ∈ texts then some (convention.convert text) else none := by
  intro table texts
  have holds : table.toList.map Rename.old = texts.eraseDups :=
    toList_sought d filter convention carry lines
  have hindexed : table.Indexed := ofList_indexed _
  refine ⟨holds, fun r hr => ?_, fun text => ?_⟩
  · obtain ⟨-, hadmits, hnew, -⟩ := mem_ofLines d filter convention carry lines r hr
    obtain ⟨-, hdigit, hkeyword, -⟩ := (filter.admits_iff r.old).mp hadmits
    obtain ⟨-, hfree, -⟩ := ofLines_piece d filter convention carry lines r hr
    exact ⟨hnew, hkeyword, hdigit, hfree, ofLines_opens_none d filter convention carry lines r hr⟩
  · by_cases htext : text ∈ texts
    · have hmem : text ∈ table.toList.map Rename.old := by
        rw [holds]
        exact List.mem_eraseDups.mpr htext
      obtain ⟨r, hr, rfl⟩ := List.mem_map.mp hmem
      obtain ⟨-, -, hnew, -⟩ := mem_ofLines d filter convention carry lines r hr
      rw [if_pos htext, ← hnew]
      exact get?_of_mem table hindexed r hr
    · have hmem : text ∉ table.toList.map Rename.old := by
        rw [holds]
        exact mt List.mem_eraseDups.mp htext
      rw [if_neg htext]
      exact get?_of_not_mem table hindexed text hmem

/-- A literal that is left open hides the texts up to where the next line closes it. -/
theorem ofLines_discovers_behind_literal :
    let d := Delimiters.ofChars [';', '=']
    let filter : CandidateFilter := ⟨["int".toList], [], IgnorePattern.accepts⟩
    let lines := ["s = \"openText\n".toList, "stillOpen\" fooBar = barBaz;\n".toList,
      "int fooBar = 2ndOne;\n".toList]
    let table := ofLines d filter .snake .file lines
    table.toList.map Rename.old = ["fooBar".toList, "barBaz".toList] ∧
      table.get? "fooBar".toList = some "foo_bar".toList ∧
      table.get? "stillOpen".toList = none ∧
      ∃ r ∈ table.toList, r.new = "bar_baz".toList ∧ r.old ∉ filter.keywords ∧ d.Free r.old := by
  intro d filter lines table
  obtain ⟨holds, hnames, hget⟩ := ofLines_discovers d filter .snake .file lines
  have htexts : sought d filter .snake .file .outside lines =
      ["fooBar".toList, "barBaz".toList, "fooBar".toList] := by decide +kernel
  have hfirsts : ["fooBar".toList, "barBaz".toList, "fooBar".toList].eraseDups =
      ["fooBar".toList, "barBaz".toList] := by decide +kernel
  rw [htexts, hfirsts] at holds
  have hmem : "barBaz".toList ∈ table.toList.map Rename.old := by rw [holds]; simp
  obtain ⟨r, hr, hold⟩ := List.mem_map.mp hmem
  obtain ⟨hnew, hkeyword, -, hfree, -⟩ := hnames r hr
  have hconverted : Convention.snake.convert "barBaz".toList = "bar_baz".toList := by
    decide +kernel
  refine ⟨holds, ?_, ?_, r, hr, ?_, hkeyword, hfree⟩
  · rw [hget, htexts]
    decide +kernel
  · rw [hget, htexts]
    decide +kernel
  · rw [hnew, hold, hconverted]

end IdentCase.RenameTable
