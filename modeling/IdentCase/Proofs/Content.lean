import IdentCase.Proofs.Substitution

/-!
# The content that a run leaves

Case mappings give at least one character and never a newline, so a run leaves the division of a
text into lines as it is. A touched line always reads differently than before: its pieces that are
exchanged all grow, all shrink, or keep their length and change in place. Hence a run changes the
content exactly when it reports something.
-/

set_option autoImplicit false

namespace IdentCase

namespace Text

theorem ofNat_newline (n : Nat) (h : Char.ofNat n = '\n') : n = 10 := by
  rw [Char.ofNat] at h
  by_cases hvalid : n.isValidChar
  · rw [dif_pos hvalid] at h
    exact congrArg Char.toNat h
  · rw [dif_neg hvalid] at h
    cases h

theorem image_target (shifts : List Shift) (code image : Nat)
    (h : Shift.image? shifts code = some image) : ∃ s ∈ shifts, s.target ≤ image := by
  induction shifts with
  | nil => cases h
  | cons s rest ih =>
    rw [Shift.image?] at h
    split at h
    · cases h
    · split at h
      · split at h
        · refine ⟨s, by simp, ?_⟩
          have himage := Option.some.inj h
          omega
        · cases h
      · obtain ⟨t, ht, htarget⟩ := ih h
        exact ⟨t, by simp [ht], htarget⟩

/-- A mapping whose tables name no control characters keeps newlines apart from all else. -/
theorem mapCase_line (expansions : List (Nat × List Nat)) (shifts : List Shift)
    (hcodes : ∀ entry ∈ expansions, entry.2 ≠ [] ∧ ∀ code ∈ entry.2, 10 < code)
    (htargets : ∀ s ∈ shifts, 10 < s.target) (c : Char) :
    mapCase expansions shifts c ≠ [] ∧ ('\n' ∈ mapCase expansions shifts c → c = '\n') := by
  unfold mapCase
  split
  · rename_i codes hlookup
    obtain ⟨before, behind, hsplit, -⟩ := List.lookup_eq_some_iff.mp hlookup
    obtain ⟨hne, hbeyond⟩ := hcodes (c.toNat, codes) (by simp [hsplit])
    refine ⟨by simpa using hne, fun hnewline => ?_⟩
    obtain ⟨code, hcode, heq⟩ := List.mem_map.mp hnewline
    have hten := ofNat_newline code heq
    have hlarge := hbeyond code hcode
    omega
  · split
    · rename_i image himage
      refine ⟨by simp, fun hnewline => ?_⟩
      have hten := ofNat_newline image (List.mem_singleton.mp hnewline).symm
      obtain ⟨s, hs, htarget⟩ := image_target shifts c.toNat image himage
      have hlarge := htargets s hs
      omega
    · exact ⟨by simp, fun hnewline => (List.mem_singleton.mp hnewline).symm⟩

theorem lower_line (c : Char) : lower c ≠ [] ∧ ('\n' ∈ lower c → c = '\n') :=
  mapCase_line lowerExpansions lowerShifts (by decide +kernel) (by decide +kernel) c

theorem upper_line (c : Char) : upper c ≠ [] ∧ ('\n' ∈ upper c → c = '\n') :=
  mapCase_line upperExpansions upperShifts (by decide +kernel) (by decide +kernel) c

end Text

namespace Convention
open Text

theorem joinWords_line (text : Text) :
    (text ≠ [] → joinWords text ≠ []) ∧ ('\n' ∈ joinWords text → '\n' ∈ text) := by
  fun_induction joinWords text with
  | case1 => simp
  | case2 c => simp
  | case3 c d rest h ih =>
    refine ⟨fun _ => by simp [(upper_line d).1], fun hnewline => ?_⟩
    rcases List.mem_append.mp hnewline with hd | hrest
    · simp [(upper_line d).2 hd]
    · simp [ih.2 hrest]
  | case4 c d rest h ih =>
    refine ⟨by simp, fun hnewline => ?_⟩
    rcases List.mem_cons.mp hnewline with hc | hrest
    · simp [← hc]
    · exact List.mem_cons_of_mem c (ih.2 hrest)

theorem separateWords_line (previous : Option Char) (text : Text) :
    (text ≠ [] → separateWords previous text ≠ []) ∧
      ('\n' ∈ separateWords previous text → '\n' ∈ text) := by
  induction text generalizing previous with
  | nil => simp [separateWords]
  | cons c rest ih =>
    refine ⟨fun _ => by simp [separateWords, (lower_line c).1], fun hnewline => ?_⟩
    simp only [separateWords, List.mem_append] at hnewline
    rcases hnewline with (hmark | hc) | hrest
    · split at hmark
      · simp at hmark
      · simp at hmark
    · simp [(lower_line c).2 hc]
    · exact List.mem_cons_of_mem c ((ih (some c)).2 hrest)

theorem camelBody_line (text : Text) :
    (text ≠ [] → camelBody text ≠ []) ∧ ('\n' ∈ camelBody text → '\n' ∈ text) := by
  cases text with
  | nil => simp [camelBody]
  | cons c rest =>
    refine ⟨fun _ => by simp [camelBody, (lower_line c).1], fun hnewline => ?_⟩
    rcases List.mem_append.mp hnewline with hc | hrest
    · simp [(lower_line c).2 hc]
    · exact List.mem_cons_of_mem c ((joinWords_line rest).2 hrest)

theorem capitalize_line (text : Text) :
    (text ≠ [] → capitalize text ≠ []) ∧ ('\n' ∈ capitalize text → '\n' ∈ text) := by
  cases text with
  | nil => simp [capitalize]
  | cons c rest =>
    refine ⟨fun _ => by simp [capitalize, (upper_line c).1], fun hnewline => ?_⟩
    rcases List.mem_append.mp hnewline with hc | hrest
    · simp [(upper_line c).2 hc]
    · exact List.mem_cons_of_mem c hrest

/-- A conversion neither empties an identifier nor brings in a newline. -/
theorem convert_line (convention : Convention) (text : Text) :
    (text ≠ [] → convention.convert text ≠ []) ∧
      ('\n' ∈ convention.convert text → '\n' ∈ text) := by
  cases convention with
  | snake => exact separateWords_line none text
  | camel =>
    rw [convert, toCamel_body]
    exact camelBody_line text
  | pascal =>
    obtain ⟨hne, hline⟩ := camelBody_line text
    obtain ⟨hne', hline'⟩ := capitalize_line (camelBody text)
    rw [convert, toPascal, toCamel_body]
    exact ⟨fun h => hne' (hne h), fun h => hline (hline' h)⟩

end Convention

namespace Lines

inductive Divided : List Text → Prop
  | nil : Divided []
  | last (line : Text) (hne : line ≠ []) (hopen : '\n' ∉ line) : Divided [line]
  | line (body : Text) (rest : List Text) (hbody : '\n' ∉ body) (h : Divided rest) :
      Divided ((body ++ ['\n']) :: rest)

theorem ofText_divided (text : Text) : Divided (ofText text) := by
  induction text with
  | nil => exact .nil
  | cons c rest ih =>
    rw [ofText]
    by_cases hc : c = '\n'
    · rw [if_pos hc, hc]
      exact .line [] _ (by simp) ih
    · rw [if_neg hc]
      generalize ofText rest = lines at ih
      cases ih with
      | nil => exact .last [c] (by simp) (by simpa using Ne.symm hc)
      | last line hne hopen =>
        exact .last (c :: line) (by simp) (by simp [Ne.symm hc, hopen])
      | line body rest hbody h => exact .line (c :: body) rest (by simp [Ne.symm hc, hbody]) h

theorem ofText_line (body rest : Text) (hbody : '\n' ∉ body) :
    ofText (body ++ '\n' :: rest) = (body ++ ['\n']) :: ofText rest := by
  induction body with
  | nil => simp [ofText]
  | cons c body ih =>
    obtain ⟨hc, hbody⟩ := not_or.mp (mt List.mem_cons.mpr hbody)
    simp [ofText, Ne.symm hc, ih hbody]

theorem ofText_last (line : Text) (hne : line ≠ []) (hopen : '\n' ∉ line) :
    ofText line = [line] := by
  induction line with
  | nil => exact absurd rfl hne
  | cons c line ih =>
    obtain ⟨hc, hopen⟩ := not_or.mp (mt List.mem_cons.mpr hopen)
    cases line with
    | nil => simp [ofText, Ne.symm hc]
    | cons d line =>
      rw [ofText, if_neg (Ne.symm hc), ih (by simp) hopen]

/-- Lines that were divided once are found again in the text that they make up. -/
theorem ofText_toText (lines : List Text) (h : Divided lines) : ofText (toText lines) = lines := by
  induction h with
  | nil => rfl
  | last line hne hopen => simpa [toText] using ofText_last line hne hopen
  | line body rest hbody h ih =>
    have htext : toText ((body ++ ['\n']) :: rest) = body ++ '\n' :: toText rest := by
      simp [toText]
    rw [htext, ofText_line body _ hbody, ih]

theorem divided_map (f : Text → Text) (hnewline : ∀ text, '\n' ∈ f text → '\n' ∈ text)
    (hend : ∀ body, f (body ++ ['\n']) = f body ++ ['\n']) (hne : ∀ text, text ≠ [] → f text ≠ [])
    (lines : List Text) (h : Divided lines) : Divided (lines.map f) := by
  induction h with
  | nil => exact .nil
  | last line hline hopen => exact .last (f line) (hne line hline) (mt (hnewline line) hopen)
  | line body rest hbody h ih =>
    rw [List.map_cons, hend]
    exact .line (f body) _ (mt (hnewline body) hbody) ih

end Lines

namespace Delimiters

theorem map_join_newline (d : Delimiters) (f : Text → Text) (hf : f [] = []) (body : Text) :
    ((d.segments (body ++ ['\n'])).map f).join = ((d.segments body).map f).join ++ ['\n'] := by
  rw [segments_append_mark d body [] '\n' d.contains_newline]
  simp [Segments.map, Segments.join, segments, hf]

theorem map_join_nonempty (d : Delimiters) (f : Text → Text) (hf : ∀ text, text ≠ [] → f text ≠ [])
    (line : Text) (hline : line ≠ []) : ((d.segments line).map f).join ≠ [] := by
  intro hempty
  simp only [Segments.map, Segments.join, List.append_eq_nil_iff] at hempty
  obtain ⟨hhead, htail⟩ := hempty
  have hnone : (d.segments line).tail = [] := by
    cases h : (d.segments line).tail with
    | nil => rfl
    | cons part tail => simp [h] at htail
  have hwhole : (d.segments line).head = line := by
    have hjoin := segments_join d line
    rw [Segments.join, hnone] at hjoin
    simpa using hjoin
  rw [hwhole] at hhead
  exact hf line hline hhead

/-- Each exchange adds the same to the length. -/
theorem swap_length (s : Segments) (old new : Text) :
    (s.swap old new).join.length + s.pieces.count old * old.length =
      s.join.length + s.pieces.count old * new.length := by
  obtain ⟨head, tail⟩ := s
  induction tail generalizing head with
  | nil =>
    by_cases h : head = old
    · simp [h, Segments.swap, Segments.map, Segments.join, Segments.pieces, Nat.add_comm]
    · simp [h, Segments.swap, Segments.map, Segments.join, Segments.pieces, exchange_other]
  | cons part tail ih =>
    obtain ⟨c, piece⟩ := part
    have hrest := ih piece
    have hpieces : Segments.pieces ⟨head, (c, piece) :: tail⟩ =
        head :: Segments.pieces ⟨piece, tail⟩ := rfl
    rw [swap_join_cons, join_cons, hpieces]
    simp only [List.length_append, List.length_cons]
    by_cases h : head = old
    · rw [h, exchange_old, List.count_cons_self, Nat.succ_mul, Nat.succ_mul]
      omega
    · rw [exchange_other old new head h, List.count_cons_of_ne (fun heq => h heq)]
      omega

theorem swap_in_place (s : Segments) (old new : Text) (hlength : new.length = old.length)
    (heq : (s.swap old new).join = s.join) :
    ∀ piece ∈ s.pieces, exchange old new piece = piece := by
  have hkept (piece : Text) : (exchange old new piece).length = piece.length := by
    by_cases h : piece = old
    · rw [h, exchange_old, hlength]
    · rw [exchange_other old new piece h]
  obtain ⟨head, tail⟩ := s
  induction tail generalizing head with
  | nil => simpa [Segments.swap, Segments.map, Segments.join, Segments.pieces] using heq
  | cons part tail ih =>
    obtain ⟨c, piece⟩ := part
    rw [swap_join_cons, join_cons] at heq
    obtain ⟨hhead, hrest⟩ := List.append_inj heq (hkept head)
    intro q hq
    rcases List.mem_cons.mp hq with rfl | hq
    · exact hhead
    · exact ih piece (List.cons.inj hrest).2 q hq

/-- A line in which a piece is exchanged for another text reads differently afterwards. -/
theorem swap_changes (s : Segments) (old new : Text) (hmem : old ∈ s.pieces) (hne : new ≠ old) :
    (s.swap old new).join ≠ s.join := by
  intro heq
  by_cases hlength : new.length = old.length
  · have hsame := swap_in_place s old new hlength heq old hmem
    rw [exchange_old] at hsame
    exact hne hsame
  · have hsum := swap_length s old new
    have hcount : 0 < s.pieces.count old := List.count_pos_iff.mpr hmem
    rw [heq] at hsum
    exact hlength (Nat.eq_of_mul_eq_mul_left hcount (by omega)).symm

end Delimiters

namespace Engine

theorem substitute_line (e : Engine) (lines : List Text) (piece : Text) :
    (piece ≠ [] → Report.substitute (e.run lines).reports piece ≠ []) ∧
      ('\n' ∈ Report.substitute (e.run lines).reports piece → '\n' ∈ piece) := by
  rcases Report.substitute_cases (e.run lines).reports piece with ⟨r, hr, hold, hnew⟩ | ⟨-, hsame⟩
  · rw [hnew, (report_new e lines r hr).1, hold]
    exact e.convention.convert_line piece
  · rw [hsame]
    exact ⟨id, id⟩

theorem substitute_nil (e : Engine) (lines : List Text) :
    Report.substitute (e.run lines).reports [] = [] := by
  apply Report.substitute_other
  intro r hr
  exact (table_named e lines r.rename (report_in_table e lines r hr)).1

theorem run_divided (e : Engine) (lines : List Text) (h : Lines.Divided lines) :
    Lines.Divided (e.run lines).lines := by
  rw [run_substitutes]
  refine Lines.divided_map _ (fun text hnewline => ?_)
    (e.delimiters.map_join_newline _ (substitute_nil e lines))
    (e.delimiters.map_join_nonempty _ fun piece => (substitute_line e lines piece).1) lines h
  rcases e.delimiters.map_chars _ text _ hnewline with hline | ⟨piece, hpiece, hnewline⟩
  · exact hline
  · exact e.delimiters.pieces_chars text piece hpiece _ ((substitute_line e lines piece).2 hnewline)

theorem run_changes (e : Engine) (lines : List Text) (r : Report)
    (hr : r ∈ (e.run lines).reports) : (e.run lines).lines ≠ lines := by
  obtain ⟨i, htouches⟩ := report_touches e lines r hr
  obtain ⟨line, hline, hpiece, hswap⟩ := touched_line e lines i r hr htouches
  intro hsame
  rw [hsame, hline] at hswap
  have hchanged := Delimiters.swap_changes (e.delimiters.segments line) _ _ hpiece
    (report_new e lines r hr).2
  rw [e.delimiters.segments_join] at hchanged
  exact hchanged (Option.some.inj hswap).symm

/-- The lines of a run are those of the content that it leaves. -/
theorem runText_lines (e : Engine) (content : Text) :
    Lines.ofText (e.runText content).content = (e.runText content).lines :=
  Lines.ofText_toText _ (run_divided e _ (Lines.ofText_divided content))

theorem runText_unchanged_iff (e : Engine) (content : Text) :
    (e.runText content).content = content ↔ (e.runText content).reports = [] := by
  constructor
  · intro hsame
    by_contra hne
    obtain ⟨r, hr⟩ := List.exists_mem_of_ne_nil _ hne
    have hlines := runText_lines e content
    rw [hsame] at hlines
    exact run_changes e _ r hr hlines.symm
  · intro hnone
    have hempty := (no_report_iff e (Lines.ofText content)).mp hnone
    rw [Outcome.content, runText, (run_of_empty_table e _ hempty).2, Lines.toText_ofText]

/-- A run keeps the lines of a text in number, and they are found again in the content that it
leaves, so a later run meets the same lines. The content is the text as it was exactly when the run
reports nothing, and this is what `hasChanges` tells. -/
theorem runText_keeps_division (e : Engine) (content : Text) :
    let outcome := e.runText content
    outcome.lines.length = (Lines.ofText content).length ∧
    Lines.ofText outcome.content = outcome.lines ∧
    (∀ later : Engine, later.runText outcome.content = later.run outcome.lines) ∧
    (outcome.content = content ↔ outcome.reports = []) ∧
    (outcome.hasChanges = true ↔ outcome.content ≠ content) := by
  intro outcome
  have hlength : outcome.lines.length = (Lines.ofText content).length := by
    rw [show outcome.lines = _ from run_substitutes e (Lines.ofText content), List.length_map]
  have hlines : Lines.ofText outcome.content = outcome.lines := runText_lines e content
  have hunchanged : outcome.content = content ↔ outcome.reports = [] :=
    runText_unchanged_iff e content
  refine ⟨hlength, hlines, fun later => ?_, hunchanged, ?_⟩
  · rw [runText, hlines]
  · rw [Ne, hunchanged]
    simp [Outcome.hasChanges]

end Engine

end IdentCase
