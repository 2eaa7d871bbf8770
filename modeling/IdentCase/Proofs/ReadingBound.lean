import IdentCase.Settings.Reader

/-!
# Readers that repeat

A reader that succeeds leaves less text than it was given. Reading the items of a list or the
members of an object therefore takes fewer rounds than the text has characters, and the bound on the
rounds is never what ends it: every greater bound gives the same answer.
-/

set_option autoImplicit false

namespace IdentCase

namespace Json

def Shortens {α : Type} (read : Reader α) : Prop :=
  ∀ text value rest, read text = .ok (value, rest) → rest.length < text.length

theorem Shortens.error_or_ok {α : Type} {read : Reader α} (h : Shortens read) (text : Text) :
    (∃ problem, read text = .error problem) ∨
      ∃ value rest, read text = .ok (value, rest) ∧ rest.length < text.length := by
  cases hread : read text with
  | error problem => exact .inl ⟨problem, rfl⟩
  | ok found => exact .inr ⟨found.1, found.2, rfl, h text found.1 found.2 hread⟩

/-! ## Rounds -/

inductive Round {σ α : Type} (loop : Nat → Bool → σ → Reader α) (first : Bool) (state : σ)
    (text : Text) : Prop
  | fails (problem : ReadError) (h : ∀ fuel, loop (fuel + 1) first state text = .error problem)
  | ends (value : α) (rest : Text) (hrest : rest.length < text.length)
    (h : ∀ fuel, loop (fuel + 1) first state text = .ok (value, rest))
  | goesOn (next : σ) (behind : Text) (finish : α → α) (hbehind : behind.length < text.length)
    (h : ∀ fuel, loop (fuel + 1) first state text =
      (loop fuel false next behind).map fun found => (finish found.1, found.2))

theorem Round.of_read {σ α β : Type} {loop : Nat → Bool → σ → Reader α} {first : Bool} {state : σ}
    {text rest : Text} (hrest : rest.length < text.length) {read : Reader β} (hread : Shortens read)
    (next : β → σ) (h : ∀ fuel, loop (fuel + 1) first state text =
      read rest >>= fun found => loop fuel false (next found.1) found.2) :
    Round loop first state text := by
  obtain ⟨problem, hproblem⟩ | ⟨value, behind, hvalue, hbehind⟩ := hread.error_or_ok rest
  · exact .fails problem fun fuel => by
      rw [h, hproblem]
      rfl
  · refine .goesOn (next value) behind id (Nat.lt_trans hbehind hrest) fun fuel => ?_
    rw [h, hvalue]
    show loop fuel false (next value) behind = _
    cases loop fuel false (next value) behind <;> rfl

structure Repeats {σ α : Type} (loop : Nat → Bool → σ → Reader α) : Prop where
  stops : ∀ first state text, ∃ problem, loop 0 first state text = .error problem
  rounds : ∀ first state text, Round loop first state text

namespace Repeats

theorem shortens {σ α : Type} {loop : Nat → Bool → σ → Reader α} (hloop : Repeats loop)
    (fuel : Nat) (first : Bool) (state : σ) : Shortens (loop fuel first state) := by
  induction fuel generalizing first state with
  | zero =>
    intro text value rest h
    obtain ⟨problem, hstops⟩ := hloop.stops first state text
    rw [hstops] at h
    cases h
  | succ fuel ih =>
    intro text value rest h
    cases hloop.rounds first state text with
    | fails problem hround =>
      rw [hround] at h
      cases h
    | ends last left hleft hround =>
      rw [hround] at h
      cases h
      exact hleft
    | goesOn next behind finish hbehind hround =>
      rw [hround] at h
      cases hnext : loop fuel false next behind with
      | error problem =>
        rw [hnext] at h
        cases h
      | ok found =>
        rw [hnext] at h
        cases h
        exact Nat.lt_trans (ih false next behind found.1 found.2 hnext) hbehind

theorem eq_of_length_lt {σ α : Type} {loop : Nat → Bool → σ → Reader α} (hloop : Repeats loop)
    (fuel other : Nat) (first : Bool) (state : σ) (text : Text) (hfuel : text.length < fuel)
    (hother : text.length < other) : loop fuel first state text = loop other first state text := by
  induction fuel generalizing other first state text with
  | zero => omega
  | succ fuel ih =>
    cases other with
    | zero => omega
    | succ other =>
      cases hloop.rounds first state text with
      | fails problem hround => rw [hround, hround]
      | ends last left hleft hround => rw [hround, hround]
      | goesOn next behind finish hbehind hround =>
        -- The text has become shorter, so one round less is enough on either side.
        rw [hround, hround, ih other false next behind (by omega) (by omega)]

end Repeats

/-! ## Values of one kind -/

theorem readChars_shortens (skip : Nat) : Shortens (readChars skip) := by
  intro text chars rest h
  induction text generalizing skip chars with
  | nil => cases skip <;> cases h
  | cons c text ih =>
    cases skip with
    | succ skip => exact Nat.lt_succ_of_lt (ih skip chars h)
    | zero =>
      rw [readChars] at h
      split at h
      · cases h
        exact Nat.lt_succ_self _
      · split at h
        · obtain ⟨⟨value, taken⟩, -, h⟩ := ok_of_bind h
          obtain ⟨⟨more, behind⟩, hmore, h⟩ := ok_of_bind h
          cases h
          exact Nat.lt_succ_of_lt (ih taken more hmore)
        · split at h
          · cases h
          · obtain ⟨⟨more, behind⟩, hmore, h⟩ := ok_of_bind h
            cases h
            exact Nat.lt_succ_of_lt (ih 0 more hmore)

theorem readStringBody_shortens : Shortens readStringBody := by
  intro text value rest h
  obtain ⟨⟨chars, behind⟩, hchars, h⟩ := ok_of_bind h
  cases h
  exact readChars_shortens 0 text chars rest hchars

theorem readStringAs_shortens (expected : String) : Shortens (readStringAs expected) := by
  intro text value rest h
  rw [readStringAs] at h
  split at h
  · rename_i hquote
    exact Nat.lt_trans (readStringBody_shortens _ _ _ h) (skipBlanks_cons hquote)
  · cases h

theorem readString_shortens : Shortens readString := readStringAs_shortens "a string"

theorem readChar_shortens : Shortens readChar := by
  intro text c rest h
  obtain ⟨⟨value, behind⟩, hvalue, h⟩ := ok_of_bind h
  have hbehind := readStringAs_shortens "a character" text value behind hvalue
  dsimp only at h
  split at h
  · cases h
    exact hbehind
  · cases h

theorem readOption_shortens {α : Type} {value : Reader α} (hvalue : Shortens value) :
    Shortens (readOption value) := by
  intro text v rest h
  rw [readOption] at h
  split at h
  · rename_i hword
    obtain ⟨behind, hbehind, h⟩ := ok_of_bind h
    cases h
    exact Nat.lt_of_le_of_lt (readWord_length hbehind) (skipBlanks_cons hword)
  · obtain ⟨⟨w, behind⟩, hw, h⟩ := ok_of_bind h
    cases h
    exact Nat.lt_of_lt_of_le (hvalue _ _ _ hw) (skipBlanks_length text)

theorem readNull_shortens : Shortens readNull := by
  intro text value rest h
  rw [readNull] at h
  split at h
  · rename_i hword
    obtain ⟨behind, hbehind, h⟩ := ok_of_bind h
    cases h
    exact Nat.lt_of_le_of_lt (readWord_length hbehind) (skipBlanks_cons hword)
  · cases h

/-! ## Lists -/

theorem nextItem?_length {first : Bool} {text start : Text}
    (h : nextItem? first text = .ok (some start)) : start.length ≤ text.length := by
  have hblanks := skipBlanks_length text
  rw [nextItem?] at h
  split at h
  · cases h
  · cases h
  · rename_i c rest _ hrest
    rw [hrest] at hblanks
    split at h
    · cases h
      exact hblanks
    · split at h
      · have hmore := skipBlanks_length rest
        rw [List.length_cons] at hblanks
        split at h
        · cases h
        · cases h
        · cases h
          omega
      · cases h

theorem closeList_length {text rest : Text} (h : closeList text = .ok rest) :
    rest.length < text.length := by
  rw [closeList] at h
  split at h
  · cases h
  · rename_i hbracket
    cases h
    exact skipBlanks_cons hbracket
  · split at h <;> cases h
  · cases h

theorem readItems_repeats {α : Type} {item : Reader α} (hitem : Shortens item) :
    Repeats fun fuel first (_ : Unit) => readItems item fuel first where
  stops first _ text := ⟨.endInList, rfl⟩
  rounds first _ text := by
    cases hnext : nextItem? first text with
    | error problem =>
      exact .fails problem fun fuel => by
        rw [readItems, hnext]
        rfl
    | ok next =>
      cases next with
      | none =>
        cases hclose : closeList text with
        | error problem =>
          exact .fails problem fun fuel => by
            rw [readItems, hnext, hclose]
            rfl
        | ok rest =>
          exact .ends [] rest (closeList_length hclose) fun fuel => by
            rw [readItems, hnext, hclose]
            rfl
      | some start =>
        have hstart := nextItem?_length hnext
        obtain ⟨problem, hvalue⟩ | ⟨value, behind, hvalue, hbehind⟩ := hitem.error_or_ok start
        · exact .fails problem fun fuel => by
            rw [readItems, hnext]
            show (item start >>= _) = _
            rw [hvalue]
            rfl
        · refine .goesOn () behind (value :: ·) (Nat.lt_of_lt_of_le hbehind hstart) fun fuel => ?_
          rw [readItems, hnext]
          show (item start >>= _) = _
          rw [hvalue]
          show (readItems item fuel false behind >>= _) = _
          cases readItems item fuel false behind <;> rfl

/-- The length of the text bounds the rounds that reading the items of a list takes. -/
theorem readItems_bound {α : Type} {item : Reader α} (hitem : Shortens item) (fuel : Nat)
    (first : Bool) (text : Text) (hfuel : text.length < fuel) :
    readItems item fuel first text = readItems item (text.length + 1) first text :=
  (readItems_repeats hitem).eq_of_length_lt fuel _ first () text hfuel (Nat.lt_succ_self _)

theorem readList_shortens {α : Type} {item : Reader α} (hitem : Shortens item) :
    Shortens (readList item) := by
  intro text values rest h
  rw [readList] at h
  split at h
  · rename_i behind hbracket
    exact Nat.lt_trans ((readItems_repeats hitem).shortens _ _ () _ _ _ h) (skipBlanks_cons hbracket)
  · cases h

theorem readPlace_length {α : Type} {value : Reader α} (hvalue : Shortens value) {first : Bool}
    {text rest : Text} {v : Option α} (h : readPlace first value text = .ok (v, rest)) :
    rest.length ≤ text.length := by
  rw [readPlace] at h
  obtain ⟨next, hnext, h⟩ := ok_of_bind h
  cases next with
  | none =>
    cases h
    exact Nat.le_refl _
  | some start =>
    obtain ⟨⟨w, behind⟩, hw, h⟩ := ok_of_bind h
    cases h
    have hstart := nextItem?_length hnext
    have hrest := hvalue start w rest hw
    omega

/-! ## Objects -/

theorem nextMember_length {first : Bool} {text : Text} {next : Text ⊕ String × Text}
    (h : nextMember first text = .ok next) : (next.elim id Prod.snd).length < text.length := by
  rw [nextMember] at h
  split at h
  · cases h
  · rename_i hbrace
    cases h
    exact skipBlanks_cons hbrace
  · rename_i c rest _ hrest
    have hopened := skipBlanks_cons hrest
    split at h
    · split at h
      · obtain ⟨⟨key, behind⟩, hkey, h⟩ := ok_of_bind h
        cases h
        exact Nat.lt_trans (readStringBody_shortens _ _ _ hkey) hopened
      · cases h
    · split at h
      · split at h
        · cases h
        · rename_i more hquote
          obtain ⟨⟨key, behind⟩, hkey, h⟩ := ok_of_bind h
          cases h
          have hmore := skipBlanks_cons hquote
          have hbehind := readStringBody_shortens _ _ _ hkey
          exact Nat.lt_trans hbehind (Nat.lt_trans hmore hopened)
        · cases h
        · cases h
      · cases h

theorem skipFrom_length {phase : SkipPhase} {frames : List Frame} {text rest : Text}
    (h : skipFrom phase frames text = .ok rest) : rest.length ≤ text.length := by
  fun_induction skipFrom phase frames text with
  | case1 | case4 | case7 | case9 | case11 | case13 | case15 => cases h
  | case2 text frames behind hblanks hbehind ih => exact Nat.le_trans (ih h) (Nat.le_of_lt hbehind)
  | case3 text frames behind hblanks hbehind hlist ih =>
    exact Nat.le_trans (ih h) (Nat.le_of_lt hbehind)
  | case5 text frames c behind hblanks hbehind hlist hobject left hscalar hleft ih =>
    exact Nat.le_trans (ih h) (Nat.le_trans hleft hbehind)
  | case6 =>
    cases h
    exact Nat.le_refl _
  | case8 text frame frames behind hblanks hbehind ih =>
    exact Nat.le_trans (ih h) (Nat.le_of_lt hbehind)
  | case10 text frame frames c behind hblanks hbehind hclose start hstart hlength ih =>
    exact Nat.le_trans (ih h) (Nat.le_trans hlength hbehind)
  | case12 text frame frames behind hblanks hbehind ih =>
    exact Nat.le_trans (ih h) (Nat.le_of_lt hbehind)
  | case14 text frame frames behind start hstart hlength hblanks hbehind hclose ih =>
    exact Nat.le_trans (ih h) (Nat.le_trans hlength (Nat.le_of_lt hbehind))

theorem skipValue_length {text rest : Text} {value : Unit} (h : skipValue text = .ok (value, rest)) :
    rest.length ≤ text.length := by
  obtain ⟨behind, hbehind, h⟩ := ok_of_bind h
  cases h
  exact skipFrom_length hbehind

theorem readMember_shortens {α : Type} {value : Reader α}
    (hvalue : ∀ text v rest, value text = .ok (v, rest) → rest.length ≤ text.length) :
    Shortens (readMember value) := by
  intro text v rest h
  obtain ⟨behind, hcolon, h⟩ := ok_of_bind h
  exact Nat.lt_of_le_of_lt (hvalue behind v rest h) (readColon_length hcolon)

theorem readOnce_shortens {α : Type} {value : Reader α} (hvalue : Shortens value) (key : String)
    (old : Option α) : Shortens (readOnce key old value) := by
  intro text v rest h
  rw [readOnce] at h
  split at h
  · cases h
  · exact readMember_shortens (fun _ _ _ h => Nat.le_of_lt (hvalue _ _ _ h)) text v rest h

end Json

open Json

theorem QuoteCarry.read_shortens : Shortens QuoteCarry.read := by
  intro text carry rest h
  rw [QuoteCarry.read] at h
  split at h
  · cases h
  · rename_i hquote
    obtain ⟨⟨name, behind⟩, hname, h⟩ := ok_of_bind h
    obtain ⟨_, -, h⟩ := ok_of_bind h
    cases h
    exact Nat.lt_trans (readStringBody_shortens _ _ _ hname) (skipBlanks_cons hquote)
  · rename_i hbrace
    obtain ⟨⟨name, behind⟩, hname, h⟩ := ok_of_bind h
    obtain ⟨_, -, h⟩ := ok_of_bind h
    obtain ⟨⟨_, left⟩, hnull, h⟩ := ok_of_bind h
    have hopened := skipBlanks_cons hbrace
    have hbehind := readStringAs_shortens _ _ _ _ hname
    have hleft := readMember_shortens
      (fun _ _ _ h => Nat.le_of_lt (readNull_shortens _ _ _ h)) _ _ _ hnull
    dsimp only at h hleft
    split at h
    · rename_i hend
      cases h
      have hrest := skipBlanks_cons hend
      omega
    · cases h
    · cases h
  · cases h

namespace Language

theorem readMembers_repeats : Repeats readMembers where
  stops first draft text := ⟨.endInObject, rfl⟩
  rounds first draft text := by
    cases hnext : nextMember first text with
    | error problem =>
      exact .fails problem fun fuel => by
        rw [readMembers, hnext]
        rfl
    | ok next =>
      have hlength := nextMember_length hnext
      cases next with
      | inl rest =>
        cases hfinish : draft.finish with
        | error problem =>
          exact .fails problem fun fuel => by
            rw [readMembers, hnext, hfinish]
            rfl
        | ok l =>
          exact .ends l rest hlength fun fuel => by
            rw [readMembers, hnext, hfinish]
            rfl
      | inr member =>
        obtain ⟨key, rest⟩ := member
        by_cases hname : key = "name"
        · refine .of_read hlength (readOnce_shortens readString_shortens key draft.name)
            (fun value => { draft with name := some value }) fun fuel => ?_
          rw [readMembers, hnext]
          exact if_pos hname
        by_cases haliases : key = "aliases"
        · refine .of_read hlength
            (readOnce_shortens (readList_shortens readString_shortens) key draft.aliases)
            (fun value => { draft with aliases := some value }) fun fuel => ?_
          rw [readMembers, hnext]
          exact (if_neg hname).trans (if_pos haliases)
        by_cases hkeywords : key = "keywords"
        · refine .of_read hlength
            (readOnce_shortens (readList_shortens readString_shortens) key draft.keywords)
            (fun value => { draft with keywords := some value }) fun fuel => ?_
          rw [readMembers, hnext]
          exact (if_neg hname).trans ((if_neg haliases).trans (if_pos hkeywords))
        by_cases hdelimiters : key = "delimiters"
        · refine .of_read hlength
            (readOnce_shortens (readList_shortens readChar_shortens) key draft.delimiters)
            (fun value => { draft with delimiters := some value }) fun fuel => ?_
          rw [readMembers, hnext]
          exact (if_neg hname).trans ((if_neg haliases).trans
            ((if_neg hkeywords).trans (if_pos hdelimiters)))
        · refine .of_read hlength (readMember_shortens fun _ _ _ h => skipValue_length h)
            (fun _ => draft) fun fuel => ?_
          rw [readMembers, hnext]
          exact (if_neg hname).trans ((if_neg haliases).trans
            ((if_neg hkeywords).trans (if_neg hdelimiters)))

/-- The length of the text bounds the rounds that reading a language table takes. -/
theorem readMembers_bound (fuel : Nat) (first : Bool) (draft : Draft) (text : Text)
    (hfuel : text.length < fuel) :
    readMembers fuel first draft text = readMembers (text.length + 1) first draft text :=
  readMembers_repeats.eq_of_length_lt fuel _ first draft text hfuel (Nat.lt_succ_self _)

theorem readRequired_length {α : Type} {index : Nat} {value : Reader α} (hvalue : Shortens value)
    {text rest : Text} {v : α} (h : readRequired index value text = .ok (v, rest)) :
    rest.length ≤ text.length := by
  obtain ⟨⟨place, behind⟩, hplace, h⟩ := ok_of_bind h
  have hbehind := readPlace_length hvalue hplace
  cases place with
  | none => cases h
  | some w =>
    cases h
    exact hbehind

theorem readValues_shortens : Shortens readValues := by
  intro text l rest h
  obtain ⟨⟨name, text₁⟩, hname, h⟩ := ok_of_bind h
  obtain ⟨⟨aliases, text₂⟩, haliases, h⟩ := ok_of_bind h
  obtain ⟨⟨keywords, text₃⟩, hkeywords, h⟩ := ok_of_bind h
  obtain ⟨⟨delimiters, text₄⟩, hdelimiters, h⟩ := ok_of_bind h
  obtain ⟨behind, hclose, h⟩ := ok_of_bind h
  cases h
  have h₁ := readRequired_length readString_shortens hname
  have h₂ := readPlace_length (readList_shortens readString_shortens) haliases
  have h₃ := readRequired_length (readList_shortens readString_shortens) hkeywords
  have h₄ := readRequired_length (readList_shortens readChar_shortens) hdelimiters
  have hrest := closeList_length hclose
  omega

theorem read_shortens : Shortens Language.read := by
  intro text l rest h
  rw [Language.read] at h
  split at h
  · rename_i hbrace
    exact Nat.lt_trans (readMembers_repeats.shortens _ _ _ _ _ _ h) (skipBlanks_cons hbrace)
  · rename_i hbracket
    exact Nat.lt_trans (readValues_shortens _ _ _ h) (skipBlanks_cons hbracket)
  · cases h

end Language

namespace Settings

theorem readMembers_repeats : Repeats readMembers where
  stops first draft text := ⟨.endInObject, rfl⟩
  rounds first draft text := by
    cases hnext : nextMember first text with
    | error problem =>
      exact .fails problem fun fuel => by
        rw [readMembers, hnext]
        rfl
    | ok next =>
      have hlength := nextMember_length hnext
      cases next with
      | inl rest =>
        exact .ends draft.finish rest hlength fun fuel => by
          rw [readMembers, hnext]
          rfl
      | inr member =>
        obtain ⟨key, rest⟩ := member
        by_cases hconvention : key = "convention"
        · refine .of_read hlength
            (readOnce_shortens (readOption_shortens readString_shortens) key draft.convention)
            (fun value => { draft with convention := some value }) fun fuel => ?_
          rw [readMembers, hnext]
          exact if_pos hconvention
        by_cases hlanguage : key = "language"
        · refine .of_read hlength
            (readOnce_shortens (readOption_shortens readString_shortens) key draft.language)
            (fun value => { draft with language := some value }) fun fuel => ?_
          rw [readMembers, hnext]
          exact (if_neg hconvention).trans (if_pos hlanguage)
        by_cases hignore : key = "ignore"
        · refine .of_read hlength
            (readOnce_shortens (readList_shortens readString_shortens) key draft.ignore)
            (fun value => { draft with ignore := some value }) fun fuel => ?_
          rw [readMembers, hnext]
          exact (if_neg hconvention).trans ((if_neg hlanguage).trans (if_pos hignore))
        by_cases hcarry : key = "quoteCarry"
        · refine .of_read hlength
            (readOnce_shortens (readOption_shortens QuoteCarry.read_shortens) key draft.quoteCarry)
            (fun value => { draft with quoteCarry := some value }) fun fuel => ?_
          rw [readMembers, hnext]
          exact (if_neg hconvention).trans ((if_neg hlanguage).trans
            ((if_neg hignore).trans (if_pos hcarry)))
        by_cases hlanguages : key = "languages"
        · refine .of_read hlength
            (readOnce_shortens (readList_shortens Language.read_shortens) key draft.languages)
            (fun value => { draft with languages := some value }) fun fuel => ?_
          rw [readMembers, hnext]
          exact (if_neg hconvention).trans ((if_neg hlanguage).trans
            ((if_neg hignore).trans ((if_neg hcarry).trans (if_pos hlanguages))))
        · refine .fails (.unknownField key fields) fun fuel => ?_
          rw [readMembers, hnext]
          exact (if_neg hconvention).trans ((if_neg hlanguage).trans
            ((if_neg hignore).trans ((if_neg hcarry).trans (if_neg hlanguages))))

/-- The length of the text bounds the rounds that reading settings takes. -/
theorem readMembers_bound (fuel : Nat) (first : Bool) (draft : Draft) (text : Text)
    (hfuel : text.length < fuel) :
    readMembers fuel first draft text = readMembers (text.length + 1) first draft text :=
  readMembers_repeats.eq_of_length_lt fuel _ first draft text hfuel (Nat.lt_succ_self _)

end Settings

end IdentCase
