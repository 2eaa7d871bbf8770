import Mathlib.Data.List.TakeWhile
import IdentCase.Json.Reader
import IdentCase.Proofs.JsonText

/-!
# Reading the texts of a JSON value

A reader takes every text of the value that it is for, whatever stands behind the text. So strings
are read back however their characters are escaped, and a list of values is read back if each value
is.
-/

set_option autoImplicit false

namespace IdentCase.Json

def Takes {α : Type} (read : Reader α) (text : Text) (value : α) : Prop :=
  ∀ gap rest : Text, Gap gap → read (gap ++ (text ++ rest)) = .ok (value, rest)

theorem gap_blank (gap : Text) (hgap : Gap gap) : ∀ c ∈ gap, isBlank c = true := by
  intro c hc
  simpa [isBlank, or_assoc] using hgap c hc

theorem skipBlanks_gap (gap : Text) (hgap : Gap gap) (c : Char) (rest : Text)
    (hc : isBlank c = false) : skipBlanks (gap ++ c :: rest) = c :: rest := by
  rw [skipBlanks, List.dropWhile_append_of_pos (gap_blank gap hgap)]
  exact List.dropWhile_cons_of_neg (by simp [hc])

/-! ## Strings -/

theorem digit_value (value : Nat) (c : Char) (h : Digit value c) : hexValue? c = some value := by
  have hall : ∀ n < 16, hexValue? (Nat.digitChar n) = some n ∧
      hexValue? (Nat.digitChar n).toUpper = some n := by decide
  obtain ⟨hvalue, rfl | rfl⟩ := h
  · exact (hall value hvalue).1
  · exact (hall value hvalue).2

theorem readUnit_code (n : Nat) (digits rest : Text) (h : Code n digits) :
    digits.length = 4 ∧ readUnit (digits ++ rest) = .ok n := by
  cases h with
  | digits ha hb hc hd =>
    refine ⟨rfl, ?_⟩
    simp [readUnit, hexNumber?, digit_value _ _ ha, digit_value _ _ hb, digit_value _ _ hc,
      digit_value _ _ hd]
    omega

theorem readCodePoint_code (c : Char) (digits rest : Text) (h : Code c.toNat digits) :
    readCodePoint (digits ++ rest) = .ok (c, 4) := by
  have hscalar : c.toNat < 0xD800 ∨ 0xDFFF < c.toNat := by
    have hvalid : c.toNat.isValidChar := c.valid
    rcases hvalid with hlow | ⟨hhigh, -⟩
    · exact Or.inl hlow
    · exact Or.inr hhigh
  have hback : ¬(0xDC00 ≤ c.toNat ∧ c.toNat ≤ 0xDFFF) := by omega
  have hfront : ¬(0xD800 ≤ c.toNat ∧ c.toNat ≤ 0xDBFF) := by omega
  simp only [readCodePoint, (readUnit_code _ _ rest h).2, bind, Except.bind, if_neg hback,
    if_neg hfront, Char.ofNat_toNat]

theorem readCodePoint_pair (c : Char) (high low : Nat) (front back rest : Text)
    (hhigh : high < 0x400) (hlow : low < 0x400) (hc : c.toNat = 0x10000 + high * 0x400 + low)
    (hfront : Code (0xD800 + high) front) (hback : Code (0xDC00 + low) back) :
    readCodePoint (front ++ '\\' :: 'u' :: (back ++ rest)) = .ok (c, 10) := by
  obtain ⟨hlength, hunit⟩ := readUnit_code _ _ ('\\' :: 'u' :: (back ++ rest)) hfront
  have hdrop : (front ++ '\\' :: 'u' :: (back ++ rest)).drop 4 = '\\' :: 'u' :: (back ++ rest) := by
    rw [← hlength, List.drop_left]
  have hnotback : ¬(0xDC00 ≤ 0xD800 + high ∧ 0xD800 + high ≤ 0xDFFF) := by omega
  have hisfront : 0xD800 ≤ 0xD800 + high ∧ 0xD800 + high ≤ 0xDBFF := by omega
  have hisback : 0xDC00 ≤ 0xDC00 + low ∧ 0xDC00 + low ≤ 0xDFFF := by omega
  have hvalue : 0x10000 + (0xD800 + high - 0xD800) * 0x400 + (0xDC00 + low - 0xDC00) = c.toNat := by
    omega
  simp only [readCodePoint, hunit, bind, Except.bind, if_neg hnotback, if_pos hisfront, hdrop,
    if_true, (readUnit_code _ _ rest hback).2, if_pos hisback, hvalue, Char.ofNat_toNat]

theorem letter_escape (e c : Char) (h : (e, c) ∈ letters) (rest : Text) :
    readEscape (e :: rest) = .ok (c, 1) := by
  have hall : ∀ pair ∈ letters, pair.1 ≠ 'u' ∧ simpleEscape? pair.1 = some pair.2 := by decide
  obtain ⟨hunit, hsimple⟩ := hall (e, c) h
  simp only [readEscape, if_neg hunit, hsimple]

theorem readChars_skip (taken rest : Text) :
    readChars taken.length (taken ++ rest) = readChars 0 rest := by
  induction taken with
  | nil => rfl
  | cons c taken ih => simpa [readChars] using ih

def withChar (c : Char) (found : Text × Text) : Text × Text := (c :: found.1, found.2)

theorem readChars_escape (c : Char) (taken rest : Text)
    (h : readEscape (taken ++ rest) = .ok (c, taken.length)) :
    readChars 0 ('\\' :: (taken ++ rest)) = (readChars 0 rest).map (withChar c) := by
  rw [readChars, if_neg (by decide), if_pos rfl, h]
  simp only [bind, Except.bind, readChars_skip]
  cases readChars 0 rest <;> rfl

theorem readChars_char (c : Char) (text : Text) (h : WrittenChar c text) (rest : Text) :
    readChars 0 (text ++ rest) = (readChars 0 rest).map (withChar c) := by
  cases h with
  | plain hvisible hquote hescape =>
    rw [List.singleton_append, readChars, if_neg hquote, if_neg hescape, if_neg (by omega)]
    cases readChars 0 rest <;> rfl
  | @letter e hletter => exact readChars_escape c [e] rest (letter_escape e c hletter rest)
  | @code digits hcode =>
    apply readChars_escape c ('u' :: digits) rest
    have hlength := (readUnit_code _ _ rest hcode).1
    simp only [List.cons_append, readEscape, if_true, readCodePoint_code c digits rest hcode, bind,
      Except.bind, List.length_cons, hlength]
  | @pair high low front back hhigh hlow hc hfront hback =>
    apply readChars_escape c ('u' :: (front ++ '\\' :: 'u' :: back)) rest
    have hlength := (readUnit_code _ _ rest hfront).1
    have hlength' := (readUnit_code _ _ rest hback).1
    have hpoint := readCodePoint_pair c high low front back rest hhigh hlow hc hfront hback
    simp only [List.cons_append, List.append_assoc, readEscape, if_true, hpoint, bind, Except.bind,
      List.length_cons, List.length_append, hlength, hlength']

theorem readChars_written (chars text : Text) (h : WrittenChars chars text) (rest : Text) :
    readChars 0 (text ++ '"' :: rest) = .ok (chars, rest) := by
  induction h with
  | nil => simp [readChars]
  | cons hchar _ ih =>
    rw [List.append_assoc, readChars_char _ _ hchar, ih]
    rfl

/-- A string starts with a quote, and what stands behind it is read as its value. -/
theorem string_body (value : String) (text : Text) (h : WrittenString value text) :
    ∃ body, text = '"' :: body ∧ ∀ rest, readStringBody (body ++ rest) = .ok (value, rest) := by
  obtain ⟨body, hbody, rfl⟩ := h
  refine ⟨body ++ ['"'], rfl, fun rest => ?_⟩
  have hread := readChars_written value.toList body hbody rest
  rw [List.append_assoc, List.singleton_append, readStringBody, hread]
  simp only [bind, Except.bind, String.ofList_toList]

theorem readStringAs_takes (expected value : String) (text : Text) (h : WrittenString value text) :
    Takes (readStringAs expected) text value := by
  intro gap rest hgap
  obtain ⟨body, rfl, hbody⟩ := string_body value text h
  rw [readStringAs, List.cons_append, skipBlanks_gap gap hgap '"' _ (by decide)]
  exact hbody rest

theorem readString_takes (value : String) (text : Text) (h : Written (.str value) text) :
    Takes readString text value := by
  cases h with
  | str hstring => exact readStringAs_takes "a string" value text hstring

theorem readChar_takes (c : Char) (text : Text) (h : WrittenString c.toString text) :
    Takes readChar text c := by
  intro gap rest hgap
  rw [readChar, readStringAs_takes "a character" c.toString text h gap rest hgap]
  simp [bind, Except.bind]

/-! ## Nothing -/

theorem readOption_null {α : Type} (value : Reader α) :
    Takes (readOption value) ['n', 'u', 'l', 'l'] none := by
  intro gap rest hgap
  rw [readOption, List.cons_append, skipBlanks_gap gap hgap 'n' _ (by decide)]
  simp [readWord, bind, Except.bind]

theorem readOption_some {α : Type} (value : Reader α) (v : α) (body : Text)
    (h : Takes value ('"' :: body) v) : Takes (readOption value) ('"' :: body) (some v) := by
  intro gap rest hgap
  have hvalue := h [] rest gap_nil
  rw [List.nil_append, List.cons_append] at hvalue
  rw [readOption, List.cons_append, skipBlanks_gap gap hgap '"' _ (by decide)]
  simp [hvalue, bind, Except.bind]

/-- What a string stands for, or null. -/
theorem readOption_takes {α : Type} (value : Reader α) (name : α → String)
    (hvalue : ∀ v text, WrittenString (name v) text → Takes value text v) (o : Option α)
    (text : Text) (h : Written (.orNull (o.map name)) text) : Takes (readOption value) text o := by
  cases o with
  | none =>
    cases h
    exact readOption_null value
  | some v =>
    cases h with
    | str hstring =>
      have htakes := hvalue v text hstring
      obtain ⟨body, rfl, -⟩ := string_body (name v) text hstring
      exact readOption_some value v body htakes

theorem readOptional_takes (value : Option String) (text : Text)
    (h : Written (.orNull value) text) : Takes (readOption readString) text value := by
  apply readOption_takes readString id (readStringAs_takes "a string") value text
  rwa [Option.map_id]

/-! ## Lists -/

theorem written_head (value : Json) (text : Text) (h : Written value text) :
    ∃ c rest, text = c :: rest ∧ isBlank c = false ∧ c ≠ ']' := by
  cases h with
  | null => exact ⟨_, _, rfl, by decide, by decide⟩
  | true => exact ⟨_, _, rfl, by decide, by decide⟩
  | false => exact ⟨_, _, rfl, by decide, by decide⟩
  | num value =>
    have hne : Nat.toDigits 10 value ≠ [] := Nat.toDigits_ne_nil
    obtain ⟨c, rest, hdigits⟩ := List.exists_cons_of_ne_nil hne
    have hdigit : c.isDigit = true :=
      Nat.isDigit_of_mem_toDigits (by decide) (by decide) (hdigits ▸ List.mem_cons_self)
    refine ⟨c, rest, hdigits, ?_, ?_⟩
    · by_contra hblank
      simp only [isBlank, Bool.not_eq_false, Bool.or_eq_true, beq_iff_eq] at hblank
      rcases hblank with ((rfl | rfl) | rfl) | rfl <;> cases hdigit
    · rintro rfl
      cases hdigit
  | str hstring =>
    obtain ⟨body, rfl, -⟩ := string_body _ text hstring
    exact ⟨_, _, rfl, by decide, by decide⟩
  | arr => exact ⟨_, _, rfl, by decide, by decide⟩
  | obj => exact ⟨_, _, rfl, by decide, by decide⟩

theorem nextItem_item (first : Bool) (lead : Text) (hlead : Lead first lead) (value : Json)
    (text : Text) (h : Written value text) (rest : Text) :
    nextItem? first (lead ++ (text ++ rest)) = .ok (some (text ++ rest)) := by
  obtain ⟨c, more, rfl, hblank, hclose⟩ := written_head value text h
  cases hlead with
  | first hgap =>
    rw [nextItem?, List.cons_append, skipBlanks_gap lead hgap c _ hblank]
    simp
  | @next gap behind hgap hbehind =>
    rw [nextItem?, List.append_assoc, List.cons_append, List.cons_append,
      skipBlanks_gap gap hgap ',' _ (by decide)]
    simp [skipBlanks_gap behind hbehind c _ hblank, hclose]

theorem items_close (first : Bool) (gap : Text) (hgap : Gap gap) (rest : Text) :
    nextItem? first (gap ++ ']' :: rest) = .ok none ∧
      closeList (gap ++ ']' :: rest) = .ok rest := by
  rw [nextItem?, closeList, skipBlanks_gap gap hgap ']' _ (by decide)]
  exact ⟨rfl, rfl⟩

theorem readItems_takes {α : Type} (item : Reader α) (encode : α → Json)
    (hitem : ∀ v text, Written (encode v) text → Takes item text v) (values : List α)
    (first : Bool) (text : Text) (h : WrittenItems first (values.map encode) text) (fuel : Nat)
    (hfuel : values.length < fuel) (rest : Text) :
    readItems item fuel first (text ++ rest) = .ok (values, rest) := by
  induction values generalizing first text fuel with
  | nil =>
    obtain ⟨fuel, rfl⟩ := Nat.exists_eq_add_of_lt hfuel
    cases h with
    | @close _ gap hgap =>
      obtain ⟨hnext, hclose⟩ := items_close first gap hgap rest
      rw [List.append_assoc, List.singleton_append, List.length_nil, readItems, hnext]
      simp [hclose, bind, Except.bind]
  | cons v values ih =>
    cases fuel with
    | zero => cases hfuel
    | succ fuel =>
      cases h with
      | @item _ _ _ lead body behind hlead hbody hbehind =>
        have hvalue := hitem v body hbody [] (behind ++ rest) gap_nil
        have hrest := ih false behind hbehind fuel (by simpa using hfuel)
        rw [List.append_assoc, List.append_assoc, readItems,
          nextItem_item first lead hlead (encode v) body hbody]
        simp only [bind, Except.bind]
        rw [List.nil_append] at hvalue
        simp only [hvalue, hrest]

theorem items_length (first : Bool) (items : List Json) (text : Text)
    (h : WrittenItems first items text) : items.length < text.length := by
  induction items generalizing first text with
  | nil => cases h; simp
  | cons item items ih =>
    cases h with
    | @item _ _ _ lead body behind hlead hbody hbehind =>
      obtain ⟨c, more, rfl, -⟩ := written_head item body hbody
      have hrest := ih false behind hbehind
      simp only [List.length_append, List.length_cons]
      omega

/-- A list is read back if each of its values is. -/
theorem readList_takes {α : Type} (item : Reader α) (encode : α → Json)
    (hitem : ∀ v text, Written (encode v) text → Takes item text v) (values : List α)
    (text : Text) (h : Written (.arr (values.map encode)) text) :
    Takes (readList item) text values := by
  intro gap rest hgap
  cases h with
  | @arr _ body hbody =>
    have hlength := items_length true _ body hbody
    rw [List.length_map] at hlength
    rw [readList, List.cons_append, skipBlanks_gap gap hgap '[' _ (by decide)]
    apply readItems_takes item encode hitem values true body hbody
    rw [List.length_append]
    omega

theorem readStrings_takes (values : List String) (text : Text)
    (h : Written (.strings values) text) : Takes (readList readString) text values :=
  readList_takes readString Json.str readString_takes values text h

theorem readChars_takes (values : List Char) (text : Text)
    (h : Written (.strings (values.map Char.toString)) text) :
    Takes (readList readChar) text values := by
  rw [strings, List.map_map] at h
  apply readList_takes readChar _ _ values text h
  intro v body hbody
  cases hbody with
  | str hstring => exact readChar_takes v body hstring

/-! ## Objects -/

theorem nextMember_key (first : Bool) (lead : Text) (hlead : Lead first lead) (key : String)
    (name : Text) (h : WrittenString key name) (rest : Text) :
    nextMember first (lead ++ (name ++ rest)) = .ok (.inr (key, rest)) := by
  obtain ⟨body, rfl, hbody⟩ := string_body key name h
  cases hlead with
  | first hgap =>
    rw [nextMember, List.cons_append, skipBlanks_gap lead hgap '"' _ (by decide)]
    simp [hbody, bind, Except.bind]
  | @next gap behind hgap hbehind =>
    rw [nextMember, List.append_assoc, List.cons_append, List.cons_append,
      skipBlanks_gap gap hgap ',' _ (by decide)]
    simp [skipBlanks_gap behind hbehind '"' _ (by decide), hbody, bind, Except.bind]

theorem members_close (first : Bool) (text : Text) (h : WrittenMembers first [] text)
    (rest : Text) : nextMember first (text ++ rest) = .ok (.inl rest) := by
  cases h with
  | @close _ gap hgap =>
    rw [List.append_assoc, nextMember, List.singleton_append,
      skipBlanks_gap gap hgap '}' _ (by decide)]
    rfl

/-- Of an object with a member left, the key is met next, and behind it the value and the other
members. -/
theorem members_next (first : Bool) (key : String) (value : Json)
    (members : List (String × Json)) (text : Text)
    (h : WrittenMembers first ((key, value) :: members) text) :
    ∃ body behind, WrittenMembers false members behind ∧
      (∀ rest, nextMember first (text ++ rest) = .ok (.inr (key, body ++ (behind ++ rest)))) ∧
      ∀ {α : Type} (read : Reader α) (v : α), (∀ t, Written value t → Takes read t v) →
        ∀ rest, readOnce key none read (body ++ rest) = .ok (v, rest) := by
  cases h with
  | @member _ _ _ _ lead name gap space body behind hlead hkey hgap hspace hvalue hrest =>
    refine ⟨gap ++ ':' :: (space ++ body), behind, hrest, fun rest => ?_,
      fun read v hread rest => ?_⟩
    · have hnext := nextMember_key first lead hlead key name hkey
        (gap ++ ':' :: (space ++ (body ++ (behind ++ rest))))
      simpa only [List.append_assoc, List.cons_append] using hnext
    · rw [readOnce, if_neg (by simp), readMember, List.append_assoc, List.cons_append,
        List.append_assoc, readColon, skipBlanks_gap gap hgap ':' _ (by decide)]
      exact hread body hvalue space rest hspace

theorem members_length (first : Bool) (members : List (String × Json)) (text : Text)
    (h : WrittenMembers first members text) : members.length < text.length := by
  induction members generalizing first text with
  | nil => cases h; simp
  | cons member members ih =>
    cases h with
    | member hlead hkey hgap hbehind hvalue hrest =>
      have hlength := ih false _ hrest
      simp only [List.length_append, List.length_cons]
      omega

/-- An object is read back if its members are, by a reader with a step for each of them. -/
theorem object_takes {α : Type} (read : Reader α) (readMembers : Nat → Reader α)
    (hread : ∀ text rest, skipBlanks text = '{' :: rest →
      read text = readMembers (rest.length + 1) rest)
    (v : α) (members : List (String × Json))
    (h : ∀ body fuel rest, WrittenMembers true members body →
      readMembers (fuel + members.length + 1) (body ++ rest) = .ok (v, rest))
    (text : Text) (htext : Written (.obj members) text) : Takes read text v := by
  intro gap rest hgap
  cases htext with
  | @obj _ body hbody =>
    have hlength := members_length true members body hbody
    have hfuel : (body ++ rest).length + 1 =
        (body ++ rest).length - members.length + members.length + 1 := by
      rw [List.length_append]
      omega
    rw [List.cons_append, hread _ _ (skipBlanks_gap gap hgap '{' (body ++ rest) (by decide)), hfuel]
    exact h body _ rest hbody

/-- A whole text is read if its value is. -/
theorem readAll_written {α : Type} (read : Reader α) (v : α) (value : Json)
    (h : ∀ t, Written value t → Takes read t v) (text : Text) (htext : WrittenAlone value text) :
    readAll read text = .ok v := by
  obtain ⟨gap, body, behind, hgap, hbody, hbehind, rfl⟩ := htext
  rw [readAll, h body hbody gap behind hgap]
  have hblank : skipBlanks behind = [] := List.dropWhile_eq_nil_iff.mpr (gap_blank behind hbehind)
  simp [hblank, bind, Except.bind]

end IdentCase.Json
