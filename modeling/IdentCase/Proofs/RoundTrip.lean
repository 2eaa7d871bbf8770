import IdentCase.Proofs.Convention

/-!
# Forms and round trips

A conversion reaches the identifiers of its form and no others, and it moves every identifier that
lacks the form. Between camel and snake nothing is lost on regular names: where each capital follows
a lower-case letter, and each underscore stands between two lower-case letters of which the first
begins no word. The two spellings of such a name are related letter by letter, and each scan follows
the relation in one direction.
-/

set_option autoImplicit false

namespace IdentCase.Convention
open Text

/-! ## Fixed points -/

theorem joined_tail_iff (text : Text) :
    Joined text.tail ↔
      ∀ i, 1 ≤ i → text[i]? = some '_' → ∀ d, text[i + 1]? = some d → d.isLower = false := by
  rw [Joined, List.isChain_iff_getElem]
  constructor
  · intro h i hi hunderscore d hd
    obtain ⟨k, rfl⟩ : ∃ k, i = k + 1 := ⟨i - 1, by omega⟩
    rw [← List.getElem?_tail] at hunderscore hd
    obtain ⟨hlength, hnext⟩ := List.getElem?_eq_some_iff.mp hd
    obtain ⟨_, hmark⟩ := List.getElem?_eq_some_iff.mp hunderscore
    have hpair := h k hlength
    rw [hmark, hnext] at hpair
    simpa using hpair
  · rintro h k hlength ⟨hmark, hlower⟩
    have hunderscore : text[k + 1]? = some '_' := by
      rw [← List.getElem?_tail, ← hmark, List.getElem?_eq_getElem]
    have hnext := h (k + 1) (by omega) hunderscore (text.tail[k + 1]) (by
      rw [← List.getElem?_tail, List.getElem?_eq_getElem])
    rw [hlower] at hnext
    cases hnext

/-- The identifiers that a conversion gives are those of its form, and they are the ones that it
leaves as they are. Of the conventions that join words the form is lost by an underscore behind the
first character with a lower-case letter directly behind it. -/
theorem convert_fixes_its_form (convention : Convention) (text : Text) (ha : Ascii text) :
    Formed convention (convention.convert text) ∧
    (convention.convert text = text ↔ Formed convention text) ∧
    convention.convert (convention.convert text) = convention.convert text ∧
    (Joined text.tail ↔
      ∀ i, 1 ≤ i → text[i]? = some '_' → ∀ d, text[i + 1]? = some d → d.isLower = false) := by
  have hformed := convert_formed convention text ha
  refine ⟨hformed, ⟨fun h => ?_, convert_of_formed convention text ha⟩,
    convert_twice convention text ha, joined_tail_iff text⟩
  rwa [h] at hformed

/-- Underscores in a row, before a capital, before a digit and at the end. -/
theorem convert_fixes_underscores :
    Formed camel "foo_Bar_Baz_9X_".toList ∧
      camel.convert "foo_Bar_Baz_9X_".toList = "foo_Bar_Baz_9X_".toList ∧
      camel.convert "Foo__bar_Baz_9_x_".toList ≠ "Foo__bar_Baz_9_x_".toList := by
  have hconverted : camel.convert "Foo__bar_Baz_9_x_".toList = "foo_Bar_Baz_9X_".toList := by
    decide +kernel
  obtain ⟨hformed, -, htwice, -⟩ :=
    convert_fixes_its_form camel "Foo__bar_Baz_9_x_".toList (by decide +kernel)
  rw [hconverted] at hformed htwice
  refine ⟨hformed, htwice, ?_⟩
  rw [hconverted]
  decide +kernel

/-! ## Two spellings of one name -/

theorem upper_letter (c : Char) (hc : c.toNat < 128) (h : c.isUpper = true) :
    c.isLower = false ∧ c.toLower.isLower = true ∧ c.toLower.toUpper = c ∧ c ≠ '_' ∧
      c.toLower ≠ '_' :=
  ascii_forall (fun c => c.isUpper = true → c.isLower = false ∧ c.toLower.isLower = true ∧
    c.toLower.toUpper = c ∧ c ≠ '_' ∧ c.toLower ≠ '_') (by decide +kernel) c hc h

theorem lower_letter (c : Char) (hc : c.toNat < 128) (h : c.isLower = true) :
    c.isUpper = false ∧ c.toUpper.isUpper = true ∧ c.toUpper.toLower = c ∧ c ≠ '_' ∧
      c.toUpper.toNat < 128 :=
  ascii_forall (fun c => c.isLower = true → c.isUpper = false ∧ c.toUpper.isUpper = true ∧
    c.toUpper.toLower = c ∧ c ≠ '_' ∧ c.toUpper.toNat < 128) (by decide +kernel) c hc h

/-- The camel and the snake spelling of what stands behind a character of a regular name. The flag
says that a word may begin here. -/
inductive Spelled : Bool → Text → Text → Prop
  | nil (flag : Bool) : Spelled flag [] []
  | same (flag : Bool) (c : Char) (camel snake : Text) (hascii : c.toNat < 128) (hne : c ≠ '_')
      (hupper : c.isUpper = false) (rest : Spelled c.isLower camel snake) :
      Spelled flag (c :: camel) (c :: snake)
  | word (c : Char) (camel snake : Text) (hascii : c.toNat < 128) (hupper : c.isUpper = true)
      (rest : Spelled false camel snake) : Spelled true (c :: camel) ('_' :: c.toLower :: snake)

theorem joinWords_cons (c : Char) (rest : Text) (h : c ≠ '_') :
    joinWords (c :: rest) = c :: joinWords rest := by
  cases rest with
  | nil => rfl
  | cons d rest => simp [joinWords, h]

theorem toSnake_cons (c : Char) (rest : Text) (hc : c.toNat < 128) :
    toSnake (c :: rest) = c.toLower :: separateWords (some c) rest := by
  simp [toSnake, separateWords, startsWord, lower_ascii c hc]

theorem spelled_joins (flag : Bool) (camel snake : Text) (h : Spelled flag camel snake) :
    joinWords snake = camel := by
  induction h with
  | nil => rfl
  | same flag c camel snake hascii hne hupper rest ih => rw [joinWords_cons c snake hne, ih]
  | word c camel snake hascii hupper rest ih =>
    obtain ⟨-, hlower, hback, -⟩ := upper_letter c hascii hupper
    have hcode := (ascii_laws c hascii).toLower_ascii
    have hcased : isLowercase c.toLower = true := by
      rw [(ascii_laws c.toLower hcode).isLowercase_eq, hlower]
    simp [joinWords, hcased, upper_ascii c.toLower hcode, hback, ih]

theorem spelled_separates (flag : Bool) (camel snake : Text) (h : Spelled flag camel snake)
    (p : Char) (hp : p.toNat < 128) (hflag : p.isLower = flag) :
    separateWords (some p) camel = snake := by
  induction h generalizing p with
  | nil => rfl
  | same flag c camel snake hascii hne hupper rest ih =>
    have hstarts : startsWord (some p) c = false := by
      simp [startsWord, (ascii_laws c hascii).isUppercase_eq, hupper]
    rw [separateWords, hstarts, lower_ascii c hascii,
      (ascii_laws c hascii).toLower_of_not_upper hupper, ih c hascii rfl]
    rfl
  | word c camel snake hascii hupper rest ih =>
    have hstarts : startsWord (some p) c = true := by
      simp [startsWord, (ascii_laws c hascii).isUppercase_eq, hupper,
        (ascii_laws p hp).isLowercase_eq, hflag]
    rw [separateWords, hstarts, lower_ascii c hascii,
      ih c hascii (upper_letter c hascii hupper).1]
    rfl

/-! ## Regular camel names -/

def Humped (text : Text) : Prop :=
  text.IsChain fun c d => d.isUpper = true → c.isLower = true

instance (text : Text) : Decidable (Humped text) :=
  inferInstanceAs (Decidable (text.IsChain fun c d => d.isUpper = true → c.isLower = true))

structure CamelName (text : Text) : Prop where
  ascii : Ascii text
  no_underscore : '_' ∉ text
  first : ∀ c ∈ text.head?, c.isUpper = false
  humped : Humped text

structure PascalName (text : Text) : Prop where
  ascii : Ascii text
  no_underscore : '_' ∉ text
  first : ∀ c ∈ text.head?, c.isLower = false
  humped : Humped text

theorem spelled_of_humped (p : Char) (text : Text) (ha : Ascii text) (hno : '_' ∉ text)
    (h : Humped (p :: text)) : ∃ snake, Spelled p.isLower text snake := by
  induction text generalizing p with
  | nil => exact ⟨[], .nil _⟩
  | cons c rest ih =>
    obtain ⟨hc, hrest⟩ := (ascii_cons c rest).mp ha
    obtain ⟨hne, hno⟩ := not_or.mp (mt List.mem_cons.mpr hno)
    obtain ⟨hpair, hchain⟩ := List.isChain_cons_cons.mp h
    obtain ⟨snake, hsnake⟩ := ih c hrest hno hchain
    by_cases hupper : c.isUpper = true
    · rw [(upper_letter c hc hupper).1] at hsnake
      rw [hpair hupper]
      exact ⟨_, .word c rest snake hc hupper hsnake⟩
    · rw [Bool.not_eq_true] at hupper
      exact ⟨_, .same _ c rest snake hc (Ne.symm hne) hupper hsnake⟩

theorem humped_of_spelled (flag : Bool) (camel snake : Text) (h : Spelled flag camel snake)
    (p : Char) (hflag : p.isLower = flag) :
    Ascii camel ∧ '_' ∉ camel ∧ Humped (p :: camel) := by
  induction h generalizing p with
  | nil => exact ⟨by simp [Ascii], by simp, .singleton p⟩
  | same flag c camel snake hascii hne hupper rest ih =>
    obtain ⟨ha, hno, hchain⟩ := ih c rfl
    refine ⟨(ascii_cons c camel).mpr ⟨hascii, ha⟩, by simp [Ne.symm hne, hno],
      List.isChain_cons_cons.mpr ⟨fun hc => ?_, hchain⟩⟩
    rw [hupper] at hc
    cases hc
  | word c camel snake hascii hupper rest ih =>
    obtain ⟨hlower, -, -, hne, -⟩ := upper_letter c hascii hupper
    obtain ⟨ha, hno, hchain⟩ := ih c hlower
    exact ⟨(ascii_cons c camel).mpr ⟨hascii, ha⟩, by simp [Ne.symm hne, hno],
      List.isChain_cons_cons.mpr ⟨fun _ => hflag, hchain⟩⟩

/-! ## Regular snake names -/

def Spaced (text : Text) : Prop :=
  ∀ i, text[i]? = some '_' → 1 ≤ i ∧ (text[i - 1]?).any Char.isLower = true ∧
    (text[i + 1]?).any Char.isLower = true ∧ (2 ≤ i → text[i - 2]? ≠ some '_')

/-- ASCII names without capitals whose underscores part words. A word between two of them has at
least two characters. -/
structure SnakeName (text : Text) : Prop where
  ascii : Ascii text
  lower : ∀ c ∈ text, c.isUpper = false
  spaced : Spaced text

theorem spaced_behind (front text : Text) (h : Spaced (front ++ text))
    (hhead : text.head? ≠ some '_') : Spaced text := by
  have hat (k : Nat) : (front ++ text)[front.length + k]? = text[k]? := by
    rw [List.getElem?_append_right (by omega), Nat.add_sub_cancel_left]
  intro i hi
  have hpos : 1 ≤ i := by
    by_contra hzero
    obtain rfl : i = 0 := by omega
    rw [← List.head?_eq_getElem?] at hi
    exact hhead hi
  obtain ⟨-, hbefore, hbehind, hearlier⟩ := h (front.length + i) ((hat i).trans hi)
  rw [show front.length + i - 1 = front.length + (i - 1) by omega, hat] at hbefore
  rw [Nat.add_assoc, hat] at hbehind
  refine ⟨hpos, hbefore, hbehind, fun hi => ?_⟩
  have hne := hearlier (by omega)
  rwa [show front.length + i - 2 = front.length + (i - 2) by omega, hat] at hne

theorem spelled_of_spaced (p : Char) (flag : Bool) (snake : Text) (ha : Ascii snake)
    (hlower : ∀ c ∈ snake, c.isUpper = false) (h : Spaced (p :: snake))
    (hflag : flag = false → snake.head? ≠ some '_') : ∃ camel, Spelled flag camel snake := by
  induction snake using joinWords.induct generalizing p flag with
  | case1 => exact ⟨[], .nil flag⟩
  | case2 c =>
    have hne : c ≠ '_' := by
      rintro rfl
      obtain ⟨-, -, hbehind, -⟩ := h 1 rfl
      simp at hbehind
    exact ⟨[c], .same flag c [] [] (ha c (by simp)) hne (hlower c (by simp)) (.nil _)⟩
  | case3 c d rest hpair ih =>
    obtain ⟨rfl, -⟩ := hpair
    have hd : d.toNat < 128 := ha d (by simp)
    obtain ⟨-, -, hbehind, -⟩ := h 1 rfl
    have hdlower : d.isLower = true := by simpa using hbehind
    obtain ⟨-, hupper, hback, hne, hcode⟩ := lower_letter d hd hdlower
    -- The letter behind the underscore begins a word, so no other word begins right behind it.
    have hnext : rest.head? ≠ some '_' := by
      intro hhead
      rw [List.head?_eq_getElem?] at hhead
      exact (h 3 hhead).2.2.2 (by omega) rfl
    have hspaced := spaced_behind [p, '_'] (d :: rest) h (by simpa using hne)
    obtain ⟨camel, hcamel⟩ := ih d false (fun c hc => ha c (by simp [hc]))
      (fun c hc => hlower c (by simp [hc])) hspaced fun _ => hnext
    have hword := Spelled.word d.toUpper camel rest hcode hupper hcamel
    rw [hback] at hword
    cases flag with
    | false => exact absurd rfl (hflag rfl)
    | true => exact ⟨_, hword⟩
  | case4 c d rest hpair ih =>
    have hd : d.toNat < 128 := ha d (by simp)
    have hne : c ≠ '_' := by
      rintro rfl
      obtain ⟨-, -, hbehind, -⟩ := h 1 rfl
      rw [(ascii_laws d hd).isLowercase_eq] at hpair
      exact hpair ⟨rfl, by simpa using hbehind⟩
    have hnext : c.isLower = false → (d :: rest).head? ≠ some '_' := by
      intro hc hhead
      obtain ⟨-, hbefore, -⟩ := h 2 hhead
      have hclower : c.isLower = true := by simpa using hbefore
      rw [hc] at hclower
      cases hclower
    obtain ⟨camel, hcamel⟩ := ih c c.isLower ((ascii_cons c _).mp ha).2
      (fun x hx => hlower x (by simp [hx])) (spaced_behind [p] _ h (by simpa using hne)) hnext
    exact ⟨_, .same flag c camel _ (ha c (by simp)) hne (hlower c (by simp)) hcamel⟩

theorem spelled_closed (camel snake : Text) (h : Spelled false camel snake) :
    snake.head? ≠ some '_' := by
  cases h with
  | nil => simp
  | same _ c camel snake hascii hne hupper rest => simpa using hne

theorem spaced_of_spelled (flag : Bool) (camel snake : Text) (h : Spelled flag camel snake)
    (p : Char) (hp : p ≠ '_') (hflag : flag = true → p.isLower = true) :
    Ascii snake ∧ (∀ c ∈ snake, c.isUpper = false) ∧ Spaced (p :: snake) := by
  induction h generalizing p with
  | nil =>
    refine ⟨by simp [Ascii], by simp, fun i hi => ?_⟩
    cases i with
    | zero => exact absurd (Option.some.inj hi) hp
    | succ k => simp at hi
  | same flag c camel snake hascii hne hupper rest ih =>
    obtain ⟨ha, hlower, hspaced⟩ := ih c hne id
    refine ⟨(ascii_cons c snake).mpr ⟨hascii, ha⟩, by simpa using ⟨hupper, hlower⟩, fun i hi => ?_⟩
    cases i with
    | zero => exact absurd (Option.some.inj hi) hp
    | succ k =>
      obtain ⟨hk, hbefore, hbehind, hearlier⟩ := hspaced k hi
      obtain ⟨m, rfl⟩ : ∃ m, k = m + 1 := ⟨k - 1, by omega⟩
      refine ⟨by omega, hbefore, hbehind, fun _ => ?_⟩
      cases m with
      | zero => simpa using hp
      | succ n => exact hearlier (by omega)
  | word c camel snake hascii hupper rest ih =>
    obtain ⟨-, hclower, -, -, hne⟩ := upper_letter c hascii hupper
    obtain ⟨ha, hlower, hspaced⟩ := ih c.toLower hne (by simp)
    have hclosed := spelled_closed camel snake rest
    have hcode := (ascii_laws c hascii).toLower_ascii
    refine ⟨(ascii_cons _ _).mpr ⟨by decide, (ascii_cons _ _).mpr ⟨hcode, ha⟩⟩, ?_, fun i hi => ?_⟩
    · intro x hx
      rcases List.mem_cons.mp hx with rfl | hx
      · decide
      · rcases List.mem_cons.mp hx with rfl | hx
        · exact (ascii_laws c hascii).isUpper_toLower
        · exact hlower x hx
    · cases i with
      | zero => exact absurd (Option.some.inj hi) hp
      | succ i =>
        cases i with
        | zero => exact ⟨by omega, by simpa using hflag rfl, by simpa using hclower, by omega⟩
        | succ k =>
          obtain ⟨hk, hbefore, hbehind, hearlier⟩ := hspaced k hi
          obtain ⟨m, rfl⟩ : ∃ m, k = m + 1 := ⟨k - 1, by omega⟩
          refine ⟨by omega, hbefore, hbehind, fun _ => ?_⟩
          cases m with
          | zero => exact absurd (List.head?_eq_getElem?.trans hi) hclosed
          | succ n => exact hearlier (by omega)

/-! ## Round trips -/

theorem camelName_spelled (c : Char) (rest : Text) (h : CamelName (c :: rest)) :
    c.toLower = c ∧ c ≠ '_' ∧ ∃ snake, Spelled c.isLower rest snake := by
  obtain ⟨hc, hrest⟩ := (ascii_cons c rest).mp h.ascii
  obtain ⟨hne, hno⟩ := not_or.mp (mt List.mem_cons.mpr h.no_underscore)
  exact ⟨(ascii_laws c hc).toLower_of_not_upper (h.first c rfl), Ne.symm hne,
    spelled_of_humped c rest hrest hno h.humped⟩

theorem toSnake_camelName (text : Text) (h : CamelName text) :
    SnakeName (toSnake text) ∧ toCamel (toSnake text) = text := by
  cases text with
  | nil => exact ⟨⟨by simp [toSnake, separateWords, Ascii], by simp [toSnake, separateWords],
      fun i hi => by simp [toSnake, separateWords] at hi⟩, rfl⟩
  | cons c rest =>
    have hc : c.toNat < 128 := h.ascii c (by simp)
    obtain ⟨hlower, hne, snake, hsnake⟩ := camelName_spelled c rest h
    have hsnake' : toSnake (c :: rest) = c :: snake := by
      rw [toSnake_cons c rest hc, hlower, spelled_separates _ rest snake hsnake c hc rfl]
    obtain ⟨ha, hno, hspaced⟩ := spaced_of_spelled _ rest snake hsnake c hne id
    rw [hsnake']
    refine ⟨⟨(ascii_cons c snake).mpr ⟨hc, ha⟩, ?_, hspaced⟩, ?_⟩
    · simpa using ⟨h.first c rfl, hno⟩
    · rw [toCamel_cons c snake hc, hlower, spelled_joins _ rest snake hsnake]

theorem toCamel_snakeName (text : Text) (h : SnakeName text) :
    CamelName (toCamel text) ∧ toSnake (toCamel text) = text := by
  cases text with
  | nil => exact ⟨⟨by simp [toCamel_body, camelBody, Ascii], by simp [toCamel_body, camelBody],
      by simp [toCamel_body, camelBody], .nil⟩, rfl⟩
  | cons c rest =>
    obtain ⟨hc, hrest⟩ := (ascii_cons c rest).mp h.ascii
    have hupper : c.isUpper = false := h.lower c (by simp)
    have hlower := (ascii_laws c hc).toLower_of_not_upper hupper
    have hne : c ≠ '_' := by
      rintro rfl
      exact absurd (h.spaced 0 rfl).1 (by omega)
    have hnext : c.isLower = false → rest.head? ≠ some '_' := by
      intro hflag hhead
      rw [List.head?_eq_getElem?] at hhead
      have hbefore : c.isLower = true := by simpa using (h.spaced 1 hhead).2.1
      rw [hflag] at hbefore
      cases hbefore
    obtain ⟨camel, hcamel⟩ := spelled_of_spaced c c.isLower rest hrest
      (fun x hx => h.lower x (by simp [hx])) h.spaced hnext
    have hcamel' : toCamel (c :: rest) = c :: camel := by
      rw [toCamel_cons c rest hc, hlower, spelled_joins _ camel rest hcamel]
    obtain ⟨ha, hno, hhumped⟩ := humped_of_spelled _ camel rest hcamel c rfl
    rw [hcamel']
    refine ⟨⟨(ascii_cons c camel).mpr ⟨hc, ha⟩, by simp [Ne.symm hne, hno], ?_, hhumped⟩, ?_⟩
    · simpa using hupper
    · rw [toSnake_cons c camel hc, hlower, spelled_separates _ camel rest hcamel c hc rfl]

theorem toPascal_toSnake (text : Text) (h : PascalName text) : toPascal (toSnake text) = text := by
  cases text with
  | nil => rfl
  | cons c rest =>
    obtain ⟨hc, hrest⟩ := (ascii_cons c rest).mp h.ascii
    obtain ⟨-, hno⟩ := not_or.mp (mt List.mem_cons.mpr h.no_underscore)
    obtain ⟨snake, hsnake⟩ := spelled_of_humped c rest hrest hno h.humped
    rw [toSnake_cons c rest hc, spelled_separates _ rest snake hsnake c hc rfl,
      toPascal_cons _ snake (ascii_laws c hc).toLower_ascii, (ascii_laws c hc).toUpper_toLower,
      (ascii_laws c hc).toUpper_of_not_lower (h.first c rfl), spelled_joins _ rest snake hsnake]

/-- Snake and camel are inverse to each other on regular names, and snake loses nothing of a regular
name with a capital in front either. -/
theorem camel_snake_inverse :
    (∀ x, CamelName x → SnakeName (toSnake x) ∧ toCamel (toSnake x) = x) ∧
    (∀ y, SnakeName y → CamelName (toCamel y) ∧ toSnake (toCamel y) = y) ∧
    ∀ x, PascalName x → toPascal (toSnake x) = x :=
  ⟨toSnake_camelName, toCamel_snakeName, toPascal_toSnake⟩

/-- A first and a last word of one letter, and a digit before a letter. -/
theorem camel_snake_inverse_short_words :
    (CamelName "aXb9parseU".toList ∧ toCamel "a_xb9parse_u".toList = "aXb9parseU".toList) ∧
    (SnakeName "a_xb9parse_u".toList ∧
      toSnake (toCamel "a_xb9parse_u".toList) = "a_xb9parse_u".toList) ∧
    PascalName "FooBar9".toList ∧ toPascal (toSnake "FooBar9".toList) = "FooBar9".toList := by
  obtain ⟨hsnake, hcamel, hpascal⟩ := camel_snake_inverse
  have hname : CamelName "aXb9parseU".toList := ⟨by decide, by decide, by simp, by decide⟩
  have hfront : PascalName "FooBar9".toList := ⟨by decide, by decide, by simp, by decide⟩
  have hspelling : toSnake "aXb9parseU".toList = "a_xb9parse_u".toList := by decide +kernel
  obtain ⟨hregular, hback⟩ := hsnake _ hname
  rw [hspelling] at hregular hback
  exact ⟨⟨hname, hback⟩, ⟨hregular, (hcamel _ hregular).2⟩, hfront, hpascal _ hfront⟩

end IdentCase.Convention
