import IdentCase.Proofs.RoundTrip

/-!
# What conversions keep

A conversion moves letters between the cases and adds or drops underscores. Without case and
underscores an identifier reads the same after any number of conversions, so conversions never make
one name of two identifiers that differ in more. Camel and pascal differ at the first character
only: after either of them the other gives what it gives alone.
-/

set_option autoImplicit false

namespace IdentCase.Convention
open Text

/-! ## Case and underscores -/

def bare (text : Text) : Text := (text.filter fun c => c ≠ '_').map Char.toLower

def convertAll (chain : List Convention) (text : Text) : Text :=
  chain.foldl (fun converted convention => convention.convert converted) text

theorem bare_append (front text : Text) : bare (front ++ text) = bare front ++ bare text := by
  simp [bare]

theorem bare_cons (c : Char) (text : Text) : bare (c :: text) = bare [c] ++ bare text :=
  bare_append [c] text

theorem bare_underscore (text : Text) : bare ('_' :: text) = bare text := by
  simp [bare]

theorem bare_sameLetter (c d : Char) (hc : c.toNat < 128) (hd : d.toNat < 128)
    (h : SameLetter c d) : bare [d] = bare [c] := by
  have hmark := sameLetter_mark '_' c d (by decide) hc hd h
  by_cases hunderscore : c = '_'
  · rw [hunderscore, hmark.mpr hunderscore]
  · have hother : d ≠ '_' := mt hmark.mp hunderscore
    simpa [bare, hunderscore, hother, SameLetter] using h

theorem bare_toLower (c : Char) (hc : c.toNat < 128) : bare [c.toLower] = bare [c] :=
  bare_sameLetter c c.toLower hc (ascii_laws c hc).toLower_ascii (sameLetter_lower c hc)

theorem bare_toUpper (c : Char) (hc : c.toNat < 128) : bare [c.toUpper] = bare [c] :=
  bare_sameLetter c c.toUpper hc (toUpper_ascii c hc) (sameLetter_upper c hc)

theorem joinWords_bare (text : Text) (ha : Ascii text) : bare (joinWords text) = bare text := by
  fun_induction joinWords text with
  | case1 => rfl
  | case2 c => rfl
  | case3 c d rest h ih =>
    have hd : d.toNat < 128 := ha d (by simp)
    have hrest := ih fun x hx => ha x (by simp [hx])
    rw [upper_ascii d hd, bare_append, hrest, bare_toUpper d hd, h.1, bare_underscore,
      ← bare_cons]
  | case4 c d rest h ih =>
    rw [bare_cons, ih ((ascii_cons c _).mp ha).2, ← bare_cons]

theorem separateWords_bare (previous : Option Char) (text : Text) (ha : Ascii text) :
    bare (separateWords previous text) = bare text := by
  induction text generalizing previous with
  | nil => rfl
  | cons c rest ih =>
    obtain ⟨hc, hrest⟩ := (ascii_cons c rest).mp ha
    have hmark : bare (if startsWord previous c then ['_'] else []) = [] := by
      split <;> rfl
    rw [separateWords, bare_append, bare_append, hmark, lower_ascii c hc, bare_toLower c hc,
      ih (some c) hrest, List.nil_append, ← bare_cons]

theorem convert_bare (convention : Convention) (text : Text) (ha : Ascii text) :
    bare (convention.convert text) = bare text := by
  cases text with
  | nil => rw [convert_nil]
  | cons c rest =>
    obtain ⟨hc, hrest⟩ := (ascii_cons c rest).mp ha
    cases convention with
    | snake => exact separateWords_bare none (c :: rest) ha
    | camel =>
      rw [convert, toCamel_cons c rest hc, bare_cons, bare_toLower c hc, joinWords_bare rest hrest,
        ← bare_cons]
    | pascal =>
      rw [convert, toPascal_cons c rest hc, bare_cons, bare_toUpper c hc, joinWords_bare rest hrest,
        ← bare_cons]

theorem convertAll_bare (chain : List Convention) (text : Text) (ha : Ascii text) :
    bare (convertAll chain text) = bare text := by
  induction chain generalizing text with
  | nil => rfl
  | cons convention chain ih =>
    calc bare (convertAll (convention :: chain) text)
        = bare (convertAll chain (convention.convert text)) := rfl
      _ = bare (convention.convert text) := ih _ (convert_ascii convention text ha)
      _ = bare text := convert_bare convention text ha

/-- Conversions change nothing but the case of letters and the underscores, however many follow on
each other. Two identifiers that get one name differ in nothing else. -/
theorem conversions_keep_bare (x : Text) (hx : Ascii x) :
    bare (toCamel x) = bare x ∧ bare (toSnake x) = bare x ∧ bare (toPascal x) = bare x ∧
    (∀ chain : List Convention, bare (convertAll chain x) = bare x) ∧
    ∀ (convention : Convention) (y : Text), Ascii y →
      convention.convert x = convention.convert y → bare x = bare y := by
  refine ⟨convert_bare camel x hx, convert_bare snake x hx, convert_bare pascal x hx,
    fun chain => convertAll_bare chain x hx, fun convention y hy hsame => ?_⟩
  calc bare x = bare (convention.convert x) := (convert_bare convention x hx).symm
    _ = bare (convention.convert y) := by rw [hsame]
    _ = bare y := convert_bare convention y hy

/-- Underscores in a row, before a capital, before a digit and at both ends. -/
theorem conversions_keep_bare_underscores :
    bare "_Foo__bar_9x_Baz_".toList = "foobar9xbaz".toList ∧
      bare (convertAll [camel, snake, pascal, camel] "_Foo__bar_9x_Baz_".toList) =
        "foobar9xbaz".toList ∧
      camel.convert "_Foo__bar_9x_Baz_".toList = camel.convert "_Foo_Bar_9x_Baz_".toList ∧
      bare "_Foo__bar_9x_Baz_".toList = bare "_Foo_Bar_9x_Baz_".toList := by
  have hascii : Ascii "_Foo__bar_9x_Baz_".toList := by decide +kernel
  have hbare : bare "_Foo__bar_9x_Baz_".toList = "foobar9xbaz".toList := by decide +kernel
  have hsame : camel.convert "_Foo__bar_9x_Baz_".toList =
      camel.convert "_Foo_Bar_9x_Baz_".toList := by decide +kernel
  obtain ⟨-, -, -, hchain, hone⟩ := conversions_keep_bare "_Foo__bar_9x_Baz_".toList hascii
  exact ⟨hbare, (hchain _).trans hbare, hsame, hone camel _ (by decide +kernel) hsame⟩

/-! ## The first character -/

def SameButFirst (x y : Text) : Prop :=
  x.tail = y.tail ∧ x.head?.map Char.toLower = y.head?.map Char.toLower

theorem joinWords_twice (text : Text) (ha : Ascii text) :
    joinWords (joinWords text) = joinWords text := by
  apply joinWords_of_joined
  · intro c hc
    exact spells_ascii text ha c (joinWords_spells text ha c hc)
  · exact joinWords_joined text ha

theorem toPascal_toCamel (text : Text) (ha : Ascii text) :
    toPascal (toCamel text) = toPascal text := by
  cases text with
  | nil => rfl
  | cons c rest =>
    obtain ⟨hc, hrest⟩ := (ascii_cons c rest).mp ha
    rw [toCamel_cons c rest hc, toPascal_cons _ _ (ascii_laws c hc).toLower_ascii,
      toPascal_cons c rest hc, (ascii_laws c hc).toUpper_toLower, joinWords_twice rest hrest]

theorem toCamel_toPascal (text : Text) (ha : Ascii text) :
    toCamel (toPascal text) = toCamel text := by
  cases text with
  | nil => rfl
  | cons c rest =>
    obtain ⟨hc, hrest⟩ := (ascii_cons c rest).mp ha
    rw [toPascal_cons c rest hc, toCamel_cons _ _ (toUpper_ascii c hc), toCamel_cons c rest hc,
      (ascii_laws c hc).toLower_toUpper, joinWords_twice rest hrest]

theorem toCamel_of_sameButFirst (x y : Text) (hx : Ascii x) (hy : Ascii y)
    (h : SameButFirst x y) : toCamel x = toCamel y := by
  obtain ⟨htail, hhead⟩ := h
  cases x with
  | nil =>
    cases y with
    | nil => rfl
    | cons d rest => simp at hhead
  | cons c rest =>
    cases y with
    | nil => simp at hhead
    | cons d others =>
      have hletter : c.toLower = d.toLower := by simpa using hhead
      have hrest : rest = others := htail
      rw [toCamel_cons c rest (hx c (by simp)), toCamel_cons d others (hy d (by simp)), hletter,
        hrest]

/-- Each convention forgets the other, so they identify the same names. -/
theorem toCamel_eq_iff_toPascal (x y : Text) (hx : Ascii x) (hy : Ascii y) :
    toCamel x = toCamel y ↔ toPascal x = toPascal y := by
  constructor
  · intro h
    rw [← toPascal_toCamel x hx, ← toPascal_toCamel y hy, h]
  · intro h
    rw [← toCamel_toPascal x hx, ← toCamel_toPascal y hy, h]

/-- Camel and pascal absorb each other, look past the case of the first letter, and give one name to
the same pairs of identifiers. -/
theorem camel_pascal_absorb (x y : Text) (hx : Ascii x) (hy : Ascii y) :
    toPascal (toCamel x) = toPascal x ∧ toCamel (toPascal x) = toCamel x ∧
    (SameButFirst x y → toCamel x = toCamel y ∧ toPascal x = toPascal y) ∧
    (toCamel x = toCamel y ↔ toPascal x = toPascal y) := by
  have hiff := toCamel_eq_iff_toPascal x y hx hy
  refine ⟨toPascal_toCamel x hx, toCamel_toPascal x hx, fun h => ?_, hiff⟩
  have hcamel := toCamel_of_sameButFirst x y hx hy h
  exact ⟨hcamel, hiff.mp hcamel⟩

/-- Two underscores in a row, one before a capital and one at the end. -/
theorem camel_pascal_absorb_underscores :
    SameButFirst "foo__bar_Baz_".toList "Foo__bar_Baz_".toList ∧
      toPascal "foo_Bar_Baz_".toList = "Foo_Bar_Baz_".toList ∧
      toCamel "Foo_Bar_Baz_".toList = "foo_Bar_Baz_".toList ∧
      toCamel "Foo__bar_Baz_".toList = "foo_Bar_Baz_".toList ∧
      toPascal "Foo__bar_Baz_".toList = "Foo_Bar_Baz_".toList := by
  have hcamel : toCamel "foo__bar_Baz_".toList = "foo_Bar_Baz_".toList := by decide +kernel
  have hpascal : toPascal "foo__bar_Baz_".toList = "Foo_Bar_Baz_".toList := by decide +kernel
  have hfirst : SameButFirst "foo__bar_Baz_".toList "Foo__bar_Baz_".toList :=
    ⟨by decide +kernel, by decide +kernel⟩
  obtain ⟨hback, hforth, hsame, -⟩ :=
    camel_pascal_absorb "foo__bar_Baz_".toList "Foo__bar_Baz_".toList
      (by decide +kernel) (by decide +kernel)
  obtain ⟨hcamel', hpascal'⟩ := hsame hfirst
  rw [hcamel, hpascal] at hback
  rw [hcamel, hpascal] at hforth
  exact ⟨hfirst, hback, hforth, hcamel'.symm.trans hcamel, hpascal'.symm.trans hpascal⟩

end IdentCase.Convention
