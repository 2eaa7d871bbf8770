import Mathlib.Data.List.Chain
import Mathlib.Tactic.MkIffOfInductiveProp
import IdentCase.Convention
import IdentCase.Language
import IdentCase.Proofs.Segments

/-!
# Converted identifiers

On ASCII text the case tables are the plain ones, and a conversion only moves letters between the
cases and adds or drops underscores. Each convention has a form that its conversions reach and that
they leave alone, so converting twice is converting once. A mark at either end of an identifier,
such as a quote, is at that end of the conversion too. Where neither letters nor the underscore
delimit, a converted piece is again one piece.
-/

set_option autoImplicit false

namespace IdentCase

namespace Text

def Ascii (text : Text) : Prop := ∀ c ∈ text, c.toNat < 128

instance (text : Text) : Decidable (Ascii text) :=
  List.decidableBAll (fun c : Char => c.toNat < 128) text

theorem ascii_cons (c : Char) (text : Text) : Ascii (c :: text) ↔ c.toNat < 128 ∧ Ascii text := by
  simp [Ascii]

theorem ascii_forall (P : Char → Prop) (h : ∀ n < 128, P (Char.ofNat n)) (c : Char)
    (hc : c.toNat < 128) : P c := by
  have hcode := h c.toNat hc
  rwa [Char.ofNat_toNat] at hcode

/-- Expansions of characters beyond ASCII do not matter to ASCII. -/
theorem mapCase_ascii (expansions : List (Nat × List Nat)) (shifts : List Shift)
    (h : ∀ entry ∈ expansions, 128 ≤ entry.1) (c : Char) (hc : c.toNat < 128) :
    mapCase expansions shifts c = mapCase [] shifts c := by
  have hnone : expansions.lookup c.toNat = none := by
    rw [List.lookup_eq_none_iff]
    intro entry hentry
    have hcode := h entry hentry
    rw [bne_iff_ne]
    omega
  simp [mapCase, hnone]

@[mk_iff]
structure CaseLaws (c : Char) : Prop where
  mapCase_lower : mapCase [] lowerShifts c = [c.toLower]
  mapCase_upper : mapCase [] upperShifts c = [c.toUpper]
  isLowercase_eq : isLowercase c = c.isLower
  isUppercase_eq : isUppercase c = c.isUpper
  isLower_toUpper : c.toUpper.isLower = false
  isUpper_toLower : c.toLower.isUpper = false
  toLower_of_not_upper : c.isUpper = false → c.toLower = c
  toUpper_of_not_lower : c.isLower = false → c.toUpper = c
  toUpper_toLower : c.toLower.toUpper = c.toUpper
  toLower_toUpper : c.toUpper.toLower = c.toLower
  toUpper_not_underscore : c.isLower = true → c.toUpper ≠ '_'
  toLower_char : c.toLower = c ∨ c.toLower.isAlpha = true
  toUpper_char : c.toUpper = c ∨ c.toUpper.isAlpha = true
  toLower_ascii : c.toLower.toNat < 128
  caseless : c.isAlpha = false → c.isLower = false ∧ c.isUpper = false

theorem ascii_laws (c : Char) (hc : c.toNat < 128) : CaseLaws c := by
  apply ascii_forall CaseLaws _ c hc
  simp only [caseLaws_iff]
  decide +kernel

theorem lower_ascii (c : Char) (hc : c.toNat < 128) : lower c = [c.toLower] := by
  rw [lower, mapCase_ascii lowerExpansions lowerShifts (by decide) c hc]
  exact (ascii_laws c hc).mapCase_lower

theorem upper_ascii (c : Char) (hc : c.toNat < 128) : upper c = [c.toUpper] := by
  rw [upper, mapCase_ascii upperExpansions upperShifts (by decide) c hc]
  exact (ascii_laws c hc).mapCase_upper

theorem lower_mark (m : Char) (hm : m.toNat < 128) (hletter : m.isAlpha = false) : m.toLower = m :=
  (ascii_laws m hm).toLower_of_not_upper ((ascii_laws m hm).caseless hletter).2

theorem toLower_mark_iff (m c : Char) (hletter : m.isAlpha = false) (hc : c.toNat < 128) :
    c.toLower = m ↔ c = m := by
  constructor
  · intro h
    rcases (ascii_laws c hc).toLower_char with hsame | halpha
    · exact hsame.symm.trans h
    · rw [h, hletter] at halpha
      cases halpha
  · rintro rfl
    exact lower_mark c hc hletter

def SameLetter (c d : Char) : Prop := d.toLower = c.toLower

theorem sameLetter_lower (c : Char) (hc : c.toNat < 128) : SameLetter c c.toLower :=
  (ascii_laws _ (ascii_laws c hc).toLower_ascii).toLower_of_not_upper
    (ascii_laws c hc).isUpper_toLower

theorem sameLetter_upper (c : Char) (hc : c.toNat < 128) : SameLetter c c.toUpper :=
  (ascii_laws c hc).toLower_toUpper

theorem sameLetter_mark (m c d : Char) (hletter : m.isAlpha = false) (hc : c.toNat < 128)
    (hd : d.toNat < 128) (h : SameLetter c d) : d = m ↔ c = m := by
  rw [← toLower_mark_iff m d hletter hd, ← toLower_mark_iff m c hletter hc, h]

theorem ascii_of_alpha (c : Char) (h : c.isAlpha = true) : c.toNat < 128 := by
  have hranges : (decide (c.val ≥ 65 ∧ c.val ≤ 90) ||
      (decide (c.val ≥ 97) && decide (c.val ≤ 122))) = true := h
  simp only [Bool.or_eq_true, Bool.and_eq_true, decide_eq_true_eq,
    UInt32.le_iff_toNat_le] at hranges
  change (_ ∧ c.toNat ≤ 90) ∨ (_ ∧ c.toNat ≤ 122) at hranges
  omega

theorem toUpper_ascii (c : Char) (hc : c.toNat < 128) : c.toUpper.toNat < 128 := by
  rcases (ascii_laws c hc).toUpper_char with hsame | halpha
  · rwa [hsame]
  · exact ascii_of_alpha _ halpha

end Text

namespace Convention
open Text

def Joined (text : Text) : Prop := text.IsChain fun c d => ¬(c = '_' ∧ d.isLower = true)

def Formed : Convention → Text → Prop
  | camel, text => (∀ c ∈ text.head?, c.isUpper = false) ∧ Joined text.tail
  | snake, text => ∀ c ∈ text, c.isUpper = false
  | pascal, text => (∀ c ∈ text.head?, c.isLower = false) ∧ Joined text.tail

theorem joinWords_final (text : Text) (m : Char) (hm : isLowercase m = false) :
    joinWords (text ++ [m]) = joinWords text ++ [m] := by
  fun_induction joinWords text with
  | case1 => simp [joinWords]
  | case2 c => simp [joinWords, hm]
  | case3 c d rest h ih => simp [joinWords, h, ih]
  | case4 c d rest h ih =>
    rw [List.cons_append] at ih
    simp only [List.cons_append, joinWords, h, ih, if_false]

/-- A final underscore has nothing behind it to join, so setting it aside changes nothing. -/
theorem toCamel_body (identifier : Text) : toCamel identifier = camelBody identifier := by
  simp only [toCamel, splitFinalUnderscore]
  split
  · rename_i h
    obtain ⟨hlength, hlast⟩ := h
    obtain ⟨body, rfl⟩ := List.getLast?_eq_some_iff.mp hlast
    cases body with
    | nil => simp at hlength
    | cons c rest =>
      rw [List.dropLast_concat]
      simp [camelBody, joinWords_final rest '_' (by decide)]
  · simp

theorem joinWords_head (c : Char) (rest : Text) (ha : Ascii (c :: rest))
    (hc : c.isLower = false) : ∀ d ∈ (joinWords (c :: rest)).head?, d.isLower = false := by
  cases rest with
  | nil => simpa [joinWords] using hc
  | cons d rest =>
    have hd : d.toNat < 128 := ha d (by simp)
    simp only [joinWords]
    split
    · simp [upper_ascii d hd, (ascii_laws d hd).isLower_toUpper]
    · simpa using hc

theorem joinWords_joined (text : Text) (ha : Ascii text) : Joined (joinWords text) := by
  fun_induction joinWords text with
  | case1 => exact .nil
  | case2 c => exact .singleton c
  | case3 c d rest h ih =>
    have hd : d.toNat < 128 := ha d (by simp)
    have hlower : d.isLower = true := by rw [← (ascii_laws d hd).isLowercase_eq, h.2]
    rw [upper_ascii d hd, List.singleton_append]
    refine List.isChain_cons.mpr ⟨fun y _ hy => ?_, ih fun y hy => ha y (by simp [hy])⟩
    exact (ascii_laws d hd).toUpper_not_underscore hlower hy.1
  | case4 c d rest h ih =>
    have hd : d.toNat < 128 := ha d (by simp)
    have hrest : Ascii (d :: rest) := ((ascii_cons c _).mp ha).2
    refine List.isChain_cons.mpr ⟨fun y hy hpair => ?_, ih hrest⟩
    -- The underscore stays because no lower-case letter follows it, nor does one after joining.
    have hlower : d.isLower = false := by
      rw [← (ascii_laws d hd).isLowercase_eq]
      simpa [hpair.1] using h
    rw [joinWords_head d rest hrest hlower y hy] at hpair
    exact absurd hpair.2 (by simp)

theorem joinWords_of_joined (text : Text) (ha : Ascii text) (h : Joined text) :
    joinWords text = text := by
  fun_induction joinWords text with
  | case1 => rfl
  | case2 c => rfl
  | case3 c d rest hpair ih =>
    have hd : d.toNat < 128 := ha d (by simp)
    rw [(ascii_laws d hd).isLowercase_eq] at hpair
    exact absurd hpair (List.isChain_cons_cons.mp h).1
  | case4 c d rest hpair ih =>
    rw [ih ((ascii_cons c _).mp ha).2 (List.isChain_cons_cons.mp h).2]

theorem toCamel_cons (c : Char) (rest : Text) (hc : c.toNat < 128) :
    toCamel (c :: rest) = c.toLower :: joinWords rest := by
  rw [toCamel_body, camelBody, lower_ascii c hc, List.singleton_append]

theorem toPascal_cons (c : Char) (rest : Text) (hc : c.toNat < 128) :
    toPascal (c :: rest) = c.toUpper :: joinWords rest := by
  rw [toPascal, toCamel_cons c rest hc, capitalize, upper_ascii _ (ascii_laws c hc).toLower_ascii,
    List.singleton_append, (ascii_laws c hc).toUpper_toLower]

theorem separateWords_lower (previous : Option Char) (text : Text) (ha : Ascii text) :
    ∀ c ∈ separateWords previous text, c.isUpper = false := by
  induction text generalizing previous with
  | nil => simp [separateWords]
  | cons x rest ih =>
    obtain ⟨hx, hrest⟩ := (ascii_cons x rest).mp ha
    intro c hc
    simp only [separateWords, lower_ascii x hx, List.mem_append, List.mem_singleton] at hc
    rcases hc with (hc | rfl) | hc
    · split at hc
      · rw [List.mem_singleton] at hc
        subst hc
        decide
      · simp at hc
    · exact (ascii_laws x hx).isUpper_toLower
    · exact ih (some x) hrest c hc

theorem separateWords_of_lower (previous : Option Char) (text : Text) (ha : Ascii text)
    (h : ∀ c ∈ text, c.isUpper = false) : separateWords previous text = text := by
  induction text generalizing previous with
  | nil => rfl
  | cons x rest ih =>
    obtain ⟨hx, hrest⟩ := (ascii_cons x rest).mp ha
    have hupper : x.isUpper = false := h x (by simp)
    have hstarts : startsWord previous x = false := by
      simp [startsWord, (ascii_laws x hx).isUppercase_eq, hupper]
    rw [separateWords, hstarts, lower_ascii x hx, (ascii_laws x hx).toLower_of_not_upper hupper,
      ih (some x) hrest fun c hc => h c (by simp [hc])]
    rfl

theorem convert_nil (convention : Convention) : convention.convert [] = [] := by
  cases convention <;> rfl

/-- A conversion gives the identifier the form of the convention. -/
theorem convert_formed (convention : Convention) (text : Text) (ha : Ascii text) :
    Formed convention (convention.convert text) := by
  cases convention with
  | snake => exact separateWords_lower none text ha
  | camel =>
    cases text with
    | nil =>
      rw [convert_nil]
      exact ⟨by simp, .nil⟩
    | cons c rest =>
      obtain ⟨hc, hrest⟩ := (ascii_cons c rest).mp ha
      rw [convert, toCamel_cons c rest hc]
      exact ⟨by simp [(ascii_laws c hc).isUpper_toLower], joinWords_joined rest hrest⟩
  | pascal =>
    cases text with
    | nil =>
      rw [convert_nil]
      exact ⟨by simp, .nil⟩
    | cons c rest =>
      obtain ⟨hc, hrest⟩ := (ascii_cons c rest).mp ha
      rw [convert, toPascal_cons c rest hc]
      exact ⟨by simp [(ascii_laws c hc).isLower_toUpper], joinWords_joined rest hrest⟩

/-- A conversion leaves alone what has the form of the convention. -/
theorem convert_of_formed (convention : Convention) (text : Text) (ha : Ascii text)
    (h : Formed convention text) : convention.convert text = text := by
  cases convention with
  | snake => exact separateWords_of_lower none text ha h
  | camel =>
    cases text with
    | nil => rfl
    | cons c rest =>
      obtain ⟨hc, hrest⟩ := (ascii_cons c rest).mp ha
      rw [convert, toCamel_cons c rest hc, joinWords_of_joined rest hrest h.2,
        (ascii_laws c hc).toLower_of_not_upper (h.1 c rfl)]
  | pascal =>
    cases text with
    | nil => rfl
    | cons c rest =>
      obtain ⟨hc, hrest⟩ := (ascii_cons c rest).mp ha
      rw [convert, toPascal_cons c rest hc, joinWords_of_joined rest hrest h.2,
        (ascii_laws c hc).toUpper_of_not_lower (h.1 c rfl)]

def Spells (text : Text) (c : Char) : Prop := c ∈ text ∨ c = '_' ∨ c.isAlpha = true

theorem spells_cons (x : Char) (text : Text) (c : Char) (h : Spells text c) :
    Spells (x :: text) c :=
  h.imp_left (List.mem_cons_of_mem x)

theorem spells_toLower (text : Text) (x : Char) (hx : x ∈ text) (hcode : x.toNat < 128) :
    Spells text x.toLower := by
  rcases (ascii_laws x hcode).toLower_char with hsame | halpha
  · rw [hsame]
    exact Or.inl hx
  · exact Or.inr (Or.inr halpha)

theorem spells_toUpper (text : Text) (x : Char) (hx : x ∈ text) (hcode : x.toNat < 128) :
    Spells text x.toUpper := by
  rcases (ascii_laws x hcode).toUpper_char with hsame | halpha
  · rw [hsame]
    exact Or.inl hx
  · exact Or.inr (Or.inr halpha)

theorem joinWords_spells (text : Text) (ha : Ascii text) :
    ∀ c ∈ joinWords text, Spells text c := by
  fun_induction joinWords text with
  | case1 => simp
  | case2 c => exact fun y hy => Or.inl hy
  | case3 c d rest h ih =>
    have hd : d.toNat < 128 := ha d (by simp)
    intro y hy
    rw [upper_ascii d hd, List.singleton_append, List.mem_cons] at hy
    rcases hy with rfl | hy
    · exact spells_toUpper _ d (by simp) hd
    · exact spells_cons c _ y (spells_cons d _ y (ih (fun y hy => ha y (by simp [hy])) y hy))
  | case4 c d rest h ih =>
    intro y hy
    rcases List.mem_cons.mp hy with rfl | hy
    · exact Or.inl (by simp)
    · exact spells_cons c _ y (ih ((ascii_cons c _).mp ha).2 y hy)

theorem separateWords_spells (previous : Option Char) (text : Text) (ha : Ascii text) :
    ∀ c ∈ separateWords previous text, Spells text c := by
  induction text generalizing previous with
  | nil => simp [separateWords]
  | cons x rest ih =>
    obtain ⟨hx, hrest⟩ := (ascii_cons x rest).mp ha
    intro c hc
    simp only [separateWords, lower_ascii x hx, List.mem_append, List.mem_singleton] at hc
    rcases hc with (hc | rfl) | hc
    · split at hc
      · exact Or.inr (Or.inl (List.mem_singleton.mp hc))
      · simp at hc
    · exact spells_toLower _ x (by simp) hx
    · exact spells_cons x rest c (ih (some x) hrest c hc)

/-- A conversion brings in nothing but letters and underscores. -/
theorem convert_spells (convention : Convention) (text : Text) (ha : Ascii text) :
    ∀ c ∈ convention.convert text, Spells text c := by
  cases text with
  | nil => simp [convert_nil]
  | cons x rest =>
    obtain ⟨hx, hrest⟩ := (ascii_cons x rest).mp ha
    have hjoined (c : Char) (hc : c ∈ joinWords rest) : Spells (x :: rest) c :=
      spells_cons x rest c (joinWords_spells rest hrest c hc)
    cases convention with
    | snake => exact separateWords_spells none (x :: rest) ha
    | camel =>
      intro c hc
      rw [convert, toCamel_cons x rest hx] at hc
      rcases List.mem_cons.mp hc with rfl | hc
      · exact spells_toLower _ x (by simp) hx
      · exact hjoined c hc
    | pascal =>
      intro c hc
      rw [convert, toPascal_cons x rest hx] at hc
      rcases List.mem_cons.mp hc with rfl | hc
      · exact spells_toUpper _ x (by simp) hx
      · exact hjoined c hc

theorem spells_ascii (text : Text) (ha : Ascii text) (c : Char) (h : Spells text c) :
    c.toNat < 128 := by
  rcases h with hmem | rfl | halpha
  · exact ha c hmem
  · decide
  · exact ascii_of_alpha c halpha

theorem convert_ascii (convention : Convention) (text : Text) (ha : Ascii text) :
    Ascii (convention.convert text) := by
  intro c hc
  exact spells_ascii text ha c (convert_spells convention text ha c hc)

theorem convert_twice (convention : Convention) (text : Text) (ha : Ascii text) :
    convention.convert (convention.convert text) = convention.convert text :=
  convert_of_formed convention _ (convert_ascii convention text ha)
    (convert_formed convention text ha)

theorem joinWords_last (text : Text) (c : Char) (hc : c.toNat < 128) :
    ∃ body d, joinWords (text ++ [c]) = body ++ [d] ∧ SameLetter c d := by
  fun_induction joinWords text with
  | case1 => exact ⟨[], c, rfl, rfl⟩
  | case2 x =>
    by_cases h : x = '_' ∧ isLowercase c
    · refine ⟨[], c.toUpper, ?_, sameLetter_upper c hc⟩
      simp [joinWords, h, upper_ascii c hc]
    · refine ⟨[x], c, ?_, rfl⟩
      simp [joinWords, h]
  | case3 x y rest h ih =>
    obtain ⟨body, d, hbody, hsame⟩ := ih
    exact ⟨upper y ++ body, d, by simp [joinWords, h, hbody], hsame⟩
  | case4 x y rest h ih =>
    obtain ⟨body, d, hbody, hsame⟩ := ih
    rw [List.cons_append] at hbody
    exact ⟨x :: body, d, by simp only [List.cons_append, joinWords, h, hbody, if_false], hsame⟩

theorem separateWords_last (previous : Option Char) (text : Text) (c : Char) (hc : c.toNat < 128) :
    ∃ body, separateWords previous (text ++ [c]) = body ++ [c.toLower] := by
  induction text generalizing previous with
  | nil =>
    refine ⟨if startsWord previous c then ['_'] else [], ?_⟩
    simp [separateWords, lower_ascii c hc]
  | cons x rest ih =>
    obtain ⟨body, hbody⟩ := ih (some x)
    rw [List.cons_append, separateWords, hbody, ← List.append_assoc]
    exact ⟨_, rfl⟩

theorem separateWords_final (previous : Option Char) (text : Text) (m : Char) (hm : m.toNat < 128)
    (hletter : m.isAlpha = false) :
    separateWords previous (text ++ [m]) = separateWords previous text ++ [m] := by
  have hupper : isUppercase m = false := by
    rw [(ascii_laws m hm).isUppercase_eq, ((ascii_laws m hm).caseless hletter).2]
  induction text generalizing previous with
  | nil => simp [separateWords, startsWord, hupper, lower_ascii m hm, lower_mark m hm hletter]
  | cons x rest ih => simp [separateWords, ih]

/-- The conventions that join words treat all characters but the first alike. -/
theorem convert_joins (convention : Convention) (h : convention ≠ snake) (c : Char)
    (hc : c.toNat < 128) :
    ∃ d, SameLetter c d ∧ ∀ rest, convention.convert (c :: rest) = d :: joinWords rest := by
  cases convention with
  | snake => exact absurd rfl h
  | camel => exact ⟨c.toLower, sameLetter_lower c hc, fun rest => toCamel_cons c rest hc⟩
  | pascal => exact ⟨c.toUpper, sameLetter_upper c hc, fun rest => toPascal_cons c rest hc⟩

theorem convert_last (convention : Convention) (text : Text) (c : Char)
    (ha : Ascii (text ++ [c])) :
    ∃ body d, convention.convert (text ++ [c]) = body ++ [d] ∧ SameLetter c d := by
  have hc : c.toNat < 128 := ha c (by simp)
  by_cases hsnake : convention = snake
  · subst hsnake
    obtain ⟨body, hbody⟩ := separateWords_last none text c hc
    exact ⟨body, c.toLower, hbody, sameLetter_lower c hc⟩
  · cases text with
    | nil =>
      obtain ⟨d, hsame, hjoins⟩ := convert_joins convention hsnake c hc
      exact ⟨[], d, hjoins [], hsame⟩
    | cons x rest =>
      obtain ⟨y, -, hjoins⟩ := convert_joins convention hsnake x (ha x (by simp))
      obtain ⟨body, d, hbody, hsame⟩ := joinWords_last rest c hc
      refine ⟨y :: body, d, ?_, hsame⟩
      rw [List.cons_append, hjoins, hbody, List.cons_append]

theorem convert_first (convention : Convention) (c : Char) (rest : Text) (hc : c.toNat < 128) :
    ∃ d tail, convention.convert (c :: rest) = d :: tail ∧ SameLetter c d := by
  by_cases hsnake : convention = snake
  · subst hsnake
    refine ⟨c.toLower, separateWords (some c) rest, ?_, sameLetter_lower c hc⟩
    simp [convert, toSnake, separateWords, startsWord, lower_ascii c hc]
  · obtain ⟨d, hsame, hjoins⟩ := convert_joins convention hsnake c hc
    exact ⟨d, joinWords rest, hjoins rest, hsame⟩

/-- A conversion neither brings a mark to the end of an identifier nor takes one from there. -/
theorem convert_getLast (convention : Convention) (text : Text) (ha : Ascii text) (m : Char)
    (hletter : m.isAlpha = false) :
    (convention.convert text).getLast? = some m ↔ text.getLast? = some m := by
  rcases List.eq_nil_or_concat' text with rfl | ⟨body, c, rfl⟩
  · rw [convert_nil]
  · obtain ⟨converted, d, hconverted, hsame⟩ := convert_last convention body c ha
    have hascii := convert_ascii convention _ ha
    rw [hconverted] at hascii ⊢
    have hmark := sameLetter_mark m c d hletter (ha c (by simp)) (hascii d (by simp)) hsame
    simpa using hmark

theorem convert_head (convention : Convention) (text : Text) (ha : Ascii text) (m : Char)
    (hletter : m.isAlpha = false) :
    (convention.convert text).head? = some m ↔ text.head? = some m := by
  cases text with
  | nil => rw [convert_nil]
  | cons c rest =>
    have hc : c.toNat < 128 := ha c (by simp)
    obtain ⟨d, tail, hconverted, hsame⟩ := convert_first convention c rest hc
    have hascii := convert_ascii convention _ ha
    rw [hconverted] at hascii ⊢
    have hmark := sameLetter_mark m c d hletter hc (hascii d (by simp)) hsame
    simpa using hmark

/-- A conversion passes a final character on that is no letter. -/
theorem convert_final (convention : Convention) (text : Text) (ha : Ascii text) (m : Char)
    (hm : m.toNat < 128) (hletter : m.isAlpha = false) :
    convention.convert (text ++ [m]) = convention.convert text ++ [m] := by
  by_cases hsnake : convention = snake
  · subst hsnake
    exact separateWords_final none text m hm hletter
  · cases text with
    | nil =>
      obtain ⟨d, -, hjoins⟩ := convert_joins convention hsnake m hm
      have hhead := (convert_head convention [m] (by simpa [Ascii] using hm) m hletter).mpr rfl
      rw [hjoins, List.head?_cons, Option.some.injEq] at hhead
      rw [List.nil_append, hjoins, hhead, convert_nil]
      rfl
    | cons c rest =>
      have hlower : isLowercase m = false := by
        rw [(ascii_laws m hm).isLowercase_eq, ((ascii_laws m hm).caseless hletter).1]
      obtain ⟨d, -, hjoins⟩ := convert_joins convention hsnake c (ha c (by simp))
      rw [List.cons_append, hjoins, hjoins, joinWords_final rest m hlower, List.cons_append]

end Convention

namespace Delimiters
open Text

def KeepsWords (d : Delimiters) : Prop :=
  ∀ c : Char, c = '_' ∨ c.isAlpha = true → d.contains c = false

theorem convert_free (d : Delimiters) (hd : d.KeepsWords) (convention : Convention) (text : Text)
    (ha : Ascii text) (hfree : d.Free text) : d.Free (convention.convert text) := by
  intro c hc
  rcases Convention.convert_spells convention text ha c hc with hmem | hword
  · exact hfree c hmem
  · exact hd c hword

theorem ofChars_keepsWords (marks : List Char)
    (h : marks.any (fun c => c == '_' || c.isAlpha) = false) : (ofChars marks).KeepsWords := by
  intro c hc
  have hblank : isBlank c = false := by
    have hcode : c.toNat < 128 := by
      rcases hc with rfl | halpha
      · decide
      · exact ascii_of_alpha c halpha
    exact ascii_forall (fun c => c = '_' ∨ c.isAlpha = true → isBlank c = false)
      (by decide +kernel) c hcode hc
  have hmarks : c ∉ marks := by
    intro hmem
    have hmark := List.any_eq_false.mp h c hmem
    simp [hc] at hmark
  simp [contains, ofChars, hblank, hmarks]

theorem builtin_keepsWords :
    ∀ l ∈ Registry.builtin.languages, (ofChars l.delimiters.toList).KeepsWords := by
  have hsorted (marks : List Char) (h : marks.any (fun c => c == '_' || c.isAlpha) = false) :
      (ofChars (SortedSet.ofList marks).toList).KeepsWords := by
    apply ofChars_keepsWords
    rw [List.any_eq_false] at h ⊢
    intro c hc
    exact h c (SortedSet.mem_toList_ofList.mp hc)
  have hc := hsorted Language.cPunctuation (by decide +kernel)
  have hscript := hsorted Language.scriptPunctuation (by decide +kernel)
  simp only [Registry.builtin, List.forall_mem_cons, List.not_mem_nil, false_imp_iff,
    implies_true, and_true]
  exact ⟨hc, hc, hc, hscript, hscript, hc, hc⟩

end Delimiters

end IdentCase
