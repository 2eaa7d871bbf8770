import Mathlib.Data.List.Basic
import IdentCase.Json.Basic

/-!
# The texts of a JSON value

Which texts stand for a value. Blanks may stand between all parts. A character of a string stands
for itself or is written by an escape: by a letter, by its code in four digits or, beyond the basic
plane, by two such codes. What is written on one line and what is laid out on many are both texts of
the value.
-/

set_option autoImplicit false

namespace IdentCase.Json

def Gap (text : Text) : Prop := ∀ c ∈ text, c ∈ [' ', '\n', '\t', '\r']

def letters : List (Char × Char) :=
  [('"', '"'), ('\\', '\\'), ('/', '/'), ('b', Char.ofNat 8), ('f', Char.ofNat 12), ('n', '\n'),
    ('r', '\r'), ('t', '\t')]

def Digit (value : Nat) (c : Char) : Prop :=
  value < 16 ∧ (c = Nat.digitChar value ∨ c = (Nat.digitChar value).toUpper)

instance (value : Nat) (c : Char) : Decidable (Digit value c) := inferInstanceAs (Decidable (_ ∧ _))

inductive Code : Nat → Text → Prop
  | digits {a b c d : Nat} {p q r s : Char} (ha : Digit a p) (hb : Digit b q) (hc : Digit c r)
      (hd : Digit d s) : Code (((a * 16 + b) * 16 + c) * 16 + d) [p, q, r, s]

inductive WrittenChar : Char → Text → Prop
  | plain {c : Char} (visible : 0x20 ≤ c.toNat) (hquote : c ≠ '"') (hescape : c ≠ '\\') :
      WrittenChar c [c]
  | letter {c e : Char} (h : (e, c) ∈ letters) : WrittenChar c ['\\', e]
  | code {c : Char} {digits : Text} (h : Code c.toNat digits) :
      WrittenChar c ('\\' :: 'u' :: digits)
  | pair {c : Char} {high low : Nat} {front back : Text} (hhigh : high < 0x400) (hlow : low < 0x400)
      (hc : c.toNat = 0x10000 + high * 0x400 + low) (hfront : Code (0xD800 + high) front)
      (hback : Code (0xDC00 + low) back) :
      WrittenChar c ('\\' :: 'u' :: (front ++ '\\' :: 'u' :: back))

inductive WrittenChars : Text → Text → Prop
  | nil : WrittenChars [] []
  | cons {c : Char} {chars text rest : Text} (h : WrittenChar c text)
      (hrest : WrittenChars chars rest) : WrittenChars (c :: chars) (text ++ rest)

def WrittenString (value : String) (text : Text) : Prop :=
  ∃ body, WrittenChars value.toList body ∧ text = '"' :: (body ++ ['"'])

inductive Lead : Bool → Text → Prop
  | first {gap : Text} (hgap : Gap gap) : Lead true gap
  | next {gap behind : Text} (hgap : Gap gap) (hbehind : Gap behind) :
      Lead false (gap ++ ',' :: behind)

mutual

inductive Written : Json → Text → Prop
  | null : Written .null ['n', 'u', 'l', 'l']
  | true : Written (.bool Bool.true) ['t', 'r', 'u', 'e']
  | false : Written (.bool Bool.false) ['f', 'a', 'l', 's', 'e']
  | num (value : Nat) : Written (.num value) (Nat.toDigits 10 value)
  | str {value : String} {text : Text} (h : WrittenString value text) : Written (.str value) text
  | arr {items : List Json} {text : Text} (h : WrittenItems Bool.true items text) :
      Written (.arr items) ('[' :: text)
  | obj {members : List (String × Json)} {text : Text}
      (h : WrittenMembers Bool.true members text) : Written (.obj members) ('{' :: text)

inductive WrittenItems : Bool → List Json → Text → Prop
  | close {first : Bool} {gap : Text} (hgap : Gap gap) : WrittenItems first [] (gap ++ [']'])
  | item {first : Bool} {item : Json} {items : List Json} {lead text rest : Text}
      (hlead : Lead first lead) (hitem : Written item text)
      (hrest : WrittenItems Bool.false items rest) :
      WrittenItems first (item :: items) (lead ++ (text ++ rest))

inductive WrittenMembers : Bool → List (String × Json) → Text → Prop
  | close {first : Bool} {gap : Text} (hgap : Gap gap) : WrittenMembers first [] (gap ++ ['}'])
  | member {first : Bool} {key : String} {value : Json} {members : List (String × Json)}
      {lead name gap behind text rest : Text} (hlead : Lead first lead)
      (hkey : WrittenString key name) (hgap : Gap gap) (hbehind : Gap behind)
      (hvalue : Written value text) (hrest : WrittenMembers Bool.false members rest) :
      WrittenMembers first ((key, value) :: members)
        (lead ++ (name ++ (gap ++ ':' :: (behind ++ (text ++ rest)))))

end

def WrittenAlone (value : Json) (text : Text) : Prop :=
  ∃ gap body behind, Gap gap ∧ Written value body ∧ Gap behind ∧ text = gap ++ (body ++ behind)

theorem gap_nil : Gap [] := by simp [Gap]

theorem gap_newline (level : Nat) : Gap (newline level) := by
  intro c hc
  rcases List.mem_cons.mp hc with rfl | hc
  · simp
  · simp [(List.mem_replicate.mp hc).2]

theorem written_alone {value : Json} {text : Text} (h : Written value text) :
    WrittenAlone value text :=
  ⟨[], text, [], gap_nil, h, gap_nil, by simp⟩

/-! ## Strings -/

theorem code_control (n : Nat) (h : n < 0x20) :
    Code n ['0', '0', Nat.digitChar (n / 16), Nat.digitChar (n % 16)] := by
  have hzero : Digit 0 '0' := by simp [Digit]
  have hfront : Digit (n / 16) (Nat.digitChar (n / 16)) := ⟨by omega, Or.inl rfl⟩
  have hback : Digit (n % 16) (Nat.digitChar (n % 16)) := ⟨by omega, Or.inl rfl⟩
  have hcode := Code.digits hzero hzero hfront hback
  have hvalue : ((0 * 16 + 0) * 16 + n / 16) * 16 + n % 16 = n := by omega
  rwa [hvalue] at hcode

theorem escaped_written (c : Char) : WrittenChar c (escaped c) := by
  unfold escaped
  by_cases hletter : ∃ e, (e, c) ∈ letters ∧ e ≠ '/'
  · obtain ⟨e, hmem, hslash⟩ := hletter
    have hletter := WrittenChar.letter hmem
    simp only [letters, List.mem_cons, Prod.mk.injEq, List.not_mem_nil, or_false] at hmem
    rcases hmem with ⟨rfl, rfl⟩ | ⟨rfl, rfl⟩ | ⟨rfl, rfl⟩ | ⟨rfl, rfl⟩ | ⟨rfl, rfl⟩ | ⟨rfl, rfl⟩ |
      ⟨rfl, rfl⟩ | ⟨rfl, rfl⟩
    case inr.inr.inl => exact absurd rfl hslash
    all_goals exact hletter
  · have hother (e d : Char) (hmem : (e, d) ∈ letters) (he : e ≠ '/') : c ≠ d := by
      rintro rfl
      exact hletter ⟨e, hmem, he⟩
    rw [if_neg (hother '"' '"' (by simp [letters]) (by decide)),
      if_neg (hother '\\' '\\' (by simp [letters]) (by decide)),
      if_neg (hother 'b' (Char.ofNat 8) (by simp [letters]) (by decide)),
      if_neg (hother 'f' (Char.ofNat 12) (by simp [letters]) (by decide)),
      if_neg (hother 'n' '\n' (by simp [letters]) (by decide)),
      if_neg (hother 'r' '\r' (by simp [letters]) (by decide)),
      if_neg (hother 't' '\t' (by simp [letters]) (by decide))]
    by_cases hcontrol : c.toNat < 0x20
    · rw [if_pos hcontrol]
      exact .code (code_control c.toNat hcontrol)
    · rw [if_neg hcontrol]
      exact .plain (by omega) (hother '"' '"' (by simp [letters]) (by decide))
        (hother '\\' '\\' (by simp [letters]) (by decide))

theorem flatMap_written (chars : Text) : WrittenChars chars (chars.flatMap escaped) := by
  induction chars with
  | nil => exact .nil
  | cons c chars ih => exact .cons (escaped_written c) ih

theorem writeString_written (value : String) : WrittenString value (writeString value) :=
  ⟨_, flatMap_written value.toList, rfl⟩

theorem writeBool_written (value : Bool) : Written (.bool value) (writeBool value) := by
  cases value with
  | false => exact .false
  | true => exact .true

/-! ## One line -/

theorem lead_comma (first : Bool) : Lead first (if first then [] else [',']) := by
  cases first with
  | false => exact Lead.next gap_nil gap_nil
  | true => exact Lead.first gap_nil

mutual

theorem compact_written : (value : Json) → Written value value.compact
  | .null => .null
  | .bool value => writeBool_written value
  | .num value => .num value
  | .str value => .str (writeString_written value)
  | .arr items => .arr (compactItems_written true items)
  | .obj members => .obj (compactMembers_written true members)

theorem compactItems_written :
    (first : Bool) → (items : List Json) → WrittenItems first items (compactItems first items)
  | _, [] => .close gap_nil
  | first, item :: items => by
    rw [compactItems, List.append_assoc]
    exact .item (lead_comma first) (compact_written item) (compactItems_written false items)

theorem compactMembers_written :
    (first : Bool) → (members : List (String × Json)) →
      WrittenMembers first members (compactMembers first members)
  | _, [] => .close gap_nil
  | first, (key, value) :: members => by
    rw [compactMembers, List.append_assoc, List.append_assoc, List.cons_append]
    exact .member (lead_comma first) (writeString_written key) gap_nil gap_nil
      (compact_written value) (compactMembers_written false members)

end

/-! ## Many lines -/

theorem gap_space : Gap [' '] := by simp [Gap]

theorem lead_newline (level : Nat) : Lead false (',' :: newline level) :=
  Lead.next gap_nil (gap_newline level)

mutual

theorem layout_written : (level : Nat) → (value : Json) → Written value (layout level value)
  | _, .null => .null
  | _, .bool value => writeBool_written value
  | _, .num value => .num value
  | _, .str value => .str (writeString_written value)
  | _, .arr [] => .arr (.close gap_nil)
  | level, .arr (item :: items) => by
    rw [layout, List.append_assoc, List.cons_append]
    exact .arr (.item (.first (gap_newline (level + 1))) (layout_written (level + 1) item)
      (layoutItems_written level items))
  | _, .obj [] => .obj (.close gap_nil)
  | level, .obj ((key, value) :: members) => by
    rw [layout, List.append_assoc, List.append_assoc, List.cons_append, List.cons_append,
      List.cons_append]
    exact .obj (.member (.first (gap_newline (level + 1))) (writeString_written key) gap_nil
      gap_space (layout_written (level + 1) value) (layoutMembers_written level members))

theorem layoutItems_written :
    (level : Nat) → (items : List Json) → WrittenItems false items (layoutItems level items)
  | level, [] => .close (gap_newline level)
  | level, item :: items => by
    rw [layoutItems, List.append_assoc, List.cons_append]
    exact .item (lead_newline (level + 1)) (layout_written (level + 1) item)
      (layoutItems_written level items)

theorem layoutMembers_written :
    (level : Nat) → (members : List (String × Json)) →
      WrittenMembers false members (layoutMembers level members)
  | level, [] => .close (gap_newline level)
  | level, (key, value) :: members => by
    rw [layoutMembers, List.append_assoc, List.append_assoc, List.cons_append, List.cons_append,
      List.cons_append]
    exact .member (lead_newline (level + 1)) (writeString_written key) gap_nil gap_space
      (layout_written (level + 1) value) (layoutMembers_written level members)

end

end IdentCase.Json
