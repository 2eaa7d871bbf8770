import Mathlib.Data.List.Basic
import IdentCase.Text.Basic

/-!
# Texts as bytes

The UTF-8 form of a text and the offsets at which its characters start. A byte that starts a
character never stands inside another one. So where the bytes of a term occur in the bytes of a
text, the term itself stands there, at a character boundary.
-/

set_option autoImplicit false

namespace IdentCase.Text

def utf8 (text : Text) : List UInt8 := text.flatMap String.utf8EncodeChar

def Boundary (text : Text) (o : Nat) : Prop :=
  ∃ before behind : Text, text = before ++ behind ∧ before.byteLength = o

@[simp] theorem utf8_cons (c : Char) (rest : Text) :
    utf8 (c :: rest) = String.utf8EncodeChar c ++ utf8 rest := by simp [utf8]

theorem utf8_append (s t : Text) : utf8 (s ++ t) = utf8 s ++ utf8 t := by simp [utf8]

theorem length_utf8 (text : Text) : text.utf8.length = text.byteLength := by
  induction text with
  | nil => rfl
  | cons c rest ih => simp [byteLength, ih]

theorem byteLength_eq_zero (text : Text) : text.byteLength = 0 ↔ text = [] := by
  cases text with
  | nil => simp [byteLength]
  | cons c rest =>
    have hc := c.utf8Size_pos
    simp only [byteLength, reduceCtorEq, iff_false]
    omega

theorem byteLength_pos (text : Text) (h : text ≠ []) : 0 < text.byteLength :=
  Nat.pos_of_ne_zero (mt (byteLength_eq_zero text).mp h)

theorem byteOffset_left (before behind : Text) :
    (before ++ behind).byteOffset before.length = before.byteLength := by
  rw [byteOffset, List.take_left]

/-- A text is cut at an offset in one way only. -/
theorem cut_unique (before before' behind behind' : Text)
    (h : before ++ behind = before' ++ behind') (hlength : before.byteLength = before'.byteLength) :
    before = before' ∧ behind = behind' := by
  induction before generalizing before' with
  | nil =>
    have hnil : before' = [] := (byteLength_eq_zero before').mp hlength.symm
    subst hnil
    exact ⟨rfl, h⟩
  | cons c before ih =>
    cases before' with
    | nil => exact absurd ((byteLength_eq_zero _).mp hlength) (by simp)
    | cons c' before' =>
      obtain ⟨rfl, hrest⟩ := List.cons.inj h
      have hshort : byteLength before = byteLength before' := by
        simp only [byteLength] at hlength
        omega
      obtain ⟨rfl, rfl⟩ := ih before' hrest hshort
      exact ⟨rfl, rfl⟩

theorem drop_utf8 (before behind : Text) :
    (before ++ behind).utf8.drop before.byteLength = behind.utf8 := by
  rw [utf8_append, ← length_utf8, List.drop_left]

theorem take_utf8 (before behind : Text) :
    (before ++ behind).utf8.take before.byteLength = before.utf8 := by
  rw [utf8_append, ← length_utf8, List.take_left]

theorem boundary_of_first_byte (text : Text) (o : Nat) (b : UInt8) (hb : text.utf8[o]? = some b)
    (hfirst : b.IsUTF8FirstByte) : text.Boundary o := by
  induction text generalizing o with
  | nil => simp [utf8] at hb
  | cons c rest ih =>
    rw [utf8_cons] at hb
    by_cases ho : o < (String.utf8EncodeChar c).length
    · rw [List.getElem?_append_left ho, List.getElem?_eq_getElem ho, Option.some.injEq] at hb
      rw [← hb, UInt8.isUTF8FirstByte_getElem_utf8EncodeChar] at hfirst
      exact ⟨[], c :: rest, rfl, hfirst.symm⟩
    · rw [List.getElem?_append_right (by omega)] at hb
      obtain ⟨before, behind, rfl, hlength⟩ := ih _ hb
      refine ⟨c :: before, behind, rfl, ?_⟩
      rw [String.length_utf8EncodeChar] at ho hlength
      rw [byteLength]
      omega

/-- No boundary lies inside a character. -/
theorem boundary_beside (before rest : Text) (c : Char) (o : Nat)
    (h : (before ++ c :: rest).Boundary o) :
    o ≤ before.byteLength ∨ before.byteLength + c.utf8Size ≤ o := by
  obtain ⟨before', behind, hcut, rfl⟩ := h
  rcases List.append_eq_append_iff.mp hcut with ⟨middle, rfl, hmiddle⟩ | ⟨middle, rfl, -⟩
  · cases middle with
    | nil => simp
    | cons c' middle =>
      obtain ⟨rfl, -⟩ := List.cons.inj hmiddle
      right
      rw [byteLength_append, byteLength]
      omega
  · left
    rw [byteLength_append]
    omega

theorem utf8_prefix_iff (term text : Text) : term.utf8 <+: text.utf8 ↔ term <+: text := by
  constructor
  · rintro ⟨bytes, hbytes⟩
    apply List.isPrefix_of_utf8Encode_append_eq_utf8Encode bytes.toByteArray
    rw [List.utf8Encode, List.utf8Encode, ← List.toByteArray_append]
    exact congrArg List.toByteArray hbytes
  · rintro ⟨rest, rfl⟩
    exact ⟨utf8 rest, (utf8_append term rest).symm⟩

/-- The bytes of a term occur where the term itself does. -/
theorem utf8_occurs_iff (term text : Text) (o : Nat) (hterm : term ≠ []) :
    term.utf8 <+: text.utf8.drop o ↔
      ∃ before behind : Text, text = before ++ (term ++ behind) ∧ before.byteLength = o := by
  constructor
  · intro h
    obtain ⟨c, rest, rfl⟩ := List.exists_cons_of_ne_nil hterm
    have hpos : 0 < (String.utf8EncodeChar c).length := by simp [c.utf8Size_pos]
    have hfirst : text.utf8[o]? = some (String.utf8EncodeChar c)[0] := by
      have hat : (text.utf8.drop o)[0]? = (utf8 (c :: rest))[0]? := by
        obtain ⟨bytes, hbytes⟩ := h
        have hlong : 0 < (utf8 (c :: rest)).length := by
          rw [length_utf8]
          exact byteLength_pos (c :: rest) hterm
        rw [← hbytes, List.getElem?_append_left hlong]
      rw [List.getElem?_drop, Nat.add_zero, utf8_cons, List.getElem?_append_left hpos,
        List.getElem?_eq_getElem hpos] at hat
      exact hat
    obtain ⟨before, behind, rfl, rfl⟩ := boundary_of_first_byte text o _ hfirst (by simp)
    rw [drop_utf8, utf8_prefix_iff] at h
    obtain ⟨behind', rfl⟩ := h
    exact ⟨before, behind', rfl, rfl⟩
  · rintro ⟨before, behind, rfl, rfl⟩
    rw [drop_utf8, utf8_prefix_iff]
    exact ⟨behind, rfl⟩

end IdentCase.Text
