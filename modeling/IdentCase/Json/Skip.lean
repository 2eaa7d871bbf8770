import IdentCase.Json.Reader

/-!
# Skipping JSON

A member that nobody asks for is passed over. Its syntax is checked, but neither the size of numbers
nor the pairing of surrogates, and nesting has no limit.
-/

set_option autoImplicit false

namespace IdentCase

namespace Json

def skipEscape : Text → Except ReadError Nat
  | [] => .error .endInString
  | c :: rest =>
    if c = 'u' then do
      let _ ← readUnit rest
      .ok 5
    else
      match simpleEscape? c with
      | some _ => .ok 1
      | none => .error .invalidEscape

def skipChars : Nat → Text → Except ReadError Text
  | _, [] => .error .endInString
  | skip + 1, _ :: rest => skipChars skip rest
  | 0, c :: rest =>
    if c = '"' then .ok rest
    else if c = '\\' then do
      let taken ← skipEscape rest
      skipChars taken rest
    else if c.toNat < 0x20 then .error .controlCharacter
    else skipChars 0 rest

def skipDigits (text : Text) : Except ReadError Text :=
  match spanDigits text with
  | ([], _) => .error .invalidNumber
  | (_ :: _, rest) => .ok rest

def skipExponent (text : Text) : Except ReadError Text :=
  match text with
  | '+' :: rest => skipDigits rest
  | '-' :: rest => skipDigits rest
  | _ => skipDigits text

def skipOptionalExponent (text : Text) : Except ReadError Text :=
  match text with
  | 'e' :: rest => skipExponent rest
  | 'E' :: rest => skipExponent rest
  | _ => .ok text

def skipFraction (text : Text) : Except ReadError Text :=
  match text with
  | '.' :: places => do
    let behind ← skipDigits places
    skipOptionalExponent behind
  | _ => skipOptionalExponent text

def skipNumber (text : Text) : Except ReadError Text :=
  match spanDigits text with
  | ([], _) => .error .invalidNumber
  | ('0' :: _ :: _, _) => .error .invalidNumber
  | (_ :: _, rest) => skipFraction rest

def skipKey (text : Text) : Except ReadError Text :=
  match skipBlanks text with
  | [] => .error .endInObject
  | '"' :: rest => do
    let behind ← skipChars 0 rest
    readColon behind
  | _ => .error .keyNotString

def skipScalar (c : Char) (rest : Text) : Except ReadError Text :=
  if c = 'n' then readWord ['u', 'l', 'l'] rest
  else if c = 't' then readWord ['r', 'u', 'e'] rest
  else if c = 'f' then readWord ['a', 'l', 's', 'e'] rest
  else if c = '-' then skipNumber rest
  else if c.isDigit then skipNumber (c :: rest)
  else if c = '"' then skipChars 0 rest
  else .error .expectedValue

/-! ## No reader gives back more than it took -/

theorem ok_of_bind {α β : Type} {x : Except ReadError α} {f : α → Except ReadError β} {b : β}
    (h : x >>= f = .ok b) : ∃ a, x = .ok a ∧ f a = .ok b := by
  cases x with
  | error problem => cases h
  | ok a => exact ⟨a, rfl, h⟩

theorem skipBlanks_length (text : Text) : (skipBlanks text).length ≤ text.length :=
  (List.dropWhile_sublist isBlank).length_le

theorem skipBlanks_cons {c : Char} {text rest : Text} (h : skipBlanks text = c :: rest) :
    rest.length < text.length := by
  have hlength := skipBlanks_length text
  rw [h, List.length_cons] at hlength
  exact hlength

theorem readWord_length {word text rest : Text} (h : readWord word text = .ok rest) :
    rest.length ≤ text.length := by
  induction word generalizing text with
  | nil => cases h; exact Nat.le_refl _
  | cons expected more ih =>
    cases text with
    | nil => cases h
    | cons c text =>
      rw [readWord] at h
      split at h
      · exact Nat.le_succ_of_le (ih h)
      · cases h

theorem skipChars_length {skip : Nat} {text rest : Text} (h : skipChars skip text = .ok rest) :
    rest.length ≤ text.length := by
  induction text generalizing skip with
  | nil => cases skip <;> cases h
  | cons c text ih =>
    apply Nat.le_succ_of_le
    cases skip with
    | succ skip => exact ih h
    | zero =>
      rw [skipChars] at h
      split at h
      · cases h; exact Nat.le_refl _
      · split at h
        · obtain ⟨taken, -, h⟩ := ok_of_bind h
          exact ih h
        · split at h
          · cases h
          · exact ih h

theorem spanDigits_length (text : Text) : (spanDigits text).2.length ≤ text.length :=
  (List.dropWhile_sublist Char.isDigit).length_le

theorem skipDigits_length {text rest : Text} (h : skipDigits text = .ok rest) :
    rest.length ≤ text.length := by
  have hspan := spanDigits_length text
  rw [skipDigits] at h
  split at h
  · cases h
  · rename_i hdigits
    rw [hdigits] at hspan
    cases h
    exact hspan

theorem skipExponent_length {text rest : Text} (h : skipExponent text = .ok rest) :
    rest.length ≤ text.length := by
  rw [skipExponent.eq_def] at h
  split at h
  · exact Nat.le_succ_of_le (skipDigits_length h)
  · exact Nat.le_succ_of_le (skipDigits_length h)
  · exact skipDigits_length h

theorem skipOptionalExponent_length {text rest : Text} (h : skipOptionalExponent text = .ok rest) :
    rest.length ≤ text.length := by
  rw [skipOptionalExponent.eq_def] at h
  split at h
  · exact Nat.le_succ_of_le (skipExponent_length h)
  · exact Nat.le_succ_of_le (skipExponent_length h)
  · cases h; exact Nat.le_refl _

theorem skipFraction_length {text rest : Text} (h : skipFraction text = .ok rest) :
    rest.length ≤ text.length := by
  rw [skipFraction.eq_def] at h
  split at h
  · obtain ⟨behind, hplaces, h⟩ := ok_of_bind h
    have hbehind := skipDigits_length hplaces
    have hrest := skipOptionalExponent_length h
    rw [List.length_cons]
    omega
  · exact skipOptionalExponent_length h

theorem skipNumber_length {text rest : Text} (h : skipNumber text = .ok rest) :
    rest.length ≤ text.length := by
  have hspan := spanDigits_length text
  rw [skipNumber] at h
  split at h
  · cases h
  · cases h
  · rename_i hdigits
    rw [hdigits] at hspan
    exact Nat.le_trans (skipFraction_length h) hspan

theorem readColon_length {text rest : Text} (h : readColon text = .ok rest) :
    rest.length < text.length := by
  rw [readColon] at h
  split at h
  · cases h
  · rename_i hcolon
    cases h
    exact skipBlanks_cons hcolon
  · cases h

theorem skipKey_length {text rest : Text} (h : skipKey text = .ok rest) :
    rest.length ≤ text.length := by
  rw [skipKey] at h
  split at h
  · cases h
  · rename_i hkey
    obtain ⟨behind, hchars, hcolon⟩ := ok_of_bind h
    have hopened := skipBlanks_cons hkey
    have hbehind := skipChars_length hchars
    have hrest := readColon_length hcolon
    omega
  · cases h

theorem skipScalar_length {c : Char} {text rest : Text} (h : skipScalar c text = .ok rest) :
    rest.length ≤ text.length + 1 := by
  rw [skipScalar] at h
  split at h
  · exact Nat.le_succ_of_le (readWord_length h)
  · split at h
    · exact Nat.le_succ_of_le (readWord_length h)
    · split at h
      · exact Nat.le_succ_of_le (readWord_length h)
      · split at h
        · exact Nat.le_succ_of_le (skipNumber_length h)
        · split at h
          · exact skipNumber_length h
          · split at h
            · exact Nat.le_succ_of_le (skipChars_length h)
            · cases h

/-! ## Whole values -/

inductive Frame where
  | list
  | object
deriving DecidableEq, Repr

namespace Frame

def close : Frame → Char
  | list => ']'
  | object => '}'

def endError : Frame → ReadError
  | list => .endInList
  | object => .endInObject

def separatorError : Frame → ReadError
  | list => .expectedListEnd
  | object => .expectedObjectEnd

end Frame

/-- What comes next while skipping: a value, the first part of the innermost frame or its end, or
what follows a value. -/
inductive SkipPhase where
  | value
  | opened
  | behind
deriving DecidableEq, Repr

def SkipPhase.rank : SkipPhase → Nat
  | behind => 0
  | value => 1
  | opened => 2

def itemStart (frame : Frame) (text : Text) : Except ReadError Text :=
  match frame with
  | .list => .ok text
  | .object => skipKey text

theorem itemStart_length {frame : Frame} {text start : Text}
    (h : itemStart frame text = .ok start) :
    start.length ≤ text.length := by
  cases frame with
  | list => cases h; exact Nat.le_refl _
  | object => exact skipKey_length h

def skipFrom (phase : SkipPhase) (frames : List Frame) (text : Text) : Except ReadError Text :=
  match phase, frames with
  | .value, frames =>
    match hblanks : skipBlanks text with
    | [] => .error .endInValue
    | c :: rest =>
      have := skipBlanks_cons hblanks
      if c = '[' then skipFrom .opened (.list :: frames) rest
      else if c = '{' then skipFrom .opened (.object :: frames) rest
      else
        match hscalar : skipScalar c rest with
        | .error problem => .error problem
        | .ok behind =>
          have := skipScalar_length hscalar
          skipFrom .behind frames behind
  | _, [] => .ok text
  | .opened, frame :: frames =>
    match hblanks : skipBlanks text with
    | [] => .error frame.endError
    | c :: rest =>
      have := skipBlanks_cons hblanks
      if c = frame.close then skipFrom .behind frames rest
      else
        match hstart : itemStart frame (c :: rest) with
        | .error problem => .error problem
        | .ok start =>
          have := itemStart_length hstart
          skipFrom .value (frame :: frames) start
  | .behind, frame :: frames =>
    match hblanks : skipBlanks text with
    | [] => .error frame.endError
    | c :: rest =>
      have := skipBlanks_cons hblanks
      if c = frame.close then skipFrom .behind frames rest
      else if c = ',' then
        match hstart : itemStart frame rest with
        | .error problem => .error problem
        | .ok start =>
          have := itemStart_length hstart
          skipFrom .value (frame :: frames) start
      else .error frame.separatorError
-- Only the step from an opened frame to its first item may take no character.
termination_by 2 * text.length + phase.rank
decreasing_by all_goals simp only [SkipPhase.rank, List.length_cons] at *; omega

def skipValue : Reader Unit := fun text => do
  let rest ← skipFrom .value [] text
  .ok ((), rest)

end Json

end IdentCase
