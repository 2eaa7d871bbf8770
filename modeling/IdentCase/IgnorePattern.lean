import IdentCase.Text.Basic

/-!
# Ignore patterns

An ignore pattern names the identifiers that a run leaves alone. `?` stands for one byte, `*` for
any bytes up to a slash, `**` as a whole path component for any bytes, `[a-z]` and `[!a-z]` for one
byte of a class, `{a,b}` for one of several patterns, and a backslash takes the byte behind it
literally. Each `!` in front turns the answer round. Pattern and identifier are compared byte by
byte in UTF-8.

The matcher is a machine with one place to go back to for `*` and one for `**`, and a stack of the
states before the braces that are open, of which the innermost comes first. It takes the longest
alternative of a pair of braces, for which it keeps the furthest position that one reached, and
never returns to a shorter one. No more than ten braces may be open at once. On some patterns with
braces it runs for ever; these accept nothing.
-/

set_option autoImplicit false

namespace IdentCase

namespace IgnorePattern

abbrev Octets := Array Char

def octets (text : String) : Octets := text.toUTF8.data.map fun byte => Char.ofNat byte.toNat

structure Mark where
  pattern : Nat
  subject : Nat
deriving DecidableEq, Repr

def Mark.origin : Mark := ⟨0, 0⟩

/-- Where the machine stands, and where the last `*` and the last `**` let it go on. A return place
with subject position zero is none. -/
structure State where
  pattern : Nat
  subject : Nat
  star : Mark
  globstar : Mark
deriving DecidableEq, Repr

structure Machine where
  state : State
  saved : List State
  longest : Nat
deriving DecidableEq, Repr

inductive Progress where
  | running (machine : Machine)
  | finished (answer : Bool)
deriving DecidableEq, Repr

def globstars (pattern : Octets) (i : Nat) : Nat :=
  if _h : i + 2 < pattern.size then
    if pattern[i] = '/' ∧ pattern[i + 1] = '*' ∧ pattern[i + 2] = '*' then
      globstars pattern (i + 3) + 1
    else 0
  else 0
termination_by pattern.size - i

def literal? (pattern : Octets) (i : Nat) : Option (Char × Bool) :=
  match pattern[i]? with
  | none => none
  | some '\\' =>
    match pattern[i + 1]? with
    | none => none
    | some 'b' => some (Char.ofNat 8, true)
    | some 'n' => some ('\n', true)
    | some 'r' => some ('\r', true)
    | some 't' => some ('\t', true)
    | some c => some (c, true)
  | some c => some (c, false)

/-- Looks for `c` among the members of a class from position `i` on. Answers where the closing
bracket or the end of the pattern is and whether a member was met, or nothing if a member is
malformed. -/
def scanClass (pattern : Octets) (c : Char) (first met : Bool) (i : Nat) : Option (Nat × Bool) :=
  if _h : i < pattern.size then
    if !first && pattern[i] == ']' then some (i, met)
    else
      match literal? pattern i with
      | none => none
      | some (low, escaped) =>
        let j := i + 1 + escaped.toNat
        if pattern[j]? == some '-' && (pattern[j + 1]?).any (· != ']') then
          match literal? pattern (j + 1) with
          | none => none
          | some (high, escapedHigh) =>
            scanClass pattern c false (met || (low ≤ c && c ≤ high)) (j + 2 + escapedHigh.toNat)
        else scanClass pattern c false (met || low == c) j
  else some (i, met)
termination_by pattern.size - i

inductive Skip where
  | comma
  | closed
  | unbalanced
deriving DecidableEq, Repr

def skipAlternative (pattern : Octets) (stopAtComma : Bool) (depth : Nat) (inClass : Bool)
    (i : Nat) :
    Skip × Nat :=
  if _h : i < pattern.size ∧ 0 < depth then
    let c := pattern[i]
    if c == '{' && !inClass then skipAlternative pattern stopAtComma (depth + 1) inClass (i + 1)
    else if c == '}' && !inClass then
      skipAlternative pattern stopAtComma (depth - 1) inClass (i + 1)
    else if c == ',' && stopAtComma && depth == 1 && !inClass then (.comma, i + 1)
    else if c == '*' && !inClass && pattern[i + 1]? == some '*' then
      skipAlternative pattern stopAtComma depth inClass (i + 2 + 3 * globstars pattern (i + 2))
    else if c == '[' && !inClass then skipAlternative pattern stopAtComma depth true (i + 1)
    else if c == ']' then skipAlternative pattern stopAtComma depth false (i + 1)
    else if c == '\\' then skipAlternative pattern stopAtComma depth inClass (i + 2)
    else skipAlternative pattern stopAtComma depth inClass (i + 1)
  else if depth == 0 then (.closed, i)
  else (.unbalanced, i)
termination_by pattern.size - i

def maxBraces : Nat := 10

def bangs (pattern : Octets) : Nat := (pattern.toList.takeWhile (· == '!')).length

def negates (pattern : Octets) : Bool := bangs pattern % 2 == 1

namespace State

def resume? (subject : Octets) (s : State) : Option State :=
  if 0 < s.star.subject ∧ s.star.subject ≤ subject.size then
    some { s with pattern := s.star.pattern, subject := s.star.subject }
  else none

def takeStar (pattern subject : Octets) (s : State) : State :=
  if pattern[s.pattern + 1]? = some '*' then
    let start := s.pattern + 3 * globstars pattern (s.pattern + 2)
    let behind := start + 2
    let star : Mark := ⟨start, s.subject + 1⟩
    if behind = pattern.size then { s with pattern := behind, star, globstar := star }
    else if (behind < 3 || pattern[behind - 3]? == some '/') && pattern[behind]? == some '/' then
      let atComponent :=
        s.subject == 0 || (s.subject < subject.size && subject[s.subject - 1]? == some '/')
      { s with pattern := if atComponent then behind + 1 else behind, star, globstar := star }
    else { s with pattern := behind, star }
  else { s with pattern := s.pattern + 1, star := ⟨s.pattern, s.subject + 1⟩ }

def meetSlash (subject : Octets) (s : State) : State :=
  -- A `*` does not stand for a slash: at one it gives way to the last `**`, or to nothing.
  if s.globstar.subject ≠ s.star.subject ∧ subject[s.subject]? = some '/' then
    if 0 < s.globstar.subject ∧ s.subject + 1 < subject.size then
      { s with
        pattern := s.globstar.pattern
        star := { s.star with pattern := s.globstar.pattern } }
    else { s with star := { s.star with subject := 0 } }
  else s

end State

namespace Machine

def close (m : Machine) : Machine :=
  match m.saved with
  | [] => m
  | outer :: rest =>
    { state := { m.state with subject := m.longest, star := outer.star, globstar := outer.globstar }
      saved := rest
      longest := if rest.isEmpty then 0 else m.longest }

def backtrack (pattern subject : Octets) (negated : Bool) (m : Machine) : Progress :=
  match m.state.resume? subject with
  | some state => .running { m with state }
  | none =>
    match m.saved with
    | [] => .finished negated
    | outer :: rest =>
      match skipAlternative pattern true 1 false m.state.pattern with
      | (.unbalanced, _) => .finished false
      | (.comma, i) =>
        .running { m with state := { m.state with pattern := i, subject := outer.subject } }
      | (.closed, i) =>
        if 0 < m.longest then .running (close { m with state := { m.state with pattern := i } })
        else
          match outer.resume? subject with
          | some state => .running { m with state, saved := rest }
          | none => .finished negated

def passStar (pattern subject : Octets) (m : Machine) : Progress :=
  let s := (m.state.takeStar pattern subject).meetSlash subject
  if !m.saved.isEmpty && (pattern[s.pattern]?).any (fun c => c == ',' || c == '}') then
    match skipAlternative pattern false 1 false s.pattern with
    | (.unbalanced, _) => .finished false
    | (_, i) => .running { m with state := { s with pattern := i } }
  else .running { m with state := s }

def leaveBraces (pattern : Octets) (m : Machine) : Machine :=
  -- A star inside the braces may have led out of them before they were closed.
  if !m.saved.isEmpty && 0 < m.state.pattern && pattern[m.state.pattern - 1]? == some '}' then
    close { m with longest := m.state.subject }
  else m

def matchLiteral (pattern subject : Octets) (negated : Bool) (b : Char) (m : Machine) : Progress :=
  match literal? pattern m.state.pattern with
  | none => .finished false
  | some (c, escaped) =>
    let i := m.state.pattern + escaped.toNat
    let m := { m with state := { m.state with pattern := i } }
    if c = b then
      let m := m.leaveBraces pattern
      let globstar := if c = '/' then m.state.globstar else { m.state.globstar with subject := 0 }
      .running
        { m with
          state :=
            { m.state with
              pattern := i + 1
              subject := m.state.subject + 1
              globstar := globstar } }
    else backtrack pattern subject negated m

def matchClass (pattern subject : Octets) (negated : Bool) (b : Char) (m : Machine) : Progress :=
  let i := m.state.pattern + 1
  let except := (pattern[i]?).any fun c => c == '^' || c == '!'
  match scanClass pattern b true false (if except then i + 1 else i) with
  | none => .finished false
  | some (j, met) =>
    if j < pattern.size then
      let m := { m with state := { m.state with pattern := j + 1 } }
      if met != except then
        .running { m with state := { m.state with subject := m.state.subject + 1 } }
      else backtrack pattern subject negated m
    else .finished false

def step (pattern subject : Octets) (negated : Bool) (m : Machine) : Progress :=
  match pattern[m.state.pattern]?, subject[m.state.subject]? with
  | none, none => .finished (!negated)
  | none, some _ => backtrack pattern subject negated m
  | some c, next =>
    if c = '*' then passStar pattern subject m
    else if c = '}' ∧ !m.saved.isEmpty then
      .running (close
        { m with
          state := { m.state with pattern := m.state.pattern + 1 }
          longest := max m.longest m.state.subject })
    else if c = ',' ∧ !m.saved.isEmpty then
      .running
        { m with
          state :=
            { pattern := m.state.pattern + 1
              subject := (m.saved.head?.map State.subject).getD 0
              star := .origin
              globstar := .origin }
          longest := max m.longest m.state.subject }
    else
      match next with
      | none => backtrack pattern subject negated m
      | some b =>
        if c = '?' then
          if b = '/' then backtrack pattern subject negated m
          else
            .running
              { m with
                state :=
                  { m.state with
                    pattern := m.state.pattern + 1
                    subject := m.state.subject + 1 } }
        else if c = '[' then matchClass pattern subject negated b m
        else if c = '{' then
          if m.saved.length < maxBraces then
            .running
              { m with
                state := ⟨m.state.pattern + 1, m.state.subject, .origin, .origin⟩
                saved := m.state :: m.saved }
          else .finished false
        else matchLiteral pattern subject negated b m

def start (pattern : Octets) : Machine := ⟨⟨bangs pattern, 0, .origin, .origin⟩, [], 0⟩

def run (pattern subject : Octets) (negated : Bool) : Nat → Machine → Option Bool
  | 0, _ => none
  | steps + 1, m =>
    match m.step pattern subject negated with
    | .finished answer => some answer
    | .running next => run pattern subject negated steps next

end Machine

def stepBound (pattern subject : Octets) : Nat :=
  -- There are no more machines whose positions lie within pattern and subject. A longer run meets
  -- one of them twice and never ends.
  let marks := (pattern.size + 1) * (subject.size + 2)
  let states := marks * marks * marks
  Nat.pow (states + 1) maxBraces * states * (subject.size + 2)

def answer? (pattern subject : String) : Option Bool :=
  let octs := octets pattern
  let name := octets subject
  Machine.run octs name (negates octs) (stepBound octs name) (.start octs)

def accepts (pattern subject : String) : Bool := answer? pattern subject == some true

end IgnorePattern

end IdentCase
