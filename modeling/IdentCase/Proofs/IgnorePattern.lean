import Mathlib.Data.Finset.Card
import Mathlib.Logic.Function.Iterate
import IdentCase.IgnorePattern

/-!
# How long the matching machine runs

All positions of a machine stay within pattern and subject, so there are only finitely many machines
that a run can meet. A run that meets one of them twice goes on for ever. Hence a run that has found
no answer within as many steps as there are machines will never find one, and the bound of the
matcher loses no answer.
-/

set_option autoImplicit false

namespace IdentCase.IgnorePattern

/-! ## Positions stay within pattern and subject -/

structure Mark.Within (k n : Nat) (mark : Mark) : Prop where
  pattern : mark.pattern ≤ k
  subject : mark.subject ≤ n + 1

structure State.Within (k n : Nat) (s : State) : Prop where
  pattern : s.pattern ≤ k
  subject : s.subject ≤ n
  star : s.star.Within k n
  globstar : s.globstar.Within k n

structure Machine.Within (k n : Nat) (m : Machine) : Prop where
  state : m.state.Within k n
  saved : ∀ s ∈ m.saved, s.Within k n
  depth : m.saved.length ≤ maxBraces
  longest : m.longest ≤ n

def Progress.Within (k n : Nat) : Progress → Prop
  | .running m => m.Within k n
  | .finished _ => True

variable {pattern subject : Octets} {negated : Bool}

theorem origin_within (k n : Nat) : Mark.origin.Within k n := ⟨Nat.zero_le _, Nat.zero_le _⟩

theorem lt_size_of_getElem? {octs : Octets} {i : Nat} {c : Char} (h : octs[i]? = some c) :
    i < octs.size :=
  (Array.getElem?_eq_some_iff.mp h).1

theorem globstars_within (pattern : Octets) (i : Nat) (h : i ≤ pattern.size) :
    i + 3 * globstars pattern i ≤ pattern.size := by
  fun_induction globstars pattern i with
  | case1 i hi hstars ih =>
    have hrest := ih (by omega)
    omega
  | case2 => omega
  | case3 => omega

theorem literal?_within {i : Nat} {c : Char} {escaped : Bool}
    (h : literal? pattern i = some (c, escaped)) : i + escaped.toNat < pattern.size := by
  unfold literal? at h
  split at h
  · cases h
  · split at h
    · cases h
    all_goals
      cases h
      exact lt_size_of_getElem? ‹pattern[i + 1]? = _›
  · cases h
    exact lt_size_of_getElem? ‹pattern[i]? = _›

/-- The end of an alternative lies in the pattern, since only a brace or a comma ends one. -/
theorem skipAlternative_within (stopAtComma : Bool) (depth : Nat) (inClass : Bool) (i : Nat)
    (hstart : 0 < depth ∨ i ≤ pattern.size) {skip : Skip} {j : Nat}
    (h : skipAlternative pattern stopAtComma depth inClass i = (skip, j))
    (hbalanced : skip ≠ .unbalanced) : j ≤ pattern.size := by
  fun_induction skipAlternative pattern stopAtComma depth inClass i with
  | case1 depth inClass i hi c hopens ih => exact ih (.inl (Nat.succ_pos depth)) h
  | case2 depth inClass i hi c _ hcloses ih => exact ih (.inr hi.1) h
  | case3 depth inClass i hi => cases h; exact hi.1
  | case4 depth inClass i hi c _ _ _ _ ih => exact ih (.inl hi.2) h
  | case5 depth inClass i hi c _ _ _ _ _ ih => exact ih (.inl hi.2) h
  | case6 depth inClass i hi c _ _ _ _ _ _ ih => exact ih (.inl hi.2) h
  | case7 depth inClass i hi c _ _ _ _ _ _ _ ih => exact ih (.inl hi.2) h
  | case8 depth inClass i hi c _ _ _ _ _ _ _ ih => exact ih (.inl hi.2) h
  | case9 depth inClass i hi hclosed =>
    cases h
    rw [beq_iff_eq] at hclosed
    omega
  | case10 => cases h; exact absurd rfl hbalanced

namespace State

theorem Within.resume {s t : State} (h : s.Within pattern.size subject.size)
    (ht : s.resume? subject = some t) : t.Within pattern.size subject.size := by
  unfold resume? at ht
  split at ht
  · rename_i hresumes
    cases ht
    exact ⟨h.star.pattern, hresumes.2, h.star, h.globstar⟩
  · cases ht

theorem Within.takeStar {s : State} (h : s.Within pattern.size subject.size)
    (hs : s.pattern < pattern.size) :
    (s.takeStar pattern subject).Within pattern.size subject.size := by
  have hsubject := h.subject
  unfold State.takeStar
  split
  · rename_i hdouble
    have hnext := lt_size_of_getElem? hdouble
    have hstars := globstars_within pattern (s.pattern + 2) (by omega)
    have hstar : Mark.Within pattern.size subject.size
        ⟨s.pattern + 3 * globstars pattern (s.pattern + 2), s.subject + 1⟩ :=
      ⟨by dsimp only; omega, by dsimp only; omega⟩
    dsimp only
    split
    · exact ⟨by dsimp only; omega, hsubject, hstar, hstar⟩
    · split
      · rename_i hcomponent
        rw [Bool.and_eq_true, beq_iff_eq] at hcomponent
        have hslash := lt_size_of_getElem? hcomponent.2
        refine ⟨?_, hsubject, hstar, hstar⟩
        dsimp only
        split <;> omega
      · exact ⟨by dsimp only; omega, hsubject, hstar, h.globstar⟩
  · exact ⟨hs, hsubject, ⟨h.pattern, by dsimp only; omega⟩, h.globstar⟩

theorem Within.meetSlash {s : State} (h : s.Within pattern.size subject.size) :
    (s.meetSlash subject).Within pattern.size subject.size := by
  unfold State.meetSlash
  split
  · split
    · exact ⟨h.globstar.pattern, h.subject, ⟨h.globstar.pattern, h.star.subject⟩, h.globstar⟩
    · exact ⟨h.pattern, h.subject, ⟨h.star.pattern, Nat.zero_le _⟩, h.globstar⟩
  · exact h

end State

namespace Machine

theorem close_within {m : Machine} {k n : Nat} (h : m.Within k n) : m.close.Within k n := by
  unfold close
  split
  · exact h
  · rename_i outer rest hsaved
    have houter := h.saved outer (by simp [hsaved])
    have hdepth := h.depth
    rw [hsaved, List.length_cons] at hdepth
    refine ⟨⟨h.state.pattern, h.longest, houter.star, houter.globstar⟩,
      fun s hs => h.saved s (by simp [hsaved, hs]), by dsimp only; omega, ?_⟩
    dsimp only
    split
    · exact Nat.zero_le _
    · exact h.longest

/-- A machine that only goes on to another state. -/
theorem Within.goTo {m : Machine} {k n : Nat} (h : m.Within k n) {s : State} (hs : s.Within k n) :
    Machine.Within k n { m with state := s } :=
  ⟨hs, h.saved, h.depth, h.longest⟩

theorem backtrack_within {m : Machine} (h : m.Within pattern.size subject.size) :
    (m.backtrack pattern subject negated).Within pattern.size subject.size := by
  unfold backtrack
  split
  · rename_i t ht
    exact h.goTo (h.state.resume ht)
  · split
    · trivial
    · rename_i outer rest hsaved
      have houter := h.saved outer (by simp [hsaved])
      split
      · trivial
      · rename_i i hskip
        have hi := skipAlternative_within true 1 false m.state.pattern (.inl Nat.one_pos) hskip
          (by decide)
        exact h.goTo ⟨hi, houter.subject, h.state.star, h.state.globstar⟩
      · rename_i i hskip
        have hi := skipAlternative_within true 1 false m.state.pattern (.inl Nat.one_pos) hskip
          (by decide)
        split
        · exact close_within (h.goTo ⟨hi, h.state.subject, h.state.star, h.state.globstar⟩)
        · split
          · rename_i t ht
            have hdepth := h.depth
            rw [hsaved, List.length_cons] at hdepth
            exact ⟨houter.resume ht, fun s hs => h.saved s (by simp [hsaved, hs]),
              by dsimp only; omega, h.longest⟩
          · trivial

theorem passStar_within {m : Machine} (h : m.Within pattern.size subject.size)
    (hm : m.state.pattern < pattern.size) :
    (m.passStar pattern subject).Within pattern.size subject.size := by
  have hs := (h.state.takeStar hm).meetSlash
  unfold passStar
  dsimp only
  split
  · split
    · trivial
    · rename_i i hbalanced hskip
      have hi := skipAlternative_within false 1 false _ (.inl Nat.one_pos) hskip hbalanced
      exact h.goTo ⟨hi, hs.subject, hs.star, hs.globstar⟩
  · exact h.goTo hs

theorem leaveBraces_within {m : Machine} {n : Nat} (h : m.Within pattern.size n) :
    (m.leaveBraces pattern).Within pattern.size n := by
  unfold leaveBraces
  split
  · exact close_within ⟨h.state, h.saved, h.depth, h.state.subject⟩
  · exact h

theorem leaveBraces_subject (m : Machine) :
    (m.leaveBraces pattern).state.subject = m.state.subject := by
  unfold leaveBraces
  split
  · unfold close
    split <;> rfl
  · rfl

theorem matchLiteral_within {m : Machine} {b : Char} (h : m.Within pattern.size subject.size)
    (hb : subject[m.state.subject]? = some b) :
    (m.matchLiteral pattern subject negated b).Within pattern.size subject.size := by
  have hsubject := lt_size_of_getElem? hb
  unfold matchLiteral
  split
  · trivial
  · rename_i c escaped hliteral
    have hi := literal?_within hliteral
    have hmoved := h.goTo (s := { m.state with pattern := m.state.pattern + escaped.toNat })
      ⟨Nat.le_of_lt hi, h.state.subject, h.state.star, h.state.globstar⟩
    have hleft := leaveBraces_within hmoved
    dsimp only
    split
    · refine hleft.goTo ⟨hi, ?_, hleft.state.star, ?_⟩
      · dsimp only
        rw [leaveBraces_subject]
        exact hsubject
      · dsimp only
        split
        · exact hleft.state.globstar
        · exact ⟨hleft.state.globstar.pattern, Nat.zero_le _⟩
    · exact backtrack_within hmoved

theorem matchClass_within {m : Machine} {b : Char} (h : m.Within pattern.size subject.size)
    (hb : subject[m.state.subject]? = some b) :
    (m.matchClass pattern subject negated b).Within pattern.size subject.size := by
  have hsubject := lt_size_of_getElem? hb
  unfold matchClass
  dsimp only
  split
  · trivial
  · split
    · rename_i hj
      split
      · exact h.goTo ⟨hj, hsubject, h.state.star, h.state.globstar⟩
      · exact backtrack_within (h.goTo ⟨hj, h.state.subject, h.state.star, h.state.globstar⟩)
    · trivial

/-- One step keeps all positions within pattern and subject. -/
theorem step_within {m : Machine} (h : m.Within pattern.size subject.size) :
    (m.step pattern subject negated).Within pattern.size subject.size := by
  unfold step
  split
  · trivial
  · exact backtrack_within h
  · rename_i c hc
    have hpattern := lt_size_of_getElem? hc
    have hlongest : max m.longest m.state.subject ≤ subject.size :=
      Nat.max_le.mpr ⟨h.longest, h.state.subject⟩
    split
    · exact passStar_within h hpattern
    split
    · have hmoved := h.goTo (s := { m.state with pattern := m.state.pattern + 1 })
        ⟨hpattern, h.state.subject, h.state.star, h.state.globstar⟩
      exact close_within ⟨hmoved.state, hmoved.saved, hmoved.depth, hlongest⟩
    split
    · refine ⟨⟨hpattern, ?_, origin_within _ _, origin_within _ _⟩, h.saved, h.depth, hlongest⟩
      cases hsaved : m.saved with
      | nil => exact Nat.zero_le _
      | cons outer rest => exact (h.saved outer (by simp [hsaved])).subject
    split
    · exact backtrack_within h
    · rename_i b hb
      have hsubject := lt_size_of_getElem? hb
      split
      · split
        · exact backtrack_within h
        · exact h.goTo ⟨hpattern, hsubject, h.state.star, h.state.globstar⟩
      split
      · exact matchClass_within h hb
      split
      · split
        · rename_i hdepth
          refine ⟨⟨hpattern, h.state.subject, origin_within _ _, origin_within _ _⟩, ?_, hdepth,
            h.longest⟩
          intro s hs
          rcases List.mem_cons.mp hs with rfl | hs
          · exact h.state
          · exact h.saved s hs
        · trivial
      · exact matchLiteral_within h hb

end Machine

/-! ## Machines as numbers -/

theorem pair_lt {a b k n : Nat} (ha : a < k) (hb : b < n) : a * n + b < k * n :=
  calc
    a * n + b < a * n + n := Nat.add_lt_add_left hb _
    _ = (a + 1) * n := (Nat.succ_mul a n).symm
    _ ≤ k * n := Nat.mul_le_mul_right n ha

theorem pair_inj {a b c d n : Nat} (hb : b < n) (hd : d < n) (h : a * n + b = c * n + d) :
    a = c ∧ b = d := by
  have hlast : b = d := by
    have hmod := congrArg (· % n) h
    simpa [Nat.mul_add_mod', Nat.mod_eq_of_lt hb, Nat.mod_eq_of_lt hd] using hmod
  subst hlast
  exact ⟨Nat.eq_of_mul_eq_mul_right (by omega) (Nat.add_right_cancel h), rfl⟩

variable (k n : Nat)

def Mark.code (mark : Mark) : Nat := mark.pattern * (n + 2) + mark.subject

def markCount : Nat := (k + 1) * (n + 2)

def State.code (s : State) : Nat :=
  (Mark.code n ⟨s.pattern, s.subject⟩ * markCount k n + s.star.code n) * markCount k n +
    s.globstar.code n

def stateCount : Nat := markCount k n * markCount k n * markCount k n

def savedCode : List State → Nat
  | [] => 0
  | s :: rest => savedCode rest * (stateCount k n + 1) + (s.code k n + 1)

def Machine.code (m : Machine) : Nat :=
  (savedCode k n m.saved * stateCount k n + m.state.code k n) * (n + 2) + m.longest

variable {k n}

theorem Mark.code_lt {mark : Mark} (h : mark.Within k n) : mark.code n < markCount k n :=
  pair_lt (Nat.lt_succ_of_le h.pattern) (Nat.lt_succ_of_le h.subject)

theorem Mark.code_inj {a b : Mark} (ha : a.Within k n) (hb : b.Within k n)
    (h : a.code n = b.code n) : a = b := by
  obtain ⟨hpattern, hsubject⟩ :=
    pair_inj (Nat.lt_succ_of_le ha.subject) (Nat.lt_succ_of_le hb.subject) h
  cases a
  cases b
  simp_all

theorem State.Within.place {s : State} (h : s.Within k n) :
    Mark.Within k n ⟨s.pattern, s.subject⟩ :=
  ⟨h.pattern, Nat.le_succ_of_le h.subject⟩

theorem State.code_lt {s : State} (h : s.Within k n) : s.code k n < stateCount k n :=
  pair_lt (pair_lt (Mark.code_lt h.place) (Mark.code_lt h.star)) (Mark.code_lt h.globstar)

theorem State.code_inj {s t : State} (hs : s.Within k n) (ht : t.Within k n)
    (h : s.code k n = t.code k n) : s = t := by
  obtain ⟨hfirst, hglobstar⟩ := pair_inj (Mark.code_lt hs.globstar) (Mark.code_lt ht.globstar) h
  obtain ⟨hplace, hstar⟩ := pair_inj (Mark.code_lt hs.star) (Mark.code_lt ht.star) hfirst
  have hplace := Mark.code_inj hs.place ht.place hplace
  have hstar := Mark.code_inj hs.star ht.star hstar
  have hglobstar := Mark.code_inj hs.globstar ht.globstar hglobstar
  cases s
  cases t
  simp_all

theorem savedCode_lt {saved : List State} (h : ∀ s ∈ saved, s.Within k n) :
    savedCode k n saved < Nat.pow (stateCount k n + 1) saved.length := by
  induction saved with
  | nil => exact Nat.one_pos
  | cons s rest ih =>
    exact pair_lt (ih fun t ht => h t (List.mem_cons_of_mem s ht))
      (Nat.succ_lt_succ (State.code_lt (h s List.mem_cons_self)))

theorem savedCode_inj {saved other : List State} (hs : ∀ s ∈ saved, s.Within k n)
    (ho : ∀ s ∈ other, s.Within k n) (h : savedCode k n saved = savedCode k n other) :
    saved = other := by
  induction saved generalizing other with
  | nil =>
    cases other with
    | nil => rfl
    | cons t more => simp [savedCode] at h
  | cons s rest ih =>
    cases other with
    | nil => simp [savedCode] at h
    | cons t more =>
      have hsw := hs s List.mem_cons_self
      have htw := ho t List.mem_cons_self
      obtain ⟨hrest, hfirst⟩ := pair_inj (Nat.succ_lt_succ (State.code_lt hsw))
        (Nat.succ_lt_succ (State.code_lt htw)) h
      rw [State.code_inj hsw htw (Nat.succ.inj hfirst),
        ih (fun s' hs' => hs s' (List.mem_cons_of_mem s hs'))
          (fun t' ht' => ho t' (List.mem_cons_of_mem t ht')) hrest]

namespace Machine

theorem code_lt {m : Machine} (h : m.Within pattern.size subject.size) :
    m.code pattern.size subject.size < stepBound pattern subject := by
  have hdepth : Nat.pow (stateCount pattern.size subject.size + 1) m.saved.length ≤
      Nat.pow (stateCount pattern.size subject.size + 1) maxBraces :=
    Nat.pow_le_pow_right (Nat.succ_pos _) h.depth
  exact pair_lt (pair_lt (Nat.lt_of_lt_of_le (savedCode_lt h.saved) hdepth) (State.code_lt h.state))
    (Nat.lt_succ_of_le (Nat.le_succ_of_le h.longest))

theorem code_inj {a b : Machine} (ha : a.Within k n) (hb : b.Within k n)
    (h : a.code k n = b.code k n) : a = b := by
  have hlongest {m : Machine} (hm : m.Within k n) : m.longest < n + 2 :=
    Nat.lt_succ_of_le (Nat.le_succ_of_le hm.longest)
  obtain ⟨hfirst, hlast⟩ := pair_inj (hlongest ha) (hlongest hb) h
  obtain ⟨hsaved, hstate⟩ := pair_inj (State.code_lt ha.state) (State.code_lt hb.state) hfirst
  have hstate := State.code_inj ha.state hb.state hstate
  have hsaved := savedCode_inj ha.saved hb.saved hsaved
  cases a
  cases b
  simp_all

end Machine

/-! ## Runs -/

namespace Progress

def advance (pattern subject : Octets) (negated : Bool) : Progress → Progress
  | running m => m.step pattern subject negated
  | finished answer => finished answer

def answer? : Progress → Option Bool
  | running _ => none
  | finished answer => some answer

def code (k n : Nat) : Progress → Nat
  | running m => m.code k n
  | finished _ => 0

variable {x : Progress} {answer : Bool}

theorem answer?_iff : x.answer? = some answer ↔ x = finished answer := by
  cases x with
  | running m => simp [answer?]
  | finished other => simp [answer?]

theorem iterate_within (negated : Bool) (h : x.Within pattern.size subject.size) (i : Nat) :
    ((advance pattern subject negated)^[i] x).Within pattern.size subject.size := by
  induction i with
  | zero => exact h
  | succ i ih =>
    rw [Function.iterate_succ_apply']
    cases hx : (advance pattern subject negated)^[i] x with
    | running m =>
      rw [hx] at ih
      exact Machine.step_within ih
    | finished answer => trivial

theorem iterate_finished {i j : Nat} (hij : i ≤ j)
    (h : (advance pattern subject negated)^[i] x = finished answer) :
    (advance pattern subject negated)^[j] x = finished answer := by
  obtain ⟨more, rfl⟩ := Nat.exists_eq_add_of_le' hij
  rw [Function.iterate_add_apply, h]
  exact Function.iterate_fixed rfl more

/-- What comes back does not end, unless it has ended. -/
theorem finished_of_loop {i period : Nat} (hperiod : 0 < period)
    (hloop : (advance pattern subject negated)^[period] x = x)
    (h : (advance pattern subject negated)^[i] x = finished answer) : x = finished answer := by
  have hrounds : (advance pattern subject negated)^[period * i] x = x := by
    rw [Function.iterate_mul]
    exact Function.iterate_fixed hloop i
  rw [← hrounds]
  exact iterate_finished (Nat.le_mul_of_pos_left i hperiod) h

/-- More machines than there are numbers for them: two are the same. -/
theorem exists_repetition (hx : x.Within pattern.size subject.size)
    (hrunning : ∀ j ≤ stepBound pattern subject,
      ∃ m, (advance pattern subject negated)^[j] x = running m) :
    ∃ j period, j ≤ stepBound pattern subject ∧ 0 < period ∧
      (advance pattern subject negated)^[period] ((advance pattern subject negated)^[j] x) =
        (advance pattern subject negated)^[j] x := by
  let number (j : Nat) : Nat :=
    ((advance pattern subject negated)^[j] x).code pattern.size subject.size
  have hnumber (j : Nat) (hj : j ≤ stepBound pattern subject) :
      number j < stepBound pattern subject := by
    obtain ⟨m, hm⟩ := hrunning j hj
    have hwithin := iterate_within negated hx j
    simp only [number, hm] at hwithin ⊢
    exact Machine.code_lt hwithin
  have hsame (i j : Nat) (hi : i ≤ stepBound pattern subject) (hj : j ≤ stepBound pattern subject)
      (h : number i = number j) :
      (advance pattern subject negated)^[i] x = (advance pattern subject negated)^[j] x := by
    obtain ⟨a, ha⟩ := hrunning i hi
    obtain ⟨b, hb⟩ := hrunning j hj
    have hwithin := iterate_within negated hx i
    have hwithin' := iterate_within negated hx j
    simp only [number, ha, hb] at hwithin hwithin' h ⊢
    rw [Machine.code_inj hwithin hwithin' h]
  obtain ⟨i, hi, j, hj, hne, hcode⟩ := Finset.exists_ne_map_eq_of_card_lt_of_maps_to
    (s := Finset.range (stepBound pattern subject + 1))
    (t := Finset.range (stepBound pattern subject)) (f := number) (by simp)
    fun j hj => Finset.mem_range.mpr (hnumber j (Finset.mem_range_succ_iff.mp hj))
  rw [Finset.mem_range_succ_iff] at hi hj
  rcases Nat.lt_or_gt_of_ne hne with hlt | hlt
  · refine ⟨i, j - i, hi, Nat.sub_pos_of_lt hlt, ?_⟩
    rw [← Function.iterate_add_apply, Nat.sub_add_cancel (Nat.le_of_lt hlt)]
    exact (hsame i j hi hj hcode).symm
  · refine ⟨j, i - j, hj, Nat.sub_pos_of_lt hlt, ?_⟩
    rw [← Function.iterate_add_apply, Nat.sub_add_cancel (Nat.le_of_lt hlt)]
    exact hsame i j hi hj hcode

/-- What ends at all ends within the bound. -/
theorem finished_within_bound (hx : x.Within pattern.size subject.size) {i : Nat}
    (h : (advance pattern subject negated)^[i] x = finished answer) :
    (advance pattern subject negated)^[stepBound pattern subject] x = finished answer := by
  by_contra hbound
  have hrunning (j : Nat) (hj : j ≤ stepBound pattern subject) :
      ∃ m, (advance pattern subject negated)^[j] x = running m := by
    cases hm : (advance pattern subject negated)^[j] x with
    | running m => exact ⟨m, rfl⟩
    | finished other =>
      have hsame := iterate_finished (Nat.le_max_left j i) hm
      rw [iterate_finished (Nat.le_max_right j i) h] at hsame
      cases hsame
      exact absurd (iterate_finished hj hm) hbound
  obtain ⟨j, period, hj, hperiod, hloop⟩ := exists_repetition hx hrunning
  have hlater : (advance pattern subject negated)^[i] ((advance pattern subject negated)^[j] x) =
      finished answer := by
    rw [← Function.iterate_add_apply]
    exact iterate_finished (Nat.le_add_right i j) h
  obtain ⟨m, hm⟩ := hrunning j hj
  have hfinished := finished_of_loop hperiod hloop hlater
  rw [hm] at hfinished
  cases hfinished

end Progress

theorem Machine.run_eq (m : Machine) (steps : Nat) :
    run pattern subject negated steps m =
      ((Progress.advance pattern subject negated)^[steps] (.running m)).answer? := by
  induction steps generalizing m with
  | zero => rfl
  | succ steps ih =>
    rw [run, Function.iterate_succ_apply, Progress.advance]
    split
    · rename_i answer hfinished
      rw [hfinished, Function.iterate_fixed rfl]
      rfl
    · rename_i next hnext
      rw [hnext]
      exact ih next

theorem Machine.run_iff (m : Machine) (steps : Nat) (answer : Bool) :
    run pattern subject negated steps m = some answer ↔
      (Progress.advance pattern subject negated)^[steps] (.running m) = .finished answer := by
  rw [run_eq, Progress.answer?_iff]

theorem start_within (pattern subject : Octets) :
    (Machine.start pattern).Within pattern.size subject.size := by
  have hbangs : bangs pattern ≤ pattern.size := (List.takeWhile_sublist (· == '!')).length_le
  exact ⟨⟨hbangs, Nat.zero_le _, origin_within _ _, origin_within _ _⟩, by simp [Machine.start],
    Nat.zero_le _, Nat.zero_le _⟩

/-- The matcher has an answer exactly when its machine comes to one in any number of steps. -/
theorem answer?_eq_some_iff (pattern subject : String) (answer : Bool) :
    answer? pattern subject = some answer ↔
      ∃ steps, Machine.run (octets pattern) (octets subject) (negates (octets pattern)) steps
        (.start (octets pattern)) = some answer := by
  constructor
  · intro h
    exact ⟨_, h⟩
  · rintro ⟨steps, h⟩
    have hx : (Progress.running (.start (octets pattern))).Within (octets pattern).size
        (octets subject).size := start_within _ _
    rw [Machine.run_iff] at h
    exact (Machine.run_iff _ _ _).mpr (Progress.finished_within_bound hx h)

-- Inside the outer braces, the first alternative has left a place to which the inner ones send the
-- machine back whenever they fail.
example : answer? "\x7b[/],/**/\x7bx,y\x7d*\x7d" "/a/b/c" = none := by
  let pattern := octets "\x7b[/],/**/\x7bx,y\x7d*\x7d"
  let next := Progress.advance pattern (octets "/a/b/c") (negates pattern)
  let m : Machine := ⟨⟨8, 2, ⟨6, 3⟩, ⟨6, 3⟩⟩, [⟨0, 0, .origin, .origin⟩], 1⟩
  have hstart : next^[12] (.running (.start pattern)) = .running m := by decide +kernel
  have hloop : next^[20] (.running m) = .running m := by decide +kernel
  rw [Option.eq_none_iff_forall_ne_some]
  intro answer h
  have hend := Progress.iterate_finished (Nat.le_add_right _ 12) ((Machine.run_iff _ _ _).mp h)
  rw [Function.iterate_add_apply] at hend
  have hfinished : Progress.running m = .finished answer :=
    Progress.finished_of_loop (by decide) hloop (hstart ▸ hend)
  cases hfinished

end IdentCase.IgnorePattern
