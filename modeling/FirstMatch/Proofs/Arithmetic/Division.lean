import FirstMatch.Proofs.Arithmetic.Evaluation

/-!
# Division toward zero

Seen from the remainder there are no cases: it is smaller than the divisor and lies on the
same side of zero as the dividend.  Two such remainders differ by less than the divisor, so
only one number can be the quotient.
-/

namespace FirstMatch.Arithmetic

structure Truncated (left right q : Int) : Prop where
  small : (left - right * q).natAbs < right.natAbs
  side : left - right * q = 0 ∨ (left - right * q).sign = left.sign

instance (left right q : Int) : Decidable (Truncated left right q) :=
  decidable_of_iff (_ ∧ _)
    ⟨fun ⟨hsmall, hside⟩ => ⟨hsmall, hside⟩, fun h => ⟨h.small, h.side⟩⟩

variable {left right p q : Int}

namespace Truncated

theorem ne_zero (h : Truncated left right q) : right ≠ 0 := by
  rintro rfl
  exact absurd h.small (Nat.not_lt_zero _)

theorem tdiv (hright : right ≠ 0) (left : Int) :
    Truncated left right (left.tdiv right) := by
  have hremainder : left - right * left.tdiv right = left.tmod right :=
    (Int.tmod_def left right).symm
  constructor
  · rw [hremainder, Int.natAbs_tmod]
    exact Nat.mod_lt _ (Int.natAbs_pos.mpr hright)
  · rw [hremainder, Int.sign_tmod]
    by_cases hdvd : right ∣ left
    · exact .inl (Int.tmod_eq_zero_of_dvd hdvd)
    · exact .inr (if_neg hdvd)

/-- Both remainders lie on the same side of zero, so their difference is smaller than
the divisor, too. -/
theorem natAbs_sub_lt (hp : Truncated left right p) (hq : Truncated left right q) :
    ((left - right * p) - (left - right * q)).natAbs < right.natAbs := by
  obtain ⟨hsmall, hside⟩ := hp
  obtain ⟨hsmall', hside'⟩ := hq
  generalize left - right * p = r at *
  generalize left - right * q = s at *
  -- with the sign of `left` known, `hside` and `hside'` bound both remainders by zero
  rcases Int.lt_trichotomy left 0 with hleft | hleft | hleft
  · rw [Int.sign_eq_neg_one_of_neg hleft, Int.sign_eq_neg_one_iff_neg] at hside hside'
    omega
  · rw [hleft, Int.sign_zero, Int.sign_eq_zero_iff_zero] at hside hside'
    omega
  · rw [Int.sign_eq_one_of_pos hleft, Int.sign_eq_one_iff_pos] at hside hside'
    omega

theorem unique (hp : Truncated left right p) (hq : Truncated left right q) :
    p = q := by
  have hdvd : right ∣ (left - right * p) - (left - right * q) :=
    ⟨q - p, by rw [Int.mul_sub]; omega⟩
  have hzero := Int.eq_zero_of_dvd_of_natAbs_lt_natAbs hdvd (hp.natAbs_sub_lt hq)
  have hmul : right * p = right * q := by omega
  exact Int.eq_of_mul_eq_mul_left hp.ne_zero hmul

example : Truncated (-7) 2 (-3) ∧ ¬ Truncated (-7) 2 (-4) := by decide

theorem neg_left (h : Truncated left right q) : Truncated (-left) right (-q) := by
  have hremainder : -left - right * -q = -(left - right * q) := by
    rw [Int.mul_neg]
    omega
  constructor
  · rw [hremainder, Int.natAbs_neg]
    exact h.small
  · rw [hremainder, Int.sign_neg, Int.sign_neg]
    exact h.side.imp Int.neg_eq_zero.mpr (congrArg _)

theorem neg_right (h : Truncated left right q) : Truncated left (-right) (-q) := by
  have hremainder : left - -right * -q = left - right * q := by
    rw [Int.neg_mul_neg]
  constructor
  · rw [hremainder, Int.natAbs_neg]
    exact h.small
  · rw [hremainder]
    exact h.side

end Truncated

theorem quotient_eq (left right : Int) :
    quotient left right =
      if right = 0 then .error .divisionByZero else .ok (left.tdiv right) := by
  unfold quotient
  rw [quotient?_eq_tdiv]
  by_cases hright : right = 0
  · simp [hright]
  · simp [hright]

theorem quotient_eq_ok_iff : quotient left right = .ok q ↔ Truncated left right q := by
  rw [quotient_eq]
  by_cases hright : right = 0
  · rw [if_pos hright]
    constructor
    · intro h
      cases h
    · intro h
      exact absurd hright h.ne_zero
  · rw [if_neg hright, Except.ok.injEq]
    constructor
    · rintro rfl
      exact .tdiv hright left
    · exact (Truncated.tdiv hright left).unique

theorem quotient_eq_error_iff {fault : Fault} :
    quotient left right = .error fault ↔ right = 0 ∧ fault = .divisionByZero := by
  rw [quotient_eq]
  by_cases hright : right = 0
  · simp [hright, eq_comm]
  · simp [hright]

theorem quotient_eq_map_neg {left' right' : Int} (hzero : right = 0 → right' = 0)
    (hneg : ∀ q, Truncated left right q → Truncated left' right' (-q)) :
    quotient left' right' = (quotient left right).map (-·) := by
  cases hquotient : quotient left right with
  | ok q => exact quotient_eq_ok_iff.mpr (hneg q (quotient_eq_ok_iff.mp hquotient))
  | error fault =>
      obtain ⟨hright, rfl⟩ := quotient_eq_error_iff.mp hquotient
      exact quotient_eq_error_iff.mpr ⟨hzero hright, rfl⟩

/-- The quotient is the only number that leaves a remainder which is smaller than the divisor
and is zero or has the sign of the dividend.  So if one of the two numbers changes its sign, the
quotient does. -/
theorem quotient_truncates (left right : Int) :
    (quotient left right = .error .divisionByZero ↔ right = 0) ∧
    (right ≠ 0 →
      ∃ q, quotient left right = .ok q ∧ ∀ p, Truncated left right p ↔ p = q) ∧
    quotient (-left) right = (quotient left right).map (-·) ∧
    quotient left (-right) = (quotient left right).map (-·) := by
  refine ⟨by simp [quotient_eq_error_iff], ?_, ?_, ?_⟩
  · intro hright
    have htdiv := Truncated.tdiv hright left
    refine ⟨_, quotient_eq_ok_iff.mpr htdiv, ?_⟩
    intro p
    constructor
    · intro hp
      exact hp.unique htdiv
    · rintro rfl
      exact htdiv
  · exact quotient_eq_map_neg id fun _ h => h.neg_left
  · exact quotient_eq_map_neg Int.neg_eq_zero.mpr fun _ h => h.neg_right

theorem quotient_truncates_unlike_signs :
    (-3 : Int) ≠ 0 ∧
    (∃ q, quotient 0 (-3) = .ok q ∧ ∀ p, Truncated 0 (-3) p ↔ p = q) ∧
    quotient 0 (-3) = .ok 0 ∧
    (-2 : Int) ≠ 0 ∧
    (∃ q, quotient 100000000000000000001 (-2) = .ok q ∧
      ∀ p, Truncated 100000000000000000001 (-2) p ↔ p = q) ∧
    quotient 100000000000000000001 (-2) = .ok (-50000000000000000000) := by
  have hthree : (-3 : Int) ≠ 0 := by decide
  have htwo : (-2 : Int) ≠ 0 := by decide
  exact ⟨hthree, (quotient_truncates 0 (-3)).2.1 hthree, by decide, htwo,
    (quotient_truncates 100000000000000000001 (-2)).2.1 htwo, by decide⟩

end FirstMatch.Arithmetic
