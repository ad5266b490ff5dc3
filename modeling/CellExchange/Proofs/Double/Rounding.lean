import CellExchange.Double.Basic
import Mathlib

/-! # Rounding quotients

What rounding depends on and what it leaves alone. A quotient rounds by its value only, so numerator
and denominator may be scaled (`roundUnits_scale`) and any two quotients of one value round to one
count (`roundUnits_congr`); a count that a number can have rounds to itself
(`roundUnits_of_representable`). What is below half a unit rounds to nothing (`roundUnits_eq_zero`),
and what is at or above 2¹⁰²⁴ stays there (`le_roundUnits`). -/

namespace CellExchange

theorem unitsPerOne_pos : 0 < unitsPerOne := by decide +kernel

theorem spacing_pos (units : Nat) : 0 < spacing units := Nat.pow_pos (by decide)

/-- The spacing around a count of units divides the power of two below it. -/
theorem spacing_dvd_pow (units : Nat) : spacing units ∣ 2 ^ units.log2 :=
  Nat.pow_dvd_pow 2 (Nat.sub_le _ _)

namespace Double

/-! ## Whole quotients -/

/-- A quotient that is whole is not rounded. -/
theorem roundQuotient_mul_right (n : Nat) {den : Nat} (hden : 0 < den) :
    roundQuotient (n * den) den = n := by
  have htwice : 2 * (n * den % den) < den := by
    rw [Nat.mul_mod_left]
    exact hden
  rw [roundQuotient, if_pos htwice, Nat.mul_div_cancel n hden]

/-- Rounding does not see a common factor. -/
theorem roundQuotient_scale {k : Nat} (hk : 0 < k) (num den : Nat) :
    roundQuotient (k * num) (k * den) = roundQuotient num den := by
  have htwice : 2 * (k * num % (k * den)) = k * (2 * (num % den)) := by
    rw [Nat.mul_mod_mul_left, Nat.mul_left_comm]
  simp only [roundQuotient, htwice, Nat.mul_div_mul_left _ _ hk, Nat.mul_lt_mul_left hk]

/-- Rounding goes down or up by less than one. -/
theorem div_le_roundQuotient (num den : Nat) : num / den ≤ roundQuotient num den := by
  rw [roundQuotient]
  split
  · exact Nat.le_refl _
  · split
    · exact Nat.le_succ _
    · exact Nat.le_add_right _ _

/-! ## Counts of units -/

theorem roundUnits_scale {k : Nat} (hk : 0 < k) (num den : Nat) :
    roundUnits (k * num) (k * den) = roundUnits num den := by
  simp only [roundUnits, Nat.mul_div_mul_left _ _ hk, Nat.mul_assoc, roundQuotient_scale hk]

/-- **Quotients of one value round to one count.** -/
theorem roundUnits_congr {num den num' den' : Nat} (hden : 0 < den) (hden' : 0 < den')
    (h : num * den' = num' * den) : roundUnits num den = roundUnits num' den' := by
  calc roundUnits num den = roundUnits (den' * num) (den' * den) :=
        (roundUnits_scale hden' num den).symm
    _ = roundUnits (den * num') (den * den') := by
      rw [Nat.mul_comm den' num, h, Nat.mul_comm num' den, Nat.mul_comm den' den]
    _ = roundUnits num' den' := roundUnits_scale hden num' den'

/-- **A count that a number can have** rounds to itself. -/
theorem roundUnits_of_representable {units : Nat} (h : Representable units) {den : Nat}
    (hden : 0 < den) : roundUnits (units * den) den = units := by
  obtain ⟨n, hn⟩ := h.2
  have hwhole : units * den = n * (den * spacing units) := by
    rw [Nat.mul_left_comm, Nat.mul_comm n, ← hn, Nat.mul_comm]
  rw [roundUnits, Nat.mul_div_cancel units hden, hwhole,
    roundQuotient_mul_right n (Nat.mul_pos hden (spacing_pos units)), Nat.mul_comm, ← hn]

/-- A quotient below one half rounds to nothing. -/
theorem roundUnits_eq_zero {num den : Nat} (h : 2 * num < den) : roundUnits num den = 0 := by
  have hlt : num < den := by omega
  have hstep : spacing (num / den) = 1 := by
    rw [Nat.div_eq_of_lt hlt]
    decide
  rw [roundUnits, hstep, Nat.mul_one, Nat.mul_one, roundQuotient, Nat.mod_eq_of_lt hlt, if_pos h,
    Nat.div_eq_of_lt hlt]

/-- Rounding does not cross the power of two below a count. -/
theorem pow_log2_le_roundUnits {num den : Nat} (h : num / den ≠ 0) :
    2 ^ (num / den).log2 ≤ roundUnits num den := by
  have hdvd := spacing_dvd_pow (num / den)
  calc 2 ^ (num / den).log2 = 2 ^ (num / den).log2 / spacing (num / den) * spacing (num / den) :=
        (Nat.div_mul_cancel hdvd).symm
    _ ≤ num / den / spacing (num / den) * spacing (num / den) :=
      Nat.mul_le_mul_right _ (Nat.div_le_div_right (Nat.log2_self_le h))
    _ ≤ roundUnits num den := by
      rw [Nat.div_div_eq_div_mul]
      exact Nat.mul_le_mul_right _ (div_le_roundQuotient _ _)

/-- What is too great for a number stays so when it is rounded. -/
theorem le_roundUnits {k num den : Nat} (h : Nat.pow 2 k ≤ num / den) :
    Nat.pow 2 k ≤ roundUnits num den := by
  have hne : num / den ≠ 0 := Nat.ne_of_gt (Nat.lt_of_lt_of_le (Nat.pow_pos (by decide)) h)
  have hk : k ≤ (num / den).log2 := (Nat.le_log2 hne).2 h
  exact Nat.le_trans (Nat.pow_le_pow_right (by decide) hk) (pow_log2_le_roundUnits hne)

/-! ## Numbers -/

theorem ofUnits_of_representable (negative : Bool) {units : Nat} (h : Representable units) :
    ofUnits negative units = .finite negative units h := by
  rw [ofUnits, dif_pos h]

theorem ofUnits_of_le (negative : Bool) {units : Nat} (h : Nat.pow 2 2098 ≤ units) :
    ofUnits negative units = .infinite negative := by
  rw [ofUnits, dif_neg]
  exact fun hrep => Nat.not_lt.2 h hrep.1

/-- A number is made by its own count of units only. -/
theorem ofUnits_eq_finite_iff {negative negative' : Bool} {units units' : Nat}
    {h : Representable units'} :
    ofUnits negative units = .finite negative' units' h ↔
      negative = negative' ∧ units = units' := by
  rw [ofUnits]
  constructor
  · intro heq
    split at heq
    · exact ⟨(Double.finite.inj heq).1, (Double.finite.inj heq).2⟩
    · exact Double.noConfusion heq
  · rintro ⟨rfl, rfl⟩
    rw [dif_pos h]

end Double

end CellExchange
