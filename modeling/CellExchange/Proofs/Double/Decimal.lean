import CellExchange.Double.Decimal
import CellExchange.Proofs.Double.Rounding
import CellExchange.Proofs.Numeral

/-! # Decimal texts read back

**A number that is written reads back** as itself (`Double.read?_render`): not-a-number, the
infinities, both zeros and every finite number. Three facts make it so. What number is nearest to a
decimal depends on the value of the decimal only (`Decimal.nearest_congr`). Writing a decimal, with
or without the zeros at its end, and reading it gives a decimal of the same value
(`Decimal.read_render`). And the decimal that is written for a number is one that the number is
nearest to (`Double.nearest_shortest`): either it was tried out, or it is the exact value.

Whole numbers of at most 53 binary digits are met as they are (`Double.read?_numeral`). -/

namespace CellExchange

namespace Decimal

/-! ## The value of a decimal -/

/-- The numerator of a decimal in units. -/
def numerator (d : Decimal) : Nat :=
  if 0 ≤ d.exponent then d.digits * 10 ^ d.exponent.toNat * unitsPerOne else d.digits * unitsPerOne

/-- The denominator of a decimal in units. -/
def denominator (d : Decimal) : Nat :=
  if 0 ≤ d.exponent then 1 else 10 ^ (-d.exponent).toNat

theorem denominator_pos (d : Decimal) : 0 < d.denominator := by
  rw [denominator]
  split
  · exact Nat.one_pos
  · exact Nat.pow_pos (by decide)

/-- The power of ten beyond which decimals are told apart by their size. -/
def farExponent : Nat := 400

/-- A decimal that is far too great for a number. -/
theorem pow_le_numerator {d : Decimal} (hdigits : d.digits ≠ 0) (hexp : 400 < d.exponent) :
    Nat.pow 2 2098 ≤ d.numerator / d.denominator := by
  have hle : farExponent ≤ d.exponent.toNat := by
    rw [farExponent]
    omega
  have hpow : 10 ^ farExponent ≤ 10 ^ d.exponent.toNat := Nat.pow_le_pow_right (by decide) hle
  -- 10⁴⁰⁰ is beyond the greatest number, and each further power of ten only adds to it
  have hbase : Nat.pow 2 2098 ≤ 10 ^ farExponent * unitsPerOne := by decide +kernel
  have hnum : d.numerator = d.digits * 10 ^ d.exponent.toNat * unitsPerOne := if_pos (by omega)
  have hden : d.denominator = 1 := if_pos (by omega)
  rw [hnum, hden, Nat.div_one]
  refine Nat.le_trans hbase (Nat.mul_le_mul_right _ ?_)
  exact Nat.le_trans hpow (Nat.le_mul_of_pos_left _ (Nat.pos_of_ne_zero hdigits))

/-- A decimal that is far too small for a number. -/
theorem numerator_lt {d : Decimal} (hexp : d.exponent + (d.digits.log2 + 1 : Nat) < -400) :
    2 * d.numerator < d.denominator := by
  have hneg : ¬ 0 ≤ d.exponent := by omega
  obtain ⟨k, hk⟩ : ∃ k, (-d.exponent).toNat = farExponent + (d.digits.log2 + 1) + k :=
    ⟨(-d.exponent).toNat - (farExponent + (d.digits.log2 + 1)), by rw [farExponent]; omega⟩
  -- 10⁻⁴⁰⁰ is below half a unit, and the digits stay below the power of ten of their length
  have hbase : 2 * unitsPerOne < 10 ^ farExponent := by decide +kernel
  have hdigits : d.digits < 10 ^ (d.digits.log2 + 1) :=
    Nat.lt_of_lt_of_le Nat.lt_log2_self (Nat.pow_le_pow_left (by decide) _)
  have hmore : 1 ≤ 10 ^ k := Nat.one_le_pow _ _ (by decide)
  rw [numerator, denominator, if_neg hneg, if_neg hneg, hk, Nat.pow_add, Nat.pow_add]
  calc 2 * (d.digits * unitsPerOne) = d.digits * (2 * unitsPerOne) := Nat.mul_left_comm _ _ _
    _ ≤ d.digits * 10 ^ farExponent := Nat.mul_le_mul_left _ (Nat.le_of_lt hbase)
    _ < 10 ^ (d.digits.log2 + 1) * 10 ^ farExponent :=
      Nat.mul_lt_mul_of_pos_right hdigits (Nat.pow_pos (by decide))
    _ = 10 ^ farExponent * 10 ^ (d.digits.log2 + 1) := Nat.mul_comm _ _
    _ ≤ 10 ^ farExponent * 10 ^ (d.digits.log2 + 1) * 10 ^ k := Nat.le_mul_of_pos_right _ hmore

/-- **The number nearest to a decimal** is its value, rounded; the decimals told apart by their size
are no exceptions. -/
theorem nearest_eq (negative : Bool) (d : Decimal) :
    d.nearest negative = .ofQuotient negative d.numerator d.denominator := by
  -- the branches are those of `nearest`: nothing, far too great, far too small, and the rest
  rw [nearest]
  by_cases hzero : d.digits = 0
  · have hnum : d.numerator = 0 := by simp [numerator, hzero]
    have hround : Double.roundUnits 0 d.denominator = 0 :=
      Double.roundUnits_eq_zero (Nat.mul_zero 2 ▸ d.denominator_pos)
    rw [if_pos hzero, Double.ofQuotient, hnum, hround]
  · rw [if_neg hzero]
    by_cases hgreat : 400 < d.exponent
    · have hround := Double.le_roundUnits (pow_le_numerator hzero hgreat)
      rw [if_pos hgreat, Double.ofQuotient, Double.ofUnits_of_le _ hround]
    · rw [if_neg hgreat]
      by_cases hsmall : d.exponent + (d.digits.log2 + 1 : Nat) < -400
      · rw [if_pos hsmall, Double.ofQuotient, Double.roundUnits_eq_zero (numerator_lt hsmall)]
      · rw [if_neg hsmall]
        by_cases hexp : 0 ≤ d.exponent
        · rw [if_pos hexp, numerator, denominator, if_pos hexp, if_pos hexp]
          rfl
        · rw [if_neg hexp, numerator, denominator, if_neg hexp, if_neg hexp]
          rfl

/-- **Decimals of one value have one nearest number.** -/
theorem nearest_congr (negative : Bool) {d d' : Decimal}
    (h : d.numerator * d'.denominator = d'.numerator * d.denominator) :
    d.nearest negative = d'.nearest negative := by
  rw [nearest_eq, nearest_eq, Double.ofQuotient, Double.ofQuotient,
    Double.roundUnits_congr d.denominator_pos d'.denominator_pos h]

/-- What number is nearest is a question of the magnitude only. -/
theorem nearest_of_nearest_false {d : Decimal} {units : Nat} (hrep : Representable units)
    (h : d.nearest false = Double.ofUnits false units) (negative : Bool) :
    d.nearest negative = Double.ofUnits negative units := by
  rw [nearest_eq, Double.ofQuotient, Double.ofUnits_of_representable _ hrep,
    Double.ofUnits_eq_finite_iff] at h
  rw [nearest_eq, Double.ofQuotient, h.2]

end Decimal

/-! ## Reading digits and points -/

namespace Double

theorem digitsValue_eq (cs : List Char) : digitsValue cs = Nat.ofDigitChars 10 cs 0 := by
  rw [Nat.ofDigitChars_eq_foldl]
  rfl

/-- What stands before a character that is no digit is taken whole. -/
theorem takeWhile_isDigit {ds : List Char} (rest : List Char) (h : ∀ c ∈ ds, c.isDigit = true)
    (hrest : rest.head?.all (fun c => !c.isDigit) = true) :
    (ds ++ rest).takeWhile Char.isDigit = ds ∧ (ds ++ rest).dropWhile Char.isDigit = rest := by
  have hempty : rest.takeWhile Char.isDigit = [] ∧ rest.dropWhile Char.isDigit = rest := by
    cases rest with
    | nil => exact ⟨rfl, rfl⟩
    | cons c more =>
      have hc : ¬ c.isDigit = true := by simpa using hrest
      exact ⟨List.takeWhile_cons_of_neg hc, List.dropWhile_cons_of_neg hc⟩
  rw [List.takeWhile_append_of_pos h, List.dropWhile_append_of_pos h, hempty.1, hempty.2,
    List.append_nil]
  exact ⟨rfl, rfl⟩

/-- Digits alone are a decimal without a fraction. -/
theorem readDecimal?_digits {ds : List Char} (h : ∀ c ∈ ds, c.isDigit = true) (hne : ds ≠ []) :
    readDecimal? ds = some ⟨digitsValue ds, 0⟩ := by
  obtain ⟨hwhole, hrest⟩ := takeWhile_isDigit [] h rfl
  rw [List.append_nil] at hwhole hrest
  simp only [readDecimal?, hwhole, hrest, List.isEmpty_eq_false_iff.2 hne, Bool.false_and,
    Bool.false_eq_true, if_false, List.append_nil]
  rfl

/-- Digits, a point and digits are a decimal with a fraction. -/
theorem readDecimal?_point {whole fraction : List Char} (hwhole : ∀ c ∈ whole, c.isDigit = true)
    (hfraction : ∀ c ∈ fraction, c.isDigit = true) (hne : whole ≠ []) :
    readDecimal? (whole ++ '.' :: fraction) =
      some ⟨digitsValue (whole ++ fraction), -(fraction.length : Int)⟩ := by
  obtain ⟨htake, hdrop⟩ := takeWhile_isDigit ('.' :: fraction) hwhole rfl
  obtain ⟨hfirst, hrest⟩ := takeWhile_isDigit [] hfraction rfl
  rw [List.append_nil] at hfirst hrest
  simp only [readDecimal?, htake, hdrop, hfirst, hrest, List.isEmpty_eq_false_iff.2 hne,
    Bool.false_and, Bool.false_eq_true, if_false]
  simp only [readExponent?, Option.map_some, Int.zero_sub]

end Double

namespace Decimal

/-! ## Writing and reading a decimal -/

/-- Dropping zeros behind the point keeps the nearest number. -/
theorem nearest_trimZeros (negative : Bool) (fuel : Nat) (d : Decimal) :
    (d.trimZeros fuel).nearest negative = d.nearest negative := by
  induction fuel generalizing d with
  | zero => rfl
  | succ fuel ih =>
    rw [trimZeros]
    by_cases h : d.exponent < 0 ∧ d.digits % 10 = 0
    · rw [if_pos h, ih]
      obtain ⟨n, hn⟩ := Nat.dvd_of_mod_eq_zero h.2
      obtain ⟨k, hk⟩ : ∃ k, (-d.exponent).toNat = k + 1 := ⟨(-d.exponent).toNat - 1, by omega⟩
      -- ten times the digits over ten times the power: the value is the same
      have hdigits : d.digits / 10 = n := by omega
      have hneg : ¬ 0 ≤ d.exponent := by omega
      apply nearest_congr
      simp only [numerator, denominator, hdigits, if_neg hneg, hk]
      rw [hn]
      generalize unitsPerOne = units
      -- the last zero behind the point may leave no fraction
      by_cases hone : 0 ≤ d.exponent + 1
      · have hzero : (d.exponent + 1).toNat = 0 := by omega
        have hkzero : k = 0 := by omega
        rw [if_pos hone, if_pos hone, hzero, hkzero]
        simp only [Nat.zero_add, Nat.pow_zero, Nat.pow_one, Nat.mul_one]
        rw [Nat.mul_comm, Nat.mul_assoc]
      · have hless : (-(d.exponent + 1)).toNat = k := by omega
        rw [if_neg hone, if_neg hone, hless, Nat.pow_succ]
        calc n * units * (10 ^ k * 10) = 10 * (n * units) * 10 ^ k := by
              rw [Nat.mul_comm (10 ^ k), ← Nat.mul_assoc, Nat.mul_comm _ 10]
          _ = 10 * n * units * 10 ^ k := by rw [← Nat.mul_assoc]
    · rw [if_neg h]

/-- The digits of a decimal with zeros before them, so that some stand before the point. -/
def paddedDigits (d : Decimal) : List Char :=
  let ds := Numeral.digits d.digits
  List.replicate ((-d.exponent).toNat + 1 - ds.length) '0' ++ ds

theorem isDigit_of_mem_replicate {n : Nat} {c : Char} (h : c ∈ List.replicate n '0') :
    c.isDigit = true := by
  rw [List.eq_of_mem_replicate h]
  rfl

theorem isDigit_of_mem_paddedDigits {d : Decimal} {c : Char} (h : c ∈ d.paddedDigits) :
    c.isDigit = true :=
  (List.mem_append.1 h).elim isDigit_of_mem_replicate Numeral.isDigit_of_mem_digits

theorem digitsValue_paddedDigits (d : Decimal) : Double.digitsValue d.paddedDigits = d.digits := by
  rw [Double.digitsValue_eq, paddedDigits, Nat.ofDigitChars_append,
    Nat.ofDigitChars_replicate_zero, Nat.mul_zero, Numeral.ofDigitChars_digits]

theorem lt_length_paddedDigits (d : Decimal) : (-d.exponent).toNat < d.paddedDigits.length := by
  rw [paddedDigits, List.length_append, List.length_replicate]
  omega

/-- A decimal with a fraction is written with a point among its digits. -/
theorem render_of_neg {d : Decimal} (h : ¬ 0 ≤ d.exponent) :
    d.render = d.paddedDigits.take (d.paddedDigits.length - (-d.exponent).toNat) ++
      '.' :: d.paddedDigits.drop (d.paddedDigits.length - (-d.exponent).toNat) := by
  rw [render, if_neg h]
  rfl

/-- **A decimal that is written reads back** with its value. -/
theorem read_render (d : Decimal) (negative : Bool) :
    ∃ d', Double.readDecimal? d.render = some d' ∧ d'.nearest negative = d.nearest negative := by
  by_cases hexp : 0 ≤ d.exponent
  · -- without a fraction the power of ten is written out in zeros
    by_cases hzero : d.digits = 0
    · refine ⟨⟨0, 0⟩, ?_, ?_⟩
      · rw [render, if_pos hexp, if_pos hzero]
        rfl
      · rw [nearest, if_pos rfl, nearest, if_pos hzero]
    · have hdigits : ∀ c ∈ Numeral.digits d.digits ++ List.replicate d.exponent.toNat '0',
          c.isDigit = true := fun c hc =>
        (List.mem_append.1 hc).elim Numeral.isDigit_of_mem_digits isDigit_of_mem_replicate
      refine ⟨⟨d.digits * 10 ^ d.exponent.toNat, 0⟩, ?_, ?_⟩
      · rw [render, if_pos hexp, if_neg hzero, Double.readDecimal?_digits hdigits
          (List.append_ne_nil_of_left_ne_nil (Numeral.digits_ne_nil _) _), Double.digitsValue_eq,
          Nat.ofDigitChars_append, Numeral.ofDigitChars_digits, Nat.ofDigitChars_replicate_zero,
          Nat.mul_comm]
      · apply nearest_congr
        simp only [numerator, denominator, if_pos hexp, Int.le_refl, if_true, Int.toNat_zero,
          Nat.pow_zero, Nat.mul_one]
  · -- with a fraction the same digits are read on both sides of the point
    have hdigits := fun c => isDigit_of_mem_paddedDigits (d := d) (c := c)
    have hlength := d.lt_length_paddedDigits
    refine ⟨d, ?_, rfl⟩
    rw [render_of_neg hexp, Double.readDecimal?_point
      (fun c hc => hdigits c (List.mem_of_mem_take hc))
      (fun c hc => hdigits c (List.mem_of_mem_drop hc)) (List.ne_nil_of_length_pos ?_),
      List.take_append_drop, digitsValue_paddedDigits, List.length_drop]
    · congr
      omega
    · rw [List.length_take]
      omega

/-- The characters of a decimal that is written. -/
theorem mem_render {d : Decimal} {c : Char} (h : c ∈ d.render) : c = '.' ∨ c.isDigit = true := by
  by_cases hexp : 0 ≤ d.exponent
  · rw [render, if_pos hexp] at h
    by_cases hzero : d.digits = 0
    · rw [if_pos hzero, List.mem_singleton] at h
      exact Or.inr (h ▸ rfl)
    · rw [if_neg hzero] at h
      exact Or.inr
        ((List.mem_append.1 h).elim Numeral.isDigit_of_mem_digits isDigit_of_mem_replicate)
  · rw [render_of_neg hexp, List.mem_append, List.mem_cons] at h
    obtain h | h | h := h
    · exact Or.inr (isDigit_of_mem_paddedDigits (List.mem_of_mem_take h))
    · exact Or.inl h
    · exact Or.inr (isDigit_of_mem_paddedDigits (List.mem_of_mem_drop h))

end Decimal

namespace Double

/-! ## The shortest decimal -/

/-- A decimal that is found on a grid reads back. -/
theorem nearest_of_onGrid? {units : Nat} {exponent : Int} {d : Decimal}
    (h : onGrid? units exponent = some d) : d.nearest false = ofUnits false units := by
  -- one of the two neighbours was chosen, and only one that reads back is
  simp only [onGrid?] at h
  by_cases hlow : (gridNeighbours units exponent).1.nearest false = ofUnits false units
  · by_cases hhigh : (gridNeighbours units exponent).2.nearest false = ofUnits false units
    · simp only [hlow, hhigh, beq_self_eq_true, Bool.and_self, if_true, Option.some.injEq] at h
      rw [← h]
      split
      · exact hhigh
      · exact hlow
    · simp only [hlow, beq_self_eq_true, beq_eq_false_iff_ne.2 hhigh, Bool.and_false,
        Bool.false_eq_true, if_false, if_true, Option.some.injEq] at h
      rw [← h]
      exact hlow
  · by_cases hhigh : (gridNeighbours units exponent).2.nearest false = ofUnits false units
    · simp only [hhigh, beq_self_eq_true, beq_eq_false_iff_ne.2 hlow, Bool.false_and,
        Bool.false_eq_true, if_false, if_true, Option.some.injEq] at h
      rw [← h]
      exact hhigh
    · simp only [beq_eq_false_iff_ne.2 hlow, beq_eq_false_iff_ne.2 hhigh, Bool.and_self,
        Bool.false_eq_true, if_false, reduceCtorEq] at h

/-- The exact value of a number reads back. -/
theorem nearest_exact {units : Nat} (h : Representable units) :
    (exact units).nearest false = ofUnits false units := by
  have hneg : ¬ 0 ≤ (exact units).exponent := by
    show ¬ (0 : Int) ≤ -1074
    decide
  -- `units` halved 1074 times is `units * 5 ^ 1074` with the point moved 1074 places
  have hpow : Nat.pow 5 1074 * unitsPerOne = 10 ^ (-(-1074 : Int)).toNat := by decide +kernel
  have hvalue : (exact units).numerator = units * (exact units).denominator := by
    rw [Decimal.numerator, Decimal.denominator, if_neg hneg, if_neg hneg]
    simp only [exact]
    rw [Nat.mul_assoc, hpow]
  rw [Decimal.nearest_eq, ofQuotient, hvalue,
    roundUnits_of_representable h (exact units).denominator_pos]

/-- **The decimal that is written for a number** is one that the number is nearest to. -/
theorem nearest_shortest (negative : Bool) {units : Nat} (h : Representable units) :
    (shortest units).nearest negative = ofUnits negative units := by
  refine Decimal.nearest_of_nearest_false h ?_ negative
  rw [shortest]
  cases hfound : (List.range 17).findSome? fun n : Nat =>
      onGrid? units (tensExponent units - (n : Int)) with
  | none => exact nearest_exact h
  | some d =>
    obtain ⟨n, -, hgrid⟩ := List.exists_of_findSome?_eq_some hfound
    exact nearest_of_onGrid? hgrid

/-! ## Numbers and their texts -/

/-- A magnitude reads back as a number with any sign. -/
theorem readMagnitude?_magnitudeText (negative : Bool) {units : Nat} (h : Representable units) :
    readMagnitude? negative (magnitudeText units) = some (.finite negative units h) := by
  rw [magnitudeText]
  by_cases hzero : units = 0
  · subst hzero
    have hdigit : ∀ c ∈ ['0'], c.isDigit = true := by
      intro c hc
      rw [List.mem_singleton.1 hc]
      rfl
    rw [if_pos rfl, ← ofUnits_of_representable negative h, readMagnitude?,
      readDecimal?_digits hdigit (List.cons_ne_nil _ _)]
    show some (Decimal.nearest negative ⟨0, 0⟩) = _
    rw [Decimal.nearest, if_pos rfl]
  · obtain ⟨d, hread, hnearest⟩ := ((shortest units).trimZeros 1100).read_render negative
    rw [if_neg hzero, readMagnitude?, hread]
    show some (d.nearest negative) = _
    rw [hnearest, Decimal.nearest_trimZeros, nearest_shortest negative h,
      ofUnits_of_representable negative h]

/-- A text of digits and points is a magnitude: it begins with no sign. -/
theorem read?_of_digits {cs : List Char} (h : ∀ c ∈ cs, c = '.' ∨ c.isDigit = true) :
    read? cs = readMagnitude? false cs := by
  have hminus : '-' ∉ cs := fun hc => (h _ hc).elim (by decide) (by decide)
  have hplus : '+' ∉ cs := fun hc => (h _ hc).elim (by decide) (by decide)
  unfold read?
  split
  · exact absurd List.mem_cons_self hminus
  · exact absurd List.mem_cons_self hplus
  · rfl

/-- The characters of a magnitude. -/
theorem mem_magnitudeText {units : Nat} {c : Char} (h : c ∈ magnitudeText units) :
    c = '.' ∨ c.isDigit = true := by
  rw [magnitudeText] at h
  split at h
  · rw [List.mem_singleton] at h
    exact Or.inr (h ▸ rfl)
  · exact Decimal.mem_render h

/-- **A number that is written reads back.** -/
theorem read?_render (x : Double) : read? x.render = some x := by
  cases x with
  | nan => rfl
  | infinite negative => cases negative <;> rfl
  | finite negative units h =>
    have hread := readMagnitude?_magnitudeText negative h
    cases negative with
    | true => exact hread
    | false => exact (read?_of_digits fun c => mem_magnitudeText).trans hread

/-! ## Whole numbers -/

/-- A number of at most 53 binary digits, shifted, is a multiple of its spacing. -/
theorem spacing_shift_dvd {n : Nat} (h : n < 2 ^ 53) (k : Nat) :
    spacing (n * Nat.pow 2 k) ∣ n * Nat.pow 2 k := by
  by_cases hzero : n = 0
  · rw [hzero, Nat.zero_mul]
    exact Nat.dvd_zero _
  · have hpos : n * Nat.pow 2 k ≠ 0 :=
      Nat.mul_ne_zero hzero (Nat.ne_of_gt (Nat.pow_pos (by decide)))
    have hlog : (n * Nat.pow 2 k).log2 < 53 + k := by
      rw [Nat.log2_lt hpos, Nat.pow_add]
      exact Nat.mul_lt_mul_of_pos_right h (Nat.pow_pos (by decide))
    -- the spacing of a number of at most 53 + k digits is at most 2 ^ k
    exact Nat.dvd_trans (Nat.pow_dvd_pow 2 (by omega)) (Nat.dvd_mul_left _ _)

/-- Whole numbers of at most 53 binary digits are numbers. -/
theorem representable_whole {n : Nat} (h : n < 2 ^ 53) : Representable (n * unitsPerOne) := by
  have hbound : 2 ^ 53 * unitsPerOne ≤ Nat.pow 2 2098 := by decide +kernel
  obtain ⟨k, hk⟩ : ∃ k, unitsPerOne = Nat.pow 2 k := ⟨1074, by decide +kernel⟩
  have hdvd : spacing (n * unitsPerOne) ∣ n * unitsPerOne := by
    rw [hk]
    exact spacing_shift_dvd h k
  exact ⟨Nat.lt_of_lt_of_le (Nat.mul_lt_mul_of_pos_right h unitsPerOne_pos) hbound, hdvd⟩

/-- A whole number is a number. -/
theorem ofInt_eq {n : Int} (h : n.natAbs < 2 ^ 53) :
    ofInt n = .finite (n < 0) (n.natAbs * unitsPerOne) (representable_whole h) :=
  ofUnits_of_representable _ _

/-- The digits of a whole number are a magnitude. -/
theorem readMagnitude?_digits (negative : Bool) {n : Nat} (h : n < 2 ^ 53) :
    readMagnitude? negative (Numeral.digits n) =
      some (.finite negative (n * unitsPerOne) (representable_whole h)) := by
  have hround : roundUnits (n * unitsPerOne) 1 = n * unitsPerOne := by
    have hexact := roundUnits_of_representable (representable_whole h) Nat.one_pos
    rwa [Nat.mul_one] at hexact
  have hnearest : Decimal.nearest negative ⟨n, 0⟩ =
      .finite negative (n * unitsPerOne) (representable_whole h) := by
    rw [Decimal.nearest_eq, ofQuotient, Decimal.numerator, Decimal.denominator,
      if_pos (Int.le_refl 0), if_pos (Int.le_refl 0), Int.toNat_zero, Nat.pow_zero, Nat.mul_one,
      hround, ofUnits_of_representable negative (representable_whole h)]
  rw [readMagnitude?, readDecimal?_digits (fun c => Numeral.isDigit_of_mem_digits)
    (Numeral.digits_ne_nil n), digitsValue_eq, Numeral.ofDigitChars_digits]
  exact congrArg some hnearest

/-- **A whole numeral is met as it is.** -/
theorem read?_numeral {n : Int} (h : n.natAbs < 2 ^ 53) :
    read? (Numeral.render n) = some (ofInt n) := by
  rw [Numeral.render, ofInt_eq h]
  by_cases hneg : n < 0
  · rw [if_pos hneg]
    have hread := readMagnitude?_digits true h
    simp only [hneg, decide_true]
    exact hread
  · have hread := readMagnitude?_digits false h
    rw [if_neg hneg, read?_of_digits fun c hc => Or.inr (Numeral.isDigit_of_mem_digits hc)]
    simp only [hneg, decide_false]
    exact hread

/-- The value of a whole number in units. -/
theorem signedUnits_whole (n : Int) :
    signedUnits (n < 0) (n.natAbs * unitsPerOne) = n * unitsPerOne := by
  rw [signedUnits]
  by_cases hneg : n < 0
  · have habs : ((n.natAbs : Nat) : Int) = -n := by omega
    simp only [hneg, decide_true, if_true, Int.natCast_mul, habs, Int.neg_mul, Int.neg_neg]
  · have habs : ((n.natAbs : Nat) : Int) = n := by omega
    simp only [hneg, decide_false, Bool.false_eq_true, if_false, Int.natCast_mul, habs]

/-- A whole number lies between two others if it does so as a number. -/
theorem within_ofInt {n : Int} (h : n.natAbs < 2 ^ 53) (low high : Int) :
    (ofInt n).within low high = (decide (low ≤ n) && decide (n ≤ high)) := by
  have hpos : (0 : Int) < unitsPerOne := Int.natCast_pos.2 unitsPerOne_pos
  rw [ofInt_eq h, within, signedUnits_whole]
  simp only [Int.mul_le_mul_right hpos]

/-- A whole number has no fraction to drop. -/
theorem wholePart_ofInt {n : Int} (h : n.natAbs < 2 ^ 53) : (ofInt n).wholePart = n := by
  rw [ofInt_eq h, wholePart, Nat.mul_div_cancel _ unitsPerOne_pos, signedUnits]
  by_cases hneg : n < 0
  · simp only [hneg, decide_true, if_true]
    omega
  · simp only [hneg, decide_false, Bool.false_eq_true, if_false]
    omega

/-! ## Bounds -/

/-- Whether a number is neither an infinity nor not-a-number. -/
def isFinite : Double → Bool
  | finite _ _ _ => true
  | _ => false

/-- What lies between two numbers is a number. -/
theorem isFinite_of_within {x : Double} {low high : Int} (h : x.within low high = true) :
    x.isFinite = true := by
  cases x with
  | nan | infinite => cases h
  | finite => rfl

/-- The whole part of a number between zero and a bound lies there too. -/
theorem wholePart_of_within {x : Double} {high : Int} (h : x.within 0 high = true) :
    0 ≤ x.wholePart ∧ x.wholePart ≤ high := by
  cases x with
  | nan | infinite => cases h
  | finite negative units =>
    rw [within, Bool.and_eq_true, decide_eq_true_eq, decide_eq_true_eq, Int.zero_mul] at h
    obtain ⟨hlow, hhigh⟩ := h
    have hpos : (0 : Int) < unitsPerOne := Int.natCast_pos.2 unitsPerOne_pos
    rw [wholePart]
    cases negative with
    | true =>
      -- only zero has a sign here
      have hzero : units = 0 := by
        rw [signedUnits, if_pos rfl] at hlow
        omega
      have hnonneg : 0 ≤ high * unitsPerOne := hlow.trans hhigh
      rw [hzero, Nat.zero_div]
      exact ⟨Int.le_refl 0, Int.nonneg_of_mul_nonneg_left hnonneg hpos⟩
    | false =>
      exact ⟨Int.natCast_nonneg _, Int.ediv_le_of_le_mul hpos hhigh⟩

/-- Of the counts of units other than zero, each value has one with a sign. -/
theorem signedUnits_inj {s t : Bool} {m n : Nat} (hne : n ≠ 0)
    (h : signedUnits s m = signedUnits t n) : s = t ∧ m = n := by
  cases s <;> cases t <;> simp only [signedUnits, if_true, Bool.false_eq_true, if_false] at h <;>
    refine ⟨?_, ?_⟩ <;> first | rfl | omega

/-- The number that equals a whole number other than zero is that number. -/
theorem eq_ofInt_of_isWhole {x : Double} {n : Int} (hne : n ≠ 0) (h : x.isWhole n = true) :
    x = ofInt n := by
  cases x with
  | nan | infinite => cases h
  | finite negative units =>
    rw [isWhole, beq_iff_eq, ← signedUnits_whole] at h
    have hunits : n.natAbs * unitsPerOne ≠ 0 :=
      Nat.mul_ne_zero (Int.natAbs_ne_zero.2 hne) unitsPerOne_pos.ne'
    obtain ⟨hsign, hcount⟩ := signedUnits_inj hunits h
    exact (ofUnits_eq_finite_iff.2 ⟨hsign.symm, hcount.symm⟩).symm

end Double

end CellExchange
