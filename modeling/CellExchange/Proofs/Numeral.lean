import CellExchange.Numeral
import Mathlib

/-! # Numerals read back

**A whole number that is written reads back** as itself, in every interval that it lies in
(`read_render`). Reading goes digit by digit and must not leave the interval on its way; it does
not, because the numbers on the way lie between zero and the number that is written. -/

namespace CellExchange.Numeral

/-! ## Digits -/

theorem isDigit_of_mem_digits {n : Nat} {c : Char} (h : c ∈ digits n) : c.isDigit = true :=
  Nat.isDigit_of_mem_toDigits (by decide) (by decide) h

/-- A numeral with zeros before it has no characters but digits. -/
theorem isDigit_of_mem_padded {width n : Nat} {c : Char} (h : c ∈ padded width n) :
    c.isDigit = true := by
  rw [padded, List.mem_append] at h
  obtain hzero | hdigit := h
  · rw [List.eq_of_mem_replicate hzero]
    rfl
  · exact isDigit_of_mem_digits hdigit

theorem notMem_padded {c : Char} (h : c.isDigit = false) (width n : Nat) :
    c ∉ padded width n := by
  intro hc
  rw [isDigit_of_mem_padded hc] at h
  cases h

theorem digits_ne_nil (n : Nat) : digits n ≠ [] := Nat.toDigits_ne_nil

/-- The digits of a number make the number. -/
theorem ofDigitChars_digits (n : Nat) : Nat.ofDigitChars 10 (digits n) 0 = n :=
  Nat.ofDigitChars_ten_toDigits

/-- The code points of the digits. -/
theorem toNat_of_isDigit {c : Char} (h : c.isDigit = true) : 48 ≤ c.toNat ∧ c.toNat ≤ 57 := by
  rw [Char.isDigit, Bool.and_eq_true, decide_eq_true_eq, decide_eq_true_eq] at h
  exact h

/-- A digit is read as its value. -/
theorem digit?_of_isDigit {c : Char} (h : c.isDigit = true) :
    digit? 10 c = some (c.toNat - 48) := by
  have hcode := toNat_of_isDigit h
  have hten : c.toNat - 48 < 10 := by omega
  simp only [digit?, hcode, and_self, if_true, hten]

/-! ## Numerals of one width -/

/-- Zeros before a numeral do not change its number. -/
theorem ofDigitChars_padded (width n : Nat) : Nat.ofDigitChars 10 (padded width n) 0 = n := by
  rw [padded, Nat.ofDigitChars_append, Nat.ofDigitChars_replicate_zero, Nat.mul_zero,
    ofDigitChars_digits]

theorem padded_injective (width : Nat) : Function.Injective (padded width) := by
  intro m n h
  rw [← ofDigitChars_padded width m, h, ofDigitChars_padded]

/-- A number below a power of ten has as many digits as its exponent says. -/
theorem length_padded {width n : Nat} (hwidth : 0 < width) (h : n < 10 ^ width) :
    (padded width n).length = width := by
  have hfits : (digits n).length ≤ width :=
    (Nat.length_toDigits_le_iff (by decide) hwidth).2 h
  rw [padded, List.length_append, List.length_replicate]
  omega

/-- So many digits make a number below that power of ten. -/
theorem ofDigitChars_lt {cs : List Char} (h : ∀ c ∈ cs, c.isDigit = true) :
    Nat.ofDigitChars 10 cs 0 < 10 ^ cs.length := by
  induction cs with
  | nil => exact Nat.one_pos
  | cons c rest ih =>
    have hcode := toNat_of_isDigit (h c List.mem_cons_self)
    have hrest := ih fun d hd => h d (List.mem_cons_of_mem c hd)
    have hzero : '0'.toNat = 48 := rfl
    rw [Nat.ofDigitChars_cons, Nat.ofDigitChars_eq_ofDigitChars_zero, hzero, List.length_cons,
      Nat.pow_succ]
    have hfirst : 10 ^ rest.length * (10 * 0 + (c.toNat - 48)) ≤ 10 ^ rest.length * 9 :=
      Nat.mul_le_mul_left _ (by omega)
    omega

/-- Of numerals with equally many digits, that of the smaller number comes first. -/
theorem lt_of_ofDigitChars_lt {cs ds : List Char} (hlength : cs.length = ds.length)
    (hcs : ∀ c ∈ cs, c.isDigit = true) (hds : ∀ d ∈ ds, d.isDigit = true)
    (h : Nat.ofDigitChars 10 cs 0 < Nat.ofDigitChars 10 ds 0) : cs < ds := by
  induction cs generalizing ds with
  | nil =>
    obtain rfl : ds = [] := List.length_eq_zero_iff.1 hlength.symm
    exact absurd h (Nat.lt_irrefl _)
  | cons c cs ih =>
    cases ds with
    | nil => cases hlength
    | cons d ds =>
      have hlength : cs.length = ds.length := Nat.succ.inj hlength
      have hc := toNat_of_isDigit (hcs c List.mem_cons_self)
      have hd := toNat_of_isDigit (hds d List.mem_cons_self)
      have hrest : ∀ e ∈ ds, e.isDigit = true := fun e he => hds e (List.mem_cons_of_mem d he)
      have hzero : '0'.toNat = 48 := rfl
      rw [List.cons_lt_cons_iff]
      rw [Nat.ofDigitChars_cons, Nat.ofDigitChars_cons, Nat.ofDigitChars_eq_ofDigitChars_zero,
        Nat.ofDigitChars_eq_ofDigitChars_zero (l := ds), hzero, hlength] at h
      obtain hlt | heq | hgt := Nat.lt_trichotomy c.toNat d.toNat
      · exact Or.inl hlt
      · rw [heq] at h
        refine Or.inr ⟨Char.toNat_inj.1 heq, ih hlength ?_ hrest (Nat.lt_of_add_lt_add_left h)⟩
        exact fun e he => hcs e (List.mem_cons_of_mem c he)
      · -- what follows the digits cannot make up for the difference between them
        have hbound := ofDigitChars_lt hrest
        have hfirst : 10 ^ ds.length * (10 * 0 + (d.toNat - 48) + 1) ≤
            10 ^ ds.length * (10 * 0 + (c.toNat - 48)) := Nat.mul_le_mul_left _ (by omega)
        rw [Nat.mul_add, Nat.mul_one] at hfirst
        omega

theorem padded_lt {width m n : Nat} (hn : n < 10 ^ width) (hwidth : 0 < width) (h : m < n) :
    padded width m < padded width n := by
  refine lt_of_ofDigitChars_lt ?_ (fun c => isDigit_of_mem_padded) (fun c => isDigit_of_mem_padded)
    ?_
  · rw [length_padded hwidth (Nat.lt_trans h hn), length_padded hwidth hn]
  · rwa [ofDigitChars_padded, ofDigitChars_padded]

/-- Lists are compared at the first place where they differ. -/
theorem append_lt_append {cs ds : List Char} (hlength : cs.length = ds.length) (h : cs < ds)
    (before after : List Char) : cs ++ before < ds ++ after := by
  induction cs generalizing ds with
  | nil =>
    obtain rfl : ds = [] := List.length_eq_zero_iff.1 hlength.symm
    exact absurd h (lt_irrefl _)
  | cons c cs ih =>
    cases ds with
    | nil => cases hlength
    | cons d ds =>
      rw [List.cons_lt_cons_iff] at h
      rw [List.cons_append, List.cons_append, List.cons_lt_cons_iff]
      exact h.imp id (And.imp id (ih (Nat.succ.inj hlength)))

/-- **Numerals of one width are in the order of their numbers**, and texts that go on behind one and
the same numeral are in the order in which they go on. -/
theorem padded_append_lt {width m n : Nat} (hn : n < 10 ^ width) (hwidth : 0 < width)
    {before after : List Char} (h : m < n ∨ m = n ∧ before < after) :
    padded width m ++ before < padded width n ++ after := by
  obtain hlt | ⟨rfl, hrest⟩ := h
  · refine append_lt_append ?_ (padded_lt hn hwidth hlt) before after
    rw [length_padded hwidth (Nat.lt_trans hlt hn), length_padded hwidth hn]
  · exact List.append_left_lt hrest

/-! ## Reading digits -/

/-- Whether a number lies in an interval. -/
def Interval.Has (range : Interval) (n : Int) : Prop := range.least ≤ n ∧ n ≤ range.greatest

instance (range : Interval) (n : Int) : Decidable (range.Has n) :=
  inferInstanceAs (Decidable (_ ∧ _))

theorem Interval.check_of_has {range : Interval} {n : Int} (h : range.Has n) :
    range.check n = .ok n := by
  rw [check, if_neg (Int.not_lt.2 h.1), if_neg (Int.not_lt.2 h.2)]

/-- An interval has what lies between two of its numbers. -/
theorem Interval.Has.between {range : Interval} {a b n : Int} (ha : range.Has a) (hb : range.Has b)
    (hle : a ≤ n) (hge : n ≤ b) : range.Has n :=
  ⟨Int.le_trans ha.1 hle, Int.le_trans hge hb.2⟩

/-- A magnitude with its sign. -/
def signed (negative : Bool) (n : Nat) : Int := if negative then -n else n

/-- An interval around zero has the smaller ones of two magnitudes with the same sign. -/
theorem Interval.Has.signed_le {range : Interval} (hzero : range.Has 0) {negative : Bool}
    {m n : Nat} (hle : m ≤ n) (h : range.Has (signed negative n)) :
    range.Has (signed negative m) := by
  cases negative with
  | true => exact h.between hzero (Int.neg_le_neg (Int.ofNat_le.2 hle)) (by simp [signed])
  | false => exact hzero.between h (by simp [signed]) (Int.ofNat_le.2 hle)

/-- Digits never make less than what stood before them. -/
theorem le_ofDigitChars (cs : List Char) (n : Nat) : n ≤ Nat.ofDigitChars 10 cs n := by
  rw [Nat.ofDigitChars_eq_ofDigitChars_zero]
  have hpow : 1 ≤ 10 ^ cs.length := Nat.one_le_pow _ _ (by decide)
  calc n = 1 * n := (Nat.one_mul n).symm
    _ ≤ 10 ^ cs.length * n := Nat.mul_le_mul_right n hpow
    _ ≤ _ := Nat.le_add_right _ _

/-- Digits are read as the number that they make behind the digits before them, if the interval has
that number. -/
theorem readDigits_eq {range : Interval} (hzero : range.Has 0) (negative : Bool) {cs : List Char}
    (hdigits : ∀ c ∈ cs, c.isDigit = true) (acc : Nat)
    (h : range.Has (signed negative (Nat.ofDigitChars 10 cs acc))) :
    readDigits range 10 negative (signed negative acc) cs =
      .ok (signed negative (Nat.ofDigitChars 10 cs acc)) := by
  induction cs generalizing acc with
  | nil => rw [readDigits, Nat.ofDigitChars_nil]
  | cons c rest ih =>
    -- the number moved by one place and the number with the digit are both checked on the way
    have hc : c.isDigit = true := hdigits c List.mem_cons_self
    rw [Nat.ofDigitChars_cons] at h ⊢
    have hnext : range.Has (signed negative (10 * acc + (c.toNat - 48))) :=
      hzero.signed_le (le_ofDigitChars rest _) h
    have hmoved : range.Has (signed negative (10 * acc)) :=
      hzero.signed_le (Nat.le_add_right _ _) hnext
    have hmove : signed negative acc * (10 : Nat) = signed negative (10 * acc) := by
      cases negative <;> simp only [signed, if_true, if_false, Bool.false_eq_true] <;> omega
    have hadd : (if negative then signed negative (10 * acc) - ((c.toNat - 48 : Nat) : Int)
          else signed negative (10 * acc) + ((c.toNat - 48 : Nat) : Int)) =
        signed negative (10 * acc + (c.toNat - 48)) := by
      cases negative <;> simp only [signed, if_true, if_false, Bool.false_eq_true] <;> omega
    rw [readDigits, digit?_of_isDigit hc]
    simp only [bind, Except.bind, hmove, Interval.check_of_has hmoved, hadd,
      Interval.check_of_has hnext]
    exact ih (fun d hd => hdigits d (List.mem_cons_of_mem c hd)) _ h

/-! ## Whole numerals -/

/-- A numeral that begins otherwise than with `0x` is decimal. -/
theorem read_of_notMem {range : Interval} {cs : List Char} (h : 'x' ∉ cs) :
    read range cs = readSigned range 10 cs := by
  unfold read
  split
  · exact absurd (List.mem_cons_of_mem _ List.mem_cons_self) h
  · rfl

/-- Digits without a sign are read as the number that they make. -/
theorem readSigned_digits {range : Interval} (hzero : range.Has 0) {n : Nat} (h : range.Has n) :
    readSigned range 10 (digits n) = .ok (n : Int) := by
  have hdigits : ∀ c ∈ digits n, c.isDigit = true := fun c => isDigit_of_mem_digits
  have hread := readDigits_eq hzero false hdigits 0 (by rw [ofDigitChars_digits]; exact h)
  rw [ofDigitChars_digits] at hread
  -- digits begin with no sign, so no case but the last one applies
  unfold readSigned
  split
  · next hnil => exact absurd hnil (digits_ne_nil n)
  · next hplus => exact absurd (hdigits '+' (by rw [hplus]; exact List.mem_cons_self)) (by decide)
  · next hminus => exact absurd (hdigits '-' (by rw [hminus]; exact List.mem_cons_self)) (by decide)
  · next hplus => exact absurd (hdigits '+' (by rw [hplus]; exact List.mem_cons_self)) (by decide)
  · next hminus => exact absurd (hdigits '-' (by rw [hminus]; exact List.mem_cons_self)) (by decide)
  · exact hread

/-- Digits behind a minus sign are read as the negative number. -/
theorem readSigned_minus_digits {range : Interval} (hzero : range.Has 0) {n : Nat}
    (h : range.Has (-n)) : readSigned range 10 ('-' :: digits n) = .ok (-n : Int) := by
  have hdigits : ∀ c ∈ digits n, c.isDigit = true := fun c => isDigit_of_mem_digits
  have hread := readDigits_eq hzero true hdigits 0 (by rw [ofDigitChars_digits]; exact h)
  rw [ofDigitChars_digits] at hread
  unfold readSigned
  split
  · next hnil => exact absurd hnil (List.cons_ne_nil _ _)
  · next hplus => exact absurd (List.cons.inj hplus).1 (by decide)
  · next hminus => exact absurd (List.cons.inj hminus).2 (digits_ne_nil n)
  · next hplus => exact absurd (List.cons.inj hplus).1 (by decide)
  · next hminus =>
    rw [← (List.cons.inj hminus).2]
    exact hread
  · next hminus => exact absurd rfl (hminus _)

/-- The characters of a numeral. -/
theorem mem_render {n : Int} {c : Char} (h : c ∈ render n) : c = '-' ∨ c.isDigit = true := by
  rw [render] at h
  split at h
  · exact (List.mem_cons.1 h).imp id isDigit_of_mem_digits
  · exact Or.inr (isDigit_of_mem_digits h)

theorem render_ne_nil (n : Int) : render n ≠ [] := by
  rw [render]
  split
  · exact List.cons_ne_nil _ _
  · exact digits_ne_nil _

/-- **A whole number reads back** in every interval that has it and zero. -/
theorem read_render {range : Interval} (hzero : range.Has 0) {n : Int} (h : range.Has n) :
    read range (render n) = .ok n := by
  have hx : 'x' ∉ render n := by
    intro hmem
    exact (mem_render hmem).elim (by decide) (by decide)
  rw [read_of_notMem hx, render]
  by_cases hneg : n < 0
  · have habs : -(n.natAbs : Int) = n := by omega
    rw [if_pos hneg, readSigned_minus_digits hzero (by rw [habs]; exact h), habs]
  · have habs : (n.natAbs : Int) = n := by omega
    rw [if_neg hneg, readSigned_digits hzero (by rw [habs]; exact h), habs]

end CellExchange.Numeral
