import CellExchange.Proofs.Numeral
import Mathlib

/-! # The grammar of numerals

Which texts are numerals, and of which numbers (`Numeral.Denotes`): a sign or none and then digits,
hexadecimal behind `0x` and decimal otherwise (`Numeral.isDigit`). **A numeral is read as its number
if the interval has it** (`Numeral.read_eq_ok_iff`); every other text is refused for the first
character at which it stops being a numeral or leaves the interval (`Numeral.read_eq_error_iff`).
Reading goes digit by digit, so both are inductions on the digits (`Numeral.readDigits_eq_ok_iff`,
`Numeral.readDigits_eq_error_iff`) over what one digit does (`Numeral.readDigits_cons`). -/

namespace CellExchange.Numeral

/-! ## Numerals -/

/-- The parts of a text that is to be a numeral. -/
structure Parts where
  /-- The radix of the digits. -/
  radix : Nat
  /-- The sign, if there is one. -/
  sign : Option Char
  /-- What stands behind the radix mark and the sign. -/
  digits : List Char

/-- The parts of a text behind its radix mark. -/
def Parts.behindMark (radix : Nat) : List Char → Parts
  | '+' :: rest => ⟨radix, some '+', rest⟩
  | '-' :: rest => ⟨radix, some '-', rest⟩
  | cs => ⟨radix, none, cs⟩

/-- The parts of a text. -/
def parts : List Char → Parts
  | '0' :: 'x' :: rest => .behindMark 16 rest
  | cs => .behindMark 10 cs

/-- Whether a minus sign is among the parts. -/
def Parts.negative (p : Parts) : Bool := p.sign == some '-'

/-- Whether a character is a digit of a radix. -/
def isDigit (radix : Nat) (c : Char) : Bool := (digit? radix c).isSome

/-- The number that digits make behind a number. -/
def digitsFrom (radix : Nat) (n : Nat) (cs : List Char) : Nat :=
  cs.foldl (fun n c => n * radix + (digit? radix c).getD 0) n

@[simp] theorem digitsFrom_nil (radix n : Nat) : digitsFrom radix n [] = n := rfl

theorem digitsFrom_cons (radix n : Nat) (c : Char) (cs : List Char) :
    digitsFrom radix n (c :: cs) = digitsFrom radix (n * radix + (digit? radix c).getD 0) cs := rfl

/-- **Whether a text is the numeral of a number**: it has digits, all of the radix, which make the
number with its sign. -/
structure Denotes (cs : List Char) (n : Int) : Prop where
  /-- There are digits. -/
  digits_ne_nil : (parts cs).digits ≠ []
  /-- There is nothing else. -/
  isDigit : ∀ c ∈ (parts cs).digits, isDigit (parts cs).radix c = true
  /-- The number is theirs. -/
  eq_signed : n = signed (parts cs).negative (digitsFrom (parts cs).radix 0 (parts cs).digits)

/-- The fault of a number that is beyond an interval around zero. -/
def beyond (negative : Bool) : Fault := if negative then .tooSmall else .tooLarge

/-- Whether digits behind a number are refused with a fault: the digits before some character make a
number in the interval, and the character is no digit, or makes a number beyond the interval. -/
def Breaks (range : Interval) (radix : Nat) (negative : Bool) (n : Nat) (cs : List Char)
    (fault : Fault) : Prop :=
  ∃ before c after, cs = before ++ c :: after ∧ (∀ d ∈ before, isDigit radix d = true) ∧
    range.Has (signed negative (digitsFrom radix n before)) ∧
    ((isDigit radix c = false ∧ fault = .invalidDigit) ∨
      (isDigit radix c = true ∧ ¬ range.Has (signed negative (digitsFrom radix n (before ++ [c]))) ∧
        fault = beyond negative))

/-- **Why a text is refused.** -/
inductive Refused (range : Interval) (cs : List Char) : Fault → Prop
  /-- There is nothing behind the radix mark. -/
  | empty (hsign : (parts cs).sign = none) (hnil : (parts cs).digits = []) : Refused range cs .empty
  /-- A sign stands alone. -/
  | alone (hsign : (parts cs).sign ≠ none) (hnil : (parts cs).digits = []) :
    Refused range cs .invalidDigit
  /-- The digits are refused. -/
  | breaks {fault : Fault}
    (h : Breaks range (parts cs).radix (parts cs).negative 0 (parts cs).digits fault) :
    Refused range cs fault

/-! ## One digit -/

variable {range : Interval} {radix : Nat} {negative : Bool} {n : Int} {fault : Fault}
  {c : Char} {cs : List Char}

/-- A magnitude with its sign is checked against an interval around zero. -/
theorem check_signed (hzero : range.Has 0) (negative : Bool) (n : Nat) :
    range.check (signed negative n) =
      if range.Has (signed negative n) then .ok (signed negative n)
      else .error (beyond negative) := by
  by_cases h : range.Has (signed negative n)
  · rw [if_pos h, Interval.check_of_has h]
  · rw [if_neg h]
    have hleast := hzero.1
    have hgreatest := hzero.2
    rw [Interval.Has] at h
    cases negative with
    | true =>
      have hbelow : signed true n < range.least := by
        simp only [signed, if_true] at h ⊢
        omega
      rw [Interval.check, if_pos hbelow]
      rfl
    | false =>
      have habove : range.greatest < signed false n := by
        simp only [signed, Bool.false_eq_true, if_false] at h ⊢
        omega
      have hnot : ¬ signed false n < range.least := by omega
      rw [Interval.check, if_neg hnot, if_pos habove]
      rfl

/-- **One digit** is added to the number moved by one place, if the interval has the sum. -/
theorem readDigits_cons (hzero : range.Has 0) (negative : Bool) (acc : Nat) (c : Char)
    (rest : List Char) :
    readDigits range radix negative (signed negative acc) (c :: rest) =
      if isDigit radix c then
        if range.Has (signed negative (digitsFrom radix acc [c])) then
          readDigits range radix negative (signed negative (digitsFrom radix acc [c])) rest
        else .error (beyond negative)
      else .error .invalidDigit := by
  rw [readDigits, isDigit]
  cases hc : digit? radix c with
  | none => rfl
  | some d =>
    have hsum : digitsFrom radix acc [c] = acc * radix + d := by
      rw [digitsFrom_cons, digitsFrom_nil, hc, Option.getD_some]
    have hmove : signed negative acc * (radix : Int) = signed negative (acc * radix) := by
      cases negative <;> simp [signed]
    have hadd : (if negative then signed negative (acc * radix) - (d : Int)
          else signed negative (acc * radix) + (d : Int)) = signed negative (acc * radix + d) := by
      cases negative <;> simp only [signed, if_true, if_false, Bool.false_eq_true] <;> omega
    rw [hsum]
    simp only [bind, Except.bind, hmove, check_signed hzero, Option.isSome_some, if_true]
    by_cases hmoved : range.Has (signed negative (acc * radix))
    · rw [if_pos hmoved]
      dsimp only
      rw [hadd, check_signed hzero]
      by_cases hnext : range.Has (signed negative (acc * radix + d))
      · simp only [if_pos hnext]
      · simp only [if_neg hnext]
    · -- a number that is beyond the interval before the digit is added is so with it
      have hnext : ¬ range.Has (signed negative (acc * radix + d)) :=
        fun h => hmoved (hzero.signed_le (Nat.le_add_right _ _) h)
      rw [if_neg hmoved, if_neg hnext]

/-! ## Many digits -/

/-- Digits never make less than what stood before them. -/
theorem le_digitsFrom (hradix : 1 ≤ radix) (acc : Nat) (cs : List Char) :
    acc ≤ digitsFrom radix acc cs := by
  induction cs generalizing acc with
  | nil => exact Nat.le_refl acc
  | cons c rest ih =>
    have hmoved : acc ≤ acc * radix := Nat.le_mul_of_pos_right acc hradix
    exact Nat.le_trans (Nat.le_trans hmoved (Nat.le_add_right _ _)) (ih _)

/-- **Digits are read** as the number that they make, if the interval has it. -/
theorem readDigits_eq_ok_iff (hzero : range.Has 0) (hradix : 1 ≤ radix) {acc : Nat}
    (hacc : range.Has (signed negative acc)) :
    readDigits range radix negative (signed negative acc) cs = .ok n ↔
      (∀ c ∈ cs, isDigit radix c = true) ∧
        range.Has (signed negative (digitsFrom radix acc cs)) ∧
        n = signed negative (digitsFrom radix acc cs) := by
  induction cs generalizing acc with
  | nil =>
    rw [readDigits, Except.ok.injEq, digitsFrom_nil, eq_comm (a := n)]
    exact ⟨fun h => ⟨List.forall_mem_nil _, hacc, h⟩, fun h => h.2.2⟩
  | cons c rest ih =>
    have hsplit : digitsFrom radix acc (c :: rest) =
        digitsFrom radix (digitsFrom radix acc [c]) rest := rfl
    rw [readDigits_cons hzero, List.forall_mem_cons, hsplit]
    cases hc : isDigit radix c with
    | false =>
      refine iff_of_false (fun h => ?_) fun h => Bool.false_ne_true h.1.1
      cases h
    | true =>
      by_cases hnext : range.Has (signed negative (digitsFrom radix acc [c]))
      · rw [if_pos rfl, if_pos hnext, ih hnext, eq_self, true_and]
      · rw [if_pos rfl, if_neg hnext]
        refine iff_of_false (fun h => ?_) fun h => hnext ?_
        · cases h
        · exact hzero.signed_le (le_digitsFrom hradix _ rest) h.2.1

/-- The first character breaks digits, or it is a digit and the others do. -/
theorem breaks_cons_iff (hzero : range.Has 0) (hradix : 1 ≤ radix) {acc : Nat}
    (hacc : range.Has (signed negative acc)) {rest : List Char} :
    Breaks range radix negative acc (c :: rest) fault ↔
      (isDigit radix c = false ∧ fault = .invalidDigit) ∨
        (isDigit radix c = true ∧ ¬ range.Has (signed negative (digitsFrom radix acc [c])) ∧
          fault = beyond negative) ∨
        (isDigit radix c = true ∧ range.Has (signed negative (digitsFrom radix acc [c])) ∧
          Breaks range radix negative (digitsFrom radix acc [c]) rest fault) := by
  constructor
  · rintro ⟨before, d, after, hsplit, hbefore, hhas, hbreak⟩
    cases before with
    | nil =>
      cases hsplit
      exact hbreak.imp id Or.inl
    | cons first before =>
      cases hsplit
      rw [List.forall_mem_cons] at hbefore
      have hfirst : range.Has (signed negative (digitsFrom radix acc [c])) :=
        hzero.signed_le (le_digitsFrom hradix _ before) hhas
      exact Or.inr (Or.inr ⟨hbefore.1, hfirst, before, d, after, rfl, hbefore.2, hhas, hbreak⟩)
  · rintro (h | h | ⟨hc, -, before, d, after, rfl, hbefore, hhas, hbreak⟩)
    · exact ⟨[], c, rest, rfl, List.forall_mem_nil _, hacc, Or.inl h⟩
    · exact ⟨[], c, rest, rfl, List.forall_mem_nil _, hacc, Or.inr h⟩
    · exact ⟨c :: before, d, after, rfl, List.forall_mem_cons.2 ⟨hc, hbefore⟩, hhas, hbreak⟩

/-- **Digits are refused** for the first character that breaks them. -/
theorem readDigits_eq_error_iff (hzero : range.Has 0) (hradix : 1 ≤ radix) {acc : Nat}
    (hacc : range.Has (signed negative acc)) :
    readDigits range radix negative (signed negative acc) cs = .error fault ↔
      Breaks range radix negative acc cs fault := by
  induction cs generalizing acc with
  | nil =>
    refine iff_of_false nofun ?_
    rintro ⟨before, c, after, hsplit, -⟩
    simp at hsplit
  | cons c rest ih =>
    rw [readDigits_cons hzero, breaks_cons_iff hzero hradix hacc]
    cases hc : isDigit radix c with
    | false => simp [eq_comm]
    | true =>
      by_cases hnext : range.Has (signed negative (digitsFrom radix acc [c]))
      · simp [hnext, ih hnext]
      · simp [hnext, eq_comm]

/-! ## Whole numerals -/

@[simp] theorem signed_zero (negative : Bool) : signed negative 0 = 0 := by
  cases negative <;> rfl

/-- Behind its radix mark a text is a sign or none, and then digits. -/
theorem readSigned_eq (range : Interval) (radix : Nat) (cs : List Char) :
    readSigned range radix cs =
      if (Parts.behindMark radix cs).digits = [] then
        .error (if (Parts.behindMark radix cs).sign = none then .empty else .invalidDigit)
      else
        readDigits range radix (Parts.behindMark radix cs).negative 0
          (Parts.behindMark radix cs).digits := by
  unfold readSigned
  split
  · rfl
  · rfl
  · rfl
  · next hne => exact (if_neg hne).symm
  · next hne => exact (if_neg hne).symm
  · next hne _ _ hplus hminus =>
    -- without a sign all of the text is digits
    have hparts : Parts.behindMark radix cs = ⟨radix, none, cs⟩ := by
      rw [Parts.behindMark]
      · exact hplus
      · exact hminus
    rw [hparts, if_neg hne]
    rfl

@[simp] theorem radix_behindMark (radix : Nat) (cs : List Char) :
    (Parts.behindMark radix cs).radix = radix := by
  unfold Parts.behindMark
  split <;> rfl

/-- **A text is read** by its parts. -/
theorem read_eq (range : Interval) (cs : List Char) :
    read range cs =
      if (parts cs).digits = [] then
        .error (if (parts cs).sign = none then .empty else .invalidDigit)
      else
        readDigits range (parts cs).radix (parts cs).negative 0 (parts cs).digits := by
  unfold read
  split
  · next rest =>
    have hparts : parts ('0' :: 'x' :: rest) = .behindMark 16 rest := rfl
    rw [readSigned_eq, hparts, radix_behindMark]
  · next hmark =>
    have hparts : parts cs = .behindMark 10 cs := by
      rw [parts]
      exact hmark
    rw [readSigned_eq, hparts, radix_behindMark]

theorem one_le_radix (cs : List Char) : 1 ≤ (parts cs).radix := by
  unfold parts
  split
  · rw [radix_behindMark]
    decide
  · rw [radix_behindMark]
    decide

/-- **A numeral is read as its number**, if the interval has it; nothing else is read. -/
theorem read_eq_ok_iff (hzero : range.Has 0) :
    read range cs = .ok n ↔ Denotes cs n ∧ range.Has n := by
  have hstart : range.Has (signed (parts cs).negative 0) := by
    rw [signed_zero]
    exact hzero
  rw [read_eq]
  by_cases hnil : (parts cs).digits = []
  · rw [if_pos hnil]
    exact iff_of_false nofun fun h => h.1.digits_ne_nil hnil
  · rw [if_neg hnil, ← signed_zero (parts cs).negative,
      readDigits_eq_ok_iff hzero (one_le_radix cs) hstart]
    constructor
    · rintro ⟨hdigits, hhas, rfl⟩
      exact ⟨⟨hnil, hdigits, rfl⟩, hhas⟩
    · rintro ⟨⟨-, hdigits, rfl⟩, hhas⟩
      exact ⟨hdigits, hhas, rfl⟩

/-- **Every other text is refused** for what breaks it first. -/
theorem read_eq_error_iff (hzero : range.Has 0) :
    read range cs = .error fault ↔ Refused range cs fault := by
  have hstart : range.Has (signed (parts cs).negative 0) := by
    rw [signed_zero]
    exact hzero
  have hread : readDigits range (parts cs).radix (parts cs).negative 0 (parts cs).digits =
        .error fault ↔
      Breaks range (parts cs).radix (parts cs).negative 0 (parts cs).digits fault := by
    simpa only [signed_zero] using readDigits_eq_error_iff hzero (one_le_radix cs) hstart
  rw [read_eq]
  constructor
  · intro h
    by_cases hnil : (parts cs).digits = []
    · rw [if_pos hnil] at h
      by_cases hsign : (parts cs).sign = none
      · rw [if_pos hsign] at h
        cases h
        exact .empty hsign hnil
      · rw [if_neg hsign] at h
        cases h
        exact .alone hsign hnil
    · rw [if_neg hnil, hread] at h
      exact .breaks h
  · rintro (⟨hsign, hnil⟩ | ⟨hsign, hnil⟩ | h)
    · rw [if_pos hnil, if_pos hsign]
    · rw [if_pos hnil, if_neg hsign]
    · have hne : (parts cs).digits ≠ [] := by
        obtain ⟨before, c, after, hsplit, -⟩ := h
        rw [hsplit]
        simp
      rw [if_neg hne, hread]
      exact h

end CellExchange.Numeral
