import CellExchange.Proofs.Double.Decimal
import CellExchange.Text.Blank
import Mathlib

/-! # The grammar of decimal text

Which texts are numbers, and which (`Double.Denotes`): a sign or none, and then digits with at most
one point among them and at most one exponent behind them, or a word for infinity or not-a-number in
any case. **Exactly these texts are read, and as these numbers** (`Double.read?_eq_some_iff`). Every
part of the grammar is what one part of the reader takes (`Double.readExponent?_eq_some_iff`,
`Double.readDecimal?_eq_some_iff`, `Double.readMagnitude?_eq_some_iff`). -/

namespace CellExchange.Double

/-! ## The grammar -/

/-- Whether characters are digits, if there are any. -/
def AreDigits (cs : List Char) : Prop := ∀ c ∈ cs, c.isDigit = true

/-- Digits with at most one point: the text, the digits before the point and those behind it. -/
inductive Mantissa : List Char → List Char → List Char → Prop
  /-- Digits without a point. -/
  | whole {ds : List Char} (hdigits : AreDigits ds) (hne : ds ≠ []) : Mantissa ds ds []
  /-- Digits around a point, on one side of it at least. -/
  | point {whole fraction : List Char} (hwhole : AreDigits whole) (hfraction : AreDigits fraction)
    (hne : whole ≠ [] ∨ fraction ≠ []) : Mantissa (whole ++ '.' :: fraction) whole fraction

/-- An exponent or nothing: the text and the power of ten. -/
inductive Exponent : List Char → Int → Prop
  /-- No exponent. -/
  | none : Exponent [] 0
  /-- An exponent without a sign. -/
  | plain {e : Char} {ds : List Char} (he : e = 'e' ∨ e = 'E') (hdigits : AreDigits ds)
    (hne : ds ≠ []) : Exponent (e :: ds) (exponentValue ds)
  /-- An exponent with a plus sign. -/
  | plus {e : Char} {ds : List Char} (he : e = 'e' ∨ e = 'E') (hdigits : AreDigits ds)
    (hne : ds ≠ []) : Exponent (e :: '+' :: ds) (exponentValue ds)
  /-- An exponent with a minus sign. -/
  | minus {e : Char} {ds : List Char} (he : e = 'e' ∨ e = 'E') (hdigits : AreDigits ds)
    (hne : ds ≠ []) : Exponent (e :: '-' :: ds) (-(exponentValue ds : Int))

/-- A number behind its sign: the text and the number. -/
inductive Magnitude (negative : Bool) : List Char → Double → Prop
  /-- Digits, and the number nearest to them. -/
  | decimal {mantissa whole fraction exponent : List Char} {power : Int}
    (hmantissa : Mantissa mantissa whole fraction) (hexponent : Exponent exponent power) :
    Magnitude negative (mantissa ++ exponent)
      (Decimal.nearest negative ⟨digitsValue (whole ++ fraction), power - fraction.length⟩)
  /-- A word for infinity. -/
  | infinity {cs : List Char} (hword : Text.sameLetters cs ['i', 'n', 'f'] = true ∨
      Text.sameLetters cs ['i', 'n', 'f', 'i', 'n', 'i', 't', 'y'] = true) :
    Magnitude negative cs (.infinite negative)
  /-- The word for not-a-number. -/
  | nan {cs : List Char} (hword : Text.sameLetters cs ['n', 'a', 'n'] = true) :
    Magnitude negative cs .nan

/-- **Whether a text is that of a number.** -/
inductive Denotes : List Char → Double → Prop
  /-- A number without a sign. -/
  | plain {cs : List Char} {x : Double} (h : Magnitude false cs x) : Denotes cs x
  /-- A number with a plus sign. -/
  | plus {cs : List Char} {x : Double} (h : Magnitude false cs x) : Denotes ('+' :: cs) x
  /-- A number with a minus sign. -/
  | minus {cs : List Char} {x : Double} (h : Magnitude true cs x) : Denotes ('-' :: cs) x

variable {negative : Bool} {cs rest : List Char} {c : Char} {power : Int} {x : Double}

/-! ## Exponents -/

theorem areDigits_iff {ds : List Char} : ds.all Char.isDigit = true ↔ AreDigits ds :=
  List.all_eq_true

/-- The power of ten that some characters make behind the sign of an exponent. -/
def power? (negative : Bool) (ds : List Char) : Option Int :=
  if ds.isEmpty ∨ !ds.all Char.isDigit then none
  else some (if negative then -(exponentValue ds : Int) else exponentValue ds)

theorem power?_eq_some_iff {ds : List Char} :
    power? negative ds = some power ↔
      AreDigits ds ∧ ds ≠ [] ∧
        (if negative then -(exponentValue ds : Int) else exponentValue ds) = power := by
  unfold power?
  rw [← areDigits_iff]
  cases ds with
  | nil => simp
  | cons c ds => cases (c :: ds).all Char.isDigit <;> simp

/-- Digits do not begin with a sign. -/
theorem AreDigits.head_ne {ds : List Char} (h : AreDigits (c :: ds)) : c ≠ '-' ∧ c ≠ '+' := by
  have hc : c.isDigit = true := h c List.mem_cons_self
  constructor
  · rintro rfl
    exact nomatch hc
  · rintro rfl
    exact nomatch hc

theorem readExponent?_of_sign {e : Char} (he : e = 'e' ∨ e = 'E') :
    (∀ ds, readExponent? (e :: '-' :: ds) = power? true ds) ∧
      (∀ ds, readExponent? (e :: '+' :: ds) = power? false ds) ∧
      ∀ ds, (∀ rest, ds ≠ '-' :: rest) → (∀ rest, ds ≠ '+' :: rest) →
        readExponent? (e :: ds) = power? false ds := by
  refine ⟨fun ds => ?_, fun ds => ?_, fun ds hminus hplus => ?_⟩
  · exact if_pos he
  · exact if_pos he
  · rw [readExponent?, if_pos he]
    · rfl
    · exact hminus
    · exact hplus

theorem readExponent?_eq_some_iff : readExponent? cs = some power ↔ Exponent cs power := by
  constructor
  · intro h
    cases cs with
    | nil =>
      cases h
      exact .none
    | cons e rest =>
      by_cases he : e = 'e' ∨ e = 'E'
      · obtain ⟨hminus, hplus, hplain⟩ := readExponent?_of_sign he
        by_cases hfirst : ∃ ds, rest = '-' :: ds
        · obtain ⟨ds, rfl⟩ := hfirst
          rw [hminus, power?_eq_some_iff] at h
          obtain ⟨hdigits, hne, rfl⟩ := h
          exact .minus he hdigits hne
        by_cases hsecond : ∃ ds, rest = '+' :: ds
        · obtain ⟨ds, rfl⟩ := hsecond
          rw [hplus, power?_eq_some_iff] at h
          obtain ⟨hdigits, hne, rfl⟩ := h
          exact .plus he hdigits hne
        rw [hplain rest (not_exists.1 hfirst) (not_exists.1 hsecond), power?_eq_some_iff] at h
        obtain ⟨hdigits, hne, rfl⟩ := h
        exact .plain he hdigits hne
      · rw [readExponent?.eq_def] at h
        simp only [if_neg he] at h
        cases h
  · rintro (_ | ⟨he, hdigits, hne⟩ | ⟨he, hdigits, hne⟩ | ⟨he, hdigits, hne⟩)
    · rfl
    · obtain ⟨-, -, hplain⟩ := readExponent?_of_sign he
      rw [hplain, power?_eq_some_iff]
      · exact ⟨hdigits, hne, rfl⟩
      · rintro rest rfl
        exact hdigits.head_ne.1 rfl
      · rintro rest rfl
        exact hdigits.head_ne.2 rfl
    · rw [(readExponent?_of_sign he).2.1, power?_eq_some_iff]
      exact ⟨hdigits, hne, rfl⟩
    · rw [(readExponent?_of_sign he).1, power?_eq_some_iff]
      exact ⟨hdigits, hne, rfl⟩

/-! ## Digits and points -/

/-- Whether a text begins with no digit. -/
def EndsDigits (cs : List Char) : Prop := cs.head?.all (fun c => !c.isDigit) = true

theorem endsDigits_dropWhile (cs : List Char) : EndsDigits (cs.dropWhile Char.isDigit) := by
  have hhead := List.head?_dropWhile_not Char.isDigit cs
  unfold EndsDigits
  cases h : (cs.dropWhile Char.isDigit).head? with
  | none => rfl
  | some c =>
    rw [h] at hhead
    simpa using hhead

theorem areDigits_takeWhile (cs : List Char) : AreDigits (cs.takeWhile Char.isDigit) :=
  fun _ hc => List.mem_takeWhile_imp hc

/-- An exponent begins with a letter. -/
theorem Exponent.begins (h : Exponent cs power) : EndsDigits cs ∧ ∀ rest, cs ≠ '.' :: rest := by
  have hletter : ∀ {e : Char} {ds : List Char}, e = 'e' ∨ e = 'E' →
      EndsDigits (e :: ds) ∧ ∀ rest, e :: ds ≠ '.' :: rest := by
    rintro e ds (rfl | rfl) <;> exact ⟨rfl, nofun⟩
  rcases h with _ | ⟨he, -, -⟩ | ⟨he, -, -⟩ | ⟨he, -, -⟩
  · exact ⟨rfl, nofun⟩
  · exact hletter he
  · exact hletter he
  · exact hletter he

/-- Digits before an exponent. -/
theorem readDecimal?_of_whole {ds exponent : List Char} (hdigits : AreDigits ds)
    (hend : EndsDigits exponent) (hpoint : ∀ rest, exponent ≠ '.' :: rest) :
    readDecimal? (ds ++ exponent) =
      if ds = [] then none
      else (readExponent? exponent).map fun power => ⟨digitsValue ds, power⟩ := by
  obtain ⟨htake, hdrop⟩ := takeWhile_isDigit exponent hdigits hend
  simp only [readDecimal?, htake, hdrop, List.isEmpty_nil, Bool.and_true, List.append_nil,
    List.isEmpty_iff, List.length_nil, Nat.cast_zero, Int.sub_zero]

/-- Digits around a point before an exponent. -/
theorem readDecimal?_of_point {whole fraction exponent : List Char} (hwhole : AreDigits whole)
    (hfraction : AreDigits fraction) (hend : EndsDigits exponent) :
    readDecimal? (whole ++ '.' :: (fraction ++ exponent)) =
      if whole = [] ∧ fraction = [] then none
      else (readExponent? exponent).map fun power =>
        ⟨digitsValue (whole ++ fraction), power - fraction.length⟩ := by
  obtain ⟨htake, hdrop⟩ := takeWhile_isDigit ('.' :: (fraction ++ exponent)) hwhole rfl
  obtain ⟨hfirst, hrest⟩ := takeWhile_isDigit exponent hfraction hend
  simp only [readDecimal?, htake, hdrop, hfirst, hrest, Bool.and_eq_true, List.isEmpty_iff]

/-- **Digits, a point and an exponent** are read as the decimal that they are. -/
theorem readDecimal?_eq_some_iff {d : Decimal} :
    readDecimal? cs = some d ↔ ∃ mantissa whole fraction exponent power,
      Mantissa mantissa whole fraction ∧ Exponent exponent power ∧ cs = mantissa ++ exponent ∧
        d = ⟨digitsValue (whole ++ fraction), power - fraction.length⟩ := by
  constructor
  · intro h
    have hwhole := areDigits_takeWhile cs
    have hend := endsDigits_dropWhile cs
    have hsplit := List.takeWhile_append_dropWhile (p := Char.isDigit) (l := cs)
    generalize cs.takeWhile Char.isDigit = whole at hwhole hsplit
    generalize cs.dropWhile Char.isDigit = rest at hend hsplit
    subst hsplit
    by_cases hpoint : ∃ behind, rest = '.' :: behind
    · obtain ⟨behind, rfl⟩ := hpoint
      have hfraction := areDigits_takeWhile behind
      have hend' := endsDigits_dropWhile behind
      have hsplit := List.takeWhile_append_dropWhile (p := Char.isDigit) (l := behind)
      generalize behind.takeWhile Char.isDigit = fraction at hfraction hsplit
      generalize behind.dropWhile Char.isDigit = exponent at hend' hsplit
      subst hsplit
      rw [readDecimal?_of_point hwhole hfraction hend'] at h
      split at h
      · cases h
      · next hne =>
        obtain ⟨power, hpower, rfl⟩ := Option.map_eq_some_iff.1 h
        rw [not_and_or] at hne
        exact ⟨_, whole, fraction, exponent, power, .point hwhole hfraction hne,
          readExponent?_eq_some_iff.1 hpower, by simp, rfl⟩
    · rw [readDecimal?_of_whole hwhole hend (not_exists.1 hpoint)] at h
      split at h
      · cases h
      · next hne =>
        obtain ⟨power, hpower, rfl⟩ := Option.map_eq_some_iff.1 h
        exact ⟨whole, whole, [], rest, power, .whole hwhole hne,
          readExponent?_eq_some_iff.1 hpower, rfl, by simp⟩
  · rintro ⟨_, whole, fraction, exponent, power, hmantissa, hexponent, rfl, rfl⟩
    obtain ⟨hend, hpoint⟩ := hexponent.begins
    rcases hmantissa with ⟨hdigits, hne⟩ | ⟨hwhole, hfraction, hne⟩
    · rw [readDecimal?_of_whole hdigits hend hpoint, if_neg hne,
        readExponent?_eq_some_iff.2 hexponent]
      simp
    · rw [List.append_assoc, List.cons_append, readDecimal?_of_point hwhole hfraction hend,
        if_neg (not_and_or.2 hne), readExponent?_eq_some_iff.2 hexponent]
      rfl

/-! ## Numbers -/

/-- A letter begins no digits. -/
theorem readDecimal?_of_letter (hdigit : c.isDigit = false) (hpoint : c ≠ '.') :
    readDecimal? (c :: rest) = none := by
  have hend : EndsDigits (c :: rest) := by
    simpa [EndsDigits] using hdigit
  have hfirst : ∀ more, c :: rest ≠ '.' :: more := by
    rintro more ⟨⟩
    exact hpoint rfl
  exact readDecimal?_of_whole (List.forall_mem_nil _) hend hfirst

/-- What becomes a letter in lower case is no digit and no point. -/
theorem not_isDigit_of_toLower {letter : Char} (hletter : letter = 'i' ∨ letter = 'n')
    (h : c.toLower = letter) : c.isDigit = false ∧ c ≠ '.' := by
  constructor
  · cases hc : c.isDigit with
    | false => rfl
    | true =>
      have hsame : c.toLower = c := by
        have hcode := Numeral.toNat_of_isDigit hc
        rw [Char.toLower, dif_neg]
        rintro ⟨hupper, -⟩
        have hcode' : 65 ≤ c.toNat := hupper
        omega
      rw [← h, hsame] at hletter
      rcases hletter with rfl | rfl <;> exact nomatch hc
  · rintro rfl
    rcases hletter with rfl | rfl <;> exact nomatch h

/-- A text that agrees with a word in its letters. -/
theorem sameLetters_iff {word : List Char} (hword : word.map Char.toLower = word) :
    Text.sameLetters cs word = true ↔ cs.map Char.toLower = word := by
  rw [Text.sameLetters, beq_iff_eq, hword]

theorem readWord?_eq_some_iff :
    readWord? negative cs = some x ↔
      ((Text.sameLetters cs ['i', 'n', 'f'] = true ∨
          Text.sameLetters cs ['i', 'n', 'f', 'i', 'n', 'i', 't', 'y'] = true) ∧
        x = .infinite negative) ∨
      (Text.sameLetters cs ['n', 'a', 'n'] = true ∧ x = .nan) := by
  rw [sameLetters_iff rfl, sameLetters_iff rfl, sameLetters_iff rfl, readWord?]
  generalize cs.map Char.toLower = lower
  constructor
  · intro h
    split at h
    · next hword =>
      cases h
      exact Or.inl ⟨Or.inl (by simpa using congrArg String.toList hword), rfl⟩
    · next hword =>
      cases h
      exact Or.inl ⟨Or.inr (by simpa using congrArg String.toList hword), rfl⟩
    · next hword =>
      cases h
      exact Or.inr ⟨by simpa using congrArg String.toList hword, rfl⟩
    · cases h
  · rintro (⟨rfl | rfl, rfl⟩ | ⟨rfl, rfl⟩) <;> rfl

/-- A word is no digits. -/
theorem readDecimal?_of_word {letter : Char} {word : List Char}
    (hletter : letter = 'i' ∨ letter = 'n')
    (h : cs.map Char.toLower = letter :: word) : readDecimal? cs = none := by
  cases cs with
  | nil => cases h
  | cons c rest =>
    obtain ⟨hdigit, hpoint⟩ := not_isDigit_of_toLower hletter (List.cons.inj h).1
    exact readDecimal?_of_letter hdigit hpoint

/-- **A number behind its sign.** -/
theorem readMagnitude?_eq_some_iff :
    readMagnitude? negative cs = some x ↔ Magnitude negative cs x := by
  rw [readMagnitude?]
  constructor
  · intro h
    cases hdecimal : readDecimal? cs with
    | some d =>
      rw [hdecimal] at h
      cases h
      obtain ⟨mantissa, whole, fraction, exponent, power, hmantissa, hexponent, rfl, rfl⟩ :=
        readDecimal?_eq_some_iff.1 hdecimal
      exact .decimal hmantissa hexponent
    | none =>
      rw [hdecimal] at h
      rcases readWord?_eq_some_iff.1 h with ⟨hword, rfl⟩ | ⟨hword, rfl⟩
      · exact .infinity hword
      · exact .nan hword
  · rintro (⟨hmantissa, hexponent⟩ | hword | hword)
    · rw [readDecimal?_eq_some_iff.2 ⟨_, _, _, _, _, hmantissa, hexponent, rfl, rfl⟩]
    · have hdecimal : readDecimal? cs = none := by
        rcases hword with h | h
        · exact readDecimal?_of_word (Or.inl rfl) ((sameLetters_iff rfl).1 h)
        · exact readDecimal?_of_word (Or.inl rfl) ((sameLetters_iff rfl).1 h)
      rw [hdecimal]
      exact readWord?_eq_some_iff.2 (Or.inl ⟨hword, rfl⟩)
    · rw [readDecimal?_of_word (Or.inr rfl) ((sameLetters_iff rfl).1 hword)]
      exact readWord?_eq_some_iff.2 (Or.inr ⟨hword, rfl⟩)

/-- A sign begins no magnitude. -/
theorem readMagnitude?_of_sign (hsign : c = '-' ∨ c = '+') :
    readMagnitude? negative (c :: rest) = none := by
  have hdecimal : readDecimal? (c :: rest) = none := by
    rcases hsign with rfl | rfl <;> exact readDecimal?_of_letter rfl (by decide)
  have hlower : ∀ (letter : Char) (word : List Char), letter = 'i' ∨ letter = 'n' →
      (c :: rest).map Char.toLower ≠ letter :: word := by
    intro letter word hletter h
    have hhead : c.toLower = letter := (List.cons.inj h).1
    rcases hsign with rfl | rfl <;> rcases hletter with rfl | rfl <;> exact nomatch hhead
  rw [readMagnitude?, hdecimal, Option.eq_none_iff_forall_ne_some]
  intro x hx
  rcases readWord?_eq_some_iff.1 hx with ⟨h | h, -⟩ | ⟨h, -⟩
  · exact hlower _ _ (Or.inl rfl) ((sameLetters_iff rfl).1 h)
  · exact hlower _ _ (Or.inl rfl) ((sameLetters_iff rfl).1 h)
  · exact hlower _ _ (Or.inr rfl) ((sameLetters_iff rfl).1 h)

/-- **Exactly the texts of numbers are read**, and as these numbers. -/
theorem read?_eq_some_iff : read? cs = some x ↔ Denotes cs x := by
  constructor
  · intro h
    unfold read? at h
    split at h
    · exact .minus (readMagnitude?_eq_some_iff.1 h)
    · exact .plus (readMagnitude?_eq_some_iff.1 h)
    · exact .plain (readMagnitude?_eq_some_iff.1 h)
  · rintro (h | h | h)
    · have hread := readMagnitude?_eq_some_iff.2 h
      unfold read?
      split
      · exact nomatch (readMagnitude?_of_sign (Or.inl rfl)).symm.trans hread
      · exact nomatch (readMagnitude?_of_sign (Or.inr rfl)).symm.trans hread
      · exact hread
    · exact readMagnitude?_eq_some_iff.2 h
    · exact readMagnitude?_eq_some_iff.2 h

end CellExchange.Double
