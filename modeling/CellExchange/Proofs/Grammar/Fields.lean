import CellExchange.Proofs.Grammar.Decimal
import CellExchange.Proofs.Grammar.Numeral
import CellExchange.Proofs.Row.Checked
import Mathlib

/-! # What fields say

What a field of a row says, if it makes sense: the number of a numeral (`WholeField`) or of decimal
text (`RealField`), whole meters (`RangeField`), a truth value (`TruthField`), a time (`TimeField`)
or a radio type (`RadioField`). An empty field is an absent value and says what stands in for it
(`OptionalField`). For each kind a lemma tells that **the reader takes of a field what the field
says**, first as a value and then as a checked one (`wholeField_iff`, `realField_iff`,
`rangeField_iff`, `truthField_iff`, `timeField_iff`, `radioField_iff`). -/

namespace CellExchange

/-! ## Kinds of fields -/

/-- What a field says of which the value may be absent. -/
inductive OptionalField {α : Type} (Denotes : List Char → α → Prop) (standIn : α) :
    String → α → Prop
  /-- An empty field says what stands in for the value. -/
  | absent : OptionalField Denotes standIn "" standIn
  /-- Another one says the value that its text denotes. -/
  | present {s : String} {x : α} (h : Denotes s.toList x) : OptionalField Denotes standIn s x

/-- What the field of a whole number says: a number of the interval. -/
def WholeField (range : Numeral.Interval) (standIn : Int) : String → Int → Prop :=
  OptionalField (fun cs n => Numeral.Denotes cs n ∧ range.Has n) standIn

/-- What the field of a number says. -/
def RealField (standIn : Double) : String → Double → Prop :=
  OptionalField Double.Denotes standIn

/-- What the field of a range says: whole meters, from which the fraction is dropped. -/
inductive RangeField : String → Int → Prop
  /-- An absent range. -/
  | absent : RangeField "" 0
  /-- A number of meters. -/
  | meters {s : String} {x : Double} (h : Double.Denotes s.toList x)
    (hwithin : x.within 0 2147483647 = true) : RangeField s x.wholePart

/-- Whether a field is a word, in any case. -/
def IsWord (s word : String) : Prop := Text.sameLetters s.toList word.toList = true

instance (s word : String) : Decidable (IsWord s word) := inferInstanceAs (Decidable (_ = true))

/-- What the field of a truth value says. -/
inductive TruthField : String → Bool → Prop
  /-- An absent truth value. -/
  | absent : TruthField "" true
  /-- A word for true. -/
  | yes {s : String} (h : IsWord s "1" ∨ IsWord s "true") : TruthField s true
  /-- A word for false. -/
  | no {s : String} (h : IsWord s "0" ∨ IsWord s "false") : TruthField s false

/-- What the field of a time says: whole seconds since 1970. -/
inductive TimeField : String → Instant → Prop
  /-- A number of seconds, 0 if it is absent. -/
  | seconds {s : String} {n : Int} (h : WholeField .int64 0 s n)
    (hcalendar : (Instant.ofSeconds n).InCalendar) : TimeField s (.ofSeconds n)

/-- Whether a field names a radio type, with blanks around the name and in any case. -/
def Names (s name : String) : Prop :=
  Text.sameLetters (Text.trim s.toList) name.toList = true

instance (s name : String) : Decidable (Names s name) := inferInstanceAs (Decidable (_ = true))

/-- What the field of a radio type says. -/
inductive RadioField (s : String) : Radio → Prop
  /-- The second generation. -/
  | gsm (h : Names s "GSM") : RadioField s .gsm
  /-- The third generation, under either name. -/
  | umts (h : Names s "UMTS" ∨ Names s "WCDMA") : RadioField s .umts
  /-- The fourth generation. -/
  | lte (h : Names s "LTE") : RadioField s .lte
  /-- Every other name. -/
  | unknown (h : ∀ name ∈ ["GSM", "UMTS", "WCDMA", "LTE"], ¬ Names s name) : RadioField s .unknown

/-! ## Values -/

/-- A text that agrees with two words in its letters makes them agree. -/
theorem Text.sameLetters_trans {cs a b : List Char} (ha : sameLetters cs a = true)
    (hb : sameLetters cs b = true) : sameLetters a b = true := by
  rw [sameLetters, beq_iff_eq] at ha hb ⊢
  exact ha.symm.trans hb

variable {s : String}

namespace Draft

section Optional

variable {α : Type} {Denotes : List Char → α → Prop} {read : List Char → Except ValueFault α}
  {standIn x y : α} {fault : ValueFault} {o : Option α}

/-- Reads a field that is absent if it is empty. -/
def optional (read : List Char → Except ValueFault α) (s : String) :
    Except ValueFault (Option α) :=
  if s.isEmpty then .ok none else (read s.toList).map some

theorem optional_of_ne (hne : s ≠ "") : optional read s = (read s.toList).map some :=
  if_neg fun hempty => hne (String.isEmpty_iff.1 hempty)

/-- Only a field that is there does not read. -/
theorem optional_eq_error_iff :
    optional read s = .error fault ↔ s ≠ "" ∧ read s.toList = .error fault := by
  by_cases hempty : s = ""
  · subst hempty
    refine iff_of_false (fun h => ?_) fun h => h.1 rfl
    cases h
  · rw [optional_of_ne hempty, map_eq_error_iff, and_iff_right hempty]

variable (hread : ∀ cs x, read cs = .ok x ↔ Denotes cs x) (hnil : ∀ x, ¬ Denotes [] x)
include hread hnil

theorem optional_eq_ok_iff :
    optional read s = .ok o ↔ (s = "" ∧ o = none) ∨ ∃ x, Denotes s.toList x ∧ o = some x := by
  by_cases hempty : s = ""
  · subst hempty
    have hnone : ¬ ∃ x, Denotes "".toList x ∧ o = some x := fun ⟨x, hx, _⟩ => hnil x hx
    rw [or_iff_left hnone, and_iff_right rfl]
    exact ⟨fun h => (Except.ok.inj h).symm, fun h => congrArg Except.ok h.symm⟩
  · rw [optional_of_ne hempty, map_eq_ok_iff, or_iff_right fun h => hempty h.1]
    simp only [hread, eq_comm]

/-- **A field that may be absent** is read as what it says. -/
theorem optionalField_iff :
    OptionalField Denotes standIn s x ↔ ∃ o, optional read s = .ok o ∧ o.getD standIn = x := by
  simp only [optional_eq_ok_iff hread hnil]
  constructor
  · rintro (_ | h)
    · exact ⟨none, Or.inl ⟨rfl, rfl⟩, rfl⟩
    · exact ⟨some x, Or.inr ⟨x, h, rfl⟩, rfl⟩
  · rintro ⟨_, ⟨rfl, rfl⟩ | ⟨x, h, rfl⟩, rfl⟩
    · exact .absent
    · exact .present h

theorem optionalField_iff_of_read (ho : optional read s = .ok o) :
    OptionalField Denotes standIn s x ↔ o.getD standIn = x := by
  rw [optionalField_iff hread hnil, ho]
  simp

/-- A field says one value. -/
theorem optionalField_unique (hx : OptionalField Denotes standIn s x)
    (hy : OptionalField Denotes standIn s y) : x = y := by
  obtain ⟨o, ho, rfl⟩ := (optionalField_iff hread hnil).1 hx
  exact (optionalField_iff_of_read hread hnil ho).1 hy

end Optional

/-! ## Whole numbers -/

section Whole

variable {range : Numeral.Interval} {standIn m n : Int} {fault : ValueFault} {o : Option Int}

/-- Reads a whole number. -/
def whole (range : Numeral.Interval) (cs : List Char) : Except ValueFault Int :=
  (Numeral.read range cs).mapError .numeral

theorem readWhole_eq (range : Numeral.Interval) (s : String) :
    readWhole range s = optional (whole range) s := by
  unfold readWhole optional whole
  cases Numeral.read range s.toList <;> rfl

theorem whole_eq_ok_iff (hzero : range.Has 0) (cs : List Char) (n : Int) :
    whole range cs = .ok n ↔ Numeral.Denotes cs n ∧ range.Has n := by
  rw [← Numeral.read_eq_ok_iff hzero, whole]
  cases Numeral.read range cs <;> simp [Except.mapError]

/-- An empty text is no numeral. -/
theorem not_denotes_nil (n : Int) : ¬ (Numeral.Denotes [] n ∧ range.Has n) :=
  fun h => h.1.digits_ne_nil rfl

/-- A whole number does not read if its field is no numeral of the interval. -/
theorem readWhole_eq_error_iff (hzero : range.Has 0) :
    readWhole range s = .error fault ↔
      s ≠ "" ∧ ∃ refusal, Numeral.Refused range s.toList refusal ∧ fault = .numeral refusal := by
  rw [readWhole_eq, optional_eq_error_iff, whole]
  simp only [← Numeral.read_eq_error_iff hzero]
  cases Numeral.read range s.toList <;> simp [Except.mapError, eq_comm]

/-- A whole number is read as what its field says. -/
theorem wholeField_iff (hzero : range.Has 0) :
    WholeField range standIn s n ↔ ∃ o, readWhole range s = .ok o ∧ o.getD standIn = n := by
  simp only [readWhole_eq]
  exact optionalField_iff (whole_eq_ok_iff hzero) not_denotes_nil

theorem wholeField_iff_of_read (hzero : range.Has 0) (hread : readWhole range s = .ok o) :
    WholeField range standIn s n ↔ o.getD standIn = n :=
  optionalField_iff_of_read (whole_eq_ok_iff hzero) not_denotes_nil (readWhole_eq range s ▸ hread)

theorem wholeField_unique (hzero : range.Has 0) (hm : WholeField range standIn s m)
    (hn : WholeField range standIn s n) : m = n :=
  optionalField_unique (whole_eq_ok_iff hzero) not_denotes_nil hm hn

/-- What a field says is in the interval, if what stands in for it is. -/
theorem has_of_wholeField (hstandIn : range.Has standIn) (h : WholeField range standIn s n) :
    range.Has n := by
  rcases h with _ | h
  · exact hstandIn
  · exact h.2

end Whole

/-! ## Numbers with a fraction -/

section Real

variable {standIn x y : Double} {fault : ValueFault} {o : Option Double}

/-- Reads a number with a fraction. -/
def real (cs : List Char) : Except ValueFault Double :=
  match Double.read? cs with
  | some x => .ok x
  | none => .error .notANumber

theorem readReal_eq (s : String) : readReal s = optional real s := by
  unfold readReal optional real
  cases Double.read? s.toList <;> rfl

theorem real_eq_ok_iff (cs : List Char) (x : Double) : real cs = .ok x ↔ Double.Denotes cs x := by
  rw [← Double.read?_eq_some_iff, real]
  cases Double.read? cs <;> simp

theorem not_denotes_nil_real (x : Double) : ¬ Double.Denotes [] x := by
  rw [← Double.read?_eq_some_iff]
  intro h
  cases h

theorem readReal_eq_ok_iff :
    readReal s = .ok o ↔ (s = "" ∧ o = none) ∨ ∃ x, Double.Denotes s.toList x ∧ o = some x := by
  rw [readReal_eq]
  exact optional_eq_ok_iff real_eq_ok_iff not_denotes_nil_real

/-- A number does not read if its field is no decimal text. -/
theorem readReal_eq_error_iff :
    readReal s = .error fault ↔
      s ≠ "" ∧ (∀ x, ¬ Double.Denotes s.toList x) ∧ fault = .notANumber := by
  rw [readReal_eq, optional_eq_error_iff, real]
  simp only [← Double.read?_eq_some_iff]
  cases Double.read? s.toList <;> simp [eq_comm]

/-- A number is read as what its field says. -/
theorem realField_iff :
    RealField standIn s x ↔ ∃ o, readReal s = .ok o ∧ o.getD standIn = x := by
  simp only [readReal_eq]
  exact optionalField_iff real_eq_ok_iff not_denotes_nil_real

theorem realField_iff_of_read (hread : readReal s = .ok o) :
    RealField standIn s x ↔ o.getD standIn = x :=
  optionalField_iff_of_read real_eq_ok_iff not_denotes_nil_real (readReal_eq s ▸ hread)

theorem realField_unique (hx : RealField standIn s x) (hy : RealField standIn s y) : x = y :=
  optionalField_unique real_eq_ok_iff not_denotes_nil_real hx hy

end Real

/-! ## Checked values -/

variable {rejection : RowFault}

/-- A range is taken as its field says. -/
theorem rangeField_iff {n : Int} :
    RangeField s n ↔ ∃ o, readReal s = .ok o ∧ rangeMeters o = .ok n := by
  simp only [readReal_eq_ok_iff]
  constructor
  · rintro (_ | ⟨h, hwithin⟩)
    · exact ⟨none, Or.inl ⟨rfl, rfl⟩, rfl⟩
    · exact ⟨some _, Or.inr ⟨_, h, rfl⟩, if_pos hwithin⟩
  · rintro ⟨_, ⟨rfl, rfl⟩ | ⟨x, h, rfl⟩, hmeters⟩
    · cases hmeters
      exact .absent
    · rw [rangeMeters] at hmeters
      split at hmeters
      · next hwithin =>
        cases hmeters
        exact .meters h hwithin
      · cases hmeters

/-- A range is rejected if its field says a number that is none. -/
theorem rangeMeters_eq_error_iff {o : Option Double} (hread : readReal s = .ok o) :
    rangeMeters o = .error rejection ↔
      ∃ x, Double.Denotes s.toList x ∧ x.within 0 2147483647 = false ∧
        rejection = .outOfRange .range (.real x) := by
  rcases readReal_eq_ok_iff.1 hread with ⟨rfl, rfl⟩ | ⟨x, hx, rfl⟩
  · refine iff_of_false nofun ?_
    rintro ⟨x, hx, -⟩
    exact not_denotes_nil_real x hx
  · have honly : ∀ y, Double.Denotes s.toList y ↔ y = x := by
      intro y
      rw [← Double.read?_eq_some_iff, Double.read?_eq_some_iff.2 hx, Option.some.injEq, eq_comm]
    simp only [honly, exists_eq_left]
    rw [rangeMeters]
    cases x.within 0 2147483647 <;> simp [eq_comm]

theorem truth_eq (s : String) :
    truth (readText s) =
      if s = "" ∨ IsWord s "1" ∨ IsWord s "true" then .ok true
      else if IsWord s "0" ∨ IsWord s "false" then .ok false
      else .error (.boolean s) := by
  rw [readText]
  by_cases hempty : s.isEmpty
  · rw [if_pos hempty, if_pos (Or.inl (String.isEmpty_iff.1 hempty))]
    rfl
  · have hne : s ≠ "" := fun h => hempty (String.isEmpty_iff.2 h)
    simp only [if_neg hempty, truth, hne, false_or, IsWord, Bool.or_eq_true]
    congr

/-- A truth value is taken as its field says. -/
theorem truthField_iff {b : Bool} : TruthField s b ↔ truth (readText s) = .ok b := by
  rw [truth_eq]
  constructor
  · rintro (_ | h | h)
    · exact if_pos (Or.inl rfl)
    · exact if_pos (Or.inr h)
    · rw [if_neg, if_pos h]
      -- no text is two words
      rintro (rfl | hother)
      · exact absurd h (by decide)
      · rcases h with h | h <;> rcases hother with hother | hother <;>
          exact nomatch Text.sameLetters_trans h hother
  · intro h
    split at h
    · next hyes =>
      cases h
      rcases hyes with rfl | hyes
      · exact .absent
      · exact .yes hyes
    · split at h
      · next hno =>
        cases h
        exact .no hno
      · cases h

/-- A truth value is rejected if its field says none. -/
theorem truth_eq_error_iff :
    truth (readText s) = .error rejection ↔
      (∀ b, ¬ TruthField s b) ∧ rejection = .boolean s := by
  simp only [truthField_iff]
  rw [truth_eq]
  split_ifs <;> simp [eq_comm]

theorem time_eq (c : Column) (o : Option Int) :
    time c o =
      if (Instant.ofSeconds (o.getD 0)).InCalendar then .ok (.ofSeconds (o.getD 0))
      else .error (.timestamp c (o.getD 0)) := by
  have hofSeconds? : Instant.ofSeconds? (o.getD 0) =
      if (Instant.ofSeconds (o.getD 0)).InCalendar then some (.ofSeconds (o.getD 0))
      else none := by
    simp only [Instant.ofSeconds?, Instant.InCalendar, Instant.second_ofSeconds]
  by_cases h : (Instant.ofSeconds (o.getD 0)).InCalendar
  · simp only [time, hofSeconds?, if_pos h]
  · simp only [time, hofSeconds?, if_neg h]

/-- A time is taken as its field says. -/
theorem timeField_iff (c : Column) {t : Instant} :
    TimeField s t ↔ ∃ o, readWhole .int64 s = .ok o ∧ time c o = .ok t := by
  constructor
  · rintro ⟨h, hcalendar⟩
    obtain ⟨o, hread, rfl⟩ := (wholeField_iff (by decide)).1 h
    exact ⟨o, hread, (time_eq c o).trans (if_pos hcalendar)⟩
  · rintro ⟨o, hread, htime⟩
    rw [time_eq] at htime
    split at htime
    · next hcalendar =>
      cases htime
      exact .seconds ((wholeField_iff (by decide)).2 ⟨o, hread, rfl⟩) hcalendar
    · cases htime

/-- A time is rejected if its field says a number of seconds for which there is no date. -/
theorem time_eq_error_iff (c : Column) {o : Option Int} (hread : readWhole .int64 s = .ok o) :
    time c o = .error rejection ↔
      ∃ n, WholeField .int64 0 s n ∧ ¬ (Instant.ofSeconds n).InCalendar ∧
        rejection = .timestamp c n := by
  simp only [wholeField_iff_of_read (by decide) hread, exists_eq_left']
  rw [time_eq]
  split_ifs with hcalendar <;> simp [hcalendar, eq_comm]

end Draft

/-! ## Radio types -/

/-- A radio type is told by its field. -/
theorem radioField_iff {r : Radio} : RadioField s r ↔ Radio.ofName s = r := by
  have hofName : Radio.ofName s =
      if Names s "GSM" then .gsm
      else if Names s "UMTS" ∨ Names s "WCDMA" then .umts
      else if Names s "LTE" then .lte
      else .unknown := by
    simp only [Radio.ofName, Bool.or_eq_true, Names]
    congr
  rw [hofName]
  constructor
  · rintro (h | h | h | h)
    · exact if_pos h
    · rw [if_neg, if_pos h]
      intro hgsm
      rcases h with h | h <;> exact nomatch Text.sameLetters_trans h hgsm
    · rw [if_neg, if_neg, if_pos h]
      · rintro (hother | hother) <;> exact nomatch Text.sameLetters_trans h hother
      · intro hother
        exact nomatch Text.sameLetters_trans h hother
    · simp only [List.forall_mem_cons] at h
      rw [if_neg h.1, if_neg (not_or.2 ⟨h.2.1, h.2.2.1⟩), if_neg h.2.2.2.1]
  · rintro rfl
    split_ifs with hgsm humts hlte
    · exact .gsm hgsm
    · exact .umts humts
    · exact .lte hlte
    · refine .unknown ?_
      simp only [List.forall_mem_cons]
      exact ⟨hgsm, fun h => humts (Or.inl h), fun h => humts (Or.inr h), hlte,
        List.forall_mem_nil _⟩

end CellExchange
