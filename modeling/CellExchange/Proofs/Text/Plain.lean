import CellExchange.Csv.Record
import Mathlib

/-! # Plain texts

The characters that written fields are made of (`IsPlain`): those of ASCII that show, but for the
comma and the quotation mark. A plain text has nothing to trim, its bytes are its characters, and
none of them means anything to a reader of records. -/

namespace CellExchange

/-- A character that shows, of ASCII, and neither a comma nor a quotation mark. -/
def IsPlain (c : Char) : Prop := 33 ≤ c.toNat ∧ c.toNat < 127 ∧ c ≠ ',' ∧ c ≠ '"'

instance (c : Char) : Decidable (IsPlain c) := inferInstanceAs (Decidable (_ ∧ _))

/-- A plain character is none of those that do not show. -/
theorem IsPlain.ne_of_lt {c d : Char} (h : IsPlain c) (hd : d.toNat < 33) : c ≠ d := by
  rintro rfl
  exact Nat.not_le.2 hd h.1

/-- A text of plain characters. -/
def IsPlainText (s : String) : Prop := ∀ c ∈ s.toList, IsPlain c

-- The instance is given by name: by inference it may be one that goes through all characters.
instance (s : String) : Decidable (IsPlainText s) := List.decidableBAll IsPlain s.toList

theorem isPlain_of_isDigit {c : Char} (h : c.isDigit = true) : IsPlain c := by
  rw [Char.isDigit, Bool.and_eq_true, decide_eq_true_eq, decide_eq_true_eq] at h
  have hlow : 48 ≤ c.toNat := h.1
  have hhigh : c.toNat ≤ 57 := h.2
  refine ⟨by omega, by omega, ?_, ?_⟩
  · rintro rfl
    exact absurd hlow (by decide)
  · rintro rfl
    exact absurd hlow (by decide)

/-! ## Trimming -/

theorem isBlank_of_isPlain {c : Char} (h : IsPlain c) : Text.isBlank c = false := by
  obtain ⟨hlow, hhigh, -, -⟩ := h
  simp only [Text.isBlank, Bool.or_eq_false_iff, Bool.and_eq_false_iff, decide_eq_false_iff_not,
    beq_eq_false_iff_ne]
  omega

/-- Nothing is dropped from the front of a text that begins with no blank. -/
theorem dropWhile_isBlank {cs : List Char} (h : ∀ c ∈ cs, IsPlain c) :
    cs.dropWhile Text.isBlank = cs := by
  cases cs with
  | nil => rfl
  | cons c rest =>
    rw [List.dropWhile_cons_of_neg]
    rw [isBlank_of_isPlain (h c List.mem_cons_self)]
    decide

/-- **A plain text has nothing to trim.** -/
theorem trimmed_of_isPlainText {s : String} (h : IsPlainText s) : Text.trimmed s = s := by
  have hreverse : ∀ c ∈ s.toList.reverse, IsPlain c := fun c hc => h c (List.mem_reverse.1 hc)
  rw [Text.trimmed, Text.trim, Text.trimStart, Text.trimEnd, dropWhile_isBlank h,
    dropWhile_isBlank hreverse, List.reverse_reverse, String.ofList_toList]

/-! ## Bytes -/

/-- The bytes of a text. -/
def bytesOf (s : String) : List UInt8 := s.toByteArray.data.toList

theorem bytesOf_append (s t : String) : bytesOf (s ++ t) = bytesOf s ++ bytesOf t := by
  rw [bytesOf, String.toByteArray_append, ByteArray.data_append, Array.toList_append]
  rfl

/-- The bytes of a text, character by character. -/
theorem bytesOf_eq_flatMap (s : String) : bytesOf s = s.toList.flatMap String.utf8EncodeChar := by
  rw [bytesOf, ← String.utf8Encode_toList, List.utf8Encode, List.data_toByteArray,
    List.toList_toArray]

/-- **The bytes of a text are decoded as the text.** -/
theorem decode?_bytesOf (s : String) : Csv.decode? (bytesOf s) = some s := by
  have hbytes : (⟨(bytesOf s).toArray⟩ : ByteArray) = s.toByteArray := by
    rw [bytesOf, Array.toArray_toList]
  rw [Csv.decode?, hbytes, String.fromUTF8?, dif_pos s.isValidUTF8]
  rfl

/-- Bytes are decoded as a text exactly if they are its bytes. -/
theorem decode?_eq_some_iff {bytes : List UInt8} {s : String} :
    Csv.decode? bytes = some s ↔ bytes = bytesOf s := by
  refine ⟨fun h => ?_, fun h => h ▸ decode?_bytesOf s⟩
  rw [Csv.decode?, String.fromUTF8?] at h
  split at h
  · obtain rfl := Option.some.inj h
    rfl
  · cases h

theorem bytesOf_injective : Function.Injective bytesOf := fun s t h =>
  Option.some.inj ((decode?_bytesOf s).symm.trans (h ▸ decode?_bytesOf t))

/-- The bytes of a character that is not of ASCII are not of ASCII. -/
theorem le_of_mem_utf8EncodeChar {c : Char} (h : 128 ≤ c.toNat) {b : UInt8}
    (hb : b ∈ String.utf8EncodeChar c) : 128 ≤ b.toNat := by
  have hvalue : ¬ c.val.toNat ≤ 127 := Nat.not_le.2 h
  rw [String.utf8EncodeChar.eq_def] at hb
  dsimp only at hb
  rw [if_neg hvalue] at hb
  split_ifs at hb <;> simp only [List.mem_cons, List.not_mem_nil, or_false] at hb
  · rcases hb with rfl | rfl <;> simp only [UInt8.toNat_ofNat'] <;> omega
  · rcases hb with rfl | rfl | rfl <;> simp only [UInt8.toNat_ofNat'] <;> omega
  · rcases hb with rfl | rfl | rfl | rfl <;> simp only [UInt8.toNat_ofNat'] <;> omega

/-- A byte that means nothing to a reader of records. -/
def IsPlainByte (b : UInt8) : Prop :=
  b ≠ Csv.Scan.comma ∧ b ≠ Csv.Scan.quote ∧ Csv.Scan.endsRecord b = false

/-- A plain character is one byte. -/
theorem utf8EncodeChar_of_isPlain {c : Char} (h : IsPlain c) :
    String.utf8EncodeChar c = [UInt8.ofNat c.toNat] := by
  have hsize : c.utf8Size = 1 := Char.utf8Size_eq_one_iff.2 (Nat.le_of_lt_succ (by
    show c.toNat < 128
    exact Nat.lt_trans h.2.1 (by decide)))
  rw [String.utf8EncodeChar_eq_singleton hsize]
  rfl

/-- A plain character is a plain byte. -/
theorem isPlainByte_of_isPlain {c : Char} (h : IsPlain c) : IsPlainByte (UInt8.ofNat c.toNat) := by
  obtain ⟨hlow, hhigh, hcomma, hquote⟩ := h
  have hvalue : (UInt8.ofNat c.toNat).toNat = c.toNat :=
    UInt8.toNat_ofNat_of_lt' (Nat.lt_trans hhigh (by decide))
  have hne : ∀ b : UInt8, b.toNat ≠ c.toNat → UInt8.ofNat c.toNat ≠ b := by
    rintro b hb rfl
    exact hb hvalue
  refine ⟨hne _ fun heq => hcomma (Char.toNat_inj.1 heq.symm),
    hne _ fun heq => hquote (Char.toNat_inj.1 heq.symm), ?_⟩
  rw [Csv.Scan.endsRecord, Bool.or_eq_false_iff, beq_eq_false_iff_ne, beq_eq_false_iff_ne]
  constructor
  · refine hne _ ?_
    show 10 ≠ c.toNat
    omega
  · refine hne _ ?_
    show 13 ≠ c.toNat
    omega

/-- The bytes of a plain text are its characters. -/
theorem bytesOf_of_isPlainText {s : String} (h : IsPlainText s) :
    bytesOf s = s.toList.map fun c => UInt8.ofNat c.toNat := by
  rw [bytesOf_eq_flatMap, List.map_eq_flatMap]
  exact List.flatMap_congr fun c hc => utf8EncodeChar_of_isPlain (h c hc)

/-- **The bytes of a plain text are plain.** -/
theorem isPlainByte_of_mem_bytesOf {s : String} (h : IsPlainText s) {b : UInt8}
    (hb : b ∈ bytesOf s) : IsPlainByte b := by
  rw [bytesOf_of_isPlainText h, List.mem_map] at hb
  obtain ⟨c, hc, rfl⟩ := hb
  exact isPlainByte_of_isPlain (h c hc)

/-- A map that keeps the order of the elements of two lists keeps the order of the lists. -/
theorem map_lt_of_mem {α β : Type} [LT α] [LT β] {f : α → β} {l m : List α}
    (hmono : ∀ a ∈ l, ∀ b ∈ m, a < b → f a < f b) (h : l < m) : l.map f < m.map f := by
  induction l generalizing m with
  | nil =>
    cases m with
    | nil => exact absurd h (by rintro ⟨⟩)
    | cons b m => exact List.nil_lt_cons _ _
  | cons a l ih =>
    cases m with
    | nil => exact absurd h (by rintro ⟨⟩)
    | cons b m =>
      rw [List.cons_lt_cons_iff] at h
      rw [List.map_cons, List.map_cons, List.cons_lt_cons_iff]
      obtain hlt | ⟨heq, hrest⟩ := h
      · exact Or.inl (hmono a List.mem_cons_self b List.mem_cons_self hlt)
      · refine Or.inr ⟨congrArg f heq, ih (fun x hx y hy => ?_) hrest⟩
        exact hmono x (List.mem_cons_of_mem a hx) y (List.mem_cons_of_mem b hy)

/-- **Plain texts are in the order of their bytes.** -/
theorem bytesOf_lt {s t : String} (hs : IsPlainText s) (ht : IsPlainText t)
    (h : s.toList < t.toList) : bytesOf s < bytesOf t := by
  rw [bytesOf_of_isPlainText hs, bytesOf_of_isPlainText ht]
  refine map_lt_of_mem (fun c hc d hd hlt => ?_) h
  have hvalue (e : Char) (he : IsPlain e) : (UInt8.ofNat e.toNat).toNat = e.toNat :=
    UInt8.toNat_ofNat_of_lt' (Nat.lt_trans he.2.1 (by decide))
  rw [UInt8.lt_iff_toNat_lt, hvalue c (hs c hc), hvalue d (ht d hd)]
  exact hlt

end CellExchange
