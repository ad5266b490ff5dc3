import CellExchange.Proofs.Text.Plain
import CellExchange.Text.Percent

/-! # Percent-encoding read back

**An encoded text is decoded as the bytes of the text** (`Percent.decode_encode`), for every class
of characters that are left as they are if the percent sign is not among them. So **no two texts are
encoded alike** (`Percent.encode_inj`). A text of such characters alone is its own encoding, and an
encoding has no other characters but percent signs and digits (`Percent.notMem_encode`). -/

namespace CellExchange.Percent

/-! ## Bytes -/

theorem hexValue?_hexDigit : ∀ n < 16, hexValue? (hexDigit n) = some n := by decide

/-- A percent sign and two digits are read as the byte that they were written for. -/
theorem decode_escape (b : UInt8) (rest : List Char) :
    decode (escape b ++ rest) = b :: decode rest := by
  have hhigh := hexValue?_hexDigit (b.toNat / 16) (by have := b.toNat_lt; omega)
  have hlow := hexValue?_hexDigit (b.toNat % 16) (Nat.mod_lt _ (by decide))
  show decode ('%' :: hexDigit (b.toNat / 16) :: hexDigit (b.toNat % 16) :: rest) = _
  rw [decode, hhigh, hlow]
  show UInt8.ofNat (16 * (b.toNat / 16) + b.toNat % 16) :: decode rest = b :: decode rest
  rw [Nat.div_add_mod, UInt8.ofNat_toNat]

theorem decode_flatMap_escape (bytes : List UInt8) (rest : List Char) :
    decode (bytes.flatMap escape ++ rest) = bytes ++ decode rest := by
  induction bytes with
  | nil => rfl
  | cons b bytes ih => rw [List.flatMap_cons, List.append_assoc, decode_escape, ih, List.cons_append]

/-- The characters that bytes are written with. -/
def escapeMarks : List Char := '%' :: (List.range 16).map hexDigit

theorem escape_subset (b : UInt8) : escape b ⊆ escapeMarks := by
  have hdigit (n : Nat) (hn : n < 16) : hexDigit n ∈ (List.range 16).map hexDigit :=
    List.mem_map_of_mem (List.mem_range.2 hn)
  have hhigh := hdigit (b.toNat / 16) (by have := b.toNat_lt; omega)
  have hlow := hdigit (b.toNat % 16) (Nat.mod_lt _ (by decide))
  rw [escape, escapeMarks]
  exact List.cons_subset_cons _ (List.cons_subset.2 ⟨hhigh, List.cons_subset.2 ⟨hlow,
    List.nil_subset _⟩⟩)

/-! ## Characters -/

theorem escapeChar_subset (c : Char) : escapeChar c ⊆ escapeMarks := by
  intro d hd
  obtain ⟨b, -, hd⟩ := List.mem_flatMap.1 hd
  exact escape_subset b hd

/-- A character other than the percent sign is read as its bytes. -/
theorem decode_cons {c : Char} (h : c ≠ '%') (rest : List Char) :
    decode (c :: rest) = String.utf8EncodeChar c ++ decode rest := by
  rw [decode]
  intro a b tail hc
  exact absurd hc h

/-- A character that was written by its bytes is read as them. -/
theorem decode_escapeChar (c : Char) (rest : List Char) :
    decode (escapeChar c ++ rest) = String.utf8EncodeChar c ++ decode rest :=
  decode_flatMap_escape _ rest

/-! ## Texts -/

variable {plain : Char → Bool}

/-- **An encoded text is decoded as the bytes of the text.** -/
theorem decode_encode (hpercent : plain '%' = false) (s : String) :
    decode (encode plain s.toList) = bytesOf s := by
  rw [bytesOf_eq_flatMap]
  induction s.toList with
  | nil => rfl
  | cons c cs ih =>
    rw [encode, List.flatMap_cons, ← encode, List.flatMap_cons]
    split
    · next hplain =>
      have hne : c ≠ '%' := by
        rintro rfl
        rw [hpercent] at hplain
        cases hplain
      rw [List.singleton_append, decode_cons hne, ih]
    · rw [decode_escapeChar, ih]

/-- **No two texts are encoded alike.** -/
theorem encode_inj (hpercent : plain '%' = false) {s t : String} :
    encode plain s.toList = encode plain t.toList ↔ s = t := by
  refine ⟨fun h => bytesOf_injective ?_, fun h => h ▸ rfl⟩
  rw [← decode_encode hpercent s, ← decode_encode hpercent t, h]

/-- A character that neither stands for itself nor writes a byte is in no encoding. -/
theorem notMem_encode {mark : Char} (hplain : plain mark = false) (hmark : mark ∉ escapeMarks)
    (cs : List Char) : mark ∉ encode plain cs := by
  rw [encode, List.mem_flatMap]
  rintro ⟨c, -, hmem⟩
  split at hmem
  · next hc =>
    obtain rfl := List.mem_singleton.1 hmem
    rw [hplain] at hc
    cases hc
  · exact hmark (escapeChar_subset c hmem)

/-- A text of characters that are left as they are is its own encoding. -/
theorem encode_of_plain {cs : List Char} (h : ∀ c ∈ cs, plain c = true) : encode plain cs = cs := by
  rw [encode, List.flatMap_congr fun c hc => if_pos (h c hc), List.flatMap_singleton']

end CellExchange.Percent
