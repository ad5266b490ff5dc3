import CellExchange.Gzip.Member
import Mathlib

/-! # Reading stored blocks

Stored blocks that were written are read back as their data (`Blocks.At.blocks_storedBlocks`), from
any byte of a file on. Bits are followed up to numbers of whole bytes (`Blocks.At.bits_number`), and
what is known of the blocks read so far goes along (`Blocks.At`): the position, the output, and that
the notes on the stretches passed are in order and within the output. -/

namespace CellExchange.Gzip

/-! ## Bytes at a place -/

/-- Whether a file holds some bytes at a place. -/
def Holds (input : ByteArray) (place : Nat) (bytes : ByteArray) : Prop :=
  place + bytes.size ≤ input.size ∧ input.extract place (place + bytes.size) = bytes

variable {input bytes more before after output : ByteArray} {place : Nat} {s : Blocks}

theorem holds_append (before bytes after : ByteArray) :
    Holds (before ++ bytes ++ after) before.size bytes := by
  constructor
  · rw [ByteArray.size_append, ByteArray.size_append]
    exact Nat.le_add_right _ _
  · rw [ByteArray.append_assoc]
    have hskip : (before ++ (bytes ++ after)).extract (before.size + 0) (before.size + bytes.size) =
        (bytes ++ after).extract 0 bytes.size := ByteArray.extract_append_size_add
    rw [Nat.add_zero] at hskip
    rw [hskip]
    exact ByteArray.extract_append_eq_left rfl

/-- The first bytes of bytes at a place are there. -/
theorem Holds.left (h : Holds input place (bytes ++ more)) : Holds input place bytes := by
  obtain ⟨hle, heq⟩ := h
  rw [ByteArray.size_append] at hle heq
  refine ⟨by omega, ?_⟩
  have hfirst := congrArg (fun b => b.extract 0 bytes.size) heq
  simp only [ByteArray.extract_extract] at hfirst
  rw [Nat.add_zero, Nat.min_eq_left (by omega), ByteArray.extract_append_eq_left rfl] at hfirst
  exact hfirst

/-- The last bytes of bytes at a place are behind the others. -/
theorem Holds.right (h : Holds input place (bytes ++ more)) :
    Holds input (place + bytes.size) more := by
  obtain ⟨hle, heq⟩ := h
  rw [ByteArray.size_append] at hle heq
  refine ⟨by omega, ?_⟩
  have hlast := congrArg (fun b => b.extract bytes.size (bytes.size + more.size)) heq
  simp only [ByteArray.extract_extract] at hlast
  rw [Nat.min_eq_left (by omega), ByteArray.extract_append_eq_right rfl rfl] at hlast
  rw [Nat.add_assoc]
  exact hlast

/-- Bytes that are listed are split where the list is. -/
theorem Holds.split {first rest : List UInt8} (h : Holds input place ⟨(first ++ rest).toArray⟩) :
    Holds input place ⟨first.toArray⟩ ∧ Holds input (place + first.length) ⟨rest.toArray⟩ := by
  have hsplit : (⟨(first ++ rest).toArray⟩ : ByteArray) = ⟨first.toArray⟩ ++ ⟨rest.toArray⟩ := by
    apply ByteArray.ext
    rw [ByteArray.data_append, List.append_toArray]
  rw [hsplit] at h
  exact ⟨h.left, h.right⟩

/-- The first byte at a place, and those behind it. -/
theorem Holds.cons {b : UInt8} {rest : List UInt8} (h : Holds input place ⟨(b :: rest).toArray⟩) :
    input[place]? = some b ∧ Holds input (place + 1) ⟨rest.toArray⟩ := by
  have hboth : Holds input place ⟨([b] ++ rest).toArray⟩ := h
  obtain ⟨⟨hle, heq⟩, hrest⟩ := hboth.split
  have hbyte : [input[place]].toByteArray = [b].toByteArray := by
    rw [← ByteArray.extract_add_one hle]
    exact heq
  refine ⟨?_, hrest⟩
  rw [getElem?_pos input place hle, (List.cons.inj (List.toByteArray_inj.1 hbyte)).1]

/-! ## Numbers -/

/-- A number of `n` bytes that stands at a place. -/
theorem Holds.number? {value n : Nat} (h : Holds input place ⟨(littleEndian value n).toArray⟩)
    (hvalue : value < 256 ^ n) : number? input place n = some value := by
  induction n generalizing value place with
  | zero =>
    rw [Nat.pow_zero, Nat.lt_one_iff] at hvalue
    rw [hvalue]
    rfl
  | succ n ih =>
    obtain ⟨hlow, hhigh⟩ := h.cons
    have hrest : value / 256 < 256 ^ n := by
      rw [Nat.div_lt_iff_lt_mul (by decide)]
      exact hvalue
    have hbyte : (UInt8.ofNat (value % 256)).toNat = value % 256 :=
      UInt8.toNat_ofNat_of_lt' (Nat.mod_lt value (by decide))
    simp only [Gzip.number?, hlow, ih hhigh hrest, bind, Option.bind, pure, hbyte]
    rw [Nat.mod_add_div]

/-! ## Bits -/

namespace Blocks

/-- What is known of the blocks read so far: how far reading has come in a file and what came out;
the notes on stretches are in order, and none is behind the output. -/
structure At (s : Blocks) (input : ByteArray) (position : Nat) (output : ByteArray) : Prop where
  /-- The file. -/
  input_eq : s.input = input
  /-- The bits read. -/
  position_eq : s.position = position
  /-- The bytes that came out. -/
  output_eq : s.output = output
  /-- The notes are in order. -/
  sorted : s.passed.toList.Pairwise (· ≤ ·)
  /-- The notes are within the output. -/
  bounded : ∀ n ∈ s.passed.toList, n ≤ output.size

theorem notePassed_position (s : Blocks) : s.notePassed.position = s.position := by
  rw [notePassed]
  split <;> rfl

/-- One bit. -/
theorem At.bit {position : Nat} (h : s.At input position output) {v : UInt8}
    (hv : input[position / 8]? = some v) :
    ∃ s', Reading.bit s = .ok ((v.toNat >>> (position % 8)) % 2) s' ∧
      s'.At input (position + 1) output := by
  refine ⟨{ s.notePassed with position := s.notePassed.position + 1 }, ?_, ?_⟩
  · simp only [Reading.bit, bind, EStateM.bind, get, getThe, MonadStateOf.get, EStateM.get,
      h.input_eq, h.position_eq, hv, notePassed_position]
    rfl
  · rw [notePassed]
    split
    · -- the new note is the size of the output, so it is behind all the others
      refine ⟨h.input_eq, congrArg (· + 1) h.position_eq, h.output_eq, ?_, ?_⟩
      · rw [Array.toList_push, List.pairwise_append]
        refine ⟨h.sorted, List.pairwise_singleton _ _, fun n hn m hm => ?_⟩
        rw [List.mem_singleton.1 hm, h.output_eq]
        exact h.bounded n hn
      · intro n hn
        rw [Array.toList_push, List.mem_append, List.mem_singleton] at hn
        obtain hn | rfl := hn
        · exact h.bounded n hn
        · exact Nat.le_of_eq (congrArg ByteArray.size h.output_eq)
    · exact ⟨h.input_eq, congrArg (· + 1) h.position_eq, h.output_eq, h.sorted, h.bounded⟩

/-- The bits of a byte from one of them on. -/
theorem At.bits_byte {v : UInt8} (hv : input[place]? = some v) (k : Nat) {i : Nat} (hk : i + k = 8)
    (h : s.At input (8 * place + i) output) :
    ∃ s', Reading.bits k s = .ok (v.toNat >>> i) s' ∧ s'.At input (8 * (place + 1)) output := by
  induction k generalizing i s with
  | zero =>
    -- all eight bits are read, and none is left above them
    obtain rfl : i = 8 := by omega
    have hnone : v.toNat >>> 8 = 0 := Nat.shiftRight_eq_zero _ _ v.toNat_lt
    rw [hnone]
    exact ⟨s, rfl, h⟩
  | succ k ih =>
    have hplace : (8 * place + i) / 8 = place := by omega
    have hoffset : (8 * place + i) % 8 = i := by omega
    obtain ⟨s₁, hbit, h₁⟩ := h.bit (by rw [hplace]; exact hv)
    obtain ⟨s₂, hbits, h₂⟩ := ih (i := i + 1) (by omega) h₁
    refine ⟨s₂, ?_, h₂⟩
    -- bit `i`, and the bits above it one place higher
    have hvalue : (v.toNat >>> i) % 2 + 2 * (v.toNat >>> (i + 1)) = v.toNat >>> i := by
      rw [Nat.shiftRight_succ]
      exact Nat.mod_add_div _ 2
    simp only [Reading.bits, bind, EStateM.bind, hbit, hbits, hoffset]
    exact congrArg (fun n => EStateM.Result.ok n s₂) hvalue

/-- More bits stand above those read before. -/
theorem bits_add {m n a b : Nat} {s₁ s₂ : Blocks} (hlow : Reading.bits m s = .ok a s₁)
    (hhigh : Reading.bits n s₁ = .ok b s₂) : Reading.bits (m + n) s = .ok (a + 2 ^ m * b) s₂ := by
  -- the induction is on the bits read first: the one read at once stays the lowest
  induction m generalizing s a with
  | zero =>
    obtain ⟨rfl, rfl⟩ : 0 = a ∧ s = s₁ := EStateM.Result.ok.inj hlow
    rw [Nat.zero_add, hhigh, Nat.pow_zero, Nat.one_mul, Nat.zero_add]
  | succ m ih =>
    rw [Nat.succ_add]
    simp only [Reading.bits, bind, EStateM.bind] at hlow ⊢
    cases hbit : Reading.bit s with
    | error flaw t =>
      rw [hbit] at hlow
      exact nomatch hlow
    | ok low t =>
      rw [hbit] at hlow
      cases hbits : Reading.bits m t with
      | error flaw u =>
        simp only [hbits] at hlow
        exact nomatch hlow
      | ok high u =>
        simp only [hbits] at hlow
        obtain ⟨rfl, rfl⟩ : low + 2 * high = a ∧ u = s₁ := EStateM.Result.ok.inj hlow
        simp only [ih hbits]
        have hvalue : low + 2 * (high + 2 ^ m * b) = low + 2 * high + 2 ^ (m + 1) * b := by
          rw [Nat.pow_succ, Nat.mul_add, Nat.mul_comm (2 ^ m) 2, Nat.mul_assoc, Nat.add_assoc]
        exact congrArg (fun n => EStateM.Result.ok n s₂) hvalue

/-- **A number of `n` bytes** is read bit by bit as it was written. -/
theorem At.bits_number {value n : Nat} (h : s.At input (8 * place) output)
    (hnumber : Holds input place ⟨(littleEndian value n).toArray⟩) (hvalue : value < 256 ^ n) :
    ∃ s', Reading.bits (8 * n) s = .ok value s' ∧ s'.At input (8 * (place + n)) output := by
  induction n generalizing value place s with
  | zero =>
    rw [Nat.pow_zero, Nat.lt_one_iff] at hvalue
    rw [hvalue]
    exact ⟨s, rfl, h⟩
  | succ n ih =>
    obtain ⟨hlow, hhigh⟩ := hnumber.cons
    have hrest : value / 256 < 256 ^ n := by
      rw [Nat.div_lt_iff_lt_mul (by decide)]
      exact hvalue
    have hbyte : (UInt8.ofNat (value % 256)).toNat = value % 256 :=
      UInt8.toNat_ofNat_of_lt' (Nat.mod_lt value (by decide))
    -- the lowest byte comes first, and its eight bits stand below all the others
    obtain ⟨s₁, hfirst, h₁⟩ := At.bits_byte hlow 8 (Nat.zero_add 8) h
    obtain ⟨s₂, hmore, h₂⟩ := ih h₁ hhigh hrest
    have hboth := bits_add hfirst hmore
    rw [hbyte, Nat.shiftRight_zero, show (2 : Nat) ^ 8 = 256 from rfl, Nat.mod_add_div] at hboth
    refine ⟨s₂, ?_, ?_⟩
    · rw [Nat.mul_succ, Nat.add_comm]
      exact hboth
    · rw [← Nat.add_assoc, Nat.add_right_comm]
      exact h₂

/-! ## Stored bytes -/

end Blocks

theorem toList_multiples (size start stop : Nat) :
    (multiples size start stop).toList =
      (List.range ((stop + size - 1) / size - (start + size - 1) / size)).map
        fun i => ((start + size - 1) / size + i) * size := by
  rw [multiples, Array.toList_map, Array.toList_range]

/-- Multiples come in order. -/
theorem pairwise_multiples (size start stop : Nat) :
    (multiples size start stop).toList.Pairwise (· ≤ ·) := by
  rw [toList_multiples, List.pairwise_map]
  refine List.pairwise_lt_range.imp fun hlt => ?_
  exact Nat.mul_le_mul_right size (Nat.add_le_add_left (Nat.le_of_lt hlt) _)

/-- Multiples lie between the numbers given, the second one left out. -/
theorem mem_multiples {size start stop n : Nat} (hsize : 0 < size)
    (h : n ∈ (multiples size start stop).toList) : start ≤ n ∧ n < stop := by
  rw [toList_multiples, List.mem_map] at h
  obtain ⟨i, hi, rfl⟩ := h
  rw [List.mem_range] at hi
  have hfirst := Nat.div_add_mod (start + size - 1) size
  have hmod := Nat.mod_lt (start + size - 1) hsize
  rw [Nat.mul_comm] at hfirst
  -- both ends are rounded up, so the last multiple counted ends before `stop + size`
  have hlast : ((start + size - 1) / size + i + 1) * size ≤ stop + size - 1 := by
    rw [← Nat.le_div_iff_mul_le hsize]
    omega
  rw [Nat.succ_mul] at hlast
  rw [Nat.add_mul] at hlast ⊢
  omega

namespace Blocks

/-- Stored bytes come out as they are. -/
theorem At.store (h : s.At input (8 * place) output) (hbytes : Holds input place bytes) :
    (s.store place (place + bytes.size)).At input (8 * (place + bytes.size))
      (output ++ bytes) := by
  have hbound : ∀ n ∈ (multiples stretchSize place (place + bytes.size)).toList,
      place ≤ n ∧ n < place + bytes.size := fun n => mem_multiples (by decide)
  have hpassed : (s.store place (place + bytes.size)).passed.toList = s.passed.toList ++
      (multiples stretchSize place (place + bytes.size)).toList.map
        fun n => output.size + (n - place) := by
    simp only [Blocks.store, Array.toList_append, Array.toList_map, h.output_eq]
  -- the output, and that the notes stay in order and within it
  refine ⟨h.input_eq, rfl, ?_, ?_, ?_⟩
  · simp only [Blocks.store, h.output_eq, h.input_eq, hbytes.2]
  · rw [hpassed, List.pairwise_append]
    refine ⟨h.sorted, ?_, fun n hn m hm => ?_⟩
    · rw [List.pairwise_map]
      refine (pairwise_multiples _ _ _).imp fun hle => ?_
      omega
    · obtain ⟨k, -, rfl⟩ := List.mem_map.1 hm
      exact Nat.le_trans (h.bounded n hn) (Nat.le_add_right _ _)
  · intro n hn
    rw [ByteArray.size_append]
    rw [hpassed, List.mem_append, List.mem_map] at hn
    obtain hn | ⟨k, hk, rfl⟩ := hn
    · exact Nat.le_trans (h.bounded n hn) (Nat.le_add_right _ _)
    · have hlt := hbound k hk
      omega

theorem At.storedBytes (h : s.At input (8 * place) output) (hbytes : Holds input place bytes) :
    Gzip.storedBytes bytes.size s = .ok () (s.store place (place + bytes.size)) := by
  have hstart : s.position / 8 = place := by
    rw [h.position_eq]
    omega
  have hstop : min (place + bytes.size) input.size = place + bytes.size :=
    Nat.min_eq_left hbytes.1
  simp only [Gzip.storedBytes, bind, EStateM.bind, get, getThe, MonadStateOf.get, EStateM.get,
    hstart, h.input_eq, hstop, Nat.lt_irrefl, if_false]
  rfl

end Blocks

/-! ## Stored blocks -/

/-- The bytes before the data of a stored block. -/
def blockHead (last : Bool) (size : Nat) : List UInt8 :=
  (if last then 1 else 0) :: littleEndian size 2 ++ littleEndian (65535 - size) 2

/-- A stored block of data. -/
def block (last : Bool) (bytes : ByteArray) : ByteArray :=
  ⟨(blockHead last bytes.size).toArray⟩ ++ bytes

theorem size_block (last : Bool) (bytes : ByteArray) :
    (block last bytes).size = 5 + bytes.size := by
  rw [block, ByteArray.size_append]
  rfl

/-- Data that fit in a block are stored in one. -/
theorem storedBlocks_of_le {data : ByteArray} (h : data.size ≤ 65535) (fuel : Nat) :
    storedBlocks data fuel = block true data := by
  have hblock : storedBlocks data fuel =
      ⟨(blockHead true (min data.size 65535)).toArray⟩ ++ data.extract 0 (min data.size 65535) := by
    cases fuel <;> simp only [storedBlocks, h, if_true] <;> rfl
  rw [hblock, Nat.min_eq_left h, ByteArray.extract_zero_size]
  rfl

/-- Data that do not fit in a block are stored in one block and those behind it. -/
theorem storedBlocks_of_lt {data : ByteArray} (h : 65535 < data.size) (fuel : Nat) :
    storedBlocks data (fuel + 1) =
      block false (data.extract 0 65535) ++ storedBlocks (data.extract 65535 data.size) fuel := by
  have hnot : ¬ data.size ≤ 65535 := Nat.not_le.2 h
  have hmin : min data.size 65535 = 65535 := Nat.min_eq_right (Nat.le_of_lt h)
  have hsize : (data.extract 0 65535).size = 65535 := by
    rw [ByteArray.size_extract]
    omega
  rw [storedBlocks.eq_def]
  simp only [hnot, hmin, if_false, block, blockHead, hsize]
  rfl

namespace Blocks

/-- The mark of a stored block is three bits: whether it is the last one, and its kind. -/
theorem At.mark (last : Bool) (h : s.At input (8 * place) output)
    (hmark : input[place]? = some (if last then 1 else 0)) :
    ∃ s₁ s₂, Reading.bit s = .ok (if last then 1 else 0) s₁ ∧ Reading.bits 2 s₁ = .ok 0 s₂ ∧
      s₂.At input (8 * place + 3) output := by
  have hbyte : ∀ i, i < 3 → input[(8 * place + i) / 8]? = some (if last then 1 else 0) := by
    intro i hi
    rw [show (8 * place + i) / 8 = place by omega]
    exact hmark
  have hoffset : ∀ i, i < 3 → (8 * place + i) % 8 = i := by omega
  obtain ⟨s₁, hbit₁, h₁⟩ := h.bit (hbyte 0 (by decide))
  obtain ⟨s₂, hbit₂, h₂⟩ := h₁.bit (hbyte 1 (by decide))
  obtain ⟨s₃, hbit₃, h₃⟩ := h₂.bit (hbyte 2 (by decide))
  rw [hoffset 1 (by decide)] at hbit₂
  rw [hoffset 2 (by decide)] at hbit₃
  refine ⟨s₁, s₃, ?_, ?_, h₃⟩
  · rw [hbit₁, show 8 * place % 8 = 0 by omega]
    cases last <;> rfl
  · simp only [Reading.bits, bind, EStateM.bind, hbit₂, hbit₃]
    cases last <;> rfl

/-- The rest of a stored block. -/
theorem At.storedBlock {last : Bool} (hsize : bytes.size ≤ 65535)
    (h : s.At input (8 * place + 3) output) (hblock : Holds input place (block last bytes)) :
    ∃ s', Gzip.storedBlock s = .ok () s' ∧
      s'.At input (8 * (place + (block last bytes).size)) (output ++ bytes) := by
  have hnumbers : Holds input (place + 1)
      ⟨(littleEndian bytes.size 2 ++ littleEndian (65535 - bytes.size) 2).toArray⟩ :=
    hblock.left.cons.2
  -- the rest of the byte with the mark is passed over
  have haligned : ({ s with position := (s.position + 7) / 8 * 8 } : Blocks).At input
      (8 * (place + 1)) output := by
    refine ⟨h.input_eq, ?_, h.output_eq, h.sorted, h.bounded⟩
    show (s.position + 7) / 8 * 8 = 8 * (place + 1)
    rw [h.position_eq]
    omega
  obtain ⟨s₁, hlength, h₁⟩ := haligned.bits_number hnumbers.split.1
    (Nat.lt_of_le_of_lt hsize (by decide))
  obtain ⟨s₂, hflipped, h₂⟩ := h₁.bits_number hnumbers.split.2
    (Nat.lt_of_le_of_lt (Nat.sub_le _ _) (by decide))
  have hbytes : Holds input (place + 5) bytes := hblock.right
  have hsum : bytes.size + (65535 - bytes.size) = 65535 := Nat.add_sub_of_le hsize
  refine ⟨s₂.store (place + 5) (place + 5 + bytes.size), ?_, ?_⟩
  · simp only [Gzip.storedBlock, Reading.align, bind, EStateM.bind, modify, modifyGet,
      MonadStateOf.modifyGet, EStateM.modifyGet, hlength, hflipped, hsum, ne_eq, not_true,
      if_false]
    exact h₂.storedBytes hbytes
  · rw [size_block, ← Nat.add_assoc]
    exact h₂.store hbytes

/-- A stored block that stands at a place is read, and then the blocks behind it if it is not the
last one. -/
theorem At.block {last : Bool} (hsize : bytes.size ≤ 65535) (h : s.At input (8 * place) output)
    (hblock : Holds input place (block last bytes)) :
    ∃ s', (∀ fuel, blocks (fuel + 1) s = if last then .ok () s' else blocks fuel s') ∧
      s'.At input (8 * (place + (Gzip.block last bytes).size)) (output ++ bytes) := by
  obtain ⟨s₁, s₂, hlast, hkind, h₂⟩ := h.mark last hblock.left.cons.1
  obtain ⟨s₃, hstored, h₃⟩ := h₂.storedBlock hsize hblock
  refine ⟨s₃, fun fuel => ?_, h₃⟩
  rw [blocks]
  simp only [bind, EStateM.bind, hlast, hkind, hstored]
  cases last <;> rfl

/-- **Stored blocks** that stand at a place are read to their end, and their data come out. -/
theorem At.blocks_storedBlocks {data : ByteArray} {n fuel : Nat} (hfuel : n < fuel)
    (hsize : data.size ≤ 65535 * (n + 1)) (h : s.At input (8 * place) output)
    (hholds : Holds input place (storedBlocks data n)) :
    ∃ s', blocks fuel s = .ok () s' ∧
      s'.At input (8 * (place + (storedBlocks data n).size)) (output ++ data) := by
  -- the induction is on the fuel of the writer; the reader has more than that
  induction n generalizing data fuel s place output with
  | zero =>
    obtain ⟨k, rfl⟩ := Nat.exists_eq_add_of_lt hfuel
    rw [storedBlocks_of_le hsize] at hholds ⊢
    obtain ⟨s', hblocks, h'⟩ := h.block hsize hholds
    refine ⟨s', ?_, h'⟩
    rw [Nat.zero_add]
    exact hblocks k
  | succ n ih =>
    obtain ⟨k, rfl⟩ : ∃ k, fuel = k + 1 := ⟨fuel - 1, by omega⟩
    by_cases hle : data.size ≤ 65535
    · rw [storedBlocks_of_le hle] at hholds ⊢
      obtain ⟨s', hblocks, h'⟩ := h.block hle hholds
      exact ⟨s', hblocks k, h'⟩
    · -- a full block, and the rest of the data in the blocks behind it
      have hlt : 65535 < data.size := Nat.lt_of_not_le hle
      have hfirst : (data.extract 0 65535).size ≤ 65535 := by
        rw [ByteArray.size_extract]
        omega
      have hrest : (data.extract 65535 data.size).size ≤ 65535 * (n + 1) := by
        rw [ByteArray.size_extract]
        omega
      have hdata : data.extract 0 65535 ++ data.extract 65535 data.size = data := by
        rw [ByteArray.extract_append_extract, Nat.min_eq_left (Nat.zero_le _),
          Nat.max_eq_right (Nat.le_of_lt hlt), ByteArray.extract_zero_size]
      rw [storedBlocks_of_lt hlt] at hholds ⊢
      obtain ⟨s₁, hblocks, h₁⟩ := h.block hfirst hholds.left
      obtain ⟨s₂, hmore, h₂⟩ := ih (Nat.lt_of_succ_lt_succ hfuel) hrest h₁ hholds.right
      refine ⟨s₂, (hblocks k).trans hmore, ?_⟩
      rw [ByteArray.append_assoc, hdata] at h₂
      rw [ByteArray.size_append, ← Nat.add_assoc]
      exact h₂

end Blocks

end CellExchange.Gzip
