import CellExchange.Proofs.Gzip.Delivery
import CellExchange.Proofs.Gzip.Stored

/-! # Members read back

**A member that was written reads back** (`readFrom_member`): its data arrive in pieces that make
them, without a flaw, wherever in a file the member stands, and reading goes on behind it. The parts
of the member are met one after another: its header (`blocksStart_member`), its blocks
(`ofBlocks_member`) and its trailer. So a file of written members holds the data of all of them, one
behind another (`read_members`). -/

namespace CellExchange.Gzip

variable {input data : ByteArray} {place : Nat}

/-! ## Parts of a member -/

/-- The header of a member. -/
def memberHead : List UInt8 := [0x1F, 0x8B, 8, 0, 0, 0, 0, 0, 0, 255]

/-- The trailer of a member. -/
def memberTail (data : ByteArray) : List UInt8 :=
  littleEndian (checksum data).toNat 4 ++ littleEndian (data.size % 4294967296) 4

/-- The blocks of a member. -/
def memberBlocks (data : ByteArray) : ByteArray := storedBlocks data (data.size / 65535)

theorem member_eq (data : ByteArray) :
    member data = ⟨memberHead.toArray⟩ ++ memberBlocks data ++ ⟨(memberTail data).toArray⟩ := rfl

theorem size_member (data : ByteArray) :
    (member data).size = 10 + (memberBlocks data).size + 8 := by
  rw [member_eq, ByteArray.size_append, ByteArray.size_append]
  rfl

/-- Stored blocks are no shorter than their data. -/
theorem size_le_size_storedBlocks {data : ByteArray} {n : Nat} (h : data.size ≤ 65535 * (n + 1)) :
    data.size ≤ (storedBlocks data n).size := by
  induction n generalizing data with
  | zero =>
    rw [storedBlocks_of_le h, size_block]
    exact Nat.le_add_left _ _
  | succ n ih =>
    by_cases hle : data.size ≤ 65535
    · rw [storedBlocks_of_le hle, size_block]
      exact Nat.le_add_left _ _
    · have hlt : 65535 < data.size := Nat.lt_of_not_le hle
      have hrest : (data.extract 65535 data.size).size = data.size - 65535 := by
        rw [ByteArray.size_extract, Nat.min_self]
      have hfits : (data.extract 65535 data.size).size ≤ 65535 * (n + 1) := by omega
      have hmore := ih hfits
      rw [storedBlocks_of_lt hlt, ByteArray.size_append, size_block, ByteArray.size_extract]
      omega

/-- The blocks of a member hold all its data. -/
theorem size_le_blocks (data : ByteArray) : data.size ≤ 65535 * (data.size / 65535 + 1) := by
  have hdiv := Nat.div_add_mod data.size 65535
  have hmod := Nat.mod_lt data.size (show 0 < 65535 by decide)
  omega

/-! ## Reading a member -/

/-- The blocks of a written member start behind its header. -/
theorem blocksStart_member (h : Holds input place ⟨memberHead.toArray⟩) :
    blocksStart input place = .ok (place + 10) := by
  have hsize : place + 10 ≤ input.size := h.1
  have hparts : Holds input place ⟨(littleEndian 0x088B1F 3 ++
      (littleEndian 0 1 ++ [0, 0, 0, 0, 0, 255])).toArray⟩ := h
  obtain ⟨hmark, hrest⟩ := hparts.split
  have hmark : number? input place 3 = some 0x088B1F := hmark.number? (by decide)
  have hflags : number? input (place + 3) 1 = some 0 := hrest.split.1.number? (by decide)
  simp only [blocksStart, if_neg (Nat.not_lt.2 hsize), hmark, hflags]
  rfl

/-- The blocks of a written member are read to their end, and its data come out. -/
theorem ofBlocks_member (h : Holds input place (memberBlocks data)) :
    (Course.ofBlocks input place).IsNoted ∧ (Course.ofBlocks input place).output = data ∧
      (Course.ofBlocks input place).outcome = .ok (place + (memberBlocks data).size) := by
  have hstart : ({ input, position := 8 * place } : Blocks).At input (8 * place) .empty :=
    ⟨rfl, rfl, rfl, List.Pairwise.nil, fun _ hn => nomatch hn⟩
  have hbytes : data.size ≤ input.size :=
    calc data.size ≤ (memberBlocks data).size := size_le_size_storedBlocks (size_le_blocks data)
      _ ≤ input.size := Nat.le_trans (Nat.le_add_left _ _) h.1
  -- reading has a round for each bit of the file, and the file is no shorter than its data
  have hfuel : data.size / 65535 < 8 * input.size + 1 := by
    have hdiv := Nat.div_le_self data.size 65535
    omega
  obtain ⟨s, hblocks, hs⟩ := hstart.blocks_storedBlocks hfuel (size_le_blocks data) h
  rw [ByteArray.empty_append] at hs
  have hinflate : inflate input place = (s, .ok ((s.position + 7) / 8)) := by
    simp only [inflate, EStateM.run, hblocks]
  have hend : (s.position + 7) / 8 = place + (memberBlocks data).size := by
    rw [hs.position_eq, ← memberBlocks]
    omega
  simp only [Course.ofBlocks, hinflate, Course.output, hend]
  refine ⟨⟨hs.sorted, ?_⟩, hs.output_eq, trivial⟩
  intro n hn
  show n ≤ s.output.size
  rw [hs.output_eq]
  exact hs.bounded n hn

/-- **A written member reads back**: its data arrive in pieces that make them, and then come the
members behind it, or the end. -/
theorem readFrom_member (h : Holds input place (member data)) (fuel : Nat) :
    ∃ pieces, joined pieces = data ∧
      readFrom input place (fuel + 1) =
        if input.size ≤ place + (member data).size then ⟨pieces, none⟩
        else
          ⟨pieces ++ (readFrom input (place + (member data).size) fuel).pieces,
            (readFrom input (place + (member data).size) fuel).flaw⟩ := by
  rw [member_eq] at h
  have hblocks : Holds input (place + 10) (memberBlocks data) := h.left.right
  have htail : Holds input (place + 10 + (memberBlocks data).size)
      ⟨(memberTail data).toArray⟩ := by
    have hright := h.right
    rw [ByteArray.size_append, ← Nat.add_assoc] at hright
    exact hright
  obtain ⟨hsum, hlength⟩ := Holds.split htail
  have hsum : number? input (place + 10 + (memberBlocks data).size) 4 =
      some (checksum data).toNat := hsum.number? (checksum data).toNat_lt
  have hlength : number? input (place + 10 + (memberBlocks data).size + 4) 4 =
      some (data.size % 4294967296) := hlength.number? (Nat.mod_lt _ (by decide))
  have hend : place + (member data).size = place + 10 + (memberBlocks data).size + 8 := by
    rw [size_member, Nat.add_assoc, Nat.add_assoc, Nat.add_assoc]
  obtain ⟨hnoted, houtput, houtcome⟩ := ofBlocks_member hblocks
  refine ⟨(Course.ofBlocks input (place + 10)).pieces, ?_, ?_⟩
  · rw [Course.joined_pieces hnoted houtcome, houtput]
  · rw [hend]
    simp only [readFrom, blocksStart_member h.left.left, houtcome, houtput, hsum, hlength,
      ne_eq, not_true, or_self, if_false]

/-- A file begins with the bytes that it was put together from. -/
theorem holds_start (bytes after : ByteArray) : Holds (bytes ++ after) 0 bytes := by
  have h := holds_append .empty bytes after
  rw [ByteArray.empty_append] at h
  exact h

/-- A member is no shorter than its header and its trailer. -/
theorem size_member_ge (data : ByteArray) : 18 ≤ (member data).size := by
  rw [size_member]
  omega

/-- **Written members behind one another**, up to the end of a file, are read one after another. -/
theorem readFrom_members {datas : List ByteArray} (hne : datas ≠ []) {fuel : Nat}
    (h : Holds input place (joined (datas.map member)))
    (hend : input.size = place + (joined (datas.map member)).size)
    (hfuel : datas.length ≤ fuel) :
    ∃ pieces, joined pieces = joined datas ∧ readFrom input place fuel = ⟨pieces, none⟩ := by
  induction datas generalizing place fuel with
  | nil => exact absurd rfl hne
  | cons data rest ih =>
    rw [List.length_cons] at hfuel
    obtain ⟨fuel, rfl⟩ : ∃ n, fuel = n + 1 := Nat.exists_eq_add_one.2 (by omega)
    rw [List.map_cons, joined_cons] at h hend
    rw [ByteArray.size_append] at hend
    obtain ⟨pieces, hpieces, hread⟩ := readFrom_member h.left fuel
    cases rest with
    | nil =>
      -- the last member ends with the file
      rw [List.map_nil, joined_nil, ByteArray.size_empty] at hend
      rw [if_pos (by omega)] at hread
      exact ⟨pieces, by rw [hpieces, joined_cons, joined_nil, ByteArray.append_empty], hread⟩
    | cons next more =>
      have hsize : input.size =
          place + (member data).size + (joined ((next :: more).map member)).size := by omega
      obtain ⟨behind, hbehind, hrest⟩ :=
        ih (List.cons_ne_nil next more) h.right hsize (Nat.le_of_succ_le_succ hfuel)
      have hnext : 18 ≤ (joined ((next :: more).map member)).size := by
        rw [List.map_cons, joined_cons, ByteArray.size_append]
        exact Nat.le_trans (size_member_ge next) (Nat.le_add_right _ _)
      rw [if_neg (by omega), hrest] at hread
      refine ⟨pieces ++ behind, ?_, hread⟩
      rw [joined_append, hpieces, hbehind, joined_cons data]

/-- Members are no fewer than their bytes. -/
theorem length_le_size_members (datas : List ByteArray) :
    datas.length ≤ (joined (datas.map member)).size := by
  induction datas with
  | nil => exact Nat.zero_le _
  | cons data rest ih =>
    have hmember := size_member_ge data
    rw [List.map_cons, joined_cons, ByteArray.size_append, List.length_cons]
    omega

/-- **A file of written members** holds their data, one behind another, and no flaw. -/
theorem read_members {datas : List ByteArray} (hne : datas ≠ []) :
    joined (read (joined (datas.map member))).pieces = joined datas ∧
      (read (joined (datas.map member))).flaw = none := by
  have hholds := holds_start (joined (datas.map member)) .empty
  rw [ByteArray.append_empty] at hholds
  obtain ⟨pieces, hpieces, hread⟩ := readFrom_members hne hholds (Nat.zero_add _).symm
    (Nat.le_succ_of_le (length_le_size_members datas))
  rw [read, hread]
  exact ⟨hpieces, rfl⟩

/-- **A file that is one written member** holds its data and no flaw. -/
theorem read_member (data : ByteArray) :
    joined (read (member data)).pieces = data ∧ (read (member data)).flaw = none := by
  have hread := read_members (List.cons_ne_nil data [])
  rw [List.map_singleton, joined_cons, joined_cons, joined_nil, ByteArray.append_empty,
    ByteArray.append_empty] at hread
  exact hread

/-- Too few bytes for another member behind a written one are a flaw, but its data are there. -/
theorem read_member_append (data : ByteArray) {after : ByteArray} (hsome : 0 < after.size)
    (hfew : after.size < 10) :
    joined (read (member data ++ after)).pieces = data ∧
      (read (member data ++ after)).flaw = some .cut := by
  have hsize := ByteArray.size_append (a := member data) (b := after)
  have hend : ¬ (member data ++ after).size ≤ 0 + (member data).size := by omega
  have hshort : (member data ++ after).size < 0 + (member data).size + 10 := by omega
  obtain ⟨fuel, hfuel⟩ : ∃ fuel, (member data ++ after).size = fuel + 1 :=
    Nat.exists_eq_add_one.2 (by omega)
  -- another header would need ten bytes
  have hrest : readFrom (member data ++ after) (0 + (member data).size) (fuel + 1) =
      ⟨[], some .cut⟩ := by
    simp only [readFrom, blocksStart, if_pos hshort]
    rfl
  obtain ⟨pieces, hpieces, hread⟩ :=
    readFrom_member (holds_start (member data) after) (member data ++ after).size
  rw [if_neg hend, hfuel, hrest] at hread
  rw [read, hfuel, hread, List.append_nil]
  exact ⟨hpieces, rfl⟩

end CellExchange.Gzip
