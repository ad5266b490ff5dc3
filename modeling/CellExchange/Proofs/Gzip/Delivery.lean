import CellExchange.Gzip.Delivery
import CellExchange.Proofs.Files

/-! # Nothing is lost on the way to a reader

**The pieces in which the data of a member arrive make the data** (`Course.joined_pieces`), if its
blocks were read to their end. Pieces end where data were unpacked so far, and the notes on the
stretches passed tell how far that is; as long as the notes are in order and within the output
(`Course.IsNoted`), what has arrived never goes back and never goes beyond what came out
(`Course.Reaches`), one round, one piece and one reader after another. -/

namespace CellExchange.Gzip.Course

variable {c : Course} {p next : Progress} {i j m n : Nat}

/-- Whether the notes on the stretches passed are in order, and none is behind the output. -/
structure IsNoted (c : Course) : Prop where
  /-- The notes are in order. -/
  sorted : c.final.passed.toList.Pairwise (· ≤ ·)
  /-- The notes are within the output. -/
  bounded : ∀ n ∈ c.final.passed.toList, n ≤ c.output.size

/-! ## Notes -/

/-- The place of the note on a stretch. -/
theorem passed?_eq (c : Course) (i : Nat) :
    c.passed? i = c.final.passed[i + if c.start % stretchSize = 0 then 1 else 0]? := by
  rw [passed?]
  split <;> rfl

/-- No note is behind the output. -/
theorem IsNoted.passed?_le (h : c.IsNoted) (hn : c.passed? i = some n) : n ≤ c.output.size := by
  rw [passed?_eq] at hn
  exact h.bounded n (Array.mem_toList_iff.2 (Array.mem_of_getElem? hn))

/-- A later stretch is passed with no less output. -/
theorem IsNoted.passed?_mono (h : c.IsNoted) (hij : i ≤ j) (hm : c.passed? i = some m)
    (hn : c.passed? j = some n) : m ≤ n := by
  obtain rfl | hlt := Nat.eq_or_lt_of_le hij
  · rw [hm] at hn
    exact Nat.le_of_eq (Option.some.inj hn)
  · rw [passed?_eq] at hm hn
    obtain ⟨hi, rfl⟩ := Array.getElem?_eq_some_iff.1 hm
    obtain ⟨hj, rfl⟩ := Array.getElem?_eq_some_iff.1 hn
    exact List.pairwise_iff_getElem.1 h.sorted _ _ hi hj (Nat.add_lt_add_right hlt _)

/-- Behind a stretch that is not passed none is. -/
theorem passed?_eq_none (hij : i ≤ j) (h : c.passed? i = none) : c.passed? j = none := by
  rw [passed?_eq, Array.getElem?_eq_none_iff] at h ⊢
  exact Nat.le_trans h (Nat.add_le_add_right hij _)

/-! ## Progress -/

/-- What holds of data on the way: what has arrived is unpacked; what is unpacked came out, and came
out before the stretch at hand was used up. -/
structure Reaches (c : Course) (p : Progress) : Prop where
  /-- What has arrived is unpacked. -/
  arrived_le : p.arrived ≤ p.unpacked
  /-- What is unpacked came out. -/
  unpacked_le : p.unpacked ≤ c.output.size
  /-- What is unpacked came out before the stretch at hand was used up. -/
  unpacked_le_passed : ∀ i n, p.stretches ≤ i → c.passed? i = some n → p.unpacked ≤ n

/-- Nothing has arrived at the start. -/
theorem reaches_start (c : Course) : c.Reaches {} :=
  ⟨Nat.le_refl 0, Nat.zero_le _, fun _ n _ _ => Nat.zero_le n⟩

/-- Less may have arrived, and more stretches may be used up. -/
theorem Reaches.later (h : c.Reaches p) {arrived : Nat} (harrived : arrived ≤ p.unpacked)
    (more : Nat) : c.Reaches ⟨arrived, p.unpacked, p.stretches + more⟩ :=
  ⟨harrived, h.unpacked_le, fun i n hi hn =>
    h.unpacked_le_passed i n (Nat.le_trans (Nat.le_add_right _ _) hi) hn⟩

/-- When no stretch is passed any more, all that came out may be unpacked. -/
theorem reaches_of_passed?_eq_none (hnone : c.passed? i = none) {arrived unpacked : Nat}
    (harrived : arrived ≤ unpacked) (hunpacked : unpacked ≤ c.output.size) :
    c.Reaches ⟨arrived, unpacked, i⟩ := by
  refine ⟨harrived, hunpacked, fun j n hj hn => ?_⟩
  rw [passed?_eq_none hj hnone] at hn
  exact nomatch hn

/-- The window is full behind what has arrived. -/
theorem arrived_lt_limit (n : Nat) : n < (n / windowSize + 1) * windowSize := by
  rw [Nat.add_mul, Nat.one_mul, Nat.mul_comm]
  have hdiv := Nat.div_add_mod n windowSize
  have hmod := Nat.mod_lt n (show 0 < windowSize by decide)
  omega

/-- **A round that pauses** has unpacked no less than before, and nothing that did not come out. -/
theorem Reaches.round_paused (hnoted : c.IsNoted) (h : c.Reaches p) {unpacked : Nat} {usedUp : Bool}
    (hround : c.round p = .paused unpacked usedUp) :
    p.arrived ≤ unpacked ∧ c.Reaches ⟨p.arrived, unpacked, p.stretches⟩ := by
  have hlimit := arrived_lt_limit p.arrived
  rw [round] at hround
  generalize (p.arrived / windowSize + 1) * windowSize = limit at hlimit hround
  cases hpassed : c.passed? p.stretches with
  | some reached =>
    -- the stretch at hand is passed: unpacking stops at its end or where the window is full
    simp only [hpassed] at hround
    have hreached := Nat.le_trans h.arrived_le (h.unpacked_le_passed _ _ (Nat.le_refl _) hpassed)
    have hlater : ∀ i n, p.stretches ≤ i → c.passed? i = some n → reached ≤ n :=
      fun i n hi hn => hnoted.passed?_mono hi hpassed hn
    by_cases hle : reached ≤ limit
    · rw [if_pos hle] at hround
      obtain ⟨rfl, -⟩ := Round.paused.inj hround
      exact ⟨hreached, hreached, hnoted.passed?_le hpassed, hlater⟩
    · rw [if_neg hle] at hround
      obtain ⟨rfl, -⟩ := Round.paused.inj hround
      have hlt := Nat.le_of_lt (Nat.lt_of_not_le hle)
      exact ⟨Nat.le_of_lt hlimit, Nat.le_of_lt hlimit,
        Nat.le_trans hlt (hnoted.passed?_le hpassed),
        fun i n hi hn => Nat.le_trans hlt (hlater i n hi hn)⟩
  | none =>
    -- no stretch is passed any more, so the notes bound nothing
    simp only [hpassed] at hround
    by_cases hlt : limit < c.output.size
    · rw [if_pos hlt] at hround
      obtain ⟨rfl, -⟩ := Round.paused.inj hround
      have hforward := Nat.le_of_lt hlimit
      exact ⟨hforward, reaches_of_passed?_eq_none hpassed hforward (Nat.le_of_lt hlt)⟩
    · rw [if_neg hlt] at hround
      have hout := Nat.le_trans h.arrived_le h.unpacked_le
      -- without room for more a round pauses only where the data break off
      have hunpacked : unpacked = c.output.size := by
        cases houtcome : c.outcome with
        | ok place => rw [houtcome] at hround; exact nomatch hround
        | error flaw =>
          cases flaw <;> rw [houtcome] at hround <;> first
            | exact (Round.paused.inj hround).1.symm
            | exact nomatch hround
      rw [hunpacked]
      exact ⟨hout, reaches_of_passed?_eq_none hpassed hout (Nat.le_refl _)⟩

/-- A round that completes leaves all stretches behind. -/
theorem round_completed (hround : c.round p = .completed) : c.passed? p.stretches = none := by
  rw [round] at hround
  cases hpassed : c.passed? p.stretches with
  | none => rfl
  | some reached =>
    simp only [hpassed] at hround
    split at hround <;> exact nomatch hround

/-! ## Pieces -/

/-- Filling a piece goes on from what has arrived. -/
theorem Reaches.fill (hnoted : c.IsNoted) (h : c.Reaches p) {room fuel : Nat}
    (hfill : c.fill room p fuel = some next) : p.arrived ≤ next.arrived ∧ c.Reaches next := by
  -- each round keeps what is known of the progress, so the rounds of a piece do
  induction fuel generalizing p room with
  | zero =>
    obtain rfl : p = next := Option.some.inj hfill
    exact ⟨Nat.le_refl _, h⟩
  | succ fuel ih =>
    rw [Course.fill] at hfill
    cases hround : c.round p with
    | failed => rw [hround] at hfill; exact nomatch hfill
    | completed =>
      simp only [hround] at hfill
      obtain rfl := Option.some.inj hfill
      have hout := Nat.le_trans h.arrived_le h.unpacked_le
      exact ⟨Nat.le_min.2 ⟨Nat.le_add_right _ _, hout⟩,
        reaches_of_passed?_eq_none (round_completed hround) (Nat.min_le_right _ _) (Nat.le_refl _)⟩
    | paused unpacked usedUp =>
      obtain ⟨hle, hreaches⟩ := h.round_paused hnoted hround
      have hforward : p.arrived ≤ min (p.arrived + room) unpacked :=
        Nat.le_min.2 ⟨Nat.le_add_right _ _, hle⟩
      have hnext := hreaches.later (Nat.min_le_right (p.arrived + room) unpacked)
        (if usedUp then 1 else 0)
      simp only [hround] at hfill
      by_cases hstop : usedUp = true ∨ min (p.arrived + room) unpacked < unpacked
      · rw [if_pos hstop] at hfill
        obtain rfl := Option.some.inj hfill
        exact ⟨hforward, hnext⟩
      · rw [if_neg hstop] at hfill
        by_cases hfull : room ≤ min (p.arrived + room) unpacked - p.arrived
        · rw [if_pos hfull] at hfill
          obtain rfl := Option.some.inj hfill
          exact ⟨hforward, hnext⟩
        · rw [if_neg hfull] at hfill
          obtain ⟨hmore, hend⟩ := ih hnext hfill
          exact ⟨Nat.le_trans hforward hmore, hend⟩

/-- **Taking a piece goes on** from what has arrived. -/
theorem Reaches.read (hnoted : c.IsNoted) (h : c.Reaches p) (hread : c.read p = some next) :
    p.arrived ≤ next.arrived ∧ c.Reaches next := by
  rw [Course.read] at hread
  by_cases hlt : p.arrived < p.unpacked
  · -- what is unpacked already arrives without a round
    rw [if_pos hlt] at hread
    obtain rfl := Option.some.inj hread
    exact ⟨Nat.le_min.2 ⟨Nat.le_add_right _ _, h.arrived_le⟩,
      h.later (Nat.min_le_right (p.arrived + pieceSize) _) 0⟩
  · rw [if_neg hlt] at hread
    exact h.fill hnoted hread

/-- No piece arrives any more, or one does and the others behind it. -/
theorem readAll_cases (c : Course) (p : Progress) (fuel : Nat) :
    c.readAll p (fuel + 1) = [] ∨
      ∃ next, c.read p = some next ∧
        c.readAll p (fuel + 1) = next.arrived :: c.readAll next fuel := by
  rw [Course.readAll]
  split
  · exact Or.inl rfl
  · exact Or.inl rfl
  · cases hread : c.read p with
    | none => exact Or.inl rfl
    | some next => exact Or.inr ⟨next, rfl, rfl⟩

/-- The pieces that arrive end in order, and within the output. -/
theorem Reaches.readAll (hnoted : c.IsNoted) (h : c.Reaches p) (fuel : Nat) :
    (p.arrived :: c.readAll p fuel).Pairwise (· ≤ ·) ∧
      ∀ stop ∈ c.readAll p fuel, stop ≤ c.output.size := by
  induction fuel generalizing p with
  | zero => exact ⟨List.pairwise_singleton _ _, fun _ hstop => nomatch hstop⟩
  | succ fuel ih =>
    obtain hnone | ⟨next, hread, hmore⟩ := readAll_cases c p fuel
    · rw [hnone]
      exact ⟨List.pairwise_singleton _ _, fun _ hstop => nomatch hstop⟩
    · obtain ⟨hforward, hnext⟩ := h.read hnoted hread
      obtain ⟨hsorted, hbounded⟩ := ih hnext
      rw [hmore]
      refine ⟨List.pairwise_cons.2 ⟨?_, hsorted⟩, ?_⟩
      · -- the place reached is before the next one, and that one before all others
        rintro stop (_ | ⟨_, hstop⟩)
        · exact hforward
        · exact Nat.le_trans hforward (List.rel_of_pairwise_cons hsorted hstop)
      · rintro stop (_ | ⟨_, hstop⟩)
        · exact Nat.le_trans hnext.arrived_le hnext.unpacked_le
        · exact hbounded stop hstop

/-! ## All pieces -/

/-- Bytes that are cut at places in order, up to their end, are not changed. -/
theorem joined_cutAt {bytes : ByteArray} {start : Nat} {stops : List Nat}
    (hsorted : (start :: stops).Pairwise (· ≤ ·)) (hbounded : ∀ stop ∈ stops, stop ≤ bytes.size) :
    joined (cutAt bytes start (stops ++ [bytes.size])) = bytes.extract start bytes.size := by
  induction stops generalizing start with
  | nil =>
    rw [List.nil_append, cutAt, cutAt, joined_cons, joined_nil, ByteArray.append_empty]
  | cons stop rest ih =>
    have hstart : start ≤ stop := List.rel_of_pairwise_cons hsorted List.mem_cons_self
    rw [List.cons_append, cutAt, joined_cons,
      ih hsorted.of_cons fun n hn => hbounded n (List.mem_cons_of_mem stop hn),
      ByteArray.extract_append_extract, Nat.min_eq_left hstart,
      Nat.max_eq_right (hbounded stop List.mem_cons_self)]

/-- **The pieces that arrive make the data** that came out, if the blocks were read to their end. -/
theorem joined_pieces (hnoted : c.IsNoted) {place : Nat} (houtcome : c.outcome = .ok place) :
    joined c.pieces = c.output := by
  obtain ⟨hsorted, hbounded⟩ :=
    c.reaches_start.readAll hnoted (c.output.size + c.final.passed.size + 2)
  simp only [pieces, houtcome]
  rw [joined_cutAt hsorted hbounded, ByteArray.extract_zero_size]

end CellExchange.Gzip.Course
