import CellExchange.Proofs.Export.Publishing
import CellExchange.Proofs.Instant.Stamp

/-! # Names of periods

The file of an export is named after its kind and its period: the clock hour of a difference, the
day of a full export. **Names are equal exactly for one period, and later periods have names that
come later** in the order of bytes (`Publishing.fileName_order`); names of the two kinds are never
equal. Their characters are such that a key leaves them as they are. So a run of an export takes the
place of the object of another run exactly if both cover one period.

**Keys are faithful to the names of files** of any kind (`ObjectKey.ofBytes?_faithful`). The bytes
of a path need not be text for its file to have a key, only those of the name. -/

namespace CellExchange

/-- The period of an export that runs at an instant: the clock hour, or the day. -/
def ExportKind.period : ExportKind → Instant → Int
  | diff, now => now.clockHour
  | full, now => now.dayNumber

namespace Window

variable {kind other : ExportKind} {a b now : Instant} {v w : Window}

/-! ## The instant that names the period -/

/-- What names a period is its first hour. -/
theorem containing_eq_ok (h : containing kind now = .ok w) :
    now.InReach ∧ w.kind = kind ∧ w.fileTime.dayNumber = now.dayNumber ∧
      w.fileTime.clockHour = match kind with
        | .diff => now.clockHour
        | .full => 24 * now.dayNumber := by
  have hreach : now.InReach := containing_eq_ok_iff.1 ⟨w, h⟩
  rw [containing.eq_def, if_pos hreach] at h
  refine ⟨hreach, ?_⟩
  cases kind with
  | diff =>
    cases h
    have hhour := now.clockHour_startOf_perHour
    exact ⟨rfl, (Instant.clockHour_eq_iff.1 hhour).1, hhour⟩
  | full =>
    cases h
    have hhour := now.clockHour_startOf_perDay
    have heq := Instant.clockHour_eq (now.startOf Instant.perDay)
    have hlt := Instant.hour_lt (now.startOf Instant.perDay)
    refine ⟨rfl, ?_, hhour⟩
    dsimp only
    omega

/-- Windows of one kind have one first hour exactly in one period. -/
theorem clockHour_fileTime_eq_iff (ha : containing kind a = .ok v) (hb : containing kind b = .ok w) :
    v.fileTime.clockHour = w.fileTime.clockHour ↔ kind.period a = kind.period b := by
  obtain ⟨-, -, -, hv⟩ := containing_eq_ok ha
  obtain ⟨-, -, -, hw⟩ := containing_eq_ok hb
  rw [hv, hw]
  cases kind with
  | diff => exact Iff.rfl
  | full =>
    show 24 * a.dayNumber = 24 * b.dayNumber ↔ a.dayNumber = b.dayNumber
    omega

/-- A later instant is in no earlier period. -/
theorem clockHour_fileTime_le (ha : containing kind a = .ok v) (hb : containing kind b = .ok w)
    (h : a ≤ b) : v.fileTime.clockHour ≤ w.fileTime.clockHour := by
  have h : a.nanoseconds ≤ b.nanoseconds := h
  obtain ⟨-, -, -, hv⟩ := containing_eq_ok ha
  obtain ⟨-, -, -, hw⟩ := containing_eq_ok hb
  rw [hv, hw]
  cases kind with
  | diff => exact Int.ediv_le_ediv (by decide) h
  | full =>
    have hday : a.dayNumber ≤ b.dayNumber := Int.ediv_le_ediv (by decide) h
    dsimp only
    omega

/-- The year in the name of a window has four digits. -/
theorem year_fileTime_mem (h : containing kind now = .ok w) :
    0 ≤ w.fileTime.date.year ∧ w.fileTime.date.year ≤ 9999 := by
  obtain ⟨hreach, -, hday, -⟩ := containing_eq_ok h
  rw [Instant.date_eq_iff.2 hday]
  rw [Instant.inReach_iff] at hreach
  exact Instant.year_mem_of_nanoseconds (by omega)

/-! ## Names -/

theorem toList_fileName (w : Window) :
    w.fileName.toList = "MLS-".toList ++ (w.kind.word.toList ++ ("-cell-export-".toList ++
      ((w.fileTime.stamp "-" "T").toList ++ "0000.csv.gz".toList))) := by
  rw [fileName]
  simp only [String.toList_append, List.append_assoc]

/-- The names of the two kinds differ in the word for the kind. -/
theorem kind_eq_of_fileName_eq (h : v.fileName = w.fileName) : v.kind = w.kind := by
  have htext := congrArg String.toList h
  rw [toList_fileName, toList_fileName] at htext
  -- both words have four letters, so they stand at the same place
  have hlength : ∀ k : ExportKind, k.word.toList.length = 4 := by
    intro k
    cases k <;> decide
  have hword : v.kind.word.toList = w.kind.word.toList :=
    (List.append_inj (List.append_cancel_left htext)
      ((hlength v.kind).trans (hlength w.kind).symm)).1
  have hinjective : ∀ k l : ExportKind, k.word.toList = l.word.toList → k = l := by
    intro k l hkl
    cases k <;> cases l
    case full.full => rfl
    case diff.diff => rfl
    all_goals exact absurd hkl (by decide)
  exact hinjective v.kind w.kind hword

/-- Windows of one kind have one name exactly if they have one first hour. -/
theorem fileName_eq_iff (hkind : v.kind = w.kind) :
    v.fileName = w.fileName ↔ v.fileTime.clockHour = w.fileTime.clockHour := by
  rw [← Instant.stamp_eq_iff "-" "T"]
  constructor
  · intro h
    have htext := congrArg String.toList h
    rw [toList_fileName, toList_fileName, hkind] at htext
    have hrest := List.append_cancel_left (List.append_cancel_left (List.append_cancel_left htext))
    exact String.toList_inj.1 (List.append_cancel_right hrest)
  · intro h
    rw [fileName, fileName, hkind, h]

/-- The characters of names that are the same in all names of a kind. -/
def fixedChars : List Char := "MLS-diff-full-cell-export-T0000.csv.gz".toList

/-- A class of characters has those of names if it has the digits, the signs and the fixed ones. -/
theorem of_mem_fileName {p : Char → Bool} (hdigit : ∀ c, c.isDigit = true → p c = true)
    (hsign : p '-' = true ∧ p '+' = true) (hfixed : fixedChars.all p = true) (w : Window) :
    ∀ c ∈ w.fileName.toList, p c = true := by
  have hpart (part : String) (hpart : part.toList ⊆ fixedChars) :
      ∀ c ∈ part.toList, p c = true := fun c hc => List.all_eq_true.1 hfixed c (hpart hc)
  have hword : w.kind.word.toList ⊆ fixedChars := by cases w.kind <;> decide
  intro c hc
  simp only [toList_fileName, List.mem_append] at hc
  obtain h | h | h | h | h := hc
  · exact hpart "MLS-" (by decide) c h
  · exact hpart _ hword c h
  · exact hpart "-cell-export-" (by decide) c h
  · exact Instant.of_mem_stamp hdigit hsign (hpart "-" (by decide)) (hpart "T" (by decide)) _ c h
  · exact hpart "0000.csv.gz" (by decide) c h

theorem isPlainText_fileName (w : Window) : IsPlainText w.fileName := fun c hc =>
  of_decide_eq_true (of_mem_fileName (p := fun c => decide (IsPlain c))
    (fun _ h => decide_eq_true (isPlain_of_isDigit h)) (by decide) (by decide) w c hc)

/-- **The key of a file is its name**, which needs no encoding. -/
theorem segment_ofName_fileName (w : Window) :
    (ObjectKey.ofName w.fileName).segment = w.fileName.toList := by
  have hdigit (c : Char) (hc : c.isDigit = true) : ObjectKey.isPlain c = true := by
    have hcode := Numeral.toNat_of_isDigit hc
    have hlow : 32 ≤ c.toNat := by omega
    have hhigh : c.toNat < 127 := by omega
    have hreserved : c ∉ ObjectKey.reserved := by
      have hnone : ObjectKey.reserved.all (fun d => !d.isDigit) = true := by decide
      intro hmem
      have hnot := List.all_eq_true.1 hnone c hmem
      rw [hc] at hnot
      cases hnot
    simp [ObjectKey.isPlain, hlow, hhigh, hreserved]
  exact Percent.encode_of_plain (of_mem_fileName hdigit (by decide) (by decide) w)

/-- The later of two hours has the later name. -/
theorem bytesOf_fileName_lt (hkind : v.kind = w.kind) (hv : 0 ≤ v.fileTime.date.year)
    (hw : w.fileTime.date.year ≤ 9999) (h : v.fileTime.clockHour < w.fileTime.clockHour) :
    bytesOf v.fileName < bytesOf w.fileName := by
  refine bytesOf_lt v.isPlainText_fileName w.isPlainText_fileName ?_
  rw [toList_fileName, toList_fileName, hkind]
  exact List.append_left_lt (List.append_left_lt (List.append_left_lt
    (Instant.stamp_append_lt "-" "T" hv hw h _)))

end Window

namespace Publishing

open Window

variable {kind other : ExportKind} {a b : Instant} {v w : Window}

/-- Files have one key exactly if they are of one kind and of one period. -/
theorem ofName_eq_iff (ha : containing kind a = .ok v) (hb : containing other b = .ok w) :
    ObjectKey.ofName v.fileName = ObjectKey.ofName w.fileName ↔
      kind = other ∧ kind.period a = other.period b := by
  obtain ⟨-, hv, -⟩ := containing_eq_ok ha
  obtain ⟨-, hw, -⟩ := containing_eq_ok hb
  rw [ObjectKey.ofName_injective.eq_iff]
  -- of one kind the first hours decide, and of two kinds the words do
  by_cases hkind : kind = other
  · subst hkind
    rw [fileName_eq_iff (hv.trans hw.symm), clockHour_fileTime_eq_iff ha hb]
    exact (and_iff_right rfl).symm
  · refine iff_of_false (fun h => hkind ?_) fun h => hkind h.1
    rw [← hv, ← hw, kind_eq_of_fileName_eq h]

/-- **Names identify periods and come in the order of time.** Of two instants at which exports run,
files of one kind have one name exactly if both are in one period, the clock hour or the day; if
not, the earlier instant has the name whose bytes come first. A difference never has the name of a
full export. So of two runs that follow each other in one bucket, the second one puts its object in
the place of that of the first one exactly if they are of one kind and of one period, and the object
of the first one stays otherwise, whatever directories, page sizes and stores they have. -/
theorem fileName_order {σ : Type} [CellStore σ] :
    (∀ kind a b v w, containing kind a = .ok v → containing kind b = .ok w → a ≤ b →
      (v.fileName = w.fileName ↔ kind.period a = kind.period b) ∧
      (kind.period a ≠ kind.period b → bytesOf v.fileName < bytesOf w.fileName)) ∧
    (∀ a b v w, containing .diff a = .ok v → containing .full b = .ok w →
      v.fileName ≠ w.fileName) ∧
    ∀ kind other a b v w, containing kind a = .ok v → containing other b = .ok w →
      ∀ (s t : σ) (bucket : Bucket) (d e : String) (m n : Nat) p q j k,
        (publish d v m).runOn ⟨s, bucket⟩ = (.ok p, j) →
        (publish e w n).runOn ⟨t, j.world.bucket⟩ = (.ok q, k) →
        (p.key = q.key ↔ kind = other ∧ kind.period a = other.period b) ∧
        k.world.bucket.get? p.key = some
          (if kind = other ∧ kind.period a = other.period b then q.snapshot.file
            else p.snapshot.file) := by
  refine ⟨fun kind a b v w ha hb hle => ?_, fun a b v w ha hb hname => ?_, ?_⟩
  · obtain ⟨-, hv, -⟩ := containing_eq_ok ha
    obtain ⟨-, hw, -⟩ := containing_eq_ok hb
    have hkind := hv.trans hw.symm
    have hperiod := clockHour_fileTime_eq_iff ha hb
    refine ⟨(fileName_eq_iff hkind).trans hperiod, fun hne => ?_⟩
    have hlt : v.fileTime.clockHour < w.fileTime.clockHour :=
      lt_of_le_of_ne (clockHour_fileTime_le ha hb hle) (mt hperiod.1 hne)
    exact bytesOf_fileName_lt hkind (year_fileTime_mem ha).1 (year_fileTime_mem hb).2 hlt
  · have hkinds := (ofName_eq_iff ha hb).1 (congrArg ObjectKey.ofName hname)
    cases hkinds.1
  · intro kind other a b v w ha hb s t bucket d e m n p q j k hfirst hsecond
    obtain ⟨hp, requests, hj⟩ := publish_eq_ok hfirst
    obtain ⟨hq, more, hk⟩ := publish_eq_ok hsecond
    have hkeys : p.key = q.key ↔ kind = other ∧ kind.period a = other.period b := by
      rw [hp, hq, ofName_eq_iff ha hb]
    refine ⟨hkeys, ?_⟩
    by_cases hsame : kind = other ∧ kind.period a = other.period b
    · rw [if_pos hsame, hkeys.2 hsame, hk, Bucket.get?_put]
    · -- what is put under another key leaves the first object as it was put
      rw [if_neg hsame, hk, Bucket.get?_put_of_ne (mt hkeys.1 hsame)]
      show j.world.bucket.get? p.key = _
      rw [hj, Bucket.get?_put]

/-- Full exports in the last hour of one year and in the first one of the next year: the new name
comes behind the old one, and the old object stays. Once more on the new day, with other rows, the
object of the new day is replaced. -/
theorem fileName_order_newYear :
    ∃ old new, containing .full ⟨-1⟩ = .ok old ∧ containing .full ⟨1⟩ = .ok new ∧
      containing .full ⟨3600000000000⟩ = .ok new ∧ bytesOf old.fileName < bytesOf new.fileName ∧
      ∃ p q r j k l, (publish "/tmp/a" old 1).runOn (afterEarlierRun []) = (.ok p, j) ∧
        (publish "/tmp/b" new 1).runOn ⟨({} : MemoryStore), j.world.bucket⟩ = (.ok q, k) ∧
        (publish "/tmp/c" new 9).runOn
          ⟨({ rows := Snapshot.mixedRows.take 3 } : MemoryStore), k.world.bucket⟩ = (.ok r, l) ∧
        k.world.bucket.get? p.key = some p.snapshot.file ∧
        l.world.bucket.get? q.key = some r.snapshot.file := by
  obtain ⟨old, hold⟩ : ∃ w, w = (⟨.full, {}, ⟨-86400000000000⟩⟩ : Window) := ⟨_, rfl⟩
  obtain ⟨new, hnew⟩ : ∃ w, w = (⟨.full, {}, ⟨0⟩⟩ : Window) := ⟨_, rfl⟩
  have hbefore : containing .full ⟨-1⟩ = .ok old := by rw [hold]; decide
  have hafter : containing .full ⟨1⟩ = .ok new := by rw [hnew]; decide
  have hlater : containing .full ⟨3600000000000⟩ = .ok new := by rw [hnew]; decide
  obtain ⟨hnames, -, hruns⟩ := fileName_order (σ := MemoryStore)
  obtain ⟨-, hlt⟩ := hnames .full _ _ old new hbefore hafter (by decide)
  have hknown : AllKnown ((Snapshot.mixedRows.take 3).filter new.selection.selects) := by
    rw [hnew]
    decide +kernel
  have hnone : AllKnown [] := fun _ h => absurd h List.not_mem_nil
  obtain ⟨p, -, j, hp, -⟩ := @publish_ok "/tmp/a" old 1 (afterEarlierRun [])
    (by rw [hold]; decide +kernel) (by decide) (fun _ => rfl) (by decide) hnone
  obtain ⟨-, _, hj⟩ := publish_eq_ok hp
  obtain ⟨q, -, k, hq, -⟩ := @publish_ok "/tmp/b" new 1 ⟨{}, j.world.bucket⟩
    (by rw [hnew]; decide +kernel) (by decide) (by rw [hj]; exact fun _ => rfl) (by decide) hnone
  obtain ⟨-, _, hk⟩ := publish_eq_ok hq
  obtain ⟨r, -, l, hr, -⟩ := @publish_ok "/tmp/c" new 9
    ⟨{ rows := Snapshot.mixedRows.take 3 }, k.world.bucket⟩
    (by rw [hnew]; decide +kernel) (by decide) (by rw [hk, hj]; exact fun _ => rfl) (by decide)
    hknown
  refine ⟨old, new, hbefore, hafter, hlater, hlt (by decide), ⟨_, p⟩, ⟨_, q⟩, ⟨_, r⟩, j, k, l,
    hp, hq, hr, ?_, ?_⟩
  · exact (hruns .full .full _ _ old new hbefore hafter _ _ _ _ _ _ _ _ _ _ _ hp hq).2
  · exact (hruns .full .full _ _ new new hafter hlater _ _ _ _ _ _ _ _ _ _ _ hq hr).2

end Publishing

namespace ObjectKey

/-- **Keys are faithful to the names of files.** A path whose file has a name that is text has a key
that depends on this name alone. Behind the folder, the key has one segment, which is not empty and
has no slash, and which is decoded as the name. Two paths have one key exactly if their files have
one name, and a path has none exactly if it names no file or the name is no text. A path that is
text has the key of its bytes, and if it names no file, it is refused as such. The files of exports
are known by their names as they are, in whatever directory. -/
theorem ofBytes?_faithful :
    (∀ name : String, ∃ key : ObjectKey,
      ∀ path, Path.fileNameOfBytes? path = some (bytesOf name) →
        ofBytes? path = some key ∧ key.text = "export/" ++ String.ofList key.segment ∧
          key.segment ≠ [] ∧ '/' ∉ key.segment ∧ Percent.decode key.segment = bytesOf name) ∧
    (∀ path other key key', ofBytes? path = some key → ofBytes? other = some key' →
      (key.text = key'.text ↔ Path.fileNameOfBytes? path = Path.fileNameOfBytes? other)) ∧
    (∀ path, ofBytes? path = none ↔
      ∀ name : String, Path.fileNameOfBytes? path ≠ some (bytesOf name)) ∧
    (∀ path : String, (ofPath path).toOption = ofBytes? (bytesOf path) ∧
      (Path.fileName? path = none → ofPath path = .error (.noFileName path))) ∧
    ∀ (w : Window) (directory : String),
      ofPath (Path.join directory w.fileName) = .ok ⟨w.fileName.toList⟩ := by
  refine ⟨fun name => ⟨ofName name, fun path hfile => ?_⟩, ?_, fun path => ?_, fun path => ⟨?_, ?_⟩,
    fun w directory => ?_⟩
  · exact ⟨ofBytes?_of_fileName hfile, rfl, segment_ne_nil (Path.ne_nil_of_fileNameOfBytes? hfile),
      notMem_segment name, decode_segment name⟩
  · intro path other key key' hkey hkey'
    obtain ⟨name, hfile, rfl⟩ := ofBytes?_eq_some_iff.1 hkey
    obtain ⟨name', hfile', rfl⟩ := ofBytes?_eq_some_iff.1 hkey'
    rw [text_inj, ofName_injective.eq_iff, hfile, hfile', Option.some.injEq,
      bytesOf_injective.eq_iff]
  · rw [Option.eq_none_iff_forall_ne_some]
    constructor
    · exact fun hnone name hfile => hnone _ (ofBytes?_of_fileName hfile)
    · intro hnone key hkey
      obtain ⟨name, hfile, -⟩ := ofBytes?_eq_some_iff.1 hkey
      exact hnone name hfile
  · rw [ofPath]
    change _ = ofBytes? path.toUTF8.data.toList
    cases ofBytes? path.toUTF8.data.toList <;> rfl
  · exact ofPath_of_none
  · rw [ofPath_join w.isFileName_fileName, ← w.segment_ofName_fileName]

/-- The directory is no text, the path ends in a dot, and the name has signs that are encoded: among
them the percent sign, and a letter of two bytes. -/
theorem ofBytes?_faithful_directoryNotText :
    ∃ key, ofBytes? ([0xFF, Path.slash] ++ bytesOf "100% é~.gz" ++ [Path.slash, Path.dot]) =
        some key ∧
      key.text = "export/100%25 %C3%A9%7E.gz" ∧
      Percent.decode key.segment = bytesOf "100% é~.gz" := by
  have hfile : Path.fileNameOfBytes?
      ([0xFF, Path.slash] ++ bytesOf "100% é~.gz" ++ [Path.slash, Path.dot]) =
        some (bytesOf "100% é~.gz") := by decide +kernel
  obtain ⟨key, hfaithful⟩ := ofBytes?_faithful.1 "100% é~.gz"
  obtain ⟨hkey, -, -, -, hdecode⟩ := hfaithful _ hfile
  have hname : key = ofName "100% é~.gz" :=
    Option.some.inj (hkey.symm.trans (ofBytes?_of_fileName hfile))
  refine ⟨key, hkey, ?_, hdecode⟩
  rw [hname]
  decide +kernel

end ObjectKey

end CellExchange
