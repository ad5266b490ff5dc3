import CellExchange.Bucket.Key
import CellExchange.Proofs.Path
import CellExchange.Proofs.Text.Percent

/-! # Keys of objects

The key of an object is made from the name of a file and nothing else, so a file has one key in
whatever directory it was staged (`ObjectKey.ofPath_join`). **The name can be read back from the
key** (`ObjectKey.decode_segment`), so no file takes the key of a file of another name, and the key
has one segment behind the folder: a name has no slash, and none comes in with the encoding
(`ObjectKey.notMem_segment`). -/

namespace CellExchange.ObjectKey

variable {path : List UInt8} {key other : ObjectKey} {name : String}

/-! ## Keys of paths -/

/-- A path of bytes has a key exactly if it names a file whose name is text. -/
theorem ofBytes?_eq_some_iff :
    ofBytes? path = some key ↔
      ∃ name, Path.fileNameOfBytes? path = some (bytesOf name) ∧ key = ofName name := by
  have hdecode (bytes : List UInt8) : String.fromUTF8? ⟨bytes.toArray⟩ = Csv.decode? bytes := rfl
  rw [ofBytes?]
  simp only [hdecode, Option.bind_eq_bind, Option.bind_eq_some_iff, Option.pure_def,
    decode?_eq_some_iff, Option.some.injEq]
  constructor
  · rintro ⟨bytes, hfile, name, rfl, rfl⟩
    exact ⟨name, hfile, rfl⟩
  · rintro ⟨name, hfile, rfl⟩
    exact ⟨bytesOf name, hfile, name, rfl, rfl⟩

/-- The key of a path of bytes is that of the name of its file. -/
theorem ofBytes?_of_fileName (h : Path.fileNameOfBytes? path = some (bytesOf name)) :
    ofBytes? path = some (ofName name) :=
  ofBytes?_eq_some_iff.2 ⟨name, h, rfl⟩

/-- The key of a path is that of the name of its file. -/
theorem ofPath_of_fileName {path : String} (h : Path.fileName? path = some name) :
    ofPath path = .ok (ofName name) := by
  have hbytes : ofBytes? path.toUTF8.data.toList = some (ofName name) := by
    refine ofBytes?_of_fileName ((Path.fileNameOfBytes?_bytesOf path).trans ?_)
    rw [h, Option.map_some]
  rw [ofPath, hbytes]

/-- A path that names no file has no key. -/
theorem ofPath_of_none {path : String} (h : Path.fileName? path = none) :
    ofPath path = .error (.noFileName path) := by
  have hfile : Path.fileNameOfBytes? (bytesOf path) = none := by
    rw [Path.fileNameOfBytes?_bytesOf, h, Option.map_none]
  have hbytes : ofBytes? path.toUTF8.data.toList = none := by
    rw [ofBytes?]
    change Path.fileNameOfBytes? path.toUTF8.data.toList = none at hfile
    rw [hfile]
    rfl
  rw [ofPath, hbytes]

/-- The key of a file is that of its name. -/
theorem ofPath_of_isFileName (h : Path.IsFileName name) : ofPath name = .ok (ofName name) := by
  have hnames : Path.names name = [] ++ [name.toList] := Path.names_of_isFileName h
  exact ofPath_of_fileName (Path.fileName?_of_names h hnames)

/-- The key of a file does not depend on its directory. -/
theorem ofPath_join (h : Path.IsFileName name) (directory : String) :
    ofPath (Path.join directory name) = .ok (ofName name) :=
  ofPath_of_fileName (Path.fileName?_join h directory)

/-! ## Keys of names -/

/-- **The name of a file is read back from its key.** -/
theorem decode_segment (name : String) : Percent.decode (ofName name).segment = bytesOf name :=
  Percent.decode_encode (by decide) name

theorem ofName_injective : Function.Injective ofName := fun _ _ h =>
  (Percent.encode_inj (by decide)).1 (congrArg segment h)

/-- The name of a file is one segment of its key. -/
theorem notMem_segment (name : String) : '/' ∉ (ofName name).segment :=
  Percent.notMem_encode (by decide) (by decide +kernel) _

theorem segment_ne_nil (h : bytesOf name ≠ []) : (ofName name).segment ≠ [] := by
  intro hnil
  rw [← decode_segment, hnil] at h
  exact h rfl

/-- Keys with one text are one key. -/
theorem text_inj : key.text = other.text ↔ key = other := by
  refine ⟨fun h => ?_, congrArg text⟩
  have hsegment := congrArg String.toList h
  simp only [text, String.toList_append, String.toList_ofList] at hsegment
  cases key
  exact congrArg mk (List.append_cancel_left hsegment)

end CellExchange.ObjectKey
