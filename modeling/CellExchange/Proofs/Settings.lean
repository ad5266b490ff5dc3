import CellExchange.Proofs.Reading
import CellExchange.Settings
import Mathlib

/-! # Settings that load

What settings say of a section is what its fields say, or a default (`Toml.withDefault_eq_ok`), and
settings with empty pages are refused. So **the pages of settings that load hold a row at least, and
their size is a number of 64 bits with a sign** (`Settings.pageSize_of_load`): a document has no
other whole numbers. -/

namespace CellExchange

namespace Toml

/-- A number that counts has 64 bits with a sign. -/
theorem le_of_readCount {node : Node} {n : Nat} (h : node.readCount = .ok n) :
    n ≤ 9223372036854775807 := by
  cases node with
  | whole m =>
    rw [Node.readCount] at h
    split at h
    · have hn := Except.ok.inj h
      have hm := m.toInt_lt
      omega
    · cases h
  | _ => cases h

/-- A field that may be absent is what a node says, or its default. -/
theorem withDefault_eq_ok {α : Type} {read : Node → Except Misfit α} {default a : α}
    {fields : Entries} {name : String} (h : withDefault read default fields name = .ok a) :
    (∃ node, read node = .ok a) ∨ a = default := by
  rw [withDefault] at h
  split at h
  · exact Or.inl ⟨_, mapError_eq_ok_iff.1 h⟩
  · exact Or.inr (Except.ok.inj h).symm

end Toml

open Toml

theorem ExportSettings.pageSize_of_ofNode {node : Node} {e : ExportSettings}
    (h : ExportSettings.ofNode node = .ok e) : e.pageSize ≤ 9223372036854775807 := by
  simp only [ofNode, bind_eq_ok_iff] at h
  obtain ⟨fields, -, bucket, -, pageSize, hsize, storageClass, -, hresult⟩ := h
  cases hresult
  obtain ⟨node, hnode⟩ | rfl := withDefault_eq_ok hsize
  · exact le_of_readCount hnode
  · exact Nat.le_of_ble_eq_true rfl

namespace Settings

variable {settings : Settings} {e : ExportSettings}

/-- A section for exports is what a node says. -/
theorem exportSection_of_ofEntries {entries : Entries} (h : ofEntries entries = .ok settings)
    (hsection : settings.exportSection = some e) : ∃ node, ExportSettings.ofNode node = .ok e := by
  simp only [ofEntries, bind_eq_ok_iff] at h
  obtain ⟨databaseUrl, -, exportSection, hexport, ocidSection, -, hresult⟩ := h
  cases hresult
  obtain ⟨node, hnode⟩ | rfl := withDefault_eq_ok hexport
  · obtain ⟨read, hread, hsome⟩ := map_eq_ok_iff.1 hnode
    exact ⟨node, hread.trans (congrArg Except.ok (Option.some.inj (hsome.trans hsection)))⟩
  · cases hsection

theorem pageSize_of_parse {document : String} (h : parse document = .ok settings)
    (hsection : settings.exportSection = some e) :
    1 ≤ e.pageSize ∧ e.pageSize ≤ 9223372036854775807 := by
  rw [parse] at h
  split at h
  · cases h
  · next hdocument =>
    -- settings with empty pages are refused here
    split_ifs at h with hempty
    cases h
    rw [hsection, Option.any_some, decide_eq_true_iff] at hempty
    simp only [ofDocument, bind_eq_ok_iff, mapError_eq_ok_iff] at hdocument
    obtain ⟨entries, -, hentries⟩ := hdocument
    obtain ⟨node, hnode⟩ := exportSection_of_ofEntries hentries hsection
    exact ⟨Nat.pos_of_ne_zero hempty, ExportSettings.pageSize_of_ofNode hnode⟩

/-- **Pages of settings that load** hold a row at least, and their size has 64 bits with a sign. -/
theorem pageSize_of_load {files : Files} {path : String} {databaseUrl : Option String}
    (h : load files path databaseUrl = .ok settings) (hsection : settings.exportSection = some e) :
    1 ≤ e.pageSize ∧ e.pageSize ≤ 9223372036854775807 := by
  rw [load] at h
  split at h
  · cases h
  · simp only [bind_eq_ok_iff] at h
    obtain ⟨read, hread, h⟩ := h
    split_ifs at h
    · cases h
    · cases h
      exact pageSize_of_parse hread hsection

end Settings

end CellExchange
