import CellExchange.Proofs.Text.Percent
import CellExchange.Provider.Service
import CellExchange.Sql.Address

/-! # What is asked of the provider

Names with values in the query of an address are form-encoded. **A form that is put behind the query
of an address reads back** (`Url.formPairs_addQuery`): its pairs come behind those that the query
had, whatever characters they hold. So the request for a file of the provider asks for the very name
that is given, at the end of its query. -/

namespace CellExchange

namespace Url

open Sql.Address (formText formPairs)

/-! ## Parts of forms -/

/-- The characters that a form writes for something else. -/
def formMarks : List Char := ['+', '&', '=']

theorem notMem_escapeChar {mark : Char} (hmark : mark ∈ formMarks) (c : Char) :
    mark ∉ Percent.escapeChar c := by
  have hnone : formMarks.all (fun d => decide (d ∉ Percent.escapeMarks)) = true := by decide
  have hmark := of_decide_eq_true (List.all_eq_true.1 hnone mark hmark)
  exact fun hmem => hmark (Percent.escapeChar_subset c hmem)

theorem isFormChar_of_mem_formMarks {mark : Char} (hmark : mark ∈ formMarks) :
    isFormChar mark = false := by
  have hnone : formMarks.all (fun c => !isFormChar c) = true := by decide
  exact Bool.not_eq_true' _ ▸ List.all_eq_true.1 hnone mark hmark

/-- A part of a form has no mark that stands between parts. -/
theorem notMem_formEncode {mark : Char} (hmark : mark ∈ formMarks) (hplus : mark ≠ '+')
    (s : String) : mark ∉ formEncode s := by
  rw [formEncode, List.mem_flatMap]
  rintro ⟨c, -, hmem⟩
  split_ifs at hmem with hspace hchar
  · exact hplus (List.mem_singleton.1 hmem)
  · rw [← List.mem_singleton.1 hmem, isFormChar_of_mem_formMarks hmark] at hchar
    cases hchar
  · exact notMem_escapeChar hmark c hmem

/-- The plus signs of a part of a form stand for spaces. -/
theorem map_formEncode (s : String) :
    (formEncode s).map (fun c => if c = '+' then ' ' else c) =
      Percent.encode (fun c => c = ' ' || isFormChar c) s.toList := by
  have hplus : '+' ∈ formMarks := by decide
  rw [formEncode, Percent.encode, List.map_flatMap]
  refine List.flatMap_congr fun c _ => ?_
  by_cases hspace : c = ' '
  · rw [hspace]
    rfl
  · by_cases hchar : isFormChar c = true
    · have hne : c ≠ '+' := by
        rintro rfl
        rw [isFormChar_of_mem_formMarks hplus] at hchar
        cases hchar
      simp [hspace, hchar, hne]
    · have hescape : (Percent.escapeChar c).map (fun d => if d = '+' then ' ' else d) =
          (Percent.escapeChar c).map id := by
        refine List.map_congr_left fun d hd => if_neg ?_
        rintro rfl
        exact notMem_escapeChar hplus c hd
      rw [List.map_id] at hescape
      simp [hspace, hchar, hescape]

/-- **A part of a form reads back.** -/
theorem formText_formEncode (s : String) : formText (formEncode s) = s := by
  have hdecode := decode?_bytesOf s
  rw [Csv.decode?] at hdecode
  rw [formText, map_formEncode, Percent.decode_encode (by decide), hdecode]
  rfl

/-! ## Forms -/

/-- A form has the pairs of what stands before a mark between pairs and behind it. -/
theorem formPairs_append (before after : List Char) :
    formPairs (before ++ '&' :: after) = formPairs before ++ formPairs after := by
  rw [formPairs, List.splitOn_append_cons_self, List.filter_append, List.map_append]
  rfl

/-- One pair. -/
theorem formPairs_field (name value : String) :
    formPairs (formEncode name ++ '=' :: formEncode value) = [(name, value)] := by
  have hsplit : '&' ∉ formEncode name ++ '=' :: formEncode value := by
    rw [List.mem_append, List.mem_cons]
    rintro (h | h | h)
    · exact notMem_formEncode (by decide) (by decide) name h
    · exact absurd h (by decide)
    · exact notMem_formEncode (by decide) (by decide) value h
  have hname : (formEncode name ++ '=' :: formEncode value).takeWhile (· != '=') =
      formEncode name := by
    rw [List.takeWhile_append_of_pos (p := (· != '=')), List.takeWhile_cons_of_neg (by decide),
      List.append_nil]
    intro c hc
    rw [bne_iff_ne]
    rintro rfl
    exact notMem_formEncode (by decide) (by decide) name hc
  have hvalue : (formEncode name ++ '=' :: formEncode value).drop
      ((formEncode name).length + 1) = formEncode value := by
    rw [List.drop_append, List.drop_of_length_le (Nat.le_succ _)]
    simp
  have hsome : (formEncode name ++ '=' :: formEncode value).isEmpty = false := by simp
  rw [formPairs, List.splitOn_eq_singleton hsplit, List.filter_singleton, hsome]
  simp only [Bool.not_false, cond_true, List.map_singleton, hname, hvalue, formText_formEncode]

/-- Forms with marks between them have all their pairs. -/
theorem formPairs_intercalate (forms : List (List Char)) :
    formPairs (List.intercalate ['&'] forms) = forms.flatMap formPairs := by
  induction forms with
  | nil => decide
  | cons first rest ih =>
    cases rest with
    | nil => simp [List.intercalate]
    | cons second rest =>
      have hcons : List.intercalate ['&'] (first :: second :: rest) =
          first ++ '&' :: List.intercalate ['&'] (second :: rest) := by simp [List.intercalate]
      rw [hcons, formPairs_append, ih]
      exact List.flatMap_cons.symm

/-- **What is put behind a query reads back** behind what the query had. -/
theorem formPairs_addQuery (u : Url) (pairs : List (String × String)) :
    ∃ query, (u.addQuery pairs).query = some query ∧
      formPairs query = formPairs (u.query.getD []) ++ pairs := by
  refine ⟨_, rfl, ?_⟩
  have hpairs : (pairs.map fun p => formEncode p.1 ++ '=' :: formEncode p.2).flatMap formPairs =
      pairs := by
    rw [List.flatMap_map]
    simp only [formPairs_field]
    exact List.flatMap_singleton' pairs
  rw [formPairs_intercalate]
  split
  · next hempty =>
    have hnothing : formPairs [] = [] := by decide
    rw [hpairs, List.isEmpty_iff.1 hempty, hnothing, List.nil_append]
  · rw [List.flatMap_cons, hpairs]

end Url

end CellExchange
