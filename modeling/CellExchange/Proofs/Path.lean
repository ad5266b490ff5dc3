import CellExchange.Files
import CellExchange.Path
import CellExchange.Proofs.Text.Plain

/-! # Files in directories

The file that a path names is its last name, so a file in a directory is named by its name alone
(`Path.fileName?_join`), whether the directory is written with a slash at its end or is the one that
the job runs in. It stands in its directory, one name further (`Path.placeOf_join`).

Which paths name a file is said twice. `Path.fileName?` looks for the last name that says something;
a reader of the path takes off what says nothing at its end (`Path.trimmed`), and looks at what
stands behind the last slash of the rest (`Path.lastName`). **Both find the same name**
(`Path.fileName?_eq`), or none. In the bytes of a path the same name is found
(`Path.fileNameOfBytes?_bytesOf`), as the byte of a slash belongs to no other character. -/

namespace CellExchange

namespace Path

variable {name : String}

/-- The name of a file: it has no slash, and it is neither empty nor one or two dots. -/
def IsFileName (name : String) : Prop :=
  '/' ∉ name.toList ∧ name.toList ∉ [[], ['.'], ['.', '.']]

/-- A name that says something is the only one of its path. -/
theorem names_of_notMem (hslash : '/' ∉ name.toList) (hsome : name.toList ≠ [])
    (hdot : name.toList ≠ ['.']) : names name = [name.toList] := by
  rw [names, List.splitOn_eq_singleton hslash, List.filter_singleton, decide_eq_true hsome,
    decide_eq_true hdot]
  rfl

theorem IsFileName.ne_nil (h : IsFileName name) : name.toList ≠ [] := fun he =>
  h.2 (by rw [he]; decide)

theorem IsFileName.ne_dot (h : IsFileName name) : name.toList ≠ ['.'] := fun he =>
  h.2 (by rw [he]; decide)

theorem IsFileName.ne_dots (h : IsFileName name) : name.toList ≠ ['.', '.'] := fun he =>
  h.2 (by rw [he]; decide)

/-- The name of a file is a path from where the job runs. -/
theorem IsFileName.not_startsWith (h : IsFileName name) : ¬ name.startsWith "/" = true := by
  rw [String.startsWith_string_iff]
  exact fun hslash => h.1 (hslash.subset List.mem_cons_self)

theorem names_of_isFileName (h : IsFileName name) : names name = [name.toList] :=
  names_of_notMem h.1 h.ne_nil h.ne_dot

/-- The names of a path with a slash in it are those before the slash and those behind it. -/
theorem names_append_slash (before after : String) :
    names (before ++ "/" ++ after) = names before ++ names after := by
  have hsplit : (before ++ "/" ++ after).toList = before.toList ++ '/' :: after.toList := by
    rw [String.toList_append, String.toList_append, List.append_assoc]
    rfl
  rw [names, hsplit, List.splitOn_append_cons_self, List.filter_append]
  rfl

/-- A slash at the end of a path says nothing. -/
theorem names_append_slash_nil (before : String) : names (before ++ "/") = names before := by
  have hnothing : names "" = [] := by decide
  have hnames := names_append_slash before ""
  rwa [String.append_empty, hnothing, List.append_nil] at hnames

/-- A file in a directory stands behind a slash, or alone if the directory has no name. -/
theorem join_cases (h : IsFileName name) (directory : String) :
    (directory = "" ∧ join directory name = name) ∨
      (∃ before, directory = before ++ "/" ∧ join directory name = before ++ "/" ++ name) ∨
      (directory ≠ "" ∧ join directory name = directory ++ "/" ++ name) := by
  rw [join, if_neg h.not_startsWith]
  simp only [Bool.or_eq_true]
  by_cases hends : directory.endsWith "/" = true
  · rw [if_pos (Or.inr hends)]
    rw [← String.endsWith_toSlice, String.Slice.endsWith_string_iff, String.copy_toSlice] at hends
    obtain ⟨before, hbefore⟩ := hends
    have hdirectory : directory = String.ofList before ++ "/" := by
      rw [← String.toList_inj, String.toList_append, String.toList_ofList]
      exact hbefore.symm
    exact Or.inr (Or.inl ⟨String.ofList before, hdirectory, by rw [hdirectory]⟩)
  · by_cases hempty : directory = ""
    · have hnothing : "".isEmpty = true := rfl
      rw [hempty, if_pos (Or.inl hnothing)]
      exact Or.inl ⟨rfl, String.empty_append⟩
    · have hneither : ¬ (directory.isEmpty = true ∨ directory.endsWith "/" = true) := by
        rw [String.isEmpty_iff]
        exact not_or.2 ⟨hempty, hends⟩
      rw [if_neg hneither]
      exact Or.inr (Or.inr ⟨hempty, rfl⟩)

/-- A file in a directory comes behind the names of the directory. -/
theorem names_join (h : IsFileName name) (directory : String) :
    names (join directory name) = names directory ++ [name.toList] := by
  obtain ⟨rfl, hjoin⟩ | ⟨before, rfl, hjoin⟩ | ⟨-, hjoin⟩ := join_cases h directory
  · rw [hjoin, names_of_isFileName h]
    rfl
  · rw [hjoin, names_append_slash, names_append_slash_nil, names_of_isFileName h]
  · rw [hjoin, names_append_slash, names_of_isFileName h]

/-- A path whose last name is the name of a file names this file. -/
theorem fileName?_of_names (h : IsFileName name) {path : String} {before : List (List Char)}
    (hnames : names path = before ++ [name.toList]) : fileName? path = some name := by
  rw [fileName?, hnames, List.getLast?_concat]
  simp only [if_neg h.ne_dots, String.ofList_toList]

/-- A file in a directory is named by its name. -/
theorem fileName?_join (h : IsFileName name) (directory : String) :
    fileName? (join directory name) = some name :=
  fileName?_of_names h (names_join h directory)

/-! ## The end of a path -/

/-- A path, read from its end, without the slashes and the single dots at its end. -/
def skipEnd : List Char → List Char
  | '/' :: rest => skipEnd rest
  | ['.'] => []
  | '.' :: '/' :: rest => skipEnd rest
  | cs => cs

/-- A path without the slashes and the single dots at its end. -/
def trimmed (path : String) : String := String.ofList (skipEnd path.toList.reverse).reverse

/-- What stands behind the last slash of a path. -/
def lastName (path : String) : String :=
  String.ofList (path.toList.reverse.takeWhile (· != '/')).reverse

/-- What is taken off says nothing. -/
theorem names_skipEnd (cs : List Char) :
    names (String.ofList (skipEnd cs).reverse) = names (String.ofList cs.reverse) := by
  fun_induction skipEnd cs with
  | case1 rest ih =>
    have hslash : String.ofList ('/' :: rest).reverse = String.ofList rest.reverse ++ "/" := by
      rw [List.reverse_cons, String.ofList_append]
    rw [hslash, names_append_slash_nil, ih]
  | case2 => decide
  | case3 rest ih =>
    have hdot : String.ofList ('.' :: '/' :: rest).reverse =
        String.ofList rest.reverse ++ "/" ++ "." := by
      rw [List.reverse_cons, List.reverse_cons, String.ofList_append, String.ofList_append]
    have hnothing : names "." = [] := by decide
    rw [hdot, names_append_slash, hnothing, List.append_nil, ih]
  | case4 => rfl

theorem names_trimmed (path : String) : names (trimmed path) = names path := by
  rw [trimmed, names_skipEnd, List.reverse_reverse, String.ofList_toList]

/-- Nothing is left of a path, or its end says something. -/
theorem skipEnd_cases (cs : List Char) :
    skipEnd cs = [] ∨ (skipEnd cs).takeWhile (· != '/') ∉ [[], ['.']] := by
  fun_induction skipEnd cs with
  | case1 rest ih => exact ih
  | case2 => exact Or.inl rfl
  | case3 rest ih => exact ih
  | case4 cs hslash hdot hdotSlash =>
    cases cs with
    | nil => exact Or.inl rfl
    | cons c rest =>
      have hc : c ≠ '/' := fun hc => hslash rest (by rw [hc])
      rw [List.takeWhile_cons_of_pos (p := (· != '/')) (bne_iff_ne.2 hc)]
      right
      intro hmem
      obtain ⟨rfl, hrest⟩ : c = '.' ∧ rest.takeWhile (· != '/') = [] := by simpa using hmem
      -- a single dot at the end stands alone or behind a slash
      cases rest with
      | nil => exact hdot rfl
      | cons d more =>
        by_cases hd : d = '/'
        · exact hdotSlash more (by rw [hd])
        · rw [List.takeWhile_cons_of_pos (p := (· != '/')) (bne_iff_ne.2 hd)] at hrest
          cases hrest

/-- Behind its last slash, a path has no slash. -/
theorem notMem_lastName (path : String) : '/' ∉ (lastName path).toList := by
  rw [lastName, String.toList_ofList, List.mem_reverse]
  intro hmem
  have hne := List.mem_takeWhile_imp hmem
  exact absurd hne (by decide)

/-- A path ends with its last name, which stands alone or behind a slash. -/
theorem eq_lastName (path : String) :
    path = lastName path ∨ ∃ before, path = before ++ "/" ++ lastName path := by
  have hsplit := List.takeWhile_append_dropWhile (p := (· != '/')) (l := path.toList.reverse)
  cases hbefore : path.toList.reverse.dropWhile (· != '/') with
  | nil =>
    rw [hbefore, List.append_nil] at hsplit
    left
    rw [lastName, hsplit, List.reverse_reverse, String.ofList_toList]
  | cons c before =>
    have hc : c = '/' := by
      have hnot := List.head_dropWhile_not (· != '/') (l := path.toList.reverse)
        (by rw [hbefore]; exact List.cons_ne_nil c before)
      simp only [hbefore, List.head_cons] at hnot
      simpa using hnot
    rw [hbefore, hc] at hsplit
    refine Or.inr ⟨String.ofList before.reverse, ?_⟩
    rw [← String.toList_inj, lastName]
    simp only [String.toList_append, String.toList_ofList]
    conv_lhs => rw [← List.reverse_reverse path.toList, ← hsplit]
    rw [List.reverse_append, List.reverse_cons]
    rfl

/-- The name behind the last slash of a path is the last one that it has, if it says something. -/
theorem names_of_lastName {path : String} (hsome : (lastName path).toList ≠ [])
    (hdot : (lastName path).toList ≠ ['.']) :
    ∃ before, names path = before ++ [(lastName path).toList] := by
  have hlast := names_of_notMem (notMem_lastName path) hsome hdot
  obtain heq | ⟨before, heq⟩ := eq_lastName path
  · refine ⟨[], ?_⟩
    rw [List.nil_append, ← hlast, ← heq]
  · refine ⟨names before, ?_⟩
    rw [← hlast, ← names_append_slash, ← heq]

/-- What is left of a path that says something has a name behind its last slash. -/
theorem lastName_trimmed (path : String) : trimmed path = "" ∨
    (lastName (trimmed path)).toList ≠ [] ∧ (lastName (trimmed path)).toList ≠ ['.'] := by
  have hreverse : (trimmed path).toList.reverse = skipEnd path.toList.reverse := by
    rw [trimmed, String.toList_ofList, List.reverse_reverse]
  obtain hnone | hsome := skipEnd_cases path.toList.reverse
  · left
    rw [trimmed, hnone]
    rfl
  · right
    rw [lastName, String.toList_ofList, hreverse]
    rw [List.mem_cons, List.mem_singleton, not_or] at hsome
    exact ⟨fun h => hsome.1 (List.reverse_eq_nil_iff.1 h),
      fun h => hsome.2 (List.reverse_eq_iff.1 h)⟩

/-- **The file that a path names** is the name behind the last slash, once the slashes and single
dots at the end of the path are taken off. If then nothing is left or that name is two dots, the
path names no file. -/
theorem fileName?_eq (path : String) :
    fileName? path =
      if trimmed path = "" ∨ lastName (trimmed path) = ".." then none
      else some (lastName (trimmed path)) := by
  rw [fileName?, ← names_trimmed]
  obtain hnone | ⟨hsome, hdot⟩ := lastName_trimmed path
  · have hnothing : names "" = [] := by decide
    rw [if_pos (Or.inl hnone), hnone, hnothing]
    rfl
  · obtain ⟨before, hnames⟩ := names_of_lastName hsome hdot
    have hleft : trimmed path ≠ "" := by
      intro hnone
      rw [hnone] at hsome
      exact hsome rfl
    rw [hnames, List.getLast?_concat]
    simp only [hleft, false_or, ← String.toList_inj, String.ofList_toList]
    rfl

/-- The name of the file that a path names is the name of a file. -/
theorem isFileName_lastName {path : String}
    (h : ¬ (trimmed path = "" ∨ lastName (trimmed path) = "..")) :
    IsFileName (lastName (trimmed path)) := by
  obtain ⟨hleft, hdots⟩ := not_or.1 h
  obtain ⟨hsome, hdot⟩ := (lastName_trimmed path).resolve_left hleft
  rw [← String.toList_inj] at hdots
  refine ⟨notMem_lastName _, ?_⟩
  rw [List.mem_cons, List.mem_cons, List.mem_singleton]
  exact not_or.2 ⟨hsome, not_or.2 ⟨hdot, hdots⟩⟩

/-! ## Paths of bytes -/

/-- The byte of a slash belongs to no other character. -/
theorem slash_notMem_utf8EncodeChar {c : Char} (h : c ≠ '/') :
    slash ∉ String.utf8EncodeChar c := by
  intro hmem
  obtain hlow | hhigh := Nat.lt_or_ge c.toNat 128
  · have hsize : c.utf8Size = 1 := Char.utf8Size_eq_one_iff.2 (Nat.le_of_lt_succ hlow)
    rw [String.utf8EncodeChar_eq_singleton hsize, List.mem_singleton] at hmem
    have hvalue : c.toNat % 256 = 47 := (congrArg UInt8.toNat hmem).symm
    refine h (Char.toNat_inj.1 ?_)
    show c.toNat = 47
    omega
  · exact absurd (le_of_mem_utf8EncodeChar hhigh hmem) (by decide)

/-- Elements that are no separator join the first part. -/
theorem splitOn_append_of_notMem {α : Type} [BEq α] [LawfulBEq α] {a : α} {before : List α}
    (h : a ∉ before) (rest : List α) :
    (before ++ rest).splitOn a = (rest.splitOn a).modifyHead (before ++ ·) := by
  induction before with
  | nil =>
    rw [List.nil_append]
    cases rest.splitOn a <;> rfl
  | cons b before ih =>
    rw [List.mem_cons, not_or] at h
    rw [List.cons_append, List.splitOn_cons_eq_if_modifyHead, if_neg, ih h.2]
    · cases rest.splitOn a <;> rfl
    · simpa using Ne.symm h.1

/-- The bytes of a path have a slash where the path has one. -/
theorem splitOn_slash (cs : List Char) :
    (cs.flatMap String.utf8EncodeChar).splitOn slash =
      (cs.splitOn '/').map (·.flatMap String.utf8EncodeChar) := by
  induction cs with
  | nil => rfl
  | cons c cs ih =>
    rw [List.flatMap_cons, List.splitOn_cons_eq_if_modifyHead]
    by_cases hc : c = '/'
    · subst hc
      have hslash : String.utf8EncodeChar '/' = [slash] := by decide
      rw [hslash, List.singleton_append, List.splitOn_cons_eq_if_modifyHead, ih]
      rfl
    · rw [splitOn_append_of_notMem (slash_notMem_utf8EncodeChar hc), ih, if_neg (by simpa using hc)]
      cases cs.splitOn '/' <;> rfl

/-- The bytes of the names of a path are the names of its bytes. -/
theorem namesOfBytes_bytesOf (path : String) :
    namesOfBytes (bytesOf path) = (names path).map fun name => bytesOf (String.ofList name) := by
  have hbytes (name : List Char) :
      name.flatMap String.utf8EncodeChar = bytesOf (String.ofList name) := by
    rw [bytesOf_eq_flatMap, String.toList_ofList]
  have hname (name known : List Char) :
      bytesOf (String.ofList name) = bytesOf (String.ofList known) ↔ name = known := by
    rw [bytesOf_injective.eq_iff, String.ofList_inj]
  have hnone : bytesOf (String.ofList []) = [] := by decide
  have hdot : bytesOf (String.ofList ['.']) = [dot] := by decide
  rw [namesOfBytes, bytesOf_eq_flatMap, splitOn_slash, List.filter_map, names]
  simp only [hbytes]
  congr 1
  refine List.filter_congr fun name _ => ?_
  have hempty := hname name []
  have hsingle := hname name ['.']
  rw [hnone] at hempty
  rw [hdot] at hsingle
  simp [hempty, hsingle]

/-- **The bytes of the name of a file** are the name that its path's bytes have. -/
theorem fileNameOfBytes?_bytesOf (path : String) :
    fileNameOfBytes? (bytesOf path) = (fileName? path).map bytesOf := by
  have hdots : bytesOf (String.ofList ['.', '.']) = [dot, dot] := by decide
  rw [fileNameOfBytes?, fileName?, namesOfBytes_bytesOf, List.getLast?_map]
  cases (names path).getLast? with
  | none => rfl
  | some name =>
    have hname : bytesOf (String.ofList name) = [dot, dot] ↔ name = ['.', '.'] := by
      rw [← hdots, bytesOf_injective.eq_iff, String.ofList_inj]
    simp only [Option.map_some, hname]
    split <;> rfl

/-- The name of a file is not empty. -/
theorem ne_nil_of_fileNameOfBytes? {path bytes : List UInt8}
    (h : fileNameOfBytes? path = some bytes) : bytes ≠ [] := by
  rw [fileNameOfBytes?] at h
  split at h
  · cases h
  · next last hlast =>
    -- what says nothing is not among the names
    have hmem := List.mem_of_mem_getLast? hlast
    rw [namesOfBytes, List.mem_filter, Bool.and_eq_true, decide_eq_true_iff] at hmem
    split at h
    · cases h
    · exact Option.some.inj h ▸ hmem.2.1

/-! ## Places -/

/-- The names of a path with a slash in it. -/
theorem namesOf_append_slash (before after : String) :
    namesOf (before ++ "/" ++ after) = namesOf before ++ namesOf after := by
  have hsplit : (before ++ "/" ++ after).toList = before.toList ++ '/' :: after.toList := by
    rw [String.toList_append, String.toList_append, List.append_assoc]
    rfl
  rw [namesOf, hsplit, List.splitOn_append_cons_self, List.map_append]
  rfl

/-- **A file stands in its directory**, one name further, wherever paths begin. -/
theorem placeOf_join (h : IsFileName name) (start : List String) (directory : String) :
    placeOf start (join directory name) = placeOf start directory ++ [name] := by
  have hname : namesOf name = [name] := by
    rw [namesOf, List.splitOn_eq_singleton h.1, List.map_singleton, String.ofList_toList]
  have hfurther (place : List String) : further place name = place ++ [name] := by
    have hempty : ¬ (name.isEmpty = true ∨ name = ".") := by
      rw [String.isEmpty_iff, ← String.toList_inj, ← String.toList_inj]
      exact not_or.2 ⟨h.ne_nil, h.ne_dot⟩
    have hdots : name ≠ ".." := fun he => h.ne_dots (by rw [he]; rfl)
    rw [further, if_neg hempty, if_neg hdots]
  have hslash {text : String} (htext : text ≠ "") (after : String) :
      (text ++ after).startsWith "/" = text.startsWith "/" := by
    rw [Bool.eq_iff_iff, String.startsWith_string_iff, String.startsWith_string_iff,
      String.toList_append]
    cases hcs : text.toList with
    | nil => exact absurd (String.toList_inj.1 hcs) htext
    | cons c cs => simp
  have hseparator (before : String) : before ++ "/" ≠ "" := by
    rw [ne_eq, ← String.toList_inj, String.toList_append]
    exact List.append_ne_nil_of_right_ne_nil _ (by decide)
  rw [placeOf, placeOf]
  obtain ⟨rfl, hjoin⟩ | ⟨before, rfl, hjoin⟩ | ⟨hsome, hjoin⟩ := join_cases h directory
  · rw [hjoin, hname, if_neg h.not_startsWith]
    exact hfurther start
  · have hempty : namesOf (before ++ "/") = namesOf before ++ [""] := by
      have hnames := namesOf_append_slash before ""
      rwa [String.append_empty] at hnames
    rw [hjoin, hslash (hseparator before), namesOf_append_slash, hname, hempty, List.foldl_append,
      List.foldl_append]
    exact hfurther _
  · rw [hjoin, hslash (hseparator directory), hslash hsome, namesOf_append_slash, hname,
      List.foldl_append]
    exact hfurther _

end Path

end CellExchange
