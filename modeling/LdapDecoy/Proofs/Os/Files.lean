import LdapDecoy.Os.Files
import Mathlib.Data.String.Basic

/-!
# Files in the starting directory

A path without a slash is the name of a file in the directory where paths begin, so that what such a file holds can
be read off from the tree. Where any path leads depends on directories alone; what has been written to the file at its
end is what is read there.
-/
namespace LdapDecoy.Os

/-- A text without a slash is not split: what has been looked at is one part with what is left. -/
theorem splitOnAux_of_not_mem (seen rest : List Char) (plain : '/' ∉ rest) :
    String.splitOnAux (String.ofList (seen ++ rest)) "/" 0 ⟨String.utf8Len seen⟩ 0 [] =
      [String.ofList (seen ++ rest)] := by
  induction rest generalizing seen with
  | nil =>
      rw [String.splitOnAux, if_pos ((String.atEnd_of_valid seen []).mpr rfl)]
      simpa using String.extract_of_valid [] seen []
  | cons c rest ih =>
      have other : c ≠ '/' := (List.ne_of_not_mem_cons plain).symm
      have more : ¬ (String.Pos.Raw.atEnd (String.ofList (seen ++ c :: rest)) ⟨String.utf8Len seen⟩ = true) := by
        rw [String.atEnd_of_valid]
        exact List.cons_ne_nil c rest
      have slash : String.Pos.Raw.get "/" 0 = '/' := rfl
      have here : (⟨String.utf8Len seen⟩ : String.Pos.Raw).unoffsetBy 0 = ⟨String.utf8Len seen⟩ := rfl
      have beyond := ih (seen ++ [c]) (List.not_mem_of_not_mem_cons plain)
      rw [List.append_assoc, List.singleton_append, String.utf8Len_append, String.utf8Len_cons, String.utf8Len_nil,
        Nat.zero_add] at beyond
      rw [String.splitOnAux, if_neg more, String.get_of_valid, List.headD_cons, slash, if_neg (by simpa using other),
        here, String.next_of_valid]
      exact beyond

theorem splitOn_of_not_mem {path : String} (plain : '/' ∉ path.toList) : path.splitOn "/" = [path] := by
  have parts := splitOnAux_of_not_mem [] path.toList plain
  rw [List.nil_append, String.ofList_toList] at parts
  exact parts

/-- What can be the name of a file: it is not empty, has neither a slash nor a NUL in it, is not too long, and does
not mean a directory. -/
structure IsPlain (name : String) : Prop where
  not_empty : name ≠ ""
  no_slash : '/' ∉ name.toList
  no_nul : '\x00' ∉ name.toList
  not_dots : ¬ (name = "." ∨ name = "..")
  short : name.utf8ByteSize ≤ longestName

namespace IsPlain

variable {name : String}

instance : Decidable (IsPlain name) :=
  decidable_of_iff
    (name ≠ "" ∧ '/' ∉ name.toList ∧ '\x00' ∉ name.toList ∧ ¬ (name = "." ∨ name = "..") ∧
      name.utf8ByteSize ≤ longestName)
    ⟨fun ⟨full, whole, text, named, short⟩ => ⟨full, whole, text, named, short⟩,
      fun plain => ⟨plain.not_empty, plain.no_slash, plain.no_nul, plain.not_dots, plain.short⟩⟩

theorem names_eq (plain : IsPlain name) : names name = [name] := by
  rw [names, splitOn_of_not_mem plain.no_slash]
  simpa using plain.not_empty

theorem relative (plain : IsPlain name) : name.startsWith "/" = false :=
  String.startsWith_string_eq_false_iff.mpr fun slash => plain.no_slash (slash.subset (by decide))

theorem endsWith_eq (plain : IsPlain name) : name.endsWith "/" = false := by
  refine String.Slice.endsWith_string_eq_false_iff.mpr fun slash => plain.no_slash ?_
  rw [String.copy_toSlice] at slash
  exact slash.subset (by decide)

theorem any_eq (plain : IsPlain name) : (name.any (· = '\x00')) = false := by
  rw [String.any, String.contains_prop_eq, List.any_eq_false]
  intro c within nul
  exact plain.no_nul (of_decide_eq_true nul ▸ within)

theorem step_eq (plain : IsPlain name) (here : Path) : step here name = here ++ [name] := by
  obtain ⟨notDot, notDots⟩ := not_or.mp plain.not_dots
  rw [step, if_neg notDot, if_neg notDots]

/-- A name by itself leads to the file of this name in the starting directory. -/
theorem locate_eq (plain : IsPlain name) {tree : Files} (stands : tree.start ∈ tree.directories) :
    tree.locate name = .ok (.name (tree.start ++ [name]) false) := by
  have short : ¬ (longestPath < name.utf8ByteSize) := Nat.not_lt.mpr (Nat.le_trans plain.short (by decide))
  have origin : tree.origin name = tree.start := by
    rw [Files.origin, plain.relative]
    rfl
  have starts : tree.directories.contains tree.start = true := List.contains_iff_mem.mpr stands
  have follow : tree.follow false tree.start [name] = .ok (.name (tree.start ++ [name]) false) := by
    rw [Files.follow, if_neg plain.not_dots, plain.step_eq]
  rw [Files.locate, plain.any_eq, if_neg Bool.false_ne_true, if_neg plain.not_empty, if_neg short, origin,
    if_pos starts, plain.endsWith_eq, plain.names_eq, follow]

/-- What is read by its name alone is the file of this name in the starting directory. -/
theorem read_eq (plain : IsPlain name) {tree : Files} (stands : tree.start ∈ tree.directories)
    {content : Bytes} (distinct : tree.start ++ [name] ∉ tree.directories)
    (holds : tree.files.lookup (tree.start ++ [name]) = some content) : tree.read name = .ok content := by
  have short : ¬ (longestName < (((tree.start ++ [name]).getLast?).getD "").utf8ByteSize) := by
    rw [List.getLast?_concat]
    exact Nat.not_lt.mpr plain.short
  have look : tree.look (tree.start ++ [name]) = .ok (some (.file content)) := by
    rw [Files.look, if_neg short, if_neg (mt List.contains_iff_mem.mp distinct), holds]
    rfl
  rw [Files.read, plain.locate_eq stands]
  show (tree.look (tree.start ++ [name])).bind _ = _
  rw [look]
  rfl

end IsPlain

namespace Files

/-- Some files in a single directory, in which paths begin. -/
def flat (files : List (String × Bytes)) : Files := ⟨[], [[]], files.map fun file => ([file.1], file.2)⟩

theorem flat_lookup (name : String) (files : List (String × Bytes)) :
    (flat files).files.lookup [name] = files.lookup name := by
  unfold flat
  induction files with
  | nil => rfl
  | cons file rest ih =>
      obtain ⟨other, content⟩ := file
      have same : ([name] == [other]) = (name == other) := by simp
      rw [List.map_cons, List.lookup_cons, List.lookup_cons, same, ih]

theorem flat_read {name : String} (plain : IsPlain name) {files : List (String × Bytes)} {content : Bytes}
    (holds : files.lookup name = some content) : (flat files).read name = .ok content := by
  rw [← flat_lookup] at holds
  exact plain.read_eq (List.mem_singleton_self _) (fun within => nomatch List.mem_singleton.mp within) holds

/-! ## Files that are written -/

variable {tree : Files} {path : String} {content : Bytes}

/-- The tree with other files in its directories. -/
def withFiles (tree : Files) (files : List (Path × Bytes)) : Files := { tree with files }

theorem short_of_look {place : Path} {entry : Option Entry} (looked : tree.look place = .ok entry) :
    ¬ longestName < (place.getLast?.getD "").utf8ByteSize := by
  intro long
  rw [look, if_pos long] at looked
  cases looked

/-- Whether a directory stands at a place does not depend on files. -/
theorem look_eq_directory_iff {place : Path} : tree.look place = .ok (some .directory) ↔
    ¬ longestName < (place.getLast?.getD "").utf8ByteSize ∧ place ∈ tree.directories := by
  constructor
  · intro stands
    have short := short_of_look stands
    rw [look, if_neg short] at stands
    split at stands
    · rename_i within
      exact ⟨short, List.contains_iff_mem.mp within⟩
    · rcases held : tree.files.lookup place with _ | held <;> rw [held] at stands <;> cases stands
  · rintro ⟨short, within⟩
    rw [look, if_neg short, if_pos (List.contains_iff_mem.mpr within)]

theorem look_withFiles {place : Path} (stands : tree.look place = .ok (some .directory))
    (files : List (Path × Bytes)) : (tree.withFiles files).look place = .ok (some .directory) := by
  obtain ⟨short, within⟩ := look_eq_directory_iff.mp stands
  exact look_eq_directory_iff.mpr ⟨short, within⟩

theorem enter_eq_ok_iff {here next : Path} {name : String} : tree.enter here name = .ok next ↔
    next = step here name ∧ ((name = "." ∨ name = "..") ∨ tree.look (step here name) = .ok (some .directory)) := by
  unfold enter
  grind

theorem enter_withFiles {here next : Path} {name : String} (enters : tree.enter here name = .ok next)
    (files : List (Path × Bytes)) : (tree.withFiles files).enter here name = .ok next := by
  obtain ⟨leads, way⟩ := enter_eq_ok_iff.mp enters
  exact enter_eq_ok_iff.mpr ⟨leads, way.imp_right fun stands => look_withFiles stands files⟩

/-- Where a path leads does not depend on files. -/
theorem follow_withFiles {hasSlash : Bool} {here : Path} {names : List String} {target : Target}
    (leads : tree.follow hasSlash here names = .ok target) (files : List (Path × Bytes)) :
    (tree.withFiles files).follow hasSlash here names = .ok target := by
  fun_induction follow tree hasSlash here names with
  | case1 here => exact leads
  | case2 here last => exact leads
  | case3 here name rest several failure enters => cases leads
  | case4 here name rest several next enters ih =>
      rw [follow, enter_withFiles enters files]
      · exact ih leads
      · exact several

theorem locate_withFiles {target : Target} (leads : tree.locate path = .ok target) (files : List (Path × Bytes)) :
    (tree.withFiles files).locate path = .ok target := by
  unfold locate at leads ⊢
  split at leads
  · cases leads
  rename_i clean
  split at leads
  · cases leads
  rename_i named
  split at leads
  · cases leads
  rename_i short
  split at leads
  · rename_i within
    rw [if_neg clean, if_neg named, if_neg short]
    exact (if_pos within).trans (follow_withFiles leads files)
  · cases leads

/-- Where a file can be opened: its path leads to a name that is not too long, and no directory stands there. -/
structure Admits (tree : Files) (path : String) (place : Path) : Prop where
  leads : tree.locate path = .ok (.name place false)
  short : ¬ longestName < (place.getLast?.getD "").utf8ByteSize
  distinct : place ∉ tree.directories

theorem admits_of_openToAppend (opens : tree.openToAppend path = .ok content) : ∃ place, tree.Admits path place := by
  unfold openToAppend at opens
  rcases leads : tree.locate path with failure | ⟨place⟩ | ⟨place, _ | _⟩ <;> rw [leads] at opens
  case ok.name.false =>
    change (tree.look place).bind _ = _ at opens
    rcases looked : tree.look place with failure | entry <;> rw [looked] at opens
    · cases opens
    refine ⟨place, leads, short_of_look looked, fun within => ?_⟩
    rw [look_eq_directory_iff.mpr ⟨short_of_look looked, within⟩] at looked
    cases looked
    cases opens
  all_goals cases opens

/-- What is read from a file is what it is opened with. -/
theorem openToAppend_of_read (reads : tree.read path = .ok content) : tree.openToAppend path = .ok content := by
  unfold read at reads
  unfold openToAppend
  rcases leads : tree.locate path with failure | ⟨place⟩ | ⟨place, hasSlash⟩ <;> rw [leads] at reads
  · cases reads
  · cases reads
  change (tree.look place).bind _ = _ at reads
  rcases looked : tree.look place with failure | _ | _ | held <;> rw [looked] at reads
  · cases reads
  · cases reads
  · cases reads
  cases hasSlash with
  | true => cases reads
  | false =>
      cases reads
      change (tree.look place).bind _ = _
      rw [looked]
      rfl

namespace Admits

variable {place : Path}

theorem put_eq (admits : tree.Admits path place) (content : Bytes) : tree.put path content =
    tree.withFiles ((place, content) :: tree.files.filter fun entry => entry.1 ≠ place) := by
  rw [put, admits.leads]
  rfl

theorem put (admits : tree.Admits path place) (content : Bytes) : (tree.put path content).Admits path place := by
  rw [admits.put_eq]
  exact ⟨locate_withFiles admits.leads _, admits.short, admits.distinct⟩

theorem look_put (admits : tree.Admits path place) (content : Bytes) :
    (tree.put path content).look place = .ok (some (.file content)) := by
  have distinct : ¬ tree.directories.contains place = true := mt List.contains_iff_mem.mp admits.distinct
  rw [admits.put_eq, look, if_neg admits.short]
  exact (if_neg distinct).trans (by rw [Files.withFiles, List.lookup_cons_self]; rfl)

/-- A file that has been written is read. -/
theorem read_put (admits : tree.Admits path place) (content : Bytes) :
    (tree.put path content).read path = .ok content := by
  rw [read, (admits.put content).leads]
  change ((tree.put path content).look place).bind _ = _
  rw [admits.look_put content]
  rfl

/-- Of what is written to a file one after the other, the last is left. -/
theorem put_put (admits : tree.Admits path place) (before after : Bytes) :
    (tree.put path before).put path after = tree.put path after := by
  rw [(admits.put before).put_eq, admits.put_eq before, admits.put_eq after]
  simp [withFiles]

end Admits

end Files

end LdapDecoy.Os
