import BuildProvenance.Proofs.FileSystem.Frame
import BuildProvenance.Proofs.FileSystem.Names
import BuildProvenance.Proofs.Text.Trim
import Mathlib.Tactic

/-!
# Directories on the way to a file

The path above a path of proper names is that of all names but the last one.
The directories of a path can be made where each of its leading parts leads to
nothing or to a directory, and nothing else is made.  A tree that has only
files and the directories that lead to them takes another file, unless this one
would stand where a directory is needed, or the other way round.
-/

namespace BuildProvenance

/-- A name that is an entry of a directory. -/
structure FileName.IsEntry (name : FileName) : Prop where
  isName : name.IsName
  isProper : name.IsProper

namespace Path

variable {front names : List FileName} {last : FileName}

/-- A path is put together from proper names. -/
theorem leadsTo_of_parts {path : Path}
    (hentries : ∀ name ∈ Text.parts slash path.bytes, FileName.IsEntry name) :
    path.LeadsTo (Text.parts slash path.bytes) := by
  have hnonempty : [] ∉ Text.parts slash path.bytes :=
    fun hmem => (hentries [] hmem).isName.1 rfl
  have hrelative : path.bytes.head? ≠ some slash :=
    fun hhead => hnonempty (Text.nil_mem_parts_of_head hhead)
  have hlast : path.bytes.getLast? ≠ some slash :=
    fun hlast => hnonempty (Text.nil_mem_parts_of_getLast hlast)
  constructor
  · simpa [isAbsolute] using hrelative
  · unfold names
    simp only [hlast, false_and, if_false]
    exact List.filter_eq_self.mpr fun name hname => by simpa using (hentries name hname).isName.1
  · exact fun name hname => (hentries name hname).isProper
  · exact Text.parts_ne_nil _ _

/-- The path of some names. -/
def ofNames (names : List FileName) : Path := ⟨List.intercalate [slash] names⟩

theorem ofNames_parts (path : Path) : ofNames (Text.parts slash path.bytes) = path := by
  unfold ofNames
  rw [Text.intercalate_parts]

theorem parts_ofNames (hne : names ≠ []) (hentries : ∀ name ∈ names, name.IsEntry) :
    Text.parts slash (ofNames names).bytes = names :=
  Text.parts_intercalate hne fun name hname => (hentries name hname).isName.2

theorem leadsTo_ofNames (hne : names ≠ []) (hentries : ∀ name ∈ names, name.IsEntry) :
    (ofNames names).LeadsTo names := by
  have hparts := parts_ofNames hne hentries
  have hleads : (ofNames names).LeadsTo (Text.parts slash (ofNames names).bytes) :=
    leadsTo_of_parts (by rwa [hparts])
  rwa [hparts] at hleads

/-! ## The path above -/

theorem bytes_ofNames_concat (hne : front ≠ []) (last : FileName) :
    (ofNames (front ++ [last])).bytes = (ofNames front).bytes ++ slash :: last := by
  have hglued := Text.intercalate_append_cons hne slash last []
  rwa [List.intercalate_singleton] at hglued

theorem cutLast?_ofNames_concat (front : List FileName) (hlast : last.IsEntry) :
    Text.cutLast? slash (ofNames (front ++ [last])).bytes =
      if front = [] then none else some ((ofNames front).bytes, last) := by
  split
  next hempty =>
    rw [hempty]
    exact Text.cutLast?_eq_none_iff.mpr (by simpa [ofNames] using hlast.isName.2)
  next hne =>
    rw [bytes_ofNames_concat hne]
    exact Text.cutLast?_append hlast.isName.2

theorem trimEnd_ofNames_concat (front : List FileName) (hlast : last.IsEntry) :
    Text.trimEnd slash (ofNames (front ++ [last])).bytes = (ofNames (front ++ [last])).bytes := by
  obtain ⟨before, hbytes⟩ : ∃ before, (ofNames (front ++ [last])).bytes = before ++ last := by
    by_cases hempty : front = []
    · exact ⟨[], by simp [hempty, ofNames]⟩
    · exact ⟨(ofNames front).bytes ++ [slash], by simp [bytes_ofNames_concat hempty]⟩
  apply Text.dropEndWhile_of_getLast?
  intro byte hbyte
  rw [hbytes, List.getLast?_append_of_ne_nil _ hlast.isName.1] at hbyte
  have hmem : byte ∈ last := List.mem_of_getLast? hbyte
  simpa using fun heq : byte = slash => hlast.isName.2 (heq ▸ hmem)

theorem trimAll_ofNames (hentries : ∀ name ∈ names, name.IsEntry) (steps : ℕ) :
    trimAll steps (ofNames names).bytes = (ofNames names).bytes := by
  have htrimmed : trimNames (ofNames names).bytes = (ofNames names).bytes := by
    rcases List.eq_nil_or_concat names with rfl | ⟨front, last, rfl⟩
    · rfl
    · rw [List.concat_eq_append] at hentries ⊢
      have hlast : last.IsEntry := hentries last (by simp)
      unfold trimNames
      simp only [trimEnd_ofNames_concat front hlast, cutLast?_ofNames_concat front hlast]
      split
      next before name hcut =>
        split at hcut
        next hempty => cases hcut
        next hne =>
          cases hcut
          exact if_neg fun hdot => hlast.isProper.1 hdot.1
      next hcut => rfl
  cases steps with
  | zero => rfl
  | succ steps => rw [trimAll, htrimmed, if_neg (lt_irrefl _)]

theorem ofNames_ne_nil (hne : names ≠ []) (hentries : ∀ name ∈ names, name.IsEntry) :
    (ofNames names).bytes ≠ [] := by
  intro hempty
  have hparts := parts_ofNames hne hentries
  rw [hempty] at hparts
  exact (hentries [] (by simp [← hparts, Text.parts])).isName.1 rfl

/-- The path above is that of all names but the last one. -/
theorem parent?_ofNames (hentries : ∀ name ∈ front ++ [last], name.IsEntry) :
    (ofNames (front ++ [last])).parent? = some (ofNames front) := by
  have hlast : last.IsEntry := hentries last (by simp)
  have hfront : ∀ name ∈ front, name.IsEntry :=
    fun name hname => hentries name (List.mem_append_left _ hname)
  unfold parent?
  simp only [trimAll_ofNames hentries, cutLast?_ofNames_concat front hlast,
    if_neg (ofNames_ne_nil (by simp) hentries)]
  by_cases hempty : front = []
  · simp [hempty, ofNames]
  · simp only [if_neg hempty, trimAll_ofNames hfront, if_neg (ofNames_ne_nil hempty hfront)]

theorem isUsable_iff {path : Path} :
    path.isUsable = true ↔ path.bytes ≠ [] ∧ path.bytes.length < 4096 ∧ 0 ∉ path.bytes := by
  simp [isUsable, and_assoc]

theorem isUsable_front (hne : front ≠ []) (hentries : ∀ name ∈ front, name.IsEntry)
    (husable : (ofNames (front ++ [last])).isUsable = true) :
    (ofNames front).isUsable = true := by
  rw [isUsable_iff, bytes_ofNames_concat hne, List.length_append, List.mem_append, not_or]
    at husable
  exact isUsable_iff.mpr ⟨ofNames_ne_nil hne hentries,
    (Nat.le_add_right _ _).trans_lt husable.2.1, husable.2.2.1⟩

end Path

namespace FileSystem

open Node

variable {root : Node} {start done names : List FileName} {name : FileName}
  {fs made : FileSystem}

/-! ## Making directories -/

/-- The place is free for a directory, or is one. -/
def IsOpenAt (root : Node) (names : List FileName) : Prop :=
  root.at? names = none ∨ root.IsDirectoryAt names

theorem exists_makeDirectory? (hfit : Fit (done ++ [name]))
    (hdirectory : fs.root.IsDirectoryAt (start ++ done))
    (hopen : IsOpenAt fs.root (start ++ done ++ [name])) :
    ∃ made, fs.makeDirectory? start (done ++ [name]) = some made ∧
      made.root.IsDirectoryAt (start ++ done ++ [name]) := by
  unfold makeDirectory?
  rcases hopen with hvacant | ⟨entries, hentries⟩
  · have hwalk : ∀ follow, walk fs.root follow maxLinks start (done ++ [name]) =
        some (.vacant (start ++ done) name) :=
      fun follow => walk_append_of_vacant hfit hdirectory hvacant
    rw [hwalk, hwalk]
    refine ⟨_, rfl, ?_⟩
    rw [← look?_eq_some_directory_iff, look?_putAt hdirectory isLeaf_empty _ _, if_pos rfl]
    · rfl
    · intro found hfound
      rw [hvacant] at hfound
      cases hfound
  · have hplace : fs.root.at? (start ++ (done ++ [name])) = some (.directory entries) := by
      rwa [← List.append_assoc]
    rw [walk_of_directory hfit hplace]
    exact ⟨fs, rfl, entries, hentries⟩

theorem Adds.isOpenAt {places : Set (List FileName)} (hadds : fs.Adds made places)
    (hopen : IsOpenAt fs.root names) : IsOpenAt made.root names := by
  rcases hadds.look?_eq names with hsame | ⟨-, hnew, -⟩
  · rw [IsOpenAt, ← look?_eq_none_iff, ← look?_eq_some_directory_iff, hsame, look?_eq_none_iff,
      look?_eq_some_directory_iff]
    exact hopen
  · exact Or.inr (look?_eq_some_directory_iff.mp hnew)

/-- Directories can be made where each leading part is free or a directory. -/
theorem exists_makeDirectories? (hfit : Fit (done ++ names))
    (hdirectory : fs.root.IsDirectoryAt (start ++ done))
    (hopen : ∀ part, part <+: names → IsOpenAt fs.root (start ++ done ++ part)) :
    ∃ made, fs.makeDirectories? start done names = some made ∧
      made.root.IsDirectoryAt (start ++ done ++ names) := by
  induction names generalizing fs done with
  | nil => exact ⟨fs, rfl, by rwa [List.append_nil]⟩
  | cons name others ih =>
      rw [List.append_cons] at hfit ⊢
      have hfirst : [name] <+: name :: others := by simp
      obtain ⟨first, hmade, hat⟩ := exists_makeDirectory?
        (fun other hother => hfit other (List.mem_append_left _ hother)) hdirectory
        (hopen [name] hfirst)
      rw [List.append_assoc start] at hat
      obtain ⟨made, hrest, hmadeAt⟩ := ih hfit hat fun part hpart => by
        have hlonger := hopen (name :: part) (List.cons_prefix_cons.mpr ⟨rfl, hpart⟩)
        rw [List.append_cons, List.append_assoc start] at hlonger
        exact (adds_of_makeDirectory? hmade).isOpenAt hlonger
      refine ⟨made, ?_, ?_⟩
      · rw [makeDirectories?, hmade]
        exact hrest
      · rwa [List.append_assoc start]

variable {front : List FileName}

theorem exists_createDirectories? (hentries : ∀ name ∈ front, FileName.IsEntry name)
    (hfit : Fit front) (husable : front ≠ [] → (Path.ofNames front).isUsable = true)
    (hhere : fs.root.IsDirectoryAt fs.workingDirectory)
    (hopen : ∀ part, part <+: front → IsOpenAt fs.root (fs.workingDirectory ++ part)) :
    ∃ made, fs.createDirectories? (Path.ofNames front) = some made ∧
      made.root.IsDirectoryAt (fs.workingDirectory ++ front) := by
  unfold createDirectories?
  by_cases hempty : front = []
  · subst hempty
    exact ⟨fs, if_pos rfl, by rwa [List.append_nil]⟩
  · have hleads := Path.leadsTo_ofNames hempty hentries
    have hmade : ∃ made, fs.makeDirectories? fs.workingDirectory [] front = some made ∧
        made.root.IsDirectoryAt (fs.workingDirectory ++ [] ++ front) := by
      apply exists_makeDirectories?
      · exact hfit
      · rwa [List.append_nil]
      · rwa [List.append_nil]
    rw [if_neg (Path.ofNames_ne_nil hempty hentries), if_pos (husable hempty), hleads.names_eq,
      hleads.relative]
    rwa [List.append_nil] at hmade

/-- All new directories are on the way. -/
theorem adds_of_createDirectories?_ofNames (hentries : ∀ name ∈ front, FileName.IsEntry name)
    (hplain : made.root.Plain) (hmade : fs.createDirectories? (Path.ofNames front) = some made) :
    fs.Adds made {place | ∃ part, part <+: front ∧ place = fs.workingDirectory ++ part} := by
  by_cases hempty : front = []
  · subst hempty
    cases hmade
    exact adds_refl fs _
  · have hleads := Path.leadsTo_ofNames hempty hentries
    have hadds := adds_of_createDirectories? hmade
    rw [hleads.names_eq, origin, hleads.relative, hadds.workingDirectory_eq] at hadds
    refine hadds.mono ?_
    rintro place ⟨part, node, hpart, hwalk⟩
    refine ⟨part, hpart, ?_⟩
    exact (walk_proper hplain (fun name hname => hleads.proper name (hpart.subset hname)) hwalk).1

/-! ## Files and directories only -/

variable {files : List FoundFile} {file : FoundFile} {a b : List FileName}

/-- The outer names lead on to the inner ones. -/
def Above (outer inner : List FileName) : Prop := ∃ name rest, inner = outer ++ name :: rest

theorem above_concat_of_part {part : List FileName} (hpart : part <+: names) (last : FileName) :
    Above part (names ++ [last]) := by
  obtain ⟨rest, rfl⟩ := hpart
  cases rest with
  | nil => exact ⟨last, [], by simp⟩
  | cons name others => exact ⟨name, others ++ [last], by simp⟩

theorem not_above_self (names : List FileName) : ¬Above names names := by
  rintro ⟨name, rest, heq⟩
  simpa using congrArg List.length heq

/-- Neither file stands where the other needs a directory. -/
def Apart (a b : List FileName) : Prop := ¬Above a b ∧ ¬Above b a

theorem Apart.symm (hapart : Apart a b) : Apart b a := ⟨hapart.2, hapart.1⟩

theorem apart_self (names : List FileName) : Apart names names :=
  ⟨not_above_self names, not_above_self names⟩

/-- A file is no directory, so no other file is below it. -/
theorem Holds.not_above (hholds : fs.Holds files) {outer inner : FoundFile} (houter : outer ∈ files)
    (hinner : inner ∈ files) : ¬Above outer.names inner.names := by
  rintro ⟨name, rest, hnames⟩
  have hfile := (hholds.files_iff outer).mpr houter
  have hbelow := (hholds.files_iff inner).mpr hinner
  rw [hnames, ← List.append_assoc] at hbelow
  obtain ⟨entries, hentries⟩ := Node.isDirectoryAt_of_at?_append hbelow
  rw [hfile] at hentries
  cases hentries

theorem Holds.apart (hholds : fs.Holds files) {one other : FoundFile} (hone : one ∈ files)
    (hother : other ∈ files) : Apart one.names other.names :=
  ⟨hholds.not_above hone hother, hholds.not_above hother hone⟩

/-- The names of the files stay the same but for those of the one that is written. -/
theorem forall_mem_overwrite_iff {motive : List FileName → Prop} :
    (∀ other ∈ overwrite file files, motive other.names) ↔
      motive file.names ∧ ∀ other ∈ files, motive other.names := by
  unfold overwrite
  simp only [List.mem_cons, forall_eq_or_imp, List.mem_filter, decide_eq_true_eq]
  refine and_congr_right fun hfile => ⟨fun hall other hother => ?_, fun hall other hother => ?_⟩
  · by_cases hsame : other.names = file.names
    · rwa [hsame]
    · exact hall other ⟨hother, hsame⟩
  · exact hall other hother.1

theorem exists_mem_overwrite_iff {motive : List FileName → Prop} :
    (∃ other ∈ overwrite file files, motive other.names) ↔
      motive file.names ∨ ∃ other ∈ files, motive other.names := by
  have hnone := @forall_mem_overwrite_iff files file fun names => ¬motive names
  rw [← not_iff_not]
  push Not
  exact hnone

/-- Below the working directory there are the files of the list, and directories only on the
way to them. -/
structure Mirrors (fs : FileSystem) (files : List FoundFile) : Prop where
  holds : fs.Holds files
  directory : ∀ names, fs.root.IsDirectoryAt (fs.workingDirectory ++ names) →
    names = [] ∨ ∃ file ∈ files, Above names file.names

/-- The directories on the way to a file are new. -/
theorem Mirrors.directory_of_adds (hmirrors : fs.Mirrors files)
    (hadds : fs.Adds made {place | ∃ part, part <+: front ∧ place = fs.workingDirectory ++ part})
    (hdirectory : made.root.IsDirectoryAt (fs.workingDirectory ++ names)) :
    names = [] ∨ (∃ file ∈ files, Above names file.names) ∨ names <+: front := by
  rcases hadds.look?_eq (fs.workingDirectory ++ names) with hsame | ⟨-, -, part, hpart, hplace⟩
  · rw [← look?_eq_some_directory_iff, hsame, look?_eq_some_directory_iff] at hdirectory
    exact (hmirrors.directory names hdirectory).imp_right Or.inl
  · rw [List.append_cancel_left_eq] at hplace
    exact Or.inr (Or.inr (hplace ▸ hpart))

/-- Directories can be made on the way to a new file that no other file stands in. -/
theorem Mirrors.isOpenAt (hmirrors : fs.Mirrors files)
    (hapart : ∀ file ∈ files, ¬Above file.names (front ++ [name])) (hpart : names <+: front) :
    IsOpenAt fs.root (fs.workingDirectory ++ names) := by
  cases hnode : fs.root.at? (fs.workingDirectory ++ names) with
  | none => exact Or.inl hnode
  | some node =>
      cases node with
      | directory entries => exact Or.inr ⟨entries, hnode⟩
      | link target => exact absurd hnode (hmirrors.holds.plain.ne_link _ target)
      | file content modified =>
          have hmem := (hmirrors.holds.files_iff ⟨names, content, modified⟩).mp hnode
          exact absurd (above_concat_of_part hpart name) (hapart _ hmem)

/-- Once they are made, the place of the new file is free, unless it leads to another file. -/
theorem Mirrors.file_of_adds (hmirrors : fs.Mirrors files) (hplain : made.root.Plain)
    (hadds : fs.Adds made {place | ∃ part, part <+: front ∧ place = fs.workingDirectory ++ part})
    (hapart : ∀ file ∈ files, ¬Above (front ++ [name]) file.names) {node : Node}
    (hnode : made.root.at? (fs.workingDirectory ++ (front ++ [name])) = some node) :
    ∃ content modified, node = .file content modified := by
  cases node with
  | file content modified => exact ⟨content, modified, rfl⟩
  | link target => exact absurd hnode (hplain.ne_link _ target)
  | directory entries =>
      rcases hmirrors.directory_of_adds hadds ⟨entries, hnode⟩ with
        hnil | ⟨file, hmem, habove⟩ | hpart
      · simp at hnil
      · exact absurd habove (hapart file hmem)
      · simpa using hpart.length_le

theorem mirrors_empty (clock : ℤ) : (empty clock).Mirrors [] := by
  refine ⟨holds_empty clock, fun names hdirectory => Or.inl ?_⟩
  cases names with
  | nil => rfl
  | cons name rest =>
      obtain ⟨entries, hentries⟩ := hdirectory
      simp [empty, at?, find?] at hentries

/-- A write makes no directory. -/
theorem isDirectoryAt_of_write? {written : FileSystem} {path : Path} {content : ByteArray}
    (hwritten : fs.write? path content = some written)
    (hdirectory : written.root.IsDirectoryAt names) : fs.root.IsDirectoryAt names := by
  obtain ⟨located, hlocate, hfree, rfl⟩ := exists_located_of_write? hwritten
  obtain ⟨-, hwalk⟩ := locate?_eq_some_iff.mp hlocate
  rw [← look?_eq_some_directory_iff] at hdirectory ⊢
  rw [look?_putAt_file (standsIn_of_walk hwalk) hfree] at hdirectory
  split at hdirectory
  next hplace => cases hdirectory
  next hother => exact hdirectory

/-- Nor does one that is tried at another time and may fail. -/
theorem isDirectoryAt_of_write?_getD {path : Path} {content : ByteArray} {clock : ℤ}
    (hdirectory : (({ fs with clock }.write? path content).getD fs).root.IsDirectoryAt names) :
    fs.root.IsDirectoryAt names := by
  cases hwritten : { fs with clock }.write? path content with
  | none => rwa [hwritten] at hdirectory
  | some written =>
      rw [hwritten, Option.getD_some] at hdirectory
      exact (isDirectoryAt_of_write? hwritten hdirectory :)

end FileSystem

end BuildProvenance
