import BuildProvenance.Proofs.FileSystem.Tree
import Mathlib.Tactic

/-!
# Writing files below the working directory

Without links, a path that has no name `.` or `..` leads where its names say.
Directories that are made on the way hold no files, so after writes the files
below the working directory are those that were written, each with what was
written last.
-/

namespace BuildProvenance

namespace Located

/-- Where the located node is, or would be. -/
def place : Located → List FileName
  | .found names _ => names
  | .vacant directory name => directory ++ [name]

def node? : Located → Option Node
  | .found _ node => some node
  | .vacant _ _ => none

/-- The tree has the located node, or a directory without the entry. -/
def StandsIn (root : Node) : Located → Prop
  | .found names node => root.at? names = some node
  | .vacant directory name => root.IsDirectoryAt directory ∧ root.at? (directory ++ [name]) = none

theorem StandsIn.at?_place {root : Node} {located : Located} (hstands : located.StandsIn root) :
    root.at? located.place = located.node? := by
  cases located with
  | found names node => exact hstands
  | vacant directory name => exact hstands.2

/-- A file can be written in the place of what is located. -/
def IsFree (located : Located) : Prop :=
  ∀ node, located.node? = some node → ∃ content modified, node = .file content modified

end Located

namespace FileName

/-- A name that leads to an entry of its own. -/
def IsProper (name : FileName) : Prop := name ≠ dot ∧ name ≠ dotDot

instance (name : FileName) : Decidable name.IsProper := inferInstanceAs (Decidable (_ ∧ _))

end FileName

/-- The path stays below the working directory and has proper names. -/
structure Path.LeadsTo (path : Path) (names : List FileName) : Prop where
  relative : path.isAbsolute = false
  names_eq : path.names = names
  proper : ∀ name ∈ names, name.IsProper
  ne_nil : names ≠ []

theorem Path.leadsTo_singleton_iff {path : Path} {name : FileName} : path.LeadsTo [name] ↔
    path.isAbsolute = false ∧ path.names = [name] ∧ name ≠ FileName.dot ∧
      name ≠ FileName.dotDot := by
  constructor
  · rintro ⟨hrelative, hnames, hproper, -⟩
    exact ⟨hrelative, hnames, hproper name List.mem_cons_self⟩
  · rintro ⟨hrelative, hnames, hproper⟩
    exact ⟨hrelative, hnames, by simpa [FileName.IsProper] using hproper, List.cons_ne_nil _ _⟩

namespace FileSystem

open Node

variable {root : Node} {follow : Bool} {links : ℕ} {here names : List FileName} {located : Located}

theorem vacant?_eq_some_iff {directory : List FileName} {name : FileName} :
    vacant? root directory name = some located ↔
      root.IsDirectoryAt directory ∧ located = .vacant directory name := by
  unfold vacant? IsDirectoryAt
  cases root.at? directory with
  | none => simp
  | some found => cases found <;> simp [eq_comm]

/-- What a walk comes to is in the tree. -/
theorem standsIn_of_walk (hwalk : walk root follow links here names = some located) :
    located.StandsIn root := by
  fun_induction walk root follow links here names with
  | case1 links here =>
      obtain ⟨node, hnode, rfl⟩ := Option.map_eq_some_iff.mp hwalk
      exact hnode
  | case2 links here rest ih => exact ih hwalk
  | case3 links here rest hdot ih => exact ih hwalk
  | case4 => cases hwalk
  | case5 links here first hdot hdotDot hlong hnone =>
      obtain ⟨hdirectory, rfl⟩ := vacant?_eq_some_iff.mp hwalk
      exact ⟨hdirectory, hnone⟩
  | case6 => cases hwalk
  | case7 links here first rest hdot hdotDot hlong entries hdirectory ih => exact ih hwalk
  | case8 links here first hdot hdotDot hlong content modified hfile =>
      cases hwalk
      exact hfile
  | case9 => cases hwalk
  | case10 links here first rest hdot hdotDot hlong target hlink hlast =>
      cases hwalk
      exact hlink
  | case11 => cases hwalk
  | case12 here first rest hdot hdotDot hlong target hlink hfollow left ih => exact ih hwalk

/-! ## Paths in a tree without links -/

/-- Proper names lead where they say. -/
theorem walk_proper (hplain : root.Plain) (hproper : ∀ name ∈ names, name.IsProper)
    (hwalk : walk root follow links here names = some located) :
    located.place = here ++ names ∧ located.node? = root.at? (here ++ names) ∧
      ∀ name ∈ names, name.length ≤ FileName.maxLength := by
  induction names generalizing here with
  | nil =>
      rw [walk] at hwalk
      obtain ⟨node, hnode, rfl⟩ := Option.map_eq_some_iff.mp hwalk
      simp [Located.place, Located.node?, hnode]
  | cons first rest ih =>
      have hfirst := hproper first List.mem_cons_self
      have hothers : ∀ name ∈ rest, name.IsProper :=
        fun name hname => hproper name (List.mem_cons_of_mem _ hname)
      rw [walk, if_neg hfirst.1, if_neg hfirst.2] at hwalk
      split at hwalk
      next hlong => cases hwalk
      next hlong =>
        split at hwalk
        next hnone =>
          split at hwalk
          next hrest =>
            obtain ⟨-, rfl⟩ := vacant?_eq_some_iff.mp hwalk
            subst hrest
            exact ⟨rfl, hnone.symm, by simpa using hlong⟩
          next hrest => cases hwalk
        next entries hdirectory =>
          obtain ⟨hplace, hnode, hlengths⟩ := ih hothers hwalk
          rw [List.append_assoc, List.singleton_append] at hplace hnode
          refine ⟨hplace, hnode, fun name hname => ?_⟩
          rcases List.mem_cons.mp hname with rfl | hname
          · exact not_lt.mp hlong
          · exact hlengths name hname
        next content modified hfile =>
          split at hwalk
          next hrest =>
            cases hwalk
            subst hrest
            exact ⟨rfl, hfile.symm, by simpa using hlong⟩
          next hrest => cases hwalk
        next target hlink => exact absurd hlink (hplain.ne_link _ target)

/-! ## Names that fit -/

/-- Names that a directory can hold. -/
def Fit (names : List FileName) : Prop :=
  ∀ name ∈ names, name.IsProper ∧ name.length ≤ FileName.maxLength

instance (names : List FileName) : Decidable (Fit names) :=
  inferInstanceAs (Decidable (∀ name ∈ names, _))

/-- Directories are passed through. -/
theorem walk_directory {done rest : List FileName} (hfit : Fit done)
    (hdirectory : root.IsDirectoryAt (here ++ done)) :
    walk root follow links here (done ++ rest) = walk root follow links (here ++ done) rest := by
  induction done generalizing here with
  | nil => simp
  | cons first others ih =>
      obtain ⟨hproper, hshort⟩ := hfit first List.mem_cons_self
      rw [List.append_cons] at hdirectory ⊢
      obtain ⟨entries, hentries⟩ := hdirectory.of_append
      rw [List.cons_append, walk, if_neg hproper.1, if_neg hproper.2,
        if_neg (not_lt.mpr hshort), hentries]
      exact ih (fun name hname => hfit name (List.mem_cons_of_mem _ hname)) hdirectory

theorem walk_of_directory {entries : List (FileName × Node)} (hfit : Fit names)
    (hentries : root.at? (here ++ names) = some (.directory entries)) :
    walk root follow links here names = some (.found (here ++ names) (.directory entries)) := by
  have hwalk : walk root follow links here (names ++ []) =
      walk root follow links (here ++ names) [] := walk_directory hfit ⟨entries, hentries⟩
  rw [List.append_nil, walk, hentries] at hwalk
  exact hwalk

/-- A name without an entry leads to a place for a new one. -/
theorem walk_of_vacant {name : FileName} (hname : name.IsProper)
    (hlength : name.length ≤ FileName.maxLength) (hhere : root.IsDirectoryAt here)
    (hvacant : root.at? (here ++ [name]) = none) :
    walk root follow links here [name] = some (.vacant here name) := by
  rw [walk, if_neg hname.1, if_neg hname.2, if_neg (not_lt.mpr hlength), hvacant]
  exact vacant?_eq_some_iff.mpr ⟨hhere, rfl⟩

/-- A file is found under names that fit. -/
theorem walk_of_file (hfit : Fit names) (hne : names ≠ []) {content : ByteArray} {modified : ℤ}
    (hfile : root.at? (here ++ names) = some (.file content modified)) :
    walk root follow links here names = some (.found (here ++ names) (.file content modified)) := by
  obtain ⟨front, last, rfl⟩ : ∃ front last, names = front ++ [last] :=
    ⟨_, _, (List.dropLast_append_getLast hne).symm⟩
  obtain ⟨hproper, hshort⟩ := hfit last (by simp)
  rw [← List.append_assoc] at hfile ⊢
  rw [walk_directory (fun name hname => hfit name (List.mem_append_left _ hname))
    (isDirectoryAt_of_at?_append hfile), walk, if_neg hproper.1, if_neg hproper.2,
    if_neg (not_lt.mpr hshort), hfile]
  rfl

theorem walk_append_of_vacant {front : List FileName} {name : FileName}
    (hfit : Fit (front ++ [name])) (hdirectory : root.IsDirectoryAt (here ++ front))
    (hvacant : root.at? (here ++ front ++ [name]) = none) :
    walk root follow links here (front ++ [name]) = some (.vacant (here ++ front) name) := by
  obtain ⟨hproper, hshort⟩ := hfit name (by simp)
  rw [walk_directory (fun other hother => hfit other (List.mem_append_left _ hother)) hdirectory]
  exact walk_of_vacant hproper hshort hdirectory hvacant

/-! ## Files below the working directory -/

/-- The files below the working directory are those of the list. -/
structure Holds (fs : FileSystem) (files : List FoundFile) : Prop where
  plain : fs.root.Plain
  here : fs.root.IsDirectoryAt fs.workingDirectory
  files_iff : ∀ file : FoundFile, fs.root.at? (fs.workingDirectory ++ file.names) =
    some (.file file.content file.modified) ↔ file ∈ files

theorem holds_empty (clock : ℤ) : (empty clock).Holds [] := by
  constructor
  case plain =>
    refine .directory (List.nodup_singleton _) fun entry hentry => ?_
    rw [List.mem_singleton.mp hentry]
    exact plain_empty
  case here =>
    exact ⟨[], by simp [empty, at?, find?]⟩
  case files_iff =>
    intro file
    have hdirectory : (empty clock).root.at? (empty clock).workingDirectory =
        some (.directory []) := by
      simp [empty, at?, find?]
    rw [at?_append, hdirectory]
    cases file.names with
    | nil => simp [at?]
    | cons name rest => simp [at?, find?]

variable {fs made : FileSystem} {files : List FoundFile} {directory : List FileName}
  {name : FileName}

/-! ### New directories -/

theorem Holds.putDirectory (hholds : fs.Holds files) (hparent : fs.root.IsDirectoryAt directory)
    (hvacant : fs.root.at? (directory ++ [name]) = none) :
    { fs with root := fs.root.putAt (directory ++ [name]) (.directory []) }.Holds files := by
  have hfree : ¬fs.root.IsDirectoryAt (directory ++ [name]) := by
    rintro ⟨entries, hfound⟩
    rw [hvacant] at hfound
    cases hfound
  constructor
  case plain =>
    exact hholds.plain.putAt plain_empty _
  case here =>
    exact hholds.here.putAt hholds.plain hparent hfree isLeaf_empty
  case files_iff =>
    intro file
    rw [← hholds.files_iff, hholds.plain.at?_putAt hparent hfree isLeaf_empty]
    split
    next heq =>
      rw [heq, hvacant]
      simp
    next hne => rfl

theorem Holds.makeDirectory? (hholds : fs.Holds files) (hhere : fs.root.IsDirectoryAt here)
    (hmade : fs.makeDirectory? here names = some made) :
    made.Holds files ∧ made.workingDirectory = fs.workingDirectory ∧
      made.root.IsDirectoryAt here := by
  unfold FileSystem.makeDirectory? at hmade
  split at hmade
  next hfound =>
    cases hmade
    exact ⟨hholds, rfl, hhere⟩
  next hfound => cases hmade
  next hother =>
    split at hmade
    next directory name hwalk =>
      cases hmade
      obtain ⟨hparent, hvacant⟩ := standsIn_of_walk hwalk
      refine ⟨hholds.putDirectory hparent hvacant, rfl, ?_⟩
      refine hhere.putAt hholds.plain hparent ?_ isLeaf_empty
      rintro ⟨entries, hfound⟩
      rw [hvacant] at hfound
      cases hfound
    next hnone => cases hmade

theorem Holds.makeDirectories? (hholds : fs.Holds files) (hhere : fs.root.IsDirectoryAt here)
    {done : List FileName} (hmade : fs.makeDirectories? here done names = some made) :
    made.Holds files ∧ made.workingDirectory = fs.workingDirectory := by
  induction names generalizing fs done with
  | nil =>
      cases hmade
      exact ⟨hholds, rfl⟩
  | cons name rest ih =>
      rw [FileSystem.makeDirectories?] at hmade
      split at hmade
      next first hfirst =>
        obtain ⟨hholdsFirst, hworking, hhereFirst⟩ := hholds.makeDirectory? hhere hfirst
        obtain ⟨hholdsMade, hsame⟩ := ih hholdsFirst hhereFirst hmade
        exact ⟨hholdsMade, hsame.trans hworking⟩
      next hnone => cases hmade

theorem Holds.createDirectories? (hholds : fs.Holds files) {path : Path}
    (hmade : fs.createDirectories? path = some made) :
    made.Holds files ∧ made.workingDirectory = fs.workingDirectory := by
  unfold FileSystem.createDirectories? at hmade
  split at hmade
  next hempty =>
    cases hmade
    exact ⟨hholds, rfl⟩
  next hempty =>
    split at hmade
    next husable =>
      refine hholds.makeDirectories? ?_ hmade
      split
      next habsolute =>
        have hroot : fs.root.IsDirectoryAt ([] ++ fs.workingDirectory) := hholds.here
        exact hroot.of_append
      next hrelative => exact hholds.here
    next hunusable => cases hmade

/-! ### Written files -/

/-- The files once one was written under some names. -/
def overwrite (file : FoundFile) (files : List FoundFile) : List FoundFile :=
  file :: files.filter fun other => other.names ≠ file.names

theorem Holds.putFile (hholds : fs.Holds files) (hparent : fs.root.IsDirectoryAt directory)
    (hplace : fs.workingDirectory ++ names = directory ++ [name])
    (hfree : ¬fs.root.IsDirectoryAt (directory ++ [name])) (content : ByteArray) (modified : ℤ) :
    { fs with root := fs.root.putAt (directory ++ [name]) (.file content modified) }.Holds
      (overwrite ⟨names, content, modified⟩ files) := by
  have hleaf := isLeaf_file content modified
  constructor
  case plain =>
    exact hholds.plain.putAt (.file content modified) _
  case here =>
    exact hholds.here.putAt hholds.plain hparent hfree hleaf
  case files_iff =>
    intro file
    rw [hholds.plain.at?_putAt hparent hfree hleaf, ← hplace]
    simp only [List.append_cancel_left_eq, overwrite, List.mem_cons, List.mem_filter]
    split
    next heq =>
      obtain ⟨found, held, time⟩ := file
      simp only at heq
      subst heq
      simp [eq_comm]
    next hne =>
      rw [hholds.files_iff]
      constructor
      · intro hmem
        exact Or.inr ⟨hmem, by simpa using hne⟩
      · rintro (rfl | ⟨hmem, -⟩)
        · exact absurd rfl hne
        · exact hmem

theorem locate?_of_leadsTo {path : Path} (hpath : path.LeadsTo names) (fs : FileSystem)
    (follow : Bool) : fs.locate? follow path =
      if path.isUsable then walk fs.root follow maxLinks fs.workingDirectory names else none := by
  unfold locate?
  rw [hpath.relative, hpath.names_eq]
  rfl

/-- A single name is looked up in the working directory. -/
theorem node?_of_leadsTo_singleton {path : Path} {name : FileName} (hpath : path.LeadsTo [name])
    (husable : path.isUsable = true) (hlength : name.length ≤ FileName.maxLength)
    (hlink : ∀ target, fs.root.at? (fs.workingDirectory ++ [name]) ≠ some (.link target)) :
    fs.node? true path = fs.root.at? (fs.workingDirectory ++ [name]) := by
  have hproper := hpath.proper name List.mem_cons_self
  unfold node?
  rw [locate?_of_leadsTo hpath, if_pos husable, walk, if_neg hproper.1, if_neg hproper.2,
    if_neg (not_lt.mpr hlength)]
  cases hfound : fs.root.at? (fs.workingDirectory ++ [name]) with
  | none =>
      simp only [if_true, vacant?]
      cases fs.root.at? fs.workingDirectory with
      | none => rfl
      | some place => cases place <;> rfl
  | some node =>
      cases node with
      | file content modified => rfl
      | directory entries => simp only [walk, hfound, Option.map_some]
      | link target => exact absurd hfound (hlink target)

theorem node?_of_root {path : Path} {name : FileName} {entries : List (FileName × Node)}
    (hpath : path.LeadsTo [name]) (husable : path.isUsable = true)
    (hlength : name.length ≤ FileName.maxLength)
    (hlink : ∀ target, Node.find? name entries ≠ some (.link target)) (clock : ℤ) :
    (FileSystem.mk (.directory entries) [] clock).node? true path = Node.find? name entries := by
  have hfound : (Node.directory entries).at? ([] ++ [name]) = Node.find? name entries := by
    rw [List.nil_append, at?_directory_cons]
    cases Node.find? name entries <;> rfl
  rw [node?_of_leadsTo_singleton hpath husable hlength fun target => by
    rw [hfound]
    exact hlink target]
  exact hfound

/-- A file that was written can be written again. -/
theorem exists_write?_of_file {path : Path} (hpath : path.LeadsTo names)
    (husable : path.isUsable = true) (hfit : Fit names)
    {held : ByteArray} {modified : ℤ}
    (hfile : fs.root.at? (fs.workingDirectory ++ names) = some (.file held modified))
    (content : ByteArray) : ∃ written, fs.write? path content = some written := by
  unfold FileSystem.write?
  rw [locate?_of_leadsTo hpath, if_pos husable,
    walk_of_file hfit hpath.ne_nil hfile]
  exact ⟨_, rfl⟩

/-- A file can be written into a directory where nothing or a file is. -/
theorem exists_write? {path : Path} {front : List FileName}
    (hpath : path.LeadsTo (front ++ [name])) (husable : path.isUsable = true)
    (hfit : Fit (front ++ [name]))
    (hdirectory : fs.root.IsDirectoryAt (fs.workingDirectory ++ front))
    (hfree : ∀ node, fs.root.at? (fs.workingDirectory ++ front ++ [name]) = some node →
      ∃ content modified, node = .file content modified) (content : ByteArray) :
    ∃ written, fs.write? path content = some written := by
  cases hnode : fs.root.at? (fs.workingDirectory ++ front ++ [name]) with
  | some node =>
      obtain ⟨held, modified, rfl⟩ := hfree node hnode
      rw [List.append_assoc] at hnode
      exact exists_write?_of_file hpath husable hfit hnode content
  | none =>
      unfold write?
      rw [locate?_of_leadsTo hpath, if_pos husable,
        walk_append_of_vacant hfit hdirectory hnode]
      exact ⟨_, rfl⟩

/-- A new file can be written into the working directory. -/
theorem exists_write?_of_vacant {path : Path} (hpath : path.LeadsTo [name])
    (husable : path.isUsable = true) (hlength : name.length ≤ FileName.maxLength)
    (hhere : fs.root.IsDirectoryAt fs.workingDirectory)
    (hvacant : fs.root.at? (fs.workingDirectory ++ [name]) = none) (content : ByteArray) :
    ∃ written, fs.write? path content = some written := by
  have hfit : Fit ([] ++ [name]) := by
    simpa [Fit] using ⟨hpath.proper name List.mem_cons_self, hlength⟩
  have hleads : path.LeadsTo ([] ++ [name]) := hpath
  refine exists_write? hleads husable hfit ?_ ?_ content
  · rwa [List.append_nil]
  · intro node hnode
    rw [List.append_nil, hvacant] at hnode
    cases hnode

theorem locate?_eq_some_iff {path : Path} :
    fs.locate? follow path = some located ↔ path.isUsable = true ∧
      walk fs.root follow maxLinks (if path.isAbsolute then [] else fs.workingDirectory)
        path.names = some located := by
  unfold locate?
  by_cases husable : path.isUsable = true
  · simp [husable]
  · simp [husable]

theorem exists_located_of_write? {path : Path} {content : ByteArray} {written : FileSystem}
    (hwritten : fs.write? path content = some written) :
    ∃ located, fs.locate? true path = some located ∧ located.IsFree ∧
      written = { fs with root := fs.root.putAt located.place (.file content fs.clock) } := by
  unfold FileSystem.write? at hwritten
  split at hwritten
  next names held modified hlocate =>
    cases hwritten
    refine ⟨_, hlocate, fun node hnode => ?_, rfl⟩
    cases hnode
    exact ⟨held, modified, rfl⟩
  next directory name hlocate =>
    cases hwritten
    refine ⟨_, hlocate, fun node hnode => ?_, rfl⟩
    cases hnode
  next hother => cases hwritten

/-- The place of a file that can be written is an entry of a directory. -/
theorem exists_parent (hwalk : walk fs.root follow links fs.workingDirectory names = some located)
    (hplace : located.place = fs.workingDirectory ++ names) (hne : names ≠ [])
    (hnode : located.node? = fs.root.at? (fs.workingDirectory ++ names)) :
    ∃ directory name, fs.workingDirectory ++ names = directory ++ [name] ∧
      fs.root.IsDirectoryAt directory := by
  cases located with
  | found place node =>
      refine ⟨fs.workingDirectory ++ names.dropLast, names.getLast hne, ?_, ?_⟩
      · rw [List.append_assoc, List.dropLast_append_getLast]
      · have hfound : fs.root.at? ((fs.workingDirectory ++ names.dropLast) ++
            names.getLast hne :: []) = some node := by
          rw [List.append_assoc, List.dropLast_append_getLast, ← hnode]
          rfl
        exact isDirectoryAt_of_at?_append hfound
  | vacant directory name =>
      exact ⟨directory, name, hplace.symm, (standsIn_of_walk hwalk).1⟩

/-- A write replaces the file that the path says, and no other. -/
theorem Holds.write? (hholds : fs.Holds files) {path : Path} (hpath : path.LeadsTo names)
    {content : ByteArray} {written : FileSystem}
    (hwritten : fs.write? path content = some written) :
    written.Holds (overwrite ⟨names, content, fs.clock⟩ files) ∧
      written.workingDirectory = fs.workingDirectory ∧
      ∀ clock other, ∃ again, { written with clock }.write? path other = some again := by
  obtain ⟨located, hlocate, hkind, rfl⟩ := exists_located_of_write? hwritten
  obtain ⟨husable, hwalk⟩ := locate?_eq_some_iff.mp hlocate
  simp only [hpath.relative, hpath.names_eq, Bool.false_eq_true, if_false] at hwalk
  obtain ⟨hlocated, hnode, hlengths⟩ := walk_proper hholds.plain hpath.proper hwalk
  obtain ⟨directory, name, hplace, hparent⟩ :=
    exists_parent hwalk hlocated hpath.ne_nil hnode
  rw [hplace] at hlocated hnode
  rw [hlocated]
  have hfree : ¬fs.root.IsDirectoryAt (directory ++ [name]) := by
    rintro ⟨entries, hfound⟩
    obtain ⟨held, modified, heq⟩ := hkind _ (hnode.trans hfound)
    cases heq
  have hfile : (fs.root.putAt (directory ++ [name]) (.file content fs.clock)).at?
      (fs.workingDirectory ++ names) = some (.file content fs.clock) := by
    rw [hholds.plain.at?_putAt hparent hfree (isLeaf_file content fs.clock), if_pos hplace]
  have hfit : Fit names := fun name hname => ⟨hpath.proper name hname, hlengths name hname⟩
  exact ⟨hholds.putFile hparent hplace hfree content fs.clock, rfl,
    fun clock other => exists_write?_of_file hpath husable hfit hfile other⟩

end FileSystem

end BuildProvenance
