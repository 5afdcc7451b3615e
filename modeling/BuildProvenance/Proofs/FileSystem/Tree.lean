import BuildProvenance.FileSystem.Tree
import Mathlib.Tactic

/-!
# Trees without links

Where every name of a directory stands for one node, the files of a tree are
those that lists of names lead to.  Putting a new file or an empty directory
in the place of nothing, or of another file, changes what one list of names
leads to and leaves all others as they are, but for what the directories on
the way hold.
-/

namespace BuildProvenance

namespace Node

/-- No links, and no name twice in one directory. -/
inductive Plain : Node → Prop
  | file (content : ByteArray) (modified : Int) : Plain (.file content modified)
  | directory {entries : List (FileName × Node)} (hnames : (entries.map Prod.fst).Nodup)
      (hentries : ∀ entry ∈ entries, Plain entry.2) : Plain (.directory entries)

/-- No name twice in one directory, and only names of some kind. -/
inductive Named (allowed : FileName → Prop) : Node → Prop
  | file (content : ByteArray) (modified : Int) : Named allowed (.file content modified)
  | link (target : Path) : Named allowed (.link target)
  | directory {entries : List (FileName × Node)} (hnames : (entries.map Prod.fst).Nodup)
      (hallowed : ∀ entry ∈ entries, allowed entry.1)
      (hentries : ∀ entry ∈ entries, Named allowed entry.2) : Named allowed (.directory entries)

/-- A node without what it holds, if it is a directory. -/
def surface : Node → Node
  | .directory _ => .directory []
  | node => node

/-- What kind of node a list of names leads to. -/
def look? (node : Node) (names : List FileName) : Option Node := (node.at? names).map surface

def IsDirectoryAt (node : Node) (names : List FileName) : Prop :=
  ∃ entries, node.at? names = some (.directory entries)

variable {node new child : Node} {name other : FileName} {names rest : List FileName}
  {entries : List (FileName × Node)}

/-! ## Entries of a directory -/

theorem find?_putEntry (name other : FileName) (node : Node) (entries : List (FileName × Node)) :
    find? other (putEntry name node entries) =
      if other = name then some node else find? other entries := by
  induction entries with
  | nil =>
      by_cases heq : other = name
      · simp [putEntry, find?, heq]
      · simp [putEntry, find?, heq, Ne.symm heq]
  | cons entry rest ih =>
      unfold find? at ih ⊢
      rw [putEntry]
      by_cases hname : entry.1 = name
      · rw [if_pos hname]
        by_cases heq : other = name
        · simp [heq]
        · have hentry : ¬entry.1 = other := by
            rw [hname]
            exact Ne.symm heq
          simp [heq, Ne.symm heq, hentry]
      · rw [if_neg hname]
        by_cases hentry : entry.1 = other
        · have hne : ¬other = name := by
            rw [← hentry]
            exact hname
          simp [hentry, hne]
        · simpa [hentry] using ih

theorem mem_of_find?_eq_some (hfind : find? name entries = some node) :
    (name, node) ∈ entries := by
  obtain ⟨entry, hentry, rfl⟩ := Option.map_eq_some_iff.mp hfind
  have hname : entry.1 = name := by simpa using List.find?_some hentry
  rw [← hname]
  exact List.mem_of_find?_eq_some hentry

theorem find?_eq_some_of_mem (hnames : (entries.map Prod.fst).Nodup)
    (hmem : (name, node) ∈ entries) : find? name entries = some node := by
  induction entries with
  | nil => cases hmem
  | cons entry rest ih =>
      rw [List.map_cons, List.nodup_cons] at hnames
      unfold find? at ih ⊢
      rcases List.mem_cons.mp hmem with rfl | hmem
      · simp
      · have hne : ¬entry.1 = name := by
          rintro rfl
          exact hnames.1 (List.mem_map.mpr ⟨_, hmem, rfl⟩)
        rw [List.find?_cons_of_neg (by simpa using hne)]
        exact ih hnames.2 hmem

theorem mem_putEntry {entry : FileName × Node} (hmem : entry ∈ putEntry name node entries) :
    entry = (name, node) ∨ entry ∈ entries := by
  induction entries with
  | nil => exact Or.inl (by simpa [putEntry] using hmem)
  | cons head rest ih =>
      rw [putEntry] at hmem
      split at hmem
      next heq =>
        rcases List.mem_cons.mp hmem with rfl | hmem
        · exact Or.inl rfl
        · exact Or.inr (List.mem_cons_of_mem _ hmem)
      next hne =>
        rcases List.mem_cons.mp hmem with rfl | hmem
        · exact Or.inr List.mem_cons_self
        · exact (ih hmem).imp id (List.mem_cons_of_mem _)

theorem nodup_putEntry (hnames : (entries.map Prod.fst).Nodup) (name : FileName) (node : Node) :
    ((putEntry name node entries).map Prod.fst).Nodup := by
  induction entries with
  | nil => exact List.nodup_singleton name
  | cons head rest ih =>
      rw [List.map_cons, List.nodup_cons] at hnames
      rw [putEntry]
      split
      next heq =>
        rw [List.map_cons, List.nodup_cons, ← heq]
        exact hnames
      next hne =>
        rw [List.map_cons, List.nodup_cons]
        refine ⟨fun hmem => ?_, ih hnames.2⟩
        obtain ⟨entry, hentry, hsame⟩ := List.mem_map.mp hmem
        rcases mem_putEntry hentry with rfl | hentry
        · exact hne hsame.symm
        · exact hnames.1 (List.mem_map.mpr ⟨entry, hentry, hsame⟩)

/-! ## What names lead to -/

theorem at?_directory_cons (entries : List (FileName × Node)) (name : FileName)
    (rest : List FileName) :
    (Node.directory entries).at? (name :: rest) = (find? name entries).bind (·.at? rest) := by
  rw [at?]
  cases find? name entries with
  | none => rfl
  | some child => rfl

theorem at?_append (node : Node) (names rest : List FileName) :
    node.at? (names ++ rest) = (node.at? names).bind (·.at? rest) := by
  induction names generalizing node with
  | nil => simp [at?]
  | cons name names ih =>
      cases node with
      | file content modified => simp [at?]
      | link target => simp [at?]
      | directory entries =>
          rw [List.cons_append, at?_directory_cons, at?_directory_cons]
          cases find? name entries with
          | none => rfl
          | some child => exact ih child

/-- Only directories have names below them. -/
theorem isDirectoryAt_of_at?_append (hfound : node.at? (names ++ name :: rest) = some child) :
    node.IsDirectoryAt names := by
  rw [at?_append, Option.bind_eq_some_iff] at hfound
  obtain ⟨above, habove, hbelow⟩ := hfound
  cases above with
  | file content modified => simp [at?] at hbelow
  | link target => simp [at?] at hbelow
  | directory entries => exact ⟨entries, habove⟩

theorem IsDirectoryAt.of_append {rest : List FileName}
    (hdirectory : node.IsDirectoryAt (names ++ rest)) : node.IsDirectoryAt names := by
  cases rest with
  | nil => rwa [List.append_nil] at hdirectory
  | cons name rest =>
      obtain ⟨entries, hfound⟩ := hdirectory
      exact isDirectoryAt_of_at?_append hfound

theorem look?_eq_some_file_iff {content : ByteArray} {modified : Int} :
    node.look? names = some (.file content modified) ↔
      node.at? names = some (.file content modified) := by
  unfold look?
  cases node.at? names with
  | none => simp
  | some found => cases found <;> simp [surface]

theorem look?_eq_some_directory_iff :
    node.look? names = some (.directory []) ↔ node.IsDirectoryAt names := by
  unfold look? IsDirectoryAt
  cases node.at? names with
  | none => simp
  | some found => cases found <;> simp [surface]

theorem look?_eq_some_link_iff {target : Path} :
    node.look? names = some (.link target) ↔ node.at? names = some (.link target) := by
  unfold look?
  cases node.at? names with
  | none => simp
  | some found => cases found <;> simp [surface]

theorem look?_eq_none_iff : node.look? names = none ↔ node.at? names = none := by
  simp [look?]

/-- A node below which nothing is. -/
def IsLeaf (node : Node) : Prop := ∀ name rest, node.at? (name :: rest) = none

theorem isLeaf_file (content : ByteArray) (modified : Int) :
    (Node.file content modified).IsLeaf := fun _ _ => by simp [at?]

theorem plain_empty : (Node.directory []).Plain :=
  .directory List.nodup_nil fun entry hentry => by cases hentry

theorem isLeaf_empty : (Node.directory []).IsLeaf := fun _ _ => by simp [at?, find?]

theorem look?_directory_cons (entries : List (FileName × Node)) (name : FileName)
    (rest : List FileName) :
    (Node.directory entries).look? (name :: rest) = (find? name entries).bind (·.look? rest) := by
  unfold look?
  rw [at?_directory_cons]
  cases find? name entries with
  | none => rfl
  | some child => rfl

/-! ## Putting a node into a tree -/

theorem putAt_directory_singleton (entries : List (FileName × Node)) (name : FileName)
    (new : Node) :
    (Node.directory entries).putAt [name] new = .directory (putEntry name new entries) := by
  rw [putAt]
  cases find? name entries with
  | none => rfl
  | some child => rfl

theorem putAt_directory_cons (hchild : find? name entries = some child) (rest : List FileName)
    (new : Node) :
    (Node.directory entries).putAt (name :: rest) new =
      .directory (putEntry name (child.putAt rest new) entries) := by
  rw [putAt, hchild]

theorem look?_putEntry (entries : List (FileName × Node)) (name other : FileName) (new : Node)
    (rest : List FileName) :
    (Node.directory (putEntry name new entries)).look? (other :: rest) =
      if other = name then new.look? rest else (Node.directory entries).look? (other :: rest) := by
  rw [look?_directory_cons, look?_directory_cons, find?_putEntry]
  by_cases heq : other = name
  · rw [if_pos heq, if_pos heq, Option.bind_some]
  · rw [if_neg heq, if_neg heq]

theorem IsLeaf.look?_cons (hleaf : node.IsLeaf) (name : FileName) (rest : List FileName) :
    node.look? (name :: rest) = none :=
  look?_eq_none_iff.mpr (hleaf name rest)

/-- Putting a leaf in the place of nothing, or of another leaf, changes what its names
lead to, and of the directories on the way only what they hold. -/
theorem look?_putAt (hparent : node.IsDirectoryAt names) (hnew : new.IsLeaf)
    (hold : ∀ found, node.at? (names ++ [name]) = some found → found.IsLeaf)
    (others : List FileName) :
    (node.putAt (names ++ [name]) new).look? others =
      if others = names ++ [name] then some new.surface else node.look? others := by
  -- the directories on the way are passed one by one, the last one gets the leaf
  induction names generalizing node others with
  | nil =>
      obtain ⟨entries, hdirectory⟩ := hparent
      cases hdirectory
      rw [List.nil_append, putAt_directory_singleton]
      cases others with
      | nil => rfl
      | cons other others =>
          rw [look?_putEntry]
          by_cases heq : other = name
          · subst heq
            rw [if_pos rfl]
            cases others with
            | nil => simp [look?, at?]
            | cons below others =>
                have hnone : (Node.directory entries).look? (other :: below :: others) = none := by
                  rw [look?_directory_cons]
                  cases hfound : find? other entries with
                  | none => rfl
                  | some found =>
                      exact (hold found (by simp [at?, hfound])).look?_cons below others
                rw [hnew.look?_cons, hnone]
                simp
          · simp [heq]
  | cons first names ih =>
      obtain ⟨found, hdirectory⟩ := hparent
      cases node with
      | file content modified => simp [at?] at hdirectory
      | link target => simp [at?] at hdirectory
      | directory entries =>
          rw [at?_directory_cons, Option.bind_eq_some_iff] at hdirectory
          obtain ⟨child, hchild, hdirectory⟩ := hdirectory
          have hbelow : ∀ found, child.at? (names ++ [name]) = some found → found.IsLeaf := by
            intro found hfound
            apply hold found
            rw [List.cons_append, at?_directory_cons, hchild]
            exact hfound
          rw [List.cons_append, putAt_directory_cons hchild]
          cases others with
          | nil => rfl
          | cons other others =>
              rw [look?_putEntry]
              by_cases heq : other = first
              · subst heq
                rw [if_pos rfl, ih ⟨found, hdirectory⟩ hbelow, look?_directory_cons, hchild,
                  Option.bind_some]
                simp
              · simp [heq]

theorem Plain.of_find? (hplain : (Node.directory entries).Plain)
    (hfind : find? name entries = some node) : node.Plain := by
  cases hplain with
  | directory hnames hentries => exact hentries _ (mem_of_find?_eq_some hfind)

theorem Plain.at? (hplain : node.Plain) {found : Node} (hfound : node.at? names = some found) :
    found.Plain := by
  induction names generalizing node with
  | nil =>
      rw [Node.at?, Option.some.injEq] at hfound
      rwa [← hfound]
  | cons name rest ih =>
      cases node with
      | file content modified => simp [Node.at?] at hfound
      | link target => simp [Node.at?] at hfound
      | directory entries =>
          rw [at?_directory_cons, Option.bind_eq_some_iff] at hfound
          obtain ⟨child, hchild, hfound⟩ := hfound
          exact ih (hplain.of_find? hchild) hfound

theorem Plain.ne_link (hplain : node.Plain) (names : List FileName) (target : Path) :
    node.at? names ≠ some (.link target) := by
  intro hfound
  cases hplain.at? hfound

theorem Plain.putEntry (hplain : (Node.directory entries).Plain) (hnew : new.Plain)
    (name : FileName) : (Node.directory (putEntry name new entries)).Plain := by
  cases hplain with
  | directory hnames hentries =>
      refine .directory (nodup_putEntry hnames name new) fun entry hentry => ?_
      rcases mem_putEntry hentry with rfl | hentry
      · exact hnew
      · exact hentries entry hentry

theorem Plain.putAt (hplain : node.Plain) (hnew : new.Plain) (names : List FileName) :
    (node.putAt names new).Plain := by
  induction names generalizing node with
  | nil =>
      rw [Node.putAt]
      exact hnew
  | cons name rest ih =>
      cases node with
      | file content modified => exact hplain
      | link target => exact hplain
      | directory entries =>
          rw [Node.putAt]
          cases hfind : find? name entries with
          | some child => exact hplain.putEntry (ih (hplain.of_find? hfind)) name
          | none =>
              by_cases hrest : rest = []
              · rw [if_pos hrest]
                exact hplain.putEntry hnew name
              · rw [if_neg hrest]
                exact hplain

/-- What is no directory is a leaf. -/
theorem Plain.isLeaf (hplain : node.Plain) (hfree : ¬node.IsDirectoryAt names) {found : Node}
    (hfound : node.at? names = some found) : found.IsLeaf := by
  cases found with
  | file content modified => exact isLeaf_file content modified
  | link target => exact absurd hfound (hplain.ne_link names target)
  | directory entries => exact absurd ⟨entries, hfound⟩ hfree

theorem Plain.at?_putAt (hplain : node.Plain) (hparent : node.IsDirectoryAt names)
    (hfree : ¬node.IsDirectoryAt (names ++ [name])) (hnew : new.IsLeaf) {others : List FileName}
    {content : ByteArray} {modified : ℤ} :
    (node.putAt (names ++ [name]) new).at? others = some (.file content modified) ↔
      if others = names ++ [name] then new = .file content modified
      else node.at? others = some (.file content modified) := by
  rw [← look?_eq_some_file_iff, look?_putAt hparent hnew (fun _ => hplain.isLeaf hfree)]
  split
  next heq =>
    rw [Option.some.injEq]
    cases new <;> simp [surface]
  next hne => exact look?_eq_some_file_iff

theorem IsDirectoryAt.putAt {others : List FileName} (hdirectory : node.IsDirectoryAt others)
    (hplain : node.Plain) (hparent : node.IsDirectoryAt names)
    (hfree : ¬node.IsDirectoryAt (names ++ [name])) (hnew : new.IsLeaf) :
    (node.putAt (names ++ [name]) new).IsDirectoryAt others := by
  have hne : others ≠ names ++ [name] := by
    rintro rfl
    exact hfree hdirectory
  rw [← look?_eq_some_directory_iff, look?_putAt hparent hnew (fun _ => hplain.isLeaf hfree),
    if_neg hne]
  exact look?_eq_some_directory_iff.mpr hdirectory

/-! ## The files of a tree -/

theorem mem_filesIn_iff {above : List FileName} {file : FoundFile} :
    file ∈ filesIn above entries ↔
      ∃ entry ∈ entries, file ∈ files (above ++ [entry.1]) entry.2 := by
  induction entries with
  | nil => simp [filesIn]
  | cons entry rest ih =>
      rw [filesIn, List.mem_append, ih]
      simp

theorem Plain.named (hplain : node.Plain) : node.Named fun _ => True := by
  induction hplain with
  | file content modified => exact .file content modified
  | directory hnames hentries ih => exact .directory hnames (fun _ _ => trivial) ih

/-- The tree has the regular file, without any link on the way to it. -/
def HasFile (node : Node) (file : FoundFile) : Prop :=
  node.at? file.names = some (.file file.content file.modified)

/-- The lists of names that lead to regular files. -/
def places (node : Node) : Set (List FileName) :=
  {names | ∃ content modified, node.at? names = some (.file content modified)}

theorem HasFile.mem_places {file : FoundFile} (hfile : node.HasFile file) :
    file.names ∈ node.places :=
  ⟨file.content, file.modified, hfile⟩

theorem HasFile.eq_of_names {a b : FoundFile} (ha : node.HasFile a) (hb : node.HasFile b)
    (hnames : a.names = b.names) : a = b := by
  obtain ⟨names, content, modified⟩ := a
  obtain ⟨others, found, time⟩ := b
  subst hnames
  have hsame := ha.symm.trans hb
  simp only [Option.some.injEq, file.injEq] at hsame
  obtain ⟨rfl, rfl⟩ := hsame
  rfl

variable {allowed : FileName → Prop}

theorem Named.allowed_of_at? (hnamed : node.Named allowed) {found : Node}
    (hfound : node.at? names = some found) : ∀ name ∈ names, allowed name := by
  induction names generalizing node with
  | nil => exact fun name hname => absurd hname List.not_mem_nil
  | cons name rest ih =>
      cases hnamed with
      | file content modified => simp [Node.at?] at hfound
      | link target => simp [Node.at?] at hfound
      | directory hnames hallowed hentries =>
          rw [at?_directory_cons, Option.bind_eq_some_iff] at hfound
          obtain ⟨child, hchild, hfound⟩ := hfound
          have hentry := mem_of_find?_eq_some hchild
          intro other hother
          rcases List.mem_cons.mp hother with rfl | hother
          · exact hallowed _ hentry
          · exact ih (hentries _ hentry) hfound other hother

/-- The files are what lists of names lead to. -/
theorem Named.mem_files_iff (hnamed : node.Named allowed) {above : List FileName}
    {file : FoundFile} :
    file ∈ node.files above ↔ ∃ rest, file.names = above ++ rest ∧
      node.at? rest = some (.file file.content file.modified) := by
  induction hnamed generalizing above with
  | file content modified =>
      rw [files, List.mem_singleton]
      constructor
      · rintro rfl
        exact ⟨[], by simp, rfl⟩
      · rintro ⟨rest, hnames, hfound⟩
        cases rest with
        | nil =>
            obtain ⟨names, found, time⟩ := file
            rw [Node.at?, Option.some.injEq, Node.file.injEq] at hfound
            obtain ⟨rfl, rfl⟩ := hfound
            have habove : names = above := by simpa using hnames
            rw [habove]
        | cons name rest => simp [Node.at?] at hfound
  | link target =>
      rw [files]
      constructor
      · intro hmem
        cases hmem
      · rintro ⟨rest, -, hfound⟩
        cases rest <;> simp [Node.at?] at hfound
  | @directory entries hnames hallowed hentries ih =>
      rw [files, mem_filesIn_iff]
      constructor
      · rintro ⟨⟨name, child⟩, hentry, hfile⟩
        obtain ⟨rest, hfileNames, hfound⟩ := (ih _ hentry).mp hfile
        refine ⟨name :: rest, by rw [hfileNames]; simp, ?_⟩
        rw [at?_directory_cons, find?_eq_some_of_mem hnames hentry]
        exact hfound
      · rintro ⟨rest, hfileNames, hfound⟩
        cases rest with
        | nil => simp [Node.at?] at hfound
        | cons name rest =>
            rw [at?_directory_cons, Option.bind_eq_some_iff] at hfound
            obtain ⟨child, hchild, hfound⟩ := hfound
            have hentry := mem_of_find?_eq_some hchild
            refine ⟨(name, child), hentry, (ih _ hentry).mpr ⟨rest, ?_, hfound⟩⟩
            rw [hfileNames]
            simp

theorem Named.mem_files_nil_iff (hnamed : node.Named allowed) {file : FoundFile} :
    file ∈ node.files [] ↔ node.HasFile file := by
  rw [hnamed.mem_files_iff]
  constructor
  · rintro ⟨rest, hnames, hfound⟩
    rw [List.nil_append] at hnames
    unfold HasFile
    rw [hnames]
    exact hfound
  · intro hfile
    exact ⟨file.names, rfl, hfile⟩

theorem Plain.mem_files_iff (hplain : node.Plain) {above : List FileName} {file : FoundFile} :
    file ∈ node.files above ↔ ∃ rest, file.names = above ++ rest ∧
      node.at? rest = some (.file file.content file.modified) :=
  hplain.named.mem_files_iff

end Node

end BuildProvenance
