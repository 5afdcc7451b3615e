import BuildProvenance.Proofs.FileSystem.Guarded

/-!
# What a guarded write leaves alone

A guarded write makes directories where nothing was and then fills one place
with a file.  Everything else stays as it was, so that whatever led to a node
still does.  Every new directory is one that the path of the file leads
through, though not always one above the file: a path may lead back out of a
directory that had to be made.
-/

namespace BuildProvenance

namespace FileSystem

open Node

variable {root changed : Node} {follow : Bool} {links : ℕ} {start here names : List FileName}
  {located : Located} {fs made written : FileSystem} {path : Path} {content : ByteArray}
  {places others : Set (List FileName)}

/-- A walk comes to the same place as before, once a directory is there. -/
theorem exists_walk_found_of_keeps (hkeeps : root.Keeps changed)
    (hwalk : walk root follow links here names = some located)
    (hmade : located.node? = none → changed.IsDirectoryAt located.place) :
    ∃ node, walk changed follow links here names = some (.found located.place node) := by
  have hfilled : ∃ node, changed.at? located.place = some node ∧
      (located.node? = none → ∀ target, node ≠ .link target) := by
    cases hold : located.node? with
    | none =>
        obtain ⟨entries, hentries⟩ := hmade hold
        exact ⟨_, hentries, fun _ _ => nofun⟩
    | some old =>
        have hplace := (standsIn_of_walk hwalk).at?_place
        rw [hold] at hplace
        obtain ⟨node, hnode⟩ := hkeeps.exists_at? hplace
        exact ⟨node, hnode, nofun⟩
  obtain ⟨node, hnode, hnew⟩ := hfilled
  obtain ⟨result, hresult, rfl | ⟨hfollowed, hstopped, -⟩⟩ :=
    exists_walk_of_keeps hkeeps hwalk hnode hnew id
  · exact ⟨node, hresult⟩
  · rw [hfollowed] at hstopped
    cases hstopped

/-! ## New directories -/

/-- Nothing changes but that there are directories at some places where nothing was. -/
structure Adds (fs made : FileSystem) (places : Set (List FileName)) : Prop where
  workingDirectory_eq : made.workingDirectory = fs.workingDirectory
  clock_eq : made.clock = fs.clock
  look?_eq : ∀ names, made.root.look? names = fs.root.look? names ∨
    fs.root.look? names = none ∧ made.root.look? names = some (.directory []) ∧ names ∈ places

theorem adds_refl (fs : FileSystem) (places : Set (List FileName)) : fs.Adds fs places :=
  ⟨rfl, rfl, fun _ => Or.inl rfl⟩

theorem Adds.mono (hadds : fs.Adds made places) (hsubset : places ⊆ others) :
    fs.Adds made others :=
  ⟨hadds.workingDirectory_eq, hadds.clock_eq, fun names =>
    (hadds.look?_eq names).imp_right fun hnew => ⟨hnew.1, hnew.2.1, hsubset hnew.2.2⟩⟩

theorem Adds.trans {after : FileSystem} (hadds : fs.Adds made places)
    (hmore : made.Adds after others) : fs.Adds after (places ∪ others) := by
  refine ⟨hmore.workingDirectory_eq.trans hadds.workingDirectory_eq,
    hmore.clock_eq.trans hadds.clock_eq, fun names => ?_⟩
  rcases hadds.look?_eq names with hsame | ⟨hnone, hnew, hplace⟩
  · rw [← hsame]
    exact (hmore.look?_eq names).imp_right fun hnew => ⟨hnew.1, hnew.2.1, Or.inr hnew.2.2⟩
  · rcases hmore.look?_eq names with hkept | ⟨hvacant, -⟩
    · exact Or.inr ⟨hnone, hkept.trans hnew, Or.inl hplace⟩
    · rw [hnew] at hvacant
      cases hvacant

theorem Adds.look?_of_some (hadds : fs.Adds made places) {node : Node}
    (hnode : fs.root.look? names = some node) : made.root.look? names = some node := by
  rcases hadds.look?_eq names with hsame | ⟨hnone, -⟩
  · rw [hsame, hnode]
  · rw [hnone] at hnode
    cases hnode

theorem Adds.keeps (hadds : fs.Adds made places) : fs.root.Keeps made.root := by
  constructor
  case directory =>
    intro names hdirectory
    rw [← look?_eq_some_directory_iff] at hdirectory ⊢
    exact hadds.look?_of_some hdirectory
  case link =>
    intro names target hlink
    rw [← look?_eq_some_link_iff] at hlink ⊢
    exact hadds.look?_of_some hlink
  case file =>
    intro names held time hfile
    rw [← look?_eq_some_file_iff] at hfile
    exact ⟨held, time, look?_eq_some_file_iff.mp (hadds.look?_of_some hfile)⟩

/-- Where the leading parts of some names lead. -/
def ways (fs : FileSystem) (start names : List FileName) : Set (List FileName) :=
  {place | ∃ part node, part <+: names ∧
    walk fs.root false maxLinks start part = some (.found place node)}

theorem ways_subset_of_keeps (hkeeps : fs.root.Keeps made.root) (start names : List FileName) :
    fs.ways start names ⊆ made.ways start names := by
  rintro place ⟨part, node, hpart, hwalk⟩
  obtain ⟨other, hother⟩ := exists_walk_found_of_keeps hkeeps hwalk (by simp [Located.node?])
  exact ⟨part, other, hpart, hother⟩

theorem ways_mono {part : List FileName} (hpart : part <+: names) :
    fs.ways start part ⊆ fs.ways start names := by
  rintro place ⟨shorter, node, hshorter, hwalk⟩
  exact ⟨shorter, node, hshorter.trans hpart, hwalk⟩

theorem adds_of_makeDirectory? (hmade : fs.makeDirectory? start names = some made) :
    fs.Adds made (made.ways start names) := by
  unfold makeDirectory? at hmade
  split at hmade
  next hfound =>
    cases hmade
    exact adds_refl fs _
  next hfound => cases hmade
  next hother =>
    split at hmade
    next directory name hwalk =>
      cases hmade
      obtain ⟨hparent, hvacant⟩ := standsIn_of_walk hwalk
      have hlook := look?_putAt hparent isLeaf_empty (fun found hfound => by
        rw [hvacant] at hfound
        cases hfound)
      have hadds : fs.Adds
          { fs with root := fs.root.putAt (directory ++ [name]) (.directory []) }
          {directory ++ [name]} := by
        refine ⟨rfl, rfl, fun others => ?_⟩
        by_cases heq : others = directory ++ [name]
        · refine Or.inr ⟨?_, ?_, heq⟩
          · rw [heq, look?_eq_none_iff]
            exact hvacant
          · rw [hlook, if_pos heq]
            rfl
        · exact Or.inl (by rw [hlook, if_neg heq])
      refine hadds.mono ?_
      rintro place rfl
      obtain ⟨node, hnode⟩ := exists_walk_found_of_keeps hadds.keeps hwalk fun _ =>
        look?_eq_some_directory_iff.mp (by rw [hlook, Located.place, if_pos rfl]; rfl)
      exact ⟨names, node, List.prefix_rfl, hnode⟩
    next hnone => cases hmade

theorem adds_of_makeDirectories? {done : List FileName}
    (hmade : fs.makeDirectories? start done names = some made) :
    fs.Adds made (made.ways start (done ++ names)) := by
  induction names generalizing fs done with
  | nil =>
      cases hmade
      exact adds_refl _ _
  | cons name rest ih =>
      rw [makeDirectories?] at hmade
      split at hmade
      next first hfirst =>
        have hrest := ih hmade
        rw [List.append_assoc, List.singleton_append] at hrest
        refine ((adds_of_makeDirectory? hfirst).trans hrest).mono (Set.union_subset ?_ subset_rfl)
        have hpart : done ++ [name] <+: done ++ name :: rest := by simp
        exact (ways_subset_of_keeps hrest.keeps start _).trans (ways_mono hpart)
      next hnone => cases hmade

/-- What stays is what was made for a leading part of the names. -/
theorem exists_makeDirectories?_reachable (fs : FileSystem) (start done names : List FileName) :
    ∃ part, part <+: names ∧
      fs.makeDirectories? start done part = some (fs.makeReachable start done names) := by
  induction names generalizing fs done with
  | nil => exact ⟨[], List.prefix_rfl, rfl⟩
  | cons name rest ih =>
      rw [makeReachable]
      cases hfirst : fs.makeDirectory? start (done ++ [name]) with
      | none => exact ⟨[], List.nil_prefix, rfl⟩
      | some first =>
          obtain ⟨part, hpart, hmade⟩ := ih first (done ++ [name])
          refine ⟨name :: part, List.cons_prefix_cons.mpr ⟨rfl, hpart⟩, ?_⟩
          rw [makeDirectories?, hfirst]
          exact hmade

/-- Where the names of a path begin. -/
def origin (fs : FileSystem) (path : Path) : List FileName :=
  if path.isAbsolute then [] else fs.workingDirectory

theorem Adds.origin_eq (hadds : fs.Adds made places) (path : Path) :
    made.origin path = fs.origin path := by
  unfold origin
  rw [hadds.workingDirectory_eq]

theorem adds_of_createDirectories? (hmade : fs.createDirectories? path = some made) :
    fs.Adds made (made.ways (made.origin path) path.names) := by
  unfold createDirectories? at hmade
  split at hmade
  next hempty =>
    cases hmade
    exact adds_refl fs _
  next hempty =>
    split at hmade
    next husable =>
      have hadds := adds_of_makeDirectories? hmade
      rw [hadds.origin_eq]
      exact hadds
    next hunusable => cases hmade

theorem adds_createReachable (fs : FileSystem) (path : Path) :
    fs.Adds (fs.createReachable path)
      ((fs.createReachable path).ways ((fs.createReachable path).origin path) path.names) := by
  unfold createReachable
  split
  next husable =>
    obtain ⟨part, hpart, hmade⟩ := exists_makeDirectories?_reachable fs
      (if path.isAbsolute then [] else fs.workingDirectory) [] path.names
    have hadds := (adds_of_makeDirectories? hmade).mono (ways_mono hpart)
    rw [hadds.origin_eq]
    exact hadds
  next hunusable => exact adds_refl fs _

/-- Where the leading parts of the path above another one lead. -/
def above (fs : FileSystem) (path : Path) : Set (List FileName) :=
  {place | ∃ parent, path.parent? = some parent ∧
    place ∈ fs.ways (fs.origin parent) parent.names}

theorem adds_of_createParents (hmade : fs.createParents path = .ok made) :
    fs.Adds made (made.above path) := by
  unfold createParents at hmade
  split at hmade
  next hnone =>
    cases hmade
    exact adds_refl fs _
  next parent hparent =>
    split at hmade
    next hempty =>
      cases hmade
      exact adds_refl fs _
    next hne =>
      split at hmade
      next created hcreated =>
        cases hmade
        exact (adds_of_createDirectories? hcreated).mono fun place hplace =>
          ⟨parent, hparent, hplace⟩
      next hnone => cases hmade

/-! ## Guarded writes -/

/-- A path leads to a file with the contents.  Everything else is as it was, but that there
are directories on the way where nothing was. -/
structure Wrote (fs written : FileSystem) (path : Path) (content : ByteArray) : Prop where
  workingDirectory_eq : written.workingDirectory = fs.workingDirectory
  read?_eq : written.read? path = some content
  look?_eq : ∃ place, written.locate? true path = some (.found place (.file content fs.clock)) ∧
    (∀ node, fs.root.at? place = some node → ∃ held time, node = .file held time) ∧
    ∀ names, names ≠ place → written.root.look? names = fs.root.look? names ∨
      fs.root.look? names = none ∧ written.root.look? names = some (.directory []) ∧
        names ∈ written.above path

theorem wrote_of_writeGuarded (hwritten : fs.writeGuarded path content = (written, .ok ())) :
    fs.Wrote written path content := by
  obtain ⟨made, hparents, hmade⟩ := exists_write?_of_writeGuarded hwritten
  have hadds := adds_of_createParents hparents
  have hread := read?_of_write? hmade
  obtain ⟨located, hlocate, hfree, rfl, result, hresult, hkind⟩ :=
    exists_locate?_of_write? hmade true
  obtain ⟨-, hwalk⟩ := locate?_eq_some_iff.mp hlocate
  have hstands := standsIn_of_walk hwalk
  have hlook := look?_putAt_file hstands hfree content made.clock
  have hkeeps := keeps_putAt_file hstands hfree content made.clock
  refine ⟨hadds.workingDirectory_eq, hread, located.place, ?_, ?_, ?_⟩
  · rw [hresult, ← hadds.clock_eq]
    rcases hkind with rfl | ⟨hfollow, -⟩
    · rfl
    · cases hfollow
  · -- what was there is of the same kind once the directories are made
    intro node hnode
    cases node with
    | file held time => exact ⟨held, time, rfl⟩
    | link target =>
        apply hfree
        rw [← hstands.at?_place]
        exact hadds.keeps.link _ _ hnode
    | directory entries =>
        obtain ⟨others, hothers⟩ := hadds.keeps.directory _ ⟨entries, hnode⟩
        rw [hstands.at?_place] at hothers
        obtain ⟨held, time, heq⟩ := hfree _ hothers
        cases heq
  · intro names hne
    simp only [hlook, if_neg hne]
    refine (hadds.look?_eq names).imp_right fun hnew => ⟨hnew.1, hnew.2.1, ?_⟩
    obtain ⟨parent, hparent, hway⟩ := hnew.2.2
    exact ⟨parent, hparent, ways_subset_of_keeps hkeeps _ _ hway⟩

/-- A write that fails leaves no more behind than directories on the way. -/
theorem adds_of_writeGuarded {error : Error}
    (hfailed : fs.writeGuarded path content = (written, .error error)) :
    fs.Adds written (written.above path) := by
  unfold writeGuarded at hfailed
  split at hfailed
  next failure hparents =>
    cases hfailed
    cases hparent : path.parent? with
    | none => exact adds_refl fs _
    | some parent =>
        exact (adds_createReachable fs parent).mono fun place hplace => ⟨parent, hparent, hplace⟩
  next made hparents =>
    split at hfailed
    next after hafter => cases hfailed
    next hnone =>
      cases hfailed
      exact adds_of_createParents hparents

end FileSystem

end BuildProvenance
