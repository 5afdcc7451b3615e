import BuildProvenance.FileSystem.Guard
import BuildProvenance.Proofs.FileSystem.Writes
import Mathlib.Tactic

/-!
# Reading what was written

A file that is written fills one place of the tree.  The directories and the
links that lead there stay where they are, so the path leads there again.  It
is read under the guard unless the path itself is a link, which a write
follows and a guarded read does not, or the contents exceed the limit.
-/

namespace BuildProvenance

namespace Node

/-- What is in the first tree is of the same kind in the second one. -/
structure Keeps (root changed : Node) : Prop where
  directory : ∀ names, root.IsDirectoryAt names → changed.IsDirectoryAt names
  link : ∀ names target, root.at? names = some (.link target) →
    changed.at? names = some (.link target)
  file : ∀ names content modified, root.at? names = some (.file content modified) →
    ∃ held time, changed.at? names = some (.file held time)

theorem Keeps.exists_at? {root changed node : Node} {names : List FileName}
    (hkeeps : root.Keeps changed) (hnode : root.at? names = some node) :
    ∃ other, changed.at? names = some other := by
  cases node with
  | file content modified =>
      obtain ⟨held, time, hfile⟩ := hkeeps.file names content modified hnode
      exact ⟨_, hfile⟩
  | link target => exact ⟨_, hkeeps.link names target hnode⟩
  | directory entries =>
      obtain ⟨others, hdirectory⟩ := hkeeps.directory names ⟨entries, hnode⟩
      exact ⟨_, hdirectory⟩

end Node

namespace FileSystem

open Node

variable {root changed node : Node} {follow other : Bool} {links : ℕ}
  {here names place : List FileName} {located : Located} {content : ByteArray}

/-! ## A tree with a new file -/

/-- A file changes what its own place leads to, and of the directories above it only what
they hold. -/
theorem look?_putAt_file (hstands : located.StandsIn root) (hfree : located.IsFree)
    (content : ByteArray) (modified : ℤ) (others : List FileName) :
    (root.putAt located.place (.file content modified)).look? others =
      if others = located.place then some (.file content modified) else root.look? others := by
  cases located with
  | vacant directory name =>
      refine look?_putAt hstands.1 (isLeaf_file content modified) (fun found hfound => ?_) others
      rw [hstands.2] at hfound
      cases hfound
  | found names node =>
      obtain ⟨held, time, rfl⟩ := hfree node rfl
      rcases List.eq_nil_or_concat names with rfl | ⟨directory, name, rfl⟩
      · -- nothing is below a root that is a file
        cases hstands
        cases others with
        | nil => rfl
        | cons other rest => simp [Located.place, putAt, (isLeaf_file _ _).look?_cons]
      · rw [List.concat_eq_append] at hstands
        have hparent : root.IsDirectoryAt directory := isDirectoryAt_of_at?_append hstands
        rw [Located.place, List.concat_eq_append]
        refine look?_putAt hparent (isLeaf_file content modified) (fun found hfound => ?_) others
        rw [hstands] at hfound
        cases hfound
        exact isLeaf_file held time

/-- A file takes the place of nothing, or of another file. -/
theorem keeps_putAt_file (hstands : located.StandsIn root) (hfree : located.IsFree)
    (content : ByteArray) (modified : ℤ) :
    root.Keeps (root.putAt located.place (.file content modified)) := by
  have hlook := look?_putAt_file hstands hfree content modified
  have hplace : ∀ node, root.at? located.place = some node →
      ∃ held time, node = .file held time := by
    intro node hnode
    apply hfree
    rw [← hstands.at?_place, hnode]
  constructor
  case directory =>
    intro names hdirectory
    have hne : names ≠ located.place := by
      rintro rfl
      obtain ⟨entries, hentries⟩ := hdirectory
      obtain ⟨held, time, heq⟩ := hplace _ hentries
      cases heq
    rwa [← look?_eq_some_directory_iff, hlook, if_neg hne, look?_eq_some_directory_iff]
  case link =>
    intro names target hlink
    have hne : names ≠ located.place := by
      rintro rfl
      obtain ⟨held, time, heq⟩ := hplace _ hlink
      cases heq
    rwa [← look?_eq_some_link_iff, hlook, if_neg hne, look?_eq_some_link_iff]
  case file =>
    intro names held time hfile
    by_cases heq : names = located.place
    · exact ⟨content, modified, look?_eq_some_file_iff.mp (by rw [hlook, if_pos heq])⟩
    · refine ⟨held, time, ?_⟩
      rwa [← look?_eq_some_file_iff, hlook, if_neg heq, look?_eq_some_file_iff]

/-- A walk on a tree that keeps what was there comes to the same place, once that place is
filled.  One that does not follow the last link, where the first walk did, may stop at it. -/
theorem exists_walk_of_keeps (hkeeps : root.Keeps changed)
    (hwalk : walk root follow links here names = some located)
    (hnode : changed.at? located.place = some node)
    (hnew : located.node? = none → ∀ target, node ≠ .link target)
    (hfollow : follow = false → other = false) :
    ∃ result, walk changed other links here names = some result ∧
      (result = .found located.place node ∨
        follow = true ∧ other = false ∧ ∃ above target, result = .found above (.link target)) := by
  -- the same directories and links are passed as before, until the walk comes to the place
  fun_induction walk root follow links here names with
  | case1 links here =>
      obtain ⟨old, hold, rfl⟩ := Option.map_eq_some_iff.mp hwalk
      have hhere : changed.at? here = some node := hnode
      refine ⟨_, ?_, Or.inl rfl⟩
      rw [walk, hhere]
      rfl
  | case2 links here rest ih =>
      rw [walk, if_pos rfl]
      exact ih hwalk
  | case3 links here rest hdot ih =>
      rw [walk, if_neg hdot, if_pos rfl]
      exact ih hwalk
  | case4 => cases hwalk
  | case5 links here first hdot hdotDot hlong hnone =>
      obtain ⟨hdirectory, rfl⟩ := vacant?_eq_some_iff.mp hwalk
      have hplace : changed.at? (here ++ [first]) = some node := hnode
      refine ⟨_, ?_, Or.inl rfl⟩
      rw [walk, if_neg hdot, if_neg hdotDot, if_neg hlong, hplace]
      cases node with
      | file content modified => exact if_pos rfl
      | directory entries =>
          simp only [walk, hplace]
          rfl
      | link target => exact absurd rfl (hnew rfl target)
  | case6 => cases hwalk
  | case7 links here first rest hdot hdotDot hlong entries hdirectory ih =>
      obtain ⟨others, hothers⟩ := hkeeps.directory _ ⟨entries, hdirectory⟩
      rw [walk, if_neg hdot, if_neg hdotDot, if_neg hlong, hothers]
      exact ih hwalk
  | case8 links here first hdot hdotDot hlong content modified hfile =>
      cases hwalk
      have hplace : changed.at? (here ++ [first]) = some node := hnode
      obtain ⟨held, time, hheld⟩ := hkeeps.file _ content modified hfile
      cases hheld.symm.trans hplace
      refine ⟨_, ?_, Or.inl rfl⟩
      rw [walk, if_neg hdot, if_neg hdotDot, if_neg hlong, hplace]
      exact if_pos rfl
  | case9 => cases hwalk
  | case10 links here first rest hdot hdotDot hlong target hlink hlast =>
      cases hwalk
      have hplace : changed.at? (here ++ [first]) = some node := hnode
      have hkept := hkeeps.link _ target hlink
      cases hkept.symm.trans hplace
      refine ⟨_, ?_, Or.inl rfl⟩
      rw [walk, if_neg hdot, if_neg hdotDot, if_neg hlong, hkept]
      exact if_pos ⟨hlast.1, hfollow hlast.2⟩
  | case11 => cases hwalk
  | case12 here first rest hdot hdotDot hlong target hlink hlast left ih =>
      rw [walk, if_neg hdot, if_neg hdotDot, if_neg hlong, hkeeps.link _ target hlink]
      by_cases hstop : rest = [] ∧ other = false
      · have hfollowed : follow = true := Bool.eq_true_of_not_eq_false fun h => hlast ⟨hstop.1, h⟩
        exact ⟨_, if_pos hstop, Or.inr ⟨hfollowed, hstop.2, _, _, rfl⟩⟩
      · simp only [if_neg hstop]
        exact ih hwalk

/-! ## Written files -/

variable {fs written : FileSystem} {path : Path}

/-- The path leads to a symbolic link. -/
def IsLink (fs : FileSystem) (path : Path) : Prop :=
  ∃ target, fs.node? false path = some (.link target)

theorem not_isLink_of_plain (hplain : fs.root.Plain) (path : Path) : ¬fs.IsLink path := by
  rintro ⟨target, hnode⟩
  unfold node? at hnode
  split at hnode
  next names found hlocate =>
    cases hnode
    obtain ⟨-, hwalk⟩ := locate?_eq_some_iff.mp hlocate
    exact hplain.ne_link names target (standsIn_of_walk hwalk)
  next hother => cases hnode

theorem node?_of_locate? (hlocate : fs.locate? follow path = some (.found place node)) :
    fs.node? follow path = some node := by
  unfold node?
  rw [hlocate]

/-- The path of a file that was written leads to it, unless it is a link that is not followed. -/
theorem exists_locate?_of_write? (hwritten : fs.write? path content = some written)
    (follow : Bool) : ∃ located, fs.locate? true path = some located ∧ located.IsFree ∧
      written = { fs with root := fs.root.putAt located.place (.file content fs.clock) } ∧
      ∃ result, written.locate? follow path = some result ∧
        (result = .found located.place (.file content fs.clock) ∨
          follow = false ∧ ∃ above target, result = .found above (.link target)) := by
  obtain ⟨located, hlocate, hfree, rfl⟩ := exists_located_of_write? hwritten
  obtain ⟨husable, hwalk⟩ := locate?_eq_some_iff.mp hlocate
  have hstands := standsIn_of_walk hwalk
  have hnew : (fs.root.putAt located.place (.file content fs.clock)).at? located.place =
      some (.file content fs.clock) :=
    look?_eq_some_file_iff.mp (by rw [look?_putAt_file hstands hfree, if_pos rfl])
  obtain ⟨result, hresult, hkind⟩ := exists_walk_of_keeps
    (keeps_putAt_file hstands hfree content fs.clock) hwalk hnew (fun _ _ => nofun)
    (show true = false → follow = false from nofun)
  exact ⟨located, hlocate, hfree, rfl, result, locate?_eq_some_iff.mpr ⟨husable, hresult⟩,
    hkind.imp_right And.right⟩

theorem node?_of_write? (hwritten : fs.write? path content = some written) (follow : Bool) :
    written.node? follow path = some (.file content fs.clock) ∨
      follow = false ∧ written.IsLink path := by
  obtain ⟨located, -, -, -, result, hfound, hkind⟩ := exists_locate?_of_write? hwritten follow
  rcases hkind with rfl | ⟨rfl, above, target, rfl⟩
  · exact Or.inl (node?_of_locate? hfound)
  · exact Or.inr ⟨rfl, target, node?_of_locate? hfound⟩

theorem read?_of_write? (hwritten : fs.write? path content = some written) :
    written.read? path = some content := by
  unfold read?
  rcases node?_of_write? hwritten true with hnode | ⟨hfollow, -⟩
  · rw [hnode]
  · cases hfollow

theorem exists_write?_of_writeGuarded
    (hwritten : fs.writeGuarded path content = (written, .ok ())) :
    ∃ made, fs.createParents path = .ok made ∧ made.write? path content = some written := by
  unfold writeGuarded at hwritten
  split at hwritten
  next error hparents => cases hwritten
  next made hparents =>
    split at hwritten
    next after hafter =>
      cases hwritten
      exact ⟨made, hparents, hafter⟩
    next hnone => cases hwritten

/-- A write that fails says which step it failed at. -/
theorem exists_faultIn_of_writeGuarded {error : Error}
    (hfailed : fs.writeGuarded path content = (written, .error error)) :
    ∃ context, error = faultIn context := by
  unfold writeGuarded at hfailed
  split at hfailed
  next cause hparents =>
    cases hfailed
    unfold createParents at hparents
    split at hparents
    next hnone => cases hparents
    next parent hparent =>
      split at hparents
      next hempty => cases hparents
      next hne =>
        split at hparents
        next made hmade => cases hparents
        next hnone =>
          cases hparents
          exact ⟨_, rfl⟩
  next made hparents =>
    split at hfailed
    next after hafter => cases hfailed
    next hnone =>
      cases hfailed
      exact ⟨_, rfl⟩

/-- A file is written into the working directory where nothing is. -/
theorem exists_writeGuarded_of_vacant {name : FileName} (hpath : path.LeadsTo [name])
    (hparent : path.parent? = some ⟨[]⟩) (husable : path.isUsable = true)
    (hlength : name.length ≤ FileName.maxLength)
    (hhere : fs.root.IsDirectoryAt fs.workingDirectory)
    (hvacant : fs.root.at? (fs.workingDirectory ++ [name]) = none) (content : ByteArray) :
    ∃ written, fs.write? path content = some written ∧
      fs.writeGuarded path content = (written, .ok ()) := by
  obtain ⟨written, hwritten⟩ :=
    exists_write?_of_vacant hpath husable hlength hhere hvacant content
  refine ⟨written, hwritten, ?_⟩
  simp only [writeGuarded, createParents, hparent, if_true, hwritten]

/-- What was written is read under the guard when the path is no link and the limit allows it. -/
theorem readGuarded_eq_ok_iff (hwritten : fs.writeGuarded path content = (written, .ok ()))
    (limit : ℕ) (found : ByteArray) :
    written.readGuarded path limit = .ok found ↔
      ¬written.IsLink path ∧ content.size ≤ limit ∧ found = content := by
  obtain ⟨made, -, hmade⟩ := exists_write?_of_writeGuarded hwritten
  have hread := read?_of_write? hmade
  unfold readGuarded
  by_cases hlink : written.IsLink path
  · have hrefused := hlink
    obtain ⟨target, hnode⟩ := hlink
    rw [hnode]
    simp [Result.fail, hrefused]
  · have hnode := (node?_of_write? hmade false).resolve_right fun h => hlink h.2
    rw [hnode]
    simp only [sizeOf, hread]
    by_cases hlarge : limit < content.size
    · simp [Result.fail, hlarge]
    · simp [hlarge, hlink, not_lt.mp hlarge, eq_comm]

end FileSystem

end BuildProvenance
