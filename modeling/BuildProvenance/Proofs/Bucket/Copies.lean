import BuildProvenance.Proofs.Bucket.LocalName
import BuildProvenance.Store.Bucket.Basic
import Mathlib.Tactic

/-!
# Copies of objects

Each object is copied to the file of its local path.  When all copies succeed,
the private directory holds one file for each object, with the contents that
were downloaded for its name.  They succeed unless the file system does not take
a path, or one is that of a directory on the way to another.
-/

namespace BuildProvenance

namespace LocalName

variable {known all : SortedMap BucketObject} {objects : List BucketObject}

/-- An object is kept under its local path, where none was kept before. -/
theorem assign_eq_ok {object : BucketObject} (hassign : assign known object = .ok all) :
    (∃ path, of object.name = .ok path) ∧
      ∀ path other, all.get? path = some other ↔
        known.get? path = some other ∨ other = object ∧ of object.name = .ok path := by
  unfold assign at hassign
  obtain ⟨own, hown, hassign⟩ := Result.bind_eq_ok_iff.mp hassign
  split at hassign
  next earlier hearlier => cases hassign
  next hnone =>
    cases hassign
    refine ⟨⟨own, hown⟩, fun path other => ?_⟩
    rw [SortedMap.get?_insert, hown, Except.ok.injEq]
    by_cases heq : path = own
    · subst heq
      simp [hnone, eq_comm]
    · simp [heq, Ne.symm heq]

/-- Every object has a local path, and is found under it. -/
theorem assignAll_eq_ok (hassign : assignAll known objects = .ok all) :
    (∀ object ∈ objects, ∃ path, of object.name = .ok path) ∧
      ∀ path object, all.get? path = some object ↔ known.get? path = some object ∨
        object ∈ objects ∧ of object.name = .ok path := by
  induction objects generalizing known with
  | nil =>
      cases hassign
      simp
  | cons first rest ih =>
      rw [assignAll] at hassign
      split at hassign
      next error hfirst => cases hassign
      next more hfirst =>
        obtain ⟨hpath, hgetFirst⟩ := assign_eq_ok hfirst
        obtain ⟨hpaths, hget⟩ := ih hassign
        refine ⟨List.forall_mem_cons.mpr ⟨hpath, hpaths⟩, fun path object => ?_⟩
        rw [hget, hgetFirst, List.mem_cons]
        constructor
        · rintro ((hknown | ⟨rfl, hown⟩) | ⟨hmem, hown⟩)
          · exact Or.inl hknown
          · exact Or.inr ⟨Or.inl rfl, hown⟩
          · exact Or.inr ⟨Or.inr hmem, hown⟩
        · rintro (hknown | ⟨rfl | hmem, hown⟩)
          · exact Or.inl (Or.inl hknown)
          · exact Or.inl (Or.inr ⟨rfl, hown⟩)
          · exact Or.inr ⟨hmem, hown⟩

end LocalName

open FileSystem

/-- An object and what was downloaded for it. -/
abbrev ObjectCopy := BucketObject × Download

namespace ObjectCopy

def path (copy : ObjectCopy) : String := (LocalName.of copy.1.name).toOption.getD ""

/-- The file that an object was copied to. -/
def file (copy : ObjectCopy) : FoundFile :=
  ⟨LocalName.names copy.path, copy.2.content, copy.2.finished⟩

theorem path_eq {copy : ObjectCopy} {path : String} (hpath : LocalName.of copy.1.name = .ok path) :
    copy.path = path := by
  unfold ObjectCopy.path
  rw [hpath]
  rfl

/-- The object has a local path that the file system takes. -/
structure Fits (copy : ObjectCopy) : Prop where
  path : LocalName.of copy.1.name = .ok copy.path
  usable : (Path.ofString copy.path).isUsable = true
  short : ∀ name ∈ LocalName.names copy.path, name.length ≤ FileName.maxLength

variable {copy : ObjectCopy}

theorem Fits.fit (hfits : copy.Fits) : FileSystem.Fit copy.file.names := fun name hname =>
  ⟨(LocalName.isEntry_of hfits.path name hname).isProper, hfits.short name hname⟩

theorem fits_of {name path : String} (hname : copy.1.name = name)
    (hfits : (LocalName.of name).toOption = some path ∧ (Path.ofString path).isUsable = true ∧
      ∀ part ∈ LocalName.names path, part.length ≤ FileName.maxLength) :
    copy.path = path ∧ copy.Fits := by
  obtain ⟨hpath, husable, hshort⟩ := hfits
  have hof : LocalName.of copy.1.name = .ok path := by
    rw [hname]
    exact Result.toOption_eq_some_iff.mp hpath
  have hown : copy.path = path := path_eq hof
  refine ⟨hown, ?_, ?_, ?_⟩ <;> rw [hown]
  · exact hof
  · exact husable
  · exact hshort

end ObjectCopy

namespace Bucket

variable {σ : Type} {bucket : Bucket} {client : BucketClient σ} {scratch : String}
  {fs copied : FileSystem} {files : List FoundFile} {object : BucketObject}
  {objects : List BucketObject} {state after : σ}

/-- The objects are downloaded by their names, one after the other. -/
inductive Downloads (bucket : Bucket) (client : BucketClient σ) :
    σ → List ObjectCopy → σ → Prop
  | nil (state : σ) : Downloads bucket client state [] state
  | cons {state between after : σ} {object : BucketObject} {download : Download}
      {rest : List ObjectCopy}
      (hdownload : client.download ⟨bucket.name, object.name⟩ state = (.ok download, between))
      (hrest : Downloads bucket client between rest after) :
      Downloads bucket client state ((object, download) :: rest) after

theorem Downloads.unique {copies others : List ObjectCopy} {final : σ}
    (hone : Downloads bucket client state copies after)
    (hother : Downloads bucket client state others final)
    (hobjects : copies.map Prod.fst = others.map Prod.fst) : copies = others ∧ after = final := by
  induction hone generalizing others with
  | nil state =>
      cases hother with
      | nil => exact ⟨rfl, rfl⟩
      | cons hdownload hrest => cases hobjects
  | cons hdownload hrest ih =>
      cases hother with
      | nil => cases hobjects
      | cons hagain hmore =>
          rw [List.map_cons, List.map_cons, List.cons.injEq] at hobjects
          obtain ⟨rfl, hbehind⟩ := hobjects
          cases hdownload.symm.trans hagain
          obtain ⟨rfl, rfl⟩ := ih hmore hbehind
          exact ⟨rfl, rfl⟩

theorem openLocal_eq_ok_iff {path : String} {opened : FileSystem} :
    openLocal scratch fs path = .ok opened ↔
      ∃ made, fs.createDirectories? ((Path.ofString path).parent?.getD ⟨[]⟩) = some made ∧
        made.write? (Path.ofString path) ByteArray.empty = some opened := by
  unfold openLocal
  simp only
  split
  next hnone => simp [hnone]
  next made hmade =>
    rw [hmade]
    simp only [Option.some.injEq, exists_eq_left']
    split
    next hnone => simp [hnone]
    next written hwritten => simp [hwritten]

theorem overwrite_overwrite (names : List FileName) (content other : ByteArray)
    (modified earlier : ℤ) (files : List FoundFile) :
    overwrite ⟨names, content, modified⟩ (overwrite ⟨names, other, earlier⟩ files) =
      overwrite ⟨names, content, modified⟩ files := by
  unfold overwrite
  rw [List.filter_cons_of_neg (by simp), List.filter_filter]
  simp

/-- The file of an object is opened, and written once the download has finished. -/
theorem exists_opened_of_copy
    (hcopy : bucket.copy client scratch fs object state = (.ok copied, after)) :
    ∃ path opened download, LocalName.of object.name = .ok path ∧
      openLocal scratch fs path = .ok opened ∧
      client.download ⟨bucket.name, object.name⟩ state = (.ok download, after) ∧
      ({ opened with clock := download.finished }.write? (Path.ofString path)
        download.content).getD opened = copied := by
  unfold copy at hcopy
  obtain ⟨path, start, hnamed, hopening⟩ := Action.bind_eq_ok_iff.mp hcopy
  obtain ⟨hpath, rfl⟩ := Action.lift_eq_ok_iff.mp hnamed
  obtain ⟨opened, start, hlifted, hcopying⟩ := Action.bind_eq_ok_iff.mp hopening
  obtain ⟨hopened, rfl⟩ := Action.lift_eq_ok_iff.mp hlifted
  obtain ⟨download, between, hdownload, hwriting⟩ := Action.bind_eq_ok_iff.mp hcopying
  rw [Action.within_eq_ok_iff] at hdownload
  rw [Action.pure_apply, Prod.mk.injEq, Except.ok.injEq] at hwriting
  obtain ⟨hcopied, rfl⟩ := hwriting
  exact ⟨path, opened, download, hpath, hopened, hdownload, hcopied⟩

/-- A copied object is held under the names of its local path. -/
theorem copy_eq_ok (hholds : fs.Holds files)
    (hcopy : bucket.copy client scratch fs object state = (.ok copied, after)) :
    ∃ download, client.download ⟨bucket.name, object.name⟩ state = (.ok download, after) ∧
      copied.Holds (overwrite (ObjectCopy.file (object, download)) files) ∧
      copied.workingDirectory = fs.workingDirectory := by
  obtain ⟨path, opened, download, hpath, hopened, hdownload, hcopied⟩ :=
    exists_opened_of_copy hcopy
  obtain ⟨made, hmade, hwritten⟩ := openLocal_eq_ok_iff.mp hopened
  have hleads := LocalName.leadsTo_of hpath
  obtain ⟨hholdsMade, hsameMade⟩ := hholds.createDirectories? hmade
  obtain ⟨hholdsOpened, hsameOpened, hagain⟩ := hholdsMade.write? hleads hwritten
  obtain ⟨again, hagain⟩ := hagain download.finished download.content
  have hstamped : { opened with clock := download.finished }.Holds
      (overwrite ⟨LocalName.names path, ByteArray.empty, made.clock⟩ files) :=
    ⟨hholdsOpened.plain, hholdsOpened.here, hholdsOpened.files_iff⟩
  obtain ⟨hholdsAgain, hsameAgain, -⟩ := hstamped.write? hleads hagain
  rw [hagain, Option.getD_some] at hcopied
  subst hcopied
  have hown : ObjectCopy.path (object, download) = path := ObjectCopy.path_eq hpath
  have hfile : ObjectCopy.file (object, download) =
      ⟨LocalName.names path, download.content, download.finished⟩ := by
    rw [ObjectCopy.file, hown]
  rw [overwrite_overwrite, ← hfile] at hholdsAgain
  exact ⟨download, hdownload, hholdsAgain, hsameAgain.trans (hsameOpened.trans hsameMade)⟩

theorem exists_copy {path : String} {opened : FileSystem} {download : Download}
    (hpath : LocalName.of object.name = .ok path) (hopen : openLocal scratch fs path = .ok opened)
    (hdownload : client.download ⟨bucket.name, object.name⟩ state = (.ok download, after)) :
    ∃ copied, bucket.copy client scratch fs object state = (.ok copied, after) := by
  refine ⟨({ opened with clock := download.finished }.write? (Path.ofString path)
    download.content).getD opened, ?_⟩
  unfold copy
  rw [Action.bind_apply_of_ok (Action.lift_eq_ok_iff.mpr ⟨hpath, rfl⟩),
    Action.bind_apply_of_ok (Action.lift_eq_ok_iff.mpr ⟨hopen, rfl⟩),
    Action.bind_apply_of_ok (Action.within_eq_ok_iff.mpr hdownload)]
  rfl

theorem copyAll_eq_ok (hholds : fs.Holds files)
    (hcopy : bucket.copyAll client scratch fs objects state = (.ok copied, after)) :
    ∃ copies : List ObjectCopy, copies.map Prod.fst = objects ∧
      Downloads bucket client state copies after ∧
      copied.Holds (copies.foldl (fun files copy => overwrite copy.file files) files) ∧
      copied.workingDirectory = fs.workingDirectory := by
  induction objects generalizing fs files state with
  | nil =>
      rw [copyAll, Action.pure_apply, Prod.mk.injEq, Except.ok.injEq] at hcopy
      obtain ⟨rfl, rfl⟩ := hcopy
      exact ⟨[], rfl, .nil state, hholds, rfl⟩
  | cons first rest ih =>
      rw [copyAll] at hcopy
      obtain ⟨next, between, hfirst, hcopy⟩ := Action.bind_eq_ok_iff.mp hcopy
      obtain ⟨download, hdownload, hholdsNext, hsame⟩ := copy_eq_ok hholds hfirst
      obtain ⟨copies, hobjects, hdownloads, hholdsAll, hsameAll⟩ := ih hholdsNext hcopy
      exact ⟨(first, download) :: copies, by rw [List.map_cons, hobjects],
        .cons hdownload hdownloads, hholdsAll, hsameAll.trans hsame⟩

/-- Files under different names are all kept. -/
theorem mem_foldl_overwrite_iff {copies : List ObjectCopy}
    (hdistinct : copies.Pairwise fun a b => a.file.names ≠ b.file.names)
    (hnew : ∀ copy ∈ copies, ∀ file ∈ files, file.names ≠ copy.file.names) (file : FoundFile) :
    file ∈ copies.foldl (fun files copy => overwrite copy.file files) files ↔
      file ∈ files ∨ ∃ copy ∈ copies, file = copy.file := by
  induction copies generalizing files with
  | nil => simp
  | cons first rest ih =>
      obtain ⟨hfirst, hrest⟩ := List.pairwise_cons.mp hdistinct
      have hkept : overwrite first.file files = first.file :: files := by
        unfold overwrite
        rw [List.filter_eq_self.mpr]
        intro other hother
        simpa using hnew first List.mem_cons_self other hother
      rw [List.foldl_cons, hkept, ih hrest]
      · simp only [List.mem_cons, exists_eq_or_imp]
        tauto
      · intro copy hcopy other hother
        rcases List.mem_cons.mp hother with rfl | hother
        · exact hfirst copy hcopy
        · exact hnew copy (List.mem_cons_of_mem _ hcopy) other hother

/-! ## Which objects can be copied -/

variable {opened : FileSystem} {copy : ObjectCopy} {copies : List ObjectCopy} {between : σ}
  {path : String}

/-- The directories above a file are those of all its names but the last one. -/
theorem exists_parent_of {name : String} (hpath : LocalName.of name = .ok path) :
    ∃ front last, LocalName.names path = front ++ [last] ∧
      (Path.ofString path).parent?.getD ⟨[]⟩ = Path.ofNames front ∧
      (Path.ofNames (front ++ [last])) = Path.ofString path ∧
      ∀ name ∈ front ++ [last], FileName.IsEntry name := by
  have hentries := LocalName.isEntry_of hpath
  have hwhole : Path.ofNames (LocalName.names path) = Path.ofString path := Path.ofNames_parts _
  rcases List.eq_nil_or_concat (LocalName.names path) with hnil | ⟨front, last, hnames⟩
  · exact absurd hnil (LocalName.leadsTo_of hpath).ne_nil
  · rw [List.concat_eq_append] at hnames
    rw [hnames] at hentries hwhole
    refine ⟨front, last, hnames, ?_, hwhole, hentries⟩
    rw [← hwhole, Path.parent?_ofNames hentries]
    rfl

theorem exists_openLocal (hmirrors : fs.Mirrors files) (hfits : copy.Fits)
    (hapart : ∀ file ∈ files, Apart copy.file.names file.names) :
    ∃ opened, openLocal scratch fs copy.path = .ok opened := by
  obtain ⟨front, last, hnames, hparent, hwhole, hentries⟩ := exists_parent_of hfits.path
  have hfile : copy.file.names = front ++ [last] := hnames
  have hfit := hfits.fit
  have hleads := LocalName.leadsTo_of hfits.path
  rw [hfile] at hfit hapart
  rw [hnames] at hleads
  have hfront : ∀ name ∈ front, FileName.IsEntry name :=
    fun name hname => hentries name (List.mem_append_left _ hname)
  obtain ⟨made, hmade, hdirectory⟩ := exists_createDirectories? hfront
    (fun name hname => hfit name (List.mem_append_left _ hname))
    (fun hne => Path.isUsable_front hne hfront (hwhole ▸ hfits.usable)) hmirrors.holds.here
    fun part hpart => hmirrors.isOpenAt (fun file hmem => (hapart file hmem).2) hpart
  obtain ⟨hholds, hsame⟩ := hmirrors.holds.createDirectories? hmade
  have hadds := adds_of_createDirectories?_ofNames hfront hholds.plain hmade
  have hfree : ∀ node, made.root.at? (made.workingDirectory ++ front ++ [last]) = some node →
      ∃ content modified, node = .file content modified := by
    intro node hnode
    rw [hsame, List.append_assoc] at hnode
    exact hmirrors.file_of_adds hholds.plain hadds (fun file hmem => (hapart file hmem).1) hnode
  obtain ⟨opened, hopened⟩ := exists_write? hleads hfits.usable hfit (hsame ▸ hdirectory) hfree
    ByteArray.empty
  refine ⟨opened, openLocal_eq_ok_iff.mpr ⟨made, ?_, hopened⟩⟩
  rw [hparent]
  exact hmade

theorem fits_of_openLocal (hholds : fs.Holds files)
    (hpath : LocalName.of copy.1.name = .ok copy.path)
    (hopen : openLocal scratch fs copy.path = .ok opened) :
    copy.Fits ∧ ∀ file ∈ files, Apart copy.file.names file.names := by
  obtain ⟨made, hmade, hwritten⟩ := openLocal_eq_ok_iff.mp hopen
  obtain ⟨hholdsMade, -⟩ := hholds.createDirectories? hmade
  have hleads := LocalName.leadsTo_of hpath
  obtain ⟨hholdsOpened, -, -⟩ := hholdsMade.write? hleads hwritten
  obtain ⟨located, hlocate, -, -⟩ := exists_located_of_write? hwritten
  rw [locate?_of_leadsTo hleads] at hlocate
  obtain ⟨husable, hwalk⟩ := Option.ite_none_right_eq_some.mp hlocate
  obtain ⟨-, -, hlengths⟩ := walk_proper hholdsMade.plain hleads.proper hwalk
  refine ⟨⟨hpath, husable, hlengths⟩, ?_⟩
  -- the opened file is among the files, and no file of a file system is below another
  exact (forall_mem_overwrite_iff.mp fun file hfile =>
    hholdsOpened.apart List.mem_cons_self hfile).2

/-- The copy is the only file that is new, and new directories lead to it. -/
theorem mirrors_of_copy {object : BucketObject} {download : Download}
    (hmirrors : fs.Mirrors files)
    (hdownload : client.download ⟨bucket.name, object.name⟩ state = (.ok download, between))
    (hcopy : bucket.copy client scratch fs object state = (.ok copied, after)) :
    after = between ∧ copied.Mirrors (overwrite (ObjectCopy.file (object, download)) files) := by
  obtain ⟨path, opened, first, hpath, hopened, hfirst, hcopied⟩ := exists_opened_of_copy hcopy
  obtain ⟨second, hsecond, hholds, hsame⟩ := copy_eq_ok hmirrors.holds hcopy
  rw [hdownload, Prod.mk.injEq, Except.ok.injEq] at hfirst hsecond
  obtain ⟨rfl, rfl⟩ := hfirst
  obtain ⟨rfl, -⟩ := hsecond
  refine ⟨rfl, hholds, fun names hdirectory => ?_⟩
  obtain ⟨made, hmade, hwritten⟩ := openLocal_eq_ok_iff.mp hopened
  obtain ⟨front, last, hnames, hparent, -, hentries⟩ := exists_parent_of hpath
  rw [hparent] at hmade
  obtain ⟨hholdsMade, -⟩ := hmirrors.holds.createDirectories? hmade
  have hadds := adds_of_createDirectories?_ofNames
    (fun name hname => hentries name (List.mem_append_left _ hname)) hholdsMade.plain hmade
  have hopenedAt : opened.root.IsDirectoryAt (fs.workingDirectory ++ names) := by
    rw [hsame, ← hcopied] at hdirectory
    exact isDirectoryAt_of_write?_getD hdirectory
  have hfile : (ObjectCopy.file (object, download)).names = front ++ [last] := by
    have hown : ObjectCopy.path (object, download) = path := ObjectCopy.path_eq hpath
    rw [ObjectCopy.file, hown, hnames]
  rw [exists_mem_overwrite_iff, hfile]
  rcases hmirrors.directory_of_adds hadds (isDirectoryAt_of_write? hwritten hopenedAt) with
    hnil | hkept | hpart
  · exact Or.inl hnil
  · exact Or.inr (Or.inr hkept)
  · exact Or.inr (Or.inl (above_concat_of_part hpart last))

theorem exists_copy_iff (scratch : String) {object : BucketObject} {download : Download}
    (hmirrors : fs.Mirrors files)
    (hdownload : client.download ⟨bucket.name, object.name⟩ state = (.ok download, after)) :
    (∃ copied, bucket.copy client scratch fs object state = (.ok copied, after)) ↔
      ObjectCopy.Fits (object, download) ∧
        ∀ file ∈ files, Apart (ObjectCopy.file (object, download)).names file.names := by
  constructor
  · rintro ⟨copied, hcopy⟩
    obtain ⟨path, opened, other, hpath, hopened, -, -⟩ := exists_opened_of_copy hcopy
    have hown : ObjectCopy.path (object, download) = path := ObjectCopy.path_eq hpath
    rw [← hown] at hpath hopened
    exact fits_of_openLocal hmirrors.holds hpath hopened
  · rintro ⟨hfits, hapart⟩
    obtain ⟨opened, hopened⟩ := exists_openLocal hmirrors hfits hapart
    exact exists_copy hfits.path hopened hdownload

/-- All objects are copied when none has a path that others need as a directory. -/
theorem exists_copyAll_iff (hmirrors : fs.Mirrors files)
    (hdownloads : Downloads bucket client state copies after) :
    (∃ copied final, bucket.copyAll client scratch fs (copies.map Prod.fst) state =
        (.ok copied, final)) ↔
      (∀ copy ∈ copies, copy.Fits) ∧
        (∀ copy ∈ copies, ∀ file ∈ files, Apart copy.file.names file.names) ∧
        copies.Pairwise fun a b => Apart a.file.names b.file.names := by
  induction hdownloads generalizing fs files with
  | nil state => exact ⟨fun _ => by simp, fun _ => ⟨fs, state, rfl⟩⟩
  | @cons state between after object download rest hdownload hrest ih =>
      have hfirst := exists_copy_iff scratch hmirrors hdownload
      simp only [List.forall_mem_cons, List.pairwise_cons]
      constructor
      · rintro ⟨copied, final, hcopy⟩
        rw [List.map_cons, copyAll] at hcopy
        obtain ⟨next, reached, hcopyFirst, hcopyRest⟩ := Action.bind_eq_ok_iff.mp hcopy
        obtain ⟨rfl, hmirrorsNext⟩ := mirrors_of_copy hmirrors hdownload hcopyFirst
        obtain ⟨hfits, hapart⟩ := hfirst.mp ⟨next, hcopyFirst⟩
        obtain ⟨hfitsRest, hapartRest, hpairwise⟩ :=
          (ih hmirrorsNext).mp ⟨copied, final, hcopyRest⟩
        simp only [forall_mem_overwrite_iff] at hapartRest
        exact ⟨⟨hfits, hfitsRest⟩, ⟨hapart, fun copy hcopy => (hapartRest copy hcopy).2⟩,
          fun copy hcopy => (hapartRest copy hcopy).1.symm, hpairwise⟩
      · rintro ⟨⟨hfits, hfitsRest⟩, ⟨hapart, hapartRest⟩, hahead, hpairwise⟩
        obtain ⟨next, hcopyFirst⟩ := hfirst.mpr ⟨hfits, hapart⟩
        obtain ⟨-, hmirrorsNext⟩ := mirrors_of_copy hmirrors hdownload hcopyFirst
        have hapartNext : ∀ copy ∈ rest,
            ∀ file ∈ overwrite (ObjectCopy.file (object, download)) files,
              Apart copy.file.names file.names := by
          simp only [forall_mem_overwrite_iff]
          exact fun copy hcopy => ⟨(hahead copy hcopy).symm, hapartRest copy hcopy⟩
        obtain ⟨copied, final, hcopyRest⟩ :=
          (ih hmirrorsNext).mpr ⟨hfitsRest, hapartNext, hpairwise⟩
        refine ⟨copied, final, ?_⟩
        rw [List.map_cons, copyAll, Action.bind_apply_of_ok hcopyFirst]
        exact hcopyRest

theorem pairwise_apart_iff : (copies.Pairwise fun a b => Apart a.file.names b.file.names) ↔
    ∀ a ∈ copies, ∀ b ∈ copies, ¬Above a.file.names b.file.names := by
  constructor
  · intro hpairwise a ha b hb
    have hsymm : Std.Symm fun a b : ObjectCopy => Apart a.file.names b.file.names :=
      ⟨fun _ _ hapart => Apart.symm hapart⟩
    have hself : ∀ copy ∈ copies, Apart copy.file.names copy.file.names :=
      fun copy _ => apart_self copy.file.names
    exact (hpairwise.forall_of_forall hself ha hb).1
  · intro hall
    exact List.pairwise_of_forall_mem_list fun a ha b hb => ⟨hall a ha b hb, hall b hb a ha⟩

/-- No object has the path of a directory that leads to another. -/
theorem exists_copyAll_empty_iff (scratch : String)
    (hdownloads : Downloads bucket client state copies after) :
    (∃ copied final, bucket.copyAll client scratch (FileSystem.empty 0)
        (copies.map Prod.fst) state = (.ok copied, final)) ↔
      (∀ copy ∈ copies, copy.Fits) ∧
        ∀ a ∈ copies, ∀ b ∈ copies, ¬(a.path ++ "/").toList <+: b.path.toList := by
  rw [exists_copyAll_iff (mirrors_empty 0) hdownloads, pairwise_apart_iff]
  simp only [List.not_mem_nil, false_implies, implies_true, true_and]
  refine and_congr_right fun _ => forall₂_congr fun a _ => forall₂_congr fun b _ => ?_
  exact not_congr (LocalName.above_names_iff a.path b.path)

theorem exists_assignAll (known : SortedMap BucketObject)
    (hpaths : ∀ copy ∈ copies, LocalName.of copy.1.name = .ok copy.path)
    (hapart : (copies.map ObjectCopy.path).Nodup)
    (hnew : ∀ copy ∈ copies, known.get? copy.path = none) :
    ∃ all, LocalName.assignAll known (copies.map Prod.fst) = .ok all := by
  induction copies generalizing known with
  | nil => exact ⟨known, rfl⟩
  | cons first rest ih =>
      have hfirst : LocalName.assign known first.1 = .ok (known.insert first.path first.1) := by
        unfold LocalName.assign
        rw [hpaths first List.mem_cons_self]
        simp only [bind, Except.bind, hnew first List.mem_cons_self]
        rfl
      rw [List.map_cons, List.nodup_cons] at hapart
      have hnewRest : ∀ copy ∈ rest,
          (known.insert first.path first.1).get? copy.path = none := by
        intro copy hcopy
        have hne : copy.path ≠ first.path := fun heq =>
          hapart.1 (List.mem_map.mpr ⟨copy, hcopy, heq⟩)
        rw [SortedMap.get?_insert, if_neg hne]
        exact hnew copy (List.mem_cons_of_mem _ hcopy)
      obtain ⟨all, hrest⟩ := ih _ (fun copy hcopy => hpaths copy (List.mem_cons_of_mem _ hcopy))
        hapart.2 hnewRest
      refine ⟨all, ?_⟩
      rw [List.map_cons, LocalName.assignAll, hfirst]
      exact hrest

end Bucket

end BuildProvenance
