import BuildProvenance.Proofs.Image.Snapshot
import Mathlib.Data.List.Forall2
import Mathlib.Tactic

/-!
# What a snapshot of an image can miss

The walk keeps one set for the digests of manifests and for those of
configurations and layers.  A manifest whose digest an image names as a blob of
its own is taken for known, and what it names stays out of the snapshot.  From
any registry where a digest names one manifest, the snapshot holds what can be
reached without such a manifest.  Where no index names one, it holds everything
that can be reached, whatever the order of the manifests in the indexes.
-/

namespace BuildProvenance

namespace ManifestWalk

section Graph

variable (fetch : String → Result Manifest)

/-- A digest names one manifest. -/
structure AddressedByDigest : Prop where
  /-- The manifest served for a named digest has this digest. -/
  child : ∀ parent child manifest, Child fetch parent child → fetch child = .ok manifest →
    manifest.digest = child
  /-- What is served with one digest has one body. -/
  body : ∀ reference other manifest found, fetch reference = .ok manifest →
    fetch other = .ok found → manifest.digest = found.digest → found.body = manifest.body

/-- A configuration or a layer of an image that can be reached. -/
def Blob (root digest : String) : Prop :=
  ∃ reference manifest document, Reaches fetch root reference ∧
    Reads fetch reference manifest document ∧ document.isIndex manifest.mediaType = false ∧
      digest ∈ document.blobs

/-- The reference is reached through manifests that are no blob of an image. -/
def ReachesApart (root reference : String) : Prop :=
  Relation.ReflTransGen (fun parent child => Child fetch parent child ∧ ¬Blob fetch root child)
    root reference

/-- No index names a manifest that is a blob of an image. -/
def ChildrenApart (root : String) : Prop :=
  ∀ parent child, Reaches fetch root parent → Child fetch parent child → ¬Blob fetch root child

/-- The manifest of the reference was used: what it names is recorded, and the manifests
among that are asked for or queued, if their digest was not recorded already. -/
def Opened (walk : ManifestWalk) (reference : String) : Prop :=
  ∃ manifest document, Reads fetch reference manifest document ∧
    (∀ digest ∈ manifest.named document, digest ∈ walk.recorded) ∧
    ∀ child ∈ document.manifests,
      child ∈ walk.queue ∨ child ∈ walk.visited ∨ child ∈ walk.recorded

end Graph

variable {fetch : String → Result Manifest} {root reference : String} {manifest : Manifest}
  {document : ManifestDocument} {walk begun after : ManifestWalk}

theorem ContentAddressed.addressedByDigest (hcontent : ContentAddressed fetch) :
    AddressedByDigest fetch := by
  refine ⟨hcontent.child, fun reference other manifest found hserved hfound hdigest => ?_⟩
  obtain ⟨again, hagain, -, hbody⟩ := hcontent.served reference manifest hserved
  obtain ⟨second, hsecond, -, hsame⟩ := hcontent.served other found hfound
  have heq : again = second := Except.ok.inj (hagain.symm.trans (hdigest ▸ hsecond))
  rw [← hbody, heq, hsame]

theorem ReachesApart.reaches (hreached : ReachesApart fetch root reference) :
    Reaches fetch root reference := by
  induction hreached with
  | refl => exact Relation.ReflTransGen.refl
  | tail hparent hstep ih => exact ih.tail hstep.1

theorem ChildrenApart.reachesApart (hapart : ChildrenApart fetch root)
    (hreached : Reaches fetch root reference) : ReachesApart fetch root reference := by
  induction hreached with
  | refl => exact Relation.ReflTransGen.refl
  | @tail parent child hparent hchild ih =>
      exact ih.tail ⟨hchild, hapart parent child hparent hchild⟩

/-! ## One reference further -/

/-- What asking for the next reference makes of a walk. -/
structure Further (fetch : String → Result Manifest) (walk : ManifestWalk) (reference : String)
    (after : ManifestWalk) : Prop where
  queued : reference ∈ walk.queue
  visited : after.visited = reference :: walk.visited
  waiting : ∀ other ∈ walk.queue, other ∈ after.queue ∨ other ∈ after.visited
  children : ∀ other ∈ after.queue, other ∈ walk.queue ∨ Child fetch reference other
  recorded : ∀ digest ∈ walk.recorded, digest ∈ after.recorded
  served : ∃ digest ∈ after.recorded, Serves fetch reference digest
  /-- The digest that is served was recorded already, or the manifest is used. -/
  used : walk.recorded ≠ [] ∧ after.recorded = walk.recorded ∨
    Opened fetch after reference ∧
      ∀ digest ∈ after.recorded, digest ∈ walk.recorded ∨ Names fetch reference digest

theorem further_of_absorb (hnext : walk.next? = some (reference, begun))
    (hserved : fetch reference = .ok manifest) (habsorb : begun.absorb manifest = .ok after) :
    Further fetch walk reference after := by
  obtain ⟨-, skipped, rest, hqueue, hskipped, hbegun⟩ := next?_eq_some hnext
  have hqueued := mem_queue_of_next hnext
  have hrest : ∀ other ∈ rest, other ∈ walk.queue := by
    intro other hother
    rw [hqueue]
    simp [hother]
  have hwaiting : ∀ other ∈ walk.queue, other ∈ rest ∨ other ∈ reference :: walk.visited := by
    intro other hother
    rw [hqueue, List.mem_append, List.mem_cons] at hother
    rcases hother with hother | rfl | hother
    · exact Or.inr (List.mem_cons_of_mem _ (hskipped other hother))
    · exact Or.inr List.mem_cons_self
    · exact Or.inl hother
  have hsame : begun.recorded = walk.recorded := by rw [hbegun]
  by_cases hknown : manifest.digest ∈ begun.recorded
  · rw [absorb_of_mem hknown] at habsorb
    cases habsorb
    rw [hsame] at hknown
    subst hbegun
    exact {
      queued := hqueued
      visited := rfl
      waiting := hwaiting
      children := fun other hother => Or.inl (hrest other hother)
      recorded := fun _ hdigest => hdigest
      served := ⟨manifest.digest, hknown, manifest, hserved, rfl⟩
      used := Or.inl ⟨List.ne_nil_of_mem hknown, rfl⟩ }
  · obtain ⟨document, husable, hvisited, hafter, hrecorded⟩ := absorb_eq_ok hknown habsorb
    simp only [hbegun] at hvisited hafter hrecorded
    have hreads : Reads fetch reference manifest document := ⟨hserved, husable⟩
    have hdigest : manifest.digest ∈ manifest.named document :=
      Manifest.mem_named_iff.mpr (Or.inl rfl)
    have hchildren : ∀ child ∈ document.manifests,
        child ∈ after.queue ∨ child ∈ after.visited ∨ child ∈ after.recorded := by
      intro child hchild
      by_cases hfiltered : child ∈ manifest.digest :: walk.recorded
      · refine Or.inr (Or.inr ((hrecorded child).mpr ?_))
        rcases List.mem_cons.mp hfiltered with rfl | hmem
        · exact Or.inr hdigest
        · exact Or.inl hmem
      · rw [hafter, List.mem_append, List.mem_filter]
        exact Or.inl (Or.inr ⟨hchild, by simpa using hfiltered⟩)
    exact {
      queued := hqueued
      visited := hvisited
      waiting := by
        intro other hother
        rw [hvisited, hafter, List.mem_append]
        exact (hwaiting other hother).imp Or.inl id
      children := by
        intro other hother
        rw [hafter, List.mem_append] at hother
        rcases hother with hother | hother
        · exact Or.inl (hrest other hother)
        · exact Or.inr ((child_iff hreads other).mpr (List.mem_filter.mp hother).1)
      recorded := fun digest hmem => (hrecorded digest).mpr (Or.inl hmem)
      served := ⟨manifest.digest, (hrecorded _).mpr (Or.inr hdigest), manifest, hserved, rfl⟩
      used := by
        refine Or.inr ⟨⟨manifest, document, hreads, ?_, hchildren⟩, ?_⟩
        · exact fun digest hmem => (hrecorded digest).mpr (Or.inr hmem)
        · exact fun digest hmem =>
            ((hrecorded digest).mp hmem).imp id (names_iff hreads digest).mpr }

theorem Further.recorded_or_names (hfurther : Further fetch walk reference after) {digest : String}
    (hmem : digest ∈ after.recorded) : digest ∈ walk.recorded ∨ Names fetch reference digest := by
  rcases hfurther.used with ⟨-, hsame⟩ | ⟨-, hnames⟩
  · exact Or.inl (hsame ▸ hmem)
  · exact hnames digest hmem

theorem Further.served_visited (hfurther : Further fetch walk reference after)
    (hserved : ∀ other ∈ walk.visited, ∃ digest ∈ walk.recorded, Serves fetch other digest) :
    ∀ other ∈ after.visited, ∃ digest ∈ after.recorded, Serves fetch other digest := by
  intro other hother
  rw [hfurther.visited] at hother
  rcases List.mem_cons.mp hother with rfl | hother
  · exact hfurther.served
  · obtain ⟨digest, hmem, hserves⟩ := hserved other hother
    exact ⟨digest, hfurther.recorded digest hmem, hserves⟩

theorem Opened.further (hfurther : Further fetch walk reference after) {other : String}
    (hopened : Opened fetch walk other) : Opened fetch after other := by
  obtain ⟨manifest, document, hreads, hnamed, hchildren⟩ := hopened
  refine ⟨manifest, document, hreads, fun digest hmem => hfurther.recorded _ (hnamed digest hmem),
    fun child hmem => ?_⟩
  rcases hchildren child hmem with hqueue | hvisited | hrecorded
  · exact (hfurther.waiting child hqueue).imp id Or.inl
  · rw [hfurther.visited]
    exact Or.inr (Or.inl (List.mem_cons_of_mem _ hvisited))
  · exact Or.inr (Or.inr (hfurther.recorded child hrecorded))

/-! ## How far a walk has come -/

/-- What was asked for has a recorded digest.  A recorded digest that is no blob is that of a
manifest that was used. -/
structure Gathered (fetch : String → Result Manifest) (root : String) (walk : ManifestWalk) :
    Prop where
  started : walk = start root ∨ Opened fetch walk root
  reached : ∀ reference, reference ∈ walk.queue ∨ reference ∈ walk.visited →
    Reaches fetch root reference
  served : ∀ reference ∈ walk.visited, ∃ digest ∈ walk.recorded, Serves fetch reference digest
  named : ∀ digest ∈ walk.recorded,
    ∃ reference, Reaches fetch root reference ∧ Names fetch reference digest
  opened : ∀ digest ∈ walk.recorded, Blob fetch root digest ∨
    ∃ reference ∈ walk.visited, Serves fetch reference digest ∧ Opened fetch walk reference

theorem gathered_start (fetch : String → Result Manifest) (root : String) :
    Gathered fetch root (start root) := by
  constructor
  case started => exact Or.inl rfl
  case reached =>
    intro reference hmem
    have heq : reference = root := by simpa [start] using hmem
    rw [heq]
    exact Relation.ReflTransGen.refl
  case served =>
    intro reference hmem
    cases hmem
  case named =>
    intro digest hmem
    cases hmem
  case opened =>
    intro digest hmem
    cases hmem

theorem Gathered.further (hgathered : Gathered fetch root walk)
    (hfurther : Further fetch walk reference after) : Gathered fetch root after := by
  have hreached := hgathered.reached reference (Or.inl hfurther.queued)
  constructor
  case started =>
    right
    rcases hgathered.started with rfl | hopened
    · -- the first reference is the root, and no digest is recorded before it is served
      have heq : reference = root := List.mem_singleton.mp hfurther.queued
      subst heq
      rcases hfurther.used with ⟨hrecorded, -⟩ | ⟨hopened, -⟩
      · exact absurd rfl hrecorded
      · exact hopened
    · exact hopened.further hfurther
  case reached =>
    intro other hother
    rw [hfurther.visited, List.mem_cons] at hother
    rcases hother with hother | rfl | hother
    · rcases hfurther.children other hother with hwaiting | hchild
      · exact hgathered.reached other (Or.inl hwaiting)
      · exact hreached.tail hchild
    · exact hreached
    · exact hgathered.reached other (Or.inr hother)
  case served => exact hfurther.served_visited hgathered.served
  case named =>
    intro digest hmem
    rcases hfurther.recorded_or_names hmem with hbefore | hnamed
    · exact hgathered.named digest hbefore
    · exact ⟨reference, hreached, hnamed⟩
  case opened =>
    intro digest hmem
    have hbefore : digest ∈ walk.recorded → Blob fetch root digest ∨
        ∃ other ∈ after.visited, Serves fetch other digest ∧ Opened fetch after other := by
      intro hmem
      refine (hgathered.opened digest hmem).imp id ?_
      rintro ⟨other, hvisited, hserves, hopened⟩
      refine ⟨other, ?_, hserves, hopened.further hfurther⟩
      rw [hfurther.visited]
      exact List.mem_cons_of_mem _ hvisited
    rcases hfurther.used with ⟨-, hsame⟩ | ⟨hopened, hnames⟩
    · exact hbefore (hsame ▸ hmem)
    · rcases hnames digest hmem with hmem | ⟨manifest, document, hreads, hnamed⟩
      · exact hbefore hmem
      · rcases Manifest.mem_named_iff.mp hnamed with rfl | ⟨himage, hblob⟩
        · refine Or.inr ⟨reference, ?_, ⟨manifest, hreads.served, rfl⟩, hopened⟩
          rw [hfurther.visited]
          exact List.mem_cons_self
        · exact Or.inl ⟨reference, manifest, document, hreached, hreads, himage, hblob⟩

/-! ## Walks that have come to their end -/

theorem Gathered.opened_root (hgathered : Gathered fetch root walk) (hnext : walk.next? = none) :
    Opened fetch walk root := by
  rcases hgathered.started with rfl | hopened
  · have hvisited := next?_eq_none hnext root List.mem_cons_self
    cases hvisited
  · exact hopened

/-- When no reference is left, a child of a manifest that was used is recorded. -/
theorem Gathered.recorded_of_child (hgathered : Gathered fetch root walk)
    (hcontent : AddressedByDigest fetch) (hnext : walk.next? = none) {child : String}
    (hopened : Opened fetch walk reference) (hchild : Child fetch reference child) :
    child ∈ walk.recorded := by
  obtain ⟨manifest, document, hreads, -, hchildren⟩ := hopened
  have hvisited : child ∈ walk.visited → child ∈ walk.recorded := by
    intro hmem
    obtain ⟨digest, hrecorded, found, hfound, rfl⟩ := hgathered.served child hmem
    rwa [hcontent.child reference child found hchild hfound] at hrecorded
  rcases hchildren child ((child_iff hreads child).mp hchild) with hqueue | hmem | hrecorded
  · exact hvisited (next?_eq_none hnext child hqueue)
  · exact hvisited hmem
  · exact hrecorded

/-- The digest of the root's manifest has the document of the root. -/
theorem AddressedByDigest.document_root (hcontent : AddressedByDigest fetch)
    (hreached : Reaches fetch root reference) (hserves : Serves fetch root reference)
    (hreads : Reads fetch reference manifest document) :
    ∃ first, fetch root = .ok first ∧ first.document = .ok document := by
  obtain ⟨first, hfirst, hdigest⟩ := hserves
  refine ⟨first, hfirst, ?_⟩
  by_cases hroot : reference = root
  · subst hroot
    have heq : first = manifest := Except.ok.inj (hfirst.symm.trans hreads.served)
    rw [heq]
    exact hreads.usable.1
  · have hown := digest_of_reached hcontent.child hreached hroot hreads.served
    have hbody := hcontent.body reference root manifest first hreads.served hfirst
      (hown.trans hdigest.symm)
    exact Manifest.document_of_body hbody hreads.usable.1

/-- The children of that digest are those of the root. -/
theorem AddressedByDigest.child_root (hcontent : AddressedByDigest fetch)
    (hreached : Reaches fetch root reference) (hserves : Serves fetch root reference)
    {child : String} (hchild : Child fetch reference child) : Child fetch root child := by
  obtain ⟨manifest, document, hreads, hmem⟩ := hchild
  obtain ⟨first, hfirst, hdocument⟩ := hcontent.document_root hreached hserves hreads
  exact ⟨first, document, ⟨hfirst, hdocument,
    Or.inl (ManifestDocument.isIndex_of_mem hmem first.mediaType)⟩, hmem⟩

/-- The reference was used, or it is the digest of the root's manifest. -/
theorem Gathered.opened_of_reachesApart (hgathered : Gathered fetch root walk)
    (hcontent : AddressedByDigest fetch) (hnext : walk.next? = none)
    (hreached : ReachesApart fetch root reference) :
    Opened fetch walk reference ∨ reference ∈ walk.recorded ∧ Serves fetch root reference := by
  have hroot := hgathered.opened_root hnext
  have hclosed : ∀ parent child, Opened fetch walk parent → Child fetch parent child →
      ¬Blob fetch root child →
        Opened fetch walk child ∨ child ∈ walk.recorded ∧ Serves fetch root child := by
    intro parent child hparent hchild hblob
    have hrecorded := hgathered.recorded_of_child hcontent hnext hparent hchild
    obtain ⟨other, hvisited, ⟨found, hfound, hdigest⟩, hopened⟩ :=
      (hgathered.opened child hrecorded).resolve_left hblob
    by_cases hfirst : other = root
    · subst hfirst
      exact Or.inr ⟨hrecorded, found, hfound, hdigest⟩
    · have hown := digest_of_reached hcontent.child
        (hgathered.reached other (Or.inr hvisited)) hfirst hfound
      left
      rwa [← hdigest, hown]
  induction hreached with
  | refl => exact Or.inl hroot
  | @tail parent child hparent hstep ih =>
      rcases ih with hopened | ⟨-, hserves⟩
      · exact hclosed parent child hopened hstep.1 hstep.2
      · exact hclosed root child hroot
          (hcontent.child_root (ReachesApart.reaches hparent) hserves hstep.1) hstep.2

/-- At the end of a walk, a manifest that is reached apart from blobs has added its digests. -/
theorem Gathered.recorded_of_names (hgathered : Gathered fetch root walk)
    (hcontent : AddressedByDigest fetch) (hnext : walk.next? = none)
    (hreached : ReachesApart fetch root reference) {digest : String}
    (hnames : Names fetch reference digest) : digest ∈ walk.recorded := by
  have hused : ∀ other, Opened fetch walk other → Names fetch other digest →
      digest ∈ walk.recorded := by
    rintro other ⟨manifest, document, hreads, hnamed, -⟩ hnames
    exact hnamed digest ((names_iff hreads digest).mp hnames)
  rcases hgathered.opened_of_reachesApart hcontent hnext hreached with
    hopened | ⟨hrecorded, hserves⟩
  · exact hused reference hopened hnames
  · by_cases hroot : reference = root
    · subst hroot
      exact hused reference (hgathered.opened_root hnext) hnames
    · obtain ⟨manifest, document, hreads, hnamed⟩ := hnames
      have hown := digest_of_reached hcontent.child hreached.reaches hroot hreads.served
      rcases Manifest.mem_named_iff.mp hnamed with rfl | ⟨himage, -⟩
      · rwa [hown]
      · -- the root leads somewhere, so that its document is that of an index
        obtain ⟨first, hfirst, hdocument⟩ :=
          hcontent.document_root hreached.reaches hserves hreads
        obtain ⟨child, hchild, -⟩ :=
          (Relation.ReflTransGen.cases_head hreached.reaches).resolve_left (Ne.symm hroot)
        obtain ⟨again, index, hagain, hmem⟩ := hchild
        have heq : again = first := Except.ok.inj (hagain.served.symm.trans hfirst)
        subst heq
        have hindex : index = document := Except.ok.inj (hagain.usable.1.symm.trans hdocument)
        rw [← hindex, ManifestDocument.isIndex_of_mem hmem] at himage
        cases himage

theorem Gathered.recorded_of_child_apart (hgathered : Gathered fetch root walk)
    (hcontent : AddressedByDigest fetch) (hnext : walk.next? = none)
    (hreached : ReachesApart fetch root reference) {child : String}
    (hchild : Child fetch reference child) : child ∈ walk.recorded := by
  rcases hgathered.opened_of_reachesApart hcontent hnext hreached with hopened | ⟨-, hserves⟩
  · exact hgathered.recorded_of_child hcontent hnext hopened hchild
  · exact hgathered.recorded_of_child hcontent hnext (hgathered.opened_root hnext)
      (hcontent.child_root hreached.reaches hserves hchild)

theorem Blob.exists_names {digest : String} (hblob : Blob fetch root digest) :
    ∃ reference, Reaches fetch root reference ∧ Names fetch reference digest := by
  obtain ⟨reference, manifest, document, hreached, hreads, himage, hmem⟩ := hblob
  exact ⟨reference, hreached, manifest, document, hreads,
    Manifest.mem_named_iff.mpr (Or.inr ⟨himage, hmem⟩)⟩

/-! ## Indexes in another order -/

/-- Under other references the other registry serves the same images, and indexes that name
the same manifests in any order. -/
structure Rearranged (rename : String → String) (fetch other : String → Result Manifest)
    (root : String) : Prop where
  reads : ∀ reference manifest document, Reaches fetch root reference →
    Reads fetch reference manifest document →
      ∃ second rearranged, Reads other (rename reference) second rearranged ∧
        rearranged.isIndex second.mediaType = document.isIndex manifest.mediaType ∧
        rearranged.blobs = document.blobs ∧
        rearranged.manifests.Perm (document.manifests.map rename)
  back : ∀ reference second rearranged, Reaches fetch root reference →
    Reads other (rename reference) second rearranged →
      ∃ manifest document, Reads fetch reference manifest document

variable {rename : String → String} {other : String → Result Manifest}

theorem Rearranged.child_iff (hrearranged : Rearranged rename fetch other root)
    (hreached : Reaches fetch root reference) (twin : String) :
    Child other (rename reference) twin ↔
      ∃ child, Child fetch reference child ∧ rename child = twin := by
  constructor
  · rintro ⟨again, copy, hcopy, hmem⟩
    obtain ⟨manifest, document, hreads⟩ := hrearranged.back reference again copy hreached hcopy
    obtain ⟨second, rearranged, hother, -, -, hperm⟩ :=
      hrearranged.reads reference manifest document hreached hreads
    obtain ⟨rfl, rfl⟩ := hcopy.unique hother
    obtain ⟨child, hchild, htwin⟩ := List.mem_map.mp (hperm.mem_iff.mp hmem)
    exact ⟨child, ⟨manifest, document, hreads, hchild⟩, htwin⟩
  · rintro ⟨child, ⟨manifest, document, hreads, hmem⟩, rfl⟩
    obtain ⟨second, rearranged, hother, -, -, hperm⟩ :=
      hrearranged.reads reference manifest document hreached hreads
    exact ⟨second, rearranged, hother, hperm.mem_iff.mpr (List.mem_map_of_mem hmem)⟩

theorem Rearranged.reaches_iff (hrearranged : Rearranged rename fetch other root)
    (twin : String) :
    Reaches other (rename root) twin ↔
      ∃ reference, Reaches fetch root reference ∧ rename reference = twin := by
  constructor
  · intro hreached
    induction hreached with
    | refl => exact ⟨root, Relation.ReflTransGen.refl, rfl⟩
    | tail hparent hnamed ih =>
        obtain ⟨reference, hreached, rfl⟩ := ih
        obtain ⟨child, hchild, htwin⟩ := (hrearranged.child_iff hreached _).mp hnamed
        exact ⟨child, hreached.tail hchild, htwin⟩
  · rintro ⟨reference, hreached, rfl⟩
    induction hreached with
    | refl => exact Relation.ReflTransGen.refl
    | @tail parent child hparent hchild ih =>
        exact ih.tail ((hrearranged.child_iff hparent _).mpr ⟨child, hchild, rfl⟩)

theorem Rearranged.blob_iff (hrearranged : Rearranged rename fetch other root)
    (digest : String) : Blob other (rename root) digest ↔ Blob fetch root digest := by
  constructor
  · rintro ⟨twin, again, copy, htwin, hcopy, himage, hmem⟩
    obtain ⟨reference, hreached, rfl⟩ := (hrearranged.reaches_iff twin).mp htwin
    obtain ⟨manifest, document, hreads⟩ := hrearranged.back reference again copy hreached hcopy
    obtain ⟨second, rearranged, hother, hindex, hblobs, -⟩ :=
      hrearranged.reads reference manifest document hreached hreads
    obtain ⟨rfl, rfl⟩ := hcopy.unique hother
    exact ⟨reference, manifest, document, hreached, hreads, hindex ▸ himage, hblobs ▸ hmem⟩
  · rintro ⟨reference, manifest, document, hreached, hreads, himage, hmem⟩
    obtain ⟨second, rearranged, hother, hindex, hblobs, -⟩ :=
      hrearranged.reads reference manifest document hreached hreads
    exact ⟨rename reference, second, rearranged,
      (hrearranged.reaches_iff _).mpr ⟨reference, hreached, rfl⟩, hother, hindex ▸ himage,
      hblobs ▸ hmem⟩

end ManifestWalk

namespace ImageReference

open ManifestWalk

variable {σ : Type} {client : RegistryClient σ} {image : ImageReference}
  {fetch : String → Result Manifest} {state after : σ} {snapshot : Snapshot}

/-- What the client answers about the image does not depend on when it is asked. -/
def Answers (client : RegistryClient σ) (image : ImageReference)
    (fetch : String → Result Manifest) : Prop :=
  ∀ reference state manifest after,
    client.ask ⟨image.registry, image.apiRepository, reference⟩ state = (.ok manifest, after) →
      fetch reference = .ok manifest

/-- The keys of a snapshot are what its walk has recorded in the end. -/
theorem exists_gathered_of_snap (hanswers : Answers client image fetch)
    (hsnap : image.snap client state = (.ok snapshot, after)) :
    ∃ final, Gathered fetch image.reference final ∧ final.next? = none ∧
      ∀ digest, snapshot.contains digest = true ↔ digest ∈ final.recorded := by
  obtain ⟨digests, hrun, hkeys⟩ := exists_run_of_snap hsnap
  have hstep : ∀ walk reference begun state manifest later after,
      Gathered fetch image.reference walk → walk.next? = some (reference, begun) →
      client.ask ⟨image.registry, image.apiRepository, reference⟩ state = (.ok manifest, later) →
      begun.absorb manifest = .ok after → Gathered fetch image.reference after := by
    intro walk reference begun state manifest later after hgathered hnext hasked habsorb
    have hserved := hanswers reference state manifest later hasked
    exact hgathered.further (further_of_absorb hnext hserved habsorb)
  obtain ⟨final, hgathered, hnext, rfl⟩ :=
    exists_final_of_run (fun walk _ => Gathered fetch image.reference walk) hstep
      (gathered_start fetch image.reference) hrun
  refine ⟨final, hgathered, hnext, fun digest => ?_⟩
  simp only [SortedMap.contains_iff, hkeys, exists_and_left, exists_eq, and_true,
    List.mem_reverse]

/-- Where no index names a blob of an image, every blob that can be reached is a key. -/
theorem contains_of_blob (hanswers : Answers client image fetch)
    (hcontent : AddressedByDigest fetch) (hapart : ChildrenApart fetch image.reference)
    (hsnap : image.snap client state = (.ok snapshot, after)) {digest : String}
    (hblob : Blob fetch image.reference digest) : snapshot.contains digest = true := by
  obtain ⟨final, hgathered, hnext, hkeys⟩ := exists_gathered_of_snap hanswers hsnap
  obtain ⟨reference, hreached, hnames⟩ := hblob.exists_names
  exact (hkeys digest).mpr
    (hgathered.recorded_of_names hcontent hnext (hapart.reachesApart hreached) hnames)

/-- A snapshot holds what is named where no manifest on the way there is a blob of an image,
and nothing that is not named at all.  Where no index names such a manifest, the order of
the manifests in the indexes does not change which blobs are found. -/
theorem snap_complete_of_apart (hanswers : Answers client image fetch)
    (hcontent : AddressedByDigest fetch)
    (hsnap : image.snap client state = (.ok snapshot, after)) :
    (∀ reference digest, ReachesApart fetch image.reference reference →
      Names fetch reference digest → snapshot.contains digest = true) ∧
    (∀ reference child, ReachesApart fetch image.reference reference →
      Child fetch reference child → snapshot.contains child = true) ∧
    (∀ digest, snapshot.contains digest = true →
      ∃ reference, Reaches fetch image.reference reference ∧ Names fetch reference digest) ∧
    ∀ {τ : Type} (copying : RegistryClient τ) (copy : ImageReference)
      (other : String → Result Manifest) (rename : String → String) (begun ended : τ)
      (found : Snapshot), Answers copying copy other → AddressedByDigest other →
      rename image.reference = copy.reference →
      Rearranged rename fetch other image.reference →
      ChildrenApart fetch image.reference → ChildrenApart other copy.reference →
      copy.snap copying begun = (.ok found, ended) →
      ∀ digest, Blob fetch image.reference digest ∧ snapshot.contains digest = true ↔
        Blob other copy.reference digest ∧ found.contains digest = true := by
  obtain ⟨final, hgathered, hnext, hkeys⟩ := exists_gathered_of_snap hanswers hsnap
  refine ⟨?reached, ?children, ?named, ?rearranged⟩
  case reached =>
    intro reference digest hreached hnames
    exact (hkeys digest).mpr (hgathered.recorded_of_names hcontent hnext hreached hnames)
  case children =>
    intro reference child hreached hchild
    exact (hkeys child).mpr (hgathered.recorded_of_child_apart hcontent hnext hreached hchild)
  case named =>
    intro digest hkey
    exact hgathered.named digest ((hkeys digest).mp hkey)
  case rearranged =>
    intro τ copying copy other rename begun ended found hcopying hother hroot hrearranged hapart
      hotherApart hfound digest
    have hblobs : Blob other copy.reference digest ↔ Blob fetch image.reference digest := by
      rw [← hroot]
      exact hrearranged.blob_iff digest
    constructor
    · rintro ⟨hblob, -⟩
      exact ⟨hblobs.mpr hblob,
        contains_of_blob hcopying hother hotherApart hfound (hblobs.mpr hblob)⟩
    · rintro ⟨hblob, -⟩
      exact ⟨hblobs.mp hblob, contains_of_blob hanswers hcontent hapart hsnap (hblobs.mp hblob)⟩

/-! An index of two images, in either order, of which one may name the other as its layer. -/

def platforms (swapped : Bool) : Manifest where
  digest := if swapped then "sha256:swapped" else "sha256:index"
  mediaType := Manifest.indexType
  body := (if swapped then
      "\x7b\"manifests\":[\x7b\"digest\":\"sha256:image\"\x7d," ++
        "\x7b\"digest\":\"sha256:stacked\"\x7d]\x7d"
    else
      "\x7b\"manifests\":[\x7b\"digest\":\"sha256:stacked\"\x7d," ++
        "\x7b\"digest\":\"sha256:image\"\x7d]\x7d").toUTF8

def stacked (nested : Bool) : Manifest where
  digest := "sha256:stacked"
  mediaType := Manifest.imageType
  body := (if nested then
      "\x7b\"config\":\x7b\"digest\":\"sha256:setup\"\x7d," ++
        "\"layers\":[\x7b\"digest\":\"sha256:image\"\x7d]\x7d"
    else "\x7b\"config\":\x7b\"digest\":\"sha256:setup\"\x7d\x7d").toUTF8

def catalogue (swapped nested : Bool) (reference : String) : Result Manifest :=
  if reference = "latest" ∨ reference = (platforms swapped).digest then .ok (platforms swapped)
  else if reference = "sha256:stacked" then .ok (stacked nested)
  else if reference = "sha256:image" then .ok layered
  else .error (.of (.reported "not found"))

def publisher (swapped nested : Bool) : RegistryClient (Service.Session ManifestRequest) :=
  Service.client fun request => catalogue swapped nested request.reference

variable {swapped nested : Bool}

theorem answers_publisher : Answers (publisher swapped nested) app (catalogue swapped nested) := by
  rintro reference ⟨patience, asked⟩ manifest after hasked
  cases patience with
  | zero => cases hasked
  | succ left => exact congrArg Prod.fst hasked

theorem document_platforms : (platforms swapped).document = .ok ⟨none, none, [],
      if swapped then ["sha256:image", "sha256:stacked"]
      else ["sha256:stacked", "sha256:image"]⟩ := by
  cases swapped <;> exact Result.toOption_eq_some_iff.mp (by decide +kernel)

theorem document_stacked : (stacked nested).document = .ok ⟨none, some "sha256:setup",
    if nested then ["sha256:image"] else [], []⟩ := by
  cases nested <;> exact Result.toOption_eq_some_iff.mp (by decide +kernel)

theorem reads_platforms {reference : String}
    (hindex : reference = "latest" ∨ reference = (platforms swapped).digest) :
    Reads (catalogue swapped nested) reference (platforms swapped) ⟨none, none, [],
      if swapped then ["sha256:image", "sha256:stacked"]
      else ["sha256:stacked", "sha256:image"]⟩ :=
  ⟨if_pos hindex, document_platforms, Or.inl rfl⟩

theorem reads_stacked : Reads (catalogue swapped nested) "sha256:stacked" (stacked nested)
    ⟨none, some "sha256:setup", if nested then ["sha256:image"] else [], []⟩ :=
  ⟨by cases swapped <;> rfl, document_stacked, Or.inr rfl⟩

theorem reads_image : Reads (catalogue swapped nested) "sha256:image" layered
    ⟨none, some "sha256:config", ["sha256:layer"], []⟩ :=
  ⟨by cases swapped <;> rfl, document_layered, Or.inr rfl⟩

theorem catalogue_cases {reference : String} {manifest : Manifest}
    (hserved : catalogue swapped nested reference = .ok manifest) :
    (reference = "latest" ∨ reference = (platforms swapped).digest) ∧
        manifest = platforms swapped ∨
      reference = "sha256:stacked" ∧ manifest = stacked nested ∨
      reference = "sha256:image" ∧ manifest = layered := by
  unfold catalogue at hserved
  split at hserved
  next hindex =>
    cases hserved
    exact Or.inl ⟨hindex, rfl⟩
  next =>
    split at hserved
    next hstacked =>
      cases hserved
      exact Or.inr (Or.inl ⟨hstacked, rfl⟩)
    next =>
      split at hserved
      next himage =>
        cases hserved
        exact Or.inr (Or.inr ⟨himage, rfl⟩)
      next => cases hserved

theorem of_child_catalogue {parent child : String}
    (hchild : Child (catalogue swapped nested) parent child) :
    (parent = "latest" ∨ parent = (platforms swapped).digest) ∧
      (child = "sha256:stacked" ∨ child = "sha256:image") := by
  obtain ⟨manifest, document, hreads, hmem⟩ := hchild
  rcases catalogue_cases hreads.served with ⟨hindex, rfl⟩ | ⟨rfl, rfl⟩ | ⟨rfl, rfl⟩
  · obtain ⟨-, rfl⟩ := hreads.unique (reads_platforms hindex)
    refine ⟨hindex, ?_⟩
    cases swapped
    · simpa using hmem
    · simpa [or_comm] using hmem
  · obtain ⟨-, rfl⟩ := hreads.unique reads_stacked
    cases hmem
  · obtain ⟨-, rfl⟩ := hreads.unique reads_image
    cases hmem

theorem contentAddressed_catalogue : ContentAddressed (catalogue swapped nested) := by
  constructor
  case child =>
    intro parent child manifest hchild hserved
    rcases (of_child_catalogue hchild).2 with rfl | rfl
    · cases reads_stacked.served.symm.trans hserved
      rfl
    · cases reads_image.served.symm.trans hserved
      rfl
  case served =>
    intro reference manifest hserved
    refine ⟨manifest, ?_, rfl, rfl⟩
    rcases catalogue_cases hserved with ⟨-, rfl⟩ | ⟨-, rfl⟩ | ⟨-, rfl⟩
    · exact (reads_platforms (Or.inr rfl)).served
    · exact reads_stacked.served
    · exact reads_image.served

theorem child_catalogue (swapped nested : Bool) {child : String}
    (hnamed : child = "sha256:stacked" ∨ child = "sha256:image") :
    Child (catalogue swapped nested) "latest" child := by
  refine ⟨_, _, reads_platforms (Or.inl rfl), ?_⟩
  rcases hnamed with rfl | rfl <;> cases swapped <;> simp

theorem of_reaches_catalogue {reference : String}
    (hreached : Reaches (catalogue swapped nested) "latest" reference) :
    reference = "latest" ∨ reference = "sha256:stacked" ∨ reference = "sha256:image" := by
  rcases Relation.ReflTransGen.cases_tail hreached with rfl | ⟨parent, -, hchild⟩
  · exact Or.inl rfl
  · exact Or.inr (of_child_catalogue hchild).2

theorem rearranged_catalogue (nested : Bool) :
    Rearranged id (catalogue false nested) (catalogue true nested) "latest" := by
  constructor
  case reads =>
    intro reference manifest document hreached hreads
    rcases of_reaches_catalogue hreached with rfl | rfl | rfl
    · obtain ⟨rfl, rfl⟩ := hreads.unique (reads_platforms (Or.inl rfl))
      exact ⟨_, _, reads_platforms (Or.inl rfl), rfl, rfl, by simpa using List.Perm.swap _ _ []⟩
    · obtain ⟨rfl, rfl⟩ := hreads.unique reads_stacked
      exact ⟨_, _, reads_stacked, rfl, rfl, List.Perm.nil⟩
    · obtain ⟨rfl, rfl⟩ := hreads.unique reads_image
      exact ⟨_, _, reads_image, rfl, rfl, List.Perm.nil⟩
  case back =>
    intro reference second rearranged hreached hreads
    rcases of_reaches_catalogue hreached with rfl | rfl | rfl
    · exact ⟨_, _, reads_platforms (Or.inl rfl)⟩
    · exact ⟨_, _, reads_stacked⟩
    · exact ⟨_, _, reads_image⟩

theorem blob_layer (swapped nested : Bool) :
    Blob (catalogue swapped nested) "latest" "sha256:layer" :=
  ⟨"sha256:image", _, _, Relation.ReflTransGen.single (child_catalogue swapped nested (Or.inr rfl)),
    reads_image, by decide, by decide⟩

theorem childrenApart_catalogue (swapped : Bool) :
    ChildrenApart (catalogue swapped false) "latest" := by
  rintro parent child - hchild ⟨reference, manifest, document, hreached, hreads, himage, hmem⟩
  have hnamed := (of_child_catalogue hchild).2
  rcases of_reaches_catalogue hreached with rfl | rfl | rfl
  · obtain ⟨rfl, rfl⟩ := hreads.unique (reads_platforms (Or.inl rfl))
    cases hmem
  · obtain ⟨rfl, rfl⟩ := hreads.unique reads_stacked
    rcases hnamed with rfl | rfl <;> simp [ManifestDocument.blobs] at hmem
  · obtain ⟨rfl, rfl⟩ := hreads.unique reads_image
    rcases hnamed with rfl | rfl <;> simp [ManifestDocument.blobs] at hmem

/-- The keys that a publisher's image is described by, if a snapshot of it is taken. -/
def keys (swapped nested : Bool) : Option (List String) :=
  (app.snap (publisher swapped nested) ⟨3, []⟩).1.toOption.map fun snapshot =>
    snapshot.entries.map Prod.fst

/-- The layer of an image that another image names as its own layer is missed, unless the
index names the image before the other. -/
theorem layer_missed_where_image_is_layer :
    ContentAddressed (catalogue false true) ∧ ContentAddressed (catalogue true true) ∧
      Rearranged id (catalogue false true) (catalogue true true) "latest" ∧
      Blob (catalogue false true) "latest" "sha256:layer" ∧
      keys false true =
        some ["sha256:image", "sha256:index", "sha256:setup", "sha256:stacked"] ∧
      keys true true = some ["sha256:config", "sha256:image", "sha256:layer", "sha256:setup",
        "sha256:stacked", "sha256:swapped"] :=
  ⟨contentAddressed_catalogue, contentAddressed_catalogue, rearranged_catalogue true,
    blob_layer false true, by decide +kernel, by decide +kernel⟩

theorem exists_snap (swapped : Bool) :
    ∃ snapshot after, app.snap (publisher swapped false) ⟨3, []⟩ = (.ok snapshot, after) := by
  have hsome : (keys swapped false).isSome = true := by cases swapped <;> decide +kernel
  obtain ⟨entries, hkeys⟩ := Option.isSome_iff_exists.mp hsome
  obtain ⟨snapshot, hsnapshot, -⟩ := Option.map_eq_some_iff.mp hkeys
  exact ⟨snapshot, _, Prod.ext (Result.toOption_eq_some_iff.mp hsnapshot) rfl⟩

theorem snap_complete_of_apart_platforms :
    ∃ snapshot after found ended,
      app.snap (publisher false false) ⟨3, []⟩ = (.ok snapshot, after) ∧
      app.snap (publisher true false) ⟨3, []⟩ = (.ok found, ended) ∧
      snapshot.contains "sha256:setup" = true ∧ found.contains "sha256:layer" = true := by
  obtain ⟨snapshot, after, hsnap⟩ := exists_snap false
  obtain ⟨found, ended, hfound⟩ := exists_snap true
  obtain ⟨hnamed, -, -, hrearranged⟩ := snap_complete_of_apart answers_publisher
    contentAddressed_catalogue.addressedByDigest hsnap
  have hstacked : ReachesApart (catalogue false false) app.reference "sha256:stacked" :=
    (childrenApart_catalogue false).reachesApart
      (Relation.ReflTransGen.single (child_catalogue false false (Or.inl rfl)))
  have himage : ReachesApart (catalogue false false) app.reference "sha256:image" :=
    (childrenApart_catalogue false).reachesApart
      (Relation.ReflTransGen.single (child_catalogue false false (Or.inr rfl)))
  have hlayer := hnamed "sha256:image" "sha256:layer" himage ⟨_, _, reads_image, by decide⟩
  have hblobs := hrearranged (publisher true false) app (catalogue true false) id _ _ found
    answers_publisher contentAddressed_catalogue.addressedByDigest rfl
    (rearranged_catalogue false) (childrenApart_catalogue false) (childrenApart_catalogue true)
    hfound "sha256:layer"
  exact ⟨snapshot, after, found, ended, hsnap, hfound,
    hnamed "sha256:stacked" "sha256:setup" hstacked ⟨_, _, reads_stacked, by decide⟩,
    (hblobs.mp ⟨blob_layer false false, hlayer⟩).2⟩

end ImageReference

end BuildProvenance
