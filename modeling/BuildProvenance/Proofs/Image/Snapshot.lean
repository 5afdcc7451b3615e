import BuildProvenance.Proofs.Image.Walk
import BuildProvenance.Proofs.SortedMap
import Mathlib.Data.List.Nodup
import Mathlib.Logic.Relation
import Mathlib.Tactic

/-!
# The descriptors of an image

The manifests of a registry form a graph: an index leads to the manifests that
it names.  From a registry whose digests name what they are served for, the
walk asks once for each manifest that can be reached from the reference of an
image.  It succeeds when all of these can be used, and then records their
digests and those of the configurations and layers that they name.
-/

namespace BuildProvenance

/-- Serves finitely many manifests. -/
structure Registry where
  serve : Service ManifestRequest Manifest
  held : List ManifestRequest
  mem_held : ∀ request manifest, serve request = .ok manifest → request ∈ held

namespace Registry

/-- What is served for a reference to an image. -/
def fetch (registry : Registry) (image : ImageReference) (reference : String) : Result Manifest :=
  registry.serve ⟨image.registry, image.apiRepository, reference⟩

/-- The manifests that were served. -/
def served (registry : Registry) (asked : List ManifestRequest) : List Manifest :=
  asked.filterMap fun request => (registry.serve request).toOption

end Registry

namespace ManifestWalk

section Graph

variable (fetch : String → Result Manifest)

/-- A manifest is served for the reference, and its document can be used. -/
structure Reads (reference : String) (manifest : Manifest) (document : ManifestDocument) :
    Prop where
  served : fetch reference = .ok manifest
  usable : Usable manifest document

/-- The manifest of the parent is an index that names the child. -/
def Child (parent child : String) : Prop :=
  ∃ manifest document, Reads fetch parent manifest document ∧ child ∈ document.manifests

def Reaches (root reference : String) : Prop := Relation.ReflTransGen (Child fetch) root reference

/-- The digest belongs to the manifest of the reference, or the manifest is that
of an image that names it. -/
def Names (reference digest : String) : Prop :=
  ∃ manifest document, Reads fetch reference manifest document ∧ digest ∈ manifest.named document

def Serves (reference digest : String) : Prop :=
  ∃ manifest, fetch reference = .ok manifest ∧ manifest.digest = digest

/-- Digests name what is served for them. -/
structure ContentAddressed : Prop where
  /-- The manifest served for a named digest has this digest. -/
  child : ∀ parent child manifest, Child fetch parent child → fetch child = .ok manifest →
    manifest.digest = child
  /-- What is served under a name is also served under its digest. -/
  served : ∀ reference manifest, fetch reference = .ok manifest →
    ∃ again, fetch manifest.digest = .ok again ∧ again.digest = manifest.digest ∧
      again.body = manifest.body

/-- No configuration and no layer of an image has the digest of a manifest. -/
def BlobsApart : Prop :=
  ∀ reference manifest document digest, Reads fetch reference manifest document →
    document.isIndex manifest.mediaType = false → digest ∈ document.blobs →
      ∀ other, ¬Serves fetch other digest ∧ ¬Child fetch other digest

end Graph

variable {fetch : String → Result Manifest} {root reference : String} {manifest : Manifest}
  {document : ManifestDocument} {walk begun after : ManifestWalk}

theorem Reads.unique {other : Manifest} {otherDocument : ManifestDocument}
    (hreads : Reads fetch reference manifest document)
    (hother : Reads fetch reference other otherDocument) :
    manifest = other ∧ document = otherDocument := by
  have hmanifest : manifest = other := Except.ok.inj (hreads.served.symm.trans hother.served)
  subst hmanifest
  exact ⟨rfl, Except.ok.inj (hreads.usable.1.symm.trans hother.usable.1)⟩

theorem names_iff (hreads : Reads fetch reference manifest document) (digest : String) :
    Names fetch reference digest ↔ digest ∈ manifest.named document := by
  constructor
  · rintro ⟨other, otherDocument, hother, hmem⟩
    obtain ⟨rfl, rfl⟩ := hreads.unique hother
    exact hmem
  · intro hmem
    exact ⟨manifest, document, hreads, hmem⟩

theorem child_iff (hreads : Reads fetch reference manifest document) (child : String) :
    Child fetch reference child ↔ child ∈ document.manifests := by
  constructor
  · rintro ⟨other, otherDocument, hother, hmem⟩
    obtain ⟨rfl, rfl⟩ := hreads.unique hother
    exact hmem
  · intro hmem
    exact ⟨manifest, document, hreads, hmem⟩

/-- Whatever is reached but the root is named by an index. -/
theorem exists_parent (hreached : Reaches fetch root reference) (hne : reference ≠ root) :
    ∃ parent, Child fetch parent reference := by
  rcases Relation.ReflTransGen.cases_tail hreached with rfl | ⟨parent, -, hchild⟩
  · exact absurd rfl hne
  · exact ⟨parent, hchild⟩

theorem digest_of_reached
    (hchild : ∀ parent child manifest, Child fetch parent child → fetch child = .ok manifest →
      manifest.digest = child)
    (hreached : Reaches fetch root reference) (hne : reference ≠ root)
    (hserved : fetch reference = .ok manifest) : manifest.digest = reference := by
  obtain ⟨parent, hnamed⟩ := exists_parent hreached hne
  exact hchild parent reference manifest hnamed hserved

/-! ## How far a walk has come -/

/-- What was asked for was reached and could be used; what it names is recorded,
and the manifests among that are asked for or queued, but for the one that was
served for the root under another name. -/
structure Explored (fetch : String → Result Manifest) (root : String) (walk : ManifestWalk) :
    Prop where
  started : walk.visited = [] ∧ walk.queue = [root] ∨ root ∈ walk.visited
  nodup : walk.visited.Nodup
  reached : ∀ reference, reference ∈ walk.queue ∨ reference ∈ walk.visited →
    Reaches fetch root reference
  apart : ∀ reference, reference ∈ walk.queue ∨ reference ∈ walk.visited → reference ≠ root →
    ¬Serves fetch root reference
  readable : ∀ reference ∈ walk.visited,
    ∃ manifest document, Reads fetch reference manifest document
  recorded_iff : ∀ digest, digest ∈ walk.recorded ↔
    ∃ reference ∈ walk.visited, Names fetch reference digest
  children : ∀ parent ∈ walk.visited, ∀ child, Child fetch parent child →
    child ∈ walk.queue ∨ child ∈ walk.visited ∨ Serves fetch root child

theorem explored_start (fetch : String → Result Manifest) (root : String) :
    Explored fetch root (start root) := by
  constructor
  case started =>
    exact Or.inl ⟨rfl, rfl⟩
  case nodup =>
    exact List.nodup_nil
  case reached =>
    intro reference hmem
    have heq : reference = root := by simpa [start] using hmem
    rw [heq]
    exact Relation.ReflTransGen.refl
  case apart =>
    intro reference hmem hne
    exact absurd (by simpa [start] using hmem) hne
  case readable =>
    intro reference hmem
    cases hmem
  case recorded_iff =>
    intro digest
    simp [start]
  case children =>
    intro parent hmem
    cases hmem

theorem Explored.eq_of_digest (hexplored : Explored fetch root walk)
    (hcontent : ContentAddressed fetch) {other : String} {found : Manifest}
    (hreference : reference ∈ walk.queue ∨ reference ∈ walk.visited)
    (hother : other ∈ walk.queue ∨ other ∈ walk.visited)
    (hserved : fetch reference = .ok manifest) (hfound : fetch other = .ok found)
    (hdigest : manifest.digest = found.digest) : reference = other := by
  have hown : ∀ name made, name ∈ walk.queue ∨ name ∈ walk.visited → name ≠ root →
      fetch name = .ok made → made.digest = name := by
    intro name made hname hne hmade
    exact digest_of_reached hcontent.child (hexplored.reached name hname) hne hmade
  by_cases hfirst : reference = root
  · by_cases hlast : other = root
    · rw [hfirst, hlast]
    · have hself := hown other found hother hlast hfound
      subst hfirst
      exact absurd ⟨manifest, hserved, hdigest.trans hself⟩ (hexplored.apart other hother hlast)
  · have hself := hown reference manifest hreference hfirst hserved
    by_cases hlast : other = root
    · subst hlast
      exact absurd ⟨found, hfound, hdigest.symm.trans hself⟩
        (hexplored.apart reference hreference hfirst)
    · rw [← hself, hdigest, hown other found hother hlast hfound]

theorem mem_queue_of_next (hnext : walk.next? = some (reference, begun)) :
    reference ∈ walk.queue := by
  obtain ⟨-, skipped, rest, hqueue, -, -⟩ := next?_eq_some hnext
  rw [hqueue]
  simp

/-- A manifest that is served for the next reference was not served before. -/
theorem Explored.not_served (hexplored : Explored fetch root walk)
    (hcontent : ContentAddressed fetch) (hnext : walk.next? = some (reference, begun))
    (hserved : fetch reference = .ok manifest) :
    ∀ visited ∈ walk.visited, ¬Serves fetch visited manifest.digest := by
  rintro visited hvisited ⟨earlier, hearlier, hdigest⟩
  have heq : reference = visited := hexplored.eq_of_digest hcontent
    (Or.inl (mem_queue_of_next hnext)) (Or.inr hvisited) hserved hearlier hdigest.symm
  exact (next?_eq_some hnext).1 (heq ▸ hvisited)

theorem Explored.not_recorded (hexplored : Explored fetch root walk)
    (hcontent : ContentAddressed fetch) (hapart : BlobsApart fetch)
    (hnext : walk.next? = some (reference, begun)) (hserved : fetch reference = .ok manifest) :
    manifest.digest ∉ walk.recorded := by
  intro hmem
  obtain ⟨visited, hvisited, earlier, found, hreads, hnamed⟩ :=
    (hexplored.recorded_iff manifest.digest).mp hmem
  rcases Manifest.mem_named_iff.mp hnamed with hdigest | ⟨himage, hblob⟩
  · exact hexplored.not_served hcontent hnext hserved visited hvisited
      ⟨earlier, hreads.served, hdigest.symm⟩
  · exact (hapart visited earlier found manifest.digest hreads himage hblob reference).1
      ⟨manifest, hserved, rfl⟩

/-- A child whose digest is recorded is asked for already, or was served for the root. -/
theorem Explored.recorded_child (hexplored : Explored fetch root walk)
    (hcontent : ContentAddressed fetch) (hapart : BlobsApart fetch) {parent child : String}
    (hchild : Child fetch parent child) (hrecorded : child ∈ walk.recorded) :
    child ∈ walk.visited ∨ Serves fetch root child := by
  obtain ⟨visited, hvisited, earlier, found, hreads, hnamed⟩ :=
    (hexplored.recorded_iff child).mp hrecorded
  rcases Manifest.mem_named_iff.mp hnamed with hdigest | ⟨himage, hblob⟩
  · by_cases hroot : visited = root
    · subst hroot
      exact Or.inr ⟨earlier, hreads.served, hdigest.symm⟩
    · have hown : earlier.digest = visited := digest_of_reached hcontent.child
        (hexplored.reached visited (Or.inr hvisited)) hroot hreads.served
      left
      rw [hdigest, hown]
      exact hvisited
  · exact absurd hchild (hapart visited earlier found child hreads himage hblob parent).2

theorem Explored.recorded_root (hexplored : Explored fetch root walk) (hroot : root ∈ walk.visited)
    {digest : String} (hserves : Serves fetch root digest) : digest ∈ walk.recorded := by
  obtain ⟨first, hfirst, rfl⟩ := hserves
  obtain ⟨other, found, hother⟩ := hexplored.readable root hroot
  have heq : other = first := Except.ok.inj (hother.served.symm.trans hfirst)
  subst heq
  exact (hexplored.recorded_iff other.digest).mpr
    ⟨root, hroot, other, found, hother, Manifest.mem_named_iff.mpr (Or.inl rfl)⟩

/-- The same for a child of the next reference, once its manifest is recorded, too. -/
theorem Explored.recorded_child_of_next (hexplored : Explored fetch root walk)
    (hcontent : ContentAddressed fetch) (hapart : BlobsApart fetch)
    (hnext : walk.next? = some (reference, begun)) (hserved : fetch reference = .ok manifest)
    {child : String} (hchild : Child fetch reference child)
    (hrecorded : child ∈ manifest.digest :: walk.recorded) :
    child ∈ reference :: walk.visited ∨ Serves fetch root child := by
  rcases List.mem_cons.mp hrecorded with rfl | hrecorded
  · by_cases hfirst : reference = root
    · subst hfirst
      exact Or.inr ⟨manifest, hserved, rfl⟩
    · have hown := digest_of_reached hcontent.child
        (hexplored.reached reference (Or.inl (mem_queue_of_next hnext))) hfirst hserved
      left
      rw [hown]
      exact List.mem_cons_self
  · exact (hexplored.recorded_child hcontent hapart hchild hrecorded).imp
      (List.mem_cons_of_mem _) id

/-- Absorbing a manifest takes the walk one reference further. -/
theorem Explored.absorb (hexplored : Explored fetch root walk) (hcontent : ContentAddressed fetch)
    (hapart : BlobsApart fetch) (hnext : walk.next? = some (reference, begun))
    (hserved : fetch reference = .ok manifest) (habsorb : begun.absorb manifest = .ok after) :
    Explored fetch root after ∧ after.visited = reference :: walk.visited := by
  have hnew := hexplored.not_recorded hcontent hapart hnext hserved
  obtain ⟨hunseen, skipped, rest, hqueue, hskipped, hbegun⟩ := next?_eq_some hnext
  have hnewBegun : manifest.digest ∉ begun.recorded := by
    rw [hbegun]
    exact hnew
  obtain ⟨document, husable, hvisited, hafter, hrecorded⟩ := absorb_eq_ok hnewBegun habsorb
  simp only [hbegun] at hvisited hafter hrecorded
  have hreads : Reads fetch reference manifest document := ⟨hserved, husable⟩
  have hqueued := mem_queue_of_next hnext
  have hrest : ∀ other ∈ rest, other ∈ walk.queue := by
    intro other hother
    rw [hqueue]
    simp [hother]
  have hroot : root ∈ reference :: walk.visited := by
    rcases hexplored.started with ⟨-, hstart⟩ | hmem
    · have heq : reference = root := by simpa [hstart] using hqueued
      rw [heq]
      exact List.mem_cons_self
    · exact List.mem_cons_of_mem _ hmem
  -- the digest of the root is recorded, if not before then with this manifest
  have hrootDigest : ∀ digest, Serves fetch root digest →
      digest ∈ manifest.digest :: walk.recorded := by
    intro digest hserves
    rcases List.mem_cons.mp hroot with heq | hmem
    · subst heq
      obtain ⟨first, hfirst, rfl⟩ := hserves
      rw [Except.ok.inj (hfirst.symm.trans hserved)]
      exact List.mem_cons_self
    · exact List.mem_cons_of_mem _ (hexplored.recorded_root hmem hserves)
  refine ⟨?_, hvisited⟩
  constructor
  case started =>
    right
    rw [hvisited]
    exact hroot
  case nodup =>
    rw [hvisited]
    exact List.nodup_cons.mpr ⟨hunseen, hexplored.nodup⟩
  case reached =>
    intro other hother
    rw [hafter, hvisited, List.mem_append, List.mem_cons] at hother
    rcases hother with (hother | hother) | rfl | hother
    · exact hexplored.reached other (Or.inl (hrest other hother))
    · have hchild := (child_iff hreads other).mpr (List.mem_filter.mp hother).1
      exact (hexplored.reached reference (Or.inl hqueued)).tail hchild
    · exact hexplored.reached other (Or.inl hqueued)
    · exact hexplored.reached other (Or.inr hother)
  case apart =>
    intro other hother hne
    rw [hafter, hvisited, List.mem_append, List.mem_cons] at hother
    rcases hother with (hother | hother) | rfl | hother
    · exact hexplored.apart other (Or.inl (hrest other hother)) hne
    · intro hserves
      have hfiltered := (List.mem_filter.mp hother).2
      exact (by simpa using hfiltered : other ∉ manifest.digest :: walk.recorded)
        (hrootDigest other hserves)
    · exact hexplored.apart other (Or.inl hqueued) hne
    · exact hexplored.apart other (Or.inr hother) hne
  case readable =>
    rw [hvisited]
    intro other hother
    rcases List.mem_cons.mp hother with rfl | hother
    · exact ⟨manifest, document, hreads⟩
    · exact hexplored.readable other hother
  case recorded_iff =>
    intro digest
    rw [hrecorded, hvisited, hexplored.recorded_iff, ← names_iff hreads]
    simp only [List.mem_cons, exists_eq_or_imp]
    exact or_comm
  case children =>
    intro parent hparent child hchild
    rw [hafter, hvisited, List.mem_append]
    rw [hvisited] at hparent
    rcases List.mem_cons.mp hparent with rfl | hparent
    · by_cases hknown : child ∈ manifest.digest :: walk.recorded
      · exact Or.inr
          (hexplored.recorded_child_of_next hcontent hapart hnext hserved hchild hknown)
      · have hmem := (child_iff hreads child).mp hchild
        exact Or.inl (Or.inr (List.mem_filter.mpr ⟨hmem, by simpa using hknown⟩))
    · rcases hexplored.children parent hparent child hchild with hwaiting | hseen | hserves
      · rw [hqueue, List.mem_append, List.mem_cons] at hwaiting
        rcases hwaiting with hwaiting | rfl | hwaiting
        · exact Or.inr (Or.inl (List.mem_cons_of_mem _ (hskipped child hwaiting)))
        · exact Or.inr (Or.inl List.mem_cons_self)
        · exact Or.inl (Or.inl hwaiting)
      · exact Or.inr (Or.inl (List.mem_cons_of_mem _ hseen))
      · exact Or.inr (Or.inr hserves)

/-! ## Walks that have come to their end -/

theorem Explored.root_visited (hexplored : Explored fetch root walk) (hnext : walk.next? = none) :
    root ∈ walk.visited := by
  rcases hexplored.started with ⟨-, hqueue⟩ | hmem
  · exact next?_eq_none hnext root (by simp [hqueue])
  · exact hmem

/-- When no reference is left, whatever can be reached was asked for or served for the root. -/
theorem Explored.visited_of_reaches (hexplored : Explored fetch root walk)
    (hcontent : ContentAddressed fetch) (hnext : walk.next? = none)
    (hreached : Reaches fetch root reference) :
    reference ∈ walk.visited ∨ Serves fetch root reference := by
  have hroot := hexplored.root_visited hnext
  have hclosed : ∀ parent ∈ walk.visited, ∀ child, Child fetch parent child →
      child ∈ walk.visited ∨ Serves fetch root child := by
    intro parent hparent child hchild
    rcases hexplored.children parent hparent child hchild with hwaiting | hrest
    · exact Or.inl (next?_eq_none hnext child hwaiting)
    · exact hrest
  induction hreached with
  | refl => exact Or.inl hroot
  | @tail parent child hparent hchild ih =>
      rcases ih with hseen | ⟨first, hfirst, rfl⟩
      · exact hclosed parent hseen child hchild
      · -- the digest of the root's manifest leads to the same document as the root
        obtain ⟨again, hagain, -, hbody⟩ := hcontent.served root first hfirst
        obtain ⟨manifest, document, hreads, hmem⟩ := hchild
        have heq : manifest = again := Except.ok.inj (hreads.served.symm.trans hagain)
        subst heq
        have hdocument : first.document = .ok document :=
          Manifest.document_of_body hbody.symm hreads.usable.1
        have hindex := ManifestDocument.isIndex_of_mem hmem first.mediaType
        exact hclosed root hroot child ⟨first, document, ⟨hfirst, hdocument, Or.inl hindex⟩, hmem⟩

/-- The manifest of the root under its digest, where an index names it, is an index
and adds no other digest. -/
theorem reads_of_serves_root (hcontent : ContentAddressed fetch) {first : Manifest}
    {document : ManifestDocument} (hroot : Reads fetch root first document)
    (hreached : Reaches fetch root first.digest) (hne : first.digest ≠ root) :
    ∃ again, Reads fetch first.digest again document ∧ again.digest = first.digest ∧
      document.isIndex again.mediaType = true := by
  obtain ⟨again, hagain, hdigest, hbody⟩ := hcontent.served root first hroot.served
  rcases Relation.ReflTransGen.cases_head hreached with heq | ⟨child, hchild, -⟩
  · exact absurd heq.symm hne
  · have hindex := ManifestDocument.isIndex_of_mem ((child_iff hroot child).mp hchild)
      again.mediaType
    exact ⟨again, ⟨hagain, Manifest.document_of_body hbody hroot.usable.1, Or.inl hindex⟩,
      hdigest, hindex⟩

theorem Explored.reads_of_reaches (hexplored : Explored fetch root walk)
    (hcontent : ContentAddressed fetch) (hnext : walk.next? = none)
    (hreached : Reaches fetch root reference) :
    ∃ manifest document, Reads fetch reference manifest document ∧
      ∀ digest ∈ manifest.named document, digest ∈ walk.recorded := by
  by_cases hseen : reference ∈ walk.visited
  · obtain ⟨manifest, document, hreads⟩ := hexplored.readable reference hseen
    refine ⟨manifest, document, hreads, fun digest hdigest => ?_⟩
    exact (hexplored.recorded_iff digest).mpr
      ⟨reference, hseen, (names_iff hreads digest).mpr hdigest⟩
  · have hserves := (hexplored.visited_of_reaches hcontent hnext hreached).resolve_left hseen
    obtain ⟨first, hfirst, rfl⟩ := hserves
    have hroot := hexplored.root_visited hnext
    obtain ⟨found, document, hreads⟩ := hexplored.readable root hroot
    have heq : found = first := Except.ok.inj (hreads.served.symm.trans hfirst)
    subst heq
    have hne : found.digest ≠ root := by
      intro heq
      exact hseen (heq ▸ hroot)
    obtain ⟨again, hagain, hdigest, hindex⟩ := reads_of_serves_root hcontent hreads hreached hne
    refine ⟨again, document, hagain, fun digest hmem => ?_⟩
    rcases Manifest.mem_named_iff.mp hmem with rfl | ⟨himage, -⟩
    · rw [hdigest]
      exact (hexplored.recorded_iff found.digest).mpr
        ⟨root, hroot, found, document, hreads, Manifest.mem_named_iff.mpr (Or.inl rfl)⟩
    · rw [hindex] at himage
      cases himage

/-- What is recorded at the end is what the reached manifests name. -/
theorem Explored.mem_recorded_iff (hexplored : Explored fetch root walk)
    (hcontent : ContentAddressed fetch) (hnext : walk.next? = none) (digest : String) :
    digest ∈ walk.recorded ↔
      ∃ reference, Reaches fetch root reference ∧ Names fetch reference digest := by
  constructor
  · intro hmem
    obtain ⟨reference, hvisited, hnames⟩ := (hexplored.recorded_iff digest).mp hmem
    exact ⟨reference, hexplored.reached reference (Or.inr hvisited), hnames⟩
  · rintro ⟨reference, hreached, hnames⟩
    obtain ⟨manifest, document, hreads, hall⟩ :=
      hexplored.reads_of_reaches hcontent hnext hreached
    exact hall digest ((names_iff hreads digest).mp hnames)

/-! ## Whole runs -/

section Run

variable (registry : Registry) (image : ImageReference)

/-- The requests of a walk, the first one first. -/
def requests (image : ImageReference) (references : List String) : List ManifestRequest :=
  references.reverse.map fun reference => ⟨image.registry, image.apiRepository, reference⟩

theorem requests_cons (reference : String) (references : List String) :
    requests image (reference :: references) =
      requests image references ++ [⟨image.registry, image.apiRepository, reference⟩] := by
  simp [requests]

theorem mem_requests_iff {reference : String} {references : List String} :
    ⟨image.registry, image.apiRepository, reference⟩ ∈ requests image references ↔
      reference ∈ references := by
  simp [requests]

theorem nodup_requests {references : List String} (hnodup : references.Nodup) :
    (requests image references).Nodup := by
  refine (List.nodup_reverse.mpr hnodup).map fun a b heq => ?_
  exact (ManifestRequest.mk.inj heq).2.2

/-- The run takes the walk to its end, or to a reference that cannot be used. -/
def Ends (registry : Registry) (image : ImageReference) (walk final : ManifestWalk) : Prop :=
  final.next? = none ∧
    Action.Yields (walk.run registry.serve.client image.registry image.apiRepository)
      (requests image walk.visited) (.ok final.recorded.reverse) (requests image final.visited)

def Breaks (registry : Registry) (image : ImageReference) (walk final : ManifestWalk) : Prop :=
  ∃ reference begun error, final.next? = some (reference, begun) ∧
    (∀ manifest document, ¬Reads (registry.fetch image) reference manifest document) ∧
      Action.Yields (walk.run registry.serve.client image.registry image.apiRepository)
        (requests image walk.visited) (.error error)
        (requests image (reference :: final.visited))

variable {registry image}

/-- Asking for a manifest that is held leaves fewer that were not asked for. -/
theorem length_unasked_requests_lt (hnext : walk.next? = some (reference, begun))
    (hserved : registry.fetch image reference = .ok manifest) :
    (registry.held.filter (· ∉ requests image (reference :: walk.visited))).length <
      (registry.held.filter (· ∉ requests image walk.visited)).length := by
  have hnew : ⟨image.registry, image.apiRepository, reference⟩ ∉ requests image walk.visited :=
    fun hmem => (next?_eq_some hnext).1 ((mem_requests_iff image).mp hmem)
  have hless := length_unasked_lt (registry.mem_held _ _ hserved) hnew
  simpa [requests_cons, or_comm] using hless

/-- A reference whose manifest cannot be absorbed cannot be read. -/
theorem not_reads_of_absorb {error : Error} (hserved : fetch reference = .ok manifest)
    (habsorb : walk.absorb manifest = .error error) (found : Manifest)
    (document : ManifestDocument) : ¬Reads fetch reference found document := by
  intro hreads
  have heq : found = manifest := Except.ok.inj (hreads.served.symm.trans hserved)
  subst heq
  by_cases hknown : found.digest ∈ walk.recorded
  · cases habsorb.symm.trans (absorb_of_mem hknown)
  · obtain ⟨after, hafter⟩ := exists_absorb hknown hreads.usable
    cases habsorb.symm.trans hafter

/-- A reference that cannot be had or absorbed breaks the run. -/
theorem breaks_of_next (hnext : walk.next? = some (reference, begun))
    (hfails : ∀ manifest, registry.fetch image reference = .ok manifest →
      ∃ error, begun.absorb manifest = .error error) :
    Breaks registry image walk walk := by
  obtain ⟨error, hyields⟩ : ∃ error, Action.Yields
      (walk.run registry.serve.client image.registry image.apiRepository)
      (requests image walk.visited) (.error error)
      (requests image (reference :: walk.visited)) := by
    rw [requests_cons]
    exact exists_yields_error hnext hfails
  refine ⟨reference, begun, error, hnext, ?_, hyields⟩
  intro manifest document hreads
  obtain ⟨cause, habsorb⟩ := hfails manifest hreads.served
  exact not_reads_of_absorb hreads.served habsorb manifest document hreads

/-- A run that goes on with the next manifest comes to the same end. -/
theorem ends_or_breaks_of_absorb (hnext : walk.next? = some (reference, begun))
    (hserved : registry.fetch image reference = .ok manifest)
    (habsorb : begun.absorb manifest = .ok after) {final : ManifestWalk}
    (hend : Ends registry image after final ∨ Breaks registry image after final) :
    Ends registry image walk final ∨ Breaks registry image walk final := by
  have hasked : requests image after.visited = requests image walk.visited ++
      [⟨image.registry, image.apiRepository, reference⟩] := by
    rw [visited_of_next hnext habsorb, requests_cons]
  rcases hend with ⟨hdone, hyields⟩ | ⟨last, start, error, hlast, hfails, hyields⟩
  · rw [hasked] at hyields
    exact Or.inl ⟨hdone, yields_of_absorbed hnext hserved habsorb hyields⟩
  · rw [hasked] at hyields
    exact Or.inr ⟨last, start, error, hlast, hfails,
      yields_of_absorbed hnext hserved habsorb hyields⟩

/-- Every run ends or breaks, with what each step keeps. -/
theorem exists_final_of_step {Holds : ManifestWalk → Prop}
    (hstep : ∀ walk reference begun manifest after, Holds walk →
      walk.next? = some (reference, begun) → registry.fetch image reference = .ok manifest →
      begun.absorb manifest = .ok after → Holds after)
    (n : ℕ) (walk : ManifestWalk) (hholds : Holds walk)
    (hunasked : (registry.held.filter (· ∉ requests image walk.visited)).length < n) :
    ∃ final, Holds final ∧ (Ends registry image walk final ∨ Breaks registry image walk final) := by
  -- each manifest that is absorbed leaves fewer among those not asked for
  induction n generalizing walk with
  | zero => exact absurd hunasked (Nat.not_lt_zero _)
  | succ n ih =>
      rcases hnext : walk.next? with _ | ⟨reference, begun⟩
      · exact ⟨walk, hholds, Or.inl ⟨hnext, yields_of_done hnext⟩⟩
      · by_cases habsorbed : ∃ manifest after, registry.fetch image reference = .ok manifest ∧
            begun.absorb manifest = .ok after
        · obtain ⟨manifest, after, hserved, habsorb⟩ := habsorbed
          have hless := length_unasked_requests_lt hnext hserved
          rw [← visited_of_next hnext habsorb] at hless
          obtain ⟨final, hfinal, hend⟩ := ih after
            (hstep walk reference begun manifest after hholds hnext hserved habsorb) (by omega)
          exact ⟨final, hfinal, ends_or_breaks_of_absorb hnext hserved habsorb hend⟩
        · refine ⟨walk, hholds, Or.inr (breaks_of_next hnext fun manifest hserved => ?_)⟩
          cases habsorb : begun.absorb manifest with
          | error error => exact ⟨error, rfl⟩
          | ok after => exact absurd ⟨manifest, after, hserved, habsorb⟩ habsorbed

theorem Explored.exists_final (hcontent : ContentAddressed (registry.fetch image))
    (hapart : BlobsApart (registry.fetch image))
    (hexplored : Explored (registry.fetch image) root walk) :
    ∃ final, Explored (registry.fetch image) root final ∧
      (Ends registry image walk final ∨ Breaks registry image walk final) := by
  refine exists_final_of_step ?_ _ _ hexplored (Nat.lt_succ_self _)
  intro walk reference begun manifest after hexplored hnext hserved habsorb
  exact (hexplored.absorb hcontent hapart hnext hserved habsorb).1

theorem Explored.nodup_served (hexplored : Explored (registry.fetch image) root walk)
    (hcontent : ContentAddressed (registry.fetch image)) {references : List String}
    (hmem : ∀ reference ∈ references, reference ∈ walk.queue ∨ reference ∈ walk.visited)
    (hnodup : references.Nodup) :
    ((registry.served (requests image references)).map Manifest.digest).Nodup := by
  have happroached : List.Pairwise (fun a b => ∀ found other,
      registry.fetch image a = .ok found → registry.fetch image b = .ok other →
        found.digest ≠ other.digest) references.reverse := by
    refine (List.nodup_reverse.mpr hnodup).imp_of_mem fun {a b} ha hb hne => ?_
    intro found other hfound hother hdigest
    exact hne (hexplored.eq_of_digest hcontent (hmem a (List.mem_reverse.mp ha))
      (hmem b (List.mem_reverse.mp hb)) hfound hother hdigest)
  unfold Registry.served requests
  rw [List.Nodup, List.pairwise_map, List.pairwise_filterMap, List.pairwise_map]
  refine happroached.imp fun {a b} hdiffer found hfound other hother => ?_
  exact hdiffer found other (Result.toOption_eq_some_iff.mp hfound)
    (Result.toOption_eq_some_iff.mp hother)

end Run

end ManifestWalk

namespace ImageReference

open ManifestWalk

/-- The snapshot of an image is taken when every manifest that can be reached from its
reference can be used.  It lists the digests of these manifests and of what the images
among them are made of.  No manifest is served twice. -/
theorem snap_iff_reachable (registry : Registry) (image : ImageReference)
    (hcontent : ContentAddressed (registry.fetch image))
    (hapart : BlobsApart (registry.fetch image)) :
    ∃ result asked, (image.snap registry.serve.client).Yields [] result asked ∧
      ((∃ snapshot, result = .ok snapshot) ↔
        ∀ reference, Reaches (registry.fetch image) image.reference reference →
          ∃ manifest document, Reads (registry.fetch image) reference manifest document) ∧
      (∀ snapshot, result = .ok snapshot → ∀ key artifact,
        snapshot.get? key = some artifact ↔
          (∃ reference, Reaches (registry.fetch image) image.reference reference ∧
            Names (registry.fetch image) reference key) ∧
          artifact = {
            path := image.repository ++ "/" ++ image.image ++ "@" ++ key
            time := Timestamp.epoch
            checksum := SortedMap.singleton "digest" key }) ∧
      asked.Nodup ∧ ((registry.served asked).map Manifest.digest).Nodup := by
  have hstart := explored_start (registry.fetch image) image.reference
  obtain ⟨final, hfinal, ⟨hdone, hyields⟩ | ⟨last, begun, error, hlast, hfails, hyields⟩⟩ :=
    hstart.exists_final hcontent hapart
  · refine ⟨_, _, hyields.bind_pure _, ?_, ?_, nodup_requests image hfinal.nodup,
      hfinal.nodup_served hcontent (fun _ hmem => Or.inr hmem) hfinal.nodup⟩
    · refine ⟨fun _ reference hreached => ?_, fun _ => ⟨_, rfl⟩⟩
      obtain ⟨manifest, document, hreads, -⟩ := hfinal.reads_of_reaches hcontent hdone hreached
      exact ⟨manifest, document, hreads⟩
    · intro snapshot hsnapshot key artifact
      cases hsnapshot
      rw [SortedMap.get?_ofList_eq_some_iff, ← hfinal.mem_recorded_iff hcontent hdone, List.mem_map]
      · constructor
        · rintro ⟨digest, hmem, heq⟩
          cases heq
          exact ⟨List.mem_reverse.mp hmem, rfl⟩
        · rintro ⟨hmem, rfl⟩
          exact ⟨key, List.mem_reverse.mpr hmem, rfl⟩
      · intro a ha b hb hkey
        obtain ⟨digest, -, rfl⟩ := List.mem_map.mp ha
        obtain ⟨other, -, rfl⟩ := List.mem_map.mp hb
        exact congrArg image.artifact hkey
  · have hqueued := mem_queue_of_next hlast
    have hnodup : (last :: final.visited).Nodup :=
      List.nodup_cons.mpr ⟨(next?_eq_some hlast).1, hfinal.nodup⟩
    refine ⟨_, _, hyields.bind_error _, ?_, ?_, nodup_requests image hnodup,
      hfinal.nodup_served hcontent ?_ hnodup⟩
    · constructor
      · rintro ⟨snapshot, hsnapshot⟩
        cases hsnapshot
      · intro hall
        obtain ⟨manifest, document, hreads⟩ := hall last (hfinal.reached last (Or.inl hqueued))
        exact absurd hreads (hfails manifest document)
    · intro snapshot hsnapshot
      cases hsnapshot
    · intro reference hmem
      rcases List.mem_cons.mp hmem with rfl | hmem
      · exact Or.inl hqueued
      · exact Or.inr hmem

/-! An index that names itself besides an image, under its tag and its digest. -/

def selfNaming : Manifest where
  digest := "sha256:index"
  mediaType := Manifest.indexType
  body := ("\x7b\"manifests\":[\x7b\"digest\":\"sha256:image\"\x7d," ++
    "\x7b\"digest\":\"sha256:index\"\x7d]\x7d").toUTF8

def layered : Manifest where
  digest := "sha256:image"
  mediaType := Manifest.imageType
  body := ("\x7b\"config\":\x7b\"digest\":\"sha256:config\"\x7d," ++
    "\"layers\":[\x7b\"digest\":\"sha256:layer\"\x7d]\x7d").toUTF8

def app : ImageReference := ⟨"registry.example", "registry.example/org", "app", "latest"⟩

def looping : Registry where
  serve request :=
    if request = ⟨"registry.example", "org/app", "latest"⟩ ∨
        request = ⟨"registry.example", "org/app", "sha256:index"⟩ then .ok selfNaming
    else if request = ⟨"registry.example", "org/app", "sha256:image"⟩ then .ok layered
    else .error (.of (.reported "not found"))
  held := [⟨"registry.example", "org/app", "latest"⟩,
    ⟨"registry.example", "org/app", "sha256:index"⟩,
    ⟨"registry.example", "org/app", "sha256:image"⟩]
  mem_held := by
    intro request manifest hserved
    split at hserved
    next hindex => rcases hindex with rfl | rfl <;> simp
    next hother =>
      split at hserved
      next himage => simp [himage]
      next hnone => cases hserved

theorem fetch_looping_iff {reference : String} {manifest : Manifest} :
    looping.fetch app reference = .ok manifest ↔
      (reference = "latest" ∨ reference = "sha256:index") ∧ manifest = selfNaming ∨
        reference = "sha256:image" ∧ manifest = layered := by
  have hrepository : app.apiRepository = "org/app" := rfl
  unfold Registry.fetch looping
  rw [hrepository]
  simp only [app, ManifestRequest.mk.injEq, true_and]
  by_cases hindex : reference = "latest" ∨ reference = "sha256:index"
  · have hne : reference ≠ "sha256:image" := by
      rintro rfl
      simp at hindex
    simp [hindex, hne, eq_comm]
  · by_cases himage : reference = "sha256:image"
    · simp [himage, eq_comm]
    · simp [hindex, himage]

theorem document_selfNaming :
    selfNaming.document = .ok ⟨none, none, [], ["sha256:image", "sha256:index"]⟩ :=
  Result.toOption_eq_some_iff.mp (by decide +kernel)

theorem document_layered :
    layered.document = .ok ⟨none, some "sha256:config", ["sha256:layer"], []⟩ :=
  Result.toOption_eq_some_iff.mp (by decide +kernel)

theorem child_looping_iff {parent child : String} :
    Child (looping.fetch app) parent child ↔
      (parent = "latest" ∨ parent = "sha256:index") ∧
        (child = "sha256:image" ∨ child = "sha256:index") := by
  constructor
  · rintro ⟨manifest, document, ⟨hserved, hdocument, -⟩, hmem⟩
    rcases fetch_looping_iff.mp hserved with ⟨hparent, rfl⟩ | ⟨-, rfl⟩
    · rw [document_selfNaming] at hdocument
      cases hdocument
      exact ⟨hparent, by simpa using hmem⟩
    · rw [document_layered] at hdocument
      cases hdocument
      cases hmem
  · rintro ⟨hparent, hchild⟩
    exact ⟨selfNaming, _, ⟨fetch_looping_iff.mpr (Or.inl ⟨hparent, rfl⟩), document_selfNaming,
      Or.inl (by decide)⟩, by simpa using hchild⟩

theorem contentAddressed_looping : ContentAddressed (looping.fetch app) := by
  constructor
  · intro parent child manifest hchild hserved
    obtain ⟨-, rfl | rfl⟩ := child_looping_iff.mp hchild
    · rcases fetch_looping_iff.mp hserved with ⟨hindex, -⟩ | ⟨-, rfl⟩
      · simp at hindex
      · rfl
    · rcases fetch_looping_iff.mp hserved with ⟨-, rfl⟩ | ⟨himage, -⟩
      · rfl
      · simp at himage
  · intro reference manifest hserved
    refine ⟨manifest, fetch_looping_iff.mpr ?_, rfl, rfl⟩
    rcases fetch_looping_iff.mp hserved with ⟨-, rfl⟩ | ⟨-, rfl⟩
    · exact Or.inl ⟨Or.inr rfl, rfl⟩
    · exact Or.inr ⟨rfl, rfl⟩

theorem blobsApart_looping : BlobsApart (looping.fetch app) := by
  rintro reference manifest document digest ⟨hserved, hdocument, -⟩ himage hblob other
  rcases fetch_looping_iff.mp hserved with ⟨-, rfl⟩ | ⟨-, rfl⟩
  · rw [document_selfNaming] at hdocument
    cases hdocument
    cases hblob
  · rw [document_layered] at hdocument
    cases hdocument
    have hdigest : digest = "sha256:config" ∨ digest = "sha256:layer" := by
      simpa [ManifestDocument.blobs] using hblob
    constructor
    · rintro ⟨found, hfound, hsame⟩
      rcases fetch_looping_iff.mp hfound with ⟨-, rfl⟩ | ⟨-, rfl⟩ <;>
        rcases hdigest with rfl | rfl <;> simp [selfNaming, layered] at hsame
    · intro hchild
      obtain ⟨-, hnamed⟩ := child_looping_iff.mp hchild
      rcases hdigest with rfl | rfl <;> simp at hnamed

theorem snap_iff_reachable_looping :
    ∃ snapshot asked, (app.snap looping.serve.client).Yields [] (.ok snapshot) asked ∧
      asked.Nodup ∧ snapshot.contains "sha256:layer" = true := by
  obtain ⟨result, asked, hyields, hsuccess, hkeys, hasked, -⟩ :=
    snap_iff_reachable looping app contentAddressed_looping blobsApart_looping
  have hindex : Reads (looping.fetch app) "latest" selfNaming
      ⟨none, none, [], ["sha256:image", "sha256:index"]⟩ :=
    ⟨fetch_looping_iff.mpr (by simp), document_selfNaming, Or.inl (by decide)⟩
  have hagain : Reads (looping.fetch app) "sha256:index" selfNaming
      ⟨none, none, [], ["sha256:image", "sha256:index"]⟩ :=
    ⟨fetch_looping_iff.mpr (by simp), document_selfNaming, Or.inl (by decide)⟩
  have himage : Reads (looping.fetch app) "sha256:image" layered
      ⟨none, some "sha256:config", ["sha256:layer"], []⟩ :=
    ⟨fetch_looping_iff.mpr (by simp), document_layered, Or.inr rfl⟩
  have hreads : ∀ reference, Reaches (looping.fetch app) app.reference reference →
      ∃ manifest document, Reads (looping.fetch app) reference manifest document := by
    intro reference hreached
    rcases Relation.ReflTransGen.cases_tail hreached with rfl | ⟨parent, -, hchild⟩
    · exact ⟨_, _, hindex⟩
    · obtain ⟨-, rfl | rfl⟩ := child_looping_iff.mp hchild
      · exact ⟨_, _, himage⟩
      · exact ⟨_, _, hagain⟩
  obtain ⟨snapshot, rfl⟩ := hsuccess.mpr hreads
  have hreached : Reaches (looping.fetch app) app.reference "sha256:image" :=
    Relation.ReflTransGen.single (child_looping_iff.mpr ⟨Or.inl rfl, Or.inl rfl⟩)
  have hlayer := (hkeys snapshot rfl "sha256:layer" _).mpr
    ⟨⟨"sha256:image", hreached, layered, _, himage, by decide⟩, rfl⟩
  refine ⟨snapshot, asked, hyields, hasked, ?_⟩
  rw [SortedMap.contains, hlayer]
  rfl

end ImageReference

end BuildProvenance
