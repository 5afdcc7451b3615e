import BuildProvenance.Proofs.Action
import BuildProvenance.Proofs.Service
import BuildProvenance.Proofs.SortedMap
import BuildProvenance.Store.Image.Basic
import Mathlib.Data.List.TakeWhile
import Mathlib.Tactic

/-!
# One step of a walk over manifests

A walk takes the first reference of its queue that it has not asked for yet.
The manifest served for it either ends the walk with an error, or its digests
are recorded and the manifests that it names are put at the end of the queue,
except those with a recorded digest.
-/

namespace BuildProvenance

namespace ManifestDocument

/-- The digests of what an image is made of besides its manifest. -/
def blobs (document : ManifestDocument) : List String := document.config.toList ++ document.layers

theorem isIndex_of_mem {document : ManifestDocument} {digest : String}
    (hmem : digest ∈ document.manifests) (served : String) : document.isIndex served = true := by
  have hne : document.manifests ≠ [] := List.ne_nil_of_mem hmem
  simp [isIndex, hne]

theorem manifests_eq_nil {document : ManifestDocument} {served : String}
    (himage : document.isIndex served = false) : document.manifests = [] := by
  simp only [isIndex, Bool.or_eq_false_iff] at himage
  simpa using himage.2

end ManifestDocument

namespace Manifest

/-- What a manifest says depends on its body alone. -/
theorem document_of_body {manifest other : Manifest} (hbody : other.body = manifest.body)
    {document : ManifestDocument} (hdocument : manifest.document = .ok document) :
    other.document = .ok document := by
  unfold Manifest.document at hdocument ⊢
  rw [hbody]
  split at hdocument
  next found hfound =>
    cases hdocument
    rfl
  next hnone => cases hdocument

/-- The digests that a manifest adds to a snapshot. -/
def named (manifest : Manifest) (document : ManifestDocument) : List String :=
  manifest.digest :: if document.isIndex manifest.mediaType then [] else document.blobs

theorem mem_named_iff {manifest : Manifest} {document : ManifestDocument} {digest : String} :
    digest ∈ manifest.named document ↔
      digest = manifest.digest ∨
        document.isIndex manifest.mediaType = false ∧ digest ∈ document.blobs := by
  unfold named
  cases document.isIndex manifest.mediaType with
  | true => simp
  | false => simp

end Manifest

namespace ManifestWalk

variable {walk begun after : ManifestWalk} {reference : String} {manifest : Manifest}

/-! ## The next reference -/

theorem next?_eq_none (hnext : walk.next? = none) :
    ∀ reference ∈ walk.queue, reference ∈ walk.visited := by
  unfold next? at hnext
  split at hnext
  next hempty =>
    intro reference hmem
    have hseen := List.dropWhile_eq_nil_iff.mp hempty reference hmem
    simpa using hseen
  next found rest hfound => cases hnext

theorem next?_eq_some (hnext : walk.next? = some (reference, begun)) :
    reference ∉ walk.visited ∧
      ∃ skipped rest, walk.queue = skipped ++ reference :: rest ∧
        (∀ other ∈ skipped, other ∈ walk.visited) ∧
        begun = { walk with queue := rest, visited := reference :: walk.visited } := by
  unfold next? at hnext
  split at hnext
  next hempty => cases hnext
  next found rest hfound =>
    cases hnext
    have hunseen : reference ∉ walk.visited := by
      have hhead := List.head?_dropWhile_not (walk.visited.contains ·) walk.queue
      rw [hfound] at hhead
      simpa using hhead
    refine ⟨hunseen, walk.queue.takeWhile (walk.visited.contains ·), rest, ?_, ?_, rfl⟩
    · rw [← hfound, List.takeWhile_append_dropWhile]
    · intro other hother
      have hseen := List.mem_takeWhile_imp hother
      simpa using hseen

/-! ## What a manifest adds -/

theorem record_eq (walk : ManifestWalk) (digest : String) :
    (walk.record digest).queue = walk.queue ∧ (walk.record digest).visited = walk.visited ∧
      ∀ other, other ∈ (walk.record digest).recorded ↔
        other ∈ walk.recorded ∨ other = digest := by
  unfold record
  by_cases hknown : digest ∈ walk.recorded
  · rw [if_pos (by simpa using hknown)]
    refine ⟨rfl, rfl, fun other => ⟨Or.inl, ?_⟩⟩
    rintro (hmem | rfl)
    · exact hmem
    · exact hknown
  · rw [if_neg (by simpa using hknown)]
    refine ⟨rfl, rfl, fun other => ?_⟩
    rw [List.mem_cons, or_comm]

theorem foldl_record (walk : ManifestWalk) (digests : List String) :
    (digests.foldl record walk).queue = walk.queue ∧
      (digests.foldl record walk).visited = walk.visited ∧
      ∀ other, other ∈ (digests.foldl record walk).recorded ↔
        other ∈ walk.recorded ∨ other ∈ digests := by
  induction digests generalizing walk with
  | nil => simp
  | cons digest rest ih =>
      obtain ⟨hqueue, hvisited, hrecorded⟩ := record_eq walk digest
      obtain ⟨hqueueRest, hvisitedRest, hrecordedRest⟩ := ih (walk.record digest)
      rw [List.foldl_cons]
      refine ⟨hqueueRest.trans hqueue, hvisitedRest.trans hvisited, fun other => ?_⟩
      rw [hrecordedRest, hrecorded, List.mem_cons, or_assoc]

/-- The document names a configuration unless it is an index. -/
def Usable (manifest : Manifest) (document : ManifestDocument) : Prop :=
  manifest.document = .ok document ∧
    (document.isIndex manifest.mediaType = true ∨ document.config.isSome = true)

/-- A manifest with a new digest is absorbed when its document is usable.  The
manifests that it names are queued unless their digest is recorded. -/
theorem absorb_eq_ok (hnew : manifest.digest ∉ walk.recorded)
    (habsorb : walk.absorb manifest = .ok after) :
    ∃ document, Usable manifest document ∧ after.visited = walk.visited ∧
      after.queue = walk.queue ++
        document.manifests.filter (fun digest => digest ∉ manifest.digest :: walk.recorded) ∧
      ∀ digest, digest ∈ after.recorded ↔
        digest ∈ walk.recorded ∨ digest ∈ manifest.named document := by
  have hrecord : walk.record manifest.digest =
      { walk with recorded := manifest.digest :: walk.recorded } :=
    if_neg (by simpa using hnew)
  unfold absorb at habsorb
  rw [if_neg (by simpa using hnew), hrecord] at habsorb
  obtain ⟨document, hdocument, habsorb⟩ := Result.bind_eq_ok_iff.mp habsorb
  refine ⟨document, ?_⟩
  cases hindex : document.isIndex manifest.mediaType with
  | true =>
      rw [if_pos hindex] at habsorb
      cases habsorb
      refine ⟨⟨hdocument, Or.inl hindex⟩, rfl, by simp, fun digest => ?_⟩
      simp only [Manifest.named, hindex, if_true, List.mem_cons, List.not_mem_nil, or_false]
      exact or_comm
  | false =>
      rw [if_neg (by simp [hindex])] at habsorb
      obtain ⟨config, hconfig, habsorb⟩ := Result.bind_eq_ok_iff.mp habsorb
      cases habsorb
      have hheld : document.config = some config := by
        cases hfound : document.config with
        | none =>
            rw [hfound] at hconfig
            cases hconfig
        | some found =>
            rw [hfound] at hconfig
            cases hconfig
            rfl
      have hblobs : document.blobs = config :: document.layers := by
        simp [ManifestDocument.blobs, hheld]
      obtain ⟨hqueue, hvisited, hrecorded⟩ := foldl_record
        { walk with recorded := manifest.digest :: walk.recorded } (config :: document.layers)
      refine ⟨⟨hdocument, Or.inr (by simp [hheld])⟩, hvisited, ?_, fun digest => ?_⟩
      · simpa [ManifestDocument.manifests_eq_nil hindex] using hqueue
      · rw [hrecorded]
        simp only [Manifest.named, hindex, hblobs, Bool.false_eq_true, if_false, List.mem_cons]
        tauto

theorem absorb_of_mem (hknown : manifest.digest ∈ walk.recorded) :
    walk.absorb manifest = .ok walk :=
  if_pos (by simpa using hknown)

theorem exists_absorb (hnew : manifest.digest ∉ walk.recorded) {document : ManifestDocument}
    (husable : Usable manifest document) : ∃ after, walk.absorb manifest = .ok after := by
  obtain ⟨hdocument, hcomplete⟩ := husable
  unfold absorb
  rw [if_neg (by simpa using hnew), hdocument]
  cases hindex : document.isIndex manifest.mediaType with
  | true => exact ⟨_, if_pos hindex⟩
  | false =>
      rw [hindex] at hcomplete
      obtain ⟨config, hconfig⟩ := Option.isSome_iff_exists.mp (hcomplete.resolve_left nofun)
      refine ⟨(config :: document.layers).foldl record (walk.record manifest.digest), ?_⟩
      show (if document.isIndex manifest.mediaType = true then _ else _) = _
      rw [if_neg (by simp [hindex]), hconfig]
      rfl

/-- The digest of a manifest is recorded with those before it. -/
theorem recorded_of_absorb (habsorb : walk.absorb manifest = .ok after) :
    manifest.digest ∈ after.recorded ∧ ∀ digest ∈ walk.recorded, digest ∈ after.recorded := by
  by_cases hknown : manifest.digest ∈ walk.recorded
  · rw [absorb_of_mem hknown] at habsorb
    cases habsorb
    exact ⟨hknown, fun _ hmem => hmem⟩
  · obtain ⟨document, -, -, -, hrecorded⟩ := absorb_eq_ok hknown habsorb
    refine ⟨(hrecorded _).mpr (Or.inr (Manifest.mem_named_iff.mpr (Or.inl rfl))), ?_⟩
    exact fun digest hmem => (hrecorded digest).mpr (Or.inl hmem)

theorem visited_of_absorb (habsorb : walk.absorb manifest = .ok after) :
    after.visited = walk.visited := by
  by_cases hknown : manifest.digest ∈ walk.recorded
  · rw [absorb_of_mem hknown] at habsorb
    cases habsorb
    rfl
  · obtain ⟨document, -, hvisited, -, -⟩ := absorb_eq_ok hknown habsorb
    exact hvisited

theorem visited_of_next (hnext : walk.next? = some (reference, begun))
    (habsorb : begun.absorb manifest = .ok after) : after.visited = reference :: walk.visited := by
  obtain ⟨-, skipped, rest, -, -, rfl⟩ := next?_eq_some hnext
  exact visited_of_absorb habsorb

/-! ## Each digest is recorded once -/

theorem nodup_record (hnodup : walk.recorded.Nodup) (digest : String) :
    (walk.record digest).recorded.Nodup := by
  unfold record
  split
  next hknown => exact hnodup
  next hnew => exact List.nodup_cons.mpr ⟨by simpa using hnew, hnodup⟩

theorem nodup_foldl_record (hnodup : walk.recorded.Nodup) (digests : List String) :
    (digests.foldl record walk).recorded.Nodup := by
  induction digests generalizing walk with
  | nil => exact hnodup
  | cons digest rest ih => exact ih (nodup_record hnodup digest)

theorem nodup_recorded_of_absorb (hnodup : walk.recorded.Nodup)
    (habsorb : walk.absorb manifest = .ok after) : after.recorded.Nodup := by
  have hrecorded := nodup_record hnodup manifest.digest
  unfold absorb at habsorb
  split at habsorb
  next hknown =>
    cases habsorb
    exact hnodup
  next hnew =>
    obtain ⟨document, -, habsorb⟩ := Result.bind_eq_ok_iff.mp habsorb
    split at habsorb
    next hindex =>
      cases habsorb
      exact hrecorded
    next himage =>
      obtain ⟨config, -, habsorb⟩ := Result.bind_eq_ok_iff.mp habsorb
      cases habsorb
      exact nodup_foldl_record hrecorded _

/-! ## Runs -/

section Run

variable {σ : Type} {client : RegistryClient σ} {registry repository : String}

/-- What holds at the start of a run and is kept whenever a manifest is absorbed holds at
its end. -/
theorem exists_final_of_run (Holds : ManifestWalk → σ → Prop)
    (hstep : ∀ walk reference begun state manifest later after, Holds walk state →
      walk.next? = some (reference, begun) →
      client.ask ⟨registry, repository, reference⟩ state = (.ok manifest, later) →
      begun.absorb manifest = .ok after → Holds after later)
    {walk : ManifestWalk} {state after : σ} (hstart : Holds walk state) {digests : List String}
    (hrun : run client registry repository walk state = (.ok digests, after)) :
    ∃ final, Holds final after ∧ final.next? = none ∧ digests = final.recorded.reverse := by
  fun_induction run client registry repository walk state with
  | case1 walk state hnext =>
      cases hrun
      exact ⟨walk, hstart, hnext, rfl⟩
  | case2 walk state reference begun hnext error later hasked => cases hrun
  | case3 walk state reference begun hnext manifest later hasked error habsorb => cases hrun
  | case4 walk state reference begun hnext manifest later hasked absorbed habsorb ih =>
      have hheld := hstep walk reference begun state manifest later absorbed hstart hnext hasked
        habsorb
      exact ih hheld hrun

theorem run_of_done {state : σ} (hnext : walk.next? = none) :
    run client registry repository walk state = (.ok walk.recorded.reverse, state) := by
  rw [run]
  split
  next hnone => rfl
  next found rest hfound =>
    rw [hnext] at hfound
    cases hfound

theorem run_of_absorb {state later : σ} (hnext : walk.next? = some (reference, begun))
    (hasked : client.ask ⟨registry, repository, reference⟩ state = (.ok manifest, later))
    (habsorb : begun.absorb manifest = .ok after) :
    run client registry repository walk state = run client registry repository after later := by
  rw [run]
  split
  next hnone =>
    rw [hnext] at hnone
    cases hnone
  next found rest hfound =>
    rw [hnext] at hfound
    cases hfound
    split
    next error between hfailed =>
      rw [hasked] at hfailed
      cases hfailed
    next served between hserved =>
      rw [hasked] at hserved
      cases hserved
      simp only [habsorb]

/-- A run goes the same way with another client that answers alike. -/
theorem exists_run_of_ask {τ : Type} {other : RegistryClient τ} (Related : σ → τ → Prop)
    (hask : ∀ question state answer later twin, Related state twin →
      client.ask question state = (.ok answer, later) →
        ∃ follow, other.ask question twin = (.ok answer, follow) ∧ Related later follow)
    {state after : σ} {twin : τ} (hrelated : Related state twin) {digests : List String}
    (hrun : run client registry repository walk state = (.ok digests, after)) :
    ∃ follow, run other registry repository walk twin = (.ok digests, follow) ∧
      Related after follow := by
  fun_induction run client registry repository walk state generalizing twin with
  | case1 walk state hnext =>
      cases hrun
      exact ⟨twin, run_of_done hnext, hrelated⟩
  | case2 walk state reference begun hnext error later hasked => cases hrun
  | case3 walk state reference begun hnext manifest later hasked error habsorb => cases hrun
  | case4 walk state reference begun hnext manifest later hasked absorbed habsorb ih =>
      obtain ⟨between, hother, hbetween⟩ := hask _ state manifest later twin hrelated hasked
      obtain ⟨follow, hfollow, hend⟩ := ih hbetween hrun
      exact ⟨follow, (run_of_absorb hnext hother habsorb).trans hfollow, hend⟩

end Run

/-! ## Runs against a service -/

variable {service : Service ManifestRequest Manifest} {registry repository : String}
  {asked later : List ManifestRequest}

theorem yields_of_done (hnext : walk.next? = none) :
    Action.Yields (run service.client registry repository walk) asked
      (.ok walk.recorded.reverse) asked := by
  exact Action.Yields.of_apply fun left => run_of_done hnext

/-- How a run goes on with the answer for a reference. -/
def proceed (service : Service ManifestRequest Manifest) (request : ManifestRequest)
    (begun : ManifestWalk) : Action (Service.Session ManifestRequest) (List String) :=
  match service request with
  | .error error =>
    .fail (error.within
      (.fetchingManifest request.registry request.repository request.reference))
  | .ok manifest =>
    match begun.absorb manifest with
    | .error error => .fail error
    | .ok walk => run service.client request.registry request.repository walk

theorem run_of_next (hnext : walk.next? = some (reference, begun)) (left : ℕ) :
    run service.client registry repository walk ⟨left + 1, asked⟩ =
      proceed service ⟨registry, repository, reference⟩ begun
        ⟨left, asked ++ [⟨registry, repository, reference⟩]⟩ := by
  unfold proceed
  rw [run]
  split
  next hnone =>
    rw [hnext] at hnone
    cases hnone
  next found rest hfound =>
    rw [hnext] at hfound
    cases hfound
    split
    next error between hasked =>
      rw [Service.ask_client, Prod.mk.injEq] at hasked
      rw [hasked.1, ← hasked.2]
      rfl
    next manifest between hasked =>
      rw [Service.ask_client, Prod.mk.injEq] at hasked
      rw [hasked.1, ← hasked.2]
      simp only
      cases begun.absorb manifest with
      | error error => rfl
      | ok walk => rfl

theorem yields_of_absorbed {result : Result (List String)}
    (hnext : walk.next? = some (reference, begun))
    (hserved : service ⟨registry, repository, reference⟩ = .ok manifest)
    (habsorb : begun.absorb manifest = .ok after)
    (hrest : Action.Yields (run service.client registry repository after)
      (asked ++ [⟨registry, repository, reference⟩]) result later) :
    Action.Yields (run service.client registry repository walk) asked result later := by
  have hproceed : proceed service ⟨registry, repository, reference⟩ begun =
      run service.client registry repository after := by
    unfold proceed
    rw [hserved]
    simp only [habsorb]
    rfl
  rw [← hproceed] at hrest
  exact hrest.of_ask fun left => run_of_next hnext left

/-- A reference that cannot be used ends the run. -/
theorem exists_yields_error (hnext : walk.next? = some (reference, begun))
    (hfails : ∀ manifest, service ⟨registry, repository, reference⟩ = .ok manifest →
      ∃ error, begun.absorb manifest = .error error) :
    ∃ error, Action.Yields (run service.client registry repository walk) asked (.error error)
      (asked ++ [⟨registry, repository, reference⟩]) := by
  have hproceed : ∃ error, proceed service ⟨registry, repository, reference⟩ begun =
      .fail error := by
    unfold proceed
    cases hserved : service ⟨registry, repository, reference⟩ with
    | error error => exact ⟨_, rfl⟩
    | ok manifest =>
        obtain ⟨error, habsorb⟩ := hfails manifest hserved
        refine ⟨error, ?_⟩
        simp only [habsorb]
  obtain ⟨error, hproceed⟩ := hproceed
  have hrest : (proceed service ⟨registry, repository, reference⟩ begun).Yields
      (asked ++ [⟨registry, repository, reference⟩]) (.error error)
      (asked ++ [⟨registry, repository, reference⟩]) := by
    rw [hproceed]
    exact Action.Yields.of_apply fun left => rfl
  exact ⟨error, hrest.of_ask fun left => run_of_next hnext left⟩

end ManifestWalk

namespace ImageReference

/-! ## Snapshots -/

theorem get?_ofList_artifact (image : ImageReference) (digests : List String) (digest : String)
    (artifact : Artifact) :
    (SortedMap.ofList (digests.map fun digest => (digest, image.artifact digest))).get?
      digest = some artifact ↔ digest ∈ digests ∧ artifact = image.artifact digest := by
  rw [SortedMap.get?_ofList_eq_some_iff, List.mem_map]
  · constructor
    · rintro ⟨listed, hmem, heq⟩
      cases heq
      exact ⟨hmem, rfl⟩
    · rintro ⟨hmem, rfl⟩
      exact ⟨digest, hmem, rfl⟩
  · intro a ha b hb hkey
    obtain ⟨first, -, rfl⟩ := List.mem_map.mp ha
    obtain ⟨second, -, rfl⟩ := List.mem_map.mp hb
    exact congrArg image.artifact hkey

theorem contains_ofList_artifact (image : ImageReference) (digests : List String)
    (digest : String) :
    (SortedMap.ofList (digests.map fun digest => (digest, image.artifact digest))).contains
      digest = true ↔ digest ∈ digests := by
  simp only [SortedMap.contains_iff, get?_ofList_artifact, exists_and_left, exists_eq, and_true]

theorem keys_ofList_artifact_perm (image : ImageReference) {digests : List String}
    (hnodup : digests.Nodup) :
    (SortedMap.ofList (digests.map fun digest => (digest, image.artifact digest))).keys.Perm
      digests := by
  have hkeys : (digests.map fun digest => (digest, image.artifact digest)).map Prod.fst =
      digests := by
    rw [List.map_map]
    exact List.map_id digests
  have hperm := SortedMap.keys_ofList_perm (hkeys.symm ▸ hnodup)
  rwa [hkeys] at hperm

/-- A snapshot is made of the digests that a run gives. -/
theorem exists_run_of_snap {σ : Type} {client : RegistryClient σ} {image : ImageReference}
    {state after : σ} {snapshot : Snapshot}
    (hsnap : image.snap client state = (.ok snapshot, after)) :
    ∃ digests, (ManifestWalk.start image.reference).run client image.registry
        image.apiRepository state = (.ok digests, after) ∧
      ∀ digest artifact, snapshot.get? digest = some artifact ↔
        digest ∈ digests ∧ artifact = image.artifact digest := by
  obtain ⟨digests, between, hrun, hpure⟩ := Action.bind_eq_ok_iff.mp hsnap
  cases hpure
  exact ⟨digests, hrun, get?_ofList_artifact image digests⟩

/-- An image that is no index takes one request. -/
theorem exists_snap_of_image {σ : Type} {client : RegistryClient σ} {image : ImageReference}
    {state after : σ} {manifest : Manifest} {document : ManifestDocument}
    (hasked : client.ask ⟨image.registry, image.apiRepository, image.reference⟩ state =
      (.ok manifest, after))
    (husable : ManifestWalk.Usable manifest document)
    (himage : document.isIndex manifest.mediaType = false) :
    ∃ snapshot, image.snap client state = (.ok snapshot, after) ∧
      ∀ digest, snapshot.contains digest = true ↔ digest ∈ manifest.named document := by
  have hnext : (ManifestWalk.start image.reference).next? =
      some (image.reference, ⟨[], [image.reference], []⟩) := rfl
  have hnew : manifest.digest ∉ (⟨[], [image.reference], []⟩ : ManifestWalk).recorded :=
    List.not_mem_nil
  obtain ⟨final, habsorb⟩ := ManifestWalk.exists_absorb hnew husable
  obtain ⟨found, hfound, -, hqueue, hrecorded⟩ := ManifestWalk.absorb_eq_ok hnew habsorb
  have hsame : found = document := Except.ok.inj (hfound.1.symm.trans husable.1)
  subst hsame
  have hdone : final.next? = none := by
    unfold ManifestWalk.next?
    rw [hqueue, ManifestDocument.manifests_eq_nil himage]
    rfl
  have hrun : (ManifestWalk.start image.reference).run client image.registry
      image.apiRepository state = (.ok final.recorded.reverse, after) := by
    rw [ManifestWalk.run_of_absorb hnext hasked habsorb, ManifestWalk.run_of_done hdone]
  refine ⟨_, Action.bind_apply_of_ok hrun, fun digest => ?_⟩
  rw [contains_ofList_artifact, List.mem_reverse, hrecorded]
  exact or_iff_right List.not_mem_nil

/-- A snapshot is the same with another client that answers alike. -/
theorem exists_snap_of_ask {σ τ : Type} {client : RegistryClient σ} {other : RegistryClient τ}
    (Related : σ → τ → Prop)
    (hask : ∀ question state answer later twin, Related state twin →
      client.ask question state = (.ok answer, later) →
        ∃ follow, other.ask question twin = (.ok answer, follow) ∧ Related later follow)
    {image : ImageReference} {state after : σ} {twin : τ} (hrelated : Related state twin)
    {snapshot : Snapshot} (hsnap : image.snap client state = (.ok snapshot, after)) :
    ∃ follow, image.snap other twin = (.ok snapshot, follow) ∧ Related after follow := by
  obtain ⟨digests, between, hrun, hpure⟩ := Action.bind_eq_ok_iff.mp hsnap
  obtain ⟨follow, hfollow, hend⟩ := ManifestWalk.exists_run_of_ask Related hask hrelated hrun
  cases hpure
  exact ⟨follow, Action.bind_apply_of_ok hfollow, hend⟩

end ImageReference

end BuildProvenance
