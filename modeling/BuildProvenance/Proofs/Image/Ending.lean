import BuildProvenance.Proofs.Image.Completeness
import Mathlib.Data.List.Perm.Subperm
import Mathlib.Tactic

/-!
# Snapshots of images come to an end

Whatever a registry serves, a walk over its manifests ends: no reference is
asked for again, and what is served for a reference is one of finitely many
manifests.  Indexes may name each other, and manifests may be served with any
digest.  What is recorded is accounted for by the manifests that were served,
and what a manifest names is only left out where its digest was named before.
-/

namespace BuildProvenance

namespace ManifestWalk

variable {fetch : String → Result Manifest} {reference : String} {manifest : Manifest}
  {walk begun after : ManifestWalk}

/-- The digest that is served for the reference was named by one of those before it. -/
def Known (fetch : String → Result Manifest) (earlier : List String) (reference : String) : Prop :=
  ∃ digest, Serves fetch reference digest ∧ ∃ before ∈ earlier, Names fetch before digest

/-- What was asked for was asked for once and served, and what is recorded is recorded once
and comes from there. -/
structure Accounted (fetch : String → Result Manifest) (walk : ManifestWalk) : Prop where
  nodup : walk.visited.Nodup
  once : walk.recorded.Nodup
  served : ∀ reference ∈ walk.visited, ∃ digest ∈ walk.recorded, Serves fetch reference digest
  named : ∀ digest ∈ walk.recorded, ∃ reference ∈ walk.visited, Names fetch reference digest
  complete : ∀ reference earlier, reference :: earlier <:+ walk.visited →
    (∀ digest, Names fetch reference digest → digest ∈ walk.recorded) ∨
      Known fetch earlier reference

theorem accounted_start (fetch : String → Result Manifest) (root : String) :
    Accounted fetch (start root) := by
  constructor
  case nodup => exact List.nodup_nil
  case once => exact List.nodup_nil
  case served =>
    intro reference hmem
    cases hmem
  case named =>
    intro digest hmem
    cases hmem
  case complete =>
    intro reference earlier hsuffix
    cases List.suffix_nil.mp hsuffix

/-- A manifest whose digest is known adds nothing, and any other all that it names. -/
theorem Accounted.further (haccounted : Accounted fetch walk) (hnew : reference ∉ walk.visited)
    (hfurther : Further fetch walk reference after) (honce : after.recorded.Nodup) :
    Accounted fetch after := by
  constructor
  case nodup =>
    rw [hfurther.visited]
    exact List.nodup_cons.mpr ⟨hnew, haccounted.nodup⟩
  case once => exact honce
  case served => exact hfurther.served_visited haccounted.served
  case named =>
    intro digest hmem
    rw [hfurther.visited]
    rcases hfurther.recorded_or_names hmem with hbefore | hnamed
    · obtain ⟨other, hother, hnames⟩ := haccounted.named digest hbefore
      exact ⟨other, List.mem_cons_of_mem _ hother, hnames⟩
    · exact ⟨reference, List.mem_cons_self, hnamed⟩
  case complete =>
    intro other earlier hsuffix
    rw [hfurther.visited, List.suffix_cons_iff] at hsuffix
    rcases hsuffix with heq | hsuffix
    · cases heq
      rcases hfurther.used with ⟨-, hsame⟩ | ⟨⟨manifest, document, hreads, hnamed, -⟩, -⟩
      · obtain ⟨digest, hmem, hserves⟩ := hfurther.served
        exact Or.inr ⟨digest, hserves, haccounted.named digest (hsame ▸ hmem)⟩
      · exact Or.inl fun digest hnames => hnamed digest ((names_iff hreads digest).mp hnames)
    · refine (haccounted.complete other earlier hsuffix).imp ?_ id
      exact fun hnamed digest hnames => hfurther.recorded digest (hnamed digest hnames)

theorem Accounted.absorb (haccounted : Accounted fetch walk)
    (hnext : walk.next? = some (reference, begun)) (hserved : fetch reference = .ok manifest)
    (habsorb : begun.absorb manifest = .ok after) : Accounted fetch after := by
  obtain ⟨hnew, skipped, rest, -, -, hbegun⟩ := next?_eq_some hnext
  have honce : begun.recorded.Nodup := by
    rw [hbegun]
    exact haccounted.once
  exact haccounted.further hnew (further_of_absorb hnext hserved habsorb)
    (nodup_recorded_of_absorb honce habsorb)

/-! ## Whole runs -/

variable {registry : Registry} {image : ImageReference}

theorem Accounted.length_visited_le (haccounted : Accounted (registry.fetch image) walk) :
    walk.visited.length ≤ registry.held.length := by
  have hheld : requests image walk.visited ⊆ registry.held := by
    intro request hmem
    obtain ⟨reference, hreference, rfl⟩ := List.mem_map.mp hmem
    obtain ⟨digest, -, manifest, hserved, -⟩ :=
      haccounted.served reference (List.mem_reverse.mp hreference)
    exact registry.mem_held _ _ hserved
  have hle := ((nodup_requests image haccounted.nodup).subperm hheld).length_le
  simpa [requests] using hle

theorem exists_accounted (registry : Registry) (image : ImageReference) (root : String) :
    ∃ final, Accounted (registry.fetch image) final ∧
      (Ends registry image (start root) final ∨ Breaks registry image (start root) final) := by
  refine exists_final_of_step ?_ _ _ (accounted_start _ root) (Nat.lt_succ_self _)
  intro walk reference begun manifest after haccounted hnext hserved habsorb
  exact haccounted.absorb hnext hserved habsorb

end ManifestWalk

namespace ImageReference

open ManifestWalk

/-- From a finite registry a snapshot of an image is taken or refused after finitely many
requests, no two of them for one reference.  It is refused for the last reference alone.  What
it lists is named by the manifests that were served, each digest once, and lacks nothing that
they name but what comes with a digest that was named before. -/
theorem snap_ends_without_repeats (registry : Registry) (image : ImageReference) :
    ∃ result references,
      (image.snap registry.serve.client).Yields [] result (requests image references) ∧
      references.Nodup ∧ references.length ≤ registry.held.length + 1 ∧
      (∀ error, result = .error error → ∃ last earlier, references = last :: earlier ∧
        ∀ manifest document, ¬Reads (registry.fetch image) last manifest document) ∧
      ∀ snapshot, result = .ok snapshot →
        (∀ key artifact, snapshot.get? key = some artifact →
          (∃ reference ∈ references, Names (registry.fetch image) reference key) ∧
            artifact = {
              path := image.repository ++ "/" ++ image.image ++ "@" ++ key
              time := Timestamp.epoch
              checksum := SortedMap.singleton "digest" key }) ∧
        (∀ reference ∈ references, ∃ digest, Serves (registry.fetch image) reference digest ∧
          snapshot.contains digest = true) ∧
        (∀ reference earlier, reference :: earlier <:+ references →
          (∀ digest, Names (registry.fetch image) reference digest →
            snapshot.contains digest = true) ∨
          Known (registry.fetch image) earlier reference) ∧
        ∃ digests, Action.Yields ((start image.reference).run registry.serve.client image.registry
            image.apiRepository) [] (.ok digests) (requests image references) ∧
          digests.Nodup ∧ snapshot.keys.Perm digests := by
  obtain ⟨final, hfinal, ⟨hdone, hyields⟩ | ⟨last, begun, error, hlast, hfails, hyields⟩⟩ :=
    exists_accounted registry image image.reference
  · have hdigests : final.recorded.reverse.Nodup := List.nodup_reverse.mpr hfinal.once
    have hcontains : ∀ digest ∈ final.recorded, (SortedMap.ofList (final.recorded.reverse.map
        fun digest => (digest, image.artifact digest))).contains digest = true :=
      fun digest hmem => (contains_ofList_artifact image _ digest).mpr (List.mem_reverse.mpr hmem)
    refine ⟨_, final.visited, hyields.bind_pure _, hfinal.nodup,
      Nat.le_succ_of_le hfinal.length_visited_le, nofun, ?_⟩
    intro snapshot hsnapshot
    cases hsnapshot
    refine ⟨?_, ?_, ?_, _, hyields, hdigests, ?_⟩
    · intro key artifact hget
      obtain ⟨hmem, rfl⟩ := (get?_ofList_artifact image _ key artifact).mp hget
      exact ⟨hfinal.named key (List.mem_reverse.mp hmem), rfl⟩
    · intro reference hreference
      obtain ⟨digest, hmem, hserves⟩ := hfinal.served reference hreference
      exact ⟨digest, hserves, hcontains digest hmem⟩
    · intro reference earlier hsuffix
      refine (hfinal.complete reference earlier hsuffix).imp ?_ id
      exact fun hnamed digest hnames => hcontains digest (hnamed digest hnames)
    · exact keys_ofList_artifact_perm image hdigests
  · refine ⟨_, last :: final.visited, hyields.bind_error _,
      List.nodup_cons.mpr ⟨(next?_eq_some hlast).1, hfinal.nodup⟩,
      Nat.succ_le_succ hfinal.length_visited_le, ?_, ?_⟩
    · intro cause hcause
      exact ⟨last, final.visited, rfl, hfails⟩
    · intro snapshot hsnapshot
      cases hsnapshot

end ImageReference

end BuildProvenance
