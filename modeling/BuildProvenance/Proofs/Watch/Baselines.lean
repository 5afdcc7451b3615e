import BuildProvenance.Proofs.Directory.Snapshot
import BuildProvenance.Proofs.Snapshot.Changes
import BuildProvenance.Proofs.Watch.Finishing
import Mathlib.Tactic

/-!
# What is kept of a look that fails

The stores are looked at in turn, and what each one holds is kept at once.  A
look ends at the first store that cannot be read, and what was kept of the
stores before it stays.  So a look that fails can take away what those stores
gained: it was not there before the run, as far as the watcher knows.
-/

namespace BuildProvenance.Watcher

variable {σ : Type} {watcher : Watcher} {clients : StoreClients σ} {fs : FileSystem}

/-- What the stores held up to the first that could not be read. -/
def readableHead : List (String × Result Snapshot) → List (String × Snapshot)
  | (uri, .ok now) :: rest => (uri, now) :: readableHead rest
  | _ => []

/-- The error of the first store that could not be read. -/
def outcome : List (String × Result Snapshot) → Result Unit
  | [] => .ok ()
  | (_, .ok _) :: rest => outcome rest
  | (_, .error error) :: _ => .error error

/-- The watcher that keeps a snapshot for each of the URIs, the last one where there are several. -/
def keepAll (watcher : Watcher) (found : List (String × Snapshot)) : Watcher :=
  { watcher with
    snapshots := found.foldl (fun map entry => map.insert entry.1 entry.2) watcher.snapshots }

/-- Only the surveyed stores up to the first failure matter to a look at them. -/
theorem snapStores_apply (watcher : Watcher) (clients : StoreClients σ) (fs : FileSystem)
    (stores : List Store) (state : σ) :
    (watcher.snapStores clients fs stores state).1 =
      (watcher.keepAll (readableHead (survey clients fs stores state)),
        outcome (survey clients fs stores state)) := by
  induction stores generalizing watcher state with
  | nil => rfl
  | cons store rest ih =>
      unfold snapStores survey
      split
      next error after hsnap =>
        rw [hsnap]
        rfl
      next now after hsnap =>
        rw [ih, hsnap]
        rfl

theorem outcome_ok_iff {seen : List (String × Result Snapshot)} :
    outcome seen = .ok () ↔ AllReadable seen := by
  induction seen with
  | nil =>
      refine iff_of_true rfl ?_
      intro found hfound
      cases hfound
  | cons found rest ih =>
      obtain ⟨uri, result⟩ := found
      cases result with
      | error error =>
          refine iff_of_false nofun fun hreadable => ?_
          obtain ⟨now, hnow⟩ := hreadable _ List.mem_cons_self
          cases hnow
      | ok now =>
          refine Iff.trans (show outcome rest = .ok () ↔ AllReadable rest from ih) ?_
          exact ⟨fun hrest => List.forall_mem_cons.mpr ⟨⟨now, rfl⟩, hrest⟩,
            fun hall => (List.forall_mem_cons.mp hall).2⟩

/-- A survey fails at its first unreadable store, and the head of it is all that comes before. -/
theorem outcome_error_iff {seen : List (String × Result Snapshot)} {error : Error} :
    outcome seen = .error error ↔
      ∃ uri later, seen =
        (readableHead seen).map (fun found => (found.1, .ok found.2)) ++
          (uri, .error error) :: later := by
  induction seen with
  | nil => simp [outcome]
  | cons found rest ih =>
      obtain ⟨uri, result⟩ := found
      cases result with
      | error other => simp [outcome, readableHead, eq_comm]
      | ok now => simpa [outcome, readableHead] using ih

/-- What is kept of a store after a look at the stores, failed or not. -/
theorem get?_keepAll (watcher : Watcher) (found : List (String × Snapshot)) (uri : String) :
    (watcher.keepAll found).snapshots.get? uri =
      ((SortedMap.ofList found).get? uri).or (watcher.snapshots.get? uri) := by
  rw [SortedMap.get?_ofList]
  exact SortedMap.get?_foldl_insert _ _ _

theorem snapshots_keepAll_eq_iff {found : List (String × Snapshot)} :
    (watcher.keepAll found).snapshots = watcher.snapshots ↔
      ∀ uri now, (SortedMap.ofList found).get? uri = some now →
        watcher.snapshots.get? uri = some now := by
  constructor
  · intro hsame uri now hnow
    rw [← hsame, get?_keepAll, hnow, Option.some_or]
  · intro hkept
    refine SortedMap.ext_get? fun uri => ?_
    rw [get?_keepAll]
    cases hnow : (SortedMap.ofList found).get? uri with
    | none => rw [Option.none_or]
    | some now => rw [hkept uri now hnow, Option.some_or]

/-- What is kept after a look at the stores.  A look that fails keeps what the stores before
the first unreadable one held, and changes the kept snapshots unless these stores hold what
they held before.  What they hold then is no gain of theirs any more. -/
theorem snap_keeps_readable_head (watcher : Watcher) (clients : StoreClients σ) (fs : FileSystem)
    (state : σ) :
    let seen := survey clients fs watcher.stores state
    let found := SortedMap.ofList (readableHead seen)
    let after := (watcher.snap clients fs state).1
    after.1 = { watcher with snapshots := after.1.snapshots } ∧
      (after.2 = .ok () ↔ AllReadable seen) ∧
      (∀ error, after.2 = .error error ↔
        ∃ uri later, seen = (readableHead seen).map (fun entry => (entry.1, .ok entry.2)) ++
          (uri, .error error) :: later) ∧
      (∀ uri, after.1.snapshots.get? uri = (found.get? uri).or (watcher.snapshots.get? uri)) ∧
      (after.1.snapshots = watcher.snapshots ↔
        ∀ uri now, found.get? uri = some now → watcher.snapshots.get? uri = some now) ∧
      ∀ store now, found.get? store.uri = some now → after.1.gained store now = [] := by
  intro seen found after
  have hafter : after = (watcher.keepAll (readableHead seen), outcome seen) :=
    snapStores_apply watcher clients fs watcher.stores state
  have hget : ∀ uri, after.1.snapshots.get? uri =
      (found.get? uri).or (watcher.snapshots.get? uri) := by
    rw [hafter]
    exact get?_keepAll watcher (readableHead seen)
  refine ⟨?_, ?_, ?_, hget, ?_, ?_⟩
  · rw [hafter]
    rfl
  · rw [hafter]
    exact outcome_ok_iff
  · intro error
    rw [hafter]
    exact outcome_error_iff
  · rw [hafter]
    exact snapshots_keepAll_eq_iff
  · intro store now hnow
    rw [gained, hget, hnow, Option.some_or, Option.getD_some, Snapshot.delta_self]

/-! A directory that is gone, behind one with a new file. -/

/-- A directory `out`, and beside it what else is in the working directory. -/
def outBeside (held others : List (FileName × Node)) : FileSystem :=
  ⟨.directory ((Utf8.encode "out", .directory held) :: others), [], 0⟩

def newFile : List (FileName × Node) := [([97], .file .empty 0)]

def emptyLog : List (FileName × Node) := [(Utf8.encode "log", .directory [])]

theorem snap_out (held others : List (FileName × Node)) :
    (FileTree.mk "out").snap (outBeside held others) = .ok (Snapshot.ofNode (.directory held)) := by
  have hleads : (Path.ofString "out").LeadsTo [Utf8.encode "out"] :=
    Path.leadsTo_singleton_iff.mpr (by decide +kernel)
  apply FileTree.snap_of_directory
  unfold outBeside
  rw [FileSystem.node?_of_root hleads (by decide +kernel) (by decide +kernel)
    (by simp [Node.find?])]
  simp [Node.find?]

theorem snap_log (held : List (FileName × Node)) :
    (FileTree.mk "log").snap (outBeside held emptyLog) = .ok (Snapshot.ofNode (.directory [])) ∧
      (FileTree.mk "log").snap (outBeside held []) =
        .error ((Error.ofFault .fileSystem).within (.stat "log")) := by
  have hleads : (Path.ofString "log").LeadsTo [Utf8.encode "log"] :=
    Path.leadsTo_singleton_iff.mpr (by decide +kernel)
  have hapart : Utf8.encode "out" ≠ Utf8.encode "log" := mt Utf8.encode_injective (by decide)
  constructor
  · apply FileTree.snap_of_directory
    unfold outBeside emptyLog
    rw [FileSystem.node?_of_root hleads (by decide +kernel) (by decide +kernel)
      (by simp [Node.find?, hapart])]
    simp [Node.find?, hapart]
  · unfold FileTree.snap outBeside
    rw [FileSystem.node?_of_root hleads (by decide +kernel) (by decide +kernel)
      (by simp [Node.find?, hapart])]
    simp [Node.find?, hapart]

def outAndLog : List Store :=
  [⟨"file://out", .directory ⟨"out"⟩⟩, ⟨"file://log", .directory ⟨"log"⟩⟩]

theorem survey_outAndLog (fs : FileSystem) :
    survey .silent fs outAndLog () =
      [("file://out", ((FileTree.mk "out").snap fs).within
          (.snapshottingStore "directory" "file://out")),
        ("file://log", ((FileTree.mk "log").snap fs).within
          (.snapshottingStore "directory" "file://log"))] := rfl

/-- The second look fails, and takes what is new in `out` for what was there before the run. -/
theorem failed_snap_moves_baseline :
    let registered := { new ⟨.cloudBuild, "", ""⟩ 1 with stores := outAndLog }
    let first := (registered.snap .silent (outBeside [] emptyLog) ()).1
    let second := (first.1.snap .silent (outBeside newFile []) ()).1
    first.2 = .ok () ∧ (∃ error, second.2 = .error error) ∧
      first.1.snapshots.get? "file://out" = some .empty ∧
      second.1.snapshots.get? "file://out" = some (.ofNode (.directory newFile)) ∧
      Snapshot.ofNode (.directory newFile) ≠ .empty ∧
      second.1.snapshots.get? "file://log" = first.1.snapshots.get? "file://log" := by
  intro registered first second
  have hfirst : first = (registered.keepAll [("file://out", .empty), ("file://log", .empty)],
      .ok ()) := by
    refine (snapStores_apply _ _ _ _ _).trans ?_
    rw [show registered.stores = outAndLog from rfl, survey_outAndLog, snap_out, (snap_log _).1]
    rfl
  have hstores : first.1.stores = outAndLog := by
    rw [hfirst]
    rfl
  have hsecond : second = (first.1.keepAll [("file://out", .ofNode (.directory newFile))],
      .error (((Error.ofFault .fileSystem).within (.stat "log")).within
        (.snapshottingStore "directory" "file://log"))) := by
    refine (snapStores_apply _ _ _ _ _).trans ?_
    rw [hstores, survey_outAndLog, snap_out, (snap_log _).2]
    rfl
  refine ⟨by rw [hfirst], ⟨_, by rw [hsecond]⟩, ?_, ?_, by decide, ?_⟩
  · rw [hfirst, get?_keepAll]
    rfl
  · rw [hsecond, get?_keepAll]
    rfl
  · rw [hsecond, get?_keepAll]
    rfl

end BuildProvenance.Watcher
