import BuildProvenance.Proofs.Action
import BuildProvenance.Store.Bucket.Basic
import BuildProvenance.Store.Bucket.Pool
import Mathlib.Tactic

/-!
# What workers download

However the steps of the workers interleave, the objects that were taken are
those before the next one in line, and each of them is with one worker or was
downloaded once.  A failure is with the worker that met it.  A worker stops
without one only when it sees the failure of another or the end of the line, so
all objects were downloaded when no worker stopped with a failure.

Once a failure is known, a worker can begin a download only if it looked before.
A single worker downloads the objects in line, as copying them one after the
other does.
-/

namespace BuildProvenance

namespace Worker

/-- The object that a worker took and has yet to download. -/
def held : Worker → Multiset ℕ
  | .downloading object => {object}
  | _ => 0

/-- The object whose download failed. -/
def failures : Worker → Multiset ℕ
  | .reporting object => {object}
  | .failed object => {object}
  | _ => 0

/-- Whether a worker goes on to a download without looking for failures before. -/
def isCommitted : Worker → Bool
  | .taking => true
  | .downloading _ => true
  | _ => false

/-- The steps that are left to a worker that gets no other object. -/
def rank : Worker → ℕ
  | .looking => 2
  | .taking => 1
  | .downloading _ => 3
  | .reporting _ => 1
  | .stopped => 0
  | .failed _ => 0

end Worker

namespace Pool

variable {count : ℕ} {fails : ℕ → Bool} {pool : Pool} {position : ℕ} {worker : Worker}

@[simp] theorem put_next (pool : Pool) (position : ℕ) (worker : Worker) :
    (pool.put position worker).next = pool.next := rfl

@[simp] theorem put_failed (pool : Pool) (position : ℕ) (worker : Worker) :
    (pool.put position worker).failed = pool.failed := rfl

@[simp] theorem put_begun (pool : Pool) (position : ℕ) (worker : Worker) :
    (pool.put position worker).begun = pool.begun := rfl

@[simp] theorem put_workers_eq_nil_iff (pool : Pool) (position : ℕ) (worker : Worker) :
    (pool.put position worker).workers = [] ↔ pool.workers = [] := by
  simp [put]

theorem exists_others (hworker : pool.workers[position]? = some worker) :
    ∃ others : Multiset Worker, (pool.workers : Multiset Worker) = worker ::ₘ others ∧
      ∀ next, ((pool.put position next).workers : Multiset Worker) = next ::ₘ others := by
  obtain ⟨hlt, heq⟩ := List.getElem?_eq_some_iff.mp hworker
  refine ⟨(pool.workers.eraseIdx position : List Worker), ?_, fun next => ?_⟩
  · rw [Multiset.cons_coe, Multiset.coe_eq_coe, ← heq]
    exact (List.getElem_cons_eraseIdx_perm hlt).symm
  · rw [Multiset.cons_coe, Multiset.coe_eq_coe]
    exact List.set_perm_cons_eraseIdx hlt next

/-! ## Objects and failures -/

/-- Where the objects and the failures are. -/
structure Accounts (count : ℕ) (fails : ℕ → Bool) (pool : Pool) : Prop where
  manned : pool.workers = [] → count = 0
  taken : (pool.workers : Multiset Worker).bind Worker.held +
    (pool.begun.map Prod.fst : Multiset ℕ) = Multiset.range (min pool.next count)
  failures : (pool.workers : Multiset Worker).bind Worker.failures =
    (pool.begun.map Prod.fst : Multiset ℕ).filter (fails · = true)
  known : pool.failed = true ↔ ∃ object, Worker.failed object ∈ (pool.workers : Multiset Worker)
  stopped : Worker.stopped ∈ (pool.workers : Multiset Worker) →
    pool.failed = true ∨ count ≤ pool.next

theorem bind_replicate_looking {f : Worker → Multiset ℕ} (hlooking : f .looking = 0) (n : ℕ) :
    (List.replicate n Worker.looking : Multiset Worker).bind f = 0 := by
  induction n with
  | zero => rfl
  | succ n ih => simp [List.replicate_succ, ← Multiset.cons_coe, hlooking, ih]

theorem accounts_start {workers : ℕ} (hworkers : 0 < workers) (count : ℕ) (fails : ℕ → Bool) :
    Accounts count fails (start workers count) := by
  constructor
  case manned =>
    simp [start]
    omega
  case taken => simpa [start] using bind_replicate_looking (f := Worker.held) rfl _
  case failures => simpa [start] using bind_replicate_looking (f := Worker.failures) rfl _
  case known => simp [start]
  case stopped => simp [start]

theorem Accounts.step (haccounts : Accounts count fails pool) (position : ℕ) :
    Accounts count fails (pool.step count fails position) := by
  obtain ⟨hmanned, htaken, hfailures, hknown, hstopped⟩ := haccounts
  unfold Pool.step
  split
  next hworker =>
    obtain ⟨others, hbefore, hafter⟩ := exists_others hworker
    rw [hbefore] at htaken hfailures hknown hstopped
    constructor
    case manned => simpa using hmanned
    all_goals rw [hafter]
    case taken => split <;> simpa [Worker.held] using htaken
    case failures => split <;> simpa [Worker.failures] using hfailures
    case known => split <;> simpa using hknown
    case stopped => split <;> simp_all
  next hworker =>
    obtain ⟨others, hbefore, hafter⟩ := exists_others hworker
    rw [hbefore] at htaken hfailures hknown hstopped
    constructor
    case manned => simpa using hmanned
    all_goals simp only [hafter]
    case taken =>
      by_cases hnext : pool.next < count
      · have hmin : min (pool.next + 1) count = min pool.next count + 1 := by omega
        have hfirst : min pool.next count = pool.next := by omega
        simp_all [Worker.held]
      · have hmin : min (pool.next + 1) count = min pool.next count := by omega
        simpa [hnext, hmin, Worker.held] using htaken
    case failures => split <;> simpa [Worker.failures] using hfailures
    case known => split <;> simpa using hknown
    case stopped =>
      intro hmem
      by_cases hnext : pool.next < count
      · have hknown : pool.failed = true ∨ count ≤ pool.next := by simp_all
        exact hknown.imp id fun hle => by omega
      · exact Or.inr (by omega)
  next object hworker =>
    obtain ⟨others, hbefore, hafter⟩ := exists_others hworker
    rw [hbefore] at htaken hfailures hknown hstopped
    constructor
    case manned => simpa using hmanned
    all_goals simp only [hafter]
    case taken => split <;> simpa [Worker.held, ← Multiset.cons_coe] using htaken
    case failures => split <;> simp_all [Worker.failures, ← Multiset.cons_coe]
    case known => split <;> simpa using hknown
    case stopped => split <;> simpa using hstopped
  next object hworker =>
    obtain ⟨others, hbefore, hafter⟩ := exists_others hworker
    rw [hbefore] at htaken hfailures hknown hstopped
    constructor
    case manned => simpa using hmanned
    all_goals simp only [hafter]
    case taken => simpa [Worker.held] using htaken
    case failures => simpa [Worker.failures] using hfailures
    case known => simp
    case stopped => simp
  next => exact ⟨hmanned, htaken, hfailures, hknown, hstopped⟩

theorem Accounts.run (haccounts : Accounts count fails pool) (schedule : List ℕ) :
    Accounts count fails (pool.run count fails schedule) := by
  induction schedule generalizing pool with
  | nil => exact haccounts
  | cons position rest ih => exact ih (haccounts.step position)

theorem Accounts.nodup_begun (haccounts : Accounts count fails pool) :
    (pool.begun.map Prod.fst).Nodup := by
  rw [← Multiset.coe_nodup]
  apply Multiset.nodup_of_le _ (Multiset.nodup_range (min pool.next count))
  rw [← haccounts.taken]
  exact Multiset.le_add_left _ _

/-! ## The end of a run -/

theorem eq_stopped_or_failed (hdone : pool.isDone = true) (hworker : worker ∈ pool.workers) :
    worker = .stopped ∨ ∃ object, worker = .failed object := by
  have hfinished : worker.isDone = true := List.all_eq_true.mp hdone worker hworker
  cases worker <;> simp_all [Worker.isDone]

theorem succeeded_iff :
    pool.succeeded = true ↔ ∀ object, Worker.failed object ∉ pool.workers := by
  unfold succeeded
  rw [List.all_eq_true]
  constructor
  · intro hall object hmem
    simpa using hall _ hmem
  · intro hnone worker hmem
    cases worker <;> simp_all

theorem Accounts.mem_failed_iff (haccounts : Accounts count fails pool)
    (hdone : pool.isDone = true) (object : ℕ) :
    Worker.failed object ∈ pool.workers ↔
      object ∈ pool.begun.map Prod.fst ∧ fails object = true := by
  have hsame : object ∈ (pool.workers : Multiset Worker).bind Worker.failures ↔
      object ∈ pool.begun.map Prod.fst ∧ fails object = true := by
    simp only [haccounts.failures, Multiset.mem_filter, Multiset.mem_coe]
  rw [← hsame, Multiset.mem_bind]
  constructor
  · intro hmem
    exact ⟨_, hmem, by simp [Worker.failures]⟩
  · intro ⟨worker, hworker, hobject⟩
    rcases eq_stopped_or_failed hdone hworker with rfl | ⟨other, rfl⟩
    · simp [Worker.failures] at hobject
    · simp_all [Worker.failures]

theorem Accounts.succeeded_iff (haccounts : Accounts count fails pool)
    (hdone : pool.isDone = true) :
    pool.succeeded = true ↔ ∀ download ∈ pool.begun, fails download.1 = false := by
  simp only [Pool.succeeded_iff, haccounts.mem_failed_iff hdone, List.mem_map]
  constructor
  · intro hnone download hdownload
    simpa using fun hfails => hnone download.1 ⟨⟨download, hdownload, rfl⟩, hfails⟩
  · intro hall object ⟨⟨download, hdownload, heq⟩, hfails⟩
    rw [← heq, hall download hdownload] at hfails
    cases hfails

theorem Accounts.perm_of_succeeded (haccounts : Accounts count fails pool)
    (hdone : pool.isDone = true) (hsucceeded : pool.succeeded = true) :
    (pool.begun.map Prod.fst).Perm (List.range count) := by
  have hstopped : ∀ worker ∈ pool.workers, worker = .stopped := by
    intro worker hworker
    rcases eq_stopped_or_failed hdone hworker with rfl | ⟨object, rfl⟩
    · rfl
    · exact absurd hworker (Pool.succeeded_iff.mp hsucceeded object)
  have hline : count ≤ pool.next := by
    rcases List.eq_nil_or_concat pool.workers with hempty | ⟨others, worker, hworkers⟩
    · simp [haccounts.manned hempty]
    · have hworker : worker ∈ pool.workers := by simp [hworkers]
      have hended := haccounts.stopped (hstopped worker hworker ▸ hworker)
      refine hended.resolve_left fun hfailed => ?_
      obtain ⟨object, hobject⟩ := haccounts.known.mp hfailed
      exact Pool.succeeded_iff.mp hsucceeded object hobject
  have hheld : (pool.workers : Multiset Worker).bind Worker.held = 0 := by
    rw [Multiset.eq_zero_iff_forall_notMem]
    intro object hobject
    obtain ⟨worker, hworker, hobject⟩ := Multiset.mem_bind.mp hobject
    simp [hstopped worker hworker, Worker.held] at hobject
  have htaken := haccounts.taken
  rw [hheld, zero_add, Nat.min_eq_right hline] at htaken
  exact Multiset.coe_eq_coe.mp htaken

/-! ## Once a failure is known -/

theorem failed_step (count : ℕ) (fails : ℕ → Bool) (hfailed : pool.failed = true)
    (position : ℕ) : (pool.step count fails position).failed = true := by
  unfold step
  split <;> simp [hfailed]

/-- The worker at the position goes on to a download without looking for failures before. -/
def CommittedAt (workers : List Worker) (position : ℕ) : Prop :=
  ∃ worker, workers[position]? = some worker ∧ worker.isCommitted = true

theorem committedAt_put_iff (hworker : pool.workers[position]? = some worker) (next : Worker)
    (other : ℕ) : CommittedAt (pool.put position next).workers other ↔
      if other = position then next.isCommitted = true else CommittedAt pool.workers other := by
  have hlt : position < pool.workers.length := (List.getElem?_eq_some_iff.mp hworker).1
  unfold CommittedAt put
  by_cases heq : other = position
  · simp [heq, hlt]
  · simp [heq, List.getElem?_set_ne (Ne.symm heq)]

/-- Nobody looks and goes on. -/
theorem committedAt_of_step (hfailed : pool.failed = true) {other : ℕ}
    (hcommitted : CommittedAt (pool.step count fails position).workers other) :
    CommittedAt pool.workers other := by
  have hput : ∀ {worker next : Worker}, pool.workers[position]? = some worker →
      (next.isCommitted = true → worker.isCommitted = true) →
        CommittedAt (pool.put position next).workers other → CommittedAt pool.workers other := by
    intro worker next hworker hcommits hcommitted
    rw [committedAt_put_iff hworker] at hcommitted
    by_cases heq : other = position
    · subst heq
      exact ⟨worker, hworker, hcommits (by simpa using hcommitted)⟩
    · simpa [heq] using hcommitted
  unfold step at hcommitted
  split at hcommitted
  next hworker =>
    refine hput hworker ?_ hcommitted
    simp [hfailed, Worker.isCommitted]
  next hworker =>
    refine hput hworker ?_ hcommitted
    simp [Worker.isCommitted]
  next object hworker =>
    refine hput hworker ?_ hcommitted
    simp [Worker.isCommitted]
  next object hworker =>
    refine hput hworker ?_ hcommitted
    simp [Worker.isCommitted]
  next => exact hcommitted

/-- A worker that begins a download is not committed afterwards. -/
theorem begun_step (count : ℕ) (fails : ℕ → Bool) (pool : Pool) (position : ℕ) :
    (pool.step count fails position).begun = pool.begun ∨
      CommittedAt pool.workers position ∧
        ¬CommittedAt (pool.step count fails position).workers position ∧
        ∃ object, (pool.step count fails position).begun = (object, position) :: pool.begun := by
  cases hworker : pool.workers[position]? with
  | none => simp [step, hworker]
  | some worker =>
      cases worker with
      | downloading object =>
          refine Or.inr ⟨⟨_, hworker, rfl⟩, ?_, object, by simp [step, hworker]⟩
          simp only [step, hworker, committedAt_put_iff hworker, if_true]
          split <;> simp [Worker.isCommitted]
      | _ => simp [step, hworker]

theorem exists_further (count : ℕ) (fails : ℕ → Bool) (hfailed : pool.failed = true)
    (later : List ℕ) : ∃ further, (pool.run count fails later).begun = further ++ pool.begun ∧
      (further.map Prod.snd).Nodup ∧ ∀ download ∈ further, CommittedAt pool.workers download.2 := by
  induction later generalizing pool with
  | nil => exact ⟨[], by simp [run]⟩
  | cons position rest ih =>
      obtain ⟨further, hbegun, hnodup, hcommitted⟩ := ih (failed_step count fails hfailed position)
      have hearlier : ∀ download ∈ further, CommittedAt pool.workers download.2 :=
        fun download hdownload => committedAt_of_step hfailed (hcommitted download hdownload)
      rcases begun_step count fails pool position with hnone | ⟨hbegins, hafter, object, hone⟩
      · exact ⟨further, by rw [← hnone]; exact hbegun, hnodup, hearlier⟩
      · refine ⟨further ++ [(object, position)], ?_, ?_, ?_⟩
        · rw [List.append_assoc, List.singleton_append, ← hone]
          exact hbegun
        · rw [List.map_append, List.map_singleton, List.nodup_append_comm, List.singleton_append,
            List.nodup_cons]
          refine ⟨fun hmem => ?_, hnodup⟩
          obtain ⟨download, hdownload, heq⟩ := List.mem_map.mp hmem
          have hposition : download.2 = position := heq
          exact hafter (hposition ▸ hcommitted download hdownload)
        · intro download hdownload
          rcases List.mem_append.mp hdownload with hdownload | hdownload
          · exact hearlier download hdownload
          · rw [List.mem_singleton.mp hdownload]
            exact hbegins

/-! ## Runs come to an end -/

/-- A bound on the steps that are left to the workers. -/
def work (count : ℕ) (pool : Pool) : ℕ :=
  ((pool.workers : Multiset Worker).map Worker.rank).sum + 3 * (count - pool.next)

theorem work_step_lt (count : ℕ) (fails : ℕ → Bool)
    (hworker : pool.workers[position]? = some worker) (hunfinished : worker.isDone = false) :
    (pool.step count fails position).work count < pool.work count := by
  obtain ⟨others, hbefore, hafter⟩ := exists_others hworker
  cases worker with
  | looking =>
      simp only [step, hworker, work, hafter, hbefore, put_next]
      split <;> simp [Worker.rank]
  | taking =>
      simp only [step, hworker, work, hafter, hbefore]
      split
      next hleft =>
        simp [Worker.rank]
        omega
      next hnone =>
        simp [Worker.rank]
        omega
  | downloading object =>
      simp only [step, hworker, work, hafter, hbefore, put_next]
      split <;> simp [Worker.rank]
  | reporting object =>
      simp only [step, hworker, work, hafter, hbefore, put_next]
      simp [Worker.rank]
  | stopped => cases hunfinished
  | failed object => cases hunfinished

theorem exists_isDone (count : ℕ) (fails : ℕ → Bool) (pool : Pool) :
    ∃ later, (pool.run count fails later).isDone = true := by
  induction hwork : pool.work count using Nat.strong_induction_on generalizing pool with
  | _ left ih =>
      by_cases hdone : pool.isDone = true
      · exact ⟨[], hdone⟩
      · simp only [isDone, List.all_eq_true, not_forall, Bool.not_eq_true] at hdone
        obtain ⟨worker, hmem, hunfinished⟩ := hdone
        obtain ⟨position, hworker⟩ := List.mem_iff_getElem?.mp hmem
        have hless := work_step_lt count fails hworker hunfinished
        obtain ⟨later, hlater⟩ := ih _ (hwork ▸ hless) (pool.step count fails position) rfl
        exact ⟨position :: later, hlater⟩

/-! ## Downloads -/

/-- However the steps of any number of workers interleave and whichever downloads fail: no
object is downloaded twice.  When all workers have stopped, they succeeded exactly when no
download failed, and then each object was downloaded once.  Once a failure is known, each
worker begins one more download at most, and who reported a failure begins none.  Whatever was
done so far, the workers can come to the end. -/
theorem run_start_downloads {workers : ℕ} (hworkers : 0 < workers) (count : ℕ)
    (fails : ℕ → Bool) (schedule : List ℕ) :
    let pool := (start workers count).run count fails schedule
    (pool.begun.map Prod.fst).Nodup ∧
      (pool.isDone = true →
        (pool.succeeded = true ↔ ∀ download ∈ pool.begun, fails download.1 = false) ∧
          (pool.succeeded = true → (pool.begun.map Prod.fst).Perm (List.range count))) ∧
      (pool.failed = true → ∀ later, ∃ further,
        (pool.run count fails later).begun = further ++ pool.begun ∧
          (further.map Prod.snd).Nodup ∧
          ∀ download ∈ further, ∀ object,
            pool.workers[download.2]? ≠ some (.failed object)) ∧
      ∃ later, (pool.run count fails later).isDone = true := by
  intro pool
  have haccounts : Accounts count fails pool :=
    (accounts_start hworkers count fails).run schedule
  refine ⟨haccounts.nodup_begun, fun hdone => ⟨haccounts.succeeded_iff hdone,
    haccounts.perm_of_succeeded hdone⟩, fun hfailed later => ?_, exists_isDone count fails pool⟩
  obtain ⟨further, hbegun, hnodup, hcommitted⟩ := exists_further count fails hfailed later
  refine ⟨further, hbegun, hnodup, fun download hdownload object hworker => ?_⟩
  obtain ⟨worker, hcommits, hcommitted⟩ := hcommitted download hdownload
  rw [hworker, Option.some.injEq] at hcommits
  rw [← hcommits] at hcommitted
  cases hcommitted

/-- One worker has an object in hand while the download of another worker fails. -/
theorem run_start_downloads_failing :
    let pool := (start 2 3).run 3 (· == 1) [0, 0, 1, 1, 1, 1]
    0 < 2 ∧ pool.failed = true ∧
      (∃ further, (pool.run 3 (· == 1) [0, 0]).begun = further ++ pool.begun ∧
        (further.map Prod.snd).Nodup ∧ further ≠ []) ∧
      (pool.run 3 (· == 1) [0, 0]).isDone = true ∧
      (pool.run 3 (· == 1) [0, 0]).succeeded = false := by
  intro pool
  have hfailed : pool.failed = true := by decide
  have hdone : (pool.run 3 (· == 1) [0, 0]).isDone = true := by decide
  obtain ⟨-, -, hafter, -⟩ :=
    run_start_downloads (by decide : 0 < 2) 3 (· == 1) [0, 0, 1, 1, 1, 1]
  obtain ⟨further, hbegun, hnodup, -⟩ := hafter hfailed [0, 0]
  refine ⟨by decide, hfailed, ⟨further, hbegun, hnodup, ?_⟩, hdone, by decide⟩
  rintro rfl
  revert hbegun
  decide

end Pool

/-! ## A single worker -/

namespace Bucket

variable {σ : Type}

/-- Whether each copy fails when objects are copied one after the other, up to the first
failure. -/
def attempts (bucket : Bucket) (client : BucketClient σ) (scratch : String) :
    List BucketObject → FileSystem → σ → List Bool
  | [], _, _ => []
  | object :: rest, files, state =>
    match bucket.copy client scratch files object state with
    | (.ok files, state) => false :: bucket.attempts client scratch rest files state
    | (.error _, _) => [true]

/-- A worker that looks next goes on with the objects that are left as `copyAll` does. -/
theorem exists_run_looking (bucket : Bucket) (client : BucketClient σ) (scratch : String)
    (objects : List BucketObject) (files : FileSystem) (state : σ) (fails : ℕ → Bool) (next : ℕ)
    (begun : List (ℕ × ℕ)) (hfails : ∀ position, fails (next + position) =
      (bucket.attempts client scratch objects files state).getD position false) :
    ∃ schedule,
      let pool := Pool.run (next + objects.length) fails ⟨[.looking], next, false, begun⟩ schedule
      pool.isDone = true ∧
        pool.begun = ((List.range' next
          (bucket.attempts client scratch objects files state).length).map (·, 0)).reverse ++
            begun ∧
        (pool.succeeded = true ↔
          ∃ copied after, bucket.copyAll client scratch files objects state =
            (.ok copied, after)) := by
  induction objects generalizing files state next begun with
  | nil =>
      refine ⟨[0, 0], ?_, ?_, ?_⟩
      · simp [Pool.run, Pool.step, Pool.put, Pool.isDone, Worker.isDone]
      · simp [Pool.run, Pool.step, Pool.put, attempts]
      · simp [Pool.run, Pool.step, Pool.put, Pool.succeeded, copyAll]
  | cons object rest ih =>
      have hfirst := hfails 0
      have hrest := fun position => hfails (position + 1)
      cases hcopy : bucket.copy client scratch files object state with
      | mk result after =>
          cases result with
          | error error =>
              simp only [attempts, hcopy, Nat.add_zero, List.getD_cons_zero] at hfirst
              have hall : bucket.copyAll client scratch files (object :: rest) state =
                  (.error error, after) := Action.bind_apply_of_error hcopy
              refine ⟨[0, 0, 0, 0], ?_, ?_, ?_⟩
              · simp [Pool.run, Pool.step, Pool.put, hfirst, Pool.isDone, Worker.isDone]
              · simp [Pool.run, Pool.step, Pool.put, hfirst, attempts, hcopy]
              · simp [Pool.run, Pool.step, Pool.put, hfirst, Pool.succeeded, hall]
          | ok copied =>
              simp only [attempts, hcopy, Nat.add_zero, List.getD_cons_zero] at hfirst
              have hnext : ∀ position, fails (next + 1 + position) =
                  (bucket.attempts client scratch rest copied after).getD position false := by
                intro position
                have hposition := hrest position
                simp only [attempts, hcopy, List.getD_cons_succ] at hposition
                rw [← hposition]
                congr 1
                omega
              have hall : bucket.copyAll client scratch files (object :: rest) state =
                  bucket.copyAll client scratch copied rest after :=
                Action.bind_apply_of_ok hcopy
              obtain ⟨later, hdone, hbegun, hsucceeded⟩ :=
                ih copied after (next + 1) ((next, 0) :: begun) hnext
              refine ⟨[0, 0, 0] ++ later, ?_⟩
              have hcount : next + (object :: rest).length = next + 1 + rest.length := by
                simp only [List.length_cons]
                omega
              have hsteps : Pool.run (next + (object :: rest).length) fails
                  ⟨[.looking], next, false, begun⟩ ([0, 0, 0] ++ later) =
                  Pool.run (next + 1 + rest.length) fails
                    ⟨[.looking], next + 1, false, (next, 0) :: begun⟩ later := by
                rw [hcount]
                have hlt : next < next + 1 + rest.length := by omega
                simp [Pool.run, Pool.step, Pool.put, hfirst, hlt]
              simp only [hsteps, hall]
              refine ⟨hdone, ?_, hsucceeded⟩
              rw [hbegun]
              simp [attempts, hcopy, List.range'_succ]

/-- Copying objects one after the other is a run of a single worker. -/
theorem copyAll_is_run (bucket : Bucket) (client : BucketClient σ) (scratch : String)
    (objects : List BucketObject) (files : FileSystem) (state : σ) :
    let attempts := bucket.attempts client scratch objects files state
    ∃ schedule,
      let pool := (Pool.start 1 objects.length).run objects.length (attempts.getD · false) schedule
      pool.isDone = true ∧
        pool.begun = ((List.range attempts.length).map (·, 0)).reverse ∧
        (pool.succeeded = true ↔
          ∃ copied after, bucket.copyAll client scratch files objects state =
            (.ok copied, after)) := by
  intro attempts
  cases objects with
  | nil =>
      refine ⟨[], ?_, ?_, ?_⟩
      · simp [Pool.start, Pool.run, Pool.isDone]
      · simp [Pool.start, Pool.run, attempts, Bucket.attempts]
      · simp [Pool.start, Pool.run, Pool.succeeded, copyAll]
  | cons object rest =>
      have hstart : Pool.start 1 (object :: rest).length = ⟨[.looking], 0, false, []⟩ := by
        simp [Pool.start]
      have hfails : ∀ position, attempts.getD (0 + position) false =
          (bucket.attempts client scratch (object :: rest) files state).getD position false := by
        simp [attempts]
      obtain ⟨schedule, hdone, hbegun, hsucceeded⟩ :=
        bucket.exists_run_looking client scratch (object :: rest) files state
          (attempts.getD · false) 0 [] hfails
      rw [Nat.zero_add] at hdone hbegun hsucceeded
      rw [List.append_nil, ← List.range_eq_range'] at hbegun
      rw [hstart]
      exact ⟨schedule, hdone, hbegun, hsucceeded⟩

end Bucket

end BuildProvenance
