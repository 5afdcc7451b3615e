import BuildProvenance.Proofs.CommandLine.Output
import BuildProvenance.Proofs.Directory.Snapshot
import BuildProvenance.Proofs.Snapshot.Saved
import BuildProvenance.Proofs.Watch.Finishing

/-!
# Where a start can stop

A start writes up to three files: the snapshots of the stores, the partial
attestation and a message for whoever finishes it.  Between the first two it
asks the checkout for its locator, and before the third it reads the first one
again.  A start that fails at one of these two points leaves files of its own
behind.  At the first one the snapshots are new already, while the partial
attestation is still the one that was there before.
-/

namespace BuildProvenance.CommandLine

open World

variable {σ : Type} {world after : World σ} {watcher : Watcher} {command : StartCommand}
  {error : Error}

/-! ## The watcher, and what is written from it -/

/-- The watcher of a start, with the snapshots of its stores. -/
def prepared (config : Config) (clients : Clients σ) (command : StartCommand) :
    Action (World σ) Watcher := do
  let watcher ← Action.lift (watcherFor config command.specUrl command.sources)
  (snap watcher clients).within .snapshottingRepositories

/-- Writes what a start leaves to whoever finishes it. -/
def handOver (command : StartCommand) (watcher : Watcher) : Action (World σ) Unit := do
  let statePath := statePath? command.snapshots command.output
  saveState watcher statePath
  let watcher ← addCheckout watcher command.locator command.checkout
  let document ← Action.lift watcher.startAttestation.toJson
  emit document command.output
  sendMessage command document statePath command.message

theorem start_apply (config : Config) (clients : Clients σ) (command : StartCommand)
    (world : World σ) : start config clients command world =
      (prepared config clients command >>= handOver command) world := by
  unfold start prepared
  rw [Action.bind_bind_apply]
  rfl

theorem quiet_prepared (config : Config) (clients : Clients σ) (command : StartCommand) :
    Quiet (prepared config clients command) := by
  unfold prepared
  apply (quiet_lift _).bind
  intro watcher
  exact (quiet_snap watcher clients).within _

/-! ## What each step writes -/

theorem reading_of {α : Type} {read : FileSystem → Result α} {result : Result α}
    (hread : read world.files = result) : reading read world = (result, world) := by
  rw [← hread]
  rfl

/-- A document was written to the path.  Without a path no file changes. -/
def WroteTo (fs : FileSystem) (path : Option Path) (document : ByteArray)
    (written : FileSystem) : Prop :=
  match path with
  | some path => fs.Wrote written path document
  | none => written = fs

/-- The snapshots of the watcher were written to the path, if there is one. -/
def SavedTo (fs : FileSystem) (path : Option Path) (watcher : Watcher)
    (saved : FileSystem) : Prop :=
  match path with
  | some path => ∃ text, watcher.state.toJson = .ok text ∧ fs.Wrote saved path text
  | none => saved = fs

theorem saveState_some {path : Path} {files : FileSystem} {result : Result Unit}
    (hsaved : watcher.save world.files path = (files, result)) :
    saveState watcher (some path) world = (result, { world with files }) := by
  simp only [saveState, writing, hsaved]

theorem saveState_cases (watcher : Watcher) (path : Option Path) (world : World σ) :
    (∃ saved, saveState watcher path world = (.ok (), saved) ∧
        SavedTo world.files path watcher saved.files) ∨
      ∃ error after, saveState watcher path world = (.error error, after) ∧
        (after.files = world.files ∨ ∃ place text cause, path = some place ∧
          watcher.state.toJson = .ok text ∧
          world.files.writeGuarded place text = (after.files, .error cause) ∧
          error = cause.within (.savingSnapshots place.display)) := by
  cases path with
  | none => exact Or.inl ⟨world, rfl, rfl⟩
  | some path =>
      cases htext : watcher.state.toJson with
      | error cause =>
          have hsaved : watcher.save world.files path =
              (world.files, .error (cause.within (.savingSnapshots path.display))) := by
            simp only [Watcher.save, SnapshotState.save, htext, Result.within_error]
          exact Or.inr ⟨_, _, saveState_some hsaved, Or.inl rfl⟩
      | ok text =>
          cases hwritten : world.files.writeGuarded path text with
          | mk files result =>
              have hsaved : watcher.save world.files path =
                  (files, result.within (.savingSnapshots path.display)) := by
                simp only [Watcher.save, SnapshotState.save, htext, hwritten]
              cases result with
              | error cause =>
                  exact Or.inr ⟨_, _, saveState_some hsaved,
                    Or.inr ⟨path, text, cause, rfl, rfl, hwritten, rfl⟩⟩
              | ok value =>
                  exact Or.inl ⟨_, saveState_some hsaved, text, htext,
                    FileSystem.wrote_of_writeGuarded hwritten⟩

theorem emit_cases (document : ByteArray) (path : Option Path) (world : World σ) :
    (∃ after, emit document path world = (.ok (), after) ∧
        WroteTo world.files path document after.files) ∨
      ∃ error after place, emit document path world = (.error error, after) ∧
        path = some place ∧
          world.files.writeGuarded place document = (after.files, .error error) := by
  cases path with
  | none => exact Or.inl ⟨_, emit_none document world, rfl⟩
  | some path =>
      cases hwritten : world.files.writeGuarded path document with
      | mk files result =>
          cases result with
          | error error => exact Or.inr ⟨error, _, path, emit_some hwritten, rfl, hwritten⟩
          | ok value =>
              exact Or.inl ⟨_, emit_some hwritten, FileSystem.wrote_of_writeGuarded hwritten⟩

/-- The message that is written for the state that was found. -/
def messageWith (command : StartCommand) (document : ByteArray) (state : Option ByteArray) :
    ByteArray :=
  (StartMessage.of command.specUrl document state command.sources).toJson

/-- The message was written with the state that is on disk, unless none is asked for. -/
def SentTo (fs : FileSystem) (command : StartCommand) (document : ByteArray)
    (sent : FileSystem) : Prop :=
  match command.message with
  | some path => ∃ state,
      savedState (statePath? command.snapshots command.output) fs = .ok state ∧
        fs.Wrote sent path (messageWith command document state)
  | none => sent = fs

variable {document : ByteArray} {statePath : Option Path} {path : Path} {files : FileSystem}

theorem sendMessage_of_state {state : Option ByteArray} {result : Result Unit}
    (hstate : savedState statePath world.files = .ok state)
    (hwritten : world.files.writeGuarded path (messageWith command document state) =
      (files, result)) :
    sendMessage command document statePath (some path) world = (result, { world with files }) := by
  unfold messageWith at hwritten
  refine (Action.bind_apply_of_ok (reading_of hstate)).trans ?_
  simp only [writing, hwritten]

theorem sendMessage_of_no_state (hstate : savedState statePath world.files = .error error) :
    sendMessage command document statePath (some path) world = (.error error, world) :=
  Action.bind_apply_of_error (reading_of hstate)

theorem sendMessage_cases (command : StartCommand) (document : ByteArray) (world : World σ) :
    (∃ after, sendMessage command document (statePath? command.snapshots command.output)
          command.message world = (.ok (), after) ∧
        SentTo world.files command document after.files) ∨
      ∃ error after path, sendMessage command document
          (statePath? command.snapshots command.output) command.message world =
            (.error error, after) ∧ command.message = some path ∧
        (after.files = world.files ∧
            savedState (statePath? command.snapshots command.output) world.files = .error error ∨
          ∃ text, world.files.writeGuarded path text = (after.files, .error error)) := by
  unfold SentTo
  cases command.message with
  | none => exact Or.inl ⟨world, rfl, rfl⟩
  | some path =>
      cases hstate : savedState (statePath? command.snapshots command.output) world.files with
      | error error =>
          exact Or.inr ⟨error, world, path, sendMessage_of_no_state hstate, rfl,
            Or.inl ⟨rfl, rfl⟩⟩
      | ok state =>
          cases hwritten : world.files.writeGuarded path (messageWith command document state) with
          | mk files result =>
              have hsent := sendMessage_of_state hstate hwritten
              cases result with
              | error error => exact Or.inr ⟨error, _, path, hsent, rfl, Or.inr ⟨_, hwritten⟩⟩
              | ok value =>
                  exact Or.inl ⟨_, hsent, state, rfl, FileSystem.wrote_of_writeGuarded hwritten⟩

/-! ## How it ends -/

/-- The snapshots and the partial attestation were written, one after the other. -/
def Handed (command : StartCommand) (watcher : Watcher) (fs : FileSystem)
    (document : ByteArray) (after : FileSystem) : Prop :=
  ∃ saved located,
    SavedTo fs (statePath? command.snapshots command.output) watcher saved ∧
      locatorFor command.locator command.checkout saved = .ok located ∧
      (located.elim watcher watcher.addMaterial).startAttestation.toJson = .ok document ∧
      WroteTo saved command.output document after

/-- One of the files of a start could not be written, after those before it. -/
inductive Unwritten (command : StartCommand) (watcher : Watcher) (fs after : FileSystem) :
    Error → Prop
  | state {path : Path} {text : ByteArray} {cause : Error}
      (hpath : statePath? command.snapshots command.output = some path)
      (htext : watcher.state.toJson = .ok text)
      (hfailed : fs.writeGuarded path text = (after, .error cause)) :
      Unwritten command watcher fs after (cause.within (.savingSnapshots path.display))
  | attestation {saved : FileSystem} {path : Path} {document : ByteArray} {error : Error}
      (hsaved : SavedTo fs (statePath? command.snapshots command.output) watcher saved)
      (hpath : command.output = some path)
      (hfailed : saved.writeGuarded path document = (after, .error error)) :
      Unwritten command watcher fs after error
  | message {emitted : FileSystem} {path : Path} {document text : ByteArray} {error : Error}
      (hhanded : Handed command watcher fs document emitted)
      (hpath : command.message = some path)
      (hfailed : emitted.writeGuarded path text = (after, .error error)) :
      Unwritten command watcher fs after error

/-- The snapshots were written, then the checkout could not be asked for its locator. -/
structure Unlocated (command : StartCommand) (watcher : Watcher) (fs after : FileSystem)
    (error : Error) : Prop where
  saved : SavedTo fs (statePath? command.snapshots command.output) watcher after
  locator_eq : command.locator = none
  refused : ∃ checkout cause, command.checkout = some checkout ∧
    Checkout.locatorOf? after checkout = .error cause ∧ error = cause.within .fetchingVcs

/-- All was written but the message, for which the snapshots could not be read again. -/
structure Unread (command : StartCommand) (watcher : Watcher) (fs after : FileSystem)
    (error : Error) : Prop where
  handed : ∃ document, Handed command watcher fs document after
  message_ne : command.message ≠ none
  refused : savedState (statePath? command.snapshots command.output) after = .error error

theorem exists_locatorOf?_of_error {locator : Option String} {checkout : Option Path}
    {fs : FileSystem} (hlocator : locatorFor locator checkout fs = .error error) :
    locator = none ∧ ∃ path cause, checkout = some path ∧
      Checkout.locatorOf? fs path = .error cause ∧ error = cause.within .fetchingVcs := by
  cases locator with
  | some locator => cases hlocator
  | none =>
      cases checkout with
      | none => cases hlocator
      | some path =>
          refine ⟨rfl, path, ?_⟩
          change (Checkout.locatorOf? fs path).within .fetchingVcs = .error error at hlocator
          cases hfound : Checkout.locatorOf? fs path with
          | ok found =>
              rw [hfound] at hlocator
              cases hlocator
          | error cause =>
              rw [hfound] at hlocator
              cases hlocator
              exact ⟨cause, rfl, rfl, rfl⟩

theorem addCheckout_apply {locator : Option String} {checkout : Option Path}
    {result : Result (Option String)}
    (hlocator : locatorFor locator checkout world.files = result) :
    addCheckout watcher locator checkout world =
      (result.map fun found => found.elim watcher watcher.addMaterial, world) := by
  unfold addCheckout
  cases result with
  | error error => exact Action.bind_apply_of_error (reading_of hlocator)
  | ok found => exact Action.bind_apply_of_ok (reading_of hlocator)

theorem handOver_cases (command : StartCommand) (watcher : Watcher) (world : World σ) :
    (∃ document emitted after, handOver command watcher world = (.ok (), after) ∧
        Handed command watcher world.files document emitted ∧
        SentTo emitted command document after.files) ∨
      ∃ error after, handOver command watcher world = (.error error, after) ∧
        (after.files = world.files ∨ Unwritten command watcher world.files after.files error ∨
          Unlocated command watcher world.files after.files error ∨
          Unread command watcher world.files after.files error) := by
  unfold handOver
  obtain ⟨saved, hsave, hsaved⟩ | ⟨error, after, hsave, hfailed⟩ :=
    saveState_cases watcher (statePath? command.snapshots command.output) world
  case inr =>
    refine Or.inr ⟨error, after, Action.bind_apply_of_error hsave, ?_⟩
    rcases hfailed with hfiles | ⟨path, text, cause, hpath, htext, hwritten, rfl⟩
    · exact Or.inl hfiles
    · exact Or.inr (Or.inl (.state hpath htext hwritten))
  simp only [Action.bind_apply_of_ok hsave]
  cases hlocator : locatorFor command.locator command.checkout saved.files with
  | error error =>
      obtain ⟨hnone, hrefused⟩ := exists_locatorOf?_of_error hlocator
      exact Or.inr ⟨error, saved, Action.bind_apply_of_error (addCheckout_apply hlocator),
        Or.inr (Or.inr (Or.inl ⟨hsaved, hnone, hrefused⟩))⟩
  | ok located =>
      rw [Action.bind_apply_of_ok (addCheckout_apply hlocator)]
      obtain ⟨document, hdocument, -⟩ :=
        Watcher.startAttestation_ofJson (located.elim watcher watcher.addMaterial)
      rw [Action.bind_apply_of_ok (Action.lift_eq_ok_iff.mpr ⟨hdocument, rfl⟩)]
      obtain ⟨emitted, hemit, hwrote⟩ | ⟨error, after, path, hemit, hpath, hfailed⟩ :=
        emit_cases document command.output saved
      case inr =>
        exact Or.inr ⟨error, after, Action.bind_apply_of_error hemit,
          Or.inr (Or.inl (.attestation hsaved hpath hfailed))⟩
      rw [Action.bind_apply_of_ok hemit]
      have hhanded : Handed command watcher world.files document emitted.files :=
        ⟨saved.files, located, hsaved, hlocator, hdocument, hwrote⟩
      obtain ⟨after, hsend, hsent⟩ | ⟨error, after, path, hsend, hpath, hfailed⟩ :=
        sendMessage_cases command document emitted
      · exact Or.inl ⟨document, emitted.files, after, hsend, hhanded, hsent⟩
      · refine Or.inr ⟨error, after, hsend, Or.inr ?_⟩
        rcases hfailed with ⟨hfiles, hstate⟩ | ⟨text, hwritten⟩
        · rw [hfiles]
          exact Or.inr (Or.inr ⟨⟨document, hhanded⟩, by simp [hpath], hstate⟩)
        · exact Or.inl (.message hhanded hpath hwritten)

/-- A start takes the snapshots of the watcher, and this is the world after that. -/
def Prepares (connect : Config → String → Clients σ) (line : CommandLine)
    (command : StartCommand) (world : World σ) (watcher : Watcher) (taken : World σ) : Prop :=
  ∃ config, Config.load world.files line.config = .ok config ∧
    prepared config (connect config command.specUrl) command world = (.ok watcher, taken)

variable {connect : Config → String → Clients σ} {arguments : List String} {line : CommandLine}

theorem execute_start {config : Config} (hcommand : line.command = .start command)
    (hconfig : Config.load world.files line.config = .ok config) :
    execute connect line world =
      (prepared config (connect config command.specUrl) command >>= handOver command) world := by
  unfold execute
  rw [Action.bind_apply_of_ok (reading_config hconfig), hcommand]
  exact start_apply config (connect config command.specUrl) command world

theorem execute_start_cases (connect : Config → String → Clients σ)
    (hcommand : line.command = .start command) (world : World σ) :
    (∃ error after, execute connect line world = (.error error, after) ∧
        after.files = world.files) ∨
      ∃ watcher taken, Prepares connect line command world watcher taken ∧
        taken.files = world.files ∧
          execute connect line world = handOver command watcher taken := by
  cases hconfig : Config.load world.files line.config with
  | error error =>
      exact Or.inl ⟨error, world, Action.bind_apply_of_error (reading_config hconfig), rfl⟩
  | ok config =>
      rw [execute_start hcommand hconfig]
      have hquiet := (quiet_prepared config (connect config command.specUrl) command world).1
      cases hprepared : prepared config (connect config command.specUrl) command world with
      | mk result taken =>
          rw [hprepared] at hquiet
          cases result with
          | error error =>
              exact Or.inl ⟨error, taken, Action.bind_apply_of_error hprepared, hquiet⟩
          | ok watcher =>
              exact Or.inr ⟨watcher, taken, ⟨config, hconfig, hprepared⟩, hquiet,
                Action.bind_apply_of_ok hprepared⟩

/-- A start that fails leaves the files as they were, unless it is one of its own files that
cannot be written, or the checkout that cannot be asked once the snapshots are written, or the
snapshots that cannot be read again for the message.  In the second case the snapshots are new
and everything beside them is old; in the third one the partial attestation is new as well.  A
start that succeeds has written all of its files. -/
theorem run_start_leaves (connect : Config → String → Clients σ) (world : World σ)
    (hline : parse arguments = .ok line) (hcommand : line.command = .start command) :
    (∀ error, (run connect arguments world).error = some error →
      (run connect arguments world).world.files = world.files ∨
        ∃ watcher taken, Prepares connect line command world watcher taken ∧
          (Unwritten command watcher world.files (run connect arguments world).world.files error ∨
            Unlocated command watcher world.files
              (run connect arguments world).world.files error ∨
            Unread command watcher world.files
              (run connect arguments world).world.files error)) ∧
      ((run connect arguments world).code = 0 →
        ∃ watcher taken document emitted, Prepares connect line command world watcher taken ∧
          Handed command watcher world.files document emitted ∧
          SentTo emitted command document (run connect arguments world).world.files) := by
  obtain ⟨error, after, hexecute, hfiles⟩ | ⟨watcher, taken, hprepares, hfiles, hexecute⟩ :=
    execute_start_cases connect hcommand world
  · rw [run_of_error hline hexecute]
    exact ⟨fun _ _ => Or.inl hfiles, fun hcode => nomatch hcode⟩
  obtain ⟨document, emitted, after, hover, hhanded, hsent⟩ | ⟨error, after, hover, hfailed⟩ :=
    handOver_cases command watcher taken
  · rw [hover] at hexecute
    rw [hfiles] at hhanded
    rw [run_of_ok hline hexecute]
    exact ⟨fun _ herror => (nomatch herror),
      fun _ => ⟨watcher, taken, document, emitted, hprepares, hhanded, hsent⟩⟩
  · rw [hover] at hexecute
    rw [hfiles] at hfailed
    rw [run_of_error hline hexecute]
    refine ⟨fun other hother => ?_, fun hcode => nomatch hcode⟩
    cases hother
    exact hfailed.imp_right fun hleft => ⟨watcher, taken, hprepares, hleft⟩

/-! Two starts of the same build with the same output.  The first one looks after no store,
the second one after a directory `out`, and its checkout is missing. -/

def outName : FileName := Utf8.encode "out"

def partialName : FileName := Utf8.encode "p.json"

def stateName : FileName := Utf8.encode "p.json.storage-snap.json"

/-- An empty directory `out` in the working directory, and then other entries. -/
def outThen (entries : List (FileName × Node)) : FileSystem :=
  ⟨.directory ((outName, .directory []) :: entries), [], 0⟩

/-- The files that a start leaves for the output `p.json`. -/
def started (state document : ByteArray) : FileSystem :=
  outThen [(stateName, .file state 0), (partialName, .file document 0)]

def partialPath : Path := Path.ofString "p.json"

def keptPath : Path := Path.ofString "p.json.storage-snap.json"

def locatedCommand : StartCommand where
  specUrl := "gcb://proj/b-1"
  sources := []
  locator := some "git+https://example.org/app@0001"
  checkout := none
  output := some partialPath
  snapshots := none
  message := none

def missingCommand : StartCommand where
  specUrl := "gcb://proj/b-1"
  sources := ["file://out"]
  locator := none
  checkout := some (Path.ofString "missing")
  output := some partialPath
  snapshots := none
  message := none

def locatedArguments : List String :=
  ["start", "--vcs-url=git+https://example.org/app@0001", "--output=p.json", "gcb://proj/b-1"]

def missingArguments : List String :=
  ["start", "--artifacts=file://out", "--repo-path=missing", "--output=p.json", "gcb://proj/b-1"]

theorem parse_locatedArguments : parse locatedArguments = .ok ⟨none, .start locatedCommand⟩ :=
  parse_of_toOption (by decide +kernel)

theorem parse_missingArguments : parse missingArguments = .ok ⟨none, .start missingCommand⟩ :=
  parse_of_toOption (by decide +kernel)

theorem names_apart : outName ≠ stateName ∧ outName ≠ partialName ∧ stateName ≠ partialName :=
  ⟨mt Utf8.encode_injective (by decide), mt Utf8.encode_injective (by decide),
    mt Utf8.encode_injective (by decide)⟩

/-- The path is a plain name in the working directory. -/
structure IsPlain (path : Path) (name : FileName) : Prop where
  leadsTo : path.LeadsTo [name]
  parent?_eq : path.parent? = some ⟨[]⟩
  isUsable_eq : path.isUsable = true
  length_le : name.length ≤ FileName.maxLength

theorem isPlain_iff {name : FileName} : IsPlain path name ↔
    path.isAbsolute = false ∧ path.names = [name] ∧ (name ≠ FileName.dot ∧ name ≠ FileName.dotDot) ∧
      path.parent? = some ⟨[]⟩ ∧ path.isUsable = true ∧ name.length ≤ FileName.maxLength := by
  constructor
  · rintro ⟨hleads, hparent, husable, hlength⟩
    obtain ⟨hrelative, hnames, hproper⟩ := Path.leadsTo_singleton_iff.mp hleads
    exact ⟨hrelative, hnames, hproper, hparent, husable, hlength⟩
  · rintro ⟨hrelative, hnames, hproper, hparent, husable, hlength⟩
    exact ⟨Path.leadsTo_singleton_iff.mpr ⟨hrelative, hnames, hproper⟩, hparent, husable, hlength⟩

theorem isPlain_paths : IsPlain partialPath partialName ∧ IsPlain keptPath stateName ∧
    IsPlain (Path.ofString "out") outName ∧
      IsPlain (Path.ofString "missing") (Utf8.encode "missing") := by
  simp only [isPlain_iff]
  decide +kernel

theorem isPlain_partialPath : IsPlain partialPath partialName := isPlain_paths.1

theorem isPlain_keptPath : IsPlain keptPath stateName := isPlain_paths.2.1

theorem isPlain_out : IsPlain (Path.ofString "out") outName := isPlain_paths.2.2.1

theorem isPlain_missing : IsPlain (Path.ofString "missing") (Utf8.encode "missing") :=
  isPlain_paths.2.2.2

/-- A file is written into a working directory at the root. -/
theorem writeGuarded_of_isPlain {entries : List (FileName × Node)} {name : FileName}
    (hplain : IsPlain path name)
    (hfree : ∀ node, Node.find? name entries = some node → ∃ held time, node = .file held time)
    (text : ByteArray) :
    (FileSystem.mk (.directory entries) [] 0).writeGuarded path text =
      (⟨.directory (Node.putEntry name (.file text 0) entries), [], 0⟩, .ok ()) := by
  have hproper := hplain.leadsTo.proper name List.mem_cons_self
  have hwritten : (FileSystem.mk (.directory entries) [] 0).write? path text =
      some ⟨.directory (Node.putEntry name (.file text 0) entries), [], 0⟩ := by
    unfold FileSystem.write?
    rw [FileSystem.locate?_of_leadsTo hplain.leadsTo, if_pos hplain.isUsable_eq]
    cases hfound : Node.find? name entries with
    | none =>
        have hvacant : (Node.directory entries).at? ([] ++ [name]) = none := by
          simp [Node.at?, hfound]
        rw [FileSystem.walk_of_vacant hproper hplain.length_le ⟨entries, rfl⟩ hvacant]
        simp [Node.putAt_directory_singleton]
    | some node =>
        obtain ⟨held, time, rfl⟩ := hfree node hfound
        have hfile : (Node.directory entries).at? ([] ++ [name]) = some (.file held time) := by
          simp [Node.at?, hfound]
        have hfit : FileSystem.Fit [name] :=
          List.forall_mem_singleton.mpr ⟨hproper, hplain.length_le⟩
        rw [FileSystem.walk_of_file hfit (List.cons_ne_nil _ _) hfile]
        simp [Node.putAt_directory_singleton]
  simp only [FileSystem.writeGuarded, FileSystem.createParents, hplain.parent?_eq, if_true,
    hwritten]

theorem writeGuarded_state_new (text : ByteArray) :
    (outThen []).writeGuarded keptPath text =
      (outThen [(stateName, .file text 0)], .ok ()) := by
  obtain ⟨hout, -, -⟩ := names_apart
  refine (writeGuarded_of_isPlain isPlain_keptPath ?_ text).trans ?_
  · simp [Node.find?, hout]
  · simp [Node.putEntry, hout, outThen]

theorem writeGuarded_document_new (state text : ByteArray) :
    (outThen [(stateName, .file state 0)]).writeGuarded partialPath text =
      (started state text, .ok ()) := by
  obtain ⟨-, hout, hstate⟩ := names_apart
  refine (writeGuarded_of_isPlain isPlain_partialPath ?_ text).trans ?_
  · simp [Node.find?, hout, hstate]
  · simp [Node.putEntry, hout, hstate, outThen, started]

theorem writeGuarded_state_again (state document text : ByteArray) :
    (started state document).writeGuarded keptPath text = (started text document, .ok ()) := by
  obtain ⟨hout, -, -⟩ := names_apart
  refine (writeGuarded_of_isPlain isPlain_keptPath ?_ text).trans ?_
  · simp [Node.find?, hout]
  · simp [Node.putEntry, hout, outThen, started]

theorem node?_started_out (state document : ByteArray) :
    (started state document).node? true (Path.ofString "out") = some (.directory []) := by
  unfold started outThen
  rw [FileSystem.node?_of_root isPlain_out.leadsTo isPlain_out.isUsable_eq isPlain_out.length_le
    (by simp [Node.find?])]
  simp [Node.find?]

theorem isDirectory_started_missing (state document : ByteArray) :
    (started state document).isDirectory (Path.ofString "missing") = false := by
  have hapart : outName ≠ Utf8.encode "missing" ∧ stateName ≠ Utf8.encode "missing" ∧
      partialName ≠ Utf8.encode "missing" :=
    ⟨mt Utf8.encode_injective (by decide), mt Utf8.encode_injective (by decide),
      mt Utf8.encode_injective (by decide)⟩
  unfold FileSystem.isDirectory started outThen
  rw [FileSystem.node?_of_root isPlain_missing.leadsTo isPlain_missing.isUsable_eq
    isPlain_missing.length_le (by simp [Node.find?, hapart])]
  simp [Node.find?, hapart]

theorem exists_watcherFor {sources : List String} {stores : List Store}
    (hstores : (watcherFor {} "gcb://proj/b-1" sources).toOption.map Watcher.stores =
      some stores) :
    ∃ watcher, watcherFor {} "gcb://proj/b-1" sources = .ok watcher ∧ watcher.stores = stores := by
  obtain ⟨watcher, hwatcher, hsame⟩ := Option.map_eq_some_iff.mp hstores
  exact ⟨watcher, Result.toOption_eq_some_iff.mp hwatcher, hsame⟩

/-- The snapshots of no store, and of the empty directory. -/
def emptyState : SnapshotState := .ofSnapshots []

def outState : SnapshotState :=
  .ofSnapshots [⟨"file://out", Snapshot.ofNode (.directory [])⟩]

theorem exists_prepared_located (world : World Script) : ∃ watcher,
    prepared {} (scripted {} locatedCommand.specUrl) locatedCommand world = (.ok watcher, world) ∧
      watcher.state = emptyState := by
  have hstores : (watcherFor {} "gcb://proj/b-1" []).toOption.map Watcher.stores = some [] :=
    rfl
  obtain ⟨watcher, hwatcher, hnone⟩ := exists_watcherFor hstores
  refine ⟨watcher, ?_, ?_⟩
  · unfold prepared
    refine (Action.bind_apply_of_ok (Action.lift_eq_ok_iff.mpr ⟨hwatcher, rfl⟩)).trans ?_
    simp only [Action.within, snap, Watcher.snap, hnone]
    rfl
  · unfold Watcher.state
    rw [hnone]
    rfl

theorem exists_prepared_missing {world : World Script}
    (hout : world.files.node? true (Path.ofString "out") = some (.directory [])) : ∃ watcher,
    prepared {} (scripted {} missingCommand.specUrl) missingCommand world = (.ok watcher, world) ∧
      watcher.state = outState := by
  have hstores : (watcherFor {} "gcb://proj/b-1" ["file://out"]).toOption.map Watcher.stores =
      some [⟨"file://out", .directory ⟨"out"⟩⟩] := rfl
  obtain ⟨watcher, hwatcher, hone⟩ := exists_watcherFor hstores
  refine ⟨watcher.keep "file://out" (Snapshot.ofNode (.directory [])), ?_, ?_⟩
  · have hsnap : (FileTree.mk "out").snap world.files =
        .ok (Snapshot.ofNode (.directory [])) := FileTree.snap_of_directory hout
    unfold prepared
    refine (Action.bind_apply_of_ok (Action.lift_eq_ok_iff.mpr ⟨hwatcher, rfl⟩)).trans ?_
    simp only [Action.within, snap, Watcher.snap, hone, Watcher.snapStores, Store.snap, hsnap]
    rfl
  · unfold Watcher.state Watcher.keep
    simp [hone, outState]

theorem exists_texts_apart : ∃ earlier later, emptyState.toJson = .ok earlier ∧
    outState.toJson = .ok later ∧ earlier ≠ later := by
  have hearlier : emptyState.toJson.toOption.isSome = true := by decide +kernel
  have hlater : outState.toJson.toOption.isSome = true := by decide +kernel
  have hne : emptyState.toJson.toOption ≠ outState.toJson.toOption := by decide +kernel
  obtain ⟨earlier, hearlier⟩ := Option.isSome_iff_exists.mp hearlier
  obtain ⟨later, hlater⟩ := Option.isSome_iff_exists.mp hlater
  refine ⟨earlier, later, Result.toOption_eq_some_iff.mp hearlier,
    Result.toOption_eq_some_iff.mp hlater, ?_⟩
  rintro rfl
  exact hne (hearlier.trans hlater.symm)

/-- A world with some files in which nothing answers. -/
def worldWith (files : FileSystem) : World Script := ⟨files, ⟨[], []⟩, ""⟩

theorem saveState_keptPath {text : ByteArray} {written : FileSystem}
    (hstate : watcher.state.toJson = .ok text)
    (hwritten : files.writeGuarded keptPath text = (written, .ok ())) :
    saveState watcher (statePath? none (some partialPath)) (worldWith files) =
      (.ok (), worldWith written) := by
  have hpath : statePath? none (some partialPath) = some keptPath := by decide +kernel
  have hsaved : watcher.save files keptPath = (written, .ok ()) := by
    simp only [Watcher.save, SnapshotState.save, hstate, hwritten, Result.within_ok]
  rw [hpath]
  exact saveState_some hsaved

theorem exists_run_located {state : ByteArray} (hstate : emptyState.toJson = .ok state) :
    ∃ document, run scripted locatedArguments (worldWith (outThen [])) =
      ⟨0, none, worldWith (started state document)⟩ := by
  obtain ⟨watcher, hprepared, hwatcher⟩ := exists_prepared_located (worldWith (outThen []))
  obtain ⟨document, hdocument, -⟩ := Watcher.startAttestation_ofJson
    (watcher.addMaterial "git+https://example.org/app@0001")
  rw [← hwatcher] at hstate
  have hover : handOver locatedCommand watcher (worldWith (outThen [])) =
      (.ok (), worldWith (started state document)) := by
    refine (Action.bind_apply_of_ok
      (saveState_keptPath hstate (writeGuarded_state_new state))).trans ?_
    refine (Action.bind_apply_of_ok (addCheckout_apply rfl)).trans ?_
    refine (Action.bind_apply_of_ok (Action.lift_eq_ok_iff.mpr ⟨hdocument, rfl⟩)).trans ?_
    exact Action.bind_apply_of_ok (emit_some (writeGuarded_document_new state document))
  refine ⟨document, run_of_ok parse_locatedArguments ?_⟩
  rw [execute_start rfl rfl, Action.bind_apply_of_ok hprepared]
  exact hover

/-- What a start says when the checkout is missing. -/
def missingError : Error := (Error.of (.notRepositoryDirectory "missing")).within .fetchingVcs

theorem run_missing {state later document : ByteArray} (hlater : outState.toJson = .ok later) :
    run scripted missingArguments (worldWith (started state document)) =
      ⟨1, some missingError, worldWith (started later document)⟩ := by
  have hout := node?_started_out state document
  obtain ⟨watcher, hprepared, hwatcher⟩ :=
    @exists_prepared_missing (worldWith (started state document)) hout
  rw [← hwatcher] at hlater
  have hlocator : locatorFor none (some (Path.ofString "missing")) (started later document) =
      .error missingError := by
    have hshown : (Path.ofString "missing").display = "missing" :=
      FileName.display_encode "missing"
    simp [locatorFor, Checkout.locatorOf?, isDirectory_started_missing, hshown, Result.fail,
      missingError]
  have hasked : addCheckout watcher none (some (Path.ofString "missing"))
      (worldWith (started later document)) =
        (.error missingError, worldWith (started later document)) := by
    rw [addCheckout_apply hlocator]
    rfl
  refine run_of_error parse_missingArguments ?_
  rw [execute_start rfl rfl, Action.bind_apply_of_ok hprepared]
  refine (Action.bind_apply_of_ok
    (saveState_keptPath hlater (writeGuarded_state_again state document later))).trans ?_
  exact Action.bind_apply_of_error hasked

/-- A start that fails for a missing checkout replaces the snapshots of the start before it,
and leaves the partial attestation of that start next to them. -/
theorem snapshots_replaced_where_checkout_missing : ∃ state later document, state ≠ later ∧
    run scripted locatedArguments (worldWith (outThen [])) =
      ⟨0, none, worldWith (started state document)⟩ ∧
    run scripted missingArguments (worldWith (started state document)) =
      ⟨1, some missingError, worldWith (started later document)⟩ := by
  obtain ⟨state, later, hstate, hlater, hne⟩ := exists_texts_apart
  obtain ⟨document, hrun⟩ := exists_run_located hstate
  exact ⟨state, later, document, hne, hrun, run_missing hlater⟩

theorem not_unwritten_missingError {fs after : FileSystem} :
    ¬Unwritten missingCommand watcher fs after missingError := by
  intro hunwritten
  generalize herror : missingError = error at hunwritten
  cases hunwritten with
  | state hpath htext hfailed => simp [missingError, Error.within] at herror
  | attestation hsaved hpath hfailed =>
      obtain ⟨context, rfl⟩ := FileSystem.exists_faultIn_of_writeGuarded hfailed
      simp [missingError, Error.within, FileSystem.faultIn, Error.of, Error.ofFault] at herror
  | message hhanded hpath hfailed => cases hpath

theorem run_start_leaves_unlocated : ∃ state later document watcher,
    run scripted missingArguments (worldWith (started state document)) =
        ⟨1, some missingError, worldWith (started later document)⟩ ∧
      Unlocated missingCommand watcher (started state document) (started later document)
        missingError := by
  obtain ⟨state, later, -, hlater, hne⟩ := exists_texts_apart
  have hrun := @run_missing state later ByteArray.empty hlater
  have hleaves := (run_start_leaves scripted (worldWith (started state ByteArray.empty))
    parse_missingArguments rfl).1 missingError (by rw [hrun])
  rw [hrun] at hleaves
  rcases hleaves with hfiles | ⟨watcher, taken, -, hunwritten | hunlocated | hunread⟩
  · simp [worldWith, started, outThen, hne.symm] at hfiles
  · exact absurd hunwritten not_unwritten_missingError
  · exact ⟨state, later, _, watcher, hrun, hunlocated⟩
  · exact absurd rfl hunread.message_ne

end BuildProvenance.CommandLine
