import BuildProvenance.CommandLine.Commands
import BuildProvenance.Proofs.Action
import BuildProvenance.Proofs.Build.Running
import BuildProvenance.Proofs.FileSystem.Frame
import BuildProvenance.Proofs.Service

/-!
# What a command writes

Up to the attestation that it completes, a command only looks at files.  The
attestation is then written to the output, if there is one, and printed
otherwise.  So a command that fails has changed no file, unless it was the
output that could not be written.
-/

namespace BuildProvenance.CommandLine

open World

variable {σ α β : Type} {world after : World σ}

/-! ## Actions that write nothing -/

/-- Leaves all files, and what was printed, as they are. -/
def Quiet (action : Action (World σ) α) : Prop :=
  ∀ world, (action world).2.files = world.files ∧ (action world).2.printed = world.printed

theorem quiet_pure (value : α) : Quiet (pure value : Action (World σ) α) :=
  fun _ => ⟨rfl, rfl⟩

theorem quiet_lift (result : Result α) : Quiet (Action.lift result : Action (World σ) α) :=
  fun _ => ⟨rfl, rfl⟩

theorem quiet_reading (read : FileSystem → Result α) :
    Quiet (reading read : Action (World σ) α) :=
  fun _ => ⟨rfl, rfl⟩

theorem quiet_ask (action : Action σ α) : Quiet (ask action) := fun _ => ⟨rfl, rfl⟩

theorem quiet_asking (action : FileSystem → Action σ α) : Quiet (asking action) :=
  fun _ => ⟨rfl, rfl⟩

theorem quiet_snap (watcher : Watcher) (clients : Clients σ) : Quiet (snap watcher clients) :=
  fun _ => ⟨rfl, rfl⟩

theorem quiet_watch (watcher : Watcher) (clients : Clients σ) (run : Run) :
    Quiet (watch watcher clients run) :=
  fun _ => ⟨rfl, rfl⟩

theorem Quiet.within {action : Action (World σ) α} (hquiet : Quiet action) (context : Context) :
    Quiet (action.within context) := hquiet

theorem Quiet.bind {action : Action (World σ) α} {next : α → Action (World σ) β}
    (hquiet : Quiet action) (hnext : ∀ value, Quiet (next value)) : Quiet (action >>= next) := by
  intro world
  have hfirst := hquiet world
  cases haction : action world with
  | mk result between =>
      rw [haction] at hfirst
      cases result with
      | error error =>
          rw [Action.bind_apply_of_error haction]
          exact hfirst
      | ok value =>
          rw [Action.bind_apply_of_ok haction]
          have hrest := hnext value between
          exact ⟨hrest.1.trans hfirst.1, hrest.2.trans hfirst.2⟩

theorem quiet_addCheckout (watcher : Watcher) (locator : Option String) (checkout : Option Path) :
    Quiet (addCheckout watcher locator checkout : Action (World σ) Watcher) :=
  (quiet_reading _).bind fun _ => quiet_pure _

theorem quiet_withSnapshots (watcher : Watcher) (clients : Clients σ) (path : Option Path) :
    Quiet (withSnapshots watcher clients path) := by
  cases path with
  | none => exact (quiet_snap watcher clients).within _
  | some path => exact quiet_reading _

theorem quiet_awaited (watcher : Watcher) (clients : Clients σ) (waits : Bool) (run : Run) :
    Quiet (awaited watcher clients waits run) := by
  cases waits with
  | false => exact quiet_pure run
  | true => exact quiet_watch watcher clients run

theorem quiet_attested (config : Config) (clients : Clients σ) (command : AttestCommand) :
    Quiet (attested config clients command) := by
  unfold attested
  apply (quiet_lift _).bind
  intro watcher
  apply (quiet_withSnapshots _ _ _).bind
  intro watcher
  apply (quiet_addCheckout _ _ _).bind
  intro watcher
  apply (quiet_ask _).bind
  intro run
  apply (quiet_awaited _ _ _ _).bind
  intro run
  exact quiet_asking _

theorem quiet_finished (config : Config) (clients : Clients σ) (command : FinishCommand) :
    Quiet (finished config clients command) := by
  unfold finished
  apply (quiet_reading _).bind
  intro started
  apply (quiet_lift _).bind
  intro watcher
  apply (quiet_reading _).bind
  intro watcher
  apply (quiet_ask _).bind
  intro run
  apply (quiet_watch _ _ _).bind
  intro run
  exact quiet_asking _

/-! ## Commands that complete an attestation -/

/-- The command completes an attestation, which goes to the output. -/
inductive CompletesTo : Command → Option Path → Prop
  | attest (command : AttestCommand) : CompletesTo (.attest command) command.output
  | finish (command : FinishCommand) : CompletesTo (.finish command) command.output

/-- The attestation that the command of a line completes, and the world once it is complete. -/
inductive Completes (connect : Config → String → Clients σ) (line : CommandLine)
    (world : World σ) : Attestation → World σ → Prop
  | attest {command : AttestCommand} {config : Config} {attestation : Attestation}
      {after : World σ} (hcommand : line.command = .attest command)
      (hconfig : Config.load world.files line.config = .ok config)
      (hattested : attested config (connect config command.specUrl) command world =
        (.ok attestation, after)) : Completes connect line world attestation after
  | finish {command : FinishCommand} {config : Config} {attestation : Attestation}
      {after : World σ} (hcommand : line.command = .finish command)
      (hconfig : Config.load world.files line.config = .ok config)
      (hfinished : finished config (connect config command.specUrl) command world =
        (.ok attestation, after)) : Completes connect line world attestation after

variable {connect : Config → String → Clients σ} {arguments : List String} {line : CommandLine}
  {output : Option Path} {attestation : Attestation} {text : ByteArray} {error : Error}

theorem publish_of_text (htext : attestation.toJson = .ok text) (output : Option Path)
    (world : World σ) : publish attestation output world = emit text output world := by
  unfold publish
  rw [htext]
  rfl

theorem publish_of_no_text (htext : attestation.toJson = .error error) (output : Option Path)
    (world : World σ) : publish attestation output world = (.error error, world) := by
  unfold publish
  rw [htext]
  rfl

theorem emit_none (text : ByteArray) (world : World σ) : emit text none world =
    (.ok (), { world with printed := world.printed ++ (Utf8.decodeLossy text.toList ++ "\n") }) :=
  rfl

theorem emit_some {path : Path} {files : FileSystem} {result : Result Unit}
    (hwritten : world.files.writeGuarded path text = (files, result)) :
    emit text (some path) world = (result, { world with files }) := by
  simp only [emit, writing, hwritten]

/-- An action that writes nothing fails without a trace, or the text of its attestation is
all that is written or printed. -/
theorem Quiet.bind_publish {completing : Action (World σ) Attestation} (hquiet : Quiet completing)
    (output : Option Path) (world : World σ) :
    (∃ error after, (completing >>= fun attestation => publish attestation output) world =
        (.error error, after) ∧ after.files = world.files) ∨
      ∃ attestation after text, completing world = (.ok attestation, after) ∧
        attestation.toJson = .ok text ∧ after.files = world.files ∧
        after.printed = world.printed ∧
        (completing >>= fun attestation => publish attestation output) world =
          emit text output after := by
  have hkept := hquiet world
  cases hcompleting : completing world with
  | mk result after =>
      rw [hcompleting] at hkept
      cases result with
      | error error =>
          exact Or.inl ⟨error, after, Action.bind_apply_of_error hcompleting, hkept.1⟩
      | ok attestation =>
          rw [Action.bind_apply_of_ok hcompleting]
          cases htext : attestation.toJson with
          | error error =>
              exact Or.inl ⟨error, after, publish_of_no_text htext output after, hkept.1⟩
          | ok text =>
              exact Or.inr ⟨attestation, after, text, rfl, htext, hkept.1, hkept.2,
                publish_of_text htext output after⟩

theorem reading_config {result : Result Config}
    (hconfig : Config.load world.files line.config = result) :
    reading (fun fs => Config.load fs line.config) world = (result, world) := by
  rw [← hconfig]
  rfl

theorem execute_attest {command : AttestCommand} {config : Config}
    (hcommand : line.command = .attest command)
    (hconfig : Config.load world.files line.config = .ok config) :
    execute connect line world =
      (attested config (connect config command.specUrl) command >>= fun attestation =>
        publish attestation command.output) world := by
  unfold execute
  rw [Action.bind_apply_of_ok (reading_config hconfig), hcommand]
  rfl

theorem execute_finish {command : FinishCommand} {config : Config}
    (hcommand : line.command = .finish command)
    (hconfig : Config.load world.files line.config = .ok config) :
    execute connect line world =
      (finished config (connect config command.specUrl) command >>= fun attestation =>
        publish attestation command.output) world := by
  unfold execute
  rw [Action.bind_apply_of_ok (reading_config hconfig), hcommand]
  rfl

theorem execute_cases (connect : Config → String → Clients σ)
    (houtput : CompletesTo line.command output) (world : World σ) :
    (∃ error after, execute connect line world = (.error error, after) ∧
        after.files = world.files) ∨
      ∃ attestation after text, Completes connect line world attestation after ∧
        attestation.toJson = .ok text ∧ after.files = world.files ∧
        after.printed = world.printed ∧ execute connect line world = emit text output after := by
  cases hconfig : Config.load world.files line.config with
  | error error =>
      exact Or.inl ⟨error, world, Action.bind_apply_of_error (reading_config hconfig), rfl⟩
  | ok config =>
      generalize hcommand : line.command = command at houtput
      cases houtput with
      | attest command =>
          rw [execute_attest hcommand hconfig]
          apply ((quiet_attested _ _ _).bind_publish command.output world).imp_right
          rintro ⟨attestation, after, text, hattested, hemitted⟩
          exact ⟨attestation, after, text, .attest hcommand hconfig hattested, hemitted⟩
      | finish command =>
          rw [execute_finish hcommand hconfig]
          apply ((quiet_finished _ _ _).bind_publish command.output world).imp_right
          rintro ⟨attestation, after, text, hfinished, hemitted⟩
          exact ⟨attestation, after, text, .finish hcommand hconfig hfinished, hemitted⟩

theorem run_of_ok (hline : parse arguments = .ok line)
    (hexecute : execute connect line world = (.ok (), after)) :
    run connect arguments world = ⟨0, none, after⟩ := by
  simp only [run, hline, hexecute]

theorem run_of_error (hline : parse arguments = .ok line)
    (hexecute : execute connect line world = (.error error, after)) :
    run connect arguments world = ⟨1, some error, after⟩ := by
  simp only [run, hline, hexecute]

/-- Whatever the arguments, the files and the answers from outside are: a command that
completes an attestation changes no file when it fails, unless it fails to write its output,
and even then it leaves no more than directories behind.  When it succeeds, the output holds
the document of the attestation, and directories on the way to it are all that is new beside
it; without an output no file changes, and the document is printed. -/
theorem run_writes_output_only (connect : Config → String → Clients σ) (arguments : List String)
    (world : World σ) :
    (∀ refusal, parse arguments = .error refusal → (run connect arguments world).world = world) ∧
    ∀ line output, parse arguments = .ok line → CompletesTo line.command output →
      (∀ error, (run connect arguments world).error = some error →
        (run connect arguments world).world.files = world.files ∨
          ∃ attestation completed text path,
            Completes connect line world attestation completed ∧
            attestation.toJson = .ok text ∧ output = some path ∧
            world.files.writeGuarded path text =
              ((run connect arguments world).world.files, .error error) ∧
            world.files.Adds (run connect arguments world).world.files
              ((run connect arguments world).world.files.above path)) ∧
      ((run connect arguments world).code = 0 →
        ∃ attestation completed text,
          Completes connect line world attestation completed ∧ attestation.toJson = .ok text ∧
          (output = none → (run connect arguments world).world.files = world.files ∧
            (run connect arguments world).world.printed =
              world.printed ++ (Utf8.decodeLossy text.toList ++ "\n")) ∧
          ∀ path, output = some path →
            world.files.Wrote (run connect arguments world).world.files path text) := by
  constructor
  · intro refusal hrefused
    cases refusal <;> simp only [run, hrefused]
  intro line output hline houtput
  obtain ⟨error, after, hexecute, hfiles⟩ | ⟨attestation, completed, text, hcompletes, htext,
    hfiles, hprinted, hexecute⟩ := execute_cases connect houtput world
  · rw [run_of_error hline hexecute]
    exact ⟨fun _ _ => Or.inl hfiles, fun hcode => nomatch hcode⟩
  cases output with
  | none =>
      rw [emit_none, hprinted] at hexecute
      rw [run_of_ok hline hexecute]
      refine ⟨fun _ herror => (nomatch herror), fun _ => ?_⟩
      exact ⟨attestation, completed, text, hcompletes, htext, fun _ => ⟨hfiles, rfl⟩,
        fun path hpath => nomatch hpath⟩
  | some path =>
      cases hwritten : world.files.writeGuarded path text with
      | mk files result =>
          have hemitted := hwritten
          rw [← hfiles] at hemitted
          rw [emit_some hemitted] at hexecute
          cases result with
          | error error =>
              rw [run_of_error hline hexecute]
              refine ⟨fun other hother => Or.inr ?_, fun hcode => nomatch hcode⟩
              cases hother
              exact ⟨attestation, completed, text, path, hcompletes, htext, rfl, hwritten,
                FileSystem.adds_of_writeGuarded hwritten⟩
          | ok value =>
              rw [run_of_ok hline hexecute]
              refine ⟨fun _ herror => (nomatch herror), fun _ => ?_⟩
              refine ⟨attestation, completed, text, hcompletes, htext, fun hnone => (nomatch hnone),
                fun other hother => ?_⟩
              cases hother
              exact FileSystem.wrote_of_writeGuarded hwritten

theorem parse_of_toOption (hsome : (parse arguments).toOption = some line) :
    parse arguments = .ok line := by
  cases hparse : parse arguments with
  | error refusal => simp [hparse, Except.toOption] at hsome
  | ok found => simpa [hparse, Except.toOption] using hsome

/-! A build that is over when it is first asked for, in an empty file system. -/

/-- The build system answers from a script, and no store answers at all. -/
def scripted (_ : Config) (_ : String) : Clients Script :=
  ⟨Script.client, .silent⟩

def builtWorld : World Script :=
  ⟨FileSystem.empty 0, ⟨[.ok (Builder.statusWith "SUCCESS" "id" "b-1")], []⟩, ""⟩

def buildCommand : AttestCommand where
  specUrl := "gcb://proj/b-1"
  sources := []
  locator := none
  checkout := none
  snapshots := none
  output := some (Path.ofString "out.json")
  waits := false

def buildArguments : List String :=
  ["attest", "--no-watch", "--output=out.json", "gcb://proj/b-1"]

theorem parse_buildArguments : parse buildArguments = .ok ⟨none, .attest buildCommand⟩ :=
  parse_of_toOption (by decide +kernel)

theorem exists_attested_buildCommand : ∃ attestation after text,
    attested {} (scripted {} buildCommand.specUrl) buildCommand builtWorld =
        (.ok attestation, after) ∧
      attestation.toJson = .ok text := by
  have hsome : ((attested {} (scripted {} buildCommand.specUrl) buildCommand
      builtWorld).1.toOption.bind
        fun attestation => attestation.toJson.toOption).isSome = true := by
    decide +kernel
  -- only the result is computed, the world after it can stay as it is
  generalize attested {} (scripted {} buildCommand.specUrl) buildCommand builtWorld = outcome
    at hsome ⊢
  obtain ⟨text, htext⟩ := Option.isSome_iff_exists.mp hsome
  obtain ⟨attestation, hattested, htext⟩ := Option.bind_eq_some_iff.mp htext
  rw [Result.toOption_eq_some_iff] at hattested htext
  exact ⟨attestation, outcome.2, text, Prod.ext hattested rfl, htext⟩

theorem exists_writeGuarded_output (text : ByteArray) : ∃ written,
    (FileSystem.empty 0).writeGuarded (Path.ofString "out.json") text = (written, .ok ()) := by
  have hleads : (Path.ofString "out.json").LeadsTo [Utf8.encode "out.json"] := by
    constructor
    · decide +kernel
    · decide +kernel
    · unfold FileName.IsProper
      decide +kernel
    · decide +kernel
  have hvacant : (FileSystem.empty 0).root.at?
      ((FileSystem.empty 0).workingDirectory ++ [Utf8.encode "out.json"]) = none := by
    simp [FileSystem.empty, Node.at?, Node.find?]
  obtain ⟨written, -, hguarded⟩ := FileSystem.exists_writeGuarded_of_vacant hleads
    (by decide +kernel) (by decide +kernel) (by decide +kernel) (FileSystem.holds_empty 0).here
    hvacant text
  exact ⟨written, hguarded⟩

theorem exists_execute_buildCommand : ∃ after,
    execute scripted ⟨none, .attest buildCommand⟩ builtWorld = (.ok (), after) := by
  obtain ⟨attestation, after, text, hattested, htext⟩ := exists_attested_buildCommand
  have hfiles : after.files = FileSystem.empty 0 := by
    have hquiet := (quiet_attested {} (scripted {} buildCommand.specUrl) buildCommand builtWorld).1
    rwa [hattested] at hquiet
  obtain ⟨written, hwritten⟩ := exists_writeGuarded_output text
  refine ⟨{ after with files := written }, ?_⟩
  rw [execute_attest rfl rfl, Action.bind_apply_of_ok hattested, publish_of_text htext]
  exact emit_some (by rw [hfiles, hwritten])

theorem run_writes_output_only_build : (run scripted buildArguments builtWorld).code = 0 ∧
    ∃ attestation completed text,
      Completes scripted ⟨none, .attest buildCommand⟩ builtWorld attestation completed ∧
      attestation.toJson = .ok text ∧
      builtWorld.files.Wrote (run scripted buildArguments builtWorld).world.files
        (Path.ofString "out.json") text := by
  have hcode : (run scripted buildArguments builtWorld).code = 0 := by
    obtain ⟨after, hexecute⟩ := exists_execute_buildCommand
    rw [run_of_ok parse_buildArguments hexecute]
  obtain ⟨-, hall⟩ := run_writes_output_only scripted buildArguments builtWorld
  obtain ⟨attestation, completed, text, hcompletes, htext, -, hwrote⟩ :=
    (hall _ _ parse_buildArguments (.attest buildCommand)).2 hcode
  exact ⟨hcode, attestation, completed, text, hcompletes, htext, hwrote _ rfl⟩

end BuildProvenance.CommandLine
