import BuildProvenance.FileSystem.Path
import BuildProvenance.Text.Cut

/-!
# Arguments of the command line

There are three commands: `attest` watches a run and attests it, `start` and
`finish` do the same in two steps.  Options may stand anywhere after their
command, with their value behind an equals sign or as the next word.  What
follows `--` is never an option.  Most options may be given once; paths must
not be empty.
-/

namespace BuildProvenance

structure AttestCommand where
  specUrl : String
  sources : List String
  locator : Option String
  checkout : Option Path
  /-- Kept snapshots to compare with, instead of taking them now. -/
  snapshots : Option Path
  output : Option Path
  /-- Whether to wait for the end of the run. -/
  waits : Bool
  deriving DecidableEq

structure StartCommand where
  specUrl : String
  sources : List String
  locator : Option String
  checkout : Option Path
  output : Option Path
  snapshots : Option Path
  message : Option Path
  deriving DecidableEq

structure FinishCommand where
  specUrl : String
  attestation : Path
  sources : List String
  snapshots : Option Path
  output : Option Path
  deriving DecidableEq

inductive Command where
  | attest (command : AttestCommand)
  | start (command : StartCommand)
  | finish (command : FinishCommand)
  deriving DecidableEq

structure CommandLine where
  config : Option Path
  command : Command
  deriving DecidableEq

namespace CommandLine

/-- Why no command is run. -/
inductive Refusal where
  /-- The arguments make no sense. -/
  | usage
  /-- Only help or the version was asked for. -/
  | shown
  deriving DecidableEq

/-- What kind of value an option takes. -/
inductive ValueKind where
  | flag
  | text
  | path
  | texts
  deriving DecidableEq

structure Rule where
  name : String
  kind : ValueKind
  deriving DecidableEq

/-- One argument by its form. -/
inductive Word where
  | plain
  | ending
  | long (name : String) (value : Option String)
  | short (letter : Char)
  deriving DecidableEq

def Word.of (argument : String) : Word :=
  match argument.toList with
  | ['-', '-'] => .ending
  | '-' :: '-' :: rest =>
    match Text.cutFirst? '=' rest with
    | some (name, value) => .long (String.ofList name) (some (String.ofList value))
    | none => .long (String.ofList rest) none
  | '-' :: letter :: _ => .short letter
  | _ => .plain

/-- What was given so far. -/
structure Given where
  words : List String
  options : List (String × String)
  deriving DecidableEq

namespace Given

def first? (given : Given) (name : String) : Option String :=
  (given.options.find? fun option => option.1 == name).map Prod.snd

def path? (given : Given) (name : String) : Option Path := (given.first? name).map Path.ofString

def has (given : Given) (name : String) : Bool := (given.first? name).isSome

/-- All values of an option that takes several, which commas may separate. -/
def texts (given : Given) (name : String) : List String :=
  (given.options.filter fun option => option.1 == name).flatMap fun option =>
    (Text.parts ',' option.2.toList).map String.ofList

/-- Takes one more option. -/
def take (given : Given) (rule : Rule) (value : String) : Except Refusal Given :=
  if rule.kind ≠ .texts ∧ given.has rule.name then .error .usage
  else if rule.kind = .path ∧ value = "" then .error .usage
  else .ok { given with options := given.options ++ [(rule.name, value)] }

/-- Takes one more word, of which a command has one. -/
def takeWord (given : Given) (word : String) : Except Refusal Given :=
  if given.words = [] then .ok { given with words := [word] } else .error .usage

/-- Takes words that cannot be options. -/
def takeWords (given : Given) : List String → Except Refusal Given
  | [] => .ok given
  | word :: rest =>
    match given.takeWord word with
    | .error refusal => .error refusal
    | .ok given => takeWords given rest

end Given

/-- Reads the arguments of a command. -/
def scan (rules : List Rule) (given : Given) : List String → Except Refusal Given
  | [] => .ok given
  | argument :: rest =>
    match Word.of argument with
    | .plain =>
      match given.takeWord argument with
      | .error refusal => .error refusal
      | .ok given => scan rules given rest
    | .ending => given.takeWords rest
    | .short letter => .error (if letter = 'h' then .shown else .usage)
    | .long "help" none => .error .shown
    | .long name value =>
      match rules.find? fun rule => rule.name == name with
      | none => .error .usage
      | some rule =>
        if rule.kind = .flag then
          if value.isSome then .error .usage
          else
            match given.take rule "" with
            | .error refusal => .error refusal
            | .ok given => scan rules given rest
        else
          match value, rest with
          | some value, rest =>
            match given.take rule value with
            | .error refusal => .error refusal
            | .ok given => scan rules given rest
          | none, [] => .error .usage
          | none, value :: rest =>
            if Word.of value ≠ .plain then .error .usage
            else
              match given.take rule value with
              | .error refusal => .error refusal
              | .ok given => scan rules given rest

def configRule : Rule := ⟨"config", .path⟩

def attestRules : List Rule :=
  [configRule, ⟨"artifacts", .texts⟩, ⟨"vcs-url", .text⟩, ⟨"repo-path", .path⟩,
    ⟨"snapshots", .path⟩, ⟨"output", .path⟩, ⟨"no-watch", .flag⟩]

def startRules : List Rule :=
  [configRule, ⟨"artifacts", .texts⟩, ⟨"vcs-url", .text⟩, ⟨"repo-path", .path⟩,
    ⟨"output", .path⟩, ⟨"snapshots", .path⟩, ⟨"pubsub-message", .path⟩]

def finishRules : List Rule :=
  [configRule, ⟨"attestation", .path⟩, ⟨"artifacts", .texts⟩, ⟨"snapshots", .path⟩,
    ⟨"output", .path⟩]

def attestOf? (given : Given) : Option Command := do
  let specUrl ← given.words.head?
  return .attest {
    specUrl
    sources := given.texts "artifacts"
    locator := given.first? "vcs-url"
    checkout := given.path? "repo-path"
    snapshots := given.path? "snapshots"
    output := given.path? "output"
    waits := !given.has "no-watch" }

def startOf? (given : Given) : Option Command := do
  let specUrl ← given.words.head?
  return .start {
    specUrl
    sources := given.texts "artifacts"
    locator := given.first? "vcs-url"
    checkout := given.path? "repo-path"
    output := given.path? "output"
    snapshots := given.path? "snapshots"
    message := given.path? "pubsub-message" }

def finishOf? (given : Given) : Option Command := do
  let specUrl ← given.words.head?
  let attestation ← given.path? "attestation"
  return .finish {
    specUrl
    attestation
    sources := given.texts "artifacts"
    snapshots := given.path? "snapshots"
    output := given.path? "output" }

/-- Reads a command with its own arguments.  A configuration that is named
among them stands for one that was named before. -/
def ofCommand (config : Option Path) (rules : List Rule) (read : Given → Option Command)
    (arguments : List String) : Except Refusal CommandLine := do
  let given ← scan rules ⟨[], []⟩ arguments
  match read given with
  | some command => return ⟨(given.path? "config").or config, command⟩
  | none => throw .usage

/-- Help on one command or on all of them. -/
def helpOn (words : List String) : Refusal :=
  match words with
  | [] => .shown
  | [word] => if word ∈ ["attest", "start", "finish", "help"] then .shown else .usage
  | _ => .usage

/-- Reads arguments up to the command and then those of the command. -/
def parseFrom (config : Option Path) : List String → Except Refusal CommandLine
  | [] => .error .usage
  | argument :: rest =>
    match Word.of argument with
    | .ending => .error .usage
    | .short letter => .error (if letter = 'h' ∨ letter = 'V' then .shown else .usage)
    | .plain =>
      match argument with
      | "attest" => ofCommand config attestRules attestOf? rest
      | "start" => ofCommand config startRules startOf? rest
      | "finish" => ofCommand config finishRules finishOf? rest
      | "help" => .error (helpOn rest)
      | _ => .error .usage
    | .long "help" none => .error .shown
    | .long "version" none => .error .shown
    | .long "config" value =>
      if config.isSome then .error .usage
      else
        match value, rest with
        | some value, rest =>
          if value = "" then .error .usage else parseFrom (some (Path.ofString value)) rest
        | none, [] => .error .usage
        | none, value :: rest =>
          if Word.of value ≠ .plain ∨ value = "" then .error .usage
          else parseFrom (some (Path.ofString value)) rest
    | .long _ _ => .error .usage

def parse (arguments : List String) : Except Refusal CommandLine := parseFrom none arguments

end CommandLine

end BuildProvenance
