import BuildProvenance.Watch.Provenance

/-!
# The world of a command

A command reads and writes files, asks the world outside, and prints.
-/

namespace BuildProvenance

structure World (σ : Type) where
  files : FileSystem
  outside : σ
  printed : String

/-- What a watcher asks: a build system and the stores. -/
structure Clients (σ : Type) where
  api : ApiClient σ
  stores : StoreClients σ

namespace World

variable {σ α : Type}

def ask (action : Action σ α) : Action (World σ) α := fun world =>
  match action world.outside with
  | (result, outside) => (result, { world with outside })

def asking (action : FileSystem → Action σ α) : Action (World σ) α := fun world =>
  ask (action world.files) world

def reading (read : FileSystem → Result α) : Action (World σ) α := fun world =>
  (read world.files, world)

def writing (write : FileSystem → FileSystem × Result α) : Action (World σ) α := fun world =>
  match write world.files with
  | (files, result) => (result, { world with files })

def print (text : String) : Action (World σ) Unit := fun world =>
  (.ok (), { world with printed := world.printed ++ text })

/-- A snapshot of every store of the watcher. -/
def snap (watcher : Watcher) (clients : Clients σ) : Action (World σ) Watcher := fun world =>
  match watcher.snap clients.stores world.files world.outside with
  | ((watcher, result), outside) => (result.map fun _ => watcher, { world with outside })

/-- Watches a run to its end. -/
def watch (watcher : Watcher) (clients : Clients σ) (run : Run) : Action (World σ) Run :=
  fun world =>
    match watcher.builder.watch clients.api false run world.outside with
    | (watched, outside) => (watched.result.map fun _ => watched.run, { world with outside })

end World

end BuildProvenance
