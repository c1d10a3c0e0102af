import Dramaturg.Application.Settings
import Dramaturg.Console.Arguments
import Dramaturg.Console.Disk
import Dramaturg.Json.Writer
import Dramaturg.Turn.Runner

set_option autoImplicit false

/-! # Console commands

`onboard` lays out a first configuration and story, `check` tells what a story holds, `prompt` shows
the messages of a turn without asking a model, and `turn` runs one. A command tells what it does
line by line; when it fails, what it has told until then stands. -/

namespace Dramaturg.Console

/-- Why a command failed. -/
inductive CommandFailure where
  /-- For a reason that is told in words. -/
  | told (message : String)
  | config (fault : ConfigFault)
  | disk (fault : DiskFault)
  | stopped (stop : Stop)
  /-- The machine had no memory left. -/
  | outOfMemory

namespace CommandFailure

/-- What is told about a failed command. -/
def message : CommandFailure → String
  | .told message => message
  | .config fault => fault.message
  | .disk fault => fault.message
  | .stopped (.failure failure) => failure.message
  | .stopped (.fault fault) => fault.message?.getD ""
  | .outOfMemory => ""

/-- What a diagnostic listing shows of a failed command. -/
def listing : CommandFailure → String
  | .told message => Text.listed message
  | .config fault => fault.listing
  | .disk fault => fault.listing
  | .stopped (.failure failure) => failure.listing
  | .stopped (.fault fault) => Text.listed (fault.message?.getD "")
  | .outOfMemory => Text.listed ""

/-- The code that the program ends with after a failed command. A fault has a code of its own, and
    a program that finds no memory is ended from outside and gives none. -/
def exitCode? : CommandFailure → Option Nat
  | .outOfMemory => none
  | .stopped (.fault _) => some 101
  | _ => some 1

end CommandFailure

/-- A command at work: it tells lines and may fail. -/
abbrev ConsoleT (m : Type → Type) : Type → Type := ExceptT CommandFailure (StateT String m)

/-- The environment of a command. -/
abbrev Environment : Type := String → Option String

variable {m : Type → Type} [Monad m]

/-- Tells a line. -/
def tell (line : String) : ConsoleT m Unit :=
  modify fun told => told ++ line ++ "\n"

/-- Does something that a disk may refuse. -/
def onDisk {α : Type} (work : m (Except DiskFault α)) (failure : DiskFault → CommandFailure) :
    ConsoleT m α := do
  match ← (liftM work : StateT String m _) with
  | .ok a => return a
  | .error fault => throw (failure fault)

/-! ## Configuration -/

/-- Where the configuration lies. -/
def configDir (env : Environment) : String :=
  joinPath ((env "HOME").getD "/tmp") ".vnchat"

/-- The path of the configuration file. -/
def configPath (env : Environment) : String :=
  joinPath (configDir env) "config.toml"

variable [MonadDisk m]

/-- What is found at the path of a configuration file. -/
def configFile (path : String) : m ConfigFile := do
  if ← MonadDisk.hasPath path then
    match ← MonadDisk.readText path with
    | .ok content => return .text content
    | .error fault => return .unreadable fault.message
  else return .missing

/-- The settings of the configuration file at a path. -/
def loadSettingsFrom (path : String) : m (Except ConfigFault AppSettings) := do
  return AppSettings.load path (← configFile path)

/-- The settings of the user: the file, with what the environment adds. -/
def loadSettings (env : Environment) : m (Except ConfigFault AppSettings) := do
  return (← loadSettingsFrom (configPath env)).map (·.withEnvironment env)

/-! ## Stories -/

/-- The files of a list of names in a directory. -/
def readFiles (dir : String) : List String → m (List StoryFile)
  | [] => return []
  | name :: names => do
    let file : StoryFile ←
      match ← MonadDisk.readText (joinPath dir name) with
      | .ok content => pure ⟨name, some content⟩
      | .error _ => pure ⟨name, none⟩
    return file :: (← readFiles dir names)

/-- The listing of a directory, with the contents of its files. -/
def listing (dir : String) : m Listing := do
  match ← MonadDisk.listNames dir with
  | .error fault => return .error (.io fault.message)
  | .ok names => return .ok (← readFiles dir names)

/-- The settings of the user and the story of a directory. -/
def loadStory (env : Environment) (dir : Option String) : ConsoleT m (AppSettings × Story) := do
  match ← (liftM (loadSettings env : m _) : StateT String m _) with
  | .error fault => throw (.told ("Failed to load config: " ++ fault.message))
  | .ok app =>
    let dir := dir.getD app.documentsDir
    let base : Settings := { pageMaxChars := app.pageMaxChars }
    match Story.ofDirectory base dir (← (liftM (listing dir : m _) : StateT String m _)) with
    | .error failure =>
      throw (.told ("Failed to load story documents from " ++ dir ++ ": " ++ failure.message))
    | .ok (_, story) => return (app, story)

/-- The transcript in a file; without one, nothing has been shown. -/
def readTranscript : Option String → ConsoleT m (List TranscriptEntry)
  | none => return []
  | some path => do
    let text ← onDisk (MonadDisk.readText path) fun fault =>
      .told ("Failed to read transcript " ++ path ++ ": " ++ fault.message)
    match TranscriptEntry.listOfText? text with
    | some entries => return entries
    | none => throw (.told ("Transcript " ++ path ++ " is not valid"))

/-! ## Commands -/

/-- Tells a number under a heading. -/
def tellCount (heading : String) (n : Nat) : ConsoleT m Unit :=
  tell ("  " ++ heading ++ toString n)

/-- Tells what a story holds, and what it lacks. -/
def check (env : Environment) (dir : Option String) : ConsoleT m Unit := do
  let (app, story) ← loadStory env dir
  let summary := story.summary
  tell "vnchat Check — Story Diagnostics"
  tell "================================\n"
  match story.source with
  | some dir => tell ("  Story directory: " ++ dir)
  | none => pure ()
  tellCount "Lore entries:    " summary.loreEntries
  tellCount "Character cards: " summary.characterCards
  tellCount "Backgrounds:     " summary.backgrounds
  tellCount "Music:           " summary.music
  tellCount "Scene rows:      " summary.sceneRows
  tellCount "Figures:         " summary.figures
  tell ("  Model:           " ++ story.settings.model.model)
  tell ""
  let hasKey := story.settings.model.apiKey.any (!·.isEmpty) || app.hasApiKey
  let lacksBack := story.settings.prompts.back.isEmpty
  let lacksFigures := summary.figures == 0
  if hasKey then tell "  ✅ API key configured"
  else tell "  ⚠️  No API key — set OPENROUTER_API_KEY or API_key in global.json"
  if lacksBack then
    tell ("  ⚠️  back_prompt is empty; some endpoints answer empty "
      ++ "without a trailing user message")
  if lacksFigures then tell "  ⚠️  figure_table is empty; speakers will not resolve"
  tell ""
  let issues := [!hasKey, lacksBack, lacksFigures].count true
  if issues = 0 then tell "  🎉 All checks passed!"
  else tell ("  ⚠️  " ++ toString issues ++ " issue(s) found. See above for details.")

/-- Whether a machine with so many bytes of memory fails where windows of these lengths are read one
    after the other. A window that no list can hold comes to a fault before any memory is asked for,
    and then the others are not read. -/
def lacksMemory (memory : Nat) : List Nat → Bool
  | [] => false
  | length :: lengths =>
    let size := length * Compactor.messageSize
    decide (size ≤ Compactor.listLimit) && (decide (memory < size) || lacksMemory memory lengths)

/-- Fails where the machine has no memory for the windows of a prompt. -/
def requireMemory (memory : Nat) (s : Settings) : ConsoleT m Unit :=
  if lacksMemory memory [s.loreSearchLength, s.contextItemLength] then throw .outOfMemory
  else pure ()

/-- Shows the messages of a turn. -/
def prompt (env : Environment) (memory : Nat) (say : String) (transcript dir : Option String) :
    ConsoleT m Unit := do
  let (_, story) ← loadStory env dir
  let entries ← readTranscript transcript
  requireMemory memory story.settings
  match story.buildPrompt (Compactor.ofSettings story.settings) say entries with
  | .error stop => throw (.stopped stop)
  | .ok (messages, _) => tell ((Json.array (messages.map Message.toJson)).pretty 0)

/-- Runs a turn and shows what it came to. -/
def turn (env : Environment) (memory : Nat) (connect : ProviderAccess → Model Unit)
    (random : Random.Source) (ids : IdSupply) (say : String) (transcript dir : Option String)
    (scene : String) (model : Option String) : ConsoleT m Unit := do
  let (app, story) ← loadStory env dir
  let entries ← readTranscript transcript
  match ProviderAccess.ofSettings app story.settings.model.apiKey with
  | .error failure =>
    throw (.told (failure.message ++ ". Set OPENROUTER_API_KEY, add api_key to " ++ configPath env
      ++ ", or set API_key in global.json"))
  | .ok access =>
    requireMemory memory story.settings
    let request : TurnRequest := { id := .zero, prompt := say, model := model }
    let (outcome, _, _) :=
      (Runner.new story random ids).run (connect access) request entries scene ()
    match outcome with
    | .error stop => throw (.stopped stop)
    | .ok outcome => tell (outcome.toJson.pretty 0)

/-- The first `global` document. -/
def starterGlobal : String :=
  "\x7b
  \"front_prompt\": \"You are the narrator of an interactive visual novel.\",
  \"format_prompt\": \"Begin every line with <<<speaker>>>. Separate lines spoken by different characters with >>>.\",
  \"back_prompt\": \"Continue the story.\",
  \"model\": \"anthropic/claude-3.7-sonnet\",
  \"temperature\": 0.7,
  \"max_tokens\": 10000,
  \"context_item_length\": 10,
  \"lore_search_length\": 2,
  \"API_max_trying_limit\": 1
\x7d
"

/-- The first `controls` document. -/
def starterControls : String :=
  "\x7b
  \"bg_table\": [],
  \"bgm_table\": [],
  \"scene_table\": [],
  \"figure_table\": []
\x7d
"

/-- Whether there is something at a path. -/
def hasPath (path : String) : ConsoleT m Bool :=
  (liftM (MonadDisk.hasPath path : m Bool) : StateT String m Bool)

/-- Makes a directory if there is none, and tells of it. -/
def ensureDirectory (heading path : String) : ConsoleT m Bool := do
  if ← hasPath path then return false
  else
    onDisk (makeDirectories path) .disk
    tell ("✅ Created " ++ heading ++ ": " ++ path)
    return true

/-- Writes a starter document if there is no file of its name, and tells of it. -/
def ensureDocument (dir name content : String) : ConsoleT m Unit := do
  let path := joinPath dir name
  if ← hasPath path then pure ()
  else
    onDisk (MonadDisk.writeText path content) .disk
    tell ("✅ Created " ++ path)

/-- Lays out a configuration and a story to begin with. What is there already stays. -/
def onboard (env : Environment) : ConsoleT m Unit := do
  let path := configPath env
  tell "vnchat — First-Time Setup"
  tell "=========================\n"
  if !(← ensureDirectory "config directory" (configDir env)) then
    tell ("  Config directory exists: " ++ configDir env)
  let app : AppSettings ←
    if ← hasPath path then do
      tell ("\n⚠️  Config already exists at: " ++ path)
      tell "   Edit it manually or delete and re-run onboard.\n"
      match ← (liftM (loadSettingsFrom path : m _) : StateT String m _) with
      | .ok app => pure app
      | .error fault => throw (.config fault)
    else do
      onDisk (MonadDisk.writeText path AppSettings.starterFile) .disk
      tell ("✅ Created config.toml at: " ++ path)
      pure {}
  let dir := app.documentsDir
  let _ ← ensureDirectory "story directory" dir
  ensureDocument dir "global.json" starterGlobal
  ensureDocument dir "controls.json" starterControls
  tell "\n📝 Next steps:"
  tell ("   1. Set OPENROUTER_API_KEY or add api_key to " ++ path)
  tell ("   2. Fill the tables in " ++ joinPath dir "controls.json")
  tell "   3. Run: vnchat check\n"

/-- What a command told, and why it failed if it did. -/
structure Report where
  told : String
  failure : Option CommandFailure

/-- Does a command. -/
def report (command : ConsoleT m Unit) : m Report := do
  let (result, told) ← (command.run).run ""
  match result with
  | .ok () => return ⟨told, none⟩
  | .error failure => return ⟨told, some failure⟩

/-- Does what a command line says, on a machine with so many bytes of memory. `chance` is used where
    no seed is given. -/
def perform (env : Environment) (memory : Nat) (connect : ProviderAccess → Model Unit)
    (chance : UInt64) (ids : IdSupply) : Invocation → ConsoleT m Unit
  | .onboard => onboard env
  | .check dir => check env dir
  | .prompt say transcript dir => prompt env memory say transcript dir
  | .turn say transcript dir scene model seed =>
    turn env memory connect (.ofSeed (seed.getD chance)) ids say transcript dir scene model

end Dramaturg.Console
