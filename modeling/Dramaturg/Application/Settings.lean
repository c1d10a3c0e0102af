import Dramaturg.Application.Toml.Reader
import Dramaturg.Chat.Failure
import Dramaturg.Settings.Basic
import Dramaturg.Text.Listed

set_option autoImplicit false

/-! # Application settings

What the program needs to know apart from any story: where the model is reached and with which key,
where the story lies, and how long a page may be. Settings come from a configuration file, and the
environment fills in what it leaves open. -/

namespace Dramaturg

/-- The settings of the program. -/
structure AppSettings where
  apiKey : Option String := none
  apiUrl : String := "https://openrouter.ai/api/v1"
  documentsDir : String := "game/AIconfig"
  timeoutSeconds : Nat := 120
  pageMaxChars : Nat := 78
deriving DecidableEq

/-- Why a configuration file is refused. -/
inductive ConfigFault where
  | unreadable (path reason : String)
  | malformed (path : String)
  | invalid (message : String)
deriving DecidableEq

namespace ConfigFault

/-- What is told about a refused file. -/
def message : ConfigFault → String
  | .unreadable path reason => "Failed to read config file at " ++ path ++ ": " ++ reason
  | .malformed path => "Failed to parse config file at " ++ path
  | .invalid message => "Configuration validation failed: " ++ message

/-- What a diagnostic listing shows of a refused file. -/
def listing : ConfigFault → String
  | .unreadable path reason =>
    "ReadError \x7b path: " ++ Text.listed path ++ ", reason: " ++ Text.listed reason ++ " \x7d"
  | .malformed path => "ParseError \x7b path: " ++ Text.listed path ++ " \x7d"
  | .invalid message => "ValidationError(" ++ Text.listed message ++ ")"

end ConfigFault

/-- What is found at the path of a configuration file. -/
inductive ConfigFile where
  | missing
  | unreadable (reason : String)
  | text (content : String)

namespace AppSettings

/-! ## Reading -/

/-- A setting of the file, or its default; a value of the wrong kind is refused. -/
def setting? {α : Type} (file : Toml.Members) (key : String) (default : α)
    (read : Toml.Value → Option α) : Option α :=
  match file.lookup key with
  | none => some default
  | some (.value v) => read v
  | some (.table _ _) => none

def readString? : Toml.Value → Option String
  | .string s => some s
  | _ => none

def readCount? : Toml.Value → Option Nat
  | .integer n => if 0 ≤ n then some n.toNat else none
  | _ => none

/-- The settings that a configuration file holds. -/
def ofText? (text : String) : Option AppSettings := do
  let file ← Toml.ofText? text
  return {
    apiKey := ← setting? file "api_key" none fun v => (readString? v).map some
    apiUrl := ← setting? file "api_url" ({} : AppSettings).apiUrl readString?
    documentsDir := ← setting? file "documents_dir" ({} : AppSettings).documentsDir readString?
    timeoutSeconds :=
      ← setting? file "request_timeout_secs" ({} : AppSettings).timeoutSeconds readCount?
    pageMaxChars := ← setting? file "page_max_chars" ({} : AppSettings).pageMaxChars readCount? }

/-- Refuses settings that nothing can work with. -/
def validate (s : AppSettings) : Except ConfigFault AppSettings :=
  if s.timeoutSeconds = 0 then .error (.invalid "request_timeout_secs must be greater than 0")
  else if s.pageMaxChars = 0 then .error (.invalid "page_max_chars must be greater than 0")
  else .ok s

/-- The settings of a configuration file; without one, the defaults. -/
def load (path : String) : ConfigFile → Except ConfigFault AppSettings
  | .missing => .ok {}
  | .unreadable reason => .error (.unreadable path reason)
  | .text content =>
    match ofText? content with
    | none => .error (.malformed path)
    | some s => s.validate

/-! ## The environment -/

/-- Fills in a key that the file does not give, from the first of two variables that is set, and
    replaces the story directory if a variable names another. -/
def withEnvironment (env : String → Option String) (s : AppSettings) : AppSettings :=
  { s with
    apiKey := s.apiKey.or ((env "VNCHAT_API_KEY").or (env "OPENROUTER_API_KEY"))
    documentsDir := (env "VNCHAT_DOCUMENTS_DIR").getD s.documentsDir }

/-- Whether there is a key that is not empty. -/
def hasApiKey (s : AppSettings) : Bool := s.apiKey.any (!·.isEmpty)

/-! ## Writing -/

/-- The configuration file that a new user starts with. -/
def starterFile : String :=
  let s : AppSettings := {}
  "api_url = \"" ++ s.apiUrl ++ "\"\ndocuments_dir = \"" ++ s.documentsDir
    ++ "\"\nrequest_timeout_secs = " ++ toString s.timeoutSeconds
    ++ "\npage_max_chars = " ++ toString s.pageMaxChars ++ "\n"

/-- What a diagnostic listing shows of the settings; the key is not shown. -/
def listing (s : AppSettings) : String :=
  "AppConfig \x7b api_key: " ++ Text.listed (redacted s.apiKey) ++ ", api_url: "
    ++ Text.listed s.apiUrl ++ ", documents_dir: " ++ Text.listed s.documentsDir
    ++ ", request_timeout_secs: " ++ toString s.timeoutSeconds ++ ", page_max_chars: "
    ++ toString s.pageMaxChars ++ " \x7d"

end AppSettings

/-! ## Reaching a model -/

/-- Where a model is reached, and with which key. -/
structure ProviderAccess where
  name : String
  url : String
  key : String
deriving DecidableEq

namespace ProviderAccess

/-- The access at a url. Slashes at the end of the url are left out, since every call puts a path
    behind it. -/
def ofUrl (name url key : String) : ProviderAccess :=
  ⟨name, String.ofList (url.toList.reverse.dropWhile (· == '/')).reverse, key⟩

/-- The access of the public service. -/
def openRouter (key : String) : ProviderAccess :=
  ofUrl "openrouter" ({} : AppSettings).apiUrl key

/-- The key to use: that of the story, or else that of the program. Empty keys do not count. -/
def key? (app : AppSettings) (storyKey : Option String) : Option String :=
  (storyKey.filter (!·.isEmpty)).or (app.apiKey.filter (!·.isEmpty))

/-- The access that the settings give. -/
def ofSettings (app : AppSettings) (storyKey : Option String) :
    Except ProviderFailure ProviderAccess :=
  match key? app storyKey with
  | none =>
    .error (.notConfigured "no API key in the global document, config file or environment")
  | some key =>
    let name :=
      if Text.contains app.apiUrl "openrouter.ai" then "openrouter" else "openai-compatible"
    .ok (ofUrl name app.apiUrl key)

end ProviderAccess

end Dramaturg
