import AuthBroker.Settings.Dotenv
import AuthBroker.Text.Uppercase
import AuthBroker.Validation

/-!
Settings of a deployment and the sources they are taken from.

A setting is taken from the first source that gives it: explicit values, then the process
environment, then an environment file, then its default. Names are case sensitive.
-/

namespace AuthBroker

inductive Environment where
  | localhost
  | test
  | development
  | production
  deriving DecidableEq, Repr

namespace Environment

def name : Environment → String
  | .localhost => "local"
  | .test => "test"
  | .development => "dev"
  | .production => "prd"

def ofName? : String → Option Environment
  | "local" => some .localhost
  | "test" => some .test
  | "dev" => some .development
  | "prd" => some .production
  | _ => none

end Environment

structure Settings where
  environment : Environment
  logLevel : String
  apiAddress : String
  usageEnabled : Bool
  usageKey : Option String
  usageHost : String
  encryptionKey : String
  secretLabel : String
  deriving DecidableEq, Repr

namespace Settings

def dropSlashes (s : String) : String :=
  String.ofList (s.toList.reverse.dropWhile (· == '/')).reverse

/-- The address of the interface, without slashes at its end. -/
def apiUrl (settings : Settings) : String :=
  dropSlashes settings.apiAddress

def check (given : Fields) : Check Settings :=
  Settings.mk
    <$> given.withDefault "ENVIRONMENT" .localhost (Read.member Environment.ofName?)
    <*> given.withDefault "LOG_LEVEL" "INFO" (fun d => Text.upper <$> Read.text d)
    <*> given.withDefault "API_URL" "http://localhost:8001" Read.text
    <*> given.withDefault "ANALYTICS_ENABLED" false Read.bool
    <*> given.optional "POSTHOG_API_KEY" Read.text
    <*> given.withDefault "POSTHOG_HOST" "https://app.posthog.com" Read.text
    <*> given.required "ENCRYPTION_KEY" Read.text
    <*> given.withDefault "OAUTH_SECRET_PREFIX" "conduit_oauth_workspace_" Read.text

def toDocument (settings : Settings) : Document :=
  .object [
    ("ENVIRONMENT", .text settings.environment.name),
    ("LOG_LEVEL", .text settings.logLevel),
    ("API_URL", .text settings.apiAddress),
    ("ANALYTICS_ENABLED", .bool settings.usageEnabled),
    ("POSTHOG_API_KEY", .ofOption (settings.usageKey.map .text)),
    ("POSTHOG_HOST", .text settings.usageHost),
    ("ENCRYPTION_KEY", .text settings.encryptionKey),
    ("OAUTH_SECRET_PREFIX", .text settings.secretLabel)]

structure Sources where
  explicit : Fields
  environment : Table String String
  file : Option String
  deriving Repr

namespace Sources

/-- The values that the sources give; of a name given twice, the value of the better source. -/
def given (sources : Sources) : Fields :=
  let file := (sources.file.map (Dotenv.read sources.environment)).getD []
  let texts := (file.insertAll sources.environment).map fun (name, value) => (name, .text value)
  Table.insertAll texts sources.explicit

def check (sources : Sources) : Check Settings :=
  Settings.check sources.given

end Sources

end Settings

end AuthBroker
