import MarketFeed.Config.EnvFile
import MarketFeed.Error
import MarketFeed.Record.Basic

/-!
# Accounts

Credentials for an exchange, whether they are for simulated trading, and where the exchange is. The
written form shows no secret.
-/

namespace MarketFeed

/-- An account on an exchange. -/
structure Account where
  apiKey : String
  secretKey : String
  passphrase : String
  /-- Trade with play money. -/
  testnet : Bool
  baseUrl? : Option String
  deriving DecidableEq, Repr

namespace Account

def new (apiKey secretKey passphrase : String) : Account :=
  ⟨apiKey, secretKey, passphrase, false, none⟩

def readOnly : Account := new "" "" ""

def hasCredentials (a : Account) : Bool :=
  !a.apiKey.isEmpty && !a.secretKey.isEmpty && !a.passphrase.isEmpty

def redacted : Json := .str "[REDACTED]"

/-- The text of an account, in which no secret shows. -/
def text (a : Account) : String :=
  (Json.obj [
    ("api_key", redacted), ("secret_key", redacted), ("passphrase", redacted),
    ("testnet", .bool a.testnet), ("base_url", (Codec.optional Codec.text).write a.baseUrl?)]).text

def schema : Schema where
  name := "ExchangeConfigHelper"
  fields := [
    .required "api_key" .text, .required "secret_key" .text, .text "passphrase",
    .withDefault "testnet" .flag false, .optionalText "base_url"]

def ofJson (v : Json) : Except Mismatch Account :=
  (schema.codec.read v).map fun (apiKey, secretKey, passphrase, testnet, baseUrl?, ()) =>
    { apiKey, secretKey, passphrase, testnet, baseUrl? }

/-- The text of a variable that has to be set. -/
def requireVariable (env : Environment) (name : String) : Except ConfigError String :=
  match env.get? name with
  | some value => .ok value
  | none => .error (.missingVariable name)

/-- The account in the variables of an exchange. Only `true` asks for simulated trading. -/
def ofEnvironment (stem : String) (env : Environment) : Except ConfigError Account := do
  let apiKey ← requireVariable env (Environment.nameFor stem "API_KEY")
  let secretKey ← requireVariable env (Environment.nameFor stem "SECRET_KEY")
  let passphrase ← requireVariable env (Environment.nameFor stem "PASSPHRASE")
  let testnet := env.get? (Environment.nameFor stem "TESTNET") == some "true"
  let baseUrl? := env.get? (Environment.nameFor stem "BASE_URL")
  .ok { apiKey, secretKey, passphrase, testnet, baseUrl? }

/-- The account in the variables of an exchange after those of a file were set; a file that does not
exist sets none. -/
def ofEnvironmentFile (stem path : String) (file? : Option String) (env : Environment) :
    Except ConfigError Account :=
  match file? with
  | none => ofEnvironment stem env
  | some file =>
    match EnvFile.load env file with
    | .ok env => ofEnvironment stem env
    | .error fault =>
      .error (.invalid s!"Failed to load .env file '{path}': {fault.message}")

end Account

end MarketFeed
