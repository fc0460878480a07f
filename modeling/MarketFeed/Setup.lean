import MarketFeed.Config.Stream
import MarketFeed.Rest.Signature

/-!
# Setup

From an account and stream settings to a client: requests are signed if the account has all of its
credentials.
-/

namespace MarketFeed

/-- What a client and a stream are made from. -/
structure Setup where
  account : Account
  stream : StreamConfig
  restTimeout : Nat
  deriving Repr

namespace Setup

/-- What the variables of the exchange begin with. -/
def environmentStem : String := "OKX"

/-- Where the exchange is, unless the account says otherwise. -/
def defaultBaseUrl : String := "https://www.okx.com"

/-- Market data only, from the public endpoints. -/
def default : Setup := ⟨.readOnly, .default, 30⟩

/-- Account and stream settings from variables; without all credentials, market data only. -/
def ofEnvironment (env : Environment) : Setup :=
  { default with
    account := (Account.ofEnvironment environmentStem env).toOption.getD .readOnly
    stream := StreamConfig.ofEnvironment environmentStem env }

/-- The credentials of an account that has all of them. -/
def apiKey? (s : Setup) : Option ApiKey :=
  if s.account.hasCredentials then
    some ⟨s.account.apiKey, s.account.secretKey, s.account.passphrase, s.account.testnet⟩
  else none

def clientConfig (s : Setup) : ClientConfig :=
  { ClientConfig.new (s.account.baseUrl?.getD defaultBaseUrl) "okx" with
    timeoutSeconds := s.restTimeout }

def client (s : Setup) : Except FeedError Client :=
  Client.build s.clientConfig (s.apiKey?.map ApiKey.signer)

def clientText : String := "OkxRest \x7b .. \x7d"

end Setup

end MarketFeed
