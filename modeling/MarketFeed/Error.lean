/-!
# Errors

What can go wrong on the way to the exchange and back. `FeedError.message` is the sentence that a
user sees, up to the words of libraries (`LibraryWords`).
-/

namespace MarketFeed

/-! ## Words of libraries

Some messages quote what a library says of a failure of its own. These words are the library's and
change with it, so they are left out: a mark stands in their place, the same whatever has failed. -/

namespace LibraryWords

/-- In the place of what is said of a text that is no JSON. -/
def json : String := "<syntax>"

/-- In the place of what is said of a connection that cannot be made secure. -/
def tls : String := "<tls>"

end LibraryWords

/-! ## Errors -/

/-- Why a configuration is not usable. -/
inductive ConfigError
  | missingVariable (name : String)
  | invalid (reason : String)
  deriving DecidableEq, Repr

/-- The sentence that reports a configuration error. -/
def ConfigError.message : ConfigError → String
  | .missingVariable name => s!"Missing environment variable: {name}"
  | .invalid reason => s!"Invalid configuration: {reason}"

/-- Why a request or a session fails. -/
inductive FeedError
  /-- The exchange refused a request, with its code and text. -/
  | api (code : Int) (text : String)
  | auth (reason : String)
  /-- A request that needs credentials has none. -/
  | authRequired
  | invalidParameters (reason : String)
  | network (reason : String)
  | timeout (reason : String)
  /-- Well-formed input that has the wrong form. -/
  | parse (reason : String)
  /-- Input that cannot be read at all. -/
  | deserialization (reason : String)
  | serialization (reason : String)
  | rateLimit (reason : String)
  | server (reason : String)
  | config (error : ConfigError)
  | other (reason : String)
  deriving DecidableEq, Repr

def FeedError.message : FeedError → String
  | .api code text => s!"API error: {code} - {text}"
  | .auth reason => s!"Authentication error: {reason}"
  | .authRequired => "Authentication required for this endpoint"
  | .invalidParameters reason => s!"Invalid parameters: {reason}"
  | .network reason => s!"Network error: {reason}"
  | .timeout reason => s!"Connection timeout: {reason}"
  | .parse reason => s!"Parse error: {reason}"
  | .deserialization reason => s!"Deserialization error: {reason}"
  | .serialization reason => s!"Serialization error: {reason}"
  | .rateLimit reason => s!"Rate limit exceeded: {reason}"
  | .server reason => s!"Server error: {reason}"
  | .config error => s!"Configuration error: {error.message}"
  | .other reason => s!"Other error: {reason}"

end MarketFeed
