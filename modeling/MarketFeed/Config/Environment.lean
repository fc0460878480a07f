import MarketFeed.Text.UpperCase
import MarketFeed.Text.Utf8

/-!
# The environment

Variables by name. A value is a byte sequence; one that is no text counts as absent.
-/

namespace MarketFeed

/-- The variables of a process. -/
structure Environment where
  entries : List (String × List UInt8)
  deriving Repr

namespace Environment

def get? (env : Environment) (name : String) : Option String :=
  match env.entries.find? (·.1 == name) with
  | none => none
  | some (_, bytes) => (Utf8.decode bytes).toOption

def set (env : Environment) (name value : String) : Environment :=
  ⟨(name, Utf8.encode value) :: env.entries.filter (·.1 != name)⟩

def setIfAbsent (env : Environment) (name value : String) : Environment :=
  if (env.get? name).isSome then env else env.set name value

/-- The name of a variable that belongs to an exchange. -/
def nameFor (stem suffix : String) : String := UpperCase.ofString stem ++ "_" ++ suffix

end Environment

end MarketFeed
