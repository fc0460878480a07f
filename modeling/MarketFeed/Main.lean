import MarketFeed.CommandLine
import MarketFeed.Transport.Memory

/-!
# The program

Watches an instrument. The connection itself is somebody else's work: each line of standard input is
a message from the exchange, and what is sent to it goes to standard error, a frame a line. After
each message the program prints a round.
-/

namespace MarketFeed

namespace Program

def variableNames : List String :=
  (["API_KEY", "SECRET_KEY", "PASSPHRASE", "TESTNET", "BASE_URL", "WS_HOST", "WS_PORT", "WS_PATH"] :
    List String).map (Environment.nameFor Setup.environmentStem)

def environment : IO Environment := do
  let found ← variableNames.filterMapM fun name => do
    return (← IO.getEnv name).map fun value => (name, Utf8.encode value)
  return ⟨found⟩

def dial (_ : Nat) : Dial Memory := ⟨.new none .none, []⟩

/-- Print what the watch tells, and what it sends. -/
def tell (notices : List Notice) (effects : List Tagged) : IO Unit := do
  for notice in notices do
    match notice with
    | .line l => IO.eprintln s!"{l.severity.name}: {l.message}"
    | .data _ => pure ()
  for (_, effect) in effects do
    match effect with
    | .write (.text text) => IO.eprintln text
    | _ => pure ()

/-- Take messages up to the end of the input. -/
partial def run (input : IO.FS.Stream) (o : Options) (w : Watch Memory) : IO Unit := do
  let (w, notices, effects) := w.settle Memory.transport
  tell notices effects
  let line ← input.getLine
  if line.isEmpty then return
  let text := String.ofList (line.toList.filter fun c => c != '\n' && c != '\r')
  let feed := w.feed.changeLink w.feed.sessions.length (·.push (.frame (.text text)))
  let (w, notices, effects) := { w with feed }.settle Memory.transport
  tell notices effects
  for l in o.round w.board w.timeoutSeconds do
    IO.println l
  run input o w

end Program

end MarketFeed

open MarketFeed in
def main (args : List String) : IO UInt32 := do
  match Options.ofArguments args with
  | .error fault =>
    IO.eprint fault.report
    return 1
  | .ok o =>
    let setup := Setup.ofEnvironment (← Program.environment)
    match o.start Program.dial (Watch.new setup.stream) with
    | .error error =>
      IO.eprintln s!"Error: {error.message}"
      return 1
    | .ok (w, lines) =>
      Program.tell (lines.map .line) []
      Program.run (← IO.getStdin) o w
      return 0
