import MarketFeed.Http.Host

/-!
# Addresses

An address of a resource: scheme, host, port, path, query. Reading one lower-cases what has no case,
drops what means nothing, resolves dots in the path, and escapes the rest. `join` reads an address
that leaves out what it shares with another one.
-/

namespace MarketFeed

/-- An address with a host. -/
structure Url where
  scheme : String
  /-- A user and a password, which are no part of the text. -/
  login? : Option (String × String)
  host : String
  /-- A port other than the one of the scheme. -/
  port? : Option Nat
  path : List Char
  query? : Option (List Char)
  fragment? : Option (List Char)
  deriving DecidableEq, Repr

namespace Url

/-- Why text is no address of a host. -/
inductive Fault
  | relative
  | host (fault : Host.Fault)
  | badPort
  /-- An address without a host, as text. -/
  | hostless (text : String)
  deriving DecidableEq, Repr

/-- Schemes whose addresses have a host, with their ports. -/
def hostSchemes : List (String × Nat) :=
  [("http", 80), ("https", 443), ("ws", 80), ("wss", 443), ("ftp", 21)]

def defaultPort? (scheme : String) : Option Nat :=
  (hostSchemes.find? (·.1 == scheme)).map (·.2)

/-- Whether a character may stand in a scheme behind its first letter. -/
def isSchemeChar (c : Char) : Bool := c.isAlphanum || c = '+' || c = '-' || c = '.'

def splitScheme? (cs : List Char) : Option (String × List Char) :=
  match cs with
  | [] => none
  | c :: _ =>
    if c.isAlpha then
      match cs.dropWhile isSchemeChar with
      | ':' :: rest => some (String.ofList ((cs.takeWhile isSchemeChar).map Char.toLower), rest)
      | _ => none
    else none

/-- Characters at the ends that mean nothing. -/
def isOuterBlank (c : Char) : Bool := c.toNat ≤ 0x20

/-- Text without blanks at its ends, tabs and line ends. -/
def clean (cs : List Char) : List Char :=
  let cs := (cs.dropWhile isOuterBlank).reverse.dropWhile isOuterBlank
  cs.reverse.filter fun c => c != '\t' && c != '\n' && c != '\r'

/-- The part up to the first of some characters, and the rest. -/
def splitAny (marks : List Char) (cs : List Char) : List Char × List Char :=
  (cs.takeWhile fun c => !marks.contains c, cs.dropWhile fun c => !marks.contains c)

/-! ## Authorities -/

/-- A port behind a colon; an empty one is none. -/
def readPort (scheme : String) (cs : List Char) : Except Fault (Option Nat) :=
  if cs = [] then .ok none
  else if cs.all Char.isDigit then
    let n := cs.foldl (fun n c => n * 10 + (c.toNat - 48)) 0
    if 65535 < n then .error .badPort
    else if defaultPort? scheme = some n then .ok none
    else .ok (some n)
  else .error .badPort

/-- The part up to the first colon outside of brackets, and the rest. -/
def splitPort (inside : Bool) : List Char → List Char × List Char
  | [] => ([], [])
  | c :: cs =>
    if c = ':' && !inside then ([], c :: cs)
    else
      let (host, port) := splitPort (c = '[' || inside && c != ']') cs
      (c :: host, port)

/-- User and password with a colon between them; neither may be there. -/
def readLogin (cs : List Char) : Option (String × String) := do
  let (user, password) := splitAny [':'] cs
  let user ← Percent.decodeText? user
  let password := (Percent.decodeText? (password.drop 1)).getD ""
  if user = "" ∧ password = "" then none else some (user, password)

/-- Login, host and port of the part between the slashes and the path. The last `@` ends the
login. -/
def readAuthority (scheme : String) (cs : List Char) :
    Except Fault (Option (String × String) × String × Option Nat) := do
  let behind := ((Split.parts '@' cs).getLast?).getD []
  let (host, port) := splitPort false behind
  let host ← (Host.read host).mapError .host
  let port? ← readPort scheme (port.drop 1)
  return (readLogin (cs.take (cs.length - behind.length - 1)), host, port?)

/-! ## Paths -/

/-- Whether a part of a path means the place itself. -/
def isHere (part : List Char) : Bool :=
  let p := part.map Char.toLower
  p = ['.'] || p = ['%', '2', 'e']

/-- Whether a part of a path means the place above. -/
def isAbove (part : List Char) : Bool :=
  let p := part.map Char.toLower
  p = ['.', '.'] || p = ['.', '%', '2', 'e'] || p = ['%', '2', 'e', '.']
    || p = ['%', '2', 'e', '%', '2', 'e']

/-- The parts of a path with dots resolved; `done` holds the parts before, last first. A dot at the
end leaves an empty part. -/
def resolveDots (done : List (List Char)) : List (List Char) → List (List Char)
  | [] => done.reverse
  | [p] =>
    if isAbove p then ([] :: done.drop 1).reverse
    else if isHere p then ([] :: done).reverse
    else (p :: done).reverse
  | p :: rest =>
    if isAbove p then resolveDots (done.drop 1) rest
    else if isHere p then resolveDots done rest
    else resolveDots (p :: done) rest

/-- Whether a character is a slash, of either kind. -/
def isSlash (c : Char) : Bool := c = '/' || c = '\\'

/-- A path in its standard form: it begins with a slash. -/
def readPath (cs : List Char) : List Char :=
  let cs := cs.map fun c => if isSlash c then '/' else c
  let cs := match cs with
    | '/' :: rest => rest
    | rest => rest
  (resolveDots [] (Split.parts '/' cs)).flatMap fun p =>
    '/' :: Percent.encode Percent.inPath (String.ofList p)

/-! ## Addresses -/

/-- Path, query and fragment of what follows the host. -/
def splitTail (cs : List Char) : List Char × Option (List Char) × Option (List Char) :=
  let (path, rest) := splitAny ['?', '#'] cs
  match rest with
  | '?' :: rest =>
    let (query, rest) := splitAny ['#'] rest
    (path, some query, if rest = [] then none else some (rest.drop 1))
  | '#' :: rest => (path, none, some rest)
  | _ => (path, none, none)

def parse (s : String) : Except Fault Url := do
  let cs := clean s.toList
  match splitScheme? cs with
  | none => .error .relative
  | some (scheme, rest) =>
    if (defaultPort? scheme).isSome then
      let rest := rest.dropWhile isSlash
      let (authority, tail) := splitAny ['/', '\\', '?', '#'] rest
      let (login?, host, port?) ← readAuthority scheme authority
      let (path, query?, fragment?) := splitTail tail
      .ok { scheme, login?, host, port?, path := readPath path,
            query? := query?.map fun q => Percent.encode Percent.inQuery (String.ofList q),
            fragment? := fragment?.map fun f =>
              Percent.encode Percent.inFragment (String.ofList f) }
    else .error (.hostless (String.ofList (scheme.toList ++ ':' :: rest)))

/-- The address with a form behind its query. An empty query is dropped. -/
def withForm (u : Url) (params : List (String × String)) : Url :=
  let form := Percent.form params
  let query :=
    match u.query? with
    | none => form
    | some [] => form
    | some q => if params = [] then q else q ++ '&' :: form
  { u with query? := if query = [] then none else some query }

/-- What the request line names: path and query. -/
def target (u : Url) : List Char :=
  match u.query? with
  | none => u.path
  | some q => u.path ++ '?' :: q

def portNumber (u : Url) : Nat := u.port?.getD ((defaultPort? u.scheme).getD 0)

/-- What the addresses of a host and a port begin with. -/
def origin (u : Url) : String :=
  let port := match u.port? with
    | none => ""
    | some n => s!":{n}"
  s!"{u.scheme}://{u.host}{port}"

def text (u : Url) : String :=
  let fragment := match u.fragment? with
    | none => []
    | some f => '#' :: f
  u.origin ++ String.ofList (u.target ++ fragment)

/-! ## Relative addresses -/

def directory (path : List Char) : List Char := (path.reverse.dropWhile (· != '/')).reverse

/-- The address that a text without a scheme spells at another address. It may begin anew with the
host, the path, the query or the fragment, or go on from the last slash of the path. -/
def joinRelative (base : Url) (cs : List Char) : Except Fault Url :=
  let behind := fun (before : List Char) => parse (base.origin ++ String.ofList (before ++ cs))
  match cs with
  | [] => .ok { base with fragment? := none }
  | '?' :: _ => behind base.path
  | '#' :: _ => behind base.target
  | a :: rest =>
    if !isSlash a then behind (directory base.path)
    else if rest.head?.any isSlash then parse (base.scheme ++ ":" ++ String.ofList cs)
    else behind []

/-- The address that a text spells at another address. The scheme of that may be repeated. -/
def join (base : Url) (s : String) : Except Fault Url :=
  let cs := clean s.toList
  match splitScheme? cs with
  | none => joinRelative base cs
  | some (scheme, rest) =>
    if scheme = base.scheme ∧ (rest.takeWhile isSlash).length < 2 then joinRelative base rest
    else parse s

end Url

end MarketFeed
