import MarketFeed.Config.Environment
import MarketFeed.Text.Alphanumeric
import MarketFeed.Text.Blank

/-!
# Environment files

Lines `NAME=value`, with `export` in front if one likes. A value may be quoted, take backslashes,
and refer to variables as `$NAME` or `${NAME}`; a comment begins with `#` after a blank. The lines
before a bad one still count.
-/

namespace MarketFeed.EnvFile

/-- A bad line or value, and the place in it. -/
structure Fault where
  text : String
  index : Nat
  deriving DecidableEq, Repr

def Fault.message (f : Fault) : String :=
  s!"Error parsing line: '{f.text}', error at line index: {f.index}"

/-- The values of earlier lines, the latest first. -/
abbrev Earlier := List (String × String)

/-- The value of a variable: the environment comes first, then earlier lines. -/
def resolve (env : Environment) (earlier : Earlier) (name : String) : String :=
  match env.get? name with
  | some value => value
  | none => ((earlier.find? (·.1 == name)).map (·.2)).getD ""

/-! ## Values -/

/-- A reference to a variable that is being read; names are kept last character first. -/
inductive Reference
  | none
  /-- After `$`. -/
  | bare (name : List Char)
  /-- After `${`. -/
  | braced (name : List Char)
  deriving DecidableEq, Repr

/-- Where the reading of a value stands. -/
structure ValueState where
  strong : Bool
  weak : Bool
  escaped : Bool
  /-- After a blank, only a comment may follow. -/
  ending : Bool
  reference : Reference
  /-- The value so far, last character first. -/
  output : List Char
  deriving DecidableEq, Repr

/-- What follows a character of a value. -/
inductive ValueStep
  | next (state : ValueState)
  | finish
  | bad

/-- The character that a backslash stands before. -/
def unescape? (c : Char) : Option Char :=
  if c = '\\' ∨ c = '\'' ∨ c = '"' ∨ c = '$' ∨ c = ' ' then some c
  else if c = 'n' then some '\n'
  else none

/-- Add the value of a variable to the output. -/
def ValueState.substitute (lookup : String → String) (s : ValueState) (name : List Char) :
    ValueState :=
  { s with
    reference := .none
    output := (lookup (String.ofList name.reverse)).toList.reverse ++ s.output }

def ValueState.step (lookup : String → String) (s : ValueState) (c : Char) : ValueStep :=
  if s.ending then
    if c = ' ' ∨ c = '\t' then .next s else if c = '#' then .finish else .bad
  else if s.escaped then
    match unescape? c with
    | some c => .next { s with escaped := false, output := c :: s.output }
    | none => .bad
  else if s.strong then
    if c = '\'' then .next { s with strong := false }
    else .next { s with output := c :: s.output }
  else
    match s.reference with
    | .bare name =>
      if Alphanumeric.test c then .next { s with reference := .bare (c :: name) }
      else if c = '\x7b' ∧ name = [] then .next { s with reference := .braced [] }
      else
        let s := s.substitute lookup name
        if c = '$' then .next { s with reference := .bare [] }
        else .next { s with output := c :: s.output }
    | .braced name =>
      if c = '\x7d' then .next (s.substitute lookup name)
      else .next { s with reference := .braced (c :: name) }
    | .none =>
      if c = '$' then .next { s with reference := .bare [] }
      else if s.weak then
        if c = '"' then .next { s with weak := false }
        else if c = '\\' then .next { s with escaped := true }
        else .next { s with output := c :: s.output }
      else if c = '\'' then .next { s with strong := true }
      else if c = '"' then .next { s with weak := true }
      else if c = '\\' then .next { s with escaped := true }
      else if c = ' ' ∨ c = '\t' then .next { s with ending := true }
      else .next { s with output := c :: s.output }

/-- Read the characters of a value from `index` on; the index of a bad one. -/
def readChars (lookup : String → String) (s : ValueState) (index : Nat) :
    List Char → Except Nat ValueState
  | [] => .ok s
  | c :: rest =>
    match s.step lookup c with
    | .next s => readChars lookup s (index + 1) rest
    | .finish => .ok s
    | .bad => .error index

/-- A value with its quotes, backslashes and references resolved. Quotes and braces have to be
closed. -/
def readValue (lookup : String → String) (cs : List Char) : Except Fault String :=
  let text := String.ofList cs
  match readChars lookup ⟨false, false, false, false, .none, []⟩ 0 cs with
  | .error index => .error ⟨text, index⟩
  | .ok s =>
    let isOpen := match s.reference with
      | .braced _ => true
      | _ => false
    if isOpen || s.strong || s.weak then .error ⟨text, text.utf8ByteSize - 1⟩
    else
      let name := match s.reference with
        | .bare name => name
        | _ => []
      .ok (String.ofList (s.substitute lookup name).output.reverse)

/-! ## Lines -/

/-- Whether a name may begin with a character. -/
def isNameStart (c : Char) : Bool := c.isAlpha || c = '_'

/-- Whether a name may go on with a character. -/
def isNameChar (c : Char) : Bool := c.isAlphanum || c = '_' || c = '.'

/-- The part of a line that is still to be read, and its index in bytes. -/
structure Cursor where
  rest : List Char
  index : Nat

namespace Cursor

def size (cs : List Char) : Nat := (String.ofList cs).utf8ByteSize

def skipBlanks (p : Cursor) : Cursor :=
  ⟨p.rest.dropWhile Blank.test, p.index + size (p.rest.takeWhile Blank.test)⟩

def name? (p : Cursor) : Option (String × Cursor) :=
  match p.rest with
  | [] => none
  | c :: _ =>
    if isNameStart c then
      let name := p.rest.takeWhile isNameChar
      some (String.ofList name, ⟨p.rest.dropWhile isNameChar, p.index + name.length⟩)
    else none

def equals? (p : Cursor) : Option Cursor :=
  match p.rest with
  | '=' :: rest => some ⟨rest, p.index + 1⟩
  | _ => none

def atEnd (p : Cursor) : Bool :=
  match p.rest with
  | [] => true
  | c :: _ => c = '#'

end Cursor

/-- The name that a line sets and the place behind the equals sign, or the place of the fault. The
word `export` is a name only before an equals sign. -/
def readName (p : Cursor) : Except Nat (String × Cursor) :=
  match p.name? with
  | none => .error p.index
  | some (name, p) =>
    let p := p.skipBlanks
    match p.equals? with
    | some p => .ok (name, p)
    | none =>
      if name = "export" then
        match p.name? with
        | none => .error p.index
        | some (name, p) =>
          let p := p.skipBlanks
          match p.equals? with
          | some p => .ok (name, p)
          | none => .error p.index
      else .error p.index

/-- The name and the value that a line sets; a blank line or a comment sets nothing. -/
def readLine (env : Environment) (earlier : Earlier) (line : String) :
    Except Fault (Option (String × String)) :=
  let p := (Cursor.mk (Blank.trimEnd line.toList) 0).skipBlanks
  if p.atEnd then .ok none
  else
    match readName p with
    | .error index => .error ⟨line, index⟩
    | .ok (name, p) =>
      let p := p.skipBlanks
      if p.atEnd then .ok (some (name, ""))
      else (readValue (resolve env earlier) p.rest).map fun value => some (name, value)

def lines (cs : List Char) : List (List Char) :=
  let add := fun (c : Char) (ls : List (List Char)) =>
    if c = '\n' then [] :: ls
    else
      match ls with
      | [] => [[c]]
      | l :: ls => (c :: l) :: ls
  let dropReturn := fun (l : List Char) =>
    if l.getLast? = some '\r' then l.dropLast else l
  match cs.foldr add [[]] with
  | ls =>
    let ended := ls.dropLast.map dropReturn
    match ls.getLast? with
    | some (c :: l) => ended ++ [c :: l]
    | _ => ended

/-- Set the variables of some lines, as far as they are absent. -/
def loadLines (env : Environment) (earlier : Earlier) :
    List (List Char) → Except Fault Environment
  | [] => .ok env
  | l :: rest => do
    match ← readLine env earlier (String.ofList l) with
    | none => loadLines env earlier rest
    | some (name, value) =>
      loadLines (env.setIfAbsent name value) ((name, value) :: earlier) rest

/-- Set the variables of a file, as far as they are absent. -/
def load (env : Environment) (file : String) : Except Fault Environment :=
  loadLines env [] (lines file.toList)

end MarketFeed.EnvFile
