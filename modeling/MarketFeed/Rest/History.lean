import MarketFeed.Rest.Envelope

/-!
# History

Records of a window of time, fetched page by page from its end to its start. Each page asks for what
is older than the oldest record seen so far; the cursor moves down inside the window, so there are
at most as many pages as milliseconds.
-/

namespace MarketFeed

/-- The instants from `start` on and before `stop`. -/
structure Window where
  start : Int
  stop : Int
  deriving DecidableEq, Repr

def Window.contains (w : Window) (ts : Int) : Bool := w.start ≤ ts && ts < w.stop

namespace History

/-- The greatest number of records that a page may have. -/
def maxPerPage : Nat := 100

/-- The page size for a wish: none, or one beyond the limit, means the limit. -/
def pageSize (limit? : Option Nat) : Nat := min (limit?.getD maxPerPage) maxPerPage

/-- A list of records by their times. -/
structure Source (α : Type) where
  endpoint : String
  params : List (String × String)
  codec : Codec α
  ts : α → Int

variable {α : Type}

def oldest? (ts : α → Int) (page : List α) : Option Int := (page.map ts).min?

/-- The page of records older than `cursor`. Both bounds of the query are exclusive. -/
def Source.page (s : Source α) (w : Window) (limit : Nat) (cursor : Int) : Calling (List α) :=
  Calling.fetch (.list s.codec) s.endpoint
    (s.params ++ [("after", toString cursor), ("before", toString (w.start - 1)),
      ("limit", toString limit)]) false

/-- The records of a window that are older than `cursor`, in the order of the pages. Paging ends
with an empty page, at the start of the window, or if a page does not lead further back. -/
def Source.pages (s : Source α) (w : Window) (limit : Nat) (cursor : Int) : Calling (List α) := do
  let page ← s.page w limit cursor
  match oldest? s.ts page with
  | none => pure []
  | some oldest =>
    let kept := page.filter fun a => w.contains (s.ts a)
    if _h : w.start < oldest ∧ oldest < cursor then do
      let rest ← s.pages w limit oldest
      pure (kept ++ rest)
    else pure kept
termination_by (cursor - w.start).toNat
decreasing_by omega

/-- Keep the first of neighbours with one time. -/
def firstOfEach (ts : α → Int) : List α → List α
  | [] => []
  | a :: rest =>
    a :: (firstOfEach ts (rest.dropWhile fun b => ts b = ts a))
termination_by as => as.length
decreasing_by
  have := (List.dropWhile_sublist (fun b => decide (ts b = ts a)) (l := rest)).length_le
  simp only [List.length_cons]
  omega

/-- Order records by time, earlier ones first; of records with one time the first stays. -/
def arrange (ts : α → Int) (records : List α) : List α :=
  firstOfEach ts (records.mergeSort fun a b => ts a ≤ ts b)

/-- The records of a window in the order of time. A window without instants is not asked for. -/
def Source.collect (s : Source α) (w : Window) (limit : Nat) : Calling (List α) :=
  if w.stop ≤ w.start then pure []
  else do
    let records ← s.pages w limit w.stop
    pure (arrange s.ts records)

end History

end MarketFeed
