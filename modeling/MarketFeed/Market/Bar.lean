/-!
# Bars

The periods of candlesticks. Case matters in their names: `1m` is a minute and `1M` a month.
-/

namespace MarketFeed

/-- A period, from the shortest to the longest. -/
inductive Bar
  | minute1
  | minute3
  | minute5
  | minute15
  | minute30
  | hour1
  | hour2
  | hour4
  | hour6
  | hour12
  | day1
  | day2
  | day3
  | week1
  | month1
  | month3
  deriving DecidableEq, Repr

namespace Bar

/-- All periods, from the shortest to the longest. -/
def all : List Bar :=
  [minute1, minute3, minute5, minute15, minute30, hour1, hour2, hour4, hour6, hour12, day1, day2,
    day3, week1, month1, month3]

def name : Bar → String
  | minute1 => "1m"
  | minute3 => "3m"
  | minute5 => "5m"
  | minute15 => "15m"
  | minute30 => "30m"
  | hour1 => "1H"
  | hour2 => "2H"
  | hour4 => "4H"
  | hour6 => "6H"
  | hour12 => "12H"
  | day1 => "1D"
  | day2 => "2D"
  | day3 => "3D"
  | week1 => "1W"
  | month1 => "1M"
  | month3 => "3M"

def ofName? (s : String) : Option Bar := all.find? fun b => b.name == s

/-- The message about a name that no period has. -/
def unknownMessage (s : String) : String := s!"Unknown bar size: {s}"

def rank (b : Bar) : Nat := b.ctorIdx

instance : Ord Bar := ⟨fun a b => compare a.rank b.rank⟩

/-- What the names of candlestick channels begin with. -/
def channelStem : List Char := ['c', 'a', 'n', 'd', 'l', 'e']

/-- The channel that carries the candlesticks of a period. -/
def channel (b : Bar) : String := String.ofList (channelStem ++ b.name.toList)

/-- The period whose candlesticks a channel carries. -/
def ofChannel? (channel : String) : Option Bar :=
  let cs := channel.toList
  if channelStem.isPrefixOf cs then ofName? (String.ofList (cs.drop channelStem.length)) else none

theorem ofName?_eq_some_iff (s : String) (b : Bar) : ofName? s = some b ↔ s = b.name := by
  constructor
  · intro h
    rw [ofName?] at h
    have hname := List.find?_some h
    exact (eq_of_beq (a := b.name) hname).symm
  · rintro rfl
    cases b <;> decide

/-- A channel carries the candlesticks of a period only if it is that of the period, to the letter. -/
theorem ofChannel?_eq_some_iff (channel : String) (b : Bar) :
    ofChannel? channel = some b ↔ channel = b.channel := by
  rw [ofChannel?, Bar.channel]
  constructor
  · intro h
    split at h
    · rename_i hstem
      obtain ⟨rest, hrest⟩ := List.isPrefixOf_iff_prefix.mp hstem
      rw [← hrest, List.drop_left, ofName?_eq_some_iff] at h
      rw [← h, String.toList_ofList, hrest, String.ofList_toList]
    · cases h
  · rintro rfl
    rw [String.toList_ofList, if_pos (List.isPrefixOf_iff_prefix.mpr (List.prefix_append _ _)),
      List.drop_left, String.ofList_toList, ofName?_eq_some_iff]

theorem eq_of_channel_eq {b b' : Bar} (h : b.channel = b'.channel) : b = b' :=
  Option.some.inj (((ofChannel?_eq_some_iff _ b).mpr rfl).symm.trans
    ((ofChannel?_eq_some_iff _ b').mpr h))

end Bar

end MarketFeed
