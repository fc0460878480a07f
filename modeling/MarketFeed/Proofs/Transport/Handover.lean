import MarketFeed.Proofs.Transport.Operation

/-!
# Handing connections on

A network that keeps a record of what it is asked for behaves as it did (`handle_recorded`), and the
record shows where each connection comes from that is to be secured or upgraded: it is the last one that
was made or secured, and nothing else has been tried with it (`isKept_play`). Main fact: whatever is asked
of a transport, in any order, what it holds agrees with what it has reported
(`holds_what_it_reports`).
-/

namespace MarketFeed

open Trace

/-- What a network is asked for. -/
inductive Asked
  | lookup (host : String) (port : Nat)
  /-- A connection to an address, and the one that was made. -/
  | connect (address : SocketAddress) (made? : Option Connection)
  | prepare
  /-- To secure a connection, and whether that succeeded. -/
  | secure (c : Connection) (done : Bool)
  /-- To turn a connection into a WebSocket, and whether that succeeded. -/
  | upgrade (c : Connection) (done : Bool)
  | write (c : Connection) (f : Frame)
  | read (c : Connection)
  | shut (c : Connection)
  | release (c : Connection)
  deriving DecidableEq, Repr

namespace Asked

/-- The connection that is made. -/
def made? : Asked → Option Connection
  | .connect _ made? => made?
  | _ => none

/-- The connection that is to be secured. -/
def toSecure? : Asked → Option Connection
  | .secure c _ => some c
  | _ => none

/-- The connection that is secured. -/
def secured? : Asked → Option Connection
  | .secure c true => some c
  | _ => none

/-- The connection that is to become a WebSocket. -/
def toUpgrade? : Asked → Option Connection
  | .upgrade c _ => some c
  | _ => none

end Asked

def Outcome.value? {α : Type} : Outcome α → Option α
  | .done value => some value
  | _ => none

/-- A network that keeps a record of what it is asked for. -/
def Network.recorded {ω : Type} (net : Network ω) : Network (ω × List Asked) where
  lookup host port w :=
    let (r, world) := net.lookup host port w.1
    (r, world, w.2 ++ [.lookup host port])
  connect address w :=
    let (r, world) := net.connect address w.1
    (r, world, w.2 ++ [.connect address r.value?])
  prepare w :=
    let (r, world) := net.prepare w.1
    (r, world, w.2 ++ [.prepare])
  secure host c w :=
    let (r, world) := net.secure host c w.1
    (r, world, w.2 ++ [.secure c r.value?.isSome])
  upgrade request c w :=
    let (r, world) := net.upgrade request c w.1
    (r, world, w.2 ++ [.upgrade c r.value?.isSome])
  write f c w :=
    let (r, world) := net.write f c w.1
    (r, world, w.2 ++ [.write c f])
  read c w := (net.read c w.1).map fun (r, world) => (r, world, w.2 ++ [.read c])
  shut c w :=
    let (r, world) := net.shut c w.1
    (r, world, w.2 ++ [.shut c])
  release c w := (net.release c w.1, w.2 ++ [.release c])
  backlog c w := net.backlog c w.1

namespace Network

variable {ω : Type} {net : Network ω} {w : ω × List Asked} {world : ω}

theorem recorded_lookup {host : String} {port : Nat} {r : Except String (List SocketAddress)}
    (h : net.lookup host port w.1 = (r, world)) :
    net.recorded.lookup host port w = (r, world, w.2 ++ [.lookup host port]) := by
  simp [recorded, h]

theorem recorded_connect {a : SocketAddress} {r : Outcome Connection}
    (h : net.connect a w.1 = (r, world)) :
    net.recorded.connect a w = (r, world, w.2 ++ [.connect a r.value?]) := by
  simp [recorded, h]

theorem recorded_prepare {r : Except String Unit} (h : net.prepare w.1 = (r, world)) :
    net.recorded.prepare w = (r, world, w.2 ++ [.prepare]) := by
  simp [recorded, h]

theorem recorded_secure {host : String} {c : Connection} {r : Outcome Unit}
    (h : net.secure host c w.1 = (r, world)) :
    net.recorded.secure host c w = (r, world, w.2 ++ [.secure c r.value?.isSome]) := by
  simp [recorded, h]

theorem recorded_upgrade {request : UpgradeRequest} {c : Connection} {r : Outcome Unit}
    (h : net.upgrade request c w.1 = (r, world)) :
    net.recorded.upgrade request c w = (r, world, w.2 ++ [.upgrade c r.value?.isSome]) := by
  simp [recorded, h]

theorem recorded_write {f : Frame} {c : Connection} {r : Except String Unit}
    (h : net.write f c w.1 = (r, world)) :
    net.recorded.write f c w = (r, world, w.2 ++ [.write c f]) := by
  simp [recorded, h]

theorem recorded_read (net : Network ω) (c : Connection) (w : ω × List Asked) :
    net.recorded.read c w =
      (net.read c w.1).map fun (r, world) => (r, world, w.2 ++ [.read c]) := rfl

theorem recorded_shut {c : Connection} {r : Except String Unit} (h : net.shut c w.1 = (r, world)) :
    net.recorded.shut c w = (r, world, w.2 ++ [.shut c]) := by
  simp [recorded, h]

end Network

namespace NetworkLink

variable {ω : Type} (net : Network ω)

/-- A link without the record of its network. -/
def forget (l : NetworkLink (ω × List Asked)) : NetworkLink ω :=
  { host := l.host, port := l.port, addresses := l.addresses, plain? := l.plain?,
    secured? := l.secured?, stream? := l.stream?, isOpen := l.isOpen, world := l.world.1 }

/-- The record of a link's network. -/
def record (l : NetworkLink (ω × List Asked)) : List Asked := l.world.2

/-! ## A record changes nothing -/

@[simp] theorem forget_release (held? : Option Connection) (l : NetworkLink (ω × List Asked)) :
    (l.release net.recorded held?).forget = l.forget.release net held? := by
  cases held? <;> rfl

theorem connectFirst_recorded (addresses : List SocketAddress) (error : FeedError)
    (w : ω × List Asked) :
    (connectFirst net.recorded addresses error w).map id Prod.fst =
      connectFirst net addresses error w.1 := by
  induction addresses generalizing error w with
  | nil => rfl
  | cons a rest ih =>
    rw [connectFirst, connectFirst]
    rcases h : net.connect a w.1 with ⟨r, world⟩
    rw [Network.recorded_connect h]
    rcases r with c | reason | _
    · rfl
    · exact ih _ _
    · exact ih _ _

theorem resolve_recorded (l : NetworkLink (ω × List Asked)) (host : String) (port : Nat) :
    (l.resolve net.recorded host port).map id forget = l.forget.resolve net host port := by
  unfold resolve
  rcases h : net.lookup host port l.world.1 with ⟨r, world⟩
  rw [Network.recorded_lookup h, show l.forget.world = l.world.1 from rfl, h]
  rcases r with reason | _ | _ <;> rfl

theorem connect_recorded (l : NetworkLink (ω × List Asked)) :
    (l.connect net.recorded).map id forget = l.forget.connect net := by
  unfold connect
  have hfirst := connectFirst_recorded net l.addresses
    (.network "No resolved addresses to connect to") l.world
  rw [show l.forget.world = l.world.1 from rfl, show l.forget.addresses = l.addresses from rfl,
    ← hfirst]
  rcases connectFirst net.recorded l.addresses _ l.world with ⟨error | c, world⟩
  · rfl
  · dsimp only [Prod.map, id]
    rw [forget_release]
    rfl

theorem secure_recorded (l : NetworkLink (ω × List Asked)) :
    (l.secure net.recorded).map id forget = l.forget.secure net := by
  unfold secure
  rw [show l.forget.plain? = l.plain? from rfl]
  cases l.plain? with
  | none => rfl
  | some c =>
    dsimp only
    rw [show l.forget.world = l.world.1 from rfl, show l.forget.host = l.host from rfl]
    rcases hprepare : net.prepare l.world.1 with ⟨reason | _, world⟩
    · rw [Network.recorded_prepare hprepare]
      rfl
    · rw [Network.recorded_prepare hprepare]
      rcases h : net.secure l.host c world with ⟨r, world'⟩
      dsimp only
      rw [Network.recorded_secure h, h]
      rcases r with _ | reason | _
      · dsimp only [Prod.map, id]
        rw [forget_release]
        rfl
      · rfl
      · rfl

theorem upgrade_recorded (l : NetworkLink (ω × List Asked)) (path : String) :
    (l.upgrade net.recorded path).map id forget = l.forget.upgrade net path := by
  unfold upgrade
  rw [show l.forget.secured? = l.secured? from rfl]
  cases l.secured? with
  | none => rfl
  | some c =>
    dsimp only
    rw [show l.forget.host = l.host from rfl, show l.forget.port = l.port from rfl]
    cases UpgradeRequest.of l.host l.port path with
    | error fault => rfl
    | ok request =>
      rcases h : net.upgrade request c l.world.1 with ⟨r, world⟩
      dsimp only
      rw [Network.recorded_upgrade h, show l.forget.world = l.world.1 from rfl, h]
      rcases r with _ | reason | _
      · dsimp only [Prod.map, id]
        rw [forget_release]
        rfl
      · rfl
      · rfl

theorem write_recorded (l : NetworkLink (ω × List Asked)) (f : Frame) :
    (l.write net.recorded f).map id forget = l.forget.write net f := by
  unfold write
  rw [show l.forget.openStream = l.openStream from rfl]
  cases l.openStream with
  | error error => rfl
  | ok c =>
    rcases h : net.write f c l.world.1 with ⟨r, world⟩
    dsimp only
    rw [Network.recorded_write h, show l.forget.world = l.world.1 from rfl, h]
    rcases r with reason | _ <;> rfl

theorem read_recorded (l : NetworkLink (ω × List Asked)) :
    (l.read net.recorded).map (Prod.map id forget) = l.forget.read net := by
  unfold read
  rw [show l.forget.openStream = l.openStream from rfl]
  cases l.openStream with
  | error error => rfl
  | ok c =>
    dsimp only
    rw [Network.recorded_read, show l.forget.world = l.world.1 from rfl]
    rcases net.read c l.world.1 with _ | ⟨reason | _ | f, world⟩ <;> rfl

theorem forget_reset (l : NetworkLink (ω × List Asked)) :
    (l.reset net.recorded).forget = l.forget.reset net := by
  rw [reset, forget_release, forget_release, forget_release]
  rfl

theorem close_recorded (l : NetworkLink (ω × List Asked)) :
    (l.close net.recorded).map id forget = l.forget.close net := by
  unfold close shut
  rw [show l.forget.openStream = l.openStream from rfl]
  cases l.openStream with
  | error error => exact congrArg (Prod.mk _) (forget_reset net l)
  | ok c =>
    rcases h : net.shut c l.world.1 with ⟨r, world⟩
    dsimp only
    rw [Network.recorded_shut h, show l.forget.world = l.world.1 from rfl, h]
    rcases r with reason | _
    · exact congrArg (Prod.mk _) (forget_reset net _)
    · exact congrArg (Prod.mk _) (forget_reset net _)

theorem handle_recorded (l : NetworkLink (ω × List Asked)) (op : Operation) :
    (l.handle net.recorded op).map id forget = l.forget.handle net op := by
  have hmap : ∀ {r : Except FeedError Unit × NetworkLink (ω × List Asked)}
      {r' : Except FeedError Unit × NetworkLink ω}, r.map id forget = r' →
      (r.map Answer.of id).map id forget = r'.map Answer.of id := by
    rintro r r' rfl
    rfl
  cases op with
  | resolve host port => exact hmap (resolve_recorded net l host port)
  | connect => exact hmap (connect_recorded net l)
  | secure => exact hmap (secure_recorded net l)
  | upgrade path => exact hmap (upgrade_recorded net l path)
  | write f => exact hmap (write_recorded net l f)
  | read =>
    unfold handle
    dsimp only
    rw [← read_recorded net l]
    cases l.read net.recorded <;> rfl
  | close => exact hmap (close_recorded net l)

/-- The record of a run is the record of what happens without it. -/
theorem forget_play (l : NetworkLink (ω × List Asked)) (ops : List Operation) :
    (l.play net.recorded ops).forget = l.forget.play net ops := by
  induction ops generalizing l with
  | nil => rfl
  | cons op rest ih =>
    have hop : (l.next net.recorded op).forget = l.forget.next net op :=
      congrArg Prod.snd (handle_recorded net l op)
    rw [play, List.foldl_cons, ← play, ih, hop]
    rfl

/-! ## Where connections come from -/

/-- A connection was given last, and nothing has been used since. -/
def Unused (gives uses : Asked → Option Connection) (c : Connection) (record : List Asked) : Prop :=
  Lasts (fun a => gives a = some c) (fun a => gives a ≠ none ∨ uses a ≠ none) record

/-- Whatever is used in a record was given last before, and not used since then. So what is given is
used at most once. -/
def HandedOn (gives uses : Asked → Option Connection) (record : List Asked) : Prop :=
  ∀ before a after c, record = before ++ a :: after → uses a = some c → Unused gives uses c before

/-- Connections are handed on, and the one that is held is unused. -/
structure Handed (gives uses : Asked → Option Connection) (held? : Option Connection)
    (record : List Asked) : Prop where
  handedOn : HandedOn gives uses record
  unused : ∀ c, held? = some c → Unused gives uses c record

theorem handed_nil (gives uses : Asked → Option Connection) : Handed gives uses none [] := by
  constructor
  · intro before a after c heq
    simp at heq
  · nofun

/-- One more thing is asked for: only what is held is used, and what is held afterwards is given now,
or was held and is still unused. -/
theorem Handed.append {gives uses : Asked → Option Connection} {held? held?' : Option Connection}
    {record : List Asked} (h : Handed gives uses held? record) (a : Asked)
    (huses : ∀ c, uses a = some c → held? = some c)
    (hheld : ∀ c, held?' = some c →
      gives a = some c ∨ held? = some c ∧ gives a = none ∧ uses a = none) :
    Handed gives uses held?' (record ++ [a]) := by
  constructor
  · intro before a' after c heq huse
    rcases List.eq_nil_or_concat' after with rfl | ⟨after, last, rfl⟩
    · obtain ⟨rfl, hlast⟩ := List.append_inj' heq rfl
      cases hlast
      exact h.unused c (huses c huse)
    · rw [← List.cons_append, ← List.append_assoc] at heq
      obtain ⟨rfl, -⟩ := List.append_inj' heq rfl
      exact h.handedOn before a' after c rfl huse
  · intro c hc
    apply (lasts_append_singleton record a).mpr
    rcases hheld c hc with hgive | ⟨hheld, hgive, huse⟩
    · exact Or.inl hgive
    · exact Or.inr ⟨h.unused c hheld, by simp [hgive, huse]⟩

theorem Handed.drop {gives uses : Asked → Option Connection} {held? : Option Connection}
    {record : List Asked} (h : Handed gives uses held? record) : Handed gives uses none record :=
  ⟨h.handedOn, nofun⟩

/-- Connections are handed on from where they are made to where they are secured, and from there to
where they become WebSockets. -/
structure Kept (plain? secured? : Option Connection) (record : List Asked) : Prop where
  plain : Handed Asked.made? Asked.toSecure? plain? record
  secured : Handed Asked.secured? Asked.toUpgrade? secured? record

/-- Asking for anything else changes nothing. -/
theorem Kept.other {plain? secured? : Option Connection} {record : List Asked}
    (h : Kept plain? secured? record) {a : Asked}
    (ha : a.made? = none ∧ a.toSecure? = none ∧ a.secured? = none ∧ a.toUpgrade? = none) :
    Kept plain? secured? (record ++ [a]) := by
  obtain ⟨hmade, hsecure, hsecured, hupgrade⟩ := ha
  constructor
  · exact h.plain.append a (by simp [hsecure]) fun c hc => Or.inr ⟨hc, hmade, hsecure⟩
  · exact h.secured.append a (by simp [hupgrade]) fun c hc => Or.inr ⟨hc, hsecured, hupgrade⟩

theorem Kept.release {plain? secured? : Option Connection} {l : NetworkLink (ω × List Asked)}
    (h : Kept plain? secured? l.record) (held? : Option Connection) :
    Kept plain? secured? (l.release net.recorded held?).record := by
  cases held? with
  | none => exact h
  | some c => exact h.other (a := .release c) ⟨rfl, rfl, rfl, rfl⟩

theorem release_plain? (held? : Option Connection) (l : NetworkLink (ω × List Asked)) :
    (l.release net.recorded held?).plain? = l.plain? := by
  cases held? <;> rfl

theorem release_secured? (held? : Option Connection) (l : NetworkLink (ω × List Asked)) :
    (l.release net.recorded held?).secured? = l.secured? := by
  cases held? <;> rfl

theorem kept_connectFirst (addresses : List SocketAddress) (error : FeedError)
    {plain? secured? : Option Connection} {w w' : ω × List Asked} {r : Except FeedError Connection}
    (h : Kept plain? secured? w.2) (hr : connectFirst net.recorded addresses error w = (r, w')) :
    Kept (r.toOption.or plain?) secured? w'.2 := by
  induction addresses generalizing error w with
  | nil =>
    cases hr
    exact h
  | cons a rest ih =>
    rw [connectFirst] at hr
    rcases hconnect : net.connect a w.1 with ⟨r', world⟩
    rw [Network.recorded_connect hconnect] at hr
    rcases r' with c | reason | _
    · cases hr
      constructor
      · exact h.plain.append _ (fun c' hc' => by cases hc') fun c' hc' => Or.inl hc'
      · exact h.secured.append _ (fun c' hc' => by cases hc') fun c' hc' => Or.inr ⟨hc', rfl, rfl⟩
    · exact ih _ (w := (world, w.2 ++ [.connect a none])) (h.other ⟨rfl, rfl, rfl, rfl⟩) hr
    · exact ih _ (w := (world, w.2 ++ [.connect a none])) (h.other ⟨rfl, rfl, rfl, rfl⟩) hr

/-- A link holds what its record says. -/
def IsKept (l : NetworkLink (ω × List Asked)) : Prop := Kept l.plain? l.secured? l.record

variable {l : NetworkLink (ω × List Asked)}

theorem IsKept.release (h : l.IsKept) (held? : Option Connection) :
    (l.release net.recorded held?).IsKept := by
  rw [IsKept, release_plain?, release_secured?]
  exact Kept.release net h held?

theorem IsKept.resolve (h : l.IsKept) (host : String) (port : Nat) :
    (l.resolve net.recorded host port).2.IsKept := by
  unfold NetworkLink.resolve
  rcases hlookup : net.lookup host port l.world.1 with ⟨r, world⟩
  rw [Network.recorded_lookup hlookup]
  have hkept := Kept.other h (a := .lookup host port) ⟨rfl, rfl, rfl, rfl⟩
  rcases r with reason | _ | _ <;> exact hkept

theorem IsKept.connect (h : l.IsKept) : (l.connect net.recorded).2.IsKept := by
  unfold NetworkLink.connect
  rcases hr : connectFirst net.recorded l.addresses
    (.network "No resolved addresses to connect to") l.world with ⟨error | c, w⟩
  · exact kept_connectFirst net l.addresses _ h hr
  · apply IsKept.release
    exact kept_connectFirst net l.addresses _ h hr

theorem IsKept.secure (h : l.IsKept) : (l.secure net.recorded).2.IsKept := by
  unfold NetworkLink.secure
  cases hp : l.plain? with
  | none => exact h
  | some c =>
    have hready := Kept.other h (a := .prepare) ⟨rfl, rfl, rfl, rfl⟩
    dsimp only
    rcases hprepare : net.prepare l.world.1 with ⟨reason | _, world⟩
    · rw [Network.recorded_prepare hprepare]
      apply IsKept.release
      exact ⟨hready.plain.drop, hready.secured⟩
    · rw [Network.recorded_prepare hprepare]
      rcases hsecure : net.secure l.host c world with ⟨r, world'⟩
      dsimp only
      rw [Network.recorded_secure hsecure]
      have hplain : Handed Asked.made? Asked.toSecure? none
          (l.record ++ [.prepare] ++ [.secure c r.value?.isSome]) :=
        hready.plain.append _ (fun c' hc' => by rw [hp]; exact hc') nofun
      rcases r with _ | reason | _
      · apply IsKept.release
        exact ⟨hplain, hready.secured.append _ nofun fun c' hc' => Or.inl hc'⟩
      · apply IsKept.release
        exact ⟨hplain, hready.secured.append _ nofun fun c' hc' => Or.inr ⟨hc', rfl, rfl⟩⟩
      · apply IsKept.release
        exact ⟨hplain, hready.secured.append _ nofun fun c' hc' => Or.inr ⟨hc', rfl, rfl⟩⟩

theorem IsKept.upgrade (h : l.IsKept) (path : String) : (l.upgrade net.recorded path).2.IsKept := by
  unfold NetworkLink.upgrade
  cases hs : l.secured? with
  | none => exact h
  | some c =>
    dsimp only
    cases UpgradeRequest.of l.host l.port path with
    | error fault =>
      apply IsKept.release
      exact ⟨h.plain, h.secured.drop⟩
    | ok request =>
      rcases hupgrade : net.upgrade request c l.world.1 with ⟨r, world⟩
      dsimp only
      rw [Network.recorded_upgrade hupgrade]
      have hkept : Kept l.plain? none (l.record ++ [.upgrade c r.value?.isSome]) := by
        constructor
        · exact h.plain.append _ nofun fun c' hc' => Or.inr ⟨hc', rfl, rfl⟩
        · exact h.secured.append _ (fun c' hc' => by rw [hs]; exact hc') nofun
      rcases r with _ | reason | _
      · apply IsKept.release
        exact hkept
      · apply IsKept.release
        exact hkept
      · apply IsKept.release
        exact hkept

theorem IsKept.write (h : l.IsKept) (f : Frame) : (l.write net.recorded f).2.IsKept := by
  unfold NetworkLink.write
  cases l.openStream with
  | error error => exact h
  | ok c =>
    rcases hwrite : net.write f c l.world.1 with ⟨r, world⟩
    dsimp only
    rw [Network.recorded_write hwrite]
    have hkept := Kept.other h (a := .write c f) ⟨rfl, rfl, rfl, rfl⟩
    rcases r with reason | _ <;> exact hkept

theorem IsKept.read (h : l.IsKept) : (l.next net.recorded .read).IsKept := by
  unfold NetworkLink.next handle NetworkLink.read
  cases l.openStream with
  | error error => exact h
  | ok c =>
    dsimp only
    rw [Network.recorded_read]
    have hkept := Kept.other h (a := .read c) ⟨rfl, rfl, rfl, rfl⟩
    rcases net.read c l.world.1 with _ | ⟨reason | _ | f, world⟩
    · exact h
    · exact hkept
    · exact hkept
    · exact hkept

theorem IsKept.reset (h : l.IsKept) : (l.reset net.recorded).IsKept := by
  unfold NetworkLink.reset
  apply IsKept.release
  apply IsKept.release
  apply IsKept.release
  exact ⟨h.plain.drop, h.secured.drop⟩

theorem IsKept.close (h : l.IsKept) : (l.close net.recorded).2.IsKept := by
  unfold NetworkLink.close shut
  cases l.openStream with
  | error error => exact h.reset net
  | ok c =>
    rcases hshut : net.shut c l.world.1 with ⟨r, world⟩
    dsimp only
    rw [Network.recorded_shut hshut]
    have hkept : (l.withWorld (world, l.world.2 ++ [.shut c])).IsKept :=
      Kept.other h (a := .shut c) ⟨rfl, rfl, rfl, rfl⟩
    rcases r with reason | _
    · exact hkept.reset net
    · exact hkept.reset net

theorem IsKept.next (h : l.IsKept) (op : Operation) : (l.next net.recorded op).IsKept := by
  cases op with
  | resolve host port => exact h.resolve net host port
  | connect => exact h.connect net
  | secure => exact h.secure net
  | upgrade path => exact h.upgrade net path
  | write f => exact h.write net f
  | read => exact h.read net
  | close => exact h.close net

theorem isKept_new (world : ω) : (new (world, ([] : List Asked))).IsKept :=
  Kept.mk (handed_nil _ _) (handed_nil _ _)

/-- Whatever is asked of a link, connections are handed on. -/
theorem isKept_play (world : ω) (ops : List Operation) :
    ((new (world, [])).play net.recorded ops).IsKept :=
  foldl_invariant (I := IsKept) (fun _ op h => h.next net op) (isKept_new world) ops

/-! ## A link that is not open -/

theorem record_release (held? : Option Connection) :
    ∃ cs : List Connection, (l.release net.recorded held?).record = l.record ++ cs.map .release := by
  cases held? with
  | none => exact ⟨[], (List.append_nil _).symm⟩
  | some c => exact ⟨[c], rfl⟩

theorem record_reset :
    ∃ cs : List Connection, (l.reset net.recorded).record = l.record ++ cs.map .release := by
  unfold reset
  dsimp only
  obtain ⟨first, hfirst⟩ := record_release net
    (l := { l with isOpen := false, stream? := none, secured? := none, plain? := none }) l.stream?
  obtain ⟨second, hsecond⟩ := record_release net (l := release net.recorded l.stream?
    { l with isOpen := false, stream? := none, secured? := none, plain? := none }) l.secured?
  obtain ⟨third, hthird⟩ := record_release net (l := release net.recorded l.secured?
    (release net.recorded l.stream?
      { l with isOpen := false, stream? := none, secured? := none, plain? := none })) l.plain?
  refine ⟨first ++ second ++ third, ?_⟩
  rw [hthird, hsecond, hfirst, List.map_append, List.map_append, List.append_assoc,
    List.append_assoc, List.append_assoc]
  rfl

theorem close_of_not_isOpen {l : NetworkLink ω} (h : l.isOpen = false) :
    l.close net = (.ok (), l.reset net) := by
  unfold close shut
  rw [openStream_of_not_isOpen h]

/-- Nothing is written by a close of a link that is not open. -/
theorem record_close_of_not_isOpen (h : l.isOpen = false) :
    ∃ cs : List Connection,
      (l.next net.recorded .close).record = l.record ++ cs.map .release := by
  have hclose : l.next net.recorded .close = l.reset net.recorded :=
    congrArg Prod.snd (close_of_not_isOpen net.recorded h)
  rw [hclose]
  exact record_reset net

/-- After a close another one changes nothing. -/
theorem close_next_close (l : NetworkLink ω) (hl : l.Sound) :
    (l.next net .close).handle net .close = (.done, l.next net .close) := by
  have h := handles_handle net hl .close
  unfold next
  generalize (l.handle net .close).1 = answer, (l.handle net .close).2 = closed at h
  cases h with
  | closed _ world _ _ => rfl

/-! ## What follows for one operation -/

/-- No answer says that a stream is missing. -/
theorem answer_ne_streamMissing {l : NetworkLink ω} (hl : l.Sound) (op : Operation) :
    (l.handle net op).1 ≠ .failed streamMissing := by
  have h := handles_handle net hl op
  generalize (l.handle net op).1 = answer, (l.handle net op).2 = l' at h
  cases h with
  | closed _ _ _ hanswer =>
    rcases hanswer with rfl | ⟨error, rfl, herror⟩
    · nofun
    · exact fun heq => herror (Answer.failed.inj heq)
  | unresolved _ _ _ _ herror => exact fun heq => herror (Answer.failed.inj heq)
  | unconnected _ _ herror => exact fun heq => herror (Answer.failed.inj heq)
  | unsecured _ _ _ herror => exact fun heq => herror (Answer.failed.inj heq)
  | notUpgraded _ _ _ _ herror => exact fun heq => herror (Answer.failed.inj heq)
  | unwritten _ _ _ _ herror => exact fun heq => herror (Answer.failed.inj heq)
  | unread _ _ _ herror => exact fun heq => herror (Answer.failed.inj heq)
  | _ => simp [noConnection, noSecured, FeedError.notConnected, streamMissing]

variable {l : NetworkLink ω}

theorem handle_secure_of_none (h : l.plain? = none) :
    l.handle net .secure = (.failed noConnection, l) := by
  unfold handle secure
  rw [h]
  rfl

theorem handle_upgrade_of_none (h : l.secured? = none) (path : String) :
    l.handle net (.upgrade path) = (.failed noSecured, l) := by
  unfold handle upgrade
  rw [h]
  rfl

theorem handle_write_of_not_isOpen (h : l.isOpen = false) (f : Frame) :
    l.handle net (.write f) = (.failed .notConnected, l) := by
  unfold handle write
  rw [openStream_of_not_isOpen h]
  rfl

theorem handle_read_of_not_isOpen (h : l.isOpen = false) :
    l.handle net .read = (.failed .notConnected, l) := by
  unfold handle read
  rw [openStream_of_not_isOpen h]
  rfl

theorem handle_close_of_not_isOpen (h : l.isOpen = false) : (l.handle net .close).1 = .done := by
  unfold handle
  rw [close_of_not_isOpen net h]
  rfl

/-- Where a lookup fails, everything but the network is as before. -/
theorem next_of_failed_resolve (hl : l.Sound) {host : String} {port : Nat} {error : FeedError}
    (h : (l.handle net (.resolve host port)).1 = .failed error) :
    ∃ world, l.next net (.resolve host port) = l.withWorld world := by
  have hcases := handles_handle net hl (.resolve host port)
  unfold next
  rw [h] at hcases
  generalize (l.handle net (.resolve host port)).2 = l' at hcases
  cases hcases with
  | unresolved _ _ _ world _ => exact ⟨world, rfl⟩

/-- Where no connection is made, everything but the network is as before. -/
theorem next_of_failed_connect (hl : l.Sound) {error : FeedError}
    (h : (l.handle net .connect).1 = .failed error) :
    ∃ world, l.next net .connect = l.withWorld world := by
  have hcases := handles_handle net hl .connect
  unfold next
  rw [h] at hcases
  generalize (l.handle net .connect).2 = l' at hcases
  cases hcases with
  | unconnected _ world _ => exact ⟨world, rfl⟩

/-! ## The main fact -/

/-- **What a transport holds agrees with what it has reported.** Whatever is asked of a transport over
a network, in any order, and whatever the network does:

* a transport that is open holds a stream, so no answer says that the stream is missing;
* a record of what the network is asked for changes nothing, and it shows that connections are handed
  on: what is to be secured is the last connection that was made, what is to be upgraded the last one
  that was secured, and nothing has been tried with either before;
* a handshake without a connection that was made, or secured, and that has not been taken since, fails
  and changes nothing;
* a transport is open exactly if an upgrade has succeeded and since then no write and no read has
  failed, no end and no closing frame has been read, and nobody has closed it; otherwise every write and
  every read fails with the same words and changes nothing, and a close succeeds and writes nothing;
* a close right after a close changes nothing at all;
* where a lookup or a connection fails, everything but the network is as before. -/
theorem holds_what_it_reports (world : ω) (ops : List Operation) :
    let l := (new world).play net ops
    let told := reports net (new world) ops
    let kept := (new (world, [])).play net.recorded ops
    (l.isOpen = true → ∃ c, l.stream? = some c) ∧
    (∀ op, (l.handle net op).1 ≠ .failed streamMissing) ∧
    kept.forget = l ∧
    HandedOn Asked.made? Asked.toSecure? kept.record ∧
    HandedOn Asked.secured? Asked.toUpgrade? kept.record ∧
    (¬ Lasts Report.Connects Report.TakesPlain told →
      l.handle net .secure = (.failed noConnection, l)) ∧
    (¬ Lasts Report.Secures Report.TakesSecured told →
      ∀ path, l.handle net (.upgrade path) = (.failed noSecured, l)) ∧
    (l.isOpen = true ↔ Lasts Report.Upgrades Report.Ends told) ∧
    (¬ Lasts Report.Upgrades Report.Ends told →
      (∀ f, l.handle net (.write f) = (.failed .notConnected, l)) ∧
      l.handle net .read = (.failed .notConnected, l) ∧ (l.handle net .close).1 = .done ∧
      ∃ cs : List Connection,
        (kept.next net.recorded .close).record = kept.record ++ cs.map .release) ∧
    (l.next net .close).handle net .close = (.done, l.next net .close) ∧
    (∀ host port error, (l.handle net (.resolve host port)).1 = .failed error →
      ∃ world', l.next net (.resolve host port) = l.withWorld world') ∧
    (∀ error, (l.handle net .connect).1 = .failed error →
      ∃ world', l.next net .connect = l.withWorld world') := by
  intro l told kept
  have hsound : l.Sound := sound_play net world ops
  have hforget : kept.forget = l := forget_play net (new (world, [])) ops
  have hkept : kept.IsKept := isKept_play net world ops
  have hopen : l.isOpen = true ↔ Lasts Report.Upgrades Report.Ends told :=
    isOpen_play_iff net world ops
  have hshut : ¬ Lasts Report.Upgrades Report.Ends told → l.isOpen = false := by
    intro hnone
    by_contra hsome
    exact hnone (hopen.mp (eq_true_of_ne_false hsome))
  refine ⟨hsound, answer_ne_streamMissing net hsound, hforget, hkept.plain.handedOn,
    hkept.secured.handedOn, ?_, ?_, hopen, ?_, close_next_close net l hsound, ?_, ?_⟩
  · intro hnone
    apply handle_secure_of_none
    by_contra hsome
    exact hnone ((plain_play_iff net world ops).mp hsome)
  · intro hnone
    apply handle_upgrade_of_none
    by_contra hsome
    exact hnone ((secured_play_iff net world ops).mp hsome)
  · intro hnone
    have hshut' : kept.isOpen = false := (congrArg isOpen hforget).trans (hshut hnone)
    exact ⟨handle_write_of_not_isOpen net (hshut hnone), handle_read_of_not_isOpen net (hshut hnone),
      handle_close_of_not_isOpen net (hshut hnone), record_close_of_not_isOpen net hshut'⟩
  · intro host port error hfailed
    exact next_of_failed_resolve net hsound hfailed
  · intro error hfailed
    exact next_of_failed_connect net hsound hfailed

/-- A network on which everything succeeds up to the first write, which fails. -/
def writeless : Network Unit where
  lookup _ port _ := (.ok [⟨.short 192 0 2 1, port⟩], ())
  connect _ _ := (.done 7, ())
  prepare _ := (.ok (), ())
  secure _ _ _ := (.done (), ())
  upgrade _ _ _ := (.done (), ())
  write _ _ _ := (.error "Broken pipe", ())
  read _ _ := none
  shut _ _ := (.ok (), ())
  release _ _ := ()
  backlog _ _ := 0

/-- A transport that is open, and whose write fails. -/
def untilWrite : List Operation :=
  [.resolve "example.com" 443, .connect, .secure, .upgrade "/ws", .write (.text "hello")]

/-- The failed write has ended what the upgrade began, and so nothing can be written any more. -/
theorem write_after_failed_write :
    let l := (new ()).play writeless untilWrite
    l.stream? = some 7 ∧ ¬ Lasts Report.Upgrades Report.Ends (reports writeless (new ()) untilWrite) ∧
      ∀ f, l.handle writeless (.write f) = (.failed .notConnected, l) := by
  intro l
  have hstream : l.stream? = some 7 := by decide +kernel
  have hshut : l.isOpen = false := by decide +kernel
  obtain ⟨-, -, -, -, -, -, -, hopen, hunusable, -⟩ := holds_what_it_reports writeless () untilWrite
  have hended : ¬ Lasts Report.Upgrades Report.Ends (reports writeless (new ()) untilWrite) := by
    intro hlasts
    have hisOpen : l.isOpen = true := hopen.mpr hlasts
    rw [hshut] at hisOpen
    cases hisOpen
  exact ⟨hstream, hended, (hunusable hended).1⟩

end NetworkLink

end MarketFeed
