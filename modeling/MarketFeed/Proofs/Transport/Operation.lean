import Mathlib.Data.List.Basic
import MarketFeed.Proofs.Trace
import MarketFeed.Transport.Network

/-!
# Operations on a transport

What may be asked of a transport over a network, in any order, and what may come of it
(`NetworkLink.handles_handle`): each operation on a link that holds a stream whenever it is open either
takes the link one step further, or leaves it as it was, or takes something back. Main fact: what a
link holds is told by the reports of the operations alone (`isOpen_play_iff`, `plain_play_iff`,
`secured_play_iff`).
-/

namespace MarketFeed

open Trace

namespace NetworkLink

variable {ω : Type}

/-- What may be asked of a transport. -/
inductive Operation
  | resolve (host : String) (port : Nat)
  | connect
  | secure
  | upgrade (path : String)
  | write (f : Frame)
  | read
  | close
  deriving DecidableEq, Repr

/-- What a transport answers. -/
inductive Answer
  | done
  | failed (error : FeedError)
  | heard (f : Frame)
  /-- The other side has gone. -/
  | ended
  /-- Nothing has arrived yet. -/
  | nothing
  deriving DecidableEq, Repr

namespace Answer

def of : Except FeedError Unit → Answer
  | .ok _ => .done
  | .error error => .failed error

def ofIncoming : Incoming → Answer
  | .frame f => .heard f
  | .failed error => .failed error
  | .ended => .ended

end Answer

/-- An operation: the answer, and the link after it. -/
def handle (net : Network ω) (l : NetworkLink ω) : Operation → Answer × NetworkLink ω
  | .resolve host port => (l.resolve net host port).map Answer.of id
  | .connect => (l.connect net).map Answer.of id
  | .secure => (l.secure net).map Answer.of id
  | .upgrade path => (l.upgrade net path).map Answer.of id
  | .write f => (l.write net f).map Answer.of id
  | .read =>
    match l.read net with
    | some (i, l) => (.ofIncoming i, l)
    | none => (.nothing, l)
  | .close => (l.close net).map Answer.of id

/-- The link after an operation. -/
def next (net : Network ω) (l : NetworkLink ω) (op : Operation) : NetworkLink ω := (l.handle net op).2

/-- The link after some operations. -/
def play (net : Network ω) (l : NetworkLink ω) (ops : List Operation) : NetworkLink ω :=
  ops.foldl (next net) l

/-- An operation and its answer. -/
abbrev Report := Operation × Answer

def report (net : Network ω) (l : NetworkLink ω) (op : Operation) : Report :=
  (op, (l.handle net op).1)

/-- Some operations and their answers. -/
def reports (net : Network ω) (l : NetworkLink ω) (ops : List Operation) : List Report :=
  collect (next net) (fun l op => [report net l op]) l ops

/-! ## What an operation may do -/

/-- What is said of a link that is open but holds no stream. -/
def streamMissing : FeedError := .network "WebSocket stream not available"

def noConnection : FeedError := .network "TLS handshake without a TCP connection"

def noSecured : FeedError := .network "WebSocket handshake without a TLS stream"

/-- What may come of an operation. -/
inductive Handles (l : NetworkLink ω) : Operation → Answer → NetworkLink ω → Prop
  | unresolved (host : String) (port : Nat) (error : FeedError) (world : ω)
    (herror : error ≠ streamMissing) :
    Handles l (.resolve host port) (.failed error) (l.withWorld world)
  | resolved (host : String) (port : Nat) (addresses : List SocketAddress) (world : ω) :
    Handles l (.resolve host port) .done { l with host, port, addresses, world }
  | unconnected (error : FeedError) (world : ω) (herror : error ≠ streamMissing) :
    Handles l .connect (.failed error) (l.withWorld world)
  | connected (c : Connection) (world : ω) :
    Handles l .connect .done { l with plain? := some c, world }
  | nothingToSecure (h : l.plain? = none) : Handles l .secure (.failed noConnection) l
  | secured (c : Connection) (world : ω) (h : l.plain? = some c) :
    Handles l .secure .done { l with plain? := none, secured? := some c, world }
  | unsecured (error : FeedError) (world : ω) (h : l.plain? ≠ none)
    (herror : error ≠ streamMissing) :
    Handles l .secure (.failed error) { l with plain? := none, world }
  | nothingToUpgrade (path : String) (h : l.secured? = none) :
    Handles l (.upgrade path) (.failed noSecured) l
  | upgraded (path : String) (c : Connection) (world : ω) (h : l.secured? = some c) :
    Handles l (.upgrade path) .done
      { l with secured? := none, stream? := some c, isOpen := true, world }
  | notUpgraded (path : String) (error : FeedError) (world : ω) (h : l.secured? ≠ none)
    (herror : error ≠ streamMissing) :
    Handles l (.upgrade path) (.failed error) { l with secured? := none, world }
  | unwritable (f : Frame) (h : l.isOpen = false) : Handles l (.write f) (.failed .notConnected) l
  | written (f : Frame) (world : ω) (h : l.isOpen = true) :
    Handles l (.write f) .done (l.withWorld world)
  | unwritten (f : Frame) (error : FeedError) (world : ω) (h : l.isOpen = true)
    (herror : error ≠ streamMissing) :
    Handles l (.write f) (.failed error) { l with isOpen := false, world }
  | unreadable (h : l.isOpen = false) : Handles l .read (.failed .notConnected) l
  | nothing (h : l.isOpen = true) : Handles l .read .nothing l
  | heard (f : Frame) (world : ω) (h : l.isOpen = true) :
    Handles l .read (.heard f) { l with isOpen := !isClose f, world }
  | ended (world : ω) (h : l.isOpen = true) : Handles l .read .ended { l with isOpen := false, world }
  | unread (error : FeedError) (world : ω) (h : l.isOpen = true) (herror : error ≠ streamMissing) :
    Handles l .read (.failed error) { l with isOpen := false, world }
  | closed (answer : Answer) (world : ω) (h : l.isOpen = false → answer = .done)
    (hanswer : answer = .done ∨ ∃ error, answer = .failed error ∧ error ≠ streamMissing) :
    Handles l .close answer
      { l with isOpen := false, stream? := none, secured? := none, plain? := none, world }

/-! ### What is said of failures -/

/-- A text begins with some characters. -/
def Begins (front : List Char) (text : String) : Prop := front <+: text.toList

theorem begins_self (text : String) : Begins text.toList text := List.prefix_refl _

theorem Begins.append {front : List Char} {text : String} (h : Begins front text) (more : String) :
    Begins front (text ++ more) := by
  rw [Begins, String.toList_append]
  exact h.trans (List.prefix_append _ _)

/-- What begins otherwise says something else. -/
theorem Begins.ne_streamMissing {front : List Char} {text : String} (h : Begins front text)
    (hfront : ¬front <+: "WebSocket stream not available".toList) :
    FeedError.network text ≠ streamMissing := by
  intro heq
  rw [streamMissing, FeedError.network.injEq] at heq
  rw [heq] at h
  exact hfront h

theorem timeout_ne (text : String) : FeedError.timeout text ≠ streamMissing := by
  simp [streamMissing]

theorem invalidParameters_ne (text : String) : FeedError.invalidParameters text ≠ streamMissing := by
  simp [streamMissing]

theorem connectFirst_ne (net : Network ω) (addresses : List SocketAddress) {error : FeedError}
    (world : ω) (herror : error ≠ streamMissing) {error' : FeedError} {world' : ω}
    (h : connectFirst net addresses error world = (.error error', world')) :
    error' ≠ streamMissing := by
  induction addresses generalizing error world with
  | nil =>
    cases h
    exact herror
  | cons a rest ih =>
    rw [connectFirst] at h
    split at h
    · cases h
    · rename_i reason _ _
      refine ih _ ?_ h
      have hbegins := (((begins_self "Failed to connect to ").append a.text).append ": ").append reason
      exact hbegins.ne_streamMissing (by decide)
    · exact ih _ (timeout_ne _) h

/-! ### The operations -/

/-- A link that is open holds a stream. -/
def Sound (l : NetworkLink ω) : Prop := l.isOpen = true → ∃ c, l.stream? = some c

theorem release_eq (net : Network ω) (held? : Option Connection) (l : NetworkLink ω) :
    ∃ world, l.release net held? = l.withWorld world := by
  cases held? with
  | none => exact ⟨l.world, rfl⟩
  | some c => exact ⟨net.release c l.world, rfl⟩

theorem handles_resolve (net : Network ω) (l : NetworkLink ω) (host : String) (port : Nat) :
    l.Handles (.resolve host port) (.of (l.resolve net host port).1)
      (l.resolve net host port).2 := by
  unfold resolve
  split
  · rename_i reason _ _
    have hbegins := (((begins_self "Failed to resolve ").append host).append ": ").append reason
    exact .unresolved host port _ _ (hbegins.ne_streamMissing (by decide))
  · have hbegins := (begins_self "No addresses found for ").append host
    exact .unresolved host port _ _ (hbegins.ne_streamMissing (by decide))
  · exact .resolved host port _ _

theorem handles_connect (net : Network ω) (l : NetworkLink ω) :
    l.Handles .connect (.of (l.connect net).1) (l.connect net).2 := by
  unfold connect
  split
  · rename_i error world h
    have hnone : FeedError.network "No resolved addresses to connect to" ≠ streamMissing := by decide
    exact .unconnected error world (connectFirst_ne net l.addresses l.world hnone h)
  · rename_i c world h
    obtain ⟨world', hrelease⟩ := release_eq net l.plain? { l with plain? := some c, world }
    dsimp only
    rw [hrelease]
    exact .connected c world'

theorem handles_secure (net : Network ω) (l : NetworkLink ω) :
    l.Handles .secure (.of (l.secure net).1) (l.secure net).2 := by
  unfold secure
  split
  · rename_i h
    exact .nothingToSecure h
  · rename_i c h
    dsimp only
    split
    · rename_i reason _ _
      have hbegins := (begins_self "Failed to build TLS connector: ").append reason
      exact .unsecured _ _ (by simp [h]) (hbegins.ne_streamMissing (by decide))
    · split
      · rename_i world _
        obtain ⟨world', hrelease⟩ := release_eq net l.secured?
          { l with plain? := none, secured? := some c, world }
        rw [hrelease]
        exact .secured c world' h
      · rename_i reason _ _
        have hbegins := (begins_self "TLS handshake failed: ").append reason
        exact .unsecured _ _ (by simp [h]) (hbegins.ne_streamMissing (by decide))
      · exact .unsecured _ _ (by simp [h]) (timeout_ne _)

theorem handles_upgrade (net : Network ω) (l : NetworkLink ω) (path : String) :
    l.Handles (.upgrade path) (.of (l.upgrade net path).1) (l.upgrade net path).2 := by
  unfold upgrade
  split
  · rename_i h
    exact .nothingToUpgrade path h
  · rename_i c h
    dsimp only
    split
    · exact .notUpgraded path _ _ (by simp [h]) (invalidParameters_ne _)
    · split
      · rename_i world _
        obtain ⟨world', hrelease⟩ := release_eq net l.stream?
          { l with secured? := none, stream? := some c, isOpen := true, world }
        rw [hrelease]
        exact .upgraded path c world' h
      · rename_i reason _ _
        have hbegins := (begins_self "WebSocket handshake failed: ").append reason
        exact .notUpgraded path _ _ (by simp [h]) (hbegins.ne_streamMissing (by decide))
      · exact .notUpgraded path _ _ (by simp [h]) (timeout_ne _)

theorem openStream_of_not_isOpen {l : NetworkLink ω} (h : l.isOpen = false) :
    l.openStream = .error .notConnected := by
  unfold openStream
  rw [h]
  rfl

theorem Sound.openStream_eq {l : NetworkLink ω} (hl : l.Sound) (h : l.isOpen = true) :
    ∃ c, l.openStream = .ok c := by
  obtain ⟨c, hstream⟩ := hl h
  refine ⟨c, ?_⟩
  unfold openStream
  rw [h, hstream]
  rfl

theorem handles_write (net : Network ω) {l : NetworkLink ω} (hl : l.Sound) (f : Frame) :
    l.Handles (.write f) (.of (l.write net f).1) (l.write net f).2 := by
  unfold write
  cases hopen : l.isOpen with
  | false =>
    rw [openStream_of_not_isOpen hopen]
    exact .unwritable f hopen
  | true =>
    obtain ⟨c, hstream⟩ := hl.openStream_eq hopen
    rw [hstream]
    dsimp only
    split
    · exact .written f _ hopen
    · rename_i reason _ _
      have hbegins := (begins_self "Failed to send WebSocket message: ").append reason
      exact .unwritten f _ _ hopen (hbegins.ne_streamMissing (by decide))

theorem handles_read (net : Network ω) {l : NetworkLink ω} (hl : l.Sound) :
    l.Handles .read (l.handle net .read).1 (l.handle net .read).2 := by
  unfold handle read
  cases hopen : l.isOpen with
  | false =>
    rw [openStream_of_not_isOpen hopen]
    exact .unreadable hopen
  | true =>
    obtain ⟨c, hstream⟩ := hl.openStream_eq hopen
    rw [hstream]
    dsimp only
    rcases net.read c l.world with _ | ⟨reason | _ | f, world⟩
    · exact .nothing hopen
    · have hbegins := (begins_self "WebSocket error: ").append reason
      exact .unread _ _ hopen (hbegins.ne_streamMissing (by decide))
    · exact .ended world hopen
    · exact .heard f world hopen

theorem reset_eq (net : Network ω) (l : NetworkLink ω) :
    ∃ world, l.reset net =
      { l with isOpen := false, stream? := none, secured? := none, plain? := none, world } := by
  unfold reset
  dsimp only
  obtain ⟨_, h₁⟩ := release_eq net l.stream?
    { l with isOpen := false, stream? := none, secured? := none, plain? := none }
  rw [h₁]
  obtain ⟨_, h₂⟩ := release_eq net l.secured? (withWorld _ _)
  rw [h₂]
  obtain ⟨world, h₃⟩ := release_eq net l.plain? (withWorld _ _)
  rw [h₃]
  exact ⟨world, rfl⟩

theorem handles_close (net : Network ω) {l : NetworkLink ω} (hl : l.Sound) :
    l.Handles .close (.of (l.close net).1) (l.close net).2 := by
  unfold close shut
  cases hopen : l.isOpen with
  | false =>
    rw [openStream_of_not_isOpen hopen]
    obtain ⟨world, hreset⟩ := reset_eq net l
    dsimp only
    rw [hreset]
    exact .closed _ world (fun _ => rfl) (Or.inl rfl)
  | true =>
    obtain ⟨c, hstream⟩ := hl.openStream_eq hopen
    rw [hstream]
    dsimp only
    split
    · rename_i world _
      obtain ⟨world', hreset⟩ := reset_eq net (l.withWorld world)
      dsimp only
      rw [hreset]
      exact .closed _ world' (fun _ => rfl) (Or.inl rfl)
    · rename_i reason world _
      obtain ⟨world', hreset⟩ := reset_eq net (l.withWorld world)
      have hbegins := (begins_self "WebSocket close failed: ").append reason
      dsimp only
      rw [hreset]
      exact .closed _ world' (fun h => by cases hopen.symm.trans h)
        (Or.inr ⟨_, rfl, hbegins.ne_streamMissing (by decide)⟩)

/-- Every operation on a sound link does one of these things. -/
theorem handles_handle (net : Network ω) {l : NetworkLink ω} (hl : l.Sound) (op : Operation) :
    l.Handles op (l.handle net op).1 (l.handle net op).2 := by
  cases op with
  | resolve host port => exact handles_resolve net l host port
  | connect => exact handles_connect net l
  | secure => exact handles_secure net l
  | upgrade path => exact handles_upgrade net l path
  | write f => exact handles_write net hl f
  | read => exact handles_read net hl
  | close => exact handles_close net hl

/-! ## Runs -/

theorem Sound.next {l : NetworkLink ω} (hl : l.Sound) (net : Network ω) (op : Operation) :
    (l.next net op).Sound := by
  have h := handles_handle net hl op
  unfold NetworkLink.next
  generalize (l.handle net op).1 = answer, (l.handle net op).2 = l' at h
  cases h with
  | upgraded path c world h => exact fun _ => ⟨c, rfl⟩
  | unwritten f error world h herror => exact nofun
  | ended world h => exact nofun
  | unread error world h herror => exact nofun
  | closed answer world h hanswer => exact nofun
  | heard f world h => exact fun _ => hl h
  | _ => exact hl

theorem sound_new (world : ω) : (new world).Sound := nofun

theorem sound_play (net : Network ω) (world : ω) (ops : List Operation) :
    ((new world).play net ops).Sound :=
  foldl_invariant (I := Sound) (fun _ op hl => hl.next net op) (sound_new world) ops

namespace Report

/-- A connection has been made. -/
def Connects (r : Report) : Prop := r = (.connect, .done)

/-- A connection has been taken to be secured, or a close has let go of it. -/
def TakesPlain (r : Report) : Prop := r.1 = .secure ∨ r.1 = .close

/-- A connection has been secured. -/
def Secures (r : Report) : Prop := r = (.secure, .done)

/-- A secure connection has been taken to be upgraded, or a close has let go of it. -/
def TakesSecured (r : Report) : Prop := (∃ path, r.1 = .upgrade path) ∨ r.1 = .close

/-- A connection has become a WebSocket. -/
def Upgrades (r : Report) : Prop := ∃ path, r = (.upgrade path, .done)

/-- A write has failed, a read has failed or has met the end or a frame that closes, or there has been
a close. -/
def Ends (r : Report) : Prop :=
  (∃ f error, r = (.write f, .failed error)) ∨ (∃ error, r = (.read, .failed error)) ∨
    r = (.read, .ended) ∨ (∃ reason, r = (.read, .heard (.close reason))) ∨ r.1 = .close

end Report

theorem isClose_eq_true_iff (f : Frame) : isClose f = true ↔ ∃ reason, f = .close reason := by
  cases f <;> simp [isClose]

/-- A link holds a connection that is not secure yet exactly if one has been made and not been taken
since. -/
theorem plain_play_iff (net : Network ω) (world : ω) (ops : List Operation) :
    ((new world).play net ops).plain? ≠ none ↔
      Lasts Report.Connects Report.TakesPlain (reports net (new world) ops) := by
  refine holds_iff_lasts (P := fun l => l.plain? ≠ none) (I := Sound)
    (fun _ op hl => hl.next net op) ?_ (sound_new world) (by simp [new]) ops
  intro l op hl
  have h := handles_handle net hl op
  unfold next report
  generalize (l.handle net op).1 = answer, (l.handle net op).2 = l' at h
  cases h <;> simp_all [Report.Connects, Report.TakesPlain, withWorld]

/-- A link holds a secure connection exactly if one has been secured and not been taken since. -/
theorem secured_play_iff (net : Network ω) (world : ω) (ops : List Operation) :
    ((new world).play net ops).secured? ≠ none ↔
      Lasts Report.Secures Report.TakesSecured (reports net (new world) ops) := by
  refine holds_iff_lasts (P := fun l => l.secured? ≠ none) (I := Sound)
    (fun _ op hl => hl.next net op) ?_ (sound_new world) (by simp [new]) ops
  intro l op hl
  have h := handles_handle net hl op
  unfold next report
  generalize (l.handle net op).1 = answer, (l.handle net op).2 = l' at h
  cases h <;> simp_all [Report.Secures, Report.TakesSecured, withWorld]

/-- A link is open exactly if a connection has become a WebSocket and nothing has ended it since. -/
theorem isOpen_play_iff (net : Network ω) (world : ω) (ops : List Operation) :
    ((new world).play net ops).isOpen = true ↔
      Lasts Report.Upgrades Report.Ends (reports net (new world) ops) := by
  refine holds_iff_lasts (P := fun l => l.isOpen = true) (I := Sound)
    (fun _ op hl => hl.next net op) ?_ (sound_new world) (by simp [new]) ops
  intro l op hl
  have h := handles_handle net hl op
  unfold next report
  generalize (l.handle net op).1 = answer, (l.handle net op).2 = l' at h
  cases h with
  | heard f world h =>
    cases hclose : isClose f with
    | true =>
      obtain ⟨reason, rfl⟩ := (isClose_eq_true_iff f).mp hclose
      simp [Report.Upgrades, Report.Ends]
    | false =>
      have hopen : ¬∃ reason, f = .close reason := by
        rw [← isClose_eq_true_iff, hclose]
        simp
      simpa [Report.Upgrades, Report.Ends, h] using hopen
  | _ => simp_all [Report.Upgrades, Report.Ends, withWorld]

end NetworkLink

end MarketFeed
