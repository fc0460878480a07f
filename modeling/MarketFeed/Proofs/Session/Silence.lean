import Mathlib.Data.List.Chain
import MarketFeed.Proofs.Session.StateGraph
import MarketFeed.Proofs.Session.Traffic

/-!
# Silence

A heartbeat hears ticks and pongs. At each tick it tests whether the ping before is expired, and then
records its own. If ticks come at least an interval after each other, a tick warns exactly if the tick
before it came more than an interval after every pong (`Heartbeat.isExpired_after_iff`). Main fact: no
peer that answers is warned of, and one that has stopped answering is warned of at the third tick after
its last pong; in every run of a session the ticks warn as this says (`silence_is_warned_of`).
-/

namespace MarketFeed

open Trace

/-! ## Beats -/

/-- What a heartbeat hears: a tick, which tests it and then records a ping, or a pong. -/
inductive Beat
  | tick (time : Nat)
  | pong (time : Nat)
  deriving DecidableEq, Repr

namespace Beat

def time : Beat → Nat
  | .tick time => time
  | .pong time => time

def tick? : Beat → Option Nat
  | .tick time => some time
  | .pong _ => none

def pong? : Beat → Option Nat
  | .tick _ => none
  | .pong time => some time

/-- The times of the ticks among beats. -/
def ticks (beats : List Beat) : List Nat := beats.filterMap tick?

/-- The times of the pongs among beats. -/
def pongs (beats : List Beat) : List Nat := beats.filterMap pong?

/-- The beats of a list come in the order of time, and each tick comes at least an interval after the
tick before it. -/
structure Regular (interval : Nat) (beats : List Beat) : Prop where
  ordered : (beats.map time).Pairwise (· ≤ ·)
  apart : (ticks beats).IsChain fun t t' => t + interval ≤ t'

theorem Regular.of_append {interval : Nat} {beats later : List Beat}
    (h : Regular interval (beats ++ later)) : Regular interval beats := by
  obtain ⟨hordered, hapart⟩ := h
  rw [List.map_append] at hordered
  rw [ticks, List.filterMap_append] at hapart
  exact ⟨(List.pairwise_append.mp hordered).1, hapart.left_of_append⟩

theorem filterMap_sublist_times (beats : List Beat) {f : Beat → Option Nat}
    (hf : ∀ b t, f b = some t → b.time = t) :
    (beats.filterMap f).Sublist (beats.map time) := by
  induction beats with
  | nil => exact List.Sublist.slnil
  | cons b rest ih =>
    rw [List.map_cons]
    cases hb : f b with
    | none =>
      rw [List.filterMap_cons_none hb]
      exact ih.cons _
    | some t =>
      rw [List.filterMap_cons_some hb, hf b t hb]
      exact ih.cons_cons t

theorem time_of_pong? (b : Beat) (t : Nat) (h : b.pong? = some t) : b.time = t := by
  cases b with
  | tick time => cases h
  | pong time => exact Option.some.inj h

theorem Regular.pongs_ordered {interval : Nat} {beats : List Beat} (h : Regular interval beats) :
    (pongs beats).Pairwise (· ≤ ·) :=
  h.ordered.sublist (filterMap_sublist_times beats time_of_pong?)

end Beat

/-! ## A heartbeat that hears beats -/

namespace Heartbeat

/-- A heartbeat after a beat. -/
def hear (h : Heartbeat) : Beat → Heartbeat
  | .tick time => h.recordPing time
  | .pong time => h.recordPong time

/-- A new heartbeat after some beats. -/
def after (interval : Nat) (beats : List Beat) : Heartbeat := beats.foldl hear (.new interval)

theorem interval_after (interval : Nat) (beats : List Beat) :
    (after interval beats).interval = interval := by
  apply foldl_invariant (I := fun h : Heartbeat => h.interval = interval)
  · intro h b hh
    cases b <;> exact hh
  · rfl

theorem lastPing_after (interval : Nat) (beats : List Beat) :
    (after interval beats).lastPing = (Beat.ticks beats).getLast? := by
  have hstep : ∀ (h : Heartbeat) (b : Beat), (h.hear b).lastPing = b.tick?.or h.lastPing := by
    intro h b
    cases b <;> rfl
  have hread := read_foldl Heartbeat.lastPing Beat.tick? hstep (.new interval) beats
  rwa [show (Heartbeat.new interval).lastPing = none from rfl, Option.or_none] at hread

theorem lastPong_after (interval : Nat) (beats : List Beat) :
    (after interval beats).lastPong = (Beat.pongs beats).getLast? := by
  have hstep : ∀ (h : Heartbeat) (b : Beat), (h.hear b).lastPong = b.pong?.or h.lastPong := by
    intro h b
    cases b <;> rfl
  have hread := read_foldl Heartbeat.lastPong Beat.pong? hstep (.new interval) beats
  rwa [show (Heartbeat.new interval).lastPong = none from rfl, Option.or_none] at hread

/-- After beats in the order of time a heartbeat is expired exactly if the last tick came more than an
interval after every pong. -/
theorem isExpired_after_iff {interval : Nat} {beats : List Beat} (h : Beat.Regular interval beats) :
    (after interval beats).isExpired = true ↔
      ∃ t, (Beat.ticks beats).getLast? = some t ∧ ∀ p ∈ Beat.pongs beats, p + interval < t := by
  rw [isExpired, lastPing_after, lastPong_after, interval_after]
  cases hping : (Beat.ticks beats).getLast? with
  | none => simp
  | some t =>
    cases hpong : (Beat.pongs beats).getLast? with
    | none =>
      have hnil : Beat.pongs beats = [] := List.getLast?_eq_none_iff.mp hpong
      simp [hnil]
    | some p =>
      have hmem : p ∈ Beat.pongs beats := List.mem_of_getLast? hpong
      simp only [decide_eq_true_eq, Option.some.injEq, exists_eq_left']
      constructor
      · intro hlt q hq
        have hle : q ≤ p := by
          rw [← List.getLast_of_getLast?_eq_some hpong]
          exact h.pongs_ordered.rel_getLast hq
        omega
      · intro hall
        have hlt := hall p hmem
        omega

/-- The last two ticks come at least an interval after each other. -/
theorem apart_of_ticks {interval : Nat} {beats : List Beat} (h : Beat.Regular interval beats)
    {ts : List Nat} {t t' : Nat} (hticks : Beat.ticks beats = ts ++ [t, t']) : t + interval ≤ t' := by
  have hchain := h.apart
  rw [hticks] at hchain
  have hpair : [t, t'].IsChain fun t t' => t + interval ≤ t' := hchain.right_of_append
  exact (List.isChain_cons_cons.mp hpair).1

theorem ticks_increase {interval : Nat} {beats : List Beat} (h : Beat.Regular interval beats) :
    (Beat.ticks beats).Pairwise (· ≤ ·) := by
  have hchain : (Beat.ticks beats).IsChain (· ≤ ·) := h.apart.imp fun t t' htt' => by omega
  exact List.isChain_iff_pairwise.mp hchain

/-- Two ticks after every pong are the last two. -/
theorem two_last_ticks {interval : Nat} {beats : List Beat} (h : Beat.Regular interval beats)
    (htwo : 2 ≤ (Beat.ticks beats).countP fun t => decide (∀ p ∈ Beat.pongs beats, p < t)) :
    ∃ ts t t', Beat.ticks beats = ts ++ [t, t'] ∧ ∀ p ∈ Beat.pongs beats, p < t := by
  have hordered := ticks_increase h
  have hlength : 2 ≤ (Beat.ticks beats).length := Nat.le_trans htwo List.countP_le_length
  obtain ⟨ts, t, t', hticks⟩ : ∃ ts t t', Beat.ticks beats = ts ++ [t, t'] := by
    rcases List.eq_nil_or_concat' (Beat.ticks beats) with hnil | ⟨before, t', hlast⟩
    · rw [hnil] at hlength
      simp at hlength
    · rcases List.eq_nil_or_concat' before with rfl | ⟨ts, t, rfl⟩
      · rw [hlast] at hlength
        simp at hlength
      · exact ⟨ts, t, t', by rw [hlast, List.append_assoc]; rfl⟩
  refine ⟨ts, t, t', hticks, ?_⟩
  -- If a pong is not before the last but one, it is not before any earlier one either.
  by_contra hpong
  have hnone : ts.countP (fun u => decide (∀ p ∈ Beat.pongs beats, p < u)) = 0 := by
    rw [List.countP_eq_zero]
    intro u hu hafter
    apply hpong
    intro p hp
    have hlt := of_decide_eq_true hafter p hp
    rw [hticks] at hordered
    have hle := (List.pairwise_append.mp hordered).2.2 u hu t (by simp)
    omega
  have hlate : decide (∀ p ∈ Beat.pongs beats, p < t) = false := decide_eq_false hpong
  have hone : [t'].countP (fun u => decide (∀ p ∈ Beat.pongs beats, p < u)) ≤ 1 :=
    List.countP_le_length
  rw [hticks, List.countP_append, hnone, List.countP_cons, hlate] at htwo
  simp only [Bool.false_eq_true, if_false] at htwo
  omega

end Heartbeat

/-! ## What a session does to its heartbeat -/

/-- What happens to the heartbeat of a session: it ticks, a ping is written, a pong comes in. -/
inductive Pulse
  | tick (time : Nat)
  | ping (time : Nat)
  | pong (time : Nat)
  deriving DecidableEq, Repr

/-- A tick that writes its ping at once, or a pong. -/
def Beat.pulses : Beat → List Pulse
  | .tick time => [.tick time, .ping time]
  | .pong time => [.pong time]

/-- A heartbeat after a pulse. -/
def Heartbeat.feel (h : Heartbeat) : Pulse → Heartbeat
  | .tick _ => h
  | .ping time => h.recordPing time
  | .pong time => h.recordPong time

theorem Heartbeat.feel_pulses (h : Heartbeat) (beats : List Beat) :
    (beats.flatMap Beat.pulses).foldl feel h = beats.foldl hear h := by
  induction beats generalizing h with
  | nil => rfl
  | cons b rest ih =>
    rw [List.flatMap_cons, List.foldl_append, ih]
    cases b <;> rfl

/-- The line that warns of a ping without a pong. -/
def Session.silenceLine (s : Session) : LogLine :=
  .warning s!"{s.title}: ping expired, no pong within {Span.text s.period}"

namespace Task

/-- What a step does to the heartbeat. -/
def pulses (view : View) (t : Task) (signal : Signal) : List Pulse :=
  match t.point, signal with
  | .idle, .tick => if t.deadline ≤ view.now then [.tick view.now] else []
  | .writing .ping, .outcome (.ok _) => [.ping view.now]
  | .idle, .incoming (.frame (.pong _)) => [.pong view.now]
  | _, _ => []

variable (view : View) (s : Session) {t : Task} {signal : Signal}

theorem isStreaming_of_pulses (h : t.pulses view signal ≠ []) : t.point.isStreaming = true := by
  unfold pulses at h
  split at h
  · rename_i hp
    rw [hp]
    rfl
  · rename_i hp
    rw [hp]
    rfl
  · rename_i hp
    rw [hp]
    rfl
  · exact absurd rfl h

theorem pulses_eq_nil (htick : t.point = .idle → signal ≠ .tick)
    (hwrite : ∀ w r, t.point = .writing w → signal ≠ .outcome r)
    (hin : ∀ i, t.point = .idle → signal ≠ .incoming i) : t.pulses view signal = [] := by
  unfold pulses
  split
  · rename_i hp
    exact absurd rfl (htick hp)
  · rename_i hp
    exact absurd rfl (hwrite _ _ hp)
  · rename_i hp
    exact absurd rfl (hin _ hp)
  · rfl

theorem heartbeat_takeMessage (m : Except MessageFault (Option Message)) :
    (takeMessage s t m).task.heartbeat = t.heartbeat := by
  rcases m with fault | _ | ack | event
  · rw [takeMessage]
    split_ifs <;> rfl
  · rfl
  · rfl
  · rfl

theorem heartbeat_proceed (h : t.point ≠ .connected) :
    (proceed view s t).task.heartbeat = t.heartbeat := by
  unfold proceed
  cases hp : t.point with
  | connected => exact absurd hp h
  | flushing =>
    dsimp only
    split <;> rfl
  | before stage =>
    dsimp only
    split_ifs <;> rfl
  | retiring =>
    dsimp only
    split <;> rfl
  | parting =>
    dsimp only
    split_ifs <;> rfl
  | _ => rfl

/-- A step leaves the heartbeat alone but for what `pulses` says. -/
theorem heartbeat_step (h : t.point ≠ .connected) :
    (t.step view s signal).task.heartbeat =
      (t.pulses view signal).foldl Heartbeat.feel t.heartbeat := by
  unfold step
  split
  · rename_i stage r hp
    simp only [pulses, hp]
    cases r with
    | error error => rfl
    | ok _ => cases stage <;> rfl
  · rename_i w r hp
    simp only [pulses, hp]
    cases w <;> cases r <;> rfl
  · rename_i r hp
    simp only [pulses, hp]
    cases r <;> rfl
  · rename_i event panicked hp
    simp only [pulses, hp]
    rfl
  · rename_i hp
    simp only [pulses, hp]
    split_ifs <;> rfl
  · rename_i hp
    simp only [pulses, hp]
    split_ifs
    · unfold beat
      dsimp only
      split_ifs <;> rfl
    · rfl
  · rename_i hp
    simp only [pulses, hp]
    split_ifs <;> rfl
  · rename_i i hp
    simp only [pulses, hp]
    cases i with
    | frame f =>
      cases f with
      | text text => exact heartbeat_takeMessage s _
      | binary bytes => exact heartbeat_takeMessage s _
      | _ => rfl
    | _ => rfl
  · rw [heartbeat_proceed view s h]
    unfold pulses
    split <;> simp_all
  · rename_i hwrite _ _ _ htick _ hin
    rw [pulses_eq_nil view htick (fun w r hp => hwrite w r hp) hin]
    rfl

/-- The heartbeat of a task that streams is the one that it began to stream with and what has happened
to that since; before nothing happens to it. -/
structure Paced (period : Nat) (t : Task) (felt : List Pulse) : Prop where
  heartbeat_eq : t.point.isStreaming = true → t.heartbeat = felt.foldl Heartbeat.feel (.new period)
  felt_eq : t.point.isStreaming = false → t.point.isEnding = false → felt = []

/-- A task that neither streams nor ends has done neither before. -/
theorem climbs {view : View} {s : Session} {p p' : Point} {effects : List Effect}
    (h : Passage view s p signal p' effects) (hstreams : p'.isStreaming = false)
    (hends : p'.isEnding = false) : p.isStreaming = false ∧ p.isEnding = false := by
  cases h with
  | attend _ _ _ _ _ _ hp' _ _ _ => cases hp'.symm.trans hstreams
  | stay _ _ _ _ => exact ⟨hstreams, hends⟩
  | _ =>
    first
    | exact ⟨rfl, rfl⟩
    | cases (show true = false from hstreams)
    | cases (show true = false from hends)

theorem Paced.step {felt : List Pulse} (h : Paced s.period t felt) :
    Paced s.period (t.step view s signal).task (felt ++ t.pulses view signal) := by
  have hpassage := passage_step view s t signal
  have hquiet : t.point.isStreaming = false → t.pulses view signal = [] := by
    intro hcalm
    by_contra hne
    cases (isStreaming_of_pulses view hne).symm.trans hcalm
  constructor
  · intro hstreams
    rcases hpassage.isStreaming hstreams with hbefore | ⟨hp, rfl, hclosing, hperiod⟩
    · have hp : t.point ≠ .connected := by
        intro hp
        rw [hp] at hbefore
        cases hbefore
      rw [heartbeat_step view s hp, h.heartbeat_eq hbefore, List.foldl_append]
    · have hcalm : t.point.isStreaming = false := by rw [hp]; rfl
      have hnew : (t.step view s .go).task.heartbeat = .new s.period := by
        simp only [Task.step, proceed, hp, hclosing, hperiod, Bool.false_eq_true, if_false]
      rw [hnew, h.felt_eq hcalm (by rw [hp]; rfl), hquiet hcalm]
      rfl
  · intro hcalm hends
    obtain ⟨hbefore, hgoes⟩ := climbs hpassage hcalm hends
    rw [h.felt_eq hbefore hgoes, hquiet hbefore]
    rfl

/-- A tick warns exactly if the heartbeat is expired. -/
theorem warns_iff (h : t.pulses view .tick ≠ []) (hperiod : t.heartbeat.interval = s.period) :
    .log s.silenceLine ∈ (t.step view s .tick).effects ↔ t.heartbeat.isExpired = true := by
  obtain ⟨hp, hdue⟩ : t.point = .idle ∧ t.deadline ≤ view.now := by
    unfold pulses at h
    split at h
    · rename_i hp _
      exact ⟨hp, by_contra fun hlate => h (if_neg hlate)⟩
    · rename_i heq
      cases heq
    · rename_i heq
      cases heq
    · exact absurd rfl h
  have hstep : t.step view s .tick = beat view s t := by
    simp only [step, hp]
    exact if_pos hdue
  rw [hstep, beat, Session.silenceLine, hperiod]
  cases view.isOpen <;> cases t.heartbeat.isExpired <;> simp

end Task

namespace Scene

/-- What a move does to the heartbeat of the task. -/
def pulses (sc : Scene) : Move → List Pulse
  | .step view signal => (sc.task?.map (·.pulses view signal)).getD []
  | _ => []

/-- What happens to the heartbeat of the task in a run. -/
def pulsesOf (sc : Scene) (moves : List Move) : List Pulse := collect move pulses sc moves

/-- The task keeps its heartbeat; without a task there is nothing to keep. -/
def Paced (sc : Scene) (felt : List Pulse) : Prop :=
  match sc.task? with
  | some task => task.Paced sc.session.period felt
  | none => felt = []

theorem Paced.move {sc : Scene} {felt : List Pulse} (h : sc.Paced felt) (m : Move) :
    (sc.move m).Paced (felt ++ sc.pulses m) := by
  have hperiod : (sc.move m).session.period = sc.session.period := by
    rw [Session.period, (follows_move sc m).settings_eq, Session.period]
  cases ht : sc.task? with
  | none =>
    rw [Paced, ht] at h
    subst h
    cases m with
    | call c =>
      have htask : (sc.move (.call c)).task? = none := ht
      rw [Paced, htask]
      rfl
    | begin endpoint subscriptions =>
      by_cases hs : subscriptions = []
      · have hstays : sc.move (.begin endpoint subscriptions) = sc := by
          show (sc.beginTask endpoint subscriptions).1 = sc
          rw [hs, beginTask_nil]
        rw [hstays, Paced, ht]
        rfl
      · have hbegun : (sc.move (.begin endpoint subscriptions)).task? = some (.new endpoint) := by
          show (sc.beginTask endpoint subscriptions).1.task? = _
          rw [beginTask_of_isNone ht endpoint hs]
        rw [Paced, hbegun]
        refine Task.Paced.mk (fun hstreams => ?_) fun _ _ => rfl
        cases (show false = true from hstreams)
    | step view signal =>
      rw [move_step_of_isNone ht, pulses, ht, Paced, ht]
      rfl
  | some task =>
    rw [Paced, ht] at h
    cases m with
    | call c =>
      have htask : (sc.move (.call c)).task? = some task := ht
      rw [Paced, htask, hperiod]
      exact (List.append_nil felt).symm ▸ h
    | begin endpoint subscriptions =>
      rw [move_begin ht, Paced, ht]
      exact (List.append_nil felt).symm ▸ h
    | step view signal =>
      rw [Paced, move_step ht, pulses, ht]
      rw [move_step ht] at hperiod
      dsimp only at hperiod ⊢
      rw [hperiod]
      exact Task.Paced.step view sc.session h

theorem paced_play (id : Nat) (settings : StreamConfig) (moves : List Move) :
    ((start id settings).play moves).Paced ((start id settings).pulsesOf moves) := by
  induction moves using List.reverseRecOn with
  | nil => exact rfl
  | append_singleton moves m ih =>
    rw [play_append, pulsesOf, collect_append, collect_cons, collect_nil, List.append_nil]
    exact ih.move m

/-- In every run of a session a tick warns exactly if the heartbeat that has heard what has happened so
far is expired. -/
theorem warns_iff_of_pulses {id : Nat} {settings : StreamConfig} {moves : List Move}
    {beats : List Beat} (hpulses : (start id settings).pulsesOf moves = beats.flatMap Beat.pulses)
    {view : View} (htick : ((start id settings).play moves).pulses (.step view .tick) ≠ []) :
    let sc := (start id settings).play moves
    .log sc.session.silenceLine ∈ sc.effects (.step view .tick) ↔
      (Heartbeat.after (start id settings).session.period beats).isExpired = true := by
  intro sc
  have hpaced := paced_play id settings moves
  have hperiod : sc.session.period = (start id settings).session.period := by
    rw [Session.period, (follows_play (start id settings) moves).settings_eq, Session.period]
  cases ht : sc.task? with
  | none =>
    rw [pulses, ht] at htick
    exact absurd rfl htick
  | some task =>
    rw [pulses, ht] at htick
    rw [Paced, ht, hpulses] at hpaced
    have hheart := hpaced.heartbeat_eq (Task.isStreaming_of_pulses view htick)
    rw [Heartbeat.feel_pulses, hperiod] at hheart
    have hinterval : task.heartbeat.interval = sc.session.period := by
      rw [hheart, hperiod]
      exact Heartbeat.interval_after _ beats
    rw [effects_step ht, Task.warns_iff view sc.session htick hinterval, hheart]
    rfl

/-! ## The main fact -/

/-- **A heartbeat warns of silence, and of nothing else.** Let beats come in the order of time, each
tick at least an interval after the tick before it. At a tick with `beats` before it:

* it warns exactly if the tick before it came more than an interval after every pong;
* the first tick does not warn, whatever pongs have come;
* there is no warning if a pong has come at the last tick or after it;
* there is one if no pong has come at the last tick but one or after it, or if no pong has come at all
  and the tick is not the first;
* so there is one if two ticks or more have come after every pong: a peer that has stopped answering is
  warned of at the third tick after its last pong, and at every later one.

In a run of a session to whose heartbeat just these beats have happened, whatever else has happened to
the session, the next tick warns exactly if it does so here. -/
theorem silence_is_warned_of {interval : Nat} {beats later : List Beat} {now : Nat}
    (hregular : Beat.Regular interval (beats ++ .tick now :: later)) :
    let warns := (Heartbeat.after interval beats).isExpired
    let ticks := Beat.ticks beats
    let pongs := Beat.pongs beats
    (warns = true ↔ ∃ t, ticks.getLast? = some t ∧ ∀ p ∈ pongs, p + interval < t) ∧
    (ticks = [] → warns = false) ∧
    (∀ t, ticks.getLast? = some t → (∃ p ∈ pongs, t ≤ p) → warns = false) ∧
    (∀ earlier t t', ticks = earlier ++ [t, t'] → (∀ p ∈ pongs, p < t) → warns = true) ∧
    (ticks ≠ [] → pongs = [] → warns = true) ∧
    (2 ≤ ticks.countP (fun t => decide (∀ p ∈ pongs, p < t)) → warns = true) ∧
    ∀ id settings moves view, (start id settings).session.period = interval →
      (start id settings).pulsesOf moves = beats.flatMap Beat.pulses →
      let sc := (start id settings).play moves
      sc.pulses (.step view .tick) = [.tick now] →
        (.log sc.session.silenceLine ∈ sc.effects (.step view .tick) ↔ warns = true) := by
  intro warns ticks pongs
  have hbefore : Beat.Regular interval beats := hregular.of_append
  have hiff : warns = true ↔ ∃ t, ticks.getLast? = some t ∧ ∀ p ∈ pongs, p + interval < t :=
    Heartbeat.isExpired_after_iff hbefore
  have hsilent : ∀ earlier t t', ticks = earlier ++ [t, t'] → (∀ p ∈ pongs, p < t) →
      warns = true := by
    intro earlier t t' hticks hpongs
    have hapart := Heartbeat.apart_of_ticks hbefore hticks
    apply hiff.mpr
    refine ⟨t', by rw [hticks]; simp, ?_⟩
    intro p hp
    have hlt := hpongs p hp
    omega
  refine ⟨hiff, ?_, ?_, hsilent, ?_, ?_, ?_⟩
  · intro hnone
    by_contra hwarns
    obtain ⟨t, hlast, -⟩ := hiff.mp (eq_true_of_ne_false hwarns)
    rw [hnone] at hlast
    cases hlast
  · rintro t hlast ⟨p, hp, hle⟩
    by_contra hwarns
    obtain ⟨t', hlast', hall⟩ := hiff.mp (eq_true_of_ne_false hwarns)
    have heq : t = t' := Option.some.inj (hlast.symm.trans hlast')
    have hlt := hall p hp
    omega
  · intro hsome hnone
    obtain ⟨t, hlast⟩ := Option.ne_none_iff_exists'.mp (mt List.getLast?_eq_none_iff.mp hsome)
    apply hiff.mpr
    refine ⟨t, hlast, ?_⟩
    rw [hnone]
    nofun
  · intro htwo
    obtain ⟨earlier, t, t', hticks, hpongs⟩ := Heartbeat.two_last_ticks hbefore htwo
    exact hsilent earlier t t' hticks hpongs
  · intro id settings moves view hperiod hpulses sc htick
    have hsome : sc.pulses (.step view .tick) ≠ [] := by
      rw [htick]
      exact List.cons_ne_nil _ _
    have hwarns := warns_iff_of_pulses hpulses hsome
    rw [hperiod] at hwarns
    exact hwarns

/-- What a session goes through in which one pong comes after the first tick and none later, at an
interval of twenty milliseconds. -/
def fallingSilent : List Move :=
  opening [.tickers "A"] ++
    [.step ⟨20000000, true⟩ .tick, .step ⟨20000000, true⟩ (.outcome (.ok ())),
      .step ⟨30000000, true⟩ (.incoming (.frame (.pong []))),
      .step ⟨40000000, true⟩ .tick, .step ⟨40000000, true⟩ (.outcome (.ok ())),
      .step ⟨60000000, true⟩ .tick, .step ⟨60000000, true⟩ (.outcome (.ok ()))]

/-- The third tick after the last pong warns. -/
theorem third_tick_warns :
    let beats : List Beat := [.tick 20000000, .pong 30000000, .tick 40000000, .tick 60000000]
    let sc := (start 1 { StreamConfig.default with heartbeatMs := 20 }).play fallingSilent
    Beat.Regular 20000000 (beats ++ [.tick 80000000]) ∧
      .log sc.session.silenceLine ∈ sc.effects (.step ⟨80000000, true⟩ .tick) := by
  intro beats sc
  have hregular : Beat.Regular 20000000 (beats ++ [.tick 80000000]) :=
    ⟨by decide, by decide⟩
  obtain ⟨-, -, -, -, -, hthird, hrun⟩ := silence_is_warned_of hregular
  refine ⟨hregular, ?_⟩
  apply (hrun 1 { StreamConfig.default with heartbeatMs := 20 } fallingSilent ⟨80000000, true⟩ rfl
    (by decide +kernel) (by decide +kernel)).mpr
  exact hthird (by decide)

end Scene

end MarketFeed
