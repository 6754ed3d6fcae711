import TinyReverseProxy.Lib.Control
import TinyReverseProxy.Lib.Parties

/-!
# Draining connections

On a signal the server sends a value through a watch channel and then waits until its count of
connections is at zero. The accept loops, the tasks of the connections and the HTTP/3 loop take
their steps in between, in any order.

An accept loop takes a connection out of the listener, may read a PROXY header first, and only then
makes a receiver for it and counts it. The receiver is marked as up to date when it is made. So a
connection that a loop has in hand when the signal comes is never told of it (`Connection.hears`),
and the count is at zero while it waits. HTTP/3 connections and the tunnels of upgraded connections
are not counted at all.

When the signal finds none of these, and none comes after it, every connection is told and waited
for (`drain_complete`).
-/

namespace TinyReverseProxy.Server

open Lib Option List

/-! ## The watch channel -/

/-- The sender's side of a watch channel: how many values were sent. -/
structure Watch where
  version : Nat

/-- A receiver remembers up to where it has seen the channel. A clone remembers the same. -/
structure Receiver where
  seen : Nat
  deriving DecidableEq

def Watch.send (watch : Watch) : Watch := ⟨watch.version + 1⟩

namespace Receiver

def borrowAndUpdate (_ : Receiver) (watch : Watch) : Receiver := ⟨watch.version⟩

/-- Whether `changed` returns. -/
def changed (rx : Receiver) (watch : Watch) : Bool := rx.seen != watch.version

end Receiver

/-! ## Connections -/

/-- Where a TCP connection stands. Up to `counted` an accept loop has it in hand, then it has a task
of its own. -/
inductive Stage where
  | reading
  | accepted
  | subscribed (rx : Receiver)
  | counted (rx : Receiver)
  | spawned (rx : Receiver)
  | serving (rx : Receiver)
  | finishing
  | ended
  deriving DecidableEq

/-- `told` is whether `graceful_shutdown` was called, and `tunnel` whether an upgrade goes on in a
task that outlives the connection's. -/
structure Connection where
  stage : Stage
  told : Bool
  tunnel : Bool
  deriving DecidableEq

/-- What an accept loop does with a connection. -/
inductive LoopAction where
  | readHeader (ok : Bool)
  | subscribe
  | increment
  | spawn

/-- What the task of a connection does. -/
inductive TaskAction where
  /-- The `on_accept` hooks and the TLS handshake. -/
  | handshake (ok : Bool)
  | gracefulShutdown
  | finish (upgraded : Bool)
  | decrement
  | closeTunnel

namespace Stage

/-- What the connection adds to the count. -/
def count : Stage → Nat
  | counted _ | spawned _ | serving _ | finishing => 1
  | reading | accepted | subscribed _ | ended => 0

def isInLoop : Stage → Bool
  | reading | accepted | subscribed _ | counted _ => true
  | spawned _ | serving _ | finishing | ended => false

/-- The loop is done with the connection. -/
def isHandedOn : Stage → Bool
  | spawned _ | ended => true
  | _ => false

def receiver? : Stage → Option Receiver
  | subscribed rx | counted rx | spawned rx | serving rx => some rx
  | reading | accepted | finishing | ended => none

def handle (loopRx : Receiver) (watch : Watch) : LoopAction → Stage → Option Stage
  -- without a header the loop drops the connection
  | .readHeader ok, reading => some (if ok then accepted else ended)
  | .subscribe, accepted => some (subscribed (loopRx.borrowAndUpdate watch))
  | .increment, subscribed rx => some (counted rx)
  | .spawn, counted rx => some (spawned rx)
  | _, _ => none

end Stage

namespace Connection

def serve (watch : Watch) : TaskAction → Connection → Option Connection
  | .handshake ok, ⟨.spawned rx, told, tunnel⟩ =>
    some ⟨if ok then .serving rx else .finishing, told, tunnel⟩
  | .gracefulShutdown, ⟨.serving rx, false, tunnel⟩ =>
    if rx.changed watch then some ⟨.serving rx, true, tunnel⟩ else none
  | .finish upgraded, ⟨.serving _, told, _⟩ => some ⟨.finishing, told, upgraded⟩
  | .decrement, ⟨.finishing, told, tunnel⟩ => some ⟨.ended, told, tunnel⟩
  | .closeTunnel, ⟨stage, told, true⟩ => some ⟨stage, told, false⟩
  | _, _ => none

/-- Accepted, and neither dropped nor closed. -/
def isServed (connection : Connection) : Bool :=
  connection.tunnel || match connection.stage with
    | .finishing | .ended => false
    | _ => true

/-- The connection was told of the last value sent, or will be once its task looks, or the loop may
still drop it. -/
def hears (watch : Watch) (connection : Connection) : Bool :=
  connection.told || match connection.stage with
    | .reading | .accepted => true
    | .subscribed rx | .counted rx | .spawned rx | .serving rx => rx.changed watch
    | .finishing | .ended => false

end Connection

def LoopAction.counts : LoopAction → Int
  | .increment => 1
  | _ => 0

def TaskAction.counts : TaskAction → Int
  | .decrement => -1
  | _ => 0

/-! ## The server -/

inductive Loop where
  | starting (rx : Receiver)
  | selecting (rx : Receiver)
  | busy (rx : Receiver) (connection : Nat)
  | stopped

/-- How far `start_server` is. The count was at zero in time at `drained`, and was not at
`expired`. -/
inductive Main where
  | running
  | signalled
  | draining
  | drained
  | expired
  deriving DecidableEq

/-- An HTTP/3 connection is open or not. `active` is the count of the `ConnectionTracker`. -/
structure State where
  proxyProtocol : Bool
  watch : Watch
  loops : List Loop
  connections : List Connection
  active : Int
  h3Loop : Loop
  h3Connections : List Bool
  main : Main

inductive Action where
  | startLoop (loop : Nat)
  | accept (loop : Nat)
  | handle (loop : Nat) (action : LoopAction)
  | stopLoop (loop : Nat)
  | serve (connection : Nat) (action : TaskAction)
  | startH3
  | acceptH3
  | endH3 (connection : Nat)
  | stopH3
  | sendShutdown
  | flush
  | waitForZero
  | deadline

namespace State

/-- The server with its loops started and no connection yet. -/
def start (workers : Nat) (proxyProtocol http3 : Bool) : State where
  proxyProtocol := proxyProtocol
  watch := ⟨0⟩
  loops := replicate workers (.starting ⟨0⟩)
  connections := []
  active := 0
  h3Loop := if http3 then .starting ⟨0⟩ else .stopped
  h3Connections := []
  main := .running

def act (s : State) : Action → Option State
  | .startLoop loop =>
    match s.loops[loop]? with
    | some (.starting rx) =>
      some { s with loops := s.loops.set loop (.selecting (rx.borrowAndUpdate s.watch)) }
    | _ => none
  | .accept loop =>
    match s.loops[loop]? with
    | some (.selecting rx) =>
      some { s with
        loops := s.loops.set loop (.busy rx s.connections.length)
        connections := s.connections ++
          [⟨if s.proxyProtocol then .reading else .accepted, false, false⟩] }
    | _ => none
  | .handle loop action =>
    match s.loops[loop]? with
    | some (.busy rx i) => do
      let connection ← s.connections[i]?
      let stage ← connection.stage.handle rx s.watch action
      return { s with
        loops := s.loops.set loop (if stage.isHandedOn then .selecting rx else .busy rx i)
        connections := s.connections.set i { connection with stage := stage }
        active := s.active + action.counts }
    | _ => none
  | .stopLoop loop =>
    match s.loops[loop]? with
    | some (.selecting rx) =>
      if rx.changed s.watch then some { s with loops := s.loops.set loop .stopped } else none
    | _ => none
  | .serve i action => do
    let connection ← s.connections[i]?
    let connection' ← connection.serve s.watch action
    return { s with
      connections := s.connections.set i connection'
      active := s.active + action.counts }
  | .startH3 =>
    match s.h3Loop with
    | .starting rx => some { s with h3Loop := .selecting (rx.borrowAndUpdate s.watch) }
    | _ => none
  | .acceptH3 =>
    match s.h3Loop with
    | .selecting _ => some { s with h3Connections := s.h3Connections ++ [true] }
    | _ => none
  | .endH3 i => some { s with h3Connections := s.h3Connections.set i false }
  | .stopH3 =>
    match s.h3Loop with
    | .selecting rx =>
      -- closes the endpoint and with it all its connections
      if rx.changed s.watch then
        some { s with h3Loop := .stopped, h3Connections := s.h3Connections.map fun _ => false }
      else none
    | _ => none
  | .sendShutdown =>
    if s.main = .running then some { s with watch := s.watch.send, main := .signalled } else none
  | .flush => if s.main = .signalled then some { s with main := .draining } else none
  | .waitForZero =>
    if s.main = .draining ∧ s.active = 0 then some { s with main := .drained } else none
  | .deadline => if s.main = .draining then some { s with main := .expired } else none

/-- The signal was sent. -/
def isSignalled (s : State) : Prop := s.watch.version ≠ 0

/-! ## What should hold -/

/-- Every connection that is served after the signal is told of it. -/
def Told (s : State) : Prop :=
  s.isSignalled → ∀ connection ∈ s.connections, connection.isServed = true →
    connection.hears s.watch = true

/-- When the wait is over, no connection is served. -/
def Waited (s : State) : Prop :=
  s.main = .drained → (∀ connection ∈ s.connections, connection.isServed = false) ∧
    ∀ isOpen ∈ s.h3Connections, isOpen = false

/-- The signal finds no connection in the hands of a loop, no HTTP/3 connection and no tunnel, and
after it nothing is accepted or upgraded. -/
def Calm (s : State) : Action → Prop
  | .sendShutdown => (∀ connection ∈ s.connections,
      connection.stage.isInLoop = false ∧ connection.tunnel = false) ∧
    ∀ isOpen ∈ s.h3Connections, isOpen = false
  | .accept _ | .acceptH3 | .serve _ (.finish true) => ¬ s.isSignalled
  | _ => True

/-- A run of steps that meet a condition. -/
def Runs (meets : State → Action → Prop) : State → State → Prop :=
  Relation.ReflTransGen fun s s' => ∃ action, meets s action ∧ s.act action = some s'

theorem Runs.imp {meets meets' : State → Action → Prop}
    (h : ∀ s action, meets s action → meets' s action)
    {s s' : State} (hrun : Runs meets s s') : Runs meets' s s' := by
  induction hrun with
  | refl => exact .refl
  | tail _ hstep ih =>
    obtain ⟨action, hmeets, hact⟩ := hstep
    exact ih.tail ⟨action, h _ _ hmeets, hact⟩

/-! ## Steps -/

/-- What a step can do. The loops matter only for when a connection comes and moves. -/
inductive Step (s : State) : Action → State → Prop where
  | startLoop (loop : Nat) (loops : List Loop) : Step s (.startLoop loop) { s with loops := loops }
  | stopLoop (loop : Nat) (loops : List Loop) : Step s (.stopLoop loop) { s with loops := loops }
  | accept (loop : Nat) (loops : List Loop) (stage : Stage) :
      stage = .reading ∨ stage = .accepted →
      Step s (.accept loop)
        { s with loops := loops, connections := s.connections ++ [⟨stage, false, false⟩] }
  | handle (loop : Nat) (action : LoopAction) (loops : List Loop) (rx : Receiver) (i : Nat)
      (connection : Connection) (stage : Stage) : s.connections[i]? = some connection →
      connection.stage.handle rx s.watch action = some stage →
      Step s (.handle loop action)
        { s with
          loops := loops
          connections := s.connections.set i { connection with stage := stage }
          active := s.active + action.counts }
  | serve (i : Nat) (action : TaskAction) (connection connection' : Connection) :
      s.connections[i]? = some connection → connection.serve s.watch action = some connection' →
      Step s (.serve i action)
        { s with
          connections := s.connections.set i connection'
          active := s.active + action.counts }
  | startH3 (h3Loop : Loop) : Step s .startH3 { s with h3Loop := h3Loop }
  | acceptH3 : Step s .acceptH3 { s with h3Connections := s.h3Connections ++ [true] }
  | endH3 (i : Nat) : Step s (.endH3 i) { s with h3Connections := s.h3Connections.set i false }
  | stopH3 : Step s .stopH3
      { s with h3Loop := .stopped, h3Connections := s.h3Connections.map fun _ => false }
  | sendShutdown : Step s .sendShutdown { s with watch := s.watch.send, main := .signalled }
  | flush : s.main = .signalled → Step s .flush { s with main := .draining }
  | waitForZero : s.main = .draining → s.active = 0 →
      Step s .waitForZero { s with main := .drained }
  | deadline : s.main = .draining → Step s .deadline { s with main := .expired }

/-- What an action that is possible does; from here on no proof looks at the guards again. -/
theorem step_of_act {s s' : State} {action : Action} (h : s.act action = some s') :
    s.Step action s' := by
  cases action with
  | startLoop loop =>
    simp only [act] at h
    split at h
    · cases h
      exact .startLoop loop _
    · cases h
  | accept loop =>
    simp only [act] at h
    split at h
    · cases h
      refine .accept loop _ _ ?_
      -- a connection that has come in is counted by the loop or closed
      split
      · exact .inl rfl
      · exact .inr rfl
    · cases h
  | handle loop action =>
    simp only [act] at h
    split at h
    · next rx i _ =>
      -- the loop holds the connection at this place of the list
      obtain ⟨connection, hi, h⟩ := bind_eq_some_iff.mp h
      obtain ⟨stage, hstage, h⟩ := bind_eq_some_iff.mp h
      cases h
      exact .handle loop action _ rx i connection stage hi hstage
    · cases h
  | stopLoop loop =>
    simp only [act] at h
    split at h
    · obtain ⟨-, ⟨⟩⟩ := ite_none_right_eq_some.mp h
      exact .stopLoop loop _
    · cases h
  | serve i action =>
    obtain ⟨connection, hi, h⟩ := bind_eq_some_iff.mp h
    obtain ⟨connection', hserve, h⟩ := bind_eq_some_iff.mp h
    cases h
    exact .serve i action connection connection' hi hserve
  | startH3 =>
    simp only [act] at h
    split at h
    · cases h
      exact .startH3 _
    · cases h
  | acceptH3 =>
    simp only [act] at h
    split at h
    · cases h
      exact .acceptH3
    · cases h
  | endH3 i =>
    cases h
    exact .endH3 i
  | stopH3 =>
    simp only [act] at h
    split at h
    · obtain ⟨-, ⟨⟩⟩ := ite_none_right_eq_some.mp h
      exact .stopH3
    · cases h
  | sendShutdown =>
    obtain ⟨-, ⟨⟩⟩ := ite_none_right_eq_some.mp h
    exact .sendShutdown
  | flush =>
    obtain ⟨hmain, ⟨⟩⟩ := ite_none_right_eq_some.mp h
    exact .flush hmain
  | waitForZero =>
    obtain ⟨hmain, ⟨⟩⟩ := ite_none_right_eq_some.mp h
    exact .waitForZero hmain.1 hmain.2
  | deadline =>
    obtain ⟨hmain, ⟨⟩⟩ := ite_none_right_eq_some.mp h
    exact .deadline hmain

end State

/-! ## One connection -/

section Moves

variable {stage stage' : Stage} {connection connection' : Connection}
  {rx rx' : Receiver} {watch : Watch}

namespace Stage

variable {action : LoopAction} (h : stage.handle rx watch action = some stage')

include h

/-- What the loop does with a connection that has come in. -/
theorem handle_cases :
    (stage = .reading ∧ (stage' = .accepted ∨ stage' = .ended) ∧ action.counts = 0) ∨
      (stage = .accepted ∧ stage' = .subscribed ⟨watch.version⟩ ∧ action.counts = 0) ∨
      (∃ rx', stage = .subscribed rx' ∧ stage' = .counted rx' ∧ action.counts = 1) ∨
      ∃ rx', stage = .counted rx' ∧ stage' = .spawned rx' ∧ action.counts = 0 := by
  unfold handle at h
  split at h
  · cases h
    refine .inl ⟨rfl, ?_, rfl⟩
    split
    · exact .inl rfl
    · exact .inr rfl
  · cases h
    exact .inr (.inl ⟨rfl, rfl, rfl⟩)
  · cases h
    exact .inr (.inr (.inl ⟨_, rfl, rfl, rfl⟩))
  · cases h
    exact .inr (.inr (.inr ⟨_, rfl, rfl, rfl⟩))
  · cases h

theorem isInLoop_of_handle : stage.isInLoop = true := by
  obtain ⟨rfl, _⟩ | ⟨rfl, _⟩ | ⟨_, rfl, _⟩ | ⟨_, rfl, _⟩ := handle_cases h <;> rfl

theorem count_handle :
    (stage'.count : Int) = stage.count + action.counts := by
  obtain ⟨rfl, rfl | rfl, hcounts⟩ | ⟨rfl, rfl, hcounts⟩ | ⟨_, rfl, rfl,
    hcounts⟩ | ⟨_, rfl, rfl, hcounts⟩ :=
    handle_cases h <;> rw [hcounts] <;> rfl

theorem receiver_handle (hrx : stage'.receiver? = some rx') :
    rx'.seen = watch.version ∨ stage.receiver? = some rx' := by
  obtain ⟨rfl, rfl | rfl, _⟩ | ⟨rfl, rfl, _⟩ | ⟨_, rfl, rfl, _⟩ | ⟨_, rfl, rfl, _⟩ := handle_cases h
  · cases hrx
  · cases hrx
  · cases hrx
    exact .inl rfl
  · exact .inr hrx
  · exact .inr hrx

end Stage

namespace Connection

variable {action : TaskAction} (h : connection.serve watch action = some connection')

include h

/-- What the task of a connection does. -/
theorem serve_cases :
    (∃ rx, connection.stage = .spawned rx ∧
        (connection'.stage = .serving rx ∨ connection'.stage = .finishing) ∧
        connection'.tunnel = connection.tunnel ∧ action.counts = 0) ∨
      (∃ rx, connection.stage = .serving rx ∧ connection'.stage = .serving rx ∧
        connection'.tunnel = connection.tunnel ∧ action.counts = 0) ∨
      (∃ rx, connection.stage = .serving rx ∧ connection'.stage = .finishing ∧
        action = .finish connection'.tunnel) ∨
      (connection.stage = .finishing ∧ connection'.stage = .ended ∧
        connection'.tunnel = connection.tunnel ∧ action.counts = -1) ∨
      connection'.stage = connection.stage ∧ connection'.tunnel = false ∧ action.counts = 0 := by
  unfold serve at h
  split at h
  · cases h
    refine .inl ⟨_, rfl, ?_, rfl, rfl⟩
    split
    · exact .inl rfl
    · exact .inr rfl
  · split at h
    · cases h
      exact .inr (.inl ⟨_, rfl, rfl, rfl, rfl⟩)
    · cases h
  · cases h
    exact .inr (.inr (.inl ⟨_, rfl, rfl, rfl⟩))
  · cases h
    exact .inr (.inr (.inr (.inl ⟨rfl, rfl, rfl, rfl⟩)))
  · cases h
    exact .inr (.inr (.inr (.inr ⟨rfl, rfl, rfl⟩)))
  · cases h

theorem count_serve :
    (connection'.stage.count : Int) = connection.stage.count + action.counts := by
  obtain ⟨_, hs, hs' | hs', _, hcounts⟩ | ⟨_, hs, hs', _, hcounts⟩ | ⟨_, hs, hs', rfl⟩ |
    ⟨hs, hs', _, hcounts⟩ | ⟨hs', _, hcounts⟩ := serve_cases h
  iterate 3
    · rw [hs, hs', hcounts]
      rfl
  · rw [hs, hs']
    rfl
  · rw [hs, hs', hcounts]
    rfl
  · rw [hs', hcounts, Int.add_zero]

theorem receiver_serve (hrx : connection'.stage.receiver? = some rx) :
    connection.stage.receiver? = some rx := by
  obtain ⟨_, hs, hs' | hs', _⟩ | ⟨_, hs, hs', _⟩ | ⟨_, _, hs', _⟩ | ⟨_, hs', _⟩ | ⟨hs', _⟩ :=
    serve_cases h
  all_goals rw [hs'] at hrx
  · rw [hs]
    exact hrx
  · cases hrx
  · rw [hs]
    exact hrx
  · cases hrx
  · cases hrx
  · exact hrx

/-- A task keeps its connection out of the hands of the loops. -/
theorem isInLoop_serve (hout : connection.stage.isInLoop = false) :
    connection'.stage.isInLoop = false := by
  obtain ⟨_, _, hs' | hs', _⟩ | ⟨_, _, hs', _⟩ | ⟨_, _, hs', _⟩ | ⟨_, hs', _⟩ | ⟨hs', _⟩ :=
    serve_cases h
  iterate 5
    · rw [hs']
      rfl
  · rw [hs']
    exact hout

theorem tunnel_serve
    (hnone : connection.tunnel = false) (haction : action ≠ .finish true) :
    connection'.tunnel = false := by
  obtain ⟨_, _, _, hsame, _⟩ | ⟨_, _, _, hsame, _⟩ | ⟨_, _, _, rfl⟩ | ⟨_, _, hsame,
    _⟩ | ⟨_, hclosed, _⟩ :=
    serve_cases h
  · rw [hsame, hnone]
  · rw [hsame, hnone]
  · cases htunnel : connection'.tunnel with
    | false => rfl
    | true => rw [htunnel] at haction; exact absurd rfl haction
  · rw [hsame, hnone]
  · exact hclosed

end Connection

end Moves

/-! ## Runs -/

open Connection

namespace State

variable {s s' : State} {action : Action}

/-- The count is right. -/
def Counted (s : State) : Prop := s.active = (total (·.stage.count) s.connections : Nat)

/-- One connection moves, and the count with it. -/
theorem Counted.set (h : s.Counted) {i : Nat} {connection connection' : Connection}
    (hi : s.connections[i]? = some connection) {counts : Int}
    (hcount : (connection'.stage.count : Int) = connection.stage.count + counts) :
    s.active + counts = (total (·.stage.count) (s.connections.set i connection') : Nat) := by
  have hset := total_set (f := (·.stage.count)) hi connection'
  unfold Counted at h
  omega

theorem Counted.step (h : s.Counted) (hstep : s.Step action s') : s'.Counted := by
  cases hstep with
  | accept loop loops stage hstage =>
    have hnone : stage.count = 0 := by
      rcases hstage with rfl | rfl <;> rfl
    unfold Counted at h ⊢
    rw [total_append, h]
    simp [total, hnone]
  | handle loop action loops rx i connection stage hi hstage =>
      exact h.set hi (Stage.count_handle hstage)
  | serve i action connection connection' hi hserve => exact h.set hi (count_serve hserve)
  | _ => exact h

/-- What a calm run keeps. -/
structure Orderly (s : State) : Prop where
  counted : s.Counted
  /-- Receivers were made before the signal. -/
  unseen : ∀ connection ∈ s.connections, ∀ rx, connection.stage.receiver? = some rx → rx.seen = 0
  settled : s.isSignalled → (∀ connection ∈ s.connections,
    connection.stage.isInLoop = false ∧ connection.tunnel = false) ∧
      ∀ isOpen ∈ s.h3Connections, isOpen = false
  signalled : s.main ≠ .running → s.isSignalled
  drained : s.main = .drained → ∀ connection ∈ s.connections, connection.stage.count = 0

theorem orderly_start (workers : Nat) (proxyProtocol http3 : Bool) :
    (start workers proxyProtocol http3).Orderly where
  counted := rfl
  unseen _ h := by cases h
  settled h := absurd rfl h
  signalled h := absurd rfl h
  drained h := by cases h

/-- The wait for the connections is not over before the signal. -/
theorem Orderly.not_drained (h : s.Orderly) (hquiet : ¬ s.isSignalled) : s.main ≠ .drained := by
  intro hdrained
  have hmain : s.main ≠ .running := by
    rw [hdrained]
    decide
  exact hquiet (h.signalled hmain)

/-- Every calm step keeps the order. -/
theorem Orderly.step (h : s.Orderly) (hcalm : s.Calm action) (hstep : s.Step action s') :
    s'.Orderly := by
  have hcounted := h.counted.step hstep
  cases hstep with
  | startLoop | stopLoop | startH3 => exact ⟨hcounted, h.unseen, h.settled, h.signalled, h.drained⟩
  | accept loop loops stage hstage =>
    refine ⟨hcounted, ?_, fun hsignalled => absurd hsignalled hcalm, h.signalled, ?_⟩
    · intro connection hconnection rx hrx
      rcases mem_append.mp hconnection with hold | hnew
      · exact h.unseen connection hold rx hrx
      · rw [mem_singleton.mp hnew] at hrx
        rcases hstage with rfl | rfl <;> cases hrx
    · exact fun hdrained => absurd hdrained (h.not_drained hcalm)
  | handle loop action loops rx i connection stage hi hstage =>
    have hmem := mem_of_getElem? hi
    -- a loop has a connection in hand only before the signal
    have hquiet : ¬ s.isSignalled := by
      intro hsignalled
      have hout := ((h.settled hsignalled).1 connection hmem).1
      rw [Stage.isInLoop_of_handle hstage] at hout
      cases hout
    refine ⟨hcounted, ?_, fun hsignalled => absurd hsignalled hquiet, h.signalled, ?_⟩
    · refine forall_mem_set h.unseen ?_ i
      intro rx' hrx'
      rcases Stage.receiver_handle hstage hrx' with hseen | hold
      · rw [hseen]
        exact not_not.mp hquiet
      · exact h.unseen connection hmem rx' hold
    · exact fun hdrained => absurd hdrained (h.not_drained hquiet)
  | serve i action connection connection' hi hserve =>
    have hmem := mem_of_getElem? hi
    refine ⟨hcounted, ?_, ?_, h.signalled, ?_⟩
    · exact forall_mem_set h.unseen
        (fun rx hrx => h.unseen connection hmem rx (receiver_serve hserve hrx)) i
    · intro hsignalled
      obtain ⟨hconnections, hh3⟩ := h.settled hsignalled
      obtain ⟨hout, hnone⟩ := hconnections connection hmem
      have haction : action ≠ .finish true := by
        intro haction
        subst haction
        exact hcalm hsignalled
      exact ⟨forall_mem_set hconnections ⟨isInLoop_serve hserve hout,
        tunnel_serve hserve hnone haction⟩ i, hh3⟩
    · intro hdrained
      have hzero := h.drained hdrained
      refine forall_mem_set hzero ?_ i
      -- the count of the connection is at zero, and a task only takes off from it
      have hcount := count_serve hserve
      have hbefore := hzero connection hmem
      have hdown : action.counts ≤ 0 := by
        cases action with
        | decrement => decide
        | _ => exact Int.le_refl 0
      omega
  | acceptH3 =>
    exact ⟨hcounted, h.unseen, fun hsignalled => absurd hsignalled hcalm, h.signalled, h.drained⟩
  | endH3 i =>
    refine ⟨hcounted, h.unseen, fun hsignalled => ?_, h.signalled, h.drained⟩
    exact ⟨(h.settled hsignalled).1, forall_mem_set (h.settled hsignalled).2 rfl i⟩
  | stopH3 =>
    refine ⟨hcounted, h.unseen, fun hsignalled => ⟨(h.settled hsignalled).1, ?_⟩,
      h.signalled, h.drained⟩
    intro isOpen hopen
    obtain ⟨_, _, rfl⟩ := mem_map.mp hopen
    rfl
  | sendShutdown =>
    exact ⟨hcounted, h.unseen, fun _ => hcalm, fun _ => Nat.succ_ne_zero _,
      fun hdrained => by cases hdrained⟩
  | flush hmain | deadline hmain =>
    have hsignalled : s.isSignalled := h.signalled (by rw [hmain]; decide)
    exact ⟨hcounted, h.unseen, h.settled, fun _ => hsignalled, fun hdrained => by cases hdrained⟩
  | waitForZero hmain hactive =>
    have hsignalled : s.isSignalled := h.signalled (by rw [hmain]; decide)
    refine ⟨hcounted, h.unseen, h.settled, fun _ => hsignalled, fun _ connection hconnection => ?_⟩
    have hmem : connection ∈ s.connections := hconnection
    obtain ⟨i, hi⟩ := getElem?_of_mem hmem
    have hpart := part_le_total (f := (·.stage.count)) hi
    have htotal := h.counted
    unfold Counted at htotal
    omega

/-- In order, every connection is told of the shutdown. -/
theorem Orderly.told (h : s.Orderly) : s.Told := by
  intro hsignalled connection hconnection hserved
  obtain ⟨hout, hnone⟩ := (h.settled hsignalled).1 connection hconnection
  have hunseen := h.unseen connection hconnection
  have hchanged : ∀ rx : Receiver, rx.seen = 0 → rx.changed s.watch = true := by
    intro rx hrx
    unfold Receiver.changed
    rw [hrx]
    exact bne_iff_ne.mpr (Ne.symm hsignalled)
  unfold isServed at hserved
  unfold hears
  cases hstage : connection.stage with
  | spawned rx | serving rx =>
    rw [hstage] at hunseen
    simp [hchanged rx (hunseen rx rfl)]
  | finishing | ended => simp [hnone, hstage] at hserved
  | reading | accepted | subscribed | counted =>
    rw [hstage] at hout
    cases hout

theorem Orderly.waited (h : s.Orderly) : s.Waited := by
  intro hdrained
  have hsignalled : s.isSignalled := h.signalled (by rw [hdrained]; decide)
  refine ⟨fun connection hconnection => ?_, (h.settled hsignalled).2⟩
  obtain ⟨hout, hnone⟩ := (h.settled hsignalled).1 connection hconnection
  have hzero := h.drained hdrained connection hconnection
  unfold isServed
  cases hstage : connection.stage with
  | finishing | ended => simp [hnone]
  | spawned | serving =>
    rw [hstage] at hzero
    cases hzero
  | reading | accepted | subscribed | counted =>
    rw [hstage] at hout
    cases hout

end State

open State in
/-- The count never goes below zero. In a calm run every connection is told of the signal, and the
wait is over only when none is served. -/
theorem drain_complete (workers : Nat) (proxyProtocol http3 : Bool) :
    (∀ s, Runs (fun _ _ => True) (start workers proxyProtocol http3) s → 0 ≤ s.active) ∧
      ∀ s, Runs Calm (start workers proxyProtocol http3) s → s.Told ∧ s.Waited := by
  constructor
  · intro s hrun
    have hcounted : s.Counted := by
      refine run_preserves (P := Counted)
        ?_ hrun (orderly_start workers proxyProtocol http3).counted
      intro s s' hstep h
      obtain ⟨action, _, hact⟩ := hstep
      exact h.step (step_of_act hact)
    unfold Counted at hcounted
    omega
  · intro s hrun
    have horderly : s.Orderly := by
      refine run_preserves (P := Orderly) ?_ hrun (orderly_start workers proxyProtocol http3)
      intro s s' hstep h
      obtain ⟨action, hcalm, hact⟩ := hstep
      exact h.step hcalm (step_of_act hact)
    exact ⟨horderly.told, horderly.waited⟩

/-! ## A server with one accept loop -/

def actAll (s : State) (actions : List Action) : Option State := actions.foldlM State.act s

/-- The loop takes a connection and gives it to a task. -/
def acceptOne : List Action :=
  [.startLoop 0, .accept 0, .handle 0 .subscribe, .handle 0 .increment, .handle 0 .spawn,
    .serve 0 (.handshake true)]

/-- The connection is open when the signal comes, and is told and waited for. -/
def quiet : List Action :=
  acceptOne ++ [.sendShutdown, .stopLoop 0, .flush, .serve 0 .gracefulShutdown,
    .serve 0 (.finish false), .serve 0 .decrement, .waitForZero]

open State in
theorem drain_complete_quiet :
    ∃ s, actAll (start 1 false false) quiet = some s ∧ 0 ≤ s.active ∧ s.Told ∧ s.Waited := by
  have haccepted : Runs Calm (start 1 false false) _ :=
    .tail (.tail .refl ⟨.startLoop 0, trivial, rfl⟩) ⟨.accept 0, not_not.mpr rfl, rfl⟩
  have hspawned := (((haccepted.tail ⟨.handle 0 .subscribe, trivial, rfl⟩).tail
    ⟨.handle 0 .increment, trivial, rfl⟩).tail ⟨.handle 0 .spawn, trivial, rfl⟩).tail
      ⟨.serve 0 (.handshake true), trivial, rfl⟩
  have hsent := hspawned.tail ⟨.sendShutdown, by unfold Calm; decide, rfl⟩
  have htold := ((hsent.tail ⟨.stopLoop 0, trivial, rfl⟩).tail ⟨.flush, trivial, rfl⟩).tail
    ⟨.serve 0 .gracefulShutdown, trivial, rfl⟩
  have hdrained := ((htold.tail ⟨.serve 0 (.finish false), trivial, rfl⟩).tail
    ⟨.serve 0 .decrement, trivial, rfl⟩).tail ⟨.waitForZero, trivial, rfl⟩
  obtain ⟨hcount, hcalm⟩ := drain_complete 1 false false
  exact ⟨_, rfl, hcount _ (Runs.imp (fun _ _ _ => trivial) hdrained), hcalm _ hdrained⟩

/-- The signal comes while the loop reads a PROXY header, and then the connection is served. -/
def duringHeader : List Action :=
  [.startLoop 0, .accept 0, .sendShutdown, .handle 0 (.readHeader true), .handle 0 .subscribe,
    .handle 0 .increment, .handle 0 .spawn, .serve 0 (.handshake true)]

/-- The connection is not counted yet. -/
def beforeCount : List Action := [.startLoop 0, .accept 0, .sendShutdown, .flush, .waitForZero]

/-- An HTTP/3 connection is open when the signal comes. -/
def overHttp3 : List Action := [.startH3, .acceptH3, .sendShutdown, .flush, .waitForZero]

/-- A connection was upgraded before the signal. -/
def upgraded : List Action :=
  acceptOne ++ [.serve 0 (.finish true), .serve 0 .decrement, .sendShutdown, .flush, .waitForZero]

/-- The first connection is never told. In the other runs the wait is over while one is served. -/
theorem connections_missed :
    (∃ s, actAll (.start 1 true false) duringHeader = some s ∧ ¬ s.Told) ∧
      (∃ s, actAll (.start 1 true false) beforeCount = some s ∧ ¬ s.Waited) ∧
      (∃ s, actAll (.start 1 false true) overHttp3 = some s ∧ ¬ s.Waited) ∧
      ∃ s, actAll (.start 1 false false) upgraded = some s ∧ ¬ s.Waited := by
  refine ⟨⟨_, rfl, ?_⟩, ⟨_, rfl, ?_⟩, ⟨_, rfl, ?_⟩, ⟨_, rfl, ?_⟩⟩
  · unfold State.Told State.isSignalled
    decide
  iterate 3
    · unfold State.Waited
      decide

end TinyReverseProxy.Server
