import Bsdvr.Model.Node

namespace Bsdvr

/-- `MilliSeconds`: the simulator counts nanoseconds. -/
def milliSeconds (count : Nat) : Time := 1000000 * count

/-- A call of `SendTo` that `SendHello` has scheduled, and when it is due. -/
structure ScheduledHello where
  due : Time
  message : HelloSent
  deriving DecidableEq, Repr

/-- A `RoutingProtocol` with its timers: when `m_htimer` and the purge timer of the neighbour list
fire, if they are pending. -/
structure TimedNode where
  node : Node
  htimer : Option Time
  lastBcastTime : Time
  ntimer : Option Time
  scheduled : List ScheduledHello
  -- `DoInitialize` and `Start` run once each
  initialized : Bool
  started : Bool

inductive TimedEvent
  /-- `startTime` is the number `DoInitialize` draws. -/
  | doInitialize (startTime : Nat)
  | start
  /-- `m_htimer` fires; `jitters` are the numbers `SendHello` draws. -/
  | helloTimerExpire (jitters : List Nat)
  | purgeTimerExpire
  | sendTo (call : ScheduledHello)
  | control (event : Node.Event)
  deriving DecidableEq, Repr

namespace Node

def restartsPurge (node : Node) : Event → Bool
  | .recv socket _ (.hello header) _ => (node.receiver socket).isSome && decide
    (header.dst = header.origin) &&
      node.enableHello && decide (header.origin ∉ node.neighbors)
  | .purge | .txError _ => !node.nb.isEmpty
  | .recv _ _ (.update _) _ | .interfaceUp _ | .interfaceDown _ | .elapse _ => false

/-- The event takes the last interface down, which cancels `m_htimer`. -/
def cancelsHello (node : Node) : Event → Bool
  | .interfaceDown i => (node.notifyInterfaceDown i).socketAddresses.isEmpty
  | .recv _ _ _ _ | .purge | .txError _ | .interfaceUp _ | .elapse _ => false

end Node

namespace TimedNode

/-- The delay of the purge timer. It is set before the attribute `HelloInterval` is, from the
initial value of `m_helloInterval`. -/
def purgeDelay : Time := milliSeconds 1000

def doInitialize (timed : TimedNode) (startTime : Nat) : TimedNode :=
  { timed with
    htimer := if timed.node.enableHello then some (timed.node.now + milliSeconds startTime)
      else timed.htimer
    initialized := true }

def start (timed : TimedNode) : TimedNode :=
  { timed with
    ntimer := if timed.node.enableHello then some (timed.node.now + purgeDelay) else timed.ntimer
    started := true }

def control (timed : TimedNode) (event : Node.Event) : TimedNode × List Sent :=
  let handled := timed.node.handle event
  ({ timed with
      node := handled.1
      htimer := if timed.node.cancelsHello event then none else timed.htimer
      ntimer := if timed.node.restartsPurge event then some (timed.node.now + purgeDelay)
        else timed.ntimer },
    handled.2)

def sendHello (timed : TimedNode) (jitters : List Nat) : TimedNode × List Sent :=
  let purged := timed.control .purge
  let calls := (purged.1.node.helloMessages.zip jitters).map fun (message, jitter) =>
    (⟨timed.node.now + milliSeconds jitter, message⟩ : ScheduledHello)
  ({ purged.1 with scheduled := timed.scheduled ++ calls }, purged.2)

def helloTimerExpire (timed : TimedNode) (jitters : List Nat) : TimedNode × List Sent :=
  let (offset, sent) :=
    if 0 < timed.lastBcastTime then (timed.node.now - timed.lastBcastTime, timed, []) else (0, timed.sendHello jitters)
  -- a difference below zero counts as zero
  ({ sent.1 with htimer := some (timed.node.now + (timed.node.helloInterval - offset)), lastBcastTime := 0 }, sent.2)

def Idle (timed : TimedNode) (time : Time) : Prop :=
  timed.started = true ∧ (∀ due ∈ timed.htimer, time ≤ due) ∧ (∀ due ∈ timed.ntimer, time ≤ due) ∧
    ∀ call ∈ timed.scheduled, time ≤ call.due

instance (timed : TimedNode) (time : Time) : Decidable (timed.Idle time) :=
  inferInstanceAs (Decidable (_ ∧ _ ∧ _ ∧ _))

/-- The simulator runs what is due before its clock goes on. -/
def Enabled (timed : TimedNode) : TimedEvent → Prop
  | .doInitialize startTime => timed.initialized = false ∧ startTime ≤ 100
  | .start => timed.started = false
  | .helloTimerExpire jitters => timed.htimer = some timed.node.now ∧
      jitters.length = timed.node.socketAddresses.length ∧ ∀ jitter ∈ jitters, jitter ≤ 10
  | .purgeTimerExpire => timed.ntimer = some timed.node.now
  | .sendTo call => call ∈ timed.scheduled ∧ call.due = timed.node.now
  | .control .purge => False
  | .control (.elapse duration) => timed.Idle (timed.node.now + duration)
  | .control event => timed.node.Enabled event

instance (timed : TimedNode) (event : TimedEvent) : Decidable (timed.Enabled event) :=
  match event with
  | .doInitialize _ => inferInstanceAs (Decidable (_ ∧ _))
  | .start => inferInstanceAs (Decidable (_ = _))
  | .helloTimerExpire _ => inferInstanceAs (Decidable (_ ∧ _ ∧ _))
  | .purgeTimerExpire => inferInstanceAs (Decidable (_ = _))
  | .sendTo _ => inferInstanceAs (Decidable (_ ∧ _))
  | .control .purge => instDecidableFalse
  | .control (.elapse _) => inferInstanceAs (Decidable (timed.Idle _))
  | .control (.recv socket sender message hardware) =>
      inferInstanceAs (Decidable (timed.node.Enabled (.recv socket sender message hardware)))
  | .control (.txError hardware) => inferInstanceAs (Decidable
      (timed.node.Enabled (.txError hardware)))
  | .control (.interfaceUp i) => inferInstanceAs (Decidable (timed.node.Enabled (.interfaceUp i)))
  | .control (.interfaceDown i) => inferInstanceAs (Decidable
      (timed.node.Enabled (.interfaceDown i)))

def handle (timed : TimedNode) : TimedEvent → TimedNode × List Sent
  | .doInitialize startTime => (timed.doInitialize startTime, [])
  | .start => (timed.start, [])
  | .helloTimerExpire jitters => timed.helloTimerExpire jitters
  -- the timer is idle when it calls `Purge`
  | .purgeTimerExpire => { timed with ntimer := none }.control .purge
  | .sendTo call => ({ timed with scheduled := timed.scheduled.erase call }, [])
  | .control event => timed.control event

def next (timed : TimedNode) (event : TimedEvent) : Option TimedNode :=
  if timed.Enabled event then some (timed.handle event).1 else none

/-- The protocol after `SetIpv4`, which schedules `Start`. -/
def initial (node : Node) : TimedNode := ⟨node, none, 0, none, [], false, false⟩

end TimedNode

end Bsdvr
