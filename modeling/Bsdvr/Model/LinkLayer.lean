import Bsdvr.Model.Node

namespace Bsdvr

/-- What `NotifyInterfaceUp` and `NotifyInterfaceDown` find behind a device. -/
inductive Medium
  | wired
  /-- A `WifiNetDevice` without a MAC. -/
  | macless
  | adhoc
  /-- A `WifiNetDevice` with a MAC that is no `AdhocWifiMac`. -/
  | otherMac
  deriving DecidableEq, Repr

def Medium.hasMac : Medium → Bool
  | .adhoc | .otherMac => true
  | .wired | .macless => false

structure LinkLayer where
  medium : NetDevice → Medium
  hasArpCache : Nat → Bool

structure ArpEntry where
  macAddress : Mac48Address
  alive : Bool
  permanent : Bool
  expired : Bool
  deriving DecidableEq, Repr

def ArpEntry.usable (entry : ArpEntry) : Bool := (entry.alive || entry.permanent) && !entry.expired

abbrev ArpCaches := Nat → Ipv4Address → Option ArpEntry

namespace ArpCaches

def answer (caches : ArpCaches) (arp : List Nat) (addr : Ipv4Address) :
    Option (Nat × Mac48Address) :=
  arp.findSome? fun cache =>
    (caches cache addr).bind fun entry =>
      if entry.usable then some (cache, entry.macAddress) else none

/-- `Mac48Address ()` is zero. -/
def lookupMacAddress (caches : ArpCaches) (arp : List Nat) (addr : Ipv4Address) : Mac48Address :=
  ((caches.answer arp addr).map Prod.snd).getD 0

end ArpCaches

/-- A protocol with what it has registered with the layer below: `m_arp`, by the interfaces of the
caches, and the devices whose `DroppedMpdu` calls `NotifyTxError`, once for each connection. -/
structure FeedbackNode where
  node : Node
  arp : List Nat
  droppedMpdu : List NetDevice

inductive FeedbackEvent
  | recv (socket : Socket) (sender : Ipv4Address) (message : Message) (caches : ArpCaches)
  /-- The MAC of `dev` drops a frame to `hardware`. -/
  | dropMpdu (dev : NetDevice) (hardware : Mac48Address)
  | control (event : Node.Event)

namespace FeedbackNode

/-- What `Update` looks up where a packet is a HELLO. -/
def lookup (feedback : FeedbackNode) (caches : ArpCaches) : Message → Mac48Address
  | .hello header => caches.lookupMacAddress feedback.arp header.origin
  | .update _ => 0

def notifyInterfaceUp (layer : LinkLayer) (feedback : FeedbackNode) (i : Nat) : FeedbackNode :=
  let iface := feedback.node.getAddress (some i)
  let node := feedback.node.notifyInterfaceUp i
  if iface.localAddress = loopback then { feedback with node }
  else
    { node
      arp := if layer.hasArpCache i then feedback.arp ++ [i] else feedback.arp
      droppedMpdu :=
        match feedback.node.getInterfaceForAddress iface.localAddress with
        | some dev => if (layer.medium dev).hasMac then feedback.droppedMpdu ++ [dev]
            else feedback.droppedMpdu
        | none => feedback.droppedMpdu }

def notifyInterfaceDown (layer : LinkLayer) (feedback : FeedbackNode) (i : Nat) : FeedbackNode :=
  { node := feedback.node.notifyInterfaceDown i
    arp := if layer.medium i = .adhoc then feedback.arp.filter (· ≠ i) else feedback.arp
    droppedMpdu := if layer.medium i = .adhoc then feedback.droppedMpdu.filter (· ≠ i)
      else feedback.droppedMpdu }

/-- `NotifyTxError`, called once for each of `connections`. -/
def notifyTxError (node : Node) (hardware : Mac48Address) : Nat → Node × List Sent
  | 0 => (node, [])
  | connections + 1 =>
      let first := node.handle (.txError hardware)
      let rest := notifyTxError first.1 hardware connections
      (rest.1, first.2 ++ rest.2)

/-- `NotifyInterfaceDown` asks a missing MAC for its type. -/
def Enabled (layer : LinkLayer) (feedback : FeedbackNode) : FeedbackEvent → Prop
  | .recv socket sender message _ => feedback.node.Enabled (.recv socket sender message 0)
  | .dropMpdu dev _ => (layer.medium dev).hasMac = true
  | .control (.recv _ _ _ _) | .control (.txError _) => False
  | .control (.interfaceDown i) => feedback.node.Enabled (.interfaceDown i) ∧
      layer.medium i ≠ .macless
  | .control event => feedback.node.Enabled event

instance (layer : LinkLayer) (feedback : FeedbackNode) (event : FeedbackEvent) :
    Decidable (feedback.Enabled layer event) :=
  match event with
  | .recv socket sender message _ => inferInstanceAs (Decidable
      (feedback.node.Enabled (.recv socket sender message 0)))
  | .dropMpdu _ _ => inferInstanceAs (Decidable (_ = true))
  | .control (.recv _ _ _ _) | .control (.txError _) => instDecidableFalse
  | .control (.interfaceDown i) => inferInstanceAs (Decidable
      (feedback.node.Enabled (.interfaceDown i) ∧ _))
  | .control (.interfaceUp i) => inferInstanceAs (Decidable
      (feedback.node.Enabled (.interfaceUp i)))
  | .control .purge => inferInstanceAs (Decidable (feedback.node.Enabled .purge))
  | .control (.elapse duration) => inferInstanceAs (Decidable
      (feedback.node.Enabled (.elapse duration)))

def handle (layer : LinkLayer) (feedback : FeedbackNode) : FeedbackEvent → FeedbackNode × List Sent
  | .recv socket sender message caches =>
      let handled := feedback.node.handle
        (.recv socket sender message (feedback.lookup caches message))
      ({ feedback with node := handled.1 }, handled.2)
  | .dropMpdu dev hardware =>
      let handled := notifyTxError feedback.node hardware (feedback.droppedMpdu.count dev)
      ({ feedback with node := handled.1 }, handled.2)
  | .control (.interfaceUp i) => (feedback.notifyInterfaceUp layer i, [])
  | .control (.interfaceDown i) => (feedback.notifyInterfaceDown layer i, [])
  | .control event =>
      let handled := feedback.node.handle event
      ({ feedback with node := handled.1 }, handled.2)

def next (layer : LinkLayer) (feedback : FeedbackNode)
    (event : FeedbackEvent) : Option FeedbackNode :=
  if feedback.Enabled layer event then some (feedback.handle layer event).1 else none

def initial (node : Node) : FeedbackNode := ⟨node, [], []⟩

end FeedbackNode

end Bsdvr
