import Bsdvr.Runs.Exchange
import Bsdvr.Runs.Steady

namespace Bsdvr
open Foundation

namespace Node
variable {node : Node} {log more : List Sent} {kept : List Ipv4Address} {ne dst : Ipv4Address}
  {entry : RoutingTableEntry}

/-! ## What neighbours were told -/

/-- The last UPDATE to `ne` about `dst` that went out on a socket. -/
def lastUpdate (log : List Sent) (ne dst : Ipv4Address) : Option Sent :=
  ((updatesTo log ne dst).filter fun update => update.socket.isSome).getLast?

def Told (log : List Sent) (ne dst : Ipv4Address) (entry : RoutingTableEntry) : Prop :=
  ∃ update, lastUpdate log ne dst = some update ∧ update.header.hopCount = entry.hops ∧
    update.header.binaryState = if entry.state = .active then 1 else 0

/-- Each of `audience` was last told what the forwarding table says now. -/
def Coherent (node : Node) (log : List Sent) (audience : List Ipv4Address) : Prop :=
  ∀ ne ∈ audience, ∀ dst entry, node.ft[dst]? = some entry → node.Remote dst → dst ≠ ne →
    Told log ne dst entry

theorem mem_lastUpdate {update : Sent} (last : lastUpdate log ne dst = some update) :
    update ∈ log ∧ update.neighbor = ne ∧ update.header.dst = dst := by
  obtain ⟨member, _⟩ := List.mem_filter.mp (List.mem_of_getLast? last)
  simpa [updatesTo] using member

theorem lastUpdate_isSome {update : Sent} (member : update ∈ log) (addressed : update.neighbor = ne)
    (about : update.header.dst = dst) (opened : update.socket.isSome) :
    (lastUpdate log ne dst).isSome := by
  rw [lastUpdate, List.getLast?_isSome]
  apply List.ne_nil_of_mem (a := update)
  simp [updatesTo, member, addressed, about, opened]

theorem lastUpdate_append :
    lastUpdate (log ++ more) ne dst = (lastUpdate more ne dst).or (lastUpdate log ne dst) := by
  simp only [lastUpdate, updatesTo, List.filter_append, List.getLast?_append]

theorem Told.congr {other : RoutingTableEntry} (told : Told log ne dst entry)
    (same : other.metric = entry.metric) :
    Told log ne dst other := by
  obtain ⟨hops, state⟩ := Prod.mk.inj same
  obtain ⟨update, last, count, binary⟩ := told
  exact ⟨update, last, by rw [hops, count], by rw [state, binary]⟩

theorem Told.sent {result : Node × List Sent} (sends : node.SendsOwn result)
    (named : result.1.Named) (present : result.1.ft[dst]? = some entry)
    (told : Told log ne dst entry ∨ (node.sendUpdate entry ne ∈ result.2 ∧
      node.hasSocket entry.iface)) :
    Told (log ++ result.2) ne dst entry := by
  unfold Told
  rw [lastUpdate_append]
  cases last : lastUpdate result.2 ne dst with
  | none =>
      rcases told with before | ⟨member, opened⟩
      · exact before
      · have now := @lastUpdate_isSome result.2 ne dst _ member rfl
          (named.forwarding present) opened
        rw [last] at now
        cases now
  | some update =>
      obtain ⟨member, _, about⟩ := mem_lastUpdate last
      obtain ⟨other, key, route, there, rfl⟩ := sends update member
      obtain rfl : key = dst := (named.forwarding there).symm.trans about
      obtain rfl := Option.some.inj (there.symm.trans present)
      exact ⟨_, rfl, rfl, rfl⟩

theorem Coherent.heard (coherent : node.Coherent log node.neighbors) :
    node.Coherent (log.filter fun update => update.neighbor ∈ node.neighbors) node.neighbors := by
  intro ne listed dst entry present remote apart
  obtain ⟨update, last, carries⟩ := coherent ne listed dst entry present remote apart
  refine ⟨update, ?_, carries⟩
  have same : updatesTo (log.filter fun update => update.neighbor ∈ node.neighbors) ne dst =
      updatesTo log ne dst := by
    simp only [updatesTo, List.filter_filter]
    apply List.filter_congr
    intro update _
    by_cases addressed : update.neighbor = ne
    · simp [addressed, listed]
    · simp [addressed]
  rwa [lastUpdate, same, ← lastUpdate]

/-! ## Recomputations -/

/-- A steady recomputation leaves what a neighbour was told, or finds a new destination. -/
theorem Steady.told (steady : node.Steady kept) (owned : RowsOwned node.dvt)
    (coherent : node.Coherent log kept) (listed : ne ∈ kept)
    (present : node.recompute.1.ft[dst]? = some entry) (remote : node.Remote dst)
    (apart : dst ≠ ne) :
    Told log ne dst entry ∨ (node.ft[dst]? = none ∧ candidates node.neighbors node.dvt dst ≠ [] ∧
      dst ∈ node.recompute.2) := by
  have computed : (node.recompute.1.ft[dst]?).isSome := by rw [present]; rfl
  cases known : node.ft[dst]? with
  | none =>
      refine .inr ⟨rfl, ?_, mem_changes.mpr ⟨remote.1, known, computed⟩⟩
      rw [recompute_ft, recomputed_isSome] at computed
      rcases computed with old | new
      · rw [known] at old
        cases old
      · exact new
  | some old =>
      obtain ⟨after, there, same⟩ := steady.recomputed_metric owned known remote ⟨ne,
        listed, apart.symm⟩
      obtain rfl := Option.some.inj (there.symm.trans present)
      exact .inl ((coherent ne listed dst old known remote apart).congr same)

def onIface (iface : Ipv4InterfaceAddress) : Contract where
  forwarding dst entry := dst ≠ loopback → entry.iface = iface
  stored _ _ route := route.iface = iface
  known _ := False

theorem onIface_closed (iface : Ipv4InterfaceAddress) (neighbors : List Ipv4Address) :
    (onIface iface).Closed neighbors where
  adopt _ _ _ _ stored _ := stored
  refresh _ _ _ _ stored _ _ := stored
  retire _ _ good _ _ := good

/-- A node whose routes are on one interface, which is up. -/
structure OneInterface (node : Node) (iface : Ipv4InterfaceAddress) : Prop where
  named : node.Named
  holds : (onIface iface).Holds node
  opened : node.hasSocket iface

theorem OneInterface.congr {iface : Ipv4InterfaceAddress} {after : Node}
    (one : node.OneInterface iface) (table : after.routingTable = node.routingTable)
    (fresh : after.fresh = node.fresh) (sockets : after.socketAddresses = node.socketAddresses) :
    after.OneInterface iface where
  named := one.named.congr table fresh
  holds := one.holds.congr table
  opened := by
    have there := one.opened
    rwa [Node.hasSocket, findSocketWithInterfaceAddress, ← sockets] at there

theorem OneInterface.hasSocket {iface : Ipv4InterfaceAddress} (one : node.OneInterface iface)
    (present : node.ft[dst]? = some entry) (remote : node.Remote dst) :
    node.hasSocket entry.iface := by
  rw [one.holds.forwarding dst entry present fun lo => remote.2 (.inl lo)]
  exact one.opened

/-! ## Link failures -/

theorem OneInterface.failed {iface : Ipv4InterfaceAddress} (one : node.OneInterface iface)
    {dvt : DistanceVectorTable} (forgets : node.Forgets dvt) :
    (node.setDvt dvt).recompute.1.OneInterface iface :=
  ⟨forgets.named one.named, forgets.holds one.holds (onIface_closed _ _), one.opened⟩

theorem Coherent.failed {iface : Ipv4InterfaceAddress} (coherent : node.Coherent log kept)
    (steady : node.Steady kept) (one : node.OneInterface iface) {dvt : DistanceVectorTable}
    (forgets : node.Forgets dvt) {lost : Ipv4Address} (gone : lost ∉ kept)
    (stay : ∀ ne ∈ kept, ne ∈ node.neighbors) :
    (node.setDvt dvt).recompute.1.Coherent
      (log ++ (node.setDvt dvt).recompute.1.sendTriggeredUpdateChangesToNeighbors
      (node.setDvt dvt).recompute.2 [lost]) kept := by
  intro ne listed dst entry present remote apart
  have after := one.failed forgets
  have owned := forgets.owned one.named.rowsOwned
  set result := ((node.setDvt dvt).recompute.1,
    (node.setDvt dvt).recompute.1.sendTriggeredUpdateChangesToNeighbors
    (node.setDvt dvt).recompute.2 [lost]) with hresult
  have sends : node.SendsOwn result := by
    intro update member
    obtain ⟨other, key, route, _, _, _, there, _, rfl⟩ :=
      mem_sendTriggeredUpdateChangesToNeighbors.mp member
    exact ⟨other, key, route, there, rfl⟩
  apply Told.sent sends after.named present
  have same : (node.setDvt dvt).Coherent log kept := coherent
  rcases (steady.forget forgets).told owned same listed present remote apart
    with before | ⟨_, _, change⟩
  · exact .inl before
  · refine .inr ⟨?_, after.hasSocket present remote⟩
    have other : ne ∉ [lost] := by
      rw [List.mem_singleton]
      rintro rfl
      exact gone listed
    exact mem_sendTriggeredUpdateChangesToNeighbors.mpr
      ⟨ne, dst, entry, stay ne listed, other, change, present, apart, rfl⟩

theorem Coherent.failures {iface : Ipv4InterfaceAddress} {failed : List Ipv4Address}
    (coherent : node.Coherent log kept) (steady : node.Steady kept) (one : node.OneInterface iface)
    (members : ∀ ne ∈ failed, ne ∈ node.neighbors)
    (stay : ∀ ne ∈ kept, ne ∈ node.neighbors ∧ ne ∉ failed) :
    (node.handleLinkFailures failed).1.Coherent
      (log ++ (node.handleLinkFailures failed).2) kept := by
  have rule := @handleLinkFailures_rule node (fun after sent => after.OneInterface iface ∧
    after.Steady kept ∧
    after.neighbors = node.neighbors ∧ after.Coherent (log ++ sent) kept) failed ?_ members []
    ⟨one, steady, rfl, by rwa [List.append_nil]⟩
  · exact rule.2.2.2
  · rintro before sent ne dvt ⟨one, steady, same, coherent⟩ member _ forgets
    refine ⟨one.failed forgets, recompute_steady (forgets.owned one.named.rowsOwned) kept, same, ?_⟩
    rw [← List.append_assoc]
    exact coherent.failed steady one forgets (fun listed => (stay ne listed).2 member)
      fun ne listed => same ▸ (stay ne listed).1

theorem Coherent.purge {iface : Ipv4InterfaceAddress} (coherent : node.Coherent log kept)
    (quiet : node.PassesLost ∨ node.Steady kept) (one : node.OneInterface iface)
    (stay : ∀ ne ∈ kept, ne ∈ node.neighbors ∧ ne ∉ node.lost) :
    node.purgeNeighbors.1.Coherent (log ++ node.purgeNeighbors.2) kept := by
  rcases quiet with passes | steady
  · rw [purgeNeighbors, passes.handled, List.append_nil]
    exact coherent
  · exact coherent.failures steady one (fun _ => mem_lost) stay

/-! ## HELLO -/

structure JoinsUntold (node : Node) (origin : Ipv4Address) (others : List Ipv4Address) : Prop where
  steady : node.Steady others
  direct : node.Remote origin → Others others origin → (node.ft[origin]?).isSome ∧
    node.Welcomes origin node.mainAddress
  known : ∀ pair ∈ node.rowsOf node.neighbors, node.Remote pair.1 → Others others pair.1 →
    (node.ft[pair.1]?).isSome
  set : node.ft[unsetAddress]? = none ∧ candidates node.neighbors node.dvt unsetAddress = []

instance (node : Node) (origin : Ipv4Address) (others : List Ipv4Address) :
    Decidable (node.JoinsUntold origin others) :=
  decidable_of_iff (node.Steady others ∧
      (node.Remote origin → Others others origin → (node.ft[origin]?).isSome ∧
        node.Welcomes origin node.mainAddress) ∧
      (∀ pair ∈ node.rowsOf node.neighbors, node.Remote pair.1 → Others others pair.1 →
        (node.ft[pair.1]?).isSome) ∧
      node.ft[unsetAddress]? = none ∧ candidates node.neighbors node.dvt unsetAddress = [])
    ⟨fun all => ⟨all.1, all.2.1, all.2.2.1, all.2.2.2⟩,
      fun joins => ⟨joins.steady, joins.direct, joins.known, joins.set⟩⟩

namespace JoinsUntold
variable {origin : Ipv4Address} {others : List Ipv4Address}

theorem of_row (joins : node.JoinsUntold origin others) {neighbor : Ipv4Address}
    (listed : neighbor ∈ node.neighbors) (found : node.dvt.entry neighbor dst = some entry)
    (remote : node.Remote dst) (told : Others others dst) :
    (node.ft[dst]?).isSome := joins.known (dst, entry) (mem_rowsOf listed found) remote told

theorem subset (joins : node.JoinsUntold origin others) {nb : Neighbors}
    (sub : ∀ ne ∈ nb.addresses, ne ∈ node.neighbors) :
    (node.setNb nb).JoinsUntold origin others := by
  refine ⟨joins.steady.subset sub, joins.direct, ?_, joins.set.1, ?_⟩
  · intro pair member remote told
    obtain ⟨ne, listed, found⟩ := List.mem_flatMap.mp member
    exact joins.of_row (sub ne listed) (mem_row.mp found) remote told
  · rw [List.eq_nil_iff_forall_not_mem]
    intro route member
    have before := candidates_subset sub member
    rw [show candidates node.neighbors (node.setNb nb).dvt unsetAddress = [] from joins.set.2]
      at before
    cases before

theorem failed {iface : Ipv4InterfaceAddress} (joins : node.JoinsUntold origin others)
    (one : node.OneInterface iface) {dvt : DistanceVectorTable} (forgets : node.Forgets dvt) :
    (node.setDvt dvt).recompute.1.JoinsUntold origin others := by
  have owned := one.named.rowsOwned
  have grows (dst : Ipv4Address) (known : (node.ft[dst]?).isSome) :
      ((node.setDvt dvt).recompute.1.ft[dst]?).isSome :=
    recompute_ft_isSome (node.setDvt dvt) known
  have none : candidates node.neighbors dvt unsetAddress = [] := by
    rw [List.eq_nil_iff_forall_not_mem]
    intro route member
    obtain ⟨ne, listed, found⟩ := mem_candidates.mp member
    have before := mem_candidates.mpr ⟨ne, listed, forgets.sub _ _ _ found⟩
    rw [joins.set.2] at before
    cases before
  refine ⟨recompute_steady (forgets.owned owned) others, fun remote told => ?_, ?_, ?_, none⟩
  · obtain ⟨known, welcomes⟩ := joins.direct remote told
    exact ⟨grows origin known, welcomes.failed known forgets owned joins.steady remote told⟩
  · intro pair member remote told
    obtain ⟨ne, listed, found⟩ := List.mem_flatMap.mp member
    exact grows _ (joins.of_row listed (forgets.sub _ _ _ (mem_row.mp found)) remote told)
  · rw [← Option.not_isSome_iff_eq_none, recompute_ft, recomputed_isSome]
    rintro (known | nonempty)
    · rw [show (node.setDvt dvt).ft[unsetAddress]? = _ from joins.set.1] at known
      cases known
    · exact nonempty none

theorem purge {iface : Ipv4InterfaceAddress} (joins : node.JoinsUntold origin others)
    (one : node.OneInterface iface) :
    node.purgeNeighbors.1.JoinsUntold origin others := by
  have rule := @handleLinkFailures_rule node (fun after _ => after.OneInterface iface ∧
    after.JoinsUntold origin others ∧
    after.nb = node.nb ∧ after.now = node.now) node.lost ?_ (fun _ => mem_lost) [] ⟨one,
    joins, rfl, rfl⟩
  · refine rule.2.1.subset fun ne listed => ?_
    exact dropClosed_neighbors (node.handleLinkFailures node.lost).1 listed
  · rintro before _ ne dvt ⟨one, joins, list, now⟩ _ _ forgets
    exact ⟨one.failed forgets, joins.failed one forgets, list, now⟩

theorem candidates_joined (absent : node.dvt.entry origin origin = none)
    {receiver dst : Ipv4Address} {route : RoutingTableEntry}
    (member : route ∈ candidates (node.joined origin receiver).neighbors
      (node.joined origin receiver).dvt dst) :
    dst = origin ∨ ∃ ne ∈ node.neighbors, node.dvt.entry ne dst = some route := by
  obtain ⟨_, before⟩ := joined_frame node origin receiver
  obtain ⟨ne, there, found⟩ := mem_candidates.mp member
  rw [joined_entry absent] at found
  split at found
  · rename_i here
    exact .inl here.2
  · rw [before] at there
    exact .inr ⟨ne, there, found⟩

theorem ne_unsetAddress (joins : node.JoinsUntold origin others)
    (absent : node.dvt.entry origin origin = none) {receiver dst : Ipv4Address}
    (apart : dst ≠ origin)
    (present : ((node.joined origin receiver).recompute.1.ft[dst]?).isSome) :
    dst ≠ unsetAddress := by
  rintro rfl
  rw [recompute_ft, recomputed_isSome, joined_ft, joins.set.1] at present
  obtain ⟨route, found⟩ := List.exists_mem_of_ne_nil _ (present.resolve_left (by simp))
  rcases candidates_joined absent found with own | ⟨neighbor, there, row⟩
  · exact apart own
  · have listed := mem_candidates.mpr ⟨neighbor, there, row⟩
    rw [joins.set.2] at listed
    cases listed

theorem told_others (joins : node.JoinsUntold origin others) (coherent : node.Coherent log others)
    (named : node.Named) (listed : origin ∈ node.neighbors)
    (absent : node.dvt.entry origin origin = none) {ne dst : Ipv4Address}
    {entry : RoutingTableEntry} (other : ne ∈ others) (remote : node.Remote dst) (apart : dst ≠ ne)
    (present : (node.joined origin node.mainAddress).recompute.1.ft[dst]? = some entry) :
    Told log ne dst entry := by
  obtain ⟨_, before⟩ := joined_frame node origin node.mainAddress
  have steady : (node.joined origin node.mainAddress).Steady others :=
    joins.steady.joined listed absent fun remote told => (joins.direct remote told).2
  have same : (node.joined origin node.mainAddress).Coherent log others := by
    intro ne listed dst entry present remote apart
    rw [joined_ft] at present
    rw [before] at remote
    exact coherent ne listed dst entry present remote apart
  have far : (node.joined origin node.mainAddress).Remote dst := by
    rw [before]
    exact remote
  have told : Others others dst := ⟨ne, other, apart.symm⟩
  rcases steady.told (joined_rowsOwned named absent) same other present far apart
    with told | ⟨unknown, nonempty, _⟩
  · exact told
  · obtain ⟨route, found⟩ := List.exists_mem_of_ne_nil _ nonempty
    have known : (node.ft[dst]?).isSome := by
      rcases candidates_joined absent found with rfl | ⟨neighbor, there, row⟩
      · exact (joins.direct remote told).1
      · exact joins.of_row there row remote told
    rw [joined_ft] at unknown
    rw [unknown] at known
    cases known

theorem coherent {iface : Ipv4InterfaceAddress} (joins : node.JoinsUntold origin others)
    (coherent : node.Coherent log others) (named : node.Named) (listed : origin ∈ node.neighbors)
    (absent : node.dvt.entry origin origin = none)
    (after : (node.exchangeHello origin node.mainAddress).1.OneInterface iface) :
    (node.exchangeHello origin node.mainAddress).1.Coherent
      (log ++ (node.exchangeHello origin node.mainAddress).2) (origin :: others) := by
  obtain ⟨table, fresh, frame⟩ := exchangeHello_frame node origin node.mainAddress
  obtain ⟨_, before⟩ := joined_frame node origin node.mainAddress
  have sends := @exchangeHello_sendsOwn node origin node.mainAddress
  have computed : node.exchangeHello origin node.mainAddress =
      ((node.joined origin node.mainAddress).recompute.1,
      (node.joined origin node.mainAddress).recompute.1.sendTriggeredUpdateToNeighbor origin) := by
    rw [exchangeHello_eq, absent]
  intro ne member dst entry present remote apart
  have far : node.Remote dst := by
    rw [frame] at remote
    exact remote
  apply Told.sent sends after.named present
  have destination : entry.destination = dst := after.named.forwarding present
  have opened := after.hasSocket present remote
  rw [frame] at opened
  rw [computed] at present
  rcases List.mem_cons.mp member with rfl | other
  · refine .inr ⟨?_, opened⟩
    have set : entry.destination ≠ unsetAddress := by
      rw [destination]
      exact joins.ne_unsetAddress absent apart (Option.isSome_of_mem present)
    rw [computed]
    refine mem_sendTriggeredUpdateToNeighbor.mpr ⟨dst, entry, present, set, ?_, apart, ?_, ?_⟩
    · rw [recompute, before]
      exact far.1
    · exact fun lo => far.2 (.inl lo)
    · rw [recompute, before]
      rfl
  · exact .inl (joins.told_others coherent named listed absent other far apart present)

end JoinsUntold

theorem Coherent.refreshed (coherent : node.Coherent log kept) (named : node.Named)
    {origin receiver : Ipv4Address} {toNeighbor : RoutingTableEntry}
    (found : node.dvt.entry origin origin = some toNeighbor) :
    (node.refreshNeighbor origin receiver toNeighbor).Coherent log kept := by
  intro ne listed dst entry present remote apart
  rw [refreshNeighbor_ft named found] at present
  obtain ⟨old, there, rfl⟩ := Option.map_eq_some_iff.mp present
  have same : (node.rewritten receiver toNeighbor old).metric = old.metric := by
    obtain ⟨outputDevice, frame⟩ := node.rewritten_frame receiver toNeighbor old
    rw [frame]
    rfl
  exact (coherent ne listed dst old there remote apart).congr same

/-! ## UPDATE -/

theorem Coherent.recvUpdate {iface : Ipv4InterfaceAddress} {header : UpdateHeader}
    {my src : Ipv4Address} (coherent : node.Coherent log node.neighbors)
    (steady : (node.learned header my src).Steady node.neighbors) (named : node.Named)
    (after : (node.recvUpdate header my src).1.OneInterface iface) :
    (node.recvUpdate header my src).1.Coherent
      (log ++ (node.recvUpdate header my src).2) node.neighbors := by
  obtain ⟨prqueue, frame, _⟩ := recvUpdate_frame node header my src
  have announced : ∀ update ∈ (node.learned header my
      src).recompute.1.sendTriggeredUpdateChangesToNeighbors
      (node.learned header my src).recompute.2 [], update ∈ (node.recvUpdate header my src).2 := by
    intro update member
    unfold Node.recvUpdate
    simp only
    split
    · exact List.mem_append_left _ member
    · exact member
  intro ne listed dst entry present remote apart
  apply Told.sent (recvUpdate_sendsOwn header my src) after.named present
  have opened := after.hasSocket present remote
  rw [frame] at present remote opened
  have same : (node.learned header my src).Coherent log node.neighbors := coherent
  rcases steady.told (learned_rowsOwned named header my src) same listed present remote apart with
    told | ⟨_, _, change⟩
  · exact .inl told
  · refine .inr ⟨announced _ ?_, opened⟩
    exact mem_sendTriggeredUpdateChangesToNeighbors.mpr
      ⟨ne, dst, entry, listed, List.not_mem_nil, change, present, apart, rfl⟩

/-! ## Events -/

/-- A HELLO of `origin` changes nothing of what neighbours that stay were told. -/
def HearsUntold (node : Node) (origin : Ipv4Address) (hardware : Mac48Address) : Prop :=
  if origin ∈ node.neighbors then
    node.dvt.entry origin origin = none →
      node.JoinsUntold origin (node.neighbors.filter (· ≠ origin))
  else
    (((node.dvt.entry origin origin).isSome ∧ (node.welcome origin hardware).PassesLost) ∨
      (node.welcome origin hardware).JoinsUntold origin
        ((node.welcome origin hardware).dropClosed.neighbors.filter (· ≠ origin))) ∧
    ((node.dvt.entry origin origin).isSome →
      ∀ pair ∈ node.ft.toList, node.Remote pair.1 → pair.1 = origin)

instance (node : Node) (origin : Ipv4Address) (hardware : Mac48Address) :
    Decidable (node.HearsUntold origin hardware) :=
  inferInstanceAs (Decidable (if origin ∈ node.neighbors then _ → _ else (_ ∨ _) ∧
    (_ → ∀ pair ∈ node.ft.toList, _ → _)))

/-- An event changes neither hop count nor state of an entry that a neighbour was told of, and adds
none that only a new neighbour is told of. -/
def ChangesUntold (node : Node) : Event → Prop
  | .recv _ _ (.hello header) hardware => header.dst = header.origin →
      node.HearsUntold header.origin hardware
  | .recv _ sender (.update header) _ => node.Steady node.neighbors ∧ (sender ∉ node.neighbors →
      ∀ entry ∈ node.ft[header.dst]?, entry.nextHop = sender → node.Remote header.dst →
        Others node.neighbors header.dst → candidates node.neighbors node.dvt header.dst ≠ [] →
          (node.updateEntry header node.mainAddress sender).metric = entry.metric)
  | .purge => node.PassesLost ∨ node.Steady node.dropClosed.neighbors
  | .txError hardware =>
      (node.closing hardware).PassesLost ∨
        (node.closing hardware).Steady (node.closing hardware).dropClosed.neighbors
  | .interfaceUp _ | .interfaceDown _ | .elapse _ => True

instance (node : Node) (event : Event) : Decidable (node.ChangesUntold event) :=
  match event with
  | .recv _ _ (.hello _) _ => inferInstanceAs (Decidable (_ → _))
  | .recv _ _ (.update header) _ => inferInstanceAs (Decidable (_ ∧
      (_ → ∀ entry ∈ node.ft[header.dst]?, _ → _)))
  | .purge | .txError _ => inferInstanceAs (Decidable (_ ∨ _))
  | .interfaceUp _ | .interfaceDown _ | .elapse _ => instDecidableTrue

theorem purgeNeighbors_neighbors : node.purgeNeighbors.1.neighbors = node.dropClosed.neighbors := by
  obtain ⟨table, frame⟩ := handleLinkFailures_frame node node.lost
  rw [purgeNeighbors, frame]
  rfl

theorem kept_not_lost (distinct : node.neighbors.Nodup) :
    ∀ ne ∈ node.dropClosed.neighbors, ne ∈ node.neighbors ∧ ne ∉ node.lost := by
  intro ne listed
  refine ⟨dropClosed_neighbors node listed, fun lost => ?_⟩
  obtain ⟨stays, there, same⟩ := List.mem_map.mp listed
  obtain ⟨leaves, here, also⟩ := List.mem_map.mp lost
  obtain ⟨there, opened⟩ := List.mem_filter.mp there
  obtain ⟨here, closed⟩ := List.mem_filter.mp here
  have equal := List.inj_on_of_nodup_map distinct there here (same.trans also.symm)
  rw [equal, closed] at opened
  cases opened

theorem Coherent.exchangeHello {iface : Ipv4InterfaceAddress} {origin : Ipv4Address}
    {others : List Ipv4Address}
    (joins : node.dvt.entry origin origin = none → node.JoinsUntold origin others ∧
      node.Coherent log others)
    (refreshes : node.dvt.entry origin origin ≠ none → node.Coherent log node.neighbors)
    (named : node.Named) (listed : origin ∈ node.neighbors)
    (cover : ∀ ne ∈ node.neighbors, ne = origin ∨ ne ∈ others)
    (after : (node.exchangeHello origin node.mainAddress).1.OneInterface iface) :
    (node.exchangeHello origin node.mainAddress).1.Coherent
      (log ++ (node.exchangeHello origin node.mainAddress).2) node.neighbors := by
  cases found : node.dvt.entry origin origin with
  | none =>
      obtain ⟨untold, coherent⟩ := joins found
      intro ne member
      exact untold.coherent coherent named listed found after ne
        (List.mem_cons.mpr (cover ne member))
  | some toNeighbor =>
      have same : node.exchangeHello origin node.mainAddress =
          (node.refreshNeighbor origin node.mainAddress toNeighbor, []) := by
        rw [exchangeHello_eq, found]
        simp only [ensureRow_of_entry found]
      rw [same, List.append_nil]
      exact (refreshes (by simp [found])).refreshed named found

theorem eq_or_mem_others {origin ne : Ipv4Address} {neighbors : List Ipv4Address}
    (member : ne ∈ neighbors) :
    ne = origin ∨ ne ∈ neighbors.filter (· ≠ origin) := by
  by_cases own : ne = origin
  · exact .inl own
  · exact .inr (List.mem_filter.mpr ⟨member, by simpa using own⟩)

theorem Coherent.heardAgain {iface : Ipv4InterfaceAddress} {origin : Ipv4Address}
    {hardware : Mac48Address} (coherent : node.Coherent log node.neighbors)
    (known : origin ∈ node.neighbors)
    (untold : node.dvt.entry origin origin = none →
      node.JoinsUntold origin (node.neighbors.filter (· ≠ origin)))
    {updated : Node}
    (same : updated = node.setNb (node.nb.extend node.now origin node.helloInterval hardware))
    (named : updated.Named)
    (after : (updated.exchangeHello origin updated.mainAddress).1.OneInterface iface) :
    (updated.exchangeHello origin updated.mainAddress).1.Coherent
      (log ++ (updated.exchangeHello origin updated.mainAddress).2) updated.neighbors := by
  have list : updated.neighbors = node.neighbors := by
    rw [same]
    exact Neighbors.addresses_extend _ _ _ _ _
  have told : updated.Coherent log node.neighbors := by
    rw [same]
    exact coherent
  refine @Coherent.exchangeHello updated log iface origin (node.neighbors.filter (· ≠ origin))
    (fun absent => ⟨?_, ?_⟩)
    (fun _ => list ▸ told) named (list ▸ known)
    (fun ne member => eq_or_mem_others (list ▸ member)) after
  · subst same
    exact (untold absent).subset fun ne member => list ▸ member
  · exact fun ne member => told ne (List.mem_of_mem_filter member)

theorem HearsUntold.of_stranger {origin : Ipv4Address} {hardware : Mac48Address}
    (untold : node.HearsUntold origin hardware) (stranger : origin ∉ node.neighbors) :
    (((node.dvt.entry origin origin).isSome ∧ (node.welcome origin hardware).PassesLost) ∨
      (node.welcome origin hardware).JoinsUntold origin
        ((node.welcome origin hardware).dropClosed.neighbors.filter (· ≠ origin))) ∧
    ((node.dvt.entry origin origin).isSome →
      ∀ pair ∈ node.ft.toList, node.Remote pair.1 → pair.1 = origin) := by
  rwa [HearsUntold, if_neg stranger] at untold

section Stranger
variable {iface : Ipv4InterfaceAddress} {origin : Ipv4Address} {hardware : Mac48Address}
  (coherent : node.Coherent log node.neighbors) (one : node.OneInterface iface)
  (stranger : origin ∉ node.neighbors) (untold : node.HearsUntold origin hardware)

theorem stays_of_ne {ne : Ipv4Address}
    (member : ne ∈ (node.welcome origin hardware).dropClosed.neighbors)
    (apart : ne ≠ origin) : ne ∈ node.neighbors := by
  have listed := dropClosed_neighbors (node.welcome origin hardware) member
  rw [welcome_neighbors] at listed
  simpa [apart] using listed

theorem welcome_distinct (distinct : node.neighbors.Nodup) (stranger : origin ∉ node.neighbors) :
    (node.welcome origin hardware).neighbors.Nodup := by
  rw [welcome_neighbors, ← List.concat_eq_append]
  exact distinct.concat stranger

include stranger untold in
/-- A new neighbour without an entry of its own gets the whole table, which changes nothing that
others were told. -/
theorem joinsUntold_of_absent
    (absent : (node.welcome origin hardware).purgeNeighbors.1.dvt.entry origin origin = none) :
    (node.welcome origin hardware).JoinsUntold origin
      ((node.welcome origin hardware).dropClosed.neighbors.filter (· ≠ origin)) := by
  rcases (untold.of_stranger stranger).1 with ⟨present, passes⟩ | joins
  · rw [purgeNeighbors, passes.handled] at absent
    rw [show node.dvt.entry origin origin = none from absent] at present
    cases present
  · exact joins

include coherent one stranger untold in
/-- A new neighbour with an entry of its own has been told all there is. -/
theorem Coherent.metAgain (distinct : (node.welcome origin hardware).neighbors.Nodup)
    (before : (node.dvt.entry origin origin).isSome) :
    (node.welcome origin hardware).purgeNeighbors.1.Coherent
      (log ++ (node.welcome origin hardware).purgeNeighbors.2)
      (node.welcome origin hardware).dropClosed.neighbors := by
  obtain ⟨quiet, alone⟩ := untold.of_stranger stranger
  have only (dst : Ipv4Address) (entry : RoutingTableEntry) (present : node.ft[dst]? = some entry)
      (remote : node.Remote dst) : dst = origin :=
    alone before (dst, entry) (Std.TreeMap.mem_toList_iff_getElem?_eq_some.mpr present) remote
  have all : (node.welcome origin hardware).Coherent log
      (node.welcome origin hardware).dropClosed.neighbors := by
    intro ne member dst entry present remote apart
    by_cases own : ne = origin
    · exact absurd (only dst entry present remote) (own ▸ apart)
    · exact coherent ne (stays_of_ne member own) dst entry present remote apart
  refine all.purge (quiet.imp And.right fun joins => ?_) (one.congr rfl rfl rfl)
    (kept_not_lost distinct)
  apply Steady.intro
  intro dst entry present remote told
  obtain rfl := only dst entry present remote
  obtain ⟨ne, member, apart⟩ := told
  exact joins.steady.of_present present remote ⟨ne,
    List.mem_filter.mpr ⟨member, by simpa using apart⟩, apart⟩

include coherent one stranger untold in
theorem Coherent.heardFirst (distinct : node.neighbors.Nodup) {updated : Node}
    (same : updated = (node.welcome origin hardware).purgeNeighbors.1) (named : updated.Named)
    (listed : origin ∈ updated.neighbors)
    (after : (updated.exchangeHello origin updated.mainAddress).1.OneInterface iface) :
    (updated.exchangeHello origin updated.mainAddress).1.Coherent
      (log ++ (node.welcome origin hardware).purgeNeighbors.2 ++
        (updated.exchangeHello origin updated.mainAddress).2)
      updated.neighbors := by
  have distinct' := @welcome_distinct node origin hardware distinct stranger
  have one' : (node.welcome origin hardware).OneInterface iface := one.congr rfl rfl rfl
  have others : (node.welcome origin hardware).Coherent log
      ((node.welcome origin hardware).dropClosed.neighbors.filter (· ≠ origin)) := by
    intro ne member
    obtain ⟨member, apart⟩ := List.mem_filter.mp member
    exact coherent ne (stays_of_ne member (by simpa using apart))
  subst same
  refine @Coherent.exchangeHello _ _ iface origin
    ((node.welcome origin hardware).dropClosed.neighbors.filter (· ≠ origin))
    (fun absent => ?_) (fun there => ?_) named listed (fun ne member => eq_or_mem_others ?_) after
  · have joins := joinsUntold_of_absent stranger untold absent
    refine ⟨joins.purge one', others.purge (.inr joins.steady) one' fun ne member => ?_⟩
    exact kept_not_lost distinct' ne (List.mem_of_mem_filter member)
  · rw [purgeNeighbors_neighbors]
    obtain ⟨route, found⟩ := Option.ne_none_iff_exists'.mp there
    have old := @updateNeighbors_entry node origin node.helloInterval hardware origin origin route
      (by rw [updateNeighbors_of_stranger stranger]; exact found)
    exact coherent.metAgain one stranger untold distinct' (Option.isSome_of_mem old)
  · rwa [purgeNeighbors_neighbors] at member

end Stranger

theorem Coherent.processHello {iface : Ipv4InterfaceAddress}
    (coherent : node.Coherent log node.neighbors) (one : node.OneInterface iface)
    (enabled : node.enableHello = true) (distinct : node.neighbors.Nodup) {header : HelloHeader}
    {hardware : Mac48Address} (untold : node.HearsUntold header.origin hardware)
    (after : (node.processHello header node.mainAddress hardware).1.OneInterface iface) :
    (node.processHello header node.mainAddress hardware).1.Coherent
      (log ++ (node.processHello header node.mainAddress hardware).2)
      (node.processHello header node.mainAddress hardware).1.neighbors := by
  set updated := node.updateNeighbors header.origin node.helloInterval hardware with hupdated
  obtain ⟨table, nb, frame, _⟩ :=
    updateNeighbors_frame node header.origin node.helloInterval hardware
  have main : updated.1.mainAddress = node.mainAddress := by rw [hupdated, frame]
  have named : updated.1.Named :=
    one.named.updateNeighbors header.origin node.helloInterval hardware
  have listed : header.origin ∈ updated.1.neighbors :=
    updateNeighbors_mem node header.origin node.helloInterval hardware
  have processed : node.processHello header node.mainAddress hardware =
      ((updated.1.exchangeHello header.origin updated.1.mainAddress).1,
        updated.2 ++ (updated.1.exchangeHello header.origin updated.1.mainAddress).2) := by
    rw [main, Node.processHello]
    simp only [if_pos enabled, ← hupdated]
  obtain ⟨_, _, exchanged⟩ := exchangeHello_frame updated.1 header.origin updated.1.mainAddress
  have list : (updated.1.exchangeHello header.origin updated.1.mainAddress).1.neighbors =
      updated.1.neighbors := by
    rw [exchanged]
  rw [processed] at after ⊢
  rw [list, ← List.append_assoc]
  by_cases known : header.origin ∈ node.neighbors
  · rw [HearsUntold, if_pos known] at untold
    have same := updateNeighbors_of_known known hardware
    have silent : updated.2 = [] := congrArg Prod.snd same
    rw [silent, List.append_nil]
    exact coherent.heardAgain known untold (congrArg Prod.fst same) named after
  · have same := updateNeighbors_of_stranger known hardware
    have sent : updated.2 = (node.welcome header.origin hardware).purgeNeighbors.2 :=
      congrArg Prod.snd same
    rw [sent]
    exact coherent.heardFirst one known untold distinct (congrArg Prod.fst same) named listed after

end Node

end Bsdvr
