import SomeipGateway.Endpoint.Steady
import SomeipGateway.Handshake.Machine
import SomeipGateway.Network.Traced

/-! # What an endpoint shows of the handshake

The half of an endpoint for one service and one peer, and the messages about the
service that its steps send to the peer. `Shows` relates an endpoint whose only
connection is the peer to its half: its tables name no one else, and the
connectors of its binding are the ones that its SOCom record knows.
-/

namespace SomeipGateway

open Handshake

variable {ι : Type} [DecidableEq ι]

/-! ## Messages -/

/-- The handshake message about the service that a packet carries. -/
def Packet.toMsg (key : Key) (packet : Packet) : Option Msg :=
  if packet.about = some key then
    match packet.msg with
    | .requestService _ inUse => some (.request inUse)
    | .offerService _ offered => some (.offer offered)
    | .connectService _ requiredId _ _ => some (.connect requiredId)
    | .connectServiceReply requiredId _ _ _ => some (.reply requiredId)
    | _ => none
  else none

/-- What the effects tell the peer about the service. -/
def said (key : Key) (peer : ι) (effects : List (Effect ι)) : List Msg :=
  (sendsTo peer effects).filterMap (Packet.toMsg key)

variable {key : Key} {peer : ι} {effects out : List (Effect ι)}

@[simp] theorem said_nil : said key peer [] = [] := rfl

@[simp] theorem said_append (es fs : List (Effect ι)) :
    said key peer (es ++ fs) = said key peer es ++ said key peer fs := by
  simp [said]

theorem Packet.toMsg_eq_none {packet : Packet}
    (h : packet.about = some key → packet.msg.isHandshake = false) : packet.toMsg key = none := by
  unfold Packet.toMsg
  split
  next habout =>
    have hmsg := h habout
    split <;> simp_all [Message.isHandshake]
  next => rfl

theorem said_eq_nil (h : ∀ e ∈ effects, e.touches key = false) : said key peer effects = [] := by
  refine List.filterMap_eq_nil_iff.2 fun packet hpacket => Packet.toMsg_eq_none fun habout => ?_
  have htouches := h _ (mem_sendsTo.1 hpacket)
  simpa [Effect.touches, habout] using htouches

@[simp] theorem said_requestSent (k : Key) (inUse : Bool) :
    said key peer (.requestSent k inUse :: effects) = said key peer effects := rfl

@[simp] theorem said_destroyServerConnector (k : Key) (connector : EnabledConnector ι) :
    said key peer (.destroyServerConnector k connector :: effects) = said key peer effects := rfl

theorem said_send (msg : Message) :
    said key peer (.send peer (some key) msg true :: effects) =
      (Packet.toMsg key ⟨some key, msg⟩).toList ++ said key peer effects := by
  simp only [said, sendsTo, List.filterMap_cons, if_true]
  cases Packet.toMsg key ⟨some key, msg⟩ <;> rfl

/-! ## The half of an endpoint -/

def Server.kind : Server ι → ServerKind
  | .application _ => .application
  | .bridge _ => .bridge

namespace Binding

/-- The connects for the service that the peer has not answered. -/
def awaiting (b : Binding ι) (key : Key) (peer : ι) : Finset Nat :=
  ((b.pendingConnects.entries.filter fun e => e.2 = ⟨key, peer⟩).map Sigma.fst).toFinset

theorem mem_awaiting {b : Binding ι} {r : Nat} :
    r ∈ b.awaiting key peer ↔ (b.view key).pending r = some peer := by
  rw [view_pending_eq_some]
  simp only [awaiting, List.mem_toFinset, List.mem_map, List.mem_filter, decide_eq_true_eq]
  constructor
  · rintro ⟨e, ⟨he, hvalue⟩, rfl⟩
    rw [Table.lookup_eq_some_of_mem he, hvalue]
  · intro hr
    exact ⟨⟨r, ⟨key, peer⟩⟩, ⟨Table.mem_of_lookup_eq_some hr, rfl⟩, rfl⟩

end Binding

namespace Endpoint

def half (n : Endpoint ι) (key : Key) (peer : ι) : Half where
  server := (n.records key).server.map Server.kind
  client := (n.records key).client
  hasState := (n.binding.view key).state.isSome
  requested := ((n.binding.view key).state.getD {}).requested
  offer := (((n.binding.view key).state.getD {}).offers.lookup peer).map OfferState.connectSent
  localOffer := (n.binding.view key).localOffer
  interested := peer ∈ (n.binding.view key).interested
  pending := n.binding.awaiting key peer
  busy := n.busy key
  mapped := ((n.binding.view key).ids peer).length
  next := n.binding.nextLocalId

end Endpoint

/-- What the binding holds for the service is what the half says. -/
structure ServiceView.Shows (peer : ι) (v : ServiceView ι) (h : Half) : Prop where
  hasState : v.state.isSome = h.hasState
  requested : (v.state.getD {}).requested = h.requested
  offer : ((v.state.getD {}).offers.lookup peer).map OfferState.connectSent = h.offer
  offered : ∀ c offer, (v.state.getD {}).offers.lookup c = some offer →
    c = peer ∧ offer.offered = true
  connector : (v.state.getD {}).enabledConnector.isSome = decide (h.server = some .bridge)
  clientConnector : (v.state.getD {}).clientConnector.isSome = decide (h.client = some .bridge)
  settled : (v.state.getD {}).clientConnectorPending = false
  localOffer : v.localOffer = h.localOffer
  interested : v.interested = if h.interested then [peer] else []
  pending : ∀ r, v.pending r = some peer ↔ r ∈ h.pending
  mapped : (v.ids peer).length = h.mapped

/-- The tables of a binding do not say which replies are in progress. -/
theorem ServiceView.Shows.setBusy {v : ServiceView ι} {h : Half} (hv : v.Shows peer h)
    (busy : Bool) : v.Shows peer { h with busy := busy } :=
  ⟨hv.hasState, hv.requested, hv.offer, hv.offered, hv.connector, hv.clientConnector, hv.settled,
    hv.localOffer, hv.interested, hv.pending, hv.mapped⟩

theorem ServiceView.Shows.setNext {v : ServiceView ι} {h : Half} (hv : v.Shows peer h)
    (next : Nat) : v.Shows peer { h with next := next } :=
  ⟨hv.hasState, hv.requested, hv.offer, hv.offered, hv.connector, hv.clientConnector, hv.settled,
    hv.localOffer, hv.interested, hv.pending, hv.mapped⟩

omit [DecidableEq ι] in
theorem ServiceView.control_getD {α : Type} {v v' : ServiceView ι} (h : v'.control = v.control)
    (g : ServiceState ι → α)
    (hg : ∀ s : ServiceState ι, g { s with eventSubscriptions := ∅ } = g s) :
    g (v'.state.getD {}) = g (v.state.getD {}) := by
  have hstate := congrArg ServiceView.state h
  simp only [ServiceView.control] at hstate
  cases hv : v.state with
  | none =>
      cases hv' : v'.state with
      | none => rfl
      | some s' => simp [hv, hv'] at hstate
  | some s =>
      cases hv' : v'.state with
      | none => simp [hv, hv'] at hstate
      | some s' =>
          rw [hv, hv', Option.map_some, Option.map_some, Option.some.injEq] at hstate
          simp only [Option.getD_some]
          rw [← hg s', hstate, hg s]

/-- The subscriptions of the peers are not part of the handshake. -/
theorem ServiceView.Shows.of_control {v v' : ServiceView ι} {h : Half} (hv : v.Shows peer h)
    (hc : v'.control = v.control) : v'.Shows peer h := by
  have hstate : v'.state.isSome = v.state.isSome := by
    have hmap := congrArg (fun v => (ServiceView.state v).isSome) hc
    simpa [ServiceView.control] using hmap
  have hids : v'.ids = v.ids := (congrArg ServiceView.ids hc :)
  have hlocal : v'.localOffer = v.localOffer := (congrArg ServiceView.localOffer hc :)
  have hinterested : v'.interested = v.interested := (congrArg ServiceView.interested hc :)
  have hpending : v'.pending = v.pending := (congrArg ServiceView.pending hc :)
  refine ⟨hstate.trans hv.hasState, ?_, ?_, ?_, ?_, ?_, ?_, hlocal.trans hv.localOffer,
    hinterested.trans hv.interested, hpending ▸ hv.pending, hids ▸ hv.mapped⟩
  · rw [control_getD hc ServiceState.requested fun _ => rfl]
    exact hv.requested
  · rw [control_getD hc ServiceState.offers fun _ => rfl]
    exact hv.offer
  · rw [control_getD hc ServiceState.offers fun _ => rfl]
    exact hv.offered
  · rw [control_getD hc ServiceState.enabledConnector fun _ => rfl]
    exact hv.connector
  · rw [control_getD hc ServiceState.clientConnector fun _ => rfl]
    exact hv.clientConnector
  · rw [control_getD hc ServiceState.clientConnectorPending fun _ => rfl]
    exact hv.settled

theorem ServiceView.Shows.mapState {v : ServiceView ι} {h : Half} (hv : v.Shows peer h)
    (f : ServiceState ι → ServiceState ι)
    (hf : ∀ s, { f s with eventSubscriptions := ∅ } = { s with eventSubscriptions := ∅ }) :
    ({ v with state := v.state.map f } : ServiceView ι).Shows peer h :=
  hv.of_control (ServiceView.control_map hf)

namespace Endpoint

/-- The endpoint is what the half says but for the server of its record, which
SOCom and the binding do not change at the same time. -/
structure ShowsButServer (key : Key) (peer : ι) (n : Endpoint ι) (h : Half) : Prop where
  connections : n.binding.connections = [peer]
  view : (n.binding.view key).Shows peer h
  client : (n.records key).client = h.client
  busy : n.busy key = h.busy
  next : n.binding.nextLocalId = h.next

structure Shows (key : Key) (peer : ι) (n : Endpoint ι) (h : Half) : Prop
    extends ShowsButServer key peer n h where
  server : (n.records key).server.map Server.kind = h.server

variable {n n' : Endpoint ι} {h : Half}

theorem Shows.half_eq (hn : Shows key peer n h) : n.half key peer = h := by
  have hpending : n.binding.awaiting key peer = h.pending := by
    ext r
    rw [Binding.mem_awaiting]
    exact hn.view.pending r
  have hinterested : decide (peer ∈ (n.binding.view key).interested) = h.interested := by
    rw [hn.view.interested]
    cases h.interested <;> simp
  unfold half
  rw [hn.server, hn.client, hn.view.hasState, hn.view.requested, hn.view.offer, hn.view.localOffer,
    hinterested, hpending, hn.busy, hn.view.mapped, hn.next]

theorem Shows.steady (hn : Shows key peer n h) (hs : Steady key n n') :
    Shows key peer n' { h with next := n'.binding.nextLocalId } :=
  ⟨⟨hs.connections.trans hn.connections, (hn.view.of_control hs.view).setNext _,
    hs.client.trans hn.client, hs.busy.trans hn.busy, rfl⟩, hs.server ▸ hn.server⟩

end Endpoint

end SomeipGateway
