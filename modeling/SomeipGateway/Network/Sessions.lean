import SomeipGateway.Endpoint.KnownPeers
import SomeipGateway.Network.Basic

/-! # A server and its clients

`Gateway_ipc_binding_server` and any number of `Gateway_ipc_binding_client`. The
server names a connection by a fresh id from its transport callbacks; a client
knows the server as peer 0, from the moment at which it handles `Connect_reply`.
Each connection has an in-order channel in both directions. A client that stops
may be on a new connection before the server hears that the old one is gone.
-/

namespace SomeipGateway

structure Sessions (π : Type) where
  server : Endpoint Nat := {}
  client : π → Endpoint Nat := fun _ => {}
  nextClientId : Nat := 0
  /-- The connections between their two transport callbacks at the server. -/
  accepted : Finset Nat := ∅
  /-- The connection that a client is on. -/
  session : π → Option Nat := fun _ => none
  up : Nat → List Packet := fun _ => []
  down : Nat → List Packet := fun _ => []
  /-- The client has added the server and not yet passed the reply to its base. -/
  admitting : π → Bool := fun _ => false

inductive SessionEvent (π : Type) where
  | connect (p : π)
  | ready (p : π)
  | stop (p : π)
  | disconnect (c : Nat)
  | toServer (c : Nat)
  | accept (p : π)
  | toClient (p : π)
  | atServer (event : Event Nat)
  | atClient (p : π) (event : Event Nat)

namespace Sessions

variable {π : Type} [DecidableEq π]

/-- `client_id` of `Gateway_ipc_binding_client_impl`. -/
def serverId : Nat := 0

/-- Store the outcome of a step of the server and send its messages. -/
def setServer (s : Sessions π) (r : Endpoint Nat × List (Effect Nat)) : Sessions π :=
  { s with server := r.1, down := fun c => s.down c ++ sendsTo c r.2 }

def setClient (s : Sessions π) (p : π) (r : Endpoint Nat × List (Effect Nat)) : Sessions π :=
  { s with
    client := Function.update s.client p r.1
    up :=
      match s.session p with
      | none => s.up
      | some c => Function.update s.up c (s.up c ++ sendsTo serverId r.2) }

/-- The oldest message on its way to the client. -/
def inbox (s : Sessions π) (p : π) : Option (Nat × Packet × List Packet) :=
  match s.session p with
  | none => none
  | some c =>
      match s.down c with
      | [] => none
      | packet :: rest => some (c, packet, rest)

def next (s : Sessions π) : Env Nat × SessionEvent π → Option (Sessions π)
  -- the connect callback of the server
  | (env, .connect p) =>
      if s.session p = none then
        (s.server.step env (.addClient s.nextClientId)).map
          { s with
            nextClientId := s.nextClientId + 1
            accepted := insert s.nextClientId s.accepted
            session := Function.update s.session p (some s.nextClientId) }.setServer
      else none
  -- `kReady` at the client
  | (env, .ready p) =>
      (s.session p).map fun c =>
        if env.link serverId .connect then
          { s with up := Function.update s.up c (s.up c ++ [⟨none, .connect⟩]) }
        else s
  -- `kStopping` or `kStarting` at the client
  | (env, .stop p) =>
      if s.admitting p then none
      else
        ((s.client p).step env (.removeClient serverId)).map fun r =>
          { s.setClient p r with session := Function.update s.session p none }
  -- the disconnect callback of the server
  | (env, .disconnect c) =>
      if c ∈ s.accepted then
        (s.server.step env (.removeClient c)).map
          { s with accepted := s.accepted.erase c }.setServer
      else none
  -- the message callback of the server
  | (env, .toServer c) =>
      match s.up c with
      | [] => none
      | packet :: rest =>
          if c ∈ s.accepted then
            (s.server.step env (.receive c packet.msg)).map
              { s with up := Function.update s.up c rest }.setServer
          else none
  -- `handle_connect_reply_message` of the client
  | (env, .accept p) =>
      match s.inbox p with
      | none => none
      | some (_, packet, _) =>
          if packet.msg = .connectReply true ∧ s.admitting p = false then
            ((s.client p).step env (.addClient serverId)).map fun r =>
              { s.setClient p r with admitting := Function.update s.admitting p true }
          else none
  -- `on_receive_message` of the client, which hands every message to its base
  | (env, .toClient p) =>
      match s.inbox p with
      | none => none
      | some (c, packet, rest) =>
          if packet.msg = .connectReply true ∧ s.admitting p = false then none
          else
            ((s.client p).step env (.receive serverId packet.msg)).map fun r =>
              { { s with down := Function.update s.down c rest }.setClient p r with
                admitting := Function.update s.admitting p false }
  | (env, .atServer event) =>
      if event.isLocal then (s.server.step env event).map s.setServer else none
  | (env, .atClient p event) =>
      if event.isLocal then ((s.client p).step env event).map (s.setClient p) else none

def ReachableVia (ok : Sessions π → Env Nat × SessionEvent π → Prop) (s : Sessions π) : Prop :=
  Reach next ok {} s

/-- A client hands a message other than the reply to its connect to its base only
while it has the server in its connections. -/
def awaitsReply (s : Sessions π) : SessionEvent π → Bool
  | .toClient p =>
      (s.inbox p).all fun r =>
        r.2.1.msg = .connectReply true || serverId ∈ (s.client p).binding.connections
  | _ => true

/-! ## Every peer named is connected -/

structure Sound (s : Sessions π) : Prop where
  server : s.server.binding.Connected
  client : ∀ p, (s.client p).binding.Connected
  accepted : ∀ c ∈ s.accepted, c ∈ s.server.binding.connections
  admitting : ∀ p, s.admitting p = true → serverId ∈ (s.client p).binding.connections

variable {s s' : Sessions π} {env : Env Nat} {r : Endpoint Nat × List (Effect Nat)}

/-- Only one client, and what it is admitting, changes. -/
theorem Sound.of_client (h : s.Sound) {p : π} (hclient : r.1.binding.Connected)
    (hserver : s'.server = s.server) (haccepted : s'.accepted = s.accepted)
    (hclients : s'.client = Function.update s.client p r.1)
    (hothers : ∀ q ≠ p, s'.admitting q = s.admitting q)
    (hadmitting : s'.admitting p = true → serverId ∈ r.1.binding.connections) : s'.Sound := by
  refine ⟨hserver ▸ h.server, fun q => ?_, fun c hc => ?_, fun q hq => ?_⟩
  · rw [hclients, Function.update_apply]
    split
    · exact hclient
    · exact h.client q
  · rw [hserver]
    exact h.accepted c (haccepted ▸ hc)
  · rw [hclients, Function.update_apply]
    split
    next hp => exact hadmitting (hp ▸ hq)
    next hp => exact h.admitting q (hothers q hp ▸ hq)

theorem isFrom_of_isLocal {ok : Nat → Message → Prop} {event : Event Nat} (h : event.isLocal = true) :
    event.keepsConnections = true ∧ event.isFrom ok := by
  cases event with
  | addClient | removeClient | receive => cases h
  | makeClientConnector | destroyClientConnector | makeServerConnector | destroyServerConnector
  | enableServerConnector | disableServerConnector | subscribeEvent | unsubscribeEvent | updateEvent
  | dropPayload | finishReply =>
      exact ⟨rfl, trivial⟩

theorem Sound.next (h : s.Sound) {event : SessionEvent π} (hok : s.awaitsReply event = true)
    (hnext : next s (env, event) = some s') : s'.Sound := by
  cases event with
  | connect p =>
      simp only [Sessions.next] at hnext
      split at hnext
      · obtain ⟨r, hstep, rfl⟩ := Option.map_eq_some_iff.1 hnext
        have hserver := Endpoint.connected_step (n := s.server) h.server (by trivial) hstep
        refine ⟨hserver, h.client, fun c hc => ?_, h.admitting⟩
        show c ∈ r.1.binding.connections
        rw [Endpoint.connections_addClient hstep, List.mem_insert_iff]
        exact (Finset.mem_insert.1 hc).imp_right (h.accepted c)
      · cases hnext
  | ready p =>
      obtain ⟨c, -, rfl⟩ := Option.map_eq_some_iff.1 hnext
      split
      · exact ⟨h.server, h.client, h.accepted, h.admitting⟩
      · exact h
  | stop p =>
      simp only [Sessions.next] at hnext
      split at hnext
      · cases hnext
      next hfree =>
        obtain ⟨r, hstep, rfl⟩ := Option.map_eq_some_iff.1 hnext
        have hclient := Endpoint.connected_step (n := s.client p) (h.client p) (by trivial) hstep
        exact h.of_client hclient rfl rfl rfl (fun _ _ => rfl) fun hp => absurd hp hfree
  | disconnect c =>
      simp only [Sessions.next] at hnext
      split at hnext
      · obtain ⟨r, hstep, rfl⟩ := Option.map_eq_some_iff.1 hnext
        have hserver := Endpoint.connected_step (n := s.server) h.server (by trivial) hstep
        refine ⟨hserver, h.client, fun c' hc => ?_, h.admitting⟩
        obtain ⟨hne, hin⟩ := Finset.mem_erase.1 hc
        show c' ∈ r.1.binding.connections
        rw [Endpoint.connections_removeClient hstep, List.mem_erase_of_ne hne]
        exact h.accepted c' hin
      · cases hnext
  | toServer c =>
      simp only [Sessions.next] at hnext
      split at hnext
      · cases hnext
      · split at hnext
        next hin =>
          obtain ⟨r, hstep, rfl⟩ := Option.map_eq_some_iff.1 hnext
          have hserver := Endpoint.connected_step h.server (by exact h.accepted c hin) hstep
          refine ⟨hserver, h.client, fun c' hc => ?_, h.admitting⟩
          show c' ∈ r.1.binding.connections
          rw [Endpoint.connections_step rfl hstep]
          exact h.accepted c' hc
        next => cases hnext
  | accept p =>
      simp only [Sessions.next] at hnext
      split at hnext
      · cases hnext
      · split at hnext
        · obtain ⟨r, hstep, rfl⟩ := Option.map_eq_some_iff.1 hnext
          have hclient := Endpoint.connected_step (n := s.client p) (h.client p) (by trivial) hstep
          refine h.of_client hclient rfl rfl rfl (fun q hq => Function.update_of_ne hq _ _)
            fun _ => ?_
          rw [Endpoint.connections_addClient hstep]
          exact List.mem_insert_self
        · cases hnext
  | toClient p =>
      simp only [Sessions.next] at hnext
      split at hnext
      · cases hnext
      next c packet rest hinbox =>
        split at hnext
        · cases hnext
        next hadmitted =>
          obtain ⟨r, hstep, rfl⟩ := Option.map_eq_some_iff.1 hnext
          have hserver : serverId ∈ (s.client p).binding.connections := by
            simp only [awaitsReply, hinbox, Option.all_some, Bool.or_eq_true,
              decide_eq_true_eq] at hok
            rcases hok with hreply | hconnected
            · exact h.admitting p (by simpa [hreply] using hadmitted)
            · exact hconnected
          have hclient := Endpoint.connected_step (h.client p) (by exact hserver) hstep
          exact h.of_client hclient rfl rfl rfl (fun q hq => Function.update_of_ne hq _ _)
            fun hp => by simp at hp
  | atServer event =>
      simp only [Sessions.next] at hnext
      split at hnext
      next hlocal =>
        obtain ⟨r, hstep, rfl⟩ := Option.map_eq_some_iff.1 hnext
        obtain ⟨hkeeps, hfrom⟩ := isFrom_of_isLocal hlocal
        refine ⟨Endpoint.connected_step h.server hfrom hstep, h.client, fun c hc => ?_, h.admitting⟩
        show c ∈ r.1.binding.connections
        rw [Endpoint.connections_step hkeeps hstep]
        exact h.accepted c hc
      next => cases hnext
  | atClient p event =>
      simp only [Sessions.next] at hnext
      split at hnext
      next hlocal =>
        obtain ⟨r, hstep, rfl⟩ := Option.map_eq_some_iff.1 hnext
        obtain ⟨hkeeps, hfrom⟩ := isFrom_of_isLocal hlocal
        refine h.of_client (Endpoint.connected_step (h.client p) hfrom hstep) rfl rfl rfl
          (fun _ _ => rfl) fun hp => ?_
        rw [Endpoint.connections_step hkeeps hstep]
        exact h.admitting p hp
      next => cases hnext

/-- In every state reached, the server and every client name connected peers only. -/
theorem peersConnected_of_awaitsReply
    (h : ReachableVia (fun s label => s.awaitsReply label.2 = true) s) :
    s.server.PeersConnected ∧ ∀ p, (s.client p).PeersConnected := by
  have hsound : s.Sound := by
    refine Reach.invariant (I := Sound) ?_ (fun s label s' hs hok hnext => hs.next hok hnext) h
    exact ⟨.init, fun _ => .init, by simp, fun _ hp => by cases hp⟩
  exact ⟨Endpoint.peersConnected_of_connected hsound.server,
    fun p => Endpoint.peersConnected_of_connected (hsound.client p)⟩

/-- A client connects, both sides ask for a service of the other, and the server
answers the request of the client. -/
theorem peersConnected_of_awaitsReply_run :
    ∃ s : Sessions Unit, s.server.binding.Names 0 ∧ (s.client ()).binding.Names serverId ∧
      s.server.PeersConnected ∧ (s.client ()).PeersConnected := by
  obtain ⟨s, hreach, hp⟩ := exists_reach_of_runFrom next
    (fun (s : Sessions Unit) label => s.awaitsReply label.2 = true) {}
    ([.connect (), .ready (), .toServer 0, .accept (), .toClient (),
      .atClient () (.makeClientConnector (Endpoint.someKey 1) {}), .toServer 0,
      .atServer (.makeClientConnector (Endpoint.someKey 2) {}), .toClient ()].map
        (Prod.mk Endpoint.someEnv))
    (fun s => decide (0 ∈ s.server.binding.interested (Endpoint.someKey 1)) &&
      decide (serverId ∈ (s.client ()).binding.interested (Endpoint.someKey 2))) (by decide)
  simp only [Bool.and_eq_true, decide_eq_true_eq] at hp
  obtain ⟨hserver, hclient⟩ := peersConnected_of_awaitsReply hreach
  exact ⟨s, .inl ⟨_, hp.1⟩, .inl ⟨_, hp.2⟩, hserver, hclient ()⟩

/-- The server asks for a service before it has handled the connect: the client
notes a peer that it has no connection to yet, and has no channel for the offer
when the service comes up. -/
theorem request_before_reply :
    ∃ s : Sessions Unit, ReachableVia (fun _ _ => True) s ∧
      (s.client ()).binding.Names serverId ∧ serverId ∉ (s.client ()).binding.connections ∧
      ¬ (s.client ()).binding.ChannelsFound ∧
      (s.client ()).step Endpoint.someEnv (.enableServerConnector (Endpoint.someKey 1) {}) =
        none := by
  obtain ⟨s, hreach, hp⟩ := exists_reach_of_runFrom next
    (fun (_ : Sessions Unit) _ => True) {}
    ([.connect (), .ready (), .atServer (.makeClientConnector (Endpoint.someKey 1) {}),
      .toClient ()].map (Prod.mk Endpoint.someEnv))
    (fun s => decide (serverId ∈ (s.client ()).binding.interested (Endpoint.someKey 1)) &&
      decide (serverId ∉ (s.client ()).binding.connections) &&
      (((s.client ()).binding.sendOffers Endpoint.someEnv (Endpoint.someKey 1) true
        ((s.client ()).binding.interested (Endpoint.someKey 1))).isNone &&
      ((s.client ()).step Endpoint.someEnv
        (.enableServerConnector (Endpoint.someKey 1) {})).isNone)) (by decide)
  simp only [Bool.and_eq_true, decide_eq_true_eq, Option.isNone_iff_eq_none] at hp
  obtain ⟨⟨hnamed, hmissing⟩, hnull, hstep⟩ := hp
  refine ⟨s, hreach, .inl ⟨_, hnamed⟩, hmissing, fun hfound => ?_, hstep⟩
  have hsome := hfound.offers Endpoint.someEnv (Endpoint.someKey 1) true
  rw [hnull] at hsome
  cases hsome

end Sessions

end SomeipGateway
