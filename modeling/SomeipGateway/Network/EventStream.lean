import SomeipGateway.Endpoint.EventRecipients
import SomeipGateway.Endpoint.Steady
import SomeipGateway.Network.HandleResolution

/-! # The stream of an event between two endpoints

A provider and a consumer are connected for a service. Until one of them takes part
in another handshake for it, every update that the application of the provider makes
while the event is subscribed is passed on at the consumer, once and in order,
whatever else the endpoints of the network do.
-/

namespace SomeipGateway

variable {ι : Type} [DecidableEq ι]

/-! ## Calls and messages that update an event -/

/-- The call updates the event of the service, at a connector or at a peer. -/
def Effect.publishes (key : Key) (eventId : Nat) : Effect ι → Bool
  | .send _ about (.eventUpdate _ e _) _ => about = some key && e = eventId
  | .updateEvent k _ e _ => k = key && e = eventId
  | _ => false

/-- The handle and the slot with which `update_event` is called for the event. -/
def Effect.handed (key : Key) (eventId : Nat) : Effect ι → Option (Nat × SharedMemoryHandle)
  | .updateEvent k _ e payload =>
      if k = key ∧ e = eventId then payload.origin.map fun o => (o.requiredId, o.handle) else none
  | _ => none

/-- The handle and the slot that the packet tells of, if it updates the event. -/
def Packet.update (key : Key) (eventId : Nat) (packet : Packet) :
    Option (Nat × SharedMemoryHandle) :=
  match packet.msg with
  | .eventUpdate r e handle =>
      if packet.about = some key ∧ e = eventId then some (r, handle) else none
  | _ => none

omit [DecidableEq ι] in
theorem Effect.publishes_of_isControl {key : Key} {eventId : Nat} {e : Effect ι}
    (h : e.isControl = true) : e.publishes key eventId = false := by
  cases e with
  | send client about msg ok => cases msg <;> first | rfl | cases h
  | updateEvent => cases h
  | subscribeEvent | unsubscribeEvent | releasePayload | destroyServerConnector
  | destroyClientConnector | requestSent | assertFailed => rfl

omit [DecidableEq ι] in
theorem Effect.handed_of_publishes {key : Key} {eventId : Nat} {e : Effect ι}
    (h : e.publishes key eventId = false) : e.handed key eventId = none := by
  cases e with
  | updateEvent k connector e payload => exact if_neg (by simpa [publishes] using h)
  | send | subscribeEvent | unsubscribeEvent | releasePayload | destroyServerConnector
  | destroyClientConnector | requestSent | assertFailed => rfl

theorem update_sendsTo {key : Key} {eventId : Nat} {client : ι} {effects : List (Effect ι)}
    (h : ∀ e ∈ effects, e.publishes key eventId = false) :
    (sendsTo client effects).filterMap (Packet.update key eventId) = [] := by
  rw [List.filterMap_eq_nil_iff]
  intro packet hpacket
  have hquiet := h _ (mem_sendsTo.1 hpacket)
  unfold Packet.update
  split
  next hmsg => exact if_neg (by simpa [Effect.publishes, hmsg] using hquiet)
  next => rfl

namespace Endpoint

variable {env : Env ι} {n n' : Endpoint ι} {key : Key} {eventId : Nat}
  {effects out : List (Effect ι)}

theorem mem_socomUpdate {k : Key} {id : Nat} {payload : Payload ι} {e : Effect ι}
    (h : n.socomUpdate env k id payload = some (n', effects)) (he : e ∈ effects) :
    (∃ client r handle, e = env.send client (some k) (.eventUpdate r id handle)) ∨
      e = .assertFailed .connectionMissing ∨ e = .releasePayload payload := by
  obtain ⟨-, rfl⟩ | ⟨-, -, rfl⟩ | ⟨-, b, hb, -⟩ := socomUpdate_cases h
  · exact .inr (.inr (List.mem_singleton.1 he))
  · cases he
  · obtain ⟨allocations, more, hmore, -, rfl⟩ := Binding.sendEventUpdate_eq_some.1 hb
    rcases List.mem_append.1 he with he | he
    · obtain ⟨client, ids, -, -, rfl⟩ | rfl := Binding.mem_eventUpdates he
      · exact .inl ⟨client, _, _, rfl⟩
      · exact .inr (.inl rfl)
    · exact .inr (.inr (Allocations.eq_of_mem_insertAllocation hmore he))

theorem publishes_socomUpdate {k : Key} {id : Nat} {payload : Payload ι}
    (hne : ¬ (k = key ∧ id = eventId)) (h : n.socomUpdate env k id payload = some (n', effects)) :
    ∀ e ∈ effects, e.publishes key eventId = false := by
  intro e he
  obtain ⟨client, r, handle, rfl⟩ | rfl | rfl := mem_socomUpdate h he
  · simpa [Effect.publishes, Env.send] using hne
  · rfl
  · rfl

theorem publishes_performOne {c : Effect ι} (hc : c.publishes key eventId = false)
    (h : n.performOne env c = some (n', effects)) :
    ∀ e ∈ effects, e.publishes key eventId = false := by
  cases hdata : c.isData with
  | false =>
      exact fun e he => Effect.publishes_of_isControl (isControl_performOne hdata h e he)
  | true =>
      cases Performs.of_performOne h with
      | inert | forget => simp
      | reject => simp [Effect.publishes]
      | update _ hupdate =>
          exact publishes_socomUpdate (by simpa [Effect.publishes] using hc) hupdate
      | acknowledge => simp [Effect.publishes, Env.send]
      | subscribe | unsubscribe | destroyServer | destroyClient => cases hdata

/-- Only the handler of `Event_update` calls `update_event`. -/
theorem handed_performOne {c : Effect ι} (h : n.performOne env c = some (n', effects)) :
    ∀ e ∈ effects, e.handed key eventId = none := by
  cases hpublishes : c.publishes key eventId with
  | false => exact fun e he => Effect.handed_of_publishes (publishes_performOne hpublishes h e he)
  | true =>
      cases Performs.of_performOne h with
      | inert | forget => simp
      | reject => simp [Effect.handed]
      | update _ hupdate =>
          intro e he
          obtain ⟨client, r, handle, rfl⟩ | rfl | rfl := mem_socomUpdate hupdate he <;> rfl
      | acknowledge | subscribe | unsubscribe | destroyServer | destroyClient => cases hpublishes

/-- The enabled server connector of the service that the bridge owns. -/
def connector (n : Endpoint ι) (key : Key) : Option (EnabledConnector ι) :=
  (n.binding.view key).state.bind ServiceState.enabledConnector

/-- The event does not make the endpoint update the event of the service. -/
def Quiet (key : Key) (eventId : Nat) (n : Endpoint ι) : Event ι → Prop
  | .updateEvent k e _ _ => ¬ (k = key ∧ e = eventId)
  | .receive client (.eventUpdate r e _) =>
      ∀ ids, n.binding.idMapping.getByRemoteHandle client r = some ids →
        n.connector ids.key ≠ none → ¬ (ids.key = key ∧ e = eventId)
  | _ => True

theorem publishes_act {event : Event ι} (hquiet : n.Quiet key eventId event)
    (h : n.act env event = some (n', effects)) :
    ∀ e ∈ effects, e.publishes key eventId = false := by
  cases hcontrol : event.isControl with
  | true => exact fun e he => Effect.publishes_of_isControl (isControl_act hcontrol h e he)
  | false =>
      cases Acts.of_act h with
      | idle => simp
      | update _ _ hupdate => exact publishes_socomUpdate hquiet hupdate
      | drop => simp [Effect.publishes]
      | receive _ hreceive =>
          cases Handles.of_onReceiveMessage hreceive with
          | eventUpdate hb =>
              obtain ⟨-, rfl⟩ | ⟨ids, state, hids, hstate, ⟨-, rfl⟩ | ⟨_, _, hconnector, rfl⟩⟩ :=
                Binding.handleEventUpdateMessage_effects hb
              · simp
              · simp [Effect.publishes]
              · simpa [Effect.publishes] using
                  hquiet ids hids (by simp [connector, hstate, hconnector])
          | payloadConsumed =>
              intro e he
              obtain ⟨payload, rfl⟩ := Binding.exists_of_mem_payloadConsumed he
              rfl
          | @connectService k requiredId _ inUse _ _ hb =>
              cases inUse with
              | true => cases hcontrol
              | false =>
                  intro e he
                  have heffects : (n.binding.disconnectService _ k requiredId).2 = effects :=
                    congrArg Prod.snd (Option.some.inj hb)
                  rw [← heffects, Binding.disconnectService_effects] at he
                  rcases List.mem_append.1 he with he | he
                  · obtain ⟨_, rfl⟩ := Binding.exists_of_mem_droppedSubscriptions he
                    rfl
                  · obtain ⟨_, -, rfl⟩ := List.mem_map.1 he
                    rfl
          | connect | connectReply | request | offer | connectServiceReply | subscribe =>
              cases hcontrol
      | register | request | destroy | enable | disable | subscribe | unsubscribe | addClient
      | removeClient | finish => cases hcontrol

theorem publishes_step {event : Event ι} (hquiet : n.Quiet key eventId event)
    (h : n.step env event = some (n', out)) : ∀ e ∈ out, e.publishes key eventId = false := by
  obtain ⟨m, effects, hact, hperform⟩ := step_eq_some.1 h
  exact (perform_preserves (I := fun _ => True)
    (fun _ _ _ _ _ hc hone => ⟨trivial, publishes_performOne hc hone⟩) 3 trivial
    (publishes_act hquiet hact) hperform).2

/-! ## The provider -/

/-- The application provides the service to the peer, which knows it by `r`. -/
structure Provides (n : Endpoint ι) (key : Key) (eventId : Nat) (peer : ι) (r : Nat) : Prop where
  server : ∃ counts, (n.records key).server = some (.application counts) ∧
    eventId < counts.numEvents
  client : (n.records key).client = some .bridge
  connector : n.connector key = none
  mapped : ((n.binding.view key).ids peer).map Ids.remoteHandle = [r]
  connected : peer ∈ n.binding.connections

/-- The updates that the application makes with the event, while it is subscribed. -/
def published (key : Key) (eventId : Nat) (n : Endpoint ι) : Event ι → List SharedMemoryHandle
  | .updateEvent k e slotHandle size =>
      if (k = key ∧ e = eventId) ∧ eventId ∈ (n.records key).subscribed then [⟨slotHandle, size⟩]
      else []
  | _ => []

theorem Steady.connector (h : Steady key n n') : n'.connector key = n.connector key := by
  have hstate := congrArg (fun v => v.state.bind ServiceState.enabledConnector) h.view
  simpa [ServiceView.control, Endpoint.connector, Option.bind_map, Function.comp_def] using hstate

variable {peer : ι} {r : Nat}

theorem Provides.step (h : n.Provides key eventId peer r) {event : Event ι}
    (hevent : n.steers key event = false) (hstep : n.step env event = some (n', out)) :
    n'.Provides key eventId peer r := by
  obtain ⟨hsteady, -⟩ := calm_step hevent hstep
  exact ⟨hsteady.server ▸ h.server, hsteady.client ▸ h.client, hsteady.connector ▸ h.connector,
    hsteady.ids ▸ h.mapped, hsteady.connections ▸ h.connected⟩

/-- The peer is visited once, with its mapping. -/
theorem filter_forEachClient {m : ConnectionMetadata ι} (hsound : m.IndexSound)
    (hcomplete : m.IndexComplete) {ids : Ids}
    (hids : ((m.idsOf peer).filter fun ids => ids.key = key) = [ids]) :
    (m.forEachClient key).filter (fun p => p.1 = peer) = [(peer, ids)] := by
  have hmem (ids' : Ids) : ids' ∈ m.idsOf peer ∧ ids'.key = key ↔ ids' = ids := by
    rw [← List.mem_singleton (a := ids'), ← hids]
    simp
  obtain ⟨hin, rfl⟩ := (hmem ids).2 rfl
  obtain ⟨ids', hvisited⟩ := ConnectionMetadata.exists_mem_forEachClient hsound hcomplete hin
  obtain rfl := (hmem ids').1 (ConnectionMetadata.mem_forEachClient hsound hvisited)
  have hnodup := (m.nodup_forEachClient ids'.key).of_map.filter fun p => p.1 = peer
  refine List.perm_singleton.1 ((List.perm_ext_iff_of_nodup hnodup (List.nodup_singleton _)).2 ?_)
  rintro ⟨c, other⟩
  simp only [List.mem_filter, decide_eq_true_eq, List.mem_singleton, Prod.mk.injEq]
  constructor
  · rintro ⟨hother, rfl⟩
    exact ⟨rfl, (hmem other).1 (ConnectionMetadata.mem_forEachClient hsound hother)⟩
  · rintro ⟨rfl, rfl⟩
    exact ⟨hvisited, rfl⟩

theorem sendsTo_eventUpdates {b : Binding ι} {metadata : Key → Option SharedMemoryMetadata}
    {payload : Payload ι} (hpeer : peer ∈ b.connections) (clients : List (ι × Ids)) :
    sendsTo peer (b.eventUpdates (Network.env metadata) key eventId payload clients).1 =
      (clients.filter fun p => p.1 = peer).map fun p => ⟨some key,
        .eventUpdate p.2.remoteHandle eventId ⟨payload.slotHandle, payload.size⟩⟩ := by
  induction clients with
  | nil => rfl
  | cons head rest ih =>
      obtain ⟨c, ids⟩ := head
      simp only [Binding.eventUpdates, sendsTo] at ih ⊢
      by_cases hc : c = peer
      · subst hc
        simp [hpeer, Env.send, Network.env_link, ih]
      · split <;> simp [hc, Env.send, Network.env_link, ih]

/-- The peer is sent the updates of the application, and no other update. -/
theorem Provides.sends (h : n.Provides key eventId peer r) (hsound : n.binding.idMapping.IndexSound)
    (hcomplete : n.binding.idMapping.IndexComplete) {event : Event ι}
    {metadata : Key → Option SharedMemoryMetadata}
    (hstep : n.step (Network.env metadata) event = some (n', out)) :
    (sendsTo peer out).filterMap (Packet.update key eventId) =
      (n.published key eventId event).map (Prod.mk r) := by
  by_cases hquiet : n.Quiet key eventId event
  · rw [update_sendsTo (publishes_step hquiet hstep)]
    cases event with
    | updateEvent k e slotHandle size =>
        have hne : ¬ (k = key ∧ e = eventId) := hquiet
        simp [published, hne]
    | _ => rfl
  cases event with
  | updateEvent k e slotHandle size =>
      obtain ⟨rfl, rfl⟩ : k = key ∧ e = eventId := not_not.1 hquiet
      obtain ⟨counts, hserver, hevent⟩ := h.server
      obtain ⟨⟨-, hsubscribed⟩, hsend⟩ | ⟨hnot, -, hout⟩ := step_updateEvent hserver hevent hstep
      · obtain ⟨ids, hids, rfl⟩ := List.map_eq_singleton_iff.1 h.mapped
        obtain ⟨allocations, more, hmore, -, rfl⟩ := Binding.sendEventUpdate_eq_some.1 hsend
        have hrelease : (sendsTo peer more).filterMap (Packet.update k e) = [] :=
          update_sendsTo fun e he => by rw [Allocations.eq_of_mem_insertAllocation hmore he]; rfl
        rw [sendsTo_append, List.filterMap_append, hrelease, sendsTo_eventUpdates h.connected,
          filter_forEachClient hsound hcomplete hids]
        simp [published, hsubscribed, Packet.update]
      · have hsubscribed : e ∉ (n.records k).subscribed := fun hin => hnot ⟨h.client, hin⟩
        rw [update_sendsTo fun e' he => by rw [hout e' he]; rfl]
        simp [published, hsubscribed]
  | receive client msg =>
      cases msg with
      | eventUpdate r' e handle =>
          refine absurd (fun ids _ hconnector hkey => hconnector ?_) hquiet
          rw [hkey.1]
          exact h.connector
      | _ => exact absurd trivial hquiet
  | _ => exact absurd trivial hquiet

/-! ## The consumer -/

/-- The service is provided by the peer alone, under the handle `r`. -/
structure Consumes (n : Endpoint ι) (key : Key) (peer : ι) (r : Nat) : Prop where
  connector : n.connector key ≠ none
  mapped : r ∈ ((n.binding.view key).ids peer).map Ids.remoteHandle
  only : ∀ z ≠ peer, (n.binding.view key).ids z = []

theorem Consumes.step (h : n.Consumes key peer r) {event : Event ι}
    (hevent : n.steers key event = false) (hstep : n.step env event = some (n', out)) :
    n'.Consumes key peer r := by
  obtain ⟨hsteady, -⟩ := calm_step hevent hstep
  exact ⟨hsteady.connector ▸ h.connector, hsteady.ids ▸ h.mapped, hsteady.ids ▸ h.only⟩

/-- A message that finds the service of a connector is passed on to it. -/
theorem handed_eventUpdate {client : ι} {ids : Ids} {handle : SharedMemoryHandle}
    (hids : n.binding.idMapping.getByRemoteHandle client r = some ids)
    (hconnector : n.connector ids.key ≠ none)
    (hstep : n.step env (.receive client (.eventUpdate r eventId handle)) = some (n', out)) :
    out.filterMap (Effect.handed ids.key eventId) = [(r, handle)] := by
  obtain ⟨m, effects, hact, hperform⟩ := step_eq_some.1 hstep
  obtain ⟨-, hreceive⟩ := act_receive_eq_some.1 hact
  cases Handles.of_onReceiveMessage hreceive with
  | eventUpdate hb =>
      obtain ⟨hnone, -⟩ | ⟨ids', state, hids', hstate, hcases⟩ :=
        Binding.handleEventUpdateMessage_effects hb
      · cases hids.symm.trans hnone
      cases hids.symm.trans hids'
      obtain ⟨hnone, -⟩ | ⟨_, _, -, rfl⟩ := hcases
      · exact absurd (by simp [connector, hstate, hnone]) hconnector
      · obtain ⟨u, caused, v, more, last, hone, hmore, hlast, rfl⟩ :=
          perform_cons_eq_some.1 hperform
        cases hlast
        have hquiet : ∀ e ∈ more, e.handed ids.key eventId = none :=
          (perform_preserves (I := fun _ => True)
            (fun _ _ _ _ _ _ hone => ⟨trivial, handed_performOne hone⟩) 2 trivial
            (handed_performOne hone) hmore).2
        simpa [Effect.handed] using hquiet

/-- The updates of the peer are passed on, and no others. -/
theorem Consumes.handed (h : n.Consumes key peer r) {client : ι} {packet : Packet}
    (hpacket : client = peer → ∀ r' e handle, packet.msg = .eventUpdate r' e handle →
      (∀ ids, n.binding.idMapping.getByRemoteHandle client r' = some ids →
        packet.about = some ids.key) ∧ (packet.about = some key → e = eventId → r' = r))
    (hstep : n.step env (.receive client packet.msg) = some (n', out)) :
    out.filterMap (Effect.handed key eventId) =
      if client = peer then (packet.update key eventId).toList else [] := by
  obtain ⟨about, msg⟩ := packet
  have hnone (hquiet : n.Quiet key eventId (.receive client msg)) :
      out.filterMap (Effect.handed key eventId) = [] :=
    List.filterMap_eq_nil_iff.2 fun e he =>
      Effect.handed_of_publishes (publishes_step hquiet hstep e he)
  cases msg with
  | eventUpdate r' e handle =>
      by_cases hupdate : client = peer ∧ about = some key ∧ e = eventId
      · obtain ⟨rfl, rfl, rfl⟩ := hupdate
        obtain ⟨hresolves, hr⟩ := hpacket rfl r' e handle rfl
        obtain rfl := hr rfl rfl
        obtain ⟨ids, hids, hremote⟩ := List.mem_map.1 h.mapped
        obtain ⟨ids', hids'⟩ :
            ∃ ids', n.binding.idMapping.getByRemoteHandle client r' = some ids' :=
          Option.isSome_iff_exists.1
            (List.find?_isSome.2 ⟨ids, (List.mem_filter.1 hids).1, by simpa using hremote⟩)
        obtain rfl : key = ids'.key := Option.some.inj (hresolves ids' hids')
        rw [handed_eventUpdate hids' h.connector hstep]
        simp [Packet.update]
      · rw [hnone]
        · split
          next hclient => simpa [Packet.update] using fun habout he => hupdate ⟨hclient, habout, he⟩
          next => rfl
        · rintro ids hids - ⟨rfl, rfl⟩
          have hmem : ids ∈ (n.binding.view ids.key).ids client :=
            List.mem_filter.2 ⟨List.mem_of_find?_eq_some hids, by simp⟩
          by_cases hclient : client = peer
          · exact hupdate ⟨hclient, (hpacket hclient r' e handle rfl).1 ids hids, rfl⟩
          · rw [h.only client hclient] at hmem
            cases hmem
  | _ =>
      rw [hnone trivial]
      split <;> rfl

end Endpoint

/-! ## Runs -/

namespace Network

variable {metadata : ι → Key → Option SharedMemoryMetadata} {net net' : Network ι} {x y : ι}
  {key : Key} {eventId r : Nat}

/-- The updates of the event between two endpoints. -/
def flow (net : Network ι) (x y : ι) (key : Key) (eventId : Nat) :
    List (Nat × SharedMemoryHandle) :=
  (net.channel x y).filterMap (Packet.update key eventId)

/-- The updates that the application of `x` makes with the step. -/
def publishedBy (net : Network ι) (x : ι) (key : Key) (eventId : Nat) :
    NetworkEvent ι → List SharedMemoryHandle
  | .act z event => if z = x then (net.endpoint x).published key eventId event else []
  | .deliver _ _ | .disconnect _ _ => []

/-- The updates that `y` passes on when a message is delivered to it. -/
def handedOver (metadata : ι → Key → Option SharedMemoryMetadata) (net : Network ι) (y : ι)
    (key : Key) (eventId : Nat) : NetworkEvent ι → List (Nat × SharedMemoryHandle)
  | .deliver z w =>
      if w = y then
        let r := (net.channel z y).head?.bind fun packet =>
          (net.endpoint y).step (env (metadata y)) (.receive z packet.msg)
        (r.elim [] Prod.snd).filterMap (Effect.handed key eventId)
      else []
  | .act _ _ | .disconnect _ _ => []

/-- No connection is lost, and the endpoint takes no part in a handshake for the service. -/
def atRest (net : Network ι) (x : ι) (key : Key) : NetworkEvent ι → Bool
  | .act z event => z ≠ x || !(net.endpoint x).steers key event
  | .deliver z w => w ≠ x || (net.channel z x).head?.all fun packet =>
      !(net.endpoint x).steers key (.receive z packet.msg)
  | .disconnect _ _ => false

/-- What holds in every run that keeps the handles apart. -/
structure Sound (net : Network ι) : Prop where
  traced : net.Traced
  apart : net.HandlesApart
  complete : ∀ z, (net.endpoint z).binding.idMapping.IndexComplete

theorem Sound.next (h : net.Sound) {event : NetworkEvent ι}
    (hok : net.keepsHandlesApart event = true) (hnext : net.next metadata event = some net') :
    net'.Sound := by
  have hcomplete : SectionInvariant (fun _ _ => True)
      fun b : Binding ι => b.idMapping.IndexComplete :=
    ⟨Binding.indexComplete_rule.sections.mono fun _ msg _ =>
      MetadataRule.maps_of_forall (fun _ => trivial) msg, fun h => h, fun h => h.removeClient⟩
  have hindex := binding_next hcomplete h.complete hnext
  obtain ⟨x, e, r, rfl, hlocal, hstep, rfl⟩ |
    ⟨x, y, packet, rest, r, rfl, hne, hchannel, hstep, rfl⟩ | ⟨x, y, rfl⟩ := next_cases hnext
  · exact ⟨h.traced.act hlocal hstep, ⟨h.apart.connect, h.apart.reply⟩, hindex⟩
  · have hclash : ∀ q ∈ net.delivered y x, packet.clashes q = false := by
      simpa [keepsHandlesApart, hchannel] using hok
    have htake := h.apart.take rest hne hclash
    exact ⟨h.traced.deliver hchannel hstep, ⟨htake.connect, htake.reply⟩, hindex⟩
  · cases hok

/-- A step moves the updates on: what is published joins the flow, and what leaves it is
handed over. -/
theorem flow_next (hne : x ≠ y) (hsound : net.Sound)
    (hprovides : (net.endpoint x).Provides key eventId y r)
    (hconsumes : (net.endpoint y).Consumes key x r)
    (hflow : ∀ update ∈ net.flow x y key eventId, update.1 = r) {event : NetworkEvent ι}
    (hrest : net.atRest x key event = true) (hnext : net.next metadata event = some net') :
    net.flow x y key eventId ++ (net.publishedBy x key eventId event).map (Prod.mk r) =
      net.handedOver metadata y key eventId event ++ net'.flow x y key eventId := by
  have hsends {e : Event ι} {r' : Endpoint ι × List (Effect ι)}
      (hstep : (net.endpoint x).step (env (metadata x)) e = some r') :=
    hprovides.sends (hsound.traced x).binding.index (hsound.complete x) hstep
  obtain ⟨z, e, r', rfl, -, hstep, rfl⟩ |
    ⟨z, w, packet, rest, r', rfl, -, hchannel, hstep, rfl⟩ | ⟨z, w, rfl⟩ := next_cases hnext
  · by_cases hz : z = x
    · subst hz
      simp [flow, publishedBy, handedOver, hsends hstep]
    · simp [flow, publishedBy, handedOver, hz, Ne.symm hz]
  · by_cases hw : w = y
    · subst hw
      have hover : net.handedOver metadata w key eventId (.deliver z w) =
          if z = x then (packet.update key eventId).toList else [] := by
        rw [← hconsumes.handed ?_ hstep]
        · simp [handedOver, hchannel, hstep]
        · rintro rfl r' e handle hmsg
          have hsent : packet ∈ net.sent z w := by simp [sent, hchannel]
          have hresolves := hsound.traced.resolves hsound.apart hsent
          rw [Resolves, hmsg] at hresolves
          refine ⟨hresolves, fun habout he => hflow (r', handle) ?_⟩
          simp [flow, hchannel, Packet.update, hmsg, habout, he]
      rw [hover]
      by_cases hz : z = x
      · subst hz
        cases hupdate : packet.update key eventId <;>
          simp [flow, publishedBy, hchannel, hne, hupdate]
      · simp [flow, publishedBy, hne, hz, Ne.symm hz]
    · by_cases hx : w = x
      · subst hx
        simp [flow, publishedBy, handedOver, hw, Ne.symm hw, hsends hstep, Endpoint.published]
      · simp [flow, publishedBy, handedOver, hw, Ne.symm hw, Ne.symm hx]
  · cases hrest

/-- What the steps outside the handshake keep of an endpoint, a network keeps in which the
endpoint is at rest. -/
theorem endpoint_next {P : Endpoint ι → Prop} (hP : ∀ {n n' : Endpoint ι} {env event out}, P n →
      n.steers key event = false → n.step env event = some (n', out) → P n')
    {event : NetworkEvent ι} (hrest : net.atRest x key event = true)
    (hnext : net.next metadata event = some net') (h : P (net.endpoint x)) :
    P (net'.endpoint x) := by
  obtain ⟨z, e, r', rfl, -, hstep, rfl⟩ |
    ⟨z, w, packet, rest, r', rfl, -, hchannel, hstep, rfl⟩ | ⟨z, w, rfl⟩ := next_cases hnext
  · by_cases hz : z = x
    · subst hz
      simpa using hP h (by simpa [atRest] using hrest) hstep
    · simpa [Ne.symm hz] using h
  · by_cases hw : w = x
    · subst hw
      simpa using hP h (by simpa [atRest, hchannel] using hrest) hstep
    · simpa [Ne.symm hw] using h
  · cases hrest

/-- The network, with what the provider published and the consumer passed on. -/
structure Stream (ι : Type) where
  net : Network ι
  published : List SharedMemoryHandle := []
  received : List (Nat × SharedMemoryHandle) := []

namespace Stream

def next (metadata : ι → Key → Option SharedMemoryMetadata) (x y : ι) (key : Key)
    (eventId : Nat) (s : Stream ι) (event : NetworkEvent ι) : Option (Stream ι) :=
  (s.net.next metadata event).map fun net =>
    { net := net
      published := s.published ++ s.net.publishedBy x key eventId event
      received := s.received ++ s.net.handedOver metadata y key eventId event }

/-- Handles are kept apart, and neither endpoint starts another handshake. -/
def steady (x y : ι) (key : Key) (s : Stream ι) (event : NetworkEvent ι) : Bool :=
  s.net.keepsHandlesApart event && s.net.atRest x key event && s.net.atRest y key event

/-- Updates are neither lost, doubled nor reordered: those on the channel at the start,
followed by those made since, are those passed on since, followed by those on the
channel. -/
theorem updates_passed_on_in_order {peers : ι → List ι} (hne : x ≠ y)
    (hreach : Reach (Network.next metadata) (fun net event => net.keepsHandlesApart event = true)
      (joined peers) net)
    (hprovides : (net.endpoint x).Provides key eventId y r)
    (hconsumes : (net.endpoint y).Consumes key x r)
    (hflow : ∀ update ∈ net.flow x y key eventId, update.1 = r) {s : Stream ι}
    (h : Reach (next metadata x y key eventId) (fun s event => s.steady x y key event = true)
      ⟨net, [], []⟩ s) :
    net.flow x y key eventId ++ s.published.map (Prod.mk r) =
      s.received ++ s.net.flow x y key eventId := by
  have hsound : net.Sound := hreach.invariant ⟨.joined peers, .joined peers, fun _ => .empty⟩
    fun _ _ _ hsound hok hnext => hsound.next hok hnext
  refine (h.invariant (I := fun s => s.net.Sound ∧ (s.net.endpoint x).Provides key eventId y r ∧
    (s.net.endpoint y).Consumes key x r ∧ net.flow x y key eventId ++ s.published.map (Prod.mk r) =
      s.received ++ s.net.flow x y key eventId) ⟨hsound, hprovides, hconsumes, by simp⟩ ?_).2.2.2
  rintro s event s' ⟨hsound, hprovides, hconsumes, heq⟩ hsteady hs'
  simp only [steady, Bool.and_eq_true] at hsteady
  obtain ⟨⟨hapart, hx⟩, hy⟩ := hsteady
  obtain ⟨net', hnext, rfl⟩ := Option.map_eq_some_iff.1 hs'
  refine ⟨hsound.next hapart hnext,
    endpoint_next (P := fun n => n.Provides key eventId y r) (·.step) hx hnext hprovides,
    endpoint_next (P := fun n => n.Consumes key x r) (·.step) hy hnext hconsumes, ?_⟩
  have hcurrent : ∀ update ∈ s.net.flow x y key eventId, update.1 = r := by
    intro update hupdate
    have hmem := List.mem_append_right s.received hupdate
    rw [← heq] at hmem
    rcases List.mem_append.1 hmem with hold | hnew
    · exact hflow update hold
    · obtain ⟨handle, -, rfl⟩ := List.mem_map.1 hnew
      rfl
  have hmoved := flow_next hne hsound hprovides hconsumes hcurrent hx hnext
  rw [List.map_append, ← List.append_assoc, heq, List.append_assoc, hmoved, List.append_assoc]

open Endpoint (someKey someMetadata) in
/-- Two updates, of which one has arrived. -/
theorem updates_passed_on_in_order_run :
    ∃ (net : Network Bool) (s : Stream Bool),
      Reach (next (fun _ _ => some someMetadata) true false (someKey 1) 0)
        (fun s event => s.steady true false (someKey 1) event = true) ⟨net, [], []⟩ s ∧
      s.published = [⟨0, 1⟩, ⟨1, 1⟩] ∧ s.received = [(1, ⟨0, 1⟩)] ∧
      net.flow true false (someKey 1) 0 ++ s.published.map (Prod.mk 1) =
        s.received ++ s.net.flow true false (someKey 1) 0 := by
  obtain ⟨net, hreach, hp⟩ := exists_reach_pair
    (fun net event => net.keepsHandlesApart event = true)
    [.act true (.enableServerConnector (someKey 1) ⟨0, 1⟩),
      .act false (.makeClientConnector (someKey 1) ⟨0, 1⟩), .deliver false true,
      .deliver true false, .deliver false true, .deliver true false, .act false (.finishReply true),
      .act false (.subscribeEvent (someKey 1) 0), .deliver false true]
    (fun net =>
      let provider := net.endpoint true
      let consumer := net.endpoint false
      (provider.records (someKey 1)).server = some (.application ⟨0, 1⟩) ∧
      (provider.records (someKey 1)).client = some .bridge ∧ provider.connector (someKey 1) = none ∧
      ((provider.binding.view (someKey 1)).ids false).map Ids.remoteHandle = [1] ∧
      false ∈ provider.binding.connections ∧ consumer.connector (someKey 1) ≠ none ∧
      1 ∈ ((consumer.binding.view (someKey 1)).ids true).map Ids.remoteHandle ∧
      (consumer.binding.view (someKey 1)).ids false = [] ∧
      net.flow true false (someKey 1) 0 = [] ∧
      (runFrom (next (fun _ _ => some someMetadata) true false (someKey 1) 0)
        (fun s event => s.steady true false (someKey 1) event = true) ⟨net, [], []⟩
        [.act true (.updateEvent (someKey 1) 0 0 1), .act true (.updateEvent (someKey 1) 0 1 1),
          .deliver true false]).any
        fun s => s.published = [⟨0, 1⟩, ⟨1, 1⟩] ∧ s.received = [(1, ⟨0, 1⟩)]) (by decide +kernel)
  simp only [decide_eq_true_eq, Option.any_eq_true] at hp
  obtain ⟨hserver, hclient, hnone, hmapped, hpeer, hsome, hmapped', honly, hflow, s, hs, hlists⟩ :=
    hp
  refine ⟨net, s, reach_of_runFrom hs, hlists.1, hlists.2, updates_passed_on_in_order (by decide)
    hreach ⟨⟨_, hserver, by decide⟩, hclient, hnone, hmapped, hpeer⟩ ⟨hsome, hmapped', ?_⟩
    (by simp [hflow]) (reach_of_runFrom hs)⟩
  simpa using honly

end Stream

end Network

end SomeipGateway
