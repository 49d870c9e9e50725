import SomeipGateway.Endpoint.Isolation
import SomeipGateway.Endpoint.KnownPeers

/-! # Who receives an event update

The recipients of an update are found through the mappings of its service, while
the peers that subscribed to its event are kept per event in the service state.
The update is only forwarded when the bridge-owned client connector has its own
subscription at the server.
-/

namespace SomeipGateway

variable {ι : Type} [DecidableEq ι]

namespace Binding

/-- The peer has a mapping for the service. -/
def IsMapped (b : Binding ι) (key : Key) (client : ι) : Prop :=
  ∃ ids ∈ b.idMapping.idsOf client, ids.key = key

/-- The peer has a mapping for the service, and the endpoint of the mapping is stored
as a subscriber of the event. -/
def IsSubscriber (b : Binding ι) (key : Key) (eventId : Nat) (client : ι) : Prop :=
  ∃ ids ∈ b.idMapping.idsOf client, ids.key = key ∧
    (⟨client, ids.localHandle⟩ : SubscriptionEndpoint ι) ∈ b.subscribers key eventId

instance (b : Binding ι) (key : Key) (eventId : Nat) (client : ι) :
    Decidable (b.IsSubscriber key eventId client) :=
  inferInstanceAs (Decidable (∃ ids ∈ b.idMapping.idsOf client, ids.key = key ∧
    (⟨client, ids.localHandle⟩ : SubscriptionEndpoint ι) ∈ b.subscribers key eventId))

theorem IsSubscriber.isMapped {b : Binding ι} {key : Key} {eventId : Nat} {client : ι}
    (h : b.IsSubscriber key eventId client) : b.IsMapped key client := by
  obtain ⟨ids, hids, hkey, -⟩ := h
  exact ⟨ids, hids, hkey⟩

theorem indexComplete_rule :
    MetadataRule (fun _ => True) fun m : ConnectionMetadata ι => m.IndexComplete where
  addMapping _ h := h.addMapping _
  removeIf h := h.removeIf _
  removeClient h := h.removeClient

variable {env : Env ι} {b : Binding ι} {key : Key} {eventId : Nat} {payload : Payload ι}

variable (env payload) in
/-- Where every mapped peer is connected, the updates go to the mapped peers. -/
theorem mem_eventUpdates_iff (hconnected : b.Connected) (hcomplete : b.idMapping.IndexComplete)
    (client : ι) :
    (∃ requiredId handle, env.send client (some key) (.eventUpdate requiredId eventId handle) ∈
      (b.eventUpdates env key eventId payload (b.idMapping.forEachClient key)).1) ↔
      b.IsMapped key client := by
  constructor
  · rintro ⟨requiredId, handle, hmem⟩
    obtain ⟨c, ids, hin, -, heq⟩ | heq := mem_eventUpdates hmem
    · cases heq
      obtain ⟨hids, hkey⟩ := ConnectionMetadata.mem_forEachClient hconnected.metadata.1 hin
      exact ⟨ids, hids, hkey⟩
    · cases heq
  · rintro ⟨ids, hids, rfl⟩
    obtain ⟨ids', hin⟩ :=
      ConnectionMetadata.exists_mem_forEachClient hconnected.metadata.1 hcomplete hids
    exact ⟨_, _, send_mem_eventUpdates hin (hconnected.names.mem_of_idsOf hids)⟩

/-- How many consumers the slot gets: the connected peers that the send succeeds for. -/
theorem eventUpdates_snd (clients : List (ι × Ids)) :
    (b.eventUpdates env key eventId payload clients).2 = clients.countP fun p =>
      p.1 ∈ b.connections && env.link p.1
        (.eventUpdate p.2.remoteHandle eventId ⟨payload.slotHandle, payload.size⟩) := by
  induction clients with
  | nil => rfl
  | cons head rest ih =>
      obtain ⟨client, ids⟩ := head
      simp only [eventUpdates, List.countP_cons, ← ih]
      by_cases hclient : client ∈ b.connections
      · simp only [hclient, if_true, decide_true, Bool.true_and]
        split <;> rfl
      · simp [hclient]

end Binding

namespace Endpoint

variable {env : Env ι} {n n' : Endpoint ι} {out : List (Effect ι)} {key : Key} {eventId : Nat}

/-- A message is received from a peer that is connected. -/
def isFromConnected (n : Endpoint ι) : Event ι → Bool
  | .receive client _ => client ∈ n.binding.connections
  | _ => true

theorem isFrom_of_isFromConnected {event : Event ι} (h : n.isFromConnected event = true) :
    event.isFrom fun client _ => client ∈ n.binding.connections := by
  cases event with
  | receive client msg =>
      have hmem : client ∈ n.binding.connections := by simpa [isFromConnected] using h
      exact hmem
  | makeClientConnector | destroyClientConnector | makeServerConnector | destroyServerConnector
  | enableServerConnector | disableServerConnector | subscribeEvent | unsubscribeEvent | updateEvent
  | dropPayload | addClient | removeClient | finishReply => trivial

theorem connected_of_isFromConnected
    (h : ReachableVia (fun n label => n.isFromConnected label.2 = true) n) :
    n.binding.Connected := by
  refine Reach.invariant (I := fun n => n.binding.Connected) .init ?_ h
  intro n label n' h0 hfrom hnext
  obtain ⟨⟨m, out⟩, hstep, rfl⟩ := Option.map_eq_some_iff.1 hnext
  exact connected_step h0 (isFrom_of_isFromConnected hfrom) hstep

theorem indexComplete_of_reachable (h : Reachable n) : n.binding.idMapping.IndexComplete := by
  have hsections : SectionRule (fun _ _ => True) fun b : Binding ι => b.idMapping.IndexComplete :=
    Binding.indexComplete_rule.sections.mono fun _ msg _ =>
      MetadataRule.maps_of_forall (fun _ => trivial) msg
  have hinvariant : SectionInvariant (fun _ _ => True)
      fun b : Binding ι => b.idMapping.IndexComplete :=
    ⟨hsections, fun h => h, fun h => h.removeClient⟩
  exact hinvariant.reachable .empty (h.mono fun _ label _ => label.2.isFrom_true)

/-- The bridge-owned client connector is subscribed to the event at the server. -/
def Forwards (n : Endpoint ι) (key : Key) (eventId : Nat) : Prop :=
  (n.records key).client = some .bridge ∧ eventId ∈ (n.records key).subscribed

/-- An update of the local service is sent on when it reaches the bridge-owned client
connector; otherwise no message is sent and no slot waits. -/
theorem step_updateEvent {counts : ServiceCounts} {slotHandle size : Nat}
    (hserver : (n.records key).server = some (.application counts))
    (hevent : eventId < counts.numEvents)
    (h : n.step env (.updateEvent key eventId slotHandle size) = some (n', out)) :
    n.Forwards key eventId ∧
      n.binding.sendEventUpdate env key eventId ⟨slotHandle, size, none⟩ =
        some (n'.binding, out) ∨
    ¬ n.Forwards key eventId ∧ n'.binding = n.binding ∧
      ∀ e ∈ out, e = .releasePayload ⟨slotHandle, size, none⟩ := by
  obtain ⟨m, effects, hact, hperform⟩ := step_eq_some.1 h
  simp only [act, hserver, if_pos hevent, socomUpdate] at hact
  have hrelease : ∀ m : Endpoint ι,
      m.performOne env (.releasePayload ⟨slotHandle, size, none⟩) = some (m, []) := fun _ => rfl
  by_cases hsubscribed : eventId ∈ (n.records key).subscribed
  · rw [if_pos hsubscribed] at hact
    cases hclient : (n.records key).client with
    | none =>
        simp only [hclient] at hact
        cases hact
        rw [perform_of_performOne 3 (by simpa using hrelease n)] at hperform
        cases hperform
        exact .inr ⟨fun hforwards => by simp [Forwards, hclient] at hforwards, rfl, by simp⟩
    | some client =>
        cases client with
        | application bridged =>
            simp only [hclient] at hact
            cases hact
            rw [perform_of_performOne 3 (by simp)] at hperform
            cases hperform
            exact .inr ⟨fun hforwards => by simp [Forwards, hclient] at hforwards, rfl, by simp⟩
        | bridge =>
            simp only [hclient] at hact
            obtain ⟨b, hb, rfl⟩ := setBinding_eq_some.1 hact
            obtain ⟨allocations, more, hmore, rfl, rfl⟩ := Binding.sendEventUpdate_eq_some.1 hb
            rw [perform_of_performOne 3 ?_] at hperform
            · cases hperform
              exact .inl ⟨⟨hclient, hsubscribed⟩, hb⟩
            · intro e he
              rcases List.mem_append.1 he with he | he
              · obtain ⟨_, _, -, -, rfl⟩ | rfl := Binding.mem_eventUpdates he <;> rfl
              · rw [Allocations.eq_of_mem_insertAllocation hmore he]
                exact hrelease _
  · rw [if_neg hsubscribed] at hact
    cases hact
    rw [perform_of_performOne 3 (by simpa using hrelease n)] at hperform
    cases hperform
    exact .inr ⟨fun hforwards => hsubscribed hforwards.2, rfl, by simp⟩

/-- The update is sent to the subscribers of the event and to nobody else, and its slot
waits for those of them that it was sent to. -/
structure ReachesSubscribers (env : Env ι) (n n' : Endpoint ι) (out : List (Effect ι))
    (key : Key) (eventId slotHandle size : Nat) : Prop where
  sent : ∀ client,
    (∃ requiredId handle, env.send client (some key) (.eventUpdate requiredId eventId handle) ∈ out) ↔
      n.binding.IsSubscriber key eventId client
  waits : n'.binding.allocations.pending key slotHandle =
    n.binding.allocations.pending key slotHandle +
      (n.binding.idMapping.forEachClient key).countP fun p =>
        n.binding.IsSubscriber key eventId p.1 &&
          env.link p.1 (.eventUpdate p.2.remoteHandle eventId ⟨slotHandle, size⟩)

theorem reachesSubscribers_of_forwards (hconnected : n.binding.Connected)
    (hcomplete : n.binding.idMapping.IndexComplete) {slotHandle size : Nat}
    (hsend : n.binding.sendEventUpdate env key eventId ⟨slotHandle, size, none⟩ =
      some (n'.binding, out)) :
    ReachesSubscribers env n n' out key eventId slotHandle size ↔
      ∀ client, n.binding.IsMapped key client → n.binding.IsSubscriber key eventId client := by
  obtain ⟨allocations, more, hmore, hb, rfl⟩ := Binding.sendEventUpdate_eq_some.1 hsend
  have hsent : ∀ client, (∃ requiredId handle,
      env.send client (some key) (.eventUpdate requiredId eventId handle) ∈
        (n.binding.eventUpdates env key eventId ⟨slotHandle, size, none⟩
          (n.binding.idMapping.forEachClient key)).1 ++ more) ↔ n.binding.IsMapped key client := by
    intro client
    rw [← Binding.mem_eventUpdates_iff env ⟨slotHandle, size, none⟩ hconnected hcomplete client]
    refine exists_congr fun requiredId => exists_congr fun handle => ?_
    rw [List.mem_append, or_iff_left]
    intro he
    cases Allocations.eq_of_mem_insertAllocation hmore he
  refine ⟨fun h client hmapped => (h.sent client).1 ((hsent client).2 hmapped), fun hall => ?_⟩
  refine ⟨fun client => (hsent client).trans ⟨hall client, fun h => h.isMapped⟩, ?_⟩
  rw [hb, Allocations.pending_insertAllocation hmore, if_pos ⟨rfl, rfl⟩,
    Binding.eventUpdates_snd]
  congr 1
  refine List.countP_congr fun p hp => ?_
  obtain ⟨hids, hkey⟩ := ConnectionMetadata.mem_forEachClient hconnected.metadata.1 hp
  have hclient := hconnected.names.mem_of_idsOf hids
  have hsubscriber := hall p.1 ⟨p.2, hids, hkey⟩
  simp [hclient, hsubscriber]

/-- An update of the local service goes to the subscribers of its event exactly when
every peer with a mapping for the service is one, or the update does not reach the
bridge-owned client connector and no such peer is one. -/
theorem update_reaches_subscribers_iff
    (hreach : ReachableVia (fun n label => n.isFromConnected label.2 = true) n)
    {counts : ServiceCounts} {slotHandle size : Nat}
    (hserver : (n.records key).server = some (.application counts))
    (hevent : eventId < counts.numEvents)
    (hstep : n.step env (.updateEvent key eventId slotHandle size) = some (n', out)) :
    ReachesSubscribers env n n' out key eventId slotHandle size ↔
      ∀ client, n.binding.IsMapped key client →
        (n.binding.IsSubscriber key eventId client ↔ n.Forwards key eventId) := by
  have hconnected := connected_of_isFromConnected hreach
  have hcomplete := indexComplete_of_reachable hreach.reachable
  obtain ⟨hforwards, hsend⟩ | ⟨hnot, hb, hout⟩ := step_updateEvent hserver hevent hstep
  · rw [reachesSubscribers_of_forwards hconnected hcomplete hsend]
    simp only [hforwards, iff_true]
  · simp only [hnot, iff_false]
    have hsent : ∀ client, ¬ ∃ requiredId handle,
        env.send client (some key) (.eventUpdate requiredId eventId handle) ∈ out := by
      rintro client ⟨requiredId, handle, hmem⟩
      cases hout _ hmem
    constructor
    · exact fun h client _ hsubscriber => hsent client ((h.sent client).2 hsubscriber)
    · intro hnone
      have hnobody : ∀ client, ¬ n.binding.IsSubscriber key eventId client :=
        fun client h => hnone client h.isMapped h
      refine ⟨fun client => iff_of_false (hsent client) (hnobody client), ?_⟩
      rw [hb, List.countP_eq_zero.2, Nat.add_zero]
      simp [hnobody]

/-- Two peers are connected to a service, and the first one subscribes to its event. -/
def oneOfTwoSubscribed : List (Event Nat) :=
  [.addClient 1, .addClient 2, .enableServerConnector (someKey 1) ⟨0, 1⟩,
    .receive 1 (.requestService (someKey 1) true), .receive 2 (.requestService (someKey 1) true),
    .receive 1 (.connectService (someKey 1) 1 someMetadata true),
    .receive 2 (.connectService (someKey 1) 1 someMetadata true),
    .receive 1 (.subscribeEvent 1 0 true)]

/-- The update is sent to the second peer too, and the slot waits for both. -/
theorem update_sent_to_unsubscribed :
    ∃ (n n' : Endpoint Nat) (out : List (Effect Nat)),
      ReachableVia (fun n label => n.isFromConnected label.2 = true) n ∧
      (n.records (someKey 1)).server = some (.application ⟨0, 1⟩) ∧
      n.step someEnv (.updateEvent (someKey 1) 0 0 8) = some (n', out) ∧
      ¬ n.binding.IsSubscriber (someKey 1) 0 2 ∧
      n'.binding.allocations.pending (someKey 1) 0 = 2 ∧
      ¬ ReachesSubscribers someEnv n n' out (someKey 1) 0 0 8 := by
  obtain ⟨n, hreach, hp⟩ := exists_reachable_of_runEvents
    (fun n label => n.isFromConnected label.2 = true) oneOfTwoSubscribed
    (fun n => decide ((n.records (someKey 1)).server = some (.application ⟨0, 1⟩)) &&
      (decide (¬ n.binding.IsSubscriber (someKey 1) 0 2) &&
        (n.step someEnv (.updateEvent (someKey 1) 0 0 8)).any
          fun (r : Endpoint Nat × List (Effect Nat)) =>
            decide (r.1.binding.allocations.pending (someKey 1) 0 = 2) &&
              decide (someEnv.send 2 (some (someKey 1)) (.eventUpdate 1 0 ⟨0, 8⟩) ∈ r.2)))
    (by decide)
  simp only [Bool.and_eq_true, decide_eq_true_eq, Option.any_eq_true] at hp
  obtain ⟨hserver, hnot, ⟨n', out⟩, hstep, hpending, hsent⟩ := hp
  exact ⟨n, n', out, hreach, hserver, hstep, hnot, hpending, fun h =>
    hnot ((h.sent 2).1 ⟨1, ⟨0, 8⟩, hsent⟩)⟩

/-- Where the only peer is subscribed, the update is sent to it. -/
theorem update_reaches_only_subscriber :
    ∃ (n n' : Endpoint Nat) (out : List (Effect Nat)),
      n.Forwards (someKey 1) 0 ∧ n.binding.IsSubscriber (someKey 1) 0 1 ∧
      n.step someEnv (.updateEvent (someKey 1) 0 0 8) = some (n', out) ∧
      (ReachesSubscribers someEnv n n' out (someKey 1) 0 0 8 ↔
        ∀ client, n.binding.IsMapped (someKey 1) client →
          (n.binding.IsSubscriber (someKey 1) 0 client ↔ n.Forwards (someKey 1) 0)) := by
  obtain ⟨n, hreach, hp⟩ := exists_reachable_of_runEvents
    (fun n label => n.isFromConnected label.2 = true)
    [.addClient 1, .enableServerConnector (someKey 1) ⟨0, 1⟩,
      .receive 1 (.requestService (someKey 1) true),
      .receive 1 (.connectService (someKey 1) 1 someMetadata true),
      .receive 1 (.subscribeEvent 1 0 true)]
    (fun n => decide ((n.records (someKey 1)).server = some (.application ⟨0, 1⟩)) &&
      (decide ((n.records (someKey 1)).client = some .bridge) &&
        (decide (0 ∈ (n.records (someKey 1)).subscribed) &&
          (decide (n.binding.IsSubscriber (someKey 1) 0 1) &&
            (n.step someEnv (.updateEvent (someKey 1) 0 0 8)).isSome)))) (by decide)
  simp only [Bool.and_eq_true, decide_eq_true_eq, Option.isSome_iff_exists] at hp
  obtain ⟨hserver, hclient, hsubscribed, hsubscriber, ⟨n', out⟩, hstep⟩ := hp
  exact ⟨n, n', out, ⟨hclient, hsubscribed⟩, hsubscriber, hstep,
    update_reaches_subscribers_iff hreach hserver (by decide) hstep⟩

end Endpoint

end SomeipGateway
