import SomeipGateway.Binding.SlotAccounting
import SomeipGateway.Endpoint.Calls
import SomeipGateway.Endpoint.Sections

/-! # Payload objects at an endpoint

A payload object that views a slot of a peer is held by an application or by the
allocation table, or it is on its way in a call; it ends with a Payload_consumed
to the peer. The count of consumers in the allocation table grows by one for every
Event_update that is sent. Both are balances of one step, the first at the
consumer and the second at the provider.
-/

namespace SomeipGateway

variable {ι : Type}

/-- The message tells of the slot. -/
def Slot.isUpdate (slot : Slot ι) (about : Option Key) : Message → Bool
  | .eventUpdate _ _ handle => about = some slot.key && handle.slotIndex = slot.index
  | _ => false

/-- The message acknowledges the slot. -/
def Slot.isAck (slot : Slot ι) (about : Option Key) : Message → Bool
  | .payloadConsumed _ handle => about = some slot.key && handle.slotIndex = slot.index
  | _ => false

namespace Effect

/-- How deep the payload calls nest below the call. -/
def rank : Effect ι → Nat
  | .updateEvent _ _ _ _ => 2
  | .releasePayload _ => 1
  | _ => 0

def updates (slot : Slot ι) : Effect ι → Nat
  | .send _ about msg true => if slot.isUpdate about msg then 1 else 0
  | _ => 0

/-- If the call is an Event_update, its target is in the list. -/
def reaches (clients : List ι) : Effect ι → Prop
  | .send client _ (.eventUpdate _ _ _) _ => client ∈ clients
  | _ => True

theorem reaches_of_control {clients : List ι} {e : Effect ι} (h : e.isData = false) :
    e.reaches clients := by
  cases e with
  | send client about msg ok => cases msg <;> trivial
  | _ => trivial

variable [DecidableEq ι]

def acknowledges (slot : Slot ι) : Effect ι → Nat
  | .send client about msg true =>
      if client = slot.provider ∧ slot.isAck about msg then 1 else 0
  | _ => 0

variable {e : Effect ι} (slot : Slot ι)

omit [DecidableEq ι] in
theorem rank_eq_zero (h : e.isData = false) : e.rank = 0 := by
  cases e <;> first | rfl | cases h

omit [DecidableEq ι] in
theorem rank_of_isInert (h : e.isInert = true) : e.rank = 0 := by
  cases e <;> first | rfl | cases h

theorem carries_eq_zero (h : e.rank = 0) : e.carries slot = 0 := by
  cases e <;> first | rfl | cases h

theorem acknowledges_eq_zero (h : e.isData = false) : e.acknowledges slot = 0 := by
  cases e with
  | send client about msg ok =>
      cases ok with
      | false => rfl
      | true => cases msg <;> first | cases h; done | simp [acknowledges, Slot.isAck]
  | subscribeEvent | unsubscribeEvent | destroyServerConnector | destroyClientConnector
  | requestSent | assertFailed => rfl
  | updateEvent | releasePayload => cases h

omit [DecidableEq ι] in
theorem updates_eq_zero (h : e.isData = false) : e.updates slot = 0 := by
  cases e with
  | send client about msg ok =>
      cases ok with
      | false => rfl
      | true => cases msg <;> first | cases h; done | simp [updates, Slot.isUpdate]
  | subscribeEvent | unsubscribeEvent | destroyServerConnector | destroyClientConnector
  | requestSent | assertFailed => rfl
  | updateEvent | releasePayload => cases h

end Effect

namespace Endpoint

variable [DecidableEq ι] {env : Env ι} {n n' : Endpoint ι} {effects out : List (Effect ι)}

/-! ## Balances of a list of calls -/

/-- The rule for balances: `q` is what the endpoint holds, `w` what a call carries
in, `c` what a call takes out for good and `d` what it brings in. -/
theorem perform_balance {I : Endpoint ι → Prop} {q : Endpoint ι → Nat} {w c d : Effect ι → Nat}
    (hzero : ∀ e : Effect ι, e.rank = 0 → w e = 0)
    (hone : ∀ n e n' caused, I n → performOne env n e = some (n', caused) →
      I n' ∧ (∀ e' ∈ caused, e'.rank ≤ e.rank - 1) ∧
      q n + w e + (caused.map d).sum = q n' + (caused.map w).sum + (caused.map c).sum) :
    ∀ (depth : Nat) {n n' : Endpoint ι} {effects out : List (Effect ι)}, I n →
      (∀ e ∈ effects, e.rank ≤ depth) → perform env depth n effects = some (n', out) →
      I n' ∧ q n + (effects.map w).sum + (effects.map c).sum + (out.map d).sum =
        q n' + (out.map c).sum + (effects.map d).sum := by
  intro depth
  induction depth with
  | zero =>
      intro n n' effects out hI hrank h
      cases h
      have hw : (effects.map w).sum = 0 :=
        sum_map_eq_zero fun e he => hzero e (Nat.le_zero.1 (hrank e he))
      exact ⟨hI, by omega⟩
  | succ depth ihdepth =>
      intro n n' effects
      induction effects generalizing n with
      | nil =>
          intro out hI _ h
          cases h
          exact ⟨hI, rfl⟩
      | cons e rest ih =>
          intro out hI hrank h
          obtain ⟨u, caused, v, more, last, hfirst, hmore, hlast, rfl⟩ := perform_cons_eq_some.1 h
          obtain ⟨hIu, hcaused, hu⟩ := hone _ _ _ _ hI hfirst
          have he := hrank e List.mem_cons_self
          obtain ⟨hIv, hv⟩ := ihdepth hIu (fun e' he' => (hcaused e' he').trans (by omega)) hmore
          obtain ⟨hIw, hw⟩ := ih hIv (fun e' he' => hrank e' (List.mem_cons_of_mem _ he')) hlast
          refine ⟨hIw, ?_⟩
          simp only [List.cons_append, List.map_cons, List.sum_cons, List.map_append,
            List.sum_append]
          omega

/-! ## Calls without a payload -/

open Binding in
/-- Control changes neither the connections nor the allocation table. -/
theorem slots_control (connections : List ι) (allocations : Allocations ι) :
    ControlRule (fun _ _ => True) (fun b : Binding ι =>
      b.connections = connections ∧ b.allocations = allocations) where
  sendRequestService := by
    intro env b b' key counts inUse effects h hb
    cases hclient : b.serviceStates.hasClientConnector key with
    | true =>
        rw [sendRequestService_skipped hclient] at hb
        cases hb
        exact h
    | false =>
        cases inUse with
        | true =>
            obtain ⟨more, hmore, -⟩ := (sendRequestService_true hclient).1 hb
            rw [(connects_of_maybeSendConnectServiceLocked hmore).frame]
            exact h
        | false =>
            rw [sendRequestService_false hclient] at hb
            cases hb
            exact h
  serviceStateChange := by
    intro env b b' key isAvailable counts effects h hb
    rw [(serviceStateChange_eq_some.1 hb).2.1]
    exact h
  connectReply := by
    intro env b b' status effects h hb
    rw [(resumed_of_handleConnectReplyMessage hb).frame]
    exact h
  requestService := by
    intro env b b' client key inUse result effects _ h hb
    cases inUse with
    | false =>
        cases hb
        exact h
    | true =>
        obtain ⟨-, rfl, -⟩ | ⟨-, -, rfl, -⟩ | ⟨-, -, hcreate⟩ := handleRequestServiceMessage_true hb
        · exact h
        · exact h
        · obtain ⟨-, hallocations, hconnections, -⟩ := createClientConnector_frame hcreate
          exact ⟨hconnections.trans h.1, hallocations.trans h.2⟩
  offerService := by
    intro env b b' client key offered effects _ h hb
    cases offered with
    | false =>
        cases hb
        exact h
    | true =>
        rw [handleOfferServiceMessage_true] at hb
        rw [(connects_of_maybeSendConnectServiceLocked hb).frame]
        exact h
  connectService := by
    intro env b b' client key requiredId metadata inUse effects _ h hb
    cases inUse with
    | false =>
        cases hb
        simpa [disconnectService, clearPendingConnectsForKeyLocked, clearPendingConnects] using h
    | true =>
        obtain ⟨_, _, -, -, rfl, -⟩ := handleConnectServiceMessage_true hb
        exact h
  connectServiceReply := by
    intro env b b' client requiredId providedId metadata counts effects reply _ h hb
    obtain ⟨-, rfl, -⟩ | ⟨_, -, ⟨-, rfl, -⟩ | ⟨_, _, -, -, rfl, -⟩⟩ :=
      handleConnectServiceReplyMessage_cases hb <;> exact h
  subscribeEvent := by
    intro b client providedId eventId subscribe _ h
    rw [handleSubscribeEventMessage_frame]
    exact h
  eventUpdate := by
    intro b b' client requiredId eventId handle effects _ h hb
    rw [handleEventUpdateMessage_frame hb]
    exact h
  addServerConnector := fun h => h

/-- What only the connections and the allocation table decide, control keeps. -/
theorem control_of_slots {J : Binding ι → Prop}
    (hJ : ∀ {b b' : Binding ι}, J b →
      b'.connections = b.connections ∧ b'.allocations = b.allocations → J b') :
    ControlRule (fun _ _ => True) J where
  sendRequestService h hb := hJ h ((slots_control _ _).sendRequestService ⟨rfl, rfl⟩ hb)
  serviceStateChange h hb := hJ h ((slots_control _ _).serviceStateChange ⟨rfl, rfl⟩ hb)
  connectReply h hb := hJ h ((slots_control _ _).connectReply ⟨rfl, rfl⟩ hb)
  requestService hok h hb := hJ h ((slots_control _ _).requestService hok ⟨rfl, rfl⟩ hb)
  offerService hok h hb := hJ h ((slots_control _ _).offerService hok ⟨rfl, rfl⟩ hb)
  connectService hok h hb := hJ h ((slots_control _ _).connectService hok ⟨rfl, rfl⟩ hb)
  connectServiceReply hok h hb :=
    hJ h ((slots_control _ _).connectServiceReply hok ⟨rfl, rfl⟩ hb)
  subscribeEvent hok h := hJ h ((slots_control _ _).subscribeEvent hok ⟨rfl, rfl⟩)
  eventUpdate hok h hb := hJ h ((slots_control _ _).eventUpdate hok ⟨rfl, rfl⟩ hb)
  addServerConnector h := hJ h ⟨rfl, rfl⟩

theorem connections_rule (connections : List ι) :
    SectionRule (fun _ _ => True) (fun b : Binding ι => b.connections = connections) where
  toControlRule := control_of_slots fun h hb => hb.1.trans h
  sendEventUpdate h hb := by
    rw [Binding.sendEventUpdate_frame hb]
    exact h
  payloadConsumed _ h := by
    rw [Binding.handlePayloadConsumedMessage_frame]
    exact h

/-- In every binding a slot that nobody waits for is free. -/
theorem tidy_sections :
    SectionInvariant (fun _ _ => True) (fun b : Binding ι => b.allocations.Tidy) where
  toControlRule := control_of_slots fun h hb => hb.2 ▸ h
  sendEventUpdate h hb := by
    obtain ⟨allocations, more, hmore, rfl, -⟩ := Binding.sendEventUpdate_eq_some.1 hb
    exact h.insertAllocation hmore
  payloadConsumed _ h := by
    unfold Binding.handlePayloadConsumedMessage
    split
    · exact h
    · exact h.payloadConsumed _ _
  addClient h := h
  removeClient h := h

theorem connections_act {event : Event ι} (hevent : event.keepsConnections = true)
    (h : n.act env event = some (n', effects)) :
    n'.binding.connections = n.binding.connections := by
  have hfrom : event.isFrom fun _ _ => True := by cases event <;> trivial
  exact (connections_rule n.binding.connections).act hevent hfrom rfl h

theorem connections_perform {depth : Nat} (h : perform env depth n effects = some (n', out)) :
    n'.binding.connections = n.binding.connections :=
  (connections_rule n.binding.connections).perform rfl h

theorem connections_step {event : Event ι} (hevent : event.keepsConnections = true)
    (h : n.step env event = some (n', out)) : n'.binding.connections = n.binding.connections := by
  obtain ⟨m, effects, hact, hperform⟩ := step_eq_some.1 h
  exact (connections_perform hperform).trans (connections_act hevent hact)

theorem payloads_notifyClient {key : Key} {isAvailable : Bool} {counts : ServiceCounts}
    (h : n.notifyClient env key isAvailable counts = some (n', effects)) :
    n'.payloads = n.payloads := by
  obtain ⟨-, rfl, -⟩ | ⟨-, b, -, rfl⟩ := notifyClient_cases h <;> rfl

theorem payloads_disableServer {key : Key} (h : n.disableServer env key = some (n', effects)) :
    n'.payloads = n.payloads := by
  obtain ⟨-, rfl, -⟩ | ⟨server, -, hnotify⟩ := disableServer_cases h
  · rfl
  · exact (payloads_notifyClient hnotify).trans rfl

theorem payloads_destroyClient {key : Key} {bridged : Bool}
    (h : n.destroyClient env key bridged = some (n', effects)) : n'.payloads = n.payloads := by
  obtain ⟨b, caused, rfl, -⟩ := destroyClient_cases h
  rfl

/-- A call without a payload moves no payload and causes none to move. -/
theorem performOne_control {e : Effect ι} (he : e.isData = false)
    (h : n.performOne env e = some (n', effects)) :
    n'.payloads = n.payloads ∧ n'.binding.connections = n.binding.connections ∧
      n'.binding.allocations = n.binding.allocations ∧ ∀ e' ∈ effects, e'.isData = false := by
  obtain ⟨hconnections, hallocations⟩ :=
    (slots_control n.binding.connections n.binding.allocations).performOne he ⟨rfl, rfl⟩ h
  refine ⟨?_, hconnections, hallocations, fun e' he' =>
    Effect.isData_of_isControl (isControl_performOne he h e' he')⟩
  cases Performs.of_performOne h with
  | inert => rfl
  | subscribe k eventId => exact (sameButSubscriptions_socomSubscribe env n k eventId).payloads
  | unsubscribe k eventId => exact (sameButSubscriptions_socomUnsubscribe env n k eventId).payloads
  | destroyServer hdisable => exact payloads_disableServer hdisable
  | destroyClient hdestroy => exact payloads_destroyClient hdestroy
  | reject | update | forget | acknowledge => cases he

theorem payloads_onReceiveMessage {client : ι} {msg : Message}
    (h : n.onReceiveMessage env client msg = some (n', effects)) : n'.payloads = n.payloads := by
  cases Handles.of_onReceiveMessage h with
  | connect | connectReply | offer | connectService | connectServiceReply | subscribe
  | eventUpdate | payloadConsumed => rfl
  | request hreceive => exact (receiveRequest_binding hreceive).2.2

/-- The payloads leave and come by the data path only. -/
theorem payloads_act {event : Event ι} (hslots : event.keepsSlots = true)
    (hdrop : ∀ index, event ≠ .dropPayload index)
    (h : n.act env event = some (n', effects)) : n'.payloads = n.payloads := by
  cases Acts.of_act h with
  | idle | register | request => rfl
  | destroy _ hdestroy => exact payloads_destroyClient hdestroy
  | enable _ hnotify => exact (payloads_notifyClient hnotify).trans rfl
  | disable _ hdisable => exact payloads_disableServer hdisable
  | subscribe => exact (sameButSubscriptions_socomSubscribe env n _ _).payloads
  | unsubscribe => exact (sameButSubscriptions_socomUnsubscribe env n _ _).payloads
  | drop => exact absurd rfl (hdrop _)
  | update | addClient | removeClient => cases hslots
  | receive _ hreceive => exact payloads_onReceiveMessage hreceive
  | finish _ hfinish =>
      obtain ⟨-, rfl, -⟩ | ⟨-, m, offers, hm, rfl, -⟩ := finishReply_cases hfinish
      · rfl
      · exact (payloads_notifyClient hm).trans rfl

/-! ## Views of a slot at a consumer -/

/-- The payload objects at the endpoint that view the slot. -/
def views (slot : Slot ι) (n : Endpoint ι) : Nat :=
  (n.payloads.map (Payload.views slot)).sum + n.binding.allocations.views slot

variable {slot : Slot ι}

theorem views_congr (hpayloads : n'.payloads = n.payloads)
    (hallocations : n'.binding.allocations = n.binding.allocations) :
    n'.views slot = n.views slot := by
  rw [views, views, hpayloads, hallocations]

theorem sum_carries_eq_zero (h : ∀ e ∈ effects, e.isData = false) :
    (effects.map (Effect.carries slot)).sum = 0 :=
  sum_map_eq_zero fun e he => Effect.carries_eq_zero slot (Effect.rank_eq_zero (h e he))

theorem sum_acknowledges_eq_zero (h : ∀ e ∈ effects, e.isData = false) :
    (effects.map (Effect.acknowledges slot)).sum = 0 :=
  sum_map_eq_zero fun e he => Effect.acknowledges_eq_zero slot (h e he)

theorem acknowledges_sendEventUpdate {b b' : Binding ι} {key : Key} {eventId : Nat}
    {payload : Payload ι} (h : b.sendEventUpdate env key eventId payload = some (b', effects)) :
    (effects.map (Effect.acknowledges slot)).sum = 0 := by
  obtain ⟨allocations, more, hmore, -, rfl⟩ := Binding.sendEventUpdate_eq_some.1 h
  refine sum_map_eq_zero fun e he => ?_
  rcases List.mem_append.1 he with he | he
  · obtain ⟨client, ids, -, -, rfl⟩ | rfl := Binding.mem_eventUpdates he
    · simp only [Env.send]
      cases env.link client _ <;> simp [Effect.acknowledges, Slot.isAck]
    · rfl
  · obtain ⟨_, rfl⟩ := Allocations.exists_of_mem_insertAllocation hmore he
    rfl

theorem views_sendEventUpdate (slot : Slot ι) {b b' : Binding ι} {key : Key} {eventId : Nat}
    {payload : Payload ι} (h : b.sendEventUpdate env key eventId payload = some (b', effects)) :
    b.allocations.views slot + payload.views slot =
      b'.allocations.views slot + (effects.map (Effect.carries slot)).sum := by
  obtain ⟨allocations, more, hmore, rfl, rfl⟩ := Binding.sendEventUpdate_eq_some.1 h
  have hupdates : ((b.eventUpdates env key eventId payload
      (b.idMapping.forEachClient key)).1.map (Effect.carries slot)).sum = 0 := by
    refine sum_map_eq_zero fun e he => ?_
    obtain ⟨client, ids, -, -, rfl⟩ | rfl := Binding.mem_eventUpdates he <;> rfl
  rw [List.map_append, List.sum_append, hupdates, Nat.zero_add]
  exact Allocations.views_insertAllocation hmore

theorem views_socomUpdate {key : Key} {eventId : Nat} {payload : Payload ι}
    (h : n.socomUpdate env key eventId payload = some (n', effects)) :
    n.views slot + payload.views slot =
      n'.views slot + (effects.map (Effect.carries slot)).sum +
        (effects.map (Effect.acknowledges slot)).sum := by
  obtain ⟨rfl, rfl⟩ | ⟨-, rfl, rfl⟩ | ⟨-, b, hb, rfl⟩ := socomUpdate_cases h
  · simp [Effect.carries, Effect.acknowledges]
  · simp only [views, List.map_append, List.map_cons, List.map_nil, List.sum_append, List.sum_cons,
      List.sum_nil]
    omega
  · have hviews := views_sendEventUpdate slot hb
    rw [acknowledges_sendEventUpdate hb]
    simp only [views]
    omega

/-- A view that ends while its provider is connected is acknowledged. -/
theorem acknowledges_releasePayload (hlink : ∀ x msg, env.link x msg = true)
    (hconnected : slot.provider ∈ n.binding.connections) {payload : Payload ι}
    (h : n.performOne env (.releasePayload payload) = some (n', effects)) :
    n' = n ∧ payload.views slot = (effects.map (Effect.acknowledges slot)).sum := by
  cases Performs.of_performOne h with
  | inert he => cases he
  | forget horigin =>
      refine ⟨rfl, ?_⟩
      cases hpayload : payload.origin with
      | none => simp [Payload.views, hpayload]
      | some origin =>
          have hother : origin.client ≠ slot.provider := by
            intro heq
            exact horigin origin hpayload (heq ▸ hconnected)
          simp [Payload.views, hpayload, RemotePayload.isOf, hother]
  | acknowledge horigin _ =>
      refine ⟨rfl, ?_⟩
      simp only [Payload.views, horigin, Option.any_some, RemotePayload.isOf, Env.send, hlink,
        List.map_cons, List.map_nil, List.sum_cons, List.sum_nil, Effect.acknowledges, Slot.isAck,
        Bool.and_eq_true, decide_eq_true_eq, Option.some.injEq, and_assoc, Nat.add_zero]

theorem rank_sendEventUpdate {b b' : Binding ι} {key : Key} {eventId : Nat} {payload : Payload ι}
    (h : b.sendEventUpdate env key eventId payload = some (b', effects)) :
    ∀ e ∈ effects, e.rank ≤ 1 := by
  obtain ⟨allocations, more, hmore, -, rfl⟩ := Binding.sendEventUpdate_eq_some.1 h
  intro e he
  rcases List.mem_append.1 he with he | he
  · obtain ⟨client, ids, -, -, rfl⟩ | rfl := Binding.mem_eventUpdates he
    · exact Nat.zero_le 1
    · exact Nat.zero_le 1
  · obtain ⟨_, rfl⟩ := Allocations.exists_of_mem_insertAllocation hmore he
    exact le_rfl

theorem rank_socomUpdate {key : Key} {eventId : Nat} {payload : Payload ι}
    (h : n.socomUpdate env key eventId payload = some (n', effects)) :
    ∀ e ∈ effects, e.rank ≤ 1 := by
  obtain ⟨-, rfl⟩ | ⟨-, -, rfl⟩ | ⟨-, b, hb, -⟩ := socomUpdate_cases h
  · simp [Effect.rank]
  · simp
  · exact rank_sendEventUpdate hb

theorem rank_performOne {e : Effect ι} (h : n.performOne env e = some (n', effects)) :
    ∀ e' ∈ effects, e'.rank ≤ e.rank - 1 := by
  cases hdata : e.isData with
  | false =>
      intro e' he'
      have hzero := Effect.rank_eq_zero ((performOne_control hdata h).2.2.2 e' he')
      omega
  | true =>
      cases Performs.of_performOne h with
      | inert | forget => simp
      | reject => simp [Effect.rank]
      | update _ hupdate => exact rank_socomUpdate hupdate
      | acknowledge => simp [Env.send, Effect.rank]
      | subscribe | unsubscribe | destroyServer | destroyClient => cases hdata

theorem views_releasePayload (hlink : ∀ x msg, env.link x msg = true)
    (hconnected : slot.provider ∈ n.binding.connections) {payload : Payload ι}
    (h : n.performOne env (.releasePayload payload) = some (n', effects)) :
    n.views slot + payload.views slot =
      n'.views slot + (effects.map (Effect.carries slot)).sum +
        (effects.map (Effect.acknowledges slot)).sum := by
  obtain ⟨rfl, hviews⟩ := acknowledges_releasePayload hlink hconnected h
  have hnone : (effects.map (Effect.carries slot)).sum = 0 :=
    sum_map_eq_zero fun e' he' =>
      Effect.carries_eq_zero slot (Nat.le_zero.1 (rank_performOne h e' he'))
  rw [hnone, ← hviews]
  rfl

/-- A call passes the views it carries on, keeps them or acknowledges them. -/
theorem views_performOne (hlink : ∀ x msg, env.link x msg = true)
    (hconnected : slot.provider ∈ n.binding.connections) {e : Effect ι}
    (h : n.performOne env e = some (n', effects)) :
    n.views slot + e.carries slot = n'.views slot + (effects.map (Effect.carries slot)).sum +
      (effects.map (Effect.acknowledges slot)).sum := by
  cases hdata : e.isData with
  | false =>
      obtain ⟨hpayloads, -, hallocations, heffects⟩ := performOne_control hdata h
      rw [views_congr hpayloads hallocations,
        Effect.carries_eq_zero slot (Effect.rank_eq_zero hdata),
        sum_carries_eq_zero heffects, sum_acknowledges_eq_zero heffects]
  | true =>
      cases Performs.of_performOne h with
      | inert he =>
          rw [Effect.carries_eq_zero slot (Effect.rank_of_isInert he)]
          rfl
      | reject => simp [Effect.carries, Effect.acknowledges]
      | update _ hupdate => exact views_socomUpdate hupdate
      | forget | acknowledge => exact views_releasePayload hlink hconnected h
      | subscribe | unsubscribe | destroyServer | destroyClient => cases hdata

theorem views_perform (hlink : ∀ x msg, env.link x msg = true) {depth : Nat}
    (hconnected : slot.provider ∈ n.binding.connections) (hrank : ∀ e ∈ effects, e.rank ≤ depth)
    (h : perform env depth n effects = some (n', out)) :
    n.views slot + (effects.map (Effect.carries slot)).sum +
      (effects.map (Effect.acknowledges slot)).sum =
      n'.views slot + (out.map (Effect.acknowledges slot)).sum := by
  have hbalance := (perform_balance (I := fun m => slot.provider ∈ m.binding.connections)
    (q := views slot) (w := Effect.carries slot) (c := Effect.acknowledges slot) (d := fun _ => 0)
    (fun e he => Effect.carries_eq_zero slot he) ?_ depth hconnected hrank h).2
  · simpa using hbalance
  · intro m e m' caused hm hone
    have hconnections := (connections_rule m.binding.connections).performOne rfl hone
    refine ⟨hconnections ▸ hm, rank_performOne hone, ?_⟩
    simpa using views_performOne hlink hm hone

/-- The message is an Event_update of the slot and makes a payload object that views it. -/
def accepts (slot : Slot ι) (n : Endpoint ι) : Event ι → Bool
  | .receive client (.eventUpdate requiredId _ handle) =>
      client = slot.provider && handle.slotIndex = slot.index &&
        (n.binding.idMapping.getByRemoteHandle client requiredId).any fun ids =>
          ids.key = slot.key &&
            ((n.binding.view ids.key).state.bind fun state => state.enabledConnector).isSome
  | _ => false

theorem isData_disconnectService {b : Binding ι} {client : ι} {key : Key} {requiredId : Nat}
    {e : Effect ι} (he : e ∈ (b.disconnectService client key requiredId).2) :
    e.isData = false := by
  rw [Binding.disconnectService_effects] at he
  rcases List.mem_append.1 he with he | he
  · obtain ⟨_, rfl⟩ := Binding.exists_of_mem_droppedSubscriptions he
    rfl
  · obtain ⟨_, -, rfl⟩ := List.mem_map.1 he
    rfl

theorem views_handleEventUpdateMessage (slot : Slot ι) {client : ι} {requiredId eventId : Nat}
    {handle : SharedMemoryHandle} {b : Binding ι}
    (hb : n.binding.handleEventUpdateMessage client requiredId eventId handle =
      some (b, effects)) :
    (effects.map (Effect.acknowledges slot)).sum = 0 ∧ (∀ e ∈ effects, e.rank ≤ 2) ∧
      (effects.map (Effect.carries slot)).sum =
        if n.accepts slot (.receive client (.eventUpdate requiredId eventId handle)) then 1
        else 0 := by
  obtain ⟨hids, rfl⟩ |
      ⟨ids, state, hids, hstate, ⟨hnone, rfl⟩ | ⟨connector, usedBytes, hsome, rfl⟩⟩ :=
    Binding.handleEventUpdateMessage_effects hb
  · exact ⟨rfl, by simp, by simp [accepts, hids]⟩
  · exact ⟨rfl, by simp [Effect.rank], by simp [accepts, hids, hstate, hnone, Effect.carries]⟩
  · refine ⟨rfl, by simp [Effect.rank], ?_⟩
    simp only [accepts, hids, hstate, hsome, Effect.carries, Payload.views, RemotePayload.isOf,
      Option.any_some, Option.bind_some, Option.isSome_some, List.map_cons, List.map_nil,
      List.sum_cons, List.sum_nil, Bool.and_true, Nat.add_zero]
    simp only [Bool.and_eq_true, decide_eq_true_eq, and_assoc]
    exact if_congr (and_congr_right' and_comm) rfl rfl

theorem views_handlePayloadConsumedMessage (slot : Slot ι) (b : Binding ι) (client : ι)
    (requiredId : Nat) (handle : SharedMemoryHandle) :
    b.allocations.views slot =
      (b.handlePayloadConsumedMessage client requiredId handle).1.allocations.views slot +
        ((b.handlePayloadConsumedMessage client requiredId handle).2.map
          (Effect.carries slot)).sum ∧
      ((b.handlePayloadConsumedMessage client requiredId handle).2.map
        (Effect.acknowledges slot)).sum = 0 := by
  constructor
  · unfold Binding.handlePayloadConsumedMessage
    split
    · simp
    · exact Allocations.views_payloadConsumed _ _ _
  · refine sum_map_eq_zero fun e he => ?_
    obtain ⟨_, rfl⟩ := Binding.exists_of_mem_payloadConsumed he
    rfl

/-- A step of control starts with no payload on its way. -/
theorem act_control {event : Event ι}
    (hevent : event.isControl = true ∨
      ∃ client key requiredId metadata,
        event = .receive client (.connectService key requiredId metadata false))
    (h : n.act env event = some (n', effects)) :
    n'.payloads = n.payloads ∧ n'.binding.allocations = n.binding.allocations ∧
      ∀ e ∈ effects, e.isData = false := by
  have hdata : ∀ e ∈ effects, e.isData = false := by
    obtain hcontrol | ⟨client, key, requiredId, metadata, rfl⟩ := hevent
    · exact fun e he => Effect.isData_of_isControl (isControl_act hcontrol h e he)
    · cases Handles.of_onReceiveMessage (act_receive_eq_some.1 h).2 with
      | connectService hb =>
          cases hb
          exact fun e he => isData_disconnectService he
  cases hslots : event.keepsSlots with
  | true =>
      have hdrop : ∀ index, event ≠ .dropPayload index := by
        rintro index rfl
        rcases hevent with hcontrol | ⟨_, _, _, _, hreceive⟩
        · cases hcontrol
        · cases hreceive
      have hfrom : event.isFrom fun _ _ => True := by cases event <;> trivial
      exact ⟨payloads_act hslots hdrop h,
        ((slots_control n.binding.connections n.binding.allocations).act hslots hfrom ⟨rfl, rfl⟩
          h).2, hdata⟩
  | false =>
      cases event with
      | addClient | removeClient =>
          cases h
          exact ⟨rfl, rfl, hdata⟩
      | updateEvent =>
          rcases hevent with hcontrol | ⟨_, _, _, _, hreceive⟩
          · cases hcontrol
          · cases hreceive
      | receive client msg =>
          rcases hevent with hcontrol | ⟨_, _, _, _, hreceive⟩
          · cases msg <;> first | cases hslots; done | cases hcontrol
          · cases hreceive
            cases hslots
      | makeClientConnector | destroyClientConnector | makeServerConnector | destroyServerConnector
      | enableServerConnector | disableServerConnector | subscribeEvent | unsubscribeEvent
      | dropPayload | finishReply => cases hslots

/-- A peer tells of a payload or of the end of one. -/
def tellsPayload : Event ι → Bool
  | .receive _ (.eventUpdate _ _ _) | .receive _ (.payloadConsumed _ _) => true
  | _ => false

/-- What an event does to payloads before the calls it makes are performed. -/
inductive MovesPayload (env : Env ι) (n : Endpoint ι) :
    Event ι → Endpoint ι → List (Effect ι) → Prop where
  | control {event : Event ι} {n' : Endpoint ι} {effects : List (Effect ι)}
      (hevent : tellsPayload event = false) (hpayloads : n'.payloads = n.payloads)
      (hallocations : n'.binding.allocations = n.binding.allocations)
      (hdata : ∀ e ∈ effects, e.isData = false) : MovesPayload env n event n' effects
  | update {key : Key} {eventId slotHandle size : Nat} {n' : Endpoint ι}
      {effects : List (Effect ι)}
      (hupdate : n.socomUpdate env key eventId { slotHandle := slotHandle, size := size } =
        some (n', effects)) :
      MovesPayload env n (.updateEvent key eventId slotHandle size) n' effects
  | drop {index : Nat} {payload : Payload ι} (hpayload : n.payloads[index]? = some payload) :
      MovesPayload env n (.dropPayload index) { n with payloads := n.payloads.eraseIdx index }
        [.releasePayload payload]
  | eventUpdate {client : ι} {requiredId eventId : Nat} {handle : SharedMemoryHandle}
      {b : Binding ι} {effects : List (Effect ι)}
      (hb : n.binding.handleEventUpdateMessage client requiredId eventId handle =
        some (b, effects)) :
      MovesPayload env n (.receive client (.eventUpdate requiredId eventId handle))
        { n with binding := b } effects
  | payloadConsumed (client : ι) (requiredId : Nat) (handle : SharedMemoryHandle) :
      MovesPayload env n (.receive client (.payloadConsumed requiredId handle))
        { n with binding := (n.binding.handlePayloadConsumedMessage client requiredId handle).1 }
        (n.binding.handlePayloadConsumedMessage client requiredId handle).2

theorem MovesPayload.of_act {event : Event ι} (h : n.act env event = some (n', effects)) :
    MovesPayload env n event n' effects := by
  have hcontrol : ∀ {event}, n.act env event = some (n', effects) →
      tellsPayload event = false → event.isControl = true →
        MovesPayload env n event n' effects := by
    intro event h htells hcontrol
    obtain ⟨hpayloads, hallocations, hdata⟩ := act_control (.inl hcontrol) h
    exact .control htells hpayloads hallocations hdata
  cases event with
  | updateEvent =>
      cases Acts.of_act h with
      | idle => exact .control rfl rfl rfl (by simp)
      | update _ _ hupdate => exact .update hupdate
  | dropPayload index =>
      cases Acts.of_act h with
      | idle => exact .control rfl rfl rfl (by simp)
      | drop hpayload => exact .drop hpayload
  | receive client msg =>
      cases Handles.of_onReceiveMessage (act_receive_eq_some.1 h).2 with
      | eventUpdate hb => exact .eventUpdate hb
      | payloadConsumed => exact .payloadConsumed client _ _
      | @connectService _ _ _ inUse =>
          cases inUse with
          | true => exact hcontrol h rfl rfl
          | false =>
              obtain ⟨hpayloads, hallocations, hdata⟩ := act_control (.inr ⟨_, _, _, _, rfl⟩) h
              exact .control rfl hpayloads hallocations hdata
      | connect | connectReply | request | offer | connectServiceReply
      | subscribe => exact hcontrol h rfl rfl
  | makeClientConnector | destroyClientConnector | makeServerConnector | destroyServerConnector
  | enableServerConnector | disableServerConnector | subscribeEvent | unsubscribeEvent | addClient
  | removeClient | finishReply => exact hcontrol h rfl rfl

theorem accepts_eq_false {event : Event ι} (h : tellsPayload event = false) :
    n.accepts slot event = false := by
  cases event with
  | receive client msg => cases msg <;> first | rfl | cases h
  | _ => rfl

theorem views_act (slot : Slot ι) {event : Event ι} (h : n.act env event = some (n', effects)) :
    (∀ e ∈ effects, e.rank ≤ 2) ∧
      n.views slot + (if n.accepts slot event then 1 else 0) =
        n'.views slot + (effects.map (Effect.carries slot)).sum +
          (effects.map (Effect.acknowledges slot)).sum := by
  cases MovesPayload.of_act h with
  | control hevent hpayloads hallocations hdata =>
      refine ⟨fun e he => (Effect.rank_eq_zero (hdata e he)).le.trans (Nat.zero_le _), ?_⟩
      rw [views_congr hpayloads hallocations, accepts_eq_false hevent, sum_carries_eq_zero hdata,
        sum_acknowledges_eq_zero hdata]
      rfl
  | update hupdate =>
      exact ⟨fun e he => (rank_socomUpdate hupdate e he).trans (by omega),
        views_socomUpdate hupdate⟩
  | drop hpayload =>
      refine ⟨by simp [Effect.rank], ?_⟩
      have herase := sum_map_eraseIdx (Payload.views slot) hpayload
      simp only [views, accepts, List.map_cons, List.map_nil, List.sum_cons, List.sum_nil,
        Effect.carries, Effect.acknowledges]
      simp
      omega
  | @eventUpdate _ _ _ _ b _ hb =>
      obtain ⟨hacks, hrank, hcarries⟩ := views_handleEventUpdateMessage slot hb
      have hviews : ({ n with binding := b } : Endpoint ι).views slot = n.views slot :=
        views_congr rfl (by rw [Binding.handleEventUpdateMessage_frame hb])
      exact ⟨hrank, by rw [hviews, hacks, hcarries]; rfl⟩
  | payloadConsumed client requiredId handle =>
      refine ⟨fun e he => ?_, ?_⟩
      · obtain ⟨_, rfl⟩ := Binding.exists_of_mem_payloadConsumed he
        exact Nat.le_succ 1
      · obtain ⟨hviews, hacks⟩ :=
          views_handlePayloadConsumedMessage slot n.binding client requiredId handle
        simp only [views, accepts, hacks] at hviews ⊢
        simp
        omega

/-- One step of a consumer: what it holds and is given, it keeps or acknowledges. -/
theorem views_step (slot : Slot ι) (hlink : ∀ x msg, env.link x msg = true) {event : Event ι}
    (hconnected : ∀ m effects, n.act env event = some (m, effects) →
      slot.provider ∈ m.binding.connections)
    (h : n.step env event = some (n', out)) :
    n.views slot + (if n.accepts slot event then 1 else 0) =
      n'.views slot + (out.map (Effect.acknowledges slot)).sum := by
  obtain ⟨m, effects, hact, hperform⟩ := step_eq_some.1 h
  obtain ⟨hrank, hviews⟩ := views_act slot hact
  have hdone := views_perform hlink (hconnected m effects hact)
    (fun e he => (hrank e he).trans (by omega)) hperform
  omega

/-! ## Consumers of a slot at its provider -/

/-- The consumers that have not acknowledged the slot. -/
def pending (slot : Slot ι) (n : Endpoint ι) : Nat :=
  n.binding.allocations.pending slot.key slot.index

/-- The message is an acknowledgement that resolves to the slot. -/
def settles (slot : Slot ι) (n : Endpoint ι) : Event ι → Bool
  | .receive client (.payloadConsumed requiredId handle) =>
      handle.slotIndex = slot.index &&
        (n.binding.idMapping.getByRemoteHandle client requiredId).any fun ids => ids.key = slot.key
  | _ => false

omit [DecidableEq ι] in
theorem sum_updates_eq_zero (h : ∀ e ∈ effects, e.isData = false) :
    (effects.map (Effect.updates slot)).sum = 0 :=
  sum_map_eq_zero fun e he => Effect.updates_eq_zero slot (h e he)

theorem updates_eventUpdates (hlink : ∀ x msg, env.link x msg = true) {b : Binding ι} {key : Key}
    {eventId : Nat} {payload : Payload ι} (clients : List (ι × Ids)) :
    ((b.eventUpdates env key eventId payload clients).1.map (Effect.updates slot)).sum =
      if slot.key = key ∧ slot.index = payload.slotHandle then
        (b.eventUpdates env key eventId payload clients).2
      else 0 := by
  induction clients with
  | nil => simp [Binding.eventUpdates]
  | cons head rest ih =>
      obtain ⟨client, ids⟩ := head
      by_cases hconnected : client ∈ b.connections
      · by_cases hslot : slot.key = key ∧ slot.index = payload.slotHandle
        · rw [if_pos hslot] at ih ⊢
          simp [Binding.eventUpdates, hconnected, Env.send, hlink, Effect.updates, Slot.isUpdate,
            ih, hslot]
          omega
        · rw [if_neg hslot] at ih ⊢
          have hother : ¬ (key = slot.key ∧ payload.slotHandle = slot.index) :=
            fun hboth => hslot ⟨hboth.1.symm, hboth.2.symm⟩
          simp [Binding.eventUpdates, hconnected, Env.send, hlink, Effect.updates, Slot.isUpdate,
            ih, hother]
      · simp [Binding.eventUpdates, hconnected, Effect.updates, ih]

theorem pending_sendEventUpdate (hlink : ∀ x msg, env.link x msg = true) {b b' : Binding ι}
    {key : Key} {eventId : Nat} {payload : Payload ι}
    (h : b.sendEventUpdate env key eventId payload = some (b', effects)) :
    b'.allocations.pending slot.key slot.index =
      b.allocations.pending slot.key slot.index + (effects.map (Effect.updates slot)).sum := by
  obtain ⟨allocations, more, hmore, rfl, rfl⟩ := Binding.sendEventUpdate_eq_some.1 h
  have hnone : (more.map (Effect.updates slot)).sum = 0 := by
    refine sum_map_eq_zero fun e he => ?_
    obtain ⟨_, rfl⟩ := Allocations.exists_of_mem_insertAllocation hmore he
    rfl
  rw [List.map_append, List.sum_append, hnone, Nat.add_zero, updates_eventUpdates hlink]
  exact Allocations.pending_insertAllocation hmore slot.key slot.index

theorem pending_socomUpdate (hlink : ∀ x msg, env.link x msg = true) {key : Key} {eventId : Nat}
    {payload : Payload ι} (h : n.socomUpdate env key eventId payload = some (n', effects)) :
    n'.pending slot = n.pending slot + (effects.map (Effect.updates slot)).sum := by
  obtain ⟨rfl, rfl⟩ | ⟨-, rfl, rfl⟩ | ⟨-, b, hb, rfl⟩ := socomUpdate_cases h
  · rfl
  · rfl
  · exact pending_sendEventUpdate hlink hb

theorem pending_performOne (slot : Slot ι) (hlink : ∀ x msg, env.link x msg = true) {e : Effect ι}
    (h : n.performOne env e = some (n', effects)) :
    n'.pending slot = n.pending slot + (effects.map (Effect.updates slot)).sum := by
  cases hdata : e.isData with
  | false =>
      obtain ⟨-, -, hallocations, heffects⟩ := performOne_control hdata h
      rw [sum_updates_eq_zero heffects, pending, hallocations]
      rfl
  | true =>
      cases Performs.of_performOne h with
      | inert | reject | forget => rfl
      | update _ hupdate => exact pending_socomUpdate hlink hupdate
      | acknowledge =>
          simp only [Env.send, hlink]
          simp [Effect.updates, Slot.isUpdate]
      | subscribe | unsubscribe | destroyServer | destroyClient => cases hdata

theorem pending_perform (slot : Slot ι) (hlink : ∀ x msg, env.link x msg = true) {depth : Nat}
    (hrank : ∀ e ∈ effects, e.rank ≤ depth) (h : perform env depth n effects = some (n', out)) :
    n.pending slot + (out.map (Effect.updates slot)).sum =
      n'.pending slot + (effects.map (Effect.updates slot)).sum := by
  have hbalance := (perform_balance (I := fun _ => True) (q := pending slot) (w := fun _ => 0)
    (c := fun _ => 0) (d := Effect.updates slot) (fun _ _ => rfl) ?_ depth trivial hrank h).2
  · simpa using hbalance
  · intro m e m' caused _ hone
    refine ⟨trivial, rank_performOne hone, ?_⟩
    have hpending := pending_performOne slot hlink hone
    simp only [List.map_const', List.sum_replicate]
    simp
    omega

theorem settles_eq_false {event : Event ι} (h : tellsPayload event = false) :
    n.settles slot event = false := by
  cases event with
  | receive client msg => cases msg <;> first | rfl | cases h
  | _ => rfl

theorem pending_handlePayloadConsumedMessage (slot : Slot ι) (client : ι) (requiredId : Nat)
    (handle : SharedMemoryHandle) :
    (n.binding.handlePayloadConsumedMessage client requiredId handle).1.allocations.pending
        slot.key slot.index =
      n.pending slot -
        if n.settles slot (.receive client (.payloadConsumed requiredId handle)) then 1 else 0 := by
  unfold Binding.handlePayloadConsumedMessage
  split
  next hids => simp [settles, hids, pending]
  next ids hids =>
    rw [Allocations.pending_payloadConsumed]
    simp only [settles, hids, Option.any_some, Bool.and_eq_true, decide_eq_true_eq]
    exact congrArg _ (if_congr ⟨fun h => ⟨h.2.symm, h.1.symm⟩, fun h => ⟨h.2.symm, h.1.symm⟩⟩
      rfl rfl)

theorem pending_act (slot : Slot ι) (hlink : ∀ x msg, env.link x msg = true) {event : Event ι}
    (h : n.act env event = some (n', effects)) :
    n'.pending slot = n.pending slot - (if n.settles slot event then 1 else 0) +
      (effects.map (Effect.updates slot)).sum := by
  cases MovesPayload.of_act h with
  | control hevent _ hallocations hdata =>
      rw [settles_eq_false hevent, sum_updates_eq_zero hdata, pending, hallocations]
      rfl
  | update hupdate => exact pending_socomUpdate hlink hupdate
  | drop => rfl
  | eventUpdate hb =>
      have hnone : (effects.map (Effect.updates slot)).sum = 0 := by
        obtain ⟨-, rfl⟩ | ⟨_, _, -, -, ⟨-, rfl⟩ | ⟨_, _, -, rfl⟩⟩ :=
          Binding.handleEventUpdateMessage_effects hb <;> rfl
      rw [hnone, pending, Binding.handleEventUpdateMessage_frame hb]
      rfl
  | payloadConsumed client requiredId handle =>
      have hnone : ((n.binding.handlePayloadConsumedMessage client requiredId handle).2.map
          (Effect.updates slot)).sum = 0 := by
        refine sum_map_eq_zero fun e he => ?_
        obtain ⟨_, rfl⟩ := Binding.exists_of_mem_payloadConsumed he
        rfl
      rw [hnone, Nat.add_zero]
      exact pending_handlePayloadConsumedMessage slot client requiredId handle

theorem pending_step (slot : Slot ι) (hlink : ∀ x msg, env.link x msg = true) {event : Event ι}
    (h : n.step env event = some (n', out)) :
    n'.pending slot = n.pending slot - (if n.settles slot event then 1 else 0) +
      (out.map (Effect.updates slot)).sum := by
  obtain ⟨m, effects, hact, hperform⟩ := step_eq_some.1 h
  have hrank := (views_act slot hact).1
  have hpending := pending_act slot hlink hact
  have hdone := pending_perform slot hlink
    (fun e he => (hrank e he).trans (by omega)) hperform
  omega

/-! ## Whom a provider tells of a slot -/

theorem reaches_sendEventUpdate {b b' : Binding ι} {key : Key} {eventId : Nat}
    {payload : Payload ι} (h : b.sendEventUpdate env key eventId payload = some (b', effects)) :
    ∀ e ∈ effects, e.reaches b.connections := by
  obtain ⟨allocations, more, hmore, -, rfl⟩ := Binding.sendEventUpdate_eq_some.1 h
  intro e he
  rcases List.mem_append.1 he with he | he
  · obtain ⟨client, ids, -, hconnected, rfl⟩ | rfl := Binding.mem_eventUpdates he
    · exact hconnected
    · trivial
  · obtain ⟨_, rfl⟩ := Allocations.exists_of_mem_insertAllocation hmore he
    trivial

theorem reaches_socomUpdate {key : Key} {eventId : Nat} {payload : Payload ι}
    (h : n.socomUpdate env key eventId payload = some (n', effects)) :
    ∀ e ∈ effects, e.reaches n.binding.connections := by
  obtain ⟨-, rfl⟩ | ⟨-, -, rfl⟩ | ⟨-, b, hb, -⟩ := socomUpdate_cases h
  · simp [Effect.reaches]
  · simp
  · exact reaches_sendEventUpdate hb

theorem reaches_performOne {e : Effect ι} (h : n.performOne env e = some (n', effects)) :
    ∀ e' ∈ effects, e'.reaches n.binding.connections := by
  cases hdata : e.isData with
  | false => exact fun e' he' => Effect.reaches_of_control ((performOne_control hdata h).2.2.2 e' he')
  | true =>
      cases Performs.of_performOne h with
      | inert | forget => simp
      | reject => simp [Effect.reaches]
      | update _ hupdate => exact reaches_socomUpdate hupdate
      | acknowledge => simp [Env.send, Effect.reaches]
      | subscribe | unsubscribe | destroyServer | destroyClient => cases hdata

theorem reaches_act {event : Event ι} (h : n.act env event = some (n', effects)) :
    ∀ e ∈ effects, e.reaches n.binding.connections := by
  cases MovesPayload.of_act h with
  | control _ _ _ hdata => exact fun e he => Effect.reaches_of_control (hdata e he)
  | update hupdate => exact reaches_socomUpdate hupdate
  | drop => simp [Effect.reaches]
  | eventUpdate hb =>
      obtain ⟨-, rfl⟩ | ⟨_, _, -, -, ⟨-, rfl⟩ | ⟨_, _, -, rfl⟩⟩ :=
        Binding.handleEventUpdateMessage_effects hb <;> simp [Effect.reaches]
  | payloadConsumed client requiredId handle =>
      intro e he
      obtain ⟨_, rfl⟩ := Binding.exists_of_mem_payloadConsumed he
      trivial

/-- An Event_update goes to a peer that is still connected after the step. -/
theorem reaches_step {event : Event ι} (h : n.step env event = some (n', out)) :
    ∀ e ∈ out, e.reaches n'.binding.connections := by
  obtain ⟨m, effects, hact, hperform⟩ := step_eq_some.1 h
  have heffects : ∀ e ∈ effects, e.reaches m.binding.connections := by
    cases hevent : event.keepsConnections with
    | true =>
        rw [connections_act hevent hact]
        exact reaches_act hact
    | false =>
        have hcontrol : event.isControl = true := by cases event <;> first | rfl | cases hevent
        exact fun e he => Effect.reaches_of_control ((act_control (.inl hcontrol) hact).2.2 e he)
  rw [connections_perform hperform]
  refine (perform_preserves (I := fun k => k.binding.connections = m.binding.connections)
    (E := Effect.reaches m.binding.connections) ?_ 3 rfl heffects hperform).2
  intro k e k' caused hk _ hone
  refine ⟨((connections_rule k.binding.connections).performOne rfl hone).trans hk, ?_⟩
  rw [← hk]
  exact reaches_performOne hone

end Endpoint

end SomeipGateway
