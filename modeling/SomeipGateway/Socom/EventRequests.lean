import SomeipGateway.Socom.ServerConnector

/-! # Requests for event updates

Which requests of a client reach the server. A request stays outstanding until
the event is updated, the client unsubscribes from it or the client disconnects.
The connector forgets a requester at `update_requested_event` but not at
`update_event`, so after the latter it takes the next request for one that is
already known.
-/

namespace SomeipGateway

namespace Socom

namespace Connector

namespace Operation

def isRequest (id : EventId) : Operation → Bool
  | .subscribeEvent e mode => e = id && mode = .updateAndInitialValue
  | .requestEventUpdate e => e = id
  | _ => false

def isUpdateEvent (id : EventId) : Operation → Bool
  | .updateEvent e _ => e = id
  | _ => false

/-- The ends of a request other than `update_event`. -/
def dropsRequest (id : EventId) : Operation → Bool
  | .updateRequestedEvent e _ => e = id
  | .unsubscribeEvent e => e = id
  | .disconnect => true
  | _ => false

end Operation

/-- A request for the event was made and not ended since. The operations are
listed with the last one first. -/
def outstanding (id : EventId) : List Operation → Bool
  | [] => false
  | operation :: earlier =>
      operation.isRequest id ||
        outstanding id earlier && !(operation.isUpdateEvent id || operation.dropsRequest id)

/-- The last request for the event was ended by `update_event`, and nothing since
made the connector forget the requester. -/
def endedByUpdateEvent (id : EventId) : List Operation → Bool
  | [] => false
  | operation :: earlier =>
      !(operation.isRequest id || operation.dropsRequest id) &&
        (endedByUpdateEvent id earlier || operation.isUpdateEvent id && outstanding id earlier)

/-! ## What an operation does to the requester -/

theorem subscribeEvent_updateRequester (σ : Connector) {id : EventId} (hid : id < σ.numEvents)
    (e : EventId) (mode : EventMode) :
    (σ.subscribeEvent e mode).connector.updateRequester id =
      ((Operation.subscribeEvent e mode).isRequest id || σ.updateRequester id) := by
  unfold subscribeEvent
  split
  next hrange =>
    have hne : e ≠ id := fun heq => absurd hid (Nat.not_lt.2 (heq ▸ hrange))
    simp [Operation.isRequest, hne]
  next =>
    cases mode with
    | update => simp [Operation.isRequest]
    | updateAndInitialValue =>
        by_cases heq : e = id
        · simp [Operation.isRequest, heq]
        · simp [Operation.isRequest, heq, Function.update_of_ne (Ne.symm heq)]

theorem requestEventUpdate_updateRequester {n : Nat} {σ : Connector} (h : Pointed n σ)
    {id : EventId} (hid : id < σ.numEvents) (e : EventId) :
    (σ.requestEventUpdate e).connector.updateRequester id =
      (decide (e = id) || σ.updateRequester id) := by
  unfold requestEventUpdate
  rw [getClient_isSome h.updateRequester]
  split
  next hrange =>
    have hne : e ≠ id := fun heq => absurd hid (Nat.not_lt.2 (heq ▸ hrange))
    simp [hne]
  next =>
    by_cases heq : e = id
    · subst heq
      split
      next hset => simp [hset]
      next => simp
    · split
      · simp [heq]
      · simp [heq, Function.update_of_ne (Ne.symm heq)]

theorem clear_updateRequester (pointer : EventId → Bool) (e id : EventId) :
    Function.update pointer e false id = (pointer id && !decide (e = id)) := by
  by_cases heq : e = id
  · simp [heq]
  · simp [heq, Function.update_of_ne (Ne.symm heq)]

theorem receiveUnsubscribeEvent_updateRequester (σ : Connector) {id : EventId}
    (hid : id < σ.numEvents) (e : EventId) :
    (σ.receiveUnsubscribeEvent e).connector.updateRequester id =
      (σ.updateRequester id && !decide (e = id)) := by
  unfold receiveUnsubscribeEvent
  split
  next hrange =>
    have hne : e ≠ id := fun heq => absurd hid (Nat.not_lt.2 (heq ▸ hrange))
    simp [hne]
  next => exact clear_updateRequester σ.updateRequester e id

theorem updateRequestedEvent_updateRequester (σ : Connector) {id : EventId}
    (hid : id < σ.numEvents) (e : EventId) (payload : Bytes) :
    (σ.updateRequestedEvent e payload).connector.updateRequester id =
      (σ.updateRequester id && !decide (e = id)) := by
  unfold updateRequestedEvent
  split
  next hrange =>
    have hne : e ≠ id := fun heq => absurd hid (Nat.not_lt.2 (heq ▸ hrange))
    simp [hne]
  next => exact clear_updateRequester σ.updateRequester e id

/-- An operation sets the requester of an event when it is a request for it, and
clears it when it is one of the ends other than `update_event`. -/
theorem perform_updateRequester {n : Nat} {σ : Connector} (h : Pointed n σ) {id : EventId}
    (hid : id < n) {operation : Operation} {outcome : Outcome}
    (houtcome : σ.perform operation = some outcome) :
    outcome.connector.updateRequester id =
      (operation.isRequest id || σ.updateRequester id && !operation.dropsRequest id) := by
  rw [← h.count] at hid
  cases operation with
  | connect client =>
      cases houtcome
      unfold receiveConnect
      split <;> simp [Operation.isRequest, Operation.dropsRequest]
  | subscribeEvent e mode =>
      obtain ⟨-, rfl⟩ := withClient_eq_some.1 houtcome
      rw [subscribeEvent_updateRequester σ hid]
      simp [Operation.dropsRequest]
  | unsubscribeEvent e =>
      obtain ⟨-, rfl⟩ := withClient_eq_some.1 houtcome
      rw [receiveUnsubscribeEvent_updateRequester σ hid]
      simp [Operation.isRequest, Operation.dropsRequest]
  | requestEventUpdate e =>
      obtain ⟨-, rfl⟩ := withClient_eq_some.1 houtcome
      rw [requestEventUpdate_updateRequester h hid]
      simp [Operation.isRequest, Operation.dropsRequest]
  | disconnect =>
      obtain ⟨-, rfl⟩ := withClient_eq_some.1 houtcome
      rw [removeClient_updateRequester]
      simp [Operation.isRequest, Operation.dropsRequest, Nat.not_le.2 hid]
  | updateEvent e payload =>
      cases houtcome
      simp [Operation.isRequest, Operation.dropsRequest]
  | updateRequestedEvent e payload =>
      cases houtcome
      rw [updateRequestedEvent_updateRequester σ hid]
      simp [Operation.isRequest, Operation.dropsRequest]
  | allocateEventPayload e =>
      cases houtcome
      simp [Operation.isRequest, Operation.dropsRequest]

/-! ## Requests over a period -/

theorem not_outstanding_of_endedByUpdateEvent {id : EventId} {operations : List Operation}
    (h : endedByUpdateEvent id operations = true) : outstanding id operations = false := by
  induction operations with
  | nil => rfl
  | cons operation earlier ih =>
      simp only [endedByUpdateEvent, outstanding] at h ⊢
      cases hearlier : endedByUpdateEvent id earlier with
      | true =>
          simp only [hearlier, Bool.true_or, Bool.and_true, Bool.not_eq_true', Bool.or_eq_false_iff]
            at h
          simp [h.1, ih hearlier]
      | false =>
          simp only [hearlier, Bool.false_or, Bool.and_eq_true, Bool.not_eq_true',
            Bool.or_eq_false_iff] at h
          simp [h.1.1, h.2.1]

/-- The connector remembers a requester exactly while a request is outstanding or
was ended by `update_event` alone. -/
theorem updateRequester_eq {n : Nat} {mode : EventId → EventMode} {period : Period}
    (h : Period.Reachable n mode period) {id : EventId} (hid : id < n) :
    period.connector.updateRequester id =
      (outstanding id period.operations || endedByUpdateEvent id period.operations) := by
  refine Reach.invariant_of_reach
    (I := fun s => s.connector.updateRequester id =
      (outstanding id s.operations || endedByUpdateEvent id s.operations))
    rfl (fun s operation s' hs ih _ hnext => ?_) h
  obtain ⟨outcome, houtcome, rfl⟩ := Period.exists_of_next hnext
  simp only [Period.after, perform_updateRequester (Pointed.reachable hs) hid houtcome, ih,
    outstanding, endedByUpdateEvent]
  cases operation.isRequest id <;> cases operation.dropsRequest id <;>
    cases operation.isUpdateEvent id <;> cases outstanding id s.operations <;>
    cases endedByUpdateEvent id s.operations <;> rfl

/-- A request calls the server when no requester is remembered for the event. -/
theorem mem_effects_of_isRequest {n : Nat} {σ : Connector} (h : Pointed n σ) {id : EventId}
    (hid : id < n) {operation : Operation} (hrequest : operation.isRequest id = true)
    {outcome : Outcome} (houtcome : σ.perform operation = some outcome) :
    .onEventUpdateRequest id ∈ outcome.effects ↔ σ.updateRequester id = false := by
  have hrange : ¬σ.numEvents ≤ id := by
    rw [h.count]
    exact Nat.not_le.2 hid
  cases operation with
  | subscribeEvent e mode =>
      simp only [Operation.isRequest, Bool.and_eq_true, decide_eq_true_eq] at hrequest
      obtain ⟨rfl, rfl⟩ := hrequest
      obtain ⟨-, rfl⟩ := withClient_eq_some.1 houtcome
      simp only [subscribeEvent, hrange, if_false, getClient_isSome h.subscriber,
        getClient_isSome h.updateRequester]
      cases σ.subscriber e <;> cases σ.updateRequester e <;> simp
  | requestEventUpdate e =>
      simp only [Operation.isRequest, decide_eq_true_eq] at hrequest
      subst hrequest
      obtain ⟨-, rfl⟩ := withClient_eq_some.1 houtcome
      simp only [requestEventUpdate, hrange, if_false, getClient_isSome h.updateRequester]
      cases σ.updateRequester e <;> simp
  | connect client => cases hrequest
  | unsubscribeEvent e => cases hrequest
  | disconnect => cases hrequest
  | updateEvent e payload => cases hrequest
  | updateRequestedEvent e payload => cases hrequest
  | allocateEventPayload e => cases hrequest

/-- In every period, a request calls `on_event_update_request` if and only if no
request for the event is outstanding, unless the last one was ended by
`update_event` and the requester is still remembered. -/
theorem request_calls_iff_not_outstanding {n : Nat} {mode : EventId → EventMode} {period : Period}
    (h : Period.Reachable n mode period) {id : EventId} (hid : id < n) {operation : Operation}
    (hrequest : operation.isRequest id = true) {outcome : Outcome}
    (houtcome : period.connector.perform operation = some outcome) :
    (.onEventUpdateRequest id ∈ outcome.effects ↔ outstanding id period.operations = false) ↔
      endedByUpdateEvent id period.operations = false := by
  rw [mem_effects_of_isRequest (Pointed.reachable h) hid hrequest houtcome,
    updateRequester_eq h hid]
  cases hended : endedByUpdateEvent id period.operations with
  | false => simp
  | true => simp [not_outstanding_of_endedByUpdateEvent hended]

theorem request_calls_after_updateRequestedEvent :
    ∃ period outcome, Period.Reachable 1 (fun _ => .update) period ∧
      period.connector.perform (.requestEventUpdate 0) = some outcome ∧
      endedByUpdateEvent 0 period.operations = false ∧
      (.onEventUpdateRequest 0 ∈ outcome.effects ↔ outstanding 0 period.operations = false) := by
  obtain ⟨period, hreach, hperiod⟩ := exists_reach_of_runFrom Period.next (fun _ _ => True)
    (Period.begin 1 fun _ => .update)
    [.connect 0, .requestEventUpdate 0, .updateRequestedEvent 0 [7]]
    (fun s => !endedByUpdateEvent 0 s.operations && s.connector.client.isSome) (by decide)
  simp only [Bool.and_eq_true, Bool.not_eq_true'] at hperiod
  have hperform : period.connector.perform (.requestEventUpdate 0) =
      some (period.connector.requestEventUpdate 0) := withClient_eq_some.2 ⟨hperiod.2, rfl⟩
  exact ⟨period, _, hreach, hperform, hperiod.1,
    (request_calls_iff_not_outstanding hreach Nat.one_pos rfl hperform).2 hperiod.1⟩

/-- After `update_event` the next request does not reach the server, although no
request is outstanding. -/
theorem request_silent_after_updateEvent :
    ∃ period outcome, Period.Reachable 1 (fun _ => .update) period ∧
      period.connector.perform (.requestEventUpdate 0) = some outcome ∧
      outstanding 0 period.operations = false ∧
      .onEventUpdateRequest 0 ∉ outcome.effects := by
  obtain ⟨period, hreach, hperiod⟩ := exists_reach_of_runFrom Period.next (fun _ _ => True)
    (Period.begin 1 fun _ => .update)
    [.connect 0, .requestEventUpdate 0, .updateEvent 0 [7]]
    (fun s => !outstanding 0 s.operations && s.connector.client.isSome &&
      decide (.onEventUpdateRequest 0 ∉ (s.connector.requestEventUpdate 0).effects)) (by decide)
  simp only [Bool.and_eq_true, Bool.not_eq_true', decide_eq_true_eq] at hperiod
  obtain ⟨⟨houtstanding, hclient⟩, hsilent⟩ := hperiod
  exact ⟨period, _, hreach, withClient_eq_some.2 ⟨hclient, rfl⟩, houtstanding, hsilent⟩

end Connector

end Socom

end SomeipGateway
