import SomeipGateway.Lib.Alternation
import SomeipGateway.Socom.ServerConnector

/-! # Subscription callbacks

The calls of `on_event_subscription_change` within one enabled period. For each
event they alternate, and the last of them says whether the connector passes
updates and allocations of the event on to its client.
-/

namespace SomeipGateway

namespace Socom

namespace Connector

/-- The state that an effect reports for the event. -/
def change (id : EventId) : ConnectorEffect → Option EventState
  | .onEventSubscriptionChange e state => if e = id then some state else none
  | _ => none

/-- The states reported for the event, in order. -/
def changes (id : EventId) (effects : List ConnectorEffect) : List EventState :=
  effects.filterMap (change id)

def lastChange (id : EventId) (effects : List ConnectorEffect) : Option EventState :=
  (changes id effects).getLast?

@[simp] theorem changes_nil (id : EventId) : changes id [] = [] := rfl

@[simp] theorem changes_append (id : EventId) (effects effects' : List ConnectorEffect) :
    changes id (effects ++ effects') = changes id effects ++ changes id effects' :=
  List.filterMap_append

/-- The state a subscriber pointer stands for. -/
def stateOf (subscriber : Bool) : EventState := if subscriber then .subscribed else .unsubscribed

/-- What is reported when a pointer goes from one value to another. -/
def turn (before after : Bool) : List EventState := if after = before then [] else [stateOf after]

@[simp] theorem turn_self (subscriber : Bool) : turn subscriber subscriber = [] := by
  simp [turn]

/-! ## What an operation reports -/

theorem changes_subscribeEvent {n : Nat} {σ : Connector} (h : Pointed n σ) (e : EventId)
    (mode : EventMode) (id : EventId) :
    changes id (σ.subscribeEvent e mode).effects =
      turn (σ.subscriber id) ((σ.subscribeEvent e mode).connector.subscriber id) := by
  unfold subscribeEvent
  rw [getClient_isSome h.subscriber, getClient_isSome h.updateRequester]
  split
  · simp
  · have hrequest : ∀ p : Prop, ∀ [Decidable p],
        changes id (if p then [.onEventUpdateRequest e] else []) = [] := by
      intro p _
      split <;> rfl
    have hsubscriber : ∀ σ' : Connector, σ'.subscriber = Function.update σ.subscriber e true →
        turn (σ.subscriber id) (σ'.subscriber id) =
          changes id (if σ.subscriber e then [] else
            [.onEventSubscriptionChange e .subscribed]) := by
      intro σ' hσ'
      rw [hσ']
      by_cases heq : e = id
      · subst heq
        cases hsub : σ.subscriber e with
        | false => simp [turn, stateOf, changes, change]
        | true => simp
      · rw [Function.update_of_ne (Ne.symm heq), turn_self]
        cases σ.subscriber e <;> simp [changes, change, heq]
    simp only [changes_append, hrequest, List.append_nil]
    refine (hsubscriber _ ?_).symm
    split <;> rfl

theorem changes_unsubscribeEvent (σ : Connector) (e id : EventId) :
    changes id (σ.unsubscribeEvent e).effects =
      turn (σ.subscriber id) ((σ.unsubscribeEvent e).connector.subscriber id) := by
  rw [unsubscribeEvent_subscriber]
  by_cases heq : e = id
  · subst heq
    cases hsub : σ.subscriber e with
    | false => simp [unsubscribeEvent, hsub]
    | true => simp [unsubscribeEvent, hsub, turn, stateOf, changes, change]
  · rw [Function.update_of_ne (Ne.symm heq), turn_self]
    cases hsub : σ.subscriber e <;> simp [unsubscribeEvent, hsub, changes, change, heq]

theorem changes_receiveUnsubscribeEvent (σ : Connector) (e id : EventId) :
    changes id (σ.receiveUnsubscribeEvent e).effects =
      turn (σ.subscriber id) ((σ.receiveUnsubscribeEvent e).connector.subscriber id) := by
  unfold receiveUnsubscribeEvent
  split
  · simp
  · exact changes_unsubscribeEvent σ e id

theorem changes_unsubscribeEvents (σ : Connector) (ids : List EventId) (id : EventId) :
    changes id (σ.unsubscribeEvents ids).effects =
      turn (σ.subscriber id) ((σ.unsubscribeEvents ids).connector.subscriber id) := by
  induction ids generalizing σ with
  | nil => simp [unsubscribeEvents]
  | cons first rest ih =>
      simp only [unsubscribeEvents, changes_append, changes_unsubscribeEvent, ih,
        unsubscribeEvents_subscriber, unsubscribeEvent_subscriber]
      -- a pointer that the first event cleared stays cleared
      by_cases heq : id = first
      · subst heq
        simp
      · simp [Function.update_of_ne heq]

theorem changes_removeClient (σ : Connector) (id : EventId) :
    changes id σ.removeClient.effects =
      turn (σ.subscriber id) (σ.removeClient.connector.subscriber id) :=
  changes_unsubscribeEvents σ (List.range σ.numEvents) id

theorem removeClient_effects (σ : Connector) :
    σ.removeClient.effects = ((List.range σ.numEvents).filter σ.subscriber).map
      (.onEventSubscriptionChange · .unsubscribed) :=
  unsubscribeEvents_effects σ List.nodup_range

theorem changes_receiveConnect (σ : Connector) (client : ClientId) (id : EventId) :
    changes id (σ.receiveConnect client).effects =
      turn (σ.subscriber id) ((σ.receiveConnect client).connector.subscriber id) := by
  unfold receiveConnect
  split
  · cases σ.client <;> simp [changes, change]
  · simp

/-- Messages to the client report nothing to the server. -/
theorem changes_map_of_change {α : Type} (id : EventId) {f : α → ConnectorEffect}
    (hf : ∀ x, change id (f x) = none) (l : List α) : changes id (l.map f) = [] := by
  rw [changes, List.filterMap_map]
  exact List.filterMap_eq_nil_iff.2 fun x _ => hf x

theorem changes_updateEvent (σ : Connector) (e : EventId) (payload : Bytes) (id : EventId) :
    changes id (σ.updateEvent e payload).effects = [] := by
  unfold updateEvent
  split
  · rfl
  · exact changes_map_of_change id (fun _ => rfl) _

theorem changes_updateRequestedEvent (σ : Connector) (e : EventId) (payload : Bytes)
    (id : EventId) :
    changes id (σ.updateRequestedEvent e payload).effects =
      turn (σ.subscriber id) ((σ.updateRequestedEvent e payload).connector.subscriber id) := by
  unfold updateRequestedEvent
  split
  · simp
  · rw [turn_self]
    exact changes_map_of_change id (fun _ => rfl) _

theorem changes_allocateEventPayload (σ : Connector) (e id : EventId) :
    changes id (σ.allocateEventPayload e).effects = [] := by
  unfold allocateEventPayload
  split
  · rfl
  · split <;> rfl

/-- An operation reports an event exactly when it changes whether the event has a
subscriber. -/
theorem changes_perform {n : Nat} {σ : Connector} (h : Pointed n σ) {operation : Operation}
    {outcome : Outcome} (houtcome : σ.perform operation = some outcome) (id : EventId) :
    changes id outcome.effects = turn (σ.subscriber id) (outcome.connector.subscriber id) := by
  cases operation with
  | connect client =>
      cases houtcome
      exact changes_receiveConnect σ client id
  | subscribeEvent e mode =>
      obtain ⟨-, rfl⟩ := withClient_eq_some.1 houtcome
      exact changes_subscribeEvent h e mode id
  | unsubscribeEvent e =>
      obtain ⟨-, rfl⟩ := withClient_eq_some.1 houtcome
      exact changes_receiveUnsubscribeEvent σ e id
  | requestEventUpdate e =>
      obtain ⟨-, rfl⟩ := withClient_eq_some.1 houtcome
      unfold requestEventUpdate
      split
      · simp
      · split <;> simp [changes, change]
  | disconnect =>
      obtain ⟨-, rfl⟩ := withClient_eq_some.1 houtcome
      exact changes_removeClient σ id
  | updateEvent e payload =>
      cases houtcome
      rw [changes_updateEvent, updateEvent_connector, turn_self]
  | updateRequestedEvent e payload =>
      cases houtcome
      exact changes_updateRequestedEvent σ e payload id
  | allocateEventPayload e =>
      cases houtcome
      rw [changes_allocateEventPayload, allocateEventPayload_connector, turn_self]

/-! ## Reports over a period -/

/-- The reports for the event alternate, and its subscriber is what the last one
says. -/
structure Reported (id : EventId) (period : Period) : Prop where
  alternates : alternates .subscribed .unsubscribed (changes id period.effects) = true
  last : lastChange id period.effects = some .subscribed ↔
    period.connector.subscriber id = true

theorem Reported.after {id : EventId} {period : Period} (h : Reported id period)
    {operation : Operation} {outcome : Outcome}
    (hchanges : changes id outcome.effects =
      turn (period.connector.subscriber id) (outcome.connector.subscriber id)) :
    Reported id (period.after operation outcome) := by
  by_cases hsame : outcome.connector.subscriber id = period.connector.subscriber id
  · rw [hsame, turn_self] at hchanges
    refine ⟨?_, ?_⟩
    · simpa [Period.after, hchanges] using h.alternates
    · simpa [Period.after, lastChange, hchanges, hsame] using h.last
  · rw [turn, if_neg hsame] at hchanges
    refine ⟨?_, ?_⟩
    · simp only [Period.after, changes_append, hchanges]
      refine alternates_append_singleton (by decide) h.alternates ?_
      rw [← lastChange]
      cases hbefore : period.connector.subscriber id with
      | false =>
          have hafter : outcome.connector.subscriber id = true := by simpa [hbefore] using hsame
          rw [if_neg (by simp [h.last, hbefore]), hafter]
          rfl
      | true =>
          have hafter : outcome.connector.subscriber id = false := by simpa [hbefore] using hsame
          rw [if_pos (h.last.2 hbefore), hafter]
          rfl
    · simp only [Period.after, lastChange, changes_append, hchanges, List.getLast?_append,
        List.getLast?_singleton, Option.some_or, Option.some.injEq]
      cases outcome.connector.subscriber id <;> simp [stateOf]

theorem Reported.reachable {n : Nat} {mode : EventId → EventMode} {period : Period}
    (h : Period.Reachable n mode period) (id : EventId) : Reported id period := by
  refine Reach.invariant_of_reach ⟨rfl, by simp [lastChange, Period.begin, enabled]⟩
    (fun s operation s' hs ih _ hnext => ?_) h
  obtain ⟨outcome, houtcome, rfl⟩ := Period.exists_of_next hnext
  exact ih.after (changes_perform (Pointed.reachable hs) houtcome id)

theorem updateEvent_effects_eq {n : Nat} {σ : Connector} (h : Pointed n σ) (id : EventId)
    (payload : Bytes) :
    (∃ client, σ.client = some client ∧
      (σ.updateEvent id payload).effects = [.sendUpdateEvent client id payload]) ↔
      σ.subscriber id = true := by
  cases hsub : σ.subscriber id with
  | false =>
      unfold updateEvent
      split
      · simp
      · simp [getClient, hsub]
  | true =>
      obtain ⟨hid, hclient⟩ := h.subscriber id hsub
      obtain ⟨client, hclient⟩ := Option.isSome_iff_exists.1 hclient
      simp [updateEvent, h.count, Nat.not_le.2 hid, getClient, hsub, hclient]

theorem allocateEventPayload_effects_eq {n : Nat} {σ : Connector} (h : Pointed n σ)
    (id : EventId) :
    (∃ client, σ.client = some client ∧
      (σ.allocateEventPayload id).effects = [.sendAllocateEventPayload client id]) ↔
      σ.subscriber id = true := by
  cases hsub : σ.subscriber id with
  | false =>
      unfold allocateEventPayload
      split
      · simp
      · simp [getClient, hsub]
  | true =>
      obtain ⟨hid, hclient⟩ := h.subscriber id hsub
      obtain ⟨client, hclient⟩ := Option.isSome_iff_exists.1 hclient
      simp [allocateEventPayload, h.count, Nat.not_le.2 hid, getClient, hsub, hclient]

/-- Within one enabled period the reports for an event alternate, starting with
subscribed. An update or an allocation reaches the client if and only if the last
report was subscribed, and a disconnect reports exactly the subscribed events. -/
theorem subscription_changes_alternate {n : Nat} {mode : EventId → EventMode} {period : Period}
    (h : Period.Reachable n mode period) :
    (∀ id, alternates .subscribed .unsubscribed (changes id period.effects) = true) ∧
    (∀ id payload,
      (∃ client, period.connector.client = some client ∧
        (period.connector.updateEvent id payload).effects =
          [.sendUpdateEvent client id payload]) ↔
        lastChange id period.effects = some .subscribed) ∧
    (∀ id,
      (∃ client, period.connector.client = some client ∧
        (period.connector.allocateEventPayload id).effects =
          [.sendAllocateEventPayload client id]) ↔
        lastChange id period.effects = some .subscribed) ∧
    ∀ outcome, period.connector.perform .disconnect = some outcome →
      outcome.effects =
        ((List.range n).filter fun id => lastChange id period.effects = some .subscribed).map
          (.onEventSubscriptionChange · .unsubscribed) := by
  have hpointed := Pointed.reachable h
  have hreported := Reported.reachable h
  refine ⟨fun id => (hreported id).alternates, fun id payload => ?_, fun id => ?_,
    fun outcome houtcome => ?_⟩
  · rw [updateEvent_effects_eq hpointed, (hreported id).last]
  · rw [allocateEventPayload_effects_eq hpointed, (hreported id).last]
  · obtain ⟨-, rfl⟩ := withClient_eq_some.1 houtcome
    rw [removeClient_effects, hpointed.count]
    congr 2
    funext id
    simp [(hreported id).last]

theorem subscription_changes_alternate_resubscribed :
    ∃ period, Period.Reachable 2 (fun _ => .update) period ∧
      changes 1 period.effects = [.subscribed, .unsubscribed, .subscribed] ∧
      ∃ client, period.connector.client = some client ∧
        (period.connector.updateEvent 1 [7]).effects = [.sendUpdateEvent client 1 [7]] := by
  obtain ⟨period, hreach, hperiod⟩ := exists_reach_of_runFrom Period.next (fun _ _ => True)
    (Period.begin 2 fun _ => .update)
    [.connect 0, .subscribeEvent 1 .update, .disconnect, .connect 1,
      .subscribeEvent 1 .updateAndInitialValue]
    (fun s => changes 1 s.effects = [.subscribed, .unsubscribed, .subscribed]) (by decide)
  have hchanges := of_decide_eq_true hperiod
  exact ⟨period, hreach, hchanges,
    ((subscription_changes_alternate hreach).2.1 1 [7]).2 (by simp [lastChange, hchanges])⟩

end Connector

end Socom

end SomeipGateway
