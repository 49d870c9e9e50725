import SomeipGateway.Lib.Progress
import SomeipGateway.Lib.Sum
import SomeipGateway.Socom.OneServer
import SomeipGateway.Socom.Replacement

/-! # Every call returns

`disable` waits for the copies of the listen endpoint and for the connections of the
server, the destructor of a client waits for the copies of its stop token, `enable` and
`make_client_connector` wait for the indication they call. These waits end: as long as
nobody starts a new call, the sections that are due come to an end in every order, and
then every call has returned. What is left of destroyed connectors is nothing.
-/

namespace SomeipGateway

namespace Socom

/-! ## The sections that are due -/

/-- The sections that a call still has to make when it is in this phase. -/
def ServerPhase.remaining : ServerPhase → Nat
  | .absent | .disabled | .enabled | .destroyed => 0
  | .enabling | .erasing => 1
  | .draining => 2
  | .informing _ => 3
  | .notifying _ => 4
  | .stopping => 5
  | .unregistered => 6

def ClientPhase.remaining : ClientPhase → Nat
  | .absent | .alive | .destroyed => 0
  | .creating | .unregistered => 1
  | .releasing => 2

def Stage.remaining : Stage → Nat
  | .called => 7
  | .locked => 6
  | .connected _ => 5
  | .stored _ => 4
  | .leaving _ => 3
  | .released => 2
  | .returned => 1

/-- The last wait of `disable` has begun or is next. -/
abbrev ServerPhase.IsLeaving (phase : ServerPhase) : Prop :=
  phase = .draining ∨ ∃ c, phase = .informing c

namespace Runtime

/-- The step goes on with a call that has started; the others are up to the
applications. -/
def Label.continues : Label → Bool
  | .makeServerConnector .. | .enable _ | .disable .. | .destroyServerConnector _
  | .makeClientConnector .. | .storeClientConnector _ | .destroyClientConnector _
  | .lockServer .. | .send .. | .serve .. => false
  | _ => true

def remaining (σ : Runtime) : Nat :=
  σ.servers.sum (·.phase.remaining) + σ.clients.sum (·.phase.remaining) +
    σ.indications.sum (·.elim 0 (·.stage.remaining)) + σ.calls.sum (·.elim 0 fun _ => 1)

/-- The events of all servers, which bounds the loop of any `remove_client`. -/
def numEvents (σ : Runtime) : Nat := σ.servers.sum (·.connector.numEvents)

/-- The sections of `remove_client` that are left when each loop runs over `n` events. -/
def removing (σ : Runtime) (n : Nat) : Nat :=
  σ.removals.sum (·.elim 0 fun removal => n - removal.event + 1)

/-- A section other than those of `remove_client` starts at most one `remove_client`. -/
def work (σ : Runtime) : Nat :=
  (σ.numEvents + 2) * σ.remaining + σ.removing σ.numEvents

variable {σ σ' : Runtime} {label : Label}

theorem numEvents_le (σ : Runtime) (s : ServerId) :
    (σ.servers s).connector.numEvents ≤ σ.numEvents :=
  Store.le_sum (g := fun server : ServerObject => server.connector.numEvents) rfl σ.servers s

theorem Step.numEvents_eq (hstep : Step σ label σ') (hcontinues : label.continues = true) :
    σ'.numEvents = σ.numEvents := by
  have hset {s : ServerId} {server : ServerObject}
      (hsame : server.connector.numEvents = (σ.servers s).connector.numEvents) :
      (σ.servers.set s server).sum (·.connector.numEvents) = σ.numEvents :=
    Store.sum_set_of_eq rfl hsame
  cases hstep with
  | knownIdentifier | makeServerConnector | enable | disable | destroyServerConnector
  | recordTaken | makeClientConnector | storeClientConnector | destroyClientConnector
  | lockServer | send | serve => cases hcontinues
  | enableReturns | stopListening | copyClient | noClient | resetServer | notAvailable
  | disableReturns | eraseIdentifier | connect | unsubscribe | resetClient =>
      simp only [Runtime.numEvents, dropEndpoint_servers]
      exact hset rfl
  | _ => simp only [Runtime.numEvents, dropEndpoint_servers, setClientPhase, setStage]

theorem remaining_lt_of_server {s : ServerId} {server : ServerObject}
    (hservers : σ'.servers = σ.servers.set s server)
    (hless : server.phase.remaining < (σ.servers s).phase.remaining)
    (hclients : σ'.clients.sum (·.phase.remaining) = σ.clients.sum (·.phase.remaining))
    (hindications : σ'.indications = σ.indications) (hcalls : σ'.calls = σ.calls) :
    σ'.remaining < σ.remaining := by
  have h := Store.sum_set_lt (g := fun server : ServerObject => server.phase.remaining) rfl hless
  simp only [remaining, hservers, hclients, hindications, hcalls]
  omega

theorem remaining_lt_of_client {c : ClientId} {client : ClientObject}
    (hclients : σ'.clients = σ.clients.set c client)
    (hless : client.phase.remaining < (σ.clients c).phase.remaining)
    (hservers : σ'.servers = σ.servers) (hindications : σ'.indications = σ.indications)
    (hcalls : σ'.calls = σ.calls) : σ'.remaining < σ.remaining := by
  have h := Store.sum_set_lt (g := fun client : ClientObject => client.phase.remaining) rfl hless
  simp only [remaining, hservers, hclients, hindications, hcalls]
  omega

theorem remaining_lt_of_indication {a : Caller} {i : Indication} {i' : Option Indication}
    (hi : σ.indications a = some i) (hindications : σ'.indications = σ.indications.set a i')
    (hless : i'.elim 0 (·.stage.remaining) < i.stage.remaining)
    (hservers : σ'.servers.sum (·.phase.remaining) = σ.servers.sum (·.phase.remaining))
    (hclients : σ'.clients.sum (·.phase.remaining) = σ.clients.sum (·.phase.remaining))
    (hcalls : σ'.calls = σ.calls) : σ'.remaining < σ.remaining := by
  have h := Store.sum_set_lt (g := fun i : Option Indication => i.elim 0 (·.stage.remaining))
    (m := σ.indications) (a := a) (b := i') rfl (by rwa [hi])
  simp only [remaining, hservers, hclients, hindications, hcalls]
  omega

theorem remaining_lt_of_call {n : CallId} {t : ConnectionId} (hcall : σ.calls n = some t)
    (hcalls : σ'.calls = σ.calls.set n none) (hservers : σ'.servers = σ.servers)
    (hclients : σ'.clients = σ.clients) (hindications : σ'.indications = σ.indications) :
    σ'.remaining < σ.remaining := by
  have h := Store.sum_set_lt (g := fun t : Option ConnectionId => t.elim 0 fun _ => 1)
    (m := σ.calls) (a := n) (b := none) rfl (by simp [hcall])
  simp only [remaining, hservers, hclients, hindications, hcalls]
  omega

/-- A section other than those of `remove_client` is one less of those that are due. -/
theorem Step.remaining_lt (hstep : Step σ label σ') (hcontinues : label.continues = true)
    (hother : ∀ thread, label ≠ .removeClient thread) : σ'.remaining < σ.remaining := by
  cases hstep with
  | knownIdentifier | makeServerConnector | enable | disable | destroyServerConnector
  | recordTaken | makeClientConnector | storeClientConnector | destroyClientConnector
  | lockServer | send | serve => cases hcontinues
  | unsubscribe | resetClient => exact absurd rfl (hother _)
  | enableReturns hphase | stopListening hphase | copyClient hphase | noClient hphase
  | notAvailable hphase | eraseIdentifier hphase =>
      exact remaining_lt_of_server rfl (by simp [hphase, ServerPhase.remaining]) rfl rfl rfl
  | disableReturns hphase =>
      refine remaining_lt_of_server rfl ?_ rfl rfl rfl
      simp only [hphase]
      split <;> simp [ServerPhase.remaining]
  | resetServer hphase =>
      refine remaining_lt_of_server (by simp only [dropEndpoint_servers]; rfl)
        (by simp [hphase, ServerPhase.remaining]) ?_ (by simp [setServerPhase])
        (by simp [setServerPhase])
      rw [dropEndpoint_clients]
      exact Store.sum_set_of_eq rfl rfl
  | creationReturns hphase | unregisterClient hphase | destructorReturns hphase =>
      exact remaining_lt_of_client rfl (by simp [hphase, ClientPhase.remaining]) rfl rfl rfl
  | lockToken hi hstage | tokenGone hi hstage | notListening hi hstage
  | destructorStarted hi hstage | available hi hstage | releaseToken hi hstage
  | indicationReturns hi hstage =>
      exact remaining_lt_of_indication hi rfl (by simp [hstage, Stage.remaining]) rfl rfl rfl
  | connect hi hstage =>
      refine remaining_lt_of_indication hi rfl (by simp [hstage, Stage.remaining]) ?_ rfl rfl
      exact Store.sum_set_of_eq rfl rfl
  | setServer hi hstage =>
      refine remaining_lt_of_indication hi (by simp only [dropEndpoint_indications]; rfl)
        (by simp [hstage, Stage.remaining]) (by simp [setStage]) ?_ (by simp [setStage])
      rw [dropEndpoint_clients]
      exact Store.sum_set_of_eq rfl rfl
  | leave hi hstage =>
      exact remaining_lt_of_indication hi (by simp only [dropEndpoint_indications]; rfl)
        (by simp [hstage, Stage.remaining]) (by simp [setStage]) (by simp [setStage])
        (by simp [setStage])
  | callReturns hcall =>
      exact remaining_lt_of_call hcall (by simp) (by simp) (by simp) (by simp)

theorem removing_dropEndpoint_le (σ : Runtime) (thread : Thread) (endpoint : Option ConnectionId)
    (n : Nat) : (σ.dropEndpoint thread endpoint).removing n ≤ σ.removing n + (n + 1) := by
  cases endpoint with
  | none => exact Nat.le_add_right _ _
  | some t =>
      simp only [dropEndpoint]
      split
      next => exact Nat.le_add_right _ _
      next =>
        have h := Store.sum_set (g := fun r : Option Removal => r.elim 0 fun r => n - r.event + 1)
          rfl σ.removals thread (some { connection := t })
        simp only [removing, Option.elim_some, Nat.sub_zero] at h ⊢
        omega

/-- A section other than those of `remove_client` starts at most one of them. -/
theorem Step.removing_le (hstep : Step σ label σ')
    (hother : ∀ thread, label ≠ .removeClient thread) (n : Nat) :
    σ'.removing n ≤ σ.removing n + (n + 1) := by
  cases hstep with
  | unsubscribe | resetClient => exact absurd rfl (hother _)
  | resetServer | destroyClientConnector | setServer | leave | callReturns =>
      exact removing_dropEndpoint_le _ _ _ n
  | _ => exact Nat.le_add_right _ _

/-- Each section of `remove_client` is one of its loop, which is over the events of one
server, or its last one. -/
theorem removing_lt_of_removeClient {thread : Thread} {n : Nat}
    (hn : ∀ s, (σ.servers s).connector.numEvents ≤ n)
    (h : σ.removeClient thread = some σ') : σ'.removing n < σ.removing n := by
  simp only [removeClient, Option.bind_eq_bind, Option.bind_eq_some_iff] at h
  obtain ⟨removal, hremoval, connection, hconnection, h⟩ := h
  have hevents := hn connection.server
  have hset (after : Option Removal)
      (hless : after.elim 0 (fun r => n - r.event + 1) < n - removal.event + 1) :
      (σ.removals.set thread after).sum (·.elim 0 fun r => n - r.event + 1) < σ.removing n :=
    Store.sum_set_lt rfl (by rwa [hremoval])
  split at h
  · cases h
  · split at h
    next hless =>
      cases h
      have hevent : removal.event < n := Nat.lt_of_lt_of_le hless hevents
      exact hset (some { removal with event := removal.event + 1 })
        (Nat.add_lt_add_right (Nat.sub_lt_sub_left hevent (Nat.lt_succ_self _)) 1)
    next =>
      cases h
      exact hset none (by simp)

theorem Step.remaining_of_removeClient {thread : Thread}
    (hstep : Step σ (.removeClient thread) σ') : σ'.remaining = σ.remaining := by
  have hset {s : ServerId} {connector : Connector} :
      (σ.servers.set s { σ.servers s with connector := connector }).sum (·.phase.remaining) =
        σ.servers.sum (·.phase.remaining) :=
    Store.sum_set_of_eq rfl rfl
  cases hstep <;> simp only [Runtime.remaining, setConnector, hset]

/-- Every section is progress. -/
theorem work_lt (hcontinues : label.continues = true) (hnext : σ.next label = some σ') :
    σ'.work < σ.work := by
  have hstep := Step.of_next hnext
  rw [work, work, hstep.numEvents_eq hcontinues]
  by_cases hother : ∀ thread, label ≠ .removeClient thread
  · have hless := hstep.remaining_lt hcontinues hother
    have hstarted := hstep.removing_le hother σ.numEvents
    have hmul : (σ.numEvents + 2) * (σ'.remaining + 1) ≤ (σ.numEvents + 2) * σ.remaining :=
      Nat.mul_le_mul_left _ hless
    rw [Nat.mul_succ] at hmul
    omega
  · obtain ⟨thread, rfl⟩ : ∃ thread, label = .removeClient thread := by simpa using hother
    rw [hstep.remaining_of_removeClient]
    have hless := removing_lt_of_removeClient σ.numEvents_le hnext
    omega

/-! ## Who gives up the last endpoint -/

/-- The step in which a thread can start `remove_client`. -/
def Thread.drops : Thread → Label
  | .indication a => .indicate a
  | .disable s => .resetServer s
  | .destructor c => .destroyClientConnector c
  | .call n => .callReturns n

theorem Step.removal_started (hstep : Step σ label σ') {thread : Thread}
    (hbefore : σ.removals thread = none) (hafter : σ'.removals thread ≠ none) :
    label = Thread.drops thread := by
  have hdrop {τ : Runtime} {owner : Thread} {endpoint : Option ConnectionId}
      (h : (τ.dropEndpoint owner endpoint).removals thread ≠ none)
      (hremovals : τ.removals = σ.removals) : thread = owner := by
    by_contra hne
    rw [dropEndpoint_removals_of_ne _ _ _ hne, hremovals] at h
    exact h hbefore
  cases hstep with
  | resetServer | destroyClientConnector | setServer | leave | callReturns =>
      rw [hdrop hafter rfl]
      rfl
  | @unsubscribe thread' r k hr hk | @resetClient thread' r k hr hk =>
      have hne : thread ≠ thread' := by
        rintro rfl
        rw [hbefore] at hr
        cases hr
      simp [hne, hbefore] at hafter
  | _ => exact absurd hbefore hafter

/-- Where the thread of a running `remove_client` is. -/
def Thread.Waits (σ : Runtime) : Thread → Prop
  | .indication _ => True
  | .disable s => ∃ c, (σ.servers s).phase = .informing c
  | .destructor c => (σ.clients c).phase = .releasing
  | .call n => σ.calls n = none

/-- A thread goes on after the `remove_client` it has started. -/
def RemovalsWait (σ : Runtime) : Prop :=
  ∀ thread, σ.removals thread ≠ none → Thread.Waits σ thread

theorem RemovalsWait.step (h : σ.RemovalsWait) (hstep : Step σ label σ') : σ'.RemovalsWait := by
  intro thread hafter
  by_cases hbefore : σ.removals thread = none
  · have hlabel := hstep.removal_started hbefore hafter
    subst hlabel
    cases thread with
    | indication a => trivial
    | disable s =>
        cases hstep with
        | @resetServer _ c hphase => exact ⟨c, by simp [setServerPhase]⟩
    | destructor c =>
        cases hstep with
        | destroyClientConnector hphase => simp [Thread.Waits]
    | call n =>
        cases hstep with
        | callReturns hcall => simp [Thread.Waits]
  · have hwaits := h thread hbefore
    cases thread with
    | indication a => trivial
    | disable s =>
        obtain ⟨c, hphase⟩ := hwaits
        refine ⟨c, ?_⟩
        cases hstep.server s with
        | notAvailable =>
            cases hstep with
            | notAvailable _ hremoval => exact absurd hremoval hbefore
        | _ => grind
    | destructor c =>
        simp only [Thread.Waits] at hwaits ⊢
        cases hstep.client c with
        | unregister =>
            cases hstep with
            | unregisterClient _ hremoval => exact absurd hremoval hbefore
        | _ => grind
    | call n =>
        simp only [Thread.Waits] at hwaits ⊢
        cases hstep with
        | @lockServer m c hcall hremoval =>
            have hne : n ≠ m := by
              rintro rfl
              exact hbefore hremoval
            simp [hne, hwaits]
        | @callReturns m t hcall => simp [hwaits]
        | _ => simpa [setServerPhase, setClientPhase, setStage, setConnector] using hwaits

/-! ## Every connection goes away -/

/-- The connection has an endpoint, or the client is being removed. -/
def Held (σ : Runtime) (t : ConnectionId) : Prop :=
  σ.referenced t = true ∨ ∃ thread r, σ.removals thread = some r ∧ r.connection = t

/-- Who gives up an endpoint leaves it to the others or removes the client. -/
theorem held_dropEndpoint (σ : Runtime) (thread : Thread) (t : ConnectionId) :
    (σ.dropEndpoint thread (some t)).Held t := by
  by_cases hreferenced : σ.referenced t = true
  · exact .inl (by rwa [dropEndpoint_referenced])
  · refine .inr ⟨thread, _, dropEndpoint_removals_self _ _ (by simpa using hreferenced), rfl⟩

def ConnectionsHeld (σ : Runtime) : Prop :=
  ∀ t, σ.connections t ≠ none → σ.Held t

theorem Step.held_of_client (hstep : Step σ label σ') (hrefer : σ.ClientsRefer) {c : ClientId}
    {t : ConnectionId} (hc : (σ.clients c).server = some t) : σ'.Held t := by
  have hkept (h : (σ'.clients c).server = some t) : σ'.Held t :=
    .inl (referenced_eq_true.2 (.inl ⟨c, h⟩))
  have hdrop {τ : Runtime} {c' : ClientId} {client : ClientObject} (thread : Thread)
      (hclients : τ.clients = σ.clients.set c' client) :
      (τ.dropEndpoint thread (σ.clients c').server).Held t := by
    by_cases hsame : c = c'
    · rw [← hsame, hc]
      exact held_dropEndpoint τ thread t
    · exact .inl (referenced_eq_true.2 (.inl ⟨c, by simpa [hclients, hsame] using hc⟩))
  cases hstep with
  | @makeClientConnector c' key hphase =>
      have hne : c ≠ c' := by
        rintro rfl
        have hphase' := (hrefer c t hc).1
        grind
      exact hkept (by simpa [hne] using hc)
  | destroyClientConnector | resetServer | setServer => exact hdrop _ rfl
  | creationReturns | storeClientConnector | unregisterClient | destructorReturns =>
      exact hkept (by simp only [setClientPhase]; grind)
  | _ => exact hkept (by simpa [setServerPhase, setStage, setConnector] using hc)

theorem Step.held_of_leaving {a : Caller} {i : Indication} {t : ConnectionId}
    (hstep : Step σ (.indicate a) σ') (hi : σ.indications a = some i)
    (hstage : i.stage = .leaving t) : σ'.Held t := by
  cases hstep with
  | leave hj hstage' =>
      cases hi.symm.trans hj
      cases hstage.symm.trans hstage'
      exact held_dropEndpoint _ _ t
  | _ => simp_all

theorem Step.held_of_indication (hstep : Step σ label σ') (hordered : σ.Ordered) {a : Caller}
    {i : Indication} {t : ConnectionId} (hi : σ.indications a = some i)
    (hstage : i.stage.connection = some t) : σ'.Held t := by
  have hkept {stage : Stage} (hafter : σ'.indications a = some { i with stage := stage })
      (hconnection : stage.connection = some t) : σ'.Held t :=
    .inl (referenced_eq_true.2 (.inr (.inl ⟨a, _, hafter, hconnection⟩)))
  cases hstep.indication a with
  | kept heq => exact hkept (heq.trans hi) hstage
  | enable ha hphase =>
      cases ha
      rw [(hordered.enablesIndicate _ i hi).2.1] at hphase
      cases hphase
  | make ha hphase =>
      cases ha
      rw [(hordered.creationsListen _ i hi).2.1] at hphase
      cases hphase
  | returns hj hreturned =>
      cases hi.symm.trans hj
      rw [hreturned] at hstage
      cases hstage
  | advance hj hmove heq =>
      cases hi.symm.trans hj
      cases hmove with
      | setServer hsets =>
          rw [hsets.stage] at hstage
          exact hkept heq hstage
      | destructorStarted hconnected | available hconnected =>
          rw [hconnected] at hstage
          exact hkept heq hstage
      | leave hleaving =>
          rw [hleaving] at hstage
          cases hstage
          exact hstep.held_of_leaving hi hleaving
      | connect hconnects =>
          rw [hconnects.stage] at hstage
          cases hstage
      | lockToken hcalled | tokenGone hcalled | notListening hcalled | releaseToken hcalled =>
          rw [hcalled] at hstage
          cases hstage

theorem Step.held_of_call (hstep : Step σ label σ') {n : CallId} {t : ConnectionId}
    (hn : σ.calls n = some t) : σ'.Held t := by
  have hkept (h : σ'.calls n = some t) : σ'.Held t :=
    .inl (referenced_eq_true.2 (.inr (.inr ⟨n, h⟩)))
  cases hstep with
  | @lockServer m c hcall =>
      have hne : n ≠ m := by
        rintro rfl
        rw [hn] at hcall
        cases hcall
      exact hkept (by simpa [hne] using hn)
  | @callReturns m t' hcall =>
      by_cases hsame : n = m
      · subst hsame
        cases hn.symm.trans hcall
        exact held_dropEndpoint _ _ t
      · exact hkept (by simpa [hsame] using hn)
  | _ =>
      exact hkept (by simpa [setServerPhase, setClientPhase, setStage, setConnector] using hn)

/-- A running `remove_client` goes on until the connection is gone. -/
theorem Step.held_of_removal (hstep : Step σ label σ') (hwait : σ.RemovalsWait) {thread : Thread}
    {r : Removal} (hr : σ.removals thread = some r)
    (hconnection : σ'.connections r.connection ≠ none) : σ'.Held r.connection := by
  have hkept (h : σ'.removals thread = some r) : σ'.Held r.connection :=
    .inr ⟨thread, r, h, rfl⟩
  have hwaits := hwait thread (by simp [hr])
  -- the owner of another endpoint is not the one that waits for this `remove_client`
  have hdrop {τ : Runtime} {owner : Thread} {endpoint : Option ConnectionId}
      (hremovals : τ.removals = σ.removals) (hne : thread ≠ owner) :
      (τ.dropEndpoint owner endpoint).removals thread = some r := by
    rw [dropEndpoint_removals_of_ne _ _ _ hne, hremovals, hr]
  cases hstep with
  | resetServer hphase =>
      refine hkept (hdrop rfl ?_)
      rintro rfl
      obtain ⟨c, hinforming⟩ := hwaits
      rw [hphase] at hinforming
      cases hinforming
  | destroyClientConnector hphase =>
      refine hkept (hdrop rfl ?_)
      rintro rfl
      cases hphase.symm.trans hwaits
  | callReturns hcall =>
      refine hkept (hdrop rfl ?_)
      rintro rfl
      cases hcall.symm.trans hwaits
  | setServer _ _ hremoval | leave _ _ hremoval =>
      refine hkept (hdrop rfl ?_)
      rintro rfl
      cases hremoval.symm.trans hr
  | @unsubscribe thread' r' k hr' hk =>
      by_cases hsame : thread = thread'
      · subst hsame
        cases hr.symm.trans hr'
        exact .inr ⟨thread, { r with event := r.event + 1 }, by simp, rfl⟩
      · exact hkept (by simpa [hsame] using hr)
  | @resetClient thread' r' k hr' hk =>
      by_cases hsame : thread = thread'
      · subst hsame
        cases hr.symm.trans hr'
        simp at hconnection
      · exact hkept (by simpa [hsame] using hr)
  | _ => exact hkept hr

theorem ConnectionsHeld.step (h : σ.ConnectionsHeld) (hsound : σ.Sound) (hwait : σ.RemovalsWait)
    (hstep : Step σ label σ') : σ'.ConnectionsHeld := by
  intro t hconnection
  cases hstep.connection t with
  | connect hconnects ht =>
      subst ht
      exact .inl (referenced_eq_true.2 (.inr (.inl ⟨_, _, hconnects.indicationAfter, rfl⟩)))
  | resetClient hremoves ht =>
      subst ht
      exact absurd hremoves.connectionAfter hconnection
  | kept heq =>
      rcases h t (heq ▸ hconnection) with hreferenced | ⟨thread, r, hr, rfl⟩
      · rcases referenced_eq_true.1 hreferenced with ⟨c, hc⟩ | ⟨a, i, hi, hstage⟩ | ⟨n, hn⟩
        · exact hstep.held_of_client hsound.referenced.clients hc
        · exact hstep.held_of_indication hsound.ordered hi hstage
        · exact hstep.held_of_call hn
      · exact hstep.held_of_removal hwait hr hconnection

/-! ## A server that goes away is forgotten -/

/-- Whom a server tells that it goes away is its client until the client is removed. -/
def NotifiesOccupant (σ : Runtime) : Prop :=
  ∀ s c, (σ.servers s).phase.isFor c = true →
    (σ.servers s).connector.client = some c ∨ (σ.servers s).connector.client = none

theorem NotifiesOccupant.step (h : σ.NotifiesOccupant) (hlistens : σ.ListensWhileEnabled)
    (hstep : Step σ label σ') : σ'.NotifiesOccupant := by
  intro s c hafter
  have hbefore := hstep.server_isFor hafter
  have hoccupant := h s c
  have hlistening := hlistens s
  cases hstep.server s with
  | connect hconnects hserver =>
      have := hconnects.listening
      grind
  | _ => grind

/-- No client has an endpoint of a server that has told its client. -/
def Forgotten (σ : Runtime) : Prop :=
  ∀ s c t, (σ.servers s).phase.IsLeaving → (σ.clients c).server = some t →
    σ.connections t ≠ some ⟨c, s⟩

theorem Forgotten.step (h : σ.Forgotten) (hsound : σ.Sound) (hreplacing : σ.Replacing)
    (hnotifies : σ.NotifiesOccupant) (hstep : Step σ label σ') : σ'.Forgotten := by
  intro s c t hleaving hserver hconnection
  rcases hstep.client_server hserver with hold | ⟨a, i, hsets, rfl⟩
  · have hreferenced : σ.referenced t = true := referenced_eq_true.2 (.inl ⟨c, hold⟩)
    rw [hsound.referenced.connection_kept hstep hreferenced] at hconnection
    have hoccupant : (σ.servers s).connector.client = some c := hreplacing.occupy t _ hconnection
    have hbefore (hphase : (σ.servers s).phase.IsLeaving) : False :=
      h s c t hphase hold hconnection
    cases hstep.server s with
    | noClient hphase hlisten hclient =>
        rw [hoccupant] at hclient
        cases hclient
    | @resetServer c' hphase =>
        -- the client that is told is the one that gives up its endpoint
        have hsame := hnotifies s c' (by simp [hphase, ServerPhase.isFor])
        obtain rfl : c = c' := by simpa [hoccupant] using hsame
        cases hstep with
        | resetServer hphase' =>
            cases hphase.symm.trans hphase'
            simp at hserver
    | notAvailable hphase => exact hbefore (.inr ⟨_, hphase⟩)
    | _ => grind
  · have hafter := (hsound.step hstep).referenced.indications a _ t hsets.indicationAfter rfl
    obtain rfl : i.server = s :=
      congrArg Connection.server (Option.some.inj (hafter.symm.trans hconnection))
    have hphase := (hsound.step hstep).ordered.indicated_phase hsets.indicationAfter
    grind

/-- What lets every call return. -/
structure Winding (σ : Runtime) : Prop where
  waits : σ.RemovalsWait
  held : σ.ConnectionsHeld
  notifies : σ.NotifiesOccupant
  forgotten : σ.Forgotten

theorem ReachableVia.winding {ok : Runtime → Label → Prop}
    (hok : ∀ σ label, ok σ label → σ.oneClient label = true) (h : ReachableVia ok σ) :
    σ.Winding := by
  refine Reach.invariant_of_reach (I := Winding) ?_ ?_ h
  · exact ⟨fun _ h => absurd rfl h, fun _ h => absurd rfl h,
      by simp [NotifiesOccupant, default, ServerPhase.isFor], by simp [Forgotten]⟩
  · intro σ label σ' hreach hs _ hnext
    have hstep := Step.of_next hnext
    have hsound := ReachableVia.sound hreach
    exact ⟨hs.waits.step hstep, hs.held.step hsound hs.waits hstep,
      hs.notifies.step hsound.listens hstep,
      hs.forgotten.step hsound (ReachableVia.replacing hok hreach) hs.notifies hstep⟩

/-! ## When no section is due -/

section stuck

variable (hstuck : Stuck next (fun _ label => label.continues = true) σ)

include hstuck

theorem calls_of_stuck (n : CallId) : σ.calls n = none := by
  cases hn : σ.calls n with
  | none => rfl
  | some t =>
      have h := hstuck (.callReturns n) rfl
      simp [next, callReturns, hn] at h

theorem removals_of_stuck (hsound : σ.Sound) (hreplacing : σ.Replacing) (thread : Thread) :
    σ.removals thread = none := by
  cases hr : σ.removals thread with
  | none => rfl
  | some r =>
      obtain ⟨k, hk⟩ := Option.ne_none_iff_exists'.1 (hsound.referenced.removals thread r hr).1
      have hclient := hreplacing.occupy _ k hk
      have h := hstuck (.removeClient thread) rfl
      simp only [next, removeClient, hr, hk, hclient, Option.bind_eq_bind, Option.bind_some,
        reduceCtorEq, and_false, if_false] at h
      split at h <;> cases h

theorem indications_of_stuck (hremovals : ∀ thread, σ.removals thread = none) (a : Caller) :
    σ.indications a = none := by
  cases hi : σ.indications a with
  | none => rfl
  | some i =>
      have h := hstuck (.indicate a) rfl
      simp only [next, indicate, hi, hremovals, Option.bind_eq_bind, Option.bind_some,
        if_true] at h
      split at h <;> cases h

omit hstuck in
/-- With no call, no indication and no `remove_client` left, only clients have
endpoints. -/
theorem server_of_connection (hheld : σ.ConnectionsHeld) (hrefer : σ.ClientsRefer)
    (hindications : ∀ a, σ.indications a = none) (hcalls : ∀ n, σ.calls n = none)
    (hremovals : ∀ thread, σ.removals thread = none) {t : ConnectionId} {k : Connection}
    (hk : σ.connections t = some k) : (σ.clients k.client).server = some t := by
  rcases hheld t (by simp [hk]) with hreferenced | ⟨thread, r, hr, -⟩
  · rcases referenced_eq_true.1 hreferenced with ⟨c, hc⟩ | ⟨a, i, hi, -⟩ | ⟨n, hn⟩
    · obtain ⟨-, s, hs⟩ := hrefer c t hc
      cases hk.symm.trans hs
      exact hc
    · cases (hindications a).symm.trans hi
    · cases (hcalls n).symm.trans hn
  · cases (hremovals thread).symm.trans hr

/-- The waits of `disable` are over: the listen endpoint has no copies, and whoever had
an endpoint of the server has forgotten it. -/
theorem servers_of_stuck (hforgotten : σ.Forgotten) (hindications : ∀ a, σ.indications a = none)
    (hremovals : ∀ thread, σ.removals thread = none)
    (hserver : ∀ t k, σ.connections t = some k → (σ.clients k.client).server = some t)
    (s : ServerId) :
    (σ.servers s).phase = .absent ∨ (σ.servers s).phase = .disabled ∨
      (σ.servers s).phase = .enabled ∨ (σ.servers s).phase = .destroyed := by
  cases hphase : (σ.servers s).phase with
  | absent | disabled | enabled | destroyed => simp
  | enabling =>
      have h := hstuck (.enableReturns s) rfl
      simp [next, enableReturns, hphase, hindications] at h
  | unregistered =>
      have h := hstuck (.stopListening s) rfl
      simp [next, stopListening, hphase] at h
  | stopping =>
      have hlisten : σ.listenerCopied s = false := by
        rw [listenerCopied_eq_false]
        intro c i hi
        cases (hindications _).symm.trans hi
      have h := hstuck (.copyClient s) rfl
      simp only [next, copyClient, hphase, hlisten, and_self, if_true] at h
      split at h <;> cases h
  | notifying c =>
      have h := hstuck (.resetServer s) rfl
      simp [next, resetServer, hphase] at h
  | informing c =>
      have h := hstuck (.notAvailable s) rfl
      simp [next, notAvailable, hphase, hremovals] at h
  | draining =>
      have hconnections : σ.hasConnections s = false := by
        rw [hasConnections_eq_false]
        rintro t k hk rfl
        exact hforgotten k.server k.client t (.inl hphase) (hserver t k hk) hk
      have h := hstuck (.disableReturns s) rfl
      simp [next, disableReturns, hphase, hconnections] at h
  | erasing =>
      have h := hstuck (.eraseIdentifier s) rfl
      simp [next, eraseIdentifier, hphase] at h

/-- The wait of a destructor is over: no server has the client any more. -/
theorem clients_of_stuck (hsound : σ.Sound) (hindications : ∀ a, σ.indications a = none)
    (hremovals : ∀ thread, σ.removals thread = none)
    (hserver : ∀ t k, σ.connections t = some k → (σ.clients k.client).server = some t)
    (hservers : ∀ s, (σ.servers s).phase = .absent ∨ (σ.servers s).phase = .disabled ∨
      (σ.servers s).phase = .enabled ∨ (σ.servers s).phase = .destroyed)
    (c : ClientId) :
    (σ.clients c).phase = .absent ∨ (σ.clients c).phase = .alive ∨
      (σ.clients c).phase = .destroyed := by
  cases hphase : (σ.clients c).phase with
  | absent | alive | destroyed => simp
  | creating =>
      have h := hstuck (.creationReturns c) rfl
      simp [next, creationReturns, hphase, hindications] at h
  | releasing =>
      have h := hstuck (.unregisterClient c) rfl
      simp [next, unregisterClient, hphase, hremovals] at h
  | unregistered =>
      have htoken : σ.tokenCopied c = false := by
        rw [← Bool.not_eq_true, tokenCopied_eq_true]
        rintro (⟨a, i, hi, -⟩ | ⟨s, hs⟩ | ⟨s, hs⟩)
        · cases (hindications a).symm.trans hi
        · obtain ⟨t, ht⟩ := hsound.occupants s c hs
          have hphase' := (hsound.referenced.clients c t (hserver t _ ht)).1
          grind
        · have hphase' := hservers s
          grind
      have h := hstuck (.destructorReturns c) rfl
      simp [next, destructorReturns, hphase, htoken] at h

end stuck

theorem quiescent_of_stuck (h : ReachableVia (fun σ label => σ.oneClient label = true) σ)
    (hstuck : Stuck next (fun _ label => label.continues = true) σ) : σ.Quiescent := by
  have hsound := h.sound
  have hwinding := h.winding fun _ _ hok => hok
  have hcalls := calls_of_stuck hstuck
  have hremovals := removals_of_stuck hstuck hsound (h.replacing fun _ _ hok => hok)
  have hindications := indications_of_stuck hstuck hremovals
  have hserver t k := server_of_connection hwinding.held hsound.referenced.clients hindications
    hcalls hremovals (t := t) (k := k)
  have hservers := servers_of_stuck hstuck hwinding.forgotten hindications hremovals hserver
  exact ⟨hindications, hcalls, hremovals, hservers,
    clients_of_stuck hstuck hsound hindications hremovals hserver hservers⟩

/-- Whatever state the applications have brought the runtime to, one client of a service
after the other: if they start nothing more, then in every order of the sections that are
due all of `enable`, `disable`, `make_client_connector`, the calls of clients and the
destructors return. -/
theorem every_call_returns (h : ReachableVia (fun σ label => σ.oneClient label = true) σ) :
    Inevitably next (fun _ label => label.continues = true) Quiescent σ := by
  refine Inevitably.of_measure (I := ReachableVia fun σ label => σ.oneClient label = true) work
    ?_ ?_ ?_ h
  · intro σ label σ' hreach hcontinues hnext
    refine Reach.step hreach ?_ hnext
    cases label <;> first | rfl | cases hcontinues
  · intro σ label σ' _ hcontinues hnext
    exact work_lt hcontinues hnext
  · intro σ hreach hstuck
    exact quiescent_of_stuck hreach hstuck

/-- The server is being destroyed while a call of its client still has an endpoint. -/
theorem every_call_returns_run :
    ∃ σ : Runtime, (σ.servers 1).phase = .informing 1 ∧ σ.calls 5 = some 0 ∧
      Inevitably next (fun _ label => label.continues = true) Quiescent σ := by
  obtain ⟨σ, hreach, hp⟩ := exists_reach_of_runFrom next
    (fun σ label => σ.oneClient label = true) {}
    (connectedClient.append [.lockServer 5 1, .disable 1 true, .stopListening 1, .copyClient 1,
      .resetServer 1])
    (fun σ => decide ((σ.servers 1).phase = .informing 1 ∧ σ.calls 5 = some 0)) (by decide)
  obtain ⟨hphase, hcall⟩ := of_decide_eq_true hp
  exact ⟨σ, hphase, hcall, every_call_returns hreach⟩

/-! ## When everything is destroyed -/

/-- A server is alive until its identifier is erased. -/
theorem Step.server_alive (hstep : Step σ label σ') {s : ServerId}
    (h : (σ.servers s).phase.IsAlive) :
    (σ'.servers s).phase.IsAlive ∨ label = .eraseIdentifier s := by
  cases hstep.server s <;> grind

/-- An identifier is the one of a server that is not destroyed. -/
def IdentifiersOwned (σ : Runtime) : Prop :=
  ∀ key ∈ σ.identifiers, ∃ s, (σ.servers s).phase.IsAlive ∧ (σ.servers s).key = key

theorem IdentifiersOwned.step (h : σ.IdentifiersOwned) (hstep : Step σ label σ') :
    σ'.IdentifiersOwned := by
  intro key hkey
  have hold (hbefore : key ∈ σ.identifiers)
      (herased : ∀ s, label = .eraseIdentifier s → (σ.servers s).key ≠ key) :
      ∃ s, (σ'.servers s).phase.IsAlive ∧ (σ'.servers s).key = key := by
    obtain ⟨s, halive, hs⟩ := h key hbefore
    refine ⟨s, ?_, by rw [(hstep.server_key halive.1).2, hs]⟩
    rcases hstep.server_alive halive with hafter | hlabel
    · exact hafter
    · exact absurd hs (herased s hlabel)
  cases hstep with
  | @makeServerConnector s key' numEvents hphase hnew =>
      rcases Finset.mem_insert.1 hkey with rfl | hbefore
      · exact ⟨s, by simp [ServerPhase.IsAlive]⟩
      · exact hold hbefore (by simp)
  | @eraseIdentifier s hphase =>
      obtain ⟨hne, hbefore⟩ := Finset.mem_erase.1 hkey
      refine hold hbefore fun s' hlabel => ?_
      cases hlabel
      exact hne.symm
  | _ =>
      first
      | exact hold hkey (by simp)
      | rw [dropEndpoint_identifiers] at hkey
        exact hold hkey (by simp)

theorem ReachableVia.identifiersOwned {ok : Runtime → Label → Prop} (h : ReachableVia ok σ) :
    σ.IdentifiersOwned := by
  refine Reach.invariant (I := IdentifiersOwned) ?_ ?_ h
  · simp [IdentifiersOwned]
  · intro σ label σ' hs _ hnext
    exact hs.step (.of_next hnext)

/-- Destroyed connectors leave nothing behind: with the last of them every identifier is
free again, every record is empty, and no connection, indication, call or
`remove_client` is left. -/
theorem nothing_left_of_destroyed {ok : Runtime → Label → Prop} (h : ReachableVia ok σ)
    (hservers : ∀ s, ¬ (σ.servers s).phase.IsAlive)
    (hclients : ∀ c, ¬ (σ.clients c).phase.IsAlive) :
    σ.identifiers = ∅ ∧ (∀ key, σ.records key = {}) ∧ (∀ t, σ.connections t = none) ∧
      (∀ a, σ.indications a = none) ∧ (∀ n, σ.calls n = none) ∧
      ∀ thread, σ.removals thread = none := by
  have hsound := h.sound
  have hconnections (t : ConnectionId) : σ.connections t = none := by
    cases hk : σ.connections t with
    | none => rfl
    | some k => exact absurd (hsound.served t k hk).1 (hservers _)
  refine ⟨?_, ?_, hconnections, ?_, ?_, ?_⟩
  · apply Finset.eq_empty_of_forall_notMem
    intro key hkey
    obtain ⟨s, halive, -⟩ := h.identifiersOwned key hkey
    exact hservers s halive
  · intro key
    have hserver : (σ.records key).server = none := by
      apply Option.eq_none_iff_forall_ne_some.2
      intro x hx
      have hregistered := (hsound.ordered.serversRecorded key x hx).2.2
      exact hservers x.connector (by grind)
    have hclient : (σ.records key).client = none := by
      apply Option.eq_none_iff_forall_ne_some.2
      intro x hx
      have hregistered := (hsound.ordered.clientsRecorded key x hx).2.2
      exact hclients x.connector (by grind)
    cases hrecord : σ.records key
    simp_all
  · intro a
    apply Option.eq_none_iff_forall_ne_some.2
    intro i hi
    have hphase := hsound.ordered.indicated_phase hi
    exact hservers i.server (by grind)
  · intro n
    apply Option.eq_none_iff_forall_ne_some.2
    intro t ht
    exact hsound.referenced.calls n t ht (hconnections t)
  · intro thread
    apply Option.eq_none_iff_forall_ne_some.2
    intro r hr
    exact (hsound.referenced.removals thread r hr).1 (hconnections _)

/-- The client is destroyed first, then the server. -/
theorem nothing_left_of_destroyed_run :
    ∃ σ : Runtime, (σ.servers 1).phase = .destroyed ∧ (σ.clients 1).phase = .destroyed ∧
      σ.identifiers = ∅ ∧ ∀ key, σ.records key = {} := by
  obtain ⟨σ, hreach, hp⟩ := exists_reach_of_runFrom next (fun _ _ => True) {}
    (connectedClient.append [.destroyClientConnector 1, .removeClient (.destructor 1),
      .removeClient (.destructor 1), .unregisterClient 1, .destructorReturns 1, .disable 1 true,
      .stopListening 1, .copyClient 1, .disableReturns 1, .eraseIdentifier 1])
    (fun σ => decide ((σ.servers 1).phase = .destroyed ∧ (σ.clients 1).phase = .destroyed ∧
      (σ.servers.any fun _ server => decide server.phase.IsAlive) = false ∧
      (σ.clients.any fun _ client => decide client.phase.IsAlive) = false)) (by decide)
  obtain ⟨hserver, hclient, hservers, hclients⟩ := of_decide_eq_true hp
  have h := nothing_left_of_destroyed hreach
    (fun s => of_decide_eq_false ((Store.any_eq_false (fun _ => rfl)).1 hservers s))
    (fun c => of_decide_eq_false ((Store.any_eq_false (fun _ => rfl)).1 hclients c))
  exact ⟨σ, hserver, hclient, h.1, h.2.1⟩

end Runtime

end Socom

end SomeipGateway
