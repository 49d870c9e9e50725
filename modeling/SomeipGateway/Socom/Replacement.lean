import SomeipGateway.Socom.Connections

/-! # One client after the other

The destructor of a client leaves the record before it waits for the copies of its
stop token, so the record is free while a server still has the client. When the next
client is made only after the destructor has returned, a server that is asked to
connect has no client, and `remove_client` finds the client it was started for.
-/

namespace SomeipGateway

namespace Socom

namespace Runtime

variable {σ σ' : Runtime} {label : Label}

/-- A client that gets a record is made when the destructor of every other client of
the record has returned. -/
def oneClient (σ : Runtime) : Label → Bool
  | .makeClientConnector _ key =>
      (σ.records (recordKey key)).client.isSome ||
        !σ.clients.any fun _ client =>
          decide client.phase.IsAlive && recordKey client.key = recordKey key
  | _ => true

theorem oneClient_makeClientConnector {c : ClientId} {key : Key}
    (h : σ.oneClient (.makeClientConnector c key) = true)
    (hfree : (σ.records (recordKey key)).client = none) (c' : ClientId)
    (halive : (σ.clients c').phase.IsAlive) : recordKey (σ.clients c').key ≠ recordKey key := by
  simp only [oneClient, hfree, Option.isSome_none, Bool.false_or, Bool.not_eq_true'] at h
  have hnone := (Store.any_eq_false (fun _ => rfl)).1 h c'
  simpa [halive] using hnone

def ClientsUnique (σ : Runtime) : Prop :=
  ∀ c c', (σ.clients c).phase.IsAlive → (σ.clients c').phase.IsAlive →
    recordKey (σ.clients c).key = recordKey (σ.clients c').key → c = c'

theorem ClientsUnique.step (h : σ.ClientsUnique) (hok : σ.oneClient label = true)
    (hstep : Step σ label σ') : σ'.ClientsUnique := by
  intro c c' hc hc' hkey
  rcases hstep.client_of_alive hc with ⟨halive, hsame⟩ | ⟨rfl, hfree⟩
  · rcases hstep.client_of_alive hc' with ⟨halive', hsame'⟩ | ⟨rfl, hfree⟩
    · exact h c c' halive halive' (by rw [← hsame, ← hsame', hkey])
    · rw [hsame] at hkey
      exact absurd hkey (oneClient_makeClientConnector hok hfree c halive)
  · rcases hstep.client_of_alive hc' with ⟨halive', hsame'⟩ | ⟨hlabel, -⟩
    · rw [hsame'] at hkey
      exact absurd hkey.symm (oneClient_makeClientConnector hok hfree c' halive')
    · exact (Label.makeClientConnector.inj hlabel).1

/-- A client that is about to connect finds the server without a client. -/
theorem client_eq_none_of_locked (h : σ.Sound) (hunique : σ.ClientsUnique) {a : Caller}
    {i : Indication} (hi : σ.indications a = some i) (hstage : i.stage = .locked) :
    (σ.servers i.server).connector.client = none := by
  cases hclient : (σ.servers i.server).connector.client with
  | none => rfl
  | some c =>
      obtain ⟨t, ht⟩ := h.occupants _ c hclient
      obtain ⟨-, hrecord, -⟩ := h.connectionsMatch t _ ht
      have hindicated := h.tokens.indicated a i hi (by simp [hstage, Stage.holdsToken])
      have hsame : c = i.client := by
        refine hunique c i.client (h.tokens.served _ c hclient) hindicated ?_
        exact hrecord.trans (h.ordered.indicationsMatch a i hi).1.symm
      exact absurd (hsame ▸ hclient) (h.pendingApart a i hi (.inr hstage))

/-- A connection is the one of the client that its server has. -/
def ConnectionsOccupy (σ : Runtime) : Prop :=
  ∀ t k, σ.connections t = some k → (σ.servers k.server).connector.client = some k.client

def ConnectedOnce (σ : Runtime) : Prop :=
  ∀ t t' k k', σ.connections t = some k → σ.connections t' = some k' → k.server = k'.server → t = t'

theorem ConnectedOnce.step (h : σ.ConnectedOnce) (hoccupy : σ.ConnectionsOccupy)
    (hsound : σ.Sound) (hunique : σ.ClientsUnique) (hstep : Step σ label σ') :
    σ'.ConnectedOnce := by
  intro t t' k k' hk hk' hserver
  rcases hstep.connection_origin hk with hold | ⟨a, i, hconnects, hnew, rfl⟩
  · rcases hstep.connection_origin hk' with hold' | ⟨a, i, hconnects, hnew, rfl⟩
    · exact h t t' k k' hold hold' hserver
    · have hclient := hoccupy t k hold
      rw [hserver, client_eq_none_of_locked hsound hunique hconnects.indication
        hconnects.stage] at hclient
      cases hclient
  · rcases hstep.connection_origin hk' with hold' | ⟨-, -, -, hnew', -⟩
    · have hclient := hoccupy t' k' hold'
      rw [← hserver, client_eq_none_of_locked hsound hunique hconnects.indication
        hconnects.stage] at hclient
      cases hclient
    · rw [hnew, hnew']

theorem ConnectionsOccupy.step (h : σ.ConnectionsOccupy) (honce : σ.ConnectedOnce)
    (hsound : σ.Sound) (hunique : σ.ClientsUnique) (hstep : Step σ label σ') :
    σ'.ConnectionsOccupy := by
  intro t k hk
  rcases hstep.connection_origin hk with hold | ⟨a, i, hconnects, -, rfl⟩
  · have hclient := h t k hold
    cases hstep.server k.server with
    | make hphase => exact absurd hphase (hsound.served t k hold).1.1
    | connect hconnects hserver =>
        rw [← hserver, client_eq_none_of_locked hsound hunique hconnects.indication
          hconnects.stage] at hclient
        cases hclient
    | resetClient hremoves hserver =>
        -- the removal would be the one of this connection
        have hgone := hremoves.connectionAfter
        rw [honce _ t _ k hremoves.connection hold hserver, hk] at hgone
        cases hgone
    | _ => grind
  · exact hconnects.client

/-- What holds as long as clients of one record are made one after the other. -/
structure Replacing (σ : Runtime) : Prop where
  unique : σ.ClientsUnique
  occupy : σ.ConnectionsOccupy
  connectedOnce : σ.ConnectedOnce

theorem ReachableVia.replacing {ok : Runtime → Label → Prop}
    (hok : ∀ σ label, ok σ label → σ.oneClient label = true) (h : ReachableVia ok σ) :
    σ.Replacing := by
  refine Reach.invariant_of_reach (I := Replacing) ?_ ?_ h
  · exact ⟨fun c c' hc => absurd rfl hc.1, by simp [ConnectionsOccupy], by simp [ConnectedOnce]⟩
  · intro σ label σ' hreach hs hlabel hnext
    have hstep := Step.of_next hnext
    have hsound := ReachableVia.sound hreach
    exact ⟨hs.unique.step (hok σ label hlabel) hstep,
      hs.occupy.step hs.connectedOnce hsound hs.unique hstep,
      hs.connectedOnce.step hs.occupy hsound hs.unique hstep⟩

/-- As long as a client is made only after the destructor of the previous one of its
record has returned, `receive(Connect)` finds no client, and every section of
`remove_client` finds the client whose endpoints are gone. -/
theorem connect_and_removal_meet_own_client
    (h : ReachableVia (fun σ label => σ.oneClient label = true) σ) :
    (∀ a i, σ.indications a = some i → i.stage = .locked →
      (σ.servers i.server).connector.client = none) ∧
    ∀ thread removal, σ.removals thread = some removal →
      ∃ k, σ.connections removal.connection = some k ∧
        (σ.servers k.server).connector.client = some k.client := by
  have hreplacing := h.replacing fun _ _ hok => hok
  refine ⟨fun a i hi hstage => client_eq_none_of_locked h.sound hreplacing.unique hi hstage,
    fun thread removal hremoval => ?_⟩
  obtain ⟨k, hk⟩ := Option.ne_none_iff_exists'.1 (h.sound.referenced.removals thread removal hremoval).1
  exact ⟨k, hk, hreplacing.occupy _ k hk⟩

/-- A server with one event is enabled, and a client is made and connected to it. -/
def connectedClient : List Label :=
  List.flatten [[.makeServerConnector 1 (someKey 0) 1, .enable 1, .enableReturns 1,
    .makeClientConnector 1 (someKey 0)], List.replicate 7 (.indicate (.creation 1)),
    [.creationReturns 1]]

/-- A call outlives the section of the destructor and ends after the next client of
the service was refused a record; its end starts the removal. -/
theorem connect_and_removal_meet_own_client_run :
    ∃ σ : Runtime, ∃ k, σ.connections 0 = some k ∧
      σ.removals (.call 5) = some { connection := 0 } ∧
      (σ.servers k.server).connector.client = some k.client := by
  obtain ⟨σ, hreach, hp⟩ := exists_reach_of_runFrom next
    (fun σ label => σ.oneClient label = true) {}
    (connectedClient.append [.lockServer 5 1, .destroyClientConnector 1,
      .makeClientConnector 2 (someKey 0), .unregisterClient 1, .callReturns 5])
    (fun σ => decide (σ.removals (.call 5) = some { connection := 0 })) (by decide)
  have hremoval := of_decide_eq_true hp
  obtain ⟨k, hk, hclient⟩ :=
    (connect_and_removal_meet_own_client hreach).2 (.call 5) { connection := 0 } hremoval
  exact ⟨σ, k, hk, hremoval, hclient⟩

/-- A call still has an endpoint of the first client when its destructor has left the
record, and a second client is made. -/
def secondClient : List Label :=
  connectedClient.append [.lockServer 5 1, .destroyClientConnector 1, .unregisterClient 1,
    .makeClientConnector 2 (someKey 0), .indicate (.creation 2)]

/-- The second client connects while the first one is there, and the end of the call
removes the second one with its subscription. -/
theorem removal_of_first_drops_second_client :
    (∃ σ, ReachableVia (fun _ _ => True) σ ∧
      σ.indications (.creation 2) = some ⟨2, 1, .locked⟩ ∧
      (σ.servers 1).connector.client = some 1) ∧
    (∃ σ, ReachableVia (fun _ _ => True) σ ∧ σ.removals (.call 5) = some { connection := 0 } ∧
      σ.connections 0 = some ⟨1, 1⟩ ∧ (σ.servers 1).connector.client = some 2 ∧
      (σ.servers 1).connector.subscriber 0 = true) ∧
    ∃ σ, ReachableVia (fun _ _ => True) σ ∧ (σ.clients 2).phase = .alive ∧
      (σ.clients 2).server = some 1 ∧ (σ.servers 1).connector.client = none ∧
      (σ.servers 1).connector.subscriber 0 = false := by
  obtain ⟨σ, hreach, hp⟩ := exists_reach_of_runFrom next (fun _ _ => True) {} secondClient
    (fun σ => decide (σ.indications (.creation 2) = some ⟨2, 1, .locked⟩ ∧
      (σ.servers 1).connector.client = some 1)) (by decide)
  -- the second client subscribes to the event, then the old call returns
  let subscribed : List Label := List.flatten [secondClient,
    List.replicate 6 (.indicate (.creation 2)),
    [.creationReturns 2, .lockServer 6 2, .send 6 (.subscribeEvent 0 .update), .callReturns 6,
      .callReturns 5]]
  obtain ⟨σ', hreach', hp'⟩ := exists_reach_of_runFrom next (fun _ _ => True) {} subscribed
    (fun σ => decide (σ.removals (.call 5) = some { connection := 0 } ∧
      σ.connections 0 = some ⟨1, 1⟩ ∧ (σ.servers 1).connector.client = some 2 ∧
      (σ.servers 1).connector.subscriber 0 = true)) (by decide)
  obtain ⟨σ'', hreach'', hp''⟩ := exists_reach_of_runFrom next (fun _ _ => True) {}
    (subscribed.append (List.replicate 2 (.removeClient (.call 5))))
    (fun σ => decide ((σ.clients 2).phase = .alive ∧ (σ.clients 2).server = some 1 ∧
      (σ.servers 1).connector.client = none ∧ (σ.servers 1).connector.subscriber 0 = false))
    (by decide)
  exact ⟨⟨σ, hreach, of_decide_eq_true hp⟩, ⟨σ', hreach', of_decide_eq_true hp'⟩,
    σ'', hreach'', of_decide_eq_true hp''⟩

end Runtime

end Socom

end SomeipGateway
