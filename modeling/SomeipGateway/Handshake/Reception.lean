import SomeipGateway.Endpoint.Replies
import SomeipGateway.Handshake.Refinement

/-! # An endpoint receives what its half receives

The five handshake messages at an endpoint whose only connection is the peer, and
the same messages at its half.
-/

namespace SomeipGateway

open Handshake

variable {ι : Type} [DecidableEq ι]

namespace Endpoint

variable {env : Env ι} {n n' : Endpoint ι} {key : Key} {peer : ι} {h : Half}
  {effects out : List (Effect ι)}

/-- The endpoint does what its half does with a message. -/
def Receives (key : Key) (peer : ι) (r : Endpoint ι × List (Effect ι)) (h : Half) (m : Msg) :
    Prop :=
  ∃ s, h.receive m = some s ∧ Follows key peer r s

/-! ## Requests -/

theorem Shows.receiveRequest_false (hn : Shows key peer n h) {m : Endpoint ι}
    (hact : n.receiveRequest env peer key false = some (m, effects)) {depth : Nat}
    {r : Endpoint ι × List (Effect ι)} (hperform : perform env depth m effects = some r) :
    Receives key peer r h (.request false) := by
  obtain ⟨n', out⟩ := r
  obtain ⟨b, hb, rfl⟩ := Endpoint.receiveRequest_false hact
  obtain ⟨rfl, hview, -⟩ := Binding.handleRequestServiceMessage_false hb
  obtain ⟨hconn, hnext⟩ := Binding.handleRequestServiceMessage_false_frame hb
  have hcalls : ∀ e ∈ n.binding.unsubscribeEffects peer,
      ∃ k eventId, e = .unsubscribeEvent k eventId := by
    intro e he
    obtain ⟨k, -, eventId, -, -, -, -, rfl⟩ := Binding.exists_of_mem_unsubscribeEffects he
    exact ⟨k, eventId, rfl⟩
  have hshows : Shows key peer { n with binding := b }
      { h with mapped := 0, pending := ∅, interested := false } := by
    refine ⟨⟨hconn.trans hn.connections, ?_, hn.client, hn.busy, hnext.trans hn.next⟩, hn.server⟩
    simp only
    rw [hview]
    have hdropped : ({ n.binding.view key with
        ids := fun c => if c = peer then [] else (n.binding.view key).ids c
        interested := (n.binding.view key).interested.erase peer
        pending := fun r => ((n.binding.view key).pending r).filter fun c => c ≠ peer } :
          ServiceView ι).Shows peer { h with mapped := 0, pending := ∅, interested := false } := by
      refine { hn.view with interested := ?_, pending := fun r => ?_, mapped := by simp }
      · simp only [hn.view.interested]
        cases h.interested <;> simp
      · simp [Option.filter_eq_some_iff]
    exact hdropped.mapState (fun s => (s.removeEventSubscriptions key peer).1) fun _ => rfl
  have hsame : SameButSubscriptions { n with binding := b } n' := by
    refine (perform_subscriptions (C := fun _ => True) (fun e he => .inr ⟨trivial, ?_⟩) hperform).1
    obtain ⟨k, eventId, rfl⟩ := hcalls e he
    exact ⟨k, eventId, .inr rfl⟩
  have hcalm : Calm key { n with binding := b } (n', out) := by
    refine calm_perform (fun e he => ?_) hperform
    obtain ⟨k, eventId, rfl⟩ := hcalls e he
    rfl
  have hafter := hshows.steady hsame.steady
  rw [hsame.binding, show b.nextLocalId = h.next from hnext.trans hn.next] at hafter
  exact ⟨_, rfl, hafter, said_eq_nil hcalm.2⟩

theorem Shows.hasOwner_eq (hn : Shows key peer n h) : n.binding.hasOwner key = h.hasOwner := by
  have hconnector : n.binding.serviceStates.hasConnector key = decide (h.server = some .bridge) := by
    rw [← hn.view.connector]
    unfold ServiceStates.hasConnector
    simp only [Binding.view]
    cases n.binding.serviceStates.lookup key <;> rfl
  have hrequested : ((n.binding.serviceStates.lookup key).any fun state => state.requested) =
      h.requested := by
    rw [← hn.view.requested]
    simp only [Binding.view]
    cases n.binding.serviceStates.lookup key <;> rfl
  rw [Binding.hasOwner, hn.hasClientConnector_eq, hconnector, hrequested]
  rfl

/-- The peer is noted as interested. -/
theorem Shows.noted (hn : Shows key peer n h) :
    Shows key peer { n with binding := n.binding.withInterested key peer }
      { h with interested := true } := by
  refine ⟨⟨hn.connections, ?_, hn.client, hn.busy, hn.next⟩, hn.server⟩
  simp only
  rw [Binding.view_withInterested]
  refine { hn.view with interested := ?_ }
  simp only [hn.view.interested]
  cases h.interested <;> simp

/-- A client of the bridge is registered once the binding has made it. -/
theorem Shows.setClient (hn : Shows key peer n h) {b : Binding ι} {h' : Half}
    (hconn : b.connections = n.binding.connections)
    (hnext : b.nextLocalId = n.binding.nextLocalId) (hview : (b.view key).Shows peer h')
    (hclient : h'.client = some .bridge) (hbusy : h'.busy = h.busy) (hnext' : h'.next = h.next)
    (hserver : h'.server = h.server) :
    Shows key peer
      { n.setRecord key { n.records key with client := some .bridge } with binding := b } h' := by
  refine ⟨⟨hconn.trans hn.connections, hview, ?_, ?_, ?_⟩, ?_⟩
  · simp [hclient]
  · exact hn.busy.trans hbusy.symm
  · exact (hnext.trans hn.next).trans hnext'.symm
  · simpa [hserver] using hn.server

theorem Shows.receiveRequest_true (hlink : ∀ x msg, env.link x msg = true)
    (hn : Shows key peer n h) {m : Endpoint ι}
    (hact : n.receiveRequest env peer key true = some (m, effects)) {depth : Nat}
    {r : Endpoint ι × List (Effect ι)} (hperform : perform env depth m effects = some r) :
    Receives key peer r h (.request true) := by
  have hnoted := hn.noted
  have hlocal := hn.view.localOffer
  have howner := hn.hasOwner_eq
  obtain ⟨hoffer, rfl, rfl⟩ | ⟨hoffer, howns, rfl, rfl⟩ | ⟨hoffer, howns, b, hcreate⟩ :=
    Endpoint.receiveRequest_true hact
  · have hfollows : Follows key peer
        ({ n with binding := n.binding.withInterested key peer },
          [env.send peer (some key) (.offerService key true)])
        ({ h with interested := true }, [.offer true]) :=
      ⟨hnoted, by simp [Env.send, hlink, said_send, Packet.toMsg]⟩
    exact ⟨_, Half.receive_request_of_localOffer (hlocal.symm.trans hoffer),
      hfollows.perform (by simp) hperform⟩
  · have hfollows : Follows key peer
        ({ n with binding := n.binding.withInterested key peer }, [])
        ({ h with interested := true }, []) := ⟨hnoted, rfl⟩
    exact ⟨_, Half.receive_request_of_hasOwner (hlocal.symm.trans hoffer)
      (howner.symm.trans howns), hfollows.perform (by simp) hperform⟩
  · have hlocal : h.localOffer = false := hlocal.symm.trans hoffer
    have howner : h.hasOwner = false := howner.symm.trans howns
    obtain ⟨hclient, hb, rfl⟩ | ⟨server, hclient, hserver, hb, rfl⟩ |
        ⟨hclient, hserver, hb, rfl⟩ := hcreate
    · obtain ⟨rfl, hconn, hnext, hview, -⟩ := Binding.createClientConnector_failed hb
      refine ⟨_, Half.receive_request_of_isSome hlocal howner (hn.client ▸ hclient), ?_⟩
      have hfollows : Follows key peer ({ n with binding := b }, [])
          ({ h with interested := true, hasState := true }, []) := by
        refine ⟨⟨⟨hconn.trans hnoted.connections, ?_, hn.client, hn.busy,
          hnext.trans hn.next⟩, hn.server⟩, rfl⟩
        simp only
        rw [hview]
        exact { hnoted.view with hasState := rfl, settled := rfl }
      exact hfollows.perform (by simp) hperform
    · obtain ⟨-, rfl, hconn, hnext, hview, -⟩ := Binding.createClientConnector_connected hb
      refine ⟨_, Half.receive_request_of_server hlocal howner (hn.client ▸ hclient)
        (by simp [← hn.server, hserver]), ?_⟩
      have hshows : (b.view key).Shows peer
          { h with
            interested := true
            client := some .bridge
            hasState := true
            requested := true
            localOffer := true } := by
        rw [hview]
        exact { hnoted.view with
          hasState := rfl
          requested := rfl
          clientConnector := rfl
          settled := rfl
          localOffer := rfl }
      have hfollows : Follows key peer (_, ((n.binding.withInterested key peer).interested key).map
          fun client => env.send client (some key) (.offerService key true))
          ({ h with interested := true, client := some .bridge }.notify true) :=
        ⟨hn.setClient hconn hnext hshows rfl rfl rfl rfl,
          said_offers hlink hnoted.view.interested true⟩
      refine hfollows.perform (fun e he => ?_) hperform
      obtain ⟨client, -, rfl⟩ := List.mem_map.1 he
      rfl
    · obtain ⟨rfl, hconn, hnext, hview, -⟩ := Binding.createClientConnector_waiting hb
      refine ⟨_, Half.receive_request_of_none hlocal howner (hn.client ▸ hclient)
        (hn.server_eq_none hserver), ?_⟩
      have hshows : (b.view key).Shows peer
          { h with interested := true, client := some .bridge, hasState := true } := by
        rw [hview]
        exact { hnoted.view with hasState := rfl, clientConnector := rfl, settled := rfl }
      have hfollows : Follows key peer (_, []) (_, []) :=
        ⟨hn.setClient hconn hnext hshows rfl rfl rfl rfl, rfl⟩
      exact hfollows.perform (by simp) hperform

/-! ## Offers -/

theorem shows_withdrawn {v : ServiceView ι} (hv : v.Shows peer h) {server : Option ServerKind}
    (hserver : server ≠ some .bridge) :
    ({ v with
        state := some
          { v.state.getD {} with
            offers := (v.state.getD {}).offers.erase peer
            enabledConnector := none
            eventSubscriptions := ∅ }
        ids := fun _ => []
        pending := fun r => (v.pending r).filter fun c => c ≠ peer } : ServiceView ι).Shows peer
      { h with offer := none, pending := ∅, mapped := 0, hasState := true, server := server } := by
  refine { hv with
    hasState := rfl
    offer := by simp
    offered := fun c offer hoffer => ?_
    connector := by simp [hserver]
    pending := fun r => by simp [Option.filter_eq_some_iff]
    mapped := rfl }
  simp only [Option.getD_some, Table.lookup_erase_ite] at hoffer
  split at hoffer
  · cases hoffer
  · exact hv.offered c offer hoffer

theorem Shows.receiveOffer_false (hlink : ∀ x msg, env.link x msg = true)
    (hn : Shows key peer n h) {b : Binding ι}
    (hb : n.binding.handleOfferServiceMessage env peer key false = some (b, effects))
    {depth : Nat} {r : Endpoint ι × List (Effect ι)}
    (hperform : perform env (depth + 1) { n with binding := b } effects = some r) :
    Receives key peer r h (.offer false) := by
  obtain ⟨rfl, hconn, hnext, hview, -⟩ := Binding.handleOfferServiceMessage_false hb
  rw [Binding.enabledConnector_eq] at hperform
  have hshows : ∀ server, server ≠ some .bridge → ShowsButServer key peer { n with binding := b }
      { h with offer := none, pending := ∅, mapped := 0, hasState := true, server := server } := by
    intro server hserver
    refine ⟨hconn.trans hn.connections, ?_, hn.client, hn.busy, hnext.trans hn.next⟩
    simp only
    rw [hview]
    exact shows_withdrawn hn.view hserver
  cases hconnector : ((n.binding.view key).state.getD {}).enabledConnector with
  | none =>
      have hserver : h.server ≠ some .bridge := by
        simpa [hconnector] using hn.view.connector
      rw [hconnector] at hperform
      have hfollows : Follows key peer ({ n with binding := b }, [])
          ({ h with offer := none, pending := ∅, mapped := 0, hasState := true }, []) :=
        ⟨⟨hshows _ hserver, hn.server⟩, rfl⟩
      refine ⟨_, ?_, hfollows.perform (by simp) hperform⟩
      simp [Half.receive, hserver]
  | some connector =>
      have hserver : h.server = some .bridge := by
        simpa [hconnector] using hn.view.connector
      have hsome : ((n.records key).server).isSome = true := by
        rw [← Option.isSome_map, hn.server, hserver]
        rfl
      rw [hconnector, Option.toList_some, List.map_singleton, ← List.nil_append [_]] at hperform
      have hfollows := (hshows none (by simp)).destroyServer hlink rfl hsome (by simp) hperform
      refine ⟨_, ?_, hfollows⟩
      simp [Half.receive, hserver]

theorem shows_withOffer {v : ServiceView ι} (hv : v.Shows peer h) :
    ({ v with
        state := some
          { v.state.getD {} with
            offers := (v.state.getD {}).offers.insert peer
              { ((v.state.getD {}).offers.lookup peer).getD {} with offered := true } } } :
      ServiceView ι).Shows peer
      { h with offer := some (h.offer.getD false), hasState := true } := by
  refine { hv with hasState := rfl, offer := ?_, offered := fun c offer hoffer => ?_ }
  · simp only [Option.getD_some, AList.lookup_insert, Option.map_some, ← hv.offer]
    cases (v.state.getD {}).offers.lookup peer <;> rfl
  · simp only [Option.getD_some, Table.lookup_insert_ite] at hoffer
    split at hoffer
    next hc =>
      cases hoffer
      exact ⟨hc, rfl⟩
    next => exact hv.offered c offer hoffer

theorem Shows.receiveOffer_true (hlink : ∀ x msg, env.link x msg = true)
    (hn : Shows key peer n h) {R : ι → Set Packet} {S : Set (Effect ι)}
    (hknows : n.binding.Knows R S) {b : Binding ι}
    (hb : n.binding.handleOfferServiceMessage env peer key true = some (b, effects))
    {depth : Nat} {r : Endpoint ι × List (Effect ι)}
    (hperform : perform env depth { n with binding := b } effects = some r) :
    Receives key peer r h (.offer true) := by
  rw [Binding.handleOfferServiceMessage_true] at hb
  have hshows : Shows key peer { n with binding := n.binding.withOffer key peer }
      { h with offer := some (h.offer.getD false), hasState := true } := by
    refine ⟨⟨hn.connections, ?_, hn.client, hn.busy, hn.next⟩, hn.server⟩
    simp only
    rw [Binding.view_withOffer]
    exact shows_withOffer hn.view
  have hfresh := fresh_of_knows ((Binding.loses_withOffer n.binding key peer).knows hknows) key
  obtain ⟨hfollows, hinert⟩ := hshows.connectIfDue hlink hfresh hb
  exact ⟨_, rfl, hfollows.perform hinert hperform⟩

/-! ## Connects and replies -/

theorem said_addMapping (b : Binding ι) (client : ι) (ids : Ids) :
    said key peer (b.addMapping client ids).2 = [] := by
  simp only [Binding.addMapping]
  split <;> rfl

/-- One more mapping of the peer. -/
theorem shows_addMapping {b : Binding ι} {ids : Ids} (hv : (b.view key).Shows peer h)
    (hkey : ids.key = key) :
    ((b.addMapping peer ids).1.view key).Shows peer { h with mapped := h.mapped + 1 } := by
  rw [Binding.view_addMapping hkey]
  exact { hv with mapped := by simp [hv.mapped] }

theorem shows_erasePending {b : Binding ι} (hv : (b.view key).Shows peer h) {r : Nat}
    (hpending : b.pendingConnects.lookup r = some ⟨key, peer⟩) :
    (({ b with pendingConnects := b.pendingConnects.erase r } : Binding ι).view key).Shows peer
      { h with pending := h.pending.erase r } := by
  rw [Binding.view_erasePending hpending]
  refine { hv with pending := fun r' => ?_ }
  by_cases hr : r' = r
  · simp [hr]
  · simp [hr, hv.pending]

theorem Shows.receiveConnect (hlink : ∀ x msg, env.link x msg = true) (hn : Shows key peer n h)
    {requiredId : Nat} {metadata : SharedMemoryMetadata} {b : Binding ι}
    (hb : n.binding.handleConnectServiceMessage env peer key requiredId metadata true =
      some (b, effects)) {depth : Nat} {r : Endpoint ι × List (Effect ι)}
    (hperform : perform env depth { n with binding := b } effects = some r) :
    Receives key peer r h (.connect requiredId) := by
  obtain ⟨localMetadata, state, -, hstate, hbinding, heffects⟩ :=
    Binding.handleConnectServiceMessage_true hb
  have hhas : h.hasState = true := by
    rw [← hn.view.hasState, hstate]
    rfl
  have hfollows : Follows key peer ({ n with binding := b }, effects)
      ({ h with mapped := h.mapped + 1, next := h.next + 1 }, [.reply requiredId]) := by
    refine ⟨⟨⟨?_, ?_, hn.client, hn.busy, ?_⟩, hn.server⟩, ?_⟩
    · rw [hbinding]
      exact hn.connections
    · rw [hbinding]
      exact (shows_addMapping hn.view rfl).setNext _
    · rw [hbinding, ← hn.next]
      rfl
    · rw [heffects, said_append, said_addMapping]
      simp [Env.send, hlink, said_send, Packet.toMsg]
  refine ⟨_, if_pos hhas, hfollows.perform (fun e he => ?_) hperform⟩
  rw [heffects] at he
  rcases List.mem_append.1 he with he | he
  · exact Binding.isInert_of_mem_addMapping he
  · rw [List.mem_singleton.1 he]
    rfl

theorem Shows.receiveReply (hn : Shows key peer n h) {requiredId providedId : Nat}
    {metadata : SharedMemoryMetadata} {counts : ServiceCounts} (hreplies : n.replies = [])
    (habout : ∀ k, n.binding.pendingConnects.lookup requiredId = some ⟨k, peer⟩ → k = key)
    {b : Binding ι} {reply : Option (PendingReply ι)}
    (hb : n.binding.handleConnectServiceReplyMessage env peer requiredId providedId metadata
      counts = some (b, effects, reply)) {depth : Nat} {r : Endpoint ι × List (Effect ι)}
    (hperform : perform env depth
      { n with binding := b, replies := n.replies ++ reply.toList } effects = some r) :
    Receives key peer r h (.reply requiredId) := by
  have hpending := hn.view.pending requiredId
  rw [Binding.view_pending_eq_some] at hpending
  obtain ⟨hnone, rfl, rfl, rfl⟩ | ⟨k, hsome, hcases⟩ :=
    Binding.handleConnectServiceReplyMessage_cases hb
  · have hnot : requiredId ∉ h.pending := fun hmem => hnone key (hpending.2 hmem)
    rw [Option.toList_none, List.append_nil] at hperform
    refine ⟨_, ?_, hn.same.perform (by simp) hperform⟩
    rw [Half.receive, if_neg hnot]
  · obtain rfl := habout k hsome
    have hmem := hpending.1 hsome
    obtain ⟨hstate, rfl, rfl, rfl⟩ | ⟨state, localMetadata, hstate, -, hbinding, heffects, rfl⟩ := hcases
    · have hhas : h.hasState = false := by
        rw [← hn.view.hasState, hstate]
        rfl
      rw [Option.toList_none, List.append_nil] at hperform
      have hfollows : Follows k peer
          ({ n with binding :=
            { n.binding with pendingConnects := n.binding.pendingConnects.erase requiredId } }, [])
          ({ h with pending := h.pending.erase requiredId }, []) :=
        ⟨⟨⟨hn.connections, shows_erasePending hn.view hsome, hn.client, hn.busy, hn.next⟩,
          hn.server⟩, rfl⟩
      refine ⟨_, ?_, hfollows.perform (by simp) hperform⟩
      rw [Half.receive, if_pos hmem, if_neg (by simp [hhas])]
    · have hhas : h.hasState = true := by
        rw [← hn.view.hasState, hstate]
        rfl
      have hfollows : Follows k peer
          ({ n with
            binding := b
            replies := n.replies ++
              (some ⟨k, ⟨peer, providedId, requiredId, counts⟩⟩ : Option (PendingReply ι)).toList },
            effects)
          ({ h with
            pending := h.pending.erase requiredId
            mapped := h.mapped + 1
            busy := true }, []) := by
        refine ⟨⟨⟨?_, ?_, hn.client, by simp [Endpoint.busy, hreplies], ?_⟩, hn.server⟩, ?_⟩
        · rw [hbinding]
          exact hn.connections
        · rw [hbinding]
          exact (shows_addMapping (shows_erasePending hn.view hsome) rfl).setBusy true
        · rw [hbinding]
          exact hn.next
        · rw [heffects]
          exact said_addMapping _ _ _
      refine ⟨_, ?_, hfollows.perform
        (fun e he => Binding.isInert_of_mem_addMapping (heffects ▸ he)) hperform⟩
      rw [Half.receive, if_pos hmem, if_pos hhas]

end Endpoint

end SomeipGateway
