import SomeipGateway.Handshake.Projection

/-! # An endpoint follows its half

Every step of an endpoint whose only connection is the peer does to its half what
the handshake machine does, and tells the peer the same.
-/

namespace SomeipGateway

open Handshake

variable {ι : Type} [DecidableEq ι]

namespace Endpoint

/-- The outcome of a step is the one of the machine. -/
structure Follows (key : Key) (peer : ι) (r : Endpoint ι × List (Effect ι)) (s : Half × List Msg) :
    Prop where
  shows : Shows key peer r.1 s.1
  said : said key peer r.2 = s.2

variable {env : Env ι} {n n' : Endpoint ι} {key : Key} {peer : ι} {h : Half}
  {effects out : List (Effect ι)}

theorem Shows.same (hn : Shows key peer n h) : Follows key peer (n, []) (h, []) :=
  ⟨hn, rfl⟩

/-- Messages change nothing at the endpoint that sends them. -/
theorem Follows.perform {s : Half × List Msg} (hfollows : Follows key peer (n, effects) s)
    (hinert : ∀ e ∈ effects, e.isInert = true) {depth : Nat} {r : Endpoint ι × List (Effect ι)}
    (hperform : perform env depth n effects = some r) : Follows key peer r s := by
  rw [perform_inert depth hinert] at hperform
  cases hperform
  exact hfollows

theorem Follows.prepend {s : Half × List Msg} (hfollows : Follows key peer (n, out) s)
    {msgs : List Msg} (hsaid : SomeipGateway.said key peer effects = msgs) :
    Follows key peer (n, effects ++ out) (s.1, msgs ++ s.2) := by
  refine ⟨hfollows.shows, ?_⟩
  rw [said_append, hsaid, ← hfollows.said]

theorem said_offers {peers : List ι} (hlink : ∀ x msg, env.link x msg = true)
    {interested : Bool} (hpeers : peers = if interested then [peer] else []) (offered : Bool) :
    said key peer (peers.map fun client =>
      env.send client (some key) (.offerService key offered)) =
      if interested then [.offer offered] else [] := by
  subst hpeers
  cases interested with
  | false => rfl
  | true =>
      simp only [if_true, List.map_cons, List.map_nil, Env.send, hlink, said_send]
      simp [Packet.toMsg]

theorem ShowsButServer.notify (hlink : ∀ x msg, env.link x msg = true)
    (hn : ShowsButServer key peer n h) {isAvailable : Bool} {counts : ServiceCounts}
    (hnotify : n.notifyClient env key isAvailable counts = some (n', effects)) :
    ShowsButServer key peer n' (h.notify isAvailable).1 ∧ n'.records = n.records ∧
      said key peer effects = (h.notify isAvailable).2 ∧ ∀ e ∈ effects, e.isInert = true := by
  obtain ⟨hclient, rfl, rfl⟩ | ⟨hclient, b, hb, rfl⟩ := notifyClient_cases hnotify
  · rw [hn.client] at hclient
    rw [Half.notify, if_neg hclient]
    exact ⟨hn, rfl, rfl, by simp⟩
  · have hbridge := hn.client ▸ hclient
    rw [Half.notify, if_pos hbridge]
    obtain ⟨-, hframe, heffects⟩ := Binding.serviceStateChange_eq_some.1 hb
    refine ⟨⟨?_, ?_, hn.client, hn.busy, ?_⟩, rfl, ?_, ?_⟩
    · rw [hframe]
      exact hn.connections
    · simp only
      rw [Binding.view_serviceStateChange hb]
      refine ⟨rfl, rfl, hn.view.offer, hn.view.offered, hn.view.connector, hn.view.clientConnector,
        hn.view.settled, rfl, hn.view.interested, hn.view.pending, ?_⟩
      cases isAvailable with
      | false => rfl
      | true => exact hn.view.mapped
    · rw [hframe]
      exact hn.next
    · rw [heffects]
      exact said_offers hlink hn.view.interested isAvailable
    · rw [heffects]
      intro e he
      obtain ⟨client, -, rfl⟩ := List.mem_map.1 he
      rfl

/-! ## Servers -/

theorem ShowsButServer.setRecord (hn : ShowsButServer key peer n h) (record : Record ι)
    (hclient : record.client = (n.records key).client) :
    ShowsButServer key peer (n.setRecord key record) h :=
  ⟨hn.connections, hn.view, by simpa [hclient] using hn.client, hn.busy, hn.next⟩

/-- A server that the binding has no connector of comes or goes. -/
theorem ShowsButServer.setServer (hn : ShowsButServer key peer n h) (server : Option ServerKind)
    (hold : h.server ≠ some .bridge) (hnew : server ≠ some .bridge) :
    ShowsButServer key peer n { h with server := server } := by
  refine ⟨hn.connections, { hn.view with connector := ?_ }, hn.client, hn.busy, hn.next⟩
  simpa [hold, hnew] using hn.view.connector

theorem Shows.server_eq_none (hn : Shows key peer n h) (hserver : (n.records key).server = none) :
    h.server = none := by
  rw [← hn.server, hserver]
  rfl

theorem Shows.enable (hlink : ∀ x msg, env.link x msg = true) (hn : Shows key peer n h)
    {counts : ServiceCounts} {r : Endpoint ι × List (Effect ι)}
    (hstep : n.step env (.enableServerConnector key counts) = some r) :
    Follows key peer r (h.act .enable) := by
  obtain ⟨m, effects, hact, hperform⟩ := step_eq_some.1 hstep
  have hserver := hn.server
  simp only [act] at hact
  split at hact
  next server hsome =>
    rw [hsome, Option.map_some] at hserver
    cases hact
    rw [Half.act, ← hserver]
    exact hn.same.perform (by simp) hperform
  next hnone =>
    have hserver := hn.server_eq_none hnone
    have hmade := (hn.setServer (some .application) (by simp [hserver])
      (by simp)).setRecord { n.records key with server := some (.application counts) } rfl
    obtain ⟨hshows, hrecords, hsaid, hinert⟩ := hmade.notify hlink hact
    rw [Half.act, hserver]
    have hfollows : Follows key peer (m, effects)
        ({ h with server := some .application }.notify true) :=
      ⟨⟨hshows, by simp [hrecords, Server.kind]⟩, hsaid⟩
    exact hfollows.perform hinert hperform

/-- A server of the record is gone; the binding has no connector of it. -/
theorem ShowsButServer.disable (hlink : ∀ x msg, env.link x msg = true)
    (hn : ShowsButServer key peer n h) (hnone : h.server = none)
    (hsome : (n.records key).server.isSome = true)
    (hdisable : n.disableServer env key = some (n', effects)) :
    Follows key peer (n', effects) (h.notify false) ∧ ∀ e ∈ effects, e.isInert = true := by
  obtain ⟨hserver, -⟩ | ⟨server, -, hnotify⟩ := disableServer_cases hdisable
  · simp [hserver] at hsome
  · obtain ⟨hshows, hrecords, hsaid, hinert⟩ := (hn.setRecord _ (by rfl)).notify hlink hnotify
    exact ⟨⟨⟨hshows, by simp [hrecords, hnone]⟩, hsaid⟩, hinert⟩

theorem Shows.disable (hlink : ∀ x msg, env.link x msg = true) (hn : Shows key peer n h)
    {r : Endpoint ι × List (Effect ι)}
    (hstep : n.step env (.disableServerConnector key) = some r) :
    Follows key peer r (h.act .disable) := by
  obtain ⟨m, effects, hact, hperform⟩ := step_eq_some.1 hstep
  have hserver := hn.server
  simp only [act] at hact
  split at hact
  next counts hsome =>
    rw [hsome, Option.map_some] at hserver
    obtain ⟨hfollows, hinert⟩ := (hn.setServer none (by simp [← hserver, Server.kind])
      (by simp)).disable hlink rfl (by simp [hsome]) hact
    rw [Half.act, ← hserver]
    exact hfollows.perform hinert hperform
  next hother =>
    cases hact
    have hidle : h.act .disable = (h, []) := by
      rw [Half.act, ← hserver]
      cases hcase : (n.records key).server with
      | none => rfl
      | some server =>
          cases server with
          | application counts => exact absurd hcase (hother counts)
          | bridge connector => rfl
    rw [hidle]
    exact hn.same.perform (by simp) hperform

/-- The messages of a section, and the end of the connector that it gave up. -/
theorem ShowsButServer.destroyServer (hlink : ∀ x msg, env.link x msg = true)
    (hn : ShowsButServer key peer n h) (hnone : h.server = none)
    (hsome : (n.records key).server.isSome = true) (hinert : ∀ e ∈ effects, e.isInert = true)
    {connector : EnabledConnector ι} {depth : Nat} {r : Endpoint ι × List (Effect ι)}
    (hperform : perform env (depth + 1) n (effects ++ [.destroyServerConnector key connector]) =
      some r) :
    Follows key peer r ((h.notify false).1, said key peer effects ++ (h.notify false).2) := by
  obtain ⟨n', out⟩ := r
  rw [perform_append, perform_inert _ hinert, Option.bind_some, Option.map_eq_some_iff] at hperform
  obtain ⟨⟨m, last⟩, hlast, heq⟩ := hperform
  cases heq
  obtain ⟨u, caused, v, more, rest, hone, hmore, hrest, rfl⟩ := perform_cons_eq_some.1 hlast
  obtain ⟨hfollows, hcaused⟩ := hn.disable hlink hnone hsome hone
  cases hrest
  obtain ⟨hshows, hsaid⟩ := hfollows.perform hcaused hmore
  refine ⟨hshows, ?_⟩
  rw [List.append_nil, said_append, said_destroyServerConnector, hsaid]

/-- The connector is stored where the service still has a state. -/
theorem ShowsButServer.store (hn : ShowsButServer key peer n h) (hstate : h.hasState = true)
    (connector : EnabledConnector ι) :
    ShowsButServer key peer
      { n with
        binding :=
          { n.binding with
            serviceStates := (n.binding.serviceStates.addServerConnector key connector).1 } }
      { h with server := some .bridge } := by
  obtain ⟨hasState, requested, offer, offered, -, clientConnector, settled, localOffer, interested,
    pending, mapped⟩ := hn.view
  obtain ⟨s, hs⟩ := Option.isSome_iff_exists.1 (hasState.trans hstate)
  rw [hs] at hasState requested offer offered clientConnector settled
  refine ⟨hn.connections, ?_, hn.client, hn.busy, hn.next⟩
  simp only
  rw [Binding.view_addServerConnector, hs]
  exact ⟨hasState, requested, offer, offered, by simp, clientConnector, settled, localOffer,
    interested, pending, mapped⟩

theorem ShowsButServer.store_none (hn : ShowsButServer key peer n h) (hstate : h.hasState = false)
    (connector : EnabledConnector ι) :
    ShowsButServer key peer
      { n with
        binding :=
          { n.binding with
            serviceStates := (n.binding.serviceStates.addServerConnector key connector).1 } } h := by
  have hgone : (n.binding.view key).state = none := by
    simpa [hstate] using hn.view.hasState
  have hview := Binding.view_addServerConnector n.binding key connector
  rw [hgone, Option.map_none, ← hgone] at hview
  exact ⟨hn.connections, hview ▸ hn.view, hn.client, hn.busy, hn.next⟩

/-- The second section of the reply handler, with the reply that it is about. -/
theorem Shows.finish (hlink : ∀ x msg, env.link x msg = true) (hn : Shows key peer n h)
    {reply : PendingReply ι} (hkey : reply.key = key) (hreplies : n.replies = [reply])
    (hreply : n.replyOf peer = some reply) {r : Endpoint ι × List (Effect ι)}
    (hstep : n.step env (.finishReply peer) = some r) :
    Follows key peer r (h.act (if key ∈ n.made then .refuse else .finish)) := by
  obtain ⟨m, effects, hact, hperform⟩ := step_eq_some.1 hstep
  simp only [act, hreply] at hact
  subst hkey
  have hbusy : h.busy = true := by
    rw [← hn.busy]
    simp [Endpoint.busy, hreplies]
  have hfree : ShowsButServer reply.key peer { n with replies := n.replies.erase reply }
      { h with busy := false } :=
    ⟨hn.connections, hn.view.setBusy false, hn.client, by simp [Endpoint.busy, hreplies], hn.next⟩
  obtain ⟨hheld, rfl, rfl⟩ | ⟨⟨hnone, hfree'⟩, m, offers, hm, rfl, rfl⟩ := finishReply_cases hact
  · have hact : h.act (if reply.key ∈ n.made then .refuse else .finish) =
        ({ h with busy := false }, []) := by
      split
      next => exact if_pos hbusy
      next hmade =>
        rw [Half.act, if_pos hbusy, ← hn.server]
        obtain ⟨server, hserver⟩ := Option.isSome_iff_exists.1 (hheld.resolve_right hmade)
        rw [hserver]
        rfl
    have hfollows : Follows reply.key peer
        ({ n with replies := n.replies.erase reply }, [.assertFailed .serverConnectorFailed])
        ({ h with busy := false }, []) := ⟨⟨hfree, hn.server⟩, rfl⟩
    rw [hact]
    exact hfollows.perform (by simp [Effect.isInert]) hperform
  · rw [if_neg hfree']
    have hserver := hn.server_eq_none hnone
    obtain ⟨hshows, hrecords, hsaid, hinert⟩ := (hfree.setRecord _ (by rfl)).notify hlink hm
    have hmade : (m.records reply.key).server = some (.bridge reply.connector) := by
      simp [hrecords]
    cases hstate : h.hasState with
    | true =>
        have hkept : ({ h with busy := false }.notify true).1.hasState = true := by
          unfold Half.notify
          split
          · rfl
          · exact hstate
        have hsnd :
            (m.binding.serviceStates.addServerConnector reply.key reply.connector).2 = none := by
          rw [Binding.addServerConnector_snd, hshows.view.hasState, if_pos hkept]
          simpa [hserver] using hshows.view.connector
        rw [hsnd, Option.toList_none, List.map_nil, List.append_nil] at hperform
        have hact : h.act .finish =
            ({ ({ h with busy := false }.notify true).1 with server := some .bridge },
              ({ h with busy := false }.notify true).2) := by
          rw [← Half.notify_setServer]
          simp [Half.act, hbusy, hserver, hstate]
        rw [hact]
        have hfollows : Follows reply.key peer (_, offers)
            ({ ({ h with busy := false }.notify true).1 with server := some .bridge },
              ({ h with busy := false }.notify true).2) :=
          ⟨⟨hshows.store hkept reply.connector, by simp [hmade, Server.kind]⟩, hsaid⟩
        exact hfollows.perform hinert hperform
    | false =>
        have hclient : h.client ≠ some .bridge := by
          have hgone : (n.binding.view reply.key).state = none := by
            simpa [hstate] using hn.view.hasState
          simpa [hgone] using hn.view.clientConnector
        have hsilent : ∀ isAvailable, { h with busy := false }.notify isAvailable =
            ({ h with busy := false }, []) := fun _ => if_neg hclient
        rw [hsilent] at hshows hsaid
        have hsnd : (m.binding.serviceStates.addServerConnector reply.key reply.connector).2 =
            some reply.connector := by
          rw [Binding.addServerConnector_snd, hshows.view.hasState]
          simp [hstate]
        rw [hsnd] at hperform
        have hfollows := (hshows.store_none hstate reply.connector).destroyServer hlink hserver
          (by simp [hmade]) hinert hperform
        rw [hsilent, hsaid] at hfollows
        simpa [Half.act, hbusy, hserver, hstate] using hfollows

/-! ## Connects -/

/-- The offers of a binding with one peer, in the order of its table. -/
theorem keys_offers {v : ServiceView ι} (hv : v.Shows peer h) :
    (v.state.getD {}).offers.keys = [] ∨ (v.state.getD {}).offers.keys = [peer] := by
  have honly : ∀ c ∈ (v.state.getD {}).offers.keys, c = peer := by
    intro c hc
    obtain ⟨offer, hoffer⟩ := Table.mem_keys_iff_lookup.1 hc
    exact (hv.offered c offer hoffer).1
  have hnodup := (v.state.getD {}).offers.keys_nodup
  cases hkeys : (v.state.getD {}).offers.keys with
  | nil => exact .inl rfl
  | cons c rest =>
      rw [hkeys] at honly hnodup
      obtain rfl := honly c List.mem_cons_self
      cases rest with
      | nil => exact .inr rfl
      | cons d rest =>
          obtain rfl := honly d (by simp)
          simp at hnodup

/-- The state of a binding that has sent a connect for the offer of the peer. -/
theorem sendConnectServiceTo_due (hlink : ∀ x msg, env.link x msg = true) {b b' : Binding ι}
    {s : ServiceState ι} {offer : OfferState} (hstate : b.serviceStates.lookup key = some s)
    (hoffer : s.offers.lookup peer = some offer) (hoffered : offer.offered = true)
    (hsent : offer.connectSent = false) (hid : offer.requiredId = 0)
    (hunused : b.pendingConnects.lookup b.nextLocalId = none)
    (hsend : Binding.sendConnectServiceTo env key b peer = some (b', effects)) :
    ∃ metadata,
      b' =
        { b with
          serviceStates := b.serviceStates.insert key
            { s with offers := s.offers.insert peer ⟨true, true, b.nextLocalId⟩ }
          nextLocalId := b.nextLocalId + 1
          pendingConnects := b.pendingConnects.insert b.nextLocalId ⟨key, peer⟩ } ∧
      effects = [.send peer (some key) (.connectService key b.nextLocalId metadata true) true] := by
  simp only [Binding.sendConnectServiceTo, hstate, hoffer, hoffered, hsent, hid, Bool.not_false,
    Bool.and_self, if_true, Option.bind_eq_bind, Option.bind_eq_some_iff] at hsend
  obtain ⟨metadata, -, hsend⟩ := hsend
  split at hsend
  next =>
    cases hsend
    refine ⟨metadata, ?_, by rw [Env.send, hlink]⟩
    simp [Binding.emplacePending, hunused, hlink]
  next => cases hsend

theorem shows_connect {v : ServiceView ι} {s : ServiceState ι} (hv : v.Shows peer h)
    (hs : v.state = some s) (id : Nat) :
    ({ v with
        state := some { s with offers := s.offers.insert peer ⟨true, true, id⟩ }
        pending := fun r => if r = id then some peer else v.pending r } : ServiceView ι).Shows peer
      { h with offer := some true, pending := insert id h.pending } := by
  obtain ⟨hasState, requested, offer, offered, connector, clientConnector, settled, localOffer,
    interested, pending, mapped⟩ := hv
  rw [hs] at hasState requested offered connector clientConnector settled
  refine ⟨hasState, requested, by simp, fun c o ho => ?_, connector, clientConnector, settled,
    localOffer, interested, fun r => ?_, mapped⟩
  · simp only [Option.getD_some, Table.lookup_insert_ite] at ho
    split at ho
    next hc =>
      cases ho
      exact ⟨hc, rfl⟩
    next => exact offered c o ho
  · by_cases hr : r = id
    · simp [hr]
    · simp [hr, pending]

/-- `maybe_send_connect_service_locked` at a binding whose handles are fresh. -/
theorem follows_maybeSendConnect (hlink : ∀ x msg, env.link x msg = true) {b b' : Binding ι}
    (hconn : b.connections = [peer]) (hv : (b.view key).Shows peer h)
    (hnext : b.nextLocalId = h.next) (hfresh : OffersFresh (b.view key))
    (hunused : b.pendingConnects.lookup b.nextLocalId = none)
    (hsend : b.maybeSendConnectServiceLocked env key = some (b', effects)) :
    (b'.view key).Shows peer h.connectIfDue.1 ∧ b'.connections = [peer] ∧
      b'.nextLocalId = h.connectIfDue.1.next ∧ said key peer effects = h.connectIfDue.2 ∧
      ∀ e ∈ effects, e.isInert = true := by
  have hidle : ¬ (h.requested = true ∧ h.offer = some false) → b' = b → effects = [] →
      (b'.view key).Shows peer h.connectIfDue.1 ∧ b'.connections = [peer] ∧
      b'.nextLocalId = h.connectIfDue.1.next ∧ said key peer effects = h.connectIfDue.2 ∧
      ∀ e ∈ effects, e.isInert = true := by
    rintro hdue rfl rfl
    rw [Half.connectIfDue, if_neg hdue]
    exact ⟨hv, hconn, hnext, rfl, by simp⟩
  have hreq := hv.requested
  have hoffer := hv.offer
  have hkeys := keys_offers hv
  unfold Binding.maybeSendConnectServiceLocked at hsend
  split at hsend
  next hnone =>
    cases hsend
    refine hidle (fun hdue => ?_) rfl rfl
    simp [Binding.view, hnone, hdue.1] at hreq
  next s hstate =>
    rw [show (b.view key).state = some s from hstate, Option.getD_some] at hreq hoffer hkeys
    split at hsend
    next hrequested =>
      rcases hkeys with hkeys | hkeys
      · rw [hkeys] at hsend
        cases hsend
        refine hidle (fun hdue => ?_) rfl rfl
        rw [hdue.2, Option.map_eq_some_iff] at hoffer
        obtain ⟨offer, hlookup, -⟩ := hoffer
        have hmem := Table.mem_keys_iff_lookup.2 ⟨offer, hlookup⟩
        simp [hkeys] at hmem
      · simp only [hkeys, foldEffects, Option.bind_eq_bind, Option.bind_eq_some_iff, Prod.exists,
          Option.some.injEq, Prod.mk.injEq] at hsend
        obtain ⟨c, first, hfirst, _, _, ⟨rfl, rfl⟩, rfl, rfl⟩ := hsend
        rw [List.append_nil] at *
        obtain ⟨offer, hlookup⟩ := Table.mem_keys_iff_lookup.1 (show peer ∈ s.offers.keys by
          simp [hkeys])
        have hoffered := (hv.offered peer offer (by simpa [Binding.view, hstate] using hlookup)).2
        rw [hlookup, Option.map_some] at hoffer
        cases hsent : offer.connectSent with
        | true =>
            have hsame : b = c ∧ [] = first := by
              simpa [Binding.sendConnectServiceTo, hstate, hlookup, hsent] using hfirst
            refine hidle (fun hdue => ?_) hsame.1.symm hsame.2.symm
            simp [hdue.2, hsent] at hoffer
        | false =>
            have hid := hfresh peer offer (by simpa [Binding.view, hstate] using hlookup) hsent
            obtain ⟨metadata, rfl, rfl⟩ := sendConnectServiceTo_due hlink hstate hlookup hoffered
              hsent hid hunused hfirst
            have hdue : h.requested = true ∧ h.offer = some false :=
              ⟨hreq ▸ hrequested, by rw [← hoffer, hsent]⟩
            rw [Half.connectIfDue, if_pos hdue]
            refine ⟨?_, hconn, by simp [hnext], ?_, by simp [Effect.isInert]⟩
            · have hview := (shows_connect hv hstate b.nextLocalId).setNext (h.next + 1)
              rw [hnext] at hview ⊢
              convert hview using 1
              ext1 <;> try rfl
              · simp [Binding.view]
              · funext r
                by_cases hr : r = h.next
                · simp [Binding.view, hr]
                · simp [Binding.view, hr]
            · simp [said_send, Packet.toMsg, hnext]
    next hrequested =>
      cases hsend
      exact hidle (fun hdue => hrequested (hreq.trans hdue.1)) rfl rfl

/-- The handles of the service that are given out next were not used before. -/
structure Fresh (key : Key) (b : Binding ι) : Prop where
  offers : OffersFresh (b.view key)
  unused : b.pendingConnects.lookup b.nextLocalId = none

theorem fresh_of_knows {R : ι → Set Packet} {S : Set (Effect ι)} {b : Binding ι}
    (hb : b.Knows R S) (key : Key) : Fresh key b := by
  refine ⟨(hb.view key).offers, Option.eq_none_iff_forall_ne_some.2 fun pending hpending => ?_⟩
  have hsent := (hb.view pending.key).pending b.nextLocalId pending.client
    (Binding.view_pending_eq_some.2 hpending)
  exact absurd (hb.history.connect_lt _ _ _ hsent) (lt_irrefl _)

theorem Shows.connectIfDue (hlink : ∀ x msg, env.link x msg = true) (hn : Shows key peer n h)
    (hfresh : Fresh key n.binding) {b : Binding ι}
    (hsend : n.binding.maybeSendConnectServiceLocked env key = some (b, effects)) :
    Follows key peer ({ n with binding := b }, effects) h.connectIfDue ∧
      ∀ e ∈ effects, e.isInert = true := by
  obtain ⟨hview, hconn, hnext, hsaid, hinert⟩ := follows_maybeSendConnect hlink hn.connections
    hn.view hn.next hfresh.offers hfresh.unused hsend
  refine ⟨⟨⟨⟨hconn, hview, ?_, ?_, hnext⟩, ?_⟩, hsaid⟩, hinert⟩
  · rw [Half.connectIfDue_client]
    exact hn.client
  · rw [Half.connectIfDue_busy]
    exact hn.busy
  · rw [Half.connectIfDue_server]
    exact hn.server

/-! ## Clients of the application -/

theorem Shows.hasClientConnector_eq (hn : Shows key peer n h) :
    n.binding.serviceStates.hasClientConnector key = decide (h.client = some .bridge) := by
  rw [Binding.hasClientConnector_eq, hn.view.settled, hn.view.clientConnector, Bool.false_or]

theorem said_sendToAll (hlink : ∀ x msg, env.link x msg = true) {b : Binding ι}
    (hconn : b.connections = [peer]) (inUse : Bool) :
    said key peer (b.sendToAll env (some key) (.requestService key inUse)) = [.request inUse] := by
  simp [Binding.sendToAll, hconn, Env.send, hlink, said_send, Packet.toMsg]

omit [DecidableEq ι] in
theorem isInert_sendToAll {b : Binding ι} {about : Option Key} {msg : Message} {e : Effect ι}
    (he : e ∈ b.sendToAll env about msg) : e.isInert = true := by
  obtain ⟨client, -, rfl⟩ := List.mem_map.1 he
  rfl

/-- The client of the application waits for a server. -/
theorem Shows.wait (hn : Shows key peer n h) (hclient : h.client = none) (counts : ServiceCounts) :
    Shows key peer
      { n.setRecord key { n.records key with client := some (.application true) } with
        binding :=
          { n.binding with
            serviceStates := n.binding.serviceStates.insert key
              { n.binding.serviceStates.getOrCreate key with
                counts := counts
                requested := true } } }
      { h with client := some (.application true), hasState := true, requested := true } := by
  refine ⟨⟨hn.connections, ?_, by simp, hn.busy, hn.next⟩, by simpa using hn.server⟩
  simp only
  rw [Binding.view_insertState]
  refine ⟨rfl, rfl, hn.view.offer, hn.view.offered, hn.view.connector, ?_, hn.view.settled,
    hn.view.localOffer, hn.view.interested, hn.view.pending, hn.view.mapped⟩
  have hnone := hn.view.clientConnector
  rw [hclient] at hnone
  exact hnone

theorem Shows.make (hlink : ∀ x msg, env.link x msg = true) (hn : Shows key peer n h)
    (hfresh : Fresh key n.binding) {counts : ServiceCounts} {r : Endpoint ι × List (Effect ι)}
    (hstep : n.step env (.makeClientConnector key counts) = some r) :
    Follows key peer r (h.act .make) := by
  obtain ⟨m, effects, hact, hperform⟩ := step_eq_some.1 hstep
  have hserver := hn.server
  have hclient := hn.client
  cases hc : (n.records key).client with
  | some client =>
      have hresult : n.clientConnectorResult key = .failed := by simp [clientConnectorResult, hc]
      simp only [act, hresult] at hact
      cases hact
      rw [Half.act, ← hclient, hc]
      exact hn.same.perform (by simp) hperform
  | none =>
      cases hs : (n.records key).server with
      | some server =>
          have hresult : n.clientConnectorResult key = .connected server.counts := by
            simp [clientConnectorResult, hc, hs]
          simp only [act, hresult] at hact
          cases hact
          rw [Half.act_make_of_isSome (hclient ▸ hc) (by simp [← hserver, hs])]
          have hfollows : Follows key peer (n.setRecord key { n.records key with
              client := some (.application false) }, [])
              ({ h with client := some (.application false) }, []) := by
            refine ⟨⟨⟨hn.connections, { hn.view with clientConnector := ?_ }, by simp, hn.busy,
              hn.next⟩, ?_⟩, rfl⟩
            · simpa [← hclient, hc] using hn.view.clientConnector
            · simpa using hn.server
          exact hfollows.perform (by simp) hperform
      | none =>
          have hresult : n.clientConnectorResult key = .waiting := by
            simp [clientConnectorResult, hc, hs]
          simp only [act, hresult] at hact
          obtain ⟨b, hb, rfl⟩ := setBinding_eq_some.1 hact
          have hsilent : n.binding.serviceStates.hasClientConnector key = false := by
            rw [hn.hasClientConnector_eq, ← hclient, hc]
            rfl
          obtain ⟨more, hmore, rfl⟩ := (Binding.sendRequestService_true hsilent).1 hb
          obtain ⟨hfollows, hinert⟩ := (hn.wait (hclient ▸ hc) counts).connectIfDue hlink
            ⟨((Binding.recedes_requested n.binding key counts).offers key).fresh hfresh.offers,
              hfresh.unused⟩ hmore
          rw [Half.act_make_of_none (hclient ▸ hc) (hn.server_eq_none hs)]
          have hasked : said key peer (.requestSent key true ::
              n.binding.sendToAll env (some key) (.requestService key true)) = [.request true] :=
            said_sendToAll hlink hn.connections true
          refine (hfollows.prepend hasked).perform (fun e he => ?_) hperform
          rcases List.mem_append.1 he with he | he
          · rcases List.mem_cons.1 he with rfl | he
            · rfl
            · exact isInert_sendToAll he
          · exact hinert e he

theorem said_unsubscribeAll (n : Endpoint ι) (key' : Key) :
    said key peer (n.unsubscribeAll env key') = [] :=
  said_eq_nil fun _ he => Effect.touches_of_concerns (tellsPeer_of_mem_unsubscribeAll he).concerns

/-- The binding forgets the service that its application no longer asks for. -/
theorem Shows.forget (hn : Shows key peer n h) {server : Option ServerKind}
    (hserver : server ≠ some .bridge) (dangling : List (PendingReply ι)) :
    ShowsButServer key peer
      { n.setRecord key { n.records key with client := none, subscribed := ∅ } with
        binding := n.binding.unrequested key, dangling := dangling }
      { h with
        client := none
        server := server
        hasState := false
        requested := false
        offer := none
        pending := ∅
        mapped := 0 } := by
  refine ⟨hn.connections, ?_, by simp, hn.busy, hn.next⟩
  simp only
  rw [Binding.view_unrequested]
  exact ⟨rfl, rfl, rfl, by simp, by simp [hserver], rfl, rfl, hn.view.localOffer,
    hn.view.interested, by simp, rfl⟩

theorem Shows.destroy (hlink : ∀ x msg, env.link x msg = true) (hn : Shows key peer n h)
    {r : Endpoint ι × List (Effect ι)}
    (hstep : n.step env (.destroyClientConnector key) = some r) :
    Follows key peer r (h.act .destroy) := by
  obtain ⟨m, effects, hact, hperform⟩ := step_eq_some.1 hstep
  have hclient := hn.client
  simp only [act] at hact
  split at hact
  next bridged hc =>
    obtain ⟨b, caused, rfl, rfl, ⟨rfl, rfl, rfl⟩ | ⟨rfl, hb⟩⟩ := destroyClient_cases hact
    · rw [Half.act_destroy_of_unbridged (hclient ▸ hc)]
      have hfollows : Follows key peer
          ({ n.setRecord key { n.records key with client := none, subscribed := ∅ } with
              binding := n.binding, dangling := n.dangling ++ n.erased n.binding },
            n.unsubscribeAll env key ++ []) ({ h with client := none }, []) := by
        refine ⟨⟨⟨hn.connections, { hn.view with clientConnector := ?_ }, by simp, hn.busy,
          hn.next⟩, by simpa using hn.server⟩, ?_⟩
        · simpa [← hclient, hc] using hn.view.clientConnector
        · simp [said_unsubscribeAll]
      refine hfollows.perform (fun e he => ?_) hperform
      rw [List.append_nil] at he
      exact Effect.isInert_of_isSend (tellsPeer_of_mem_unsubscribeAll he).isSend
    · have hsilent : n.binding.serviceStates.hasClientConnector key = false := by
        rw [hn.hasClientConnector_eq, ← hclient, hc]
        rfl
      rw [Binding.sendRequestService_false hsilent, Option.some.injEq, Prod.mk.injEq] at hb
      obtain ⟨rfl, rfl⟩ := hb
      rw [Binding.enabledConnector_eq, ← List.append_assoc] at hperform
      rw [Half.act_destroy_of_bridged (hclient ▸ hc)]
      have hasked : said key peer (n.unsubscribeAll env key ++ .requestSent key false ::
          n.binding.sendToAll env (some key) (.requestService key false)) = [.request false] := by
        rw [said_append, said_unsubscribeAll, said_requestSent,
          said_sendToAll hlink hn.connections, List.nil_append]
      have hinert : ∀ e ∈ n.unsubscribeAll env key ++ .requestSent key false ::
          n.binding.sendToAll env (some key) (.requestService key false), e.isInert = true := by
        intro e he
        rcases List.mem_append.1 he with he | he
        · exact Effect.isInert_of_isSend (tellsPeer_of_mem_unsubscribeAll he).isSend
        · rcases List.mem_cons.1 he with rfl | he
          · rfl
          · exact isInert_sendToAll he
      cases hconnector : ((n.binding.view key).state.getD {}).enabledConnector with
      | none =>
          have hserver : h.server ≠ some .bridge := by
            simpa [hconnector] using hn.view.connector
          rw [hconnector, Option.toList_none, List.map_nil, List.append_nil] at hperform
          rw [if_neg hserver]
          have hfollows : Follows key peer (_, n.unsubscribeAll env key ++ .requestSent key false ::
              n.binding.sendToAll env (some key) (.requestService key false)) (_, [.request false]) :=
            ⟨⟨hn.forget hserver (n.dangling ++ n.erased (n.binding.unrequested key)),
              by simpa using hn.server⟩, hasked⟩
          exact hfollows.perform hinert hperform
      | some connector =>
          have hserver : h.server = some .bridge := by
            simpa [hconnector] using hn.view.connector
          rw [hconnector, Option.toList_some, List.map_singleton] at hperform
          rw [if_pos hserver]
          have hsome : ((n.records key).server).isSome = true := by
            rw [← Option.isSome_map, hn.server, hserver]
            rfl
          have hfollows := (hn.forget (by simp) _).destroyServer hlink rfl (by simpa using hsome)
            hinert hperform
          rw [hasked] at hfollows
          simpa [Half.notify] using hfollows
  next hother =>
    cases hact
    have hidle : h.act .destroy = (h, []) := by
      rw [Half.act, ← hclient]
      cases hcase : (n.records key).client with
      | none => rfl
      | some client =>
          cases client with
          | application bridged => exact absurd hcase (hother bridged)
          | bridge => rfl
    rw [hidle]
    exact hn.same.perform (by simp) hperform

end Endpoint

end SomeipGateway
