import SomeipGateway.Socom.OneServer
import SomeipGateway.Socom.Replacement

/-! # Clients and servers find each other

Whoever enters a record second takes a copy of the other and brings the two together
after the lock is released. With one client and one server of a record at a time,
every registered pair of compatible versions is connected or on its way to be.
-/

namespace SomeipGateway

namespace Socom

/-- The indication has not got as far as `m_server`. -/
def Stage.isPending : Stage → Bool
  | .called | .locked | .connected _ => true
  | _ => false

@[grind =] theorem Stage.isPending_eq_true {stage : Stage} :
    stage.isPending = true ↔ stage = .called ∨ stage = .locked ∨ ∃ t, stage = .connected t := by
  cases stage <;> simp [isPending]

namespace Runtime

variable {σ σ' : Runtime} {label : Label}

/-! ## One server at a time -/

/-- A server that gets its identifier is made when the destructor of every other server
of its record has returned. -/
def oneServer (σ : Runtime) : Label → Bool
  | .makeServerConnector _ key _ =>
      decide (key ∈ σ.identifiers) ||
        !σ.servers.any fun _ server =>
          decide server.phase.IsAlive && recordKey server.key = recordKey key
  | _ => true

theorem oneServer_makeServerConnector {s : ServerId} {key : Key} {numEvents : Nat}
    (h : σ.oneServer (.makeServerConnector s key numEvents) = true) (hnew : key ∉ σ.identifiers)
    (s' : ServerId) (halive : (σ.servers s').phase.IsAlive) :
    recordKey (σ.servers s').key ≠ recordKey key := by
  simp only [oneServer, hnew, decide_false, Bool.false_or, Bool.not_eq_true'] at h
  have hnone := (Store.any_eq_false (fun _ => rfl)).1 h s'
  simpa [halive] using hnone

def ServersUnique (σ : Runtime) : Prop :=
  ∀ s s', (σ.servers s).phase.IsAlive → (σ.servers s').phase.IsAlive →
    recordKey (σ.servers s).key = recordKey (σ.servers s').key → s = s'

theorem ServersUnique.step (h : σ.ServersUnique) (hok : σ.oneServer label = true)
    (hstep : Step σ label σ') : σ'.ServersUnique := by
  intro s s' hs hs' hkey
  rcases hstep.server_of_alive hs with ⟨halive, hsame⟩ | ⟨n, rfl, hnew⟩
  · rcases hstep.server_of_alive hs' with ⟨halive', hsame'⟩ | ⟨n, rfl, hnew⟩
    · exact h s s' halive halive' (by rw [← hsame, ← hsame', hkey])
    · rw [hsame] at hkey
      exact absurd hkey (oneServer_makeServerConnector hok hnew s halive)
  · rcases hstep.server_of_alive hs' with ⟨halive', hsame'⟩ | ⟨n', hlabel, -⟩
    · rw [hsame'] at hkey
      exact absurd hkey.symm (oneServer_makeServerConnector hok hnew s' halive')
    · exact (Label.makeServerConnector.inj hlabel).1

/-- A single server of a record has no registered server of another minor version
beside it. -/
theorem ServersUnique.oneMinorVersion (h : σ.ServersUnique) (hstep : Step σ label σ') :
    σ.oneMinorVersion label = true := by
  cases hstep with
  | @enable s hphase =>
      refine oneMinorVersion_enable.2 fun s' hs' hkey => ?_
      rw [h s' s (by grind) (by grind) hkey]
  | _ => rfl

/-- The steps of the runs with one client and one server of a record at a time. -/
def oneOfEach (σ : Runtime) (label : Label) : Bool := σ.oneClient label && σ.oneServer label

/-! ## Clients that are told -/

/-- The client that is told that a service goes away is of the record of the server. -/
def NotifiedMatch (σ : Runtime) : Prop :=
  ∀ s c, (σ.servers s).phase.isFor c = true →
    recordKey (σ.clients c).key = recordKey (σ.servers s).key

theorem NotifiedMatch.step (h : σ.NotifiedMatch) (hsound : σ.Sound) (hstep : Step σ label σ') :
    σ'.NotifiedMatch := by
  intro s c hfor
  have hbefore : (σ.clients c).phase ≠ .absent ∧ (σ.servers s).phase ≠ .absent ∧
      recordKey (σ.clients c).key = recordKey (σ.servers s).key := by
    rcases hstep.server_isFor hfor with hold | ⟨hphase, -, hclient⟩
    · exact ⟨(hsound.tokens.notified s c hold).1, by grind, h s c hold⟩
    · obtain ⟨t, ht⟩ := hsound.occupants s c hclient
      obtain ⟨hpresent, hrecord, -⟩ := hsound.connectionsMatch t _ ht
      exact ⟨hpresent, by simp [hphase], hrecord⟩
  obtain ⟨hpresent, hpresent', hrecord⟩ := hbefore
  rwa [(hstep.client_key hpresent).2, (hstep.server_key hpresent').2]

/-! ## What a step keeps -/

/-- A pending indication stays pending, unless it sets the endpoint of its client, or it
finds the client in its destructor or the server disabled. -/
theorem Step.indication_of_pending (hstep : Step σ label σ') (hordered : σ.Ordered)
    {a : Caller} {i : Indication} (hi : σ.indications a = some i)
    (hstage : i.stage.isPending = true) :
    (∃ stage, σ'.indications a = some { i with stage := stage } ∧ stage.isPending = true) ∨
      (σ'.clients i.client).server ≠ none ∨ (σ'.clients i.client).phase.ownsToken = false ∨
      (σ.servers i.server).connector.listening = false := by
  have hgone : (σ.clients i.client).phase.ownsToken = false →
      (σ'.clients i.client).phase.ownsToken = false := by
    intro htoken
    rw [← Bool.not_eq_true]
    intro howns
    exact absurd (hstep.ownsToken_of_present (hordered.present hi).1 howns) (by simp [htoken])
  rcases hordered.indication_next hstep hi with hsame | ⟨stage, hmove, heq⟩ | hreturned
  · exact .inl ⟨i.stage, hsame, hstage⟩
  · cases hmove with
    | lockToken => exact .inl ⟨_, heq, rfl⟩
    | connect => exact .inl ⟨_, heq, rfl⟩
    | setServer hsets => exact .inr (.inl (by simp [hsets.server]))
    | tokenGone _ htoken | destructorStarted _ htoken => exact .inr (.inr (.inl (hgone htoken)))
    | notListening _ hlistening => exact .inr (.inr (.inr hlistening))
    | available hlater | leave hlater | releaseToken hlater =>
        simp [hlater, Stage.isPending] at hstage
  · simp [hreturned, Stage.isPending] at hstage

/-! ## Pairs -/

/-- A registered pair has met, or whoever came second is about to bring it together. -/
def PairsMeet (σ : Runtime) : Prop :=
  ∀ c s, (σ.clients c).phase.ownsToken = true → (σ.servers s).phase.IsRegistered →
    recordKey (σ.clients c).key = recordKey (σ.servers s).key →
    isMinorVersionCompatible (σ.servers s).key.service (σ.clients c).key.service = true →
    (σ.clients c).server ≠ none ∨ ∃ i,
      (σ.indications (.creation c) = some i ∨ σ.indications (.enable s) = some i) ∧
        i.client = c ∧ i.server = s ∧ i.stage.isPending = true

/-- The server that is enabled finds the client in the record. -/
theorem Step.indication_of_enable (hclients : σ.ClientsRegistered) {c : ClientId} {s : ServerId}
    (hstep : Step σ (.enable s) σ') (howns : (σ.clients c).phase.ownsToken = true)
    (hrecord : recordKey (σ.clients c).key = recordKey (σ.servers s).key)
    (hcompatible : isMinorVersionCompatible (σ.servers s).key.service
      (σ.clients c).key.service = true) :
    σ'.indications (.enable s) = some ⟨c, s, .called⟩ := by
  cases hstep with
  | enable hphase =>
      have hclient := hclients c (by grind)
      rw [hrecord] at hclient
      simp [hclient, startIndication, hcompatible]

/-- The client that is made finds the server in the record. -/
theorem Step.indication_of_makeClientConnector (hservers : σ.ServersRegistered) {c : ClientId}
    {s : ServerId} {key : Key} (hstep : Step σ (.makeClientConnector c key) σ')
    (howns : (σ'.clients c).phase.ownsToken = true) (hs : (σ.servers s).phase.IsRegistered)
    (hrecord : recordKey key = recordKey (σ.servers s).key)
    (hcompatible : isMinorVersionCompatible (σ.servers s).key.service key.service = true) :
    σ'.indications (.creation c) = some ⟨c, s, .called⟩ := by
  cases hstep with
  | recordTaken hphase htaken => simp [hphase, ClientPhase.ownsToken] at howns
  | makeClientConnector hphase hfree =>
      have hserver := hservers s hs
      rw [← hrecord] at hserver
      simp [hserver, startIndication, hcompatible]

theorem PairsMeet.step (h : σ.PairsMeet) (hsound : σ.Sound) (hnotified : σ.NotifiedMatch)
    (hservers : σ.ServersUnique) (hregistered : σ.ServersRegistered)
    (hstep : Step σ label σ') : σ'.PairsMeet := by
  intro c s howns hs hrecord hcompatible
  obtain ⟨hserverKey, hs'⟩ := hstep.server_of_registered hs
  rw [hserverKey] at hrecord hcompatible
  rcases hstep.client_of_ownsToken howns with ⟨howns', hclientKey⟩ | ⟨-, hlabel⟩
  · rw [hclientKey] at hrecord hcompatible
    rcases hs' with hs' | rfl
    · rcases h c s howns' hs' hrecord hcompatible with hserver | ⟨i, hi, rfl, rfl, hstage⟩
      · -- the server that is going away would be the one that is registered
        rcases hstep.server_ne_none hserver (by grind) howns with hserver' | ⟨s', hs'', -⟩
        · exact .inl hserver'
        have hsame := hservers s' s (by grind) (by grind)
          ((hnotified s' c (by simp [hs'', ServerPhase.isFor])).symm.trans hrecord)
        grind
      · have hlistening := (hsound.listens i.server).2 (.inl hs')
        have hkept : ∀ a, σ.indications a = some i → (σ'.clients i.client).server ≠ none ∨
            ∃ stage, σ'.indications a = some { i with stage := stage } ∧
              stage.isPending = true := by
          intro a ha
          have hpending := hstep.indication_of_pending hsound.ordered ha hstage
          grind
        rcases hi with hi | hi
        · rcases hkept _ hi with hserver | ⟨stage, hstage', hpending⟩
          · exact .inl hserver
          · exact .inr ⟨_, .inl hstage', rfl, rfl, hpending⟩
        · rcases hkept _ hi with hserver | ⟨stage, hstage', hpending⟩
          · exact .inl hserver
          · exact .inr ⟨_, .inr hstage', rfl, rfl, hpending⟩
    · exact .inr ⟨_, .inr (hstep.indication_of_enable hsound.ordered.clientsRegistered howns'
        hrecord hcompatible), rfl, rfl, rfl⟩
  · subst hlabel
    have hs' := hs'.resolve_right (by simp)
    exact .inr ⟨_, .inl (hstep.indication_of_makeClientConnector hregistered howns hs' hrecord
      hcompatible), rfl, rfl, rfl⟩

/-- What holds as long as the clients and the servers of one record are made one after
the other. -/
structure Matched (σ : Runtime) : Prop where
  servers : σ.ServersUnique
  registered : σ.ServersRegistered
  notified : σ.NotifiedMatch
  meet : σ.PairsMeet

theorem Matched.step (h : σ.Matched) (hsound : σ.Sound) (hunique : σ.IdentifiersUnique)
    (hok : σ.oneServer label = true) (hstep : Step σ label σ') : σ'.Matched where
  servers := h.servers.step hok hstep
  registered := h.registered.step hunique (h.servers.oneMinorVersion hstep) hstep
  notified := h.notified.step hsound hstep
  meet := h.meet.step hsound h.notified h.servers h.registered hstep

theorem Matched.init : Matched {} where
  servers := fun s s' hs => absurd rfl hs.1
  registered := by simp [ServersRegistered, default]
  notified := by simp [NotifiedMatch, default, ServerPhase.isFor]
  meet := by simp [PairsMeet, default]

theorem ReachableVia.matched {ok : Runtime → Label → Prop}
    (hok : ∀ σ label, ok σ label → σ.oneServer label = true) (h : ReachableVia ok σ) :
    σ.Matched :=
  Reach.invariant_of_reach .init (fun σ label _ hreach hs hlabel hnext =>
    hs.step (ReachableVia.sound hreach) (ReachableVia.identifiers hreach).2
      (hok σ label hlabel) (.of_next hnext)) h

/-! ## One `Connect` in a period -/

def ConnectsPast (σ : Runtime) : Prop :=
  ∀ c s p, (c, s, p) ∈ σ.connects →
    (σ.clients c).phase ≠ .absent ∧ (σ.servers s).phase ≠ .absent ∧ p ≤ (σ.servers s).period

theorem ConnectsPast.step (h : σ.ConnectsPast) (hordered : σ.Ordered)
    (hstep : Step σ label σ') : σ'.ConnectsPast := by
  intro c s p hp
  have hbefore : (σ.clients c).phase ≠ .absent ∧ (σ.servers s).phase ≠ .absent ∧
      p ≤ (σ.servers s).period := by
    rcases hstep.connects with heq | ⟨a, i, -, hconnects⟩
    · exact h c s p (heq ▸ hp)
    · rw [hconnects.connects] at hp
      rcases List.mem_cons.1 hp with heq | hold
      · cases heq
        obtain ⟨hpresent, hpresent', -⟩ := hordered.present hconnects.indication
        exact ⟨hpresent, hpresent', Nat.le_refl _⟩
      · exact h c s p hold
  obtain ⟨hpresent, hpresent', hle⟩ := hbefore
  refine ⟨(hstep.client_key hpresent).1, (hstep.server_key hpresent').1, ?_⟩
  rcases hstep.period hpresent' with heq | ⟨-, heq⟩ <;> omega

/-- An indication before its `Connect` is the first of its client in the period. -/
def PendingFirst (σ : Runtime) : Prop :=
  ∀ a i, σ.indications a = some i → i.stage = .called ∨ i.stage = .locked →
    (i.client, i.server, (σ.servers i.server).period) ∉ σ.connects

theorem PendingFirst.step (h : σ.PendingFirst) (hordered : σ.Ordered) (hpast : σ.ConnectsPast)
    (hstep : Step σ label σ') : σ'.PendingFirst := by
  intro a i hi hstage hmem
  have horigin := hstep.indication_origin hi
  have hold : (i.client, i.server, (σ'.servers i.server).period) ∉ σ.connects := by
    intro hmem'
    cases horigin with
    | old hj hclient hserver hmove =>
        obtain ⟨-, hpresent, hdisabled⟩ := hordered.present hj
        have hperiod := (hstep.period hpresent).resolve_right fun hnew => hdisabled hnew.1
        rw [hclient, hserver, hperiod] at hmem'
        exact h a _ hj (hmove.elim (fun heq => heq ▸ hstage) (·.pending hstage)) hmem'
    | enable ha hphase hx heq =>
        subst heq
        have hle := (hpast _ _ _ hmem').2.2
        cases hstep with
        | enable =>
            simp only [startIndication_server, Store.set_apply, if_true] at hle
            omega
    | make ha hphase hfree hx heq =>
        subst heq
        exact (hpast _ _ _ hmem').1 hphase
  rcases hstep.connects with heq | ⟨b, j, rfl, hconnects⟩
  · exact hold (heq ▸ hmem)
  · rw [hconnects.connects] at hmem
    rcases List.mem_cons.1 hmem with heq | hmem'
    · -- the indication that connects is no longer before its `Connect`
      cases horigin with
      | old hk hclient hserver =>
          obtain rfl := hordered.caller_unique hk hconnects.indication
            (hclient.symm.trans (congrArg Prod.fst heq))
            (hserver.symm.trans (congrArg (·.2.1) heq))
          rw [hconnects.indicationAfter] at hi
          cases hi
          simp at hstage
    · exact hold hmem'

theorem ReachableVia.connects_nodup {ok : Runtime → Label → Prop} (h : ReachableVia ok σ) :
    σ.connects.Nodup := by
  suffices hall : σ.connects.Nodup ∧ σ.ConnectsPast ∧ σ.PendingFirst from hall.1
  refine Reach.invariant_of_reach
    (I := fun σ => σ.connects.Nodup ∧ σ.ConnectsPast ∧ σ.PendingFirst) ?_ ?_ h
  · exact ⟨List.nodup_nil, by simp [ConnectsPast], by simp [PendingFirst]⟩
  · intro σ label σ' hreach hs _ hnext
    have hstep := Step.of_next hnext
    have hordered := ReachableVia.ordered hreach
    refine ⟨?_, hs.2.1.step hordered hstep, hs.2.2.step hordered hs.2.1 hstep⟩
    rcases hstep.connects with heq | ⟨a, i, -, hconnects⟩
    · rw [heq]
      exact hs.1
    · rw [hconnects.connects]
      exact List.nodup_cons.2 ⟨hs.2.2 a i hconnects.indication (.inr hconnects.stage), hs.1⟩

/-! ## Complete matching -/

/-- All calls have returned, as a test on the finite part of the stores. -/
def isQuiescent (σ : Runtime) : Bool :=
  !(σ.indications.any fun _ i => i.isSome) && !(σ.calls.any fun _ t => t.isSome) &&
    !(σ.removals.any fun _ r => r.isSome) &&
    !(σ.servers.any fun _ server => server.phase ∉
      [.absent, .disabled, .enabled, .destroyed]) &&
    !σ.clients.any fun _ client => client.phase ∉ [.absent, .alive, .destroyed]

theorem quiescent_of_isQuiescent (h : σ.isQuiescent = true) : σ.Quiescent := by
  simp only [isQuiescent, Bool.and_eq_true, Bool.not_eq_true'] at h
  obtain ⟨⟨⟨⟨hindications, hcalls⟩, hremovals⟩, hservers⟩, hclients⟩ := h
  refine ⟨fun a => ?_, fun n => ?_, fun thread => ?_, fun s => ?_, fun c => ?_⟩
  · simpa using (Store.any_eq_false (fun _ => rfl)).1 hindications a
  · simpa using (Store.any_eq_false (fun _ => rfl)).1 hcalls n
  · simpa using (Store.any_eq_false (fun _ => rfl)).1 hremovals thread
  · simpa only [decide_eq_false_iff_not, Decidable.not_not, List.mem_cons, List.not_mem_nil,
      or_false] using (Store.any_eq_false (fun _ => rfl)).1 hservers s
  · simpa only [decide_eq_false_iff_not, Decidable.not_not, List.mem_cons, List.not_mem_nil,
      or_false] using (Store.any_eq_false (fun _ => rfl)).1 hclients c

/-- Each of the two has an endpoint of the other. -/
def IsConnected (σ : Runtime) (c : ClientId) (s : ServerId) : Prop :=
  (σ.servers s).connector.client = some c ∧
    ∃ t, (σ.clients c).server = some t ∧ σ.connections t = some ⟨c, s⟩

/-- The two are of one id, major version and instance, and the minor version of the
client is at most the one of the server. -/
def IsMatch (client server : Key) : Prop :=
  client.service.serviceId = server.service.serviceId ∧
    client.service.major = server.service.major ∧ client.instanceId = server.instanceId ∧
    client.service.minor ≤ server.service.minor

theorem isMatch_iff {client server : Key} :
    IsMatch client server ↔ recordKey client = recordKey server ∧
      isMinorVersionCompatible server.service client.service = true := by
  simp [IsMatch, recordKey, isMinorVersionCompatible, and_assoc]

/-- Two that met in one record are connected once nobody is between two sections. -/
theorem isConnected_of_isMatch (hsound : σ.Sound) (hreplacing : σ.Replacing)
    (hmatched : σ.Matched) (hquiet : σ.Quiescent) {c : ClientId} {s : ServerId}
    (hc : (σ.clients c).phase = .alive) (hs : (σ.servers s).phase = .enabled)
    (hmatch : IsMatch (σ.clients c).key (σ.servers s).key) : σ.IsConnected c s := by
  obtain ⟨hrecord, hcompatible⟩ := isMatch_iff.1 hmatch
  have hmeet := hmatched.meet c s (by simp [hc, ClientPhase.ownsToken]) (.inr hs) hrecord hcompatible
  simp only [hquiet.indications, reduceCtorEq, or_self, false_and, exists_false, or_false] at hmeet
  obtain ⟨t, ht⟩ := Option.ne_none_iff_exists'.1 hmeet
  obtain ⟨-, s', hs'⟩ := hsound.referenced.clients c t ht
  -- the server of the connection is of the same record, so it is the one
  have hsame : s' = s := by
    refine hmatched.servers s' s (hsound.served t _ hs').1 (by rw [hs]; decide) ?_
    exact (hsound.connectionsMatch t _ hs').2.1.symm.trans hrecord
  subst hsame
  exact ⟨hreplacing.occupy t _ hs', t, ht, hs'⟩

/-- With one client and one server of a record at a time, a client and an enabled server
are connected exactly when they match, whenever all calls have returned; and a client
connects at most once in a period of a server. -/
theorem matching_complete (h : ReachableVia (fun σ label => σ.oneOfEach label = true) σ) :
    (σ.Quiescent → ∀ c s, (σ.clients c).phase = .alive → (σ.servers s).phase = .enabled →
      (σ.IsConnected c s ↔ IsMatch (σ.clients c).key (σ.servers s).key)) ∧
    σ.connects.Nodup := by
  have hreplacing := h.replacing fun _ _ hok => (Bool.and_eq_true_iff.1 hok).1
  have hmatched := h.matched fun _ _ hok => (Bool.and_eq_true_iff.1 hok).2
  refine ⟨fun hquiet c s hc hs => ⟨?_, ?_⟩, h.connects_nodup⟩
  · rintro ⟨-, t, -, ht⟩
    exact isMatch_iff.2 (h.sound.connectionsMatch t _ ht).2
  · exact isConnected_of_isMatch h.sound hreplacing hmatched hquiet hc hs

/-- The client comes first, and the server is disabled and enabled again. -/
theorem matching_complete_after_reconnect :
    ∃ σ : Runtime, (σ.servers 1).period = 2 ∧ σ.connects.length = 2 ∧ σ.IsConnected 1 1 ∧
      σ.connects.Nodup := by
  obtain ⟨σ, hreach, hp⟩ := exists_reach_of_runFrom next
    (fun σ label => σ.oneOfEach label = true) {}
    (List.flatten [[.makeServerConnector 1 (someKey 1) 1, .makeClientConnector 1 (someKey 0),
        .creationReturns 1, .enable 1], List.replicate 7 (.indicate (.enable 1)),
      [.enableReturns 1, .disable 1 false, .stopListening 1, .copyClient 1, .resetServer 1,
        .removeClient (.disable 1), .removeClient (.disable 1), .notAvailable 1, .disableReturns 1,
        .enable 1], List.replicate 7 (.indicate (.enable 1)), [.enableReturns 1]])
    (fun σ => σ.isQuiescent && decide ((σ.clients 1).phase = .alive ∧
      (σ.servers 1).phase = .enabled ∧ (σ.servers 1).period = 2 ∧ σ.connects.length = 2 ∧
      (σ.clients 1).key = someKey 0 ∧ (σ.servers 1).key = someKey 1)) (by decide)
  simp only [Bool.and_eq_true, decide_eq_true_eq] at hp
  obtain ⟨hquiet, hclient, hserver, hperiod, hconnects, hkey, hkey'⟩ := hp
  obtain ⟨hiff, hnodup⟩ := matching_complete hreach
  refine ⟨σ, hperiod, hconnects, ?_, hnodup⟩
  refine (hiff (quiescent_of_isQuiescent hquiet) 1 1 hclient hserver).2 ?_
  rw [hkey, hkey']
  exact isMatch_iff.2 ⟨rfl, rfl⟩

end Runtime

end Socom

end SomeipGateway
