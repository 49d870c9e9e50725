import SomeipGateway.Socom.Lifecycle

/-! # Connections and the tokens that keep them

What holds of the connections in every run: every endpoint of a server belongs to a
connection that is there, `remove_client` runs once for a connection and after its last
endpoint is gone, and a client is not destroyed while a server or an indication has
its stop token.
-/

namespace SomeipGateway

namespace Socom

namespace Runtime

variable {σ σ' : Runtime} {label : Label}

/-! ## Endpoints -/

def ConnectionsFresh (σ : Runtime) : Prop :=
  ∀ t, σ.nextConnection ≤ t → σ.connections t = none

theorem ConnectionsFresh.step (h : σ.ConnectionsFresh) (hstep : Step σ label σ') :
    σ'.ConnectionsFresh := by
  cases hstep with
  | connect hi hstage hlistening =>
      intro t ht
      have hne : t ≠ σ.nextConnection := by
        rintro rfl
        exact absurd ht (Nat.not_succ_le_self _)
      simp only [Store.set_apply, if_neg hne]
      exact h t (Nat.le_of_succ_le ht)
  | resetClient hremoval hconnection =>
      intro t ht
      rw [Store.set_apply]
      split
      next => rfl
      next => exact h t ht
  | _ => first | exact h | (rw [dropEndpoint_eq]; exact h)

/-- The server of a client is a connection of its own, and the destructor has not
started. -/
def ClientsRefer (σ : Runtime) : Prop :=
  ∀ c t, (σ.clients c).server = some t →
    ((σ.clients c).phase = .creating ∨ (σ.clients c).phase = .alive) ∧
      ∃ s, σ.connections t = some ⟨c, s⟩

def IndicationsRefer (σ : Runtime) : Prop :=
  ∀ a i t, σ.indications a = some i → i.stage.connection = some t →
    σ.connections t = some ⟨i.client, i.server⟩

def CallsRefer (σ : Runtime) : Prop :=
  ∀ n t, σ.calls n = some t → σ.connections t ≠ none

/-- `remove_client` runs for a connection that is there and has no endpoint. -/
def RemovalsRefer (σ : Runtime) : Prop :=
  ∀ thread r, σ.removals thread = some r →
    σ.connections r.connection ≠ none ∧ (∀ c, (σ.clients c).server ≠ some r.connection) ∧
      (∀ a i, σ.indications a = some i → i.stage.connection ≠ some r.connection) ∧
      ∀ n, σ.calls n ≠ some r.connection

def RemovedOnce (σ : Runtime) : Prop :=
  ∀ thread thread' r r', σ.removals thread = some r → σ.removals thread' = some r' →
    r.connection = r'.connection → thread = thread'

/-- The connections and the places that refer to them. -/
structure Referenced (σ : Runtime) : Prop where
  fresh : σ.ConnectionsFresh
  clients : σ.ClientsRefer
  indications : σ.IndicationsRefer
  calls : σ.CallsRefer
  removals : σ.RemovalsRefer
  removedOnce : σ.RemovedOnce

/-- A connection with an endpoint is there. -/
theorem Referenced.connected (h : σ.Referenced) {t : ConnectionId}
    (hreferenced : σ.referenced t = true) : ∃ k, σ.connections t = some k := by
  rcases referenced_eq_true.1 hreferenced with ⟨c, hc⟩ | ⟨a, i, hi, hstage⟩ | ⟨n, hn⟩
  · obtain ⟨-, s, hs⟩ := h.clients c t hc
    exact ⟨_, hs⟩
  · exact ⟨_, h.indications a i t hi hstage⟩
  · exact Option.ne_none_iff_exists'.1 (h.calls n t hn)

theorem Referenced.nextConnection_unreferenced (h : σ.Referenced) :
    σ.referenced σ.nextConnection = false := by
  rw [← Bool.not_eq_true]
  intro hreferenced
  obtain ⟨k, hk⟩ := h.connected hreferenced
  rw [h.fresh _ (Nat.le_refl _)] at hk
  cases hk

theorem Referenced.unreferenced (h : σ.Referenced) {thread : Thread} {removal : Removal}
    (hremoval : σ.removals thread = some removal) : σ.referenced removal.connection = false :=
  referenced_eq_false.2 (h.removals thread removal hremoval).2

/-- A connection lasts as long as it has an endpoint. -/
theorem Referenced.connection_kept (h : σ.Referenced) (hstep : Step σ label σ')
    {t : ConnectionId} (hreferenced : σ.referenced t = true) :
    σ'.connections t = σ.connections t := by
  cases hstep.connection t with
  | kept heq => exact heq
  | connect _ ht =>
      rw [ht, h.nextConnection_unreferenced] at hreferenced
      cases hreferenced
  | resetClient hremoves ht =>
      rw [ht, h.unreferenced hremoves.removal] at hreferenced
      cases hreferenced

/-- A connection without an endpoint lasts until its removal has removed the client. -/
theorem Referenced.removal_connection_kept (h : σ.Referenced) (hstep : Step σ label σ')
    {thread : Thread} {r r' : Removal} (hr : σ.removals thread = some r)
    (hr' : σ'.removals thread = some r') :
    σ'.connections r.connection = σ.connections r.connection := by
  cases hstep.connection r.connection with
  | kept heq => exact heq
  | connect _ ht => exact absurd (h.fresh _ (Nat.le_of_eq ht.symm)) (h.removals thread r hr).1
  | resetClient hremoves ht =>
      have hdone := hremoves.removalAfter
      rw [h.removedOnce _ _ _ _ hremoves.removal hr ht.symm, hr'] at hdone
      cases hdone

theorem ClientsRefer.step (h : σ.Referenced) (hstep : Step σ label σ') : σ'.ClientsRefer := by
  intro c t hc
  have hbefore : σ.referenced t = true ∧ ∃ s, σ.connections t = some ⟨c, s⟩ := by
    rcases hstep.client_server hc with hold | ⟨a, i, hsets, rfl⟩
    · exact ⟨referenced_eq_true.2 (.inl ⟨c, hold⟩), (h.clients c t hold).2⟩
    · have hconnection : i.stage.connection = some t := by rw [hsets.stage]; rfl
      exact ⟨referenced_eq_true.2 (.inr (.inl ⟨a, i, hsets.indication, hconnection⟩)), i.server,
        h.indications a i t hsets.indication hconnection⟩
  obtain ⟨hreferenced, hconnection⟩ := hbefore
  rw [h.connection_kept hstep hreferenced]
  refine ⟨?_, hconnection⟩
  have hphase := h.clients c t
  cases hstep.client c with
  | setServer hsets hclient heq =>
      rw [heq]
      exact ClientPhase.ownsToken_eq_true.1 (hclient ▸ hsets.token)
  | _ => grind

theorem IndicationsRefer.step (h : σ.Referenced) (hstep : Step σ label σ') :
    σ'.IndicationsRefer := by
  intro a i t hi hstage
  rcases hstep.indication_connection hi hstage with ⟨j, hj, hclient, hserver, hold⟩ | ⟨-, hnew⟩
  · have hreferenced := referenced_eq_true.2 (.inr (.inl ⟨a, j, hj, hold⟩))
    rw [h.connection_kept hstep hreferenced, hclient, hserver]
    exact h.indications a j t hj hold
  · exact hnew

theorem CallsRefer.step (h : σ.Referenced) (hstep : Step σ label σ') : σ'.CallsRefer := by
  intro n t hn
  have hreferenced : σ.referenced t = true := by
    rcases hstep.call hn with hold | hclient
    · exact referenced_eq_true.2 (.inr (.inr ⟨n, hold⟩))
    · exact referenced_eq_true.2 (.inl hclient)
  obtain ⟨k, hk⟩ := h.connected hreferenced
  simp [h.connection_kept hstep hreferenced, hk]

/-- A connection without an endpoint gets no new one. -/
theorem RemovalsRefer.step (h : σ.Referenced) (hstep : Step σ label σ') : σ'.RemovalsRefer := by
  intro thread r hr
  rw [← referenced_eq_false]
  rcases hstep.removal hr with ⟨r₀, hr₀, heq⟩ | ⟨hheld, hlast, -⟩
  · rw [← heq]
    obtain ⟨hconnection, -⟩ := h.removals thread r₀ hr₀
    refine ⟨?_, ?_⟩
    · rwa [h.removal_connection_kept hstep hr₀ hr]
    · rw [← Bool.not_eq_true]
      intro hreferenced
      rcases hstep.referenced hreferenced with hold | hnew
      · rw [h.unreferenced hr₀] at hold
        cases hold
      · exact hconnection (h.fresh _ (Nat.le_of_eq hnew.symm))
  · obtain ⟨k, hk⟩ := h.connected hheld
    exact ⟨by simp [h.connection_kept hstep hheld, hk], hlast⟩

theorem RemovedOnce.step (h : σ.Referenced) (hstep : Step σ label σ') : σ'.RemovedOnce := by
  intro thread thread' r r' hr hr' hsame
  -- a removal that starts is the only one that is new, and its connection had none
  have hstarts : ∀ {first second : Thread} {x y : Removal}, σ'.removals second = some y →
      x.connection = y.connection → σ.referenced x.connection = true →
      (∀ other, other ≠ first → σ'.removals other = σ.removals other) → first = second := by
    intro first second x y hy hxy hheld hothers
    by_contra hne
    rw [hothers second (Ne.symm hne)] at hy
    rw [hxy, h.unreferenced hy] at hheld
    cases hheld
  rcases hstep.removal hr with ⟨r₀, hr₀, heq⟩ | ⟨hheld, -, hothers⟩
  · rcases hstep.removal hr' with ⟨r₀', hr₀', heq'⟩ | ⟨hheld', -, hothers'⟩
    · exact h.removedOnce _ _ _ _ hr₀ hr₀' (by rw [heq, heq', hsame])
    · exact (hstarts hr hsame.symm hheld' hothers').symm
  · exact hstarts hr' hsame hheld hothers

theorem Referenced.step (h : σ.Referenced) (hstep : Step σ label σ') : σ'.Referenced where
  fresh := h.fresh.step hstep
  clients := .step h hstep
  indications := .step h hstep
  calls := .step h hstep
  removals := .step h hstep
  removedOnce := .step h hstep

/-! ## Tokens -/

/-- A server takes clients from `enable` to the section of `disable`. -/
def ListensWhileEnabled (σ : Runtime) : Prop :=
  ∀ s, (σ.servers s).connector.listening = true ↔
    (σ.servers s).phase.IsRegistered ∨ (σ.servers s).phase = .unregistered

theorem ListensWhileEnabled.step (h : σ.ListensWhileEnabled) (hstep : Step σ label σ') :
    σ'.ListensWhileEnabled := by
  intro s
  have hbefore := h s
  cases hstep.server s <;> grind

/-- A client is there as long as an indication has its stop token. -/
def IndicatedAlive (σ : Runtime) : Prop :=
  ∀ a i, σ.indications a = some i → i.stage.holdsToken = true →
    (σ.clients i.client).phase.IsAlive

/-- A client is there as long as a server has its endpoint. -/
def ServedAlive (σ : Runtime) : Prop :=
  ∀ s c, (σ.servers s).connector.client = some c → (σ.clients c).phase.IsAlive

/-- A client is there as long as it is being told that the service goes away. -/
def NotifiedAlive (σ : Runtime) : Prop :=
  ∀ s c, (σ.servers s).phase.isFor c = true → (σ.clients c).phase.IsAlive

structure TokensHeld (σ : Runtime) : Prop where
  indicated : σ.IndicatedAlive
  served : σ.ServedAlive
  notified : σ.NotifiedAlive

theorem TokensHeld.isAlive (h : σ.TokensHeld) {c : ClientId} (htoken : σ.tokenCopied c = true) :
    (σ.clients c).phase.IsAlive := by
  rcases tokenCopied_eq_true.1 htoken with ⟨a, i, hi, rfl, hstage⟩ | ⟨s, hs⟩ | ⟨s, hs⟩
  · exact h.indicated a i hi hstage
  · exact h.served s c hs
  · exact h.notified s c hs

theorem TokensHeld.of_tokenCopied
    (h : ∀ c, σ.tokenCopied c = true → (σ.clients c).phase.IsAlive) : σ.TokensHeld where
  indicated := fun a i hi hstage => h _ (tokenCopied_eq_true.2 (.inl ⟨a, i, hi, rfl, hstage⟩))
  served := fun s c hs => h c (tokenCopied_eq_true.2 (.inr (.inl ⟨s, hs⟩)))
  notified := fun s c hs => h c (tokenCopied_eq_true.2 (.inr (.inr ⟨s, hs⟩)))

theorem TokensHeld.step (h : σ.TokensHeld) (hstep : Step σ label σ') : σ'.TokensHeld := by
  refine .of_tokenCopied fun c hcopied => ?_
  have htoken := hstep.tokenCopied hcopied
  refine hstep.client_alive ?_ htoken
  rcases htoken with howns | hcopied'
  · grind
  · exact h.isAlive hcopied'

/-! ## Servers and their clients -/

/-- A server without connections can be disabled. -/
def ConnectionsServed (σ : Runtime) : Prop :=
  ∀ t k, σ.connections t = some k →
    (σ.servers k.server).phase.IsAlive ∧ (σ.servers k.server).phase ≠ .disabled ∧
      (σ.servers k.server).phase ≠ .erasing

theorem ConnectionsServed.step (h : σ.ConnectionsServed) (hlistens : σ.ListensWhileEnabled)
    (hstep : Step σ label σ') : σ'.ConnectionsServed := by
  intro t k hk
  have hbefore : (σ.connections t = some k ∧ (σ.servers k.server).phase.IsAlive ∧
      (σ.servers k.server).phase ≠ .disabled ∧ (σ.servers k.server).phase ≠ .erasing) ∨
      (σ.servers k.server).phase.IsRegistered ∨ (σ.servers k.server).phase = .unregistered := by
    rcases hstep.connection_origin hk with hold | ⟨a, i, hconnects, -, rfl⟩
    · exact .inl ⟨hold, h t k hold⟩
    · exact .inr ((hlistens _).1 hconnects.listening)
  cases hstep.server k.server with
  | disableReturns hphase hconnections =>
      rcases hbefore with ⟨hold, -⟩ | hregistered
      · exact absurd rfl (hasConnections_eq_false.1 hconnections t k hold)
      · grind
  | _ => grind

/-- A connection is between a client and a server of one record with compatible minor
versions. -/
def ConnectionsMatch (σ : Runtime) : Prop :=
  ∀ t k, σ.connections t = some k →
    (σ.clients k.client).phase ≠ .absent ∧
      recordKey (σ.clients k.client).key = recordKey (σ.servers k.server).key ∧
      isMinorVersionCompatible (σ.servers k.server).key.service
        (σ.clients k.client).key.service = true

theorem ConnectionsMatch.step (h : σ.ConnectionsMatch) (hordered : σ.Ordered)
    (hserved : σ.ConnectionsServed) (hstep : Step σ label σ') : σ'.ConnectionsMatch := by
  intro t k hk
  have hbefore : (σ.clients k.client).phase ≠ .absent ∧ (σ.servers k.server).phase ≠ .absent ∧
      recordKey (σ.clients k.client).key = recordKey (σ.servers k.server).key ∧
      isMinorVersionCompatible (σ.servers k.server).key.service
        (σ.clients k.client).key.service = true := by
    rcases hstep.connection_origin hk with hold | ⟨a, i, hconnects, -, rfl⟩
    · obtain ⟨hpresent, hmatch⟩ := h t k hold
      exact ⟨hpresent, (hserved t k hold).1.1, hmatch⟩
    · obtain ⟨hpresent, hpresent', -⟩ := hordered.present hconnects.indication
      obtain ⟨hrecord, hcompatible⟩ := hordered.indicationsMatch _ _ hconnects.indication
      exact ⟨hpresent, hpresent', hrecord, hcompatible (by simp [hconnects.stage])⟩
  obtain ⟨hpresent, hpresent', hmatch⟩ := hbefore
  obtain ⟨hclient, hkey⟩ := hstep.client_key hpresent
  rw [hkey, (hstep.server_key hpresent').2]
  exact ⟨hclient, hmatch⟩

/-- The client of a server has a connection to it. -/
def OccupantsConnected (σ : Runtime) : Prop :=
  ∀ s c, (σ.servers s).connector.client = some c → ∃ t, σ.connections t = some ⟨c, s⟩

theorem OccupantsConnected.step (h : σ.OccupantsConnected) (hfresh : σ.ConnectionsFresh)
    (hstep : Step σ label σ') : σ'.OccupantsConnected := by
  intro s c hclient
  rcases hstep.server_client hclient with hold | ⟨a, i, -, hconnects, rfl, rfl⟩
  · obtain ⟨t, ht⟩ := h s c hold
    cases hstep.connection t with
    | kept heq => exact ⟨t, by rw [heq, ht]⟩
    | connect _ hnew =>
        rw [hfresh t (Nat.le_of_eq hnew.symm)] at ht
        cases ht
    | resetClient hremoves hsame =>
        -- the server of the connection has no client any more
        have hk := hremoves.connection
        have hnone := hremoves.client
        rw [← hsame, ht] at hk
        cases hk
        rw [hclient] at hnone
        cases hnone
  · exact ⟨σ.nextConnection, hconnects.connection⟩

/-- Until an indication has connected its client, the client is not the one of the
server. -/
def PendingApart (σ : Runtime) : Prop :=
  ∀ a i, σ.indications a = some i → i.stage = .called ∨ i.stage = .locked →
    (σ.servers i.server).connector.client ≠ some i.client

/-- A disabled server has no client. -/
theorem client_eq_none_of_disabled (hoccupants : σ.OccupantsConnected)
    (hserved : σ.ConnectionsServed) {s : ServerId} (hphase : (σ.servers s).phase = .disabled) :
    (σ.servers s).connector.client = none := by
  cases hclient : (σ.servers s).connector.client with
  | none => rfl
  | some c =>
      obtain ⟨t, ht⟩ := hoccupants s c hclient
      exact absurd hphase (hserved t _ ht).2.1

theorem PendingApart.step (h : σ.PendingApart) (hordered : σ.Ordered) (htokens : σ.TokensHeld)
    (hoccupants : σ.OccupantsConnected) (hserved : σ.ConnectionsServed)
    (hstep : Step σ label σ') : σ'.PendingApart := by
  intro a i hi hstage hclient
  rcases hstep.server_client hclient with hold | ⟨b, j, rfl, hconnects, hclient', hserver'⟩
  · cases hstep.indication_origin hi with
    | old hj hclient' hserver' hmove =>
        rw [hclient', hserver'] at hold
        exact h a _ hj (hmove.elim (fun heq => heq ▸ hstage) (·.pending hstage)) hold
    | enable ha hphase hx heq =>
        subst heq
        rw [startIndication_server, client_eq_none_of_disabled hoccupants hserved hphase] at hold
        cases hold
    | make ha hphase hfree hx heq =>
        subst heq
        exact (htokens.served _ _ hold).1 hphase
  · -- the indication that connects is no longer before its `Connect`
    cases hstep.indication_origin hi with
    | old hj hclient hserver =>
        obtain rfl := hordered.caller_unique hj hconnects.indication
          (hclient.symm.trans hclient'.symm) (hserver.symm.trans hserver'.symm)
        rw [hconnects.indicationAfter] at hi
        cases hi
        simp at hstage

/-! ## Every state -/

/-- What holds in every run, whatever clients and servers are made. -/
structure Sound (σ : Runtime) : Prop where
  ordered : σ.Ordered
  referenced : σ.Referenced
  listens : σ.ListensWhileEnabled
  tokens : σ.TokensHeld
  served : σ.ConnectionsServed
  connectionsMatch : σ.ConnectionsMatch
  occupants : σ.OccupantsConnected
  pendingApart : σ.PendingApart

theorem Sound.step (h : σ.Sound) (hstep : Step σ label σ') : σ'.Sound where
  ordered := h.ordered.step hstep
  referenced := h.referenced.step hstep
  listens := h.listens.step hstep
  tokens := h.tokens.step hstep
  served := h.served.step h.listens hstep
  connectionsMatch := h.connectionsMatch.step h.ordered h.served hstep
  occupants := h.occupants.step h.referenced.fresh hstep
  pendingApart := h.pendingApart.step h.ordered h.tokens h.occupants h.served hstep

theorem Sound.init : Sound {} where
  ordered := .init
  referenced :=
    ⟨fun _ _ => rfl, by simp [ClientsRefer, default], by simp [IndicationsRefer],
      by simp [CallsRefer], by simp [RemovalsRefer], by simp [RemovedOnce]⟩
  listens := by simp [ListensWhileEnabled, default, Connector.disabled]
  tokens :=
    ⟨by simp [IndicatedAlive], by simp [ServedAlive, default, Connector.disabled, Connector.enabled],
      by simp [NotifiedAlive, default, ServerPhase.isFor]⟩
  served := by simp [ConnectionsServed]
  connectionsMatch := by simp [ConnectionsMatch]
  occupants := by simp [OccupantsConnected, default, Connector.disabled, Connector.enabled]
  pendingApart := by simp [PendingApart]

theorem ReachableVia.sound {ok : Runtime → Label → Prop} (h : ReachableVia ok σ) : σ.Sound :=
  Reach.invariant .init (fun _ _ _ hs _ hnext => hs.step (.of_next hnext)) h

end Runtime

end Socom

end SomeipGateway
