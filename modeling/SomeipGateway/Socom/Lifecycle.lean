import SomeipGateway.Socom.Moves

/-! # Records and indications

What holds in every run: who is in a record, and between whom an indication is
called. A creation that found a server holds its listen endpoint, so the server does
not get past the first wait of `disable` before that indication has returned.
-/

namespace SomeipGateway

namespace Socom

namespace Runtime

variable {σ σ' : Runtime} {label : Label}

/-! ## Who is in a record -/

/-- The server of a record is registered there under its own interface. -/
def ServersRecorded (σ : Runtime) : Prop :=
  ∀ key x, (σ.records key).server = some x →
    x.interface = (σ.servers x.connector).key.service ∧
      recordKey (σ.servers x.connector).key = key ∧ (σ.servers x.connector).phase.IsRegistered

theorem ServersRecorded.step (h : σ.ServersRecorded) (hstep : Step σ label σ') :
    σ'.ServersRecorded := by
  intro key x hx
  have hold : (σ.records key).server = some x →
      x.interface = (σ'.servers x.connector).key.service ∧
        recordKey (σ'.servers x.connector).key = key ∧
        (σ'.servers x.connector).phase.IsRegistered := by
    intro hx'
    obtain ⟨hinterface, hkey, hregistered⟩ := h key x hx'
    rw [(hstep.server_key (by grind)).2]
    refine ⟨hinterface, hkey, ?_⟩
    cases hstep.server x.connector with
    | disable hphase =>
        -- the server has left its record
        cases hstep with
        | disable => simp [hkey] at hx
    | _ => grind
  cases hstep.record key with
  | enable hkey heq =>
      rw [heq] at hx
      cases hx
      cases hstep with
      | enable => simp [hkey, ServerPhase.IsRegistered]
  | disable hkey hphase heq =>
      rw [heq] at hx
      cases hx
  | kept heq | make _ _ heq | unregister _ _ heq =>
      rw [heq] at hx
      exact hold hx

/-- The client of a record is registered there under its own interface. -/
def ClientsRecorded (σ : Runtime) : Prop :=
  ∀ key x, (σ.records key).client = some x →
    x.interface = (σ.clients x.connector).key.service ∧
      recordKey (σ.clients x.connector).key = key ∧ (σ.clients x.connector).phase.IsRegistered

theorem ClientsRecorded.step (h : σ.ClientsRecorded) (hstep : Step σ label σ') :
    σ'.ClientsRecorded := by
  intro key x hx
  have hold : (σ.records key).client = some x →
      x.interface = (σ'.clients x.connector).key.service ∧
        recordKey (σ'.clients x.connector).key = key ∧
        (σ'.clients x.connector).phase.IsRegistered := by
    intro hx'
    obtain ⟨hinterface, hkey, hregistered⟩ := h key x hx'
    rw [(hstep.client_key (by grind)).2]
    refine ⟨hinterface, hkey, ?_⟩
    cases hstep.client x.connector with
    | unregister hphase =>
        -- the client has left its record
        cases hstep with
        | unregisterClient => simp [hkey] at hx
    | _ => grind
  cases hstep.record key with
  | make hkey hfree heq =>
      rw [heq] at hx
      cases hx
      cases hstep with
      | recordTaken _ htaken => exact absurd (hkey ▸ hfree) htaken
      | makeClientConnector => simp [hkey, ClientPhase.IsRegistered]
  | unregister hkey hphase heq =>
      rw [heq] at hx
      cases hx
  | kept heq | enable _ heq | disable _ _ heq =>
      rw [heq] at hx
      exact hold hx

/-- A registered client is the one in its record. -/
def ClientsRegistered (σ : Runtime) : Prop :=
  ∀ c, (σ.clients c).phase.IsRegistered →
    (σ.records (recordKey (σ.clients c).key)).client = some ⟨(σ.clients c).key.service, c⟩

theorem ClientsRegistered.step (h : σ.ClientsRegistered) (hstep : Step σ label σ') :
    σ'.ClientsRegistered := by
  intro c hc
  by_cases hregistered : (σ.clients c).phase.IsRegistered
  · have hrecord := h c hregistered
    rw [(hstep.client_key (by grind)).2]
    cases hstep.record (recordKey (σ.clients c).key) with
    | kept heq | enable _ heq | disable _ _ heq =>
        rw [heq]
        exact hrecord
    | make hkey hfree heq =>
        rw [hrecord] at hfree
        cases hfree
    | @unregister c' hkey hphase heq =>
        -- the client that leaves the record is the one that is in it
        have hrecord' := h c' (by simp [hphase, ClientPhase.IsRegistered])
        rw [hkey, hrecord] at hrecord'
        obtain rfl : c = c' := congrArg Interfaced.connector (Option.some.inj hrecord')
        cases hstep with
        | unregisterClient => simp [setClientPhase, ClientPhase.IsRegistered] at hc
  · cases hstep.client c with
    | make hphase hfree heq =>
        cases hstep with
        | recordTaken _ htaken => exact absurd hfree htaken
        | makeClientConnector => simp
    | _ => grind

/-! ## Between whom an indication is called -/

/-- A creation indicates its own client to a server that waits for it when it is
disabled. -/
def CreationsListen (σ : Runtime) : Prop :=
  ∀ c i, σ.indications (.creation c) = some i →
    i.client = c ∧ (σ.clients c).phase = .creating ∧
      ((σ.servers i.server).phase.IsRegistered ∨ (σ.servers i.server).phase = .unregistered ∨
        (σ.servers i.server).phase = .stopping)

theorem CreationsListen.step (h : σ.CreationsListen) (hrecorded : σ.ServersRecorded)
    (hstep : Step σ label σ') : σ'.CreationsListen := by
  intro c i hi
  cases hstep.indication_origin hi with
  | @old _ j hj hclient hserver hstage =>
      obtain ⟨hself, hcreating, hphase⟩ := h c j hj
      have hcopied : σ.listenerCopied j.server = true := by
        rw [← Bool.not_eq_false, listenerCopied_eq_false]
        exact fun hnone => hnone c j hj rfl
      rw [hclient, hserver]
      exact ⟨hself, hstep.creating hcreating (by simp [hj]), hstep.listening hphase hcopied⟩
  | enable ha => cases ha
  | make ha hphase hfree hserver heq =>
      cases ha
      subst heq
      cases hstep with
      | recordTaken _ htaken => exact absurd hfree htaken
      | makeClientConnector => exact ⟨rfl, by simp, .inl (hrecorded _ _ hserver).2.2⟩

/-- A server that is being enabled indicates a client that was in its record. -/
def EnablesIndicate (σ : Runtime) : Prop :=
  ∀ s i, σ.indications (.enable s) = some i →
    i.server = s ∧ (σ.servers s).phase = .enabling ∧ (σ.clients i.client).phase ≠ .absent

theorem EnablesIndicate.step (h : σ.EnablesIndicate) (hrecorded : σ.ClientsRecorded)
    (hstep : Step σ label σ') : σ'.EnablesIndicate := by
  intro s i hi
  cases hstep.indication_origin hi with
  | @old _ j hj hclient hserver hstage =>
      obtain ⟨hself, henabling, hpresent⟩ := h s j hj
      rw [hclient, hserver]
      exact ⟨hself, hstep.enabling henabling (by simp [hj]), (hstep.client_key hpresent).1⟩
  | make ha => cases ha
  | enable ha hphase hclient heq =>
      cases ha
      subst heq
      have hregistered := (hrecorded _ _ hclient).2.2
      cases hstep with
      | enable => exact ⟨rfl, by simp, by rw [startIndication_client]; grind⟩

/-- Of a client and a server, only the one that came second indicates. -/
def IndicatedOnce (σ : Runtime) : Prop :=
  ∀ c s i j, σ.indications (.creation c) = some i → σ.indications (.enable s) = some j →
    i.server = s → j.client ≠ c

theorem IndicatedOnce.step (h : σ.IndicatedOnce) (hcreations : σ.CreationsListen)
    (henables : σ.EnablesIndicate) (hstep : Step σ label σ') : σ'.IndicatedOnce := by
  intro c s i j hi hj hserver
  cases hstep.indication_origin hi with
  | enable ha => cases ha
  | @old _ i' hi' _ hserver' _ =>
      rw [hserver'] at hserver
      cases hstep.indication_origin hj with
      | make ha => cases ha
      | old hj' hclient' =>
          rw [hclient']
          exact h c s _ _ hi' hj' hserver
      | enable ha hphase =>
          -- the server of a creation is not disabled
          cases ha
          have hlisten := (hcreations c i' hi').2.2
          rw [hserver, hphase] at hlisten
          grind
  | make ha hphase =>
      cases ha
      cases hstep.indication_origin hj with
      | old hj' hclient' =>
          -- the client of an enable is not absent
          rintro rfl
          rw [hclient'] at hphase
          exact (henables s _ hj').2.2 hphase
      | make ha => cases ha

/-- An indication is called between a client and a server of one record, and goes beyond
the comparison of the versions only when they are compatible. -/
def IndicationsMatch (σ : Runtime) : Prop :=
  ∀ a i, σ.indications a = some i →
    recordKey (σ.clients i.client).key = recordKey (σ.servers i.server).key ∧
      (i.stage ≠ .returned → isMinorVersionCompatible (σ.servers i.server).key.service
        (σ.clients i.client).key.service = true)

/-- What holds of the records and the indications in every state. -/
structure Ordered (σ : Runtime) : Prop where
  serversRecorded : σ.ServersRecorded
  clientsRecorded : σ.ClientsRecorded
  clientsRegistered : σ.ClientsRegistered
  creationsListen : σ.CreationsListen
  enablesIndicate : σ.EnablesIndicate
  indicatedOnce : σ.IndicatedOnce
  indicationsMatch : σ.IndicationsMatch

/-- Neither side of an indication is absent. -/
theorem Ordered.present (h : σ.Ordered) {a : Caller} {i : Indication}
    (hi : σ.indications a = some i) :
    (σ.clients i.client).phase ≠ .absent ∧ (σ.servers i.server).phase ≠ .absent ∧
      (σ.servers i.server).phase ≠ .disabled := by
  cases a with
  | creation c =>
      obtain ⟨rfl, hclient, hserver⟩ := h.creationsListen c i hi
      grind
  | enable s =>
      obtain ⟨rfl, hserver, hclient⟩ := h.enablesIndicate s i hi
      grind

/-- The server of an indication is registered or not past the first wait of `disable`. -/
theorem Ordered.indicated_phase (h : σ.Ordered) {a : Caller} {i : Indication}
    (hi : σ.indications a = some i) :
    (σ.servers i.server).phase.IsRegistered ∨ (σ.servers i.server).phase = .unregistered ∨
      (σ.servers i.server).phase = .stopping := by
  cases a with
  | creation c => exact (h.creationsListen c i hi).2.2
  | enable s =>
      obtain ⟨rfl, hphase, -⟩ := h.enablesIndicate s i hi
      exact .inl (.inl hphase)

/-- At most one indication is called between a client and a server. -/
theorem Ordered.caller_unique (h : σ.Ordered) {a b : Caller} {i j : Indication}
    (hi : σ.indications a = some i) (hj : σ.indications b = some j)
    (hclient : i.client = j.client) (hserver : i.server = j.server) : a = b := by
  cases a with
  | creation c =>
      have hc := (h.creationsListen c i hi).1
      cases b with
      | creation c' =>
          have hc' := (h.creationsListen c' j hj).1
          rw [← hc, ← hc', hclient]
      | enable s =>
          have hs := (h.enablesIndicate s j hj).1
          exact absurd (hclient.symm.trans hc) (h.indicatedOnce c s i j hi hj (hserver.trans hs))
  | enable s =>
      have hs := (h.enablesIndicate s i hi).1
      cases b with
      | creation c =>
          have hc := (h.creationsListen c j hj).1
          exact absurd (hclient.trans hc) (h.indicatedOnce c s j i hj hi (hserver.symm.trans hs))
      | enable s' =>
          have hs' := (h.enablesIndicate s' j hj).1
          rw [← hs, ← hs', hserver]

/-- An indication stays as it is, goes on or returns. -/
theorem Ordered.indication_next (h : σ.Ordered) (hstep : Step σ label σ') {a : Caller}
    {i : Indication} (hi : σ.indications a = some i) :
    σ'.indications a = some i ∨
      (∃ stage, StageMove σ σ' a i stage ∧
        σ'.indications a = some { i with stage := stage }) ∨
      i.stage = .returned := by
  cases hstep.indication a with
  | kept heq => exact .inl (heq.trans hi)
  | enable ha hphase =>
      cases ha
      rw [(h.enablesIndicate _ i hi).2.1] at hphase
      cases hphase
  | make ha hphase =>
      cases ha
      rw [(h.creationsListen _ i hi).2.1] at hphase
      cases hphase
  | advance hj hmove heq =>
      cases hi.symm.trans hj
      exact .inr (.inl ⟨_, hmove, heq⟩)
  | returns hj hreturned =>
      cases hi.symm.trans hj
      exact .inr (.inr hreturned)

theorem IndicationsMatch.step (h : σ.Ordered) (hstep : Step σ label σ') :
    σ'.IndicationsMatch := by
  intro a i hi
  cases hstep.indication_origin hi with
  | @old _ j hj hclient hserver hstage =>
      obtain ⟨hpresent, hpresent', -⟩ := h.present hj
      rw [hclient, hserver, (hstep.client_key hpresent).2, (hstep.server_key hpresent').2]
      obtain ⟨hrecord, hcompatible⟩ := h.indicationsMatch a j hj
      refine ⟨hrecord, fun hreturned => hcompatible ?_⟩
      rcases hstage with hsame | hmove
      · rwa [← hsame]
      · exact hmove.ne_returned
  | @enable s x ha hphase hclient heq =>
      obtain ⟨hinterface, hrecord, hregistered⟩ := h.clientsRecorded _ x hclient
      have hkey := (hstep.client_key (c := x.connector) (by grind)).2
      have hkey' := (hstep.server_key (s := s) (by simp [hphase])).2
      subst heq
      simp only [startIndication_client, startIndication_server, hkey, hkey']
      refine ⟨hrecord, fun hreturned => ?_⟩
      rw [← hinterface]
      exact startIndication_ne_returned hreturned
  | @make c key x ha hphase hfree hserver heq =>
      obtain ⟨hinterface, hrecord, hregistered⟩ := h.serversRecorded _ x hserver
      subst heq
      cases hstep with
      | recordTaken _ htaken => exact absurd hfree htaken
      | makeClientConnector =>
          simp only [startIndication_client, startIndication_server, Store.set_apply, if_true]
          refine ⟨hrecord.symm, fun hreturned => ?_⟩
          rw [← hinterface]
          exact startIndication_ne_returned hreturned

theorem Ordered.step (h : σ.Ordered) (hstep : Step σ label σ') : σ'.Ordered where
  serversRecorded := h.serversRecorded.step hstep
  clientsRecorded := h.clientsRecorded.step hstep
  clientsRegistered := h.clientsRegistered.step hstep
  creationsListen := h.creationsListen.step h.serversRecorded hstep
  enablesIndicate := h.enablesIndicate.step h.clientsRecorded hstep
  indicatedOnce := h.indicatedOnce.step h.creationsListen h.enablesIndicate hstep
  indicationsMatch := .step h hstep

theorem Ordered.init : Ordered {} where
  serversRecorded := by simp [ServersRecorded, default]
  clientsRecorded := by simp [ClientsRecorded, default]
  clientsRegistered := by simp [ClientsRegistered, default]
  creationsListen := by simp [CreationsListen]
  enablesIndicate := by simp [EnablesIndicate]
  indicatedOnce := by simp [IndicatedOnce]
  indicationsMatch := by simp [IndicationsMatch]

theorem ReachableVia.ordered {ok : Runtime → Label → Prop} (h : ReachableVia ok σ) : σ.Ordered :=
  Reach.invariant .init (fun _ _ _ hs _ hnext => hs.step (.of_next hnext)) h

end Runtime

end Socom

end SomeipGateway
