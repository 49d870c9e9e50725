import SomeipGateway.Lib.Alternation
import SomeipGateway.Socom.Matching

/-! # The calls of `on_service_state_change`

A client hears `available` from an indication and `not_available` from a server that is
being disabled, in whatever threads these are. With one client and one server of a
record at a time the waits for the reference tokens put the calls in order.
-/

namespace SomeipGateway

namespace Socom

/-! ## The last call -/

/-- The last call of a client in a log that has the last call first. -/
def lastState (states : List (ClientId × ServiceState)) (c : ClientId) : Option ServiceState :=
  (states.find? fun entry => entry.1 = c).map Prod.snd

/-- The calls of a client in the order in which they were made. -/
def stateCalls (states : List (ClientId × ServiceState)) (c : ClientId) : List ServiceState :=
  ((states.filter fun entry => entry.1 = c).map Prod.snd).reverse

@[grind =] theorem lastState_cons {states : List (ClientId × ServiceState)} {c c' : ClientId}
    {state : ServiceState} :
    lastState ((c, state) :: states) c' = if c = c' then some state else lastState states c' := by
  by_cases h : c = c' <;> simp [lastState, h]

theorem stateCalls_cons {states : List (ClientId × ServiceState)} {c c' : ClientId}
    {state : ServiceState} :
    stateCalls ((c, state) :: states) c' =
      if c = c' then stateCalls states c' ++ [state] else stateCalls states c' := by
  by_cases h : c = c' <;> simp [stateCalls, h]

theorem getLast?_stateCalls {states : List (ClientId × ServiceState)} {c : ClientId} :
    (stateCalls states c).getLast? = lastState states c := by
  simp [stateCalls, lastState, List.head?_filter]

namespace Runtime

variable {σ σ' : Runtime} {label : Label}

/-! ## Whom a client deals with -/

/-- A client deals with one server, either through an indication or through a message
that the service goes away. -/
structure Exclusive (σ : Runtime) : Prop where
  indicated : ∀ a a' i i', σ.indications a = some i → σ.indications a' = some i' →
    i.client = i'.client → a = a'
  untold : ∀ a i s, σ.indications a = some i → (σ.servers s).phase.isFor i.client ≠ true
  told : ∀ s s' c, (σ.servers s).phase.isFor c = true → (σ.servers s').phase.isFor c = true →
    s = s'
  occupied : ∀ s s' c, (σ.servers s).connector.client = some c →
    (σ.servers s').phase.isFor c = true → s = s'
  indicatedOccupied : ∀ a i s, σ.indications a = some i →
    (σ.servers s).connector.client = some i.client → s = i.server

theorem Matched.exclusive (h : σ.Matched) (hsound : σ.Sound) : σ.Exclusive := by
  -- whom a client deals with is the server of its record that is there
  have hsame : ∀ {c s s'},
      (σ.servers s).phase.IsAlive ∧ recordKey (σ.clients c).key = recordKey (σ.servers s).key →
      (σ.servers s').phase.IsAlive ∧ recordKey (σ.clients c).key = recordKey (σ.servers s').key →
      s = s' :=
    fun hs hs' => h.servers _ _ hs.1 hs'.1 (hs.2.symm.trans hs'.2)
  have hindicated : ∀ {a i}, σ.indications a = some i →
      (σ.servers i.server).phase.IsAlive ∧
        recordKey (σ.clients i.client).key = recordKey (σ.servers i.server).key := by
    intro a i hi
    have hphase := hsound.ordered.indicated_phase hi
    exact ⟨by grind, (hsound.ordered.indicationsMatch a i hi).1⟩
  have htold : ∀ {s c}, (σ.servers s).phase.isFor c = true →
      (σ.servers s).phase.IsAlive ∧ recordKey (σ.clients c).key = recordKey (σ.servers s).key :=
    fun hs => ⟨by grind, h.notified _ _ hs⟩
  have hoccupied : ∀ {s c}, (σ.servers s).connector.client = some c →
      (σ.servers s).phase.IsAlive ∧
        recordKey (σ.clients c).key = recordKey (σ.servers s).key := by
    intro s c hs
    obtain ⟨t, ht⟩ := hsound.occupants s c hs
    exact ⟨(hsound.served t _ ht).1, (hsound.connectionsMatch t _ ht).2.1⟩
  refine ⟨?_, ?_, fun s s' c hs hs' => hsame (htold hs) (htold hs'),
    fun s s' c hs hs' => hsame (hoccupied hs) (htold hs'),
    fun a i s hi hs => hsame (hoccupied hs) (hindicated hi)⟩
  · intro a a' i i' hi hi' hclient
    have hserver : i.server = i'.server := hsame (hindicated hi) (hclient ▸ hindicated hi')
    exact hsound.ordered.caller_unique hi hi' hclient hserver
  · intro a i s hi hs
    obtain rfl := hsame (htold hs) (hindicated hi)
    have hphase := hsound.ordered.indicated_phase hi
    grind

/-- An indication locks the stop token only before the destructor of the client: nobody
else has a copy. -/
theorem Exclusive.ownsToken (h : σ.Exclusive) (hsound : σ.Sound) {a : Caller} {i : Indication}
    (hi : σ.indications a = some i) (hstage : i.stage = .called)
    (htoken : (σ.clients i.client).phase.ownsToken = true ∨ σ.tokenCopied i.client = true) :
    (σ.clients i.client).phase.ownsToken = true := by
  refine htoken.resolve_right fun hcopied => ?_
  rcases tokenCopied_eq_true.1 hcopied with ⟨a', i', hi', hclient, hstage'⟩ | ⟨s, hs⟩ | ⟨s, hs⟩
  · obtain rfl := h.indicated a' a i' i hi' hi hclient
    grind
  · obtain rfl := h.indicatedOccupied a i s hi hs
    exact hsound.pendingApart a i hi (.inl hstage) hs
  · exact h.untold a i s hi hs

/-! ## What the last call says -/

def StatesPast (σ : Runtime) : Prop :=
  ∀ c, (σ.clients c).phase = .absent → lastState σ.states c = none

theorem StatesPast.step (h : σ.StatesPast) (hsound : σ.Sound) (hstep : Step σ label σ') :
    σ'.StatesPast := by
  intro c hc
  have habsent : (σ.clients c).phase = .absent := by
    by_contra hpresent
    exact (hstep.client_key hpresent).1 hc
  cases hstep.states with
  | kept heq =>
      rw [heq]
      exact h c habsent
  | available hi hstage hafter hclients heq =>
      rw [heq, lastState_cons, if_neg]
      · exact h c habsent
      · rintro rfl
        exact (hsound.ordered.present hi).1 habsent
  | notAvailable hphase hafter heq =>
      rw [heq, lastState_cons, if_neg]
      · exact h c habsent
      · rintro rfl
        exact (hsound.tokens.notified _ _ (ServerPhase.isFor_eq_true.2 (.inr hphase))).1 habsent

/-- A client that was told that the service is available is connected, or it has given
up the endpoint and the next call is due. -/
def AvailableConnected (σ : Runtime) : Prop :=
  ∀ c, (σ.clients c).phase.ownsToken = true → lastState σ.states c = some .available →
    (σ.clients c).server ≠ none ∨ ∃ s, (σ.servers s).phase = .informing c

/-- A client that is being told that the service goes away was told that it is
available. -/
def ToldAvailable (σ : Runtime) : Prop :=
  ∀ s c, (σ.servers s).phase.isFor c = true → lastState σ.states c = some .available

/-- The client of an indication does not think that the service is available before the
callback. -/
def IndicatedFirst (σ : Runtime) : Prop :=
  ∀ a i, σ.indications a = some i →
    (i.stage = .called ∧ (σ.clients i.client).phase.ownsToken = true) ∨ i.stage = .locked ∨
      (∃ t, i.stage = .connected t ∨ i.stage = .stored t) →
    lastState σ.states i.client ≠ some .available

/-- When the callback is due, `m_server` is set. -/
def StoredConnected (σ : Runtime) : Prop :=
  ∀ a i t, σ.indications a = some i → i.stage = .stored t →
    (σ.clients i.client).phase.ownsToken = true → (σ.clients i.client).server ≠ none

/-- An endpoint that was not stored is the only one of its connection. -/
def UnstoredOnly (σ : Runtime) : Prop :=
  ∀ a i t, σ.indications a = some i →
    i.stage = .connected t ∨
      i.stage = .leaving t ∧ lastState σ.states i.client ≠ some .available →
    (σ.clients i.client).server ≠ some t ∧ ∀ n, σ.calls n ≠ some t

/-- A client that was connected and not told is removed before the indication returns. -/
def UntoldRemoved (σ : Runtime) : Prop :=
  ∀ a i, σ.indications a = some i → i.stage = .released →
    (σ.servers i.server).connector.client = some i.client →
    lastState σ.states i.client = some .available ∨
      ∃ r, σ.removals (.indication a) = some r ∧
        σ.connections r.connection = some ⟨i.client, i.server⟩

/-- The client of a server was told, or its indication has not returned. -/
def OccupantsTold (σ : Runtime) : Prop :=
  ∀ s c, (σ.servers s).connector.client = some c → (σ.servers s).phase ≠ .draining →
    lastState σ.states c = some .available ∨ ∃ i,
      (σ.indications (.creation c) = some i ∨ σ.indications (.enable s) = some i) ∧
        i.client = c ∧ i.server = s ∧ i.stage.holdsToken = true

/-- A client that thinks that the service is available did so before, or the callback was
due. -/
theorem Step.lastState_of_available (hstep : Step σ label σ') {c : ClientId}
    (h : lastState σ'.states c = some .available) :
    lastState σ.states c = some .available ∨
      ∃ a i t, label = .indicate a ∧ σ.indications a = some i ∧ i.stage = .stored t ∧
        i.client = c ∧ σ'.indications a = some { i with stage := .leaving t } ∧
        σ'.clients = σ.clients := by
  cases hstep.states with
  | kept heq => exact .inl (heq ▸ h)
  | @available a i t hi hstage hafter hclients heq =>
      by_cases hc : i.client = c
      · exact .inr ⟨a, i, t, rfl, hi, hstage, hc, hafter, hclients⟩
      · rw [heq, lastState_cons, if_neg hc] at h
        exact .inl h
  | @notAvailable s c' hphase hafter heq =>
      rw [heq, lastState_cons] at h
      split at h
      next => cases h
      next => exact .inl h

/-- A client goes on to think that the service is available until it is told. -/
theorem Step.lastState_kept (hstep : Step σ label σ') {c : ClientId}
    (h : lastState σ.states c = some .available) :
    lastState σ'.states c = some .available ∨
      ∃ s, (σ.servers s).phase = .informing c ∧ (σ'.servers s).phase = .draining := by
  cases hstep.states with
  | kept heq => exact .inl (heq ▸ h)
  | available hi hstage hafter hclients heq =>
      rw [heq, lastState_cons]
      split
      next => exact .inl rfl
      next => exact .inl h
  | @notAvailable s c' hphase hafter heq =>
      by_cases hc : c' = c
      · exact .inr ⟨s, hc ▸ hphase, hafter⟩
      · rw [heq, lastState_cons, if_neg hc]
        exact .inl h

/-- The client that is being told is told. -/
theorem Step.informing (hstep : Step σ label σ') {s : ServerId} {c : ClientId}
    (h : (σ.servers s).phase = .informing c) :
    (σ'.servers s).phase = .informing c ∨ lastState σ'.states c = some .notAvailable := by
  cases hstep.server s with
  | notAvailable hphase heq =>
      cases h.symm.trans hphase
      cases hstep with
      | notAvailable hphase' =>
          cases h.symm.trans hphase'
          exact .inr (by simp [lastState_cons])
  | _ => exact .inl (by grind)

/-- What the last call of a client says about where it is. -/
structure Told (σ : Runtime) : Prop where
  past : σ.StatesPast
  available : σ.AvailableConnected
  told : σ.ToldAvailable
  first : σ.IndicatedFirst
  stored : σ.StoredConnected
  unstored : σ.UnstoredOnly
  removed : σ.UntoldRemoved
  occupants : σ.OccupantsTold

/-- As long as its destructor has not started, a client does not think that a server
without connections is available. -/
theorem Told.lastState_ne_available (h : σ.Told) (hsound : σ.Sound) (hmatched : σ.Matched)
    {c : ClientId} {s : ServerId} (howns : (σ.clients c).phase.ownsToken = true)
    (hrecord : recordKey (σ.clients c).key = recordKey (σ.servers s).key)
    (halive : (σ.servers s).phase.IsAlive) (hphase : (σ.servers s).phase ≠ .informing c)
    (hidle : ∀ t k, σ.connections t = some k → k.server ≠ s) :
    lastState σ.states c ≠ some .available := by
  intro hlast
  rcases h.available c howns hlast with hserver | ⟨s', hs'⟩
  · obtain ⟨t, ht⟩ := Option.ne_none_iff_exists'.1 hserver
    obtain ⟨-, s', hs'⟩ := hsound.referenced.clients c t ht
    refine hidle t _ hs' (hmatched.servers s' s (hsound.served t _ hs').1 halive ?_)
    exact (hsound.connectionsMatch t _ hs').2.1.symm.trans hrecord
  · have hsame : s' = s := by
      refine hmatched.servers s' s (by rw [hs']; exact ⟨nofun, nofun⟩) halive ?_
      exact (hmatched.notified s' c (by simp [hs', ServerPhase.isFor])).symm.trans hrecord
    exact hphase (hsame ▸ hs')

theorem AvailableConnected.step (h : σ.Told) (hstep : Step σ label σ') :
    σ'.AvailableConnected := by
  intro c howns hlast
  rcases hstep.lastState_of_available hlast with
    hlast' | ⟨a, i, t, -, hi, hstage, rfl, -, hclients⟩
  · rcases hstep.client_of_ownsToken howns with ⟨howns', -⟩ | ⟨habsent, -⟩
    · rcases h.available c howns' hlast' with hserver | ⟨s, hs⟩
      · rcases hstep.server_ne_none hserver (by grind) howns with hserver' | ⟨s, -, hs⟩
        · exact .inl hserver'
        · exact .inr ⟨s, hs⟩
      · rcases hstep.informing hs with hs' | htold
        · exact .inr ⟨s, hs'⟩
        · simp [htold] at hlast
    · simp [h.past c habsent] at hlast'
  · rw [hclients] at howns ⊢
    exact .inl (h.stored a i t hi hstage howns)

theorem ToldAvailable.step (h : σ.Told) (hsound : σ.Sound) (hexclusive : σ.Exclusive)
    (hstep : Step σ label σ') :
    σ'.ToldAvailable := by
  intro s c hfor
  rcases hstep.server_isFor hfor with hold | ⟨hphase, hlisten, hclient⟩
  · refine (hstep.lastState_kept (h.told s c hold)).resolve_right ?_
    rintro ⟨s', hinforming, hafter⟩
    obtain rfl := hexclusive.told s s' c hold (ServerPhase.isFor_eq_true.2 (.inr hinforming))
    simp [hafter, ServerPhase.isFor] at hfor
  · -- after the first wait of `disable` no indication of the client is left
    have hlast : lastState σ.states c = some .available := by
      refine (h.occupants s c hclient (by simp [hphase])).resolve_right ?_
      rintro ⟨i, hcreation | henable, -, hserver, -⟩
      · exact listenerCopied_eq_false.1 hlisten c i hcreation hserver
      · have henabling := (hsound.ordered.enablesIndicate s i henable).2.1
        simp [hphase] at henabling
    refine (hstep.lastState_kept hlast).resolve_right ?_
    rintro ⟨s', hinforming, -⟩
    obtain rfl := hexclusive.occupied s s' c hclient (ServerPhase.isFor_eq_true.2 (.inr hinforming))
    simp [hphase] at hinforming

/-- A server that is disabled has no connection. -/
theorem Told.lastState_of_enable (h : σ.Told) (hsound : σ.Sound) (hmatched : σ.Matched)
    {s : ServerId} {x : Interfaced} (hphase : (σ.servers s).phase = .disabled)
    (hx : (σ.records (recordKey (σ.servers s).key)).client = some x)
    (howns : (σ.clients x.connector).phase.ownsToken = true) :
    lastState σ.states x.connector ≠ some .available := by
  obtain ⟨-, hrecord, -⟩ := hsound.ordered.clientsRecorded _ x hx
  refine h.lastState_ne_available hsound hmatched howns hrecord (by rw [hphase]; decide)
    (by simp [hphase]) ?_
  rintro t k hk rfl
  exact (hsound.served t k hk).2.1 hphase

theorem IndicatedFirst.step (h : σ.Told) (hsound : σ.Sound) (hmatched : σ.Matched)
    (hexclusive : σ.Exclusive) (hstep : Step σ label σ') : σ'.IndicatedFirst := by
  intro a i hi hdue hlast
  have horigin := hstep.indication_origin hi
  have hfirst : lastState σ.states i.client ≠ some .available := by
    cases horigin with
    | @old _ j hj hclient hserver hmove =>
        rw [hclient] at hdue ⊢
        refine h.first a j hj ?_
        rcases hmove with heq | hmove
        · rw [heq] at hdue
          refine hdue.imp_left (And.imp_right fun howns => ?_)
          exact hstep.ownsToken_of_present (hsound.ordered.present hj).1 howns
        · generalize i.stage = stage at hdue hmove
          cases hmove with
          | lockToken hcalled htoken =>
              exact .inl ⟨hcalled, hexclusive.ownsToken hsound hj hcalled htoken⟩
          | connect hconnects => exact .inr (.inl hconnects.stage)
          | setServer hsets => exact .inr (.inr ⟨_, .inl hsets.stage⟩)
          | _ => simp at hdue
    | @enable s x ha hphase hx heq =>
        subst heq
        have howns : (σ'.clients x.connector).phase.ownsToken = true := by
          rcases startIndication_stage with hstage | hstage
          · rw [hstage] at hdue
            simpa using hdue
          · rw [hstage] at hdue
            simp at hdue
        have hpresent := (hsound.ordered.clientsRecorded _ x hx).2.2
        exact h.lastState_of_enable hsound hmatched hphase hx
          (hstep.ownsToken_of_present (by grind) howns)
    | make ha hphase hfree hx heq =>
        subst heq
        simp [h.past _ hphase]
  rcases hstep.lastState_of_available hlast with
    hbefore | ⟨b, j, t, rfl, hj, hstage, hclient, hafter, -⟩
  · exact hfirst hbefore
  · -- the callback is the one of this indication, so it is no longer due
    cases horigin with
    | old hk hclient' =>
        obtain rfl := hexclusive.indicated a b _ j hk hj (hclient'.symm.trans hclient.symm)
        rw [hafter] at hi
        cases hi
        simp at hdue

theorem StoredConnected.step (h : σ.Told) (hsound : σ.Sound) (hexclusive : σ.Exclusive)
    (hstep : Step σ label σ') : σ'.StoredConnected := by
  intro a i t hi hstage howns
  obtain ⟨j, hj, hclient, hserver, hmove⟩ :=
    hstep.indication_old hi (by simp [hstage]) (by simp [hstage])
  rw [hclient] at howns ⊢
  rcases hmove with heq | hmove
  · have hpresent := (hsound.ordered.present hj).1
    have hstored := h.stored a j t hj (heq ▸ hstage) (hstep.ownsToken_of_present hpresent howns)
    refine (hstep.server_ne_none hstored hpresent howns).resolve_right ?_
    rintro ⟨s, hnotifying, -⟩
    exact hexclusive.untold a j s hj (ServerPhase.isFor_eq_true.2 (.inl hnotifying))
  · rw [hstage] at hmove
    cases hmove with
    | setServer hsets => simp [hsets.server]

/-- An endpoint that is the only one of its connection stays so until it is stored. -/
theorem Exclusive.unstored_step (h : σ.Exclusive) (hsound : σ.Sound) (hstep : Step σ label σ')
    {a : Caller} {i j : Indication} {t : ConnectionId} (hj : σ.indications a = some j)
    (hi : σ'.indications a = some i) (hclient : i.client = j.client)
    (hconnection : j.stage.connection = some t) (hstage : i.stage ≠ .stored t)
    (hbefore : (σ.clients j.client).server ≠ some t ∧ ∀ n, σ.calls n ≠ some t) :
    (σ'.clients i.client).server ≠ some t ∧ ∀ n, σ'.calls n ≠ some t := by
  refine ⟨fun hserver => ?_, fun n hcall => ?_⟩
  · rw [hclient] at hserver
    rcases hstep.client_server hserver with hold | ⟨b, k, hsets, hk⟩
    · exact hbefore.1 hold
    · obtain rfl := h.indicated b a k j hsets.indication hj hk
      rw [hsets.indicationAfter] at hi
      cases hi
      exact hstage rfl
  · rcases hstep.call hcall with hold | ⟨c, hc⟩
    · exact hbefore.2 n hold
    · obtain ⟨-, s, hs⟩ := hsound.referenced.clients c t hc
      rw [hsound.referenced.indications a j t hj hconnection] at hs
      cases hs
      exact hbefore.1 hc

theorem UnstoredOnly.step (h : σ.Told) (hsound : σ.Sound) (hexclusive : σ.Exclusive)
    (hstep : Step σ label σ') :
    σ'.UnstoredOnly := by
  intro a i t hi hstage
  have hcases : i.stage = .connected t ∨ i.stage = .leaving t := hstage.imp_right And.left
  have hunstored : i.stage ≠ .stored t := by rcases hcases with heq | heq <;> simp [heq]
  obtain ⟨j, hj, hclient, hserver, hmove⟩ := hstep.indication_old hi
    (by rcases hcases with heq | heq <;> simp [heq])
    (by rcases hcases with heq | heq <;> simp [heq])
  rcases hmove with heq | hmove
  · refine hexclusive.unstored_step hsound hstep hj hi hclient ?_ hunstored
      (h.unstored a j t hj ?_)
    · rw [← heq]
      rcases hcases with hstage | hstage <;> (rw [hstage]; rfl)
    · rw [heq, hclient] at hstage
      refine hstage.imp_right (And.imp_right fun hlast hbefore => ?_)
      rcases hstep.lastState_kept hbefore with hkept | ⟨s, hinforming, -⟩
      · exact hlast hkept
      · exact hexclusive.untold a j s hj (ServerPhase.isFor_eq_true.2 (.inr hinforming))
  · rcases hstage with hconnected | ⟨hleaving, hlast⟩
    · rw [hconnected] at hmove
      cases hmove with
      | connect hconnects =>
          -- nobody has an endpoint of a connection that is being made
          obtain ⟨hclients, hindications, hcalls⟩ :=
            referenced_eq_false.1 hsound.referenced.nextConnection_unreferenced
          refine ⟨fun hset => ?_, fun n hcall => ?_⟩
          · rcases hstep.client_server hset with hold | ⟨b, k, hsets, -⟩
            · exact hclients _ hold
            · exact hindications b k hsets.indication (by rw [hsets.stage]; rfl)
          · rcases hstep.call hcall with hold | ⟨c, hc⟩
            · exact hcalls n hold
            · exact hclients c hc
    · rw [hleaving] at hmove
      cases hmove with
      | destructorStarted hconnected htoken =>
          exact hexclusive.unstored_step hsound hstep hj hi hclient (by rw [hconnected]; rfl)
            hunstored (h.unstored a j t hj (.inl hconnected))
      | available hstored hstates =>
          rw [hstates, lastState_cons, if_pos hclient.symm] at hlast
          exact absurd rfl hlast

/-- The endpoint of an indication whose client was not told is the last one of its
connection. -/
theorem Told.referenced_eq_false (h : σ.Told) (hsound : σ.Sound) (hexclusive : σ.Exclusive)
    {a : Caller} {i : Indication} {t : ConnectionId} (hi : σ.indications a = some i)
    (hstage : i.stage = .leaving t) (hlast : lastState σ.states i.client ≠ some .available) :
    (σ.setStage a i .released).referenced t = false := by
  have hconnection := hsound.referenced.indications a i t hi (by rw [hstage]; rfl)
  obtain ⟨hserver, hcalls⟩ := h.unstored a i t hi (.inr ⟨hstage, hlast⟩)
  refine Runtime.referenced_eq_false.2 ⟨fun c hc => ?_, fun a' i' hi' hstage' => ?_, hcalls⟩
  · obtain ⟨-, s, hs⟩ := hsound.referenced.clients c t hc
    cases hconnection.symm.trans hs
    exact hserver hc
  · by_cases ha : a' = a
    · simp only [setStage, ha, Store.set_apply, if_true] at hi'
      cases hi'
      cases hstage'
    · simp only [setStage, Store.set_apply, if_neg ha] at hi'
      have hsame := hconnection.symm.trans (hsound.referenced.indications a' i' t hi' hstage')
      have hclient := congrArg Connection.client (Option.some.inj hsame)
      exact ha (hexclusive.indicated a' a i' i hi' hi hclient.symm)

theorem UntoldRemoved.step (h : σ.Told) (hsound : σ.Sound) (hexclusive : σ.Exclusive)
    (hstep : Step σ label σ') : σ'.UntoldRemoved := by
  intro a i hi hreleased hclient
  obtain ⟨j, hj, hclient', hserver', hmove⟩ :=
    hstep.indication_old hi (by simp [hreleased]) (by simp [hreleased])
  rw [hclient', hserver'] at hclient ⊢
  have hoccupied : (σ.servers j.server).connector.client = some j.client := by
    refine (hstep.server_client hclient).resolve_right ?_
    rintro ⟨b, k, -, hconnects, hk, hk'⟩
    obtain rfl := hsound.ordered.caller_unique hconnects.indication hj hk hk'
    rw [hconnects.indicationAfter] at hi
    cases hi
    cases hreleased
  have htold : lastState σ.states j.client = some .available →
      lastState σ'.states j.client = some .available := by
    intro hlast
    refine (hstep.lastState_kept hlast).resolve_right ?_
    rintro ⟨s, hinforming, -⟩
    exact hexclusive.untold a j s hj (ServerPhase.isFor_eq_true.2 (.inr hinforming))
  rcases hmove with heq | hmove
  · rcases h.removed a j hj (heq ▸ hreleased) hoccupied with hlast | ⟨r, hr, hk⟩
    · exact .inl (htold hlast)
    · rcases hstep.indication_removal hr with ⟨r', hr', hsame⟩ | ⟨k, hremoves⟩
      · refine .inr ⟨r', hr', ?_⟩
        rw [hsame, hsound.referenced.removal_connection_kept hstep hr hr', hk]
      · -- the removal has removed the client
        have hnone := hremoves.client
        cases hk.symm.trans hremoves.connection
        rw [hclient] at hnone
        cases hnone
  · rw [hreleased] at hmove
    cases hmove with
    | notListening hlocked =>
        exact absurd hoccupied (hsound.pendingApart a j hj (.inr hlocked))
    | @leave t hleaving hlast =>
        by_cases havailable : lastState σ.states j.client = some .available
        · exact .inl (htold havailable)
        · have hconnection : j.stage.connection = some t := by rw [hleaving]; rfl
          have hreferenced := referenced_eq_true.2 (.inr (.inl ⟨a, j, hj, hconnection⟩))
          refine .inr ⟨_, hlast (h.referenced_eq_false hsound hexclusive hj hleaving havailable),
            ?_⟩
          rw [hsound.referenced.connection_kept hstep hreferenced]
          exact hsound.referenced.indications a j t hj hconnection

theorem OccupantsTold.step (h : σ.Told) (hsound : σ.Sound) (hexclusive : σ.Exclusive)
    (hstep : Step σ label σ') : σ'.OccupantsTold := by
  intro s c hclient hphase
  rcases hstep.server_client hclient with hold | ⟨a, i, -, hconnects, rfl, rfl⟩
  · have hphase' : (σ.servers s).phase ≠ .draining := by
      intro hdraining
      cases hstep.server s with
      | disableReturns _ hconnections =>
          obtain ⟨t, ht⟩ := hsound.occupants s c hold
          exact hasConnections_eq_false.1 hconnections t _ ht rfl
      | _ => grind
    have htold : lastState σ.states c = some .available →
        lastState σ'.states c = some .available := by
      intro hlast
      refine (hstep.lastState_kept hlast).resolve_right ?_
      rintro ⟨s', hinforming, hafter⟩
      obtain rfl := hexclusive.occupied s s' c hold
        (ServerPhase.isFor_eq_true.2 (.inr hinforming))
      exact hphase hafter
    rcases h.occupants s c hold hphase' with hlast | ⟨i, hi, rfl, rfl, hholds⟩
    · exact .inl (htold hlast)
    · have hkept : ∀ a, σ.indications a = some i →
          lastState σ'.states i.client = some .available ∨
            ∃ stage, σ'.indications a = some { i with stage := stage } ∧
              stage.holdsToken = true := by
        intro a ha
        rcases hsound.ordered.indication_next hstep ha with
          hsame | ⟨stage, hmove, heq⟩ | hreturned
        · exact .inr ⟨i.stage, hsame, hholds⟩
        · cases hmove with
          | releaseToken hreleased hremoval =>
              -- nothing is left to be removed, so the client was told
              rcases h.removed a i ha hreleased hold with hlast | ⟨r, hr, -⟩
              · exact .inl (htold hlast)
              · rw [hremoval] at hr
                cases hr
          | tokenGone hcalled => simp [hcalled, Stage.holdsToken] at hholds
          | _ => exact .inr ⟨_, heq, rfl⟩
        · simp [hreturned, Stage.holdsToken] at hholds
      rcases hi with hi | hi
      · rcases hkept _ hi with hlast | ⟨stage, hi', hholds'⟩
        · exact .inl hlast
        · exact .inr ⟨_, .inl hi', rfl, rfl, hholds'⟩
      · rcases hkept _ hi with hlast | ⟨stage, hi', hholds'⟩
        · exact .inl hlast
        · exact .inr ⟨_, .inr hi', rfl, rfl, hholds'⟩
  · refine .inr ⟨{ i with stage := .connected σ.nextConnection }, ?_, rfl, rfl, rfl⟩
    cases a with
    | creation c =>
        obtain rfl := (hsound.ordered.creationsListen c i hconnects.indication).1
        exact .inl hconnects.indicationAfter
    | enable s =>
        obtain rfl := (hsound.ordered.enablesIndicate s i hconnects.indication).1
        exact .inr hconnects.indicationAfter

theorem Told.step (h : σ.Told) (hsound : σ.Sound) (hmatched : σ.Matched)
    (hstep : Step σ label σ') : σ'.Told := by
  have hexclusive := hmatched.exclusive hsound
  exact
    { past := h.past.step hsound hstep
      available := .step h hstep
      told := .step h hsound hexclusive hstep
      first := .step h hsound hmatched hexclusive hstep
      stored := .step h hsound hexclusive hstep
      unstored := .step h hsound hexclusive hstep
      removed := .step h hsound hexclusive hstep
      occupants := .step h hsound hexclusive hstep }

theorem Told.init : Told {} where
  past := fun _ _ => rfl
  available := by simp [AvailableConnected, lastState]
  told := by simp [ToldAvailable, default, ServerPhase.isFor]
  first := by simp [IndicatedFirst]
  stored := by simp [StoredConnected]
  unstored := by simp [UnstoredOnly]
  removed := by simp [UntoldRemoved]
  occupants := by simp [OccupantsTold, default, Connector.disabled, Connector.enabled]

theorem ReachableVia.told {ok : Runtime → Label → Prop}
    (hok : ∀ σ label, ok σ label → σ.oneServer label = true) (h : ReachableVia ok σ) :
    σ.Told :=
  Reach.invariant_of_reach .init (fun _ _ _ hreach hs _ hnext =>
    hs.step (ReachableVia.sound hreach) (ReachableVia.matched hok hreach) (.of_next hnext)) h

/-! ## The order of the calls -/

/-- A step that calls a client says the opposite of the last call, and the client is
there. -/
theorem Told.states_step (h : σ.Told) (hsound : σ.Sound) (hstep : Step σ label σ') :
    σ'.states = σ.states ∨ ∃ c state, σ'.states = (c, state) :: σ.states ∧
      (state = if lastState σ.states c = some .available then .notAvailable else .available) ∧
      (σ.clients c).phase.IsAlive := by
  cases hstep.states with
  | kept heq => exact .inl heq
  | @available a i t hi hstage hafter hclients heq =>
      have hfirst := h.first a i hi (.inr (.inr ⟨t, .inr hstage⟩))
      refine .inr ⟨i.client, .available, heq, by rw [if_neg hfirst], ?_⟩
      exact hsound.tokens.indicated a i hi (by simp [hstage, Stage.holdsToken])
  | @notAvailable s c hphase hafter heq =>
      have hfor := ServerPhase.isFor_eq_true.2 (.inr hphase)
      exact .inr ⟨c, .notAvailable, heq, by rw [if_pos (h.told s c hfor)],
        hsound.tokens.notified s c hfor⟩

theorem ReachableVia.alternates {ok : Runtime → Label → Prop}
    (hok : ∀ σ label, ok σ label → σ.oneServer label = true) (h : ReachableVia ok σ)
    (c : ClientId) :
    SomeipGateway.alternates .available .notAvailable (stateCalls σ.states c) = true := by
  refine Reach.invariant_of_reach (I := fun σ => SomeipGateway.alternates .available .notAvailable
    (stateCalls σ.states c) = true) rfl ?_ h
  intro σ label σ' hreach hs _ hnext
  rcases (ReachableVia.told hok hreach).states_step (ReachableVia.sound hreach) (.of_next hnext)
    with hstates | ⟨c', state, hstates, hstate, -⟩
  · rwa [hstates]
  · rw [hstates, stateCalls_cons]
    split
    next hc =>
      refine alternates_append_singleton (by decide) hs ?_
      rw [getLast?_stateCalls, ← hc]
      exact hstate
    next => exact hs

/-- With one client and one server of a record at a time, the calls of a client are
`available` and `not_available` in turn, none is made after its destructor has returned,
and when `disable` returns before the destructor has started, the last one is
`not_available`. -/
theorem service_state_calls_alternate
    (h : ReachableVia (fun σ label => σ.oneOfEach label = true) σ) (c : ClientId) :
    alternates .available .notAvailable (stateCalls σ.states c) = true ∧
    (∀ label σ', σ.next label = some σ' → (σ.clients c).phase = .destroyed →
      stateCalls σ'.states c = stateCalls σ.states c) ∧
    ∀ s σ', σ.next (.disableReturns s) = some σ' →
      (σ.clients c).phase = .creating ∨ (σ.clients c).phase = .alive →
      recordKey (σ.clients c).key = recordKey (σ.servers s).key →
      ∀ state, (stateCalls σ'.states c).getLast? = some state → state = .notAvailable := by
  have hok : ∀ (σ : Runtime) label, σ.oneOfEach label = true → σ.oneServer label = true :=
    fun _ _ hlabel => (Bool.and_eq_true_iff.1 hlabel).2
  refine ⟨h.alternates hok c, ?_, ?_⟩
  · intro label σ' hnext hdestroyed
    rcases (h.told hok).states_step h.sound (.of_next hnext)
      with hstates | ⟨c', state, hstates, -, halive⟩
    · rw [hstates]
    · rw [hstates, stateCalls_cons, if_neg]
      rintro rfl
      exact halive.2 hdestroyed
  · intro s σ' hnext howns hrecord state hlast
    cases Step.of_next hnext with
    | disableReturns hphase hconnections =>
        rw [getLast?_stateCalls] at hlast
        have hne := (h.told hok).lastState_ne_available h.sound (h.matched hok)
          (ClientPhase.ownsToken_eq_true.2 howns) hrecord (by rw [hphase]; exact ⟨nofun, nofun⟩)
          (by simp [hphase]) (hasConnections_eq_false.1 hconnections)
        cases state with
        | notAvailable => rfl
        | available => exact absurd hlast hne

/-- The client connects to an enabled server, which is then disabled. -/
theorem service_state_calls_alternate_at_disable :
    ∃ σ σ' : Runtime, σ.next (.disableReturns 1) = some σ' ∧
      stateCalls σ'.states 1 = [.available, .notAvailable] ∧
      alternates .available .notAvailable (stateCalls σ.states 1) = true ∧
      ∀ state, (stateCalls σ'.states 1).getLast? = some state → state = .notAvailable := by
  obtain ⟨σ, hreach, hp⟩ := exists_reach_of_runFrom next
    (fun σ label => σ.oneOfEach label = true) {}
    (connectedClient.append [.disable 1 false, .stopListening 1, .copyClient 1, .resetServer 1,
      .removeClient (.disable 1), .removeClient (.disable 1), .notAvailable 1])
    (fun σ => (σ.next (.disableReturns 1)).any (fun σ' =>
        stateCalls σ'.states 1 = [.available, .notAvailable]) &&
      decide ((σ.clients 1).phase = .alive ∧
        recordKey (σ.clients 1).key = recordKey (σ.servers 1).key)) (by decide)
  simp only [Bool.and_eq_true, decide_eq_true_eq, Option.any_eq_true] at hp
  obtain ⟨⟨σ', hnext, hcalls⟩, halive, hrecord⟩ := hp
  obtain ⟨halternates, -, hlast⟩ := service_state_calls_alternate hreach 1
  exact ⟨σ, σ', hnext, hcalls, halternates, hlast 1 σ' hnext (.inr halive) hrecord⟩

end Runtime

end Socom

end SomeipGateway
