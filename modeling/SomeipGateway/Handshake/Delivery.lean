import SomeipGateway.Handshake.Exposure

/-! # A service that is asked for arrives

The provider has a server and the requester asks for the service. Then some path
is responsible for the connector: an offer on its way, a connect or its reply, or
the second section of the reply handler, provided that a request never reaches a
provider where an application is the client, and that a reply is not finished
where an application holds a server connector of the service.
-/

namespace SomeipGateway

namespace Handshake

/-- No request is sent after an offer. -/
def OffersLast (l : List Msg) : Prop :=
  l.Pairwise fun m m' => m.offered = none ∨ m'.inUse = none

theorem lastRequest_eq_none_iff_inUse {l : List Msg} :
    lastRequest l = none ↔ ∀ m ∈ l, m.inUse = none := by
  simp [lastRequest]

theorem lastOffer_eq_none_iff_offered {l : List Msg} :
    lastOffer l = none ↔ ∀ m ∈ l, m.offered = none := by
  simp [lastOffer]

theorem offersLast_of_lastRequest {l : List Msg} (h : lastRequest l = none) : OffersLast l :=
  List.pairwise_of_forall_mem_list fun _ _ m' hm' =>
    .inr (lastRequest_eq_none_iff_inUse.1 h m' hm')

theorem offersLast_of_lastOffer {l : List Msg} (h : lastOffer l = none) : OffersLast l :=
  List.pairwise_of_forall_mem_list fun m hm _ _ =>
    .inl (lastOffer_eq_none_iff_offered.1 h m hm)

theorem OffersLast.append {l out : List Msg} (h : OffersLast l)
    (hout : lastRequest out = none ∨ lastOffer l = none ∧ lastOffer out = none) :
    OffersLast (l ++ out) := by
  rcases hout with hout | ⟨hl, hout⟩
  · exact List.pairwise_append.2 ⟨h, offersLast_of_lastRequest hout,
      fun _ _ m' hm' => .inr (lastRequest_eq_none_iff_inUse.1 hout m' hm')⟩
  · exact offersLast_of_lastOffer (by simp [hl, hout])

theorem OffersLast.lastRequest {m : Msg} {l : List Msg} (h : OffersLast (m :: l))
    (hm : m.offered ≠ none) : lastRequest l = none :=
  lastRequest_eq_none_iff_inUse.2 fun m' hm' =>
    ((List.pairwise_cons.1 h).1 m' hm').resolve_left hm

namespace Half

variable {h h' : Half} {m : Msg} {out : List Msg}

theorem Acts.lastRequest_bridge {action : Action} (ha : Acts h action h' out)
    (hclient : h.client = some .bridge) : lastRequest out = none := by
  cases ha with
  | idle | discard | refuse => rfl
  | register hnone | request hnone | connect hnone | release hnone | leave hnone =>
      simp [hclient] at hnone
  | enable | disable | finish => exact lastRequest_notify _

theorem Acts.lastOffer_eq_none {action : Action} (ha : Acts h action h' out)
    (hclient : h.client ≠ some .bridge) : lastOffer out = none := by
  rw [Handshake.lastOffer_eq_none]
  intro b hm
  cases ha with
  | enable | disable | finish => exact hclient (mem_notify hm).2
  | idle | register | request | connect | release | leave | discard | refuse => simp at hm

/-- A request that is heard makes the provider a client of its own service. -/
theorem Receives.bridge_of_request (hs : h.Sound)
    (hclient : h.client = none ∨ h.client = some .bridge)
    (hr : Receives h (.request true) h' out) : h'.client = some .bridge := by
  rcases hclient with hclient | hclient
  · have hidle := hs.idle (by simp [engaged, hclient])
    cases hr with
    | offered hlocal => simp [hidle.localOffer] at hlocal
    | owned hlocal howner => simp [hasOwner, hclient, hidle.server, hidle.requested] at howner
    | refused hlocal howner hsome => simp [hclient] at hsome
    | connected | waiting => rfl
  · exact hr.bridge hclient

end Half

namespace Link

/-- The requester has the offer of the provider, or it is the last word on its way. -/
def Known (l : Link) : Prop :=
  lastOffer l.down = some true ∨ lastOffer l.down = none ∧ l.requester.offer ≠ none

/-- Someone is responsible for the connector of the requester. -/
def Underway (l : Link) : Prop :=
  l.requester.server = some .bridge ∨ l.requester.busy = true ∨
    ∃ id ∈ l.requester.pending, .connect id ∈ l.up ∨ .reply id ∈ l.down

/-- A request meets no application client at the provider, and a reply no server
connector of an application at the requester, enabled or not. -/
def serves (l : Link) : Label → Bool
  | .up =>
      match l.up with
      | .request true :: _ => l.provider.client = none || l.provider.client = some .bridge
      | _ => true
  | .requester .finish => !l.requester.busy || l.requester.server ≠ some .application
  | .requester .refuse => false
  | _ => true

structure Offered (l : Link) : Prop where
  sound : l.Sound
  bridged : l.provider.interested = true → l.provider.client = some .bridge
  known : l.requester.client = some (.application true) → lastRequest l.up = none →
    l.provider.localOffer = true → l.Known
  underway : l.requester.client = some (.application true) → l.requester.offer ≠ none → l.Underway
  unasked : l.requester.clean = false → lastRequest l.down = none
  ordered : OffersLast l.down

variable {l l' : Link} {label : Label}

theorem Offered.interested (h : l.Offered)
    (hclient : l.requester.client = some (.application true)) (hup : lastRequest l.up = none) :
    l.provider.interested = true := by
  have hnoted := h.sound.noted
  simpa [Noted, hup, hclient] using hnoted

theorem Underway.mono (h : l.Underway) (hserver : l'.requester.server = l.requester.server)
    (hbusy : l'.requester.busy = l.requester.busy)
    (hpending : l'.requester.pending = l.requester.pending)
    (hup : ∀ id, .connect id ∈ l.up → .connect id ∈ l'.up ∨ .reply id ∈ l'.down)
    (hdown : ∀ id ∈ l.requester.pending, .reply id ∈ l.down → .reply id ∈ l'.down) :
    l'.Underway := by
  unfold Underway
  rw [hserver, hbusy, hpending]
  rcases h with hserver | hbusy | ⟨id, hid, hconnect | hreply⟩
  · exact .inl hserver
  · exact .inr (.inl hbusy)
  · exact .inr (.inr ⟨id, hid, hup id hconnect⟩)
  · exact .inr (.inr ⟨id, hid, .inr (hdown id hid hreply)⟩)

/-! ## A step of the provider -/

theorem Offered.provider_act (h : l.Offered) {action : Half.Action} {p : Half} {out : List Msg}
    (ha : Half.Acts l.provider action p out)
    (hsound : ({ l with provider := p, down := l.down ++ out } : Link).Sound) :
    ({ l with provider := p, down := l.down ++ out } : Link).Offered := by
  refine ⟨hsound, fun hinterested => ?_, fun hclient hup hlocal => ?_, fun hclient hoffer => ?_,
    fun hclean => ?_, h.ordered.append ?_⟩
  · rw [ha.interested] at hinterested
    exact ha.bridge (h.bridged hinterested)
  · have hinterested := h.interested hclient hup
    have hbridge := h.bridged hinterested
    cases ha with
    | idle => simpa [Known] using h.known hclient hup hlocal
    | discard | refuse => simpa [Known] using h.known hclient hup hlocal
    | register hnone | request hnone | connect hnone | release hnone | leave hnone =>
        simp [hbridge] at hnone
    | enable | finish =>
        exact .inl (by simp [Half.notify, hbridge, hinterested, lastOffer_cons, Msg.offered])
    | disable => simp [Half.notify, hbridge] at hlocal
  · exact (h.underway hclient hoffer).mono rfl rfl rfl (fun _ => .inl)
      fun _ _ => List.mem_append_left _
  · have hbridge : l.provider.client = some .bridge := by
      by_contra hne
      simp [(h.sound.unexposed hne).2.1] at hclean
    simp [ha.lastRequest_bridge hbridge, h.unasked hclean]
  · by_cases hbridge : l.provider.client = some .bridge
    · exact .inl (ha.lastRequest_bridge hbridge)
    · exact .inr ⟨(h.sound.unexposed hbridge).1, ha.lastOffer_eq_none hbridge⟩

theorem Offered.provider_receive (h : l.Offered) {m : Msg} {rest : List Msg} {p : Half}
    {out : List Msg} (hup : l.up = m :: rest) (hok : l.serves .up = true)
    (hr : Half.Receives l.provider m p out)
    (hsound : ({ l with provider := p, up := rest, down := l.down ++ out } : Link).Sound) :
    ({ l with provider := p, up := rest, down := l.down ++ out } : Link).Offered := by
  refine ⟨hsound, fun hinterested => ?_, fun (hclient : l.requester.client = _)
    (hrest : lastRequest rest = none) (hlocal : p.localOffer = true) => ?_,
    fun hclient hoffer => ?_, fun hclean => ?_, h.ordered.append (.inl hr.asks.1)⟩
  · rw [hr.interested] at hinterested
    by_cases hm : m = .request true
    · subst hm
      exact hr.bridge_of_request h.sound.provider (by simpa [serves, hup] using hok)
    · refine hr.bridge (h.bridged ?_)
      cases m with
      | request inUse =>
          cases inUse with
          | false => cases hinterested
          | true => exact absurd rfl hm
      | offer | connect | reply => exact hinterested
  · cases hr with
    | withdraw =>
        -- the requester that gave up does not ask
        have hnoted := h.sound.noted
        simp [Noted, hup, lastRequest_cons, Msg.inUse, hclient, hrest] at hnoted
    | offered | connected => exact .inl (by simp [lastOffer_cons, Msg.offered])
    | owned hnone | refused hnone | waiting hnone =>
        simp [show l.provider.localOffer = true from hlocal] at hnone
    | lose =>
        have hup' : lastRequest l.up = none := by
          simp [hup, lastRequest_cons, Msg.inUse, hrest]
        simp [Half.notify, h.bridged (h.interested hclient hup')] at hlocal
    | forget | note | connect | map | ignore | orphan | answer =>
        have hup' : lastRequest l.up = none := by
          simp [hup, lastRequest_cons, Msg.inUse, hrest]
        simpa [Known, lastOffer_cons, Msg.offered] using h.known hclient hup' hlocal
  · refine (h.underway hclient hoffer).mono rfl rfl rfl (fun id hconnect => ?_)
      fun _ _ => List.mem_append_left _
    rw [hup] at hconnect
    rcases List.mem_cons.1 hconnect with rfl | hconnect
    · cases hr
      exact .inr (by simp)
    · exact .inl hconnect
  · simp [hr.asks.1, h.unasked hclean]

/-! ## A step of the requester -/

theorem Offered.requester_act (h : l.Offered) {action : Half.Action} {q : Half} {out : List Msg}
    (hok : l.serves (.requester action) = true) (ha : Half.Acts l.requester action q out)
    (hsound : ({ l with requester := q, up := l.up ++ out } : Link).Sound) :
    ({ l with requester := q, up := l.up ++ out } : Link).Offered := by
  refine ⟨hsound, h.bridged, fun hclient hup hlocal => ?_,
    fun (hclient : q.client = _) (hoffer : q.offer ≠ none) => ?_, fun hclean => h.unasked ?_,
    h.ordered⟩
  · simp only [lastRequest_append, Option.or_eq_none_iff] at hup
    have hasks := ha.asks
    rw [hup.1, Option.getD_none, decide_eq_decide] at hasks
    have hbefore := hasks.2 hclient
    have hknown := h.known hbefore hup.2 hlocal
    cases ha with
    | idle | discard | refuse => exact hknown
    | register | leave => cases hclient
    | request | connect | release => simp [lastRequest_cons, Msg.inUse] at hup
    | enable | disable | finish => simpa [Known, Half.notify, hbefore] using hknown
  · cases ha with
    | idle => simpa [Underway] using h.underway hclient hoffer
    | register | release | leave => cases hclient
    | request hnone hserver hsent =>
        have hidle := h.sound.requester.idle (by simp [Half.engaged, hnone])
        cases hold : l.requester.offer with
        | none => exact absurd hold hoffer
        | some sent => cases sent <;> simp_all [hidle.offer]
    | connect => exact .inr (.inr ⟨l.requester.next, by simp, .inl (by simp)⟩)
    | enable hserver | disable hserver =>
        have hbefore : l.requester.client = some (.application true) := by
          rwa [Half.notify_client] at hclient
        have hunderway := h.underway hbefore (by simpa [Half.notify, hbefore] using hoffer)
        simpa [Underway, Half.notify, hbefore, hserver] using hunderway
    | finish => exact .inl (Half.notify_server _)
    | refuse => cases hok
    | discard hbusy hserver =>
        have hstate := h.sound.requester.state
          (by simp [Half.engaged, show l.requester.client = _ from hclient])
        have hserver : l.requester.server.isSome = true := by simpa [hstate] using hserver
        have hfree : l.requester.server ≠ some .application := by simpa [serves, hbusy] using hok
        refine .inl ?_
        cases hkind : l.requester.server with
        | none => simp [hkind] at hserver
        | some kind => cases kind <;> simp_all
  · by_contra hclean'
    simp [(ha.clean (by simpa using hclean')).1] at hclean

theorem Offered.requester_receive (h : l.Offered) {m : Msg} {rest : List Msg} {q : Half}
    {out : List Msg} (hdown : l.down = m :: rest) (hr : Half.Receives l.requester m q out)
    (hsound : ({ l with requester := q, down := rest, up := l.up ++ out } : Link).Sound) :
    ({ l with requester := q, down := rest, up := l.up ++ out } : Link).Offered := by
  have hordered := h.ordered
  rw [hdown] at hordered
  refine ⟨hsound, h.bridged, fun hclient hup hlocal => ?_,
    fun (hclient : q.client = _) (hoffer : q.offer ≠ none) => ?_, fun hclean => ?_,
    (List.pairwise_cons.1 hordered).2⟩
  · simp only [lastRequest_append, Option.or_eq_none_iff] at hup
    have hknown := h.known (hr.asks.2.1 hclient) hup.2 hlocal
    simp only [Known, hdown, lastOffer_cons] at hknown ⊢
    cases hr with
    | note | connect =>
        cases hlast : lastOffer rest with
        | none => exact .inr ⟨rfl, by simp⟩
        | some b => simpa [hlast, Msg.offered] using hknown
    | forget | lose =>
        cases hlast : lastOffer rest with
        | none => simp [hlast, Msg.offered] at hknown
        | some b => exact .inl (by simpa [hlast] using hknown)
    | withdraw | offered | owned | refused | connected | waiting | map | ignore | orphan | answer =>
        simpa [Msg.offered] using hknown
  · have hbefore := hr.asks.2.1 hclient
    cases hr with
    | withdraw | offered | owned | refused | connected | waiting =>
        -- the provider asks for nothing that the requester knows from it
        have hunasked := h.unasked (by simpa [Half.clean] using fun hnone => absurd hnone hoffer)
        simp [hdown, lastRequest_cons, Msg.inUse] at hunasked
    | forget | lose => simp [Half.notify, hbefore] at hoffer
    | connect => exact .inr (.inr ⟨l.requester.next, by simp, .inl (by simp)⟩)
    | note hdue =>
        have hreq := (h.sound.requester.requested (by simp [hbefore])).2 hbefore
        refine (h.underway hbefore (by simp [hdue hreq])).mono rfl rfl rfl
          (fun _ hm => .inl (List.mem_append_left _ hm)) fun id _ hm => ?_
        simpa [hdown] using hm
    | map =>
        refine (h.underway hbefore hoffer).mono rfl rfl rfl
          (fun _ hm => .inl (List.mem_append_left _ hm)) fun id _ hm => ?_
        simpa [hdown] using hm
    | ignore other hother =>
        refine (h.underway hbefore hoffer).mono rfl rfl rfl
          (fun _ hm => .inl (List.mem_append_left _ hm)) fun id hid hm => ?_
        have hne : id ≠ other := fun heq => hother (heq ▸ hid)
        simpa [hdown, hne] using hm
    | orphan id hid hstate =>
        have hstate' := h.sound.requester.state (by simp [Half.engaged, hbefore])
        simp [hstate] at hstate'
    | answer => exact .inr (.inl rfl)
  · by_cases hm : m.offered = none
    · have hclean' : l.requester.clean = false := by
        by_contra hclean'
        simp [(hr.clean hm (by simpa using hclean')).1] at hclean
      have hunasked := h.unasked hclean'
      rw [hdown, lastRequest_cons, Option.or_eq_none_iff] at hunasked
      exact hunasked.1
    · exact hordered.lastRequest hm

theorem Offered.step (h : l.Offered) (hok : l.serves label = true) (hstep : Step l label l') :
    l'.Offered := by
  have hsound := h.sound.step hstep
  cases hstep with
  | provider action => exact h.provider_act (l.provider.acts action) hsound
  | requester action => exact h.requester_act hok (l.requester.acts action) hsound
  | down m rest r hdown hbusy hreceive =>
      exact h.requester_receive hdown (Half.receives hreceive) hsound
  | up m rest r hup hbusy hreceive =>
      exact h.provider_receive hup hok (Half.receives hreceive) hsound
  | idle n m hn hm => exact ⟨hsound, h.bridged, h.known, h.underway, h.unasked, h.ordered⟩

theorem Offered.init : ({} : Link).Offered :=
  ⟨.init, by simp, by simp, by simp, by simp, .nil⟩

/-- With nothing on its way, a requester that asks for an available service has it. -/
theorem Offered.connected (h : l.Offered) (hdown : l.down = []) (hup : l.up = [])
    (hbusy : l.requester.busy = false)
    (hclient : l.requester.client = some (.application true))
    (hserver : l.provider.server.isSome = true) : l.requester.server = some .bridge := by
  have hrequest : lastRequest l.up = none := by simp [hup]
  have hbridge := h.bridged (h.interested hclient hrequest)
  have hknown := h.known hclient hrequest (h.sound.provider.localOffer.2 ⟨hbridge, hserver⟩)
  have hoffer : l.requester.offer ≠ none := by simpa [Known, hdown] using hknown
  simpa [Underway, hup, hdown, hbusy] using h.underway hclient hoffer

end Link

end Handshake

end SomeipGateway
