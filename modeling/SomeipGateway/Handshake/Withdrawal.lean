import SomeipGateway.Handshake.Exposure

/-! # A service that goes away is withdrawn

One endpoint provides the service and the other asks for it. While the provider
has no server, the requester was told so or will be, provided that the service
never goes away behind the back of a requester that still knows it.
-/

namespace SomeipGateway

namespace Handshake

namespace Link

/-- The last word on the way to the requester is that the service is gone, or it
knows nothing of the service. -/
def told (l : Link) : Bool :=
  lastOffer l.down = some false || lastOffer l.down = none && l.requester.clean

/-- The provider does not ask for the service and the requester does not provide it. -/
def Label.keepsRoles : Label → Bool
  | .provider .make | .requester .enable => false
  | _ => true

/-- The service goes away while the requester is listed as interested, or when it
was told or knows nothing. -/
def withdraws (l : Link) : Label → Bool
  | .provider .disable =>
      l.provider.server ≠ some .application || l.provider.client ≠ some .bridge ||
        l.provider.interested || l.told
  | _ => true

structure Served (l : Link) : Prop where
  sound : l.Sound
  unasked : l.swap.Unexposed
  provider : l.provider.client = none ∨ l.provider.client = some .bridge
  requester : l.requester.client ≠ some .bridge
  server : l.requester.server ≠ some .application
  down : lastRequest l.down = none
  told : l.provider.server = none → l.told = true

variable {l l' : Link} {label : Label}

theorem told_iff :
    l.told = true ↔
      lastOffer l.down = some false ∨ lastOffer l.down = none ∧ l.requester.clean = true := by
  simp [told]

theorem Served.provider_clean (h : l.Served) : l.provider.clean = true :=
  (h.unasked h.requester).2.1

theorem Served.provider_act (h : l.Served) {action : Half.Action} {p : Half} {out : List Msg}
    (hmake : action ≠ .make) (hok : l.withdraws (.provider action) = true)
    (ha : Half.Acts l.provider action p out) :
    (p.client = none ∨ p.client = some .bridge) ∧ lastRequest out = none ∧
      (p.server = none → ({ l with provider := p, down := l.down ++ out } : Link).told = true) := by
  have hbusy := (Half.clean_iff.1 h.provider_clean).2.2.1
  cases ha with
  | idle =>
      refine ⟨h.provider, rfl, fun hserver => ?_⟩
      simpa [Link.told] using h.told hserver
  | register | request | connect => exact absurd rfl hmake
  | release hclient | leave hclient =>
      rcases h.provider with hnone | hbridge
      · simp [hclient] at hnone
      · simp [hclient] at hbridge
  | enable hserver =>
      refine ⟨by rw [Half.notify_client]; exact h.provider, Half.lastRequest_notify _,
        fun hnone => ?_⟩
      rw [Half.notify_server] at hnone
      cases hnone
  | disable hserver =>
      refine ⟨by rw [Half.notify_client]; exact h.provider, Half.lastRequest_notify _,
        fun _ => ?_⟩
      rcases h.provider with hnone | hbridge
      · obtain ⟨hoffer, hclean, -⟩ := h.sound.unexposed (by simp [hnone])
        simp [told_iff, Half.notify, hnone, hoffer, hclean]
      · cases hinterested : l.provider.interested with
        | true => simp [told_iff, Half.notify, hbridge, lastOffer_cons, Msg.offered]
        | false =>
            have htold : l.told = true := by
              simpa [withdraws, hserver, hbridge, hinterested] using hok
            simpa [Link.told, Half.notify, hbridge, hinterested] using htold
  | finish hbusy' | discard hbusy' | refuse hbusy' => simp [hbusy] at hbusy'

/-- Asking for the service and giving it up tells the requester nothing. -/
theorem Served.requester_act (h : l.Served) {action : Half.Action} {q : Half} {out : List Msg}
    (henable : action ≠ .enable) (ha : Half.Acts l.requester action q out) :
    q.client ≠ some .bridge ∧ q.server ≠ some .application ∧
      (l.provider.server = none →
        ({ l with requester := q, up := l.up ++ out } : Link).told = true) := by
  refine ⟨?_, ?_, fun hnone => ?_⟩
  · cases ha with
    | idle | discard | refuse => exact h.requester
    | register | request | connect | release | leave => simp
    | enable => exact absurd rfl henable
    | disable | finish =>
        rw [Half.notify_client]
        exact h.requester
  · cases ha with
    | idle | register | request | connect | leave | discard | refuse => exact h.server
    | release =>
        simp only
        split
        · simp
        · exact h.server
    | enable => exact absurd rfl henable
    | disable | finish =>
        rw [Half.notify_server]
        simp
  · rcases told_iff.1 (h.told hnone) with hlast | ⟨hlast, hclean⟩
    · exact told_iff.2 (.inl hlast)
    · exact told_iff.2 (.inr ⟨hlast, (ha.clean hclean).1⟩)

/-- A withdrawal leaves the requester with nothing. -/
theorem clean_of_withdrawal {h h' : Half} {out : List Msg} (hbusy : h.busy = false)
    (hr : Half.Receives h (.offer false) h' out) : h'.clean = true := by
  cases hr with
  | forget hserver => simp [Half.clean, hbusy, hserver]
  | lose =>
      rw [Half.notify_clean]
      simp [Half.clean, hbusy]

theorem Served.requester_receive (h : l.Served) {m : Msg} {rest : List Msg} {q : Half}
    {out : List Msg} (hdown : l.down = m :: rest) (hbusy : l.requester.busy = false)
    (hr : Half.Receives l.requester m q out) :
    q.client ≠ some .bridge ∧ q.server ≠ some .application ∧
      (l.provider.server = none →
        ({ l with requester := q, down := rest, up := l.up ++ out } : Link).told = true) := by
  have hm : m.inUse = none := by
    have hrequest := h.down
    rw [hdown, lastRequest_cons, Option.or_eq_none_iff] at hrequest
    exact hrequest.2
  refine ⟨?_, ?_, fun hnone => ?_⟩
  · cases hr with
    | withdraw | offered | owned | refused | connected | waiting => cases hm
    | lose =>
        rw [Half.notify_client]
        exact h.requester
    | forget | note | connect | map | ignore | orphan | answer => exact h.requester
  · cases hr with
    | withdraw | offered | owned | refused | connected | waiting => cases hm
    | lose =>
        rw [Half.notify_server]
        simp
    | forget | note | connect | map | ignore | orphan | answer => exact h.server
  · rcases told_iff.1 (h.told hnone) with hlast | ⟨hlast, hclean⟩
    · rw [hdown, lastOffer_cons, Option.or_eq_some_iff] at hlast
      rcases hlast with hlast | ⟨hlast, hm⟩
      · exact told_iff.2 (.inl hlast)
      · have hwithdrawal : m = .offer false := by
          cases m <;> simp [Msg.offered] at hm ⊢
          exact hm
        subst hwithdrawal
        exact told_iff.2 (.inr ⟨hlast, clean_of_withdrawal hbusy hr⟩)
    · rw [hdown, lastOffer_cons, Option.or_eq_none_iff] at hlast
      exact told_iff.2 (.inr ⟨hlast.1, (hr.clean hlast.2 hclean).1⟩)

theorem Served.provider_receive (h : l.Served) {m : Msg} {rest : List Msg} {p : Half}
    {out : List Msg} (hup : l.up = m :: rest) (hr : Half.Receives l.provider m p out) :
    (p.client = none ∨ p.client = some .bridge) ∧ lastRequest out = none ∧
      (p.server = none →
        ({ l with provider := p, up := rest, down := l.down ++ out } : Link).told = true) := by
  have hm : m.offered = none := by
    have hoffer := (h.unasked h.requester).1
    change lastOffer l.up = none at hoffer
    rw [hup, lastOffer_cons, Option.or_eq_none_iff] at hoffer
    exact hoffer.2
  refine ⟨?_, hr.asks.1, fun hnone => ?_⟩
  · cases hr with
    | forget | lose | note | connect => cases hm
    | connected | waiting => exact .inr rfl
    | withdraw | offered | owned | refused | map | ignore | orphan | answer => exact h.provider
  · have hsame : lastOffer out = none ∧ l.provider.server = none := by
      cases hr with
      | forget | lose | note | connect => cases hm
      | offered hlocal =>
          have hserver := (h.sound.provider.localOffer.1 hlocal).2
          simp [show l.provider.server = none from hnone] at hserver
      | connected hlocal howner hclient hserver =>
          simp [show l.provider.server = none from hnone] at hserver
      | withdraw | owned | refused | waiting | ignore | orphan | answer => exact ⟨rfl, hnone⟩
      | map => exact ⟨rfl, hnone⟩
    simpa [Link.told, hsame.1] using h.told hsame.2

theorem Served.step (h : l.Served) (hroles : label.keepsRoles = true)
    (hok : l.withdraws label = true) (hstep : Step l label l') : l'.Served := by
  have hsound := h.sound.step hstep
  have hunasked := h.unasked.step h.sound.requester hstep.swap
  cases hstep with
  | provider action =>
      have hmake : action ≠ .make := by
        rintro rfl
        cases hroles
      obtain ⟨hclient, hrequest, htold⟩ :=
        h.provider_act hmake hok (l.provider.acts action)
      exact ⟨hsound, hunasked, hclient, h.requester, h.server, by simp [hrequest, h.down], htold⟩
  | requester action =>
      have henable : action ≠ .enable := by
        rintro rfl
        cases hroles
      obtain ⟨hclient, hserver, htold⟩ := h.requester_act henable (l.requester.acts action)
      exact ⟨hsound, hunasked, h.provider, hclient, hserver, h.down, htold⟩
  | down m rest r hdown hbusy hreceive =>
      obtain ⟨hclient, hserver, htold⟩ :=
        h.requester_receive hdown hbusy (Half.receives hreceive)
      have hrequest := h.down
      rw [hdown, lastRequest_cons, Option.or_eq_none_iff] at hrequest
      exact ⟨hsound, hunasked, h.provider, hclient, hserver, hrequest.1, htold⟩
  | up m rest r hup hbusy hreceive =>
      obtain ⟨hclient, hrequest, htold⟩ := h.provider_receive hup (Half.receives hreceive)
      exact ⟨hsound, hunasked, hclient, h.requester, h.server, by simp [hrequest, h.down], htold⟩
  | idle n m hn hm =>
      exact ⟨hsound, hunasked, h.provider, h.requester, h.server, h.down, h.told⟩

theorem Served.init : ({} : Link).Served :=
  ⟨.init, Sound.init.unexposed, .inl rfl, by simp, by simp, rfl, by simp [Link.told, Half.clean]⟩

/-- With nothing on its way to the requester, a connector there has a server
behind it. -/
theorem Served.available (h : l.Served) (hdown : l.down = [])
    (hconn : l.requester.server = some .bridge) :
    l.provider.server.isSome = true ∧ l.requester.client = some (.application true) ∧
      l.requester.requested = true := by
  have hengaged := h.sound.requester.server hconn
  have hclient : l.requester.client = some (.application true) := by
    simpa [Half.engaged, h.requester] using hengaged
  refine ⟨?_, hclient, (h.sound.requester.requested h.requester).2 hclient⟩
  by_contra hnone
  have htold := h.told (by simpa using hnone)
  simp [Link.told, hdown, Half.clean, hconn] at htold

end Link

end Handshake

end SomeipGateway
