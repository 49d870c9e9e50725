import SomeipGateway.Handshake.Machine

/-! # What holds at one endpoint in every run

The facts that tie the fields of a `Half` together. They need nothing from the
other endpoint but that it is only heard between two reply handlers.
-/

namespace SomeipGateway

namespace Handshake

namespace Half

/-- The bridge is a client of the service here, or asks the peer for it. -/
def engaged (h : Half) : Bool :=
  h.client = some .bridge || h.client = some (.application true)

structure Sound (h : Half) : Prop where
  localOffer : h.localOffer = true ↔ h.client = some .bridge ∧ h.server.isSome = true
  state : h.engaged = true → h.hasState = true
  requested : h.client ≠ some .bridge → (h.requested = true ↔ h.client = some (.application true))
  server : h.server = some .bridge → h.engaged = true
  busy : h.busy = true → h.hasState = true → h.engaged = true
  /-- An endpoint that asks for the service answers the offer it has. -/
  offer : h.client = some (.application true) → h.offer ≠ some false
  sent : h.offer = some true → h.engaged = true
  pending : h.pending.Nonempty → h.offer = some true
  pending_card : h.pending.card ≤ 1
  pending_lt : ∀ r ∈ h.pending, r < h.next

variable {h : Half}

theorem engaged_of_requested (hs : h.Sound) (hreq : h.requested = true) : h.engaged = true := by
  by_cases hclient : h.client = some .bridge
  · simp [engaged, hclient]
  · simp [engaged, (hs.requested hclient).1 hreq]

theorem pending_eq_empty (hs : h.Sound) (hoffer : h.offer ≠ some true) : h.pending = ∅ := by
  by_contra hne
  exact hoffer (hs.pending (Finset.nonempty_iff_ne_empty.2 hne))

/-- The client of the bridge hears of every change of the server. -/
theorem Sound.notify (hs : h.Sound) (server : Option ServerKind)
    (hserver : server = some .bridge → h.engaged = true) :
    ({ h with server := server }.notify server.isSome).1.Sound := by
  unfold Half.notify
  split
  next hclient =>
    have hengaged : h.engaged = true := by simp [engaged, show h.client = some .bridge from hclient]
    refine ⟨?_, fun _ => rfl, fun hne => absurd hclient hne, hserver, fun _ _ => hengaged, hs.offer,
      hs.sent, hs.pending, hs.pending_card, hs.pending_lt⟩
    simp [show h.client = some .bridge from hclient]
  next hclient =>
    have hnone : h.localOffer = false := by
      cases hlocal : h.localOffer with
      | false => rfl
      | true => exact absurd (hs.localOffer.1 hlocal).1 hclient
    refine ⟨?_, hs.state, hs.requested, hserver, hs.busy, hs.offer, hs.sent, hs.pending,
      hs.pending_card, hs.pending_lt⟩
    simp [hnone, show ¬ h.client = some .bridge from hclient]

theorem Sound.finished (hs : h.Sound) : ({ h with busy := false } : Half).Sound :=
  ⟨hs.localOffer, hs.state, hs.requested, hs.server, by simp, hs.offer, hs.sent, hs.pending,
    hs.pending_card, hs.pending_lt⟩

theorem Sound.noted (hs : h.Sound) (interested : Bool) :
    ({ h with interested := interested } : Half).Sound :=
  ⟨hs.localOffer, hs.state, hs.requested, hs.server, hs.busy, hs.offer, hs.sent, hs.pending,
    hs.pending_card, hs.pending_lt⟩

/-- Where the bridge is not engaged it has nothing of the service. -/
structure Idle (h : Half) : Prop where
  requested : h.requested = false
  localOffer : h.localOffer = false
  server : h.server ≠ some .bridge
  offer : h.offer ≠ some true
  pending : h.pending = ∅
  busy : h.busy = true → h.hasState = false

theorem Sound.idle (hs : h.Sound) (hidle : h.engaged = false) : h.Idle := by
  have hclient : h.client ≠ some .bridge ∧ h.client ≠ some (.application true) := by
    simpa [engaged] using hidle
  have hoffer : h.offer ≠ some true := fun hoffer => by simpa [hidle] using hs.sent hoffer
  refine ⟨?_, ?_, fun hserver => ?_, hoffer, pending_eq_empty hs hoffer, fun hbusy => ?_⟩
  · simpa [hclient.2] using hs.requested hclient.1
  · simpa [hclient.1] using hs.localOffer
  · simpa [hidle] using hs.server hserver
  · by_contra hstate
    simpa [hidle] using hs.busy hbusy (by simpa using hstate)

/-- A client that asks nobody may come and go. -/
theorem Sound.setClient (hs : h.Sound) (hidle : h.engaged = false) {client : Option Client}
    (hclient : client ≠ some .bridge ∧ client ≠ some (.application true)) :
    ({ h with client := client } : Half).Sound := by
  have hi := hs.idle hidle
  refine ⟨by simp [hi.localOffer, hclient.1], by simp [engaged, hclient],
    by simp [hi.requested, hclient.2], fun hbridge => absurd hbridge hi.server,
    fun hb hstate => ?_, fun hreq => absurd hreq hclient.2, fun hsent => absurd hsent hi.offer,
    hs.pending, hs.pending_card, hs.pending_lt⟩
  simp [hi.busy hb] at hstate

theorem Sound.acts (hs : h.Sound) {action : Action} {h' : Half} {out : List Msg}
    (ha : Acts h action h' out) : h'.Sound := by
  cases ha with
  | idle => exact hs
  | register hclient hserver => exact hs.setClient (by simp [engaged, hclient]) (by simp)
  | request hclient hserver hoffer =>
      have hi := hs.idle (by simp [engaged, hclient])
      exact ⟨by simp [hi.localOffer], fun _ => rfl, by simp, by simp [hserver], by simp [engaged],
        fun _ => hoffer, by simp [engaged], hs.pending, hs.pending_card, hs.pending_lt⟩
  | connect hclient hserver hoffer =>
      have hi := hs.idle (by simp [engaged, hclient])
      exact ⟨by simp [hi.localOffer], fun _ => rfl, by simp, by simp [hserver], by simp [engaged],
        by simp, by simp [engaged], by simp, by simp [hi.pending], by simp [hi.pending]⟩
  | release hclient =>
      have hlocal : h.localOffer = false := by simpa [hclient] using hs.localOffer
      refine ⟨by simp [hlocal], by simp [engaged], by simp, ?_, by simp, by simp, by simp,
        by simp, by simp, by simp⟩
      intro hserver
      simp only at hserver
      split at hserver
      · cases hserver
      next hne => exact absurd hserver hne
  | leave hclient => exact hs.setClient (by simp [engaged, hclient]) (by simp)
  | enable hserver => exact hs.notify (some .application) (by simp)
  | disable hserver => exact hs.notify none (by simp)
  | finish hbusy hserver hstate =>
      exact hs.finished.notify (some .bridge) fun _ => hs.busy hbusy hstate
  | discard | refuse => exact hs.finished

/-- Messages are taken between two reply handlers only. -/
theorem Sound.receives (hs : h.Sound) (hbusy : h.busy = false) {m : Msg} {h' : Half}
    {out : List Msg} (hr : Receives h m h' out) : h'.Sound := by
  have hidle : ∀ s : Bool, h.busy = true → s = true → h.engaged = true := by simp [hbusy]
  have hforgot : ({ h with offer := none, pending := ∅, mapped := 0, hasState := true } :
      Half).Sound :=
    ⟨hs.localOffer, fun _ => rfl, hs.requested, hs.server, hidle _, by simp, by simp, by simp,
      by simp, by simp⟩
  cases hr with
  | withdraw =>
      exact ⟨hs.localOffer, hs.state, hs.requested, hs.server, hs.busy, hs.offer, hs.sent, by simp,
        by simp, by simp⟩
  | offered => exact hs.noted true
  | owned => exact hs.noted true
  | refused hlocal howner hclient =>
      exact ⟨hs.localOffer, fun _ => rfl, hs.requested, hs.server, hidle _, hs.offer, hs.sent,
        hs.pending, hs.pending_card, hs.pending_lt⟩
  | connected hlocal howner hclient hserver =>
      exact ⟨by simp [hserver], fun _ => rfl, by simp, by simp [engaged], by simp [engaged],
        by simp, by simp [engaged], hs.pending, hs.pending_card, hs.pending_lt⟩
  | waiting hlocal howner hclient hserver =>
      exact ⟨by simp [hlocal, hserver], fun _ => rfl, by simp, by simp [hserver],
        by simp [engaged], by simp, by simp [engaged], hs.pending, hs.pending_card, hs.pending_lt⟩
  | forget => exact hforgot
  | lose => exact hforgot.notify none (by simp)
  | note hdue =>
      have hsame : h.offer = some true → some (h.offer.getD false) = some true :=
        fun hoffer => by simp [hoffer]
      refine ⟨hs.localOffer, fun _ => rfl, hs.requested, hs.server, hidle _, fun hclient => ?_,
        fun hsent => hs.sent ?_, fun hne => hsame (hs.pending hne), hs.pending_card, hs.pending_lt⟩
      · have hreq := (hs.requested (by simp [show h.client = _ from hclient])).2 hclient
        simp [hdue hreq]
      · by_contra hoffer
        have hfalse := getD_eq_false.2 hoffer
        rw [show some (h.offer.getD false) = some true from hsent] at hfalse
        cases hfalse
  | connect hreq hoffer =>
      have hengaged := engaged_of_requested hs hreq
      have hempty := pending_eq_empty hs hoffer
      exact ⟨hs.localOffer, fun _ => rfl, hs.requested, hs.server, hidle _, by simp,
        fun _ => hengaged, fun _ => rfl, by simp [hempty], by simp [hempty]⟩
  | map id hstate =>
      exact ⟨hs.localOffer, hs.state, hs.requested, hs.server, hs.busy, hs.offer, hs.sent,
        hs.pending, hs.pending_card, fun r hr => (hs.pending_lt r hr).trans (Nat.lt_succ_self _)⟩
  | ignore => exact hs
  | orphan id hid hstate =>
      exact ⟨hs.localOffer, hs.state, hs.requested, hs.server, hs.busy, hs.offer, hs.sent,
        fun _ => hs.pending ⟨id, hid⟩, Finset.card_erase_le.trans hs.pending_card,
        fun r hr => hs.pending_lt r (Finset.mem_of_mem_erase hr)⟩
  | answer id hid hstate =>
      have hawaited := hs.pending ⟨id, hid⟩
      exact ⟨hs.localOffer, hs.state, hs.requested, hs.server, fun _ _ => hs.sent hawaited,
        hs.offer, hs.sent, fun _ => hawaited, Finset.card_erase_le.trans hs.pending_card,
        fun r hr => hs.pending_lt r (Finset.mem_of_mem_erase hr)⟩

theorem Sound.setNext (hs : h.Sound) {n : Nat} (hn : h.next ≤ n) :
    ({ h with next := n } : Half).Sound :=
  ⟨hs.localOffer, hs.state, hs.requested, hs.server, hs.busy, hs.offer, hs.sent, hs.pending,
    hs.pending_card, fun r hr => (hs.pending_lt r hr).trans_le hn⟩

theorem Sound.init : ({} : Half).Sound := by
  refine ⟨?_, ?_, ?_, ?_, ?_, ?_, ?_, ?_, ?_, ?_⟩ <;> simp [engaged]

end Half

end Handshake

end SomeipGateway
