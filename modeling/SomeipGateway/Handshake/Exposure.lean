import SomeipGateway.Handshake.Sound

/-! # What one endpoint can know of the other

Only a bridge-owned client offers a service, and once there it stays. So as long
as the provider has none, no offer is on its way and the requester holds nothing
of the service; and the provider counts the requester as interested as soon as it
has heard the last request.
-/

namespace SomeipGateway

namespace Handshake

/-! ## Messages on their way -/

def Msg.offered : Msg → Option Bool
  | .offer offered => some offered
  | _ => none

def Msg.inUse : Msg → Option Bool
  | .request inUse => some inUse
  | _ => none

def lastOffer (l : List Msg) : Option Bool :=
  (l.filterMap Msg.offered).getLast?

def lastRequest (l : List Msg) : Option Bool :=
  (l.filterMap Msg.inUse).getLast?

variable {l l' : List Msg} {m : Msg} {b : Bool}

@[simp] theorem lastOffer_nil : lastOffer [] = none := rfl

@[simp] theorem lastRequest_nil : lastRequest [] = none := rfl

@[simp] theorem lastOffer_append : lastOffer (l ++ l') = (lastOffer l').or (lastOffer l) := by
  simp [lastOffer, List.getLast?_append]

@[simp] theorem lastRequest_append :
    lastRequest (l ++ l') = (lastRequest l').or (lastRequest l) := by
  simp [lastRequest, List.getLast?_append]

theorem lastOffer_cons : lastOffer (m :: l) = (lastOffer l).or m.offered := by
  rw [← List.singleton_append, lastOffer_append]
  cases m <;> rfl

theorem lastRequest_cons : lastRequest (m :: l) = (lastRequest l).or m.inUse := by
  rw [← List.singleton_append, lastRequest_append]
  cases m <;> rfl

theorem lastOffer_eq_none : lastOffer l = none ↔ ∀ b, Msg.offer b ∉ l := by
  induction l with
  | nil => simp
  | cons m l ih =>
      rw [lastOffer_cons, Option.or_eq_none_iff, ih]
      cases m <;> simp [Msg.offered, forall_and]

theorem lastRequest_eq_none : lastRequest l = none ↔ ∀ b, Msg.request b ∉ l := by
  induction l with
  | nil => simp
  | cons m l ih =>
      rw [lastRequest_cons, Option.or_eq_none_iff, ih]
      cases m <;> simp [Msg.inUse, forall_and]

namespace Half

variable {h : Half} {r : Half × List Msg}

/-! ## What a step sends -/

theorem mem_notify {available : Bool} (hm : m ∈ (h.notify available).2) :
    m = .offer available ∧ h.client = some .bridge := by
  unfold notify at hm
  split at hm
  next hclient =>
    simp only at hm
    split at hm
    · exact ⟨List.mem_singleton.1 hm, hclient⟩
    · cases hm
  next => cases hm

/-- The bridge-owned client is never destroyed by a peer that keeps its
connections. -/
theorem Acts.bridge {action : Action} {h' : Half} {out : List Msg} (ha : Acts h action h' out)
    (hclient : h.client = some .bridge) : h'.client = some .bridge := by
  cases ha with
  | idle | discard | refuse => exact hclient
  | register hnone | request hnone | connect hnone | release hnone | leave hnone =>
      simp [hclient] at hnone
  | enable | disable | finish => rwa [notify_client]

theorem Receives.bridge {h' : Half} {out : List Msg} (hr : Receives h m h' out)
    (hclient : h.client = some .bridge) : h'.client = some .bridge := by
  cases hr with
  | connected | waiting => rfl
  | lose => rwa [notify_client]
  | withdraw | offered | owned | refused | forget | note | connect | map | ignore | orphan
  | answer => exact hclient

/-- Only a bridge-owned client offers the service. -/
theorem Acts.offer {action : Action} {h' : Half} {out : List Msg} (ha : Acts h action h' out)
    (hm : .offer b ∈ out) : h'.client = some .bridge := by
  cases ha with
  | enable | disable | finish =>
      rw [notify_client]
      exact (mem_notify hm).2
  | idle | register | request | connect | release | leave | discard | refuse => simp at hm

theorem Receives.offer (hs : h.Sound) {h' : Half} {out : List Msg} (hr : Receives h m h' out)
    (hm : .offer b ∈ out) : h'.client = some .bridge := by
  cases hr with
  | offered hlocal => exact (hs.localOffer.1 hlocal).1
  | connected => rfl
  | lose =>
      rw [notify_client]
      exact (mem_notify hm).2
  | withdraw | owned | refused | waiting | forget | note | connect | map | ignore | orphan
  | answer => simp at hm

theorem lastRequest_notify (available : Bool) : lastRequest (h.notify available).2 = none := by
  rw [lastRequest_eq_none]
  intro inUse hm
  cases (mem_notify hm).1

/-- Requests go out exactly when the endpoint starts or stops to ask. -/
theorem Acts.asks {action : Action} {h' : Half} {out : List Msg} (ha : Acts h action h' out) :
    (lastRequest out).getD (h.client = some (.application true)) =
      (h'.client = some (.application true) : Bool) := by
  cases ha with
  | idle | discard | refuse => rfl
  | register hclient => simp [hclient]
  | leave hclient => simp [hclient]
  | request | connect | release => simp [lastRequest_cons, Msg.inUse]
  | enable | disable | finish => simp [lastRequest_notify, notify_client]

theorem Receives.asks {h' : Half} {out : List Msg} (hr : Receives h m h' out) :
    lastRequest out = none ∧
      (h'.client = some (.application true) ↔ h.client = some (.application true)) := by
  cases hr with
  | connected hlocal howner hclient | waiting hlocal howner hclient =>
      simp [lastRequest, Msg.inUse, hclient]
  | lose => simp [lastRequest_notify, notify_client]
  | withdraw | offered | owned | refused | forget | note | connect | map | ignore | orphan
  | answer => simp [lastRequest, Msg.inUse]

theorem Acts.interested {action : Action} {h' : Half} {out : List Msg}
    (ha : Acts h action h' out) : h'.interested = h.interested := by
  cases ha with
  | enable | disable | finish => rw [notify_interested]
  | idle | register | request | connect | release | leave | discard | refuse => rfl

theorem Receives.interested {h' : Half} {out : List Msg} (hr : Receives h m h' out) :
    h'.interested = m.inUse.getD h.interested := by
  cases hr with
  | lose => rw [notify_interested]; rfl
  | withdraw | offered | owned | refused | connected | waiting | forget | note | connect | map
  | ignore | orphan | answer => rfl

/-- The endpoint holds nothing it could have learnt from an offer. -/
def clean (h : Half) : Bool :=
  h.offer = none && h.pending = ∅ && !h.busy && h.server ≠ some .bridge

theorem clean_iff :
    h.clean = true ↔ h.offer = none ∧ h.pending = ∅ ∧ h.busy = false ∧ h.server ≠ some .bridge := by
  simp [clean, and_assoc]

theorem notify_clean (available : Bool) : (h.notify available).1.clean = h.clean := by
  unfold notify
  split <;> rfl

theorem Acts.clean {action : Action} {h' : Half} {out : List Msg} (ha : Acts h action h' out)
    (hclean : h.clean = true) : h'.clean = true ∧ ∀ id, .connect id ∉ out := by
  obtain ⟨hoffer, hpending, hbusy, hserver⟩ := clean_iff.1 hclean
  cases ha with
  | idle => exact ⟨hclean, by simp⟩
  | register | request | leave => exact ⟨hclean, by simp⟩
  | connect hclient hnone hsome => simp [hoffer] at hsome
  | release => exact ⟨by simp [Half.clean, hbusy, hserver], by simp⟩
  | enable =>
      rw [notify_clean]
      refine ⟨by simp [Half.clean, hoffer, hpending, hbusy], fun id hm => ?_⟩
      cases (mem_notify hm).1
  | disable =>
      rw [notify_clean]
      refine ⟨by simp [Half.clean, hoffer, hpending, hbusy], fun id hm => ?_⟩
      cases (mem_notify hm).1
  | finish hbusy' | discard hbusy' | refuse hbusy' => simp [hbusy] at hbusy'

theorem Receives.clean {h' : Half} {out : List Msg} (hr : Receives h m h' out)
    (hm : m.offered = none) (hclean : h.clean = true) :
    h'.clean = true ∧ ∀ id, .connect id ∉ out := by
  obtain ⟨hoffer, hpending, hbusy, hserver⟩ := clean_iff.1 hclean
  cases hr with
  | forget | lose | note | connect => cases hm
  | withdraw => exact ⟨by simp [Half.clean, hoffer, hbusy, hserver], by simp⟩
  | offered | owned | refused | connected | waiting | map | ignore => exact ⟨hclean, by simp⟩
  | orphan id hid | answer id hid => simp [hpending] at hid

end Half

/-! ## Both ends -/

namespace Link

/-- A provider that never was a client of its service is unknown to the requester. -/
def Unexposed (l : Link) : Prop :=
  l.provider.client ≠ some .bridge →
    lastOffer l.down = none ∧ l.requester.clean = true ∧ ∀ id, .connect id ∉ l.up

/-- The requester asks for the service exactly when the provider counts it as
interested, or will once it has heard the requests on their way. -/
def Noted (l : Link) : Prop :=
  (lastRequest l.up).getD l.provider.interested =
    (l.requester.client = some (.application true) : Bool)

structure Sound (l : Link) : Prop where
  provider : l.provider.Sound
  requester : l.requester.Sound
  unexposed : l.Unexposed
  noted : l.Noted

variable {k k' : Link} {label : Label}

theorem Unexposed.step (h : k.Unexposed) (hp : k.provider.Sound) (hstep : Step k label k') :
    k'.Unexposed := by
  intro hclient
  cases hstep with
  | provider action =>
      have ha := k.provider.acts action
      have hold := h fun hbridge => hclient (ha.bridge hbridge)
      refine ⟨?_, hold.2⟩
      have hnone : lastOffer (k.provider.act action).2 = none :=
        lastOffer_eq_none.2 fun b hm => hclient (ha.offer hm)
      simp [hnone, hold.1]
  | requester action =>
      have hold := h hclient
      obtain ⟨hclean, hconnect⟩ := (k.requester.acts action).clean hold.2.1
      refine ⟨hold.1, hclean, fun id hm => ?_⟩
      rcases List.mem_append.1 hm with hm | hm
      · exact hold.2.2 id hm
      · exact hconnect id hm
  | down m rest r hdown hbusy hreceive =>
      have hold := h hclient
      rw [hdown, lastOffer_cons, Option.or_eq_none_iff] at hold
      obtain ⟨hclean, hconnect⟩ := (Half.receives hreceive).clean hold.1.2 hold.2.1
      refine ⟨hold.1.1, hclean, fun id hm => ?_⟩
      rcases List.mem_append.1 hm with hm | hm
      · exact hold.2.2 id hm
      · exact hconnect id hm
  | up m rest r hup hbusy hreceive =>
      have hr := Half.receives hreceive
      have hold := h fun hbridge => hclient (hr.bridge hbridge)
      refine ⟨?_, hold.2.1, fun id hm => hold.2.2 id ?_⟩
      · have hnone : lastOffer r.2 = none :=
          lastOffer_eq_none.2 fun b hm => hclient (hr.offer hp hm)
        simp [hnone, hold.1]
      · rw [hup]
        exact List.mem_cons_of_mem _ hm
  | idle n m hn hm => exact h hclient

theorem Noted.step (h : k.Noted) (hstep : Step k label k') : k'.Noted := by
  unfold Noted at h ⊢
  cases hstep with
  | provider action =>
      rw [(k.provider.acts action).interested]
      exact h
  | requester action =>
      have hasks := (k.requester.acts action).asks
      rw [lastRequest_append]
      cases hlast : lastRequest (k.requester.act action).2 with
      | none =>
          rw [hlast, Option.getD_none] at hasks
          rw [Option.none_or, h, hasks]
      | some b =>
          rw [hlast] at hasks
          exact hasks
  | down m rest r hdown hbusy hreceive =>
      obtain ⟨hnone, hclient⟩ := (Half.receives hreceive).asks
      simp only [lastRequest_append, hnone, Option.none_or, hclient]
      exact h
  | up m rest r hup hbusy hreceive =>
      rw [hup, lastRequest_cons] at h
      rw [(Half.receives hreceive).interested, ← h]
      cases lastRequest rest <;> rfl
  | idle n m hn hm => exact h

theorem Sound.step (h : k.Sound) (hstep : Step k label k') : k'.Sound := by
  have hunexposed := h.unexposed.step h.provider hstep
  have hnoted := h.noted.step hstep
  cases hstep with
  | provider action =>
      exact ⟨h.provider.acts (k.provider.acts action), h.requester, hunexposed, hnoted⟩
  | requester action =>
      exact ⟨h.provider, h.requester.acts (k.requester.acts action), hunexposed, hnoted⟩
  | down m rest r hdown hbusy hreceive =>
      exact ⟨h.provider, h.requester.receives hbusy (Half.receives hreceive), hunexposed, hnoted⟩
  | up m rest r hup hbusy hreceive =>
      exact ⟨h.provider.receives hbusy (Half.receives hreceive), h.requester, hunexposed, hnoted⟩
  | idle n m hn hm => exact ⟨h.provider.setNext hn, h.requester.setNext hm, hunexposed, hnoted⟩

theorem Sound.init : ({} : Link).Sound :=
  ⟨.init, .init, by simp [Unexposed, Half.clean], by simp [Noted]⟩

end Link

end Handshake

end SomeipGateway
