import SomeipGateway.Handshake.Exposure

/-! # At most one mapping per peer

A connect adds a mapping at the provider, its reply one at the requester. Both
find none there, provided that the connect is not out of date when it is handled
and that the two endpoints do not provide the service to each other.
-/

namespace SomeipGateway

namespace Handshake

/-- The message adds or drops the mappings that its sender has at the receiver. -/
def Msg.links : Msg → Bool
  | .connect _ | .request false => true
  | _ => false

def nextLink (l : List Msg) : Option Msg :=
  l.find? Msg.links

@[simp] theorem nextLink_append (l l' : List Msg) :
    nextLink (l ++ l') = (nextLink l).or (nextLink l') :=
  List.find?_append

theorem nextLink_eq_none {l : List Msg} (h : ∀ m ∈ l, m.links = false) : nextLink l = none :=
  List.find?_eq_none.2 fun m hm => by simp [h m hm]

theorem nextLink_cons_of_links {m : Msg} {l : List Msg} (h : m.links = true) :
    nextLink (m :: l) = some m := by
  simp [nextLink, h]

theorem nextLink_cons_of_not_links {m : Msg} {l : List Msg} (h : m.links = false) :
    nextLink (m :: l) = nextLink l := by
  simp [nextLink, h]

namespace Half

/-- The mapping of the peer is the one of a connect it sent to the bridge-owned
client, or of the reply to the application. -/
structure Single (h : Half) : Prop where
  le_one : h.mapped ≤ 1
  engaged : h.mapped ≠ 0 → h.engaged = true
  provides : h.client = some .bridge → h.pending = ∅
  answered : h.mapped ≠ 0 → h.client = some (.application true) →
    h.offer = some true ∧ h.pending = ∅

variable {h h' : Half} {m : Msg} {out : List Msg}

theorem Single.congr (h1 : h.Single) (hclient : h'.client = h.client) (hoffer : h'.offer = h.offer)
    (hpending : h'.pending = h.pending) (hmapped : h'.mapped = h.mapped ∨ h'.mapped = 0) :
    h'.Single := by
  have hne : h'.mapped ≠ 0 → h.mapped ≠ 0 := by omega
  have hle := h1.le_one
  refine ⟨by omega, fun hm => ?_, ?_, ?_⟩
  · simpa [Half.engaged, hclient] using h1.engaged (hne hm)
  · rw [hclient, hpending]
    exact h1.provides
  · rw [hclient, hoffer, hpending]
    exact fun hm => h1.answered (hne hm)

theorem Single.of_mapped_eq_zero (hmapped : h.mapped = 0)
    (hprovides : h.client = some .bridge → h.pending = ∅) : h.Single :=
  ⟨by omega, fun hm => absurd hmapped hm, hprovides, fun hm => absurd hmapped hm⟩

theorem Single.mapped_eq_zero (h1 : h.Single) (hidle : h.engaged = false) : h.mapped = 0 := by
  by_contra hm
  simp [h1.engaged hm] at hidle

/-- An endpoint that waits for a reply has no mapping yet. -/
theorem Single.mapped_of_pending (h1 : h.Single) (hs : h.Sound) {id : Nat} (hid : id ∈ h.pending) :
    h.client = some (.application true) ∧ h.mapped = 0 := by
  have hengaged := hs.sent (hs.pending ⟨id, hid⟩)
  have hbridge : h.client ≠ some .bridge := fun hclient => by simp [h1.provides hclient] at hid
  have hclient : h.client = some (.application true) := by
    simpa [Half.engaged, hbridge] using hengaged
  refine ⟨hclient, ?_⟩
  by_contra hm
  simp [(h1.answered hm hclient).2] at hid

theorem links_notify {available : Bool} (hm : m ∈ (h.notify available).2) : m.links = false := by
  rw [(mem_notify hm).1]
  rfl

theorem notify_mapped (available : Bool) :
    (h.notify available).1.mapped = h.mapped ∨ (h.notify available).1.mapped = 0 := by
  unfold notify
  split
  · cases available
    · exact .inr rfl
    · exact .inl rfl
  · exact .inl rfl

theorem Single.acts (h1 : h.Single) {action : Action} (ha : Acts h action h' out) :
    h'.Single := by
  cases ha with
  | idle => exact h1
  | register hclient | leave hclient | request hclient | connect hclient =>
      exact .of_mapped_eq_zero (h1.mapped_eq_zero (by simp [Half.engaged, hclient])) (by simp)
  | release => exact .of_mapped_eq_zero rfl (by simp)
  | enable | disable | finish =>
      exact h1.congr (notify_client _) (notify_offer _) (notify_pending _) (notify_mapped _)
  | discard | refuse => exact h1.congr rfl rfl rfl (.inl rfl)

/-- A connect finds no mapping, and no offer comes to an endpoint that provides
the service. -/
theorem Single.receives (hs : h.Sound) (h1 : h.Single) (hr : Receives h m h' out)
    (hconnect : ∀ id, m = .connect id → h.client = some .bridge ∧ h.mapped = 0)
    (hoffer : m = .offer true → h.client = some .bridge → h.requested = false) : h'.Single := by
  cases hr with
  | withdraw | forget => exact .of_mapped_eq_zero rfl fun _ => rfl
  | lose =>
      refine .of_mapped_eq_zero ?_ fun _ => notify_pending _
      rcases notify_mapped (h := { h with
        offer := none, pending := ∅, mapped := 0, hasState := true, server := none }) false
        with hmapped | hmapped <;> exact hmapped
  | offered | owned | refused => exact h1.congr rfl rfl rfl (.inl rfl)
  | connected hlocal howner hclient | waiting hlocal howner hclient =>
      have hidle : h.engaged = false := by simp [Half.engaged, hclient]
      exact .of_mapped_eq_zero (h1.mapped_eq_zero hidle) fun _ => (hs.idle hidle).pending
  | note =>
      refine ⟨h1.le_one, h1.engaged, h1.provides, fun hm hclient => ?_⟩
      obtain ⟨hsent, hpending⟩ := h1.answered hm hclient
      exact ⟨by simp [hsent], hpending⟩
  | connect hreq hsent =>
      refine ⟨h1.le_one, h1.engaged, fun hclient => ?_, fun hm hclient => ?_⟩
      · simp [hoffer rfl hclient] at hreq
      · exact absurd (h1.answered hm hclient).1 hsent
  | map id =>
      obtain ⟨hclient, hmapped⟩ := hconnect id rfl
      refine ⟨by simp [hmapped], fun _ => by simp [Half.engaged, hclient], h1.provides, ?_⟩
      simp [hclient]
  | ignore => exact h1
  | orphan id hid =>
      refine ⟨h1.le_one, h1.engaged, fun hclient => ?_, fun hm hclient => ?_⟩
      · simp [h1.provides hclient] at hid
      · simp [(h1.answered hm hclient).2] at hid
  | answer id hid =>
      have hawaited := hs.pending ⟨id, hid⟩
      obtain ⟨-, hmapped⟩ := h1.mapped_of_pending hs hid
      have hempty : h.pending.erase id = ∅ := by
        have hcard := Finset.card_erase_of_mem hid
        have hle := hs.pending_card
        exact Finset.card_eq_zero.1 (by omega)
      exact ⟨by simp [hmapped], fun _ => hs.sent hawaited, fun _ => hempty,
        fun _ _ => ⟨hawaited, hempty⟩⟩

end Half

namespace Link

/-- A connect is answered while its sender waits for it and is not about to be
told that the service is gone, or its mapping is dropped next. No offer comes to
an endpoint that provides the service. -/
def connectsOnce (l : Link) : Label → Bool
  | .up =>
      match l.up with
      | .connect id :: rest =>
          id ∈ l.requester.pending && .offer false ∉ l.down ||
            nextLink rest = some (.request false)
      | .offer true :: _ => l.provider.client ≠ some .bridge || !l.provider.requested
      | _ => true
  | _ => true

/-- The mapping of the requester at the provider is the only one it will get: the
next message that touches it drops it, or the requester has what it asked for. -/
def Settled (l : Link) : Prop :=
  nextLink l.up = some (.request false) ∨
    nextLink l.up = none ∧ l.requester.offer = some true ∧ .offer false ∉ l.down

structure Linked (l : Link) : Prop where
  sound : l.Sound
  single : l.provider.Single
  settled : l.provider.mapped ≠ 0 → l.provider.client = some .bridge → l.Settled
  /-- Nothing of its kind follows a connect that the requester waits for. -/
  awaited : ∀ id ∈ l.requester.pending, l.up.Pairwise fun m m' => m = .connect id → m'.links = false
  numbered : ∀ id, .connect id ∈ l.up → id < l.requester.next

variable {l l' : Link} {label : Label}

theorem Linked.provider_act (h : l.Linked) {action : Half.Action} {p : Half} {out : List Msg}
    (ha : Half.Acts l.provider action p out)
    (hsound : ({ l with provider := p, down := l.down ++ out } : Link).Sound) :
    ({ l with provider := p, down := l.down ++ out } : Link).Linked := by
  refine ⟨hsound, h.single.acts ha, fun (hmapped : p.mapped ≠ 0) (hclient : p.client = _) => ?_,
    h.awaited, h.numbered⟩
  have hkeeps : ∀ out, .offer false ∉ out → l.Settled →
      ({ l with provider := p, down := l.down ++ out } : Link).Settled := by
    rintro out hout (hlink | ⟨hlink, hoffer, hdown⟩)
    · exact .inl hlink
    · exact .inr ⟨hlink, hoffer, by simp [hdown, hout]⟩
  cases ha with
  | idle => exact hkeeps [] (by simp) (h.settled hmapped hclient)
  | discard | refuse => exact hkeeps [] (by simp) (h.settled hmapped hclient)
  | register | request | connect | release | leave => cases hclient
  | disable =>
      rw [Half.notify_client] at hclient
      simp [Half.notify, show l.provider.client = _ from hclient] at hmapped
  | enable | finish =>
      rw [Half.notify_client] at hclient
      have hbefore : l.provider.mapped ≠ 0 := by
        simpa [Half.notify, show l.provider.client = _ from hclient] using hmapped
      refine hkeeps _ (fun hm => ?_) (h.settled hbefore hclient)
      cases (Half.mem_notify hm).1

/-- A connect finds no mapping of its sender. -/
theorem Linked.mapped_of_connect (h : l.Linked) {id : Nat} {rest : List Msg}
    (hup : l.up = .connect id :: rest) :
    l.provider.client = some .bridge ∧ l.provider.mapped = 0 := by
  have hbridge : l.provider.client = some .bridge := by
    by_contra hne
    exact (h.sound.unexposed hne).2.2 id (by simp [hup])
  refine ⟨hbridge, ?_⟩
  by_contra hmapped
  have hlink : nextLink l.up = some (.connect id) := by
    rw [hup, nextLink_cons_of_links rfl]
  rcases h.settled hmapped hbridge with hnext | ⟨hnext, -⟩
  · simp [hlink] at hnext
  · simp [hlink] at hnext

theorem Linked.provider_receive (h : l.Linked) {m : Msg} {rest : List Msg} {p : Half}
    {out : List Msg} (hup : l.up = m :: rest) (hok : l.connectsOnce .up = true)
    (hr : Half.Receives l.provider m p out)
    (hsound : ({ l with provider := p, up := rest, down := l.down ++ out } : Link).Sound) :
    ({ l with provider := p, up := rest, down := l.down ++ out } : Link).Linked := by
  have hawaited : ∀ id ∈ l.requester.pending,
      (m :: rest).Pairwise fun m m' => m = .connect id → m'.links = false := hup ▸ h.awaited
  have hconnect : ∀ id, m = .connect id →
      l.provider.client = some .bridge ∧ l.provider.mapped = 0 := by
    rintro id rfl
    exact h.mapped_of_connect hup
  have hoffer : m = .offer true → l.provider.client = some .bridge →
      l.provider.requested = false := by
    rintro rfl hbridge
    simpa [connectsOnce, hup, hbridge] using hok
  refine ⟨hsound, h.single.receives h.sound.provider hr hconnect hoffer,
    fun (hmapped : p.mapped ≠ 0) (hclient : p.client = _) => ?_,
    fun id hid => (List.pairwise_cons.1 (hawaited id hid)).2,
    fun id hid => h.numbered id (by simp [hup, show .connect id ∈ rest from hid])⟩
  have hkeeps : m.links = false → .offer false ∉ out → l.Settled →
      ({ l with provider := p, up := rest, down := l.down ++ out } : Link).Settled := by
    intro hlinks hout hsettled
    rw [Settled, hup, nextLink_cons_of_not_links hlinks] at hsettled
    rcases hsettled with hlink | ⟨hlink, hoffer, hdown⟩
    · exact .inl hlink
    · exact .inr ⟨hlink, hoffer, by simp [hdown, hout]⟩
  cases hr with
  | withdraw | forget => exact absurd rfl hmapped
  | lose =>
      rw [Half.notify_client] at hclient
      simp [Half.notify, show l.provider.client = _ from hclient] at hmapped
  | offered | owned | refused | note | ignore | orphan =>
      exact hkeeps rfl (by simp) (h.settled hmapped hclient)
  | connect => exact hkeeps rfl (by simp) (h.settled hmapped hclient)
  | connected hlocal howner hnone | waiting hlocal howner hnone =>
      exact absurd (h.single.mapped_eq_zero (by simp [Half.engaged, hnone])) hmapped
  | map id =>
      have hok : (id ∈ l.requester.pending ∧ .offer false ∉ l.down) ∨
          nextLink rest = some (.request false) := by
        simpa [connectsOnce, hup] using hok
      rcases hok with ⟨hid, hdown⟩ | hlink
      · have hrest := (List.pairwise_cons.1 (hawaited id hid)).1
        exact .inr ⟨nextLink_eq_none fun m' hm' => hrest m' hm' rfl,
          h.sound.requester.pending ⟨id, hid⟩, by simp [hdown]⟩
      · exact .inl hlink
  | answer id hid => simp [h.single.provides hclient] at hid

/-- The messages of the requester number their connects on, and a connect it waits
for is the last of its kind. -/
theorem Linked.of_requester (h : l.Linked) {q : Half} {down out : List Msg}
    (hsound : ({ l with requester := q, down := down, up := l.up ++ out } : Link).Sound)
    (hsettled : l.Settled →
      ({ l with requester := q, down := down, up := l.up ++ out } : Link).Settled)
    (hpending : ∀ id ∈ q.pending, id ∈ l.requester.pending ∧ (∀ m ∈ out, m.links = false) ∨
      id = l.requester.next ∧ out.Pairwise fun m m' => m = .connect id → m'.links = false)
    (hnext : l.requester.next ≤ q.next) (hout : ∀ id, .connect id ∈ out → id < q.next) :
    ({ l with requester := q, down := down, up := l.up ++ out } : Link).Linked := by
  refine ⟨hsound, h.single, fun hmapped hclient => hsettled (h.settled hmapped hclient),
    fun id hid => List.pairwise_append.2 ?_, fun id hid => ?_⟩
  · rcases hpending id hid with ⟨hold, hlinks⟩ | ⟨rfl, hfirst⟩
    · exact ⟨h.awaited id hold, List.pairwise_of_forall_mem_list fun _ _ m' hm' _ => hlinks m' hm',
        fun _ _ m' hm' _ => hlinks m' hm'⟩
    · have hfresh : ∀ m ∈ l.up, m ≠ .connect l.requester.next := by
        rintro m hm rfl
        exact lt_irrefl _ (h.numbered _ hm)
      exact ⟨List.pairwise_of_forall_mem_list fun m hm _ _ heq => absurd heq (hfresh m hm), hfirst,
        fun m hm _ _ heq => absurd heq (hfresh m hm)⟩
  · rcases List.mem_append.1 hid with hid | hid
    · exact (h.numbered id hid).trans_le hnext
    · exact hout id hid

theorem Settled.mono (h : l.Settled) {q : Half} {down out : List Msg} (hout : nextLink out = none)
    (hoffer : l.requester.offer = some true → q.offer = some true)
    (hdown : .offer false ∈ down → .offer false ∈ l.down) :
    ({ l with requester := q, down := down, up := l.up ++ out } : Link).Settled := by
  rcases h with hlink | ⟨hlink, hsent, hnone⟩
  · exact .inl (by simp [hlink])
  · exact .inr ⟨by simp [hlink, hout], hoffer hsent, fun hm => hnone (hdown hm)⟩

/-- A requester that has no answered offer can only have given up before. -/
theorem Settled.of_not_sent (h : l.Settled) {q : Half} {down out : List Msg}
    (hoffer : l.requester.offer ≠ some true) :
    ({ l with requester := q, down := down, up := l.up ++ out } : Link).Settled := by
  rcases h with hlink | ⟨-, hsent, -⟩
  · exact .inl (by simp [hlink])
  · exact absurd hsent hoffer

theorem Linked.requester_act (h : l.Linked) {action : Half.Action} {q : Half} {out : List Msg}
    (ha : Half.Acts l.requester action q out)
    (hsound : ({ l with requester := q, up := l.up ++ out } : Link).Sound) :
    ({ l with requester := q, up := l.up ++ out } : Link).Linked := by
  cases ha with
  | idle | register | leave | request | discard | refuse =>
      exact h.of_requester hsound (fun hset => hset.mono rfl id id)
        (fun id hid => .inl ⟨hid, by simp [Msg.links]⟩) le_rfl (by simp)
  | connect hclient =>
      have hidle := h.sound.requester.idle (by simp [Half.engaged, hclient])
      refine h.of_requester hsound (fun hset => hset.of_not_sent hidle.offer) (fun id hid => ?_)
        (Nat.le_succ _) (by simp)
      exact .inr ⟨by simpa [hidle.pending] using hid, by simp⟩
  | release =>
      refine h.of_requester hsound (fun hset => ?_) (by simp) le_rfl (by simp)
      rcases hset with hlink | ⟨hlink, -⟩
      · exact .inl (by simp [hlink])
      · exact .inl (by rw [nextLink_append, hlink, nextLink_cons_of_links rfl]; rfl)
  | enable | disable | finish =>
      refine h.of_requester hsound (fun hset => hset.mono ?_ ?_ id) (fun id hid => ?_)
        (by rw [Half.notify_next]) (fun id hm => ?_)
      · exact nextLink_eq_none fun m hm => Half.links_notify hm
      · rw [Half.notify_offer]
        exact id
      · rw [Half.notify_pending] at hid
        exact .inl ⟨hid, fun m hm => Half.links_notify hm⟩
      · cases (Half.mem_notify hm).1

theorem Linked.requester_receive (h : l.Linked) {m : Msg} {rest : List Msg} {q : Half}
    {out : List Msg} (hdown : l.down = m :: rest) (hr : Half.Receives l.requester m q out)
    (hsound : ({ l with requester := q, down := rest, up := l.up ++ out } : Link).Sound) :
    ({ l with requester := q, down := rest, up := l.up ++ out } : Link).Linked := by
  have hrest : .offer false ∈ rest → .offer false ∈ l.down := fun hm => by simp [hdown, hm]
  -- a requester that is about to be told has no settled mapping
  have htold : m = .offer false → l.Settled → nextLink l.up = some (.request false) := by
    rintro rfl (hlink | ⟨-, -, hnone⟩)
    · exact hlink
    · simp [hdown] at hnone
  cases hr with
  | withdraw =>
      exact h.of_requester hsound (fun hset => hset.mono rfl id hrest) (by simp) le_rfl (by simp)
  | offered | owned | refused | connected | waiting | ignore =>
      exact h.of_requester hsound (fun hset => hset.mono rfl id hrest)
        (fun id hid => .inl ⟨hid, by simp [Msg.links]⟩) le_rfl (by simp)
  | forget =>
      exact h.of_requester hsound (fun hset => .inl (by simp [htold rfl hset])) (by simp) le_rfl
        (by simp)
  | lose =>
      refine h.of_requester hsound (fun hset => .inl (by simp [htold rfl hset])) (fun id hid => ?_)
        (by rw [Half.notify_next]) (fun id hm => ?_)
      · simp [Half.notify_pending] at hid
      · cases (Half.mem_notify hm).1
  | note =>
      exact h.of_requester hsound (fun hset => hset.mono rfl (fun hsent => by simp [hsent]) hrest)
        (fun id hid => .inl ⟨hid, by simp⟩) le_rfl (by simp)
  | connect hreq hoffer =>
      have hempty := Half.pending_eq_empty h.sound.requester hoffer
      refine h.of_requester hsound (fun hset => hset.of_not_sent hoffer) (fun id hid => ?_)
        (Nat.le_succ _) (by simp)
      exact .inr ⟨by simpa [hempty] using hid, by simp⟩
  | map =>
      exact h.of_requester hsound (fun hset => hset.mono rfl id hrest)
        (fun id hid => .inl ⟨hid, by simp [Msg.links]⟩) (Nat.le_succ _) (by simp)
  | orphan | answer =>
      exact h.of_requester hsound (fun hset => hset.mono rfl id hrest)
        (fun id hid => .inl ⟨Finset.mem_of_mem_erase hid, by simp⟩) le_rfl (by simp)

theorem Linked.step (h : l.Linked) (hok : l.connectsOnce label = true) (hstep : Step l label l') :
    l'.Linked := by
  have hsound := h.sound.step hstep
  cases hstep with
  | provider action => exact h.provider_act (l.provider.acts action) hsound
  | requester action => exact h.requester_act (l.requester.acts action) hsound
  | down m rest r hdown hbusy hreceive =>
      exact h.requester_receive hdown (Half.receives hreceive) hsound
  | up m rest r hup hbusy hreceive =>
      exact h.provider_receive hup hok (Half.receives hreceive) hsound
  | idle n m hn hm =>
      exact ⟨hsound, h.single.congr rfl rfl rfl (.inl rfl), h.settled, h.awaited,
        fun id hid => (h.numbered id hid).trans_le hm⟩

theorem Linked.init : ({} : Link).Linked :=
  ⟨.init, .of_mapped_eq_zero rfl (by simp), by simp, by simp, by simp⟩

end Link

end Handshake

end SomeipGateway
