import Mathlib.Data.Finset.Card
import SomeipGateway.Endpoint.Basic

/-! # The handshake of one service between two endpoints

What the two endpoints hold for one service, and the messages about it that are
on their way. `Half` is one endpoint: the server and the client in its SOCom
record, and the state of its binding for the one peer. `Link` joins a provider
and a requester; every run can be read with either endpoint as the provider.
-/

namespace SomeipGateway

namespace Handshake

inductive Msg where
  | request (inUse : Bool)
  | offer (offered : Bool)
  | connect (requiredId : Nat)
  | reply (requiredId : Nat)
deriving DecidableEq, Repr

inductive ServerKind where
  | application
  | bridge
deriving DecidableEq, Repr

structure Half where
  server : Option ServerKind := none
  client : Option Client := none
  hasState : Bool := false
  requested : Bool := false
  /-- The offer of the peer, with whether a connect was sent for it. -/
  offer : Option Bool := none
  localOffer : Bool := false
  /-- The peer is among the interested ones. -/
  interested : Bool := false
  pending : Finset Nat := ∅
  /-- A reply is between the two sections of its handler. -/
  busy : Bool := false
  /-- The number of mappings of the peer. -/
  mapped : Nat := 0
  next : Nat := 1
deriving DecidableEq

namespace Half

/-- `service_state_change` of the bridge-owned client, if there is one. -/
def notify (h : Half) (isAvailable : Bool) : Half × List Msg :=
  if h.client = some .bridge then
    ({ h with
        hasState := true
        requested := true
        localOffer := isAvailable
        mapped := if isAvailable then h.mapped else 0 },
      if h.interested then [.offer isAvailable] else [])
  else (h, [])

variable {h : Half} (isAvailable : Bool)

@[simp] theorem notify_client : (h.notify isAvailable).1.client = h.client := by
  unfold notify
  split <;> rfl

@[simp] theorem notify_server : (h.notify isAvailable).1.server = h.server := by
  unfold notify
  split <;> rfl

@[simp] theorem notify_offer : (h.notify isAvailable).1.offer = h.offer := by
  unfold notify
  split <;> rfl

@[simp] theorem notify_interested : (h.notify isAvailable).1.interested = h.interested := by
  unfold notify
  split <;> rfl

@[simp] theorem notify_pending : (h.notify isAvailable).1.pending = h.pending := by
  unfold notify
  split <;> rfl

@[simp] theorem notify_next : (h.notify isAvailable).1.next = h.next := by
  unfold notify
  split <;> rfl

theorem notify_setServer (h : Half) (server : Option ServerKind) :
    { h with server := server }.notify isAvailable =
      ({ (h.notify isAvailable).1 with server := server }, (h.notify isAvailable).2) := by
  unfold notify
  split <;> rfl

/-- `maybe_send_connect_service_locked`. -/
def connectIfDue (h : Half) : Half × List Msg :=
  if h.requested ∧ h.offer = some false then
    ({ h with offer := some true, pending := insert h.next h.pending, next := h.next + 1 },
      [.connect h.next])
  else (h, [])

@[simp] theorem connectIfDue_client : h.connectIfDue.1.client = h.client := by
  unfold connectIfDue
  split <;> rfl

@[simp] theorem connectIfDue_server : h.connectIfDue.1.server = h.server := by
  unfold connectIfDue
  split <;> rfl

@[simp] theorem connectIfDue_busy : h.connectIfDue.1.busy = h.busy := by
  unfold connectIfDue
  split <;> rfl

inductive Action where
  | make
  | destroy
  | enable
  | disable
  | finish
  /-- The reply finds a server connector that an application holds. -/
  | refuse
deriving DecidableEq, Repr

def act (h : Half) : Action → Half × List Msg
  | .make =>
      match h.client, h.server with
      | some _, _ => (h, [])
      | none, some _ => ({ h with client := some (.application false) }, [])
      | none, none =>
          let r := { h with
            client := some (.application true)
            hasState := true
            requested := true }.connectIfDue
          (r.1, .request true :: r.2)
  | .destroy =>
      match h.client with
      | some (.application true) =>
          ({ h with
              client := none
              server := if h.server = some .bridge then none else h.server
              hasState := false
              requested := false
              offer := none
              pending := ∅
              mapped := 0 },
            [.request false])
      | some (.application false) => ({ h with client := none }, [])
      | _ => (h, [])
  | .enable =>
      match h.server with
      | some _ => (h, [])
      | none => { h with server := some .application }.notify true
  | .disable =>
      match h.server with
      | some .application => { h with server := none }.notify false
      | _ => (h, [])
  | .finish =>
      if h.busy then
        match h.server with
        | some _ => ({ h with busy := false }, [])
        | none =>
            if h.hasState then { h with busy := false, server := some .bridge }.notify true
            else ({ h with busy := false }, [])
      else (h, [])
  | .refuse => if h.busy then ({ h with busy := false }, []) else (h, [])

theorem act_make_of_isSome (hclient : h.client = none) (hserver : h.server.isSome = true) :
    h.act .make = ({ h with client := some (.application false) }, []) := by
  cases h with
  | mk server client =>
      cases server with
      | none => cases hserver
      | some server =>
          subst hclient
          rfl

theorem act_make_of_none (hclient : h.client = none) (hserver : h.server = none) :
    h.act .make =
      ({ h with
          client := some (.application true)
          hasState := true
          requested := true }.connectIfDue.1,
        .request true ::
          { h with
            client := some (.application true)
            hasState := true
            requested := true }.connectIfDue.2) := by
  cases h
  subst hclient hserver
  rfl

theorem act_destroy_of_unbridged (hclient : h.client = some (.application false)) :
    h.act .destroy = ({ h with client := none }, []) := by
  cases h
  subst hclient
  rfl

theorem act_destroy_of_bridged (hclient : h.client = some (.application true)) :
    h.act .destroy =
      ({ h with
          client := none
          server := if h.server = some .bridge then none else h.server
          hasState := false
          requested := false
          offer := none
          pending := ∅
          mapped := 0 },
        [.request false]) := by
  cases h
  subst hclient
  rfl

/-- The service has a reason why a request of the peer makes no client connector. -/
def hasOwner (h : Half) : Bool :=
  h.client = some .bridge || h.server = some .bridge || h.requested

/-- `none` is the missing service state that a Connect_service runs into. -/
def receive (h : Half) : Msg → Option (Half × List Msg)
  | .request false => some ({ h with mapped := 0, pending := ∅, interested := false }, [])
  | .request true =>
      let h := { h with interested := true }
      if h.localOffer then some (h, [.offer true])
      else if h.hasOwner then some (h, [])
      else
        match h.client, h.server with
        | some _, _ => some ({ h with hasState := true }, [])
        | none, some _ => some ({ h with client := some .bridge }.notify true)
        | none, none => some ({ h with client := some .bridge, hasState := true }, [])
  | .offer false =>
      let h := { h with offer := none, pending := ∅, mapped := 0, hasState := true }
      if h.server = some .bridge then some ({ h with server := none }.notify false)
      else some (h, [])
  | .offer true =>
      some { h with offer := some (h.offer.getD false), hasState := true }.connectIfDue
  | .connect r =>
      if h.hasState then
        some ({ h with mapped := h.mapped + 1, next := h.next + 1 }, [.reply r])
      else none
  | .reply r =>
      if r ∈ h.pending then
        if h.hasState then
          some ({ h with pending := h.pending.erase r, mapped := h.mapped + 1, busy := true }, [])
        else some ({ h with pending := h.pending.erase r }, [])
      else some (h, [])

theorem receive_request_of_localOffer (hlocal : h.localOffer = true) :
    h.receive (.request true) = some ({ h with interested := true }, [.offer true]) := by
  cases h
  subst hlocal
  rfl

theorem receive_request_of_hasOwner (hlocal : h.localOffer = false) (howner : h.hasOwner = true) :
    h.receive (.request true) = some ({ h with interested := true }, []) := by
  cases h
  subst hlocal
  simp_all [receive, hasOwner]

section

variable (hlocal : h.localOffer = false) (howner : h.hasOwner = false)

include hlocal howner

theorem receive_request_of_isSome (hclient : h.client.isSome = true) :
    h.receive (.request true) = some ({ h with interested := true, hasState := true }, []) := by
  obtain ⟨client, hclient⟩ := Option.isSome_iff_exists.1 hclient
  cases h
  subst hclient hlocal
  simp_all [receive, hasOwner]

theorem receive_request_of_server (hclient : h.client = none) (hserver : h.server.isSome = true) :
    h.receive (.request true) =
      some ({ h with interested := true, client := some .bridge }.notify true) := by
  obtain ⟨server, hserver⟩ := Option.isSome_iff_exists.1 hserver
  cases h
  subst hclient hserver hlocal
  simp_all [receive, hasOwner]

theorem receive_request_of_none (hclient : h.client = none) (hserver : h.server = none) :
    h.receive (.request true) =
      some ({ h with interested := true, client := some .bridge, hasState := true }, []) := by
  cases h
  subst hclient hserver hlocal
  simp_all [receive, hasOwner]

end

/-! ## The outcomes of a step, one by one -/

inductive Acts (h : Half) : Action → Half → List Msg → Prop where
  | idle (action : Action) : Acts h action h []
  | register (hclient : h.client = none) (hserver : h.server.isSome = true) :
      Acts h .make { h with client := some (.application false) } []
  | request (hclient : h.client = none) (hserver : h.server = none)
      (hoffer : h.offer ≠ some false) :
      Acts h .make
        { h with client := some (.application true), hasState := true, requested := true }
        [.request true]
  | connect (hclient : h.client = none) (hserver : h.server = none)
      (hoffer : h.offer = some false) :
      Acts h .make
        { h with
          client := some (.application true)
          hasState := true
          requested := true
          offer := some true
          pending := insert h.next h.pending
          next := h.next + 1 }
        [.request true, .connect h.next]
  | release (hclient : h.client = some (.application true)) :
      Acts h .destroy
        { h with
          client := none
          server := if h.server = some .bridge then none else h.server
          hasState := false
          requested := false
          offer := none
          pending := ∅
          mapped := 0 }
        [.request false]
  | leave (hclient : h.client = some (.application false)) :
      Acts h .destroy { h with client := none } []
  | enable (hserver : h.server = none) :
      Acts h .enable ({ h with server := some .application }.notify true).1
        ({ h with server := some .application }.notify true).2
  | disable (hserver : h.server = some .application) :
      Acts h .disable ({ h with server := none }.notify false).1
        ({ h with server := none }.notify false).2
  | finish (hbusy : h.busy = true) (hserver : h.server = none) (hstate : h.hasState = true) :
      Acts h .finish ({ h with busy := false, server := some .bridge }.notify true).1
        ({ h with busy := false, server := some .bridge }.notify true).2
  | discard (hbusy : h.busy = true) (hserver : h.server.isSome = true ∨ h.hasState = false) :
      Acts h .finish { h with busy := false } []
  | refuse (hbusy : h.busy = true) : Acts h .refuse { h with busy := false } []

theorem acts (h : Half) (action : Action) : Acts h action (h.act action).1 (h.act action).2 := by
  cases action with
  | make =>
      simp only [act]
      split
      · exact .idle _
      next hclient hserver => exact .register hclient (by simp [hserver])
      next hclient hserver =>
        unfold connectIfDue
        split
        next hdue => exact .connect hclient hserver hdue.2
        next hdue => exact .request hclient hserver fun hoffer => hdue ⟨rfl, hoffer⟩
  | destroy =>
      simp only [act]
      split
      next hclient => exact .release hclient
      next hclient => exact .leave hclient
      · exact .idle _
  | enable =>
      simp only [act]
      split
      · exact .idle _
      next hserver => exact .enable hserver
  | disable =>
      simp only [act]
      split
      next hserver => exact .disable hserver
      · exact .idle _
  | finish =>
      simp only [act]
      split
      next hbusy =>
        split
        next hserver => exact .discard hbusy (.inl (by simp [hserver]))
        next hserver =>
          split
          next hstate => exact .finish hbusy hserver hstate
          next hstate => exact .discard hbusy (.inr (by simpa using hstate))
      · exact .idle _
  | refuse =>
      simp only [act]
      split
      next hbusy => exact .refuse hbusy
      · exact .idle _

inductive Receives (h : Half) : Msg → Half → List Msg → Prop where
  | withdraw :
      Receives h (.request false) { h with mapped := 0, pending := ∅, interested := false } []
  | offered (hlocal : h.localOffer = true) :
      Receives h (.request true) { h with interested := true } [.offer true]
  | owned (hlocal : h.localOffer = false) (howner : h.hasOwner = true) :
      Receives h (.request true) { h with interested := true } []
  | refused (hlocal : h.localOffer = false) (howner : h.hasOwner = false)
      (hclient : h.client.isSome = true) :
      Receives h (.request true) { h with interested := true, hasState := true } []
  | connected (hlocal : h.localOffer = false) (howner : h.hasOwner = false)
      (hclient : h.client = none) (hserver : h.server.isSome = true) :
      Receives h (.request true)
        { h with
          interested := true
          client := some .bridge
          hasState := true
          requested := true
          localOffer := true }
        [.offer true]
  | waiting (hlocal : h.localOffer = false) (howner : h.hasOwner = false)
      (hclient : h.client = none) (hserver : h.server = none) :
      Receives h (.request true)
        { h with interested := true, client := some .bridge, hasState := true } []
  | forget (hserver : h.server ≠ some .bridge) :
      Receives h (.offer false)
        { h with offer := none, pending := ∅, mapped := 0, hasState := true } []
  | lose (hserver : h.server = some .bridge) :
      Receives h (.offer false)
        ({ h with
          offer := none
          pending := ∅
          mapped := 0
          hasState := true
          server := none }.notify false).1
        ({ h with
          offer := none
          pending := ∅
          mapped := 0
          hasState := true
          server := none }.notify false).2
  | note (hdue : h.requested = true → h.offer = some true) :
      Receives h (.offer true)
        { h with offer := some (h.offer.getD false), hasState := true } []
  | connect (hreq : h.requested = true) (hoffer : h.offer ≠ some true) :
      Receives h (.offer true)
        { h with
          offer := some true
          hasState := true
          pending := insert h.next h.pending
          next := h.next + 1 }
        [.connect h.next]
  | map (id : Nat) (hstate : h.hasState = true) :
      Receives h (.connect id) { h with mapped := h.mapped + 1, next := h.next + 1 } [.reply id]
  | ignore (id : Nat) (hid : id ∉ h.pending) : Receives h (.reply id) h []
  | orphan (id : Nat) (hid : id ∈ h.pending) (hstate : h.hasState = false) :
      Receives h (.reply id) { h with pending := h.pending.erase id } []
  | answer (id : Nat) (hid : id ∈ h.pending) (hstate : h.hasState = true) :
      Receives h (.reply id)
        { h with pending := h.pending.erase id, mapped := h.mapped + 1, busy := true } []

theorem getD_eq_false {offer : Option Bool} :
    some (offer.getD false) = some false ↔ offer ≠ some true := by
  cases offer with
  | none => simp
  | some sent => cases sent <;> simp

theorem receives {h : Half} {m : Msg} {r : Half × List Msg} (hr : h.receive m = some r) :
    Receives h m r.1 r.2 := by
  cases m with
  | request inUse =>
      cases inUse with
      | false =>
          cases hr
          exact .withdraw
      | true =>
          simp only [receive] at hr
          split at hr
          next hlocal =>
            cases hr
            exact .offered hlocal
          next hlocal =>
            have hlocal : h.localOffer = false := by simpa using hlocal
            split at hr
            next howner =>
              cases hr
              exact .owned hlocal howner
            next howner =>
              have howner : h.hasOwner = false := Bool.eq_false_iff.2 howner
              split at hr
              next hclient =>
                cases hr
                exact .refused hlocal howner (by simp [hclient])
              next hclient hserver =>
                cases hr
                exact .connected hlocal howner hclient (by simp [hserver])
              next hclient hserver =>
                cases hr
                exact .waiting hlocal howner hclient hserver
  | offer offered =>
      cases offered with
      | false =>
          simp only [receive] at hr
          split at hr
          next hserver =>
            cases hr
            exact .lose hserver
          next hserver =>
            cases hr
            exact .forget hserver
      | true =>
          cases hr
          unfold connectIfDue
          split
          next hdue => exact .connect hdue.1 (getD_eq_false.1 hdue.2)
          next hdue =>
            refine .note fun hreq => ?_
            by_contra hoffer
            exact hdue ⟨hreq, getD_eq_false.2 hoffer⟩
  | connect id =>
      simp only [receive] at hr
      split at hr
      next hstate =>
        cases hr
        exact .map id hstate
      next => cases hr
  | reply id =>
      simp only [receive] at hr
      split at hr
      next hid =>
        split at hr
        next hstate =>
          cases hr
          exact .answer id hid hstate
        next hstate =>
          cases hr
          exact .orphan id hid (by simpa using hstate)
      next hid =>
        cases hr
        exact .ignore id hid

end Half

/-! ## Two endpoints -/

/-- `down` is the channel from the provider to the requester, `up` the other one. -/
structure Link where
  provider : Half := {}
  requester : Half := {}
  down : List Msg := []
  up : List Msg := []

namespace Link

def swap (l : Link) : Link :=
  ⟨l.requester, l.provider, l.up, l.down⟩

inductive Label where
  | provider (action : Half.Action)
  | requester (action : Half.Action)
  | down
  | up
  | idle
deriving DecidableEq, Repr

def Label.swap : Label → Label
  | .provider action => .requester action
  | .requester action => .provider action
  | .down => .up
  | .up => .down
  | .idle => .idle

/-- The steps of the handshake. An endpoint whose reply handler is not done takes
no message; a step about other services may use up handles. -/
inductive Step : Link → Label → Link → Prop where
  | provider (l : Link) (action : Half.Action) :
      Step l (.provider action)
        { l with
          provider := (l.provider.act action).1
          down := l.down ++ (l.provider.act action).2 }
  | requester (l : Link) (action : Half.Action) :
      Step l (.requester action)
        { l with
          requester := (l.requester.act action).1
          up := l.up ++ (l.requester.act action).2 }
  | down (l : Link) (m : Msg) (rest : List Msg) (r : Half × List Msg) (hdown : l.down = m :: rest)
      (hbusy : l.requester.busy = false) (hreceive : l.requester.receive m = some r) :
      Step l .down { l with requester := r.1, down := rest, up := l.up ++ r.2 }
  | up (l : Link) (m : Msg) (rest : List Msg) (r : Half × List Msg) (hup : l.up = m :: rest)
      (hbusy : l.provider.busy = false) (hreceive : l.provider.receive m = some r) :
      Step l .up { l with provider := r.1, up := rest, down := l.down ++ r.2 }
  | idle (l : Link) (n m : Nat) (hn : l.provider.next ≤ n) (hm : l.requester.next ≤ m) :
      Step l .idle
        { l with
          provider := { l.provider with next := n }
          requester := { l.requester with next := m } }

theorem Step.swap {l l' : Link} {label : Label} (h : Step l label l') :
    Step l.swap label.swap l'.swap := by
  cases h with
  | provider action => exact .requester l.swap action
  | requester action => exact .provider l.swap action
  | down m rest r hdown hbusy hreceive => exact .up l.swap m rest r hdown hbusy hreceive
  | up m rest r hup hbusy hreceive => exact .down l.swap m rest r hup hbusy hreceive
  | idle n m hn hm => exact .idle l.swap m n hm hn

end Link

end Handshake

end SomeipGateway
