import SomeipGateway.Handshake.Reception

/-! # Two endpoints run the handshake

The link of two connected endpoints for one service, and the handshake step that
a step of the network is for it. Every step of a network that loses no connection
is a step of the link.
-/

namespace SomeipGateway

open Handshake

/-! ## Local steps -/

namespace Endpoint

variable {ι : Type} [DecidableEq ι]

/-- What an event of the endpoint is for the handshake of the service. -/
def actionOf (key : Key) (n : Endpoint ι) : Event ι → Option Half.Action
  | .makeClientConnector k _ => if k = key then some .make else none
  | .destroyClientConnector k => if k = key then some .destroy else none
  | .enableServerConnector k _ => if k = key then some .enable else none
  | .disableServerConnector k => if k = key then some .disable else none
  | .finishReply client =>
      if (n.replyOf client).any fun reply => reply.key = key then
        some (if key ∈ n.made then .refuse else .finish)
      else none
  | _ => none

variable {env : Env ι} {n n' : Endpoint ι} {key : Key} {peer : ι} {h : Half}
  {effects out : List (Effect ι)}

theorem steers_eq_false {event : Event ι} (hlocal : event.isLocal = true)
    (hnone : n.actionOf key event = none) : n.steers key event = false := by
  cases event with
  | makeClientConnector | destroyClientConnector | enableServerConnector
  | disableServerConnector => simpa [steers, actionOf] using hnone
  | finishReply client => simpa [steers, actionOf] using hnone
  | makeServerConnector | destroyServerConnector | subscribeEvent | unsubscribeEvent | updateEvent | dropPayload => rfl
  | addClient | removeClient | receive => cases hlocal

theorem Shows.act (hlink : ∀ x msg, env.link x msg = true) (hn : Shows key peer n h)
    (hfresh : Fresh key n.binding) (horderly : Orderly peer n) {event : Event ι}
    {action : Half.Action} (haction : n.actionOf key event = some action)
    {r : Endpoint ι × List (Effect ι)} (hstep : n.step env event = some r) :
    Follows key peer r (h.act action) := by
  cases event with
  | makeClientConnector k counts =>
      obtain ⟨rfl, rfl⟩ : k = key ∧ .make = action := by simpa [actionOf] using haction
      exact hn.make hlink hfresh hstep
  | destroyClientConnector k =>
      obtain ⟨rfl, rfl⟩ : k = key ∧ .destroy = action := by simpa [actionOf] using haction
      exact hn.destroy hlink hstep
  | enableServerConnector k counts =>
      obtain ⟨rfl, rfl⟩ : k = key ∧ .enable = action := by simpa [actionOf] using haction
      exact hn.enable hlink hstep
  | disableServerConnector k =>
      obtain ⟨rfl, rfl⟩ : k = key ∧ .disable = action := by simpa [actionOf] using haction
      exact hn.disable hlink hstep
  | finishReply client =>
      simp only [actionOf] at haction
      split at haction
      next hany =>
        cases haction
        cases hreply : n.replyOf client with
        | none => simp [hreply] at hany
        | some reply =>
            have hkey : reply.key = key := by simpa [hreply] using hany
            have hclient : client = peer := by
              have hof := List.find?_some hreply
              rw [← horderly.client reply (replyOf_mem hreply)]
              exact (by simpa using hof : _ = _).symm
            subst hclient
            exact hn.finish hlink hkey (horderly.replies_eq_singleton hreply) hreply hstep
      next => cases haction
  | makeServerConnector | destroyServerConnector | subscribeEvent | unsubscribeEvent | updateEvent
  | dropPayload | addClient | removeClient | receive => cases haction

/-! ## Deliveries -/

section

variable {R R' : ι → Set Packet} {S : Set (Effect ι)} {packet : Packet} {y : ι}
  (hjustified : (Effect.send y packet.about packet.msg true).Justified R')
  (hreply : ∀ r l metadata counts k, packet.msg = .connectServiceReply r l metadata counts →
    n.binding.pendingConnects.lookup r = some ⟨k, peer⟩ → packet.about = some k)

include hjustified hreply

theorem steers_receive_eq_false (hnone : packet.toMsg key = none) :
    n.steers key (.receive peer packet.msg) = false := by
  obtain ⟨about, msg⟩ := packet
  cases msg with
  | connect => exact hjustified.elim
  | connectReply => exact hjustified.elim
  | requestService k | offerService k =>
      simp only [Effect.Justified] at hjustified
      subst hjustified
      simpa [Packet.toMsg, steers] using hnone
  | connectService k r metadata inUse =>
      obtain ⟨rfl, rfl⟩ := hjustified
      simpa [Packet.toMsg, steers] using hnone
  | connectServiceReply r l metadata counts =>
      simp only [steers, decide_eq_false_iff_not]
      intro hpending
      have habout : about = some key := hreply r l metadata counts key rfl hpending
      simp [Packet.toMsg, habout] at hnone
  | subscribeEvent | eventUpdate | payloadConsumed => rfl

theorem Shows.receive (hlink : ∀ x msg, env.link x msg = true) (hn : Shows key peer n h)
    (hknows : n.binding.Knows R S) (horderly : Orderly peer n) {m : Msg}
    (hm : packet.toMsg key = some m) {r : Endpoint ι × List (Effect ι)}
    (hstep : n.step env (.receive peer packet.msg) = some r) :
    h.busy = false ∧ Receives key peer r h m := by
  obtain ⟨u, effects, hact, hperform⟩ := step_eq_some.1 hstep
  obtain ⟨hnone, hreceive⟩ := act_receive_eq_some.1 hact
  have hreplies := horderly.replies_eq_nil hnone
  have hbusy : h.busy = false := by
    rw [← hn.busy]
    simp [Endpoint.busy, hreplies]
  refine ⟨hbusy, ?_⟩
  obtain ⟨about, msg⟩ := packet
  unfold Packet.toMsg at hm
  split at hm
  next habout =>
    simp only at habout hreceive
    subst habout
    cases Handles.of_onReceiveMessage hreceive with
    | @request k inUse _ _ hrequest =>
        obtain rfl : key = k := Option.some.inj hjustified
        cases hm
        cases inUse with
        | false => exact hn.receiveRequest_false hrequest hperform
        | true => exact hn.receiveRequest_true hlink hrequest hperform
    | @offer k offered _ _ hb =>
        obtain rfl : key = k := Option.some.inj hjustified
        cases hm
        cases offered with
        | false => exact hn.receiveOffer_false hlink hb hperform
        | true => exact hn.receiveOffer_true hlink hknows hb hperform
    | @connectService k _ _ _ _ _ hb =>
        obtain ⟨hk, rfl⟩ := hjustified
        obtain rfl : key = k := Option.some.inj hk
        cases hm
        exact hn.receiveConnect hlink hb hperform
    | connectServiceReply hb =>
        cases hm
        refine hn.receiveReply hreplies (fun k hk => ?_) hb hperform
        exact (Option.some.inj (hreply _ _ _ _ k rfl hk)).symm
    | connect | connectReply | subscribe | eventUpdate | payloadConsumed => cases hm
  next => cases hm

end

end Endpoint

/-! ## The link of two endpoints -/

namespace Network

variable {net net' : Network Bool} {key : Key} {p : Bool}

/-- The handshake of the service, with `p` as the provider. -/
def link (net : Network Bool) (key : Key) (p : Bool) : Link where
  provider := (net.endpoint p).half key (!p)
  requester := (net.endpoint (!p)).half key p
  down := (net.channel p (!p)).filterMap (Packet.toMsg key)
  up := (net.channel (!p) p).filterMap (Packet.toMsg key)

/-- What a step of the network is for the handshake. -/
def label (net : Network Bool) (key : Key) (p : Bool) : NetworkEvent Bool → Link.Label
  | .act x event =>
      match (net.endpoint x).actionOf key event with
      | none => .idle
      | some action => if x = p then .provider action else .requester action
  | .deliver x y =>
      match (net.channel x y).head?.bind (Packet.toMsg key) with
      | none => .idle
      | some _ => if x = p then .down else .up
  | .disconnect _ _ => .idle

theorem link_swap (net : Network Bool) (key : Key) (p : Bool) :
    net.link key (!p) = (net.link key p).swap := by
  simp [link, Link.swap]

theorem label_swap (net : Network Bool) (key : Key) (p : Bool) (event : NetworkEvent Bool) :
    net.label key (!p) event = (net.label key p event).swap := by
  cases event with
  | act x e =>
      simp only [label]
      split
      · rfl
      · cases x <;> cases p <;> rfl
  | deliver x y =>
      simp only [label]
      split
      · rfl
      · cases x <;> cases p <;> rfl
  | disconnect => rfl

/-- The two endpoints are the halves of the link, and all they hold was sent. -/
structure Simulates (key : Key) (net : Network Bool) : Prop where
  traced : net.Traced
  shows : ∀ x, Endpoint.Shows key (!x) (net.endpoint x) ((net.endpoint x).half key (!x))
  orderly : ∀ x, Endpoint.Orderly (!x) (net.endpoint x)

theorem filterMap_sendsTo (peer : Bool) (effects : List (Effect Bool)) :
    (sendsTo peer effects).filterMap (Packet.toMsg key) = said key peer effects := rfl

/-- A step of the provider, seen from the link. -/
theorem link_update {r : Endpoint Bool × List (Effect Bool)} {s : Half × List Msg}
    (hfollows : Endpoint.Follows key (!p) r s) :
    (net.update p r).link key p =
      { net.link key p with provider := s.1, down := (net.link key p).down ++ s.2 } := by
  simp [link, hfollows.shows.half_eq, ← hfollows.said, filterMap_sendsTo]

theorem Simulates.act (h : net.Simulates key) {metadata : Bool → Key → Option SharedMemoryMetadata}
    {event : Event Bool} (hlocal : event.isLocal = true) {r : Endpoint Bool × List (Effect Bool)}
    (hstep : (net.endpoint p).step (env (metadata p)) event = some r) :
    ∃ s, Endpoint.Follows key (!p) r s ∧
      Link.Step (net.link key p) (net.label key p (.act p event)) ((net.update p r).link key p) := by
  have hknows := (h.traced p).binding
  simp only [label]
  cases haction : (net.endpoint p).actionOf key event with
  | some action =>
      have hfollows := (h.shows p).act (env_link (metadata p)) (Endpoint.fresh_of_knows hknows key)
        (h.orderly p) haction hstep
      refine ⟨_, hfollows, ?_⟩
      rw [link_update hfollows]
      simp only [if_true]
      exact Link.Step.provider (net.link key p) action
  | none =>
      have hcalm := Endpoint.calm_step (Endpoint.steers_eq_false hlocal haction) hstep
      have hfollows : Endpoint.Follows key (!p) r (_, []) :=
        ⟨(h.shows p).steady hcalm.1, said_eq_nil hcalm.2⟩
      refine ⟨_, hfollows, ?_⟩
      rw [link_update hfollows, List.append_nil]
      exact Link.Step.idle (net.link key p) _ _ hcalm.1.next_le le_rfl

theorem Simulates.deliver (h : net.Simulates key)
    {metadata : Bool → Key → Option SharedMemoryMetadata} {packet : Packet} {rest : List Packet}
    (hchannel : net.channel (!p) p = packet :: rest) {r : Endpoint Bool × List (Effect Bool)}
    (hstep : (net.endpoint p).step (env (metadata p)) (.receive (!p) packet.msg) = some r) :
    ∃ s, Endpoint.Follows key (!p) r s ∧
      Link.Step (net.link key p) (net.label key p (.deliver (!p) p))
        (((net.take (!p) p packet rest).update p r).link key p) := by
  have hknows := (h.traced p).binding
  have hsent : packet ∈ net.sent (!p) p := by simp [sent, hchannel]
  have hreply : ∀ r l metadata counts k, packet.msg = .connectServiceReply r l metadata counts →
      (net.endpoint p).binding.pendingConnects.lookup r = some ⟨k, !p⟩ →
      packet.about = some k := by
    intro r l metadata counts k hmsg hpending
    obtain ⟨about, msg⟩ := packet
    simp only at hmsg
    subst hmsg
    exact h.traced.about_reply hsent hpending
  have hup : (net.link key p).up = (packet :: rest).filterMap (Packet.toMsg key) := by
    simp [link, hchannel]
  have hlink : ∀ {s : Half × List Msg}, Endpoint.Follows key (!p) r s →
      ((net.take (!p) p packet rest).update p r).link key p =
        { net.link key p with
          provider := s.1
          down := (net.link key p).down ++ s.2
          up := rest.filterMap (Packet.toMsg key) } := by
    intro s hfollows
    rw [link_update hfollows]
    simp [link]
  simp only [label, hchannel, List.head?_cons, Option.bind_some]
  cases hm : packet.toMsg key with
  | some m =>
      rw [List.filterMap_cons_some hm] at hup
      obtain ⟨hbusy, s, hreceive, hfollows⟩ := (h.shows p).receive (h.traced.justified hsent) hreply
        (env_link (metadata p)) hknows (h.orderly p) hm hstep
      refine ⟨s, hfollows, ?_⟩
      rw [hlink hfollows, if_neg (by simp)]
      exact Link.Step.up (net.link key p) m _ s hup hbusy hreceive
  | none =>
      rw [List.filterMap_cons_none hm] at hup
      have hcalm := Endpoint.calm_step
        (Endpoint.steers_receive_eq_false (h.traced.justified hsent) hreply hm) hstep
      have hfollows : Endpoint.Follows key (!p) r (_, []) :=
        ⟨(h.shows p).steady hcalm.1, said_eq_nil hcalm.2⟩
      refine ⟨_, hfollows, ?_⟩
      rw [hlink hfollows, List.append_nil, ← hup]
      exact Link.Step.idle (net.link key p) _ _ hcalm.1.next_le le_rfl

/-- Both endpoints stay halves of the link when one of them has taken its step. -/
theorem Simulates.of_follows (h : net.Simulates key) (htraced : net'.Traced)
    {r : Endpoint Bool × List (Effect Bool)} {s : Half × List Msg}
    (hfollows : Endpoint.Follows key (!p) r s) (horderly : Endpoint.Orderly (!p) r.1)
    (hnet : ∀ x, net'.endpoint x = if x = p then r.1 else net.endpoint x) :
    net'.Simulates key := by
  refine ⟨htraced, fun x => ?_, fun x => ?_⟩
  · rw [hnet x]
    split
    next hx =>
      subst hx
      rw [hfollows.shows.half_eq]
      exact hfollows.shows
    next => exact h.shows x
  · rw [hnet x]
    split
    next hx =>
      subst hx
      exact horderly
    next => exact h.orderly x

theorem Simulates.next (h : net.Simulates key)
    {metadata : Bool → Key → Option SharedMemoryMetadata} {event : NetworkEvent Bool}
    (hevent : event.staysConnected = true) (hnext : net.next metadata event = some net') (p : Bool) :
    net'.Simulates key ∧ Link.Step (net.link key p) (net.label key p event) (net'.link key p) := by
  have htraced := h.traced.next hevent hnext
  -- the link is read with the endpoint that takes the step as the provider
  have hturn : ∀ q, Link.Step (net.link key q) (net.label key q event) (net'.link key q) →
      Link.Step (net.link key p) (net.label key p event) (net'.link key p) := by
    intro q hq
    by_cases hpq : p = q
    · rw [hpq]
      exact hq
    · obtain rfl : p = !q := by cases p <;> cases q <;> simp_all
      rw [link_swap, link_swap, label_swap]
      exact hq.swap
  obtain ⟨x, e, r, rfl, hlocal, hstep, rfl⟩ |
      ⟨x, y, packet, rest, r, rfl, hne, hchannel, hstep, rfl⟩ | ⟨x, y, rfl⟩ := next_cases hnext
  · obtain ⟨s, hfollows, hlink⟩ := h.act hlocal hstep
    have horderly := (h.orderly x).step (by rintro client msg rfl; cases hlocal) hstep
    exact ⟨h.of_follows htraced hfollows horderly (by simp), hturn x hlink⟩
  · obtain rfl : x = !y := by cases x <;> cases y <;> simp_all
    obtain ⟨s, hfollows, hlink⟩ := h.deliver hchannel hstep
    have horderly := (h.orderly y).step (by rintro client msg heq; cases heq; rfl) hstep
    exact ⟨h.of_follows htraced hfollows horderly (by simp), hturn y hlink⟩
  · cases hevent

theorem Simulates.pair (key : Key) : Network.pair.Simulates key := by
  refine ⟨.joined _, fun x => ⟨⟨rfl, ?_, rfl, rfl, rfl⟩, rfl⟩, fun x => ⟨?_, Nat.zero_le 1⟩⟩
  · refine ⟨rfl, rfl, rfl, fun c offer hoffer => ?_, rfl, rfl, rfl, rfl, rfl, fun r => ?_, rfl⟩
    · cases hoffer
    · exact Binding.mem_awaiting.symm
  · intro reply hreply
    cases hreply

end Network

end SomeipGateway
