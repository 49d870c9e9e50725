import SomeipGateway.Network.Provenance

/-! # Joined endpoints can trace their handles

What an endpoint knows survives each of its steps: the calls it makes on SOCom
carry handles it knows already, and a message of a peer that can trace its own
handles is genuine. So in every run without a lost connection all endpoints can
trace all their handles.
-/

namespace SomeipGateway

variable {ι : Type} [DecidableEq ι]

/-- The connector was made from a reply received for the service. -/
def EnabledConnector.Known (R : ι → Set Packet) (key : Key) (connector : EnabledConnector ι) :
    Prop :=
  ReplyReceived R connector.client key connector.requiredId connector.providedId

namespace Endpoint

/-- The handles that an endpoint keeps outside its binding. -/
structure Holds (R : ι → Set Packet) (n : Endpoint ι) : Prop where
  server : ∀ key connector, (n.records key).server = some (.bridge connector) →
    connector.Known R key
  replies : ∀ reply ∈ n.replies, reply.connector.Known R reply.key
  payloads : ∀ payload ∈ n.payloads, payload.Known R

structure Knows (R : ι → Set Packet) (S : Set (Effect ι)) (n : Endpoint ι) : Prop where
  binding : n.binding.Knows R S
  holds : n.Holds R

variable {R R' : ι → Set Packet} {S S' : Set (Effect ι)} {env : Env ι} {n n' : Endpoint ι}
  {effects out : List (Effect ι)} {key : Key}

omit [DecidableEq ι] in
theorem Holds.monoReceived (h : n.Holds R) (hR : ∀ x, R x ⊆ R' x) : n.Holds R' where
  server := fun key connector hserver => ReplyReceived.mono hR (h.server key connector hserver)
  replies := fun reply hreply => ReplyReceived.mono hR (h.replies reply hreply)
  payloads := fun payload hpayload => (h.payloads payload hpayload).mono hR

theorem Knows.monoReceived (h : n.Knows R S) (hR : ∀ x, R x ⊆ R' x) : n.Knows R' S :=
  ⟨h.binding.monoReceived hR, h.holds.monoReceived hR⟩

omit [DecidableEq ι] in
theorem Holds.setRecord (h : n.Holds R) {record : Record ι}
    (hserver : ∀ connector, record.server = some (.bridge connector) → connector.Known R key) :
    (n.setRecord key record).Holds R where
  server := by
    intro key' connector hconn
    by_cases hk : key' = key
    · subst hk
      rw [records_setRecord, Function.update_self] at hconn
      exact hserver connector hconn
    · rw [records_setRecord, Function.update_of_ne hk] at hconn
      exact h.server key' connector hconn
  replies := h.replies
  payloads := h.payloads

omit [DecidableEq ι] in
theorem Holds.sameButSubscriptions (h : n.Holds R) (hsame : SameButSubscriptions n n') :
    n'.Holds R where
  server := fun key connector hserver => h.server key connector (hsame.server key ▸ hserver)
  replies := hsame.replies ▸ h.replies
  payloads := hsame.payloads ▸ h.payloads

/-! ## Calls on SOCom -/

omit [DecidableEq ι] in
theorem TellsPeer.justified {e : Effect ι} (he : TellsPeer env n key e) (h : n.Holds R) :
    e.Justified R ∧ e.isQuiet = true := by
  obtain ⟨connector, eventId, subscribed, hserver, rfl⟩ := he
  exact ⟨⟨key, connector.requiredId, rfl, h.server key connector hserver⟩, rfl⟩

theorem Knows.socomSubscribe (h : n.Knows R S) (eventId : Nat) :
    (n.socomSubscribe env key eventId).1.Knows R
      (S ∪ {e | e ∈ (n.socomSubscribe env key eventId).2}) := by
  refine ⟨?_, h.holds.sameButSubscriptions (sameButSubscriptions_socomSubscribe env n key eventId)⟩
  rw [socomSubscribe_binding]
  exact h.binding.quiet fun e he => (tellsPeer_of_mem_socomSubscribe he).justified h.holds

theorem Knows.socomUnsubscribe (h : n.Knows R S) (eventId : Nat) :
    (n.socomUnsubscribe env key eventId).1.Knows R
      (S ∪ {e | e ∈ (n.socomUnsubscribe env key eventId).2}) := by
  refine ⟨?_,
    h.holds.sameButSubscriptions (sameButSubscriptions_socomUnsubscribe env n key eventId)⟩
  rw [socomUnsubscribe_binding]
  exact h.binding.quiet fun e he => (tellsPeer_of_mem_socomUnsubscribe he).justified h.holds

theorem Knows.notifyClient (h : n.Knows R S) {isAvailable : Bool} {counts : ServiceCounts}
    (hnotify : n.notifyClient env key isAvailable counts = some (n', effects)) :
    n'.Knows R (S ∪ {e | e ∈ effects}) := by
  obtain ⟨-, rfl, rfl⟩ | ⟨-, b, hb, rfl⟩ := notifyClient_cases hnotify
  · exact ⟨h.binding.quiet (by simp), h.holds⟩
  · have hlearns := (Binding.loses_serviceStateChange hb).learns_plain (R := R)
      (Binding.isPlain_serviceStateChange hb)
    exact ⟨hlearns S h.binding, ⟨h.holds.server, h.holds.replies, h.holds.payloads⟩⟩

theorem Knows.disableServer (h : n.Knows R S)
    (hdisable : n.disableServer env key = some (n', effects)) :
    n'.Knows R (S ∪ {e | e ∈ effects}) := by
  obtain ⟨-, rfl, rfl⟩ | ⟨server, -, hnotify⟩ := disableServer_cases hdisable
  · exact ⟨h.binding.quiet (by simp), h.holds⟩
  · have hfreed : (n.setRecord key
        { n.records key with server := none, subscribed := ∅ }).Knows R S :=
      ⟨h.binding, h.holds.setRecord fun connector hconn => by cases hconn⟩
    exact hfreed.notifyClient hnotify

theorem Knows.destroyClient (hlink : ∀ x msg, env.link x msg = true) (h : n.Knows R S)
    {bridged : Bool} (hdestroy : n.destroyClient env key bridged = some (n', effects)) :
    n'.Knows R (S ∪ {e | e ∈ effects}) := by
  obtain ⟨b, caused, rfl, rfl, hcases⟩ := destroyClient_cases hdestroy
  have hleft := h.binding.quiet fun e (he : e ∈ n.unsubscribeAll env key) =>
    (tellsPeer_of_mem_unsubscribeAll he).justified h.holds
  have hholds : (n.setRecord key { n.records key with client := none, subscribed := ∅ }).Holds R :=
    h.holds.setRecord fun connector hconn => h.holds.server key connector hconn
  refine ⟨?_, ⟨hholds.server, hholds.replies, hholds.payloads⟩⟩
  rw [union_append]
  obtain ⟨-, rfl, rfl⟩ | ⟨-, hb⟩ := hcases
  · exact hleft.quiet (by simp)
  · exact Binding.learns_sendRequestService hlink hb _ hleft

theorem Knows.socomUpdate (h : n.Knows R S) {eventId : Nat} {payload : Payload ι}
    (hpayload : payload.Known R)
    (hupdate : n.socomUpdate env key eventId payload = some (n', effects)) :
    n'.Knows R (S ∪ {e | e ∈ effects}) := by
  have hrelease : n.Knows R (S ∪ {e | e ∈ [Effect.releasePayload payload]}) := by
    refine ⟨h.binding.quiet fun e he => ?_, h.holds⟩
    rw [List.mem_singleton.1 he]
    exact ⟨hpayload, rfl⟩
  obtain ⟨rfl, rfl⟩ | ⟨-, rfl, rfl⟩ | ⟨-, b, hb, rfl⟩ := socomUpdate_cases hupdate
  · exact hrelease
  · refine ⟨h.binding.quiet (by simp), h.holds.server, h.holds.replies, fun p hp => ?_⟩
    rcases List.mem_append.1 hp with hp | hp
    · exact h.holds.payloads p hp
    · rwa [List.mem_singleton.1 hp]
  · exact ⟨Binding.learns_sendEventUpdate hpayload hb S h.binding,
      ⟨h.holds.server, h.holds.replies, h.holds.payloads⟩⟩

theorem Knows.performOne (hlink : ∀ x msg, env.link x msg = true) (h : n.Knows R S)
    {e : Effect ι} (he : e ∈ S) (hone : n.performOne env e = some (n', effects)) :
    n'.Knows R (S ∪ {e | e ∈ effects}) := by
  have hjustified := h.binding.history.justified e he
  cases Performs.of_performOne hone with
  | inert | forget => exact ⟨h.binding.quiet (by simp), h.holds⟩
  | subscribe key eventId => exact h.socomSubscribe eventId
  | unsubscribe key eventId => exact h.socomUnsubscribe eventId
  | reject =>
      refine ⟨h.binding.quiet fun e he => ?_, h.holds⟩
      rcases List.mem_cons.1 he with rfl | he
      · exact ⟨hjustified, rfl⟩
      · rw [List.mem_singleton.1 he]
        exact ⟨trivial, rfl⟩
  | update _ hupdate => exact h.socomUpdate hjustified hupdate
  | @acknowledge _ origin horigin _ =>
      refine ⟨h.binding.quiet fun e he => ?_, h.holds⟩
      rw [List.mem_singleton.1 he]
      exact ⟨⟨origin.about, rfl, hjustified origin horigin⟩, rfl⟩
  | destroyServer hdisable => exact h.disableServer hdisable
  | destroyClient hdestroy => exact h.destroyClient hlink hdestroy

/-! ## Steps -/

theorem Knows.finishReply (h : n.Knows R S) {reply : PendingReply ι} (hreply : reply ∈ n.replies)
    (hfinish : n.finishReply env reply = some (n', effects)) :
    n'.Knows R (S ∪ {e | e ∈ effects}) := by
  have hrest : ∀ p ∈ n.replies.erase reply, p.connector.Known R p.key :=
    fun p hp => h.holds.replies p (List.mem_of_mem_erase hp)
  obtain ⟨-, rfl, rfl⟩ | ⟨-, m, offers, hnotify, rfl, rfl⟩ := finishReply_cases hfinish
  · refine ⟨h.binding.quiet fun e he => ?_, h.holds.server, hrest, h.holds.payloads⟩
    rw [List.mem_singleton.1 he]
    exact ⟨trivial, rfl⟩
  · have herased : ({ n with replies := n.replies.erase reply } : Endpoint ι).Holds R :=
      ⟨h.holds.server, hrest, h.holds.payloads⟩
    have hmade : ({ n with replies := n.replies.erase reply }.setRecord reply.key
        { n.records reply.key with server := some (.bridge reply.connector) }).Knows R S := by
      refine ⟨h.binding, herased.setRecord fun connector hconn => ?_⟩
      cases hconn
      exact h.holds.replies reply hreply
    have hm := hmade.notifyClient hnotify
    refine ⟨?_, ⟨hm.holds.server, hm.holds.replies, hm.holds.payloads⟩⟩
    rw [union_append]
    refine (Binding.loses_addServerConnector m.binding reply.key reply.connector).learns_plain
      (fun e he => ?_) _ hm.binding
    obtain ⟨connector, -, rfl⟩ := List.mem_map.1 he
    rfl

theorem Knows.receiveRequest (h : n.Knows R S) {client : ι} {inUse : Bool}
    (hreceive : n.receiveRequest env client key inUse = some (n', effects)) :
    n'.Knows R (S ∪ {e | e ∈ effects}) := by
  cases inUse with
  | false =>
      obtain ⟨b, hb, rfl⟩ := receiveRequest_false hreceive
      have hplain : ∀ e ∈ effects, e.isPlain = true := by
        intro e he
        rw [(Binding.handleRequestServiceMessage_false hb).1] at he
        obtain ⟨key', state, eventId, s, -, -, -, rfl⟩ := Binding.exists_of_mem_unsubscribeEffects he
        rfl
      exact ⟨(Binding.loses_handleRequestServiceMessage_false hb).learns_plain hplain S h.binding,
        ⟨h.holds.server, h.holds.replies, h.holds.payloads⟩⟩
  | true =>
      have hnoted := (Binding.loses_withInterested n.binding key client).knows h.binding
      have hholds : (n.setRecord key { n.records key with client := some .bridge }).Holds R :=
        h.holds.setRecord fun connector hconn => h.holds.server key connector hconn
      obtain ⟨-, rfl, rfl⟩ | ⟨-, -, rfl, rfl⟩ | ⟨-, -, b, hcreate⟩ := receiveRequest_true hreceive
      · refine ⟨hnoted.quiet fun e he => ?_, ⟨h.holds.server, h.holds.replies, h.holds.payloads⟩⟩
        rw [List.mem_singleton.1 he]
        exact ⟨rfl, rfl⟩
      · exact ⟨hnoted.quiet (by simp), ⟨h.holds.server, h.holds.replies, h.holds.payloads⟩⟩
      · obtain ⟨-, hb, rfl⟩ | ⟨server, -, -, hb, rfl⟩ | ⟨-, -, hb, rfl⟩ := hcreate
        all_goals
          obtain ⟨hloses, hplain⟩ := Binding.loses_createClientConnector hb
          have hbinding := hloses.learns_plain hplain S hnoted
        · exact ⟨hbinding, ⟨h.holds.server, h.holds.replies, h.holds.payloads⟩⟩
        · exact ⟨hbinding, ⟨hholds.server, hholds.replies, hholds.payloads⟩⟩
        · exact ⟨hbinding, ⟨hholds.server, hholds.replies, hholds.payloads⟩⟩

/-- A message whose handshake handles are accounted for in `R`. -/
structure Genuine (R : ι → Set Packet) (n : Endpoint ι) (client : ι) (msg : Message) : Prop where
  setup : msg ≠ .connect ∧ ∀ status, msg ≠ .connectReply status
  connect : ∀ key r metadata inUse, msg = .connectService key r metadata inUse →
    inUse = true ∧ ConnectReceived R client key r
  reply : ∀ r l metadata counts, msg = .connectServiceReply r l metadata counts → ∀ key,
    n.binding.pendingConnects.lookup r = some ⟨key, client⟩ → ReplyReceived R client key r l

theorem Knows.onReceiveMessage (hlink : ∀ x msg, env.link x msg = true) (h : n.Knows R S)
    {client : ι} {msg : Message} (hmsg : Genuine R n client msg)
    (hreceive : n.onReceiveMessage env client msg = some (n', effects)) :
    n'.Knows R (S ∪ {e | e ∈ effects}) := by
  have hholds : ∀ b : Binding ι, ({ n with binding := b } : Endpoint ι).Holds R :=
    fun b => ⟨h.holds.server, h.holds.replies, h.holds.payloads⟩
  cases Handles.of_onReceiveMessage hreceive with
  | connect => exact absurd rfl hmsg.setup.1
  | connectReply => exact absurd rfl (hmsg.setup.2 _)
  | request hrequest => exact h.receiveRequest hrequest
  | @offer key offered b _ hb =>
      refine ⟨?_, hholds b⟩
      cases offered with
      | false =>
          refine (Binding.loses_handleOfferServiceMessage_false hb).learns_plain
            (fun e he => ?_) S h.binding
          rw [(Binding.handleOfferServiceMessage_false hb).1] at he
          obtain ⟨connector, -, rfl⟩ := List.mem_map.1 he
          rfl
      | true =>
          rw [Binding.handleOfferServiceMessage_true] at hb
          have hnoted := (Binding.loses_withOffer n.binding key client).knows h.binding
          exact Binding.learns_maybeSendConnectServiceLocked hlink hb S hnoted
  | @connectService key requiredId metadata inUse b _ hb =>
      obtain ⟨rfl, hreceived⟩ := hmsg.connect key requiredId metadata inUse rfl
      exact ⟨Binding.learns_handleConnectServiceMessage hlink hreceived hb S h.binding, hholds b⟩
  | connectServiceReply hb =>
      obtain ⟨hlearns, hreplies⟩ := Binding.learns_handleConnectServiceReplyMessage
        (hmsg.reply _ _ _ _ rfl) hb
      refine ⟨hlearns S h.binding, h.holds.server, fun p hp => ?_, h.holds.payloads⟩
      rcases List.mem_append.1 hp with hp | hp
      · exact h.holds.replies p hp
      · exact hreplies p hp
  | @subscribe providedId eventId subscribe =>
      refine ⟨?_, hholds _⟩
      refine (Binding.loses_handleSubscribeEventMessage n.binding client providedId eventId
        subscribe).learns_plain (fun e he => ?_) S h.binding
      cases hids : n.binding.idMapping.getByLocalHandle client providedId with
      | none =>
          rw [Binding.handleSubscribeEventMessage_none hids] at he
          cases he
      | some ids =>
          rw [(Binding.handleSubscribeEventMessage_some hids).1] at he
          obtain ⟨s, -, he⟩ := List.mem_flatMap.1 he
          rcases ServiceState.exists_of_mem_updateEventSubscription _ _ _ he with
            ⟨-, rfl⟩ | ⟨-, rfl⟩
          · rfl
          · rfl
  | eventUpdate hb => exact ⟨Binding.learns_handleEventUpdateMessage hb S h.binding, hholds _⟩
  | payloadConsumed =>
      exact ⟨Binding.learns_handlePayloadConsumedMessage n.binding client _ _ S h.binding,
        hholds _⟩

theorem replyOf_mem {client : ι} {reply : PendingReply ι} (h : n.replyOf client = some reply) :
    reply ∈ n.replies :=
  List.mem_of_find?_eq_some h

/-- The steps of a joined endpoint: local ones, and messages that are genuine. -/
def Admissible (R : ι → Set Packet) (n : Endpoint ι) : Event ι → Prop
  | .receive client msg => Genuine R n client msg
  | event => event.isLocal = true

theorem Knows.act (hlink : ∀ x msg, env.link x msg = true) (h : n.Knows R S) {event : Event ι}
    (hevent : n.Admissible R event) (hact : n.act env event = some (n', effects)) :
    n'.Knows R (S ∪ {e | e ∈ effects}) := by
  have hidle : n.Knows R (S ∪ {e | e ∈ ([] : List (Effect ι))}) :=
    ⟨h.binding.quiet (by simp), h.holds⟩
  have hserver : ∀ (key : Key) (client : Option Client),
      (n.setRecord key { n.records key with client := client }).Holds R :=
    fun key client => h.holds.setRecord fun connector hconn => h.holds.server key connector hconn
  cases Acts.of_act hact with
  | idle => exact ⟨hidle.binding, ⟨h.holds.server, h.holds.replies, h.holds.payloads⟩⟩
  | register => exact ⟨hidle.binding, hserver _ _⟩
  | @request key _ _ _ _ hb =>
      have hholds := hserver key (some (.application true))
      exact ⟨Binding.learns_sendRequestService hlink hb S h.binding,
        ⟨hholds.server, hholds.replies, hholds.payloads⟩⟩
  | destroy _ hdestroy => exact h.destroyClient hlink hdestroy
  | @enable key counts _ _ _ hnotify =>
      have hmade : (n.setRecord key
          { n.records key with server := some (.application counts) }).Knows R S :=
        ⟨h.binding, h.holds.setRecord fun connector hconn => by cases hconn⟩
      exact hmade.notifyClient hnotify
  | disable _ hdisable => exact h.disableServer hdisable
  | subscribe => exact h.socomSubscribe _
  | unsubscribe => exact h.socomUnsubscribe _
  | update _ _ hupdate => exact h.socomUpdate (fun origin horigin => by cases horigin) hupdate
  | drop hpayload =>
      refine ⟨h.binding.quiet fun e he => ?_, h.holds.server, h.holds.replies, fun p hp => ?_⟩
      · rw [List.mem_singleton.1 he]
        exact ⟨h.holds.payloads _ (List.mem_of_getElem? hpayload), rfl⟩
      · exact h.holds.payloads p ((List.eraseIdx_sublist _ _).mem hp)
  | addClient | removeClient => cases hevent
  | receive _ hreceive => exact h.onReceiveMessage hlink hevent hreceive
  | finish hreply hfinish => exact h.finishReply (replyOf_mem hreply) hfinish

theorem Knows.step (hlink : ∀ x msg, env.link x msg = true) (h : n.Knows R S) {event : Event ι}
    (hevent : n.Admissible R event) (hstep : n.step env event = some (n', out)) :
    n'.Knows R (S ∪ {e | e ∈ out}) := by
  obtain ⟨m, effects, hact, hperform⟩ := step_eq_some.1 hstep
  have hm := h.act hlink hevent hact
  have hn' := perform_history (I := fun n S => n.Knows R S)
    (fun n e n' caused S hn he hone => hn.performOne hlink he hone) 3 hm
    (fun e he => Or.inr he) hperform
  have hset : S ∪ {e | e ∈ effects} ∪ {e | e ∈ out} = S ∪ {e | e ∈ out} := by
    have hsub := subset_perform hperform
    ext e
    simp only [Set.mem_union, Set.mem_ofPred_eq]
    constructor
    · rintro ((h | h) | h)
      · exact .inl h
      · exact .inr (hsub h)
      · exact .inr h
    · rintro (h | h)
      · exact .inl (.inl h)
      · exact .inr h
  rwa [hset] at hn'

end Endpoint

/-! ## Both ends of a channel -/

namespace Network

def received (net : Network ι) (y x : ι) : Set Packet :=
  {packet | packet ∈ net.delivered x y}

/-- The messages of `y`, as the sends that put them on their channels. -/
def done (net : Network ι) (y : ι) : Set (Effect ι) :=
  {e | ∃ x, ∃ packet ∈ net.sent y x, e = .send x packet.about packet.msg true}

/-- Every endpoint can trace its handles to what it received and sent. -/
def Traced (net : Network ι) : Prop :=
  ∀ y, (net.endpoint y).Knows (net.received y) (net.done y)

variable {net net' : Network ι} {x y z : ι} {packet : Packet} {rest : List Packet}

omit [DecidableEq ι] in
theorem mem_done {about : Option Key} {msg : Message} {ok : Bool} :
    .send x about msg ok ∈ net.done y ↔ ⟨about, msg⟩ ∈ net.sent y x ∧ ok = true := by
  constructor
  · rintro ⟨x', p, hp, heq⟩
    simp only [Effect.send.injEq] at heq
    obtain ⟨rfl, rfl, rfl, rfl⟩ := heq
    exact ⟨hp, rfl⟩
  · rintro ⟨hp, rfl⟩
    exact ⟨x, _, hp, rfl⟩

theorem Traced.justified (h : net.Traced) (hpacket : packet ∈ net.sent x y) :
    (Effect.send y packet.about packet.msg true).Justified (net.received x) :=
  (h x).binding.history.justified _ ⟨y, packet, hpacket, rfl⟩

omit [DecidableEq ι] in
theorem connectSent_of_received {key : Key} {r : Nat}
    (h : ConnectReceived (net.received x) y key r) : ConnectSent (net.done y) x key r := by
  obtain ⟨metadata, hm⟩ := h
  exact ⟨metadata, mem_done.2 ⟨List.mem_append_left _ hm, rfl⟩⟩

omit [DecidableEq ι] in
theorem replySent_of_received {key : Key} {r l : Nat}
    (h : ReplyReceived (net.received x) y key r l) : ReplySent (net.done y) x key r l := by
  obtain ⟨metadata, counts, hm⟩ := h
  exact ⟨metadata, counts, mem_done.2 ⟨List.mem_append_left _ hm, rfl⟩⟩

/-- What an endpoint knows after a step, in terms of its channels. -/
theorem knows_update {R : ι → Set Packet} {r : Endpoint ι × List (Effect ι)}
    (h : r.1.Knows R (net.done y ∪ {e | e ∈ r.2})) : r.1.Knows R ((net.update y r).done y) := by
  have hmem : ∀ x about msg, .send x about msg true ∈ (net.update y r).done y ↔
      .send x about msg true ∈ net.done y ∨ .send x about msg true ∈ r.2 := by
    intro x about msg
    simp [mem_done, mem_sendsTo]
  refine ⟨h.binding.congr ?_ ?_, h.holds⟩
  · rintro e ⟨x, p, hp, rfl⟩
    exact (hmem x p.about p.msg).1 ⟨x, p, hp, rfl⟩
  · intro x about msg hm
    exact (hmem x about msg).2 hm

theorem done_update_of_ne {r : Endpoint ι × List (Effect ι)} (hne : z ≠ y) :
    (net.update y r).done z = net.done z := by
  simp [done, hne]

theorem done_take (hchannel : net.channel x y = packet :: rest) :
    (net.take x y packet rest).done z = net.done z := by
  simp [done, sent_take hchannel]

theorem Traced.act (h : net.Traced) {metadata : ι → Key → Option SharedMemoryMetadata}
    {event : Event ι} {r : Endpoint ι × List (Effect ι)} (hlocal : event.isLocal = true)
    (hstep : (net.endpoint x).step (env (metadata x)) event = some r) :
    (net.update x r).Traced := by
  intro z
  by_cases hz : z = x
  · subst hz
    have hadmissible : (net.endpoint z).Admissible (net.received z) event := by
      cases event <;> first | exact hlocal | cases hlocal
    rw [endpoint_update, if_pos rfl]
    exact knows_update ((h z).step (env_link _) hadmissible hstep)
  · rw [endpoint_update, if_neg hz, done_update_of_ne hz]
    exact h z

/-- A reply to a pending connect is about the service of the connect. -/
theorem Traced.about_reply (h : net.Traced) {about : Option Key} {r l : Nat}
    {metadata : SharedMemoryMetadata} {counts : ServiceCounts} {key : Key}
    (hsent : ⟨about, .connectServiceReply r l metadata counts⟩ ∈ net.sent x y)
    (hpending : (net.endpoint y).binding.pendingConnects.lookup r = some ⟨key, x⟩) :
    about = some key := by
  obtain ⟨key', habout, hconnect⟩ := h.justified hsent
  -- both the pending entry and the reply go back to a connect with this id
  have hawaited := ((h y).binding.view key).pending r x (Binding.view_pending_eq_some.2 hpending)
  have hkey := (h y).binding.history.connect_unique x x key key' r hawaited
    (connectSent_of_received hconnect)
  exact habout.trans (congrArg some hkey.symm)

/-- The oldest message of a channel is genuine once it counts as received. -/
theorem Traced.genuine (h : net.Traced) (hchannel : net.channel x y = packet :: rest) :
    Endpoint.Genuine ((net.take x y packet rest).received y) (net.endpoint y) x packet.msg := by
  have hsent : packet ∈ net.sent x y := by simp [sent, hchannel]
  have hjustified := h.justified hsent
  have hreceived : packet ∈ (net.take x y packet rest).received y x := by
    simp [received]
  obtain ⟨about, msg⟩ := packet
  constructor
  case setup =>
    constructor
    · rintro rfl
      exact hjustified
    · rintro status rfl
      exact hjustified
  case connect =>
    rintro key r metadata inUse rfl
    obtain ⟨rfl, rfl⟩ := hjustified
    exact ⟨rfl, metadata, hreceived⟩
  case reply =>
    rintro r l metadata counts rfl key hpending
    have habout := h.about_reply hsent hpending
    exact ⟨metadata, counts, habout ▸ hreceived⟩

theorem received_take (packet : Packet) (rest : List Packet) :
    ∀ w, net.received z w ⊆ (net.take x y packet rest).received z w := by
  intro w p hp
  simp only [received, delivered_take]
  exact List.mem_append_left _ hp

theorem mem_received_take {p : Packet} {w : ι}
    (h : p ∈ (net.take x y packet rest).received z w) :
    p ∈ net.received z w ∨ w = x ∧ z = y ∧ p = packet := by
  simp only [received, delivered_take] at h
  rcases List.mem_append.1 h with h | h
  · exact .inl h
  · split at h
    next heq => exact .inr ⟨heq.1, heq.2, List.mem_singleton.1 h⟩
    next => cases h

theorem Traced.deliver (h : net.Traced) {metadata : ι → Key → Option SharedMemoryMetadata}
    {r : Endpoint ι × List (Effect ι)} (hchannel : net.channel x y = packet :: rest)
    (hstep : (net.endpoint y).step (env (metadata y)) (.receive x packet.msg) = some r) :
    ((net.take x y packet rest).update y r).Traced := by
  intro z
  have hknows := (h z).monoReceived (received_take (x := x) (y := y) packet rest)
  rw [← done_take hchannel] at hknows
  by_cases hz : z = y
  · subst hz
    have hgenuine : (net.endpoint z).Admissible ((net.take x z packet rest).received z)
        (.receive x packet.msg) := h.genuine hchannel
    rw [endpoint_update, if_pos rfl]
    exact knows_update (hknows.step (env_link _) hgenuine hstep)
  · rw [endpoint_update, if_neg hz, done_update_of_ne hz]
    exact hknows

theorem Traced.joined (peers : ι → List ι) : (Network.joined peers).Traced := by
  intro y
  have hdone : (Network.joined peers).done y = ∅ := by
    simp [done, sent, Network.joined]
  rw [hdone]
  refine ⟨⟨⟨?_, ?_, ?_, ?_, ?_⟩, fun key => ⟨?_, ?_, ?_⟩, .empty, ?_⟩, ?_, ?_, ?_⟩
  · exact fun e he => absurd he (Set.notMem_empty e)
  · rintro x key r ⟨metadata, hm⟩
    exact absurd hm (Set.notMem_empty _)
  · rintro x x' key key' r ⟨metadata, hm⟩
    exact absurd hm (Set.notMem_empty _)
  · rintro x key r l ⟨metadata, counts, hm⟩
    exact absurd hm (Set.notMem_empty _)
  · rintro x x' key key' r r' l ⟨metadata, counts, hm⟩
    exact absurd hm (Set.notMem_empty _)
  · intro r x hr
    cases hr
  · intro x ids hids
    cases hids
  · intro x offer hoffer
    cases hoffer
  · intro key allocations hlookup
    cases hlookup
  · intro key connector hserver
    cases hserver
  · intro reply hreply
    cases hreply
  · intro payload hpayload
    cases hpayload

theorem Traced.next (h : net.Traced) {metadata : ι → Key → Option SharedMemoryMetadata}
    {event : NetworkEvent ι} (hevent : event.staysConnected = true)
    (hnext : net.next metadata event = some net') : net'.Traced := by
  obtain ⟨x, e, r, rfl, hlocal, hstep, rfl⟩ |
    ⟨x, y, packet, rest, r, rfl, -, hchannel, hstep, rfl⟩ | ⟨x, y, rfl⟩ := next_cases hnext
  · exact h.act hlocal hstep
  · exact h.deliver hchannel hstep
  · cases hevent

end Network

end SomeipGateway
