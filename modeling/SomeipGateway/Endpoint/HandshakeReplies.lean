import SomeipGateway.Binding.Asks
import SomeipGateway.Endpoint.Run

/-! # Replies answer what was asked

Along a run every `Connect_service` that the endpoint attempts to send is noted,
and every mapping that a `Connect_service_reply` makes. A reply is taken only from
the peer that its required id is pending for, an id asks one peer for one service,
and there are at least as many asks as mappings made and connects still pending.
-/

namespace SomeipGateway

namespace Endpoint

variable {ι : Type} [DecidableEq ι] {env : Env ι} {n n' : Endpoint ι} {key : Key}
  {effects out : List (Effect ι)}

open Binding (Recedes Quiet Asking)

/-! ## Calls on SOCom ask for nothing -/

omit [DecidableEq ι] in
theorem TellsPeer.ask {e : Effect ι} (h : TellsPeer env n key e) : e.ask = none := by
  obtain ⟨_, _, _, -, rfl⟩ := h
  rfl

theorem quiet_socomSubscribe (eventId : Nat) :
    Quiet n.binding (n.socomSubscribe env key eventId).2
      (n.socomSubscribe env key eventId).1.binding := by
  rw [socomSubscribe_binding]
  exact .of_mem (.refl _) fun e he => (tellsPeer_of_mem_socomSubscribe he).ask

theorem quiet_socomUnsubscribe (eventId : Nat) :
    Quiet n.binding (n.socomUnsubscribe env key eventId).2
      (n.socomUnsubscribe env key eventId).1.binding := by
  rw [socomUnsubscribe_binding]
  exact .of_mem (.refl _) fun e he => (tellsPeer_of_mem_socomUnsubscribe he).ask

theorem quiet_notifyClient {isAvailable : Bool} {counts : ServiceCounts}
    (h : n.notifyClient env key isAvailable counts = some (n', effects)) :
    Quiet n.binding effects n'.binding := by
  obtain ⟨-, rfl, rfl⟩ | ⟨-, b, hb, rfl⟩ := notifyClient_cases h
  · exact .nil (.refl _)
  · exact Binding.quiet_serviceStateChange hb

theorem quiet_disableServer (h : n.disableServer env key = some (n', effects)) :
    Quiet n.binding effects n'.binding := by
  obtain ⟨-, rfl, rfl⟩ | ⟨server, -, hnotify⟩ := disableServer_cases h
  · exact .nil (.refl _)
  · have hquiet := quiet_notifyClient hnotify
    rwa [binding_setRecord] at hquiet

theorem asks_unsubscribeAll : asks (n.unsubscribeAll env key) = [] :=
  asks_eq_nil fun _ he => (tellsPeer_of_mem_unsubscribeAll he).ask

theorem quiet_destroyClient {bridged : Bool}
    (h : n.destroyClient env key bridged = some (n', effects)) :
    Quiet n.binding effects n'.binding := by
  obtain ⟨b, caused, rfl, rfl, ⟨-, rfl, rfl⟩ | ⟨-, hb⟩⟩ := destroyClient_cases h
  · exact ⟨.refl _, by rw [asks_append, asks_unsubscribeAll]; rfl⟩
  · have hquiet := Binding.quiet_sendRequestService_false hb
    exact ⟨hquiet.recedes, by rw [asks_append, asks_unsubscribeAll, hquiet.asks]; rfl⟩

theorem quiet_socomUpdate {eventId : Nat} {payload : Payload ι}
    (h : n.socomUpdate env key eventId payload = some (n', effects)) :
    Quiet n.binding effects n'.binding := by
  obtain ⟨rfl, rfl⟩ | ⟨-, rfl, rfl⟩ | ⟨-, b, hb, rfl⟩ := socomUpdate_cases h
  · exact ⟨.refl _, rfl⟩
  · exact .nil (.refl _)
  · exact Binding.quiet_sendEventUpdate hb

theorem quiet_performOne {e : Effect ι} (h : n.performOne env e = some (n', effects)) :
    Quiet n.binding effects n'.binding := by
  cases Performs.of_performOne h with
  | inert | forget => exact .nil (.refl _)
  | subscribe key eventId => exact quiet_socomSubscribe eventId
  | unsubscribe key eventId => exact quiet_socomUnsubscribe eventId
  | reject | acknowledge => exact ⟨.refl _, rfl⟩
  | update _ hupdate => exact quiet_socomUpdate hupdate
  | destroyServer hdisable => exact quiet_disableServer hdisable
  | destroyClient hdestroy => exact quiet_destroyClient hdestroy

/-- Performing calls asks for nothing beyond what the calls themselves ask for. -/
theorem recedes_perform {depth : Nat} (h : perform env depth n effects = some (n', out)) :
    Recedes n.binding n'.binding ∧ asks out = asks effects := by
  induction depth generalizing n n' effects out with
  | zero =>
      cases h
      exact ⟨.refl _, rfl⟩
  | succ depth ihdepth =>
      induction effects generalizing n out with
      | nil =>
          cases h
          exact ⟨.refl _, rfl⟩
      | cons e rest ih =>
          obtain ⟨u, caused, v, more, last, hfirst, hmore, hlast, rfl⟩ := perform_cons_eq_some.1 h
          have hquiet := quiet_performOne hfirst
          obtain ⟨hrecedes, hasks⟩ := ihdepth hmore
          obtain ⟨hrecedes', hasks'⟩ := ih hlast
          refine ⟨(hquiet.recedes.trans hrecedes).trans hrecedes', ?_⟩
          rw [hquiet.asks] at hasks
          have hmade : asks (e :: more) = asks [e] ++ asks more := asks_append [e] more
          rw [asks_append, hmade, hasks, hasks', List.append_nil]
          exact (asks_append [e] rest).symm

/-! ## Steps -/

theorem quiet_finishReply {reply : PendingReply ι}
    (h : n.finishReply env reply = some (n', effects)) : Quiet n.binding effects n'.binding := by
  obtain ⟨-, rfl, rfl⟩ | ⟨-, m, offers, hnotify, rfl, rfl⟩ := finishReply_cases h
  · exact ⟨.refl _, rfl⟩
  · have hquiet := quiet_notifyClient hnotify
    rw [binding_setRecord] at hquiet
    refine ⟨hquiet.recedes.trans (Binding.recedes_addServerConnector m.binding _ _), ?_⟩
    rw [asks_append, hquiet.asks, List.nil_append]
    apply asks_eq_nil
    intro e he
    obtain ⟨connector, -, rfl⟩ := List.mem_map.1 he
    rfl

theorem asking_onReceiveMessage {client : ι} {msg : Message}
    (hmsg : ∀ r l metadata counts, msg ≠ .connectServiceReply r l metadata counts)
    (h : n.onReceiveMessage env client msg = some (n', effects)) :
    Asking n.binding (asks effects) n'.binding := by
  cases Handles.of_onReceiveMessage h with
  | connect =>
      refine (Quiet.of_mem (.refl _) fun e he => ?_).asking
      rcases List.mem_cons.1 he with rfl | he
      · rfl
      · obtain ⟨x, -, rfl⟩ := List.mem_map.1 he
        rfl
  | connectReply hb => exact Binding.asking_handleConnectReplyMessage hb
  | request hreceive =>
      exact (Binding.quiet_handleRequestServiceMessage (receiveRequest_binding hreceive).1).asking
  | offer hb => exact Binding.asking_handleOfferServiceMessage hb
  | connectService hb => exact Binding.asking_handleConnectServiceMessage hb
  | connectServiceReply => exact absurd rfl (hmsg _ _ _ _)
  | subscribe => exact (Binding.quiet_handleSubscribeEventMessage n.binding client _ _ _).asking
  | eventUpdate hb => exact (Binding.quiet_handleEventUpdateMessage hb).asking
  | payloadConsumed =>
      exact (Binding.quiet_handlePayloadConsumedMessage n.binding client _ _).asking

theorem asking_act {event : Event ι}
    (hevent : ∀ client r l metadata counts,
      event ≠ .receive client (.connectServiceReply r l metadata counts))
    (h : n.act env event = some (n', effects)) : Asking n.binding (asks effects) n'.binding := by
  cases Acts.of_act h with
  | idle | register | drop => exact .refl _
  | request _ hb => exact Binding.asking_sendRequestService_true hb
  | destroy _ hdestroy => exact (quiet_destroyClient hdestroy).asking
  | enable _ hnotify =>
      have hquiet := quiet_notifyClient hnotify
      rw [binding_setRecord] at hquiet
      exact hquiet.asking
  | disable _ hdisable => exact (quiet_disableServer hdisable).asking
  | subscribe => exact (quiet_socomSubscribe _).asking
  | unsubscribe => exact (quiet_socomUnsubscribe _).asking
  | update _ _ hupdate => exact (quiet_socomUpdate hupdate).asking
  | addClient client => exact (Binding.quiet_addClient n.binding client).asking
  | removeClient client => exact (Binding.quiet_removeClient n.binding client).asking
  | receive _ hreceive =>
      refine asking_onReceiveMessage ?_ hreceive
      rintro r l metadata counts rfl
      exact hevent _ r l metadata counts rfl
  | finish _ hfinish => exact (quiet_finishReply hfinish).asking

/-- A step that is not a reply asks for what it sends. -/
theorem asking_step {event : Event ι}
    (hevent : ∀ client r l metadata counts,
      event ≠ .receive client (.connectServiceReply r l metadata counts))
    (h : n.step env event = some (n', out)) : Asking n.binding (asks out) n'.binding := by
  obtain ⟨m, effects, hact, hperform⟩ := step_eq_some.1 h
  obtain ⟨hrecedes, hasks⟩ := recedes_perform hperform
  have hstep := (asking_act hevent hact).trans hrecedes.asking
  rwa [List.append_nil, ← hasks] at hstep

/-- A reply that nothing waits for from this peer is dropped; any other is for the
service that the connect asked for. -/
theorem step_connectServiceReply {client : ι} {r l : Nat} {metadata : SharedMemoryMetadata}
    {counts : ServiceCounts}
    (h : n.step env (.receive client (.connectServiceReply r l metadata counts)) =
      some (n', out)) :
    n' = n ∧ out = [] ∨
    ∃ key, n.binding.pendingConnects.lookup r = some ⟨key, client⟩ ∧
      Quiet n.binding out n'.binding ∧ n'.binding.pendingCount + 1 = n.binding.pendingCount ∧
      ∃ created : List Ids, created.length ≤ 1 ∧
        (∀ ids ∈ created, ids.key = key ∧ ids.remoteHandle = r ∧ ids.remoteMetadata = metadata) ∧
        ∀ x, n'.binding.idMapping.idsOf x =
          n.binding.idMapping.idsOf x ++ if x = client then created else [] := by
  obtain ⟨m, effects, hact, hperform⟩ := step_eq_some.1 h
  cases Handles.of_onReceiveMessage (act_receive_eq_some.1 hact).2 with
  | connectServiceReply hb =>
      obtain ⟨-, rfl, rfl, rfl⟩ | ⟨key, hpending, ⟨-, rfl, rfl, rfl⟩ |
        ⟨state, localMetadata, -, -, rfl, rfl, rfl⟩⟩ :=
          Binding.handleConnectServiceReplyMessage_cases hb
      · rw [perform_inert 3 (by simp)] at hperform
        cases hperform
        exact .inl ⟨by simp, rfl⟩
      · rw [perform_inert 3 (by simp)] at hperform
        cases hperform
        exact .inr ⟨key, hpending, .nil (Binding.recedes_erasePending hpending),
          Binding.pendingCount_erase hpending, [], Nat.zero_le 1, by simp, by simp⟩
      · have hinert : ∀ e ∈ ({ n.binding with
            pendingConnects := n.binding.pendingConnects.erase r }.addMapping client
              ⟨key, l, r, localMetadata, metadata⟩).2, e.isInert = true ∧ e.ask = none := by
          intro e he
          rw [Binding.eq_of_mem_addMapping he]
          exact ⟨rfl, rfl⟩
        rw [perform_inert 3 fun e he => (hinert e he).1] at hperform
        cases hperform
        have hrecedes : Recedes n.binding ({ n.binding with
            pendingConnects := n.binding.pendingConnects.erase r }.addMapping client
              ⟨key, l, r, localMetadata, metadata⟩).1 :=
          (Binding.recedes_erasePending hpending).trans (.of_eq rfl rfl fun _ => rfl)
        refine .inr ⟨key, hpending, .of_mem hrecedes fun e he => (hinert e he).2,
          Binding.pendingCount_erase hpending, [⟨key, l, r, localMetadata, metadata⟩],
          Nat.le_refl 1, by simp, fun x => ?_⟩
        by_cases hx : x = client
        · simp [Binding.addMapping, hx]
        · simp [Binding.addMapping, hx]

end Endpoint

/-! ## Runs -/

/-- An endpoint, the connects it attempted to send, and the mappings that replies
made, with the peer of each. -/
structure Handshakes (ι : Type) [DecidableEq ι] where
  endpoint : Endpoint ι := {}
  asked : List (Ask ι) := []
  answered : List (ι × Ids) := []

namespace Handshakes

variable {ι : Type} [DecidableEq ι]

/-- The mappings that a step from `n` to `n'` adds for a reply. -/
def answers (n n' : Endpoint ι) : Event ι → List (ι × Ids)
  | .receive client (.connectServiceReply _ _ _ _) =>
      ((n'.binding.idMapping.idsOf client).drop (n.binding.idMapping.idsOf client).length).map
        fun ids => (client, ids)
  | _ => []

def next (s : Handshakes ι) (label : Env ι × Event ι) : Option (Handshakes ι) :=
  (s.endpoint.step label.1 label.2).map fun r =>
    { endpoint := r.1
      asked := s.asked ++ asks r.2
      answered := s.answered ++ answers s.endpoint r.1 label.2 }

/-- The states of every run: any peers, any links, any messages. -/
def Reachable (s : Handshakes ι) : Prop :=
  Reach next (fun _ _ => True) {} s

structure Accounted (s : Handshakes ι) : Prop where
  ledger : s.endpoint.binding.Ledger s.asked
  count : s.answered.length + s.endpoint.binding.pendingCount ≤ s.asked.length

theorem accounted_init : Accounted ({} : Handshakes ι) where
  ledger := by
    constructor <;> simp [Binding.view]
  count := Nat.le_refl _

theorem answers_eq_nil {n n' : Endpoint ι} {event : Event ι}
    (hevent : ∀ client r l metadata counts,
      event ≠ .receive client (.connectServiceReply r l metadata counts)) :
    answers n n' event = [] := by
  unfold answers
  split
  · exact absurd rfl (hevent _ _ _ _ _)
  · rfl

variable {s s' : Handshakes ι}

/-- A mapping that a reply makes is paid for by the connect that stops being
pending. -/
theorem Accounted.next {label : Env ι × Event ι} (h : s.Accounted)
    (hnext : s.next label = some s') : s'.Accounted := by
  obtain ⟨⟨n', out⟩, hstep, rfl⟩ := Option.map_eq_some_iff.1 hnext
  have hother : (∀ client r l metadata counts,
      label.2 ≠ .receive client (.connectServiceReply r l metadata counts)) →
      Accounted ⟨n', s.asked ++ asks out, s.answered ++ answers s.endpoint n' label.2⟩ := by
    intro hevent
    have hasking := Endpoint.asking_step hevent hstep
    have hcount := h.count
    have hcount' := hasking.count
    refine ⟨hasking.ledger _ h.ledger, ?_⟩
    simp only [answers_eq_nil hevent, List.append_nil, List.length_append]
    omega
  obtain ⟨env, event⟩ := label
  cases event with
  | receive client msg =>
      cases msg with
      | connectServiceReply r l metadata counts =>
          obtain ⟨rfl, rfl⟩ | ⟨key, -, hquiet, hcount', created, hlength, -, hids⟩ :=
            Endpoint.step_connectServiceReply hstep
          · simpa [answers] using h
          · have hcount := h.count
            have hanswers : (answers s.endpoint n' (.receive client
                (.connectServiceReply r l metadata counts))).length = created.length := by
              simp [answers, hids client]
            refine ⟨hquiet.asking.ledger _ h.ledger, ?_⟩
            simp only [List.length_append, hanswers, hquiet.asks, List.append_nil]
            omega
      | connect | connectReply | requestService | offerService | connectService | subscribeEvent
      | eventUpdate | payloadConsumed =>
          apply hother
          intro _ _ _ _ _ heq
          cases heq
  | makeClientConnector | destroyClientConnector | makeServerConnector | destroyServerConnector
  | enableServerConnector | disableServerConnector | subscribeEvent | unsubscribeEvent | updateEvent
  | dropPayload | addClient | removeClient | finishReply =>
      apply hother
      intro _ _ _ _ _ heq
      cases heq

theorem Reachable.accounted (h : s.Reachable) : s.Accounted :=
  Reach.invariant accounted_init (fun _ _ _ hs _ hnext => hs.next hnext) h

end Handshakes

end SomeipGateway
