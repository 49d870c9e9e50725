import SomeipGateway.Endpoint.Run

/-! # Replies in progress

Between its two sections the handler of a Connect_service_reply keeps what it
read. Only the first section adds such a reply and only the second takes it away,
and the messages of one peer are handled one after the other.
-/

namespace SomeipGateway

namespace Endpoint

variable {ι : Type} [DecidableEq ι] {env : Env ι} {n n' : Endpoint ι} {key : Key}
  {effects out : List (Effect ι)}

theorem replies_notifyClient {isAvailable : Bool} {counts : ServiceCounts}
    (h : n.notifyClient env key isAvailable counts = some (n', effects)) :
    n'.replies = n.replies := by
  obtain ⟨-, rfl, -⟩ | ⟨-, b, -, rfl⟩ := notifyClient_cases h <;> rfl

theorem replies_disableServer (h : n.disableServer env key = some (n', effects)) :
    n'.replies = n.replies := by
  obtain ⟨-, rfl, -⟩ | ⟨server, -, hnotify⟩ := disableServer_cases h
  · rfl
  · exact (replies_notifyClient hnotify).trans rfl

theorem replies_destroyClient {bridged : Bool}
    (h : n.destroyClient env key bridged = some (n', effects)) : n'.replies = n.replies := by
  obtain ⟨b, caused, rfl, -⟩ := destroyClient_cases h
  rfl

theorem replies_socomUpdate {eventId : Nat} {payload : Payload ι}
    (h : n.socomUpdate env key eventId payload = some (n', effects)) :
    n'.replies = n.replies := by
  obtain ⟨rfl, -⟩ | ⟨-, rfl, -⟩ | ⟨-, b, -, rfl⟩ := socomUpdate_cases h <;> rfl

theorem replies_performOne {e : Effect ι} (h : n.performOne env e = some (n', effects)) :
    n'.replies = n.replies := by
  cases Performs.of_performOne h with
  | inert | reject | forget | acknowledge => rfl
  | subscribe k eventId => exact (sameButSubscriptions_socomSubscribe env n k eventId).replies
  | unsubscribe k eventId => exact (sameButSubscriptions_socomUnsubscribe env n k eventId).replies
  | update _ hupdate => exact replies_socomUpdate hupdate
  | destroyServer hdisable => exact replies_disableServer hdisable
  | destroyClient hdestroy => exact replies_destroyClient hdestroy

theorem replies_perform {depth : Nat} (h : perform env depth n effects = some (n', out)) :
    n'.replies = n.replies :=
  (perform_preserves (I := fun m => m.replies = n.replies) (E := fun _ => True)
    (fun _ _ _ _ hm _ hone => ⟨(replies_performOne hone).trans hm, fun _ _ => trivial⟩) depth rfl
    (fun _ _ => trivial) h).1

theorem replies_receive {client : ι} {msg : Message}
    (h : n.onReceiveMessage env client msg = some (n', effects)) :
    n'.replies = n.replies ∨
      ∃ reply : PendingReply ι, reply.connector.client = client ∧
        n'.replies = n.replies ++ [reply] := by
  cases Handles.of_onReceiveMessage h with
  | connect | connectReply | offer | connectService | subscribe | eventUpdate
  | payloadConsumed => exact .inl rfl
  | request hreceive => exact .inl (receiveRequest_binding hreceive).2.1
  | connectServiceReply hb =>
      obtain ⟨-, -, -, rfl⟩ | ⟨k, -, ⟨-, -, -, rfl⟩ | ⟨_, _, -, -, -, -, rfl⟩⟩ :=
        Binding.handleConnectServiceReplyMessage_cases hb
      · exact .inl (by simp)
      · exact .inl (by simp)
      · exact .inr ⟨_, rfl, rfl⟩

theorem replies_finishReply {reply : PendingReply ι}
    (h : n.finishReply env reply = some (n', effects)) :
    n'.replies = n.replies.erase reply := by
  obtain ⟨-, rfl, -⟩ | ⟨-, m, offers, hm, rfl, -⟩ := finishReply_cases h
  · rfl
  · exact (replies_notifyClient hm).trans rfl

/-- What a step can do to the replies in progress. -/
theorem replies_step {event : Event ι} (h : n.step env event = some (n', out)) :
    n'.replies = n.replies ∨
    (∃ client msg, ∃ reply : PendingReply ι, event = .receive client msg ∧
      n.replyOf client = none ∧ reply.connector.client = client ∧
      n'.replies = n.replies ++ [reply]) ∨
    ∃ client reply, event = .finishReply client ∧ n.replyOf client = some reply ∧
      n'.replies = n.replies.erase reply := by
  obtain ⟨m, effects, hact, hperform⟩ := step_eq_some.1 h
  rw [replies_perform hperform]
  cases Acts.of_act hact with
  | idle | register | request | drop | addClient | removeClient => exact .inl rfl
  | destroy _ hdestroy => exact .inl (replies_destroyClient hdestroy)
  | enable _ hnotify => exact .inl ((replies_notifyClient hnotify).trans rfl)
  | disable _ hdisable => exact .inl (replies_disableServer hdisable)
  | subscribe => exact .inl (sameButSubscriptions_socomSubscribe env n _ _).replies
  | unsubscribe => exact .inl (sameButSubscriptions_socomUnsubscribe env n _ _).replies
  | update _ _ hupdate => exact .inl (replies_socomUpdate hupdate)
  | receive hnone hreceive =>
      rcases replies_receive hreceive with hsame | ⟨reply, hclient, hadded⟩
      · exact .inl hsame
      · exact .inr (.inl ⟨_, _, reply, rfl, hnone, hclient, hadded⟩)
  | finish hreply hfinish =>
      exact .inr (.inr ⟨_, _, rfl, hreply, replies_finishReply hfinish⟩)

/-- At an endpoint whose only peer is `peer` at most one reply is in progress. -/
structure Orderly (peer : ι) (n : Endpoint ι) : Prop where
  client : ∀ reply ∈ n.replies, reply.connector.client = peer
  length_le : n.replies.length ≤ 1

variable {peer : ι}

theorem Orderly.replies_eq_nil (h : Orderly peer n) (hnone : n.replyOf peer = none) :
    n.replies = [] := by
  refine List.eq_nil_iff_forall_not_mem.2 fun reply hreply => ?_
  have hne := List.find?_eq_none.1 hnone reply hreply
  exact hne (by simpa using h.client reply hreply)

theorem Orderly.replies_eq_singleton (h : Orderly peer n) {reply : PendingReply ι}
    (hreply : n.replyOf peer = some reply) : n.replies = [reply] := by
  have hmem := List.mem_of_find?_eq_some hreply
  have hle := h.length_le
  cases hreplies : n.replies with
  | nil => simp [hreplies] at hmem
  | cons first rest =>
      rw [hreplies] at hmem hle
      cases rest with
      | nil => rw [List.mem_singleton.1 hmem]
      | cons second rest => simp at hle

theorem Orderly.step (h : Orderly peer n) {event : Event ι}
    (hevent : ∀ client msg, event = .receive client msg → client = peer)
    (hstep : n.step env event = some (n', out)) : Orderly peer n' := by
  obtain hsame | ⟨client, msg, reply, rfl, hnone, hclient, hadded⟩ |
      ⟨client, reply, rfl, -, herased⟩ := replies_step hstep
  · exact ⟨hsame ▸ h.client, hsame ▸ h.length_le⟩
  · obtain rfl := hevent client msg rfl
    rw [h.replies_eq_nil hnone, List.nil_append] at hadded
    exact ⟨by simp [hadded, hclient], by simp [hadded]⟩
  · refine ⟨fun p hp => h.client p ?_, ?_⟩
    · rw [herased] at hp
      exact List.mem_of_mem_erase hp
    · rw [herased]
      exact (List.erase_sublist.length_le).trans h.length_le

end Endpoint

end SomeipGateway
