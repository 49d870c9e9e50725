import SomeipGateway.Endpoint.Unexpected

/-! # The receive functions

An endpoint that is handed frames. Decoding a frame may fault, and so may the
handler of its message; a stored path is indexed when an event update is looked
up or a slot manager is created. Which frames cause no fault is stated exactly.
-/

namespace SomeipGateway

/-- Reading a path above its capacity, to create the slot manager, is a fault. -/
def Env.bounded {ι : Type} (env : Env ι) : Env ι :=
  { env with
    metadata := fun key =>
      (env.metadata key).filter fun metadata => metadata.path.length ≤ maxSharedMemoryPathSize }

/-- The slot counts of a decoded message have the width of the wire. -/
theorem hasWireSlots_of_onReceiveMessage {ι : Type} {frame : Frame} {msg : Message}
    (h : onReceiveMessage frame = .ok (some msg)) (client : ι) :
    (Event.receive client msg).hasWireSlots = true := by
  unfold onReceiveMessage at h
  split at h
  · cases h
  · split at h
    case h_3 =>
      obtain ⟨m, -, hmsg⟩ := dispatch_eq_some h
      obtain ⟨key, -, hmsg⟩ := exists_of_bind_eq_ok hmsg
      cases hmsg
      exact decide_eq_true m.metadata.slotCount.isLt
    case h_4 =>
      obtain ⟨m, -, hmsg⟩ := dispatch_eq_some h
      cases hmsg
      exact decide_eq_true m.metadata.slotCount.isLt
    case h_5 | h_6 =>
      obtain ⟨m, -, hmsg⟩ := dispatch_eq_some h
      obtain ⟨key, -, hmsg⟩ := exists_of_bind_eq_ok hmsg
      cases hmsg
      rfl
    case h_10 => cases h
    all_goals
      obtain ⟨m, -, hmsg⟩ := dispatch_eq_some h
      cases hmsg
      rfl

namespace Endpoint

variable {ι : Type} [DecidableEq ι]

/-- An event update indexes the path that is stored for its handle. -/
def readsPastPath (n : Endpoint ι) (client : ι) : Message → Bool
  | .eventUpdate requiredId _ _ =>
      (n.binding.idMapping.getByRemoteHandle client requiredId).any fun ids =>
        maxSharedMemoryPathSize < ids.remoteMetadata.path.length
  | _ => false

/-- The outcome of a handler as a receive function meets it. -/
def checked : Option (Endpoint ι × List (Effect ι)) → Except Fault (Endpoint ι × List (Effect ι))
  | none => .error .undefined
  | some (n, out) => if out.any Effect.isFailure then .error .assertion else .ok (n, out)

/-- A frame of the peer, with what the server keeps of a `Connect`. -/
def receiveFrame (opens : SharedMemoryMetadata → Bool) (role : Role) (env : Env ι) (n : Endpoint ι)
    (client : ι) (frame : Frame) :
    Except Fault (Option Registration × Endpoint ι × List (Effect ι)) :=
  match decode frame role with
  | .error fault => .error fault
  | .ok none => .ok (none, n, [])
  | .ok (some (registration, msg)) =>
      if n.readsPastPath client msg then .error .pastCapacity
      else
        (checked (n.handle role opens env.bounded (.receive client msg))).map (Prod.mk registration)

/-- The frame is within bounds, it reads no path above its capacity, and the tables
tolerate its message. -/
def Accepts (opens : SharedMemoryMetadata → Bool) (role : Role) (env : Env ι) (n : Endpoint ι)
    (client : ι) (frame : Frame) : Prop :=
  frame.keepsBounds role = true ∧
    ∀ registration msg, decode frame role = .ok (some (registration, msg)) →
      n.readsPastPath client msg = false ∧
        n.Tolerates false role opens env.bounded (.receive client msg)

variable {opens : SharedMemoryMetadata → Bool} {role : Role} {env : Env ι} {n n' : Endpoint ι}
  {client : ι} {msg : Message} {frame : Frame} {out : List (Effect ι)}
  {minor : Socom.RecordKey → Nat}

omit [DecidableEq ι] in
theorem isOk_checked_iff {r : Option (Endpoint ι × List (Effect ι))} :
    (checked r).isOk = true ↔ Clean r := by
  cases r with
  | none => simp [checked, Clean]
  | some p =>
      obtain ⟨m, es⟩ := p
      simp only [checked, Clean]
      split
      next hfailed => simpa using hfailed
      next hclean => simpa using hclean

theorem clean_handle_iff {event : Event ι} :
    Clean (n.handle role opens env event) ↔ Harmless false role opens env n event := by
  simp [Clean, Harmless]

/-- A section that is due ends without a fault exactly where the tables tolerate it. -/
theorem isOk_checked_handle (opens : SharedMemoryMetadata → Bool) (role : Role) (env : Env ι)
    (hpools : n.binding.Pools fun metadata => metadata.slotCount < 2 ^ 64) {event : Event ι}
    (hdue : n.handles minor event = true) :
    (checked (n.handle role opens env event)).isOk = true ↔
      n.Tolerates false role opens env event := by
  rw [isOk_checked_iff, clean_handle_iff, harmless_iff_of_pools hpools hdue]

theorem isOk_receiveFrame_iff
    (hpools : n.binding.Pools fun metadata => metadata.slotCount < 2 ^ 64)
    (hdue : ∀ registration msg, decode frame role = .ok (some (registration, msg)) →
      n.handles minor (.receive client msg) = true) :
    (n.receiveFrame opens role env client frame).isOk = true ↔
      n.Accepts opens role env client frame := by
  unfold Accepts receiveFrame
  rw [← isOk_decode]
  cases hdecode : decode frame role with
  | error fault => simp
  | ok decoded =>
      cases decoded with
      | none => simp
      | some p =>
          obtain ⟨registration, msg⟩ := p
          have hhandle := isOk_checked_handle opens role env.bounded hpools
            (hdue registration msg hdecode)
          simp only [isOk_ok, true_and, Except.ok.injEq, Option.some.injEq,
            Prod.mk.injEq, and_imp]
          cases hread : n.readsPastPath client msg with
          | true =>
              simp only [if_true, isOk_error, Bool.false_eq_true, false_iff]
              exact fun h => by simpa [hread] using (h registration msg rfl rfl).1
          | false =>
              simp only [Bool.false_eq_true, if_false, isOk_map, hhandle]
              constructor
              · rintro h _ _ rfl rfl
                exact ⟨hread, h⟩
              · exact fun h => (h registration msg rfl rfl).2

theorem reachable_accept {ok : Endpoint ι → Env ι × Event ι → Prop} (hreach : ReachableVia ok n)
    (hok : ok n (env, .addClient client)) (role : Role) (msg : Message) :
    ReachableVia ok (n.accept role client msg).1 := by
  unfold accept
  split
  · have hinert : ∀ e ∈ (n.binding.addClient client).2, e.isInert = true := by
      intro e he
      simp only [Binding.addClient] at he
      split at he
      · rw [List.mem_singleton.1 he]
        rfl
      · cases he
    have hstep : n.step env (.addClient client) = some (n.setBinding (n.binding.addClient client)) :=
      step_eq_some.2 ⟨_, _, rfl, perform_inert 3 hinert⟩
    exact hreach.step hok (by rw [next, hstep]; rfl)
  · exact hreach
  · exact hreach

/-- A handler makes steps of the endpoint. -/
theorem reachable_handle {ok : Endpoint ι → Env ι × Event ι → Prop} (hreach : ReachableVia ok n)
    (hadd : ok n (env, .addClient client)) (hok : ∀ m, ok m (env, .receive client msg))
    (h : n.handle role opens env (.receive client msg) = some (n', out)) : ReachableVia ok n' := by
  have hm := reachable_accept hreach hadd role msg
  simp only [handle] at h
  split at h
  · obtain ⟨r, hstep, hr⟩ := Option.map_eq_some_iff.1 h
    obtain ⟨rfl, -⟩ := Prod.mk.injEq _ _ _ _ ▸ hr
    exact hm.step (hok _) (by rw [next, hstep]; rfl)
  · cases h

/-- Frames lead on in the runs of the endpoint. -/
theorem reachable_receiveFrame
    (hreach : ReachableVia (fun _ label => label.2.isRegular minor = true) n)
    (hdue : ∀ registration msg, decode frame role = .ok (some (registration, msg)) →
      n.handles minor (.receive client msg) = true) {registration : Option Registration}
    (h : n.receiveFrame opens role env client frame = .ok (registration, n', out)) :
    ReachableVia (fun _ label => label.2.isRegular minor = true) n' := by
  unfold receiveFrame at h
  split at h
  · cases h
  · cases h
    exact hreach
  next registration' msg hdecode =>
    have hwire := hasWireSlots_of_onReceiveMessage (onReceiveMessage_of_decode hdecode) client
    have hversion := hdue registration' msg hdecode
    simp only [handles, Bool.and_eq_true] at hversion
    split at h
    · cases h
    · cases hhandle : n.handle role opens env.bounded (.receive client msg) with
      | none =>
          rw [hhandle] at h
          cases h
      | some r =>
          simp only [hhandle, checked] at h
          split at h
          · cases h
          · cases h
            exact reachable_handle hreach rfl
              (fun _ => Bool.and_eq_true_iff.2 ⟨hwire, hversion.2⟩) hhandle

/-- A frame with a subscription under the first handle that is given out. -/
def someSubscription : Frame :=
  encode .subscribeEvent Wire.SubscribeEvent.codec ⟨⟨1, by decide⟩, ⟨0, by decide⟩, true⟩ 0

theorem decode_someSubscription :
    decode someSubscription .server = .ok (some (none, .subscribeEvent 1 0 true)) := by
  obtain ⟨rest, hbytes⟩ : ∃ rest,
      someSubscription.bytes = MessageType.subscribeEvent.code :: rest :=
    exists_bytes_encode _ _ _ _
  have hcast : checkAndCast .subscribeEvent Wire.SubscribeEvent.codec someSubscription = _ :=
    checkAndCast_encode .subscribeEvent _ (by decide) (by decide)
  simp only [decode, serverMessageCallback, SomeipGateway.onReceiveMessage, hbytes,
    getMessageType_code, dispatch, hcast]
  rfl

theorem zero_lt_byte : 0 < 256 ^ 1 := by decide

/-- A request whose service id claims one byte more than its capacity. -/
def someOverlongRequest : Frame :=
  encode .requestService Wire.ServiceFlag.codec
    ⟨⟨⟨⟨65, by decide⟩, List.Vector.replicate maxIdSize ⟨0, zero_lt_byte⟩⟩, ⟨0, by decide⟩,
      ⟨0, by decide⟩⟩, ⟨⟨0, by decide⟩, List.Vector.replicate maxIdSize ⟨0, zero_lt_byte⟩⟩, true⟩ 0

/-- In any state: the server reads the type of an empty frame, a type without a case
fails the assertion of the default case, and a length above the capacity is
trusted. -/
theorem receiveFrame_malformed (opens : SharedMemoryMetadata → Bool) (env : Env Nat)
    (n : Endpoint Nat) (client : Nat) :
    n.receiveFrame opens .server env client ⟨[], 0⟩ = .error .pastFrame ∧
      n.receiveFrame opens .base env client ⟨[MessageType.callMethod.code], 0⟩ =
        .error .assertion ∧
      n.receiveFrame opens .base env client someOverlongRequest = .error .pastCapacity := by
  refine ⟨rfl, rfl, ?_⟩
  obtain ⟨rest, hbytes⟩ : ∃ rest,
      someOverlongRequest.bytes = MessageType.requestService.code :: rest :=
    exists_bytes_encode _ _ _ _
  have hcast : checkAndCast .requestService Wire.ServiceFlag.codec someOverlongRequest = _ :=
    checkAndCast_encode .requestService _ (by decide) (by decide)
  have hdecode : decode someOverlongRequest .base = .error .pastCapacity := by
    simp only [decode, SomeipGateway.onReceiveMessage, hbytes, getMessageType_code, dispatch, hcast]
    rfl
  rw [receiveFrame, hdecode]

end Endpoint

end SomeipGateway
