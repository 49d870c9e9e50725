import SomeipGateway.Binding.Frame

/-! # Decoding in the receive functions

What the server, the client and the base do with the bytes of a frame before the
handler of the message runs, and the containers that are indexed there by the
length found in the frame. A path of shared memory is only stored, to be indexed
by a later message.
-/

namespace SomeipGateway

namespace Wire

/-- `Keys::get`: hash and comparison look at both strings. -/
def readKey (service : Service) (instanceId : FixedString maxIdSize) : Except Fault Key := do
  let serviceId ← service.serviceId.toBytes
  let instanceId ← instanceId.toBytes
  .ok ⟨⟨serviceId, service.major.val, service.minor.val⟩, instanceId⟩

def SharedMemoryMetadata.stored (m : SharedMemoryMetadata) : SomeipGateway.SharedMemoryMetadata :=
  ⟨m.path.stored, m.slotSize.val, m.slotCount.val⟩

/-- The strings that `Keys::get` indexes. -/
def keyFits (service : Service) (instanceId : FixedString maxIdSize) : Bool :=
  service.serviceId.inCapacity && instanceId.inCapacity

end Wire

/-! ## `Gateway_ipc_binding_base::on_receive_message` -/

/-- One case of the switch: an invalid frame is ignored. -/
def dispatch {α : Type} (type : MessageType) (payload : Codec α)
    (handler : α → Except Fault Message) (frame : Frame) : Except Fault (Option Message) := do
  match ← checkAndCast type payload frame with
  | none => .ok none
  | some msg => (handler msg).map some

def onReceiveMessage (frame : Frame) : Except Fault (Option Message) :=
  match frame.bytes with
  | [] => .ok none
  | byte :: _ =>
      match getMessageType byte with
      | some .connect => dispatch .connect Wire.Connect.codec (fun _ => .ok .connect) frame
      | some .connectReply =>
          dispatch .connectReply Wire.ConnectReply.codec (fun m => .ok (.connectReply m.status))
            frame
      | some .connectService =>
          dispatch .connectService Wire.ConnectService.codec (fun m => do
            let key ← Wire.readKey m.serviceId m.instanceId
            .ok (.connectService key m.requiredId.val m.metadata.stored m.inUse)) frame
      | some .connectServiceReply =>
          dispatch .connectServiceReply Wire.ConnectServiceReply.codec (fun m =>
            .ok (.connectServiceReply m.requiredId.val m.providedId.val m.metadata.stored
              ⟨m.numMethods.val, m.numEvents.val⟩)) frame
      | some .requestService =>
          dispatch .requestService Wire.ServiceFlag.codec (fun m => do
            let key ← Wire.readKey m.serviceId m.instanceId
            .ok (.requestService key m.flag)) frame
      | some .offerService =>
          dispatch .offerService Wire.ServiceFlag.codec (fun m => do
            let key ← Wire.readKey m.serviceId m.instanceId
            .ok (.offerService key m.flag)) frame
      | some .subscribeEvent =>
          dispatch .subscribeEvent Wire.SubscribeEvent.codec (fun m =>
            .ok (.subscribeEvent m.providedId.val m.eventId.val m.subscribe)) frame
      | some .eventUpdate =>
          dispatch .eventUpdate Wire.EventUpdate.codec (fun m =>
            .ok (.eventUpdate m.requiredId.val m.eventId.val
              ⟨m.payload.slotIndex.val, m.payload.usedBytes.val⟩)) frame
      | some .payloadConsumed =>
          dispatch .payloadConsumed Wire.PayloadConsumed.codec (fun m =>
            .ok (.payloadConsumed m.requiredId.val
              ⟨m.handle.slotIndex.val, m.handle.usedBytes.val⟩)) frame
      -- the default case asserts
      | _ => .error .assertion

/-! ## The client and the server -/

/-- `on_receive_message` of the client. -/
def clientOnReceiveMessage (frame : Frame) : Except Fault (Option Message) :=
  match frame.bytes with
  | [] => .ok none
  | byte :: _ =>
      if getMessageType byte = some .connectReply then do
        match ← checkAndCast .connectReply Wire.ConnectReply.codec frame with
        | none => .ok none
        | some msg => if msg.status then onReceiveMessage frame else .error .assertion
      else onReceiveMessage frame

/-- What the server keeps of a `Connect`. -/
structure Registration where
  configs : List (Key × SharedMemoryMetadata)
  identifier : FixedString maxIdSize
  findServiceElements : FixedSizeContainer Wire.ServiceInstance maxFindServiceElements

/-- The loop of `register_configuration`. -/
def registerConfiguration :
    List Wire.ServiceSharedMemoryConfig → Except Fault (List (Key × SharedMemoryMetadata))
  | [] => .ok []
  | entry :: rest => do
      let key ← Wire.readKey entry.service entry.instanceId
      let more ← registerConfiguration rest
      .ok ((key, entry.metadata.stored) :: more)

/-- The message callback of the server, which reads the type before any test. -/
def serverMessageCallback (frame : Frame) :
    Except Fault (Option (Option Registration × Message)) :=
  match frame.bytes with
  | [] => .error .pastFrame
  | byte :: _ =>
      if getMessageType byte = some .connect then do
        match ← checkAndCast .connect Wire.Connect.codec frame with
        | none => .ok none
        | some msg => do
            let entries ← msg.sharedMemoryConfigs.elements
            let configs ← registerConfiguration entries
            let handled ← onReceiveMessage frame
            .ok (handled.map
              (Prod.mk (some ⟨configs, msg.identifier, msg.findServiceElements⟩)))
      else do
        let handled ← onReceiveMessage frame
        .ok (handled.map (Prod.mk none))

inductive Role where
  | server
  | client
  | base
deriving DecidableEq, Repr

/-- What becomes of a frame: it is dropped, or its message is handled. -/
def decode (frame : Frame) : Role → Except Fault (Option (Option Registration × Message))
  | .server => serverMessageCallback frame
  | .client => do
      let handled ← clientOnReceiveMessage frame
      .ok (handled.map (Prod.mk none))
  | .base => do
      let handled ← onReceiveMessage frame
      .ok (handled.map (Prod.mk none))

/-! ## Frames that are decoded without a fault -/

namespace Frame

/-- At the server a frame is not empty, its type is one of the cases, every
container that is indexed at once is within its capacity, and the client is not
refused. -/
def keepsBounds (frame : Frame) (role : Role) : Bool :=
  match frame.bytes with
  | [] => role ≠ .server
  | byte :: _ =>
      match getMessageType byte with
      | some .connect =>
          role ≠ .server || (frame.cast? .connect Wire.Connect.codec).all fun m =>
            m.sharedMemoryConfigs.inCapacity &&
              (m.sharedMemoryConfigs.data.toList.take m.sharedMemoryConfigs.size.val).all
                fun entry => Wire.keyFits entry.service entry.instanceId
      | some .connectReply =>
          role ≠ .client || (frame.cast? .connectReply Wire.ConnectReply.codec).all
            Wire.ConnectReply.status
      | some .requestService =>
          (frame.cast? .requestService Wire.ServiceFlag.codec).all fun m =>
            Wire.keyFits m.serviceId m.instanceId
      | some .offerService =>
          (frame.cast? .offerService Wire.ServiceFlag.codec).all fun m =>
            Wire.keyFits m.serviceId m.instanceId
      | some .connectService =>
          (frame.cast? .connectService Wire.ConnectService.codec).all fun m =>
            Wire.keyFits m.serviceId m.instanceId
      | some .connectServiceReply | some .subscribeEvent | some .eventUpdate
      | some .payloadConsumed => true
      | _ => false

end Frame

/-! ## Faults of decoding -/

@[simp] theorem isOk_ok {ε α : Type} (a : α) : (.ok a : Except ε α).isOk = true := rfl

@[simp] theorem isOk_error {ε α : Type} (e : ε) : (.error e : Except ε α).isOk = false := rfl

theorem isOk_bind_ok {ε α β : Type} (x : Except ε α) (f : α → β) :
    (x.bind fun a => .ok (f a)).isOk = x.isOk := by
  cases x <;> rfl

theorem exists_of_bind_eq_ok {ε α β : Type} {x : Except ε α} {f : α → Except ε β} {b : β}
    (h : x >>= f = .ok b) : ∃ a, x = .ok a ∧ f a = .ok b := by
  cases x with
  | error e => cases h
  | ok a => exact ⟨a, rfl, h⟩

theorem isOk_map {ε α β : Type} (x : Except ε α) (f : α → β) : (x.map f).isOk = x.isOk := by
  cases x <;> rfl

theorem Wire.isOk_readKey (service : Wire.Service) (instanceId : FixedString maxIdSize) :
    (Wire.readKey service instanceId).isOk = Wire.keyFits service instanceId := by
  simp only [Wire.readKey, Wire.keyFits, FixedString.toBytes, FixedSizeContainer.elements]
  cases service.serviceId.inCapacity <;> cases instanceId.inCapacity <;> rfl

theorem isOk_dispatch {α : Type} (type : MessageType) (payload : Codec α)
    (handler : α → Except Fault Message) (frame : Frame) :
    (dispatch type payload handler frame).isOk =
      (frame.cast? type payload).all fun m => (handler m).isOk := by
  rw [dispatch, checkAndCast_eq]
  cases frame.cast? type payload with
  | none => rfl
  | some m => exact isOk_map (handler m) some

theorem isOk_onReceiveMessage (frame : Frame) :
    (onReceiveMessage frame).isOk = frame.keepsBounds .base := by
  unfold onReceiveMessage Frame.keepsBounds
  cases frame.bytes with
  | nil => rfl
  | cons byte rest =>
      dsimp only
      cases getMessageType byte with
      | none => rfl
      | some type =>
          cases type with
          | connect | connectReply | connectServiceReply | subscribeEvent | eventUpdate
          | payloadConsumed =>
              simp [isOk_dispatch]
          | requestService | offerService | connectService =>
              simp [isOk_dispatch, ← Wire.isOk_readKey, Bind.bind, isOk_bind_ok]
          | callMethod | callMethodHandle | callMethodReply | cancelMethodCall
          | subscribeEventReply | eventUpdateRequest => rfl

theorem isOk_registerConfiguration (entries : List Wire.ServiceSharedMemoryConfig) :
    (registerConfiguration entries).isOk =
      entries.all fun entry => Wire.keyFits entry.service entry.instanceId := by
  induction entries with
  | nil => rfl
  | cons entry rest ih =>
      rw [List.all_cons, ← ih, ← Wire.isOk_readKey, registerConfiguration]
      cases Wire.readKey entry.service entry.instanceId with
      | error fault => rfl
      | ok key => exact isOk_bind_ok (registerConfiguration rest) _

theorem isOk_clientOnReceiveMessage (frame : Frame) :
    (clientOnReceiveMessage frame).isOk = frame.keepsBounds .client := by
  have hbase := isOk_onReceiveMessage frame
  unfold clientOnReceiveMessage Frame.keepsBounds at *
  cases hbytes : frame.bytes with
  | nil => rfl
  | cons byte rest =>
      simp only [hbytes] at hbase ⊢
      by_cases htype : getMessageType byte = some .connectReply
      · simp only [htype, if_true] at hbase ⊢
        rw [checkAndCast_eq]
        cases frame.cast? .connectReply Wire.ConnectReply.codec with
        | none => rfl
        | some m =>
            cases hstatus : m.status with
            | false => simp [Bind.bind, Except.bind, hstatus]
            | true => simpa [Bind.bind, Except.bind, hstatus] using hbase
      · simp only [htype, if_false]
        rw [hbase]
        cases htype' : getMessageType byte with
        | none => rfl
        | some type => cases type <;> first | rfl | exact absurd htype' htype

theorem isOk_serverMessageCallback (frame : Frame) :
    (serverMessageCallback frame).isOk = frame.keepsBounds .server := by
  have hbase := isOk_onReceiveMessage frame
  unfold serverMessageCallback Frame.keepsBounds at *
  cases hbytes : frame.bytes with
  | nil => rfl
  | cons byte rest =>
      simp only [hbytes] at hbase ⊢
      by_cases htype : getMessageType byte = some .connect
      · simp only [htype, if_true] at hbase ⊢
        rw [checkAndCast_eq]
        cases frame.cast? .connect Wire.Connect.codec with
        | none => rfl
        | some m =>
            simp only [Bind.bind, Except.bind, Option.all_some]
            cases hcapacity : m.sharedMemoryConfigs.inCapacity with
            | false =>
                rw [FixedSizeContainer.elements_of_not_inCapacity hcapacity]
                simp
            | true =>
                rw [FixedSizeContainer.elements_of_inCapacity hcapacity,
                  ← isOk_registerConfiguration]
                obtain ⟨handled, hhandled⟩ : ∃ handled, onReceiveMessage frame = .ok handled := by
                  cases honce : onReceiveMessage frame with
                  | error fault => simp [honce] at hbase
                  | ok handled => exact ⟨handled, rfl⟩
                simp only [hhandled]
                cases registerConfiguration
                  (m.sharedMemoryConfigs.data.toList.take m.sharedMemoryConfigs.size.val) <;> simp
      · simp only [htype, if_false]
        refine (isOk_bind_ok _ _).trans (hbase.trans ?_)
        cases htype' : getMessageType byte with
        | none => rfl
        | some type => cases type <;> first | rfl | exact absurd htype' htype

/-- Decoding a frame is free of faults exactly where the frame keeps the bounds. -/
theorem isOk_decode (frame : Frame) (role : Role) :
    (decode frame role).isOk = frame.keepsBounds role := by
  cases role with
  | base => exact (isOk_bind_ok _ _).trans (isOk_onReceiveMessage frame)
  | client => exact (isOk_bind_ok _ _).trans (isOk_clientOnReceiveMessage frame)
  | server => exact isOk_serverMessageCallback frame

/-! ## What a decoded message holds -/

theorem dispatch_eq_some {α : Type} {type : MessageType} {payload : Codec α}
    {handler : α → Except Fault Message} {frame : Frame} {msg : Message}
    (h : dispatch type payload handler frame = .ok (some msg)) :
    ∃ m, frame.cast? type payload = some m ∧ handler m = .ok msg := by
  obtain ⟨cast, hcast, h⟩ := exists_of_bind_eq_ok h
  rw [checkAndCast_eq, Except.ok.injEq] at hcast
  cases cast with
  | none => cases h
  | some m =>
      refine ⟨m, hcast, ?_⟩
      change (handler m).map some = .ok (some msg) at h
      cases hmsg : handler m with
      | error fault =>
          rw [hmsg] at h
          cases h
      | ok msg' =>
          rw [hmsg] at h
          cases h
          rfl

theorem onReceiveMessage_of_client {frame : Frame} {msg : Message}
    (h : clientOnReceiveMessage frame = .ok (some msg)) :
    onReceiveMessage frame = .ok (some msg) := by
  unfold clientOnReceiveMessage at h
  split at h
  · cases h
  · split at h
    · obtain ⟨cast, -, h⟩ := exists_of_bind_eq_ok h
      cases cast with
      | none => cases h
      | some m =>
          simp only at h
          split at h
          · exact h
          · cases h
    · exact h

theorem exists_of_map_eq_some {ε α β : Type} {x : Except ε (Option α)} {f : α → β} {b : β}
    (h : (x >>= fun a => .ok (a.map f)) = .ok (some b)) : ∃ a, x = .ok (some a) ∧ f a = b := by
  obtain ⟨a, hx, ha⟩ := exists_of_bind_eq_ok h
  obtain ⟨a', rfl, hb⟩ := Option.map_eq_some_iff.1 (Except.ok.inj ha)
  exact ⟨a', hx, hb⟩

theorem onReceiveMessage_of_server {frame : Frame} {p : Option Registration × Message}
    (h : serverMessageCallback frame = .ok (some p)) : onReceiveMessage frame = .ok (some p.2) := by
  unfold serverMessageCallback at h
  split at h
  · cases h
  · split at h
    · obtain ⟨cast, -, h⟩ := exists_of_bind_eq_ok h
      cases cast with
      | none => cases h
      | some m =>
          obtain ⟨entries, -, h⟩ := exists_of_bind_eq_ok h
          obtain ⟨configs, -, h⟩ := exists_of_bind_eq_ok h
          obtain ⟨msg, hmsg, rfl⟩ := exists_of_map_eq_some h
          exact hmsg
    · obtain ⟨msg, hmsg, rfl⟩ := exists_of_map_eq_some h
      exact hmsg

/-- In every role, a message that is handled is one that the base decodes. -/
theorem onReceiveMessage_of_decode {frame : Frame} {role : Role}
    {registration : Option Registration} {msg : Message}
    (h : decode frame role = .ok (some (registration, msg))) :
    onReceiveMessage frame = .ok (some msg) := by
  cases role with
  | server => exact onReceiveMessage_of_server h
  | client =>
      obtain ⟨_, hmsg, ⟨⟩⟩ := exists_of_map_eq_some h
      exact onReceiveMessage_of_client hmsg
  | base =>
      obtain ⟨_, hmsg, ⟨⟩⟩ := exists_of_map_eq_some h
      exact hmsg

end SomeipGateway
