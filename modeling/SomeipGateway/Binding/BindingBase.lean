import SomeipGateway.Binding.ConnectionMetadata
import SomeipGateway.Binding.ServiceState
import SomeipGateway.Binding.SharedMemoryManagers

/-! # `Gateway_ipc_binding_base`

Every function below is one critical section of the binding. It returns the new
state and the outward calls in the order in which they are made; connectors that
are destroyed after the lock is released come last. `none` is undefined behaviour
of the source: a null reply channel, a missing service state or an allocation
index that is dereferenced once the assertions are compiled out. An assertion
that is not followed by such an access is recorded as an effect.
-/

namespace SomeipGateway

structure PendingConnect (ι : Type) where
  key : Key
  client : ι
deriving DecidableEq, Repr

/-- What `Runtime::make_client_connector` did: it refused a duplicate client,
connected to a server that is enabled already, or asked the service bridges. -/
inductive ClientConnectorResult where
  | failed
  | connected (counts : ServiceCounts)
  | waiting
deriving DecidableEq, Repr

/-- A `Connect_service_reply` handler between its two critical sections. -/
structure PendingReply (ι : Type) where
  key : Key
  connector : EnabledConnector ι
deriving DecidableEq, Repr

structure Binding (ι : Type) where
  connections : List ι := []
  serviceStates : ServiceStates ι := ∅
  idMapping : ConnectionMetadata ι := {}
  localOffers : Table Key Bool := ∅
  pendingConnects : Table Nat (PendingConnect ι) := ∅
  interestedPeers : Table Key (List ι) := ∅
  nextLocalId : Nat := 1
  allocations : Allocations ι := ∅
  readOnlyManagers : ReadOnlyMemoryManagers := ∅

namespace Binding

variable {ι : Type} [DecidableEq ι]

/-! ## Helpers -/

/-- The peers stored for a service, none when it has no entry. -/
def interested (b : Binding ι) (key : Key) : List ι :=
  (b.interestedPeers.lookup key).getD []

def sendToAll (env : Env ι) (b : Binding ι) (about : Option Key) (msg : Message) :
    List (Effect ι) :=
  b.connections.map fun client => env.send client about msg

def clearPendingConnects (b : Binding ι) (checker : PendingConnect ι → Bool) : Binding ι :=
  { b with
    pendingConnects := b.pendingConnects.filterMapVals fun _ pending =>
      if checker pending then none else some pending }

def clearPendingConnectsForKeyLocked (b : Binding ι) (key : Key) (client : ι) : Binding ι :=
  b.clearPendingConnects fun pending => pending.key = key && pending.client = client

/-- `unordered_map::emplace`: an existing entry stays. -/
def emplacePending (b : Binding ι) (remoteHandle : Nat) (pending : PendingConnect ι) :
    Binding ι :=
  match b.pendingConnects.lookup remoteHandle with
  | some _ => b
  | none => { b with pendingConnects := b.pendingConnects.insert remoteHandle pending }

/-- One round of the loop of `Service_state::send_connect_service`, with the
`send_func` of `maybe_send_connect_service_locked`. -/
def sendConnectServiceTo (env : Env ι) (key : Key) (b : Binding ι) (client : ι) :
    Option (Binding ι × List (Effect ι)) :=
  match b.serviceStates.lookup key with
  | none => some (b, [])
  | some state =>
      match state.offers.lookup client with
      | none => some (b, [])
      | some offer =>
          if offer.offered && !offer.connectSent then do
            let requiredId := if offer.requiredId = 0 then b.nextLocalId else offer.requiredId
            let nextLocalId :=
              if offer.requiredId = 0 then b.nextLocalId + 1 else b.nextLocalId
            let metadata ← env.metadata key
            let msg := Message.connectService key requiredId metadata true
            -- a peer without a connection is a null reply channel here
            if client ∈ b.connections then
              let offer :=
                { offer with requiredId := requiredId, connectSent := env.link client msg }
              let state := { state with offers := state.offers.insert client offer }
              let b :=
                { b with
                  serviceStates := b.serviceStates.insert key state
                  nextLocalId := nextLocalId }
              some (b.emplacePending requiredId ⟨key, client⟩, [env.send client (some key) msg])
            else none
          else some (b, [])

def maybeSendConnectServiceLocked (env : Env ι) (b : Binding ι) (key : Key) :
    Option (Binding ι × List (Effect ι)) :=
  match b.serviceStates.lookup key with
  | none => some (b, [])
  | some state =>
      if state.requested then foldEffects (sendConnectServiceTo env key) b state.offers.keys
      else some (b, [])

/-! ## Requests of the local runtime -/

def sendRequestServiceLocked (env : Env ι) (b : Binding ι) (key : Key) (inUse : Bool) :
    Bool × List (Effect ι) :=
  if b.serviceStates.hasClientConnector key then (false, [])
  else (true, b.sendToAll env (some key) (.requestService key inUse))

def sendRequestService (env : Env ι) (b : Binding ι) (key : Key) (counts : ServiceCounts)
    (inUse : Bool) : Option (Binding ι × List (Effect ι)) :=
  let (sent, effects) := b.sendRequestServiceLocked env key inUse
  if !sent then some (b, [])
  else
    let (states, removed) := b.serviceStates.processRequestService key counts inUse
    let b := { b with serviceStates := states }
    if inUse then do
      let (b, more) ← b.maybeSendConnectServiceLocked env key
      some (b, .requestSent key inUse :: effects ++ more)
    else
      let b := { b with idMapping := b.idMapping.removeService key }
      let b := b.clearPendingConnects fun pending => pending.key = key
      some (b, .requestSent key inUse :: effects ++
        removed.toList.map (.destroyServerConnector key))

/-! ## Callbacks of the bridge-owned client connector -/

/-- The loop of the `service_state_change` callback over the interested peers. -/
def sendOffers (env : Env ι) (b : Binding ι) (key : Key) (offered : Bool) :
    List ι → Option (List (Effect ι))
  | [] => some []
  | client :: rest =>
      if client ∈ b.connections then do
        let more ← b.sendOffers env key offered rest
        some (env.send client (some key) (.offerService key offered) :: more)
      else none

def serviceStateChange (env : Env ι) (b : Binding ι) (key : Key) (isAvailable : Bool)
    (counts : ServiceCounts) : Option (Binding ι × List (Effect ι)) := do
  let idMapping := if isAvailable then b.idMapping else b.idMapping.removeService key
  let b :=
    { b with
      idMapping := idMapping
      localOffers := b.localOffers.insert key isAvailable
      serviceStates := b.serviceStates.addService key counts
      interestedPeers := b.interestedPeers.insert key (b.interested key) }
  let effects ← b.sendOffers env key isAvailable (b.interested key)
  some (b, effects)

/-- The recipients' loop of the `send_event_update` callback: the sends, and how
many of them succeeded. -/
def eventUpdates (env : Env ι) (b : Binding ι) (key : Key) (eventId : Nat)
    (payload : Payload ι) : List (ι × Ids) → List (Effect ι) × Nat
  | [] => ([], 0)
  | (client, ids) :: rest =>
      let (effects, count) := b.eventUpdates env key eventId payload rest
      if client ∈ b.connections then
        let msg := Message.eventUpdate ids.remoteHandle eventId ⟨payload.slotHandle, payload.size⟩
        (env.send client (some key) msg :: effects,
          if env.link client msg then count + 1 else count)
      else (.assertFailed .connectionMissing :: effects, count)

def sendEventUpdate (env : Env ι) (b : Binding ι) (key : Key) (eventId : Nat)
    (payload : Payload ι) : Option (Binding ι × List (Effect ι)) := do
  let (effects, recipientCount) :=
    b.eventUpdates env key eventId payload (b.idMapping.forEachClient key)
  let (allocations, more) ← b.allocations.insertAllocation key payload recipientCount
  some ({ b with allocations := allocations }, effects ++ more)

/-! ## Message handlers -/

def handleConnectMessage (env : Env ι) (b : Binding ι) (client : ι) : List (Effect ι) :=
  env.send client none (.connectReply true) ::
    (b.serviceStates.entries.filter fun e => e.2.requested).map fun e =>
      env.send client (some e.1) (.requestService e.1 true)

/-- The body of the loop of `handle_connect_reply_message`. -/
def resumeService (env : Env ι) (b : Binding ι) (key : Key) :
    Option (Binding ι × List (Effect ι)) := do
  let requested := (b.serviceStates.lookup key).any fun state => state.requested
  let requests := if requested then (b.sendRequestServiceLocked env key true).2 else []
  let (b, effects) ← b.maybeSendConnectServiceLocked env key
  some (b, requests ++ effects)

def handleConnectReplyMessage (env : Env ι) (b : Binding ι) (status : Bool) :
    Option (Binding ι × List (Effect ι)) :=
  if status then foldEffects (resumeService env) b b.serviceStates.keys else some (b, [])

/-- The end of `handle_request_service_message`: the client connector is made,
and its callbacks may run before it is stored. -/
def createClientConnector (env : Env ι) (b : Binding ι) (key : Key)
    (result : ClientConnectorResult) : Option (Binding ι × List (Effect ι)) :=
  let b := { b with serviceStates := b.serviceStates.markClientConnectorPending key }
  match result with
  | .failed =>
      some ({ b with serviceStates := b.serviceStates.clearClientConnectorPending key }, [])
  | .connected counts => do
      let (b, effects) ← b.serviceStateChange env key true counts
      let states ← b.serviceStates.addClientConnector key ⟨false⟩
      some ({ b with serviceStates := states }, effects)
  | .waiting => do
      let (b, effects) ← b.sendRequestService env key {} true
      let states ← b.serviceStates.addClientConnector key ⟨true⟩
      some ({ b with serviceStates := states }, effects)

def handleRequestServiceMessage (env : Env ι) (b : Binding ι) (client : ι) (key : Key)
    (inUse : Bool) (result : ClientConnectorResult) : Option (Binding ι × List (Effect ι)) :=
  if !inUse then
    let (states, effects) := b.serviceStates.removeEventSubscriptionsForClient client
    let b :=
      { b with
        serviceStates := states
        idMapping := b.idMapping.removeMappingForClientAndKey client key }
    let b := b.clearPendingConnectsForKeyLocked key client
    some ({ b with
      interestedPeers := b.interestedPeers.insert key ((b.interested key).erase client) }, effects)
  else
    let b :=
      { b with interestedPeers := b.interestedPeers.insert key ((b.interested key).insert client) }
    if b.localOffers.lookup key = some true then
      some (b, [env.send client (some key) (.offerService key true)])
    else if b.serviceStates.hasClientConnector key then some (b, [])
    else if b.serviceStates.hasConnector key then some (b, [])
    else if (b.serviceStates.lookup key).any (fun state => state.requested) then some (b, [])
    else b.createClientConnector env key result

def handleOfferServiceMessage (env : Env ι) (b : Binding ι) (client : ι) (key : Key)
    (offered : Bool) : Option (Binding ι × List (Effect ι)) :=
  let (states, removed) := b.serviceStates.processOffer key client offered
  if !offered then
    let b :=
      { b with
        serviceStates := ServiceStates.clearEventSubscriptions states key
        idMapping := b.idMapping.removeService key }
    some (b.clearPendingConnectsForKeyLocked key client,
      removed.toList.map (.destroyServerConnector key))
  else { b with serviceStates := states }.maybeSendConnectServiceLocked env key

def handleSubscribeEventMessage (b : Binding ι) (client : ι) (providedId : Nat)
    (eventId : Nat) (subscribe : Bool) : Binding ι × List (Effect ι) :=
  match b.idMapping.getByLocalHandle client providedId with
  | none => (b, [])
  | some ids =>
      let (states, effects) :=
        b.serviceStates.updateEventSubscription ids.key ⟨client, providedId⟩ eventId subscribe
      ({ b with serviceStates := states }, effects)

def handleEventUpdateMessage (b : Binding ι) (client : ι) (requiredId : Nat)
    (eventId : Nat) (handle : SharedMemoryHandle) : Option (Binding ι × List (Effect ι)) :=
  match b.idMapping.getByRemoteHandle client requiredId with
  | none => some (b, [])
  | some ids =>
      match b.serviceStates.lookup ids.key with
      | none => none
      | some state =>
          match state.enabledConnector with
          | none => some (b, [.assertFailed .connectorMissing])
          | some connector =>
              let (manager, managers) :=
                b.readOnlyManagers.getReadOnlySharedMemorySlotManager ids.remoteMetadata
              if manager.slotCount ≤ handle.slotIndex then none
              else
                some ({ b with readOnlyManagers := managers },
                  [.updateEvent ids.key connector eventId
                    ⟨handle.slotIndex, min handle.usedBytes manager.slotSize,
                      some ⟨client, requiredId, handle, ids.key⟩⟩])

def handlePayloadConsumedMessage (b : Binding ι) (client : ι) (requiredId : Nat)
    (handle : SharedMemoryHandle) : Binding ι × List (Effect ι) :=
  match b.idMapping.getByRemoteHandle client requiredId with
  | none => (b, [])
  | some ids =>
      let (allocations, effects) := b.allocations.payloadConsumed ids.key handle.slotIndex
      ({ b with allocations := allocations }, effects)

/-- `add_mapping` with the assertion in front of it. -/
def addMapping (b : Binding ι) (client : ι) (ids : Ids) : Binding ι × List (Effect ι) :=
  ({ b with idMapping := b.idMapping.addMapping client ids },
    if b.idMapping.isMappingPresent client ids then [.assertFailed .mappingExists] else [])

def disconnectService (b : Binding ι) (client : ι) (key : Key) (requiredId : Nat) :
    Binding ι × List (Effect ι) :=
  let (states, effects) :=
    match b.idMapping.getByRemoteHandle client requiredId with
    | none => (b.serviceStates, [])
    | some ids =>
        b.serviceStates.removeEventSubscriptionsForConnection key client ids.localHandle
  let b :=
    { b with
      serviceStates := states
      idMapping := b.idMapping.removeMapping client requiredId }
  let b := b.clearPendingConnectsForKeyLocked key client
  let (states, removed) := b.serviceStates.removeClientConnector key
  ({ b with serviceStates := states },
    effects ++ removed.toList.map (.destroyClientConnector key))

def handleConnectServiceMessage (env : Env ι) (b : Binding ι) (client : ι) (key : Key)
    (requiredId : Nat) (metadata : SharedMemoryMetadata) (inUse : Bool) :
    Option (Binding ι × List (Effect ι)) :=
  if !inUse then some (b.disconnectService client key requiredId)
  else do
    let localMetadata ← env.metadata key
    let providedId := b.nextLocalId
    let (b, failed) :=
      { b with nextLocalId := b.nextLocalId + 1 }.addMapping client
        ⟨key, providedId, requiredId, localMetadata, metadata⟩
    let state ← b.serviceStates.lookup key
    some (b, failed ++ [env.send client (some key)
      (.connectServiceReply requiredId providedId localMetadata state.counts)])

/-- The first critical section of `handle_connect_service_reply_message`. -/
def handleConnectServiceReplyMessage (env : Env ι) (b : Binding ι) (client : ι)
    (requiredId providedId : Nat) (metadata : SharedMemoryMetadata)
    (counts : ServiceCounts) :
    Option (Binding ι × List (Effect ι) × Option (PendingReply ι)) :=
  match b.pendingConnects.lookup requiredId with
  | none => some (b, [], none)
  | some pending =>
      if pending.client ≠ client then some (b, [], none)
      else
        let erased := { b with pendingConnects := b.pendingConnects.erase requiredId }
        match b.serviceStates.lookup pending.key with
        | none => some (erased, [], none)
        | some _ => do
            let localMetadata ← env.metadata pending.key
            let (b, failed) :=
              erased.addMapping client ⟨pending.key, providedId, requiredId, localMetadata, metadata⟩
            some (b, failed, some ⟨pending.key, ⟨client, providedId, requiredId, counts⟩⟩)

/-! ## Connections -/

def addClient (b : Binding ι) (client : ι) : Binding ι × List (Effect ι) :=
  ({ b with connections := b.connections.insert client },
    if client ∈ b.connections then [.assertFailed .clientIdExists] else [])

def removeClientStateLocked (b : Binding ι) (client : ι) : Binding ι × List (Effect ι) :=
  let (states, effects) := b.serviceStates.removeEventSubscriptionsForClient client
  let (states, connectors) := ServiceStates.removeOffers states client
  let b :=
    { b with
      serviceStates := states
      interestedPeers := b.interestedPeers.filterMapVals fun _ (peers : List ι) =>
        if (peers.erase client).isEmpty then none else some (peers.erase client)
      idMapping := b.idMapping.removeClient client }
  (b.clearPendingConnects fun pending => pending.client = client,
    effects ++ connectors.map fun e => .destroyServerConnector e.1 e.2)

def removeClient (b : Binding ι) (client : ι) : Binding ι × List (Effect ι) :=
  { b with connections := b.connections.erase client }.removeClientStateLocked client

end Binding

end SomeipGateway
