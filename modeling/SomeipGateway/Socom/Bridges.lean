import SomeipGateway.Lib.Run
import SomeipGateway.Socom.Registry

/-! # Service requests of SOCom at its bridges

A client connector that finds no server asks every bridge for its service, and a
bridge that registers is asked for every service that is being requested. Both
loops release the bridge lock around each `request_service`. A step below is one
lock section or one such call; a client or a bridge that is between two sections
keeps the local variables of its function in its phase.

The map of a request is shared by the client connectors that asked for the
service. `m_service_requests` has a weak pointer to it, so an entry whose owners
are gone has expired. The `epoch` tells the requests for one key apart, and a
handle is the position of its call in the history of calls.
-/

namespace SomeipGateway

namespace Socom

abbrev BridgeId := Nat

abbrev BridgeIdentity := Nat

abbrev HandleId := Nat

/-- A call of a bridge's `request_service`, for the request that had the key at the
time. -/
structure Asked where
  bridge : BridgeId
  key : Key
  epoch : Option Nat
deriving DecidableEq, Repr

/-- An entry of `m_service_requests`, with the map its weak pointer leads to. -/
structure ActiveRequest where
  epoch : Nat
  owners : Finset ClientId
  entries : Table BridgeId HandleId := ∅
  subscribers : List (Option BridgeIdentity) := []
deriving DecidableEq

inductive RequesterPhase where
  | absent
  /-- The client has its record, and found no server in it. -/
  | registered
  /-- The lock is released and the bridge is about to be asked. -/
  | calling (bridge : BridgeId) (rest : List (BridgeId × BridgeIdentity))
      (tmp : Table BridgeId HandleId)
  /-- The bridge has answered and the lock is not yet taken again. -/
  | called (rest : List (BridgeId × BridgeIdentity)) (tmp : Table BridgeId HandleId)
  | requesting
  /-- The client found a server and has no request. -/
  | served
  /-- The destructor has left the record. -/
  | unregistered
  /-- The destructor has given up the share of the request. -/
  | released
  | destroyed
deriving DecidableEq

structure Requester where
  key : Key := ⟨⟨[], 0, 0⟩, []⟩
  phase : RequesterPhase := .absent
deriving DecidableEq

inductive BridgePhase where
  | absent
  /-- `register_bridge` between two lock sections. -/
  | registering (toDo : List Key) (results : Table Key HandleId) (done : Finset Key)
  | registered
  | stopped
deriving DecidableEq

structure Bridges where
  callbacks : List (BridgeId × BridgeIdentity) := []
  requests : Table Key ActiveRequest := ∅
  records : RecordKey → Record := fun _ => {}
  clients : ClientId → Requester := fun _ => {}
  bridges : BridgeId → BridgePhase := fun _ => .absent
  nextEpoch : Nat := 0
  asked : List Asked := []
  dropped : Finset HandleId := ∅

/-! ## Which bridges a client asks -/

def isForwardSubscription (identity : Option BridgeIdentity) (bridgeIdentity : BridgeIdentity)
    (record : List (Option BridgeIdentity)) : Bool :=
  if record.length = 1 then identity ≠ some bridgeIdentity
  else if record.length = 2 then
    some bridgeIdentity ∈ record && identity ≠ some bridgeIdentity
  else false

/-- The next bridge of the copied table that the loop calls, and the rest of the
table. A client connector has no bridge identity. -/
def nextForwarded (record : List (Option BridgeIdentity)) :
    List (BridgeId × BridgeIdentity) → Option (BridgeId × List (BridgeId × BridgeIdentity))
  | [] => none
  | bridge :: rest =>
      if isForwardSubscription none bridge.2 record then some (bridge.1, rest)
      else nextForwarded record rest

namespace Bridges

/-! ## Lock sections -/

def setPhase (σ : Bridges) (c : ClientId) (phase : RequesterPhase) : Bridges :=
  { σ with clients := Function.update σ.clients c { σ.clients c with phase := phase } }

@[simp] theorem setPhase_key (σ : Bridges) (c c' : ClientId) (phase : RequesterPhase) :
    ((σ.setPhase c phase).clients c').key = (σ.clients c').key := by
  simp only [setPhase, Function.update_apply]
  split
  next h => rw [h]
  next => rfl

theorem setPhase_phase (σ : Bridges) (c c' : ClientId) (phase : RequesterPhase) :
    ((σ.setPhase c phase).clients c').phase = if c' = c then phase else (σ.clients c').phase := by
  simp only [setPhase, Function.update_apply]
  split <;> rfl

def setBridge (σ : Bridges) (b : BridgeId) (phase : BridgePhase) : Bridges :=
  { σ with bridges := Function.update σ.bridges b phase }

def setRecord (σ : Bridges) (key : RecordKey) (record : Record) : Bridges :=
  { σ with records := Function.update σ.records key record }

/-- Call `request_service` of the bridge. -/
def ask (σ : Bridges) (b : BridgeId) (key : Key) : Bridges :=
  { σ with asked := σ.asked ++ [⟨b, key, (σ.requests.lookup key).map ActiveRequest.epoch⟩] }

/-- What `weak_ptr::lock` returns for the entry of the key. -/
def locked (σ : Bridges) (key : Key) : Option ActiveRequest :=
  (σ.requests.lookup key).filter fun r => r.owners ≠ ∅

/-- The end of `get_bridge_requests`: the results go to the map, except for the
bridges that the map has already. -/
def storeResults (σ : Bridges) (c : ClientId) (r : ActiveRequest)
    (tmp : Table BridgeId HandleId) : Bridges :=
  { σ.setPhase c .requesting with
    requests := σ.requests.insert (σ.clients c).key { r with entries := r.entries ∪ tmp }
    dropped := σ.dropped ∪
      ((tmp.entries.filter fun e => e.1 ∈ r.entries).map Sigma.snd).toFinset }

/-- The loop of `get_bridge_requests` while it holds the lock: up to the next call,
or to its end. -/
def proceed (σ : Bridges) (c : ClientId) (r : ActiveRequest)
    (rest : List (BridgeId × BridgeIdentity)) (tmp : Table BridgeId HandleId) : Bridges :=
  match nextForwarded r.subscribers rest with
  | some (bridge, rest) => σ.setPhase c (.calling bridge rest tmp)
  | none => σ.storeResults c r tmp

/-- The entry that `get_bridge_requests` works on: the one of the key if its map is
alive, and a new one otherwise. -/
def ownRequest (σ : Bridges) (c : ClientId) (key : Key) : ActiveRequest :=
  match σ.locked key with
  | some r => { r with owners := insert c r.owners, subscribers := r.subscribers ++ [none] }
  | none => { epoch := σ.nextEpoch, owners := {c}, subscribers := [none] }

def joinRequest (σ : Bridges) (c : ClientId) : Bridges :=
  { σ with
    requests := σ.requests.insert (σ.clients c).key (σ.ownRequest c (σ.clients c).key)
    nextEpoch := σ.nextEpoch + 1 }

/-- `get_bridge_requests` up to where it first releases the lock. -/
def getBridgeRequests (σ : Bridges) (c : ClientId) : Bridges :=
  (σ.joinRequest c).proceed c (σ.ownRequest c (σ.clients c).key) σ.callbacks ∅

/-- `remove_service_requests` gives up the share of the map; with the last share the
map goes, and the handles in it. -/
def releaseRequest (σ : Bridges) (c : ClientId) (r : ActiveRequest) : Bridges :=
  let owners := r.owners.erase c
  { σ.setPhase c .released with
    requests := σ.requests.insert (σ.clients c).key
      { r with owners := owners, entries := if owners = ∅ then ∅ else r.entries }
    dropped := σ.dropped ∪
      if owners = ∅ then (r.entries.entries.map Sigma.snd).toFinset else ∅ }

/-- `cleanup` of the key: an entry that has expired goes. -/
def cleanupKey (σ : Bridges) (c : ClientId) : Bridges :=
  let key := (σ.clients c).key
  { σ.setPhase c .destroyed with
    requests := if (σ.locked key).isSome then σ.requests else σ.requests.erase key }

/-- The first section of `register_service_bridge`. The table is ordered by address,
and `place` is where the address of the new bridge puts it. -/
def registerServiceBridge (σ : Bridges) (b : BridgeId) (identity : BridgeIdentity)
    (place : Nat) : Bridges :=
  { σ.setBridge b (.registering σ.requests.keys ∅ ∅) with
    callbacks := σ.callbacks.take place ++ (b, identity) :: σ.callbacks.drop place }

/-- Whether the section of `register_bridge` puts its result for the key in the map. -/
def accepts (σ : Bridges) (b : BridgeId) (key : Key) : Bool :=
  (σ.locked key).any fun r => b ∉ r.entries

/-- The section of `register_bridge` that merges the results of the calls and finds
the requests that were added meanwhile. -/
def mergeResults (σ : Bridges) (b : BridgeId) (results : Table Key HandleId)
    (done : Finset Key) : Bridges :=
  let toDo := σ.requests.keys.filter fun key => key ∉ results ∧ key ∉ done
  { σ.setBridge b (if toDo = [] then .registered else .registering toDo ∅ done) with
    requests := σ.requests.filterMapVals fun key r =>
      some (match results.lookup key with
        | some h => if σ.accepts b key then { r with entries := r.entries.insert b h } else r
        | none => r)
    dropped := σ.dropped ∪
      ((results.entries.filter fun e => !σ.accepts b e.1).map Sigma.snd).toFinset }

def stopRegistration (σ : Bridges) (b : BridgeId) : Bridges :=
  { σ.setBridge b .stopped with
    callbacks := σ.callbacks.filter fun e => e.1 ≠ b
    requests := σ.requests.filterMapVals fun _ r => some { r with entries := r.entries.erase b }
    dropped := σ.dropped ∪
      (σ.requests.entries.filterMap fun e => e.2.entries.lookup b).toFinset }

/-! ## Steps -/

inductive Label where
  /-- A server connector of the record is enabled or disabled. -/
  | serverChanged (key : RecordKey) (server : Option Interfaced)
  | makeClientConnector (c : ClientId) (key : Key)
  | getBridgeRequests (c : ClientId)
  | requestService (c : ClientId)
  | resume (c : ClientId)
  | unregisterClient (c : ClientId)
  | releaseRequest (c : ClientId)
  | cleanup (c : ClientId)
  | registerServiceBridge (b : BridgeId) (identity : BridgeIdentity) (place : Nat)
  | requestFor (b : BridgeId) (key : Key)
  | mergeResults (b : BridgeId)
  | stopRegistration (b : BridgeId)
deriving DecidableEq, Repr

def makeClientConnector (σ : Bridges) (c : ClientId) (key : Key) : Bridges :=
  match (σ.records (recordKey key)).registerClientConnector key.service c with
  | none => σ
  | some (record, server) =>
      { σ.setRecord (recordKey key) record with
        clients := Function.update σ.clients c
          ⟨key, if server.isSome then .served else .registered⟩ }

/-- One step; `none` when the client or the bridge is not at this point. -/
def next (σ : Bridges) : Label → Option Bridges
  | .serverChanged key server => some (σ.setRecord key { σ.records key with server := server })
  | .makeClientConnector c key =>
      if (σ.clients c).phase = .absent then some (σ.makeClientConnector c key) else none
  | .getBridgeRequests c =>
      if (σ.clients c).phase = .registered then some (σ.getBridgeRequests c) else none
  | .requestService c =>
      match (σ.clients c).phase with
      | .calling b rest tmp =>
          some ((σ.ask b (σ.clients c).key).setPhase c (.called rest (tmp.insert b σ.asked.length)))
      | _ => none
  | .resume c =>
      match (σ.clients c).phase, σ.requests.lookup (σ.clients c).key with
      | .called rest tmp, some r => some (σ.proceed c r rest tmp)
      | _, _ => none
  | .unregisterClient c =>
      let key := recordKey (σ.clients c).key
      match (σ.clients c).phase with
      | .requesting =>
          some ((σ.setRecord key (σ.records key).resetClient).setPhase c .unregistered)
      | .served => some ((σ.setRecord key (σ.records key).resetClient).setPhase c .destroyed)
      | _ => none
  | .releaseRequest c =>
      match (σ.clients c).phase, σ.requests.lookup (σ.clients c).key with
      | .unregistered, some r => some (σ.releaseRequest c r)
      | _, _ => none
  | .cleanup c => if (σ.clients c).phase = .released then some (σ.cleanupKey c) else none
  | .registerServiceBridge b identity place =>
      if σ.bridges b = .absent then some (σ.registerServiceBridge b identity place) else none
  | .requestFor b key =>
      match σ.bridges b with
      | .registering toDo results done =>
          if key ∈ toDo then
            some ((σ.ask b key).setBridge b (.registering (toDo.erase key)
              (results.insert key σ.asked.length) (insert key done)))
          else none
      | _ => none
  | .mergeResults b =>
      match σ.bridges b with
      | .registering [] results done => some (σ.mergeResults b results done)
      | _ => none
  | .stopRegistration b =>
      if σ.bridges b = .registered then some (σ.stopRegistration b) else none

/-- What a step can do. -/
inductive Step (σ : Bridges) : Label → Bridges → Prop where
  | serverChanged (key : RecordKey) (server : Option Interfaced) :
      Step σ (.serverChanged key server) (σ.setRecord key { σ.records key with server := server })
  | refused (c : ClientId) (key : Key) : Step σ (.makeClientConnector c key) σ
  | made (c : ClientId) (key : Key) (phase : RequesterPhase)
      (habsent : (σ.clients c).phase = .absent)
      (hfree : (σ.records (recordKey key)).client = none)
      (hphase : phase = .served ∨ phase = .registered) :
      Step σ (.makeClientConnector c key)
        { σ.setRecord (recordKey key)
            { σ.records (recordKey key) with client := some ⟨key.service, c⟩ } with
          clients := Function.update σ.clients c ⟨key, phase⟩ }
  | began (c : ClientId) (b : BridgeId) (rest : List (BridgeId × BridgeIdentity))
      (hphase : (σ.clients c).phase = .registered)
      (hnext : nextForwarded (σ.ownRequest c (σ.clients c).key).subscribers σ.callbacks =
        some (b, rest)) :
      Step σ (.getBridgeRequests c) ((σ.joinRequest c).setPhase c (.calling b rest ∅))
  | joined (c : ClientId) (hphase : (σ.clients c).phase = .registered)
      (hnext : nextForwarded (σ.ownRequest c (σ.clients c).key).subscribers σ.callbacks = none) :
      Step σ (.getBridgeRequests c)
        ((σ.joinRequest c).storeResults c (σ.ownRequest c (σ.clients c).key) ∅)
  | answered (c : ClientId) (b : BridgeId) (rest : List (BridgeId × BridgeIdentity))
      (tmp : Table BridgeId HandleId) (hphase : (σ.clients c).phase = .calling b rest tmp) :
      Step σ (.requestService c)
        ((σ.ask b (σ.clients c).key).setPhase c (.called rest (tmp.insert b σ.asked.length)))
  | resumed (c : ClientId) (b : BridgeId) (rest rest' : List (BridgeId × BridgeIdentity))
      (tmp : Table BridgeId HandleId) (r : ActiveRequest)
      (hphase : (σ.clients c).phase = .called rest tmp)
      (hr : σ.requests.lookup (σ.clients c).key = some r)
      (hnext : nextForwarded r.subscribers rest = some (b, rest')) :
      Step σ (.resume c) (σ.setPhase c (.calling b rest' tmp))
  | stored (c : ClientId) (rest : List (BridgeId × BridgeIdentity))
      (tmp : Table BridgeId HandleId) (r : ActiveRequest)
      (hphase : (σ.clients c).phase = .called rest tmp)
      (hr : σ.requests.lookup (σ.clients c).key = some r)
      (hnext : nextForwarded r.subscribers rest = none) :
      Step σ (.resume c) (σ.storeResults c r tmp)
  | left (c : ClientId) (phase : RequesterPhase)
      (hphase : (σ.clients c).phase = .requesting ∧ phase = .unregistered ∨
        (σ.clients c).phase = .served ∧ phase = .destroyed) :
      Step σ (.unregisterClient c)
        ((σ.setRecord (recordKey (σ.clients c).key)
          (σ.records (recordKey (σ.clients c).key)).resetClient).setPhase c phase)
  | released (c : ClientId) (r : ActiveRequest) (hphase : (σ.clients c).phase = .unregistered)
      (hr : σ.requests.lookup (σ.clients c).key = some r) :
      Step σ (.releaseRequest c) (σ.releaseRequest c r)
  | cleaned (c : ClientId) (hphase : (σ.clients c).phase = .released) :
      Step σ (.cleanup c) (σ.cleanupKey c)
  | registered (b : BridgeId) (identity : BridgeIdentity) (place : Nat)
      (habsent : σ.bridges b = .absent) :
      Step σ (.registerServiceBridge b identity place) (σ.registerServiceBridge b identity place)
  | called (b : BridgeId) (key : Key) (toDo : List Key) (results : Table Key HandleId)
      (done : Finset Key) (hphase : σ.bridges b = .registering toDo results done)
      (hkey : key ∈ toDo) :
      Step σ (.requestFor b key)
        ((σ.ask b key).setBridge b (.registering (toDo.erase key)
          (results.insert key σ.asked.length) (insert key done)))
  | merged (b : BridgeId) (results : Table Key HandleId) (done : Finset Key)
      (hphase : σ.bridges b = .registering [] results done) :
      Step σ (.mergeResults b) (σ.mergeResults b results done)
  | stopped (b : BridgeId) (hphase : σ.bridges b = .registered) :
      Step σ (.stopRegistration b) (σ.stopRegistration b)

variable {σ σ' : Bridges} {label : Label}

theorem step_makeClientConnector {c : ClientId} {key : Key}
    (habsent : (σ.clients c).phase = .absent) :
    Step σ (.makeClientConnector c key) (σ.makeClientConnector c key) := by
  unfold makeClientConnector
  cases h : (σ.records (recordKey key)).registerClientConnector key.service c with
  | none => exact .refused c key
  | some result =>
      obtain ⟨hfree, rfl⟩ := Record.registerClientConnector_eq_some.1 h
      refine .made c key _ habsent hfree ?_
      split
      · exact .inl rfl
      · exact .inr rfl

theorem step_of_next (h : σ.next label = some σ') : Step σ label σ' := by
  cases label with
  | serverChanged key server =>
      cases h
      exact .serverChanged key server
  | makeClientConnector c key =>
      obtain ⟨habsent, heq⟩ := Option.ite_none_right_eq_some.1 h
      cases heq
      exact step_makeClientConnector habsent
  | getBridgeRequests c =>
      obtain ⟨hphase, heq⟩ := Option.ite_none_right_eq_some.1 h
      cases heq
      unfold getBridgeRequests proceed
      split
      next b rest hnext => exact .began c b rest hphase hnext
      next hnext => exact .joined c hphase hnext
  | requestService c =>
      simp only [next] at h
      split at h
      next b rest tmp hphase =>
        cases h
        exact .answered c b rest tmp hphase
      next => cases h
  | resume c =>
      simp only [next] at h
      split at h
      next rest tmp r hphase hr =>
        cases h
        unfold proceed
        split
        next b rest' hnext => exact .resumed c b rest rest' tmp r hphase hr hnext
        next hnext => exact .stored c rest tmp r hphase hr hnext
      next => cases h
  | unregisterClient c =>
      simp only [next] at h
      split at h
      next hphase =>
        cases h
        exact .left c _ (.inl ⟨hphase, rfl⟩)
      next hphase =>
        cases h
        exact .left c _ (.inr ⟨hphase, rfl⟩)
      next => cases h
  | releaseRequest c =>
      simp only [next] at h
      split at h
      next r hphase hr =>
        cases h
        exact .released c r hphase hr
      next => cases h
  | cleanup c =>
      obtain ⟨hphase, heq⟩ := Option.ite_none_right_eq_some.1 h
      cases heq
      exact .cleaned c hphase
  | registerServiceBridge b identity place =>
      obtain ⟨habsent, heq⟩ := Option.ite_none_right_eq_some.1 h
      cases heq
      exact .registered b identity place habsent
  | requestFor b key =>
      simp only [next] at h
      split at h
      next toDo results done hphase =>
        obtain ⟨hkey, heq⟩ := Option.ite_none_right_eq_some.1 h
        cases heq
        exact .called b key toDo results done hphase hkey
      next => cases h
  | mergeResults b =>
      simp only [next] at h
      split at h
      next results done hphase =>
        cases h
        exact .merged b results done hphase
      next => cases h
  | stopRegistration b =>
      obtain ⟨hphase, heq⟩ := Option.ite_none_right_eq_some.1 h
      cases heq
      exact .stopped b hphase

end Bridges

end Socom

end SomeipGateway
