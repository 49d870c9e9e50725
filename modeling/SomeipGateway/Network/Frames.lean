import SomeipGateway.Binding.Encode
import SomeipGateway.Network.Basic

/-! # The network on the wire

The endpoints of `Network`, joined by channels that carry the bytes of frames. A
critical section builds a frame for every message it sends; the receiver is handed
the bytes in a buffer, checks and casts them, and may ignore the frame or fail on
it. Whatever the endpoints do over frames, they do over messages: every frame in
flight is decoded by its receiver as the message that was sent.
-/

namespace SomeipGateway

structure FrameNetwork (ι : Type) where
  endpoint : ι → Endpoint ι
  wire : ι → ι → List Bytes

variable {ι : Type}

/-- The frames built for the messages among the effects, with their receivers.
`none` is the assertion of an identifier that does not fit, or a number that is no
value of its field's type. -/
def sentFrames : List (Effect ι) → Option (List (ι × Bytes))
  | [] => some []
  | .send target _ msg ok :: rest => do
      let bytes ← msg.toBytes
      let more ← sentFrames rest
      some (if ok then (target, bytes) :: more else more)
  | _ :: rest => sentFrames rest

variable [DecidableEq ι]

def framesTo (client : ι) (frames : List (ι × Bytes)) : List Bytes :=
  frames.filterMap fun frame => if frame.1 = client then some frame.2 else none

namespace FrameNetwork

def update (net : FrameNetwork ι) (x : ι) (r : Endpoint ι × List (Effect ι)) :
    Option (FrameNetwork ι) := do
  let frames ← sentFrames r.2
  some
    { endpoint := Function.update net.endpoint x r.1
      wire := Function.update net.wire x fun y => net.wire x y ++ framesTo y frames }

/-- The frames left between `x` and `y`. -/
def setWire (net : FrameNetwork ι) (x y : ι) (rest : List Bytes) : FrameNetwork ι :=
  { net with wire := Function.update net.wire x (Function.update (net.wire x) y rest) }

/-- A step, and the address of the buffer in which a delivered frame is handed over.
`none` is undefined behaviour, a failed assertion, or a step that is not due. -/
def next (role : ι → Role) (metadata : ι → Key → Option SharedMemoryMetadata)
    (net : FrameNetwork ι) : NetworkEvent ι × Nat → Option (FrameNetwork ι)
  | (.act x event, _) =>
      if event.isLocal then
        ((net.endpoint x).step (Network.env (metadata x)) event).bind (net.update x)
      else none
  | (.deliver x y, address) =>
      match net.wire x y with
      | [] => none
      | bytes :: rest =>
          if x = y then none
          else
            match decode ⟨bytes, address⟩ (role y) with
            | .error _ => none
            -- an invalid frame is ignored
            | .ok none => some (net.setWire x y rest)
            | .ok (some (_, msg)) =>
                ((net.endpoint y).step (Network.env (metadata y)) (.receive x msg)).bind
                  ((net.setWire x y rest).update y)
  | (.disconnect x y, _) => do
      let r ← (net.endpoint x).step (Network.env (metadata x)) (.removeClient y)
      let net ← ((net.setWire x y []).setWire y x []).update x r
      let r ← (net.endpoint y).step (Network.env (metadata y)) (.removeClient x)
      net.update y r

/-- The endpoints right after each has connected to its peers. -/
def joined (peers : ι → List ι) : FrameNetwork ι where
  endpoint x := { binding := { connections := peers x } }
  wire _ _ := []

end FrameNetwork

/-! ## Frames that carry messages -/

/-- Every receiver takes the bytes for the message, in any aligned buffer. -/
def Carries (bytes : Bytes) (packet : Packet) : Prop :=
  ∀ address role, address % 8 = 0 → decode ⟨bytes, address⟩ role = .ok (some (none, packet.msg))

theorem carries_framesTo {effects : List (Effect ι)} {frames : List (ι × Bytes)}
    (h : sentFrames effects = some frames) (y : ι) :
    List.Forall₂ Carries (framesTo y frames) (sendsTo y effects) := by
  induction effects generalizing frames with
  | nil =>
      cases h
      exact .nil
  | cons e rest ih =>
      cases e with
      | send target about msg ok =>
          simp only [sentFrames, Option.bind_eq_bind, Option.bind_eq_some_iff, Option.some.injEq]
            at h
          obtain ⟨bytes, hbytes, more, hmore, rfl⟩ := h
          have hrest := ih hmore
          cases ok with
          | false => exact hrest
          | true =>
              by_cases hy : target = y
              · simpa [framesTo, sendsTo, hy] using
                  ⟨fun address role haddress => Message.decode_toBytes hbytes haddress role, hrest⟩
              · simpa [framesTo, sendsTo, hy] using hrest
      | subscribeEvent | unsubscribeEvent | updateEvent | releasePayload
      | destroyServerConnector | destroyClientConnector | requestSent | assertFailed => exact ih h

/-- The two networks are in the same state. -/
structure Framed (frames : FrameNetwork ι) (net : Network ι) : Prop where
  endpoint : frames.endpoint = net.endpoint
  wire : ∀ x y, List.Forall₂ Carries (frames.wire x y) (net.channel x y)

namespace Framed

variable {frames frames' : FrameNetwork ι} {net : Network ι} {x y : ι}

theorem update (h : Framed frames net) {r : Endpoint ι × List (Effect ι)}
    (hframes : frames.update x r = some frames') : Framed frames' (net.update x r) := by
  obtain ⟨sent, hsent, heq⟩ := Option.bind_eq_some_iff.1 hframes
  cases heq
  refine ⟨funext fun z => ?_, fun z w => ?_⟩
  · show Function.update frames.endpoint x r.1 z = (net.update x r).endpoint z
    rw [Network.endpoint_update, Function.update_apply, h.endpoint]
  · rw [Network.channel_update]
    by_cases hz : z = x
    · subst hz
      simpa using List.rel_append (h.wire z w) (carries_framesTo hsent w)
    · simpa [hz] using h.wire z w

theorem setWire (h : Framed frames net) {bytes : List Bytes} {channel : ι → ι → List Packet}
    {delivered : ι → ι → List Packet} {rest : List Packet}
    (hchannel : ∀ z w, channel z w = if z = x ∧ w = y then rest else net.channel z w)
    (hrest : List.Forall₂ Carries bytes rest) :
    Framed (frames.setWire x y bytes) ⟨net.endpoint, channel, delivered⟩ := by
  refine ⟨h.endpoint, fun z w => ?_⟩
  show List.Forall₂ Carries ((frames.setWire x y bytes).wire z w) (channel z w)
  rw [hchannel]
  by_cases hz : z = x
  · subst hz
    by_cases hw : w = y
    · subst hw
      simpa [FrameNetwork.setWire] using hrest
    · simpa [FrameNetwork.setWire, hw] using h.wire z w
  · simpa [FrameNetwork.setWire, hz] using h.wire z w

/-- The messages follow the frames. No frame of a channel is ignored. -/
theorem exists_next (h : Framed frames net) {role : ι → Role}
    {metadata : ι → Key → Option SharedMemoryMetadata} {event : NetworkEvent ι} {address : Nat}
    (haddress : address % 8 = 0)
    (hnext : frames.next role metadata (event, address) = some frames') :
    ∃ net', net.next metadata event = some net' ∧ Framed frames' net' := by
  cases event with
  | act x e =>
      simp only [FrameNetwork.next, h.endpoint] at hnext
      split at hnext
      next hlocal =>
        obtain ⟨r, hr, hupdate⟩ := Option.bind_eq_some_iff.1 hnext
        exact ⟨net.update x r, by simp [Network.next, hlocal, hr], h.update hupdate⟩
      next => cases hnext
  | deliver x y =>
      have hwire := h.wire x y
      cases hframes : frames.wire x y with
      | nil => simp [FrameNetwork.next, hframes] at hnext
      | cons bytes more =>
          cases hchannel : net.channel x y with
          | nil => simp [hframes, hchannel] at hwire
          | cons packet rest =>
              rw [hframes, hchannel, List.forall₂_cons] at hwire
              simp only [FrameNetwork.next, hframes, hwire.1 address (role y) haddress,
                h.endpoint] at hnext
              split at hnext
              · cases hnext
              next hne =>
                obtain ⟨r, hr, hupdate⟩ := Option.bind_eq_some_iff.1 hnext
                have htaken : Framed (frames.setWire x y more) (net.take x y packet rest) :=
                  h.setWire (fun z w => Network.channel_take net x y z w packet rest) hwire.2
                exact ⟨(net.take x y packet rest).update y r,
                  by simp [Network.next, hchannel, hne, hr], htaken.update hupdate⟩
  | disconnect x y =>
      simp only [FrameNetwork.next, h.endpoint, Option.bind_eq_bind, Option.bind_eq_some_iff]
        at hnext
      obtain ⟨r, hr, middle, hmiddle, r', hr', hframes'⟩ := hnext
      have hcleared : Framed ((frames.setWire x y []).setWire y x [])
          ((net.clear x y).clear y x) :=
        (h.setWire (net.channel_clear x y) .nil).setWire ((net.clear x y).channel_clear y x) .nil
      have hupdated := hcleared.update hmiddle
      rw [hupdated.endpoint] at hr'
      refine ⟨(((net.clear x y).clear y x).update x r).update y r', ?_, hupdated.update hframes'⟩
      simp only [Network.next, hr, hr', Option.bind_eq_bind, Option.bind_some]

end Framed

/-! ## Runs -/

namespace FrameNetwork

/-- Every run over frames is a run over messages: the endpoints are those of a run
that hands messages over as they are, and every frame in flight is decoded by its
receiver, whichever it is, as the message in its place. -/
theorem frames_refine_messages {role : ι → Role} {metadata : ι → Key → Option SharedMemoryMetadata}
    {peers : ι → List ι} {frames : FrameNetwork ι}
    (h : Reach (next role metadata) (fun _ label => label.2 % 8 = 0) (joined peers) frames) :
    ∃ net, Reach (Network.next metadata) (fun _ _ => True) (Network.joined peers) net ∧
      frames.endpoint = net.endpoint ∧
      ∀ x y, List.Forall₂ Carries (frames.wire x y) (net.channel x y) := by
  refine h.invariant (I := fun frames => ∃ net, Reach (Network.next metadata) (fun _ _ => True)
    (Network.joined peers) net ∧ frames.endpoint = net.endpoint ∧
      ∀ x y, List.Forall₂ Carries (frames.wire x y) (net.channel x y))
    ⟨_, .init, rfl, fun _ _ => .nil⟩ ?_
  rintro s ⟨event, address⟩ s' ⟨net, hreach, hendpoint, hwire⟩ haddress hnext
  obtain ⟨net', hnet', hframed⟩ := Framed.exists_next ⟨hendpoint, hwire⟩ haddress hnext
  exact ⟨net', hreach.step trivial hnet', hframed.endpoint, hframed.wire⟩

/-- A client asks a server for a service that the server's process offers, up to the
`Connect_service` that answers the offer. -/
theorem frames_refine_messages_handshake :
    ∃ frames, Reach (next (fun x => if x then .server else .client) fun _ _ =>
        some Endpoint.someMetadata) (fun _ label => label.2 % 8 = 0) (joined fun x => [!x]) frames ∧
      (frames.wire false true).length = 1 ∧
      ∃ net, Reach Network.pairNext (fun _ _ => True) Network.pair net ∧
        frames.endpoint = net.endpoint ∧
        ∀ x y, List.Forall₂ Carries (frames.wire x y) (net.channel x y) := by
  obtain ⟨frames, hreach, hframes⟩ := exists_reach_of_runFrom
    (next (fun x => if x then .server else .client) fun _ _ => some Endpoint.someMetadata)
    (fun _ label => label.2 % 8 = 0) (joined fun x => [!x])
    [(.act true (.enableServerConnector (Endpoint.someKey 1) ⟨0, 2⟩), 0),
      (.act false (.makeClientConnector (Endpoint.someKey 1) ⟨0, 2⟩), 0),
      (.deliver false true, 4096), (.deliver true false, 8)]
    (fun frames => (frames.wire false true).length = 1) (by decide +kernel)
  exact ⟨frames, hreach, of_decide_eq_true hframes, frames_refine_messages hreach⟩

end FrameNetwork

end SomeipGateway
