import SomeipGateway.Handshake.Delivery
import SomeipGateway.Handshake.Simulation
import SomeipGateway.Handshake.Withdrawal

/-! # The service at the requester is the service at the provider

What the handshake guarantees of two endpoints once no message is on its way: a
connector at the requester has a server at the provider, and a service that is
requested at one endpoint and available at the other has a connector.
-/

namespace SomeipGateway

open Handshake

namespace Network

open Endpoint (someKey)

variable {net net' : Network Bool} {key : Key} {p : Bool}

/-- What holds of the link at the start and is kept by every allowed step holds of
the link in every state reached. -/
theorem link_invariant {metadata : Bool → Key → Option SharedMemoryMetadata}
    {ok : Network Bool → NetworkEvent Bool → Prop} {I : Link → Prop} (hinit : I {})
    (hconnected : ∀ net event, ok net event → event.staysConnected = true)
    (hstep : ∀ net event l', ok net event → I (net.link key p) →
      Link.Step (net.link key p) (net.label key p event) l' → I l')
    (h : Reach (next metadata) ok pair net) : net.Simulates key ∧ I (net.link key p) := by
  refine Reach.invariant (I := fun net => net.Simulates key ∧ I (net.link key p))
    ⟨.pair key, hinit⟩ ?_ h
  rintro net event net' ⟨hsim, hI⟩ hok hnext
  obtain ⟨hsim', hlink⟩ := hsim.next (hconnected net event hok) hnext p
  exact ⟨hsim', hstep net event _ hok hI hlink⟩

theorem Simulates.hasConnector_eq (h : net.Simulates key) (x : Bool) :
    (net.endpoint x).binding.serviceStates.hasConnector key =
      decide (((net.endpoint x).half key (!x)).server = some .bridge) := by
  rw [← (h.shows x).view.connector]
  unfold ServiceStates.hasConnector
  simp only [Binding.view]
  cases (net.endpoint x).binding.serviceStates.lookup key <;> rfl

theorem server_isSome (net : Network Bool) (key : Key) (p : Bool) :
    (net.link key p).provider.server.isSome = ((net.endpoint p).records key).server.isSome := by
  simp [link, Endpoint.half]

/-- No service is left at the requester that the provider does not have. -/
theorem server_of_connector (metadata : Bool → Key → Option SharedMemoryMetadata) (key : Key)
    (p : Bool) (net : Network Bool)
    (h : Reach (next metadata)
      (fun net event => event.staysConnected = true ∧ event.keepsVersion key = true ∧
        (net.label key p event).keepsRoles = true ∧
        (net.link key p).withdraws (net.label key p event) = true) pair net)
    (hquiet : net.Quiet)
    (hconnector : (net.endpoint (!p)).binding.serviceStates.hasConnector key = true) :
    (((net.endpoint (!p)).binding.serviceStates.lookup key).any fun s => s.requested) = true ∧
      ((net.endpoint (!p)).records key).client = some (.application true) ∧
      ((net.endpoint p).records key).server.isSome = true := by
  obtain ⟨hsim, hserved⟩ := link_invariant (I := Link.Served) .init (fun _ _ hok => hok.1)
    (fun _ _ _ hok hI hstep => hI.step hok.2.2.1 hok.2.2.2 hstep) h
  have hdown : (net.link key p).down = [] := by simp [link, hquiet p (!p)]
  have hbridge : (net.link key p).requester.server = some .bridge := by
    rw [hsim.hasConnector_eq] at hconnector
    simpa [link] using hconnector
  obtain ⟨hserver, hclient, hrequested⟩ := hserved.available hdown hbridge
  refine ⟨?_, hclient, server_isSome net key p ▸ hserver⟩
  have hflag : (((net.endpoint (!p)).binding.serviceStates.lookup key).getD {}).requested = true :=
    hrequested
  cases hstate : (net.endpoint (!p)).binding.serviceStates.lookup key with
  | none => simp [hstate] at hflag
  | some s => simpa [hstate] using hflag

/-- The service is asked for, offered and connected to. -/
theorem server_of_connector_run :
    ∃ net : Network Bool, net.Quiet ∧
      (net.endpoint false).binding.serviceStates.hasConnector (someKey 1) = true ∧
      ((net.endpoint true).records (someKey 1)).server.isSome = true := by
  obtain ⟨net, hreach, hp⟩ := exists_reach_pair
    (fun net event => event.staysConnected = true ∧ event.keepsVersion (someKey 1) = true ∧
      (net.label (someKey 1) true event).keepsRoles = true ∧
      (net.link (someKey 1) true).withdraws (net.label (someKey 1) true event) = true)
    [.act true (.enableServerConnector (someKey 1) ⟨0, 1⟩),
      .act false (.makeClientConnector (someKey 1) ⟨0, 1⟩), .deliver false true,
      .deliver true false, .deliver false true, .deliver true false,
      .act false (.finishReply true)]
    (fun net => net.isQuiet &&
      (net.endpoint false).binding.serviceStates.hasConnector (someKey 1)) (by decide +kernel)
  obtain ⟨hquiet, hconnector⟩ : net.Quiet ∧
      (net.endpoint false).binding.serviceStates.hasConnector (someKey 1) = true := by
    simpa [quiet_iff] using hp
  exact ⟨net, hquiet, hconnector,
    (server_of_connector _ (someKey 1) true net hreach hquiet hconnector).2.2⟩

/-- An offer crosses the end of the request, so the provider no longer lists the
requester when its server goes away. The requester connects for that offer when it
asks again. -/
theorem connector_without_server :
    ∃ net : Network Bool, Reach pairNext (fun net event => event.staysConnected = true ∧
        (net.label (someKey 1) true event).keepsRoles = true) pair net ∧ net.Quiet ∧
      (net.endpoint false).binding.serviceStates.hasConnector (someKey 1) = true ∧
      ((net.endpoint true).records (someKey 1)).server = none := by
  obtain ⟨net, hreach, hp⟩ := exists_reach_pair
    (fun net event => event.staysConnected = true ∧
      (net.label (someKey 1) true event).keepsRoles = true)
    [.act true (.enableServerConnector (someKey 1) ⟨0, 1⟩),
      .act false (.makeClientConnector (someKey 1) ⟨0, 1⟩), .deliver false true,
      .act false (.destroyClientConnector (someKey 1)), .deliver false true,
      .act true (.disableServerConnector (someKey 1)), .deliver true false,
      .act false (.makeClientConnector (someKey 1) ⟨0, 1⟩), .deliver false true,
      .deliver false true, .deliver true false, .act false (.finishReply true)]
    (fun net => net.isQuiet &&
      ((net.endpoint false).binding.serviceStates.hasConnector (someKey 1) &&
        ((net.endpoint true).records (someKey 1)).server.isNone)) (by decide +kernel)
  refine ⟨net, hreach, ?_⟩
  simpa [quiet_iff] using hp

/-- No service is missing at the requester that the provider has. -/
theorem connector_of_server (metadata : Bool → Key → Option SharedMemoryMetadata) (key : Key)
    (p : Bool) (net : Network Bool)
    (h : Reach (next metadata)
      (fun net event => event.staysConnected = true ∧ event.keepsVersion key = true ∧
        (net.link key p).serves (net.label key p event) = true) pair net)
    (hquiet : net.Quiet) (hreplies : (net.endpoint (!p)).replies = [])
    (hclient : ((net.endpoint (!p)).records key).client = some (.application true))
    (hserver : ((net.endpoint p).records key).server.isSome = true) :
    (net.endpoint (!p)).binding.serviceStates.hasConnector key = true := by
  obtain ⟨hsim, hoffered⟩ := link_invariant (I := Link.Offered) .init (fun _ _ hok => hok.1)
    (fun _ _ _ hok hI hstep => hI.step hok.2.2 hstep) h
  have hdown : (net.link key p).down = [] := by simp [link, hquiet p (!p)]
  have hup : (net.link key p).up = [] := by simp [link, hquiet (!p) p]
  have hbusy : (net.link key p).requester.busy = false := by
    simp [link, Endpoint.half, Endpoint.busy, hreplies]
  have hbridge := hoffered.connected hdown hup hbusy hclient (server_isSome net key p ▸ hserver)
  rw [hsim.hasConnector_eq]
  simpa [link] using hbridge

/-- The service is asked for before it is there. -/
theorem connector_of_server_run :
    ∃ net : Network Bool, net.Quiet ∧
      ((net.endpoint false).records (someKey 1)).client = some (.application true) ∧
      ((net.endpoint true).records (someKey 1)).server.isSome = true ∧
      (net.endpoint false).binding.serviceStates.hasConnector (someKey 1) = true := by
  obtain ⟨net, hreach, hp⟩ := exists_reach_pair
    (fun net event => event.staysConnected = true ∧ event.keepsVersion (someKey 1) = true ∧
      (net.link (someKey 1) true).serves (net.label (someKey 1) true event) = true)
    [.act false (.makeClientConnector (someKey 1) ⟨0, 1⟩), .deliver false true,
      .act true (.enableServerConnector (someKey 1) ⟨0, 1⟩), .deliver true false,
      .deliver false true, .deliver true false, .act false (.finishReply true)]
    (fun net => net.isQuiet && (decide ((net.endpoint false).replies = []) &&
      (decide (((net.endpoint false).records (someKey 1)).client = some (.application true)) &&
        ((net.endpoint true).records (someKey 1)).server.isSome))) (by decide +kernel)
  obtain ⟨hquiet, hreplies, hclient, hserver⟩ : net.Quiet ∧ (net.endpoint false).replies = [] ∧
      ((net.endpoint false).records (someKey 1)).client = some (.application true) ∧
      ((net.endpoint true).records (someKey 1)).server.isSome = true := by
    simpa [quiet_iff] using hp
  exact ⟨net, hquiet, hclient, hserver,
    connector_of_server _ (someKey 1) true net hreach hquiet hreplies hclient hserver⟩

/-- Both endpoints ask for the service, and each finds an application client at the
other. Then one of them gives up and provides the service. -/
theorem server_without_connector :
    ∃ net : Network Bool, Reach pairNext (fun _ event => event.staysConnected = true) pair net ∧
      net.Quiet ∧ (net.endpoint false).replies = [] ∧
      ((net.endpoint false).records (someKey 1)).client = some (.application true) ∧
      ((net.endpoint true).records (someKey 1)).client = none ∧
      ((net.endpoint true).records (someKey 1)).server.isSome = true ∧
      (net.endpoint false).binding.serviceStates.hasConnector (someKey 1) = false := by
  obtain ⟨net, hreach, hp⟩ := exists_reach_pair (fun _ event => event.staysConnected = true)
    [.act true (.makeClientConnector (someKey 1) ⟨0, 1⟩),
      .act false (.makeClientConnector (someKey 1) ⟨0, 1⟩), .deliver true false,
      .deliver false true, .act true (.destroyClientConnector (someKey 1)), .deliver true false,
      .act true (.enableServerConnector (someKey 1) ⟨0, 1⟩)]
    (fun net => net.isQuiet && (decide ((net.endpoint false).replies = []) &&
      (decide (((net.endpoint false).records (someKey 1)).client = some (.application true)) &&
        (((net.endpoint true).records (someKey 1)).client.isNone &&
          (((net.endpoint true).records (someKey 1)).server.isSome &&
            !(net.endpoint false).binding.serviceStates.hasConnector (someKey 1))))))
    (by decide +kernel)
  refine ⟨net, hreach, ?_⟩
  simpa [quiet_iff] using hp

end Network

end SomeipGateway
