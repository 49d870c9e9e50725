import SomeipGateway.Socom.Lifecycle

/-! # One server in a record

`make_server_connector` refuses an identifier that is known, minor version included,
while a record is shared by all minor versions. Two servers that differ in the minor
version only are both made, and each can take the place of the other in the record.
-/

namespace SomeipGateway

namespace Socom

namespace Runtime

variable {σ σ' : Runtime} {label : Label}

/-! ## Identifiers -/

def IdentifiersHeld (σ : Runtime) : Prop :=
  ∀ s, (σ.servers s).phase.IsAlive → (σ.servers s).key ∈ σ.identifiers

def IdentifiersUnique (σ : Runtime) : Prop :=
  ∀ s s', (σ.servers s).phase.IsAlive → (σ.servers s').phase.IsAlive →
    (σ.servers s).key = (σ.servers s').key → s = s'

theorem IdentifiersUnique.step (h : σ.IdentifiersUnique) (hheld : σ.IdentifiersHeld)
    (hstep : Step σ label σ') : σ'.IdentifiersUnique := by
  intro s s' hs hs' hkey
  rcases hstep.server_of_alive hs with ⟨halive, hsame⟩ | ⟨n, hlabel, hnew⟩
  · rcases hstep.server_of_alive hs' with ⟨halive', hsame'⟩ | ⟨n, -, hnew'⟩
    · exact h s s' halive halive' (by rw [← hsame, ← hsame', hkey])
    · exact absurd (hheld s halive) (by rwa [← hsame, hkey])
  · rcases hstep.server_of_alive hs' with ⟨halive', hsame'⟩ | ⟨n', hlabel', -⟩
    · exact absurd (hheld s' halive') (by rwa [← hsame', ← hkey])
    · rw [hlabel] at hlabel'
      cases hlabel'
      rfl

/-- An identifier is erased when its server is destroyed, and no other server has it. -/
theorem IdentifiersHeld.step (h : σ.IdentifiersHeld) (hunique : σ.IdentifiersUnique)
    (hstep : Step σ label σ') : σ'.IdentifiersHeld := by
  intro s hs
  by_cases halive : (σ.servers s).phase.IsAlive
  · rw [(hstep.server_key halive.1).2]
    rcases hstep.identifier (h s halive) with hkept | ⟨s', hkey, hphase, hdestroyed⟩
    · exact hkept
    · obtain rfl := hunique s' s (by simp [hphase, ServerPhase.IsAlive]) halive hkey
      exact absurd hdestroyed hs.2
  · cases hstep.server s with
    | make hphase hnew heq =>
        cases hstep with
        | knownIdentifier _ hknown => exact absurd hknown hnew
        | makeServerConnector => simp
    | _ => grind

theorem ReachableVia.identifiers {ok : Runtime → Label → Prop} (h : ReachableVia ok σ) :
    σ.IdentifiersHeld ∧ σ.IdentifiersUnique := by
  refine Reach.invariant (I := fun σ => σ.IdentifiersHeld ∧ σ.IdentifiersUnique) ?_ ?_ h
  · exact ⟨fun s hs => absurd rfl hs.1, fun s s' hs => absurd rfl hs.1⟩
  · intro σ label σ' hs _ hnext
    have hstep := Step.of_next hnext
    exact ⟨hs.1.step hs.2 hstep, hs.2.step hs.1 hstep⟩

/-! ## The place of the server -/

/-- A server that is enabled finds no registered server of its service that differs in
the minor version. -/
def oneMinorVersion (σ : Runtime) : Label → Bool
  | .enable s => !σ.servers.any fun _ server =>
      decide server.phase.IsRegistered && recordKey server.key = recordKey (σ.servers s).key &&
        server.key.service.minor ≠ (σ.servers s).key.service.minor
  | _ => true

theorem oneMinorVersion_enable {s : ServerId} :
    σ.oneMinorVersion (.enable s) = true ↔
      ∀ s', (σ.servers s').phase.IsRegistered →
        recordKey (σ.servers s').key = recordKey (σ.servers s).key →
        (σ.servers s').key.service.minor = (σ.servers s).key.service.minor := by
  rw [oneMinorVersion, Bool.not_eq_true', Store.any_eq_false (fun _ => rfl)]
  refine forall_congr' fun s' => ?_
  simp only [Bool.and_eq_false_iff, decide_eq_false_iff_not, ne_eq, Decidable.not_not]
  tauto

/-- A registered server is the one in its record. -/
def ServersRegistered (σ : Runtime) : Prop :=
  ∀ s, (σ.servers s).phase.IsRegistered →
    (σ.records (recordKey (σ.servers s).key)).server = some ⟨(σ.servers s).key.service, s⟩

/-- A server that is about to be enabled shares its record with no registered server. -/
theorem recordKey_ne_of_oneMinorVersion (hunique : σ.IdentifiersUnique) {s s' : ServerId}
    (hphase : (σ.servers s).phase = .disabled) (hok : σ.oneMinorVersion (.enable s) = true)
    (hs' : (σ.servers s').phase.IsRegistered) :
    recordKey (σ.servers s').key ≠ recordKey (σ.servers s).key := by
  intro hkey
  have hminor := oneMinorVersion_enable.1 hok s' hs' hkey
  have hsame := hunique s' s (by grind) (by grind) (eq_of_recordKey_eq hkey hminor)
  grind

theorem ServersRegistered.step (h : σ.ServersRegistered) (hunique : σ.IdentifiersUnique)
    (hok : σ.oneMinorVersion label = true) (hstep : Step σ label σ') : σ'.ServersRegistered := by
  intro s hs
  obtain ⟨hsame, hbefore⟩ := hstep.server_of_registered hs
  rw [hsame]
  rcases hbefore with hregistered | rfl
  · have hrecord := h s hregistered
    cases hstep.record (recordKey (σ.servers s).key) with
    | kept heq | make _ _ heq | unregister _ _ heq =>
        rw [heq]
        exact hrecord
    | @enable s' hkey heq =>
        cases hstep with
        | enable hphase =>
            exact absurd hkey.symm (recordKey_ne_of_oneMinorVersion hunique hphase hok hregistered)
    | @disable s' destroying hkey hphase heq =>
        -- the server that leaves the record is the one that is in it
        have hrecord' := h s' (.inr hphase)
        rw [hkey, hrecord] at hrecord'
        obtain rfl : s = s' := congrArg Interfaced.connector (Option.some.inj hrecord')
        cases hstep with
        | disable => simp [ServerPhase.IsRegistered] at hs
  · cases hstep with
    | enable => simp

theorem ReachableVia.serversRegistered
    (h : ReachableVia (fun σ label => σ.oneMinorVersion label = true) σ) :
    σ.ServersRegistered := by
  refine Reach.invariant_of_reach (I := ServersRegistered) (fun s hs => ?_) ?_ h
  · rcases hs with hs | hs <;> cases hs
  · intro σ label σ' hreach hs hok hnext
    exact hs.step (ReachableVia.identifiers hreach).2 hok (.of_next hnext)

/-- As long as no server is enabled next to a registered one of another minor version,
every server that is enabled finds its place free, and keeps it until it is disabled. -/
theorem server_finds_and_keeps_place
    (h : ReachableVia (fun σ label => σ.oneMinorVersion label = true) σ) (s : ServerId) :
    ((σ.servers s).phase = .disabled → σ.oneMinorVersion (.enable s) = true →
      (σ.records (recordKey (σ.servers s).key)).server = none) ∧
    ((σ.servers s).phase.IsRegistered →
      (σ.records (recordKey (σ.servers s).key)).server = some ⟨(σ.servers s).key.service, s⟩) := by
  refine ⟨fun hphase hok => ?_, h.serversRegistered s⟩
  cases hserver : (σ.records (recordKey (σ.servers s).key)).server with
  | none => rfl
  | some x =>
      obtain ⟨-, hkey, hx⟩ := h.ordered.serversRecorded _ x hserver
      exact absurd hkey (recordKey_ne_of_oneMinorVersion h.identifiers.2 hphase hok hx)

/-- A server is enabled again after a client came, and finds its place free. -/
theorem server_finds_and_keeps_place_again :
    ∃ σ : Runtime, (σ.servers 1).phase = .disabled ∧ (σ.servers 1).period = 1 ∧
      (σ.records (recordKey (σ.servers 1).key)).server = none := by
  obtain ⟨σ, hreach, hp⟩ := exists_reach_of_runFrom next
    (fun σ label => σ.oneMinorVersion label = true) {}
    [.makeServerConnector 1 (someKey 0) 1, .makeServerConnector 2 (someKey 1) 1, .enable 1,
      .enableReturns 1, .disable 1 false, .stopListening 1, .copyClient 1, .disableReturns 1]
    (fun σ => decide ((σ.servers 1).phase = .disabled) && (decide ((σ.servers 1).period = 1) &&
      σ.oneMinorVersion (.enable 1))) (by decide)
  simp only [Bool.and_eq_true, decide_eq_true_eq] at hp
  exact ⟨σ, hp.1, hp.2.1, (server_finds_and_keeps_place hreach 1).1 hp.1 hp.2.2⟩

/-- Servers of the minor versions 0 and 1 are made, and the first one is enabled. -/
def twoMinorVersions : List Label :=
  [.makeServerConnector 1 (someKey 0) 1, .makeServerConnector 2 (someKey 1) 1, .enable 1,
    .enableReturns 1]

/-- The second server is enabled while the place is taken, and when it is disabled, the
first one is enabled and in no record. -/
theorem server_loses_place_to_other_minor_version :
    (∃ σ, ReachableVia (fun _ _ => True) σ ∧ (σ.servers 2).phase = .disabled ∧
      (σ.records (recordKey (σ.servers 2).key)).server ≠ none) ∧
    ∃ σ, ReachableVia (fun _ _ => True) σ ∧ (σ.servers 1).phase = .enabled ∧
      (σ.records (recordKey (σ.servers 1).key)).server = none := by
  obtain ⟨σ, hreach, hp⟩ := exists_reach_of_runFrom next (fun _ _ => True) {} twoMinorVersions
    (fun σ => decide ((σ.servers 2).phase = .disabled ∧
      (σ.records (recordKey (σ.servers 2).key)).server ≠ none)) (by decide)
  obtain ⟨σ', hreach', hp'⟩ := exists_reach_of_runFrom next (fun _ _ => True) {}
    (twoMinorVersions.append [.enable 2, .enableReturns 2, .disable 2 false])
    (fun σ => decide ((σ.servers 1).phase = .enabled ∧
      (σ.records (recordKey (σ.servers 1).key)).server = none)) (by decide)
  exact ⟨⟨σ, hreach, of_decide_eq_true hp⟩, σ', hreach', of_decide_eq_true hp'⟩

end Runtime

end Socom

end SomeipGateway
