import Mathlib.Algebra.BigOperators.Group.Finset.Piecewise
import Mathlib.Algebra.Order.BigOperators.Group.Finset
import SomeipGateway.Endpoint.Payloads
import SomeipGateway.Network.Basic

/-! # Slots return to their provider

What a consumer owes for a slot of a provider: the Event_updates on their way to
it, the payload objects it holds and the acknowledgements on their way back. The
allocation table of the provider waits for no more consumers than its connected
peers owe, provided that every Event_update makes a payload object, every
acknowledgement resolves to the slot and no connection is lost while something is
owed.
-/

namespace SomeipGateway

variable {ι : Type} [DecidableEq ι]

def updatesIn (slot : Slot ι) (packets : List Packet) : Nat :=
  packets.countP fun packet => slot.isUpdate packet.about packet.msg

def acksIn (slot : Slot ι) (packets : List Packet) : Nat :=
  packets.countP fun packet => slot.isAck packet.about packet.msg

variable {slot : Slot ι} {out : List (Effect ι)}

omit [DecidableEq ι] in
@[simp] theorem updatesIn_append (ps qs : List Packet) :
    updatesIn slot (ps ++ qs) = updatesIn slot ps + updatesIn slot qs :=
  List.countP_append

omit [DecidableEq ι] in
@[simp] theorem acksIn_append (ps qs : List Packet) :
    acksIn slot (ps ++ qs) = acksIn slot ps + acksIn slot qs :=
  List.countP_append

theorem acksIn_sendsTo :
    acksIn slot (sendsTo slot.provider out) = (out.map (Effect.acknowledges slot)).sum := by
  induction out with
  | nil => rfl
  | cons e rest ih =>
      have hsplit : sendsTo slot.provider (e :: rest) =
          sendsTo slot.provider [e] ++ sendsTo slot.provider rest := sendsTo_append _ [e] rest
      rw [hsplit, acksIn_append, ih, List.map_cons, List.sum_cons, Nat.add_right_cancel_iff]
      cases e with
      | send client about msg ok =>
          cases ok with
          | false => rfl
          | true =>
              by_cases hclient : client = slot.provider
              · by_cases hack : slot.isAck about msg = true <;>
                  simp [sendsTo, acksIn, Effect.acknowledges, hclient, hack]
              · simp [sendsTo, acksIn, Effect.acknowledges, hclient]
      | _ => rfl

/-- Every Event_update is on its way to one of the connected peers. -/
theorem sum_updatesIn_sendsTo {clients : List ι} (h : ∀ e ∈ out, e.reaches clients) :
    ∑ y ∈ clients.toFinset, updatesIn slot (sendsTo y out) =
      (out.map (Effect.updates slot)).sum := by
  induction out with
  | nil => simp [sendsTo, updatesIn]
  | cons e rest ih =>
      have hsplit : ∀ y, sendsTo y (e :: rest) = sendsTo y [e] ++ sendsTo y rest :=
        fun y => sendsTo_append y [e] rest
      simp only [hsplit, updatesIn_append, Finset.sum_add_distrib, List.map_cons, List.sum_cons]
      rw [ih fun e he => h e (List.mem_cons_of_mem _ he), Nat.add_right_cancel_iff]
      have he := h e List.mem_cons_self
      cases e with
      | send client about msg ok =>
          cases ok with
          | false => simp [sendsTo, updatesIn, Effect.updates]
          | true =>
              cases hupdate : slot.isUpdate about msg with
              | false =>
                  refine (Finset.sum_eq_zero fun y _ => ?_).trans (by simp [Effect.updates, hupdate])
                  by_cases hy : client = y <;> simp [sendsTo, updatesIn, hy, hupdate]
              | true =>
                  have hclient : client ∈ clients := by
                    cases msg <;> first | exact he | cases hupdate
                  have hterm : ∀ y, updatesIn slot (sendsTo y [.send client about msg true]) =
                      if y = client then 1 else 0 := by
                    intro y
                    by_cases hy : client = y
                    · simp [sendsTo, updatesIn, hy, hupdate]
                    · simp [sendsTo, updatesIn, hy, Ne.symm hy]
                  rw [Finset.sum_congr rfl fun y _ => hterm y, Finset.sum_ite_eq',
                    if_pos (List.mem_toFinset.2 hclient)]
                  simp [Effect.updates, hupdate]
      | _ => simp [sendsTo, updatesIn, Effect.updates]

namespace Network

def conns (net : Network ι) (x : ι) : List ι :=
  (net.endpoint x).binding.connections

/-- What the peer owes the provider for the slot. -/
def owed (net : Network ι) (slot : Slot ι) (y : ι) : Nat :=
  updatesIn slot (net.channel slot.provider y) + (net.endpoint y).views slot +
    acksIn slot (net.channel y slot.provider)

/-- The step loses nothing that is owed for the slot. -/
def keepsCount (slot : Slot ι) (net : Network ι) : NetworkEvent ι → Bool
  | .act _ _ => true
  | .deliver x y =>
      (net.channel x y).head?.all fun packet =>
        (!(x = slot.provider && slot.isUpdate packet.about packet.msg) ||
          (net.endpoint y).accepts slot (.receive x packet.msg)) &&
        (!(y = slot.provider && slot.isAck packet.about packet.msg) ||
          (net.endpoint y).settles slot (.receive x packet.msg))
  | .disconnect x y =>
      (!(x = slot.provider) || net.owed slot y = 0) && (!(y = slot.provider) || net.owed slot x = 0)

structure Accounted (slot : Slot ι) (net : Network ι) : Prop where
  paired : ∀ y ∈ net.conns slot.provider, slot.provider ∈ net.conns y
  self : slot.provider ∉ net.conns slot.provider
  nodup : (net.conns slot.provider).Nodup
  pending_le : (net.endpoint slot.provider).pending slot ≤
    ∑ y ∈ (net.conns slot.provider).toFinset, net.owed slot y

variable {net : Network ι} {metadata : ι → Key → Option SharedMemoryMetadata}

variable {x y w : ι} {r : Endpoint ι × List (Effect ι)} {packet : Packet} {rest : List Packet}

/-- A step of another endpoint changes nothing that the peer owes. -/
theorem owed_update_of_ne (hx : x ≠ slot.provider) (hw : w ≠ x) :
    (net.update x r).owed slot w = net.owed slot w := by
  simp [owed, hx.symm, hw]

theorem owed_update_self (hx : x ≠ slot.provider) :
    (net.update x r).owed slot x =
      updatesIn slot (net.channel slot.provider x) + r.1.views slot +
        (acksIn slot (net.channel x slot.provider) +
          (r.2.map (Effect.acknowledges slot)).sum) := by
  simp [owed, hx.symm, acksIn_sendsTo]

theorem owed_update_provider (hw : w ≠ slot.provider) :
    (net.update slot.provider r).owed slot w =
      net.owed slot w + updatesIn slot (sendsTo w r.2) := by
  simp only [owed, channel_update, endpoint_update, if_true, if_neg hw, updatesIn_append,
    List.append_nil]
  omega

/-- A delivery takes the packet off what its sender or its receiver owes. -/
theorem owed_take (hchannel : net.channel x y = packet :: rest) :
    net.owed slot w = (net.take x y packet rest).owed slot w +
      (if x = slot.provider ∧ w = y ∧ slot.isUpdate packet.about packet.msg then 1 else 0) +
      (if y = slot.provider ∧ w = x ∧ slot.isAck packet.about packet.msg then 1 else 0) := by
  have hupdates : updatesIn slot (net.channel slot.provider w) =
      updatesIn slot ((net.take x y packet rest).channel slot.provider w) +
        if x = slot.provider ∧ w = y ∧ slot.isUpdate packet.about packet.msg then 1 else 0 := by
    rw [channel_take]
    by_cases hxy : slot.provider = x ∧ w = y
    · obtain ⟨rfl, rfl⟩ := hxy
      simp [hchannel, updatesIn, List.countP_cons]
    · have hnot : ¬ (x = slot.provider ∧ w = y ∧ slot.isUpdate packet.about packet.msg) :=
        fun hall => hxy ⟨hall.1.symm, hall.2.1⟩
      rw [if_neg hxy, if_neg hnot, Nat.add_zero]
  have hacks : acksIn slot (net.channel w slot.provider) =
      acksIn slot ((net.take x y packet rest).channel w slot.provider) +
        if y = slot.provider ∧ w = x ∧ slot.isAck packet.about packet.msg then 1 else 0 := by
    rw [channel_take]
    by_cases hxy : w = x ∧ slot.provider = y
    · obtain ⟨rfl, rfl⟩ := hxy
      simp [hchannel, acksIn, List.countP_cons]
    · have hnot : ¬ (y = slot.provider ∧ w = x ∧ slot.isAck packet.about packet.msg) :=
        fun hall => hxy ⟨hall.2.1, hall.1.symm⟩
      rw [if_neg hxy, if_neg hnot, Nat.add_zero]
  simp only [owed, endpoint_take, hupdates, hacks]
  omega

/-- The provider waits for as many more consumers as it tells of the slot. -/
theorem sum_owed_provider (net : Network ι) (hself : slot.provider ∉ r.1.binding.connections)
    (hreaches : ∀ e ∈ r.2, e.reaches r.1.binding.connections) :
    ∑ w ∈ r.1.binding.connections.toFinset, (net.update slot.provider r).owed slot w =
      ∑ w ∈ r.1.binding.connections.toFinset, net.owed slot w +
        (r.2.map (Effect.updates slot)).sum := by
  rw [← sum_updatesIn_sendsTo hreaches, ← Finset.sum_add_distrib]
  refine Finset.sum_congr rfl fun w hw => owed_update_provider ?_
  rintro rfl
  exact hself (List.mem_toFinset.1 hw)

namespace Accounted

variable {net₀ : Network ι} {event : Event ι}

/-- A step of the provider, after a packet may have been taken off a channel. -/
theorem provider_step (h : Accounted slot net) (hbase : net₀.endpoint = net.endpoint)
    (hstep : (net.endpoint slot.provider).step (env (metadata slot.provider)) event = some r)
    (hsub : r.1.binding.connections ⊆ net.conns slot.provider)
    (hnodup : r.1.binding.connections.Nodup)
    (hle : (net.endpoint slot.provider).pending slot -
        (if (net.endpoint slot.provider).settles slot event then 1 else 0) ≤
      ∑ w ∈ r.1.binding.connections.toFinset, net₀.owed slot w) :
    Accounted slot (net₀.update slot.provider r) := by
  have hself : slot.provider ∉ r.1.binding.connections := fun hmem => h.self (hsub hmem)
  have hconns : (net₀.update slot.provider r).conns slot.provider = r.1.binding.connections := by
    simp [conns]
  refine ⟨fun y hy => ?_, hconns ▸ hself, hconns ▸ hnodup, ?_⟩
  · rw [hconns] at hy
    have hne : y ≠ slot.provider := by
      rintro rfl
      exact hself hy
    have hpaired := h.paired y (hsub hy)
    simpa [conns, hne, hbase] using hpaired
  · have hpending := Endpoint.pending_step slot (env_link _) hstep
    rw [hconns, sum_owed_provider net₀ hself (Endpoint.reaches_step hstep), endpoint_update,
      if_pos rfl, hpending]
    omega

/-- A step of a peer that keeps what it owes or takes more on. -/
theorem consumer_step (h : Accounted slot net) (hbase : net₀.endpoint = net.endpoint)
    (hx : x ≠ slot.provider)
    (hstep : (net.endpoint x).step (env (metadata x)) event = some r)
    (hpaired : x ∈ net.conns slot.provider → ∀ m effects,
      (net.endpoint x).act (env (metadata x)) event = some (m, effects) →
      slot.provider ∈ m.binding.connections)
    (hother : ∀ w ∈ net.conns slot.provider, w ≠ x → net.owed slot w ≤ net₀.owed slot w)
    (hself : x ∈ net.conns slot.provider →
      net.owed slot x ≤
        net₀.owed slot x + if (net.endpoint x).accepts slot event then 1 else 0) :
    Accounted slot (net₀.update x r) := by
  have hconns : (net₀.update x r).conns slot.provider = net.conns slot.provider := by
    simp [conns, hx.symm, hbase]
  refine ⟨fun y hy => ?_, hconns ▸ h.self, hconns ▸ h.nodup, ?_⟩
  · rw [hconns] at hy
    by_cases hyx : y = x
    · subst hyx
      obtain ⟨m, effects, hact, hperform⟩ := Endpoint.step_eq_some.1 hstep
      have hmem := hpaired hy m effects hact
      rw [← Endpoint.connections_perform hperform] at hmem
      simpa [conns] using hmem
    · have hkept := h.paired y hy
      simpa [conns, hyx, hbase] using hkept
  · rw [hconns, endpoint_update, if_neg hx.symm, hbase]
    refine h.pending_le.trans (Finset.sum_le_sum fun w hw => ?_)
    replace hw := List.mem_toFinset.1 hw
    by_cases hwx : w = x
    · subst hwx
      have hviews := Endpoint.views_step slot (env_link _) (hpaired hw) hstep
      have howed := hself hw
      rw [owed_update_self hx]
      simp only [owed, hbase] at howed ⊢
      omega
    · rw [owed_update_of_ne hx hwx]
      exact hother w hw hwx

theorem act (h : Accounted slot net) (hlocal : event.isLocal = true)
    (hstep : (net.endpoint x).step (env (metadata x)) event = some r) :
    Accounted slot (net.update x r) := by
  have hkeeps : event.keepsConnections = true := by cases event <;> first | rfl | cases hlocal
  by_cases hx : x = slot.provider
  · subst hx
    have hconns : r.1.binding.connections = net.conns slot.provider :=
      Endpoint.connections_step hkeeps hstep
    exact h.provider_step rfl hstep (fun _ hmem => hconns ▸ hmem) (hconns ▸ h.nodup)
      ((Nat.sub_le _ _).trans (hconns ▸ h.pending_le))
  · refine h.consumer_step rfl hx hstep (fun hmem m effects hact => ?_) (fun _ _ _ => le_rfl)
      fun _ => Nat.le_add_right _ _
    rw [Endpoint.connections_act hkeeps hact]
    exact h.paired x hmem

theorem deliver (h : Accounted slot net) (hxy : x ≠ y)
    (hok : net.keepsCount slot (.deliver x y) = true)
    (hchannel : net.channel x y = packet :: rest)
    (hstep : (net.endpoint y).step (env (metadata y)) (.receive x packet.msg) = some r) :
    Accounted slot ((net.take x y packet rest).update y r) := by
  simp only [keepsCount, hchannel, List.head?_cons, Option.all_some, Bool.and_eq_true,
    Bool.or_eq_true, Bool.not_eq_true', Bool.and_eq_false_iff, decide_eq_false_iff_not] at hok
  obtain ⟨haccepts, hsettles⟩ := hok
  by_cases hy : y = slot.provider
  · subst hy
    have hconns : r.1.binding.connections = net.conns slot.provider := Endpoint.connections_step rfl hstep
    refine h.provider_step rfl hstep (fun _ hmem => hconns ▸ hmem) (hconns ▸ h.nodup) ?_
    rw [hconns]
    have hle := h.pending_le
    cases hack : slot.isAck packet.about packet.msg with
    | false =>
        have hsame : ∀ w, net.owed slot w = (net.take x slot.provider packet rest).owed slot w :=
          fun w => by rw [owed_take hchannel]; simp [hxy, hack]
        simp only [hsame] at hle
        exact (Nat.sub_le _ _).trans hle
    | true =>
        have hsettled : (net.endpoint slot.provider).settles slot (.receive x packet.msg) = true := by
          simpa [hack] using hsettles
        have hone : ∀ w, net.owed slot w = (net.take x slot.provider packet rest).owed slot w +
            if w = x then 1 else 0 := fun w => by rw [owed_take hchannel]; simp [hxy, hack]
        have hat : (if x ∈ (net.conns slot.provider).toFinset then 1 else 0) ≤ 1 := by
          split <;> omega
        simp only [hone, Finset.sum_add_distrib, Finset.sum_ite_eq'] at hle
        rw [if_pos hsettled]
        omega
  · refine h.consumer_step rfl hy hstep (fun hmem m effects hact => ?_) (fun w _ hne => ?_)
      fun _ => ?_
    · rw [Endpoint.connections_act rfl hact]
      exact h.paired y hmem
    · rw [owed_take hchannel]
      simp [hne, hy]
    · rw [owed_take hchannel]
      cases hupdate : slot.isUpdate packet.about packet.msg with
      | false => simp [hy]
      | true =>
          by_cases hx : x = slot.provider
          · have haccepted : (net.endpoint y).accepts slot (.receive x packet.msg) = true := by
              simpa [hx, hupdate] using haccepts
            rw [haccepted]
            simp [hx, hy]
          · simp [hx, hy]

/-- Emptying the channels between two peers loses nothing that is owed. -/
theorem clear (h : Accounted slot net) (hok : net.keepsCount slot (.disconnect x y) = true) :
    Accounted slot ((net.clear x y).clear y x) ∧
      (x = slot.provider → ((net.clear x y).clear y x).owed slot y = 0) ∧
      (y = slot.provider → ((net.clear x y).clear y x).owed slot x = 0) := by
  simp only [keepsCount, Bool.and_eq_true, Bool.or_eq_true, Bool.not_eq_true',
    decide_eq_false_iff_not, decide_eq_true_eq, ← imp_iff_not_or] at hok
  have hchannel : ∀ a b, ((net.clear x y).clear y x).channel a b =
      if a = y ∧ b = x ∨ a = x ∧ b = y then [] else net.channel a b := by
    intro a b
    simp only [channel_clear, ite_or]
  have hle : ∀ w, ((net.clear x y).clear y x).owed slot w ≤ net.owed slot w := by
    intro w
    have hupdates : updatesIn slot (((net.clear x y).clear y x).channel slot.provider w) ≤
        updatesIn slot (net.channel slot.provider w) := by
      rw [hchannel]
      split <;> simp [updatesIn]
    have hacks : acksIn slot (((net.clear x y).clear y x).channel w slot.provider) ≤
        acksIn slot (net.channel w slot.provider) := by
      rw [hchannel]
      split <;> simp [acksIn]
    simp only [owed, endpoint_clear]
    omega
  have hge : ∀ w, net.owed slot w ≤ ((net.clear x y).clear y x).owed slot w := by
    intro w
    by_cases hx : x = slot.provider ∧ w = y
    · rw [hx.2, hok.1 hx.1]
      exact Nat.zero_le _
    · by_cases hy : y = slot.provider ∧ w = x
      · rw [hy.2, hok.2 hy.1]
        exact Nat.zero_le _
      · have hto : ¬ (slot.provider = y ∧ w = x ∨ slot.provider = x ∧ w = y) := by
          rintro (⟨h₁, h₂⟩ | ⟨h₁, h₂⟩)
          · exact hy ⟨h₁.symm, h₂⟩
          · exact hx ⟨h₁.symm, h₂⟩
        have hback : ¬ (w = y ∧ slot.provider = x ∨ w = x ∧ slot.provider = y) := by
          rintro (⟨h₁, h₂⟩ | ⟨h₁, h₂⟩)
          · exact hx ⟨h₂.symm, h₁⟩
          · exact hy ⟨h₂.symm, h₁⟩
        simp only [owed, hchannel, if_neg hto, if_neg hback, endpoint_clear, le_refl]
  refine ⟨⟨h.paired, h.self, h.nodup, ?_⟩, fun hx => ?_, fun hy => ?_⟩
  · exact h.pending_le.trans (Finset.sum_le_sum fun w _ => hge w)
  · exact Nat.le_zero.1 ((hle y).trans (hok.1 hx).le)
  · exact Nat.le_zero.1 ((hle x).trans (hok.2 hy).le)

/-- The provider drops a peer that owes nothing. -/
theorem provider_remove (h : Accounted slot net)
    (howed : y ∈ net.conns slot.provider → net.owed slot y = 0)
    (hstep : (net.endpoint slot.provider).step (env (metadata slot.provider)) (.removeClient y) =
      some r) : Accounted slot (net.update slot.provider r) := by
  have hconns : r.1.binding.connections = (net.conns slot.provider).erase y := by
    obtain ⟨m, effects, hact, hperform⟩ := Endpoint.step_eq_some.1 hstep
    cases hact
    exact Endpoint.connections_perform hperform
  refine h.provider_step rfl hstep (fun w hw => ?_) (hconns ▸ h.nodup.erase y) ?_
  · rw [hconns] at hw
    exact List.mem_of_mem_erase hw
  · have hset : r.1.binding.connections.toFinset =
        (net.conns slot.provider).toFinset.erase y := by
      ext w
      rw [hconns, List.mem_toFinset, Finset.mem_erase, List.mem_toFinset, h.nodup.mem_erase_iff]
    refine (Nat.sub_le _ _).trans (h.pending_le.trans_eq ?_)
    rw [hset]
    by_cases hmem : y ∈ net.conns slot.provider
    · rw [Finset.sum_erase _ (howed hmem)]
    · rw [Finset.erase_eq_of_notMem (by simpa using hmem)]

theorem consumer_remove (h : Accounted slot net) (hx : x ≠ slot.provider) (hy : y ≠ slot.provider)
    (hstep : (net.endpoint x).step (env (metadata x)) (.removeClient y) = some r) :
    Accounted slot (net.update x r) := by
  refine h.consumer_step rfl hx hstep (fun hmem m effects hact => ?_) (fun _ _ _ => le_rfl)
    fun _ => Nat.le_add_right _ _
  cases hact
  exact (List.mem_erase_of_ne hy.symm).2 (h.paired x hmem)

theorem bystander (h : Accounted slot net) (hx : x ≠ slot.provider)
    (hmem : x ∉ net.conns slot.provider)
    (hstep : (net.endpoint x).step (env (metadata x)) event = some r) :
    Accounted slot (net.update x r) :=
  h.consumer_step rfl hx hstep (fun hx' => absurd hx' hmem) (fun _ _ _ => le_rfl)
    fun hx' => absurd hx' hmem

theorem disconnect (h : Accounted slot net) {net' : Network ι}
    (hok : net.keepsCount slot (.disconnect x y) = true)
    (hnext : net.next metadata (.disconnect x y) = some net') : Accounted slot net' := by
  simp only [next, Option.bind_eq_bind, Option.bind_eq_some_iff, Option.some.injEq] at hnext
  obtain ⟨r, hr, r', hr', rfl⟩ := hnext
  obtain ⟨hclear, hfirst, hsecond⟩ := h.clear hok
  have hgone : ∀ {z : ι} {net : Network ι} {s : Endpoint ι × List (Effect ι)},
      Accounted slot net →
      (net.endpoint slot.provider).step (env (metadata slot.provider)) (.removeClient z) = some s →
      z ∉ (net.update slot.provider s).conns slot.provider := by
    intro z net s h hstep
    obtain ⟨m, effects, hact, hperform⟩ := Endpoint.step_eq_some.1 hstep
    cases hact
    have hconns := Endpoint.connections_perform hperform
    simp only [conns, endpoint_update, if_true, hconns]
    exact fun hmem => (h.nodup.mem_erase_iff.1 hmem).1 rfl
  by_cases hx : x = slot.provider
  · subst hx
    have hdropped := hclear.provider_remove (fun _ => hfirst rfl) hr
    by_cases hy : y = slot.provider
    · subst hy
      exact hdropped.provider_remove (fun hmem => absurd hmem hdropped.self) hr'
    · exact hdropped.bystander hy (hgone hclear hr) hr'
  · by_cases hy : y = slot.provider
    · subst hy
      have hr₂ : (((net.clear x slot.provider).clear slot.provider x).endpoint slot.provider).step
          (env (metadata slot.provider)) (.removeClient x) = some r' := by
        simpa [Ne.symm hx] using hr'
      rw [update_comm _ hx]
      have hdropped := hclear.provider_remove (fun _ => hsecond rfl) hr₂
      exact hdropped.bystander hx (hgone hclear hr₂) (by simpa [hx] using hr)
    · exact (hclear.consumer_remove hx hy hr).consumer_remove hy hx hr'

theorem next (h : Accounted slot net) {event : NetworkEvent ι} {net' : Network ι}
    (hok : net.keepsCount slot event = true) (hnext : net.next metadata event = some net') :
    Accounted slot net' := by
  obtain ⟨x, e, r, rfl, hlocal, hstep, rfl⟩ |
      ⟨x, y, packet, rest, r, rfl, hxy, hchannel, hstep, rfl⟩ | ⟨x, y, rfl⟩ := next_cases hnext
  · exact h.act hlocal hstep
  · exact h.deliver hxy hok hchannel hstep
  · exact h.disconnect hok hnext

end Accounted

/-! ## Slots are free again -/

/-- Neither a payload nor a consumer is recorded for the slot. -/
def slotFree (net : Network ι) (slot : Slot ι) : Prop :=
  ∀ allocations allocation,
    (net.endpoint slot.provider).binding.allocations.lookup slot.key = some allocations →
    allocations[slot.index]? = some allocation → allocation = {}

/-- With nothing in flight and no payload object at a connected peer, the slot is
free, whoever else comes and goes. -/
theorem slotFree_of_keepsCount (metadata : ι → Key → Option SharedMemoryMetadata)
    (peers : ι → List ι) (slot : Slot ι)
    (hself : slot.provider ∉ peers slot.provider) (hnodup : (peers slot.provider).Nodup)
    (hpaired : ∀ y ∈ peers slot.provider, slot.provider ∈ peers y) (net : Network ι)
    (hreach : Reach (Network.next metadata) (fun net event => net.keepsCount slot event = true)
      (joined peers) net)
    (hquiet : net.Quiet)
    (hviews : ∀ y ∈ net.conns slot.provider, (net.endpoint y).views slot = 0) :
    net.slotFree slot := by
  have haccounted : Accounted slot net := by
    refine Reach.invariant ?_ (fun _ _ _ h hok hnext => h.next hok hnext) hreach
    exact ⟨hpaired, hself, hnodup, Nat.zero_le _⟩
  have hpending : (net.endpoint slot.provider).pending slot = 0 := by
    refine Nat.le_zero.1 (haccounted.pending_le.trans_eq (Finset.sum_eq_zero fun y hy => ?_))
    rw [owed, hquiet, hquiet, hviews y (List.mem_toFinset.1 hy)]
    rfl
  have htidy : ∀ x, (net.endpoint x).binding.allocations.Tidy := by
    refine Reach.invariant (I := fun net => ∀ x, (net.endpoint x).binding.allocations.Tidy)
      (fun x key allocations hlookup => by cases hlookup) ?_ hreach
    exact fun _ _ _ h _ hnext => binding_next Endpoint.tidy_sections h hnext
  intro allocations allocation hlookup hindex
  refine htidy slot.provider slot.key allocations hlookup allocation
    (List.mem_of_getElem? hindex) ?_
  simpa [Endpoint.pending, Allocations.pending, hlookup, hindex] using hpending

open Endpoint (someKey) in
/-- An event is sent, handled and dropped again. -/
theorem slotFree_of_keepsCount_run :
    ∃ net : Network Bool, net.Quiet ∧
      ((net.endpoint true).binding.allocations.lookup (someKey 1)).isSome = true ∧
      net.slotFree ⟨true, someKey 1, 0⟩ := by
  obtain ⟨net, hreach, hp⟩ := exists_reach_pair
    (fun net event => net.keepsCount ⟨true, someKey 1, 0⟩ event = true)
    [.act true (.enableServerConnector (someKey 1) ⟨0, 1⟩),
      .act false (.makeClientConnector (someKey 1) ⟨0, 1⟩), .deliver false true,
      .deliver true false, .deliver false true, .deliver true false,
      .act false (.finishReply true), .act false (.subscribeEvent (someKey 1) 0),
      .deliver false true, .act true (.updateEvent (someKey 1) 0 0 1), .deliver true false,
      .act false (.dropPayload 0), .deliver false true]
    (fun net => net.isQuiet &&
      (((net.endpoint true).binding.allocations.lookup (someKey 1)).isSome &&
        (net.endpoint false).views ⟨true, someKey 1, 0⟩ == 0 &&
        decide (net.conns true = [false]))) (by decide +kernel)
  obtain ⟨hquiet, ⟨hallocated, hviews⟩, hconns⟩ : net.Quiet ∧
      (((net.endpoint true).binding.allocations.lookup (someKey 1)).isSome = true ∧
        (net.endpoint false).views ⟨true, someKey 1, 0⟩ = 0) ∧ net.conns true = [false] := by
    simpa [quiet_iff] using hp
  refine ⟨net, hquiet, hallocated, slotFree_of_keepsCount _ _ ⟨true, someKey 1, 0⟩ (by decide)
    (by decide) (by decide) net hreach hquiet fun y hy => ?_⟩
  have hy' : y = false := by simpa [hconns] using hy
  rw [hy']
  exact hviews

open Endpoint (someKey) in
/-- The service goes away between an Event_update and its acknowledgement, which
then resolves to no mapping. -/
theorem slot_never_released :
    ∃ net : Network Bool, Reach pairNext (fun _ _ => True) pair net ∧ net.Quiet ∧
      (net.endpoint false).payloads = [] ∧ (net.endpoint false).binding.allocations.entries = [] ∧
      ¬ net.slotFree ⟨true, someKey 1, 0⟩ := by
  obtain ⟨net, hreach, hp⟩ := exists_reach_pair (fun _ _ => True)
    [.act true (.enableServerConnector (someKey 1) ⟨0, 1⟩),
      .act false (.makeClientConnector (someKey 1) ⟨0, 1⟩), .deliver false true,
      .deliver true false, .deliver false true, .deliver true false,
      .act false (.finishReply true), .act false (.subscribeEvent (someKey 1) 0),
      .deliver false true, .act true (.updateEvent (someKey 1) 0 0 1),
      .act true (.disableServerConnector (someKey 1)), .deliver true false, .deliver true false,
      .act false (.dropPayload 0), .deliver false true]
    (fun net => net.isQuiet && ((net.endpoint false).payloads.isEmpty &&
      ((net.endpoint false).binding.allocations.entries.isEmpty &&
        decide ((net.endpoint true).binding.allocations.lookup (someKey 1) =
          some [⟨some ⟨0, 1, none⟩, 1⟩])))) (by decide +kernel)
  obtain ⟨hquiet, hpayloads, hentries, hkept⟩ : net.Quiet ∧ (net.endpoint false).payloads = [] ∧
      (net.endpoint false).binding.allocations.entries = [] ∧
      (net.endpoint true).binding.allocations.lookup (someKey 1) =
        some [⟨some ⟨0, 1, none⟩, 1⟩] := by
    simpa [quiet_iff] using hp
  refine ⟨net, hreach, hquiet, hpayloads, hentries, fun hfree => ?_⟩
  have hempty := hfree _ _ hkept rfl
  cases hempty

end Network

end SomeipGateway
