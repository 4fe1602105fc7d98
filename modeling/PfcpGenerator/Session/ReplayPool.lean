import PfcpGenerator.Session.IpPoolScan
import PfcpGenerator.Session.Replay

/-!
# The UE pool along a replay

The manager (`internal/session/manager.go`) changes its UE pool only through
`UEIPPool.Allocate`, in `handleSessionEstablishment`, and `UEIPPool.Release`, in
`handleSessionDeletion`, and gives a new session the address an `Allocate` handed out. So the
pool of every manager `Replay` and `CleanupSessions` reach is one `UEIPPool.Reachable`
describes, on the block the manager was built with, and the scan of `PfcpGenerator.Session.IpPoolScan`
applies to every allocation of a replay.

## Main results

* `session_ueIPs_in_block`: in every state `Replay` and `CleanupSessions` reach, the UE pool is
  reachable from `NewUEIPPool` on its block, and where the block's prefix length is between `1`
  and `31` every session's UE IP is an address of the block other than the network address.
-/

namespace PfcpGenerator

namespace UEIPPool

/-- What one call of the manager does to its UE pool: nothing, one `Allocate` or one `Release`. -/
def Step (p p' : UEIPPool) : Prop := p' = p ∨ p' = p.allocate.2 ∨ ∃ ip, p' = p.release ip

theorem allocate_snd_cidr (p : UEIPPool) : p.allocate.2.cidr = p.cidr := by
  rw [allocate_snd]

theorem Step.cidr_eq {p p' : UEIPPool} (h : Step p p') : p'.cidr = p.cidr := by
  rcases h with rfl | rfl | ⟨ip, rfl⟩
  · rfl
  · exact p.allocate_snd_cidr
  · rfl

theorem Step.reachable {c : CIDR4} {p p' : UEIPPool} (h : Step p p') (hp : Reachable c p) :
    Reachable c p' := by
  rcases h with rfl | rfl | ⟨ip, rfl⟩
  · exact hp
  · exact hp.allocate
  · exact hp.release ip

end UEIPPool

namespace Manager

variable (m : Manager) (codec : Codec) (o : Outside)

/-! ## What one call does to the pool -/

theorem step_request {what failure : String} {modify : UInt32 → Except String Message}
    {onSuccess : Manager → Manager}
    (h : ∀ m' : Manager, UEIPPool.Step m'.ipPool (onSuccess m').ipPool) :
    UEIPPool.Step m.ipPool (m.request codec o what failure modify onSuccess).manager.ipPool := by
  rcases m.request_cases codec o what failure modify onSuccess with ⟨-, hm⟩ | ⟨-, hm⟩ <;> rw [hm]
  · exact .inl rfl
  · exact h _

theorem step_handleSessionEstablishment (msg : Message) :
    UEIPPool.Step m.ipPool (m.handleSessionEstablishment codec o msg).manager.ipPool := by
  unfold handleSessionEstablishment
  split
  · dsimp only
    rcases m.seidAlloc.allocate o.draws with ⟨_ | l, a⟩
    · exact .inl rfl
    · rcases hp : m.ipPool.allocate with ⟨_ | ip, p⟩
      · exact .inr (.inl (by rw [hp]))
      · dsimp only
        repeat' split
        all_goals exact .inr (.inl (by simp [setState, setEstablished, hp]))
  · exact .inl rfl

/-- A call of `processMessage` changes the pool by at most one `Allocate` or one `Release`. -/
theorem step_processMessage (msg : Message) :
    UEIPPool.Step m.ipPool (m.processMessage codec o msg).manager.ipPool := by
  have hid : ∀ m' : Manager, UEIPPool.Step m'.ipPool (id m').ipPool := fun _ => .inl rfl
  unfold processMessage
  split_ifs
  · unfold handleAssociationSetup
    split
    · exact .inl rfl
    · split
      · exact m.step_request codec o hid
      · exact .inl rfl
  · exact m.step_handleSessionEstablishment codec o msg
  · unfold handleSessionModification
    split
    · split
      · exact .inl rfl
      · exact m.step_request codec o hid
    · exact .inl rfl
  · -- a deletion releases the UE IP of its session
    unfold handleSessionDeletion
    split
    · split
      · exact .inl rfl
      · next i _ => exact m.step_request codec o fun m' => .inr (.inr ⟨(m'.session i).ueIP, rfl⟩)
    · exact .inl rfl
  · unfold handleHeartbeat
    split
    · exact m.step_request codec o hid
    · exact .inl rfl
  · exact .inl rfl

theorem ipPool_cleanupSession (i : ℕ) : (m.cleanupSession codec o i).1.ipPool = m.ipPool := by
  unfold cleanupSession
  dsimp only
  repeat' split
  all_goals rfl

/-! ## The UE IPs of the sessions -/

/-- Writes keep the UE IP of every session. -/
theorem Writes.ueIP_mem {n : ℕ} {m m' : Manager} (hw : Writes n m m') {s : SessionInfo}
    (hs : s ∈ m'.sessions) : ∃ s₀ ∈ m.sessions, s.ueIP = s₀.ueIP := by
  have hmap := hw.map_eq SessionInfo.ueIP fun _ _ _ => rfl
  obtain ⟨s₀, hs₀, h⟩ := List.mem_map.1 (hmap ▸ List.mem_map_of_mem SessionInfo.ueIP hs)
  exact ⟨s₀, hs₀, h.symm⟩

/-- After an establishment every session has the UE IP of a session before it, or the address
the `Allocate` of the pool before it handed out. -/
theorem ueIP_handleSessionEstablishment (msg : Message) {s : SessionInfo}
    (hs : s ∈ (m.handleSessionEstablishment codec o msg).manager.sessions) :
    (∃ s₀ ∈ m.sessions, s.ueIP = s₀.ueIP) ∨ m.ipPool.allocate.1 = .ok s.ueIP := by
  rcases m.handleSessionEstablishment_cases codec o msg with ⟨-, -, -, -, hw⟩ |
    ⟨cp, localSEID, ueIP, seidAlloc, ipPool, -, hp, h⟩
  · exact .inl (hw.ueIP_mem hs)
  · -- the session stored is the only one with a new UE IP
    have hw : Writes m.sessions.length
        (({ m with seidAlloc, ipPool } : Manager).storeSession cp localSEID ueIP)
        (m.handleSessionEstablishment codec o msg).manager := by
      rcases h with ⟨-, hm⟩ | ⟨-, hm⟩ | ⟨-, r, hm⟩ <;> rw [hm]
      · exact m.writes_storeSession ..
      · exact Writes.trans (m.writes_storeSession ..) (writes_setState _ _)
      · exact Writes.trans (m.writes_storeSession ..) (writes_setEstablished le_rfl _)
    obtain ⟨s₀, hs₀, heq⟩ := hw.ueIP_mem hs
    rw [storeSession_sessions, List.mem_append, List.mem_singleton] at hs₀
    rcases hs₀ with hs₀ | rfl
    · exact .inl ⟨s₀, hs₀, heq⟩
    · exact .inr (by rw [heq, hp])

theorem ueIP_processMessage (msg : Message) {s : SessionInfo}
    (hs : s ∈ (m.processMessage codec o msg).manager.sessions) :
    (∃ s₀ ∈ m.sessions, s.ueIP = s₀.ueIP) ∨ m.ipPool.allocate.1 = .ok s.ueIP := by
  revert hs
  unfold processMessage
  split_ifs <;> intro hs
  · exact .inl ((m.writes_handleAssociationSetup codec o msg).ueIP_mem hs)
  · exact m.ueIP_handleSessionEstablishment codec o msg hs
  · exact .inl ((m.writes_handleSessionModification codec o msg).ueIP_mem hs)
  · exact .inl ((m.writes_handleSessionDeletion codec o msg).ueIP_mem hs)
  · exact .inl ((m.writes_handleHeartbeat codec o msg).ueIP_mem hs)
  · exact .inl ⟨s, hs, rfl⟩

/-! ## Along a replay -/

/-- The UE pool of a manager is reachable from `NewUEIPPool` on its block, and on a block whose
prefix length is between `1` and `31` every session has an address `Allocate` may hand out. -/
structure PoolSound (m : Manager) : Prop where
  pool : UEIPPool.Reachable m.ipPool.cidr m.ipPool
  ueIP : 1 ≤ m.ipPool.cidr.ones → m.ipPool.cidr.ones ≤ 31 →
    ∀ s ∈ m.sessions, m.ipPool.cidr.usable s.ueIP = true

variable {m}

theorem PoolSound.processMessage (h : m.PoolSound) (msg : Message) :
    (m.processMessage codec o msg).manager.PoolSound := by
  have hstep := m.step_processMessage codec o msg
  have hc := hstep.cidr_eq
  refine ⟨by rw [hc]; exact hstep.reachable h.pool, fun h1 h31 s hs => ?_⟩
  rw [hc] at h1 h31 ⊢
  rcases m.ueIP_processMessage codec o msg hs with ⟨s₀, hs₀, heq⟩ | hok
  · rw [heq]
    exact h.ueIP h1 h31 s₀ hs₀
  · exact ((h.pool.sound h1 h31).allocate_ok h1 h31 hok).1

theorem PoolSound.cleanupSession (h : m.PoolSound) (i : ℕ) :
    (m.cleanupSession codec o i).1.PoolSound := by
  have hpool := m.ipPool_cleanupSession codec o i
  refine ⟨by rw [hpool]; exact h.pool, fun h1 h31 s hs => ?_⟩
  rw [hpool] at h1 h31 ⊢
  obtain ⟨s₀, hs₀, heq⟩ := (m.writes_cleanupSession codec o i).ueIP_mem hs
  rw [heq]
  exact h.ueIP h1 h31 s₀ hs₀

end Manager

theorem poolSound_of_reachable {codec : Codec} {m : Manager} (h : Reachable codec m) :
    m.PoolSound := by
  induction h with
  | init associationEnabled modifier seidStrategy seidStart ueIPPool mappings =>
    rw [Manager.setSEIDMappings_eq]
    exact ⟨.init, fun _ _ s hs => absurd hs (List.not_mem_nil s)⟩
  | process o msg _ ih => exact ih.processMessage codec o msg
  | cleanup o i _ ih => exact ih.cleanupSession codec o i

/-- In every state `Replay` and `CleanupSessions` reach from a new manager, for any recording
and any outcome of every exchange, the UE pool is one a sequence of `Allocate` and `Release`
calls reaches from `NewUEIPPool` on the manager's block; and where that block's prefix length is
between `1` and `31`, every stored session's UE IP is an address of the block other than the
network address. -/
theorem session_ueIPs_in_block {codec : Codec} {m : Manager} (h : Reachable codec m) :
    UEIPPool.Reachable m.ipPool.cidr m.ipPool ∧
      (1 ≤ m.ipPool.cidr.ones → m.ipPool.cidr.ones ≤ 31 →
        ∀ s ∈ m.sessions, m.ipPool.cidr.usable s.ueIP = true) :=
  ⟨(poolSound_of_reachable h).pool, (poolSound_of_reachable h).ueIP⟩

theorem session_ueIPs_in_block_established :
    UEIPPool.Reachable establishedSession.ipPool.cidr establishedSession.ipPool ∧
      1 ≤ establishedSession.ipPool.cidr.ones ∧ establishedSession.ipPool.cidr.ones ≤ 31 ∧
      ∀ s ∈ establishedSession.sessions, establishedSession.ipPool.cidr.usable s.ueIP = true :=
  have h := session_ueIPs_in_block
    (.process _ _ (.init false plainModifier "sequential" 1 pool24 [⟨100, 200⟩]))
  ⟨h.1, by decide, by decide, h.2 (by decide) (by decide)⟩

end PfcpGenerator
