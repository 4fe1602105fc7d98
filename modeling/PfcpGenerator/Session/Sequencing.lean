import PfcpGenerator.Session.Replay

/-!
# Sequence numbers along a run

Every request the manager (`internal/session/manager.go`) sends carries a value that
`SequenceCounter.Next` returned: the modifier writes it into the header, and `CleanupSessions`
builds its Session Deletion Requests with it. A call of `processMessage`, and an iteration of the
loop of `CleanupSessions`, calls `Next` at most once, and before it sends anything. So the requests
that `Replay` and then `CleanupSessions` send carry strictly increasing sequence numbers until the
counter wraps after `0xFFFFFF` calls. The transaction tracker (`internal/network/transaction.go`)
keys its pending transactions by sequence number, so it then never holds two of them under one
number.

## Main definitions

* `Manager.Stamped`: what one call does with the counter and the request it sends.
* `StampsBetween`: the sequence numbers of the requests of a stretch of a run, between the
  counter's values before and after it.

## Main results

* `Manager.stamped_processMessage`, `Manager.stamped_cleanupSession`: a call leaves the counter
  as it was and sends nothing, or it calls `Next` once and stamps what it sends with the value.
* `sent_sequences_increase`: from a new manager, over a recording and a cleanup of at most
  `0xFFFFFF` messages and sessions together, the requests sent carry strictly increasing sequence
  numbers in `[1, 0xFFFFFF]`.
-/

namespace PfcpGenerator

namespace Manager

/-- What one call does with the sequence counter: it leaves the counter and sends nothing, or it
calls `Next` once and the request it sends, if any, carries the value `Next` returned. -/
def Stamped (m m' : Manager) (sent : Option Message) : Prop :=
  m'.seqCounter = m.seqCounter ∧ sent = none ∨
    m'.seqCounter = m.seqCounter.next.2 ∧ ∀ req ∈ sent, req.sequence = m.seqCounter.next.1

variable (m : Manager) (codec : Codec) (o : Outside)

theorem sequence_of_sendRequest {what : String} {modified : Except String Message}
    {res : Except String TransactionResult} {sent : Option Message}
    (hs : sendRequest codec o what modified = (res, sent)) {seq : UInt32}
    (hmod : ∀ x, modified = .ok x → x.sequence = seq) {req : Message} (hreq : req ∈ sent) :
    req.sequence = seq :=
  hmod req (eq_ok_of_sendRequest codec o what (by rw [hs]; exact hreq))

/-- `request` calls `Next` once, whatever the result, and sends what `modify` made from the
value. -/
theorem stamped_request {what failure : String} {modify : UInt32 → Except String Message}
    {onSuccess : Manager → Manager}
    (hmod : ∀ x, modify m.seqCounter.next.1 = .ok x → x.sequence = m.seqCounter.next.1)
    (hsucc : ∀ m', (onSuccess m').seqCounter = m'.seqCounter) :
    Stamped m (m.request codec o what failure modify onSuccess).manager
      (m.request codec o what failure modify onSuccess).sent := by
  refine .inr ⟨?_, fun req hreq => hmod req (m.eq_ok_of_request_sent codec o hreq)⟩
  rcases m.request_cases codec o what failure modify onSuccess with ⟨-, h⟩ | ⟨-, h⟩ <;> rw [h]
  exact hsucc _

/-- A failed allocation calls no `Next`; once the session is stored, `Next` is called once and
the value goes into the header of the Session Establishment Request. -/
theorem stamped_handleSessionEstablishment (msg : Message) :
    Stamped m (m.handleSessionEstablishment codec o msg).manager
      (m.handleSessionEstablishment codec o msg).sent := by
  unfold handleSessionEstablishment
  split
  · dsimp only
    split
    · exact .inl ⟨rfl, rfl⟩
    split
    · exact .inl ⟨rfl, rfl⟩
    simp only [storeSession_seqCounter]
    repeat' split
    all_goals
      exact .inr ⟨rfl, fun _ h => sequence_of_sendRequest codec o ‹_› (fun _ h => by cases h; rfl) h⟩
  · exact .inl ⟨rfl, rfl⟩

theorem stamped_processMessage (msg : Message) :
    Stamped m (m.processMessage codec o msg).manager (m.processMessage codec o msg).sent := by
  unfold processMessage handleAssociationSetup handleSessionModification handleSessionDeletion
    handleHeartbeat
  split_ifs
  all_goals repeat' split
  all_goals first
    | exact .inl ⟨rfl, rfl⟩
    | exact m.stamped_handleSessionEstablishment codec o msg
    | exact m.stamped_request codec o (fun _ h => by cases h; rfl) fun _ => rfl

theorem stamped_cleanupSession (i : ℕ) :
    Stamped m (m.cleanupSession codec o i).1 (m.cleanupSession codec o i).2 := by
  unfold cleanupSession
  dsimp only
  refine .inr ⟨?_, fun req h => ?_⟩
  · repeat' split
    all_goals rfl
  · revert h
    repeat' split
    all_goals
      intro h
      cases h
    all_goals rfl

end Manager

/-- The sequence numbers of the requests sent over a stretch of a run in which the counter went
from `c` to `c'`: strictly increasing, each above `c` and at most `c'`. -/
structure StampsBetween (c c' : ℕ) (stamps : List ℕ) : Prop where
  le : c ≤ c'
  increasing : stamps.Pairwise (· < ·)
  bounds : ∀ x ∈ stamps, c < x ∧ x ≤ c'

namespace StampsBetween

theorem nil (c : ℕ) : StampsBetween c c [] := ⟨le_rfl, .nil, fun _ h => absurd h (List.not_mem_nil _)⟩

theorem append {c c' c'' : ℕ} {s₁ s₂ : List ℕ} (h₁ : StampsBetween c c' s₁)
    (h₂ : StampsBetween c' c'' s₂) : StampsBetween c c'' (s₁ ++ s₂) where
  le := h₁.le.trans h₂.le
  increasing := List.pairwise_append.2 ⟨h₁.increasing, h₂.increasing,
    fun _ hx _ hy => (h₁.bounds _ hx).2.trans_lt (h₂.bounds _ hy).1⟩
  bounds x hx := by
    rcases List.mem_append.1 hx with hx | hx
    · exact ⟨(h₁.bounds x hx).1, (h₁.bounds x hx).2.trans h₂.le⟩
    · exact ⟨h₁.le.trans_lt (h₂.bounds x hx).1, (h₂.bounds x hx).2⟩

end StampsBetween

/-- Below `0xFFFFFF`, `Next` returns the counter's value plus one, so a call moves the counter by
at most one and stamps what it sends with the new value. -/
theorem Manager.Stamped.between {m m' : Manager} {sent : Option Message} (h : m.Stamped m' sent)
    (hroom : m.seqCounter.current.toNat < 0xFFFFFF) :
    StampsBetween m.seqCounter.current.toNat m'.seqCounter.current.toNat
        (sent.toList.map fun req => req.sequence.toNat) ∧
      m'.seqCounter.current.toNat ≤ m.seqCounter.current.toNat + 1 := by
  rcases h with ⟨hc, rfl⟩ | ⟨hc, hs⟩
  · rw [hc]
    exact ⟨.nil _, by omega⟩
  · obtain ⟨hv, hcur⟩ := SequenceCounter.next_toNat hroom.le
    have hnext : m.seqCounter.next.1.toNat = m.seqCounter.current.toNat + 1 := by
      rw [hv, Nat.mod_eq_of_lt hroom]
    rw [hc, hcur, hnext]
    refine ⟨⟨by omega, ?_, fun x hx => ?_⟩, le_rfl⟩
    · cases sent <;> simp
    · obtain ⟨req, hreq, rfl⟩ := List.mem_map.1 hx
      rw [hs req (Option.mem_toList.1 hreq), hnext]
      omega

theorem filterMap_sent_cons (e : ReplayEntry) (entries : List ReplayEntry) :
    (e :: entries).filterMap ReplayEntry.sent = e.sent.toList ++ entries.filterMap ReplayEntry.sent := by
  cases h : e.sent <;> simp [h]

/-- The loop of `Replay` over `n` messages moves the counter by at most `n`, and the requests it
sends carry increasing values in between. -/
theorem stampsBetween_replayLoop (codec : Codec) (outside : ℕ → Outside) (m : Manager) (index : ℕ)
    (messages : List RawPFCPMessage)
    (hroom : m.seqCounter.current.toNat + messages.length ≤ 0xFFFFFF) :
    StampsBetween m.seqCounter.current.toNat
        (replayLoop codec outside m index messages).2.1.seqCounter.current.toNat
        (((replayLoop codec outside m index messages).2.2.filterMap ReplayEntry.sent).map
          fun req => req.sequence.toNat) ∧
      (replayLoop codec outside m index messages).2.1.seqCounter.current.toNat ≤
        m.seqCounter.current.toNat + messages.length := by
  induction messages generalizing m index with
  | nil => exact ⟨.nil _, le_rfl⟩
  | cons raw rest ih =>
    rw [List.length_cons] at hroom
    rw [replayLoop]
    split_ifs
    · exact ⟨.nil _, by dsimp only; omega⟩
    split
    · -- a message that does not decode is skipped
      obtain ⟨h, hle⟩ := ih m (index + 1) (by omega)
      exact ⟨h, by simp only [List.length_cons]; omega⟩
    · rename_i msg _
      obtain ⟨h₁, hle₁⟩ := (m.stamped_processMessage codec (outside index) msg).between (by omega)
      obtain ⟨h₂, hle₂⟩ := ih (m.processMessage codec (outside index) msg).manager (index + 1)
        (by omega)
      refine ⟨?_, by simp only [List.length_cons]; omega⟩
      rw [filterMap_sent_cons, List.map_append]
      exact h₁.append h₂

/-- The loop of `CleanupSessions` over `n` sessions moves the counter by at most `n`, and the
requests it sends carry increasing values in between. -/
theorem stampsBetween_cleanupLoop (codec : Codec) (outside : ℕ → Outside) (m : Manager) (k : ℕ)
    (pointers : List ℕ) (hroom : m.seqCounter.current.toNat + pointers.length ≤ 0xFFFFFF) :
    StampsBetween m.seqCounter.current.toNat
        (cleanupLoop codec outside m k pointers).1.seqCounter.current.toNat
        ((cleanupLoop codec outside m k pointers).2.map fun req => req.sequence.toNat) ∧
      (cleanupLoop codec outside m k pointers).1.seqCounter.current.toNat ≤
        m.seqCounter.current.toNat + pointers.length := by
  induction pointers generalizing m k with
  | nil => exact ⟨.nil _, le_rfl⟩
  | cons i rest ih =>
    rw [List.length_cons] at hroom
    rw [cleanupLoop]
    split_ifs
    · exact ⟨.nil _, by dsimp only; omega⟩
    obtain ⟨h₁, hle₁⟩ := (m.stamped_cleanupSession codec (outside k) i).between (by omega)
    obtain ⟨h₂, hle₂⟩ := ih (m.cleanupSession codec (outside k) i).1 (k + 1) (by omega)
    refine ⟨?_, by simp only [List.length_cons]; omega⟩
    rw [List.map_append]
    exact h₁.append h₂

/-- `Replay` and then `CleanupSessions` on the manager it leaves. -/
theorem stampsBetween_replay_cleanup (codec : Codec) (outside cleanupOutside : ℕ → Outside)
    (m : Manager) (messages : List RawPFCPMessage) (order : List ℕ)
    (hroom : m.seqCounter.current.toNat + messages.length + order.length ≤ 0xFFFFFF) :
    StampsBetween m.seqCounter.current.toNat
        (cleanupSessions (replay m codec outside messages).2.1 codec cleanupOutside
          order).1.seqCounter.current.toNat
        (((replay m codec outside messages).2.2.filterMap ReplayEntry.sent ++
          (cleanupSessions (replay m codec outside messages).2.1 codec cleanupOutside order).2).map
            fun req => req.sequence.toNat) ∧
      (cleanupSessions (replay m codec outside messages).2.1 codec cleanupOutside
          order).1.seqCounter.current.toNat ≤
        m.seqCounter.current.toNat + messages.length + order.length := by
  obtain ⟨h₁, hle₁⟩ := stampsBetween_replayLoop codec outside m 0 messages (by omega)
  have hactive : ((replayLoop codec outside m 0 messages).2.1.activeSessions order).length ≤
      order.length :=
    List.length_filter_le _ _
  obtain ⟨h₂, hle₂⟩ := stampsBetween_cleanupLoop codec cleanupOutside
    (replayLoop codec outside m 0 messages).2.1 0
    ((replayLoop codec outside m 0 messages).2.1.activeSessions order) (by omega)
  unfold cleanupSessions replay
  refine ⟨?_, by omega⟩
  rw [List.map_append]
  exact h₁.append h₂

/-- The run of the generator, `Replay` and then `CleanupSessions` from the manager `NewManager`
builds with the recording's table set, sends its requests with strictly increasing sequence
numbers, from `1` on, as long as the recording's messages and the sessions the cleanup visits
number at most `0xFFFFFF` together; whatever each exchange returns, and wherever the context is
cancelled. So no two pending transactions of the tracker share a sequence number. -/
theorem sent_sequences_increase (codec : Codec) (outside cleanupOutside : ℕ → Outside)
    (associationEnabled : Bool) (modifier : Modifier) (seidStrategy : String) (seidStart : UInt64)
    (ueIPPool : CIDR4) (mappings : List SEIDMapping) (messages : List RawPFCPMessage)
    (order : List ℕ) (hroom : messages.length + order.length ≤ 0xFFFFFF) :
    let replayed := replay ((newManager associationEnabled modifier seidStrategy seidStart
      ueIPPool).setSEIDMappings mappings) codec outside messages
    let sent := replayed.2.2.filterMap ReplayEntry.sent ++
      (cleanupSessions replayed.2.1 codec cleanupOutside order).2
    sent.Pairwise (fun req req' => req.sequence.toNat < req'.sequence.toNat) ∧
      ∀ req ∈ sent, 0 < req.sequence.toNat ∧ req.sequence.toNat ≤ messages.length + order.length := by
  intro replayed sent
  have h0 : ((newManager associationEnabled modifier seidStrategy seidStart ueIPPool).setSEIDMappings
      mappings).seqCounter.current.toNat = 0 := by
    rw [Manager.setSEIDMappings_eq]; rfl
  obtain ⟨h, hle⟩ := stampsBetween_replay_cleanup codec outside cleanupOutside _ messages order
    (by rw [h0]; omega)
  rw [h0] at h hle
  refine ⟨List.pairwise_map.1 h.increasing, fun req hreq => ?_⟩
  have := h.bounds _ (List.mem_map_of_mem (fun req => req.sequence.toNat) hreq)
  omega

/-- The recording of `rejectTable`, whose establishment the peer rejects, followed by a cleanup
that visits its session: the establishment, the modification, the deletion and no cleanup
request, stamped `1`, `2` and `3`. -/
theorem sent_sequences_increase_rejected :
    ([⟨[0]⟩, ⟨[1]⟩, ⟨[2]⟩] : List RawPFCPMessage).length + [0].length ≤ 0xFFFFFF ∧
      let replayed := replay (freshManager pool24 [⟨100, 200⟩]) (tableCodec rejectTable)
        (fun k => answered (if k = 0 then [3] else [4])) [⟨[0]⟩, ⟨[1]⟩, ⟨[2]⟩]
      let sent := replayed.2.2.filterMap ReplayEntry.sent ++
        (cleanupSessions replayed.2.1 (tableCodec rejectTable) (fun _ => answered []) [0]).2
      sent.Pairwise (fun req req' => req.sequence.toNat < req'.sequence.toNat) ∧
        ∀ req ∈ sent, 0 < req.sequence.toNat ∧
          req.sequence.toNat ≤ ([⟨[0]⟩, ⟨[1]⟩, ⟨[2]⟩] : List RawPFCPMessage).length + [0].length :=
  ⟨by decide, sent_sequences_increase (tableCodec rejectTable)
    (fun k => answered (if k = 0 then [3] else [4])) (fun _ => answered []) false plainModifier
    "sequential" 1 pool24 [⟨100, 200⟩] [⟨[0]⟩, ⟨[1]⟩, ⟨[2]⟩] [0] (by decide)⟩

end PfcpGenerator
