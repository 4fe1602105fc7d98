import Mathlib.Data.List.Nodup
import Mathlib.Logic.Function.Basic
import PfcpGenerator.Pfcp.Message

/-!
# The transaction tracker

A model of `TransactionTracker` (`internal/network/transaction.go`) together with the receive
path that feeds it (`Receiver.listen` and `Manager.handleResponses`). The tracker maps
sequence numbers to pending transactions; a transaction is a `*PendingTransaction`, so the
model keeps the transactions in a heap `txs` and a pointer is an index into it.

Each goroutine's critical section is one step of `step`:

* `track`: `Track`, which stores a new transaction under its sequence number;
* `receive`: a datagram from the peer; `message.Parse` either fails (the datagram is dropped)
  or yields a message whose sequence number is passed to `Resolve`;
* `checkTimeouts`: the first phase of a sweep, which collects the transactions whose `SentAt`
  is older than the timeout. Time is not modelled, so any list of distinct pending
  transactions may be collected; the sweep goroutine handles its batch before the next tick;
* `handleTimeout`: the sweep handles the next collected transaction;
* `cancelAll`: `CancelAll`.

A send on a transaction's result channel and a retransmission by the sweep are the events a
step emits.

Main results:

* `delivered_response_of_receive`: in every reachable state, a step delivers a response to a
  transaction only when it is the receipt of a datagram that parses, of any message type,
  carrying the transaction's sequence number, while the transaction is pending under it.
* `stale_timeout_removes_successor`, `stale_timeout_retransmits_resolved`,
  `heartbeat_request_resolves_transaction`: runs on which the sweep acts on a transaction
  that has left the map, and on which a peer request fulfils a transaction.
-/

namespace PfcpGenerator

/-- `types.TransactionResult`, without the response time. -/
structure TransactionResult where
  seqNum : UInt32
  response : List UInt8
  error : Option String
  deriving DecidableEq

/-- `PendingTransaction`, without `SentAt`; the result channel is the `delivered` event. -/
structure PendingTransaction where
  seqNum : UInt32
  requestData : List UInt8
  retryCount : ℕ
  deriving DecidableEq

/-- `TransactionTracker`: the pending map, whose values point into the heap `txs`, the batch the
running sweep has collected and not yet handled, and `maxRetries` (validated non-negative by
the configuration). -/
structure TransactionTracker where
  pending : UInt32 → Option ℕ
  txs : List PendingTransaction
  timedOut : List ℕ
  maxRetries : ℕ

/-- `NewTransactionTracker`. -/
def newTransactionTracker (maxRetries : ℕ) : TransactionTracker :=
  { pending := fun _ => none, txs := [], timedOut := [], maxRetries }

/-- One step of one goroutine on the tracker. -/
inductive TrackerOp
  | track (seqNum : UInt32) (requestData : List UInt8)
  | receive (data : List UInt8) (parsed : Except String Message)
  | checkTimeouts (expired : List ℕ)
  | handleTimeout
  | cancelAll

/-- What a step does outside the tracker. -/
inductive TrackerEvent
  /-- A send on the result channel of the transaction `tx`. -/
  | delivered (tx : ℕ) (result : TransactionResult)
  /-- `t.sender.Send(tx.RequestData)` by the sweep. -/
  | retransmitted (tx : ℕ) (data : List UInt8)
  deriving DecidableEq

namespace TransactionTracker

variable (t : TransactionTracker)

/-- The transaction `i` is in the pending map, under its own sequence number. -/
def isPending (i : ℕ) : Bool :=
  match t.txs[i]? with
  | some tx => t.pending tx.seqNum == some i
  | none => false

/-- `Resolve`: the transaction under `seqNum`, if any, leaves the map and receives the
response. -/
def resolve (seqNum : UInt32) (responseData : List UInt8) :
    TransactionTracker × List TrackerEvent :=
  match t.pending seqNum with
  | none => (t, [])
  | some i =>
    ({ t with pending := Function.update t.pending seqNum none },
      [.delivered i { seqNum, response := responseData, error := none }])

/-- `handleTimeout(tx)`: the check that the transaction is still pending looks up its sequence
number only. -/
def handleTimeout (i : ℕ) : TransactionTracker × List TrackerEvent :=
  match t.txs[i]? with
  | none => (t, [])
  | some tx =>
    match t.pending tx.seqNum with
    | none => (t, [])
    | some _ =>
      if tx.retryCount < t.maxRetries then
        ({ t with txs := t.txs.set i { tx with retryCount := tx.retryCount + 1 } },
          [.retransmitted i tx.requestData])
      else
        ({ t with pending := Function.update t.pending tx.seqNum none },
          [.delivered i { seqNum := tx.seqNum, response := [],
                          error := some ("timeout after " ++ toString t.maxRetries ++ " retries") }])

/-- `CancelAll`: every pending transaction receives the cancellation, and the map is emptied. -/
def cancelAll : TransactionTracker × List TrackerEvent :=
  ({ t with pending := fun _ => none },
    ((List.range t.txs.length).filter t.isPending).filterMap fun i =>
      t.txs[i]?.map fun tx => .delivered i { seqNum := tx.seqNum, response := [],
                                             error := some "cancelled" })

/-- One step. A sweep collects only when its previous batch is handled, and only distinct
pending transactions; a step that is not enabled changes nothing. -/
def step : TrackerOp → TransactionTracker × List TrackerEvent
  | .track seqNum requestData =>
    ({ t with txs := t.txs ++ [{ seqNum, requestData, retryCount := 0 }],
              pending := Function.update t.pending seqNum (some t.txs.length) }, [])
  | .receive data parsed =>
    match parsed with
    | .error _ => (t, [])
    | .ok msg => t.resolve msg.sequence data
  | .checkTimeouts expired =>
    if t.timedOut = [] ∧ expired.Nodup ∧ ∀ i ∈ expired, t.isPending i then
      ({ t with timedOut := expired }, [])
    else (t, [])
  | .handleTimeout =>
    match t.timedOut with
    | [] => (t, [])
    | i :: rest => { t with timedOut := rest }.handleTimeout i
  | .cancelAll => t.cancelAll

/-- Run the steps in order, collecting their events. -/
def run : TransactionTracker → List TrackerOp → TransactionTracker × List TrackerEvent
  | t, [] => (t, [])
  | t, op :: ops => ((t.step op).1.run ops).map id ((t.step op).2 ++ ·)

/-! ## Reachable states -/

/-- The states reachable from `newTransactionTracker maxRetries` by any interleaving of steps. -/
inductive Reachable (maxRetries : ℕ) : TransactionTracker → Prop
  | init : Reachable maxRetries (newTransactionTracker maxRetries)
  | step {t : TransactionTracker} (op : TrackerOp) :
      Reachable maxRetries t → Reachable maxRetries (t.step op).1

/-- Every key of the pending map points to a transaction stored under that key. -/
def KeysConsistent : Prop :=
  ∀ s i, t.pending s = some i → ∃ tx, t.txs[i]? = some tx ∧ tx.seqNum = s

/-- Removing a key keeps the keys consistent. -/
theorem keysConsistent_erase {t : TransactionTracker} (h : t.KeysConsistent) (s : UInt32) :
    KeysConsistent { t with pending := Function.update t.pending s none } := by
  intro s' i hs'
  by_cases hs : s' = s
  · subst hs
    simp at hs'
  · exact h s' i (by simpa [Function.update_noteq hs] using hs')

theorem keysConsistent_resolve {t : TransactionTracker} (h : t.KeysConsistent) (s : UInt32)
    (data : List UInt8) : (t.resolve s data).1.KeysConsistent := by
  unfold resolve
  split
  · exact h
  · exact keysConsistent_erase h s

theorem keysConsistent_handleTimeout {t : TransactionTracker} (h : t.KeysConsistent) (i : ℕ) :
    (t.handleTimeout i).1.KeysConsistent := by
  unfold handleTimeout
  split
  · exact h
  · rename_i tx htx
    split
    · exact h
    · split_ifs
      · -- a retry changes only the retry count, never the stored sequence number
        intro s j hs
        obtain ⟨tx', htx', hseq⟩ := h s j hs
        by_cases hj : j = i
        · subst hj
          rw [htx] at htx'
          cases htx'
          refine ⟨{ tx with retryCount := tx.retryCount + 1 }, ?_, hseq⟩
          simp [List.getElem?_set, (List.getElem?_eq_some_iff.1 htx).1]
        · exact ⟨tx', by simpa [List.getElem?_set_ne (Ne.symm hj)] using htx', hseq⟩
      · exact keysConsistent_erase h _

/-- Every step keeps the keys of the pending map consistent. -/
theorem keysConsistent_step {t : TransactionTracker} (h : t.KeysConsistent) (op : TrackerOp) :
    (t.step op).1.KeysConsistent := by
  cases op with
  | track seqNum requestData =>
    intro s i hs
    by_cases hs' : s = seqNum
    · subst hs'
      simp only [step, Function.update_same, Option.some.injEq] at hs
      subst hs
      simp [step]
    · simp only [step, Function.update_noteq hs'] at hs
      obtain ⟨tx, htx, rfl⟩ := h s i hs
      exact ⟨tx, by simp [step, List.getElem?_append_left (List.getElem?_eq_some_iff.1 htx).1, htx],
        rfl⟩
  | receive data parsed =>
    cases parsed with
    | error => exact h
    | ok msg => exact keysConsistent_resolve h _ _
  | checkTimeouts expired =>
    simp only [step]
    split_ifs <;> exact h
  | handleTimeout =>
    simp only [step]
    split
    · exact h
    · next i rest _ => exact keysConsistent_handleTimeout (t := { t with timedOut := rest }) h i
  | cancelAll => intro s i hs; simp [step, cancelAll] at hs

theorem keysConsistent_of_reachable {maxRetries : ℕ} {t : TransactionTracker}
    (h : Reachable maxRetries t) : t.KeysConsistent := by
  induction h with
  | init => intro s i hs; simp [newTransactionTracker] at hs
  | step op _ ih => exact keysConsistent_step ih op

/-! ## Which steps deliver a response -/

/-- The sweep delivers only timeouts. -/
theorem error_of_delivered_handleTimeout {t : TransactionTracker} {i j : ℕ} {r : TransactionResult}
    (h : TrackerEvent.delivered j r ∈ (t.handleTimeout i).2) : r.error.isSome := by
  unfold handleTimeout at h
  split at h
  · cases h
  · split at h
    · cases h
    · split_ifs at h <;> simp at h
      rw [h.2]
      rfl

/-- A step delivers a result without an error only as `Resolve` on the sequence number of a
datagram that parsed, to the transaction pending under it. -/
theorem delivered_ok_inversion {t : TransactionTracker} {op : TrackerOp} {i : ℕ}
    {r : TransactionResult} (h : TrackerEvent.delivered i r ∈ (t.step op).2) (hr : r.error = none) :
    ∃ data msg, op = .receive data (.ok msg) ∧ t.pending msg.sequence = some i ∧
      r = { seqNum := msg.sequence, response := data, error := none } := by
  cases op with
  | track => cases h
  | receive data parsed =>
    cases parsed with
    | error => cases h
    | ok msg =>
      simp only [step, resolve] at h
      split at h
      · cases h
      · rename_i j hj
        simp only [List.mem_singleton, TrackerEvent.delivered.injEq] at h
        obtain ⟨rfl, rfl⟩ := h
        exact ⟨data, msg, rfl, hj, rfl⟩
  | checkTimeouts => simp only [step] at h; split_ifs at h <;> cases h
  | handleTimeout =>
    simp only [step] at h
    split at h
    · cases h
    · exact absurd hr (Option.isSome_iff_ne_none.1 (error_of_delivered_handleTimeout h))
  | cancelAll =>
    simp only [step, cancelAll, List.mem_filterMap, Option.map_eq_some'] at h
    obtain ⟨_, -, _, -, he⟩ := h
    cases he
    simp at hr

end TransactionTracker

/-- In every reachable state of the tracker, a step delivers a response (a result without an
error) to a transaction only when it is the receipt of a datagram that parses as a PFCP message,
of whatever type, carrying the transaction's sequence number, while the transaction is pending
under that number; the response is the datagram's bytes. -/
theorem delivered_response_of_receive {maxRetries : ℕ} {t : TransactionTracker}
    (ht : TransactionTracker.Reachable maxRetries t) (op : TrackerOp) {i : ℕ}
    {r : TransactionResult} (hd : TrackerEvent.delivered i r ∈ (t.step op).2)
    (hr : r.error = none) :
    ∃ data msg tx, op = .receive data (.ok msg) ∧ t.txs[i]? = some tx ∧
      msg.sequence = tx.seqNum ∧ t.pending tx.seqNum = some i ∧ r.response = data := by
  obtain ⟨data, msg, rfl, hpending, rfl⟩ := TransactionTracker.delivered_ok_inversion hd hr
  obtain ⟨tx, htx, hseq⟩ := TransactionTracker.keysConsistent_of_reachable ht _ _ hpending
  exact ⟨data, msg, tx, rfl, htx, hseq.symm, hseq ▸ hpending, rfl⟩

/-- A response to sequence number `7` from the peer: a Session Deletion Response. -/
def response7 : Message := .other 55 { seid := 0, sequenceNumber := 7 } []

/-- The state after one request is tracked under sequence number `7`. -/
def trackedSeven : TransactionTracker := ((newTransactionTracker 0).step (.track 7 [1])).1

/-- The response to the tracked request resolves it. -/
theorem delivered_response_of_receive_seven :
    TrackerEvent.delivered 0 ⟨7, [2], none⟩ ∈ (trackedSeven.step (.receive [2] (.ok response7))).2 ∧
      ∃ data msg tx, TrackerOp.receive [2] (.ok response7) = .receive data (.ok msg) ∧
        trackedSeven.txs[0]? = some tx ∧ msg.sequence = tx.seqNum ∧
        trackedSeven.pending tx.seqNum = some 0 ∧ TransactionResult.response ⟨7, [2], none⟩ = data :=
  ⟨by decide, delivered_response_of_receive (.step _ .init) _ (by decide) rfl⟩

/-! ## Runs on which the sweep acts on a transaction that has left the map -/

/-- The sweep collects transaction `0`; before it handles it, the response arrives and removes
it, and the next request is tracked as transaction `1` under the same sequence number `7`. -/
def staleTimeoutRun : List TrackerOp :=
  [.track 7 [1], .checkTimeouts [0], .receive [2] (.ok response7), .track 7 [3], .handleTimeout]

/-- With `maxRetries = 0`, handling the stale transaction `0` finds `7` in the map, removes
transaction `1` from it and delivers a timeout to `0`: transaction `0` receives two results, and
transaction `1` leaves the map without receiving any. -/
theorem stale_timeout_removes_successor :
    ((newTransactionTracker 0).run staleTimeoutRun).2 =
        [.delivered 0 ⟨7, [2], none⟩, .delivered 0 ⟨7, [], some "timeout after 0 retries"⟩] ∧
      ((newTransactionTracker 0).run staleTimeoutRun).1.pending 7 = none ∧
      ((newTransactionTracker 0).run staleTimeoutRun).1.txs.length = 2 := by
  decide

/-- With `maxRetries = 3`, handling the stale transaction `0` retransmits its request bytes
while the map holds transaction `1` under `7`, not `0`. -/
theorem stale_timeout_retransmits_resolved :
    ((newTransactionTracker 3).run staleTimeoutRun).2 =
        [.delivered 0 ⟨7, [2], none⟩, .retransmitted 0 [1]] ∧
      ((newTransactionTracker 3).run staleTimeoutRun).1.pending 7 = some 1 := by
  decide

/-! ## A peer request fulfils a transaction -/

/-- A Heartbeat Request the peer sends on its own, numbered `7` by the peer's counter. -/
def peerHeartbeat7 : Message :=
  .heartbeatRequest { header := { seid := 0, sequenceNumber := 7 }, ies := [] }

/-- The transaction tracked under `7` is fulfilled by the peer's Heartbeat Request, a request and
not a response to anything this side sent. -/
theorem heartbeat_request_resolves_transaction :
    ((newTransactionTracker 3).run [.track 7 [1], .receive [9] (.ok peerHeartbeat7)]).2 =
        [.delivered 0 ⟨7, [9], none⟩] ∧
      peerHeartbeat7.messageType = MsgType.heartbeatRequest ∧ isRequest peerHeartbeat7 = true := by
  decide

/-! ## At most one result per transaction

`Track` stores a transaction under its sequence number whether or not another one is pending
under it, and `handleTimeout` finds a collected transaction by its sequence number only. While no
sequence number is tracked twice, neither acts on any transaction but the one it names: every
result and every retransmission is for a pending transaction, a result takes it out of the map
for good, and so nothing about a transaction follows its result. The channel `Track` returns
holds one result, so a second send on it would block the goroutine that makes it.
-/

/-- The transaction an event is about. -/
def TrackerEvent.tx : TrackerEvent → ℕ
  | .delivered tx _ => tx
  | .retransmitted tx _ => tx

/-- The sequence number a step tracks a new transaction under, if it is a `Track`. -/
def TrackerOp.trackedSeq : TrackerOp → Option UInt32
  | .track seqNum _ => some seqNum
  | _ => none

namespace TransactionTracker

variable {t : TransactionTracker}

/-- The sequence numbers of the transactions tracked so far, in order. -/
def seqs (t : TransactionTracker) : List UInt32 := t.txs.map PendingTransaction.seqNum

theorem isPending_iff {i : ℕ} :
    t.isPending i = true ↔ ∃ tx, t.txs[i]? = some tx ∧ t.pending tx.seqNum = some i := by
  unfold isPending
  cases t.txs[i]? <;> simp

theorem resolve_txs (t : TransactionTracker) (s : UInt32) (data : List UInt8) :
    (t.resolve s data).1.txs = t.txs := by
  unfold resolve; split <;> rfl

theorem seqs_handleTimeout (t : TransactionTracker) (i : ℕ) :
    (t.handleTimeout i).1.seqs = t.seqs := by
  unfold handleTimeout
  split
  · rfl
  · rename_i tx htx
    split
    · rfl
    · split_ifs
      · -- a retry keeps the sequence number it stores
        refine List.ext_getElem? fun j => ?_
        simp only [seqs, List.map_set, List.getElem?_set, List.getElem?_map, List.length_map]
        split_ifs with hij hlt
        · subst hij
          simp [htx]
        · subst hij
          exact absurd (List.getElem?_eq_some_iff.1 htx).1 hlt
        · rfl
      · rfl

/-- A step tracks at most one new transaction, at the end, and changes no stored sequence
number. -/
theorem seqs_step (t : TransactionTracker) (op : TrackerOp) :
    (t.step op).1.seqs = t.seqs ++ op.trackedSeq.toList := by
  cases op with
  | track s d => simp [step, seqs, TrackerOp.trackedSeq]
  | receive data parsed =>
    cases parsed with
    | error => simp [step, TrackerOp.trackedSeq]
    | ok msg => simp [step, seqs, resolve_txs, TrackerOp.trackedSeq]
  | checkTimeouts expired =>
    simp only [step]
    split_ifs <;> simp [seqs, TrackerOp.trackedSeq]
  | handleTimeout =>
    simp only [step]
    split
    · simp [TrackerOp.trackedSeq]
    · rw [seqs_handleTimeout]
      simp [seqs, TrackerOp.trackedSeq]
  | cancelAll => simp [step, cancelAll, seqs, TrackerOp.trackedSeq]

/-- The pending map is consistent and no two transactions share a sequence number. -/
structure Unique (t : TransactionTracker) : Prop where
  keys : t.KeysConsistent
  nodup : t.seqs.Nodup

theorem unique_step (h : t.Unique) {op : TrackerOp}
    (hfresh : (t.seqs ++ op.trackedSeq.toList).Nodup) : (t.step op).1.Unique :=
  ⟨keysConsistent_step h.keys op, by rw [seqs_step]; exact hfresh⟩

/-- With unique sequence numbers the map holds a transaction's sequence number only for it. -/
theorem Unique.pending_eq (h : t.Unique) {i j : ℕ} {tx : PendingTransaction}
    (htx : t.txs[i]? = some tx) (hj : t.pending tx.seqNum = some j) : j = i := by
  obtain ⟨tx', htx', hseq⟩ := h.keys _ _ hj
  have hlen : j < t.seqs.length := by
    simp [seqs, (List.getElem?_eq_some_iff.1 htx').1]
  exact List.getElem?_inj hlen h.nodup (by simp [seqs, htx, htx', hseq])

theorem resolve_events {s : UInt32} {data : List UInt8} {e : TrackerEvent}
    (he : e ∈ (t.resolve s data).2) : t.pending s = some e.tx := by
  unfold resolve at he
  split at he
  · cases he
  · next i hi =>
    rw [List.mem_singleton] at he
    subst he
    exact hi

theorem resolve_of_delivered {s : UInt32} {data : List UInt8} {i : ℕ} {r : TransactionResult}
    (he : .delivered i r ∈ (t.resolve s data).2) :
    (t.resolve s data).1 = { t with pending := Function.update t.pending s none } := by
  unfold resolve at he ⊢
  split at he
  · cases he
  · rfl

theorem handleTimeout_events {k : ℕ} {e : TrackerEvent} (he : e ∈ (t.handleTimeout k).2) :
    e.tx = k ∧ ∃ tx j, t.txs[k]? = some tx ∧ t.pending tx.seqNum = some j := by
  unfold handleTimeout at he
  split at he
  · cases he
  · next tx htx =>
    split at he
    · cases he
    · next j hj =>
      split_ifs at he <;>
        (rw [List.mem_singleton] at he; subst he; exact ⟨rfl, tx, j, htx, hj⟩)

theorem handleTimeout_of_delivered {k i : ℕ} {r : TransactionResult}
    (he : .delivered i r ∈ (t.handleTimeout k).2) :
    ∃ tx, t.txs[k]? = some tx ∧
      (t.handleTimeout k).1 = { t with pending := Function.update t.pending tx.seqNum none } := by
  unfold handleTimeout at he ⊢
  split at he
  · cases he
  · next tx htx =>
    refine ⟨tx, htx, ?_⟩
    split at he
    · cases he
    · split_ifs at he ⊢
      · simp at he
      · rfl

/-- Clearing the key of a transaction's sequence number leaves it not pending. -/
theorem isPending_update_none {i : ℕ} {tx : PendingTransaction} (htx : t.txs[i]? = some tx) :
    ({ t with pending := Function.update t.pending tx.seqNum none } : TransactionTracker).isPending
      i = false := by
  simp [isPending, htx]

/-- Every result and every retransmission a step makes is for a pending transaction. -/
theorem Unique.isPending_of_mem_step (h : t.Unique) {op : TrackerOp} {e : TrackerEvent}
    (he : e ∈ (t.step op).2) : t.isPending e.tx = true := by
  cases op with
  | track => cases he
  | receive data parsed =>
    cases parsed with
    | error => cases he
    | ok msg =>
      have hp := resolve_events he
      obtain ⟨tx, htx, hseq⟩ := h.keys _ _ hp
      exact isPending_iff.2 ⟨tx, htx, hseq ▸ hp⟩
  | checkTimeouts => simp only [step] at he; split_ifs at he <;> cases he
  | handleTimeout =>
    simp only [step] at he
    split at he
    · cases he
    · obtain ⟨hk, tx, j, htx, hj⟩ := handleTimeout_events he
      rw [hk]
      exact isPending_iff.2 ⟨tx, htx, h.pending_eq htx hj ▸ hj⟩
  | cancelAll =>
    simp only [step, cancelAll, List.mem_filterMap, Option.map_eq_some', List.mem_filter] at he
    obtain ⟨i, ⟨-, hpend⟩, tx, -, rfl⟩ := he
    exact hpend

/-- A transaction that receives a result is no longer pending. -/
theorem Unique.not_isPending_of_delivered (h : t.Unique) {op : TrackerOp} {i : ℕ}
    {r : TransactionResult} (he : .delivered i r ∈ (t.step op).2) :
    (t.step op).1.isPending i = false := by
  cases op with
  | track => cases he
  | receive data parsed =>
    cases parsed with
    | error => cases he
    | ok msg =>
      have hp : t.pending msg.sequence = some i := resolve_events he
      obtain ⟨tx, htx, hseq⟩ := h.keys _ _ hp
      show (t.resolve msg.sequence data).1.isPending i = false
      rw [resolve_of_delivered he, ← hseq]
      exact isPending_update_none htx
  | checkTimeouts => simp only [step] at he; split_ifs at he <;> cases he
  | handleTimeout =>
    simp only [step] at he ⊢
    split at he
    · cases he
    · next k rest _ =>
      have hk : k = i := (handleTimeout_events he).1.symm
      obtain ⟨tx, htx, hpost⟩ := handleTimeout_of_delivered he
      subst hk
      rw [hpost]
      exact isPending_update_none htx
  | cancelAll =>
    rw [Bool.eq_false_iff, ne_eq, isPending_iff]
    simp [step, cancelAll]

theorem isPending_of_isPending {t' : TransactionTracker} {i : ℕ} (h : t'.isPending i = true)
    (htxs : t'.txs[i]?.map PendingTransaction.seqNum = t.txs[i]?.map PendingTransaction.seqNum)
    (hpending : ∀ s, t'.pending s = some i → t.pending s = some i) : t.isPending i = true := by
  obtain ⟨tx', htx', hp⟩ := isPending_iff.1 h
  rw [htx', Option.map_some'] at htxs
  obtain ⟨tx, htx, hseq⟩ := Option.map_eq_some'.1 htxs.symm
  exact isPending_iff.2 ⟨tx, htx, hseq ▸ hpending _ hp⟩

theorem pending_of_update_none {p : UInt32 → Option ℕ} {s k : UInt32} {i : ℕ}
    (h : Function.update p s none k = some i) : p k = some i := by
  by_cases hk : k = s
  · subst hk
    simp at h
  · rwa [Function.update_noteq hk] at h

theorem handleTimeout_keeps (t : TransactionTracker) (k i : ℕ) :
    (t.handleTimeout k).1.txs[i]?.map PendingTransaction.seqNum =
        t.txs[i]?.map PendingTransaction.seqNum ∧
      ∀ s, (t.handleTimeout k).1.pending s = some i → t.pending s = some i := by
  unfold handleTimeout
  split
  · exact ⟨rfl, fun _ => id⟩
  · next tx htx =>
    split
    · exact ⟨rfl, fun _ => id⟩
    · split_ifs
      · refine ⟨?_, fun _ => id⟩
        simp only [List.getElem?_set]
        split_ifs with hki hlt
        · subst hki
          simp [htx]
        · subst hki
          exact absurd (List.getElem?_eq_some_iff.1 htx).1 hlt
        · rfl
      · exact ⟨rfl, fun _ => pending_of_update_none⟩

/-- A transaction already tracked is pending after a step only if it was pending before it: once
out of the map, it never comes back. -/
theorem isPending_of_step {op : TrackerOp} {i : ℕ} (hi : i < t.txs.length)
    (h : (t.step op).1.isPending i = true) : t.isPending i = true := by
  cases op with
  | track s d =>
    -- the new key points at the new transaction, not at `i`
    obtain ⟨tx, htx, hp⟩ := isPending_iff.1 h
    simp only [step, List.getElem?_append_left hi] at htx hp
    refine isPending_iff.2 ⟨tx, htx, ?_⟩
    by_cases hs : tx.seqNum = s
    · rw [hs, Function.update_same, Option.some.injEq] at hp
      omega
    · rwa [Function.update_noteq hs] at hp
  | receive data parsed =>
    cases parsed with
    | error => exact h
    | ok msg =>
      simp only [step, resolve] at h
      split at h
      · exact h
      · exact isPending_of_isPending h rfl fun _ => pending_of_update_none
  | checkTimeouts => simp only [step] at h; split_ifs at h <;> exact h
  | handleTimeout =>
    simp only [step] at h
    split at h
    · exact h
    · next k rest _ =>
      obtain ⟨htxs, hpend⟩ := handleTimeout_keeps { t with timedOut := rest } k i
      exact isPending_of_isPending h htxs hpend
  | cancelAll =>
    rw [isPending_iff] at h
    simp [step, cancelAll] at h

/-- A list whose images are distinct has at most one element with a given image. -/
theorem length_filter_le_one {α β : Type} [DecidableEq β] {l : List α} {f : α → β}
    (h : (l.map f).Nodup) (b : β) : (l.filter fun a => f a = b).length ≤ 1 := by
  have hnd : ((l.filter fun a => f a = b).map f).Nodup := h.sublist ((List.filter_sublist l).map f)
  have hrep : (l.filter fun a => f a = b).map f =
      List.replicate (l.filter fun a => f a = b).length b := by
    rw [List.eq_replicate_iff, List.length_map]
    refine ⟨rfl, fun x hx => ?_⟩
    obtain ⟨a, ha, rfl⟩ := List.mem_map.1 hx
    simpa using (List.mem_filter.1 ha).2
  rw [hrep, List.nodup_replicate] at hnd
  exact hnd

theorem length_resolve_events (t : TransactionTracker) (s : UInt32) (data : List UInt8) :
    (t.resolve s data).2.length ≤ 1 := by
  unfold resolve; split <;> simp

theorem length_handleTimeout_events (t : TransactionTracker) (k : ℕ) : (t.handleTimeout k).2.length ≤ 1 := by
  unfold handleTimeout
  split
  · simp
  · split
    · simp
    · split_ifs <;> simp

/-- `CancelAll` sends on each result channel once. -/
theorem nodup_cancelAll_events (t : TransactionTracker) : (t.cancelAll.2.map TrackerEvent.tx).Nodup := by
  rw [cancelAll, List.map_filterMap]
  refine List.Nodup.filterMap (fun a a' b hb hb' => ?_) ((List.nodup_range _).filter _)
  simp only [Option.map_map, Option.mem_def, Option.map_eq_some', Function.comp_apply,
    TrackerEvent.tx] at hb hb'
  obtain ⟨_, _, rfl⟩ := hb
  obtain ⟨_, _, rfl⟩ := hb'
  rfl

/-- A step makes at most one event about each transaction. -/
theorem length_filter_step_le_one (t : TransactionTracker) (op : TrackerOp) (i : ℕ) :
    ((t.step op).2.filter fun e => e.tx = i).length ≤ 1 := by
  cases op with
  | track => simp [step]
  | receive data parsed =>
    cases parsed with
    | error => simp [step]
    | ok msg => exact (List.length_filter_le _ _).trans (t.length_resolve_events _ _)
  | checkTimeouts => simp only [step]; split_ifs <;> simp
  | handleTimeout =>
    simp only [step]
    split
    · simp
    · exact (List.length_filter_le _ _).trans (length_handleTimeout_events _ _)
  | cancelAll => exact length_filter_le_one t.nodup_cancelAll_events i

theorem run_snd_cons (t : TransactionTracker) (op : TrackerOp) (ops : List TrackerOp) :
    (t.run (op :: ops)).2 = (t.step op).2 ++ ((t.step op).1.run ops).2 := rfl

theorem filterMap_trackedSeq_cons (op : TrackerOp) (ops : List TrackerOp) :
    (op :: ops).filterMap TrackerOp.trackedSeq =
      op.trackedSeq.toList ++ ops.filterMap TrackerOp.trackedSeq := by
  cases op <;> rfl

/-- The heap only grows. -/
theorem length_txs_step_le (op : TrackerOp) : t.txs.length ≤ (t.step op).1.txs.length := by
  have := congrArg List.length (seqs_step t op)
  simp only [seqs, List.length_map, List.length_append] at this
  omega

/-- Freshness of the sequence numbers a run tracks, split at its first step. -/
theorem nodup_seqs_step {op : TrackerOp} {ops : List TrackerOp}
    (h : (t.seqs ++ (op :: ops).filterMap TrackerOp.trackedSeq).Nodup) :
    (t.seqs ++ op.trackedSeq.toList).Nodup ∧
      ((t.step op).1.seqs ++ ops.filterMap TrackerOp.trackedSeq).Nodup := by
  rw [filterMap_trackedSeq_cons, ← List.append_assoc] at h
  rw [seqs_step]
  exact ⟨h.sublist (List.sublist_append_left _ _), h⟩

/-- A stored transaction that is not pending is never acted on again by a run that tracks only
fresh sequence numbers. -/
theorem Unique.run_silent (h : t.Unique) {ops : List TrackerOp}
    (hfresh : (t.seqs ++ ops.filterMap TrackerOp.trackedSeq).Nodup) {i : ℕ}
    (hi : i < t.txs.length) (hnp : t.isPending i = false) : ∀ e ∈ (t.run ops).2, e.tx ≠ i := by
  induction ops generalizing t with
  | nil => intro e he; cases he
  | cons op ops ih =>
    obtain ⟨h₁, h₂⟩ := nodup_seqs_step hfresh
    intro e he
    rcases List.mem_append.1 he with he | he
    · rintro rfl
      rw [h.isPending_of_mem_step he] at hnp
      cases hnp
    · refine ih (unique_step h h₁) h₂ (hi.trans_le (length_txs_step_le op)) ?_ e he
      rw [Bool.eq_false_iff]
      intro hp
      rw [isPending_of_step hi hp] at hnp
      cases hnp

/-- The events of one step, of which one is a result, hold no other event about its
transaction. -/
theorem not_tx_after_delivered_in_step {op : TrackerOp} {i : ℕ} {r : TransactionResult}
    {pre post : List TrackerEvent} (hstep : (t.step op).2 = pre ++ .delivered i r :: post)
    {e : TrackerEvent} (he : e ∈ post) : e.tx ≠ i := by
  intro hei
  have hlen := length_filter_step_le_one t op i
  have hpos : 0 < (post.filter fun e => e.tx = i).length :=
    List.length_pos_of_mem (List.mem_filter.2 ⟨he, by simpa using hei⟩)
  rw [hstep, List.filter_append, List.length_append,
    List.filter_cons_of_pos (by simp [TrackerEvent.tx]), List.length_cons] at hlen
  omega

/-- From a state with unique sequence numbers, on a run that tracks only fresh ones, no event
about a transaction follows its result. -/
theorem Unique.nothing_after_delivered (h : t.Unique) {ops : List TrackerOp}
    (hfresh : (t.seqs ++ ops.filterMap TrackerOp.trackedSeq).Nodup) {i : ℕ}
    {r : TransactionResult} {pre post : List TrackerEvent}
    (hrun : (t.run ops).2 = pre ++ .delivered i r :: post) : ∀ e ∈ post, e.tx ≠ i := by
  induction ops generalizing t pre with
  | nil => simp [run] at hrun
  | cons op ops ih =>
    obtain ⟨h₁, h₂⟩ := nodup_seqs_step hfresh
    rw [run_snd_cons] at hrun
    rcases List.append_eq_append_iff.mp hrun with ⟨_, -, hrest⟩ | ⟨c, hstep, hpost⟩
    · -- the result is made by a later step
      exact ih (unique_step h h₁) h₂ hrest
    rcases List.cons_eq_append_iff.mp hpost with ⟨-, hrest⟩ | ⟨c', rfl, rfl⟩
    · -- the result is the first event of a later step
      exact ih (unique_step h h₁) h₂ (show _ = [] ++ _ from hrest)
    -- the result is made by this step, which makes no other event about its transaction and
    -- takes it out of the map
    have hd : .delivered i r ∈ (t.step op).2 := by simp [hstep]
    have hi : i < t.txs.length := by
      obtain ⟨_, htx, -⟩ := isPending_iff.1 (h.isPending_of_mem_step hd)
      exact (List.getElem?_eq_some_iff.1 htx).1
    intro e he
    rcases List.mem_append.1 he with he | he
    · exact not_tx_after_delivered_in_step hstep he
    · exact Unique.run_silent (unique_step h h₁) h₂ (hi.trans_le (length_txs_step_le op))
        (h.not_isPending_of_delivered hd) e he

theorem unique_newTransactionTracker (maxRetries : ℕ) :
    (newTransactionTracker maxRetries).Unique :=
  ⟨fun _ _ h => (nomatch h), List.nodup_nil⟩

end TransactionTracker

/-- On every interleaving of `Track`, the receive path, the timeout sweep and `CancelAll` in which
no sequence number is tracked twice, nothing about a transaction follows its result: no second
send on its result channel, and no retransmission of its request. The runs on which the sweep
acts on a transaction that has left the map track a sequence number twice. -/
theorem nothing_follows_result (maxRetries : ℕ) (ops : List TrackerOp)
    (hseq : (ops.filterMap TrackerOp.trackedSeq).Nodup) {i : ℕ} {r : TransactionResult}
    {pre post : List TrackerEvent}
    (hrun : ((newTransactionTracker maxRetries).run ops).2 = pre ++ .delivered i r :: post) :
    ∀ e ∈ post, e.tx ≠ i :=
  (TransactionTracker.unique_newTransactionTracker maxRetries).nothing_after_delivered hseq hrun

/-- A request retransmitted once and then answered, and a second request cancelled. -/
def answeredThenCancelledRun : List TrackerOp :=
  [.track 7 [1], .checkTimeouts [0], .handleTimeout, .track 8 [3], .receive [2] (.ok response7),
    .cancelAll]

theorem nothing_follows_result_answered :
    (answeredThenCancelledRun.filterMap TrackerOp.trackedSeq).Nodup ∧
      ((newTransactionTracker 1).run answeredThenCancelledRun).2 =
        [.retransmitted 0 [1]] ++ .delivered 0 ⟨7, [2], none⟩ ::
          [.delivered 1 ⟨8, [], some "cancelled"⟩] ∧
      ∀ e ∈ [TrackerEvent.delivered 1 ⟨8, [], some "cancelled"⟩], e.tx ≠ 0 :=
  have hrun : ((newTransactionTracker 1).run answeredThenCancelledRun).2 =
      [.retransmitted 0 [1]] ++ .delivered 0 ⟨7, [2], none⟩ ::
        [.delivered 1 ⟨8, [], some "cancelled"⟩] := by decide
  ⟨by decide, hrun, nothing_follows_result 1 answeredThenCancelledRun (by decide) hrun⟩

end PfcpGenerator
