import PfcpGenerator.Session.Manager

/-!
# Replay of a recording

The loops around the handlers: the part of `ParseWithMappings` (`internal/pcap/parser.go`)
that picks the requests and the SEID mappings out of a recording, the loop of
`Manager.Replay` over the requests, and the loop of `Manager.CleanupSessions`
(`internal/session/manager.go`). Both loops check the context before each message or session
and stop once it is done; the inter-message delay is not modelled, and cancellation during it
is the check before the next message.

`Reachable` is every manager these loops can reach from a new manager with the table of a
recording set, for every outcome of every exchange; its cleanup step may act on any session.

## Main results

* `indexed_of_reachable`: in every reachable state the maps point every key at the most recent
  session with that key.
* `attached_of_reachable`: in every reachable state every SEID and UE IP the manager holds
  belongs to a stored session.
* `replay_err_only_when_cancelled`: `Replay` returns an error only when the context is done;
  otherwise it handles every message, whatever each handler returns, so a failed send or a failed
  Association Setup does not stop it (`replay_continues_after_failed_send`).
* `cleanupSessions_deletes_established`: with every deletion answered, `CleanupSessions` marks
  deleted every established session `byLocalSEID` holds, in whatever order it visits the map.
* `requests_resolve_to_latest_session`: a Session Modification or Deletion Request with header
  SEID `R` goes to the most recent session whose original CP SEID the table sends to `R`, with
  that session's remote SEID.
* Runs: a CP SEID reused after a deletion leaves the first session's requests unresolved; the
  session of a rejected establishment is sent a modification and a deletion with header SEID
  `0`; a session deleted twice frees the UE IP of a live session, which the next establishment
  is given again.
-/

namespace PfcpGenerator

/-- `types.RawPFCPMessage`; `Replay` reads only its bytes. -/
structure RawPFCPMessage where
  data : List UInt8
  deriving DecidableEq

/-- The SEID mapping a decoded message of the recording yields: the header SEID and the UP
F-SEID of a Session Establishment Response whose UP F-SEID parses. -/
def seidMapping : Message → List SEIDMapping
  | msg@(.sessionEstablishmentResponse resp) =>
    match resp.upFSEID with
    | some upFSEID =>
      match upFSEID.fseid with
      | .ok fseid => [{ originalCPSEID := msg.seid, originalRemoteSEID := fseid.seid }]
      | .error _ => []
    | none => []
  | _ => []

/-- `ParseWithMappings` from the UDP payloads of the recording's PFCP packets on: the requests,
in order, and the SEID mappings of its Session Establishment Responses, in order. -/
def parseWithMappings (codec : Codec) : List (List UInt8) → List RawPFCPMessage × List SEIDMapping
  | [] => ([], [])
  | payload :: rest =>
    let r := parseWithMappings codec rest
    if payload = [] then r
    else
      match codec.decode payload with
      | .error _ => r
      | .ok msg =>
        if isRequest msg then ({ data := payload } :: r.1, seidMapping msg ++ r.2)
        else (r.1, seidMapping msg ++ r.2)

/-- What the replay loop did with one message of the recording. -/
inductive ReplayEntry
  /-- `pfcp.Decode` failed and the message was skipped. -/
  | skipped (index : ℕ) (err : String)
  /-- `processMessage` ran: the error it returned, which is logged, and the request it sent. -/
  | processed (index : ℕ) (err : Option String) (sent : Option Message)
  deriving DecidableEq

/-- The error `processMessage` returned for an entry, if any. -/
def ReplayEntry.err : ReplayEntry → Option String
  | .skipped _ _ => none
  | .processed _ err _ => err

/-- The request sent for an entry, if any. -/
def ReplayEntry.sent : ReplayEntry → Option Message
  | .skipped _ _ => none
  | .processed _ _ sent => sent

/-- The loop of `Replay` from the message at `index` on; `outside index` is what the world
answers while that message is handled. The error the loop returns, the manager after it, and
what it did with each message. -/
def replayLoop (codec : Codec) (outside : ℕ → Outside) :
    Manager → ℕ → List RawPFCPMessage → Option String × Manager × List ReplayEntry
  | m, _, [] => (none, m, [])
  | m, index, raw :: rest =>
    if (outside index).cancelled then (some "context canceled", m, [])
    else
      match codec.decode raw.data with
      | .error e =>
        let r := replayLoop codec outside m (index + 1) rest
        (r.1, r.2.1, .skipped index e :: r.2.2)
      | .ok msg =>
        let out := m.processMessage codec (outside index) msg
        let r := replayLoop codec outside out.manager (index + 1) rest
        (r.1, r.2.1, .processed index out.err out.sent :: r.2.2)

/-- `Replay`. -/
def replay (m : Manager) (codec : Codec) (outside : ℕ → Outside) (messages : List RawPFCPMessage) :
    Option String × Manager × List ReplayEntry :=
  replayLoop codec outside m 0 messages

/-- The loop of `CleanupSessions` over the collected pointers, from the `k`-th on. The manager
after it, and the requests it sent. -/
def cleanupLoop (codec : Codec) (outside : ℕ → Outside) :
    Manager → ℕ → List ℕ → Manager × List Message
  | m, _, [] => (m, [])
  | m, k, i :: rest =>
    if (outside k).cancelled then (m, [])
    else
      let r := cleanupLoop codec outside (m.cleanupSession codec (outside k) i).1 (k + 1) rest
      (r.1, (m.cleanupSession codec (outside k) i).2.toList ++ r.2)

/-- `CleanupSessions`, where `range` visits the values of `byLocalSEID` in the order `order`. -/
def cleanupSessions (m : Manager) (codec : Codec) (outside : ℕ → Outside) (order : List ℕ) :
    Manager × List Message :=
  cleanupLoop codec outside m 0 (m.activeSessions order)

/-! ## What `Replay` returns -/

/-- The managers `Replay` and `CleanupSessions` can reach from a new manager with the table of a
recording set, for every outcome of every exchange. A cleanup step may act on any session. -/
inductive Reachable (codec : Codec) : Manager → Prop
  | init (associationEnabled : Bool) (modifier : Modifier) (seidStrategy : String)
      (seidStart : UInt64) (ueIPPool : CIDR4) (mappings : List SEIDMapping) :
      Reachable codec
        ((newManager associationEnabled modifier seidStrategy seidStart ueIPPool).setSEIDMappings
          mappings)
  | process {m : Manager} (o : Outside) (msg : Message) :
      Reachable codec m → Reachable codec (m.processMessage codec o msg).manager
  | cleanup {m : Manager} (o : Outside) (i : ℕ) :
      Reachable codec m → Reachable codec (m.cleanupSession codec o i).1

section Runs

variable {codec : Codec} (outside : ℕ → Outside)

theorem reachable_replayLoop {m : Manager} (hm : Reachable codec m) (index : ℕ)
    (messages : List RawPFCPMessage) :
    Reachable codec (replayLoop codec outside m index messages).2.1 := by
  induction messages generalizing m index with
  | nil => exact hm
  | cons raw rest ih =>
    unfold replayLoop
    split
    · exact hm
    · split
      · exact ih hm _
      · exact ih (.process _ _ hm) _

theorem reachable_cleanupLoop {m : Manager} (hm : Reachable codec m) (k : ℕ) (pointers : List ℕ) :
    Reachable codec (cleanupLoop codec outside m k pointers).1 := by
  induction pointers generalizing m k with
  | nil => exact hm
  | cons i rest ih =>
    unfold cleanupLoop
    split
    · exact hm
    · exact ih (.cleanup _ _ hm) _

end Runs

theorem indexed_of_reachable {codec : Codec} {m : Manager} (h : Reachable codec m) :
    m.Indexed := by
  induction h with
  | init => exact Manager.indexed_setSEIDMappings ..
  | process o msg _ ih => exact ih.effect (Manager.effect_processMessage ..)
  | cleanup o i _ ih => exact ih.effect (Manager.effect_cleanupSession ..)

theorem indexed_after_heartbeat :
    (((newManager true plainModifier "random" 0 pool24).setSEIDMappings [⟨100, 200⟩]).processMessage
      (tableCodec []) (answered []) (.heartbeatRequest ⟨⟨0, 1⟩, []⟩)).manager.Indexed :=
  indexed_of_reachable (.process _ _ (.init true plainModifier "random" 0 pool24 _))

/-- In every state `Replay` and `CleanupSessions` reach, every SEID the allocator holds is the
local SEID of a stored session and every UE IP the pool holds is the UE IP of one: no call leaves
an allocation that no session has. -/
theorem attached_of_reachable {codec : Codec} {m : Manager} (h : Reachable codec m) :
    m.Attached := by
  induction h with
  | init => exact Manager.attached_setSEIDMappings ..
  | process o msg _ ih => exact ih.effect (Manager.effect_processMessage ..)
  | cleanup o i _ ih => exact ih.effect (Manager.effect_cleanupSession ..)

theorem attached_after_rejected_establishment :
    ((freshManager pool24 []).processMessage (tableCodec [establishmentResponse 1 64 0])
      (answered [0]) (establishmentRequest 100)).manager.Attached :=
  attached_of_reachable (.process _ _ (.init false plainModifier "sequential" 1 pool24 []))

/-- In a manager whose maps are `Indexed`, as every reachable one is, a request with header SEID
`R` resolves to the most recent session whose original CP SEID the table of original SEIDs sends
to `R`, and a Session Modification or Deletion Request with header SEID `R` is sent, where it
marshals and `client.Send` succeeds, with that session's remote SEID. Where the table sends a
reused CP SEID `c` to a later response's SEID, no request of `c`'s earlier sessions resolves, as
the run `reuseRun` shows. -/
theorem requests_resolve_to_latest_session {codec : Codec} {m : Manager} (hm : m.Indexed)
    {R : UInt64} {i : ℕ}
    (hi : latest (m.sessions.map fun s => m.originalSEIDMappings s.originalCPSEID) R = some i)
    (o : Outside) (hmarshal : ∀ msg, ∃ b, codec.marshal msg = .ok b) (hsend : o.sendError = none)
    (req : SessionModificationRequest) (hreq : req.header.seid = R)
    (dreq : SessionDeletionRequest) (hdreq : dreq.header.seid = R) :
    m.findSessionByOriginalRemoteSEID R = some i ∧
      (m.processMessage codec o (.sessionModificationRequest req)).sent.map Message.seid =
        some (m.session i).remoteSEID ∧
      (m.processMessage codec o (.sessionDeletionRequest dreq)).sent.map Message.seid =
        some (m.session i).remoteSEID := by
  have hfind : m.findSessionByOriginalRemoteSEID R = some i := by
    rw [Manager.findSessionByOriginalRemoteSEID, hm.byOriginalRemoteSEID, hi]
  refine ⟨hfind, ?_, ?_⟩
  · rw [Manager.processMessage_sessionModificationRequest, Manager.handleSessionModification]
    simp only [Message.seid, Message.header, hreq, hfind]
    rw [Manager.request_sent m codec o rfl (hmarshal _) hsend]
    rfl
  · rw [Manager.processMessage_sessionDeletionRequest, Manager.handleSessionDeletion]
    simp only [Message.seid, Message.header, hdreq, hfind]
    rw [Manager.request_sent m codec o rfl (hmarshal _) hsend]
    rfl

/-- A peer that accepts with the datagram `[0]`, giving the remote SEID `7000`. -/
def acceptCodec : Codec := tableCodec [establishmentResponse 1 1 7000]

/-- A manager that has established one session for the original CP SEID `100`, whose original
remote SEID the table gives as `200`. -/
def establishedSession : Manager :=
  ((freshManager pool24 [⟨100, 200⟩]).processMessage acceptCodec (answered [0])
    (establishmentRequest 100)).manager

/-! ## Cleanup with every exchange answered -/

section Cleanup

variable {codec : Codec} {outside : ℕ → Outside}

/-- With the context never done and every deletion answered, the cleanup loop leaves deleted
every session it visits and every session already deleted. -/
theorem cleanupLoop_deleted
    (hok : ∀ k, (outside k).cancelled = false ∧ (outside k).sendError = none ∧
      (outside k).result.error = none)
    (henc : ∀ msg, ∃ b, codec.marshal msg = .ok b) {m : Manager} (k : ℕ) (pointers : List ℕ)
    {i : ℕ} (hlen : i < m.sessions.length) (hi : i ∈ pointers ∨ (m.session i).state = .deleted) :
    ((cleanupLoop codec outside m k pointers).1.session i).state = .deleted := by
  induction pointers generalizing m k with
  | nil => simpa using hi
  | cons j rest ih =>
    have hcancel : ¬(outside k).cancelled = true := by simp [(hok k).1]
    rw [cleanupLoop, if_neg hcancel,
      m.cleanupSession_answered codec _ j henc (hok k).2.1 (hok k).2.2]
    refine ih _ (by simpa [Manager.setState] using hlen) ?_
    by_cases hij : i = j
    · subst hij
      refine .inr ?_
      rw [Manager.session_setState_self]
      exact hlen
    · rw [Manager.session_setState_of_ne _ hij]
      simpa [hij] using hi

end Cleanup

/-- With the context never done and every deletion answered, `CleanupSessions` marks deleted
every session `byLocalSEID` holds that was established, whatever order `range` visits the map
in. -/
theorem cleanupSessions_deletes_established {codec : Codec} {outside : ℕ → Outside}
    (hok : ∀ k, (outside k).cancelled = false ∧ (outside k).sendError = none ∧
      (outside k).result.error = none)
    (henc : ∀ msg, ∃ b, codec.marshal msg = .ok b) {m : Manager} {order : List ℕ}
    (horder : ∀ i ∈ m.byLocalSEIDValues, i ∈ order) {i : ℕ} (hi : i ∈ m.byLocalSEIDValues)
    (hestablished : (m.session i).state = .established) :
    ((cleanupSessions m codec outside order).1.session i).state = .deleted := by
  have hlen : i < m.sessions.length := by
    simpa using (List.mem_filter.1 hi).1
  refine cleanupLoop_deleted hok henc 0 _ hlen (.inl ?_)
  simpa [Manager.activeSessions, hestablished] using horder i hi

theorem cleanupSessions_deletes_established_one :
    (∀ _ : ℕ, (answered []).cancelled = false ∧ (answered []).sendError = none ∧
        (answered []).result.error = none) ∧
      (∀ msg, ∃ b, acceptCodec.marshal msg = .ok b) ∧
      (∀ i ∈ establishedSession.byLocalSEIDValues, i ∈ [0]) ∧
      0 ∈ establishedSession.byLocalSEIDValues ∧
      (establishedSession.session 0).state = .established ∧
      ((cleanupSessions establishedSession acceptCodec (fun _ => answered []) [0]).1.session
        0).state = .deleted :=
  have hok : ∀ _ : ℕ, (answered []).cancelled = false ∧ (answered []).sendError = none ∧
      (answered []).result.error = none := fun _ => ⟨rfl, rfl, rfl⟩
  have henc : ∀ msg, ∃ b, acceptCodec.marshal msg = .ok b :=
    fun _ => ⟨[], rfl⟩
  ⟨hok, henc, by decide, by decide, by decide,
    cleanupSessions_deletes_established hok henc (by decide) (by decide) (by decide)⟩

/-! ## A CP SEID reused after a deletion -/

/-- A recording in which the original CP SEID `100` is used by a session, which is modified and
deleted, and then by a second session, which the peer of the recording gave the remote SEID
`300` where it gave the first `200`. The datagram `[8]` is the live peer's acceptance. -/
def reuseTable : List Message :=
  [establishmentRequest 100, establishmentResponse 100 1 200, modificationRequest 200,
    deletionRequest 200, establishmentRequest 100, establishmentResponse 100 1 300,
    modificationRequest 300, deletionRequest 300, establishmentResponse 1 1 7000]

/-- The requests and the table `ParseWithMappings` takes from the recording `reuseTable`. -/
def reuseParsed : List RawPFCPMessage × List SEIDMapping :=
  parseWithMappings (tableCodec reuseTable) ((List.range 8).map fun k => [k.toUInt8])

/-- The replay of the recording against a peer that accepts every request. -/
def reuseRun : Option String × Manager × List ReplayEntry :=
  replay (freshManager pool24 reuseParsed.2) (tableCodec reuseTable) (fun _ => answered [8])
    reuseParsed.1

/-- The table keeps `100 ↦ 300` only, so the first session is entered under `300`: its
modification and its deletion, with header SEID `200`, resolve to no session and are dropped. -/
theorem reused_cp_seid_leaves_requests_unresolved :
    reuseParsed.2 = [⟨100, 200⟩, ⟨100, 300⟩] ∧
      reuseRun.2.2.map ReplayEntry.err =
        [none, some "no session found for original remote SEID 200",
          some "no session found for original remote SEID 200", none, none, none] := by
  decide

/-! ## A rejected establishment -/

/-- A recording that establishes the session of original CP SEID `100`, then modifies and deletes
it under its original remote SEID `200`; the peer rejects the establishment with cause `64` and
the deletion with cause `64`. -/
def rejectTable : List Message :=
  [establishmentRequest 100, modificationRequest 200, deletionRequest 200,
    establishmentResponse 1 64 0, .other 55 { seid := 0, sequenceNumber := 3 } [.mk IEType.cause [64] []]]

/-- The replay of `rejectTable`'s recording. -/
def rejectRun : Option String × Manager × List ReplayEntry :=
  replay (freshManager pool24 [⟨100, 200⟩]) (tableCodec rejectTable)
    (fun k => answered (if k = 0 then [3] else [4])) [⟨[0]⟩, ⟨[1]⟩, ⟨[2]⟩]

/-- The failed session is sent the modification and the deletion, both with header SEID `0`, and
the rejected deletion marks it deleted. -/
theorem failed_session_is_sent_requests :
    rejectRun.2.2.map ReplayEntry.err = [some "Session Establishment rejected with cause 64", none, none] ∧
      (rejectRun.2.2.filterMap ReplayEntry.sent).map (fun msg => (msg.messageType, msg.seid)) =
        [(MsgType.sessionEstablishmentRequest, 0), (MsgType.sessionModificationRequest, 0),
          (MsgType.sessionDeletionRequest, 0)] ∧
      (rejectRun.2.1.session 0).state = .deleted := by
  decide

/-! ## A session deleted twice -/

/-- The UE pool `10.60.0.0/31`, whose only address other than the network address is
`10.60.0.1`. -/
def pool31 : CIDR4 := ⟨[10, 60, 0, 0], rfl, 31, by decide⟩

/-- A recording that establishes the sessions of original CP SEIDs `100`, `101` and `102` and
deletes the first twice, with the table `100 ↦ 200`, `101 ↦ 201`, `102 ↦ 202`. The datagram
`[4]` is the live peer's acceptance. -/
def twiceTable : List Message :=
  [establishmentRequest 100, establishmentRequest 101, establishmentRequest 102, deletionRequest 200,
    establishmentResponse 1 1 7000]

/-- The replay of the first `n` messages of the recording: establish `100`, delete it, establish
`101`, delete `100` again, establish `102`. -/
def twiceRun (n : ℕ) : Option String × Manager × List ReplayEntry :=
  replay (freshManager pool31 [⟨100, 200⟩, ⟨101, 201⟩, ⟨102, 202⟩]) (tableCodec twiceTable)
    (fun _ => answered [4]) ([⟨[0]⟩, ⟨[3]⟩, ⟨[1]⟩, ⟨[3]⟩, ⟨[2]⟩].take n)

/-- The second deletion of the first session releases `10.60.0.1`, which the established second
session holds; the third establishment is then given `10.60.0.1` as well. -/
theorem double_deletion_reissues_ue_ip :
    ((twiceRun 4).2.1.session 1).state = .established ∧
      ipKey ((twiceRun 4).2.1.session 1).ueIP ∉ (twiceRun 4).2.1.ipPool.allocated ∧
      (twiceRun 5).2.2.map ReplayEntry.err = [none, none, none, none, none] ∧
      ((twiceRun 5).2.1.session 1).state = .established ∧
      ((twiceRun 5).2.1.session 2).state = .established ∧
      ((twiceRun 5).2.1.session 1).ueIP = [10, 60, 0, 1] ∧
      ((twiceRun 5).2.1.session 2).ueIP = [10, 60, 0, 1] := by
  decide

/-! ## Failed sends and Association Setups -/

/-- An Association Setup Request, a Heartbeat Request, and the peer's Association Setup Response
with cause `64`. -/
def failureTable : List Message :=
  [.associationSetupRequest { header := { seid := 0, sequenceNumber := 1 }, nodeID := none, ies := [] },
    .heartbeatRequest { header := { seid := 0, sequenceNumber := 2 }, ies := [] },
    .other 6 { seid := 0, sequenceNumber := 1 } [.mk IEType.cause [64] []]]

/-- With association enabled, the replay of two Association Setup Requests and two Heartbeat
Requests: the first Association Setup times out, the second is answered with cause `64`, the
first Heartbeat Request cannot be sent, and the second is answered. -/
def failureRun : Option String × Manager × List ReplayEntry :=
  replay (newManager true plainModifier "sequential" 1 pool24) (tableCodec failureTable)
    (fun k => match k with
      | 0 => timedOut
      | 2 => { answered [] with sendError := some "connection refused" }
      | _ => answered [2])
    [⟨[0]⟩, ⟨[0]⟩, ⟨[1]⟩, ⟨[1]⟩]

/-- `Replay` sends every later request after the timed-out Association Setup and after the
failed send, and returns no error; the Association Setup rejected with cause `64` is not even
reported. -/
theorem replay_continues_after_failed_send :
    failureRun.1 = none ∧
      failureRun.2.2.map ReplayEntry.err =
        [some "Association Setup failed: timeout after 3 retries", none,
          some "failed to send Heartbeat: connection refused", none] ∧
      (failureRun.2.2.filterMap ReplayEntry.sent).map Message.messageType = [5, 5, 1, 1] := by
  decide

end PfcpGenerator
