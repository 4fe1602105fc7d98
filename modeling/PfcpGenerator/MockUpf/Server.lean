import PfcpGenerator.Session.Manager

/-!
# The mock UPF

A model of `mockUPF` (`test/mockupf/main.go`), the UPF the end-to-end tests run the generator
against. It parses each datagram and answers Association Setup and Heartbeat Requests; it stores
a new session under the next UP SEID for each Session Establishment Request whose CP F-SEID
parses, and answers a Session Modification or Deletion Request for a UP SEID it holds, removing
the session on deletion. A datagram it cannot serve gets no reply.

The session table maps a UP SEID to the session's CP SEID: the `upSEID` the Go struct also
stores is its key. The receive loop's counters, which only `printStats` reads, and logging are
left out, and so is the parsing of the listen address, whose host part is `localIP`.

## Main results

* `MockUPF.respond_snd`: a request that fails leaves the UPF as it was, and so does every
  answered request but a Session Establishment or Deletion Request.
* `MockUPF.sequence_of_respond`: every answer carries its request's sequence number.
-/

namespace PfcpGenerator

/-! ## The responses the mock UPF builds -/

namespace MsgType

/-- Heartbeat Response. -/
def heartbeatResponse : UInt8 := 2
/-- Association Setup Response. -/
def associationSetupResponse : UInt8 := 6
/-- Session Modification Response. -/
def sessionModificationResponse : UInt8 := 53
/-- Session Deletion Response. -/
def sessionDeletionResponse : UInt8 := 55

end MsgType

/-- Recovery Time Stamp. -/
def IEType.recoveryTimeStamp : UInt16 := 96

/-- `ie.NewCause`: the cause value as the only octet. -/
def newCause (cause : UInt8) : IE := .mk IEType.cause [cause] []

/-- `ie.NewRecoveryTimeStamp`: the start time as the four octets of its NTP seconds. -/
def newRecoveryTimeStamp (seconds : UInt32) : IE :=
  .mk IEType.recoveryTimeStamp (bytesBE 4 seconds.toNat) []

/-- `mockUPF`, without its socket and its counters. -/
structure MockUPF where
  /-- `net.ParseIP` of the host part of the listen address. -/
  localIP : IP
  /-- `recoveryTS`, as the NTP seconds its Recovery Time Stamp IE carries. -/
  recoveryTS : UInt32
  /-- `sessions`: the CP SEID of the session held under each UP SEID. -/
  sessions : UInt64 → Option UInt64
  nextUPSEID : UInt64

/-- `newMockUPF`, once the listen address is parsed. -/
def newMockUPF (localIP : IP) (recoveryTS : UInt32) : MockUPF :=
  { localIP, recoveryTS, sessions := fun _ => none, nextUPSEID := 1 }

namespace MockUPF

variable (u : MockUPF)

/-- `allocateUPSEID`. -/
def allocateUPSEID : UInt64 × MockUPF := (u.nextUPSEID, { u with nextUPSEID := u.nextUPSEID + 1 })

/-- `lookupCPSEID`. -/
def lookupCPSEID (upSEID : UInt64) : Option UInt64 := u.sessions upSEID

/-- The Association Setup Response of `handleAssociationSetup`. -/
def associationSetupResponse (seq : UInt32) : Message :=
  .other MsgType.associationSetupResponse { seid := 0, sequenceNumber := seq }
    [newNodeID u.localIP, newCause causeRequestAccepted, newRecoveryTimeStamp u.recoveryTS]

/-- The Heartbeat Response of `handleHeartbeat`. -/
def heartbeatResponse (seq : UInt32) : Message :=
  .other MsgType.heartbeatResponse { seid := 0, sequenceNumber := seq }
    [newRecoveryTimeStamp u.recoveryTS]

/-- The Session Establishment Response of `handleSessionEstablishment`: the CP SEID in the
header, and the UP SEID in the UP F-SEID. -/
def sessionEstablishmentResponse (cpSEID : UInt64) (seq : UInt32) (upSEID : UInt64) : Message :=
  .sessionEstablishmentResponse
    { header := { seid := cpSEID, sequenceNumber := seq },
      cause := some (newCause causeRequestAccepted),
      upFSEID := some (newFSEID upSEID (to4 u.localIP) none),
      ies := [newNodeID u.localIP] }

/-- The Session Modification Response of `handleSessionModification`. -/
def sessionModificationResponse (cpSEID : UInt64) (seq : UInt32) : Message :=
  .other MsgType.sessionModificationResponse { seid := cpSEID, sequenceNumber := seq }
    [newCause causeRequestAccepted]

/-- The Session Deletion Response of `handleSessionDeletion`. -/
def sessionDeletionResponse (cpSEID : UInt64) (seq : UInt32) : Message :=
  .other MsgType.sessionDeletionResponse { seid := cpSEID, sequenceNumber := seq }
    [newCause causeRequestAccepted]

/-! ## The handlers -/

/-- `handleSessionEstablishment`: the CP SEID is that of the CP F-SEID; the session is stored
under a new UP SEID before the response is built. -/
def handleSessionEstablishment (req : SessionEstablishmentRequest) :
    Except String Message × MockUPF :=
  match req.cpFSEID with
  | none => (.error "no CP F-SEID in establishment request", u)
  | some cpFSEID =>
    match cpFSEID.fseid with
    | .error e => (.error ("parse CP F-SEID: " ++ e), u)
    | .ok fseid =>
      let (upSEID, u) := u.allocateUPSEID
      (.ok (u.sessionEstablishmentResponse fseid.seid req.header.sequenceNumber upSEID),
        { u with sessions := Function.update u.sessions upSEID (some fseid.seid) })

/-- `handleSessionModification`: the UP SEID is the header SEID. -/
def handleSessionModification (req : SessionModificationRequest) : Except String Message :=
  match u.lookupCPSEID req.header.seid with
  | none => .error ("unknown UP SEID " ++ toString req.header.seid ++ " in modification request")
  | some cpSEID => .ok (sessionModificationResponse cpSEID req.header.sequenceNumber)

/-- `handleSessionDeletion`: the session under the header SEID is removed. -/
def handleSessionDeletion (req : SessionDeletionRequest) : Except String Message × MockUPF :=
  match u.lookupCPSEID req.header.seid with
  | none => (.error ("unknown UP SEID " ++ toString req.header.seid ++ " in deletion request"), u)
  | some cpSEID =>
    (.ok (sessionDeletionResponse cpSEID req.header.sequenceNumber),
      { u with sessions := Function.update u.sessions req.header.seid none })

/-- The type switch of `handleMessage`. -/
def respond : Message → Except String Message × MockUPF
  | .associationSetupRequest req => (.ok (u.associationSetupResponse req.header.sequenceNumber), u)
  | .heartbeatRequest req => (.ok (u.heartbeatResponse req.header.sequenceNumber), u)
  | .sessionEstablishmentRequest req => u.handleSessionEstablishment req
  | .sessionModificationRequest req => (u.handleSessionModification req, u)
  | .sessionDeletionRequest req => u.handleSessionDeletion req
  | msg => (.error ("unhandled message type: " ++ toString msg.messageType), u)

/-- `handleMessage`: the reply to a datagram, or the error that leaves it unanswered, and the
UPF after it. -/
def handleMessage (codec : Codec) (data : List UInt8) : Except String (List UInt8) × MockUPF :=
  match codec.parse data with
  | .error e => (.error ("parse: " ++ e), u)
  | .ok msg =>
    match u.respond msg with
    | (.error e, u') => (.error e, u')
    | (.ok resp, u') =>
      match codec.marshal resp with
      | .error e => (.error ("marshal response: " ++ e), u')
      | .ok b => (.ok b, u')

/-! ## What a request does to the UPF -/

/-- Only a Session Establishment Request whose CP F-SEID parses and a Session Deletion Request
for a held UP SEID change the UPF: the first stores the new session under `nextUPSEID` and
moves the counter on, the second removes the session. -/
theorem respond_snd (msg : Message) :
    (u.respond msg).2 = u ∨
      (∃ req cpFSEID fseid, msg = .sessionEstablishmentRequest req ∧
        req.cpFSEID = some cpFSEID ∧ cpFSEID.fseid = .ok fseid ∧
        u.respond msg =
          (.ok (u.sessionEstablishmentResponse fseid.seid req.header.sequenceNumber u.nextUPSEID),
            { u with sessions := Function.update u.sessions u.nextUPSEID (some fseid.seid),
                     nextUPSEID := u.nextUPSEID + 1 })) ∨
      ∃ req cpSEID, msg = .sessionDeletionRequest req ∧ u.sessions req.header.seid = some cpSEID ∧
        u.respond msg = (.ok (sessionDeletionResponse cpSEID req.header.sequenceNumber),
          { u with sessions := Function.update u.sessions req.header.seid none }) := by
  cases msg with
  | sessionEstablishmentRequest req =>
    simp only [respond, handleSessionEstablishment]
    split
    · exact .inl rfl
    · rename_i cpFSEID hc
      split
      · exact .inl rfl
      · rename_i fseid hf
        exact .inr (.inl ⟨req, cpFSEID, fseid, rfl, hc, hf, rfl⟩)
  | sessionDeletionRequest req =>
    simp only [respond, handleSessionDeletion, lookupCPSEID]
    split
    · exact .inl rfl
    · rename_i cpSEID hs
      exact .inr (.inr ⟨req, cpSEID, rfl, hs, rfl⟩)
  | _ => exact .inl rfl

/-- A request that fails leaves the UPF as it was. -/
theorem respond_snd_of_error {msg : Message} {e : String} (h : (u.respond msg).1 = .error e) :
    (u.respond msg).2 = u := by
  rcases u.respond_snd msg with hu | ⟨_, _, _, _, _, _, hr⟩ | ⟨_, _, _, _, hr⟩
  · exact hu
  all_goals rw [hr] at h; cases h

/-- Every answer carries the sequence number of its request. -/
theorem sequence_of_respond {msg resp : Message} (h : (u.respond msg).1 = .ok resp) :
    resp.sequence = msg.sequence := by
  revert h
  simp only [respond, handleSessionEstablishment, handleSessionModification,
    handleSessionDeletion, allocateUPSEID]
  repeat' split
  all_goals
    intro h
    cases h
  all_goals rfl

/-- The generator reads the UPF's Session Establishment Response as an acceptance, and reads
the new UP SEID from its UP F-SEID. -/
theorem sessionEstablishmentResponse_accepted (cpSEID : UInt64) (seq : UInt32) (upSEID : UInt64) :
    ∃ resp, u.sessionEstablishmentResponse cpSEID seq upSEID = .sessionEstablishmentResponse resp ∧
      rejectedCause resp = none ∧ extractRemoteSEID resp = .ok upSEID := by
  have h4 : ∀ a ∈ to4 u.localIP, a.length = 4 := fun _ ha => length_of_to4 ha
  refine ⟨_, rfl, rfl, ?_⟩
  have h6 : ∀ a ∈ (none : Option IP), a.length = 16 := by simp
  simp [extractRemoteSEID, fseid_newFSEID upSEID h4 h6]

end MockUPF

end PfcpGenerator
