import PfcpGenerator.Pfcp.Ie

/-!
# PFCP messages

The decoded messages the replay core handles, as `go-pfcp`'s message structs: the header and
the IE fields the core reads or writes, with every other IE kept, in order, in `ies`. A message
type the core never looks inside is `Message.other`, which keeps its type and header.

`Message.sequence` and `Message.seid` are `Sequence()` and `SEID()`, the header reads the
receive path and the session lookups use.
-/

namespace PfcpGenerator

/-- The header fields the core reads and writes. The codec carries the version, flag and
priority bits through untouched. -/
structure Header where
  seid : UInt64
  sequenceNumber : UInt32
  deriving DecidableEq

/-- The three octets of the header that carry the sequence number: `Header.MarshalTo` writes
`utils.Uint32To24(SequenceNumber)`, the low 24 bits, most significant first. -/
def sequenceOctets (seq : UInt32) : List UInt8 := bytesBE 3 seq.toNat

/-- `utils.Uint24To32`: the sequence number `ParseHeader` reads back from those octets. -/
def sequenceOfOctets (b : List UInt8) : UInt32 := (valueBE b).toUInt32

/-- The header keeps the low 24 bits of a sequence number. -/
theorem sequenceOfOctets_sequenceOctets (seq : UInt32) :
    (sequenceOfOctets (sequenceOctets seq)).toNat = seq.toNat % 2 ^ 24 := by
  have hlt : seq.toNat % 2 ^ 24 < UInt32.size := by
    have := Nat.mod_lt seq.toNat (show 0 < 2 ^ 24 by decide)
    simp only [UInt32.size]; omega
  rw [sequenceOfOctets, sequenceOctets, valueBE_bytesBE, show (256 : ℕ) ^ 3 = 2 ^ 24 by decide,
    Nat.toUInt32, UInt32.toNat_ofNat_of_lt hlt]

/-- `message.AssociationSetupRequest`. -/
structure AssociationSetupRequest where
  header : Header
  nodeID : Option IE
  ies : List IE
  deriving DecidableEq

/-- `message.SessionEstablishmentRequest`. -/
structure SessionEstablishmentRequest where
  header : Header
  nodeID : Option IE
  cpFSEID : Option IE
  createPDR : List IE
  ies : List IE
  deriving DecidableEq

/-- `message.SessionModificationRequest`. -/
structure SessionModificationRequest where
  header : Header
  createPDR : List IE
  updatePDR : List IE
  ies : List IE
  deriving DecidableEq

/-- `message.SessionDeletionRequest`. -/
structure SessionDeletionRequest where
  header : Header
  ies : List IE
  deriving DecidableEq

/-- `message.HeartbeatRequest`. -/
structure HeartbeatRequest where
  header : Header
  ies : List IE
  deriving DecidableEq

/-- `message.SessionEstablishmentResponse`. -/
structure SessionEstablishmentResponse where
  header : Header
  cause : Option IE
  upFSEID : Option IE
  ies : List IE
  deriving DecidableEq

/-- `message.Message`, by message type. -/
inductive Message
  | heartbeatRequest (m : HeartbeatRequest)
  | associationSetupRequest (m : AssociationSetupRequest)
  | sessionEstablishmentRequest (m : SessionEstablishmentRequest)
  | sessionEstablishmentResponse (m : SessionEstablishmentResponse)
  | sessionModificationRequest (m : SessionModificationRequest)
  | sessionDeletionRequest (m : SessionDeletionRequest)
  | other (msgType : UInt8) (header : Header) (ies : List IE)
  deriving DecidableEq

/-! ## Message type codes of TS 29.244 §7.3 -/

namespace MsgType

/-- Heartbeat Request. -/
def heartbeatRequest : UInt8 := 1
/-- Association Setup Request. -/
def associationSetupRequest : UInt8 := 5
/-- Session Establishment Request. -/
def sessionEstablishmentRequest : UInt8 := 50
/-- Session Establishment Response. -/
def sessionEstablishmentResponse : UInt8 := 51
/-- Session Modification Request. -/
def sessionModificationRequest : UInt8 := 52
/-- Session Deletion Request. -/
def sessionDeletionRequest : UInt8 := 54

end MsgType

namespace Message

/-- The header of a message. -/
def header : Message → Header
  | heartbeatRequest m | associationSetupRequest m | sessionEstablishmentRequest m
  | sessionEstablishmentResponse m | sessionModificationRequest m | sessionDeletionRequest m =>
    m.header
  | other _ header _ => header

/-- `MessageType()`. -/
def messageType : Message → UInt8
  | heartbeatRequest _ => MsgType.heartbeatRequest
  | associationSetupRequest _ => MsgType.associationSetupRequest
  | sessionEstablishmentRequest _ => MsgType.sessionEstablishmentRequest
  | sessionEstablishmentResponse _ => MsgType.sessionEstablishmentResponse
  | sessionModificationRequest _ => MsgType.sessionModificationRequest
  | sessionDeletionRequest _ => MsgType.sessionDeletionRequest
  | other msgType _ _ => msgType

/-- `Sequence()`. -/
def sequence (msg : Message) : UInt32 := msg.header.sequenceNumber

/-- `SEID()`, which `ExtractHeaderSEID` returns. -/
def seid (msg : Message) : UInt64 := msg.header.seid

end Message

/-- `pfcp.IsRequest`: the request message types. -/
def isRequest (msg : Message) : Bool :=
  [1, 5, 7, 9, 50, 52, 54, 56].contains msg.messageType

/-- `pfcp.MessageTypeName`. -/
def messageTypeName (msgType : UInt8) : String :=
  match msgType.toNat with
  | 1 => "HeartbeatRequest"
  | 2 => "HeartbeatResponse"
  | 5 => "AssociationSetupRequest"
  | 6 => "AssociationSetupResponse"
  | 7 => "AssociationUpdateRequest"
  | 8 => "AssociationUpdateResponse"
  | 9 => "AssociationReleaseRequest"
  | 10 => "AssociationReleaseResponse"
  | 50 => "SessionEstablishmentRequest"
  | 51 => "SessionEstablishmentResponse"
  | 52 => "SessionModificationRequest"
  | 53 => "SessionModificationResponse"
  | 54 => "SessionDeletionRequest"
  | 55 => "SessionDeletionResponse"
  | 56 => "SessionReportRequest"
  | 57 => "SessionReportResponse"
  | n => "Unknown(" ++ toString n ++ ")"

/-- `%T` of a decoded message: `*message.` and the name of go-pfcp's struct for its type, which
is the name `messageTypeName` gives the sixteen types it knows. -/
def Message.goTypeName (msg : Message) : String :=
  "*message." ++ messageTypeName msg.messageType

end PfcpGenerator
