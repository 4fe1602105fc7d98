import Mathlib.Data.List.Forall2
import PfcpGenerator.Pfcp.Message

/-!
# The message modifier

A model of `Modifier` (`internal/pfcp/modifier.go`), which rewrites the identifiers of a
recorded request before it is sent to the live peer: the header SEID and sequence number, the
CP F-SEID, the Node ID, and the UE IP Address IEs nested in the PDI children of each Create or
Update PDR. A nested rewrite rebuilds each enclosing group bottom-up from its children.

`ModifySessionEstablishment` and `ModifySessionModification` return an `error` in Go, but the
only error they pass on comes from `modifyUEIPInCreatePDRs`, which always returns `nil`; here
they return `.ok`, and `modify_changes_only_named_fields` records that they never fail.

The loops of `modifyUEIPInPDR` and `modifyUEIPInPDI` differ only in the child type they look
for and the rewrite they apply to it, so both are `rewriteChildren` with their own arguments.

Main results:

* `createModifiedUEIPIE_spec`: the replacement of a UE IP Address IE in both modes; without
  `stripIPv6` the prefix octets survive only under `V6`
  (`createModifiedUEIPIE_drops_delegation_bits`).
* `modifyUEIPInPDR_rewrite`: a rebuilt Create or Update PDR keeps its type and the order of its
  children, and its payload is the encoding of its new children; every child but a PDI is
  unchanged, a PDI is rebuilt from exactly its children with the accepted UE IP Address IEs
  rewritten; a PDR or PDI with nothing to rewrite is left identical.
* `modify_changes_only_named_fields`: the whole message, down to the payload of every rebuilt
  group, differs from the input only in the fields the rewrite names.
-/

namespace PfcpGenerator

/-- `Modifier`: the configured SMF address, as `net.ParseIP` returns it (sixteen bytes), and the
policy that strips the IPv6 part of rewritten UE IP Address IEs. -/
structure Modifier where
  /-- `smfIP`, `nil` when no SMF address is configured. -/
  smfIP : Option IP
  smfIP_length : ∀ ip ∈ smfIP, ip.length = 16
  /-- `stripIPv6`. -/
  stripIPv6 : Bool

namespace Modifier

variable (m : Modifier)

/-- The Node ID the modifier leaves: `NewNodeID` of the SMF address where one is configured and
the message carries a Node ID, the original otherwise. -/
def replaceNodeID (nodeID : Option IE) : Option IE :=
  match m.smfIP, nodeID with
  | some ip, some _ => some (newNodeID ip)
  | _, _ => nodeID

/-- `ModifyAssociationSetup`. -/
def modifyAssociationSetup (msg : AssociationSetupRequest) (seqNum : UInt32) :
    Except String AssociationSetupRequest :=
  .ok { msg with header := { msg.header with sequenceNumber := seqNum },
                 nodeID := m.replaceNodeID msg.nodeID }

/-- The addresses of the F-SEID `ModifySessionEstablishment` writes: the SMF address in its own
family where one is configured, else those of the original F-SEID where it parses. -/
def fseidAddresses (original : IE) : Option IP × Option IP :=
  match m.smfIP with
  | some ip => if (to4 ip).isSome then (to4 ip, none) else (none, some ip)
  | none =>
    match original.fseid with
    | .ok f => (f.ipv4Address, f.ipv6Address)
    | .error _ => (none, none)

/-- `createModifiedUEIPIE`: the replacement for a UE IP Address IE, or `nil` when the IE does
not parse or, with `stripIPv6` off, has no IPv4 part. The address strings the Go code builds are
parsed back by `ie.NewUEIPAddress`, which gives the addresses themselves. -/
def createModifiedUEIPIE (original : IE) (newUEIP : IP) : Option IE :=
  match original.ueIPAddress with
  | .error _ => none
  | .ok fields =>
    if m.stripIPv6 then
      let flags := fields.flags &&& ~~~0x01
      let flags := flags ||| 0x02
      let flags := flags &&& ~~~0x08
      let flags := flags &&& ~~~0x40
      some (newUEIPAddress flags (to4 newUEIP) none 0 0)
    else if fields.flags &&& 0x02 != 0 then
      if fields.flags &&& 0x01 != 0 ∧ fields.ipv6Address.isSome then
        some (newUEIPAddress fields.flags (to4 newUEIP) fields.ipv6Address
          fields.ipv6PrefixDelegationBits fields.ipv6PrefixLength)
      else some (newUEIPAddress fields.flags (to4 newUEIP) none 0 0)
    else none

set_option maxRecDepth 2000 in
/-- The flag octet of the strip branch is `(f &^ 0x49) | 0x02`, with `V4` set and `V6`, `IPv6D`
and `IP6PL` clear, for each of the 256 octets. -/
theorem strip_flags (x : UInt8) :
    (((x &&& ~~~0x01) ||| 0x02) &&& ~~~0x08) &&& ~~~0x40 = x &&& ~~~0x49 ||| 0x02 ∧
      ((x &&& ~~~0x49 ||| 0x02) &&& 0x02 != 0) = true ∧
      ((x &&& ~~~0x49 ||| 0x02) &&& 0x01 != 0) = false ∧
      ((x &&& ~~~0x49 ||| 0x02) &&& 0x08 != 0) = false ∧
      ((x &&& ~~~0x49 ||| 0x02) &&& 0x40 != 0) = false := by
  obtain ⟨⟨n, hn⟩⟩ := x
  revert n
  decide

/-- With `stripIPv6`, the replacement encodes the flag octet `(f &^ 0x49) | 0x02` and the four
octets of the new address, and nothing else. -/
theorem createModifiedUEIPIE_strip (hm : m.stripIPv6 = true) {i : IE} {f : UEIPAddressFields}
    (hi : i.ueIPAddress = .ok f) {ip a : IP} (ha : to4 ip = some a) :
    m.createModifiedUEIPIE i ip =
      some (.mk IEType.ueIPAddress ((f.flags &&& ~~~0x49 ||| 0x02) :: a) []) := by
  obtain ⟨hflags, h2, h1, h8, h40⟩ := strip_flags f.flags
  simp only [createModifiedUEIPIE, hi, hm, if_true, hflags, newUEIPAddress,
    UEIPAddressFields.marshal, h2, h1, h8, h40, ha]
  simp

/-- Without `stripIPv6`, an IE with `V4` set is replaced by one that decodes to its own fields
with the new IPv4 address, except that the prefix octets survive only where `V6` is set: without
`V6` the Go code passes `0` for both. -/
theorem createModifiedUEIPIE_keep (hm : m.stripIPv6 = false) {i : IE} {f : UEIPAddressFields}
    (hi : i.ueIPAddress = .ok f) (hv4 : (f.flags &&& 0x02 != 0) = true) {ip a : IP}
    (ha : to4 ip = some a) :
    ∃ r, m.createModifiedUEIPIE i ip = some r ∧
      r.ueIPAddress = .ok { f with
        ipv4Address := some a,
        ipv6PrefixDelegationBits := if f.flags &&& 0x01 != 0 then f.ipv6PrefixDelegationBits else 0,
        ipv6PrefixLength := if f.flags &&& 0x01 != 0 then f.ipv6PrefixLength else 0 } := by
  have hf := IE.wellFormed_of_ueIPAddress hi
  simp only [createModifiedUEIPIE, hi, hm, hv4, ← hf.v6, and_self, ha]
  cases h6 : f.flags &&& 0x01 != 0
  · -- no IPv6 part: both prefix octets are passed as `0`
    have hnone : f.ipv6Address = none := by
      simpa [h6] using hf.v6.symm
    have hg : UEIPAddressFields.WellFormed ⟨f.flags, some a, none, 0, 0⟩ :=
      ⟨hv4, by rintro _ ⟨⟩; exact length_of_to4 ha, by simp [h6], by simp, fun _ => rfl,
        fun _ => rfl⟩
    refine ⟨_, rfl, ?_⟩
    simpa [hnone] using ueIPAddress_newUEIPAddress hg
  · have hg : UEIPAddressFields.WellFormed { f with ipv4Address := some a } :=
      ⟨hv4, by rintro _ ⟨⟩; exact length_of_to4 ha, hf.v6, hf.v6_length, hf.v6d, hf.v6pl⟩
    exact ⟨_, rfl, by simpa using ueIPAddress_newUEIPAddress hg⟩

/-- An IE with `V4` and `IPv6D` set but not `V6`, and prefix delegation bits `5`, is rewritten
without `stripIPv6` to one whose prefix delegation bits are `0`. -/
theorem createModifiedUEIPIE_drops_delegation_bits :
    (IE.mk IEType.ueIPAddress [0x0a, 10, 0, 0, 1, 5] []).ueIPAddress =
        .ok ⟨0x0a, some [10, 0, 0, 1], none, 5, 0⟩ ∧
      { m with stripIPv6 := false }.createModifiedUEIPIE
          (.mk IEType.ueIPAddress [0x0a, 10, 0, 0, 1, 5] []) [10, 60, 0, 1] =
        some (.mk IEType.ueIPAddress [0x0a, 10, 60, 0, 1, 0] []) ∧
      (IE.mk IEType.ueIPAddress [0x0a, 10, 60, 0, 1, 0] []).ueIPAddress =
        .ok ⟨0x0a, some [10, 60, 0, 1], none, 0, 0⟩ :=
  ⟨rfl, rfl, rfl⟩

/-- Without `stripIPv6`, an IE without `V4` gets no replacement, so the loop of
`modifyUEIPInPDI` keeps it. -/
theorem createModifiedUEIPIE_of_v4_clear (hm : m.stripIPv6 = false) {i : IE}
    {f : UEIPAddressFields} (hi : i.ueIPAddress = .ok f) (hv4 : (f.flags &&& 0x02 != 0) = false)
    (ip : IP) : m.createModifiedUEIPIE i ip = none := by
  simp [createModifiedUEIPIE, hi, hm, hv4]

/-- What `createModifiedUEIPIE` makes of every UE IP Address IE that decodes and every IPv4
address: with `stripIPv6`, the stripped flag octet and the address; without it, the same fields
with the new address and the prefix octets kept only under `V6` where `V4` is set, and no
replacement where it is clear. -/
theorem createModifiedUEIPIE_spec {i : IE} {f : UEIPAddressFields} (hi : i.ueIPAddress = .ok f)
    {ip a : IP} (ha : to4 ip = some a) :
    (m.stripIPv6 = true → m.createModifiedUEIPIE i ip =
        some (.mk IEType.ueIPAddress ((f.flags &&& ~~~0x49 ||| 0x02) :: a) [])) ∧
      (m.stripIPv6 = false → (f.flags &&& 0x02 != 0) = true →
        ∃ r, m.createModifiedUEIPIE i ip = some r ∧
          r.ueIPAddress = .ok { f with
            ipv4Address := some a,
            ipv6PrefixDelegationBits :=
              if f.flags &&& 0x01 != 0 then f.ipv6PrefixDelegationBits else 0,
            ipv6PrefixLength := if f.flags &&& 0x01 != 0 then f.ipv6PrefixLength else 0 }) ∧
      (m.stripIPv6 = false → (f.flags &&& 0x02 != 0) = false →
        m.createModifiedUEIPIE i ip = none) :=
  ⟨fun hm => m.createModifiedUEIPIE_strip hm hi ha,
    fun hm hv4 => m.createModifiedUEIPIE_keep hm hi hv4 ha,
    fun hm hv4 => m.createModifiedUEIPIE_of_v4_clear hm hi hv4 ip⟩

theorem createModifiedUEIPIE_spec_stripped :
    (IE.mk IEType.ueIPAddress [0x42, 10, 0, 0, 1, 64] []).ueIPAddress =
        .ok ⟨0x42, some [10, 0, 0, 1], none, 0, 64⟩ ∧
      to4 [10, 60, 0, 1] = some [10, 60, 0, 1] ∧
      Modifier.createModifiedUEIPIE ⟨none, by simp, true⟩
          (.mk IEType.ueIPAddress [0x42, 10, 0, 0, 1, 64] []) [10, 60, 0, 1] =
        some (.mk IEType.ueIPAddress [0x02, 10, 60, 0, 1] []) :=
  have hi : (IE.mk IEType.ueIPAddress [0x42, 10, 0, 0, 1, 64] []).ueIPAddress =
      .ok ⟨0x42, some [10, 0, 0, 1], none, 0, 64⟩ := rfl
  have ha : to4 [10, 60, 0, 1] = some [10, 60, 0, 1] := rfl
  ⟨hi, ha, (createModifiedUEIPIE_spec ⟨none, by simp, true⟩ hi ha).1 rfl⟩

end Modifier

/-- What the loop body does to one child: rewrite it by `f` if it has type `t`. -/
def rewriteOne (t : UInt16) (f : IE → Option IE) (child : IE) : Option IE :=
  if child.type = t then f child else none

/-- The loop of `modifyUEIPInPDR` and `modifyUEIPInPDI`: every child that `rewriteOne` rewrites
is replaced in place and every other child kept; the flag says whether any was replaced. -/
def rewriteChildren (t : UInt16) (f : IE → Option IE) : List IE → List IE × Bool
  | [] => ([], false)
  | child :: rest =>
    let r := rewriteChildren t f rest
    match rewriteOne t f child with
    | some c => (c :: r.1, true)
    | none => (child :: r.1, r.2)

namespace Modifier

variable (m : Modifier)

/-- `modifyUEIPInPDI`: the PDI rebuilt by `ie.NewPDI` if any UE IP Address child was rewritten,
with the flag `pdiModified`. -/
def modifyUEIPInPDI (pdi : IE) (newUEIP : IP) : IE × Bool :=
  if pdi.childIEs = [] then (pdi, false)
  else
    let r := rewriteChildren IEType.ueIPAddress (m.createModifiedUEIPIE · newUEIP) pdi.childIEs
    if r.2 then (newGroupedIE IEType.pdi r.1, true) else (pdi, false)

/-- The body of the loop of `modifyUEIPInPDR` on a PDI child: the modified PDI if
`modifyUEIPInPDI` reports a change. -/
def pdiRewrite (newUEIP : IP) (pdi : IE) : Option IE :=
  if (m.modifyUEIPInPDI pdi newUEIP).2 then some (m.modifyUEIPInPDI pdi newUEIP).1 else none

/-- `modifyUEIPInPDR`: the PDR rebuilt by `ie.NewCreatePDR` under its original type if any PDI
child was rewritten, `nil` otherwise. -/
def modifyUEIPInPDR (pdr : IE) (newUEIP : IP) : Option IE :=
  if pdr.childIEs = [] then none
  else
    let r := rewriteChildren IEType.pdi (m.pdiRewrite newUEIP) pdr.childIEs
    if r.2 then some ((newGroupedIE IEType.createPDR r.1).withType pdr.type) else none

/-- `modifyUEIPInCreatePDRs`: each PDR that `modifyUEIPInPDR` rebuilds is replaced in place. -/
def modifyUEIPInCreatePDRs (pdrs : List IE) (newUEIP : IP) : List IE :=
  pdrs.map fun pdr => (m.modifyUEIPInPDR pdr newUEIP).getD pdr

/-- `ModifySessionEstablishment`. -/
def modifySessionEstablishment (msg : SessionEstablishmentRequest) (localSEID : UInt64)
    (ueIP : IP) (seqNum : UInt32) : Except String SessionEstablishmentRequest :=
  .ok { msg with
        header := { msg.header with seid := 0, sequenceNumber := seqNum },
        cpFSEID := msg.cpFSEID.map fun old =>
          newFSEID localSEID (m.fseidAddresses old).1 (m.fseidAddresses old).2,
        createPDR := m.modifyUEIPInCreatePDRs msg.createPDR ueIP,
        nodeID := m.replaceNodeID msg.nodeID }

/-- `ModifySessionModification`; the UE IP is `nil`-able as in Go. -/
def modifySessionModification (msg : SessionModificationRequest) (remoteSEID : UInt64)
    (ueIP : Option IP) (seqNum : UInt32) : Except String SessionModificationRequest :=
  let rewrite (pdrs : List IE) : List IE :=
    match ueIP with
    | some ip => if pdrs ≠ [] then m.modifyUEIPInCreatePDRs pdrs ip else pdrs
    | none => pdrs
  .ok { msg with
        header := { msg.header with seid := remoteSEID, sequenceNumber := seqNum },
        createPDR := rewrite msg.createPDR,
        updatePDR := rewrite msg.updatePDR }

/-- `ModifySessionDeletion`. -/
def modifySessionDeletion (msg : SessionDeletionRequest) (remoteSEID : UInt64) (seqNum : UInt32) :
    Except String SessionDeletionRequest :=
  .ok { msg with header := { msg.header with seid := remoteSEID, sequenceNumber := seqNum } }

/-- `ModifyHeartbeat`. -/
def modifyHeartbeat (msg : HeartbeatRequest) (seqNum : UInt32) : Except String HeartbeatRequest :=
  .ok { msg with header := { msg.header with sequenceNumber := seqNum } }

end Modifier

/-! ## The frame of the UE IP rewrite -/

/-- A child of a PDI after the rewrite: a UE IP Address IE that `f` accepts becomes `f`'s
result, every other child stays. -/
def ueIPRewritten (f : IE → Option IE) (g : IE) : IE :=
  if g.type = IEType.ueIPAddress then (f g).getD g else g

/-- `f` accepts none of the UE IP Address IEs among `gs`. -/
def NoneAccepted (f : IE → Option IE) (gs : List IE) : Prop :=
  ∀ g ∈ gs, g.type = IEType.ueIPAddress → f g = none

/-- How the rewrite may change one child `c` of a PDR into `c'`: a PDI with no accepted UE IP
Address child stays identical; one with an accepted child becomes the group of type PDI whose
children are its own with the accepted UE IP Address IEs rewritten, and whose payload is their
encoding, as `ie.NewPDI` builds it; any other child is unchanged. -/
def ChildRewrite (f : IE → Option IE) (c c' : IE) : Prop :=
  if c.type = IEType.pdi then
    (NoneAccepted f c.childIEs → c' = c) ∧
      (¬NoneAccepted f c.childIEs →
        c' = .mk IEType.pdi ((c.childIEs.map (ueIPRewritten f)).flatMap IE.marshal)
          (c.childIEs.map (ueIPRewritten f)))
  else c' = c

/-- `pdr'` is `pdr` with the UE IP Address IEs of its PDI children rewritten by `f`, and nothing
else changed: the children related one to one and in order by `ChildRewrite`, `pdr` itself when
no PDI child has an accepted UE IP Address, and otherwise a group of `pdr`'s type whose payload
is the encoding of its new children. -/
structure PDRRewrite (f : IE → Option IE) (pdr pdr' : IE) : Prop where
  children : List.Forall₂ (ChildRewrite f) pdr.childIEs pdr'.childIEs
  untouched : (∀ c ∈ pdr.childIEs, c.type = IEType.pdi → NoneAccepted f c.childIEs) → pdr' = pdr
  rebuilt : ¬(∀ c ∈ pdr.childIEs, c.type = IEType.pdi → NoneAccepted f c.childIEs) →
    pdr' = .mk pdr.type (pdr'.childIEs.flatMap IE.marshal) pdr'.childIEs

section RewriteChildren

variable (f : IE → Option IE) (t : UInt16)

theorem rewriteChildren_eq (cs : List IE) :
    rewriteChildren t f cs =
      (cs.map fun c => (rewriteOne t f c).getD c, cs.any fun c => (rewriteOne t f c).isSome) := by
  induction cs with
  | nil => rfl
  | cons c cs ih =>
    simp only [rewriteChildren, ih, List.map_cons, List.any_cons]
    cases rewriteOne t f c <;> simp

theorem rewriteOne_getD_ueIPAddress (g : IE) :
    (rewriteOne IEType.ueIPAddress f g).getD g = ueIPRewritten f g := by
  unfold rewriteOne ueIPRewritten
  split_ifs <;> rfl

theorem any_rewriteOne_eq_false_iff (gs : List IE) :
    (gs.any fun g => (rewriteOne IEType.ueIPAddress f g).isSome) = false ↔ NoneAccepted f gs := by
  simp only [List.any_eq_false, NoneAccepted, rewriteOne]
  refine forall₂_congr fun g _ => ?_
  split_ifs with h <;> simp [h]

theorem map_ueIPRewritten_of_noneAccepted {gs : List IE} (h : NoneAccepted f gs) :
    gs.map (ueIPRewritten f) = gs := by
  conv_rhs => rw [← List.map_id gs]
  refine List.map_congr_left fun g hg => ?_
  by_cases ht : g.type = IEType.ueIPAddress <;> simp [ueIPRewritten, ht, h g hg]

end RewriteChildren

namespace Modifier

variable (m : Modifier) (newUEIP : IP)

theorem modifyUEIPInPDI_of_noneAccepted {pdi : IE}
    (h : NoneAccepted (m.createModifiedUEIPIE · newUEIP) pdi.childIEs) :
    m.modifyUEIPInPDI pdi newUEIP = (pdi, false) := by
  unfold modifyUEIPInPDI
  rw [rewriteChildren_eq, (any_rewriteOne_eq_false_iff _ _).2 h]
  split_ifs <;> rfl

theorem modifyUEIPInPDI_of_accepted {pdi : IE}
    (h : ¬NoneAccepted (m.createModifiedUEIPIE · newUEIP) pdi.childIEs) :
    m.modifyUEIPInPDI pdi newUEIP =
      (newGroupedIE IEType.pdi (pdi.childIEs.map (ueIPRewritten (m.createModifiedUEIPIE · newUEIP))),
        true) := by
  have hany : (pdi.childIEs.any fun g =>
      (rewriteOne IEType.ueIPAddress (m.createModifiedUEIPIE · newUEIP) g).isSome) = true := by
    rw [← Bool.not_eq_false]
    exact mt (any_rewriteOne_eq_false_iff _ _).1 h
  have hne : pdi.childIEs ≠ [] := fun hnil => h (by simp [NoneAccepted, hnil])
  simp only [modifyUEIPInPDI, hne, rewriteChildren_eq, hany, rewriteOne_getD_ueIPAddress,
    if_false, if_true]

/-- One child of a PDR after the loop of `modifyUEIPInPDR` is a `ChildRewrite` of it. -/
theorem childRewrite_rewriteOne (c : IE) :
    ChildRewrite (m.createModifiedUEIPIE · newUEIP) c
      ((rewriteOne IEType.pdi (m.pdiRewrite newUEIP) c).getD c) := by
  unfold ChildRewrite rewriteOne
  split_ifs with hc
  · by_cases hn : NoneAccepted (m.createModifiedUEIPIE · newUEIP) c.childIEs
    · simp [pdiRewrite, modifyUEIPInPDI_of_noneAccepted m newUEIP hn, hn]
    · simp [pdiRewrite, modifyUEIPInPDI_of_accepted m newUEIP hn, newGroupedIE, hn]
  · rfl

/-- A PDR's loop rebuilds a child exactly when it is a PDI with an accepted UE IP Address. -/
theorem pdiRewrite_eq_none_iff (c : IE) :
    rewriteOne IEType.pdi (m.pdiRewrite newUEIP) c = none ↔
      (c.type = IEType.pdi → NoneAccepted (m.createModifiedUEIPIE · newUEIP) c.childIEs) := by
  unfold rewriteOne
  split_ifs with h
  · by_cases hn : NoneAccepted (m.createModifiedUEIPIE · newUEIP) c.childIEs
    · simp [pdiRewrite, modifyUEIPInPDI_of_noneAccepted m newUEIP hn, h, hn]
    · simp [pdiRewrite, modifyUEIPInPDI_of_accepted m newUEIP hn, h, hn]
  · simp [h]

/-- What `modifyUEIPInPDR` leaves in place of a PDR: the rebuilt PDR under its own type when
the loop's flag is set, the PDR itself otherwise. -/
theorem modifyUEIPInPDR_getD (pdr : IE) :
    (m.modifyUEIPInPDR pdr newUEIP).getD pdr =
      if pdr.childIEs.any (fun c => (rewriteOne IEType.pdi (m.pdiRewrite newUEIP) c).isSome) then
        (newGroupedIE IEType.createPDR
          (pdr.childIEs.map fun c => (rewriteOne IEType.pdi (m.pdiRewrite newUEIP) c).getD c)).withType
            pdr.type
      else pdr := by
  by_cases hnil : pdr.childIEs = []
  · simp [modifyUEIPInPDR, hnil]
  · simp only [modifyUEIPInPDR, hnil, if_false, rewriteChildren_eq]
    split <;> rfl

/-- `modifyUEIPInPDR` changes a Create or Update PDR only as `PDRRewrite` allows. -/
theorem modifyUEIPInPDR_rewrite (pdr : IE) :
    PDRRewrite (m.createModifiedUEIPIE · newUEIP) pdr ((m.modifyUEIPInPDR pdr newUEIP).getD pdr) := by
  have hchildren : List.Forall₂ (ChildRewrite (m.createModifiedUEIPIE · newUEIP)) pdr.childIEs
      (pdr.childIEs.map fun c => (rewriteOne IEType.pdi (m.pdiRewrite newUEIP) c).getD c) :=
    List.forall₂_map_right_iff.2 (List.forall₂_same.2 fun c _ => childRewrite_rewriteOne m newUEIP c)
  rw [modifyUEIPInPDR_getD]
  cases hany : pdr.childIEs.any (fun c => (rewriteOne IEType.pdi (m.pdiRewrite newUEIP) c).isSome)
  · -- the flag is clear, so every child came through the loop unchanged
    simp only [List.any_eq_false, Option.not_isSome_iff_eq_none] at hany
    have hsame : (pdr.childIEs.map fun c => (rewriteOne IEType.pdi (m.pdiRewrite newUEIP) c).getD c)
        = pdr.childIEs := by
      conv_rhs => rw [← List.map_id pdr.childIEs]
      exact List.map_congr_left fun c hc => by simp [hany c hc]
    rw [hsame] at hchildren
    exact ⟨hchildren, fun _ => rfl,
      fun h => absurd (fun c hc => (m.pdiRewrite_eq_none_iff newUEIP c).1 (hany c hc)) h⟩
  · refine ⟨by simpa [newGroupedIE] using hchildren, fun h => ?_, fun _ => rfl⟩
    -- a set flag names a PDI child with an accepted UE IP Address
    obtain ⟨c, hc, hsome⟩ := List.any_eq_true.1 hany
    rw [(m.pdiRewrite_eq_none_iff newUEIP c).2 (h c hc)] at hsome
    cases hsome

/-- The addresses the new CP F-SEID gets have their families' lengths: the SMF address comes
from `net.ParseIP`, the original ones from a parse. -/
theorem fseidAddresses_lengths (old : IE) :
    (∀ a ∈ (m.fseidAddresses old).1, a.length = 4) ∧
      (∀ a ∈ (m.fseidAddresses old).2, a.length = 16) := by
  unfold fseidAddresses
  rcases hs : m.smfIP with _ | ip
  · rcases hf : old.fseid with _ | f
    · simp
    · exact parseFSEIDFields_lengths (IE.parseFSEIDFields_of_fseid hf)
  · have h16 : ip.length = 16 := m.smfIP_length ip (by simp [hs])
    dsimp only
    split_ifs
    · exact ⟨fun a ha => length_of_to4 ha, by simp⟩
    · exact ⟨by simp, by simpa using h16⟩

theorem modifyUEIPInCreatePDRs_rewrite (pdrs : List IE) :
    List.Forall₂ (PDRRewrite (m.createModifiedUEIPIE · newUEIP)) pdrs
      (m.modifyUEIPInCreatePDRs pdrs newUEIP) :=
  List.forall₂_map_right_iff.2 (List.forall₂_same.2 fun pdr _ => m.modifyUEIPInPDR_rewrite newUEIP pdr)

/-- The modifier changes a Session Establishment Request only in the header SEID (now `0`) and
sequence number, the CP F-SEID (which then parses to the new local SEID), the Node ID where an
SMF address is configured, and the UE IP Address IEs under the PDI children of each Create PDR
as `PDRRewrite` allows; every other IE is untouched. A Session Modification Request changes
only in its header SEID and sequence number and, for a UE IP that is not `nil`, in its Create
and Update PDRs as `PDRRewrite` allows. Neither call fails. -/
theorem modify_changes_only_named_fields :
    (∀ (msg : SessionEstablishmentRequest) (localSEID : UInt64) (ueIP : IP) (seqNum : UInt32),
      ∃ msg', m.modifySessionEstablishment msg localSEID ueIP seqNum = .ok msg' ∧
        msg'.header = { msg.header with seid := 0, sequenceNumber := seqNum } ∧
        msg'.ies = msg.ies ∧
        msg'.cpFSEID.isSome = msg.cpFSEID.isSome ∧
        (∀ i ∈ msg'.cpFSEID, i.fseid.map FSEIDFields.seid = .ok localSEID) ∧
        (m.smfIP = none ∨ msg.nodeID = none → msg'.nodeID = msg.nodeID) ∧
        List.Forall₂ (PDRRewrite (m.createModifiedUEIPIE · ueIP)) msg.createPDR msg'.createPDR) ∧
    (∀ (msg : SessionModificationRequest) (remoteSEID : UInt64) (ueIP : Option IP)
        (seqNum : UInt32),
      ∃ msg', m.modifySessionModification msg remoteSEID ueIP seqNum = .ok msg' ∧
        msg'.header = { msg.header with seid := remoteSEID, sequenceNumber := seqNum } ∧
        msg'.ies = msg.ies ∧
        (∀ ip, ueIP = some ip →
          List.Forall₂ (PDRRewrite (m.createModifiedUEIPIE · ip)) msg.createPDR msg'.createPDR ∧
          List.Forall₂ (PDRRewrite (m.createModifiedUEIPIE · ip)) msg.updatePDR msg'.updatePDR) ∧
        (ueIP = none → msg'.createPDR = msg.createPDR ∧ msg'.updatePDR = msg.updatePDR)) := by
  constructor
  · intro msg localSEID ueIP seqNum
    refine ⟨_, rfl, rfl, rfl, by simp, fun i hi => ?_, ?_, m.modifyUEIPInCreatePDRs_rewrite ueIP _⟩
    · obtain ⟨old, -, rfl⟩ := Option.mem_map.1 hi
      obtain ⟨h4, h6⟩ := m.fseidAddresses_lengths old
      rw [fseid_newFSEID localSEID h4 h6]
      rfl
    · rintro (h | h) <;> simp [replaceNodeID, h]
  · intro msg remoteSEID ueIP seqNum
    -- an empty PDR list is left as it is, and is its own rewrite
    have hlist : ∀ (ip : IP) (pdrs : List IE),
        List.Forall₂ (PDRRewrite (m.createModifiedUEIPIE · ip)) pdrs
          (if pdrs ≠ [] then m.modifyUEIPInCreatePDRs pdrs ip else pdrs) := by
      intro ip pdrs
      split_ifs with h
      · exact m.modifyUEIPInCreatePDRs_rewrite ip pdrs
      · simp only [ne_eq, not_not] at h
        subst h
        exact List.Forall₂.nil
    refine ⟨_, rfl, rfl, rfl, ?_, ?_⟩
    · rintro ip rfl
      exact ⟨hlist ip _, hlist ip _⟩
    · rintro rfl
      exact ⟨rfl, rfl⟩

end Modifier

end PfcpGenerator

namespace PfcpGenerator

/-- `ExtractCPSEID`. -/
def extractCPSEID (msg : SessionEstablishmentRequest) : Except String UInt64 :=
  match msg.cpFSEID with
  | none => .error "no CP F-SEID in Session Establishment Request"
  | some i =>
    match i.fseid with
    | .ok f => .ok f.seid
    | .error e => .error ("failed to parse CP F-SEID: " ++ e)

/-- `ExtractRemoteSEID`. -/
def extractRemoteSEID (msg : SessionEstablishmentResponse) : Except String UInt64 :=
  match msg.upFSEID with
  | none => .error "no UP F-SEID in Session Establishment Response"
  | some i =>
    match i.fseid with
    | .ok f => .ok f.seid
    | .error e => .error ("failed to parse UP F-SEID: " ++ e)

end PfcpGenerator
