import Mathlib.Tactic.Ring
import PfcpGenerator.Net.Address

/-!
# Information elements

The information elements (IEs) of a decoded PFCP message, as the `go-pfcp` codec represents
them: a type, the value bytes, and for a grouped IE the child IEs its value decodes to. The
codec lies outside the replay core; this module gives the parts of it the core calls, with the
value layouts of TS 29.244 quoted in `pfcp-technical-reference.md`:

* `newGroupedIE`, which `ie.NewPDI` and `ie.NewCreatePDR` are, rebuilds a group from its
  children;
* the F-SEID, UE IP Address, Node ID and Cause values, each with its constructor and accessor.

The value bytes of an IE are opaque to everything but these accessors, which is what lets the
modifier's frame property be stated on the tree alone.
-/

namespace PfcpGenerator

/-- `ie.IE`: the type, the value bytes, and the child IEs of a grouped IE. -/
inductive IE where
  | mk (type : UInt16) (payload : List UInt8) (childIEs : List IE)

namespace IE

/-- The IE type. -/
def type : IE → UInt16
  | mk type _ _ => type

/-- The value bytes. -/
def payload : IE → List UInt8
  | mk _ payload _ => payload

/-- The child IEs of a grouped IE. -/
def childIEs : IE → List IE
  | mk _ _ childIEs => childIEs

/-- The same IE under another type, as `newPDR.Type = pdr.Type` makes it. -/
def withType (t : UInt16) : IE → IE
  | mk _ payload childIEs => mk t payload childIEs

@[simp] theorem type_mk (t : UInt16) (p : List UInt8) (c : List IE) : (mk t p c).type = t := rfl
@[simp] theorem payload_mk (t : UInt16) (p : List UInt8) (c : List IE) :
    (mk t p c).payload = p := rfl
@[simp] theorem childIEs_mk (t : UInt16) (p : List UInt8) (c : List IE) :
    (mk t p c).childIEs = c := rfl
@[simp] theorem type_withType (t : UInt16) (i : IE) : (i.withType t).type = t := by cases i; rfl
@[simp] theorem childIEs_withType (t : UInt16) (i : IE) : (i.withType t).childIEs = i.childIEs := by
  cases i; rfl

mutual
/-- Equality of IEs is decidable, by recursion through the child lists. -/
def decEq : (a b : IE) → Decidable (a = b)
  | mk t p c, mk t' p' c' =>
    if ht : t = t' then
      if hp : p = p' then
        match decEqList c c' with
        | isTrue hc => isTrue (by subst ht hp hc; rfl)
        | isFalse hc => isFalse (by intro h; cases h; exact hc rfl)
      else isFalse (by intro h; cases h; exact hp rfl)
    else isFalse (by intro h; cases h; exact ht rfl)
/-- Equality of IE lists is decidable. -/
def decEqList : (a b : List IE) → Decidable (a = b)
  | [], [] => isTrue rfl
  | [], _ :: _ => isFalse (by intro h; cases h)
  | _ :: _, [] => isFalse (by intro h; cases h)
  | a :: as, b :: bs =>
    match decEq a b, decEqList as bs with
    | isTrue h, isTrue h' => isTrue (by rw [h, h'])
    | isFalse h, _ => isFalse (by intro e; cases e; exact h rfl)
    | _, isFalse h' => isFalse (by intro e; cases e; exact h' rfl)
end

instance : DecidableEq IE := decEq

end IE

/-! ## The IE type codes of TS 29.244 §8.1.2 that the core reads -/

namespace IEType

/-- Create PDR. -/
def createPDR : UInt16 := 1
/-- PDI. -/
def pdi : UInt16 := 2
/-- Update PDR. -/
def updatePDR : UInt16 := 9
/-- Cause. -/
def cause : UInt16 := 19
/-- F-SEID. -/
def fSEID : UInt16 := 57
/-- Node ID. -/
def nodeID : UInt16 := 60
/-- UE IP Address. -/
def ueIPAddress : UInt16 := 93

end IEType

/-- The `w` bytes of `n`, most significant first. -/
def bytesBE (w n : ℕ) : List UInt8 :=
  (List.range w).reverse.map fun i => ((n / 256 ^ i) % 256).toUInt8

/-- The number the bytes spell, most significant first. -/
def valueBE (b : List UInt8) : ℕ :=
  b.foldl (fun acc x => 256 * acc + x.toNat) 0

/-- The TLV encoding of an IE: two type bytes, two length bytes, the value. -/
def IE.marshal (i : IE) : List UInt8 :=
  bytesBE 2 i.type.toNat ++ bytesBE 2 i.payload.length ++ i.payload

/-- `newGroupedIE`: a grouped IE whose value is the encoding of its children. -/
def newGroupedIE (t : UInt16) (children : List IE) : IE :=
  .mk t (children.flatMap IE.marshal) children

/-- The next `n` bytes and the rest, or `none` (`io.ErrUnexpectedEOF`) if fewer remain. -/
def splitBytes (n : ℕ) (b : List UInt8) : Option (List UInt8 × List UInt8) :=
  if n ≤ b.length then some (b.take n, b.drop n) else none

/-- Read `n` bytes where a flag bit says they are present. -/
def readIf (present : Bool) (n : ℕ) (b : List UInt8) : Option (Option (List UInt8) × List UInt8) :=
  if present then (splitBytes n b).map fun r => (some r.1, r.2) else some (none, b)

@[simp]
theorem length_bytesBE (w n : ℕ) : (bytesBE w n).length = w := by simp [bytesBE]

theorem valueBE_cons (b : UInt8) (bs : List UInt8) :
    valueBE (b :: bs) = b.toNat * 256 ^ bs.length + valueBE bs := by
  -- the fold from any accumulator is the accumulator shifted past the remaining bytes
  have shift : ∀ (l : List UInt8) (a : ℕ),
      l.foldl (fun acc x => 256 * acc + x.toNat) a = a * 256 ^ l.length + valueBE l := by
    intro l
    induction l with
    | nil => simp [valueBE]
    | cons x l ih =>
      intro a
      simp only [valueBE, List.foldl_cons, List.length_cons] at ih ⊢
      rw [ih, ih (256 * 0 + x.toNat)]
      ring
  simpa [valueBE] using shift bs (256 * 0 + b.toNat)

/-- Reading back `w` big-endian bytes gives the number modulo `256 ^ w`. -/
theorem valueBE_bytesBE (w n : ℕ) : valueBE (bytesBE w n) = n % 256 ^ w := by
  induction w with
  | zero => simp [bytesBE, valueBE, Nat.mod_one]
  | succ w ih =>
    have hcons : bytesBE (w + 1) n = ((n / 256 ^ w) % 256).toUInt8 :: bytesBE w n := by
      simp [bytesBE, List.range_succ]
    rw [hcons, valueBE_cons, length_bytesBE, ih, Nat.mod_pow_succ,
      UInt8.toNat_ofNat_of_lt (Nat.mod_lt _ (by decide))]
    ring

/-- Eight bytes read back as the 64-bit number they were written from. -/
theorem toUInt64_valueBE_bytesBE (x : UInt64) : (valueBE (bytesBE 8 x.toNat)).toUInt64 = x := by
  rw [valueBE_bytesBE, Nat.mod_eq_of_lt (by simpa using x.toNat_lt_size)]
  exact UInt64.toNat.inj (UInt64.toNat_ofNat_of_lt x.toNat_lt_size)

/-- Four bytes read back as the 32-bit number they were written from. -/
theorem toUInt32_valueBE_bytesBE (x : UInt32) : (valueBE (bytesBE 4 x.toNat)).toUInt32 = x := by
  rw [valueBE_bytesBE, Nat.mod_eq_of_lt (by simpa using x.toNat_lt_size)]
  exact UInt32.toNat.inj (UInt32.toNat_ofNat_of_lt x.toNat_lt_size)

theorem valueBE_append_singleton (l : List UInt8) (b : UInt8) :
    valueBE (l ++ [b]) = 256 * valueBE l + b.toNat := by
  simp [valueBE, List.foldl_append]

theorem valueBE_lt (l : List UInt8) : valueBE l < 256 ^ l.length := by
  induction l with
  | nil => simp [valueBE]
  | cons b l ih =>
    have hb : b.toNat < 256 := b.toNat_lt_size
    rw [valueBE_cons, List.length_cons, pow_succ]
    calc b.toNat * 256 ^ l.length + valueBE l < b.toNat * 256 ^ l.length + 256 ^ l.length := by omega
      _ = (b.toNat + 1) * 256 ^ l.length := by ring
      _ ≤ 256 ^ l.length * 256 := by rw [Nat.mul_comm]; exact Nat.mul_le_mul_left _ hb

/-- A number written with a digit `a` above a remainder `c < B` determines both. -/
theorem mul_add_eq_mul_add_iff {B a b c d : ℕ} (hc : c < B) (hd : d < B) :
    a * B + c = b * B + d ↔ a = b ∧ c = d := by
  have hpos : 0 < B := by omega
  have hdiv : ∀ {e f : ℕ}, f < B → (e * B + f) / B = e ∧ (e * B + f) % B = f := fun hf =>
    ⟨by rw [Nat.add_comm, Nat.add_mul_div_right _ _ hpos, Nat.div_eq_of_lt hf, Nat.zero_add],
      by rw [Nat.add_comm, Nat.add_mul_mod_self_right, Nat.mod_eq_of_lt hf]⟩
  refine ⟨fun h => ⟨?_, ?_⟩, fun ⟨hab, hcd⟩ => by rw [hab, hcd]⟩
  · rw [← (hdiv (e := a) hc).1, h, (hdiv hd).1]
  · rw [← (hdiv (e := a) hc).2, h, (hdiv hd).2]

/-- Byte lists of one length are equal when they spell the same number. -/
theorem eq_of_valueBE_eq {l l' : List UInt8} (hlen : l.length = l'.length)
    (h : valueBE l = valueBE l') : l = l' := by
  induction l generalizing l' with
  | nil => exact (List.length_eq_zero.1 hlen.symm).symm
  | cons b l ih =>
    obtain ⟨b', l', rfl⟩ := List.exists_cons_of_length_eq_add_one hlen.symm
    have hlen' : l.length = l'.length := by simpa using hlen
    have hv' := valueBE_lt l'
    rw [← hlen'] at hv'
    rw [valueBE_cons, valueBE_cons, ← hlen', mul_add_eq_mul_add_iff (valueBE_lt l) hv'] at h
    rw [UInt8.toNat.inj h.1, ih hlen' h.2]

theorem splitBytes_append {l : List UInt8} {n : ℕ} (r : List UInt8) (h : l.length = n) :
    splitBytes n (l ++ r) = some (l, r) := by
  subst h
  simp [splitBytes]

theorem length_of_splitBytes {n : ℕ} {b x r : List UInt8} (h : splitBytes n b = some (x, r)) :
    x.length = n := by
  unfold splitBytes at h
  split_ifs at h with hn
  cases h
  simpa using hn

theorem length_of_readIf {present : Bool} {n : ℕ} {b r : List UInt8} {o : Option (List UInt8)}
    (h : readIf present n b = some (o, r)) : ∀ x ∈ o, x.length = n := by
  unfold readIf at h
  split_ifs at h
  · obtain ⟨⟨x, r'⟩, hs, he⟩ := Option.map_eq_some'.1 h
    cases he
    simpa using length_of_splitBytes hs
  · cases h
    simp

/-! ## F-SEID -/

/-- `ie.FSEIDFields`. -/
structure FSEIDFields where
  flags : UInt8
  seid : UInt64
  ipv4Address : Option IP
  ipv6Address : Option IP

/-- `ParseFSEIDFields`: flags, eight SEID bytes, then the IPv4 address if `V4` (`0x02`) and the
IPv6 address if `V6` (`0x01`). -/
def parseFSEIDFields : List UInt8 → Option FSEIDFields
  | [] => none
  | flags :: b => do
    let (seid, b) ← splitBytes 8 b
    let (v4, b) ← readIf (flags &&& 0x02 != 0) 4 b
    let (v6, _) ← readIf (flags &&& 0x01 != 0) 16 b
    pure { flags, seid := (valueBE seid).toUInt64, ipv4Address := v4, ipv6Address := v6 }

/-- `IE.FSEID()`. -/
def IE.fseid (i : IE) : Except String FSEIDFields :=
  if i.type = IEType.fSEID then
    match parseFSEIDFields i.payload with
    | some f => .ok f
    | none => .error "unexpected EOF"
  else .error "invalid type"

/-- The flag octet `ie.NewFSEID` writes. -/
def fseidFlags (v4 v6 : Option IP) : UInt8 :=
  (if v4.isSome then 0x02 else 0) ||| (if v6.isSome then 0x01 else 0)

/-- `ie.NewFSEID`: the flags say which addresses follow the SEID. -/
def newFSEID (seid : UInt64) (v4 v6 : Option IP) : IE :=
  .mk IEType.fSEID (fseidFlags v4 v6 :: bytesBE 8 seid.toNat ++ v4.getD [] ++ v6.getD []) []

theorem fseidFlags_v4 (v4 v6 : Option IP) : (fseidFlags v4 v6 &&& 0x02 != 0) = v4.isSome := by
  cases v4 <;> cases v6 <;> simp only [fseidFlags, Option.isSome_none, Option.isSome_some] <;> decide

theorem fseidFlags_v6 (v4 v6 : Option IP) : (fseidFlags v4 v6 &&& 0x01 != 0) = v6.isSome := by
  cases v4 <;> cases v6 <;> simp only [fseidFlags, Option.isSome_none, Option.isSome_some] <;> decide

theorem IE.parseFSEIDFields_of_fseid {i : IE} {f : FSEIDFields} (h : i.fseid = .ok f) :
    parseFSEIDFields i.payload = some f := by
  unfold IE.fseid at h
  split_ifs at h
  split at h <;> cases h
  assumption

/-- The addresses of a parsed F-SEID have their families' lengths. -/
theorem parseFSEIDFields_lengths {b : List UInt8} {f : FSEIDFields}
    (h : parseFSEIDFields b = some f) :
    (∀ a ∈ f.ipv4Address, a.length = 4) ∧ (∀ a ∈ f.ipv6Address, a.length = 16) := by
  match b, h with
  | flags :: b, h =>
    simp only [parseFSEIDFields, Option.bind_eq_bind, Option.bind_eq_some] at h
    obtain ⟨⟨_, b1⟩, -, ⟨v4, b2⟩, h4, ⟨v6, _⟩, h6, he⟩ := h
    cases he
    exact ⟨length_of_readIf h4, length_of_readIf h6⟩

theorem readIf_some_append {n : ℕ} {a : List UInt8} (r : List UInt8) (h : a.length = n) :
    readIf true n (a ++ r) = some (some a, r) := by
  simp [readIf, splitBytes_append r h]

theorem readIf_some_self {n : ℕ} {a : List UInt8} (h : a.length = n) :
    readIf true n a = some (some a, []) := by
  simpa using readIf_some_append [] h

theorem readIf_none (n : ℕ) (r : List UInt8) : readIf false n r = some (none, r) := rfl

/-- Reading back an F-SEID built by `ie.NewFSEID` from addresses of the right lengths gives
its SEID and addresses. -/
theorem fseid_newFSEID (seid : UInt64) {v4 v6 : Option IP} (h4 : ∀ a ∈ v4, a.length = 4)
    (h6 : ∀ a ∈ v6, a.length = 16) :
    (newFSEID seid v4 v6).fseid =
      .ok { flags := fseidFlags v4 v6, seid, ipv4Address := v4, ipv6Address := v6 } := by
  have hseid := toUInt64_valueBE_bytesBE seid
  -- read the flags and the SEID, then each address where its flag is set
  have hread : parseFSEIDFields (fseidFlags v4 v6 :: bytesBE 8 seid.toNat ++ v4.getD [] ++ v6.getD [])
      = some { flags := fseidFlags v4 v6, seid, ipv4Address := v4, ipv6Address := v6 } := by
    simp only [List.cons_append, parseFSEIDFields, List.append_assoc,
      splitBytes_append _ (length_bytesBE 8 _),
      fseidFlags_v4, fseidFlags_v6]
    cases v4 <;> cases v6 <;>
      simp_all [readIf_none, readIf_some_append, readIf_some_self]
  simp only [IE.fseid, newFSEID, IE.type_mk, IE.payload_mk, ite_true, hread]

/-! ## UE IP Address -/

/-- `ie.UEIPAddressFields`. -/
structure UEIPAddressFields where
  flags : UInt8
  ipv4Address : Option IP
  ipv6Address : Option IP
  ipv6PrefixDelegationBits : UInt8
  ipv6PrefixLength : UInt8

/-- `ParseUEIPAddressFields`: flags, then the IPv4 address if `V4` (`0x02`), the IPv6 address if
`V6` (`0x01`), the prefix delegation bits if `IPv6D` (`0x08`) and the prefix length if `IP6PL`
(`0x40`). The `S/D` (`0x04`), `CHV4` (`0x10`) and `CHV6` (`0x20`) bits stay in `flags` and
select no field, as TS 29.244 lays the IE out; go-pfcp itself is not part of this model. -/
def parseUEIPAddressFields : List UInt8 → Option UEIPAddressFields
  | [] => none
  | flags :: b => do
    let (v4, b) ← readIf (flags &&& 0x02 != 0) 4 b
    let (v6, b) ← readIf (flags &&& 0x01 != 0) 16 b
    let (v6d, b) ← readIf (flags &&& 0x08 != 0) 1 b
    let (v6pl, _) ← readIf (flags &&& 0x40 != 0) 1 b
    pure { flags, ipv4Address := v4, ipv6Address := v6,
           ipv6PrefixDelegationBits := (v6d.bind List.head?).getD 0,
           ipv6PrefixLength := (v6pl.bind List.head?).getD 0 }

/-- `IE.UEIPAddress()`. -/
def IE.ueIPAddress (i : IE) : Except String UEIPAddressFields :=
  if i.type = IEType.ueIPAddress then
    match parseUEIPAddressFields i.payload with
    | some f => .ok f
    | none => .error "unexpected EOF"
  else .error "invalid type"

/-- The encoding of UE IP Address fields, in the order the parser reads them. -/
def UEIPAddressFields.marshal (f : UEIPAddressFields) : List UInt8 :=
  f.flags :: (f.ipv4Address.getD [] ++ f.ipv6Address.getD [] ++
    (if f.flags &&& 0x08 != 0 then [f.ipv6PrefixDelegationBits] else []) ++
    (if f.flags &&& 0x40 != 0 then [f.ipv6PrefixLength] else []))

/-- `ie.NewUEIPAddress(flags, v4, v6, v6d, v6pl)`: each part is kept when its flag bit is set.
The addresses are what `net.ParseIP` makes of the strings passed, `nil` for `""`. -/
def newUEIPAddress (flags : UInt8) (v4 v6 : Option IP) (v6d v6pl : UInt8) : IE :=
  .mk IEType.ueIPAddress
    (UEIPAddressFields.marshal
      { flags,
        ipv4Address := if flags &&& 0x02 != 0 then v4 else none,
        ipv6Address := if flags &&& 0x01 != 0 then v6 else none,
        ipv6PrefixDelegationBits := if flags &&& 0x08 != 0 then v6d else 0,
        ipv6PrefixLength := if flags &&& 0x40 != 0 then v6pl else 0 }) []

/-- The UE IP Address fields `ParseUEIPAddressFields` returns: each address present exactly where
its flag bit is set and of its family's length, and each prefix octet zero where its bit is
clear. -/
structure UEIPAddressFields.WellFormed (f : UEIPAddressFields) : Prop where
  v4 : (f.flags &&& 0x02 != 0) = f.ipv4Address.isSome
  v4_length : ∀ a ∈ f.ipv4Address, a.length = 4
  v6 : (f.flags &&& 0x01 != 0) = f.ipv6Address.isSome
  v6_length : ∀ a ∈ f.ipv6Address, a.length = 16
  v6d : (f.flags &&& 0x08 != 0) = false → f.ipv6PrefixDelegationBits = 0
  v6pl : (f.flags &&& 0x40 != 0) = false → f.ipv6PrefixLength = 0

theorem readIf_isSome {c : Bool} {n : ℕ} {b r : List UInt8} {o : Option (List UInt8)}
    (h : readIf c n b = some (o, r)) : o.isSome = c := by
  unfold readIf at h
  cases c
  · cases h; rfl
  · obtain ⟨_, -, he⟩ := Option.map_eq_some'.1 h
    cases he; rfl

/-- Reading an optional part back from the bytes the encoder wrote for it. -/
theorem readIf_getD {n : ℕ} {o : Option (List UInt8)} (r : List UInt8)
    (h : ∀ a ∈ o, a.length = n) : readIf o.isSome n (o.getD [] ++ r) = some (o, r) := by
  cases o with
  | none => rfl
  | some a => exact readIf_some_append r (h a rfl)

/-- Reading a one-octet part back, as `parseUEIPAddressFields` stores it. -/
theorem readIf_octet (c : Bool) (x : UInt8) (r : List UInt8) :
    readIf c 1 ((if c then [x] else []) ++ r) = some (if c then some [x] else none, r) := by
  cases c <;> simp [readIf, splitBytes]

/-- The fields a parse returns are well formed. -/
theorem wellFormed_of_parseUEIPAddressFields {b : List UInt8} {f : UEIPAddressFields}
    (h : parseUEIPAddressFields b = some f) : f.WellFormed := by
  match b, h with
  | flags :: b, h =>
    simp only [parseUEIPAddressFields, Option.bind_eq_bind, Option.bind_eq_some] at h
    obtain ⟨⟨v4, b1⟩, h4, ⟨v6, b2⟩, h6, ⟨v6d, b3⟩, hd, ⟨v6pl, _⟩, hl, he⟩ := h
    cases he
    refine ⟨(readIf_isSome h4).symm, length_of_readIf h4, (readIf_isSome h6).symm,
      length_of_readIf h6, fun hc => ?_, fun hc => ?_⟩
    · rw [show (flags &&& 0x08 != 0) = false from hc, readIf_none] at hd
      cases hd; rfl
    · rw [show (flags &&& 0x40 != 0) = false from hc, readIf_none] at hl
      cases hl; rfl

/-- An octet part read back: the octet where its bit is set, `0` where it is clear. -/
theorem getD_head_octet {c : Bool} {x : UInt8} (h : c = false → x = 0) :
    ((if c then some [x] else none).bind List.head?).getD 0 = x := by
  cases c <;> simp [h]

/-- Parsing the encoding of well-formed fields gives them back, whatever bytes follow. -/
theorem parseUEIPAddressFields_marshal {f : UEIPAddressFields} (h : f.WellFormed)
    (r : List UInt8) : parseUEIPAddressFields (f.marshal ++ r) = some f := by
  simp only [UEIPAddressFields.marshal, List.cons_append, List.append_assoc,
    parseUEIPAddressFields, h.v4, h.v6, readIf_getD _ h.v4_length, readIf_getD _ h.v6_length,
    readIf_octet, Option.bind_eq_bind, Option.some_bind, getD_head_octet h.v6d,
    getD_head_octet h.v6pl]
  rfl

theorem IE.wellFormed_of_ueIPAddress {i : IE} {f : UEIPAddressFields}
    (h : i.ueIPAddress = .ok f) : f.WellFormed := by
  unfold IE.ueIPAddress at h
  split_ifs at h
  split at h <;> cases h
  exact wellFormed_of_parseUEIPAddressFields ‹_›

/-- `IE.UEIPAddress()` of what `ie.NewUEIPAddress` builds from well-formed fields gives those
fields back. -/
theorem ueIPAddress_newUEIPAddress {g : UEIPAddressFields} (h : g.WellFormed) :
    (newUEIPAddress g.flags g.ipv4Address g.ipv6Address g.ipv6PrefixDelegationBits
      g.ipv6PrefixLength).ueIPAddress = .ok g := by
  have present : ∀ o : Option IP, (if o.isSome = true then o else none) = o := by
    intro o; cases o <;> rfl
  have octet : ∀ {c : Bool} {x : UInt8}, (c = false → x = 0) → (if c = true then x else 0) = x := by
    intro c x hx; cases c <;> simp [hx]
  have hparse := parseUEIPAddressFields_marshal h []
  rw [List.append_nil] at hparse
  simp only [newUEIPAddress, h.v4, h.v6, present, octet h.v6d, octet h.v6pl]
  simp [IE.ueIPAddress, hparse]

/-! ## Node ID and Cause -/

/-- `ie.NewNodeID(ip, "", "")` for an IPv4 address and `ie.NewNodeID("", ip, "")` otherwise:
the Node ID type octet, `0` or `1`, then the address. -/
def newNodeID (ip : IP) : IE :=
  match to4 ip with
  | some v4 => .mk IEType.nodeID (0 :: v4) []
  | none => .mk IEType.nodeID (1 :: ip) []

/-- `IE.Cause()`: the first value byte of a Cause IE. -/
def IE.cause (i : IE) : Except String UInt8 :=
  if i.type = IEType.cause then
    match i.payload with
    | c :: _ => .ok c
    | [] => .error "unexpected EOF"
  else .error "invalid type"

/-- `ie.CauseRequestAccepted`. -/
def causeRequestAccepted : UInt8 := 1

end PfcpGenerator
