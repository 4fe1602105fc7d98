import Mathlib.Algebra.Group.Nat.Basic
import Mathlib.Data.List.Basic

/-!
# Addresses

The parts of Go's `net` package the replay core relies on, on `net.IP` byte slices (most
significant byte first), together with `incrementIP` from `internal/session/ip_pool.go`:

* `incrementIP`, the carry loop that adds one to an address in place;
* `cidrMask`, the byte loop of `net.CIDRMask`, and `IPNet.contains`, the masked byte
  comparison of `IPNet.Contains`;
* `ipKey`, what `ip.String()` depends on: that text is the dotted quad of the last four bytes
  for a four-byte address and for an IPv4-mapped sixteen-byte one, and determines the bytes
  otherwise, so two addresses have the same key exactly when they print alike;
* `to4`, `IP.To4()`.
-/

namespace PfcpGenerator

/-- `net.IP`: the bytes of an address, most significant first. -/
abbrev IP := List UInt8

/-- The carry loop of `incrementIP` on the bytes in reverse order: add one to the first byte
and stop unless it wrapped to zero. -/
def incrementLE : List UInt8 → List UInt8
  | [] => []
  | b :: bs => if b + 1 > 0 then (b + 1) :: bs else (b + 1) :: incrementLE bs

/-- `incrementIP`: the Go loop runs from the last byte to the first and stops after the first
byte that does not wrap to zero. -/
def incrementIP (ip : IP) : IP := (incrementLE ip.reverse).reverse

/-- The ten zero bytes and two `0xff` bytes that start an IPv4-mapped IPv6 address. -/
def v4InV6Prefix : List UInt8 := [0, 0, 0, 0, 0, 0, 0, 0, 0, 0, 0xff, 0xff]

/-- What `ip.String()` depends on: an IPv4-mapped sixteen-byte address prints as its last four
bytes, every other address prints distinctly. -/
def ipKey (ip : IP) : IP := if ip.length = 16 ∧ ip.take 12 = v4InV6Prefix then ip.drop 12 else ip

/-- `IP.To4()`: the four bytes of an IPv4 address, in either form, and `nil` otherwise. -/
def to4 (ip : IP) : Option IP :=
  if ip.length = 4 then some ip
  else if ip.length = 16 ∧ ip.take 12 = v4InV6Prefix then some (ip.drop 12) else none

/-- `net.CIDRMask(ones, 8 * l)` as its `l` bytes: whole `0xff` bytes while eight or more ones
remain, then one partial byte, then zero bytes. -/
def cidrMask : ℕ → ℕ → List UInt8
  | _, 0 => []
  | n, l + 1 =>
    if 8 ≤ n then 0xff :: cidrMask (n - 8) l else ~~~((0xff : UInt8) >>> n.toUInt8) :: cidrMask 0 l

/-- An IPv4 CIDR block as `net.ParseCIDR` accepts it: four address bytes and a prefix length of
at most `32`. -/
structure CIDR4 where
  /-- The address written before the slash. -/
  addr : IP
  addr_length : addr.length = 4
  /-- The prefix length. -/
  ones : ℕ
  ones_le : ones ≤ 32

/-- `net.IPNet`: a network address and a mask of the same length. -/
structure IPNet where
  ip : IP
  mask : List UInt8

/-- The byte loop of `IPNet.Contains`: the address agrees with the network on every masked
bit. -/
def maskedEq : List UInt8 → List UInt8 → List UInt8 → Bool
  | nn :: ns, m :: ms, x :: xs => (nn &&& m == x &&& m) && maskedEq ns ms xs
  | _, _, _ => true

/-- `IPNet.Contains` for an address of the network's length. -/
def IPNet.contains (n : IPNet) (ip : IP) : Bool :=
  ip.length == n.ip.length && maskedEq n.ip n.mask ip

/-- The `*net.IPNet` that `net.ParseCIDR` returns: the address with its host bits cleared and
the mask `CIDRMask(ones, 32)`. -/
def CIDR4.ipNet (c : CIDR4) : IPNet :=
  { ip := List.zipWith (· &&& ·) c.addr (cidrMask c.ones 4), mask := cidrMask c.ones 4 }

/-- `To4` returns four bytes. -/
theorem length_of_to4 {ip v : IP} (h : to4 ip = some v) : v.length = 4 := by
  unfold to4 at h
  split_ifs at h with h4 h16 <;> cases h
  · exact h4
  · simp [h16.1]

theorem length_incrementLE (l : List UInt8) : (incrementLE l).length = l.length := by
  induction l with
  | nil => rfl
  | cons b l ih => unfold incrementLE; split_ifs <;> simp [ih]

theorem length_incrementIP (ip : IP) : (incrementIP ip).length = ip.length := by
  simp [incrementIP, length_incrementLE]

/-- Masking with the bits `k` to `w` of a `w`-bit number keeps its multiple of `2 ^ k`. -/
theorem land_two_pow_sub_two_pow {x w k : ℕ} (hx : x < 2 ^ w) (hk : k ≤ w) :
    x &&& (2 ^ w - 2 ^ k) = x / 2 ^ k * 2 ^ k := by
  have hmask : 2 ^ w - 2 ^ k = (2 ^ (w - k) - 1) <<< k := by
    rw [Nat.shiftLeft_eq, Nat.sub_mul, Nat.one_mul, ← Nat.pow_add, Nat.sub_add_cancel hk]
  rw [hmask, ← Nat.shiftRight_eq_div_pow, ← Nat.shiftLeft_eq]
  apply Nat.eq_of_testBit_eq
  intro i
  rw [Nat.testBit_and, Nat.testBit_shiftLeft, Nat.testBit_shiftLeft, Nat.testBit_shiftRight,
    Nat.testBit_two_pow_sub_one]
  by_cases hi : k ≤ i
  · by_cases hw : i < w
    · simp only [ge_iff_le, hi, decide_True, show i - k < w - k by omega, Bool.and_self,
        Bool.and_true, Nat.add_sub_cancel' hi, Bool.true_and]
    · have : x.testBit i = false :=
        Nat.testBit_lt_two_pow (lt_of_lt_of_le hx (Nat.pow_le_pow_right (by decide) (by omega)))
      simp only [this, ge_iff_le, hi, decide_True, show ¬i - k < w - k by omega, decide_False,
        Bool.and_false, Bool.and_self, Nat.add_sub_cancel' hi]
  · simp only [ge_iff_le, hi, decide_False, Bool.false_and, Bool.and_false]

/-- The partial byte of `net.CIDRMask` keeps the top `n` bits of a byte. -/
theorem toNat_and_partialMask (p : UInt8) {n : ℕ} (hn : n < 8) :
    (p &&& ~~~((0xff : UInt8) >>> n.toUInt8)).toNat = p.toNat / 2 ^ (8 - n) * 2 ^ (8 - n) := by
  have hmask : (~~~((0xff : UInt8) >>> n.toUInt8)).toNat = 2 ^ 8 - 2 ^ (8 - n) := by
    rcases n with _ | _ | _ | _ | _ | _ | _ | _ | n
    all_goals first | decide | omega
  show (p.toBitVec &&& (~~~((0xff : UInt8) >>> n.toUInt8)).toBitVec).toNat = _
  rw [BitVec.toNat_and]
  change p.toNat &&& (~~~((0xff : UInt8) >>> n.toUInt8)).toNat = _
  rw [hmask]
  exact land_two_pow_sub_two_pow p.toNat_lt_size (by omega)

/-- Two bytes agree under the partial byte of `net.CIDRMask` exactly when their top `n` bits
agree. -/
theorem and_partialMask_beq (p q : UInt8) {n : ℕ} (hn : n < 8) :
    ((p &&& ~~~((0xff : UInt8) >>> n.toUInt8)) &&& ~~~((0xff : UInt8) >>> n.toUInt8) ==
        q &&& ~~~((0xff : UInt8) >>> n.toUInt8)) = true ↔
      p.toNat / 2 ^ (8 - n) = q.toNat / 2 ^ (8 - n) := by
  have hpos : 0 < 2 ^ (8 - n) := Nat.two_pow_pos _
  rw [beq_iff_eq]
  constructor
  · intro h
    have h' := congrArg UInt8.toNat h
    simp only [toNat_and_partialMask _ hn, Nat.mul_div_cancel _ hpos] at h'
    exact Nat.eq_of_mul_eq_mul_right hpos h'
  · intro h
    apply UInt8.toNat.inj
    simp only [toNat_and_partialMask _ hn, Nat.mul_div_cancel _ hpos, h]

theorem length_cidrMask (n l : ℕ) : (cidrMask n l).length = l := by
  induction l generalizing n with
  | zero => rfl
  | succ l ih => unfold cidrMask; split_ifs <;> simp [ih]

theorem cidrMask_zero (l : ℕ) : cidrMask 0 l = List.replicate l 0 := by
  induction l with
  | zero => rfl
  | succ l ih => rw [cidrMask, if_neg (by decide), ih]; rfl

theorem maskedEq_replicate_zero (a x : List UInt8) (l : ℕ) :
    maskedEq a (List.replicate l 0) x = true := by
  induction l generalizing a x with
  | zero => cases a <;> cases x <;> rfl
  | succ l ih =>
    have hzero : ∀ b : UInt8, b &&& 0 = 0 := fun b => UInt8.eq_of_toBitVec_eq BitVec.and_zero
    cases a <;> cases x <;> simp [maskedEq, List.replicate_succ, ih, hzero]

end PfcpGenerator
