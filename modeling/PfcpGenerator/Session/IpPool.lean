import Mathlib.Data.Finset.Card
import PfcpGenerator.Net.Address
import PfcpGenerator.Pfcp.Ie

/-!
# The UE IP pool

A model of `UEIPPool` (`internal/session/ip_pool.go`), which hands out the UE addresses of the
replayed sessions from an IPv4 CIDR block. The pool works on `net.IP` byte slices as the
source does (`PfcpGenerator.Net.Address`), and is keyed by `ip.String()`, modelled by `ipKey`.

`Allocate` scans forward from a rotating cursor, wrapping to the network address plus one when
the cursor leaves the block, and gives up after `totalIPs - 1` held addresses or when the scan
is back where it started. The loop `allocateLoop` carries explicit fuel; `allocate` gives it
`totalIPs`, more than the loop's own exit test ever lets it use.

* `allocate_ok_spec`, `allocate_error_spec`, `release_allocated`: what one call does to the
  held set. The session manager's proofs use only these.
* `incrementIP_adds_one`: `incrementIP` adds one to the address's number modulo `256 ^ n`, and
  in a block whose prefix has at least one bit the address after the highest one is outside the
  block, through `CIDR4.contains_iff`, the block as an interval of numbers.
* `allocate_slash32_outside_block`: on a `/32` block the first address handed out lies
  outside the block.
-/

namespace PfcpGenerator

/-- `UEIPPool`: the block, the cursor, and the keys of the addresses currently held. -/
structure UEIPPool where
  /-- The block; `Mask.Size()` of its mask is `(ones, 32)`. -/
  cidr : CIDR4
  /-- The next address to try. -/
  nextIP : IP
  /-- The keys of `allocated`: addresses handed out and not released since. -/
  allocated : Finset IP

/-- `NewUEIPPool`, after the CIDR text is parsed: the cursor starts at the network address
plus one. -/
def newUEIPPool (cidr : CIDR4) : UEIPPool :=
  { cidr, nextIP := incrementIP cidr.ipNet.ip, allocated := ∅ }

namespace UEIPPool

/-- The wrap rule of `Allocate`: a cursor that left the block goes back to the network address
plus one. -/
def wrap (cidr : CIDR4) (ip : IP) : IP :=
  if cidr.ipNet.contains ip then ip else incrementIP cidr.ipNet.ip

/-- The `for` loop of `Allocate` with `fuel` iterations left, at the cursor `nextIP` after
`checked` held addresses: the first free address is returned with the cursor after it. -/
def allocateLoop (cidr : CIDR4) (allocated : Finset IP) (startIP : IP) (totalIPs : ℕ) :
    ℕ → IP → ℕ → Option IP × IP
  | 0, nextIP, _ => (none, nextIP)
  | fuel + 1, nextIP, checked =>
    if ipKey nextIP ∉ allocated then (some nextIP, wrap cidr (incrementIP nextIP))
    else
      let nextIP' := wrap cidr (incrementIP nextIP)
      if totalIPs - 1 ≤ checked + 1 ∨ nextIP' = startIP then (none, nextIP')
      else allocateLoop cidr allocated startIP totalIPs fuel nextIP' (checked + 1)

/-- `Allocate`. `totalIPs` is `1 << (bits - ones)`, computed on a 64-bit `int`, so `2 ^ 32`
for a `/0` block. -/
def allocate (p : UEIPPool) : Except String IP × UEIPPool :=
  let startIP := wrap p.cidr p.nextIP
  let totalIPs := 2 ^ (32 - p.cidr.ones)
  match allocateLoop p.cidr p.allocated startIP totalIPs totalIPs startIP 0 with
  | (some ip, next) => (.ok ip, { p with nextIP := next, allocated := insert (ipKey ip) p.allocated })
  | (none, next) =>
    (.error ("UE IP pool exhausted (all " ++ toString p.allocated.card ++ " addresses allocated)"),
      { p with nextIP := next })

/-- `Release`: forget the address; releasing one that is not held changes nothing. -/
def release (p : UEIPPool) (ip : IP) : UEIPPool :=
  { p with allocated := p.allocated.erase (ipKey ip) }

@[simp]
theorem release_allocated (p : UEIPPool) (ip : IP) :
    (p.release ip).allocated = p.allocated.erase (ipKey ip) := rfl

@[simp]
theorem newUEIPPool_allocated (cidr : CIDR4) : (newUEIPPool cidr).allocated = ∅ := rfl

theorem allocateLoop_some {cidr : CIDR4} {allocated : Finset IP} {startIP : IP} {totalIPs : ℕ}
    {fuel : ℕ} {nextIP ip next : IP} {checked : ℕ}
    (h : allocateLoop cidr allocated startIP totalIPs fuel nextIP checked = (some ip, next)) :
    ipKey ip ∉ allocated := by
  induction fuel generalizing nextIP checked with
  | zero => simp [allocateLoop] at h
  | succ fuel ih =>
    simp only [allocateLoop] at h
    split_ifs at h with hheld hstop
    · cases h
    · exact ih h
    · simp only [Prod.mk.injEq, Option.some.injEq] at h
      exact h.1 ▸ hheld

/-- A successful `Allocate` returns an address whose key was not held, and holds it. -/
theorem allocate_ok_spec {p p' : UEIPPool} {ip : IP} (h : p.allocate = (.ok ip, p')) :
    ipKey ip ∉ p.allocated ∧ p'.allocated = insert (ipKey ip) p.allocated := by
  dsimp only [allocate] at h
  split at h <;> cases h
  exact ⟨allocateLoop_some ‹_›, rfl⟩

/-- A failed `Allocate` leaves the held set as it was. -/
theorem allocate_error_spec {p p' : UEIPPool} {e : String} (h : p.allocate = (.error e, p')) :
    p'.allocated = p.allocated := by
  dsimp only [allocate] at h
  split at h <;> cases h
  rfl

end UEIPPool

/-! ## Addresses as numbers

`incrementIP` is `+ 1` on the number the bytes spell, and the block of a `CIDR4` is the interval
of four-byte addresses whose number agrees with the block's address above the host bits. -/

/-- The carry loop adds one to the number the reversed bytes spell, modulo `256 ^ n`. -/
theorem valueBE_reverse_incrementLE (l : List UInt8) :
    valueBE (incrementLE l).reverse = (valueBE l.reverse + 1) % 256 ^ l.length := by
  induction l with
  | nil => rfl
  | cons b l ih =>
    have hsucc : (b + 1).toNat = (b.toNat + 1) % 256 := BitVec.toNat_add _ _
    have hb : b.toNat < 256 := b.toNat_lt_size
    have hv : valueBE l.reverse < 256 ^ l.length := List.length_reverse l ▸ valueBE_lt l.reverse
    -- `b + 1` stays positive exactly when `b` is below `0xff`
    have hcarry : b + 1 > 0 ↔ b.toNat + 1 < 256 := by
      show (0 : UInt8).toNat < (b + 1).toNat ↔ _
      rw [UInt8.toNat_zero, hsucc]
      omega
    rw [incrementLE, List.reverse_cons, valueBE_append_singleton, List.length_cons, pow_succ,
      Nat.mul_comm (256 ^ l.length) 256]
    split_ifs with hpos
    · -- no carry: the last byte becomes `b + 1`
      have hb1 := hcarry.1 hpos
      rw [List.reverse_cons, valueBE_append_singleton, hsucc, Nat.mod_eq_of_lt hb1,
        Nat.mod_eq_of_lt (by omega), Nat.add_assoc]
    · -- carry: the last byte was `0xff` and becomes `0`, and one moves into the rest
      have h255 : b.toNat = 255 := by
        have := mt hcarry.2 hpos
        omega
      rw [List.reverse_cons, valueBE_append_singleton, ih, hsucc, h255,
        show 256 * valueBE l.reverse + 255 + 1 = 256 * (valueBE l.reverse + 1) by omega,
        Nat.mul_mod_mul_left]
      rfl

theorem valueBE_incrementIP (ip : IP) :
    valueBE (incrementIP ip) = (valueBE ip + 1) % 256 ^ ip.length := by
  rw [incrementIP, valueBE_reverse_incrementLE, List.reverse_reverse, List.length_reverse]

/-- `incrementIP` leaves the `n` bytes of `value + 1` modulo `256 ^ n`. -/
theorem incrementIP_eq_bytesBE (ip : IP) :
    incrementIP ip = bytesBE ip.length ((valueBE ip + 1) % 256 ^ ip.length) := by
  apply eq_of_valueBE_eq (by rw [length_incrementIP, length_bytesBE])
  rw [valueBE_bytesBE, Nat.mod_mod, valueBE_incrementIP]

/-- Dropping the low `j ≤ w` bits of `b * 2 ^ w + v`, with `v < 2 ^ w`, leaves `b` as a digit
above `v`'s remaining `w - j` bits. -/
theorem mul_two_pow_add_div {b v w j : ℕ} (hv : v < 2 ^ w) (hj : j ≤ w) :
    (b * 2 ^ w + v) / 2 ^ j = b * 2 ^ (w - j) + v / 2 ^ j ∧ v / 2 ^ j < 2 ^ (w - j) := by
  have hw : 2 ^ w = 2 ^ (w - j) * 2 ^ j := by rw [← Nat.pow_add, Nat.sub_add_cancel hj]
  refine ⟨?_, Nat.div_lt_of_lt_mul (by rwa [hw, Nat.mul_comm] at hv)⟩
  rw [hw, ← Nat.mul_assoc, Nat.add_comm, Nat.add_mul_div_right _ _ (Nat.two_pow_pos j),
    Nat.add_comm]

/-- Dropping more than the low `w` bits of `b * 2 ^ w + v`, with `v < 2 ^ w`, drops `v`. -/
theorem mul_two_pow_add_div_add {b v w j : ℕ} (hv : v < 2 ^ w) :
    (b * 2 ^ w + v) / 2 ^ (w + j) = b / 2 ^ j := by
  rw [Nat.pow_add, ← Nat.div_div_eq_div_mul, Nat.add_comm,
    Nat.add_mul_div_right _ _ (Nat.two_pow_pos w), Nat.div_eq_of_lt hv, Nat.zero_add]

/-- The byte loop of `IPNet.Contains` under the mask `CIDRMask(n, 8 * l)`: two `l`-byte
addresses agree on the masked bits exactly when their numbers agree above the low `8 * l - n`
bits. -/
theorem maskedEq_cidrMask {l n : ℕ} {a x : List UInt8} (ha : a.length = l) (hx : x.length = l)
    (hn : n ≤ 8 * l) :
    maskedEq (List.zipWith (· &&& ·) a (cidrMask n l)) (cidrMask n l) x = true ↔
      valueBE a / 2 ^ (8 * l - n) = valueBE x / 2 ^ (8 * l - n) := by
  induction l generalizing n a x with
  | zero =>
    rw [List.length_eq_zero] at ha hx
    subst ha hx
    simp [maskedEq, cidrMask, valueBE]
  | succ l ih =>
    obtain ⟨p, a, rfl⟩ := List.exists_cons_of_length_eq_add_one ha
    obtain ⟨q, x, rfl⟩ := List.exists_cons_of_length_eq_add_one hx
    simp only [List.length_cons, Nat.add_right_cancel_iff] at ha hx
    have h256 : (256 : ℕ) ^ l = 2 ^ (8 * l) := by rw [Nat.pow_mul]
    have hva : valueBE a < 2 ^ (8 * l) := h256 ▸ ha ▸ valueBE_lt a
    have hvx : valueBE x < 2 ^ (8 * l) := h256 ▸ hx ▸ valueBE_lt x
    rw [valueBE_cons, valueBE_cons, ha, hx, h256]
    by_cases h8 : 8 ≤ n
    · -- a whole byte of ones: the leading bytes agree, and the rest by induction
      have hff : ∀ b : UInt8, b &&& 0xff = b := fun b => UInt8.eq_of_toBitVec_eq BitVec.and_allOnes
      obtain ⟨hda, hla⟩ := mul_two_pow_add_div (b := p.toNat) hva (j := 8 * l - (n - 8)) (by omega)
      obtain ⟨hdx, hlx⟩ := mul_two_pow_add_div (b := q.toNat) hvx (j := 8 * l - (n - 8)) (by omega)
      rw [cidrMask, if_pos h8, List.zipWith_cons_cons, maskedEq, Bool.and_eq_true,
        ih ha hx (by omega), hff, hff, hff, beq_iff_eq, show 8 * (l + 1) - n = 8 * l - (n - 8) by omega,
        hda, hdx, mul_add_eq_mul_add_iff hla hlx]
      exact and_congr ⟨congrArg UInt8.toNat, UInt8.toNat.inj⟩ Iff.rfl
    · -- the partial byte: only its top `n` bits count, and no bit after it
      rw [cidrMask, if_neg h8, List.zipWith_cons_cons, maskedEq, cidrMask_zero,
        maskedEq_replicate_zero, Bool.and_true, show 8 * (l + 1) - n = 8 * l + (8 - n) by omega,
        mul_two_pow_add_div_add hva, mul_two_pow_add_div_add hvx]
      exact and_partialMask_beq p q (by omega)

/-- `IPNet.Contains` of a parsed IPv4 block: the four-byte addresses whose number agrees with the
block's address above the low `32 - ones` bits. -/
theorem CIDR4.contains_iff (c : CIDR4) (x : IP) :
    c.ipNet.contains x = true ↔
      x.length = 4 ∧ valueBE x / 2 ^ (32 - c.ones) = valueBE c.addr / 2 ^ (32 - c.ones) := by
  have hlen : c.ipNet.ip.length = 4 := by
    simp [CIDR4.ipNet, c.addr_length, length_cidrMask]
  have hones : c.ones ≤ 8 * 4 := c.ones_le
  simp only [IPNet.contains, Bool.and_eq_true, beq_iff_eq, hlen]
  exact and_congr_right fun hx => (maskedEq_cidrMask c.addr_length hx hones).trans eq_comm

/-- One past the end of a block `[t * P, (t + 1) * P)` that fits in `N` lies, modulo `N`, outside
the block, unless the block is all of `N`. -/
theorem succ_mul_mod_div_ne {t P N : ℕ} (hP : 0 < P) (hPN : P < N) (htP : (t + 1) * P ≤ N) :
    (t + 1) * P % N / P ≠ t := by
  rcases Nat.lt_or_ge ((t + 1) * P) N with hwithin | hwrap
  · rw [Nat.mod_eq_of_lt hwithin, Nat.mul_div_cancel _ hP]
    exact Nat.succ_ne_self t
  · rw [Nat.le_antisymm htP hwrap, Nat.mod_self, Nat.zero_div]
    rintro rfl
    rw [Nat.zero_add, Nat.one_mul] at htP
    omega

/-- The block of a `CIDR4` ends within the IPv4 address space. -/
theorem CIDR4.block_end_le (c : CIDR4) :
    (valueBE c.addr / 2 ^ (32 - c.ones) + 1) * 2 ^ (32 - c.ones) ≤ 2 ^ 32 := by
  have hsplit : 2 ^ c.ones * 2 ^ (32 - c.ones) = 2 ^ 32 := by
    rw [← Nat.pow_add, Nat.add_sub_of_le c.ones_le]
  have hA : valueBE c.addr < 2 ^ 32 := by simpa [c.addr_length] using valueBE_lt c.addr
  calc (valueBE c.addr / 2 ^ (32 - c.ones) + 1) * 2 ^ (32 - c.ones)
      ≤ 2 ^ c.ones * 2 ^ (32 - c.ones) :=
        Nat.mul_le_mul_right _ ((Nat.div_lt_iff_lt_mul (Nat.two_pow_pos _)).2 (hsplit ▸ hA))
    _ = 2 ^ 32 := hsplit

/-- In a block whose prefix has at least one bit, the address after the highest one is outside
the block: it is the next block's first address, or `0.0.0.0` after `255.255.255.255`. -/
theorem CIDR4.contains_incrementIP_highest (c : CIDR4) (hones : 1 ≤ c.ones) {h : IP}
    (hin : c.ipNet.contains h = true)
    (hmax : ∀ y, c.ipNet.contains y = true → valueBE y ≤ valueBE h) :
    c.ipNet.contains (incrementIP h) = false := by
  -- the block is `[t * P, (t + 1) * P)` with `P = 2 ^ (32 - ones)`
  obtain ⟨P, hPdef⟩ : ∃ P, 2 ^ (32 - c.ones) = P := ⟨_, rfl⟩
  obtain ⟨t, ht⟩ : ∃ t, valueBE c.addr / P = t := ⟨_, rfl⟩
  have hmem : ∀ y, c.ipNet.contains y = true ↔ y.length = 4 ∧ valueBE y / P = t := by
    intro y
    rw [c.contains_iff, hPdef, ht]
  have hP : 0 < P := hPdef ▸ Nat.two_pow_pos _
  have hPN : P < 2 ^ 32 := hPdef ▸ Nat.pow_lt_pow_right (by decide) (by omega)
  have htP : (t + 1) * P ≤ 2 ^ 32 := by
    rw [← ht, ← hPdef]
    exact c.block_end_le
  have hsucc : (t + 1) * P = t * P + P := Nat.succ_mul t P
  -- the highest address of the block is `(t + 1) * P - 1`, so `h` is it
  have hval : valueBE (bytesBE 4 (t * P + (P - 1))) = t * P + (P - 1) := by
    rw [valueBE_bytesBE, Nat.mod_eq_of_lt (by omega)]
  have htop : c.ipNet.contains (bytesBE 4 (t * P + (P - 1))) = true := by
    refine (hmem _).2 ⟨length_bytesBE _ _, ?_⟩
    rw [hval, Nat.add_comm, Nat.add_mul_div_right _ _ hP, Nat.div_eq_of_lt (by omega),
      Nat.zero_add]
  have hge := hval ▸ hmax _ htop
  have hlt : valueBE h < (t + 1) * P := by
    rw [← (hmem h).1 hin |>.2]
    exact Nat.lt_mul_of_div_lt (Nat.lt_succ_self _) hP
  have hnext : valueBE h + 1 = (t + 1) * P := by omega
  -- one past it is `(t + 1) * P` modulo `2 ^ 32`
  rw [Bool.eq_false_iff, ne_eq, hmem, valueBE_incrementIP, ((hmem h).1 hin).1, hnext]
  exact fun h' => succ_mul_mod_div_ne hP hPN htP h'.2

/-- `incrementIP` leaves the `n` bytes of the address's number plus one, modulo `256 ^ n`. So in
an IPv4 block whose prefix has at least one bit, the address after the highest one lies outside
the block, which is the test on which `Allocate` wraps. -/
theorem incrementIP_adds_one :
    (∀ b : IP, incrementIP b = bytesBE b.length ((valueBE b + 1) % 256 ^ b.length)) ∧
      ∀ c : CIDR4, 1 ≤ c.ones → ∀ h : IP, c.ipNet.contains h = true →
        (∀ y, c.ipNet.contains y = true → valueBE y ≤ valueBE h) →
        c.ipNet.contains (incrementIP h) = false :=
  ⟨incrementIP_eq_bytesBE, fun c hones _ hin hmax => c.contains_incrementIP_highest hones hin hmax⟩

/-- The block `10.60.0.0/24`. -/
def block24 : CIDR4 := ⟨[10, 60, 0, 0], rfl, 24, by decide⟩

/-- `10.60.0.255` is the highest address of `10.60.0.0/24`, and the address after it is not in
the block. -/
theorem incrementIP_leaves_block24 :
    block24.ipNet.contains [10, 60, 0, 255] = true ∧
      (∀ y, block24.ipNet.contains y = true → valueBE y ≤ valueBE [10, 60, 0, 255]) ∧
      block24.ipNet.contains (incrementIP [10, 60, 0, 255]) = false :=
  have hin : block24.ipNet.contains [10, 60, 0, 255] = true := by decide
  have hmax : ∀ y, block24.ipNet.contains y = true → valueBE y ≤ valueBE [10, 60, 0, 255] := by
    intro y hy
    have hy' : valueBE y / 2 ^ 8 = valueBE [10, 60, 0, 0] / 2 ^ 8 :=
      ((CIDR4.contains_iff block24 y).1 hy).2
    have hnet : valueBE [10, 60, 0, 0] = 171704320 := rfl
    have hhigh : valueBE [10, 60, 0, 255] = 171704575 := rfl
    rw [hnet] at hy'
    rw [hhigh]
    omega
  ⟨hin, hmax, incrementIP_adds_one.2 block24 (by decide) _ hin hmax⟩

/-! ## A `/32` block -/

/-- The block `10.60.0.5/32`. -/
def block32 : CIDR4 := ⟨[10, 60, 0, 5], rfl, 32, le_refl _⟩

/-- On a `/32` block the network address plus one is outside the block, the cursor rule puts it
back there, and the first `Allocate` hands it out: `10.60.0.6`, not in `10.60.0.5/32`. -/
theorem allocate_slash32_outside_block :
    (newUEIPPool block32).allocate.1.toOption = some [10, 60, 0, 6] ∧
      block32.ipNet.contains [10, 60, 0, 6] = false := by
  decide

end PfcpGenerator
