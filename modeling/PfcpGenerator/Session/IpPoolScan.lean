import PfcpGenerator.Session.IpPool

/-!
# The scan of `UEIPPool.Allocate`

`Allocate` (`internal/session/ip_pool.go`) looks for a free address by moving a cursor through
its block: one step is `incrementIP` followed by the wrap back to the network address plus one
when the cursor has left the block. This module follows the cursor as a number. The addresses of
a block of `size = 2 ^ (32 - ones)` addresses are `host k`, the bytes of `base + k` for
`k < size`, with `host 0` the network address; for a prefix length between `1` and `31` one
step takes `host k` to `host (k % (size - 1) + 1)`, so the cursor cycles through the
`size - 1` addresses other than the network address, broadcast address included.

The loop gives up after `totalIPs - 1` held addresses or when it is back at its start, which on
that cycle is the same test, so it visits each of these addresses exactly once
(`allocateLoop_fst`).

## Main results

* `allocate_scans_block`: in every pool a sequence of `Allocate` and `Release` calls reaches
  from `NewUEIPPool`, `Allocate` hands out an address of the block other than the network
  address that is not held; it succeeds exactly when fewer than `size - 1` addresses are held,
  and otherwise reports all `size - 1` of them allocated.
-/

namespace PfcpGenerator

/-- The step of the cursor in `Allocate`: `incrementIP`, then the wrap. -/
def UEIPPool.advance (cidr : CIDR4) (ip : IP) : IP := UEIPPool.wrap cidr (incrementIP ip)

/-! ## Addresses of a block as numbers -/

theorem valueBE_replicate_zero (l : ℕ) : valueBE (List.replicate l 0) = 0 := by
  induction l with
  | zero => rfl
  | succ l ih => rw [List.replicate_succ, valueBE_cons, ih, UInt8.toNat_zero, Nat.zero_mul]

/-- The network address `net.ParseCIDR` computes, as a number: the block's address with its low
`8 * l - n` bits cleared. -/
theorem valueBE_zipWith_cidrMask {l n : ℕ} {a : List UInt8} (ha : a.length = l) (hn : n ≤ 8 * l) :
    valueBE (List.zipWith (· &&& ·) a (cidrMask n l)) =
      valueBE a / 2 ^ (8 * l - n) * 2 ^ (8 * l - n) := by
  induction l generalizing n a with
  | zero =>
    rw [List.length_eq_zero] at ha
    subst ha
    show 0 = 0 / _ * _
    rw [Nat.zero_div, Nat.zero_mul]
  | succ l ih =>
    obtain ⟨p, a, rfl⟩ := List.exists_cons_of_length_eq_add_one ha
    simp only [List.length_cons, Nat.add_right_cancel_iff] at ha
    have h256 : (256 : ℕ) ^ l = 2 ^ (8 * l) := by rw [Nat.pow_mul]
    have hva : valueBE a < 2 ^ (8 * l) := h256 ▸ ha ▸ valueBE_lt a
    have hlen : ∀ m, (List.zipWith (· &&& ·) a (cidrMask m l)).length = l := fun m => by
      rw [List.length_zipWith, ha, length_cidrMask, Nat.min_self]
    rw [valueBE_cons, ha, h256]
    by_cases h8 : 8 ≤ n
    · -- a whole byte of ones keeps the leading byte
      have hff : p &&& 0xff = p := UInt8.eq_of_toBitVec_eq BitVec.and_allOnes
      obtain ⟨hdiv, -⟩ := mul_two_pow_add_div (b := p.toNat) hva (j := 8 * l - (n - 8)) (by omega)
      rw [cidrMask, if_pos h8, List.zipWith_cons_cons, valueBE_cons, hff, hlen, h256,
        ih ha (by omega), show 8 * (l + 1) - n = 8 * l - (n - 8) by omega, hdiv, Nat.add_mul,
        Nat.mul_assoc, ← Nat.pow_add, Nat.sub_add_cancel (by omega)]
    · -- the partial byte keeps its top bits, and every byte after it is cleared
      have hzero : ∀ b : UInt8, b &&& 0 = 0 := fun b => UInt8.eq_of_toBitVec_eq BitVec.and_zero
      have hrest : List.zipWith (· &&& ·) a (List.replicate l 0) = List.replicate l 0 := by
        apply List.ext_get (by rw [List.length_zipWith, ha, List.length_replicate, Nat.min_self])
        intro i _ _
        simp only [List.get_eq_getElem, List.getElem_zipWith, List.getElem_replicate, hzero]
      rw [cidrMask, if_neg h8, List.zipWith_cons_cons, valueBE_cons, cidrMask_zero, hrest,
        List.length_replicate, valueBE_replicate_zero, h256, toNat_and_partialMask _ (by omega),
        show 8 * (l + 1) - n = 8 * l + (8 - n) by omega, mul_two_pow_add_div_add hva,
        Nat.pow_add, Nat.add_zero, Nat.mul_comm (2 ^ (8 * l)), Nat.mul_assoc]

namespace CIDR4

variable (c : CIDR4)

/-- The number of addresses of the block: the `totalIPs` of `Allocate`, `1 << (bits - ones)`. -/
def size : ℕ := 2 ^ (32 - c.ones)

/-- The number of the network address. -/
def base : ℕ := valueBE c.addr / c.size * c.size

/-- The address `k` places after the network address. -/
def host (k : ℕ) : IP := bytesBE 4 (c.base + k)

/-- The addresses `Allocate` may hand out: those of the block other than the network address. -/
def usable (a : IP) : Bool := c.ipNet.contains a && a != c.ipNet.ip

theorem size_pos : 0 < c.size := Nat.two_pow_pos _

theorem two_le_size (h31 : c.ones ≤ 31) : 2 ≤ c.size :=
  show 2 ^ 1 ≤ 2 ^ (32 - c.ones) from Nat.pow_le_pow_right (by decide) (by omega)

theorem size_lt (h1 : 1 ≤ c.ones) : c.size < 2 ^ 32 :=
  show 2 ^ (32 - c.ones) < 2 ^ 32 from Nat.pow_lt_pow_right (by decide) (by omega)

theorem base_add_size_le : c.base + c.size ≤ 2 ^ 32 := by
  have h := c.block_end_le
  rw [Nat.add_mul, Nat.one_mul] at h
  exact h

@[simp]
theorem length_host (k : ℕ) : (c.host k).length = 4 := length_bytesBE _ _

theorem valueBE_host {k : ℕ} (hk : k < c.size) : valueBE (c.host k) = c.base + k := by
  have := c.base_add_size_le
  rw [host, valueBE_bytesBE, show (256 : ℕ) ^ 4 = 2 ^ 32 from rfl, Nat.mod_eq_of_lt (by omega)]

theorem host_inj {j k : ℕ} (hj : j < c.size) (hk : k < c.size) (h : c.host j = c.host k) :
    j = k := by
  have := congrArg valueBE h
  rw [c.valueBE_host hj, c.valueBE_host hk] at this
  omega

/-- `IPNet.Contains` of a parsed block: the four-byte addresses whose number lies in
`[base, base + size)`. -/
theorem contains_iff_base (a : IP) :
    c.ipNet.contains a = true ↔
      a.length = 4 ∧ c.base ≤ valueBE a ∧ valueBE a < c.base + c.size := by
  have hP := c.size_pos
  rw [c.contains_iff, show 2 ^ (32 - c.ones) = c.size from rfl]
  refine and_congr_right fun _ => ⟨fun h => ?_, fun ⟨hlo, hhi⟩ => ?_⟩
  · rw [base, ← h]
    exact ⟨Nat.div_mul_le_self _ _, by rw [← Nat.succ_mul]; exact Nat.lt_mul_of_div_lt (Nat.lt_succ_self _) hP⟩
  · rw [base] at hlo hhi
    apply Nat.le_antisymm
    · exact Nat.lt_succ_iff.1 ((Nat.div_lt_iff_lt_mul hP).2 (by rwa [Nat.succ_mul]))
    · exact (Nat.le_div_iff_mul_le hP).2 hlo

/-- The network address `net.ParseCIDR` returns is `host 0`. -/
theorem ipNet_ip_eq : c.ipNet.ip = c.host 0 := by
  have hlen : c.ipNet.ip.length = 4 := by
    rw [ipNet, List.length_zipWith, c.addr_length, length_cidrMask, Nat.min_self]
  apply eq_of_valueBE_eq (by rw [hlen, length_host])
  rw [c.valueBE_host c.size_pos, Nat.add_zero, ipNet, valueBE_zipWith_cidrMask c.addr_length
    (by have := c.ones_le; omega)]
  rfl

/-- The addresses `Allocate` may hand out are `host k` for `0 < k < size`. -/
theorem usable_iff (a : IP) :
    c.usable a = true ↔ ∃ k, 0 < k ∧ k < c.size ∧ a = c.host k := by
  rw [usable, Bool.and_eq_true, c.contains_iff_base, bne_iff_ne, c.ipNet_ip_eq]
  constructor
  · rintro ⟨⟨hlen, hlo, hhi⟩, hne⟩
    refine ⟨valueBE a - c.base, ?_, by omega, ?_⟩
    · by_contra h0
      exact hne (eq_of_valueBE_eq (by rw [hlen, length_host])
        (by rw [c.valueBE_host c.size_pos]; omega))
    · exact eq_of_valueBE_eq (by rw [hlen, length_host]) (by rw [c.valueBE_host (by omega)]; omega)
  · rintro ⟨k, hk0, hk, rfl⟩
    refine ⟨⟨c.length_host k, ?_⟩, fun h => absurd (c.host_inj hk c.size_pos h) hk0.ne'⟩
    rw [c.valueBE_host hk]
    omega

theorem incrementIP_host {k : ℕ} (hk : k + 1 < c.size) : incrementIP (c.host k) = c.host (k + 1) := by
  have := c.base_add_size_le
  rw [incrementIP_eq_bytesBE, length_host, c.valueBE_host (by omega),
    show (256 : ℕ) ^ 4 = 2 ^ 32 from rfl, Nat.mod_eq_of_lt (by omega), host, Nat.add_assoc]

/-! ## The cursor -/

variable {c}

/-- One step of the cursor, `incrementIP` and the wrap, takes `host k` to `host (k + 1)`, and the
broadcast address `host (size - 1)` back to `host 1`. -/
theorem wrap_incrementIP_host (h1 : 1 ≤ c.ones) (h31 : c.ones ≤ 31) {k : ℕ} (hk0 : 0 < k)
    (hk : k < c.size) :
    UEIPPool.wrap c (incrementIP (c.host k)) = c.host (k % (c.size - 1) + 1) := by
  have hend := c.base_add_size_le
  have h2 := c.two_le_size h31
  have hlt := c.size_lt h1
  have hincr : ∀ j, j < c.size → incrementIP (c.host j) = bytesBE 4 ((c.base + j + 1) % 2 ^ 32) :=
    fun j hj => by rw [incrementIP_eq_bytesBE, length_host, c.valueBE_host hj]; rfl
  rw [UEIPPool.wrap, hincr k hk]
  by_cases hlast : k + 1 < c.size
  · -- inside the block: the next address
    have hin : c.ipNet.contains (c.host (k + 1)) = true :=
      (c.contains_iff_base _).2 ⟨c.length_host _, by rw [c.valueBE_host hlast]; omega,
        by rw [c.valueBE_host hlast]; omega⟩
    rw [← hincr k hk, c.incrementIP_host hlast, if_pos hin, Nat.mod_eq_of_lt (by omega)]
  · -- past the broadcast address: back to the network address plus one
    have hout : c.ipNet.contains (bytesBE 4 ((c.base + k + 1) % 2 ^ 32)) = false := by
      rw [Bool.eq_false_iff, ne_eq, c.contains_iff_base, valueBE_bytesBE,
        show (256 : ℕ) ^ 4 = 2 ^ 32 from rfl, Nat.mod_mod]
      rintro ⟨-, hlo, hhi⟩
      rcases Nat.lt_or_ge (c.base + k + 1) (2 ^ 32) with hin | hwrap
      · rw [Nat.mod_eq_of_lt hin] at hhi
        omega
      · rw [show c.base + k + 1 = 2 ^ 32 by omega, Nat.mod_self] at hlo
        omega
    rw [if_neg (by rw [hout]; decide), c.ipNet_ip_eq, c.incrementIP_host (by omega),
      show k = c.size - 1 by omega, Nat.mod_self]

/-- The cursor after `i` steps from `host k`: it runs through `host 1`, …, `host (size - 1)`
cyclically. -/
theorem iterate_wrap_incrementIP_host (h1 : 1 ≤ c.ones) (h31 : c.ones ≤ 31) {k : ℕ}
    (hk0 : 0 < k) (hk : k < c.size) (i : ℕ) :
    (UEIPPool.advance c)^[i] (c.host k) =
      c.host ((k - 1 + i) % (c.size - 1) + 1) := by
  have hcycle : 0 < c.size - 1 := by have := c.two_le_size h31; omega
  induction i with
  | zero => rw [Function.iterate_zero_apply, Nat.add_zero, Nat.mod_eq_of_lt (by omega),
      Nat.sub_add_cancel hk0]
  | succ i ih =>
    have hr := Nat.mod_lt (k - 1 + i) hcycle
    rw [Function.iterate_succ_apply', ih, UEIPPool.advance, wrap_incrementIP_host h1 h31 (by omega) (by omega),
      Nat.mod_add_mod, Nat.add_assoc]

/-- The cursor visits every address other than the network address in its first `size - 1`
steps from one of them. -/
theorem mem_iterate_host (h1 : 1 ≤ c.ones) (h31 : c.ones ≤ 31) {k : ℕ} (hk0 : 0 < k)
    (hk : k < c.size) (a : IP) :
    a ∈ (List.range (c.size - 1)).map (fun i => (UEIPPool.advance c)^[i] (c.host k)) ↔
      c.usable a = true := by
  have hcycle : 0 < c.size - 1 := by have := c.two_le_size h31; omega
  simp only [List.mem_map, List.mem_range, iterate_wrap_incrementIP_host h1 h31 hk0 hk,
    c.usable_iff]
  constructor
  · rintro ⟨i, -, rfl⟩
    exact ⟨_, Nat.succ_pos _, by have := Nat.mod_lt (k - 1 + i) hcycle; omega, rfl⟩
  · -- `host m` is reached after `(m - k) mod (size - 1)` steps
    rintro ⟨m, hm0, hm, rfl⟩
    refine ⟨(m - 1 + (c.size - 1) - (k - 1)) % (c.size - 1), Nat.mod_lt _ hcycle, ?_⟩
    rw [Nat.add_mod_mod, show k - 1 + (m - 1 + (c.size - 1) - (k - 1)) = m - 1 + (c.size - 1) by
      omega, Nat.add_mod_right, Nat.mod_eq_of_lt (by omega), Nat.sub_add_cancel hm0]

end CIDR4

/-! ## The loop of `Allocate` -/

namespace UEIPPool

/-- The loop looks at the cursor's positions from `checked` on, up to `totalIPs - 2`, and
returns the first free one, so long as the cursor does not come back to its start before. -/
theorem allocateLoop_fst (cidr : CIDR4) (allocated : Finset IP) (startIP : IP) (totalIPs : ℕ)
    (hper : ∀ i, 0 < i → i < totalIPs - 1 → (advance cidr)^[i] startIP ≠ startIP) :
    ∀ fuel j, j < totalIPs - 1 → totalIPs - 1 - j ≤ fuel →
      (allocateLoop cidr allocated startIP totalIPs fuel ((advance cidr)^[j] startIP) j).1 =
        ((List.range' j (totalIPs - 1 - j)).map fun i => (advance cidr)^[i] startIP).find?
          fun a => ipKey a ∉ allocated
  | 0, j, hj, hfuel => absurd hfuel (by omega)
  | fuel + 1, j, hj, hfuel => by
    have hnext : wrap cidr (incrementIP ((advance cidr)^[j] startIP)) =
        (advance cidr)^[j + 1] startIP := (Function.iterate_succ_apply' (advance cidr) j startIP).symm
    rw [allocateLoop, show totalIPs - 1 - j = totalIPs - 1 - (j + 1) + 1 by omega,
      List.range'_succ, List.map_cons, List.find?_cons]
    by_cases hfree : ipKey ((advance cidr)^[j] startIP) ∉ allocated
    · simp only [if_pos hfree, decide_eq_true hfree]
    · simp only [if_neg hfree, decide_eq_false hfree, hnext]
      split_ifs with hstop
      · -- the loop stops: no position is left before the cursor is back at its start
        have hlast : totalIPs - 1 ≤ j + 1 := by
          rcases hstop with h | h
          · exact h
          · by_contra hlt
            exact hper (j + 1) (Nat.succ_pos j) (by omega) h
        rw [show totalIPs - 1 - (j + 1) = 0 by omega]
        rfl
      · exact allocateLoop_fst cidr allocated startIP totalIPs hper fuel (j + 1) (by omega)
          (by omega)

/-- Wherever the loop stops, its cursor is some number of steps past where it began. -/
theorem allocateLoop_snd (cidr : CIDR4) (allocated : Finset IP) (startIP : IP) (totalIPs : ℕ) :
    ∀ fuel nextIP checked, ∃ i,
      (allocateLoop cidr allocated startIP totalIPs fuel nextIP checked).2 =
        (advance cidr)^[i] nextIP
  | 0, nextIP, _ => ⟨0, rfl⟩
  | fuel + 1, nextIP, checked => by
    rw [allocateLoop]
    by_cases hfree : ipKey nextIP ∉ allocated
    · rw [if_pos hfree]
      exact ⟨1, rfl⟩
    rw [if_neg hfree]
    dsimp only
    split_ifs
    · exact ⟨1, rfl⟩
    · obtain ⟨i, hi⟩ := allocateLoop_snd cidr allocated startIP totalIPs fuel
        (wrap cidr (incrementIP nextIP)) (checked + 1)
      exact ⟨i + 1, hi⟩

end UEIPPool

/-! ## `Allocate` on the pools reachable from `NewUEIPPool` -/

namespace CIDR4

/-- The addresses `Allocate` may hand out, as a set. -/
def usableSet (c : CIDR4) : Finset IP := (Finset.range (c.size - 1)).image fun i => c.host (i + 1)

theorem length_of_usable {c : CIDR4} {a : IP} (h : c.usable a = true) : a.length = 4 := by
  obtain ⟨k, -, -, rfl⟩ := (c.usable_iff a).1 h
  exact c.length_host k

theorem mem_usableSet {c : CIDR4} {a : IP} : a ∈ c.usableSet ↔ c.usable a = true := by
  rw [usableSet, Finset.mem_image, c.usable_iff]
  constructor
  · rintro ⟨i, hi, rfl⟩
    exact ⟨i + 1, Nat.succ_pos i, by rw [Finset.mem_range] at hi; omega, rfl⟩
  · rintro ⟨k, hk0, hk, rfl⟩
    exact ⟨k - 1, Finset.mem_range.2 (by omega), by rw [Nat.sub_add_cancel hk0]⟩

theorem card_usableSet (c : CIDR4) : c.usableSet.card = c.size - 1 := by
  rw [usableSet, Finset.card_image_of_injOn, Finset.card_range]
  intro i hi j hj h
  simp only [Finset.coe_range, Set.mem_Iio] at hi hj
  exact Nat.succ_injective (c.host_inj (by omega) (by omega) h)

end CIDR4

namespace UEIPPool

variable {c : CIDR4}

theorem allocate_fst_toOption (p : UEIPPool) :
    p.allocate.1.toOption = (allocateLoop p.cidr p.allocated (wrap p.cidr p.nextIP) p.cidr.size
      p.cidr.size (wrap p.cidr p.nextIP) 0).1 := by
  unfold allocate CIDR4.size
  dsimp only
  generalize allocateLoop _ _ _ _ _ _ _ = r
  rcases r with ⟨_ | ip, next⟩ <;> rfl

theorem allocate_snd (p : UEIPPool) :
    p.allocate.2 = { p with
      nextIP := (allocateLoop p.cidr p.allocated (wrap p.cidr p.nextIP) p.cidr.size p.cidr.size
        (wrap p.cidr p.nextIP) 0).2
      allocated := match (allocateLoop p.cidr p.allocated (wrap p.cidr p.nextIP) p.cidr.size
        p.cidr.size (wrap p.cidr p.nextIP) 0).1 with
        | some ip => insert (ipKey ip) p.allocated
        | none => p.allocated } := by
  unfold allocate CIDR4.size
  dsimp only
  generalize allocateLoop _ _ _ _ _ _ _ = r
  rcases r with ⟨_ | ip, next⟩ <;> rfl

theorem allocate_error_msg {p : UEIPPool} {e : String} (h : p.allocate.1 = .error e) :
    e = "UE IP pool exhausted (all " ++ toString p.allocated.card ++ " addresses allocated)" := by
  dsimp only [allocate] at h
  split at h <;> simp_all

theorem ipKey_of_length_four {a : IP} (h : a.length = 4) : ipKey a = a :=
  if_neg fun h' => absurd (h.symm.trans h'.1) (by decide)

/-- What every pool reachable from `NewUEIPPool c` keeps: its block, a cursor that is not the
network address, and only addresses `Allocate` may hand out held. -/
structure Sound (c : CIDR4) (p : UEIPPool) : Prop where
  cidr_eq : p.cidr = c
  nextIP_ne : p.nextIP ≠ c.ipNet.ip
  allocated_usable : ∀ a ∈ p.allocated, c.usable a = true

/-- The cursor `Allocate` starts from, once wrapped, is an address it may hand out. -/
theorem wrap_eq_host (h31 : c.ones ≤ 31) {ip : IP} (hne : ip ≠ c.ipNet.ip) :
    ∃ k, 0 < k ∧ k < c.size ∧ wrap c ip = c.host k := by
  have h2 := c.two_le_size h31
  rw [wrap]
  split_ifs with hin
  · exact (c.usable_iff ip).1 (by simp [CIDR4.usable, hin, hne])
  · exact ⟨1, Nat.one_pos, h2, by rw [c.ipNet_ip_eq, c.incrementIP_host (by omega)]⟩

/-- On its cycle the cursor is back at its start only after `size - 1` steps. -/
theorem iterate_host_ne (h1 : 1 ≤ c.ones) (h31 : c.ones ≤ 31) {k : ℕ} (hk0 : 0 < k)
    (hk : k < c.size) {i : ℕ} (hi0 : 0 < i) (hi : i < c.size - 1) :
    (advance c)^[i] (c.host k) ≠ c.host k := by
  have hcycle : 0 < c.size - 1 := by omega
  rw [CIDR4.iterate_wrap_incrementIP_host h1 h31 hk0 hk]
  intro h
  have heq := c.host_inj (by have := Nat.mod_lt (k - 1 + i) hcycle; omega) hk h
  rcases Nat.lt_or_ge (k - 1 + i) (c.size - 1) with hlt | hge
  · rw [Nat.mod_eq_of_lt hlt] at heq
    omega
  · rw [Nat.mod_eq_sub_mod hge, Nat.mod_eq_of_lt (by omega)] at heq
    omega

/-- One `Allocate` on a sound pool returns the first address that is not held among the
`size - 1` addresses its cursor visits, starting from one of them. -/
theorem Sound.allocate_fst (h1 : 1 ≤ c.ones) (h31 : c.ones ≤ 31) {p : UEIPPool} (hp : p.Sound c) :
    ∃ k, 0 < k ∧ k < c.size ∧ p.allocate.1.toOption =
      ((List.range (c.size - 1)).map fun i => (advance c)^[i] (c.host k)).find?
        fun a => ipKey a ∉ p.allocated := by
  obtain ⟨k, hk0, hk, hstart⟩ := wrap_eq_host h31 hp.nextIP_ne
  have h2 := c.two_le_size h31
  have hloop := allocateLoop_fst c p.allocated (c.host k) c.size
    (fun i hi0 hi => iterate_host_ne h1 h31 hk0 hk hi0 hi) c.size 0 (by omega) (by omega)
  rw [Function.iterate_zero_apply, Nat.sub_zero, ← List.range_eq_range'] at hloop
  refine ⟨k, hk0, hk, ?_⟩
  rw [allocate_fst_toOption, hp.cidr_eq, hstart, hloop]

/-- One `Allocate` on a sound pool leaves a sound pool. -/
theorem Sound.allocate_sound (h1 : 1 ≤ c.ones) (h31 : c.ones ≤ 31) {p : UEIPPool}
    (hp : p.Sound c) : p.allocate.2.Sound c := by
  obtain ⟨k, hk0, hk, hstart⟩ := wrap_eq_host h31 hp.nextIP_ne
  obtain ⟨k', hk'0, hk', hfst⟩ := hp.allocate_fst h1 h31
  have hcycle : 0 < c.size - 1 := by have := c.two_le_size h31; omega
  obtain ⟨i, hi⟩ := allocateLoop_snd p.cidr p.allocated (wrap p.cidr p.nextIP) p.cidr.size
    p.cidr.size (wrap p.cidr p.nextIP) 0
  rw [allocate_snd]
  refine ⟨hp.cidr_eq, ?_, fun a ha => ?_⟩
  · -- the cursor stays on the cycle, away from the network address
    dsimp only
    rw [hi, hp.cidr_eq, hstart, CIDR4.iterate_wrap_incrementIP_host h1 h31 hk0 hk, c.ipNet_ip_eq]
    intro h
    have := c.host_inj (by have := Nat.mod_lt (k - 1 + i) hcycle; omega) c.size_pos h
    omega
  · -- the only address added is the one handed out, which is on the cycle
    dsimp only at ha
    rw [← allocate_fst_toOption] at ha
    split at ha
    · next ip hsome =>
      rw [hfst] at hsome
      have hmem := List.mem_of_find?_eq_some hsome
      rw [CIDR4.mem_iterate_host h1 h31 hk'0 hk'] at hmem
      have hkey : ipKey ip = ip := ipKey_of_length_four (CIDR4.length_of_usable hmem)
      rw [hkey, Finset.mem_insert] at ha
      rcases ha with rfl | ha
      · exact hmem
      · exact hp.allocated_usable a ha
    · exact hp.allocated_usable a ha

theorem Sound.release {p : UEIPPool} (hp : p.Sound c) (ip : IP) : (p.release ip).Sound c :=
  ⟨hp.cidr_eq, hp.nextIP_ne, fun a ha => hp.allocated_usable a (Finset.mem_of_mem_erase ha)⟩

theorem sound_newUEIPPool (h31 : c.ones ≤ 31) : (newUEIPPool c).Sound c := by
  refine ⟨rfl, ?_, fun a ha => absurd ha (Finset.not_mem_empty a)⟩
  have h2 := c.two_le_size h31
  show incrementIP c.ipNet.ip ≠ c.ipNet.ip
  rw [c.ipNet_ip_eq, c.incrementIP_host (by omega)]
  exact fun h => absurd (c.host_inj h2 c.size_pos h) Nat.one_ne_zero

/-- The pools a sequence of `Allocate` and `Release` calls reaches from `NewUEIPPool`. -/
inductive Reachable (c : CIDR4) : UEIPPool → Prop
  | init : Reachable c (newUEIPPool c)
  | allocate {p : UEIPPool} : Reachable c p → Reachable c p.allocate.2
  | release {p : UEIPPool} (ip : IP) : Reachable c p → Reachable c (p.release ip)

theorem Reachable.sound (h1 : 1 ≤ c.ones) (h31 : c.ones ≤ 31) {p : UEIPPool}
    (hp : Reachable c p) : p.Sound c := by
  induction hp with
  | init => exact sound_newUEIPPool h31
  | allocate _ ih => exact ih.allocate_sound h1 h31
  | release ip _ ih => exact ih.release ip

/-- On a sound pool some address of the block other than the network address is free exactly
when fewer than `size - 1` addresses are held. -/
theorem Sound.exists_free_iff {p : UEIPPool} (hp : p.Sound c) :
    (∃ a, c.usable a = true ∧ a ∉ p.allocated) ↔ p.allocated.card < c.size - 1 := by
  have hsub : p.allocated ⊆ c.usableSet := fun a ha =>
    CIDR4.mem_usableSet.2 (hp.allocated_usable a ha)
  rw [← c.card_usableSet]
  constructor
  · rintro ⟨a, hu, hna⟩
    exact Finset.card_lt_card ⟨hsub, fun h => hna (h (CIDR4.mem_usableSet.2 hu))⟩
  · intro hcard
    by_contra hall
    push_neg at hall
    exact absurd (Finset.card_le_card fun a ha => hall a (CIDR4.mem_usableSet.1 ha)) (by omega)

/-- On a sound pool an address `Allocate` hands out may be handed out, and is not held. -/
theorem Sound.allocate_ok (h1 : 1 ≤ c.ones) (h31 : c.ones ≤ 31) {p : UEIPPool} (hp : p.Sound c)
    {ip : IP} (h : p.allocate.1 = .ok ip) : c.usable ip = true ∧ ip ∉ p.allocated := by
  obtain ⟨k, hk0, hk, hfst⟩ := hp.allocate_fst h1 h31
  have hsome := hfst.symm.trans (by rw [h])
  have hu := (CIDR4.mem_iterate_host h1 h31 hk0 hk ip).1 (List.mem_of_find?_eq_some hsome)
  have hfree := List.find?_some hsome
  rw [ipKey_of_length_four (CIDR4.length_of_usable hu), decide_eq_true_iff] at hfree
  exact ⟨hu, hfree⟩

/-- On a sound pool `Allocate` fails only when every address it may hand out is held. -/
theorem Sound.allocate_error (h1 : 1 ≤ c.ones) (h31 : c.ones ≤ 31) {p : UEIPPool} (hp : p.Sound c)
    {e : String} (h : p.allocate.1 = .error e) (a : IP) (ha : c.usable a = true) :
    a ∈ p.allocated := by
  obtain ⟨k, hk0, hk, hfst⟩ := hp.allocate_fst h1 h31
  rw [h] at hfst
  have := List.find?_eq_none.1 hfst.symm a ((CIDR4.mem_iterate_host h1 h31 hk0 hk a).2 ha)
  rwa [ipKey_of_length_four (CIDR4.length_of_usable ha), decide_eq_true_iff, not_not] at this

end UEIPPool

/-- `Allocate` on a block whose prefix length is between `1` and `31`, after any sequence of
`Allocate` and `Release` calls from `NewUEIPPool`: an address it hands out is in the block, is
not the network address and is not held; it succeeds exactly when fewer than all
`2 ^ (32 - ones) - 1` addresses other than the network address are held, the broadcast address
included; and when it fails its error reports all of these allocated. -/
theorem allocate_scans_block (c : CIDR4) (h1 : 1 ≤ c.ones) (h31 : c.ones ≤ 31) {p : UEIPPool}
    (hp : UEIPPool.Reachable c p) :
    (∀ ip, p.allocate.1 = .ok ip → c.usable ip = true ∧ ip ∉ p.allocated) ∧
      ((∃ ip, p.allocate.1 = .ok ip) ↔ p.allocated.card < c.size - 1) ∧
      ∀ e, p.allocate.1 = .error e →
        e = "UE IP pool exhausted (all " ++ toString (c.size - 1) ++ " addresses allocated)" := by
  have hs := hp.sound h1 h31
  refine ⟨fun ip => hs.allocate_ok h1 h31,
    ⟨fun ⟨ip, h⟩ => hs.exists_free_iff.1 ⟨ip, hs.allocate_ok h1 h31 h⟩, fun hcard => ?_⟩,
    fun e he => ?_⟩
  · -- some address is free, so the scan finds one
    obtain ⟨a, hu, hna⟩ := hs.exists_free_iff.2 hcard
    cases h : p.allocate.1 with
    | ok ip => exact ⟨ip, rfl⟩
    | error e => exact absurd (hs.allocate_error h1 h31 h a hu) hna
  · -- every address is held, and only those are
    have hcard : p.allocated.card = c.size - 1 := by
      refine Nat.le_antisymm ?_ (Nat.not_lt.1 fun hlt => ?_)
      · rw [← c.card_usableSet]
        exact Finset.card_le_card fun a ha => CIDR4.mem_usableSet.2 (hs.allocated_usable a ha)
      · obtain ⟨a, hu, hna⟩ := hs.exists_free_iff.2 hlt
        exact hna (hs.allocate_error h1 h31 he a hu)
    rw [UEIPPool.allocate_error_msg he, hcard]

/-- `10.60.0.0/24` has a prefix length between `1` and `31`, and the new pool on it is reachable. -/
theorem allocate_scans_block24 :
    1 ≤ block24.ones ∧ block24.ones ≤ 31 ∧ UEIPPool.Reachable block24 (newUEIPPool block24) ∧
      ((∃ ip, (newUEIPPool block24).allocate.1 = .ok ip) ↔
        (newUEIPPool block24).allocated.card < block24.size - 1) :=
  ⟨by decide, by decide, .init,
    (allocate_scans_block block24 (by decide) (by decide) .init).2.1⟩

end PfcpGenerator
