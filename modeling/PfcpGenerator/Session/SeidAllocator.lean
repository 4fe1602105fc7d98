import Mathlib.Data.Finset.Card

/-!
# SEID allocation

A model of `SEIDAllocator` (`internal/session/seid_allocator.go`), which hands out the local
session endpoint identifiers of the replayed sessions. The allocator keeps its strategy name,
the cursor of the sequential strategy and the set of SEIDs currently held (`usedSEIDs`).

* The sequential strategy scans upwards from the cursor modulo `2 ^ 64`, skipping `0` and held
  values, for at most `10 ^ 6` candidates; the cursor moves past every candidate it looks at.
* The random strategy tries at most `10 ^ 4` values of `rand.Uint64()`, skipping `0` and held
  values. The draws are an argument of `allocate`, so every statement below holds for every
  random source, one that returns `0` or repeats itself included.

The mutex only makes each call atomic; a call is modelled as one function application.

Main results:

* `allocate_ok_spec`, `allocate_error_spec`, `release_usedSEIDs`: what one call does to the
  held set. The session manager's proofs use only these.
* `sequential_allocation`: the sequential strategy scans the candidates `c, c + 1, …` from the
  cursor modulo `2 ^ 64`, skipping `0`, returns the first not held among the first `10 ^ 6`, and
  from `NewSEIDAllocator("sequential", B)` the `k`-th call returns the `k`-th candidate from `B`
  up to `k = 2 ^ 64 - 1`; `run_allocate_after_wrap` is the call after those, which fails.
* `run_issued_fresh`: for any strategy, any start value and any sequence of `Allocate` and
  `Release` calls, every SEID handed out is non-zero and not held at that moment, and after
  every call the held set is the set of SEIDs handed out and not released since.
-/

namespace PfcpGenerator

/-- `SEIDAllocator`: the allocation strategy, the cursor of the sequential strategy, and the
SEIDs currently held. -/
structure SEIDAllocator where
  /-- `"sequential"` or `"random"`; with any other name every `Allocate` fails. -/
  strategy : String
  /-- The next candidate of the sequential strategy. -/
  nextSEID : UInt64
  /-- The keys of `usedSEIDs`: the SEIDs handed out and not released since. -/
  usedSEIDs : Finset UInt64

/-- `NewSEIDAllocator`: SEID `0` is reserved, so a start value of `0` becomes `1`. -/
def newSEIDAllocator (strategy : String) (startSEID : UInt64) : SEIDAllocator :=
  { strategy, nextSEID := if startSEID = 0 then 1 else startSEID, usedSEIDs := ∅ }

namespace SEIDAllocator

/-- The candidate the sequential loop looks at: the cursor, or `1` where the cursor has
wrapped to `0`. -/
def sequentialCandidate (next : UInt64) : UInt64 := if next = 0 then 1 else next

/-- The loop of the sequential strategy with `fuel` iterations left. The cursor moves past
each candidate, and the first candidate not held is returned with the cursor after it. -/
def sequentialScan (used : Finset UInt64) : ℕ → UInt64 → Option UInt64 × UInt64
  | 0, next => (none, next)
  | fuel + 1, next =>
    let seid := sequentialCandidate next
    if seid ∈ used then sequentialScan used fuel (seid + 1) else (some seid, seid + 1)

/-- The loop of the random strategy over the values its calls of `rand.Uint64()` return:
the first that is neither `0` nor held. -/
def randomScan (used : Finset UInt64) : List UInt64 → Option UInt64
  | [] => none
  | seid :: draws => if seid = 0 ∨ seid ∈ used then randomScan used draws else some seid

/-- `Allocate`. `rand n` is what the `n`-th call of `rand.Uint64()` made by this `Allocate`
returns; only the random strategy draws. -/
def allocate (s : SEIDAllocator) (rand : ℕ → UInt64) : Except String UInt64 × SEIDAllocator :=
  match s.strategy with
  | "sequential" =>
    match sequentialScan s.usedSEIDs 1000000 s.nextSEID with
    | (some seid, next) =>
      (.ok seid, { s with nextSEID := next, usedSEIDs := insert seid s.usedSEIDs })
    | (none, next) =>
      (.error "failed to allocate sequential SEID: too many collisions", { s with nextSEID := next })
  | "random" =>
    match randomScan s.usedSEIDs ((List.range 10000).map rand) with
    | some seid => (.ok seid, { s with usedSEIDs := insert seid s.usedSEIDs })
    | none => (.error "failed to allocate random SEID after 10000 attempts", s)
  | _ => (.error ("unknown SEID strategy: " ++ s.strategy), s)

/-- `Release`: forget `seid`; releasing a SEID that is not held changes nothing. -/
def release (s : SEIDAllocator) (seid : UInt64) : SEIDAllocator :=
  { s with usedSEIDs := s.usedSEIDs.erase seid }

@[simp]
theorem release_usedSEIDs (s : SEIDAllocator) (seid : UInt64) :
    (s.release seid).usedSEIDs = s.usedSEIDs.erase seid := rfl

@[simp]
theorem newSEIDAllocator_usedSEIDs (strategy : String) (startSEID : UInt64) :
    (newSEIDAllocator strategy startSEID).usedSEIDs = ∅ := rfl

/-- The sequential candidate is never the reserved SEID `0`. -/
theorem sequentialCandidate_ne_zero (next : UInt64) : sequentialCandidate next ≠ 0 := by
  unfold sequentialCandidate
  split_ifs with h
  · decide
  · exact h

theorem sequentialScan_spec {used : Finset UInt64} {fuel : ℕ} {next seid next' : UInt64}
    (h : sequentialScan used fuel next = (some seid, next')) : seid ≠ 0 ∧ seid ∉ used := by
  induction fuel generalizing next with
  | zero => simp [sequentialScan] at h
  | succ fuel ih =>
    simp only [sequentialScan] at h
    split_ifs at h with hused
    · exact ih h
    · simp only [Prod.mk.injEq, Option.some.injEq] at h
      obtain ⟨rfl, -⟩ := h
      exact ⟨sequentialCandidate_ne_zero next, hused⟩

theorem randomScan_spec {used : Finset UInt64} {draws : List UInt64} {seid : UInt64}
    (h : randomScan used draws = some seid) : seid ≠ 0 ∧ seid ∉ used := by
  induction draws with
  | nil => simp [randomScan] at h
  | cons d draws ih =>
    simp only [randomScan] at h
    split_ifs at h with hskip
    · exact ih h
    · cases h
      exact not_or.mp hskip

/-- A successful `Allocate` returns a non-zero SEID that was not held, and holds it. -/
theorem allocate_ok_spec {s s' : SEIDAllocator} {rand : ℕ → UInt64} {seid : UInt64}
    (h : s.allocate rand = (.ok seid, s')) :
    seid ≠ 0 ∧ seid ∉ s.usedSEIDs ∧ s'.usedSEIDs = insert seid s.usedSEIDs := by
  unfold allocate at h
  split at h
  · split at h <;> cases h
    rename_i hscan
    exact ⟨(sequentialScan_spec hscan).1, (sequentialScan_spec hscan).2, rfl⟩
  · split at h <;> cases h
    rename_i hscan
    exact ⟨(randomScan_spec hscan).1, (randomScan_spec hscan).2, rfl⟩
  · cases h

/-- A failed `Allocate` leaves the held set as it was. -/
theorem allocate_error_spec {s s' : SEIDAllocator} {rand : ℕ → UInt64} {e : String}
    (h : s.allocate rand = (.error e, s')) : s'.usedSEIDs = s.usedSEIDs := by
  unfold allocate at h
  split at h
  · split at h <;> cases h
    rfl
  · split at h <;> cases h
    rfl
  · cases h
    rfl

@[simp]
theorem allocate_strategy (s : SEIDAllocator) (rand : ℕ → UInt64) :
    (s.allocate rand).2.strategy = s.strategy := by
  unfold allocate
  split <;> (try split) <;> rfl

/-! ## The sequential strategy -/

/-- The `k`-th candidate (from `0`) the sequential loop looks at from the cursor `next`: `next`,
`next + 1`, … modulo `2 ^ 64`, with `0` read as `1`. -/
def candidate (next : UInt64) : ℕ → UInt64
  | 0 => sequentialCandidate next
  | k + 1 => candidate (sequentialCandidate next + 1) k

theorem sequentialCandidate_toNat (next : UInt64) :
    (sequentialCandidate next).toNat = max next.toNat 1 := by
  unfold sequentialCandidate
  split_ifs with h
  · simp [h]
  · have : next.toNat ≠ 0 := fun h0 => h (UInt64.toNat.inj (h0.trans UInt64.toNat_zero.symm))
    omega

/-- The candidates in `ℕ`: the non-zero values from the first candidate on, cyclically, with
period `2 ^ 64 - 1`. -/
theorem candidate_toNat (next : UInt64) (k : ℕ) :
    (candidate next k).toNat = (max next.toNat 1 - 1 + k) % (2 ^ 64 - 1) + 1 := by
  induction k generalizing next with
  | zero =>
    have hlt : next.toNat < 2 ^ 64 := next.toNat_lt_size
    rw [candidate, sequentialCandidate_toNat]
    omega
  | succ k ih =>
    have hlt : (sequentialCandidate next).toNat < 2 ^ 64 := (sequentialCandidate next).toNat_lt_size
    have hsucc : (sequentialCandidate next + 1).toNat =
        ((sequentialCandidate next).toNat + 1) % 2 ^ 64 := BitVec.toNat_add _ _
    rw [candidate, ih, hsucc]
    rw [sequentialCandidate_toNat] at hlt ⊢
    omega

/-- The first `2 ^ 64 - 1` candidates are distinct. -/
theorem candidate_inj (next : UInt64) {j k : ℕ} (hj : j < 2 ^ 64 - 1) (hk : k < 2 ^ 64 - 1)
    (h : candidate next j = candidate next k) : j = k := by
  have h' := congrArg UInt64.toNat h
  rw [candidate_toNat, candidate_toNat] at h'
  have hlt : next.toNat < 2 ^ 64 := next.toNat_lt_size
  omega

/-- After `2 ^ 64 - 1` candidates the scan is back at the first. -/
theorem candidate_mod (next : UInt64) (k : ℕ) :
    candidate next (k % (2 ^ 64 - 1)) = candidate next k := by
  apply UInt64.toNat.inj
  rw [candidate_toNat, candidate_toNat]
  omega

/-- The candidates from the cursor after the `k`-th are those after it from `next`. -/
theorem candidate_after (next : UInt64) (k j : ℕ) :
    candidate (candidate next k + 1) j = candidate next (k + 1 + j) := by
  induction k generalizing next with
  | zero => rw [Nat.zero_add, Nat.add_comm]; rfl
  | succ k ih =>
    rw [show k + 1 + 1 + j = k + 1 + j + 1 by omega]
    exact ih (sequentialCandidate next + 1)

/-- The sequential loop with `fuel` iterations either finds all of its first `fuel` candidates
held, or returns the first that is not, with the cursor after it. -/
theorem sequentialScan_cases (used : Finset UInt64) (fuel : ℕ) (next : UInt64) :
    ((∀ k < fuel, candidate next k ∈ used) ∧ (sequentialScan used fuel next).1 = none) ∨
      ∃ k < fuel, (∀ j < k, candidate next j ∈ used) ∧ candidate next k ∉ used ∧
        sequentialScan used fuel next = (some (candidate next k), candidate next k + 1) := by
  induction fuel generalizing next with
  | zero => exact .inl ⟨fun k hk => absurd hk (Nat.not_lt_zero k), rfl⟩
  | succ fuel ih =>
    by_cases hused : sequentialCandidate next ∈ used
    · have hscan : sequentialScan used (fuel + 1) next =
          sequentialScan used fuel (sequentialCandidate next + 1) := by
        simp [sequentialScan, hused]
      rcases ih (sequentialCandidate next + 1) with ⟨hall, hnone⟩ | ⟨k, hk, hbefore, hfree, heq⟩
      · refine .inl ⟨fun k hk => ?_, hscan ▸ hnone⟩
        cases k with
        | zero => exact hused
        | succ k => exact hall k (by omega)
      · refine .inr ⟨k + 1, by omega, fun j hj => ?_, hfree, hscan.trans heq⟩
        cases j with
        | zero => exact hused
        | succ j => exact hbefore j (by omega)
    · exact .inr ⟨0, by omega, fun j hj => absurd hj (Nat.not_lt_zero j), hused,
        by simp [sequentialScan, hused, candidate]⟩

section Sequential

variable {s : SEIDAllocator} (hs : s.strategy = "sequential") (rand : ℕ → UInt64)
include hs

/-- A sequential `Allocate` fails exactly when its first `10 ^ 6` candidates are all held. -/
theorem allocate_sequential_error_iff :
    (∃ e, (s.allocate rand).1 = .error e) ↔ ∀ k < 1000000, candidate s.nextSEID k ∈ s.usedSEIDs := by
  unfold allocate
  rw [hs]
  rcases sequentialScan_cases s.usedSEIDs 1000000 s.nextSEID with
    ⟨hall, hnone⟩ | ⟨k, hk, -, hfree, heq⟩
  · obtain ⟨_, hscan⟩ : ∃ next, sequentialScan s.usedSEIDs 1000000 s.nextSEID = (none, next) :=
      ⟨_, Prod.ext hnone rfl⟩
    simp only [hscan]
    exact iff_of_true ⟨_, rfl⟩ hall
  · simp only [heq]
    exact iff_of_false (fun ⟨_, h⟩ => by cases h) fun hall => hfree (hall k hk)

/-- A sequential `Allocate` returns the first candidate not held, holds it, and moves the cursor
past it. -/
theorem allocate_sequential_first {k : ℕ} (hk : k < 1000000)
    (hbefore : ∀ j < k, candidate s.nextSEID j ∈ s.usedSEIDs)
    (hfree : candidate s.nextSEID k ∉ s.usedSEIDs) :
    s.allocate rand = (.ok (candidate s.nextSEID k),
      { s with nextSEID := candidate s.nextSEID k + 1,
               usedSEIDs := insert (candidate s.nextSEID k) s.usedSEIDs }) := by
  unfold allocate
  rw [hs]
  rcases sequentialScan_cases s.usedSEIDs 1000000 s.nextSEID with
    ⟨hall, -⟩ | ⟨k', -, hbefore', hfree', heq⟩
  · exact absurd (hall k hk) hfree
  · -- the first candidate not held is unique
    obtain rfl : k' = k := by
      rcases Nat.lt_trichotomy k' k with hlt | heq | hgt
      · exact absurd (hbefore k' hlt) hfree'
      · exact heq
      · exact absurd (hbefore' k hgt) hfree
    simp only [heq]

/-- While fewer than `10 ^ 6` SEIDs are held, a sequential `Allocate` succeeds. -/
theorem allocate_sequential_ok_of_card_lt (hcard : s.usedSEIDs.card < 1000000) :
    ∃ seid s', s.allocate rand = (.ok seid, s') := by
  rcases hres : s.allocate rand with ⟨_ | seid, s'⟩
  · -- the first `10 ^ 6` candidates are distinct and all held
    have hall := (allocate_sequential_error_iff hs rand).1 ⟨_, by rw [hres]⟩
    have hsub : (Finset.range 1000000).image (candidate s.nextSEID) ⊆ s.usedSEIDs := by
      intro x hx
      obtain ⟨k, hk, rfl⟩ := Finset.mem_image.1 hx
      exact hall k (Finset.mem_range.1 hk)
    have hinj : Set.InjOn (candidate s.nextSEID) (Finset.range 1000000 : Set ℕ) :=
      fun j hj k hk h => candidate_inj s.nextSEID (by simp at hj; omega) (by simp at hk; omega) h
    have := Finset.card_le_card hsub
    rw [Finset.card_image_of_injOn hinj, Finset.card_range] at this
    omega
  · exact ⟨seid, s', rfl⟩

end Sequential

/-! ## Runs of `Allocate` and `Release` calls -/

/-- One call made on the allocator. -/
inductive Call
  | allocate (rand : ℕ → UInt64)
  | release (seid : UInt64)

/-- What a call did, as a history records it. -/
inductive Event
  | allocated (seid : UInt64)
  | failed
  | released (seid : UInt64)

/-- Make one call. -/
def call (s : SEIDAllocator) : Call → Event × SEIDAllocator
  | .allocate rand =>
    match s.allocate rand with
    | (.ok seid, s') => (.allocated seid, s')
    | (.error _, s') => (.failed, s')
  | .release seid => (.released seid, s.release seid)

/-- Make the calls in order, consing each call's event onto the history `h`, newest first. -/
def run : List Event → SEIDAllocator → List Call → List Event × SEIDAllocator
  | h, s, [] => (h, s)
  | h, s, c :: cs => run ((s.call c).1 :: h) (s.call c).2 cs

@[simp]
theorem call_strategy (s : SEIDAllocator) (c : Call) : (s.call c).2.strategy = s.strategy := by
  cases c with
  | allocate rand =>
    rw [← allocate_strategy s rand]
    simp only [call]
    split <;> simp [*]
  | release seid => rfl

theorem call_allocate_of_ok {s : SEIDAllocator} {rand : ℕ → UInt64} {seid : UInt64}
    (h : (s.allocate rand).1 = .ok seid) :
    s.call (.allocate rand) = (.allocated seid, (s.allocate rand).2) := by
  simp only [call]
  rcases hres : s.allocate rand with ⟨_ | seid', s'⟩ <;> simp_all

theorem call_allocate_of_error {s : SEIDAllocator} {rand : ℕ → UInt64} {e : String}
    (h : (s.allocate rand).1 = .error e) : (s.call (.allocate rand)).1 = .failed := by
  simp only [call]
  rcases hres : s.allocate rand with ⟨_ | seid, s'⟩ <;> simp_all

/-- The SEIDs a history (newest first) has handed out and not released since. -/
def outstanding : List Event → Finset UInt64
  | [] => ∅
  | .allocated seid :: h => insert seid (outstanding h)
  | .failed :: h => outstanding h
  | .released seid :: h => (outstanding h).erase seid

/-- Every SEID the history hands out is non-zero and not outstanding when it is handed out. -/
def IssuedFresh : List Event → Prop
  | [] => True
  | .allocated seid :: h => seid ≠ 0 ∧ seid ∉ outstanding h ∧ IssuedFresh h
  | .failed :: h => IssuedFresh h
  | .released _ :: h => IssuedFresh h

/-- One call keeps the held set equal to what the history has outstanding, and the SEID it
hands out, if any, is fresh. -/
theorem call_spec {s : SEIDAllocator} {h : List Event} (c : Call)
    (hheld : s.usedSEIDs = outstanding h) (hfresh : IssuedFresh h) :
    (s.call c).2.usedSEIDs = outstanding ((s.call c).1 :: h) ∧
      IssuedFresh ((s.call c).1 :: h) := by
  cases c with
  | allocate rand =>
    rcases ha : s.allocate rand with ⟨_ | seid, s'⟩
    · simp only [call, ha, outstanding, IssuedFresh]
      exact ⟨(allocate_error_spec ha).trans hheld, hfresh⟩
    · obtain ⟨hne, hnot, hins⟩ := allocate_ok_spec ha
      simp only [call, ha, outstanding, IssuedFresh, ← hheld]
      exact ⟨hins, hne, hnot, hfresh⟩
  | release seid =>
    simp only [call, outstanding, IssuedFresh, release_usedSEIDs, hheld]
    exact ⟨trivial, hfresh⟩

theorem run_spec {s : SEIDAllocator} {h : List Event} (calls : List Call)
    (hheld : s.usedSEIDs = outstanding h) (hfresh : IssuedFresh h) :
    (s.run h calls).2.usedSEIDs = outstanding (s.run h calls).1 ∧
      IssuedFresh (s.run h calls).1 := by
  induction calls generalizing h s with
  | nil => exact ⟨hheld, hfresh⟩
  | cons c cs ih => exact ih (call_spec c hheld hfresh).1 (call_spec c hheld hfresh).2

/-- For any strategy, any start value and any calls, with any random draws: every SEID
handed out is non-zero and not held at that moment, and the held set is the set of SEIDs
handed out and not released since. Every prefix of `calls` is itself a list of calls, so
this holds after every call. -/
theorem run_issued_fresh (strategy : String) (startSEID : UInt64) (calls : List Call) :
    let r := (newSEIDAllocator strategy startSEID).run [] calls
    r.2.usedSEIDs = outstanding r.1 ∧ IssuedFresh r.1 :=
  run_spec calls rfl trivial

/-! ## Sequential runs without `Release` -/

/-- The allocator after `n` successful `Allocate` calls and no `Release` from
`NewSEIDAllocator("sequential", B)`: the cursor is at the `n`-th candidate from `B` and the first
`n` candidates are held. -/
structure SequentialFrom (B : UInt64) (n : ℕ) (s : SEIDAllocator) : Prop where
  strategy : s.strategy = "sequential"
  cursor : ∀ j, candidate s.nextSEID j = candidate B (n + j)
  held : s.usedSEIDs = (Finset.range n).image (candidate B)

theorem candidate_sequentialCandidate (next : UInt64) (k : ℕ) :
    candidate (sequentialCandidate next) k = candidate next k := by
  have hidem : sequentialCandidate (sequentialCandidate next) = sequentialCandidate next := by
    unfold sequentialCandidate
    split_ifs <;> simp_all
  cases k <;> simp only [candidate, hidem]

theorem sequentialFrom_new (B : UInt64) : SequentialFrom B 0 (newSEIDAllocator "sequential" B) :=
  ⟨rfl, fun j => by rw [Nat.zero_add]; exact candidate_sequentialCandidate B j, rfl⟩

/-- Before the cursor has gone once round, a sequential `Allocate` returns the candidate at the
cursor, which is not held. -/
theorem SequentialFrom.allocate {B : UInt64} {n : ℕ} {s : SEIDAllocator}
    (h : SequentialFrom B n s) (hn : n < 2 ^ 64 - 1) (rand : ℕ → UInt64) :
    (s.allocate rand).1 = .ok (candidate B n) ∧ SequentialFrom B (n + 1) (s.allocate rand).2 := by
  have hfree : candidate s.nextSEID 0 ∉ s.usedSEIDs := by
    rw [h.held, h.cursor, Nat.add_zero, Finset.mem_image]
    rintro ⟨j, hj, heq⟩
    have := candidate_inj B (by simp at hj; omega) hn heq
    simp at hj; omega
  rw [allocate_sequential_first h.strategy rand (by decide) (fun j hj => absurd hj (by omega))
    hfree, h.cursor, Nat.add_zero]
  refine ⟨rfl, h.strategy, fun j => ?_, ?_⟩
  · exact candidate_after B n j
  · rw [h.held, Finset.range_succ, Finset.image_insert]

theorem run_append (h : List Event) (s : SEIDAllocator) (xs ys : List Call) :
    s.run h (xs ++ ys) = (s.run h xs).2.run (s.run h xs).1 ys := by
  induction xs generalizing h s with
  | nil => rfl
  | cons c cs ih => exact ih _ _

/-- `k` more `Allocate` calls from the state after `n`, with `n + k` at most `2 ^ 64 - 1`, return
the candidates `n`, …, `n + k - 1` in order. -/
theorem SequentialFrom.run_calls {B : UInt64} {n : ℕ} {s : SEIDAllocator} (hs : SequentialFrom B n s)
    (h : List Event) (rands : List (ℕ → UInt64)) (hk : n + rands.length ≤ 2 ^ 64 - 1) :
    (s.run h (rands.map Call.allocate)).1 =
        ((List.range' n rands.length).map fun j => Event.allocated (candidate B j)).reverse ++ h ∧
      SequentialFrom B (n + rands.length) (s.run h (rands.map Call.allocate)).2 := by
  induction rands generalizing n s h with
  | nil => exact ⟨rfl, hs⟩
  | cons rand rands ih =>
    obtain ⟨hok, hnext⟩ := hs.allocate (by simp at hk; omega) rand
    have hcall := call_allocate_of_ok hok
    obtain ⟨hrun, hinv⟩ := ih hnext (.allocated (candidate B n) :: h) (by simp at hk; omega)
    simp only [List.map_cons, run, hcall, List.length_cons, List.range'_succ, List.map_cons,
      List.reverse_cons, List.append_assoc, List.singleton_append] at hrun hinv ⊢
    exact ⟨hrun, by rwa [Nat.add_right_comm, Nat.add_assoc] at hinv⟩

/-- From `NewSEIDAllocator("sequential", B)`, `Allocate` calls and no `Release`: the `k`-th call
returns the `k`-th candidate from `B`, for `k` up to `2 ^ 64 - 1`. -/
theorem run_sequential (B : UInt64) (rands : List (ℕ → UInt64)) (hk : rands.length ≤ 2 ^ 64 - 1) :
    ((newSEIDAllocator "sequential" B).run [] (rands.map Call.allocate)).1 =
      ((List.range rands.length).map fun j => Event.allocated (candidate B j)).reverse := by
  rw [(sequentialFrom_new B).run_calls [] rands (by omega) |>.1, List.append_nil, List.range_eq_range']

/-- The `2 ^ 64`-th call fails: the `2 ^ 64 - 1` calls before it have handed out every non-zero
SEID, all still held. -/
theorem run_allocate_after_wrap (B : UInt64) (rand : ℕ → UInt64) :
    ((newSEIDAllocator "sequential" B).run []
      (List.replicate (2 ^ 64) (Call.allocate rand))).1.head? = some .failed := by
  have h64 : (2 : ℕ) ^ 64 = 2 ^ 64 - 1 + 1 := rfl
  rw [h64, List.replicate_succ', ← List.map_replicate, run_append]
  obtain ⟨-, hinv⟩ := (sequentialFrom_new B).run_calls [] (List.replicate (2 ^ 64 - 1) rand)
    (by rw [List.length_replicate, Nat.zero_add])
  rw [Nat.zero_add, List.length_replicate] at hinv
  generalize (newSEIDAllocator "sequential" B).run [] _ = r at hinv ⊢
  -- every candidate from the cursor is one of the first `2 ^ 64 - 1`, all held
  have hall : ∀ k < 1000000, candidate r.2.nextSEID k ∈ r.2.usedSEIDs := by
    intro k _
    rw [hinv.held, hinv.cursor, ← candidate_mod]
    exact Finset.mem_image_of_mem _ (Finset.mem_range.2 (Nat.mod_lt _ (by decide)))
  obtain ⟨e, he⟩ := (allocate_sequential_error_iff hinv.strategy rand).2 hall
  show some (r.2.call (.allocate rand)).1 = some .failed
  rw [call_allocate_of_error he]

/-- The sequential strategy. From any allocator state, `Allocate` scans the candidates from the
cursor `c`: `c, c + 1, …` modulo `2 ^ 64` with `0` skipped, the `k`-th being
`(max c 1 - 1 + k) % (2 ^ 64 - 1) + 1`. It fails exactly when the first `10 ^ 6` are all held,
otherwise returns the first not held, holds it and moves the cursor past it, and it cannot fail
while fewer than `10 ^ 6` SEIDs are held. From `NewSEIDAllocator("sequential", B)` with no
`Release`, the `k`-th call returns the `k`-th candidate from `B`, for every `k` up to
`2 ^ 64 - 1`. -/
theorem sequential_allocation {s : SEIDAllocator} (hs : s.strategy = "sequential")
    (rand : ℕ → UInt64) (B : UInt64) (rands : List (ℕ → UInt64))
    (hk : rands.length ≤ 2 ^ 64 - 1) :
    (∀ c k, (candidate c k).toNat = (max c.toNat 1 - 1 + k) % (2 ^ 64 - 1) + 1) ∧
      ((∃ e, (s.allocate rand).1 = .error e) ↔
        ∀ k < 1000000, candidate s.nextSEID k ∈ s.usedSEIDs) ∧
      (∀ k < 1000000, (∀ j < k, candidate s.nextSEID j ∈ s.usedSEIDs) →
        candidate s.nextSEID k ∉ s.usedSEIDs →
        s.allocate rand = (.ok (candidate s.nextSEID k),
          { s with nextSEID := candidate s.nextSEID k + 1,
                   usedSEIDs := insert (candidate s.nextSEID k) s.usedSEIDs })) ∧
      (s.usedSEIDs.card < 1000000 → ∃ seid s', s.allocate rand = (.ok seid, s')) ∧
      ((newSEIDAllocator "sequential" B).run [] (rands.map Call.allocate)).1 =
        ((List.range rands.length).map fun j => Event.allocated (candidate B j)).reverse :=
  ⟨candidate_toNat, allocate_sequential_error_iff hs rand,
    fun _ hk hbefore hfree => allocate_sequential_first hs rand hk hbefore hfree,
    allocate_sequential_ok_of_card_lt hs rand, run_sequential B rands hk⟩

/-- Three calls from `2 ^ 64 - 2` wrap past `0`. -/
theorem sequential_allocation_across_wrap :
    (newSEIDAllocator "sequential" 0xfffffffffffffffe).strategy = "sequential" ∧
      ([fun _ => 0, fun _ => 0, fun _ => 0] : List (ℕ → UInt64)).length ≤ 2 ^ 64 - 1 ∧
      ((newSEIDAllocator "sequential" 0xfffffffffffffffe).run []
          (([fun _ => 0, fun _ => 0, fun _ => 0] : List (ℕ → UInt64)).map Call.allocate)).1 =
        [.allocated 1, .allocated 0xffffffffffffffff, .allocated 0xfffffffffffffffe] :=
  have hs : (newSEIDAllocator "sequential" 0xfffffffffffffffe).strategy = "sequential" := rfl
  have hk : ([fun _ => 0, fun _ => 0, fun _ => 0] : List (ℕ → UInt64)).length ≤ 2 ^ 64 - 1 := by
    decide
  ⟨hs, hk, (sequential_allocation hs (fun _ => 0) 0xfffffffffffffffe _ hk).2.2.2.2.trans rfl⟩

end SEIDAllocator

end PfcpGenerator
