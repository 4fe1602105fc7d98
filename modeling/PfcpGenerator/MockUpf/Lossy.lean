import PfcpGenerator.MockUpf.Linked

/-!
# The generator against the mock UPF over a lossy link

`LinkedReachable` joins the manager and the mock UPF by a link that delivers every datagram, on
which every reply comes before the tracker's timeout, and whose receive path stays live. UDP
promises none of this. A request, a retransmission or a reply can be lost or come late, and the
network can duplicate a datagram. Once `SIGINT` has cancelled the main context, the receiver,
the timeout monitor and `handleResponses` have stopped: the deletions of the cleanup that
follows still reach the UPF, but no reply resolves them. This module drops those assumptions.

While the manager handles one message, or one session of `CleanupSessions`, the UPF handles any
list of datagrams: copies of the request the call sent, and any other datagram, such as a late
copy of an earlier request. The call's result is an error (the tracker's timeout, the context's
cancellation), or one of the UPF's replies to a copy of its request: a reply to another request
carries another sequence number (`sent_sequences_increase`), and the tracker resolves a
transaction by sequence number alone. Between calls the UPF may handle further datagrams.

On such a link the UPF can hold a session the manager never learns of (the first copy of a
retransmitted establishment, whose reply was lost), and the manager can keep established a
session the UPF has deleted (a deletion whose reply was lost). What survives is one direction of
`Linked`: a UP SEID the UPF holds and a session carries is that of an established session, with
the same CP SEID. With it survives the reason two established sessions never share a local SEID
or a UE IP: the UPF answers a deletion only for an established session.

## Main definitions

* `MockUPF.handleAll`: the UPF handling a list of datagrams in order.
* `LossyReachable`: the manager and the UPF after any run over a lossy link.
* `KeysHeld`: the key of every established session, its local SEID or its UE IP, is held, and no
  later session has it.
* `Held`: what the manager and the UPF agree on over a lossy link.

## Main results

* `lossyReachable_of_linkedReachable`: every run over the lossless link is a run here.
* `held_of_lossyReachable`: every run keeps `Held` and both `KeysHeld`.
* `upf_session_is_established`: a UP SEID the UPF holds that a session carries is that of an
  established session, held for its local SEID.
* `established_sessions_distinct`: two established sessions have different local SEIDs and UE
  IPs.
-/

namespace PfcpGenerator

/-! ## The UPF handling a list of datagrams -/

namespace MockUPF

variable (codec : Codec)

/-- The UPF handling the datagrams `bs` in order, as its receive loop does: the UPF after them,
and each datagram it answered, with its reply, in order. -/
def handleAll : List (List UInt8) → MockUPF → MockUPF × List (List UInt8 × List UInt8)
  | [], u => (u, [])
  | b :: bs, u =>
    match u.handleMessage codec b with
    | (.ok reply, u') => ((handleAll bs u').1, (b, reply) :: (handleAll bs u').2)
    | (.error _, u') => handleAll bs u'

theorem handleAll_cons_fst (b : List UInt8) (bs : List (List UInt8)) (u : MockUPF) :
    (u.handleAll codec (b :: bs)).1 = ((u.handleMessage codec b).2.handleAll codec bs).1 := by
  rcases h : u.handleMessage codec b with ⟨_ | reply, u'⟩ <;> simp [handleAll, h]

/-- A reply among those of `handleAll` is the answer to one of the datagrams by the UPF the
datagrams before it left, and the datagrams after it take the UPF to the end. -/
theorem exists_of_mem_handleAll {bs : List (List UInt8)} {u : MockUPF} {b r : List UInt8}
    (h : (b, r) ∈ (u.handleAll codec bs).2) :
    ∃ bs₁ bs₂ v, bs = bs₁ ++ b :: bs₂ ∧
      (u.handleAll codec bs₁).1.handleMessage codec b = (.ok r, v) ∧
      (v.handleAll codec bs₂).1 = (u.handleAll codec bs).1 := by
  induction bs generalizing u with
  | nil => simp [handleAll] at h
  | cons b' bs ih =>
    rcases hb : u.handleMessage codec b' with ⟨_ | reply, u'⟩ <;>
      simp only [handleAll, hb, List.mem_cons, Prod.mk.injEq] at h
    -- the reply to `b'` itself
    on_goal 2 =>
      rcases h with ⟨rfl, rfl⟩ | h
      · exact ⟨[], bs, u', rfl, hb, by simp [handleAll_cons_fst, hb]⟩
    -- a reply to a later datagram, with `b'` among those before it
    all_goals
      obtain ⟨bs₁, bs₂, v, rfl, hv, hend⟩ := ih h
      exact ⟨b' :: bs₁, bs₂, v, rfl, by simpa [handleAll_cons_fst, hb] using hv,
        by simpa [handleAll_cons_fst, hb] using hend⟩

/-- One datagram leaves the UPF as it was, or does what its request does (`respond_snd`). -/
theorem handleMessage_snd (u : MockUPF) (b : List UInt8) :
    (u.handleMessage codec b).2 = u ∨ ∃ msg, (u.handleMessage codec b).2 = (u.respond msg).2 := by
  unfold handleMessage
  split
  · exact .inl rfl
  · rename_i msg _
    refine .inr ⟨msg, ?_⟩
    rcases u.respond msg with ⟨_ | resp, u'⟩
    · rfl
    · dsimp only
      split <;> rfl

/-- How the UPF can change from `u` to `u'`: its counter does not go back, and every session `u'`
holds was held by `u`, or is under a UP SEID from `u`'s counter on. -/
structure Grows (u u' : MockUPF) : Prop where
  next_le : u.nextUPSEID.toNat ≤ u'.nextUPSEID.toNat
  sessions : ∀ k c, u'.sessions k = some c → u.sessions k = some c ∨ u.nextUPSEID.toNat ≤ k.toNat

theorem Grows.refl (u : MockUPF) : Grows u u := ⟨le_rfl, fun _ _ h => .inl h⟩

theorem Grows.trans {u v w : MockUPF} (h₁ : Grows u v) (h₂ : Grows v w) : Grows u w :=
  ⟨h₁.next_le.trans h₂.next_le, fun k c hk =>
    (h₂.sessions k c hk).elim (h₁.sessions k c) fun hle => .inr (h₁.next_le.trans hle)⟩

/-- Below the counter, the UPF holds only what it held before. -/
theorem Grows.sessions_of_lt {u u' : MockUPF} (hg : Grows u u') {k c : UInt64}
    (hk : k.toNat < u.nextUPSEID.toNat) (hc : u'.sessions k = some c) : u.sessions k = some c :=
  (hg.sessions k c hc).resolve_right (not_le.2 hk)

/-- While the counter does not wrap, one datagram moves it on by at most one and stores a
session only under it. -/
theorem grows_handleMessage {u : MockUPF} (hroom : u.nextUPSEID.toNat + 1 < 2 ^ 64)
    (b : List UInt8) :
    Grows u (u.handleMessage codec b).2 ∧
      (u.handleMessage codec b).2.nextUPSEID.toNat ≤ u.nextUPSEID.toNat + 1 := by
  rcases handleMessage_snd codec u b with h | ⟨msg, h⟩ <;> rw [h]
  · exact ⟨Grows.refl u, Nat.le_succ _⟩
  have hnext := toNat_add_one_of_lt hroom
  rcases u.respond_snd msg with h' | ⟨_, _, _, -, -, -, h'⟩ | ⟨_, _, -, -, h'⟩ <;> rw [h']
  · exact ⟨Grows.refl u, Nat.le_succ _⟩
  · refine ⟨⟨by simp [hnext], fun k c hk => ?_⟩, by simp [hnext]⟩
    simp only [Function.update_apply] at hk
    split_ifs at hk with hkn
    · exact .inr (hkn ▸ le_rfl)
    · exact .inl hk
  · refine ⟨⟨le_rfl, fun k c hk => ?_⟩, Nat.le_succ _⟩
    simp only [Function.update_apply] at hk
    split_ifs at hk
    exact .inl hk

/-- While the counter does not wrap, the datagrams of `handleAll` move it on by at most their
number and store sessions only from it on. -/
theorem grows_handleAll (bs : List (List UInt8)) {u : MockUPF}
    (hroom : u.nextUPSEID.toNat + bs.length < 2 ^ 64) :
    Grows u (u.handleAll codec bs).1 ∧
      (u.handleAll codec bs).1.nextUPSEID.toNat ≤ u.nextUPSEID.toNat + bs.length := by
  induction bs generalizing u with
  | nil => exact ⟨Grows.refl u, le_rfl⟩
  | cons b bs ih =>
    rw [List.length_cons] at hroom
    obtain ⟨hg, hle⟩ := grows_handleMessage codec (u := u) (by omega) b
    obtain ⟨hg', hle'⟩ := ih (u := (u.handleMessage codec b).2) (by omega)
    rw [handleAll_cons_fst, List.length_cons]
    exact ⟨hg.trans hg', by omega⟩

end MockUPF

/-! ## Runs over a lossy link -/

/-- The manager and the UPF after calls over a lossy link, from a new manager with the table of a
recording set and a new UPF; `n` counts the datagrams the UPF has handled. Between calls, and
during a call that sends a request, the UPF handles any list of datagrams. A call that sends a
request marshalled to `data` is answered only by a reply the UPF sent to a copy of `data` among
them; any error may end it instead. -/
inductive LossyReachable (codec : Codec) : ℕ → Manager → MockUPF → Prop
  | init (associationEnabled : Bool) (modifier : Modifier) (seidStrategy : String)
      (seidStart : UInt64) (ueIPPool : CIDR4) (mappings : List SEIDMapping) (localIP : IP)
      (recoveryTS : UInt32) :
      LossyReachable codec 0
        ((newManager associationEnabled modifier seidStrategy seidStart ueIPPool).setSEIDMappings
          mappings) (newMockUPF localIP recoveryTS)
  | idle {n : ℕ} {m : Manager} {u : MockUPF} (bs : List (List UInt8)) :
      LossyReachable codec n m u → LossyReachable codec (n + bs.length) m (u.handleAll codec bs).1
  | silent {n : ℕ} {m : Manager} {u : MockUPF} (call : GeneratorCall) (o : Outside)
      (hsent : (call.run codec o m).2 = none) :
      LossyReachable codec n m u → LossyReachable codec n (call.run codec o m).1 u
  | exchanged {n : ℕ} {m : Manager} {u : MockUPF} (call : GeneratorCall) (o : Outside)
      (req : Message) (data : List UInt8) (bs : List (List UInt8))
      (hsent : (call.run codec o m).2 = some req) (hdata : codec.marshal req = .ok data)
      (hreply : o.Answered → (data, o.result.response) ∈ (u.handleAll codec bs).2) :
      LossyReachable codec n m u →
        LossyReachable codec (n + bs.length) (call.run codec o m).1 (u.handleAll codec bs).1

/-- A key of a session that its state does not change: its local SEID, or the key of its UE IP. -/
structure SessionKey (κ : Type) where
  key : SessionInfo → κ
  key_setState : ∀ (s : SessionInfo) (st : SessionState), key { s with state := st } = key s

/-- The local SEID, which the SEID allocator holds. -/
def SessionKey.localSEID : SessionKey UInt64 := ⟨SessionInfo.localSEID, fun _ _ => rfl⟩

/-- The key of the UE IP, which the UE IP pool holds. -/
def SessionKey.ueIP : SessionKey IP := ⟨fun s => ipKey s.ueIP, fun _ _ => rfl⟩

variable {κ : Type}

/-- The key `k` of every established session is in `held`, and no session stored after it has
that key. -/
structure KeysHeld (k : SessionKey κ) (sessions : List SessionInfo) (held : Finset κ) : Prop where
  held : ∀ (j : ℕ) (s : SessionInfo), sessions[j]? = some s → s.state = .established →
    k.key s ∈ held
  last : ∀ (i j : ℕ) (s t : SessionInfo), sessions[i]? = some s → sessions[j]? = some t →
    s.state = .established → i < j → k.key t ≠ k.key s

/-- The changes that keep `KeysHeld` whatever the sessions' states: none, to the sessions or to
the held keys; a session marked deleted, with nothing released; a new session stored under a key
that was not held and now is. -/
def KeepsHeld [DecidableEq κ] (k : SessionKey κ) (sessions sessions' : List SessionInfo) (held held' : Finset κ) :
    Prop :=
  (sessions' = sessions ∧ held' = held) ∨
    (∃ i, sessions' = sessions.modify (fun s => { s with state := .deleted }) i ∧ held' = held) ∨
    ∃ s, sessions' = sessions ++ [s] ∧ k.key s ∉ held ∧ held' = insert (k.key s) held

namespace KeysHeld

variable {k : SessionKey κ} {sessions : List SessionInfo} {held : Finset κ}

theorem nil : KeysHeld k [] held := ⟨fun _ _ h => by simp at h, fun _ _ _ _ h => by simp at h⟩

theorem deleted (h : KeysHeld k sessions held) (i : ℕ) :
    KeysHeld k (sessions.modify (fun s => { s with state := .deleted }) i) held := by
  constructor
  · intro j t hj ht
    obtain ⟨s, -, hs, -, hts⟩ := getElem?_modify_deleted hj
    obtain ⟨-, rfl⟩ := hts ht
    exact h.held j t hs ht
  · intro a b s t ha hb hs hab
    obtain ⟨s', -, hs', -, hss⟩ := getElem?_modify_deleted ha
    obtain ⟨t', st, ht', rfl, -⟩ := getElem?_modify_deleted hb
    obtain ⟨-, rfl⟩ := hss hs
    rw [k.key_setState]
    exact h.last a b s t' hs' ht' hs hab

/-- Releasing the key of an established session as it is marked deleted keeps the invariant: no
other established session has that key. -/
theorem release [DecidableEq κ] (h : KeysHeld k sessions held) {i : ℕ} {s : SessionInfo}
    (hi : sessions[i]? = some s) (hs : s.state = .established) :
    KeysHeld k (sessions.modify (fun s => { s with state := .deleted }) i) (held.erase (k.key s)) := by
  refine ⟨fun j t hj ht => ?_, (h.deleted i).last⟩
  obtain ⟨t', -, ht', -, htt⟩ := getElem?_modify_deleted hj
  obtain ⟨hji, rfl⟩ := htt ht
  refine Finset.mem_erase.2 ⟨?_, h.held j t ht' ht⟩
  rcases Nat.lt_or_gt_of_ne hji with hlt | hlt
  · exact (h.last j i t s ht' hi ht hlt).symm
  · exact h.last i j s t hi ht' hs hlt

/-- Storing a session under a key that was not held, and holding it, keeps the invariant. -/
theorem append [DecidableEq κ] (h : KeysHeld k sessions held) {s : SessionInfo} (hfresh : k.key s ∉ held) :
    KeysHeld k (sessions ++ [s]) (insert (k.key s) held) := by
  constructor
  · intro j t hj ht
    rcases getElem?_concat_eq_some.1 hj with hj | ⟨-, rfl⟩
    · exact Finset.mem_insert_of_mem (h.held j t hj ht)
    · exact Finset.mem_insert_self _ _
  · intro i j a b hi hj ha hij
    rcases getElem?_concat_eq_some.1 hi with hi' | ⟨rfl, -⟩
    · rcases getElem?_concat_eq_some.1 hj with hj' | ⟨-, rfl⟩
      · exact h.last i j a b hi' hj' ha hij
      · intro heq
        exact hfresh (heq ▸ h.held i a hi' ha)
    · rcases getElem?_concat_eq_some.1 hj with hj' | ⟨rfl, -⟩
      · simp [List.getElem?_eq_none (show sessions.length ≤ j by omega)] at hj'
      · omega

theorem keeps [DecidableEq κ] (h : KeysHeld k sessions held) {sessions' : List SessionInfo} {held' : Finset κ}
    (hk : KeepsHeld k sessions sessions' held held') : KeysHeld k sessions' held' := by
  rcases hk with ⟨rfl, rfl⟩ | ⟨i, rfl, rfl⟩ | ⟨s, rfl, hfresh, rfl⟩
  · exact h
  · exact h.deleted i
  · exact h.append hfresh

/-- Two established sessions have different keys. -/
theorem ne (h : KeysHeld k sessions held) {i j : ℕ} {s t : SessionInfo}
    (hi : sessions[i]? = some s) (hj : sessions[j]? = some t) (hs : s.state = .established)
    (ht : t.state = .established) (hij : i ≠ j) : k.key s ≠ k.key t := by
  rcases Nat.lt_or_gt_of_ne hij with hlt | hlt
  · exact (h.last i j s t hi hj hs hlt).symm
  · exact h.last j i t s hj hi ht hlt

end KeysHeld

/-! ## What one call does to the held keys -/

/-- The change of one call to the sessions, the SEIDs the allocator holds and the addresses the UE
IP pool holds keeps both `KeysHeld`. -/
def KeepsBothHeld (m m' : Manager) : Prop :=
  KeepsHeld .localSEID m.sessions m'.sessions m.seidAlloc.usedSEIDs m'.seidAlloc.usedSEIDs ∧
    KeepsHeld .ueIP m.sessions m'.sessions m.ipPool.allocated m'.ipPool.allocated

namespace Manager

variable (m : Manager) (codec : Codec)

theorem keepsBothHeld_frame {m' : Manager} (hs : m'.sessions = m.sessions)
    (ha : m'.seidAlloc = m.seidAlloc) (hp : m'.ipPool = m.ipPool) : KeepsBothHeld m m' := by
  rw [KeepsBothHeld, hs, ha, hp]
  exact ⟨.inl ⟨rfl, rfl⟩, .inl ⟨rfl, rfl⟩⟩

/-- A Session Establishment Request stores at most one session, under a local SEID and a UE IP
that were not held and now are, and changes no other session. -/
theorem keepsBothHeld_handleSessionEstablishment (o : Outside) (msg : Message) :
    KeepsBothHeld m (m.handleSessionEstablishment codec o msg).manager := by
  unfold handleSessionEstablishment
  split
  · dsimp only
    rcases hs : m.seidAlloc.allocate o.draws with ⟨_ | l, a⟩
    · exact ⟨.inl ⟨rfl, SEIDAllocator.allocate_error_spec hs⟩, .inl ⟨rfl, rfl⟩⟩
    obtain ⟨-, hfree, hheld⟩ := SEIDAllocator.allocate_ok_spec hs
    rcases hp : m.ipPool.allocate with ⟨_ | ip, p⟩
    · exact ⟨.inl ⟨rfl, by simp [SEIDAllocator.release_usedSEIDs, hheld, Finset.erase_insert hfree]⟩,
        .inl ⟨rfl, UEIPPool.allocate_error_spec hp⟩⟩
    obtain ⟨hipfree, hipheld⟩ := UEIPPool.allocate_ok_spec hp
    dsimp only
    repeat' split
    all_goals
      exact ⟨.inr (.inr ⟨_, by simp only [setState, setEstablished, storeSession_sessions,
          modify_concat_length]; rfl, by exact hfree, by simpa [setState, setEstablished] using hheld⟩),
        .inr (.inr ⟨_, by simp only [setState, setEstablished, storeSession_sessions,
          modify_concat_length]; rfl, by exact hipfree,
          by simpa [setState, setEstablished] using hipheld⟩)⟩
  · exact m.keepsBothHeld_frame rfl rfl rfl

/-- What one call does to the sessions and the held keys: a change that keeps both `KeysHeld`,
or, on a Session Deletion Request that is answered, the session the request names marked deleted
and its local SEID and UE IP released. -/
theorem keepsBothHeld_or_release (o : Outside) (call : GeneratorCall) :
    KeepsBothHeld m (call.run codec o m).1 ∨
      ∃ i x, (call.run codec o m).2 = some (.sessionDeletionRequest x) ∧
        x.header.seid = (m.session i).remoteSEID ∧ o.Answered ∧
        (call.run codec o m).1.sessions =
          m.sessions.modify (fun s => { s with state := .deleted }) i ∧
        (call.run codec o m).1.seidAlloc.usedSEIDs =
          m.seidAlloc.usedSEIDs.erase (m.session i).localSEID ∧
        (call.run codec o m).1.ipPool.allocated =
          m.ipPool.allocated.erase (ipKey (m.session i).ueIP) := by
  cases call with
  | cleanup i =>
    refine .inl ?_
    simp only [GeneratorCall.run, cleanupSession]
    repeat' split
    all_goals first
      | exact m.keepsBothHeld_frame rfl rfl rfl
      | exact ⟨.inr (.inl ⟨i, rfl, rfl⟩), .inr (.inl ⟨i, rfl, rfl⟩)⟩
  | process msg =>
    simp only [GeneratorCall.run]
    by_cases hest : ∃ x, msg = .sessionEstablishmentRequest x
    · obtain ⟨ereq, rfl⟩ := hest
      rw [processMessage_sessionEstablishmentRequest]
      exact .inl (m.keepsBothHeld_handleSessionEstablishment codec _ _)
    by_cases hdel : ∃ x, msg = .sessionDeletionRequest x
    · obtain ⟨dreq, rfl⟩ := hdel
      rw [processMessage_sessionDeletionRequest]
      rcases hi : m.findSessionByOriginalRemoteSEID dreq.header.seid with _ | i <;>
        simp only [handleSessionDeletion, Message.seid, Message.header, hi]
      · exact .inl (m.keepsBothHeld_frame rfl rfl rfl)
      · rcases hsent : (m.request codec o "Session Deletion" "Session Deletion timeout"
          (fun seqNum => (Modifier.modifySessionDeletion dreq (m.session i).remoteSEID
            seqNum).map .sessionDeletionRequest)
          fun m => (m.releaseSession i).setState i .deleted).sent with _ | req
        · rw [m.request_of_sent_none codec o hsent]
          exact .inl (m.keepsBothHeld_frame rfl rfl rfl)
        · obtain ⟨hmod, hman⟩ := m.request_of_sent codec o hsent
          cases hmod
          rw [hman]
          split_ifs with hr
          · exact .inr ⟨i, _, rfl, rfl, hr, rfl, rfl, rfl⟩
          · exact .inl (m.keepsBothHeld_frame rfl rfl rfl)
    push_neg at hest hdel
    obtain ⟨hs, ha, hp, -⟩ := m.processMessage_frame codec o hest hdel
    exact .inl (m.keepsBothHeld_frame hs ha hp)

end Manager

/-! ## What survives a lossy link -/

/-- What the manager and the UPF agree on over a lossy link. Every remote SEID a session carries
is below the UPF's counter, which is positive, and the UPF holds no session under `0`, the remote
SEID of a session never established. A UP SEID the UPF holds that a session carries is that of
an established session, and the UPF holds it for that session's local SEID. -/
structure Held (sessions : List SessionInfo) (u : MockUPF) : Prop where
  held : ∀ (j : ℕ) (s : SessionInfo) (c : UInt64), sessions[j]? = some s →
    u.sessions s.remoteSEID = some c → s.state = .established ∧ s.localSEID = c
  zero : u.sessions 0 = none
  below : ∀ (j : ℕ) (s : SessionInfo), sessions[j]? = some s →
    s.remoteSEID.toNat < u.nextUPSEID.toNat
  pos : 0 < u.nextUPSEID.toNat

namespace Held

variable {sessions : List SessionInfo} {u u' : MockUPF}

theorem nil (localIP : IP) (recoveryTS : UInt32) : Held [] (newMockUPF localIP recoveryTS) :=
  ⟨fun _ _ _ h => by simp at h, rfl, fun _ _ h => by simp at h,
    show 0 < (1 : UInt64).toNat by decide⟩

/-- Whatever the UPF does while its counter does not wrap keeps the invariant. -/
theorem grows (h : Held sessions u) (hg : u.Grows u') : Held sessions u' :=
  ⟨fun j s c hj hc => h.held j s c hj (hg.sessions_of_lt (h.below j s hj) hc),
    Option.eq_none_iff_forall_not_mem.2 fun c hc => by simpa [h.zero] using hg.sessions_of_lt (k := 0) h.pos hc,
    fun j s hj => (h.below j s hj).trans_le hg.next_le, h.pos.trans_le hg.next_le⟩

/-- A session stored without a remote SEID keeps the invariant. -/
theorem append_zero (h : Held sessions u) {s : SessionInfo} (hr : s.remoteSEID = 0) :
    Held (sessions ++ [s]) u := by
  refine ⟨fun j t c hj hc => ?_, h.zero, fun j t hj => ?_, h.pos⟩
  · rcases getElem?_concat_eq_some.1 hj with hj | ⟨-, rfl⟩
    · exact h.held j t c hj hc
    · rw [hr, h.zero] at hc
      cases hc
  · rcases getElem?_concat_eq_some.1 hj with hj | ⟨-, rfl⟩
    · exact h.below j t hj
    · rw [hr]
      exact h.pos

/-- A session established under a remote SEID below the counter, which the UPF holds, if at all,
for the session's local SEID, keeps the invariant. -/
theorem append_established (h : Held sessions u) {s : SessionInfo} (hs : s.state = .established)
    (hheld : ∀ c, u.sessions s.remoteSEID = some c → s.localSEID = c)
    (hbelow : s.remoteSEID.toNat < u.nextUPSEID.toNat) : Held (sessions ++ [s]) u := by
  refine ⟨fun j t c hj hc => ?_, h.zero, fun j t hj => ?_, h.pos⟩
  · rcases getElem?_concat_eq_some.1 hj with hj | ⟨-, rfl⟩
    · exact h.held j t c hj hc
    · exact ⟨hs, hheld c hc⟩
  · rcases getElem?_concat_eq_some.1 hj with hj | ⟨-, rfl⟩
    · exact h.below j t hj
    · exact hbelow

/-- Marking deleted a session whose remote SEID the UPF does not hold keeps the invariant. -/
theorem deleted (h : Held sessions u) {i : ℕ}
    (hi : u.sessions (sessions.getD i default).remoteSEID = none) :
    Held (sessions.modify (fun s => { s with state := .deleted }) i) u := by
  refine ⟨fun j t c hj hc => ?_, h.zero, fun j t hj => ?_, h.pos⟩
  · by_cases hij : i = j
    · -- the session marked deleted: the UPF does not hold its remote SEID
      subst hij
      obtain ⟨s, _, hs, rfl, -⟩ := getElem?_modify_deleted hj
      rw [getD_of_getElem?_eq_some hs] at hi
      simp [hi] at hc
    · rw [List.getElem?_modify_ne _ _ hij] at hj
      exact h.held j t c hj hc
  · obtain ⟨t₀, -, hj₀, rfl, -⟩ := getElem?_modify_deleted hj
    exact h.below j t₀ hj₀

end Held

/-! ## What an answer tells of the UPF -/

section Answered

variable {codec : Codec} {sessions : List SessionInfo} {u : MockUPF} {bs : List (List UInt8)}
  {data : List UInt8}

/-- A Session Deletion Request with the remote SEID of the session `i` that the UPF answers, among
any datagrams it handles while its counter does not wrap: the UPF held that SEID when the copy
reached it, so the session is established, and holds nothing under it after them all. -/
theorem Held.answered_deletion (h : Held sessions u) (hround : codec.RoundTrip)
    (hroom : u.nextUPSEID.toNat + bs.length < 2 ^ 64) {x : SessionDeletionRequest} {i : ℕ}
    (hseid : x.header.seid = (sessions.getD i default).remoteSEID)
    (hdata : codec.marshal (.sessionDeletionRequest x) = .ok data) {r : List UInt8}
    (hmem : (data, r) ∈ (u.handleAll codec bs).2) :
    (∃ s, sessions[i]? = some s ∧ s.state = .established) ∧
      (u.handleAll codec bs).1.sessions x.header.seid = none := by
  obtain ⟨bs₁, bs₂, v', rfl, hv, hend⟩ := MockUPF.exists_of_mem_handleAll codec hmem
  simp only [List.length_append, List.length_cons] at hroom
  obtain ⟨hg₁, hle₁⟩ := MockUPF.grows_handleAll codec bs₁ (u := u) (by omega)
  have hv₁ := h.grows hg₁
  generalize (u.handleAll codec bs₁).1 = v at hv hv₁ hle₁
  -- the copy that was answered found a session under the header SEID, and removed it
  obtain ⟨c, hc, rfl⟩ : ∃ c, v.sessions x.header.seid = some c ∧
      v' = { v with sessions := Function.update v.sessions x.header.seid none } := by
    simp only [MockUPF.handleMessage, hround _ _ hdata, MockUPF.respond,
      MockUPF.handleSessionDeletion, MockUPF.lookupCPSEID] at hv
    rcases hk : v.sessions x.header.seid with _ | c <;> simp only [hk] at hv
    · cases (Prod.mk.inj hv).1
    · split at hv
      · cases (Prod.mk.inj hv).1
      · exact ⟨c, rfl, (Prod.mk.inj hv).2.symm⟩
  -- the UPF never holds `0`, so the session `i` exists and carries the header SEID
  obtain ⟨s, hs⟩ := Option.ne_none_iff_exists'.1 fun (hi : sessions[i]? = none) => by
    rw [List.getD_eq_getElem?_getD, hi, Option.getD_none] at hseid
    rw [hseid, show (default : SessionInfo).remoteSEID = 0 from rfl, hv₁.zero] at hc
    cases hc
  rw [getD_of_getElem?_eq_some hs] at hseid
  refine ⟨⟨s, hs, (hv₁.held i s c hs (hseid ▸ hc)).1⟩, ?_⟩
  -- after it the UPF stores sessions only from its counter on, above the header SEID
  obtain ⟨hg₂, -⟩ := MockUPF.grows_handleAll codec bs₂
    (u := { v with sessions := Function.update v.sessions x.header.seid none }) (by dsimp only; omega)
  rw [← hend]
  refine Option.eq_none_iff_forall_not_mem.2 fun c' hk => ?_
  simpa using hg₂.sessions_of_lt (by dsimp only; rw [hseid]; exact hv₁.below i s hs) hk

/-- A Session Establishment Request that the UPF answers, among any datagrams it handles while
its counter does not wrap, with a reply the manager reads as the remote SEID `r`: the copy that
was answered had a CP F-SEID, which parses, and the UPF stored the session under `r`, its counter
then; after all the datagrams `r` is below the counter, and the UPF holds under it, if anything,
that F-SEID's SEID. -/
theorem answered_establishment (hround : codec.RoundTrip)
    (hroom : u.nextUPSEID.toNat + bs.length < 2 ^ 64) {x : SessionEstablishmentRequest}
    (hdata : codec.marshal (.sessionEstablishmentRequest x) = .ok data) {b : List UInt8}
    (hmem : (data, b) ∈ (u.handleAll codec bs).2) {resp : SessionEstablishmentResponse}
    (hdec : codec.decode b = .ok (.sessionEstablishmentResponse resp)) {r : UInt64}
    (hext : extractRemoteSEID resp = .ok r) :
    ∃ c f, x.cpFSEID = some c ∧ c.fseid = .ok f ∧
      r.toNat < (u.handleAll codec bs).1.nextUPSEID.toNat ∧
      ∀ c', (u.handleAll codec bs).1.sessions r = some c' → c' = f.seid := by
  obtain ⟨bs₁, bs₂, v', rfl, hv, hend⟩ := MockUPF.exists_of_mem_handleAll codec hmem
  simp only [List.length_append, List.length_cons] at hroom
  obtain ⟨-, hle₁⟩ := MockUPF.grows_handleAll codec bs₁ (u := u) (by omega)
  generalize (u.handleAll codec bs₁).1 = v at hv hle₁
  simp only [MockUPF.handleMessage, hround _ _ hdata, MockUPF.respond,
    MockUPF.handleSessionEstablishment, MockUPF.allocateUPSEID] at hv
  rcases hc : x.cpFSEID with _ | c
  · simp [hc] at hv
  rcases hf : c.fseid with e | f
  · simp [hc, hf] at hv
  -- the UPF's answer names its counter, and the manager reads it back
  obtain ⟨resp', hresp', -, hext'⟩ := MockUPF.sessionEstablishmentResponse_accepted
    { v with nextUPSEID := v.nextUPSEID + 1 } f.seid x.header.sequenceNumber v.nextUPSEID
  rcases hb : codec.marshal ({ v with nextUPSEID := v.nextUPSEID + 1 }.sessionEstablishmentResponse
    f.seid x.header.sequenceNumber v.nextUPSEID) with e | b'
  · simp [hc, hf, hb] at hv
  simp only [hc, hf, hb, Prod.mk.injEq, Except.ok.injEq] at hv
  obtain ⟨rfl, rfl⟩ := hv
  have hdec' : codec.decode b' = .ok (.sessionEstablishmentResponse resp') := by
    rw [← hresp']
    simp [Codec.decode, hround _ _ hb]
  rw [hdec'] at hdec
  obtain rfl : resp' = resp := by injection hdec with h; injection h
  obtain rfl : v.nextUPSEID = r := Except.ok.inj (hext'.symm.trans hext)
  have hnext := toNat_add_one_of_lt (x := v.nextUPSEID) (by omega)
  obtain ⟨hg₂, -⟩ := MockUPF.grows_handleAll codec bs₂
    (u := { v with sessions := Function.update v.sessions v.nextUPSEID (some f.seid),
                   nextUPSEID := v.nextUPSEID + 1 }) (by dsimp only; omega)
  rw [← hend]
  refine ⟨c, f, rfl, hf, ?_, fun c' hc' => ?_⟩
  · have := hg₂.next_le
    dsimp only at this
    omega
  · simpa using (hg₂.sessions_of_lt (by dsimp only; omega) hc').symm

end Answered

/-! ## Every run keeps the invariant -/

section Steps

variable {codec : Codec} {m : Manager} {u : MockUPF} {bs : List (List UInt8)} {data : List UInt8}

/-- A call that sends nothing keeps the invariant, whatever session it stores. -/
theorem Held.silent (h : Held m.sessions u) {call : GeneratorCall} {o : Outside}
    (hsent : (call.run codec o m).2 = none) : Held (call.run codec o m).1.sessions u := by
  rcases m.sessions_of_sent_none codec o hsent with hs | ⟨s, hs, -, hr⟩
  · exact hs ▸ h
  · exact hs ▸ h.append_zero hr

/-- A call that sends a request keeps the invariant, while the UPF handles any datagrams without
its counter wrapping, if the call is answered only by a reply to a copy of its request. -/
theorem Held.exchanged (h : Held m.sessions u) (hround : codec.RoundTrip)
    (hroom : u.nextUPSEID.toNat + bs.length < 2 ^ 64) {call : GeneratorCall} {o : Outside}
    {req : Message} (hsent : (call.run codec o m).2 = some req)
    (hdata : codec.marshal req = .ok data)
    (hreply : o.Answered → (data, o.result.response) ∈ (u.handleAll codec bs).2) :
    Held (call.run codec o m).1.sessions (u.handleAll codec bs).1 := by
  have hg := h.grows (MockUPF.grows_handleAll codec bs hroom).1
  -- a deletion of the session `i`, once answered, leaves the UPF without its remote SEID
  have hdeletion : ∀ i x, req = .sessionDeletionRequest x →
      x.header.seid = (m.session i).remoteSEID →
      Held (if o.Answered then m.sessions.modify (fun s => { s with state := .deleted }) i
        else m.sessions) (u.handleAll codec bs).1 := by
    rintro i x rfl hseid
    split_ifs with ho
    · exact hg.deleted (hseid ▸ (h.answered_deletion hround hroom hseid hdata (hreply ho)).2)
    · exact hg
  cases call with
  | cleanup i =>
    obtain ⟨x, rfl, hseid, hses⟩ := m.cleanupSession_sent codec o hsent
    exact hses ▸ hdeletion i x rfl hseid
  | process msg =>
    simp only [GeneratorCall.run] at hsent ⊢
    by_cases hest : ∃ x, msg = .sessionEstablishmentRequest x
    · obtain ⟨ereq, rfl⟩ := hest
      rw [Manager.processMessage_sessionEstablishmentRequest] at hsent ⊢
      obtain ⟨base, x, hbase, rfl, hcp, -, hcases⟩ := m.handleSessionEstablishment_sent codec o hsent
      rcases hcases with ⟨st, -, hs⟩ | ⟨resp, r, ho, hdec, hext, hs⟩
      · exact hs ▸ hg.append_zero hbase
      · -- the answer is the UPF's to a copy, which stored the session under `r`
        obtain ⟨c, f, hc, hf, hbelow, hheld⟩ :=
          answered_establishment hround hroom hdata (hreply ho) hdec hext
        obtain ⟨f', hf', hl⟩ := hcp c (by simp [hc])
        rw [hf] at hf'
        cases hf'
        exact hs ▸ hg.append_established rfl (fun c' hc' => hl.symm.trans (hheld c' hc').symm)
          hbelow
    by_cases hdel : ∃ x, msg = .sessionDeletionRequest x
    · obtain ⟨dreq, rfl⟩ := hdel
      rw [Manager.processMessage_sessionDeletionRequest] at hsent ⊢
      obtain ⟨i, x, rfl, hseid, hses⟩ := m.handleSessionDeletion_sent codec o hsent
      exact hses ▸ hdeletion i x rfl hseid
    push_neg at hest hdel
    exact (m.processMessage_frame codec o hest hdel).1 ▸ hg

end Steps

/-- In every state of a run over a lossy link in which the UPF has handled fewer than
`2 ^ 64 - 1` datagrams, over a codec whose datagrams parse back: `Held`, the local SEID and the UE
IP of every established session held and no later session with either, and the UPF's counter at
most one past the number of datagrams. -/
theorem held_of_lossyReachable {codec : Codec} {n : ℕ} {m : Manager} {u : MockUPF}
    (h : LossyReachable codec n m u) (hround : codec.RoundTrip) (hn : n + 1 < 2 ^ 64) :
    Held m.sessions u ∧ KeysHeld .localSEID m.sessions m.seidAlloc.usedSEIDs ∧
      KeysHeld .ueIP m.sessions m.ipPool.allocated ∧ u.nextUPSEID.toNat ≤ n + 1 := by
  induction h with
  | init =>
    simpa [newManager] using ⟨Held.nil .., KeysHeld.nil, KeysHeld.nil,
      show (1 : UInt64).toNat ≤ 0 + 1 by decide⟩
  | @idle n m u bs _ ih =>
    obtain ⟨hh, h₁, h₂, hle⟩ := ih (by omega)
    obtain ⟨hg, hle'⟩ := MockUPF.grows_handleAll codec bs (u := u) (by omega)
    exact ⟨hh.grows hg, h₁, h₂, by omega⟩
  | @silent n m u call o hsent _ ih =>
    obtain ⟨hh, h₁, h₂, hle⟩ := ih hn
    rcases m.keepsBothHeld_or_release codec o call with ⟨hk₁, hk₂⟩ | ⟨i, x, hs, -⟩
    · exact ⟨hh.silent hsent, h₁.keeps hk₁, h₂.keeps hk₂, hle⟩
    · cases hsent ▸ hs
  | @exchanged n m u call o req data bs hsent hdata hreply _ ih =>
    obtain ⟨hh, h₁, h₂, hle⟩ := ih (by omega)
    have hroom : u.nextUPSEID.toNat + bs.length < 2 ^ 64 := by omega
    obtain ⟨-, hle'⟩ := MockUPF.grows_handleAll codec bs hroom
    suffices hk : KeysHeld .localSEID (call.run codec o m).1.sessions
        (call.run codec o m).1.seidAlloc.usedSEIDs ∧
        KeysHeld .ueIP (call.run codec o m).1.sessions (call.run codec o m).1.ipPool.allocated from
      ⟨hh.exchanged hround hroom hsent hdata hreply, hk.1, hk.2, by omega⟩
    rcases m.keepsBothHeld_or_release codec o call with ⟨hk₁, hk₂⟩ |
      ⟨i, x, hs, hseid, ho, hses, hused, hallocated⟩
    · exact ⟨h₁.keeps hk₁, h₂.keeps hk₂⟩
    · -- an answered deletion releases the keys of an established session
      rw [hsent] at hs
      cases hs
      obtain ⟨⟨s, hi, hest⟩, -⟩ := hh.answered_deletion hround hroom hseid hdata (hreply ho)
      have hsi : m.session i = s := getD_of_getElem?_eq_some hi
      rw [hses, hused, hallocated, hsi]
      exact ⟨h₁.release hi hest, h₂.release hi hest⟩

/-- In every state of a run over a lossy link in which the UPF has handled fewer than
`2 ^ 64 - 1` datagrams, over a codec whose datagrams parse back: where the UPF holds a session
under the remote SEID of one of the manager's sessions, that session is established, and its local
SEID is the CP SEID the UPF holds. So no session the manager has marked deleted or failed is
still held under its remote SEID. The converse fails on such a link: a lost reply to a deletion
leaves the manager with an established session the UPF no longer holds, and a retransmitted
establishment leaves the UPF with a session the manager never learns of. -/
theorem upf_session_is_established {codec : Codec} {n : ℕ} {m : Manager} {u : MockUPF}
    (h : LossyReachable codec n m u) (hround : codec.RoundTrip) (hn : n + 1 < 2 ^ 64)
    {s : SessionInfo} (hs : s ∈ m.sessions) {c : UInt64} (hc : u.sessions s.remoteSEID = some c) :
    s.state = .established ∧ s.localSEID = c :=
  let ⟨j, hj⟩ := List.mem_iff_getElem?.1 hs
  (held_of_lossyReachable h hround hn).1.held j s c hj hc

/-- In every state of a run over a lossy link in which the UPF has handled fewer than
`2 ^ 64 - 1` datagrams, over a codec whose datagrams parse back, two established sessions have
different local SEIDs and different UE IPs. A deletion in the recording of a session already
deleted, which would release a SEID or a UE IP another session may have been given since, gets no
answer from the UPF, and so releases nothing, whatever the link loses or delays. -/
theorem established_sessions_distinct {codec : Codec} {n : ℕ} {m : Manager} {u : MockUPF}
    (h : LossyReachable codec n m u) (hround : codec.RoundTrip) (hn : n + 1 < 2 ^ 64) {i j : ℕ}
    {s t : SessionInfo} (hi : m.sessions[i]? = some s) (hj : m.sessions[j]? = some t)
    (hs : s.state = .established) (ht : t.state = .established) (hij : i ≠ j) :
    s.localSEID ≠ t.localSEID ∧ ipKey s.ueIP ≠ ipKey t.ueIP :=
  have hheld := held_of_lossyReachable h hround hn
  ⟨hheld.2.1.ne hi hj hs ht hij, hheld.2.2.1.ne hi hj hs ht hij⟩

/-! ## A run with a lost reply -/

/-- The Session Establishment Request the manager sends for its second session: local SEID `2`,
sequence number `2`. -/
def secondEstablishment : Message :=
  .sessionEstablishmentRequest
    { header := { seid := 0, sequenceNumber := 2 }, nodeID := none,
      cpFSEID := some (newFSEID 2 (some [10, 0, 0, 1]) none), createPDR := [], ies := [] }

/-- The codec of a run in which the manager establishes two sessions. -/
def twoCodec : Codec := linkCodec linkedUPF [establishmentRequest 1, secondEstablishment]

/-- The UPF handling the first establishment twice: the reply to the first copy is lost, and the
tracker's retransmission is answered. -/
def retransmitted : MockUPF × List (List UInt8 × List UInt8) :=
  linkedUPF.handleAll twoCodec [[0, 0], [0, 0]]

/-- The manager after the first establishment, for the original CP SEID `100`, which the reply to
the retransmission resolves. -/
def retransmittedManager : Manager :=
  ((GeneratorCall.process (establishmentRequest 100)).run twoCodec
    (linkedOutside (fun _ => 0)
      { seqNum := 1, response := (retransmitted.2.getD 1 ([], [])).2, error := none })
    (freshManager pool24 [])).1

/-- The UPF handling the second establishment once. -/
def secondExchange : MockUPF × List (List UInt8 × List UInt8) :=
  retransmitted.1.handleAll twoCodec [[0, 1]]

/-- The manager after the second establishment, for the original CP SEID `101`. -/
def lossyManager : Manager :=
  ((GeneratorCall.process (establishmentRequest 101)).run twoCodec
    (linkedOutside (fun _ => 0)
      { seqNum := 2, response := (secondExchange.2.getD 0 ([], [])).2, error := none })
    retransmittedManager).1

/-- The two establishments are a run over a lossy link. -/
theorem lossyManager_reachable : LossyReachable twoCodec 3 lossyManager secondExchange.1 :=
  .exchanged _ _ secondEstablishment [0, 1] [[0, 1]] (by decide) rfl (fun _ => by decide)
    (.exchanged _ _ (establishmentRequest 1) [0, 0] [[0, 0], [0, 0]] (by decide) rfl
      (fun _ => by decide) (.init false plainModifier "sequential" 1 pool24 [] [10, 0, 0, 2] 0))

theorem twoCodec_roundTrip : twoCodec.RoundTrip := linkCodec_roundTrip _ (by decide)

/-- After a lost reply the UPF holds the session of the first copy under the UP SEID `1`, which no
session of the manager carries; the manager's first session carries `2`, under which the UPF
holds it for its local SEID `1`. -/
theorem upf_session_is_established_after_retransmission :
    LossyReachable twoCodec 3 lossyManager secondExchange.1 ∧ twoCodec.RoundTrip ∧
      3 + 1 < 2 ^ 64 ∧ lossyManager.session 0 ∈ lossyManager.sessions ∧
      secondExchange.1.sessions (lossyManager.session 0).remoteSEID = some 1 ∧
      secondExchange.1.sessions 1 = some 1 ∧ (lossyManager.session 0).remoteSEID = 2 ∧
      (lossyManager.session 0).state = .established ∧ (lossyManager.session 0).localSEID = 1 :=
  have hs : lossyManager.session 0 ∈ lossyManager.sessions := by decide
  have hc : secondExchange.1.sessions (lossyManager.session 0).remoteSEID = some 1 := by decide
  ⟨lossyManager_reachable, twoCodec_roundTrip, by decide, hs, hc, by decide, by decide,
    upf_session_is_established lossyManager_reachable twoCodec_roundTrip (by decide) hs hc⟩

/-- The two sessions, the first established after a lost reply, have local SEIDs `1` and `2` and
UE IPs `10.60.0.1` and `10.60.0.2`. -/
theorem established_sessions_distinct_after_retransmission :
    LossyReachable twoCodec 3 lossyManager secondExchange.1 ∧ twoCodec.RoundTrip ∧
      3 + 1 < 2 ^ 64 ∧
      lossyManager.sessions[0]? = some (lossyManager.session 0) ∧
      lossyManager.sessions[1]? = some (lossyManager.session 1) ∧
      (lossyManager.session 0).state = .established ∧
      (lossyManager.session 1).state = .established ∧ (0 : ℕ) ≠ 1 ∧
      (lossyManager.session 0).localSEID ≠ (lossyManager.session 1).localSEID ∧
      ipKey (lossyManager.session 0).ueIP ≠ ipKey (lossyManager.session 1).ueIP :=
  have hi : lossyManager.sessions[0]? = some (lossyManager.session 0) := by decide
  have hj : lossyManager.sessions[1]? = some (lossyManager.session 1) := by decide
  have hs : (lossyManager.session 0).state = .established := by decide
  have ht : (lossyManager.session 1).state = .established := by decide
  ⟨lossyManager_reachable, twoCodec_roundTrip, by decide, hi, hj, hs, ht, by decide,
    established_sessions_distinct lossyManager_reachable twoCodec_roundTrip (by decide) hi hj hs ht
      (by decide)⟩

end PfcpGenerator
