import PfcpGenerator.MockUpf.Server

/-!
# The generator against the mock UPF

The system of the end-to-end tests: the manager and the mock UPF, joined here by a link that
loses no datagram, on which the UPF answers before the tracker's timeout, and whose receive path
is live, because no signal has stopped the generator. While the manager handles one message of
the recording, or one session of `CleanupSessions`, it sends at most one request. The tracker
sends its datagram and, on each timeout, up to `maxRetries` copies; the UPF handles each copy,
and the first reply that parses with the request's sequence number is the result the handler
waits for. Without one, the handler gets the tracker's timeout. `PfcpGenerator.MockUpf.Lossy`
drops the assumptions on the link, and shows that every run here is a run there.

Both sides use one `Codec`. `Codec.RoundTrip` says that what it marshals parses back, and
`MockUPF.MarshalsSessionReplies` that it marshals the two replies with which the UPF changes its
table.

## Main definitions

* `exchange`, `exchangeResult`: one request's datagrams and the result the handler gets.
* `LinkedReachable`: the states of the manager and the UPF after any sequence of calls.
* `Linked`: the UPF holds a session under `k` for the CP SEID `c` exactly when the manager holds
  an established session with remote SEID `k` and local SEID `c`.
* `linkCodec`: a codec for concrete runs, which marshals a list of requests and the UPF's replies.

## Main results

* `Manager.handleSessionEstablishment_sent`, `Manager.handleSessionDeletion_sent`,
  `Manager.cleanupSession_sent`: what a call sends, and what it does with the answer or its
  absence, in any world.
* `Linked.exchanged`: every call that sends a request keeps the tables agreeing.
* `linked_of_reachable`: so does every run.
-/

namespace PfcpGenerator

/-- Every datagram the codec marshals parses back to the message. -/
def Codec.RoundTrip (codec : Codec) : Prop :=
  ∀ msg b, codec.marshal msg = .ok b → codec.parse b = .ok msg

/-- The codec marshals the replies with which the UPF changes its table: its Session
Establishment and Session Deletion Responses. -/
def MockUPF.MarshalsSessionReplies (codec : Codec) (u : MockUPF) : Prop :=
  (∀ cpSEID seq upSEID, ∃ b, codec.marshal (u.sessionEstablishmentResponse cpSEID seq upSEID) = .ok b) ∧
    ∀ cpSEID seq, ∃ b, codec.marshal (MockUPF.sessionDeletionResponse cpSEID seq) = .ok b

/-- The world the manager sees against the mock UPF: the context is not done, `Send` succeeds,
and `waitForResult` returns `result`. -/
def linkedOutside (draws : ℕ → UInt64) (result : TransactionResult) : Outside :=
  { cancelled := false, draws, sendError := none, result }

/-- The world in which a request that was sent is answered: `client.Send` succeeded and
`waitForResult` returned a result without error. -/
def Outside.Answered (o : Outside) : Prop := o.sendError = none ∧ o.result.error = none

instance (o : Outside) : Decidable o.Answered := inferInstanceAs (Decidable (_ ∧ _))

@[simp]
theorem linkedOutside_answered (draws : ℕ → UInt64) (r : TransactionResult) :
    (linkedOutside draws r).Answered ↔ r.error = none := by
  simp [Outside.Answered, linkedOutside]

/-- The datagrams of one request on a lossless, prompt link with a live receiver: `data` reaches
the UPF, and again after each timeout while attempts remain; the first reply that parses with the
request's sequence number `seq` arrives before the timeout and resolves the transaction, and the
receiver drops any other. The UPF after them, and the reply. A lost or late datagram or reply is
`MockUPF.handleAll` in `LossyReachable`. -/
def exchange (codec : Codec) (data : List UInt8) (seq : UInt32) :
    ℕ → MockUPF → MockUPF × Option (List UInt8)
  | 0, u => (u, none)
  | attempts + 1, u =>
    match u.handleMessage codec data with
    | (.ok reply, u') =>
      match codec.parse reply with
      | .ok resp => if resp.sequence = seq then (u', some reply) else exchange codec data seq attempts u'
      | .error _ => exchange codec data seq attempts u'
    | (.error _, u') => exchange codec data seq attempts u'

/-- The result `waitForResult` returns: the reply, or the tracker's timeout once `maxRetries`
retransmissions went unanswered. -/
def exchangeResult (maxRetries : ℕ) (seq : UInt32) : Option (List UInt8) → TransactionResult
  | some reply => { seqNum := seq, response := reply, error := none }
  | none => { seqNum := seq, response := [],
              error := some ("timeout after " ++ toString maxRetries ++ " retries") }

/-- One call of the manager: `processMessage` on a message of the recording, or an iteration of
the loop of `CleanupSessions` on a session. -/
inductive GeneratorCall
  | process (msg : Message)
  | cleanup (i : ℕ)

/-- The manager after a call in the world `o`, and the request it sent. -/
def GeneratorCall.run (codec : Codec) (o : Outside) (m : Manager) :
    GeneratorCall → Manager × Option Message
  | .process msg => ((m.processMessage codec o msg).manager, (m.processMessage codec o msg).sent)
  | .cleanup i => m.cleanupSession codec o i

section Exchange

variable {codec : Codec} {data : List UInt8} {seq : UInt32}

theorem exchange_of_error {u : MockUPF} {e : String} (h : u.handleMessage codec data = (.error e, u))
    (attempts : ℕ) : exchange codec data seq attempts u = (u, none) := by
  induction attempts with
  | zero => rfl
  | succ attempts ih => rw [exchange, h]; exact ih

/-- Over a codec that round-trips, and that marshals the replies that change the UPF, the first
datagram of a request settles the exchange: the UPF answers it, or fails and is left as it was,
and so are the retransmissions. -/
theorem exchange_eq (hround : codec.RoundTrip) {u : MockUPF} (hreplies : u.MarshalsSessionReplies codec)
    {req : Message} (hdata : codec.marshal req = .ok data) (attempts : ℕ) :
    exchange codec data req.sequence (attempts + 1) u =
      match u.respond req with
      | (.ok resp, u') =>
        match codec.marshal resp with
        | .ok b => (u', some b)
        | .error _ => (u, none)
      | (.error _, _) => (u, none) := by
  have hparse := hround _ _ hdata
  rcases hr : u.respond req with ⟨e | resp, u'⟩
  · -- a failed request leaves the UPF as it was
    have hu := u.respond_snd_of_error (show (u.respond req).1 = .error e by rw [hr])
    rw [hr] at hu
    dsimp only at hu ⊢
    subst hu
    exact exchange_of_error (e := e) (by simp [MockUPF.handleMessage, hparse, hr]) _
  have hseq : resp.sequence = req.sequence := u.sequence_of_respond (by rw [hr])
  rcases hb : codec.marshal resp with e' | b
  · -- an answer that does not marshal comes from a request that changes nothing
    have hu : u' = u := by
      rcases u.respond_snd req with h | ⟨req', _, f, -, -, -, h⟩ | ⟨req', c, -, -, h⟩ <;>
        rw [hr] at h
      · exact h
      · cases h
        obtain ⟨_, hb'⟩ := hreplies.1 f.seid req'.header.sequenceNumber u.nextUPSEID
        rw [hb'] at hb
        cases hb
      · cases h
        obtain ⟨_, hb'⟩ := hreplies.2 c req'.header.sequenceNumber
        rw [hb'] at hb
        cases hb
    subst hu
    simp only [hb]
    exact exchange_of_error (e := "marshal response: " ++ e')
      (by simp [MockUPF.handleMessage, hparse, hr, hb]) _
  · simp [exchange, MockUPF.handleMessage, hparse, hr, hb, hround _ _ hb, hseq]

end Exchange

/-! ## The agreement of the two tables -/

/-- The manager's sessions and the UPF's table agree: the UPF holds a session under `k` for the
CP SEID `c` exactly when the manager holds an established session with remote SEID `k` and local
SEID `c`. Every remote SEID the manager holds, `0` for a session never established, is below the
UPF's counter, which is positive; no two sessions share a nonzero one, and an established
session has a nonzero one. -/
structure Linked (sessions : List SessionInfo) (u : MockUPF) : Prop where
  agree : ∀ k c, u.sessions k = some c ↔ ∃ (j : ℕ) (s : SessionInfo), sessions[j]? = some s ∧
    s.state = .established ∧ s.remoteSEID = k ∧ s.localSEID = c
  established : ∀ (j : ℕ) (s : SessionInfo), sessions[j]? = some s → s.state = .established →
    s.remoteSEID ≠ 0
  below : ∀ (j : ℕ) (s : SessionInfo), sessions[j]? = some s → s.remoteSEID.toNat < u.nextUPSEID.toNat
  pos : 0 < u.nextUPSEID.toNat
  unique : ∀ (i j : ℕ) (s t : SessionInfo), sessions[i]? = some s → sessions[j]? = some t →
    s.remoteSEID = t.remoteSEID → s.remoteSEID ≠ 0 → i = j

theorem getElem?_concat_eq_some {α : Type} {l : List α} {x y : α} {i : ℕ} :
    (l ++ [x])[i]? = some y ↔ l[i]? = some y ∨ (i = l.length ∧ y = x) := by
  rcases Nat.lt_or_ge i l.length with h | h
  · simp [List.getElem?_append_left h, h.ne]
  · rw [List.getElem?_append_right h, List.getElem?_eq_none h]
    rcases Nat.eq_or_lt_of_le h with rfl | hlt
    · simp [eq_comm]
    · obtain ⟨k, hk⟩ : ∃ k, i - l.length = k + 1 := ⟨i - l.length - 1, by omega⟩
      simp [hk, hlt.ne']

theorem exists_getElem?_concat_iff {α : Type} {l : List α} {x : α} {P : α → Prop} :
    (∃ (j : ℕ) (t : α), (l ++ [x])[j]? = some t ∧ P t) ↔ (∃ (j : ℕ) (t : α), l[j]? = some t ∧ P t) ∨ P x := by
  simp only [getElem?_concat_eq_some]
  constructor
  · rintro ⟨j, t, hj | ⟨-, rfl⟩, ht⟩
    · exact .inl ⟨j, t, hj, ht⟩
    · exact .inr ht
  · rintro (⟨j, t, hj, ht⟩ | hx)
    · exact ⟨j, t, .inl hj, ht⟩
    · exact ⟨l.length, x, .inr ⟨rfl, rfl⟩, hx⟩

/-- The UPF's counter moves on by one while it does not wrap. -/
theorem toNat_add_one_of_lt {x : UInt64} (h : x.toNat + 1 < 2 ^ 64) : (x + 1).toNat = x.toNat + 1 := by
  have : (x + 1).toNat = (x.toNat + 1) % 2 ^ 64 := BitVec.toNat_add _ _
  omega

theorem getD_of_getElem?_eq_some {α : Type} {l : List α} {i : ℕ} {a d : α} (h : l[i]? = some a) :
    l.getD i d = a := by
  rw [List.getD_eq_getElem?_getD, h, Option.getD_some]

/-- Marking a session deleted changes only a state, and leaves no new established session. -/
theorem getElem?_modify_deleted {sessions : List SessionInfo} {i j : ℕ} {t : SessionInfo}
    (h : (sessions.modify (fun s => { s with state := .deleted }) i)[j]? = some t) :
    ∃ s st, sessions[j]? = some s ∧ t = { s with state := st } ∧
      (t.state = .established → j ≠ i ∧ t = s) := by
  rw [List.getElem?_modify] at h
  rcases hs : sessions[j]? with _ | s
  · simp [hs] at h
  · simp only [hs, Option.map_eq_map, Option.map_some', Option.some.injEq] at h
    by_cases hij : i = j
    · rw [if_pos hij] at h
      subst h
      exact ⟨s, _, rfl, rfl, fun h => by simp at h⟩
    · rw [if_neg hij] at h
      subst h
      exact ⟨s, s.state, rfl, rfl, fun _ => ⟨Ne.symm hij, rfl⟩⟩

namespace Linked

variable {sessions : List SessionInfo} {u : MockUPF}

theorem nil (localIP : IP) (recoveryTS : UInt32) : Linked [] (newMockUPF localIP recoveryTS) :=
  ⟨fun _ _ => by simp [newMockUPF], fun _ _ h => by simp at h, fun _ _ h => by simp at h,
    show 0 < (1 : UInt64).toNat by decide, fun _ _ _ _ h => by simp at h⟩

/-- A session stored without a remote SEID, and not established, changes nothing the UPF sees. -/
theorem append_of_remoteSEID_zero (h : Linked sessions u) {s : SessionInfo}
    (hs : s.state ≠ .established) (hr : s.remoteSEID = 0) : Linked (sessions ++ [s]) u := by
  refine ⟨fun k c => ?_, fun j t hj => ?_, fun j t hj => ?_, h.pos, fun i j t t' hi hj => ?_⟩
  · rw [h.agree, exists_getElem?_concat_iff, or_iff_left fun ht => hs ht.1]
  · rcases getElem?_concat_eq_some.1 hj with hj | ⟨-, rfl⟩
    · exact h.established j t hj
    · exact fun h' => absurd h' hs
  · rcases getElem?_concat_eq_some.1 hj with hj | ⟨-, rfl⟩
    · exact h.below j t hj
    · simpa [hr] using h.pos
  · rcases getElem?_concat_eq_some.1 hi with hi' | ⟨-, hti⟩ <;>
      rcases getElem?_concat_eq_some.1 hj with hj' | ⟨-, htj⟩
    · exact h.unique i j t t' hi' hj'
    · subst htj
      exact fun heq hne => absurd (heq.trans hr) hne
    · subst hti
      exact fun _ hne => absurd hr hne
    · subst hti
      exact fun _ hne => absurd hr hne

/-- The session the UPF stores under its counter, established on the manager's side under that
remote SEID, keeps the tables agreeing while the counter does not wrap. -/
theorem append_established (h : Linked sessions u) {s : SessionInfo}
    (hs : s.state = .established) (hr : s.remoteSEID = u.nextUPSEID)
    (hroom : u.nextUPSEID.toNat + 1 < 2 ^ 64) :
    Linked (sessions ++ [s])
      { u with sessions := Function.update u.sessions u.nextUPSEID (some s.localSEID),
               nextUPSEID := u.nextUPSEID + 1 } := by
  have hnext : (u.nextUPSEID + 1).toNat = u.nextUPSEID.toNat + 1 := toNat_add_one_of_lt hroom
  -- no session the manager held has the new remote SEID
  have hfresh : ∀ (j : ℕ) (t : SessionInfo), sessions[j]? = some t → t.remoteSEID ≠ u.nextUPSEID :=
    fun j t hj heq =>
    (h.below j t hj).ne (by rw [heq])
  refine ⟨fun k c => ?_, fun j t hj => ?_, fun j t hj => ?_, by dsimp only; omega,
    fun i j t t' hi hj => ?_⟩
  · simp only [exists_getElem?_concat_iff, Function.update_apply]
    split_ifs with hk
    · -- the new session is the only one under the UPF's counter
      subst hk
      rw [or_iff_right fun ⟨j, t, hj, _, hrt, _⟩ => hfresh j t hj hrt]
      simp [hs, hr, eq_comm]
    · rw [h.agree, or_iff_left fun ht => hk (ht.2.1.symm.trans hr)]
  · rcases getElem?_concat_eq_some.1 hj with hj | ⟨-, rfl⟩
    · exact h.established j t hj
    · intro _ h0
      rw [hr] at h0
      have := h.pos
      rw [h0] at this
      exact absurd this (by decide)
  · rcases getElem?_concat_eq_some.1 hj with hj | ⟨-, rfl⟩
    · have := h.below j t hj
      dsimp only
      omega
    · dsimp only
      rw [hr]
      omega
  · rcases getElem?_concat_eq_some.1 hi with hi' | ⟨hi', hti⟩ <;>
      rcases getElem?_concat_eq_some.1 hj with hj' | ⟨hj', htj⟩
    · exact h.unique i j t t' hi' hj'
    · subst htj
      exact fun heq _ => absurd (heq.trans hr) (hfresh i t hi')
    · subst hti
      exact fun heq _ => absurd (heq.symm.trans hr) (hfresh j t' hj')
    · exact fun _ _ => hi'.trans hj'.symm

/-- The UPF removing the session under `k`, and the manager marking deleted the session `i`
whose remote SEID is `k`, keep the tables agreeing. -/
theorem delete (h : Linked sessions u) {k c : UInt64} (hk : u.sessions k = some c) {i : ℕ}
    (hi : (sessions.getD i default).remoteSEID = k) :
    Linked (sessions.modify (fun s => { s with state := .deleted }) i)
      { u with sessions := Function.update u.sessions k none } := by
  obtain ⟨j, s, hj, hest, hrk, -⟩ := (h.agree k c).1 hk
  have hk0 : k ≠ 0 := hrk ▸ h.established j s hj hest
  -- the session `i` is the one the UPF knows under `k`
  obtain ⟨si, hsi⟩ : ∃ si, sessions[i]? = some si := by
    rcases hget : sessions[i]? with _ | si
    · rw [List.getD_eq_getElem?_getD, hget] at hi
      exact absurd hi.symm hk0
    · exact ⟨si, rfl⟩
  rw [getD_of_getElem?_eq_some hsi] at hi
  refine ⟨fun k' c' => ?_, fun j t hj hest' => ?_, fun j t hj => ?_, h.pos,
    fun i' j t t' hi' hj' => ?_⟩
  · simp only [Function.update_apply]
    constructor
    · split_ifs with hk'
      · exact fun h => nomatch h
      · intro hc
        obtain ⟨j, t, hj, hest, hr, hl⟩ := (h.agree k' c').1 hc
        have hij : i ≠ j := by
          rintro rfl
          rw [hsi] at hj
          cases hj
          exact hk' (hr.symm.trans hi)
        exact ⟨j, t, by rw [List.getElem?_modify_ne _ _ hij]; exact hj, hest, hr, hl⟩
    · rintro ⟨j, t, hj, hest, hr, hl⟩
      obtain ⟨t₀, -, hj₀, -, himp⟩ := getElem?_modify_deleted hj
      obtain ⟨hne, rfl⟩ := himp hest
      rw [if_neg (fun hk' : k' = k => hne (h.unique j i t si hj₀ hsi
        (hr.trans (hk'.trans hi.symm)) (by rw [hr, hk']; exact hk0)))]
      exact (h.agree k' c').2 ⟨j, t, hj₀, hest, hr, hl⟩
  · obtain ⟨t₀, -, hj₀, -, himp⟩ := getElem?_modify_deleted hj
    obtain ⟨-, rfl⟩ := himp hest'
    exact h.established j t hj₀ hest'
  · obtain ⟨t₀, -, hj₀, rfl, -⟩ := getElem?_modify_deleted hj
    exact h.below j t₀ hj₀
  · obtain ⟨t₀, -, hi₀, rfl, -⟩ := getElem?_modify_deleted hi'
    obtain ⟨t₀', -, hj₀, rfl, -⟩ := getElem?_modify_deleted hj'
    exact h.unique i' j t₀ t₀' hi₀ hj₀

end Linked

/-! ## What a call of the manager sends, and what it does with the result -/

namespace Manager

variable (m : Manager) (codec : Codec) (o : Outside)

/-- A request `request` sends is the one `modify` made, and an answer ends the call with
`onSuccess`. -/
theorem request_of_sent {what failure : String} {modify : UInt32 → Except String Message}
    {onSuccess : Manager → Manager} {req : Message}
    (hsent : (m.request codec o what failure modify onSuccess).sent = some req) :
    modify m.seqCounter.next.1 = .ok req ∧
      (m.request codec o what failure modify onSuccess).manager =
        if o.Answered then onSuccess { m with seqCounter := m.seqCounter.next.2 }
        else { m with seqCounter := m.seqCounter.next.2 } := by
  have hmod := m.eq_ok_of_request_sent codec o hsent
  refine ⟨hmod, ?_⟩
  unfold request sendRequest at hsent ⊢
  rcases henc : codec.encode req with e | b
  · simp [hmod, henc] at hsent
  rcases hs : o.sendError with _ | e <;> rcases hr : o.result.error with _ | e' <;>
    simp [hmod, henc, hs, hr, Outside.Answered]

/-- A request whose success changes nothing but the sequence counter changes no session and
nothing held, and sends only what `modify` makes. -/
theorem request_id_frame {what failure : String}
    {modify : UInt32 → Except String Message} {P : Message → Prop}
    (hmod : ∀ req, modify m.seqCounter.next.1 = .ok req → P req) :
    (m.request codec o what failure modify id).manager.sessions = m.sessions ∧
      (m.request codec o what failure modify id).manager.seidAlloc = m.seidAlloc ∧
      (m.request codec o what failure modify id).manager.ipPool = m.ipPool ∧
      ∀ req ∈ (m.request codec o what failure modify id).sent, P req := by
  refine ⟨?_, ?_, ?_, fun req hreq => hmod req (m.eq_ok_of_request_sent codec o hreq)⟩ <;>
    rcases m.request_cases codec o what failure modify id with ⟨-, h⟩ | ⟨-, h⟩ <;> rw [h] <;> rfl

/-- The handlers of Association Setup, Heartbeat and Session Modification Requests, and a message
that is no request, change no session and nothing held, and send neither a Session Establishment
nor a Session Deletion Request. -/
theorem processMessage_frame {msg : Message}
    (hest : ∀ x, msg ≠ .sessionEstablishmentRequest x) (hdel : ∀ x, msg ≠ .sessionDeletionRequest x) :
    (m.processMessage codec o msg).manager.sessions = m.sessions ∧
      (m.processMessage codec o msg).manager.seidAlloc = m.seidAlloc ∧
      (m.processMessage codec o msg).manager.ipPool = m.ipPool ∧
      ∀ req ∈ (m.processMessage codec o msg).sent,
        (∀ x, req ≠ .sessionEstablishmentRequest x) ∧ ∀ x, req ≠ .sessionDeletionRequest x := by
  cases msg with
  | associationSetupRequest a =>
    rw [processMessage_associationSetupRequest]
    unfold handleAssociationSetup
    split
    · exact ⟨rfl, rfl, rfl, fun _ h => nomatch h⟩
    · exact m.request_id_frame codec o fun _ h => by cases h; exact ⟨nofun, nofun⟩
  | heartbeatRequest b =>
    rw [processMessage_heartbeatRequest]
    exact m.request_id_frame codec o fun _ h => by cases h; exact ⟨nofun, nofun⟩
  | sessionModificationRequest b =>
    rw [processMessage_sessionModificationRequest]
    dsimp only [handleSessionModification]
    split
    · exact ⟨rfl, rfl, rfl, fun _ h => nomatch h⟩
    · exact m.request_id_frame codec o fun _ h => by cases h; exact ⟨nofun, nofun⟩
  | sessionEstablishmentRequest x => exact absurd rfl (hest x)
  | sessionDeletionRequest x => exact absurd rfl (hdel x)
  | sessionEstablishmentResponse resp =>
    rw [processMessage_sessionEstablishmentResponse]
    exact ⟨rfl, rfl, rfl, fun _ h => nomatch h⟩
  | other t h ies =>
    rw [(m.processMessage_other codec o t h ies).1, (m.processMessage_other codec o t h ies).2]
    exact ⟨rfl, rfl, rfl, fun _ h => nomatch h⟩

/-- A Session Deletion Request goes to the session its header SEID resolves to, with that
session's remote SEID, and an answer marks the session deleted. -/
theorem handleSessionDeletion_sent {dreq : SessionDeletionRequest} {req : Message}
    (hsent : (m.handleSessionDeletion codec o (.sessionDeletionRequest dreq)).sent = some req) :
    ∃ i x, req = .sessionDeletionRequest x ∧ x.header.seid = (m.session i).remoteSEID ∧
      (m.handleSessionDeletion codec o (.sessionDeletionRequest dreq)).manager.sessions =
        if o.Answered then m.sessions.modify (fun s => { s with state := .deleted }) i
        else m.sessions := by
  rcases hi : m.findSessionByOriginalRemoteSEID dreq.header.seid with _ | i <;>
    simp only [handleSessionDeletion, Message.seid, Message.header, hi] at hsent ⊢
  · cases hsent
  · obtain ⟨hmod, hman⟩ := m.request_of_sent codec o hsent
    cases hmod
    refine ⟨i, _, rfl, rfl, ?_⟩
    rw [hman]
    split_ifs <;> rfl

/-- An iteration of `CleanupSessions` sends a new Session Deletion Request with the session's
remote SEID, and an answer marks the session deleted. -/
theorem cleanupSession_sent {i : ℕ} {req : Message} (hsent : (m.cleanupSession codec o i).2 = some req) :
    ∃ x, req = .sessionDeletionRequest x ∧ x.header.seid = (m.session i).remoteSEID ∧
      (m.cleanupSession codec o i).1.sessions =
        if o.Answered then m.sessions.modify (fun s => { s with state := .deleted }) i
        else m.sessions := by
  unfold cleanupSession at hsent ⊢
  rcases henc : codec.encode (.sessionDeletionRequest
    { header := { seid := (m.session i).remoteSEID, sequenceNumber := m.seqCounter.next.1 },
      ies := [] }) with e | b
  · simp [henc] at hsent
  refine ⟨⟨⟨(m.session i).remoteSEID, m.seqCounter.next.1⟩, []⟩, ?_, rfl, ?_⟩
  · simp only [henc] at hsent
    repeat' split at hsent
    all_goals exact (Option.some.inj hsent).symm
  · rcases hs : o.sendError with _ | e <;> rcases hr : o.result.error with _ | e' <;>
      simp [henc, hs, hr, Outside.Answered, setState]

/-- The CP F-SEID the modifier writes parses, to the local SEID it was given. -/
theorem fseid_of_mem_modifySessionEstablishment (modifier : Modifier)
    (ereq : SessionEstablishmentRequest) (l : UInt64) {c : IE}
    (hc : c ∈ (ereq.cpFSEID.map fun old =>
      newFSEID l (modifier.fseidAddresses old).1 (modifier.fseidAddresses old).2)) :
    ∃ f, c.fseid = .ok f ∧ f.seid = l := by
  obtain ⟨old, -, rfl⟩ := Option.mem_map.1 hc
  obtain ⟨h4, h6⟩ := modifier.fseidAddresses_lengths old
  exact ⟨_, fseid_newFSEID l h4 h6, rfl⟩

/-- The session a Session Establishment Request stores, before any later write to it. -/
def establishingSession (m : Manager) (ereq : SessionEstablishmentRequest) (localSEID : UInt64) (ueIP : IP) :
    SessionInfo :=
  { originalCPSEID := (extractCPSEID ereq).toOption.getD 0,
    originalRemoteSEID := (m.originalSEIDMappings ((extractCPSEID ereq).toOption.getD 0)).getD 0,
    localSEID, remoteSEID := 0, ueIP, state := .establishing }

/-- A Session Establishment Request is sent once both allocations succeed and the new session is
stored; its CP F-SEID, where it has one, parses to the session's local SEID. The call ends with
the session neither established nor given a remote SEID, or, on an answer that decodes to a
Session Establishment Response naming a remote SEID, with the session established under it;
an answer that is no rejection always establishes it. -/
theorem handleSessionEstablishment_sent {ereq : SessionEstablishmentRequest} {req : Message}
    (hsent : (m.handleSessionEstablishment codec o (.sessionEstablishmentRequest ereq)).sent =
      some req) :
    ∃ (base : SessionInfo) (x : SessionEstablishmentRequest), base.remoteSEID = 0 ∧
      req = .sessionEstablishmentRequest x ∧
      (∀ c ∈ x.cpFSEID, ∃ f, c.fseid = .ok f ∧ f.seid = base.localSEID) ∧
      (∀ resp remoteSEID, o.Answered →
        codec.decode o.result.response = .ok (.sessionEstablishmentResponse resp) →
        rejectedCause resp = none → extractRemoteSEID resp = .ok remoteSEID →
        (m.handleSessionEstablishment codec o (.sessionEstablishmentRequest ereq)).manager.sessions =
          m.sessions ++ [{ base with state := .established, remoteSEID }]) ∧
      ((∃ st, st ≠ .established ∧
          (m.handleSessionEstablishment codec o (.sessionEstablishmentRequest ereq)).manager.sessions =
            m.sessions ++ [{ base with state := st }]) ∨
        ∃ resp remoteSEID, o.Answered ∧
          codec.decode o.result.response = .ok (.sessionEstablishmentResponse resp) ∧
          extractRemoteSEID resp = .ok remoteSEID ∧
          (m.handleSessionEstablishment codec o (.sessionEstablishmentRequest ereq)).manager.sessions =
            m.sessions ++ [{ base with state := .established, remoteSEID }]) := by
  simp only [handleSessionEstablishment] at hsent ⊢
  rcases hs : m.seidAlloc.allocate o.draws with ⟨_ | l, a⟩
  · simp [hs] at hsent
  rcases hp : m.ipPool.allocate with ⟨_ | ip, p⟩
  · simp [hs, hp] at hsent
  simp only [hs, hp, storeSession_modifier, storeSession_seqCounter] at hsent ⊢
  obtain ⟨x, hx⟩ : ∃ x, m.modifier.modifySessionEstablishment ereq l ip m.seqCounter.next.1 = .ok x :=
    ⟨_, rfl⟩
  simp only [hx, Except.map, sendRequest] at hsent ⊢
  rcases henc : codec.encode (.sessionEstablishmentRequest x) with e | b
  · simp [henc] at hsent
  have hcp : x.cpFSEID = ereq.cpFSEID.map fun old =>
      newFSEID l (m.modifier.fseidAddresses old).1 (m.modifier.fseidAddresses old).2 := by
    simp only [Modifier.modifySessionEstablishment, Except.ok.injEq] at hx
    rw [← hx]
  -- the request is sent whatever `Send` returns
  have hreq : req = .sessionEstablishmentRequest x := by
    rcases hsnd : o.sendError with _ | e <;> simp only [henc, hsnd] at hsent <;> revert hsent <;>
      repeat' split
    all_goals exact fun h => (Option.some.inj h).symm
  refine ⟨m.establishingSession ereq l ip, x, rfl, hreq,
    fun c hc => fseid_of_mem_modifySessionEstablishment m.modifier ereq l (hcp ▸ hc), ?_, ?_⟩
  · intro resp remoteSEID ⟨hsnd, hr⟩ hdec hrej hext
    simp [establishingSession, henc, hsnd, hr, hdec, hrej, hext, setEstablished, modify_concat_length]
  · -- every way the call can end, after the store
    rcases hsnd : o.sendError with _ | e
    · rcases hr : o.result.error with _ | e
      · rcases hdec : codec.decode o.result.response with e | msg
        · exact .inl ⟨.establishing, nofun, by simp [establishingSession, henc, hsnd, hr, hdec]⟩
        cases msg
        case sessionEstablishmentResponse resp =>
          rcases hrej : rejectedCause resp with _ | cause
          · rcases hext : extractRemoteSEID resp with e | remoteSEID
            · exact .inl ⟨.establishing, nofun,
                by simp [establishingSession, henc, hsnd, hr, hdec, hrej, hext]⟩
            · exact .inr ⟨resp, remoteSEID, ⟨hsnd, hr⟩, rfl, hext, by
                simp [establishingSession, henc, hsnd, hr, hdec, hrej, hext, setEstablished,
                  modify_concat_length]⟩
          · exact .inl ⟨.failed, nofun, by
              simp [establishingSession, henc, hsnd, hr, hdec, hrej, setState, modify_concat_length]⟩
        all_goals exact .inl ⟨.establishing, nofun, by simp [establishingSession, henc, hsnd, hr, hdec]⟩
      · exact .inl ⟨.failed, nofun,
          by simp [establishingSession, henc, hsnd, hr, setState, modify_concat_length]⟩
    · exact .inl ⟨.establishing, nofun, by simp [establishingSession, henc, hsnd]⟩

/-- A request that sends nothing ends the call with only the sequence counter moved. -/
theorem request_of_sent_none {what failure : String} {modify : UInt32 → Except String Message}
    {onSuccess : Manager → Manager}
    (hsent : (m.request codec o what failure modify onSuccess).sent = none) :
    (m.request codec o what failure modify onSuccess).manager =
      { m with seqCounter := m.seqCounter.next.2 } := by
  unfold request sendRequest at hsent ⊢
  rcases hmod : modify m.seqCounter.next.1 with e | x
  · simp [hmod]
  rcases henc : codec.encode x with e | b
  · simp [hmod, henc]
  · rcases hs : o.sendError with _ | e
    · simp only [hmod, henc, hs] at hsent
      split at hsent <;> cases hsent
    · simp [hmod, henc, hs] at hsent

/-- A Session Establishment Request that is not sent leaves at most a stored session that is
neither established nor given a remote SEID. -/
theorem handleSessionEstablishment_of_sent_none {ereq : SessionEstablishmentRequest}
    (hsent : (m.handleSessionEstablishment codec o (.sessionEstablishmentRequest ereq)).sent = none) :
    (m.handleSessionEstablishment codec o (.sessionEstablishmentRequest ereq)).manager.sessions =
        m.sessions ∨
      ∃ s : SessionInfo, (m.handleSessionEstablishment codec o
          (.sessionEstablishmentRequest ereq)).manager.sessions = m.sessions ++ [s] ∧
        s.state ≠ .established ∧ s.remoteSEID = 0 := by
  simp only [handleSessionEstablishment] at hsent ⊢
  rcases hs : m.seidAlloc.allocate o.draws with ⟨_ | l, a⟩
  · exact .inl rfl
  rcases hp : m.ipPool.allocate with ⟨_ | ip, p⟩
  · exact .inl rfl
  simp only [hs, hp, storeSession_modifier, storeSession_seqCounter] at hsent ⊢
  obtain ⟨x, hx⟩ : ∃ x, m.modifier.modifySessionEstablishment ereq l ip m.seqCounter.next.1 = .ok x :=
    ⟨_, rfl⟩
  simp only [hx, Except.map, sendRequest] at hsent ⊢
  rcases henc : codec.encode (.sessionEstablishmentRequest x) with e | b
  · exact .inr ⟨m.establishingSession ereq l ip, by simp [establishingSession, henc], nofun, rfl⟩
  · rcases hsnd : o.sendError with _ | e <;> simp only [henc, hsnd] at hsent <;> revert hsent <;>
      repeat' split
    all_goals exact fun h => Option.noConfusion h

/-- A call that sends no request changes no session, or stores one that is neither established
nor given a remote SEID. -/
theorem sessions_of_sent_none {call : GeneratorCall} (hsent : (call.run codec o m).2 = none) :
    (call.run codec o m).1.sessions = m.sessions ∨
      ∃ s : SessionInfo, (call.run codec o m).1.sessions = m.sessions ++ [s] ∧
        s.state ≠ .established ∧ s.remoteSEID = 0 := by
  cases call with
  | cleanup i =>
    left
    simp only [GeneratorCall.run, cleanupSession] at hsent ⊢
    split at hsent
    · rfl
    · repeat' split at hsent
      all_goals cases hsent
  | process msg =>
    simp only [GeneratorCall.run] at hsent ⊢
    by_cases hest : ∃ x, msg = .sessionEstablishmentRequest x
    · obtain ⟨ereq, rfl⟩ := hest
      rw [processMessage_sessionEstablishmentRequest] at hsent ⊢
      exact m.handleSessionEstablishment_of_sent_none codec o hsent
    left
    by_cases hdel : ∃ x, msg = .sessionDeletionRequest x
    · obtain ⟨dreq, rfl⟩ := hdel
      rw [processMessage_sessionDeletionRequest] at hsent ⊢
      rcases hi : m.findSessionByOriginalRemoteSEID dreq.header.seid with _ | i <;>
        simp only [handleSessionDeletion, Message.seid, Message.header, hi] at hsent ⊢
      rw [m.request_of_sent_none codec o hsent]
    push_neg at hest hdel
    exact (m.processMessage_frame codec o hest hdel).1

end Manager

/-! ## One exchange keeps the tables agreeing -/

section Steps

variable {codec : Codec} {maxRetries : ℕ} {sessions : List SessionInfo} {u u' : MockUPF}
  {data : List UInt8} {reply : Option (List UInt8)}

/-- A Session Deletion Request for the session `i`: the UPF removes the session under its header
SEID exactly when it holds one there, and answers; the manager marks the session deleted
exactly on that answer. -/
theorem Linked.deletion_exchange (h : Linked sessions u) (hround : codec.RoundTrip)
    (hreplies : u.MarshalsSessionReplies codec) {x : SessionDeletionRequest} {i : ℕ}
    (hseid : x.header.seid = (sessions.getD i default).remoteSEID)
    (hdata : codec.marshal (.sessionDeletionRequest x) = .ok data)
    (hex : exchange codec data (Message.sessionDeletionRequest x).sequence (maxRetries + 1) u =
      (u', reply)) :
    Linked (if (exchangeResult maxRetries (Message.sessionDeletionRequest x).sequence reply).error = none
        then sessions.modify (fun s => { s with state := .deleted }) i else sessions) u' ∧
      u'.nextUPSEID = u.nextUPSEID ∧ u'.localIP = u.localIP := by
  rw [exchange_eq hround hreplies hdata] at hex
  simp only [MockUPF.respond, MockUPF.handleSessionDeletion, MockUPF.lookupCPSEID] at hex
  rcases hk : u.sessions x.header.seid with _ | c
  · simp only [hk] at hex
    cases hex
    simpa [exchangeResult] using h
  · obtain ⟨b, hb⟩ := hreplies.2 c x.header.sequenceNumber
    simp only [hk, hb] at hex
    cases hex
    exact ⟨by simpa [exchangeResult] using h.delete hk hseid.symm, rfl, rfl⟩

/-- A Session Establishment Request for a new session `base`: without a CP F-SEID the UPF
fails, and the manager marks the session failed on the timeout; with one, which parses to the
session's local SEID, the UPF stores the session under its counter and answers with an
acceptance naming it, and the manager establishes the session under that remote SEID. -/
theorem Linked.establishment_exchange (h : Linked sessions u) (hround : codec.RoundTrip)
    (hreplies : u.MarshalsSessionReplies codec) (hroom : u.nextUPSEID.toNat + 1 < 2 ^ 64)
    {x : SessionEstablishmentRequest} {base : SessionInfo} (hbase : base.remoteSEID = 0)
    (hcp : ∀ c ∈ x.cpFSEID, ∃ f, c.fseid = .ok f ∧ f.seid = base.localSEID)
    (hdata : codec.marshal (.sessionEstablishmentRequest x) = .ok data)
    (hex : exchange codec data (Message.sessionEstablishmentRequest x).sequence (maxRetries + 1) u =
      (u', reply))
    {sessions' : List SessionInfo}
    (hfail : (exchangeResult maxRetries (Message.sessionEstablishmentRequest x).sequence reply).error.isSome →
      ∃ st, st ≠ .established ∧ sessions' = sessions ++ [{ base with state := st }])
    (hok : ∀ resp remoteSEID,
      (exchangeResult maxRetries (Message.sessionEstablishmentRequest x).sequence reply).error = none →
      codec.decode (exchangeResult maxRetries (Message.sessionEstablishmentRequest x).sequence
        reply).response = .ok (.sessionEstablishmentResponse resp) →
      rejectedCause resp = none → extractRemoteSEID resp = .ok remoteSEID →
      sessions' = sessions ++ [{ base with state := .established, remoteSEID }]) :
    Linked sessions' u' ∧ u'.nextUPSEID.toNat ≤ u.nextUPSEID.toNat + 1 ∧ u'.localIP = u.localIP := by
  rw [exchange_eq hround hreplies hdata] at hex
  simp only [MockUPF.respond, MockUPF.handleSessionEstablishment, MockUPF.allocateUPSEID] at hex
  rcases hc : x.cpFSEID with _ | c
  · simp only [hc] at hex
    cases hex
    obtain ⟨st, hst, hs⟩ := hfail rfl
    exact ⟨hs ▸ h.append_of_remoteSEID_zero hst hbase, Nat.le_succ _, rfl⟩
  obtain ⟨f, hf, hfl⟩ := hcp c (by simp [hc])
  obtain ⟨resp, hresp, hrej, hext⟩ :=
    u.sessionEstablishmentResponse_accepted f.seid x.header.sequenceNumber u.nextUPSEID
  obtain ⟨b, hb⟩ := hreplies.1 f.seid x.header.sequenceNumber u.nextUPSEID
  have hb' : codec.marshal ({ u with nextUPSEID := u.nextUPSEID + 1 }.sessionEstablishmentResponse
      f.seid x.header.sequenceNumber u.nextUPSEID) = .ok b := hb
  simp only [hc, hf, hb'] at hex
  cases hex
  have hdec : codec.decode b = .ok (.sessionEstablishmentResponse resp) := by
    rw [← hresp]
    simp [Codec.decode, hround _ _ hb]
  rw [hok resp u.nextUPSEID rfl hdec hrej hext]
  have hnext : (u.nextUPSEID + 1).toNat = u.nextUPSEID.toNat + 1 := toNat_add_one_of_lt hroom
  refine ⟨?_, by simp [hnext], rfl⟩
  rw [hfl]
  exact h.append_established (s := { base with state := .established, remoteSEID := u.nextUPSEID })
    rfl rfl hroom

theorem MockUPF.MarshalsSessionReplies.of_localIP {codec : Codec} {u u' : MockUPF}
    (h : u.MarshalsSessionReplies codec) (hip : u'.localIP = u.localIP) :
    u'.MarshalsSessionReplies codec :=
  ⟨fun c s p => by simpa [MockUPF.sessionEstablishmentResponse, hip] using h.1 c s p, h.2⟩

/-- Every call that sends a request keeps the tables agreeing, moves the UPF's counter on by at
most one, and keeps the UPF's address. -/
theorem Linked.exchanged {m : Manager} (h : Linked m.sessions u) (hround : codec.RoundTrip)
    (hreplies : u.MarshalsSessionReplies codec) (hroom : u.nextUPSEID.toNat + 1 < 2 ^ 64)
    {call : GeneratorCall} {draws : ℕ → UInt64} {req : Message}
    (hsent : (call.run codec (linkedOutside draws (exchangeResult maxRetries req.sequence reply))
      m).2 = some req)
    (hdata : codec.marshal req = .ok data)
    (hex : exchange codec data req.sequence (maxRetries + 1) u = (u', reply)) :
    Linked (call.run codec (linkedOutside draws (exchangeResult maxRetries req.sequence reply))
        m).1.sessions u' ∧
      u'.nextUPSEID.toNat ≤ u.nextUPSEID.toNat + 1 ∧ u'.localIP = u.localIP := by
  cases call with
  | cleanup i =>
    obtain ⟨x, rfl, hseid, hses⟩ := m.cleanupSession_sent codec _ hsent
    simp only [linkedOutside_answered] at hses
    obtain ⟨hl, hn, hip⟩ := h.deletion_exchange hround hreplies hseid hdata hex
    exact ⟨hses ▸ hl, hn ▸ Nat.le_succ _, hip⟩
  | process msg =>
    simp only [GeneratorCall.run] at hsent ⊢
    by_cases hest : ∃ x, msg = .sessionEstablishmentRequest x
    · obtain ⟨ereq, rfl⟩ := hest
      rw [Manager.processMessage_sessionEstablishmentRequest] at hsent ⊢
      obtain ⟨base, x, hbase, rfl, hcp, hok, hcases⟩ := m.handleSessionEstablishment_sent codec _ hsent
      -- without an answer the session is not established
      exact h.establishment_exchange hround hreplies hroom hbase hcp hdata hex
        (fun herr => hcases.resolve_right fun ⟨_, _, ⟨_, hr⟩, _⟩ =>
          absurd hr (Option.isSome_iff_ne_none.1 herr))
        fun resp r hr => hok resp r ((linkedOutside_answered _ _).2 hr)
    by_cases hdel : ∃ x, msg = .sessionDeletionRequest x
    · obtain ⟨dreq, rfl⟩ := hdel
      rw [Manager.processMessage_sessionDeletionRequest] at hsent ⊢
      obtain ⟨i, x, rfl, hseid, hses⟩ := m.handleSessionDeletion_sent codec _ hsent
      simp only [linkedOutside_answered] at hses
      obtain ⟨hl, hn, hip⟩ := h.deletion_exchange hround hreplies hseid hdata hex
      exact ⟨hses ▸ hl, hn ▸ Nat.le_succ _, hip⟩
    push_neg at hest hdel
    obtain ⟨hses, -, -, hkind⟩ := m.processMessage_frame codec _ hest hdel
    obtain ⟨hnest, hndel⟩ := hkind req hsent
    -- any other request leaves the UPF as it was, answered or not
    have hsnd : (u.respond req).2 = u := by
      rcases u.respond_snd req with h' | ⟨x, -, -, hx, -⟩ | ⟨x, -, hx, -⟩
      · exact h'
      · exact absurd hx (hnest x)
      · exact absurd hx (hndel x)
    have hu : u' = u := by
      rw [exchange_eq hround hreplies hdata] at hex
      rcases hr : u.respond req with ⟨_ | resp, u''⟩
      · simp only [hr] at hex
        exact (Prod.mk.inj hex).1.symm
      · rw [hr] at hsnd
        subst hsnd
        simp only [hr] at hex
        split at hex <;> exact (Prod.mk.inj hex).1.symm
    subst hu
    exact ⟨hses ▸ h, Nat.le_succ _, rfl⟩

end Steps

/-! ## A codec for concrete runs -/

/-- The UP SEID of a Session Establishment Response's UP F-SEID, `0` for any other message. -/
def replyUPSEID : Message → UInt64
  | .sessionEstablishmentResponse resp => (extractRemoteSEID resp).toOption.getD 0
  | _ => 0

/-- A codec for a run against the UPF `u`: the message at position `k` of `requests` is the
datagram `[0, k]`; the UPF's Session Establishment and Deletion Responses, and the Session
Deletion Requests `CleanupSessions` builds, are their type code followed by the header SEID, the
sequence number and, for an establishment, the UP SEID, each big-endian. Nothing else
marshals. -/
def linkCodec (u : MockUPF) (requests : List Message) : Codec where
  marshal msg :=
    if msg = u.sessionEstablishmentResponse msg.seid msg.sequence (replyUPSEID msg) then
      .ok (MsgType.sessionEstablishmentResponse :: bytesBE 8 msg.seid.toNat ++
        bytesBE 4 msg.sequence.toNat ++ bytesBE 8 (replyUPSEID msg).toNat)
    else if msg = MockUPF.sessionDeletionResponse msg.seid msg.sequence then
      .ok (MsgType.sessionDeletionResponse :: bytesBE 8 msg.seid.toNat ++
        bytesBE 4 msg.sequence.toNat)
    else if msg = .sessionDeletionRequest ⟨⟨msg.seid, msg.sequence⟩, []⟩ then
      .ok (MsgType.sessionDeletionRequest :: bytesBE 8 msg.seid.toNat ++
        bytesBE 4 msg.sequence.toNat)
    else if msg ∈ requests then .ok [0, (requests.indexOf msg).toUInt8]
    else .error "unsupported message"
  parse
    | t :: b =>
      if t = MsgType.sessionEstablishmentResponse then
        .ok (u.sessionEstablishmentResponse (valueBE (b.take 8)).toUInt64
          (valueBE ((b.drop 8).take 4)).toUInt32 (valueBE ((b.drop 8).drop 4)).toUInt64)
      else if t = MsgType.sessionDeletionResponse then
        .ok (MockUPF.sessionDeletionResponse (valueBE (b.take 8)).toUInt64
          (valueBE (b.drop 8)).toUInt32)
      else if t = MsgType.sessionDeletionRequest then
        .ok (.sessionDeletionRequest
          ⟨⟨(valueBE (b.take 8)).toUInt64, (valueBE (b.drop 8)).toUInt32⟩, []⟩)
      else
        match b with
        | [k] =>
          match requests[k.toNat]? with
          | some msg => .ok msg
          | none => .error "unexpected EOF"
        | _ => .error "unexpected EOF"
    | [] => .error "unexpected EOF"

/-- Over at most 256 requests, every datagram the codec marshals parses back. -/
theorem linkCodec_roundTrip (u : MockUPF) {requests : List Message} (hlen : requests.length ≤ 256) :
    (linkCodec u requests).RoundTrip := by
  intro msg b h
  simp only [linkCodec] at h
  split_ifs at h with he hd hq hr <;> cases h
  · simp only [linkCodec, MsgType.sessionEstablishmentResponse, List.cons_append, List.append_assoc,
      ite_true]
    rw [List.take_left' (length_bytesBE 8 _), List.drop_left' (length_bytesBE 8 _),
      List.take_left' (length_bytesBE 4 _), List.drop_left' (length_bytesBE 4 _),
      toUInt64_valueBE_bytesBE, toUInt32_valueBE_bytesBE, toUInt64_valueBE_bytesBE]
    exact congrArg Except.ok he.symm
  · simp only [linkCodec, MsgType.sessionEstablishmentResponse, MsgType.sessionDeletionResponse,
      List.cons_append, ite_true, if_neg (by decide : (55 : UInt8) ≠ 51)]
    rw [List.take_left' (length_bytesBE 8 _), List.drop_left' (length_bytesBE 8 _),
      toUInt64_valueBE_bytesBE, toUInt32_valueBE_bytesBE]
    exact congrArg Except.ok hd.symm
  · simp only [linkCodec, MsgType.sessionEstablishmentResponse, MsgType.sessionDeletionResponse,
      MsgType.sessionDeletionRequest, List.cons_append, ite_true,
      if_neg (by decide : (54 : UInt8) ≠ 51), if_neg (by decide : (54 : UInt8) ≠ 55)]
    rw [List.take_left' (length_bytesBE 8 _), List.drop_left' (length_bytesBE 8 _),
      toUInt64_valueBE_bytesBE, toUInt32_valueBE_bytesBE]
    exact congrArg Except.ok hq.symm
  · have hk : (requests.indexOf msg).toUInt8.toNat = requests.indexOf msg := by
      have := List.indexOf_lt_length.2 hr
      exact UInt8.toNat_ofNat_of_lt (by simp only [UInt8.size]; omega)
    simp [linkCodec, MsgType.sessionEstablishmentResponse, MsgType.sessionDeletionResponse,
      MsgType.sessionDeletionRequest, hk, hr]

/-- The UPF at `10.0.0.2`, started at NTP second `0`. -/
def linkedUPF : MockUPF := newMockUPF [10, 0, 0, 2] 0

end PfcpGenerator
