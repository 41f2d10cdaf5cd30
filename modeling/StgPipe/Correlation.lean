import StgPipe.Run

/-!
# Matching replies to requests

The pipe carries one reply message per request, but nothing in the transport
ties a reply to the request it answers: a faulty or hostile server may deliver
a late reply to an earlier request, the same reply twice, or replies out of
order.  The client relies on the {lit}`Hint` alone.  Every request of a run
carries {lit}`(ThreadId << 32) | I`, which no other operation of the run shares,
and {lit}`StgTransactPipe` rejects every reply whose {lit}`Hint` differs from the
request's.

The server is any pipe whose state records the requests it has received and
which of them its latest reply answers, and that stamps every reply with the
{lit}`Hint` of the request it answers.  Which request it answers, and when, is
left entirely to it.

Main results:

- Theorem {lit}`opHint_inj`: the hints of one run are pairwise distinct.
- Theorem {lit}`runLoop_accepts_own_reply`: every transaction a run's operation
  completes successfully was answered by a reply to that very operation.
-/

namespace WinSpd
namespace StgPipe

/-! ## Hints -/

theorem opHint_toNat (threadId : BitVec 32) (I : Nat) :
    (opHint threadId I).toNat = threadId.toNat * 2 ^ 32 + I % 2 ^ 32 := by
  have ht := threadId.isLt
  have hI := Nat.mod_lt I (Nat.two_pow_pos 32)
  have hx : (threadId.setWidth 64 <<< 32).toNat = threadId.toNat * 2 ^ 32 := by
    simp only [BitVec.toNat_shiftLeft, BitVec.toNat_setWidth, Nat.shiftLeft_eq]
    rw [Nat.mod_eq_of_lt (by omega), Nat.mod_eq_of_lt (by omega)]
  have hy : ((BitVec.ofNat 32 I).setWidth 64).toNat = I % 2 ^ 32 := by
    simp only [BitVec.toNat_setWidth, BitVec.toNat_ofNat]
    exact Nat.mod_eq_of_lt (by omega)
  rw [opHint, toNat_or_of_dvd (k := 32) (by rw [hx]; exact Nat.dvd_mul_left _ _)
    (by rw [hy]; exact hI), hx, hy]

/-- The hints of one thread's operations below {lit}`2 ^ 32` are pairwise distinct. -/
theorem opHint_inj {threadId : BitVec 32} {I I' : Nat} (hI : I < 2 ^ 32) (hI' : I' < 2 ^ 32)
    (h : opHint threadId I = opHint threadId I') : I = I' := by
  have h' := congrArg BitVec.toNat h
  rw [opHint_toNat, opHint_toNat, Nat.mod_eq_of_lt hI, Nat.mod_eq_of_lt hI'] at h'
  omega

/-- The request at a position of a list whose hints are those of operations
{lit}`0` to {lit}`n - 1` carries that operation's hint. -/
theorem hint_getD_of_map {l : List TransactReq} {n I : Nat} {threadId : BitVec 32}
    (hl : l.map TransactReq.hint = (List.range n).map (opHint threadId)) (hI : I < n) :
    (l.getD I TransactReq.zero).hint = opHint threadId I := by
  have hlen : l.length = n := by simpa using congrArg List.length hl
  have hget := congrArg (fun l => l[I]?) hl
  simp only [List.getElem?_map, List.getElem?_range hI, Option.map_some'] at hget
  rw [List.getElem?_eq_getElem (by omega)] at hget
  rw [List.getD_eq_getElem?_getD, List.getElem?_eq_getElem (by omega)]
  simpa using hget

/-! ## Servers that stamp their replies -/

/-- A pipe server's record of the requests it has received, in order, and of the
one its latest reply answers, with the contract that every reply is stamped
with the {lit}`Hint` of a request the server has received. -/
structure ReplyLog {σ : Type} (ch : PipeChannel σ) where
  sent : σ → List TransactReq
  answered : σ → Nat
  sent_write : ∀ s f, sent (ch.writeFile s f).1 = sent s ++ [f.req]
  sent_read : ∀ s n, sent (ch.readFile s n).1 = sent s
  answered_lt : ∀ s n, sent s ≠ [] → answered (ch.readFile s n).1 < (sent s).length
  stamped : ∀ s n, sent s ≠ [] →
    (ch.readFile s n).2.2.rsp.hint =
      ((sent s).getD (answered (ch.readFile s n).1) TransactReq.zero).hint

section Correlation

variable {σ : Type} {msgSize : Nat} {t : Transports σ} {handle : BitVec 64} {p : StorageUnitParams}
  {c : RunConfig} {st0 : LoopState σ}

/-- The requests a stamping server has received during a run are those of its
operations, in order. -/
theorem runLoop_sent (hpipe : isPipeHandle handle = true)
    (log : ReplyLog (t.pipe (getPipeHandle handle)))
    (hev : ∀ s, ((t.pipe (getPipeHandle handle)).createEvent s).ok = false →
      ((t.pipe (getPipeHandle handle)).createEvent s).lastError ≠ errorSuccess)
    (h0 : log.sent st0.world = []) {k : Nat} {st : LoopState σ}
    (h : runLoop (fun s req rsp b => stgTransact msgSize t s handle req rsp b p) c k st0 = .ok st) :
    (log.sent st.world).map TransactReq.hint = (List.range k).map (opHint c.threadId) := by
  induction k generalizing st with
  | zero =>
    cases h
    simp [h0]
  | succ k ih =>
    obtain ⟨st', hreach, hstep⟩ := runLoop_succ_ok h
    obtain ⟨hr, -, rfl⟩ := runStep_ok hstep
    simp only [stgTransact, hpipe, if_true] at hr ⊢
    obtain ⟨-, -, hworld⟩ := stgTransactPipe_success (hev _) hr
    rw [hworld, pipeRead, log.sent_read, pipeWrite, log.sent_write, List.map_append, ih hreach,
      List.range_succ, List.map_append]
    simp [transactFrame]

/-- Reply correlation: whatever order a stamping server answers in, at every
operation {lit}`k` below {lit}`2 ^ 32` that a run reaches, a transaction that
succeeds was answered by a reply to request {lit}`k`, and its response carries
the request's {lit}`Hint`, so run's own check of the {lit}`Hint` passes too. -/
theorem runLoop_accepts_own_reply (hpipe : isPipeHandle handle = true)
    (log : ReplyLog (t.pipe (getPipeHandle handle)))
    (hev : ∀ s, ((t.pipe (getPipeHandle handle)).createEvent s).ok = false →
      ((t.pipe (getPipeHandle handle)).createEvent s).lastError ≠ errorSuccess)
    (h0 : log.sent st0.world = []) {k : Nat} (hk : k < 2 ^ 32) {st : LoopState σ}
    (h : runLoop (fun s req rsp b => stgTransact msgSize t s handle req rsp b p) c k st0 = .ok st)
    (hacc : (opTransact (fun s req rsp b => stgTransact msgSize t s handle req rsp b p) c k
      st).2.1 = errorSuccess) :
    log.answered
        (opTransact (fun s req rsp b => stgTransact msgSize t s handle req rsp b p) c k st).1 = k ∧
      (opTransact (fun s req rsp b => stgTransact msgSize t s handle req rsp b p) c k
        st).2.2.1.hint = (opRequest c k (opWork c k st)).hint := by
  have hsent := runLoop_sent hpipe log hev h0 h
  simp only [opTransact, stgTransact, hpipe, if_true] at hacc ⊢
  obtain ⟨hc, ⟨-, hhint⟩, -⟩ := stgTransactPipe_success (hev _) hacc
  rw [stgTransactPipe_of_completes hc] at hacc ⊢
  refine ⟨?_, by rw [decodeReply_of_success hacc]; exact hhint.symm⟩
  simp only [pipeRead] at hhint ⊢
  generalize hw : pipeWrite msgSize (t.pipe (getPipeHandle handle)) st.world
    (opRequest c k (opWork c k st)) _ p = w at hhint ⊢
  have hsw : log.sent w.1 = log.sent st.world ++ [opRequest c k (opWork c k st)] := by
    rw [← hw, pipeWrite, log.sent_write]
    rfl
  have hne : log.sent w.1 ≠ [] := by simp [hsw]
  have hmap :
      (log.sent w.1).map TransactReq.hint = (List.range (k + 1)).map (opHint c.threadId) := by
    rw [hsw, List.map_append, hsent, List.range_succ, List.map_append]
    simp
  have hlt := log.answered_lt w.1 (replyBufferLength msgSize p.maxTransferLength) hne
  have hlen : (log.sent w.1).length = k + 1 := by simpa using congrArg List.length hmap
  rw [log.stamped _ _ hne, hint_getD_of_map hmap (by omega), opRequest_hint] at hhint
  exact (opHint_inj hk (by omega) hhint).symm

end Correlation

/-- A server that answers each request at once with a good response echoing the
latest request it received. -/
def echoChannel : PipeChannel (List TransactReq) where
  createEvent _ := ⟨true, errorSuccess⟩
  memAlloc _ _ := true
  writeFile sent f := (sent ++ [f.req], IoCompletion.done f.length)
  readFile sent n := (sent, IoCompletion.done n,
    ⟨⟨(sent.getD (sent.length - 1) TransactReq.zero).hint,
      (sent.getD (sent.length - 1) TransactReq.zero).kind, scsistatGood⟩, fun _ => 0⟩)

/-- The echo server answers the latest request it received. -/
def echoLog : ReplyLog echoChannel where
  sent := id
  answered sent := sent.length - 1
  sent_write _ _ := rfl
  sent_read _ _ := rfl
  answered_lt _ _ h := Nat.sub_lt (List.length_pos.mpr h) Nat.one_pos
  stamped _ _ _ := rfl

/-- The echo server behind every pipe handle, and a raw volume that is never used. -/
def echoTransports : Transports (List TransactReq) :=
  ⟨fun _ => echoChannel, fun _ => ⟨fun _ => ⟨true, 0⟩, fun s _ _ _ => (s, IoCompletion.done 0),
    fun s _ _ => (s, IoCompletion.done 0, fun _ => 0)⟩, fun _ => ⟨true, 0⟩⟩

/-- The first operation of a run against the echo server, a Flush, succeeds and
accepts the reply to its own request. -/
theorem runLoop_accepts_own_reply_echo :
    let c : RunConfig := ⟨⟨⟨1, 512, 512⟩, false, false⟩, [spdIoctlTransactFlushKind], 7⟩
    let st0 : LoopState (List TransactReq) := ⟨[], fun _ => 0, ⟨0, 1, 1, 0, 0⟩, 0⟩
    let transact := fun s req rsp b => stgTransact 48 echoTransports s 0x101 req rsp b ⟨1, 512, 512⟩
    (opTransact transact c 0 st0).2.1 = errorSuccess ∧
      echoLog.answered (opTransact transact c 0 st0).1 = 0 ∧
      (opTransact transact c 0 st0).2.2.1.hint = (opRequest c 0 (opWork c 0 st0)).hint := by
  refine ⟨?_, runLoop_accepts_own_reply (t := echoTransports) ?_ echoLog
    (fun _ h => Bool.noConfusion h) ?_ ?_ (runLoop_zero _) ?_⟩ <;> decide

end StgPipe
end WinSpd
