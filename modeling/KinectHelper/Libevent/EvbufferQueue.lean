import KinectHelper.Framework.Run
import KinectHelper.Libevent.EvbufferRead
import KinectHelper.Libevent.EvbufferSearch

namespace KinectHelper.Libevent.Evbuffer

/-- What is done to the input buffer of a connection. -/
inductive Operation where
  /-- `evbuffer_read`, with what the socket announces, what is asked for and what it has -/
  | read (readable howmuch : Int) (received : Block)
  | getLength
  | readln
  | copyout (datlen : Nat)
  | remove (datlen : Nat)
  | drain (len : Nat)
  /-- `evbuffer_remove_buffer` to the new buffer of a request, whose bytes are copied out of it -/
  | takeBody (datlen : Nat)

inductive Result where
  | count (n : Nat)
  | line (line : Option Block)
  | bytes (data : Block)
  | done
  deriving DecidableEq

def perform (p : Platform) (b : Evbuffer) : Operation → Option (Evbuffer × Result)
  | .read readable howmuch received =>
      (b.read p readable howmuch received).map fun r => (r.1, .count r.2)
  | .getLength => some (b, .count b.totalLen)
  | .readln => b.readln.map fun r => (r.2, .line r.1)
  | .copyout datlen => (b.copyout datlen).map fun data => (b, .bytes data)
  | .remove datlen => (b.remove datlen).map fun r => (r.2, .bytes r.1)
  | .drain len => (b.drain len).map fun b => (b, .done)
  | .takeBody datlen => do
      let (b, body, _) ← b.removeBuffer p new datlen
      let data ← body.copyout body.totalLen
      some (b, .bytes data)

/-- The same on the bytes alone: what an operation may return, and what is left. -/
def QueueStep (p : Platform) (q : Block) : Operation → Result → Block → Prop
  | .read readable howmuch received, .count n, q' =>
      q' = q ++ received.take n ∧ ReadCount p (readSize readable howmuch) received n
  | .getLength, .count n, q' => n = q.length ∧ q' = q
  | .readln, .line line, q' =>
      line = (Libevent.readln q).map Prod.fst ∧ q' = ((Libevent.readln q).map Prod.snd).getD q
  | .copyout datlen, .bytes data, q' => data = q.take datlen ∧ q' = q
  | .remove datlen, .bytes data, q' => data = q.take datlen ∧ q' = q.drop datlen
  | .drain len, .done, q' => q' = q.drop len
  | .takeBody datlen, .bytes data, q' => data = q.take datlen ∧ q' = q.drop datlen
  | _, _, _ => False

/-- A queue, empty at first, gives these results. -/
inductive Replays (p : Platform) : List (Operation × Result) → Block → Prop where
  | nil : Replays p [] []
  | snoc {log : List (Operation × Result)} {q q' : Block} {op : Operation} {r : Result}
      (before : Replays p log q) (last : QueueStep p q op r q') : Replays p (log ++ [(op, r)]) q'

/-- A buffer, and what has been done with it. -/
structure Session where
  buffer : Evbuffer
  log : List (Operation × Result)

def Session.start : Session := ⟨new, []⟩

def Session.step (p : Platform) (s : Session) (op : Operation) : Option Session :=
  (s.buffer.perform p op).map fun r => ⟨r.1, s.log ++ [(op, r.2)]⟩

variable (p : Platform)

/-- Every operation goes through, and does to the bytes what it does to a queue. -/
theorem perform_spec {b : Evbuffer} (h : WellFormed b) (op : Operation) :
    ∃ b' r, b.perform p op = some (b', r) ∧ WellFormed b' ∧ QueueStep p b.bytes op r b'.bytes := by
  cases op with
  | read readable howmuch received =>
    obtain ⟨b', count, hread, hwell, hbytes, hcount⟩ := read_spec p h readable howmuch received
    exact ⟨b', .count count, by rw [perform, hread, Option.map_some], hwell, hbytes, hcount⟩
  | getLength =>
    obtain ⟨full, empties, hlaid⟩ := h
    exact ⟨b, .count b.totalLen, rfl, ⟨full, empties, hlaid⟩, hlaid.totalLen, rfl⟩
  | readln =>
    obtain ⟨b', hread, hwell, hbytes⟩ := readln_spec h
    exact ⟨b', .line _, by rw [perform, hread, Option.map_some], hwell, rfl, hbytes⟩
  | copyout datlen =>
    exact ⟨b, .bytes _, by rw [perform, copyout_spec h, Option.map_some], h, rfl, rfl⟩
  | remove datlen =>
    obtain ⟨b', hremove, hwell, hbytes⟩ := remove_spec h datlen
    exact ⟨b', .bytes _, by rw [perform, hremove, Option.map_some], hwell, rfl, hbytes⟩
  | drain len =>
    obtain ⟨b', hdrain, hwell, hbytes⟩ := drain_spec h len
    exact ⟨b', .done, by rw [perform, hdrain, Option.map_some], hwell, hbytes⟩
  | takeBody datlen =>
    obtain ⟨b', body, hmove, hwell, hbytes, hbody, hdata⟩ := removeBuffer_spec p h datlen
    have htotal : body.totalLen = body.bytes.length := by
      obtain ⟨full, empties, hlaid⟩ := hbody
      exact hlaid.totalLen
    refine ⟨b', .bytes (b.bytes.take datlen), ?_, hwell, rfl, hbytes⟩
    rw [perform, hmove]
    simp only [bind, Option.bind_some, copyout_spec hbody, htotal, List.take_length, hdata]

theorem step_spec {s : Session} (op : Operation)
    (h : WellFormed s.buffer ∧ Replays p s.log s.buffer.bytes) :
    ∃ s', s.step p op = some s' ∧ s'.log.map Prod.fst = s.log.map Prod.fst ++ [op] ∧
      WellFormed s'.buffer ∧ Replays p s'.log s'.buffer.bytes := by
  obtain ⟨hwell, hlog⟩ := h
  obtain ⟨b', r, hperform, hwell', hqueue⟩ := perform_spec p hwell op
  refine ⟨⟨b', s.log ++ [(op, r)]⟩, ?_, ?_, hwell', hlog.snoc hqueue⟩
  · rw [Session.step, hperform, Option.map_some]
  · rw [List.map_append]
    rfl

theorem run_spec (ops : List Operation) {s : Session}
    (h : WellFormed s.buffer ∧ Replays p s.log s.buffer.bytes) :
    ∃ t, exec (Session.step p) s ops = some t ∧ t.log.map Prod.fst = s.log.map Prod.fst ++ ops ∧
      WellFormed t.buffer ∧ Replays p t.log t.buffer.bytes := by
  induction ops generalizing s with
  | nil => exact ⟨s, rfl, (List.append_nil _).symm, h⟩
  | cons op ops ih =>
    obtain ⟨u, hstep, hlog, hu⟩ := step_spec p op h
    obtain ⟨t, hrun, hlog', ht⟩ := ih hu
    refine ⟨t, ?_, ?_, ht⟩
    · rw [exec_cons, hstep, Option.bind_some, hrun]
    · rw [hlog', hlog, List.append_assoc]
      rfl

/-- In every run of operations on a new buffer no assertion fails and no memory outside a chain or
behind a missing one is used; what the operations return is what a queue of bytes returns, whatever
chains the bytes are in, and the chains stay valid. -/
theorem evbuffer_is_queue (ops : List Operation) :
    ∃ s, exec (Session.step p) Session.start ops = some s ∧ s.log.map Prod.fst = ops ∧
      Replays p s.log s.buffer.bytes ∧ Valid s.buffer := by
  obtain ⟨s, hrun, hlog, ⟨full, empties, hlaid⟩, hreplays⟩ := run_spec p ops (s := Session.start)
    ⟨⟨[], [], laid_new⟩, .nil⟩
  exact ⟨s, hrun, hlog, hreplays, hlaid.valid⟩

theorem linux64_chainSize_lt : 48 < 1024 := by decide

theorem linux64_vecs_pos : 0 < 4 := by decide

/-- Linux on a 64-bit machine, with memory that is zero at first. -/
def linux64 : Platform where
  chainSize := 48
  minBufferSize := 1024
  chainSize_lt := linux64_chainSize_lt
  vecs := 4
  vecs_pos := linux64_vecs_pos
  memory := zeros
  memory_length := zeros_length

/-- A line that fills one chain and ends in the next one, and two bytes of the body behind it. -/
def longLine : List Operation :=
  [.read 976 4096 (List.replicate 976 80), .read 6 4096 [81, 13, 10, 1, 2, 3], .readln, .takeBody 2,
    .getLength]

theorem line_over_two_chains :
    (exec (Session.step linux64) Session.start (longLine.take 2)).map
        (fun s => s.buffer.chains.map Chain.off) = some [976, 6] ∧
      ∃ s, exec (Session.step linux64) Session.start longLine = some s ∧
        s.log.map Prod.snd = [.count 976, .count 6, .line (some (List.replicate 976 80 ++ [81])),
          .bytes [1, 2], .count 1] ∧
        Replays linux64 s.log s.buffer.bytes ∧ Valid s.buffer := by
  refine ⟨by decide +kernel, ?_⟩
  obtain ⟨s, hrun, _, hreplays, hvalid⟩ := evbuffer_is_queue linux64 longLine
  refine ⟨s, hrun, ?_, hreplays, hvalid⟩
  have hlog : (exec (Session.step linux64) Session.start longLine).map
      (fun s => s.log.map Prod.snd) = some [.count 976, .count 6,
        .line (some (List.replicate 976 80 ++ [81])), .bytes [1, 2], .count 1] := by
    decide +kernel
  rw [hrun] at hlog
  exact Option.some.inj hlog

end KinectHelper.Libevent.Evbuffer
