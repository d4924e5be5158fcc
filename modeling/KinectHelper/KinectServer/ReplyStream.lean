import KinectHelper.KinectServer.Clients
import KinectHelper.Libevent.EvhttpResponse

namespace KinectHelper.Exchange

open Libevent KinectServer Transmission WireTransmission Clients

theorem plain_twoDigits (n : Nat) : Plain (twoDigits n) := by
  unfold twoDigits
  split
  · intro c hc
    rcases List.mem_cons.mp hc with rfl | hc
    · decide
    · exact plain_toDigits n c hc
  · exact plain_toDigits n

theorem plain_date (tm : Tm) : Plain tm.date := by
  have hday : Plain (dayName tm.wday) := by
    generalize tm.wday = wday
    revert wday
    decide
  have hmonth : Plain (monthName tm.mon) := by
    generalize tm.mon = mon
    revert mon
    decide
  have hcalendar := ((((hday.append (t := [',', ' ']) (by decide)).append
    (plain_twoDigits tm.mday)).append (t := [' ']) (by decide)).append hmonth).append (t := [' '])
    (by decide)
  have hhour := ((hcalendar.append (plain_toDigits tm.year)).append (t := [' ']) (by decide)).append
    (plain_twoDigits tm.hour)
  have hminute := ((hhour.append (t := [':']) (by decide)).append (plain_twoDigits tm.min)).append
    (t := [':']) (by decide)
  exact (hminute.append (plain_twoDigits tm.sec)).append (by decide)

theorem date_head (tm : Tm) : tm.date.head? ≠ some ' ' := by
  unfold Tm.date
  generalize tm.wday = wday
  match wday with
  | 0 | 1 | 2 | 3 | 4 | 5 | 6 => exact nofun

/-- What the server answers to every packet. -/
def okReply : Reply where
  major := 1
  minor := 1
  code := .ok
  headers := [("Content-Length".toList, ['0']),
    ("Content-Type".toList, "text/html; charset=ISO-8859-1".toList)]
  body := []

theorem answer_received (p : Packet) : (received p).answer = okReply := by
  unfold EvhttpRequest.answer
  rw [makeHeaderResponse_received]
  rfl

theorem datedHeaders_okReply (tm : Tm) :
    okReply.datedHeaders tm = ("Date".toList, tm.date)::okReply.headers := by
  have hdate : put [] "Date".toList tm.date = [("Date".toList, tm.date)] :=
    put_plain [] (by decide) (plain_date tm)
  change put (okReply.headers.take 0) _ _ ++ okReply.headers.drop 0 = _
  rw [List.take_zero, hdate]
  rfl

theorem delimited_okReply (tm : Tm) : Reading.Delimited okReply tm where
  version := ⟨rfl, rfl⟩
  headers := by
    rw [datedHeaders_okReply]
    intro e he
    simp only [okReply, List.mem_cons, List.not_mem_nil, or_false] at he
    rcases he with rfl | rfl | rfl
    · exact wellFormed_of (by decide) (plain_date tm) (date_head tm)
    · exact wellFormed_of (by decide) (by decide) (by decide)
    · exact wellFormed_of (by decide) (by decide) (by decide)
  encoding := by
    rw [datedHeaders_okReply]
    rfl
  length := by
    rw [datedHeaders_okReply]
    rfl

theorem isConnectionClose_okReply (tm : Tm) :
    isConnectionClose false (okReply.datedHeaders tm) = false := by
  rw [datedHeaders_okReply]
  rfl

/-- What has been written to a connection; `dates` holds the times of its replies. -/
def replyBytes (dates : ℕ → Tm) (replies : List Reply) : Block :=
  replies.zipIdx.flatMap fun e => e.1.wire (dates e.2)

def repliesIn (log : List Event) : List Reply :=
  log.filterMap fun
    | .request _ => none
    | .reply reply => some reply

theorem replyBytes_append (dates : ℕ → Tm) (replies more : List Reply) :
    replyBytes dates replies <+: replyBytes dates (replies ++ more) := by
  unfold replyBytes
  rw [List.zipIdx_append, List.flatMap_append]
  exact List.prefix_append _ _

theorem replyBytes_mono (dates : ℕ → Tm) {log more : List Event} (h : log <+: more) :
    replyBytes dates (repliesIn log) <+: replyBytes dates (repliesIn more) := by
  obtain ⟨rest, rfl⟩ := h
  unfold repliesIn
  rw [List.filterMap_append]
  exact replyBytes_append dates _ _

/-- The first replies to packets. -/
def replyStream (dates : ℕ → Tm) (n : ℕ) : Block := replyBytes dates (List.replicate n okReply)

theorem replyStream_succ (dates : ℕ → Tm) (n : ℕ) :
    replyStream dates (n + 1) = replyStream dates n ++ okReply.wire (dates n) := by
  unfold replyStream replyBytes
  rw [List.replicate_succ', List.zipIdx_append, List.flatMap_append, List.length_replicate]
  simp

theorem wire_ne_nil (tm : Tm) : okReply.wire tm ≠ [] := by
  intro hnil
  have hline : written okReply.statusLine = [] := by
    unfold Reply.wire at hnil
    simp only [List.append_eq_nil_iff] at hnil
    exact hnil.1.1.1
  simp [written] at hline

theorem replyStream_length (dates : ℕ → Tm) :
    StrictMono fun n => (replyStream dates n).length := by
  apply strictMono_nat_of_lt_succ
  intro n
  rw [replyStream_succ, List.length_append]
  have hpos := List.length_pos_iff.mpr (wire_ne_nil (dates n))
  omega

theorem le_of_replyStream {dates : ℕ → Tm} {n m : ℕ} {v : Block}
    (h : replyStream dates n ++ v <+: replyStream dates m) : n ≤ m := by
  have hlength := h.length_le
  rw [List.length_append] at hlength
  exact (replyStream_length dates).le_iff_le.mp (Nat.le_of_add_right_le hlength)

/-- What follows the replies read so far begins the next one. -/
theorem next_reply {dates : ℕ → Tm} {n m : ℕ} {v : Block} (hm : m ≤ n + 1) (hv : v ≠ [])
    (h : replyStream dates n ++ v <+: replyStream dates m) :
    m = n + 1 ∧ v <+: okReply.wire (dates n) := by
  have hlt : n < m := by
    apply lt_of_le_of_ne (le_of_replyStream h)
    intro heq
    subst heq
    have hlength := h.length_le
    rw [List.length_append] at hlength
    exact hv (List.length_eq_zero_iff.mp (by omega))
  obtain rfl : m = n + 1 := by omega
  rw [replyStream_succ] at h
  exact ⟨rfl, (List.prefix_append_right_inj _).mp h⟩

/-- A reply follows each request. -/
theorem dialogue_beginning {packets : List Packet} {log : List Event}
    (h : log <+: dialogue (packets.map received) none) :
    ∃ n ≤ packets.length, requestsSeen log = (packets.take n).map requestOf ∧
      ∃ r ≤ n, repliesIn log = List.replicate r okReply := by
  induction packets generalizing log with
  | nil =>
    obtain rfl := List.prefix_nil.mp h
    exact ⟨0, Nat.le_refl 0, rfl, 0, Nat.le_refl 0, rfl⟩
  | cons p packets ih =>
    have hcons : dialogue ((p::packets).map received) none =
        .request (received p)::.reply okReply::dialogue (packets.map received) none := by
      simp [dialogue, answer_received]
    rw [hcons] at h
    cases log with
    | nil => exact ⟨0, Nat.zero_le _, rfl, 0, Nat.le_refl 0, rfl⟩
    | cons event log =>
      obtain ⟨rfl, hlog⟩ := List.cons_prefix_cons.mp h
      clear h
      have hseen : ∀ more, requestsSeen (.request (received p)::more) =
          requestOf p::requestsSeen more := by
        intro more
        change requestSeen (received p)::requestsSeen more = _
        rw [requestSeen_received]
      rw [hseen]
      cases log with
      | nil => exact ⟨1, by simp, by simp [requestsSeen], 0, Nat.zero_le _, rfl⟩
      | cons event log =>
        obtain ⟨rfl, hrest⟩ := List.cons_prefix_cons.mp hlog
        obtain ⟨n, hn, hrequests, r, hr, hreplies⟩ := ih hrest
        refine ⟨n + 1, Nat.succ_le_succ hn, ?_, r + 1, Nat.succ_le_succ hr, ?_⟩
        · rw [List.take_succ_cons, List.map_cons, ← hrequests]
          rfl
        · rw [List.replicate_succ, ← hreplies]
          rfl

/-- What a connection has handled of the packets sent on it, and what it has answered. -/
theorem exists_replied {ι : Type*} [DecidableEq ι] {env : Environment}
    (huri : env.uriParse ['/'] = some false)
    {packets : ι → List Packet} (hpackets : ∀ i, ∀ p ∈ packets i, p.data.length < 2^31)
    {loop : Multiplexed ι Connection UInt8 Event}
    (hapart : loop.Apart (Connection.reader env) Connection.log .start)
    (harrived : ∀ i, loop.arrived i <+: (packets i).flatMap wire) (i : ι) :
    ∃ n ≤ (packets i).length,
      requestsSeen (loop.control i).log = ((packets i).take n).map requestOf ∧
      ∃ r ≤ n, repliesIn (loop.control i).log = List.replicate r okReply := by
  obtain ⟨N, hN, _, hlog, _⟩ := settle_dialogue huri (hpackets i) (harrived i)
  have hbeginning := (hapart.events grows_reader i).1
  rw [hlog, hapart.merged i] at hbeginning
  obtain ⟨n, hn, hrequests, hreplies⟩ := dialogue_beginning hbeginning
  rw [List.length_take, Nat.min_eq_left hN] at hn
  rw [List.take_take, Nat.min_eq_left hn] at hrequests
  exact ⟨n, hn.trans hN, hrequests, hreplies⟩

end KinectHelper.Exchange
