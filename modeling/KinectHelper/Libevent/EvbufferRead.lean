import KinectHelper.Libevent.EvbufferMoves

namespace KinectHelper.Libevent.Evbuffer

/-- The loop of `_evbuffer_expand_fast`: the chains from `*last_with_datap` on, and, unless they
have enough space, the space of those it looked at and their number. -/
def findSpace (datlen n : Nat) (atLastWithData : Bool) :
    List Chain → Nat → Nat → Option (List Chain × Option (Nat × Nat))
  | [], avail, used => some ([], some (avail, used))
  | c::cs, avail, used =>
      if c.off ≠ 0 ∧ !atLastWithData then none
      else
        let c := if c.off = 0 then c.resetMisalign else c
        let avail := avail + c.spaceLen
        let used := if c.off ≠ 0 ∧ c.spaceLen = 0 then used else used + 1
        if datlen ≤ avail then some (c::cs, none)
        else if used = n then some (c::cs, some (avail, used))
        else (findSpace datlen n false cs avail used).map fun r => (c::r.1, r.2)

/-- `_evbuffer_expand_fast` -/
def expandFast (p : Platform) (b : Evbuffer) (datlen n : Nat) : Option Evbuffer :=
  match b.last with
  | none => b.chainInsert (p.chainNew datlen)
  | some last => do
      let (cs, space) ← findSpace datlen n true (b.chains.drop b.lastWithData) 0 0
      let b := { b with chains := b.chains.take b.lastWithData ++ cs }
      match space with
      | none => some b
      | some (avail, used) =>
          if used < n then
            some { b with
              chains := b.chains.take (last + 1) ++ [p.chainNew (datlen - avail)]
              last := some (last + 1) }
          else
            let chain ← b.chains[b.lastWithData]?
            if chain.off = 0 then
              if b.lastWithData = 0 ∧ chainsAllEmpty b.chains then
                some { b with chains := [p.chainNew datlen], last := some 0 }
              else none
            else if chainsAllEmpty (b.chains.drop (b.lastWithData + 1)) then
              some { b with
                chains := b.chains.take (b.lastWithData + 1) ++
                  [p.chainNew (datlen - chain.spaceLen)]
                last := some (b.lastWithData + 1) }
            else none

/-- `firstchainp` of `_evbuffer_read_setup_vecs`. -/
def firstWithSpace (b : Evbuffer) : Option Nat :=
  b.chains[b.lastWithData]?.map fun c =>
    if c.spaceLen = 0 then b.lastWithData + 1 else b.lastWithData

/-- The lengths of the vectors that `_evbuffer_read_setup_vecs` makes of some chains. -/
def setupVecs (howmuch : Nat) : Nat → List Chain → Nat → Option (List Nat)
  | 0, _, _ => some []
  | n+1, cs, soFar =>
      if soFar < howmuch then
        match cs with
        | [] => none
        | c::cs =>
            let avail := min c.spaceLen (howmuch - soFar)
            (setupVecs howmuch n cs (soFar + avail)).map (avail :: ·)
      else some []

/-- `readv`, or `WSARecv`, with the bytes that it delivers. -/
def readv : List Chain → List Nat → Block → Option (List Chain)
  | cs, [], _ => some cs
  | [], _::_, _ => none
  | c::cs, len::lens, bytes => do
      let c ← c.store (bytes.take len)
      let cs ← readv cs lens (bytes.drop len)
      some (c::cs)

/-- The loop of `evbuffer_read` after the bytes have come: the chains, and where the last of the
bytes is. -/
def commit : Nat → List Chain → Nat → Option (List Chain × Option Nat)
  | 0, cs, _ => some (cs, none)
  | _+1, [], _ => none
  | n+1, c::cs, remaining =>
      if c.spaceLen < remaining then do
        let c' ← c.grow c.spaceLen
        let (cs, last) ← commit n cs (remaining - c.spaceLen)
        some (c'::cs, last.map (· + 1))
      else do
        let c ← c.grow remaining
        some (c::cs, some 0)

/-- `howmuch` of `evbuffer_read`, with what `get_n_bytes_readable_on_socket` returns. -/
def readSize (readable howmuch : Int) : Nat :=
  let n := if readable ≤ 0 ∨ readable > 4096 then 4096 else readable
  (if howmuch < 0 ∨ howmuch > n then n else howmuch).toNat

/-- `evbuffer_read` from a socket that has the received bytes: the buffer, and the result. -/
def read (p : Platform) (b : Evbuffer) (readable howmuch : Int) (received : Block) :
    Option (Evbuffer × Nat) := do
  let howmuch := readSize readable howmuch
  let b ← b.expandFast p howmuch 4
  let first ← b.firstWithSpace
  let lens ← setupVecs howmuch p.vecs (b.chains.drop first) 0
  let bytes := received.take lens.sum
  let cs ← readv (b.chains.drop first) lens bytes
  if bytes = [] then some (b, 0)
  else
    let (cs, last) ← commit lens.length cs bytes.length
    some ({ b with
        chains := b.chains.take first ++ cs
        lastWithData := (last.map (first + ·)).getD b.lastWithData
        totalLen := b.totalLen + bytes.length }, bytes.length)

variable {p : Platform} {b : Evbuffer} {full empties : List Chain} {n : Nat}

def spaceOf (cs : List Chain) : Nat := (cs.map Chain.spaceLen).sum

@[simp] theorem spaceOf_nil : spaceOf [] = 0 := rfl

@[simp] theorem spaceOf_cons (c : Chain) (cs : List Chain) :
    spaceOf (c::cs) = c.spaceLen + spaceOf cs := List.sum_cons

@[simp] theorem spaceOf_append (cs ds : List Chain) :
    spaceOf (cs ++ ds) = spaceOf cs + spaceOf ds := by
  rw [spaceOf, List.map_append, List.sum_append]
  rfl

/-- What the loop of `_evbuffer_expand_fast` has found in some chains. -/
def Found (datlen n : Nat) (cs : List Chain) (avail used : Nat) : Option (Nat × Nat) → Prop
  | none => ∃ k, used + k ≤ n ∧ datlen ≤ avail + spaceOf (cs.take k)
  | some (avail', used') => used' < n → used' = used + cs.length ∧ avail' = avail + spaceOf cs

theorem findSpace_empties (datlen : Nat) {cs : List Chain}
    (h : ∀ c ∈ cs, c.off = 0 ∧ c.misalign = 0) (at_last : Bool) (avail : Nat) {used : Nat}
    (hused : used < n) :
    ∃ r, findSpace datlen n at_last cs avail used = some (cs, r) ∧
      Found datlen n cs avail used r := by
  induction cs generalizing at_last avail used with
  | nil =>
    refine ⟨some (avail, used), rfl, ?_⟩
    intro _
    exact ⟨rfl, rfl⟩
  | cons c cs ih =>
    obtain ⟨hoff, hmisalign⟩ := h c List.mem_cons_self
    have hreset : (if c.off = 0 then c.resetMisalign else c) = c := by
      rw [if_pos hoff, Chain.resetMisalign_self hmisalign]
    have hempty : ¬ (c.off ≠ 0 ∧ (!at_last) = true) := fun hboth => hboth.1 hoff
    have hcount : ¬ (c.off ≠ 0 ∧ c.spaceLen = 0) := fun hboth => hboth.1 hoff
    unfold findSpace
    simp only [if_neg hempty, hreset, if_neg hcount]
    split_ifs with henough hlimit
    · refine ⟨none, rfl, 1, hused, ?_⟩
      simpa using henough
    · refine ⟨some _, rfl, ?_⟩
      intro hlt
      omega
    · have hnext : used + 1 < n := by omega
      obtain ⟨r, heq, hr⟩ := ih (fun d hd => h d (List.mem_cons_of_mem c hd)) false
        (avail + c.spaceLen) hnext
      refine ⟨r, by rw [heq]; rfl, ?_⟩
      cases r with
      | none =>
        obtain ⟨k, hk, hspace⟩ := hr
        refine ⟨k + 1, by omega, ?_⟩
        rw [List.take_succ_cons, spaceOf_cons]
        omega
      | some r =>
        intro hlt
        obtain ⟨hlength, havail⟩ := hr hlt
        rw [List.length_cons, spaceOf_cons]
        omega

/-- The last chain with data, when there is space in it. -/
def openChain (full : List Chain) : List Chain :=
  (full.getLast?.filter fun c => decide (c.spaceLen ≠ 0)).toList

theorem openChain_concat (init : List Chain) (c : Chain) :
    openChain (init ++ [c]) = if c.spaceLen = 0 then [] else [c] := by
  unfold openChain
  rw [List.getLast?_concat]
  split_ifs with h <;> simp [h]

theorem Laid.drop_eq {init : List Chain} {c : Chain} (h : Laid b (init ++ [c]) empties) :
    b.chains.drop b.lastWithData = c::empties := by
  rw [h.chains, h.lastWithData, List.length_append, List.append_assoc]
  exact List.drop_left

theorem findSpace_spec (datlen : Nat) (h : Laid b full empties) (hn : 0 < n) :
    ∃ r, findSpace datlen n true (b.chains.drop b.lastWithData) 0 0 =
        some (b.chains.drop b.lastWithData, r) ∧
      Found datlen n (openChain full ++ empties) 0 0 r := by
  have hempties : ∀ c ∈ empties, c.off = 0 ∧ c.misalign = 0 := fun c hc =>
    ⟨(h.isEmpty c hc).1, (h.isEmpty c hc).2.1⟩
  rcases List.eq_nil_or_concat' full with rfl | ⟨init, c, rfl⟩
  · rw [h.lastWithData, h.chains]
    exact findSpace_empties datlen hempties true 0 hn
  have hoff : c.off ≠ 0 := h.hasData c (List.mem_append_right init List.mem_cons_self)
  have hlast : ¬ (c.off ≠ 0 ∧ (!true) = true) := fun hboth => Bool.false_ne_true hboth.2
  rw [h.drop_eq, openChain_concat]
  unfold findSpace
  simp only [if_neg hlast, if_neg hoff, Nat.zero_add]
  by_cases hspace : c.spaceLen = 0
  · have hused : (if c.off ≠ 0 ∧ c.spaceLen = 0 then 0 else 1) = 0 := if_pos ⟨hoff, hspace⟩
    rw [hused, if_pos hspace, hspace, List.nil_append, if_neg hn.ne]
    split_ifs with henough
    · exact ⟨none, rfl, 0, Nat.zero_le n, henough⟩
    · obtain ⟨r, heq, hr⟩ := findSpace_empties datlen hempties false 0 hn
      exact ⟨r, by rw [heq]; rfl, hr⟩
  · have hused : (if c.off ≠ 0 ∧ c.spaceLen = 0 then 0 else 1) = 1 :=
      if_neg fun hboth => hspace hboth.2
    rw [hused, if_neg hspace]
    split_ifs with henough hlimit
    · refine ⟨none, rfl, 1, by omega, ?_⟩
      simpa using henough
    · refine ⟨some _, rfl, ?_⟩
      intro hlt
      omega
    · have hone : 1 < n := by omega
      obtain ⟨r, heq, hr⟩ := findSpace_empties datlen hempties false c.spaceLen hone
      refine ⟨r, by rw [heq]; rfl, ?_⟩
      cases r with
      | none =>
        obtain ⟨k, hk, henough⟩ := hr
        refine ⟨k + 1, by omega, ?_⟩
        rw [List.cons_append, List.nil_append, List.take_succ_cons, spaceOf_cons]
        omega
      | some r =>
        intro hlt
        obtain ⟨hlength, havail⟩ := hr hlt
        rw [List.cons_append, List.nil_append, List.length_cons, spaceOf_cons]
        omega

/-- There are chains, and some of the first `n` with space have room for `datlen` bytes. -/
structure Room (b : Evbuffer) (full empties : List Chain) (datlen n : Nat) : Prop where
  laid : Laid b full empties
  ne_nil : b.chains ≠ []
  enough : ∃ k ≤ n, datlen ≤ spaceOf ((openChain full ++ empties).take k)

/-- Another list of empty chains at the end. -/
theorem Laid.withEmpties (h : Laid b full empties) {b' : Evbuffer} {empties' : List Chain}
    (hchains : b'.chains = full ++ empties')
    (hempties : ∀ c ∈ empties', c.off = 0 ∧ c.misalign = 0 ∧ 0 < c.buffer.length)
    (hlast : b'.last = some ((full ++ empties').length - 1)) (hne : full ++ empties' ≠ [])
    (hlwd : b'.lastWithData = b.lastWithData) (htotal : b'.totalLen = b.totalLen) :
    Laid b' full empties' := by
  refine ⟨hchains, h.hasData, hempties, ?_, hlwd.trans h.lastWithData, ?_⟩
  · rw [hchains, if_neg hne, hlast]
  · rw [htotal, h.totalLen, h.bytes_eq, bytes, hchains, dataOf_append,
      dataOf_empties fun c hc => (hempties c hc).1, List.append_nil]

theorem chainNew_empty (p : Platform) (size : Nat) : (p.chainNew size).off = 0 ∧
    (p.chainNew size).misalign = 0 ∧ 0 < (p.chainNew size).buffer.length :=
  ⟨rfl, rfl, (p.chainNew_room size).2⟩

/-- Room that ends with a new chain. -/
theorem Room.ofNew {b' : Evbuffer} {cs : List Chain} {datlen size : Nat}
    (h : Laid b full empties) (hchains : b'.chains = full ++ (cs ++ [p.chainNew size]))
    (hcs : ∀ c ∈ cs, c.off = 0 ∧ c.misalign = 0 ∧ 0 < c.buffer.length)
    (hlast : b'.last = some (full ++ cs).length) (hlwd : b'.lastWithData = b.lastWithData)
    (htotal : b'.totalLen = b.totalLen) (hcount : (openChain full ++ cs).length < n)
    (hsize : datlen ≤ spaceOf (openChain full ++ cs) + size) :
    Room b' full (cs ++ [p.chainNew size]) datlen n := by
  have hnew := p.chainNew_space size
  have hlaid : Laid b' full (cs ++ [p.chainNew size]) := by
    refine h.withEmpties hchains ?_ ?_ (by simp) hlwd htotal
    · intro c hc
      rcases List.mem_append.mp hc with hc | hc
      · exact hcs c hc
      · exact List.mem_singleton.mp hc ▸ chainNew_empty p size
    · have hlength : (full ++ cs ++ [p.chainNew size]).length - 1 = (full ++ cs).length := by
        rw [List.length_append]
        rfl
      rw [hlast, ← List.append_assoc, hlength]
  refine ⟨hlaid, by rw [hchains]; simp, n, le_rfl, ?_⟩
  rw [← List.append_assoc, List.take_of_length_le]
  · rw [spaceOf_append, spaceOf_cons, spaceOf_nil]
    omega
  · rw [List.length_append]
    exact hcount

theorem expandFast_spec (p : Platform) (datlen : Nat) (h : Laid b full empties) (hn : 2 ≤ n) :
    ∃ b' empties', b.expandFast p datlen n = some b' ∧ Room b' full empties' datlen n := by
  by_cases hnil : b.chains = []
  · have hempty := hnil
    rw [h.chains, List.append_eq_nil_iff] at hempty
    obtain ⟨rfl, rfl⟩ := hempty
    refine ⟨⟨[p.chainNew datlen], some 0, 0, b.totalLen⟩, [] ++ [p.chainNew datlen], ?_, ?_⟩
    · rw [expandFast, h.last, if_pos hnil]
      exact chainInsert_first _ hnil h.lastWithData
    · exact Room.ofNew h rfl (fun _ hc => absurd hc List.not_mem_nil) rfl h.lastWithData.symm rfl
        (by simp [openChain]; omega) (Nat.le_add_left _ _)
  obtain ⟨r, hfind, hfound⟩ := findSpace_spec datlen h (n := n) (by omega)
  have hlast : b.last = some (b.chains.length - 1) := by rw [h.last, if_neg hnil]
  have hpos := List.length_pos_iff.mpr hnil
  have hopen : (openChain full).length ≤ 1 := by
    unfold openChain
    cases full.getLast?.filter fun c => decide (c.spaceLen ≠ 0) <;> simp
  unfold expandFast
  rw [hlast]
  simp only [bind, hfind, Option.bind_some, List.take_append_drop]
  cases r with
  | none =>
    obtain ⟨k, hk, henough⟩ := hfound
    rw [Nat.zero_add] at hk henough
    refine ⟨b, empties, ?_, h, hnil, k, hk, henough⟩
    rw [← hlast]
  | some r =>
    obtain ⟨avail, used⟩ := r
    dsimp only
    by_cases hused : used < n
    · obtain ⟨hcount, havail⟩ := hfound hused
      have htake : b.chains.take (b.chains.length - 1 + 1) = b.chains :=
        List.take_of_length_le (by omega)
      refine ⟨_, empties ++ [p.chainNew (datlen - avail)], if_pos hused, ?_⟩
      refine Room.ofNew h ?_ h.isEmpty ?_ rfl rfl (by omega) (by omega)
      · change b.chains.take (b.chains.length - 1 + 1) ++ _ = _
        rw [htake, h.chains, List.append_assoc]
      · rw [← h.chains]
        change some (b.chains.length - 1 + 1) = _
        congr 1
        omega
    · -- the chains without data are replaced by one that is large enough
      rw [if_neg hused]
      have hno : ∀ c ∈ ([] : List Chain), c.off = 0 ∧ c.misalign = 0 ∧ 0 < c.buffer.length :=
        fun _ hc => absurd hc List.not_mem_nil
      have hcount : (openChain full ++ []).length < n := by
        rw [List.append_nil]
        omega
      rcases h.lastWithData_chain with ⟨rfl, hget⟩ | ⟨init, c, rfl, hplace, hget⟩
      · obtain ⟨c, cs, rfl⟩ : ∃ c cs, empties = c::cs := by
          apply List.exists_cons_of_ne_nil
          rw [h.chains, List.nil_append] at hnil
          exact hnil
        have hempty : chainsAllEmpty b.chains := by
          rw [h.chains]
          exact List.all_eq_true.mpr fun d hd => decide_eq_true (h.isEmpty d hd).1
        rw [hget]
        simp only [List.head?_cons, Option.bind_some, (h.isEmpty c List.mem_cons_self).1, if_true]
        refine ⟨_, [] ++ [p.chainNew datlen], if_pos ⟨h.lastWithData, hempty⟩, ?_⟩
        exact Room.ofNew h rfl hno rfl rfl rfl hcount (Nat.le_add_left _ _)
      · have hoff : c.off ≠ 0 := h.hasData c (List.mem_append_right init List.mem_cons_self)
        have hempty : chainsAllEmpty (b.chains.drop (b.lastWithData + 1)) :=
          List.all_eq_true.mpr fun d hd => decide_eq_true (h.drop_lastWithData d hd)
        have htake : b.chains.take (b.lastWithData + 1) = init ++ [c] := by
          have hlength : b.lastWithData + 1 = (init ++ [c]).length := by
            rw [hplace, List.length_append]
            rfl
          rw [hlength, h.chains, List.take_left]
        rw [hget]
        simp only [Option.bind_some, if_neg hoff, if_pos hempty, htake]
        refine ⟨_, [] ++ [p.chainNew (datlen - c.spaceLen)], rfl, ?_⟩
        refine Room.ofNew h rfl hno ?_ rfl rfl hcount ?_
        · rw [List.append_nil, List.length_append, hplace]
          rfl
        · rw [List.append_nil, openChain_concat]
          split_ifs <;> simp <;> omega

/-- The vectors hold no more than is wanted, all of it when there are enough of them, and something
in any case. -/
theorem setupVecs_spec {howmuch m k soFar : Nat} {cs : List Chain}
    (h : howmuch ≤ soFar + spaceOf (cs.take k)) :
    ∃ lens, setupVecs howmuch m cs soFar = some lens ∧ lens.sum ≤ howmuch - soFar ∧
      (k ≤ m → lens.sum = howmuch - soFar) ∧
      (0 < m → soFar < howmuch → (∀ c ∈ cs, 0 < c.spaceLen) → 0 < lens.sum) := by
  induction m generalizing k soFar cs with
  | zero =>
    refine ⟨[], rfl, Nat.zero_le _, ?_, fun hm => absurd hm (Nat.lt_irrefl 0)⟩
    intro hk
    rw [Nat.le_zero.mp hk, List.take_zero, spaceOf_nil] at h
    rw [List.sum_nil]
    omega
  | succ m ih =>
    unfold setupVecs
    split_ifs with hmore
    · cases cs with
      | nil =>
        rw [List.take_nil, spaceOf_nil] at h
        omega
      | cons c cs =>
        cases k with
        | zero =>
          rw [List.take_zero, spaceOf_nil] at h
          omega
        | succ k =>
          rw [List.take_succ_cons, spaceOf_cons] at h
          have hnext : howmuch ≤
              soFar + min c.spaceLen (howmuch - soFar) + spaceOf (cs.take k) := by omega
          obtain ⟨lens, heq, hle, hall, _⟩ := ih hnext
          refine ⟨min c.spaceLen (howmuch - soFar)::lens, ?_, ?_, ?_, ?_⟩
          · simp only [heq, Option.map_some]
          · rw [List.sum_cons]
            omega
          · intro hk
            rw [List.sum_cons, hall (by omega)]
            omega
          · intro _ _ hspace
            have := hspace c List.mem_cons_self
            rw [List.sum_cons]
            omega
    · refine ⟨[], rfl, Nat.zero_le _, ?_, fun _ hlt => absurd hlt hmore⟩
      intro _
      rw [List.sum_nil]
      omega

theorem readv_nil {cs : List Chain} {lens : List Nat} (h : lens.length ≤ cs.length) :
    readv cs lens [] = some cs := by
  induction lens generalizing cs with
  | nil => cases cs <;> rfl
  | cons len lens ih =>
    cases cs with
    | nil => exact absurd h (Nat.not_succ_le_zero _)
    | cons c cs =>
      rw [readv, List.take_nil, List.drop_nil, Chain.store_nil, ih (Nat.le_of_succ_le_succ h)]
      rfl

theorem setupVecs_length {howmuch m soFar : Nat} {cs : List Chain} {lens : List Nat}
    (h : setupVecs howmuch m cs soFar = some lens) : lens.length ≤ cs.length := by
  induction m generalizing soFar cs lens with
  | zero =>
    cases h
    exact Nat.zero_le _
  | succ m ih =>
    unfold setupVecs at h
    split_ifs at h with hmore
    · cases cs with
      | nil => cases h
      | cons c cs =>
        obtain ⟨lens', heq, rfl⟩ := Option.map_eq_some_iff.mp h
        exact Nat.succ_le_succ (ih heq)
    · cases h
      exact Nat.zero_le _

/-- The chains up to the one that the last byte goes to have got all the bytes. -/
theorem readv_commit {howmuch m soFar : Nat} {cs : List Chain} {lens : List Nat} {bytes : Block}
    (hlens : setupVecs howmuch m cs soFar = some lens) (hpos : 0 < bytes.length)
    (hle : bytes.length ≤ lens.sum) (hspace : ∀ c ∈ cs, 0 < c.spaceLen)
    (hempty : ∀ c ∈ cs.tail, c.off = 0) :
    ∃ cs' filled k, readv cs lens bytes = some cs' ∧
      commit lens.length cs' bytes.length = some (filled ++ cs.drop (k + 1), some k) ∧
      filled.length = k + 1 ∧ k < cs.length ∧ (∀ c ∈ filled, c.off ≠ 0) ∧
      dataOf filled = dataOf cs ++ bytes := by
  induction m generalizing soFar cs lens bytes with
  | zero =>
    cases hlens
    rw [List.sum_nil] at hle
    omega
  | succ m ih =>
    unfold setupVecs at hlens
    split_ifs at hlens with hmore
    swap
    · cases hlens
      rw [List.sum_nil] at hle
      omega
    cases cs with
    | nil => cases hlens
    | cons c cs =>
      obtain ⟨lens', hlens', rfl⟩ := Option.map_eq_some_iff.mp hlens
      generalize hlen : min c.spaceLen (howmuch - soFar) = len at *
      rw [List.tail_cons] at hempty
      have hcs : dataOf cs = [] := dataOf_empties hempty
      have hroom : (bytes.take len).length ≤ c.spaceLen := by
        rw [List.length_take]
        omega
      obtain ⟨c₁, c₂, hstore, hsame, hgrow, hdata⟩ := Chain.store_grow hroom
      have hoff : 0 < (bytes.take len).length → c₂.off ≠ 0 := by
        intro htake
        rw [← c₂.data_length, hdata, List.length_append]
        omega
      by_cases hlast : bytes.length ≤ len
      · have htake : bytes.take len = bytes := List.take_of_length_le hlast
        rw [htake] at hdata hstore hgrow hoff
        refine ⟨c₁::cs, [c₂], 0, ?_, ?_, rfl, Nat.succ_pos _, ?_, ?_⟩
        · rw [readv, htake, hstore, List.drop_eq_nil_of_le hlast]
          simp only [bind, Option.bind_some, readv_nil (setupVecs_length hlens')]
        · have hnot : ¬ c₁.spaceLen < bytes.length := by omega
          rw [List.length_cons, commit, if_neg hnot]
          simp only [bind, hgrow, Option.bind_some]
          rfl
        · intro d hd
          rw [List.mem_singleton.mp hd]
          exact hoff hpos
        · rw [dataOf_cons, dataOf_nil, List.append_nil, hdata, dataOf_cons, hcs, List.append_nil]
      · rw [List.sum_cons] at hle
        have hlength : (bytes.take len).length = len := by
          rw [List.length_take]
          omega
        have hdrop : (bytes.drop len).length = bytes.length - len := List.length_drop
        -- a vector shorter than the space of its chain is the last one
        have hfull : len = c.spaceLen := by
          by_contra hne
          have hdone : ¬ soFar + len < howmuch := by omega
          cases m with
          | zero =>
            cases hlens'
            rw [List.sum_nil] at hle
            omega
          | succ m =>
            unfold setupVecs at hlens'
            rw [if_neg hdone] at hlens'
            cases hlens'
            rw [List.sum_nil] at hle
            omega
        have hmore' : 0 < (bytes.drop len).length := by omega
        obtain ⟨cs', filled, k, hread, hcommit, hcount, hk, hfilled, hbytes⟩ := ih hlens' hmore'
          (by omega) (fun d hd => hspace d (List.mem_cons_of_mem c hd))
          (fun d hd => hempty d (List.mem_of_mem_tail hd))
        refine ⟨c₁::cs', c₂::filled, k + 1, ?_, ?_, ?_, ?_, ?_, ?_⟩
        · rw [readv, hstore]
          simp only [bind, Option.bind_some, hread]
        · have hover : c₁.spaceLen < bytes.length := by omega
          rw [hlength, hfull, ← hsame] at hgrow
          rw [hdrop, hfull, ← hsame] at hcommit
          rw [List.length_cons, commit, if_pos hover]
          simp only [bind, hgrow, hcommit, Option.bind_some, Option.map_some]
          rfl
        · rw [List.length_cons, hcount]
        · exact Nat.succ_lt_succ hk
        · intro d hd
          rcases List.mem_cons.mp hd with rfl | hd
          · apply hoff
            have := hspace c List.mem_cons_self
            omega
          · exact hfilled d hd
        · rw [dataOf_cons, hdata, hbytes, dataOf_cons, hcs, List.append_nil, List.nil_append,
            List.append_assoc, List.take_append_drop]

/-- Where the chains with space begin. -/
theorem Room.firstWithSpace {datlen : Nat} (h : Room b full empties datlen n) :
    ∃ closed, full = closed ++ openChain full ∧ b.firstWithSpace = some closed.length ∧
      ∀ c ∈ openChain full ++ empties, 0 < c.spaceLen := by
  have hspace : ∀ c ∈ empties, 0 < c.spaceLen := by
    intro c hc
    obtain ⟨hoff, hmisalign, hpos⟩ := h.laid.isEmpty c hc
    rw [Chain.spaceLen, hoff, hmisalign]
    exact hpos
  rcases h.laid.lastWithData_chain with ⟨rfl, hget⟩ | ⟨init, c, rfl, hplace, hget⟩
  · obtain ⟨c, cs, rfl⟩ : ∃ c cs, empties = c::cs := by
      apply List.exists_cons_of_ne_nil
      have hne := h.ne_nil
      rw [h.laid.chains, List.nil_append] at hne
      exact hne
    refine ⟨[], rfl, ?_, hspace⟩
    rw [Evbuffer.firstWithSpace, hget, List.head?_cons, Option.map_some,
      if_neg (hspace c List.mem_cons_self).ne', h.laid.lastWithData]
    rfl
  · rw [Evbuffer.firstWithSpace, hget, Option.map_some, hplace, openChain_concat]
    by_cases hfull : c.spaceLen = 0
    · refine ⟨init ++ [c], ?_, ?_, ?_⟩
      · rw [if_pos hfull, List.append_nil]
      · rw [if_pos hfull, List.length_append]
        rfl
      · rw [if_pos hfull]
        exact hspace
    · refine ⟨init, ?_, ?_, ?_⟩
      · rw [if_neg hfull]
      · rw [if_neg hfull]
      · rw [if_neg hfull]
        intro d hd
        rcases List.mem_cons.mp hd with rfl | hd
        · exact Nat.pos_of_ne_zero hfull
        · exact hspace d hd

theorem openChain_cases (full : List Chain) : openChain full = [] ∨ ∃ c, openChain full = [c] := by
  unfold openChain
  cases full.getLast?.filter fun c => decide (c.spaceLen ≠ 0) with
  | none => exact .inl rfl
  | some c => exact .inr ⟨c, rfl⟩

/-- What `commit` leaves is well formed. -/
theorem Room.laid_read {datlen k : Nat} {closed filled : List Chain} {more : Block}
    (h : Room b full empties datlen n) (hclosed : full = closed ++ openChain full)
    (hcount : filled.length = k + 1) (hk : k < (openChain full ++ empties).length)
    (hfilled : ∀ c ∈ filled, c.off ≠ 0)
    (hdata : dataOf filled = dataOf (openChain full ++ empties) ++ more) :
    Laid { b with
      chains := closed ++ (filled ++ (openChain full ++ empties).drop (k + 1))
      lastWithData := closed.length + k
      totalLen := b.totalLen + more.length }
      (closed ++ filled) ((openChain full ++ empties).drop (k + 1)) ∧
    dataOf (closed ++ filled) = b.bytes ++ more := by
  have hrest : ∀ c ∈ (openChain full ++ empties).drop (k + 1), c ∈ empties := by
    intro c hc
    rcases openChain_cases full with hopen | ⟨d, hopen⟩
    · rw [hopen, List.nil_append] at hc
      exact List.mem_of_mem_drop hc
    · rw [hopen, List.cons_append, List.drop_succ_cons, List.nil_append] at hc
      exact List.mem_of_mem_drop hc
  have hempties : dataOf empties = [] := dataOf_empties fun c hc => (h.laid.isEmpty c hc).1
  have hbytes : dataOf (closed ++ filled) = b.bytes ++ more := by
    rw [dataOf_append, hdata, dataOf_append, hempties, List.append_nil, ← List.append_assoc,
      ← dataOf_append, ← hclosed, h.laid.bytes_eq]
  have hall : dataOf (closed ++ (filled ++ (openChain full ++ empties).drop (k + 1))) =
      b.bytes ++ more := by
    rw [← List.append_assoc, dataOf_append,
      dataOf_empties fun c hc => (h.laid.isEmpty c (hrest c hc)).1, List.append_nil, hbytes]
  have hlength : (closed ++ (filled ++ (openChain full ++ empties).drop (k + 1))).length =
      b.chains.length := by
    rw [h.laid.chains, hclosed, List.append_assoc, ← hclosed]
    simp only [List.length_append, List.length_drop] at hk ⊢
    omega
  have hpos := List.length_pos_iff.mpr h.ne_nil
  refine ⟨⟨(List.append_assoc _ _ _).symm, ?_, fun c hc => h.laid.isEmpty c (hrest c hc),
    ?_, ?_, ?_⟩, hbytes⟩
  · intro c hc
    rcases List.mem_append.mp hc with hc | hc
    · exact h.laid.hasData c (hclosed ▸ List.mem_append_left _ hc)
    · exact hfilled c hc
  · rw [if_neg (List.ne_nil_of_length_pos (hlength ▸ hpos)), hlength, h.laid.last, if_neg h.ne_nil]
  · rw [List.length_append, hcount]
    rfl
  · rw [Evbuffer.bytes, hall, List.length_append, h.laid.totalLen]

/-- How many of the received bytes one read takes. -/
structure ReadCount (p : Platform) (howmuch : Nat) (received : Block) (count : Nat) : Prop where
  le : count ≤ min howmuch received.length
  exact : 4 ≤ p.vecs → count = min howmuch received.length
  pos : 0 < howmuch → received ≠ [] → 0 < count

theorem read_spec (p : Platform) (h : WellFormed b) (readable howmuch : Int) (received : Block) :
    ∃ b' count, b.read p readable howmuch received = some (b', count) ∧ WellFormed b' ∧
      b'.bytes = b.bytes ++ received.take count ∧
      ReadCount p (readSize readable howmuch) received count := by
  unfold read
  generalize readSize readable howmuch = howmuch
  obtain ⟨full, empties, h⟩ := h
  obtain ⟨b₁, empties₁, hexpand, hroom⟩ := expandFast_spec p howmuch h (n := 4) (by omega)
  obtain ⟨k, hk, henough⟩ := hroom.enough
  obtain ⟨closed, hclosed, hfirst, hspace⟩ := hroom.firstWithSpace
  have hdrop : b₁.chains.drop closed.length = openChain full ++ empties₁ := by
    rw [hroom.laid.chains, hclosed, List.append_assoc, List.drop_left, ← hclosed]
  have hsame : b₁.bytes = b.bytes := by rw [hroom.laid.bytes_eq, h.bytes_eq]
  have henough' : howmuch ≤ 0 + spaceOf ((openChain full ++ empties₁).take k) := by
    rwa [Nat.zero_add]
  obtain ⟨lens, hlens, hsum, hexact, hsome⟩ := setupVecs_spec (m := p.vecs) henough'
  rw [Nat.sub_zero] at hsum hexact
  have hlength : (received.take lens.sum).length = min lens.sum received.length := List.length_take
  have htake : received.take (received.take lens.sum).length = received.take lens.sum := by
    rw [hlength]
    rcases Nat.le_total lens.sum received.length with hle | hle
    · rw [Nat.min_eq_left hle]
    · rw [Nat.min_eq_right hle, List.take_length, List.take_of_length_le hle]
  have hcount : (received.take lens.sum).length ≤ min howmuch received.length := by omega
  have hexact' : 4 ≤ p.vecs → (received.take lens.sum).length = min howmuch received.length := by
    intro hvecs
    rw [hlength, hexact (hk.trans hvecs)]
  have hpositive : 0 < howmuch → received ≠ [] → 0 < (received.take lens.sum).length := by
    intro hhowmuch hreceived
    have := hsome p.vecs_pos hhowmuch hspace
    have := List.length_pos_iff.mpr hreceived
    omega
  simp only [bind, hexpand, hfirst, Option.bind_some, hdrop, hlens]
  by_cases hnil : received.take lens.sum = []
  · rw [hnil] at hcount hexact' hpositive
    refine ⟨b₁, 0, ?_, ⟨_, _, hroom.laid⟩, ?_, hcount, hexact', hpositive⟩
    · rw [hnil, readv_nil (setupVecs_length hlens), Option.bind_some, if_pos rfl]
    · rw [hsame, List.take_zero, List.append_nil]
  · have hempty : ∀ c ∈ (openChain full ++ empties₁).tail, c.off = 0 := by
      intro c hc
      rcases openChain_cases full with hopen | ⟨d, hopen⟩
      · rw [hopen, List.nil_append] at hc
        exact (hroom.laid.isEmpty c (List.mem_of_mem_tail hc)).1
      · rw [hopen, List.cons_append, List.tail_cons, List.nil_append] at hc
        exact (hroom.laid.isEmpty c hc).1
    obtain ⟨cs, filled, m, hread, hcommit, hm, hlt, hfilled, hdata⟩ := readv_commit hlens
      (List.length_pos_iff.mpr hnil) (by omega) hspace hempty
    obtain ⟨hlaid, hbytes⟩ := hroom.laid_read hclosed hm hlt hfilled hdata
    have hclosed' : b₁.chains.take closed.length = closed := by
      rw [hroom.laid.chains, hclosed, List.append_assoc, List.take_left]
    refine ⟨_, (received.take lens.sum).length, ?_, ⟨_, _, hlaid⟩, ?_, hcount, hexact', hpositive⟩
    · rw [hread, Option.bind_some, if_neg hnil, hcommit, hclosed']
      rfl
    · rw [hlaid.bytes_eq, hbytes, hsame, htake]

end KinectHelper.Libevent.Evbuffer
