import KinectHelper.Libevent.EvbufferChains

namespace KinectHelper.Libevent.Evbuffer

variable {p : Platform} {b : Evbuffer} {full empties : List Chain} {n : Nat}

namespace Laid

theorem bytes_eq (h : Laid b full empties) : b.bytes = dataOf full := by
  rw [bytes, h.chains, dataOf_append, dataOf_empties fun c hc => (h.isEmpty c hc).1,
    List.append_nil]

theorem totalLen_eq_zero_iff (h : Laid b full empties) : b.totalLen = 0 ↔ full = [] := by
  rw [h.totalLen, h.bytes_eq]
  cases full with
  | nil => exact iff_of_true rfl rfl
  | cons c cs => exact iff_of_false (dataOf_pos h.hasData).ne' (List.cons_ne_nil c cs)

theorem lastWithData_lt (h : Laid b full empties) (hne : b.chains ≠ []) :
    b.lastWithData < b.chains.length := by
  have hpos := List.length_pos_iff.mpr hne
  rw [h.chains, List.length_append] at hpos ⊢
  rw [h.lastWithData]
  omega

/-- The chain that `last_with_datap` points to: the last one with data, or the first of all. -/
theorem lastWithData_chain (h : Laid b full empties) :
    (full = [] ∧ b.chains[b.lastWithData]? = empties.head?) ∨
    ∃ init c, full = init ++ [c] ∧ b.lastWithData = init.length ∧
      b.chains[b.lastWithData]? = some c := by
  rcases List.eq_nil_or_concat' full with rfl | ⟨init, c, rfl⟩
  · refine .inl ⟨rfl, ?_⟩
    rw [h.lastWithData, h.chains, List.nil_append]
    exact List.head?_eq_getElem?.symm
  · have hplace : b.lastWithData = init.length := by
      rw [h.lastWithData, List.length_append]
      rfl
    refine .inr ⟨init, c, rfl, hplace, ?_⟩
    rw [hplace, h.chains, List.append_assoc, List.getElem?_append_right le_rfl, Nat.sub_self]
    rfl

theorem drop_lastWithData (h : Laid b full empties) :
    ∀ c ∈ b.chains.drop (b.lastWithData + 1), c.off = 0 := by
  intro c hc
  rw [h.chains, h.lastWithData] at hc
  have hdrop : (full ++ empties).drop (full.length - 1 + 1) = empties.drop (1 - full.length) := by
    rw [List.drop_append, List.drop_eq_nil_of_le (by omega), List.nil_append]
    congr 1
    omega
  rw [hdrop] at hc
  exact (h.isEmpty c (List.mem_of_mem_drop hc)).1

theorem valid (h : Laid b full empties) : Valid b where
  no_chain hnil := by
    refine ⟨by rw [h.last, if_pos hnil], ?_⟩
    rw [h.totalLen, bytes, hnil]
    rfl
  last hne := by rw [h.last, if_neg hne]
  found := by
    rw [h.lastWithData, h.chains, List.length_append]
    omega
  lastWithData := h.lastWithData_lt
  no_data c hc hzero := by
    rcases h.lastWithData_chain with ⟨hfull, _⟩ | ⟨init, c', hfull, _, hc'⟩
    · have hplace : b.lastWithData = 0 := by
        rw [h.lastWithData, hfull]
        rfl
      refine ⟨?_, hplace, h.totalLen_eq_zero_iff.mpr hfull⟩
      have hmem := List.mem_of_getElem? hc
      rw [h.chains, hfull] at hmem
      exact (h.isEmpty c hmem).1
    · cases hc'.symm.trans hc
      rcases hzero with hoff | htotal
      · exact absurd hoff (h.hasData c (hfull ▸ List.mem_append_right init List.mem_cons_self))
      · rw [h.totalLen_eq_zero_iff.mp htotal] at hfull
        cases init <;> cases hfull
  trailing := h.drop_lastWithData
  no_last hnone := by
    by_cases hnil : b.chains = []
    · rw [h.lastWithData]
      rw [h.chains, List.append_eq_nil_iff] at hnil
      rw [hnil.1]
      rfl
    · exact absurd (h.lastWithData_lt hnil) (not_lt.mpr (List.getElem?_eq_none_iff.mp hnone))
  sum := by rw [h.totalLen, bytes, dataOf_length]

end Laid

theorem laid_new : Laid new [] [] := by
  constructor <;> simp [new, bytes]

/-- Where a number of bytes, not all of them, ends in the chains. -/
structure CutAt (full before after : List Chain) (c : Chain) (n r : Nat) : Prop where
  full : full = before ++ c::after
  n : n = (dataOf before).length + r
  r : r < c.off

/-- The loop of `evbuffer_drain` stops where the bytes end. Until it is passed, the last chain with
data is `full.length - 1` chains ahead. -/
theorem freeChains_spec (hfull : ∀ c ∈ full, c.off ≠ 0) (empties : List Chain) {i lwd : Nat}
    (hlwd : lwd - i = full.length - 1) (hn : n < (dataOf full).length) :
    ∃ before c after r lwd', CutAt full before after c n r ∧
      freeChains i lwd (full ++ empties) n = some (i + before.length, lwd', r) ∧
      lwd' - (i + before.length) = after.length := by
  induction full generalizing i lwd n with
  | nil => exact absurd hn (Nat.not_lt_zero n)
  | cons c cs ih =>
    rw [dataOf_cons, List.length_append, c.data_length] at hn
    rw [List.length_cons] at hlwd
    rw [List.cons_append, freeChains]
    by_cases hle : c.off ≤ n
    · have hpos : 0 < cs.length := by
        rw [List.length_pos_iff]
        intro hnil
        rw [hnil, dataOf_nil, List.length_nil] at hn
        omega
      have hnext : (if lwd = i ∨ lwd = i + 1 then 0 else lwd) - (i + 1) = cs.length - 1 := by
        split_ifs <;> omega
      obtain ⟨before, d, after, r, lwd', hcut, heq, hlwd'⟩ :=
        ih (fun d hd => hfull d (List.mem_cons_of_mem c hd)) hnext (n := n - c.off) (by omega)
      have hplace : i + 1 + before.length = i + (c::before).length := by
        rw [List.length_cons]
        omega
      refine ⟨c::before, d, after, r, lwd', ⟨?_, ?_, hcut.r⟩, ?_, ?_⟩
      · rw [hcut.full, List.cons_append]
      · have := hcut.n
        rw [dataOf_cons, List.length_append, c.data_length]
        omega
      · rw [if_pos hle, heq, hplace]
      · rw [← hplace, hlwd']
    · refine ⟨[], c, cs, n, lwd, ⟨rfl, (Nat.zero_add n).symm, by omega⟩, ?_, hlwd⟩
      rw [if_neg hle]
      rfl

section Cut

variable {before after : List Chain} {c c' : Chain} {r : Nat}

theorem CutAt.drop (h : CutAt full before after c n r) :
    (dataOf full).drop n = c.data.drop r ++ dataOf after := by
  have hr : r ≤ c.data.length := c.data_length.symm ▸ h.r.le
  rw [h.full, h.n, dataOf_append, dataOf_cons, ← List.drop_drop, List.drop_left,
    List.drop_append_of_le_length hr]

theorem CutAt.take (h : CutAt full before after c n r) :
    (dataOf full).take n = dataOf before ++ c.data.take r := by
  have hr : r ≤ c.data.length := c.data_length.symm ▸ h.r.le
  rw [h.full, h.n, dataOf_append, dataOf_cons, List.take_length_add_append,
    List.take_append_of_le_length hr]

/-- What is left of a buffer without the bytes before a place in one of its chains. -/
theorem Laid.rest (h : Laid b full empties) (hcut : CutAt full before after c n r)
    (hskip : c.skip r = some c') :
    Laid {
      chains := c'::(after ++ empties)
      last := b.last.map (· - before.length)
      lastWithData := after.length
      totalLen := b.totalLen - n } (c'::after) empties := by
  obtain ⟨_, hskip', hdata⟩ := Chain.skip_spec hcut.r.le
  cases hskip.symm.trans hskip'
  have hbytes : dataOf (c'::(after ++ empties)) = b.bytes.drop n := by
    rw [dataOf_cons, dataOf_append, dataOf_empties fun c hc => (h.isEmpty c hc).1, List.append_nil,
      hdata, h.bytes_eq, hcut.drop]
  have hlength : b.chains.length = before.length + (after ++ empties).length + 1 := by
    rw [h.chains, hcut.full]
    simp only [List.length_append, List.length_cons]
    omega
  refine ⟨rfl, ?_, h.isEmpty, ?_, rfl, ?_⟩
  · intro d hd
    rcases List.mem_cons.mp hd with rfl | hd
    · rw [← d.data_length, hdata, List.length_drop, c.data_length]
      have := hcut.r
      omega
    · apply h.hasData d
      rw [hcut.full]
      exact List.mem_append_right before (List.mem_cons_of_mem c hd)
  · have hne : b.chains ≠ [] := List.ne_nil_of_length_pos (by omega)
    rw [h.last, if_neg hne, if_neg (List.cons_ne_nil c' _), hlength, List.length_cons]
    simp only [Option.map_some, Option.some.injEq]
    omega
  · change b.totalLen - n = (dataOf (c'::(after ++ empties))).length
    rw [hbytes, List.length_drop, h.totalLen]

end Cut

theorem drain_spec (h : WellFormed b) (n : Nat) :
    ∃ b', b.drain n = some b' ∧ WellFormed b' ∧ b'.bytes = b.bytes.drop n := by
  obtain ⟨full, empties, h⟩ := h
  unfold drain
  by_cases hzero : b.totalLen = 0
  · have hnil : b.bytes = [] := by
      rw [h.bytes_eq, h.totalLen_eq_zero_iff.mp hzero, dataOf_nil]
    refine ⟨b, if_pos hzero, ⟨full, empties, h⟩, ?_⟩
    rw [hnil, List.drop_nil]
  rw [if_neg hzero]
  by_cases hall : b.totalLen ≤ n
  · refine ⟨new, if_pos hall, ⟨[], [], laid_new⟩, ?_⟩
    rw [List.drop_eq_nil_of_le (h.totalLen ▸ hall)]
    rfl
  rw [if_neg hall]
  have hn : n < (dataOf full).length := by
    rw [← h.bytes_eq, ← h.totalLen]
    omega
  obtain ⟨before, c, after, r, lwd', hcut, hfree, hlwd'⟩ :=
    freeChains_spec h.hasData empties (i := 0) h.lastWithData hn
  obtain ⟨c', hskip, hdata⟩ := Chain.skip_spec hcut.r.le
  have hget : b.chains[before.length]? = some c := by
    rw [h.chains, hcut.full, List.append_assoc, List.getElem?_append_right le_rfl, Nat.sub_self]
    rfl
  have hdrop : b.chains.drop (before.length + 1) = after ++ empties := by
    rw [h.chains, hcut.full, List.append_assoc, ← List.drop_drop, List.drop_left]
    rfl
  rw [Nat.zero_add] at hfree hlwd'
  refine ⟨_, ?_, ⟨_, _, h.rest hcut hskip⟩, ?_⟩
  · rw [h.chains, hfree, ← h.chains]
    simp only [bind, Option.bind_some, hget, hskip, hdrop, hlwd']
  · rw [(h.rest hcut hskip).bytes_eq, h.bytes_eq, hcut.drop, dataOf_cons, hdata]

theorem copyChains_spec {cs : List Chain} (h : n ≤ (dataOf cs).length) :
    copyChains cs n = some ((dataOf cs).take n) := by
  induction cs generalizing n with
  | nil =>
    obtain rfl : n = 0 := Nat.le_zero.mp h
    rfl
  | cons c cs ih =>
    cases n with
    | zero => rfl
    | succ n =>
      rw [dataOf_cons, List.length_append, c.data_length] at h
      rw [copyChains, dataOf_cons]
      split_ifs with hle
      · have hrest : n + 1 - c.off ≤ (dataOf cs).length := by omega
        have hall : c.data.take (n + 1) = c.data :=
          List.take_of_length_le (c.data_length.symm ▸ hle)
        rw [ih hrest, Option.map_some, List.take_append, c.data_length, hall]
      · have hlt : n + 1 ≤ c.off := (not_le.mp hle).le
        rw [Chain.loadBytes_data hlt, List.take_append_of_le_length (c.data_length.symm ▸ hlt)]

theorem copyout_spec (h : WellFormed b) (n : Nat) : b.copyout n = some (b.bytes.take n) := by
  obtain ⟨full, empties, h⟩ := h
  have htotal := h.totalLen
  unfold copyout
  split_ifs with hle
  · rw [copyChains_spec htotal.le, ← bytes, htotal, List.take_length,
      List.take_of_length_le (htotal ▸ hle)]
  · rw [copyChains_spec (by rw [← bytes, ← htotal]; omega), ← bytes]

theorem remove_spec (h : WellFormed b) (n : Nat) :
    ∃ b', b.remove n = some (b.bytes.take n, b') ∧ WellFormed b' ∧ b'.bytes = b.bytes.drop n := by
  unfold remove
  rw [copyout_spec h n]
  simp only [bind, Option.bind_some]
  split_ifs with hnil
  · refine ⟨b, rfl, h, ?_⟩
    rcases List.take_eq_nil_iff.mp hnil with rfl | hbytes
    · rfl
    · rw [hbytes, List.drop_nil]
  · obtain ⟨b', hdrain, hwell, hbytes⟩ := drain_spec h (b.bytes.take n).length
    refine ⟨b', by rw [hdrain]; rfl, hwell, ?_⟩
    rw [hbytes, List.length_take]
    rcases Nat.le_total n b.bytes.length with hle | hle
    · rw [Nat.min_eq_left hle]
    · rw [Nat.min_eq_right hle, List.drop_length, List.drop_eq_nil_of_le hle]

/-- The last chain has got more data, and only the chains before it are known to have some. -/
theorem laid_replace {init : List Chain} {c c' : Chain} {data : Block}
    (hchains : b.chains = init ++ [c]) (hinit : ∀ d ∈ init, d.off ≠ 0)
    (hlast : b.last = some init.length) (hlwd : b.lastWithData = init.length)
    (htotal : b.totalLen = b.bytes.length) (hdata : c'.data = c.data ++ data) (hoff : c'.off ≠ 0) :
    Laid (b.replace init.length c' data.length) (init ++ [c']) [] ∧
      (b.replace init.length c' data.length).bytes = b.bytes ++ data := by
  have hset : (b.replace init.length c' data.length).chains = init ++ [c'] := by
    change b.chains.set init.length c' = init ++ [c']
    rw [hchains, List.set_append_right _ _ le_rfl, Nat.sub_self]
    rfl
  have hbytes : (b.replace init.length c' data.length).bytes = b.bytes ++ data := by
    rw [bytes, bytes, hset, hchains, dataOf_append, dataOf_append, dataOf_cons, dataOf_cons, hdata]
    simp only [dataOf_nil, List.append_nil, List.append_assoc]
  refine ⟨⟨?_, ?_, fun _ hd => absurd hd List.not_mem_nil, ?_, ?_, ?_⟩, hbytes⟩
  · rw [hset, List.append_nil]
  · intro d hd
    rcases List.mem_append.mp hd with hd | hd
    · exact hinit d hd
    · exact List.mem_singleton.mp hd ▸ hoff
  · rw [hset, if_neg (by simp), List.length_append]
    exact hlast
  · rw [List.length_append]
    exact hlwd
  · change b.totalLen + data.length = _
    rw [hbytes, List.length_append, htotal]

/-- Where every chain holds data, the last one is the last with data. -/
theorem Laid.lastChain {init : List Chain} {c : Chain} (h : Laid b (init ++ [c]) []) :
    b.chains = init ++ [c] ∧ c.off ≠ 0 ∧ b.lastWithData = init.length ∧
      b.last = some init.length ∧ b.chains[init.length]? = some c := by
  have hchains : b.chains = init ++ [c] := by rw [h.chains, List.append_nil]
  refine ⟨hchains, h.hasData c (List.mem_append_right init List.mem_cons_self), ?_, ?_, ?_⟩
  · rw [h.lastWithData, List.length_append]
    rfl
  · rw [h.last, hchains, if_neg (by simp), List.length_append]
    rfl
  · rw [hchains, List.getElem?_append_right le_rfl, Nat.sub_self]
    rfl

theorem chainInsert_spec {init : List Chain} {c d : Chain} (h : Laid b (init ++ [c]) [])
    (hd : d.off ≠ 0) :
    ∃ b', b.chainInsert d = some b' ∧ Laid b' (init ++ [c] ++ [d]) [] ∧
      b'.bytes = b.bytes ++ d.data := by
  obtain ⟨hchains, hc, hlwd, hlast, hget⟩ := h.lastChain
  have hvictim : b.firstVictim = b.chains.length := by
    rw [firstVictim, hlwd, hchains, List.drop_left]
    simp [hc]
  have htake : b.chains.take (init.length + 1) = b.chains := by
    rw [hchains]
    exact List.take_of_length_le (by simp)
  have hbytes : dataOf (b.chains ++ [d]) = b.bytes ++ d.data := by
    rw [dataOf_append, dataOf_cons, dataOf_nil, List.append_nil, bytes]
  refine ⟨⟨b.chains ++ [d], some (init.length + 1), init.length + 1, b.totalLen + d.off⟩, ?_, ?_,
    hbytes⟩
  · unfold chainInsert
    rw [hlwd, hget, hvictim, List.getElem?_eq_none le_rfl, hlast]
    simp only [htake, hd, ne_eq, not_false_eq_true, if_true]
  · refine ⟨?_, ?_, fun _ hd => absurd hd List.not_mem_nil, ?_, ?_, ?_⟩
    · rw [← hchains, List.append_nil]
    · intro e he
      rcases List.mem_append.mp he with he | he
      · exact h.hasData e he
      · exact List.mem_singleton.mp he ▸ hd
    · simp [hchains]
    · simp
    · change b.totalLen + d.off = (dataOf (b.chains ++ [d])).length
      rw [hbytes, List.length_append, d.data_length, h.totalLen]

theorem chainInsert_first (c : Chain) (hchains : b.chains = []) (hlwd : b.lastWithData = 0) :
    b.chainInsert c = some ⟨[c], some 0, 0, b.totalLen + c.off⟩ := by
  unfold chainInsert
  rw [hchains, hlwd]
  rfl

/-- The first chain of a buffer is allocated for what it is to hold. -/
private theorem add_first (h : Laid b [] []) (data : Block) :
    ∃ b', b.add p data = some b' ∧ WellFormed b' ∧ b'.bytes = b.bytes ++ data := by
  have hchains : b.chains = [] := h.chains
  have hlast : b.last = none := by rw [h.last, if_pos hchains]
  have hzero : b.totalLen = 0 := h.totalLen_eq_zero_iff.mpr rfl
  have hbytes : b.bytes = [] := h.bytes_eq
  let b₁ : Evbuffer := ⟨[p.chainNew data.length], some 0, 0, 0⟩
  have hinsert : b.chainInsert (p.chainNew data.length) = some b₁ := by
    rw [chainInsert_first _ hchains h.lastWithData, hzero]
    rfl
  obtain ⟨c, happend, hdata⟩ := Chain.append_spec (p.chainNew_space data.length)
  rw [Platform.chainNew_data, List.nil_append] at hdata
  refine ⟨b₁.replace 0 c data.length, ?_, ?_⟩
  · unfold add
    rw [hlast]
    simp only [bind, hinsert, Option.bind_some, b₁, List.getElem?_cons_zero,
      if_pos (p.chainNew_space data.length), happend]
  by_cases hnil : data = []
  · -- an empty chain stays
    subst hnil
    cases (Chain.append_nil _).symm.trans happend
    have hnew : b₁.replace 0 (p.chainNew 0) 0 = b₁ := rfl
    refine ⟨⟨[], [p.chainNew 0], ?_⟩, ?_⟩
    · rw [List.length_nil, hnew]
      refine ⟨rfl, fun _ hd => absurd hd List.not_mem_nil, ?_, rfl, rfl, ?_⟩
      · intro d hd
        rw [List.mem_singleton.mp hd]
        exact ⟨rfl, rfl, (p.chainNew_room 0).2⟩
      · simp [b₁, bytes]
    · rw [List.length_nil, hnew, hbytes]
      simp [b₁, bytes]
  · have hoff : c.off ≠ 0 := by
      rw [← c.data_length, hdata, Ne, List.length_eq_zero_iff]
      exact hnil
    have hone : b₁.chains = [] ++ [p.chainNew data.length] := rfl
    have happended : c.data = (p.chainNew data.length).data ++ data := by
      rw [hdata, Platform.chainNew_data, List.nil_append]
    have hcount : b₁.totalLen = b₁.bytes.length := by simp [b₁, bytes]
    obtain ⟨hlaid, heq⟩ := laid_replace hone (fun _ hd => absurd hd List.not_mem_nil) rfl rfl
      hcount happended hoff
    refine ⟨⟨[c], [], hlaid⟩, ?_⟩
    rw [hbytes]
    simpa [b₁, bytes] using heq

theorem add_spec (h : Laid b full []) (data : Block) :
    ∃ b', b.add p data = some b' ∧ WellFormed b' ∧ b'.bytes = b.bytes ++ data := by
  rcases List.eq_nil_or_concat' full with rfl | ⟨init, c, rfl⟩
  · exact add_first h data
  obtain ⟨hchains, hc, hlwd, hlast, hget⟩ := h.lastChain
  have hinit : ∀ d ∈ init, d.off ≠ 0 := fun d hd => h.hasData d (List.mem_append_left [c] hd)
  have hoff : ∀ {c' : Chain} {more : Block}, c'.data = c.data ++ more → c'.off ≠ 0 := by
    intro c' more hdata
    rw [← c'.data_length, hdata, List.length_append, c.data_length]
    omega
  have hreplace := fun {c' : Chain} {more : Block} (hdata : c'.data = c.data ++ more) =>
    laid_replace hchains hinit hlast hlwd h.totalLen hdata (hoff hdata)
  unfold add
  rw [hlast]
  simp only [bind, Option.bind_some, hlast, hget]
  by_cases hroom : data.length ≤ c.spaceLen
  · obtain ⟨c', happend, hdata⟩ := Chain.append_spec hroom
    obtain ⟨hlaid, hbytes⟩ := hreplace hdata
    exact ⟨_, by rw [if_pos hroom, happend, Option.bind_some], ⟨_, _, hlaid⟩, hbytes⟩
  by_cases hrealign : c.shouldRealign data.length
  · have hspace : data.length ≤ c.align.spaceLen := by
      rw [c.align_spaceLen]
      exact (of_decide_eq_true hrealign).1
    obtain ⟨c', happend, hdata⟩ := Chain.append_spec hspace
    rw [c.align_data] at hdata
    obtain ⟨hlaid, hbytes⟩ := hreplace hdata
    refine ⟨_, ?_, ⟨_, _, hlaid⟩, hbytes⟩
    rw [if_neg hroom, if_pos hrealign, happend, Option.bind_some]
  · generalize
      (if c.buffer.length ≤ 4096 / 2 then 2 * c.buffer.length else c.buffer.length) = toAlloc
    have hsize : data.length ≤ if toAlloc < data.length then data.length else toAlloc := by
      split_ifs <;> omega
    generalize (if toAlloc < data.length then data.length else toAlloc) = size at hsize
    have hremain : (data.take c.spaceLen).length = c.spaceLen := by
      rw [List.length_take]
      omega
    have hrest : (data.drop c.spaceLen).length ≤ (p.chainNew size).spaceLen := by
      have := (p.chainNew_room size).1
      rw [Platform.chainNew_spaceLen, List.length_drop]
      omega
    obtain ⟨c', hfill, hdata⟩ := Chain.append_spec hremain.le
    obtain ⟨tmp, happend, htmp⟩ := Chain.append_spec hrest
    rw [Platform.chainNew_data, List.nil_append] at htmp
    obtain ⟨hlaid, hbytes⟩ := hreplace hdata
    rw [hremain] at hlaid hbytes
    have hoff' : tmp.off ≠ 0 := by
      rw [← tmp.data_length, htmp, List.length_drop]
      omega
    obtain ⟨b', hinsert, hlaid', hbytes'⟩ := chainInsert_spec hlaid hoff'
    refine ⟨b', ?_, ⟨_, _, hlaid'⟩, ?_⟩
    · rw [if_neg hroom, if_neg hrealign, hfill]
      simp only [Option.bind_some, happend, hinsert]
    · rw [hbytes', hbytes, htmp, List.append_assoc, List.take_append_drop]

/-- `evbuffer_remove_buffer` walks as `evbuffer_drain` does, and its assertion holds. -/
theorem passChains_eq {i lwd : Nat} (hlwd : lwd - i = full.length - 1)
    (hn : n < (dataOf full).length) :
    passChains i lwd (full ++ empties) n = freeChains i lwd (full ++ empties) n := by
  induction full generalizing i lwd n with
  | nil => exact absurd hn (Nat.not_lt_zero n)
  | cons c cs ih =>
    rw [dataOf_cons, List.length_append, c.data_length] at hn
    rw [List.length_cons] at hlwd
    rw [List.cons_append, passChains, freeChains]
    by_cases hle : c.off ≤ n
    · have hpos : 0 < cs.length := by
        rw [List.length_pos_iff]
        intro hnil
        rw [hnil, dataOf_nil, List.length_nil] at hn
        omega
      have hne : lwd ≠ i := by omega
      have hnext : (if lwd = i ∨ lwd = i + 1 then 0 else lwd) = if lwd = i + 1 then 0 else lwd := by
        simp only [hne, false_or]
      have hstep : (if lwd = i + 1 then 0 else lwd) - (i + 1) = cs.length - 1 := by
        split_ifs <;> omega
      rw [if_pos hle, if_pos hle, if_neg hne, hnext, ih hstep (by omega)]
    · rw [if_neg hle, if_neg hle]

/-- The chains with data that go to a new buffer. -/
theorem moveChains_spec {before after : List Chain} {c : Chain} {r : Nat}
    (hfull : ∀ c ∈ full, c.off ≠ 0) (hchains : b.chains = full ++ empties)
    (hcut : CutAt full before after c n r) (hbefore : before ≠ []) :
    ∃ dst, Laid dst before [] ∧ moveChains b new before.length (n - r) = some ({ b with
      chains := c::(after ++ empties)
      last := b.last.map (· - before.length)
      lastWithData := b.lastWithData - before.length }, dst) := by
  rw [hcut.full, List.append_assoc, List.cons_append] at hchains
  have hdata : ∀ d ∈ before, d.off ≠ 0 := fun d hd =>
    hfull d (hcut.full ▸ List.mem_append_left _ hd)
  have hread : n - r = (dataOf before).length := by
    have := hcut.n
    omega
  obtain ⟨first, others, rfl⟩ := List.exists_cons_of_ne_nil hbefore
  have hothers : (others.takeWhile fun d => decide (d.off ≠ 0)) = others :=
    List.takeWhile_eq_self_iff.mpr fun d hd =>
      decide_eq_true (hdata d (List.mem_cons_of_mem first hd))
  refine ⟨⟨first::others, some others.length, others.length, n - r⟩, ?_, ?_⟩
  · exact ⟨(List.append_nil _).symm, hdata, fun _ hd => absurd hd List.not_mem_nil, rfl, rfl, hread⟩
  · unfold moveChains
    rw [hchains, List.take_left, List.drop_left]
    simpa [freeTrailingEmptyChains, firstVictim, chainsAllEmpty, new, advanceLastWithData] using
      congrArg List.length hothers

theorem removeBuffer_spec (p : Platform) (h : WellFormed b) (n : Nat) :
    ∃ b' dst, b.removeBuffer p new n = some (b', dst, min n b.bytes.length) ∧
      WellFormed b' ∧ b'.bytes = b.bytes.drop n ∧ WellFormed dst ∧ dst.bytes = b.bytes.take n := by
  obtain ⟨full, empties, h⟩ := h
  have htotal := h.totalLen
  unfold removeBuffer
  by_cases hzero : n = 0
  · subst hzero
    rw [if_pos rfl, Nat.zero_min]
    exact ⟨b, new, rfl, ⟨_, _, h⟩, rfl, ⟨_, _, laid_new⟩, rfl⟩
  rw [if_neg hzero]
  by_cases hall : b.totalLen ≤ n
  · rw [if_pos hall, List.drop_eq_nil_of_le (htotal ▸ hall), List.take_of_length_le (htotal ▸ hall),
      Nat.min_eq_right (htotal ▸ hall), ← htotal]
    by_cases hempty : b.totalLen = 0
    · have hnil : b.bytes = [] := List.length_eq_zero_iff.mp (htotal ▸ hempty)
      refine ⟨b, new, ?_, ⟨_, _, h⟩, hnil, ⟨_, _, laid_new⟩, hnil.symm⟩
      rw [addBuffer, if_pos hempty, Option.map_some]
    · refine ⟨new, b, ?_, ⟨_, _, laid_new⟩, rfl, ⟨_, _, h⟩, rfl⟩
      rw [addBuffer, if_neg hempty]
      rfl
  rw [if_neg hall]
  have hn : n < (dataOf full).length := by
    rw [← h.bytes_eq, ← h.totalLen]
    omega
  have hstart : b.lastWithData - 0 = full.length - 1 := h.lastWithData
  obtain ⟨before, c, after, r, lwd', hcut, hfree, hlwd'⟩ :=
    freeChains_spec h.hasData empties hstart hn
  rw [← passChains_eq hstart hn, ← h.chains] at hfree
  rw [Nat.zero_add] at hfree hlwd'
  obtain ⟨c', hskip, hdata⟩ := Chain.skip_spec hcut.r.le
  have hread : n - r = (dataOf before).length := by
    have := hcut.n
    omega
  -- the whole chains that go, and what the source is without them
  have hmoved : ∃ dst, Laid dst before [] ∧
      (if n - r = 0 then some ({ b with lastWithData := lwd' }, new)
        else moveChains { b with lastWithData := lwd' } new before.length (n - r)) =
      some ({ b with
        chains := c::(after ++ empties)
        last := b.last.map (· - before.length)
        lastWithData := after.length }, dst) := by
    by_cases hbefore : before = []
    · subst hbefore
      have hchains : b.chains = c::(after ++ empties) := by rw [h.chains, hcut.full]; rfl
      have hlast : b.last.map (· - ([] : List Chain).length) = b.last := Option.map_id'
      refine ⟨new, laid_new, ?_⟩
      rw [dataOf_nil, List.length_nil] at hread
      rw [if_pos hread, hlast, ← hchains, ← hlwd']
      rfl
    · have hne : ¬ n - r = 0 := by
        obtain ⟨first, others, rfl⟩ := List.exists_cons_of_ne_nil hbefore
        rw [hread]
        exact (dataOf_pos fun d hd => h.hasData d (hcut.full ▸ List.mem_append_left _ hd)).ne'
      obtain ⟨dst, hdst, hmove⟩ := moveChains_spec (b := { b with lastWithData := lwd' })
        h.hasData h.chains hcut hbefore
      refine ⟨dst, hdst, ?_⟩
      rw [if_neg hne, hmove, hlwd']
  obtain ⟨dst, hdst, hmoved⟩ := hmoved
  obtain ⟨dst', hadd, hwell, hbytes⟩ := add_spec (p := p) hdst (c.data.take r)
  have hplace : (if n - r = 0 then before.length else 0) = 0 := by
    rw [ite_eq_right_iff]
    intro hnone
    rw [hread, List.length_eq_zero_iff] at hnone
    by_contra hbefore
    obtain ⟨first, others, rfl⟩ := List.exists_cons_of_ne_nil (List.ne_nil_of_length_pos
      (Nat.pos_of_ne_zero hbefore))
    have := dataOf_pos fun d hd => h.hasData d (hcut.full ▸ List.mem_append_left _ hd)
    rw [hnone] at this
    exact absurd this (Nat.lt_irrefl 0)
  have hcount : n - r + r = n := by
    have := hcut.n
    omega
  refine ⟨_, dst', ?_, ⟨_, _, h.rest hcut hskip⟩, ?_, hwell, ?_⟩
  · simp only [bind, hfree, Option.bind_some, hmoved, hplace, List.getElem?_cons_zero,
      Chain.loadBytes_data hcut.r.le, hadd, hskip, List.set_cons_zero, hcount]
    rw [Nat.min_eq_left (htotal ▸ (not_le.mp hall).le)]
  · rw [(h.rest hcut hskip).bytes_eq, h.bytes_eq, hcut.drop, dataOf_cons, hdata]
  · rw [hbytes, hdst.bytes_eq, h.bytes_eq, hcut.take]

end KinectHelper.Libevent.Evbuffer
