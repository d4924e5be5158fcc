import KinectHelper.Libevent.Evbuffer
import KinectHelper.Libevent.EvbufferMoves

namespace KinectHelper.Libevent

/-- A `struct evbuffer_ptr`; `chain` has the chain it points to and the ones after it. -/
structure EvbufferPtr where
  pos : Nat
  chain : List Chain
  posInChain : Nat

/-- `memchr`: how far away the character is. -/
def memchr (s : Block) (c : UInt8) : Option Nat := s.findIdx? (· == c)

/-- The nearer of a carriage return and a line feed, in `find_eol_char`. -/
def nearer (cr lf : Option Nat) : Option Nat :=
  match cr, lf with
  | some cr, some lf => some (if lf < cr then lf else cr)
  | some cr, none => some cr
  | none, lf => lf

/-- `find_eol_char`, which looks at 128 bytes at a time. -/
def findEolChar (s : Block) : Option Nat :=
  if s = [] then none
  else
    let chunk := s.take 128
    match nearer (memchr chunk 13) (memchr chunk 10) with
    | some i => some i
    | none => (findEolChar (s.drop 128)).map (· + 128)
termination_by s.length
decreasing_by
  rw [List.length_drop]
  have := List.length_pos_iff.mpr ‹¬ s = []›
  omega

namespace Evbuffer

/-- `evbuffer_find_eol_char`, from a place in the first of the chains. -/
def findEol : List Chain → Nat → Nat → Option EvbufferPtr
  | [], _, _ => none
  | c::cs, i, pos =>
      match findEolChar (c.data.drop i) with
      | some cp => some ⟨pos + cp, c::cs, i + cp⟩
      | none => findEol cs 0 (pos + (c.off - i))

/-- `evbuffer_getchr` -/
def getchr (it : EvbufferPtr) : Option UInt8 :=
  it.chain.head?.bind fun c => c.buffer[c.misalign + it.posInChain]?

/-- The loop of `evbuffer_ptr_memcmp`: it finds no difference. -/
def memcmpChains : List Chain → Nat → Block → Bool
  | _, _, [] => true
  | [], _, _::_ => true
  | c::cs, position, mem@(_::_) =>
      let comparable := if mem.length + position > c.off then c.off - position else mem.length
      if (c.buffer.drop (c.misalign + position)).take comparable = mem.take comparable then
        memcmpChains cs 0 (mem.drop comparable)
      else false

/-- `evbuffer_ptr_memcmp` returns 0. -/
def ptrMemcmp (b : Evbuffer) (it : EvbufferPtr) (mem : Block) : Bool :=
  if it.pos + mem.length > b.totalLen then false else memcmpChains it.chain it.posInChain mem

/-- The loop of `evbuffer_ptr_set`. -/
def walk (pos : Nat) : List Chain → Nat → Nat → Option EvbufferPtr
  | [], _, _ => none
  | c::cs, position, left =>
      if c.off ≤ position + left then walk pos cs 0 (left - (c.off - position))
      else some ⟨pos, c::cs, position + left⟩

/-- `evbuffer_ptr_set` with `EVBUFFER_PTR_ADD` -/
def ptrAdd (it : EvbufferPtr) (position : Nat) : Option EvbufferPtr :=
  walk (it.pos + position) it.chain it.posInChain position

/-- The loop of `evbuffer_search_eol` for `EVBUFFER_EOL_CRLF`, at most `fuel` times: the end of the
line and the number of bytes it takes, if there is one. -/
def searchEol (b : Evbuffer) : Nat → EvbufferPtr → Option (Option (EvbufferPtr × Nat))
  | 0, _ => none
  | fuel+1, it =>
      match findEol it.chain it.posInChain it.pos with
      | none => some none
      | some it => do
          let c ← getchr it
          if c = 10 then some (some (it, 1))
          else if b.ptrMemcmp it [13, 10] then some (some (it, 2))
          else
            match ptrAdd it 1 with
            | none => some none
            | some it => searchEol b fuel it

/-- `evbuffer_readln` with `EVBUFFER_EOL_CRLF` -/
def readln (b : Evbuffer) : Option (Option Block × Evbuffer) := do
  let found ← b.searchEol (b.totalLen + 1) ⟨0, b.chains, 0⟩
  match found with
  | none => some (none, b)
  | some (it, extraDrain) => do
      let (line, b) ← b.remove it.pos
      let b ← b.drain extraDrain
      some (some line, b)

end Evbuffer

/-- The bytes that `find_eol_char` looks for. -/
def isEol (b : UInt8) : Bool := b == 13 || b == 10

theorem nearer_eq (s : Block) : nearer (memchr s 13) (memchr s 10) = s.findIdx? isEol := by
  induction s with
  | nil => rfl
  | cons b s ih =>
    unfold memchr isEol at *
    simp only [List.findIdx?_cons]
    rw [← ih]
    cases b == 13 <;> cases b == 10 <;> cases s.findIdx? (· == 13) <;>
      cases s.findIdx? (· == 10) <;> simp [nearer]
    split_ifs <;> omega

theorem findEolChar_eq (s : Block) : findEolChar s = s.findIdx? isEol := by
  fun_induction findEolChar s with
  | case1 => rfl
  | case2 s hs chunk i hfound =>
    rw [nearer_eq] at hfound
    rw [← List.take_append_drop 128 s, List.findIdx?_append, hfound]
    rfl
  | case3 s hs chunk hnone ih =>
    rw [nearer_eq] at hnone
    have hsplit : s.findIdx? isEol =
        ((s.drop 128).findIdx? isEol).map (· + (s.take 128).length) := by
      conv_lhs => rw [← List.take_append_drop 128 s]
      rw [List.findIdx?_append, hnone, Option.none_or]
    rw [ih, hsplit]
    rcases Nat.lt_or_ge s.length 128 with hshort | hlong
    · rw [List.drop_eq_nil_of_le hshort.le]
      rfl
    · rw [List.length_take, Nat.min_eq_left hlong]

/-- Where the first line end of a block is. -/
def FirstEol (s : Block) : Option Nat → Prop
  | none => OneLine s
  | some i => ∃ line b rest, s = line ++ b::rest ∧ line.length = i ∧ OneLine line ∧ isEol b

theorem isEol_false {b : UInt8} (h : isEol b = false) : b ≠ 10 ∧ b ≠ 13 := by
  simp only [isEol, Bool.or_eq_false_iff, beq_eq_false_iff_ne] at h
  exact ⟨h.2, h.1⟩

theorem findEolChar_spec (s : Block) : FirstEol s (findEolChar s) := by
  rw [findEolChar_eq]
  cases hfind : s.findIdx? isEol with
  | none => exact fun b hb => isEol_false (List.findIdx?_eq_none_iff.mp hfind b hb)
  | some i =>
    obtain ⟨hlt, heol, hbefore⟩ := List.findIdx?_eq_some_iff_getElem.mp hfind
    refine ⟨s.take i, s[i], s.drop (i + 1), ?_, ?_, ?_, heol⟩
    · rw [List.getElem_cons_drop, List.take_append_drop]
    · rw [List.length_take, Nat.min_eq_left hlt.le]
    · intro b hb
      obtain ⟨j, hj, rfl⟩ := List.mem_iff_getElem.mp hb
      rw [List.length_take] at hj
      rw [List.getElem_take]
      exact isEol_false (Bool.eq_false_iff.mpr (hbefore j (by omega)))

/-- What comes before the first line end goes to the line. -/
theorem readln_before {line : Block} (h : OneLine line) (s : Block) :
    readln (line ++ s) = (readln s).map fun r => (line ++ r.1, r.2) := by
  induction line with
  | nil => exact (Option.map_id' (x := readln s)).symm
  | cons b line ih =>
    obtain ⟨hlf, hcr⟩ := h b List.mem_cons_self
    rw [List.cons_append, readln, if_neg hlf, if_neg fun hb => hcr hb.1,
      ih fun c hc => h c (List.mem_cons_of_mem b hc), Option.map_map]
    rfl

namespace Evbuffer

variable {cs : List Chain} {i n : Nat}

/-- The bytes from a pointer on. -/
def rest (it : EvbufferPtr) : Block := (dataOf it.chain).drop it.posInChain

/-- The pointer is at a byte. -/
def AtByte (it : EvbufferPtr) : Prop := ∃ c cs, it.chain = c::cs ∧ it.posInChain < c.off

theorem drop_dataOf {c : Chain} (h : i ≤ c.off) (cs : List Chain) :
    (dataOf (c::cs)).drop i = c.data.drop i ++ dataOf cs := by
  rw [dataOf_cons, List.drop_append_of_le_length (c.data_length.symm ▸ h)]

/-- What `evbuffer_find_eol_char` finds in the bytes `s`, which start at `pos`. -/
def FoundEol (s : Block) (pos : Nat) : Option EvbufferPtr → Prop
  | none => OneLine s
  | some it => AtByte it ∧ ∃ line b after, s = line ++ b::after ∧ OneLine line ∧ isEol b ∧
      it.pos = pos + line.length ∧ rest it = b::after

theorem findEol_spec (pos : Nat) (h : ∀ c ∈ cs.head?, i ≤ c.off) :
    FoundEol ((dataOf cs).drop i) pos (findEol cs i pos) := by
  induction cs generalizing i pos with
  | nil =>
    rw [dataOf_nil, List.drop_nil]
    exact fun _ hb => absurd hb List.not_mem_nil
  | cons c cs ih =>
    have hi : i ≤ c.off := h c rfl
    have hlength : (c.data.drop i).length = c.off - i := by rw [List.length_drop, c.data_length]
    have hchunk := findEolChar_spec (c.data.drop i)
    rw [drop_dataOf hi, findEol]
    cases hfind : findEolChar (c.data.drop i) with
    | none =>
      rw [hfind] at hchunk
      have hnext := ih (i := 0) (pos + (c.off - i)) fun _ _ => Nat.zero_le _
      rw [List.drop_zero] at hnext
      dsimp only
      cases hfound : findEol cs 0 (pos + (c.off - i)) with
      | none =>
        rw [hfound] at hnext
        intro b hb
        rcases List.mem_append.mp hb with hb | hb
        · exact hchunk b hb
        · exact hnext b hb
      | some it =>
        rw [hfound] at hnext
        obtain ⟨hat, line, b, after, hsplit, hline, heol, hpos, hrest⟩ := hnext
        refine ⟨hat, c.data.drop i ++ line, b, after, ?_, ?_, heol, ?_, hrest⟩
        · rw [hsplit, List.append_assoc]
        · intro d hd
          rcases List.mem_append.mp hd with hd | hd
          · exact hchunk d hd
          · exact hline d hd
        · rw [hpos, List.length_append, hlength, Nat.add_assoc]
    | some cp =>
      rw [hfind] at hchunk
      obtain ⟨line, b, after, hsplit, hcp, hline, heol⟩ := hchunk
      have hlt : i + cp < c.off := by
        have := congrArg List.length hsplit
        rw [hlength, List.length_append, List.length_cons] at this
        omega
      refine ⟨⟨c, cs, rfl, hlt⟩, line, b, after ++ dataOf cs, ?_, hline, heol, by rw [hcp], ?_⟩
      · rw [hsplit, List.append_assoc, List.cons_append]
      · rw [rest, ← List.drop_drop, drop_dataOf hi, hsplit, ← hcp, List.append_assoc,
          List.drop_left, List.cons_append]

theorem getchr_spec {it : EvbufferPtr} {b : UInt8} {after : Block} (hat : AtByte it)
    (hrest : rest it = b::after) : getchr it = some b := by
  obtain ⟨c, cs, hchain, hlt⟩ := hat
  have hbyte : (rest it)[0]? = some b := by rw [hrest]; rfl
  rw [rest, hchain, drop_dataOf hlt.le, List.getElem?_append_left, List.getElem?_drop, Nat.add_zero,
    Chain.data, List.getElem?_take_of_lt hlt, List.getElem?_drop] at hbyte
  · rw [getchr, hchain]
    exact hbyte
  · rw [List.length_drop, c.data_length]
    omega

/-- Memory that is compared is data. -/
theorem take_buffer {c : Chain} (h : i + n ≤ c.off) :
    (c.buffer.drop (c.misalign + i)).take n = (c.data.drop i).take n := by
  rw [Chain.data, List.drop_take, List.take_take, List.drop_drop, Nat.min_eq_left (by omega)]

theorem memcmpChains_spec {mem : Block} (h : ∀ c ∈ cs.head?, i ≤ c.off)
    (hlength : mem.length ≤ ((dataOf cs).drop i).length) :
    memcmpChains cs i mem = true ↔ mem <+: (dataOf cs).drop i := by
  induction cs generalizing i mem with
  | nil =>
    rw [dataOf_nil, List.drop_nil] at hlength
    rw [List.length_eq_zero_iff.mp (Nat.le_zero.mp hlength)]
    exact iff_of_true rfl (List.nil_prefix)
  | cons c cs ih =>
    cases hmem : mem with
    | nil => exact iff_of_true rfl (List.nil_prefix)
    | cons m ms =>
      rw [← hmem]
      have hi : i ≤ c.off := h c rfl
      have hd : (c.data.drop i).length = c.off - i := by rw [List.length_drop, c.data_length]
      rw [drop_dataOf hi, List.length_append, hd] at hlength
      have hunfold : memcmpChains (c::cs) i mem =
          let n := if mem.length + i > c.off then c.off - i else mem.length
          if (c.buffer.drop (c.misalign + i)).take n = mem.take n then
            memcmpChains cs 0 (mem.drop n)
          else false := by
        rw [hmem]
        rfl
      rw [hunfold, drop_dataOf hi]
      dsimp only
      by_cases hlong : mem.length + i > c.off
      · rw [if_pos hlong, take_buffer (by omega), List.take_of_length_le hd.le]
        split_ifs with heq
        · have hshort : (mem.drop (c.off - i)).length ≤ ((dataOf cs).drop 0).length := by
            rw [List.length_drop, List.drop_zero]
            omega
          have hnext := ih (fun _ _ => Nat.zero_le _) hshort
          rw [hnext, List.drop_zero, ← List.prefix_append_right_inj (c.data.drop i)]
          nth_rewrite 1 [heq]
          rw [List.take_append_drop]
        · refine iff_of_false not_false fun hprefix => heq ?_
          have htake := List.prefix_iff_eq_take.mp hprefix
          rw [htake, List.take_take, Nat.min_eq_left (by omega), ← hd, List.take_left]
      · rw [if_neg hlong, take_buffer (by omega), List.take_length, List.drop_length]
        have htake : (c.data.drop i ++ dataOf cs).take mem.length =
            (c.data.drop i).take mem.length :=
          List.take_append_of_le_length (by omega)
        rw [List.prefix_iff_eq_take, htake]
        split_ifs with heq
        · refine iff_of_true ?_ heq.symm
          cases cs <;> rfl
        · exact iff_of_false not_false fun hmem => heq hmem.symm

/-- What `walk` finds in the bytes `s` when it goes some bytes ahead. -/
def Walked (s : Block) (pos left : Nat) : Option EvbufferPtr → Prop
  | none => s.length ≤ left
  | some it => AtByte it ∧ it.pos = pos ∧ rest it = s.drop left

theorem walk_spec (pos left : Nat) (h : ∀ c ∈ cs.head?, i ≤ c.off) :
    Walked ((dataOf cs).drop i) pos left (walk pos cs i left) := by
  induction cs generalizing i left with
  | nil =>
    rw [dataOf_nil, List.drop_nil]
    exact Nat.zero_le _
  | cons c cs ih =>
    have hi : i ≤ c.off := h c rfl
    have hd : (c.data.drop i).length = c.off - i := by rw [List.length_drop, c.data_length]
    rw [walk]
    split_ifs with hle
    · have hnext := ih (i := 0) (left - (c.off - i)) fun _ _ => Nat.zero_le _
      have hdrop : ((dataOf (c::cs)).drop i).drop left =
          ((dataOf cs).drop 0).drop (left - (c.off - i)) := by
        rw [drop_dataOf hi, List.drop_append, hd, List.drop_eq_nil_of_le (by omega),
          List.nil_append, List.drop_zero]
      cases hwalk : walk pos cs 0 (left - (c.off - i)) with
      | none =>
        rw [hwalk] at hnext
        change ((dataOf cs).drop 0).length ≤ _ at hnext
        change ((dataOf (c::cs)).drop i).length ≤ left
        rw [drop_dataOf hi, List.length_append, hd]
        rw [List.drop_zero] at hnext
        omega
      | some it =>
        rw [hwalk] at hnext
        exact ⟨hnext.1, hnext.2.1, hnext.2.2.trans hdrop.symm⟩
    · refine ⟨⟨c, cs, rfl, not_le.mp hle⟩, rfl, ?_⟩
      rw [rest, List.drop_drop]

theorem AtByte.le {it : EvbufferPtr} (h : AtByte it) :
    ∀ c ∈ it.chain.head?, it.posInChain ≤ c.off := by
  obtain ⟨c, cs, hchain, hlt⟩ := h
  intro d hd
  rw [hchain] at hd
  cases hd
  exact hlt.le

variable {b : Evbuffer}

/-- A carriage return is not followed by a line feed exactly when the comparison fails. -/
theorem ptrMemcmp_spec {it : EvbufferPtr} {after : Block} (hat : AtByte it)
    (hrest : rest it = 13::after) (htotal : it.pos + (rest it).length = b.totalLen) :
    b.ptrMemcmp it [13, 10] = true ↔ after.head? = some 10 := by
  have hprefix : [13, 10] <+: rest it ↔ after.head? = some 10 := by
    rw [hrest, List.cons_prefix_cons]
    cases after with
    | nil => simp
    | cons c after => simp [List.cons_prefix_cons, eq_comm]
  rw [← hprefix]
  unfold ptrMemcmp
  split_ifs with hlong
  · refine iff_of_false not_false fun hpre => ?_
    have := hpre.length_le
    omega
  · exact memcmpChains_spec hat.le (by change _ ≤ (rest it).length; omega)

/-- What `evbuffer_search_eol` finds in the bytes `s`, which start at `pos`. -/
def FoundLine (s : Block) (pos : Nat) : Option (EvbufferPtr × Nat) → Prop
  | none => Libevent.readln s = none
  | some (it, n) => ∃ line after, Libevent.readln s = some (line, after) ∧
      it.pos = pos + line.length ∧ s.take line.length = line ∧ s.drop (line.length + n) = after

theorem FoundLine.cons {pos : Nat} {line after : Block} {r : Option (EvbufferPtr × Nat)}
    (hline : OneLine line) (hcr : after.head? ≠ some 10)
    (h : FoundLine after (pos + line.length + 1) r) : FoundLine (line ++ 13::after) pos r := by
  have hread : Libevent.readln (line ++ 13::after) =
      (Libevent.readln after).map fun r => (line ++ 13::r.1, r.2) := by
    have hreturn : Libevent.readln (13::after) =
        (Libevent.readln after).map fun r => (13::r.1, r.2) := by
      rw [Libevent.readln, if_neg (by decide), if_neg fun hb => hcr hb.2]
    rw [readln_before hline, hreturn, Option.map_map]
    rfl
  cases r with
  | none =>
    change Libevent.readln _ = none
    rw [hread, show Libevent.readln after = none from h, Option.map_none]
  | some r =>
    obtain ⟨it, n⟩ := r
    obtain ⟨line', after', hafter, hpos, htake, hdrop⟩ := h
    have hlength : (line ++ 13::line').length = line.length + (line'.length + 1) := by
      rw [List.length_append, List.length_cons]
    refine ⟨line ++ 13::line', after', by rw [hread, hafter, Option.map_some], ?_, ?_, ?_⟩
    · rw [hpos, hlength]
      omega
    · rw [hlength, List.take_length_add_append, List.take_succ_cons, htake]
    · rw [hlength, Nat.add_assoc, Nat.add_right_comm, ← List.drop_drop, List.drop_left,
        List.drop_succ_cons, hdrop]

theorem searchEol_spec {fuel : Nat} {it : EvbufferPtr} (hfuel : (rest it).length < fuel)
    (htotal : it.pos + (rest it).length = b.totalLen)
    (hi : ∀ c ∈ it.chain.head?, it.posInChain ≤ c.off) :
    ∃ r, b.searchEol fuel it = some r ∧ FoundLine (rest it) it.pos r := by
  induction fuel generalizing it with
  | zero => exact absurd hfuel (Nat.not_lt_zero _)
  | succ fuel ih =>
    have hfound := findEol_spec it.pos hi
    change FoundEol (rest it) it.pos _ at hfound
    rw [searchEol]
    cases hfind : findEol it.chain it.posInChain it.pos with
    | none =>
      rw [hfind] at hfound
      exact ⟨none, rfl, readln_none fun b hb => (hfound b hb).1⟩
    | some e =>
      rw [hfind] at hfound
      obtain ⟨hat, line, c, after, hsplit, hline, heol, hpos, hrest⟩ := hfound
      have hlength : (rest it).length = line.length + (rest e).length := by
        rw [hsplit, hrest, List.length_append]
      simp only [bind, getchr_spec hat hrest, Option.bind_some]
      by_cases hlf : c = 10
      · subst hlf
        refine ⟨some (e, 1), if_pos rfl, line, after, ?_, hpos, ?_, ?_⟩
        · rw [hsplit, readln_before hline, Libevent.readln, if_pos rfl, Option.map_some,
            List.append_nil]
        · rw [hsplit, List.take_left]
        · rw [hsplit, ← List.drop_drop, List.drop_left]
          rfl
      rw [if_neg hlf]
      obtain rfl : c = 13 := by
        simp only [isEol, Bool.or_eq_true, beq_iff_eq] at heol
        exact heol.resolve_right hlf
      have hcmp := ptrMemcmp_spec (b := b) hat hrest (by omega)
      by_cases hcrlf : after.head? = some 10
      · obtain ⟨after', rfl⟩ := List.head?_eq_some_iff.mp hcrlf
        refine ⟨some (e, 2), if_pos (hcmp.mpr hcrlf), line, after', ?_, hpos, ?_, ?_⟩
        · rw [hsplit, readln_before hline, Libevent.readln, if_neg hlf, if_pos ⟨rfl, rfl⟩,
            Option.map_some, List.append_nil, List.tail_cons]
        · rw [hsplit, List.take_left]
        · rw [hsplit, ← List.drop_drop, List.drop_left]
          rfl
      · rw [if_neg fun htrue => hcrlf (hcmp.mp htrue), hsplit]
        have hwalk := walk_spec (e.pos + 1) 1 hat.le
        change Walked (rest e) _ _ (ptrAdd e 1) at hwalk
        rw [hrest] at hwalk hlength
        rw [List.length_cons] at hlength
        cases hadd : ptrAdd e 1 with
        | none =>
          rw [hadd] at hwalk
          obtain rfl : after = [] := List.length_eq_zero_iff.mp (Nat.le_zero.mp
            (Nat.le_of_succ_le_succ hwalk))
          exact ⟨none, rfl, FoundLine.cons (r := none) hline hcrlf rfl⟩
        | some e' =>
          rw [hadd] at hwalk
          obtain ⟨hat', hpos', hrest'⟩ := hwalk
          rw [List.drop_one, List.tail_cons] at hrest'
          have hshort : (rest e').length < fuel := by
            rw [hrest']
            omega
          have htotal' : e'.pos + (rest e').length = b.totalLen := by
            rw [hpos', hrest']
            omega
          obtain ⟨r, hsearch, hr⟩ := ih hshort htotal' hat'.le
          rw [hrest', hpos', hpos] at hr
          exact ⟨r, hsearch, FoundLine.cons hline hcrlf hr⟩

/-- Reading a line of the chains is reading a line of their bytes. -/
theorem readln_spec (h : WellFormed b) :
    ∃ b', b.readln = some ((Libevent.readln b.bytes).map Prod.fst, b') ∧ WellFormed b' ∧
      b'.bytes = ((Libevent.readln b.bytes).map Prod.snd).getD b.bytes := by
  obtain ⟨full, empties, hlaid⟩ := h
  have htotal := hlaid.totalLen
  let first : EvbufferPtr := ⟨0, b.chains, 0⟩
  have hfuel : (rest first).length < b.totalLen + 1 := by
    rw [htotal]
    exact Nat.lt_succ_self _
  have hpos : first.pos + (rest first).length = b.totalLen := by
    rw [htotal]
    exact Nat.zero_add _
  obtain ⟨r, hsearch, hr⟩ := searchEol_spec hfuel hpos fun _ _ => Nat.zero_le _
  change FoundLine b.bytes 0 r at hr
  unfold readln
  rw [hsearch]
  cases r with
  | none =>
    rw [show Libevent.readln b.bytes = none from hr]
    exact ⟨b, rfl, ⟨full, empties, hlaid⟩, rfl⟩
  | some r =>
    obtain ⟨e, n⟩ := r
    obtain ⟨line, after, hline, hpos, htake, hdrop⟩ := hr
    rw [Nat.zero_add] at hpos
    obtain ⟨b₁, hremove, hwell, hbytes⟩ := remove_spec ⟨full, empties, hlaid⟩ e.pos
    obtain ⟨b', hdrain, hwell', hbytes'⟩ := drain_spec hwell n
    refine ⟨b', ?_, hwell', ?_⟩
    · simp only [bind, Option.bind_some, hremove, hdrain]
      rw [hline, hpos, htake]
      rfl
    · rw [hbytes', hbytes, hpos, List.drop_drop, hdrop, hline]
      rfl

end Evbuffer

end KinectHelper.Libevent
