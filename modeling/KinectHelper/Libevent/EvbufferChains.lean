import Mathlib.Data.List.TakeWhile
import KinectHelper.Libevent.Chain

namespace KinectHelper.Libevent

/-- A `struct evbuffer`. `last` is the place of a chain; `lastWithData` is 0 for `&buf->first` and
one more than the place of a chain for the `next` of it. -/
structure Evbuffer where
  chains : List Chain
  last : Option Nat
  lastWithData : Nat
  totalLen : Nat

namespace Evbuffer

/-- `evbuffer_new`, and `ZERO_CHAIN` -/
def new : Evbuffer := ⟨[], none, 0, 0⟩

/-- What chains hold, one after the other. -/
def dataOf (cs : List Chain) : Block := cs.flatMap Chain.data

/-- What an evbuffer holds. -/
def bytes (b : Evbuffer) : Block := dataOf b.chains

/-- `evbuffer_chains_all_empty` -/
def chainsAllEmpty (cs : List Chain) : Bool := cs.all fun c => decide (c.off = 0)

/-- The place of the first chain without data, from `*last_with_datap` on. -/
def firstVictim (b : Evbuffer) : Nat :=
  b.lastWithData +
    ((b.chains.drop b.lastWithData).takeWhile fun c => decide (c.off ≠ 0)).length

/-- `evbuffer_free_trailing_empty_chains` -/
def freeTrailingEmptyChains (b : Evbuffer) : Option (Evbuffer × Nat) :=
  if chainsAllEmpty (b.chains.drop b.firstVictim) then
    some ({ b with chains := b.chains.take b.firstVictim }, b.firstVictim)
  else none

/-- `evbuffer_chain_insert` -/
def chainInsert (b : Evbuffer) (c : Chain) : Option Evbuffer :=
  let totalLen := b.totalLen + c.off
  match b.chains[b.lastWithData]?, b.chains[b.firstVictim]? with
  | none, _ =>
      if b.lastWithData = 0 then some ⟨[c], some 0, 0, totalLen⟩ else none
  | some _, none =>
      match b.last with
      | none => none
      | some last => some {
          chains := b.chains.take (last + 1) ++ [c]
          last := some (last + 1)
          lastWithData := if c.off ≠ 0 then last + 1 else b.lastWithData
          totalLen := totalLen }
  | some _, some _ =>
      if chainsAllEmpty (b.chains.drop b.firstVictim) then some {
        chains := b.chains.take b.firstVictim ++ [c]
        last := some b.firstVictim
        lastWithData := b.lastWithData
        totalLen := totalLen }
      else none

/-- `advance_last_with_data` -/
def advanceLastWithData (b : Evbuffer) : Evbuffer :=
  match b.chains[b.lastWithData]? with
  | none => b
  | some _ => { b with
      lastWithData := b.lastWithData +
        ((b.chains.drop (b.lastWithData + 1)).takeWhile fun c => decide (c.off ≠ 0)).length }

/-- Another chain in a place, and the bytes that it has more. -/
def replace (b : Evbuffer) (i : Nat) (c : Chain) (more : Nat) : Evbuffer :=
  { b with chains := b.chains.set i c, totalLen := b.totalLen + more }

/-- `evbuffer_add` -/
def add (p : Platform) (b : Evbuffer) (data : Block) : Option Evbuffer := do
  let b ← match b.last with
    | none => b.chainInsert (p.chainNew data.length)
    | some _ => some b
  let last ← b.last
  let chain ← b.chains[last]?
  let remain := chain.spaceLen
  if data.length ≤ remain then
    let chain ← chain.append data
    some (b.replace last chain data.length)
  else if chain.shouldRealign data.length then
    let chain ← chain.align.append data
    some (b.replace last chain data.length)
  else
    let bufferLen := chain.buffer.length
    let toAlloc := if bufferLen ≤ 4096 / 2 then 2 * bufferLen else bufferLen
    let tmp := p.chainNew (if toAlloc < data.length then data.length else toAlloc)
    let chain ← chain.append (data.take remain)
    let tmp ← tmp.append (data.drop remain)
    (b.replace last chain remain).chainInsert tmp

/-- `evbuffer_add_buffer`: the buffer that takes the chains, and the one that gives them. -/
def addBuffer (outbuf inbuf : Evbuffer) : Option (Evbuffer × Evbuffer) :=
  if inbuf.totalLen = 0 then some (outbuf, inbuf)
  else if outbuf.totalLen = 0 then some (inbuf, new)
  else outbuf.last.map fun last =>
    ({ chains := outbuf.chains.take (last + 1) ++ inbuf.chains
       last := inbuf.last.map (last + 1 + ·)
       lastWithData := last + 1 + inbuf.lastWithData
       totalLen := outbuf.totalLen + inbuf.totalLen }, new)

/-- The loop of `evbuffer_drain` from the chain at `i` on: the place where it stops,
`last_with_datap`, and what remains to be drained there. -/
def freeChains (i lastWithData : Nat) : List Chain → Nat → Option (Nat × Nat × Nat)
  | [], _ => none
  | c::cs, remaining =>
      if c.off ≤ remaining then
        freeChains (i + 1) (if lastWithData = i ∨ lastWithData = i + 1 then 0 else lastWithData) cs
          (remaining - c.off)
      else some (i, lastWithData, remaining)

/-- `evbuffer_drain` -/
def drain (b : Evbuffer) (len : Nat) : Option Evbuffer :=
  if b.totalLen = 0 then some b
  else if b.totalLen ≤ len then some new
  else do
    let (i, lastWithData, remaining) ← freeChains 0 b.lastWithData b.chains len
    let chain ← b.chains[i]?
    let chain ← chain.skip remaining
    some {
      chains := chain::b.chains.drop (i + 1)
      last := b.last.map (· - i)
      lastWithData := lastWithData - i
      totalLen := b.totalLen - len }

/-- The loop of `evbuffer_copyout`, and the copy after it. -/
def copyChains : List Chain → Nat → Option Block
  | _, 0 => some []
  | [], _+1 => none
  | c::cs, datlen@(_+1) =>
      if c.off ≤ datlen then (copyChains cs (datlen - c.off)).map (c.data ++ ·)
      else loadBytes c.buffer c.misalign datlen

/-- `evbuffer_copyout` -/
def copyout (b : Evbuffer) (datlen : Nat) : Option Block :=
  copyChains b.chains (if b.totalLen ≤ datlen then b.totalLen else datlen)

/-- `evbuffer_remove` -/
def remove (b : Evbuffer) (datlen : Nat) : Option (Block × Evbuffer) := do
  let data ← b.copyout datlen
  let b ← if data = [] then some b else b.drain data.length
  some (data, b)

/-- The loop of `evbuffer_remove_buffer` from the chain at `i` on, as `freeChains`. It asserts that
the last chain with data is not passed. -/
def passChains (i lastWithData : Nat) : List Chain → Nat → Option (Nat × Nat × Nat)
  | [], _ => none
  | c::cs, datlen =>
      if c.off ≤ datlen then
        if lastWithData = i then none
        else
          passChains (i + 1) (if lastWithData = i + 1 then 0 else lastWithData) cs (datlen - c.off)
      else some (i, lastWithData, datlen)

/-- The first `n` chains of one buffer, with `nread` bytes, go to the end of another. -/
def moveChains (src dst : Evbuffer) (n nread : Nat) : Option (Evbuffer × Evbuffer) := do
  let (dst, chp) ← dst.freeTrailingEmptyChains
  let chains := dst.chains.take chp ++ src.chains.take n
  let dst := advanceLastWithData { dst with chains := chains, last := some (chains.length - 1) }
  some ({ src with
      chains := src.chains.drop n
      last := src.last.map (· - n)
      lastWithData := src.lastWithData - n },
    { dst with totalLen := dst.totalLen + nread })

/-- `evbuffer_remove_buffer`: both buffers, and the number of bytes moved. -/
def removeBuffer (p : Platform) (src dst : Evbuffer) (datlen : Nat) :
    Option (Evbuffer × Evbuffer × Nat) :=
  if datlen = 0 then some (src, dst, 0)
  else if src.totalLen ≤ datlen then
    (dst.addBuffer src).map fun r => (r.2, r.1, src.totalLen)
  else do
    let (n, lastWithData, rest) ← passChains 0 src.lastWithData src.chains datlen
    let nread := datlen - rest
    let src := { src with lastWithData := lastWithData }
    let moved := if nread = 0 then some (src, dst) else moveChains src dst n nread
    let (src, dst) ← moved
    -- without a chain to move, `src->first` stays as it was
    let i := if nread = 0 then n else 0
    let chain ← src.chains[i]?
    let data ← loadBytes chain.buffer chain.misalign rest
    let dst ← dst.add p data
    let chain ← chain.skip rest
    some ({ src with
        chains := src.chains.set i chain
        totalLen := src.totalLen - (nread + rest) }, dst, nread + rest)

/-- What `_evbuffer_validate` of the tests asserts. -/
structure Valid (b : Evbuffer) : Prop where
  no_chain : b.chains = [] → b.last = none ∧ b.totalLen = 0
  last : b.chains ≠ [] → b.last = some (b.chains.length - 1)
  found : b.lastWithData ≤ b.chains.length
  lastWithData : b.chains ≠ [] → b.lastWithData < b.chains.length
  no_data : ∀ c, b.chains[b.lastWithData]? = some c → c.off = 0 ∨ b.totalLen = 0 →
    c.off = 0 ∧ b.lastWithData = 0 ∧ b.totalLen = 0
  trailing : ∀ c ∈ b.chains.drop (b.lastWithData + 1), c.off = 0
  no_last : b.chains[b.lastWithData]? = none → b.lastWithData = 0
  sum : (b.chains.map Chain.off).sum = b.totalLen

/-- The chains with data come first; the pointers and the count are the ones of the chains. -/
structure Laid (b : Evbuffer) (full empties : List Chain) : Prop where
  chains : b.chains = full ++ empties
  hasData : ∀ c ∈ full, c.off ≠ 0
  isEmpty : ∀ c ∈ empties, c.off = 0 ∧ c.misalign = 0 ∧ 0 < c.buffer.length
  last : b.last = if b.chains = [] then none else some (b.chains.length - 1)
  lastWithData : b.lastWithData = full.length - 1
  totalLen : b.totalLen = b.bytes.length

def WellFormed (b : Evbuffer) : Prop := ∃ full empties, Laid b full empties

@[simp] theorem dataOf_nil : dataOf [] = [] := rfl

@[simp] theorem dataOf_cons (c : Chain) (cs : List Chain) : dataOf (c::cs) = c.data ++ dataOf cs :=
  rfl

@[simp] theorem dataOf_append (cs ds : List Chain) : dataOf (cs ++ ds) = dataOf cs ++ dataOf ds :=
  List.flatMap_append

theorem dataOf_empties {cs : List Chain} (h : ∀ c ∈ cs, c.off = 0) : dataOf cs = [] :=
  List.flatMap_eq_nil_iff.mpr fun c hc => Chain.off_eq_zero_iff.mp (h c hc)

theorem dataOf_length (cs : List Chain) : (dataOf cs).length = (cs.map Chain.off).sum := by
  induction cs with
  | nil => rfl
  | cons c cs ih =>
    rw [dataOf_cons, List.length_append, c.data_length, ih, List.map_cons, List.sum_cons]

theorem dataOf_pos {c : Chain} {cs : List Chain} (h : ∀ d ∈ c::cs, d.off ≠ 0) :
    0 < (dataOf (c::cs)).length := by
  have hc := h c List.mem_cons_self
  rw [dataOf_cons, List.length_append, c.data_length]
  omega

end Evbuffer

end KinectHelper.Libevent
