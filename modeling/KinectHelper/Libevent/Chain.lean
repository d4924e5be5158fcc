import Mathlib.Tactic.SplitIfs
import KinectHelper.Framework.Memory

namespace KinectHelper.Libevent

/-- What the code takes from its surroundings. -/
structure Platform where
  /-- `EVBUFFER_CHAIN_SIZE` -/
  chainSize : Nat
  /-- `MIN_BUFFER_SIZE` -/
  minBufferSize : Nat
  chainSize_lt : chainSize < minBufferSize
  /-- the vectors that one read is given: four for `readv`, two for `WSARecv` -/
  vecs : Nat
  vecs_pos : 0 < vecs
  /-- the bytes that `malloc` leaves in new memory -/
  memory : Nat → Block
  memory_length : ∀ n, (memory n).length = n

/-- A `struct evbuffer_chain` with memory of its own; `data` is what it holds. -/
@[ext] structure Chain where
  buffer : Block
  misalign : Nat
  off : Nat
  fits : misalign + off ≤ buffer.length

namespace Chain

def data (c : Chain) : Block := (c.buffer.drop c.misalign).take c.off

/-- `CHAIN_SPACE_LEN` -/
def spaceLen (c : Chain) : Nat := c.buffer.length - (c.misalign + c.off)

/-- A write at `CHAIN_SPACE_PTR`. -/
def store (c : Chain) (bytes : Block) : Option Chain :=
  match h : storeBytes c.buffer (c.misalign + c.off) bytes with
  | none => none
  | some buffer => some { c with
      buffer := buffer
      fits := (storeBytes_length h).symm ▸ c.fits }

/-- `chain->off += n` -/
def grow (c : Chain) (n : Nat) : Option Chain :=
  if h : c.misalign + (c.off + n) ≤ c.buffer.length then some { c with off := c.off + n, fits := h }
  else none

def append (c : Chain) (bytes : Block) : Option Chain :=
  (c.store bytes).bind fun c' => c'.grow bytes.length

/-- `chain->misalign += n; chain->off -= n` -/
def skip (c : Chain) (n : Nat) : Option Chain :=
  if h : n ≤ c.off then some { c with
    misalign := c.misalign + n
    off := c.off - n
    fits := by
      have := c.fits
      omega }
  else none

/-- `chain->misalign = 0` -/
def resetMisalign (c : Chain) : Chain :=
  { c with
    misalign := 0
    fits := by
      have := c.fits
      omega }

theorem data_length (c : Chain) : c.data.length = c.off := by
  have := c.fits
  unfold data
  rw [List.length_take, List.length_drop]
  omega

/-- `evbuffer_chain_align` -/
def align (c : Chain) : Chain where
  buffer := c.data ++ c.buffer.drop c.off
  misalign := 0
  off := c.off
  fits := by
    rw [List.length_append, data_length]
    omega

/-- `evbuffer_chain_should_realign` -/
def shouldRealign (c : Chain) (datlen : Nat) : Bool :=
  decide (datlen ≤ c.buffer.length - c.off ∧ c.off < c.buffer.length / 2 ∧ c.off ≤ 2048)

end Chain

/-- `to_alloc` of `evbuffer_chain_new`, which is doubled at most `fuel` times. -/
def doubledTo (size : Nat) : Nat → Nat → Nat
  | 0, alloc => alloc
  | fuel+1, alloc => if alloc < size then doubledTo size fuel (2 * alloc) else alloc

/-- `evbuffer_chain_new` -/
def Platform.chainNew (p : Platform) (size : Nat) : Chain where
  buffer :=
    let size := size + p.chainSize
    p.memory (doubledTo size size p.minBufferSize - p.chainSize)
  misalign := 0
  off := 0
  fits := Nat.zero_le _

namespace Chain

variable {c c' : Chain} {bytes : Block} {n : Nat}

theorem store_spec (h : bytes.length ≤ c.spaceLen) :
    ∃ c', c.store bytes = some c' ∧ c'.misalign = c.misalign ∧ c'.off = c.off ∧
      c'.buffer = c.buffer.take (c.misalign + c.off) ++ bytes ++
        c.buffer.drop (c.misalign + c.off + bytes.length) := by
  have hfits := c.fits
  unfold spaceLen at h
  have hstore : storeBytes c.buffer (c.misalign + c.off) bytes =
      some (c.buffer.take (c.misalign + c.off) ++ bytes ++
        c.buffer.drop (c.misalign + c.off + bytes.length)) := by
    rw [storeBytes, if_pos (by omega)]
  unfold store
  split
  · next hnone =>
    rw [hstore] at hnone
    cases hnone
  · next buffer hsome =>
    rw [hstore] at hsome
    cases hsome
    exact ⟨_, rfl, rfl, rfl, rfl⟩

theorem store_nil (c : Chain) : c.store [] = some c := by
  have hnil : ([] : Block).length ≤ c.spaceLen := Nat.zero_le _
  obtain ⟨c', hstore, hmisalign, hoff, hbuffer⟩ := store_spec hnil
  rw [hstore]
  congr 1
  ext1
  · rw [hbuffer, List.append_nil, List.length_nil, Nat.add_zero, List.take_append_drop]
  · exact hmisalign
  · exact hoff

/-- Bytes written after the data become data when `off` grows over them. -/
theorem store_grow (h : bytes.length ≤ c.spaceLen) :
    ∃ c₁ c₂, c.store bytes = some c₁ ∧ c₁.spaceLen = c.spaceLen ∧
      c₁.grow bytes.length = some c₂ ∧ c₂.data = c.data ++ bytes := by
  obtain ⟨c₁, hstore, hmisalign, hoff, hbuffer⟩ := store_spec h
  have hfits := c.fits
  unfold spaceLen at h
  have hlength : c₁.buffer.length = c.buffer.length := by
    rw [hbuffer]
    simp only [List.length_append, List.length_take, List.length_drop]
    omega
  have hgrow : c₁.misalign + (c₁.off + bytes.length) ≤ c₁.buffer.length := by
    rw [hlength, hmisalign, hoff]
    omega
  have hbefore : (c.buffer.take (c.misalign + c.off)).drop c.misalign = c.data := by
    rw [← List.take_drop]
    rfl
  have hmisaligned : c.misalign ≤ (c.buffer.take (c.misalign + c.off)).length := by
    rw [List.length_take]
    omega
  refine ⟨c₁, { c₁ with off := c₁.off + bytes.length, fits := hgrow }, hstore, ?_, ?_, ?_⟩
  · unfold spaceLen
    rw [hlength, hmisalign, hoff]
  · rw [grow, dif_pos hgrow]
  · change (c₁.buffer.drop c₁.misalign).take (c₁.off + bytes.length) = c.data ++ bytes
    rw [hbuffer, hmisalign, hoff, List.append_assoc, List.drop_append_of_le_length hmisaligned,
      hbefore, ← c.data_length, ← List.append_assoc, ← List.length_append, List.take_left]

theorem append_spec (h : bytes.length ≤ c.spaceLen) :
    ∃ c', c.append bytes = some c' ∧ c'.data = c.data ++ bytes := by
  obtain ⟨c₁, c₂, hstore, _, hgrow, hdata⟩ := store_grow h
  exact ⟨c₂, by rw [append, hstore, Option.bind_some, hgrow], hdata⟩

theorem append_nil (c : Chain) : c.append [] = some c := by
  rw [append, store_nil, Option.bind_some]
  exact dif_pos c.fits

theorem skip_spec (h : n ≤ c.off) : ∃ c', c.skip n = some c' ∧ c'.data = c.data.drop n := by
  refine ⟨_, dif_pos h, ?_⟩
  change (c.buffer.drop (c.misalign + n)).take (c.off - n) = c.data.drop n
  rw [data, List.drop_take, List.drop_drop]

/-- A read at the start of the data. -/
theorem loadBytes_data (h : n ≤ c.off) :
    loadBytes c.buffer c.misalign n = some (c.data.take n) := by
  have hfits := c.fits
  rw [loadBytes, if_pos (by omega), data, List.take_take, Nat.min_eq_left h]

theorem off_eq_zero_iff : c.off = 0 ↔ c.data = [] := by
  rw [← c.data_length, List.length_eq_zero_iff]

theorem align_data (c : Chain) : c.align.data = c.data := by
  change ((c.data ++ c.buffer.drop c.off).drop 0).take c.off = c.data
  rw [List.drop_zero, ← c.data_length, List.take_left]

theorem align_spaceLen (c : Chain) : c.align.spaceLen = c.buffer.length - c.off := by
  have hfits := c.fits
  unfold spaceLen align
  simp only [List.length_append, List.length_drop, data_length]
  omega

theorem resetMisalign_self (h : c.misalign = 0) : c.resetMisalign = c := by
  ext1
  · rfl
  · exact h.symm
  · rfl

end Chain

/-- Doubling goes on until the size is reached. -/
theorem le_doubledTo {size fuel alloc : Nat} (hpos : 0 < alloc) (h : size ≤ alloc + fuel) :
    size ≤ doubledTo size fuel alloc ∧ alloc ≤ doubledTo size fuel alloc := by
  induction fuel generalizing alloc with
  | zero => exact ⟨h, le_rfl⟩
  | succ fuel ih =>
    unfold doubledTo
    split_ifs with hlt
    · have hnext : size ≤ 2 * alloc + fuel := by omega
      obtain ⟨hsize, halloc⟩ := ih (by omega) hnext
      exact ⟨hsize, by omega⟩
    · exact ⟨not_lt.mp hlt, le_rfl⟩

namespace Platform

variable (p : Platform) (size : Nat)

/-- A new chain has the room that was asked for, and some in any case. -/
theorem chainNew_room :
    size ≤ (p.chainNew size).buffer.length ∧ 0 < (p.chainNew size).buffer.length := by
  have hmin := p.chainSize_lt
  have hfuel : size + p.chainSize ≤ p.minBufferSize + (size + p.chainSize) := Nat.le_add_left _ _
  obtain ⟨hsize, halloc⟩ := le_doubledTo (by omega) hfuel
  unfold chainNew
  dsimp only
  rw [p.memory_length]
  omega

@[simp] theorem chainNew_data : (p.chainNew size).data = [] := List.take_zero

@[simp] theorem chainNew_spaceLen :
    (p.chainNew size).spaceLen = (p.chainNew size).buffer.length := Nat.sub_zero _

theorem chainNew_space : size ≤ (p.chainNew size).spaceLen := by
  rw [chainNew_spaceLen]
  exact (chainNew_room p size).1

end Platform

end KinectHelper.Libevent
