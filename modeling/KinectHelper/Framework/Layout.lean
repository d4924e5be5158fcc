import KinectHelper.Framework.Memory
import Mathlib.Logic.Equiv.Defs

namespace KinectHelper

/-- `bytes` and `value` are inverse on the blocks of the given size. -/
structure Layout (α : Type*) where
  size : Nat
  align : Nat
  bytes : α → Block
  value : Block → α
  align_dvd : align ∣ size
  bytes_length : ∀ a, (bytes a).length = size
  value_bytes : ∀ a, value (bytes a) = a
  bytes_value : ∀ b, b.length = size → bytes (value b) = b

namespace Layout

variable {α β : Type*}

/-- Every block of the size is the image of exactly one value. -/
theorem existsUnique_bytes (A : Layout α) {b : Block} (hb : b.length = A.size) :
    ∃! a, A.bytes a = b := by
  refine ⟨A.value b, A.bytes_value b hb, ?_⟩
  intro a ha
  rw [← ha, A.value_bytes]

def word : Layout UInt32 where
  size := 4
  align := 4
  bytes := wordBytes
  value b := UInt32.ofNat (leValue b)
  align_dvd := Nat.dvd_refl 4
  bytes_length := wordBytes_length
  value_bytes := ofNat_leValue_wordBytes
  bytes_value _ hb := wordBytes_ofNat_leValue hb

def longWord : Layout UInt64 where
  size := 8
  align := 8
  bytes w := leBytes 8 w.toNat
  value b := UInt64.ofNat (leValue b)
  align_dvd := Nat.dvd_refl 8
  bytes_length _ := leBytes_length 8 _
  value_bytes w := by
    have hw : w.toNat < 2^64 := w.toNat_lt
    rw [leValue_leBytes, Nat.mod_eq_of_lt (by omega)]
    exact UInt64.ofNat_toNat
  bytes_value b hb := by
    have hlt := leValue_lt b
    rw [hb] at hlt
    have hvalue : (UInt64.ofNat (leValue b)).toNat = leValue b := by
      rw [UInt64.toNat_ofNat', Nat.mod_eq_of_lt (by omega)]
    rw [hvalue, ← hb, leBytes_leValue]

/-- The same bytes read as another type. -/
def as (A : Layout α) (e : α ≃ β) : Layout β where
  size := A.size
  align := A.align
  bytes b := A.bytes (e.symm b)
  value b := e (A.value b)
  align_dvd := A.align_dvd
  bytes_length b := A.bytes_length (e.symm b)
  value_bytes b := by rw [A.value_bytes, e.apply_symm_apply]
  bytes_value b hb := by rw [e.symm_apply_apply, A.bytes_value b hb]

/-- Two members in a row, with no padding between them and none behind. -/
def pair (A : Layout α) (B : Layout β) (_ : B.align ∣ A.size)
    (htail : A.align.lcm B.align ∣ A.size + B.size) : Layout (α × β) where
  size := A.size + B.size
  align := A.align.lcm B.align
  bytes p := A.bytes p.1 ++ B.bytes p.2
  value b := (A.value (b.take A.size), B.value (b.drop A.size))
  align_dvd := htail
  bytes_length p := by rw [List.length_append, A.bytes_length, B.bytes_length]
  value_bytes p := by
    have hlen := A.bytes_length p.1
    rw [← hlen, List.take_left, List.drop_left, A.value_bytes, B.value_bytes]
  bytes_value b hb := by
    have htake : (b.take A.size).length = A.size := by
      rw [List.length_take]
      omega
    have hdrop : (b.drop A.size).length = B.size := by
      rw [List.length_drop]
      omega
    rw [A.bytes_value _ htake, B.bytes_value _ hdrop, List.take_append_drop]

/-- A block is the sequence of its chunks. -/
theorem flatMap_chunks (b : Block) (k n : Nat) :
    (List.range n).flatMap (fun i => (b.drop (k * i)).take k) = b.take (k * n) := by
  induction n with
  | zero => simp
  | succ n ih =>
    rw [List.range_succ, List.flatMap_append, ih, List.flatMap_singleton, Nat.mul_succ,
      List.take_add]

def array (A : Layout α) (n : Nat) : Layout (Vector α n) where
  size := A.size * n
  align := A.align
  bytes v := v.toList.flatMap A.bytes
  value b := Vector.ofFn fun i => A.value ((b.drop (A.size * i)).take A.size)
  align_dvd := A.align_dvd.mul_right n
  bytes_length v := by rw [flatMap_length A.bytes A.size A.bytes_length, Vector.length_toList]
  value_bytes v := by
    apply Vector.ext
    intro i hi
    have hin : i < v.toList.length := by rwa [Vector.length_toList]
    obtain ⟨hsplit, hpre⟩ := flatMap_split A.bytes A.size A.bytes_length v.toList hin
    have hchunk : ((v.toList.flatMap A.bytes).drop (A.size * i)).take A.size =
        A.bytes v.toList[i] := by
      have hlen := A.bytes_length v.toList[i]
      rw [hsplit, ← hpre, List.append_assoc, List.drop_left]
      conv_lhs => rw [← hlen]
      exact List.take_left
    rw [Vector.getElem_ofFn]
    dsimp only
    rw [hchunk, A.value_bytes, Vector.getElem_toList]
  bytes_value b hb := by
    have hchunk : ∀ i ∈ List.range n,
        A.bytes (A.value ((b.drop (A.size * i)).take A.size)) =
          (b.drop (A.size * i)).take A.size := by
      intro i hi
      apply A.bytes_value
      have hroom := Nat.mul_le_mul_left A.size (List.mem_range.mp hi)
      rw [Nat.mul_succ] at hroom
      rw [List.length_take, List.length_drop]
      omega
    have hlist : (Vector.ofFn fun i : Fin n =>
        A.value ((b.drop (A.size * i)).take A.size)).toList =
        (List.range n).map fun i => A.value ((b.drop (A.size * i)).take A.size) := by
      apply List.ext_getElem
      · rw [Vector.length_toList, List.length_map, List.length_range]
      · intro i h1 h2
        rw [Vector.getElem_toList, Vector.getElem_ofFn, List.getElem_map, List.getElem_range]
    calc (Vector.ofFn fun i : Fin n =>
          A.value ((b.drop (A.size * i)).take A.size)).toList.flatMap A.bytes
        = (List.range n).flatMap fun i =>
            A.bytes (A.value ((b.drop (A.size * i)).take A.size)) := by
          rw [hlist, List.flatMap_map]
      _ = (List.range n).flatMap fun i => (b.drop (A.size * i)).take A.size :=
          List.flatMap_congr hchunk
      _ = b.take (A.size * n) := flatMap_chunks b A.size n
      _ = b := by rw [← hb, List.take_length]

end Layout

end KinectHelper
