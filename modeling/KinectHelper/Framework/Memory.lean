import Mathlib.Data.List.Basic
import Mathlib.Tactic.Ring

namespace KinectHelper

/-- Two data models: a `long` is as long as a pointer. -/
inductive Abi where
  | ilp32
  | lp64
  deriving DecidableEq

def Abi.sizeofPointer : Abi → Nat
  | .ilp32 => 4
  | .lp64 => 8

/-- The bits of a `long`. -/
def Abi.longBits : Abi → Nat
  | .ilp32 => 32
  | .lp64 => 64

/-- The bytes an allocated pointer designates. -/
abbrev Block := List UInt8

def zeros (n : Nat) : Block := List.replicate n 0

/-- `n` bytes at offset `off`; `none` is an access outside the block. -/
def loadBytes (b : Block) (off n : Nat) : Option (List UInt8) :=
  if off + n ≤ b.length then some ((b.drop off).take n) else none

/-- Overwrite the bytes at offset `off`; `none` is an access outside the block. -/
def storeBytes (b : Block) (off : Nat) (src : List UInt8) : Option Block :=
  if off + src.length ≤ b.length
  then some (b.take off ++ src ++ b.drop (off + src.length)) else none

@[simp] theorem zeros_length (n : Nat) : (zeros n).length = n := List.length_replicate

theorem loadBytes_eq_some_iff (b : Block) (off n : Nat) (bs : List UInt8) :
    loadBytes b off n = some bs ↔ off + n ≤ b.length ∧ (b.drop off).take n = bs := by
  unfold loadBytes
  split_ifs with h <;> simp [h]

theorem loadBytes_all (b : Block) : loadBytes b 0 b.length = some b := by
  simp [loadBytes]

theorem loadBytes_middle (pre mid post : List UInt8) :
    loadBytes (pre ++ mid ++ post) pre.length mid.length = some mid := by
  rw [loadBytes_eq_some_iff]
  constructor
  · simp only [List.length_append]
    omega
  · simp [List.append_assoc]

theorem storeBytes_middle (pre mid post src : List UInt8) (h : src.length = mid.length) :
    storeBytes (pre ++ mid ++ post) pre.length src = some (pre ++ src ++ post) := by
  have hle : pre.length + src.length ≤ (pre ++ mid ++ post).length := by
    simp only [List.length_append]
    omega
  have hpre : (pre ++ mid ++ post).take pre.length = pre := by
    rw [List.append_assoc, List.take_left]
  have hpost : (pre ++ mid ++ post).drop (pre.length + src.length) = post := by
    rw [h, ← List.length_append, List.drop_left]
  rw [storeBytes, if_pos hle, hpre, hpost]

theorem storeBytes_length {b c : Block} {off : Nat} {src : List UInt8}
    (h : storeBytes b off src = some c) : c.length = b.length := by
  unfold storeBytes at h
  split_ifs at h with hle
  obtain rfl := Option.some.inj h
  simp only [List.length_append, List.length_take, List.length_drop]
  omega

/-- Two stores in a row are one. -/
theorem storeBytes_append (b : Block) (off : Nat) (xs ys : List UInt8) :
    (storeBytes b off xs).bind (fun c => storeBytes c (off + xs.length) ys) =
      storeBytes b off (xs ++ ys) := by
  by_cases hx : off + xs.length ≤ b.length
  · have hpre : (b.take off ++ xs).length = off + xs.length := by
      rw [List.length_append, List.length_take, Nat.min_eq_left (by omega)]
    have hlen : (b.take off ++ xs ++ b.drop (off + xs.length)).length = b.length := by
      rw [List.length_append, hpre, List.length_drop]
      omega
    have hpost : (b.take off ++ xs ++ b.drop (off + xs.length)).drop (off + xs.length + ys.length) =
        b.drop (off + xs.length + ys.length) := by
      rw [List.drop_append, hpre, List.drop_eq_nil_of_le (by omega), List.nil_append,
        Nat.add_sub_cancel_left, List.drop_drop]
    rw [storeBytes, if_pos hx, Option.bind_some, storeBytes, storeBytes, hlen, hpost,
      List.length_append, ← Nat.add_assoc, ← hpre, List.take_left, List.append_assoc _ xs ys]
  · have hxy : ¬ off + (xs ++ ys).length ≤ b.length := by
      rw [List.length_append]
      omega
    rw [storeBytes, if_neg hx, storeBytes, if_neg hxy, Option.bind_none]

theorem storeBytes_isSome_iff (b : Block) (off : Nat) (src : List UInt8) :
    (storeBytes b off src).isSome ↔ off + src.length ≤ b.length := by
  unfold storeBytes
  split_ifs with h <;> simp [h]

/-- The number whose base-256 digits the bytes are, lowest first. -/
def leValue : List UInt8 → Nat
  | [] => 0
  | b::bs => b.toNat + 256 * leValue bs

/-- The lowest `k` base-256 digits of a number, lowest first. -/
def leBytes : Nat → Nat → List UInt8
  | 0, _ => []
  | k+1, n => UInt8.ofNat n :: leBytes k (n / 256)

@[simp] theorem leBytes_length (k n : Nat) : (leBytes k n).length = k := by
  induction k generalizing n with
  | zero => rfl
  | succ k ih => simp [leBytes, ih]

theorem leValue_leBytes (k n : Nat) : leValue (leBytes k n) = n % 256^k := by
  induction k generalizing n with
  | zero => simp [leBytes, leValue, Nat.mod_one]
  | succ k ih =>
    have hb : (UInt8.ofNat n).toNat = n % 256 := by simp
    rw [leBytes, leValue, ih, hb, Nat.pow_succ, Nat.mul_comm (256^k) 256, Nat.mod_mul]

theorem leValue_lt (bs : List UInt8) : leValue bs < 256^bs.length := by
  induction bs with
  | nil => exact Nat.one_pos
  | cons b bs ih =>
    have hb : b.toNat < 256 := b.toNat_lt
    rw [leValue, List.length_cons, Nat.pow_succ]
    omega

/-- Bytes are the digits of their number. -/
theorem leBytes_leValue (bs : List UInt8) : leBytes bs.length (leValue bs) = bs := by
  induction bs with
  | nil => rfl
  | cons b bs ih =>
    have hb : b.toNat < 256 := b.toNat_lt
    have hlow : UInt8.ofNat (b.toNat + 256 * leValue bs) = b := by
      apply UInt8.toNat_inj.mp
      rw [UInt8.toNat_ofNat', Nat.add_mul_mod_self_left, Nat.mod_eq_of_lt hb]
    have hhigh : (b.toNat + 256 * leValue bs) / 256 = leValue bs := by omega
    rw [List.length_cons, leValue, leBytes, hlow, hhigh, ih]

def wordBytes (w : UInt32) : List UInt8 := leBytes 4 w.toNat

def loadWord (b : Block) (off : Nat) : Option UInt32 :=
  (loadBytes b off 4).map fun bs => UInt32.ofNat (leValue bs)

/-- A 16-bit unsigned load. -/
def loadHalf (b : Block) (off : Nat) : Option Nat :=
  (loadBytes b off 2).map leValue

@[simp] theorem wordBytes_length (w : UInt32) : (wordBytes w).length = 4 := leBytes_length 4 _

theorem ofNat_leValue_wordBytes (w : UInt32) : UInt32.ofNat (leValue (wordBytes w)) = w := by
  have hw : w.toNat < 2^32 := w.toNat_lt
  rw [wordBytes, leValue_leBytes, Nat.mod_eq_of_lt (by omega)]
  exact UInt32.ofNat_toNat

theorem wordBytes_ofNat_leValue {bs : List UInt8} (h : bs.length = 4) :
    wordBytes (UInt32.ofNat (leValue bs)) = bs := by
  have hlt := leValue_lt bs
  rw [h] at hlt
  have hvalue : (UInt32.ofNat (leValue bs)).toNat = leValue bs := by
    rw [UInt32.toNat_ofNat', Nat.mod_eq_of_lt (by omega)]
  rw [wordBytes, hvalue, ← h, leBytes_leValue]

/-- The bytes of a loaded word are the bytes it was loaded from. -/
theorem wordBytes_of_loadWord {b : Block} {off : Nat} {w : UInt32} (h : loadWord b off = some w) :
    off + 4 ≤ b.length ∧ wordBytes w = (b.drop off).take 4 := by
  obtain ⟨bs, hload, rfl⟩ := Option.map_eq_some_iff.mp h
  obtain ⟨hin, rfl⟩ := (loadBytes_eq_some_iff _ _ _ _).mp hload
  refine ⟨hin, wordBytes_ofNat_leValue ?_⟩
  rw [List.length_take, List.length_drop]
  omega

theorem loadWord_middle (pre post : List UInt8) (w : UInt32) :
    loadWord (pre ++ wordBytes w ++ post) pre.length = some w := by
  have h := loadBytes_middle pre (wordBytes w) post
  rw [wordBytes_length] at h
  rw [loadWord, h, Option.map_some, ofNat_leValue_wordBytes]

theorem loadHalf_middle (pre mid post : List UInt8) (h : mid.length = 2) :
    loadHalf (pre ++ mid ++ post) pre.length = some (leValue mid) := by
  have hload := loadBytes_middle pre mid post
  rw [h] at hload
  rw [loadHalf, hload, Option.map_some]

theorem loadHalf_isSome_iff (b : Block) (off : Nat) :
    (loadHalf b off).isSome ↔ off + 2 ≤ b.length := by
  unfold loadHalf loadBytes
  split_ifs with h <;> simp [h]

/-- The value of an `int` expression; `none` is an overflow. -/
def checkedInt (n : Nat) : Option Nat := if n < 2^31 then some n else none

theorem checkedInt_eq_some_iff {n m : Nat} : checkedInt n = some m ↔ n < 2^31 ∧ n = m := by
  unfold checkedInt
  split_ifs with h
  · rw [Option.some_inj, and_iff_right h]
  · constructor
    · nofun
    · intro hm
      exact absurd hm.1 h

theorem checkedInt_of_lt {n : Nat} (h : n < 2^31) : checkedInt n = some n := if_pos h

section Records

variable {α : Type*} (f : α → Block) (n : Nat) (h : ∀ a, (f a).length = n)
include h

theorem flatMap_length (l : List α) : (l.flatMap f).length = n * l.length := by
  induction l with
  | nil => simp
  | cons a l ih =>
    rw [List.flatMap_cons, List.length_append, h, ih, List.length_cons, Nat.mul_succ, Nat.add_comm]

/-- Record `k` stands at offset `n * k`. -/
theorem flatMap_split (l : List α) {k : Nat} (hk : k < l.length) :
    l.flatMap f = (l.take k).flatMap f ++ f l[k] ++ (l.drop (k + 1)).flatMap f ∧
      ((l.take k).flatMap f).length = n * k := by
  constructor
  · have hsplit : l = l.take k ++ l[k] :: l.drop (k + 1) := by
      rw [← List.drop_eq_getElem_cons, List.take_append_drop]
    have hbytes := congrArg (List.flatMap f) hsplit
    rwa [List.flatMap_append, List.flatMap_cons, ← List.append_assoc] at hbytes
  · rw [flatMap_length f n h, List.length_take, Nat.min_eq_left hk.le]

/-- Loading the first two bytes of record `k`. -/
theorem loadHalf_record (l : List α) {k : Nat} (hk : k < l.length) {half post : Block}
    (hrecord : f l[k] = half ++ post) (hhalf : half.length = 2) :
    loadHalf (l.flatMap f) (n * k) = some (leValue half) := by
  obtain ⟨hbytes, hpre⟩ := flatMap_split f n h l hk
  have hload := loadHalf_middle ((l.take k).flatMap f) half
    (post ++ (l.drop (k + 1)).flatMap f) hhalf
  rw [hrecord, ← List.append_assoc, List.append_assoc _ post] at hbytes
  rwa [← hbytes, hpre] at hload

/-- Storing record `k` behind the first `k` records. -/
theorem storeBytes_record (l : List α) (b : Block) {k : Nat} (hk : k < l.length)
    (hb : n * l.length ≤ b.length) :
    storeBytes ((l.take k).flatMap f ++ b.drop (n * k)) (n * k) (f l[k]) =
      some ((l.take (k + 1)).flatMap f ++ b.drop (n * (k + 1))) := by
  have hpre := (flatMap_split f n h l hk).2
  have hroom : n * (k + 1) ≤ b.length := (Nat.mul_le_mul_left n hk).trans hb
  have hmid : b.drop (n * k) = (b.drop (n * k)).take n ++ b.drop (n * (k + 1)) := by
    rw [Nat.mul_succ, ← List.drop_drop, List.take_append_drop]
  have hlen : ((b.drop (n * k)).take n).length = n := by
    rw [List.length_take, List.length_drop]
    rw [Nat.mul_succ] at hroom
    omega
  have hstore := storeBytes_middle ((l.take k).flatMap f) ((b.drop (n * k)).take n)
    (b.drop (n * (k + 1))) (f l[k]) ((h _).trans hlen.symm)
  rw [hpre, List.append_assoc, ← hmid] at hstore
  rw [hstore, List.take_succ_eq_append_getElem hk, List.flatMap_append, List.flatMap_singleton]

end Records

end KinectHelper
