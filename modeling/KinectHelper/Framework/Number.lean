import Mathlib.Algebra.Order.Ring.Int
import Mathlib.Data.List.TakeWhile
import KinectHelper.Framework.Text

namespace KinectHelper

/-- The digit that a character stands for in base sixteen. -/
def digitValue (c : Char) : Option Nat :=
  if c.isDigit then some (c.toNat - 48)
  else if 97 ≤ c.toNat ∧ c.toNat ≤ 102 then some (c.toNat - 87)
  else if 65 ≤ c.toNat ∧ c.toNat ≤ 70 then some (c.toNat - 55)
  else none

def isDigitOf (base : Nat) (c : Char) : Bool := (digitValue c).any (· < base)

def digitsValue (base : Nat) (ds : List Char) : Nat :=
  ds.foldl (fun n c => base * n + (digitValue c).getD 0) 0

/-- A sign, and what follows it. -/
def takeSign (s : List Char) : Int × List Char :=
  match s with
  | '-'::cs => (-1, cs)
  | '+'::cs => (1, cs)
  | cs => (1, cs)

/-- Base sixteen may begin with `0x`. -/
def skipHexPrefix (base : Nat) (s : List Char) : List Char :=
  match s with
  | '0'::x::d::cs => if base = 16 ∧ (x = 'x' ∨ x = 'X') ∧ isDigitOf 16 d then d::cs else s
  | _ => s

/-- The nearest integer of the given width. -/
def saturate (bits : Nat) (n : Int) : Int := max (-2^(bits - 1)) (min (2^(bits - 1) - 1) n)

/-- The number at the start of a text, if there is one, and what follows it. -/
def scanNumber (bits base : Nat) (s : List Char) : Option (Int × List Char) :=
  let (negate, rest) := takeSign (s.dropWhile isSpace)
  let rest := skipHexPrefix base rest
  if rest.takeWhile (isDigitOf base) = [] then none
  else some (saturate bits (negate * digitsValue base (rest.takeWhile (isDigitOf base))),
    rest.dropWhile (isDigitOf base))

/-- `strtol` to an integer of the given width: the value and `endptr`. -/
def strtol (bits base : Nat) (s : List Char) : Int × List Char :=
  (scanNumber bits base s).getD (0, s)

/-- `(int) n` -/
def toInt32 (n : Int) : Int := n.bmod (2^32)

/-- `atoi` where a `long` has the given width. -/
def atoi (longBits : Nat) (s : List Char) : Int := toInt32 (strtol longBits 10 s).1

/-- `%d` of `sscanf` where a `long` has the given width. -/
def scanInt (longBits : Nat) (s : List Char) : Option (Int × List Char) :=
  (scanNumber longBits 10 s).map fun r => (toInt32 r.1, r.2)

theorem digitValue_of_isDigit {c : Char} (h : c.isDigit = true) :
    digitValue c = some (c.toNat - 48) := if_pos h

theorem digitsValue_eq {ds : List Char} (h : ∀ c ∈ ds, c.isDigit = true) (n : Nat) :
    ds.foldl (fun n c => 10 * n + (digitValue c).getD 0) n = Nat.ofDigitChars 10 ds n := by
  induction ds generalizing n with
  | nil => simp
  | cons c ds ih =>
    rw [List.foldl_cons, digitValue_of_isDigit (h c List.mem_cons_self), Nat.ofDigitChars_cons,
      ih fun d hd => h d (List.mem_cons_of_mem c hd)]
    rfl

theorem isDigit_toDigits {n : Nat} {c : Char} (h : c ∈ Nat.toDigits 10 n) : c.isDigit = true :=
  Nat.isDigit_of_mem_toDigits (by decide) (by decide) h

theorem digitsValue_toDigits (n : Nat) : digitsValue 10 (Nat.toDigits 10 n) = n := by
  unfold digitsValue
  rw [digitsValue_eq fun c hc => isDigit_toDigits hc]
  exact Nat.ofDigitChars_ten_toDigits

theorem isDigitOf_of_isDigit {c : Char} (h : c.isDigit = true) : isDigitOf 10 c = true := by
  have hrange : 48 ≤ c.toNat ∧ c.toNat ≤ 57 := Char.isDigit_iff_toNat.mp h
  simp only [isDigitOf, digitValue_of_isDigit h, Option.any_some, decide_eq_true_eq]
  omega

theorem isSpace_of_isDigit {c : Char} (h : c.isDigit = true) : isSpace c = false := by
  have hrange : 48 ≤ c.toNat ∧ c.toNat ≤ 57 := Char.isDigit_iff_toNat.mp h
  have hblank : c ≠ ' ' := by
    intro hc
    rw [hc] at h
    cases h
  simp only [isSpace, decide_eq_false_iff_not]
  intro hspace
  rcases hspace with hspace | hspace
  · exact hblank hspace
  · omega

theorem takeSign_of_isDigit {c : Char} (h : c.isDigit = true) (cs : List Char) :
    takeSign (c::cs) = (1, c::cs) := by
  have hminus : c ≠ '-' := by
    intro hc
    rw [hc] at h
    cases h
  have hplus : c ≠ '+' := by
    intro hc
    rw [hc] at h
    cases h
  simp only [takeSign]
  split
  · next heq => exact absurd (List.cons.inj heq).1 hminus
  · next heq => exact absurd (List.cons.inj heq).1 hplus
  · rfl

theorem skipHexPrefix_ten (s : List Char) : skipHexPrefix 10 s = s := by
  unfold skipHexPrefix
  split
  · exact if_neg fun h => absurd h.1 (by decide)
  · rfl

theorem saturate_of_lt {bits n : Nat} (h : n < 2^(bits - 1)) : saturate bits n = n := by
  have hcast : (n : Int) < 2^(bits - 1) := by exact_mod_cast h
  unfold saturate
  generalize (2 : Int)^(bits - 1) = bound at hcast ⊢
  omega

/-- A number that fits is read back. -/
theorem strtol_toDigits {bits n : Nat} (h : n < 2^(bits - 1)) :
    strtol bits 10 (Nat.toDigits 10 n) = ((n : Int), []) := by
  have hdigits : ∀ c ∈ Nat.toDigits 10 n, c.isDigit = true := fun c hc => isDigit_toDigits hc
  have hall : ∀ c ∈ Nat.toDigits 10 n, isDigitOf 10 c = true :=
    fun c hc => isDigitOf_of_isDigit (hdigits c hc)
  have hstart : takeSign ((Nat.toDigits 10 n).dropWhile isSpace) = (1, Nat.toDigits 10 n) := by
    cases hds : Nat.toDigits 10 n with
    | nil => exact absurd hds Nat.toDigits_ne_nil
    | cons c cs =>
      have hc : c.isDigit = true := hdigits c (by rw [hds]; exact List.mem_cons_self)
      rw [List.dropWhile_cons_of_neg (by rw [isSpace_of_isDigit hc]; exact Bool.false_ne_true),
        takeSign_of_isDigit hc]
  have htake : (Nat.toDigits 10 n).takeWhile (isDigitOf 10) = Nat.toDigits 10 n :=
    List.takeWhile_eq_self_iff.mpr hall
  have hdrop : (Nat.toDigits 10 n).dropWhile (isDigitOf 10) = [] :=
    List.dropWhile_eq_nil_iff.mpr hall
  have hvalue : saturate bits (1 * (n : Int)) = n := by
    rw [Int.one_mul, saturate_of_lt h]
  simp only [strtol, scanNumber, hstart, skipHexPrefix_ten, htake, hdrop, digitsValue_toDigits,
    hvalue, if_neg Nat.toDigits_ne_nil, Option.getD_some]

example : atoi 64 "4294967297".toList = 1 := by decide

example : atoi 32 "4294967297".toList = 2147483647 := by decide

end KinectHelper
