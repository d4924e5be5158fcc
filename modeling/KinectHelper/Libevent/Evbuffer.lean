import Mathlib.Data.List.Infix
import Mathlib.Tactic.Ring
import KinectHelper.Framework.Memory
import KinectHelper.Framework.Number

namespace KinectHelper.Libevent

/-- `evbuffer_readln` with `EVBUFFER_EOL_CRLF`: a line, and what is left of the buffer. -/
def readln : Block → Option (Block × Block)
  | [] => none
  | b::bs =>
      if b = 10 then some ([], bs)
      else if b = 13 ∧ bs.head? = some 10 then some ([], bs.tail)
      else (readln bs).map fun r => (b::r.1, r.2)

/-- The C string at the start of a buffer. -/
def cString (bytes : Block) : List Char :=
  (bytes.takeWhile (· ≠ 0)).map fun b => Char.ofNat b.toNat

def bytesOf (text : List Char) : Block := text.map fun c => UInt8.ofNat c.toNat

/-- `strsep` at one delimiter: the token, and what the string points to afterwards. -/
def strsep (delim : Char) : List Char → List Char × Option (List Char)
  | [] => ([], none)
  | c::cs => if c = delim then ([], some cs) else ((c::(strsep delim cs).1), (strsep delim cs).2)

/-- `evutil_ascii_strcasecmp` finds no difference. -/
def strcaseEq (s t : List Char) : Bool := decide (s.map Char.toLower = t.map Char.toLower)

/-- `evutil_strtoll`: the value, held within 64 bits, and `endp`. -/
def strtoll (base : Nat) (s : List Char) : Int × List Char := strtol 64 base s

/-- How a line is read: its end is the first line feed, with the return before it if there is
one. -/
theorem readln_cons {b : UInt8} {bs : Block} {r : Block × Block} (h : readln (b::bs) = some r) :
    (b = 10 ∧ r = ([], bs)) ∨ (b = 13 ∧ ∃ rest, bs = 10::rest ∧ r = ([], rest)) ∨
      (b ≠ 10 ∧ (b = 13 → bs.head? ≠ some 10) ∧
        ∃ line rest, readln bs = some (line, rest) ∧ r = (b::line, rest)) := by
  unfold readln at h
  split_ifs at h with hlf hcr
  · exact .inl ⟨hlf, (Option.some.inj h).symm⟩
  · obtain ⟨rest, rfl⟩ := List.head?_eq_some_iff.mp hcr.2
    exact .inr (.inl ⟨hcr.1, rest, rfl, (Option.some.inj h).symm⟩)
  · obtain ⟨r', hr', rfl⟩ := Option.map_eq_some_iff.mp h
    exact .inr (.inr ⟨hlf, fun hb hhead => hcr ⟨hb, hhead⟩, r'.1, r'.2, hr', rfl⟩)

theorem readln_append {l line rest : Block} (h : readln l = some (line, rest)) (more : Block) :
    readln (l ++ more) = some (line, rest ++ more) := by
  induction l generalizing line with
  | nil => cases h
  | cons b bs ih =>
    rcases readln_cons h with
      ⟨rfl, heq⟩ | ⟨rfl, rest', rfl, heq⟩ | ⟨hlf, hcr, line', rest', hbs, heq⟩
    · cases heq
      rfl
    · cases heq
      rfl
    · cases heq
      have hmore : ¬ (b = 13 ∧ (bs ++ more).head? = some 10) := by
        intro hb
        cases bs with
        | nil => cases hbs
        | cons c bs => exact hcr hb.1 hb.2
      rw [List.cons_append, readln, if_neg hlf, if_neg hmore, ih hbs]
      rfl

theorem readln_length {l line rest : Block} (h : readln l = some (line, rest)) :
    rest.length < l.length := by
  induction l generalizing line with
  | nil => cases h
  | cons b bs ih =>
    rcases readln_cons h with
      ⟨rfl, heq⟩ | ⟨rfl, rest', rfl, heq⟩ | ⟨hlf, hcr, line', rest', hbs, heq⟩
    · cases heq
      exact Nat.lt_succ_self _
    · cases heq
      simp only [List.length_cons]
      omega
    · cases heq
      exact (ih hbs).trans (Nat.lt_succ_self _)

/-- A line without line ends. -/
def OneLine (line : Block) : Prop := ∀ b ∈ line, b ≠ 10 ∧ b ≠ 13

theorem readln_line {line : Block} (h : OneLine line) (rest : Block) :
    readln (line ++ [13, 10] ++ rest) = some (line, rest) := by
  induction line with
  | nil => rfl
  | cons b line ih =>
    obtain ⟨hlf, hcr⟩ := h b List.mem_cons_self
    have hrest := ih fun c hc => h c (List.mem_cons_of_mem b hc)
    rw [List.cons_append, List.cons_append, readln, if_neg hlf, if_neg fun hb => hcr hb.1, hrest]
    rfl

theorem readln_none {l : Block} (h : ∀ b ∈ l, b ≠ 10) : readln l = none := by
  cases hread : readln l with
  | none => rfl
  | some r =>
    exfalso
    induction l generalizing r with
    | nil => cases hread
    | cons b bs ih =>
      have hbs : ∀ c ∈ bs, c ≠ 10 := fun c hc => h c (List.mem_cons_of_mem b hc)
      rcases readln_cons hread with ⟨hb, _⟩ | ⟨_, rest, rfl, _⟩ | ⟨_, _, line, rest, hread, _⟩
      · exact h b List.mem_cons_self hb
      · exact hbs 10 List.mem_cons_self rfl
      · exact ih hbs _ hread

/-- A line that has not arrived whole cannot be read. -/
theorem readln_early {line v : Block} (h : OneLine line) (hv : v <+: line ++ [13, 10])
    (hne : v ≠ line ++ [13, 10]) : readln v = none := by
  have hsplit : line ++ [13, 10] = (line ++ [13]) ++ [10] := by simp
  rw [hsplit] at hv hne
  have hbefore : v <+: line ++ [13] := (List.prefix_concat_iff.mp hv).resolve_left hne
  apply readln_none
  intro b hb
  rcases List.mem_append.mp (hbefore.subset hb) with hline | hcr
  · exact (h b hline).1
  · rw [List.mem_singleton.mp hcr]
    decide

theorem strtoll_toDigits {n : Nat} (h : n < 2^63) :
    strtoll 10 (Nat.toDigits 10 n) = ((n : Int), []) := strtol_toDigits h

end KinectHelper.Libevent
