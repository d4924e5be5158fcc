import Mathlib.Data.List.DropRight

namespace KinectHelper

variable {α : Type*}

/-- `isspace`: a blank, a tab or one of the four ends of a line or a page. -/
def isSpace (c : Char) : Bool := decide (c = ' ' ∨ 9 ≤ c.toNat ∧ c.toNat ≤ 13)

section Trim

variable (p : α → Bool)

/-- Without the characters of class `p` at both ends. -/
def trimBoth (l : List α) : List α := (l.rdropWhile p).dropWhile p

/-- There is no character of class `p` at either end. -/
structure Tight (l : List α) : Prop where
  head : ∀ c ∈ l.head?, p c = false
  last : ∀ c ∈ l.getLast?, p c = false

instance (l : List α) : Decidable (Tight p l) :=
  decidable_of_iff ((∀ c ∈ l.head?, p c = false) ∧ ∀ c ∈ l.getLast?, p c = false)
    ⟨fun h => ⟨h.1, h.2⟩, fun h => ⟨h.head, h.last⟩⟩

variable {p}

theorem dropWhile_of_head {l : List α} (h : ∀ c ∈ l.head?, p c = false) : l.dropWhile p = l := by
  cases l with
  | nil => rfl
  | cons c l =>
    have hc : p c = false := h c rfl
    rw [List.dropWhile_cons_of_neg (by simp [hc])]

theorem rdropWhile_of_last {l : List α} (h : ∀ c ∈ l.getLast?, p c = false) :
    l.rdropWhile p = l := by
  rw [List.rdropWhile_eq_self_iff]
  intro hne
  simp [h _ (List.getLast?_eq_some_getLast hne)]

theorem dropWhile_head (l : List α) : ∀ c ∈ (l.dropWhile p).head?, p c = false := by
  intro c hc
  have hnot := List.head?_dropWhile_not p l
  rw [Option.mem_def.mp hc] at hnot
  simpa using hnot

theorem rdropWhile_last (l : List α) : ∀ c ∈ (l.rdropWhile p).getLast?, p c = false := by
  intro c hc
  have hne : l.rdropWhile p ≠ [] := by
    intro hnil
    rw [hnil] at hc
    cases hc
  have hlast := List.rdropWhile_last_not p l hne
  rw [Option.mem_def, List.getLast?_eq_some_getLast hne] at hc
  rw [Option.some.inj hc] at hlast
  simpa using hlast

theorem Tight.trimBoth_eq {l : List α} (h : Tight p l) : trimBoth p l = l := by
  rw [trimBoth, rdropWhile_of_last h.last, dropWhile_of_head h.head]

/-- What is left at the end of a text stays at the end when its front is trimmed. -/
theorem getLast?_dropWhile {l : List α} {c : α} (h : c ∈ (l.dropWhile p).getLast?) :
    c ∈ l.getLast? := by
  obtain ⟨front, hfront⟩ := List.dropWhile_suffix (l := l) p
  rw [← hfront, List.getLast?_append, Option.mem_def.mp h]
  rfl

theorem tight_trimBoth (l : List α) : Tight p (trimBoth p l) where
  head := dropWhile_head _
  last := fun c hc => rdropWhile_last l c (getLast?_dropWhile hc)

theorem trimBoth_eq_nil {l : List α} : trimBoth p l = [] ↔ l.rdropWhile p = [] := by
  constructor
  · intro h
    have hall := List.dropWhile_eq_nil_iff.mp h
    by_contra hne
    have hlast := rdropWhile_last l _ (List.getLast?_eq_some_getLast hne)
    rw [hall _ (List.getLast_mem hne)] at hlast
    cases hlast
  · intro h
    rw [trimBoth, h]
    rfl

theorem mem_head?_mono {l l' : List α} (h : l <+: l') {c : α} (hc : c ∈ l.head?) :
    c ∈ l'.head? := by
  obtain ⟨rest, rfl⟩ := h
  rw [List.head?_append, Option.mem_def.mp hc]
  rfl

end Trim

section Find

variable [DecidableEq α]

/-- Where `sub` occurs first. -/
def findSub (sub : List α) : List α → Option Nat
  | [] => if sub = [] then some 0 else none
  | c::l => if sub <+: c::l then some 0 else (findSub sub l).map (· + 1)

/-- The part before the first occurrence of `c`. -/
theorem take_findSub_singleton (c : α) (l : List α) :
    (match findSub [c] l with | some i => l.take i | none => l) = l.takeWhile (· ≠ c) := by
  induction l with
  | nil => rfl
  | cons a l ih =>
    rw [findSub]
    by_cases ha : a = c
    · subst ha
      simp
    · have hnot : ¬ [c] <+: a::l := by
        intro hpre
        exact ha (List.cons_prefix_cons.mp hpre).1.symm
      rw [if_neg hnot, List.takeWhile_cons_of_pos (by simp [ha]), ← ih]
      cases findSub [c] l with
      | none => rfl
      | some i => rfl

variable {a b : α}

theorem findSub_pair_cons (c : α) (l : List α) (h : ¬ (a = c ∧ b ∈ l.head?)) :
    findSub [a, b] (c::l) = (findSub [a, b] l).map (· + 1) := by
  rw [findSub, if_neg]
  intro hpre
  obtain ⟨ha, hrest⟩ := List.cons_prefix_cons.mp hpre
  exact h ⟨ha, mem_head?_mono hrest rfl⟩

theorem findSub_pair_none {c : α} {l : List α} (h : findSub [a, b] (c::l) = none) :
    ¬ (a = c ∧ b ∈ l.head?) ∧ findSub [a, b] l = none := by
  rw [findSub] at h
  split_ifs at h with hpre
  refine ⟨?_, Option.map_eq_none_iff.mp h⟩
  intro ⟨ha, hb⟩
  obtain ⟨rest, hl⟩ := List.head?_eq_some_iff.mp hb
  subst ha
  rw [hl] at hpre
  exact hpre ⟨rest, rfl⟩

/-- Behind a text without the pair, the pair is found where it is put. -/
theorem findSub_pair_append {k : List α} (hab : a ≠ b) (hk : findSub [a, b] k = none)
    (v : List α) : findSub [a, b] (k ++ a::b::v) = some k.length := by
  induction k with
  | nil => exact if_pos ⟨v, rfl⟩
  | cons c k ih =>
    obtain ⟨hhead, hrest⟩ := findSub_pair_none hk
    rw [List.cons_append, findSub_pair_cons, ih hrest]
    · rfl
    · intro ⟨ha, hb⟩
      cases k with
      | nil => exact hab (Option.some.inj hb)
      | cons d k => exact hhead ⟨ha, hb⟩

theorem findSub_pair_end {k : List α} (hab : a ≠ b) (hk : findSub [a, b] k = none) :
    findSub [a, b] (k ++ [a]) = none := by
  induction k with
  | nil =>
    rw [List.nil_append, findSub_pair_cons a [] (by simp)]
    rfl
  | cons c k ih =>
    obtain ⟨hhead, hrest⟩ := findSub_pair_none hk
    rw [List.cons_append, findSub_pair_cons, ih hrest]
    · rfl
    · intro ⟨ha, hb⟩
      cases k with
      | nil => exact hab (Option.some.inj hb)
      | cons d k => exact hhead ⟨ha, hb⟩

/-- A part of a text without the pair at its front is one without the pair. -/
theorem findSub_pair_initial {l l' : List α} (hpre : l <+: l') (h : findSub [a, b] l' = none) :
    findSub [a, b] l = none := by
  induction l generalizing l' with
  | nil => rfl
  | cons c l ih =>
    cases l' with
    | nil => exact absurd (List.prefix_nil.mp hpre) (List.cons_ne_nil c l)
    | cons c' l' =>
      obtain ⟨rfl, hrest⟩ := List.cons_prefix_cons.mp hpre
      obtain ⟨hhead, htail⟩ := findSub_pair_none h
      rw [findSub_pair_cons, ih hrest htail]
      · rfl
      · intro ⟨ha, hb⟩
        exact hhead ⟨ha, mem_head?_mono hrest hb⟩

/-- A text with the pair: what is before its first occurrence is without it. -/
theorem findSub_pair_some {l : List α} {i : Nat} (h : findSub [a, b] l = some i) :
    ∃ v, l = l.take i ++ a::b::v ∧ findSub [a, b] (l.take i) = none := by
  induction l generalizing i with
  | nil => cases h
  | cons c l ih =>
    rw [findSub] at h
    split_ifs at h with hpre
    · obtain rfl := Option.some.inj h
      obtain ⟨v, hv⟩ := hpre
      exact ⟨v, hv.symm, rfl⟩
    · obtain ⟨j, hj, rfl⟩ := Option.map_eq_some_iff.mp h
      obtain ⟨v, hv, hnone⟩ := ih hj
      refine ⟨v, ?_, ?_⟩
      · rw [List.take_succ_cons, List.cons_append, ← hv]
      · rw [List.take_succ_cons, findSub_pair_cons, hnone]
        · rfl
        · intro ⟨ha, hb⟩
          have hb' : b ∈ l.head? := mem_head?_mono (List.take_prefix j l) hb
          obtain ⟨rest, hl⟩ := List.head?_eq_some_iff.mp hb'
          subst ha
          rw [hl] at hpre
          exact hpre ⟨rest, rfl⟩

/-- A map that moves nothing to or from the two characters leaves the search as it is. -/
theorem findSub_pair_map (f : α → α) (ha : ∀ c, a = f c ↔ a = c) (hb : ∀ c, b = f c ↔ b = c)
    (l : List α) : findSub [a, b] (l.map f) = findSub [a, b] l := by
  induction l with
  | nil => rfl
  | cons c l ih =>
    have hpre : [a, b] <+: (c::l).map f ↔ [a, b] <+: c::l := by
      cases l with
      | nil => simp [List.cons_prefix_cons]
      | cons d l => simp [List.cons_prefix_cons, ha, hb]
    rw [List.map_cons, findSub, findSub, ih]
    rw [List.map_cons] at hpre
    simp only [hpre]

end Find

/-- A prefix without the character `c` lies before the first `c`. -/
theorem prefix_of_prefix_append_cons {s k r : List α} {c : α} (hc : c ∉ s)
    (h : s <+: k ++ c::r) : s <+: k := by
  rcases List.prefix_or_prefix_of_prefix h (List.prefix_append k (c::r)) with hle | hge
  · exact hle
  · obtain ⟨rest, rfl⟩ := hge
    cases rest with
    | nil => simp
    | cons d rest =>
      rw [List.prefix_append_right_inj] at h
      obtain ⟨rfl, _⟩ := List.cons_prefix_cons.mp h
      exact absurd (by simp) hc

section Tokens

variable (p : α → Bool)

/-- The runs of characters between delimiters, without empty ones. -/
def tokens [DecidableEq α] (l : List α) : List (List α) := (l.splitOnP p).filter (· ≠ [])

variable [DecidableEq α] {p}

theorem tokens_cons {l : List α} {c : α} (hl : ∀ x ∈ l, p x = false) (hne : l ≠ [])
    (hc : p c = true) (rest : List α) : tokens p (l ++ c::rest) = l :: tokens p rest := by
  rw [tokens, List.splitOnP_append_cons_of_forall_mem hl c hc,
    List.filter_cons_of_pos (by simp [hne])]
  rfl

theorem tokens_delimiter {c : α} (hc : p c = true) (rest : List α) :
    tokens p (c::rest) = tokens p rest := by
  have hfirst : (c::rest).splitOnP p = [] :: rest.splitOnP p :=
    List.splitOnP_append_cons_of_forall_mem (List.forall_mem_nil _) c hc rest
  rw [tokens, hfirst, List.filter_cons_of_neg (by simp)]
  rfl

omit [DecidableEq α] in
theorem mem_splitOnP {l t : List α} (h : t ∈ l.splitOnP p) : ∀ x ∈ t, p x = false := by
  induction l generalizing t with
  | nil => simp_all
  | cons c l ih =>
    rw [List.splitOnP_cons_eq_if_modifyHead] at h
    split_ifs at h with hc
    · rcases List.mem_cons.mp h with hnil | hrest
      · simp [hnil]
      · exact ih hrest
    · cases hsplit : l.splitOnP p with
      | nil => simp [hsplit] at h
      | cons first rest =>
        rw [hsplit] at ih
        rw [hsplit, List.modifyHead_cons] at h
        rcases List.mem_cons.mp h with hfirst | hrest
        · rw [hfirst, List.forall_mem_cons]
          exact ⟨by simpa using hc, ih List.mem_cons_self⟩
        · exact ih (List.mem_cons_of_mem first hrest)

theorem mem_tokens {l t : List α} (h : t ∈ tokens p l) : t ≠ [] ∧ ∀ x ∈ t, p x = false := by
  obtain ⟨hsplit, hne⟩ := List.mem_filter.mp h
  exact ⟨by simpa using hne, mem_splitOnP hsplit⟩

end Tokens

end KinectHelper
