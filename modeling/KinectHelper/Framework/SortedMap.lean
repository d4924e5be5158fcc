import Mathlib.Data.List.Pairwise
import Mathlib.Order.Lattice

namespace KinectHelper

structure SortedMap (κ ν : Type*) [LinearOrder κ] where
  entries : List (κ × ν)
  sorted : entries.Pairwise fun a b => a.1 < b.1

namespace SortedMap

variable {κ ν : Type*} [LinearOrder κ]

/-- The value of the first entry with this key. -/
def findKey (k : κ) : List (κ × ν) → Option ν
  | [] => none
  | e::es => if e.1 = k then some e.2 else findKey k es

def insertEntry (k : κ) (v : ν) : List (κ × ν) → List (κ × ν)
  | [] => [(k, v)]
  | e::es =>
      if k < e.1 then (k, v)::e::es
      else if k = e.1 then (k, v)::es
      else e :: insertEntry k v es

theorem mem_insertEntry {k : κ} {v : ν} {es : List (κ × ν)} {e : κ × ν}
    (h : e ∈ insertEntry k v es) : e = (k, v) ∨ e ∈ es := by
  induction es with
  | nil => exact Or.inl (List.mem_singleton.mp h)
  | cons a es ih =>
    rw [insertEntry] at h
    split_ifs at h with hlt heq
    · exact List.mem_cons.mp h
    · exact (List.mem_cons.mp h).imp_right (List.mem_cons_of_mem a)
    · rcases List.mem_cons.mp h with hhead | htail
      · exact Or.inr (hhead ▸ List.mem_cons_self)
      · exact (ih htail).imp_right (List.mem_cons_of_mem a)

theorem sorted_insertEntry (k : κ) (v : ν) {es : List (κ × ν)}
    (h : es.Pairwise fun a b => a.1 < b.1) :
    (insertEntry k v es).Pairwise fun a b => a.1 < b.1 := by
  induction es with
  | nil => exact List.pairwise_singleton _ _
  | cons a es ih =>
    obtain ⟨hhead, htail⟩ := List.pairwise_cons.mp h
    rw [insertEntry]
    split_ifs with hlt heq
    · refine List.pairwise_cons.mpr ⟨?_, h⟩
      intro b hb
      rcases List.mem_cons.mp hb with hfirst | hrest
      · exact hfirst ▸ hlt
      · exact hlt.trans (hhead b hrest)
    · refine List.pairwise_cons.mpr ⟨?_, htail⟩
      intro b hb
      exact heq ▸ hhead b hb
    · refine List.pairwise_cons.mpr ⟨?_, ih htail⟩
      intro b hb
      rcases mem_insertEntry hb with hnew | hold
      · rw [hnew]
        exact lt_of_le_of_ne (not_lt.mp hlt) (Ne.symm heq)
      · exact hhead b hold

theorem findKey_insertEntry (k k' : κ) (v : ν) (es : List (κ × ν)) :
    findKey k' (insertEntry k v es) = if k = k' then some v else findKey k' es := by
  induction es with
  | nil => rfl
  | cons a es ih =>
    rw [insertEntry]
    by_cases hlt : k < a.1
    · rw [if_pos hlt, findKey]
    · rw [if_neg hlt]
      by_cases heq : k = a.1
      · rw [if_pos heq, findKey]
        by_cases hk : k = k'
        · rw [if_pos hk, if_pos hk]
        · rw [if_neg hk, if_neg hk, findKey, if_neg (heq ▸ hk)]
      · rw [if_neg heq, findKey, ih, findKey]
        by_cases hk : k = k'
        · rw [if_pos hk, if_neg (fun h => heq (hk.trans h.symm)), if_pos hk]
        · rw [if_neg hk, if_neg hk]

/-- In a sorted list a key has one entry. -/
theorem findKey_eq_some_iff {es : List (κ × ν)} (h : es.Pairwise fun a b => a.1 < b.1) (k : κ)
    (v : ν) : findKey k es = some v ↔ (k, v) ∈ es := by
  induction es with
  | nil => simp [findKey]
  | cons a es ih =>
    obtain ⟨hhead, htail⟩ := List.pairwise_cons.mp h
    rw [findKey, List.mem_cons]
    by_cases hk : a.1 = k
    · have hnot : (k, v) ∉ es := by
        intro hmem
        exact absurd hk (ne_of_lt (hhead _ hmem))
      subst hk
      simp only [if_pos, Option.some.injEq, hnot, or_false]
      constructor
      · intro hv
        rw [← hv]
      · intro ha
        exact congrArg Prod.snd ha.symm
    · have hne : (k, v) ≠ a := by
        intro ha
        exact hk (congrArg Prod.fst ha.symm)
      rw [if_neg hk, ih htail]
      simp [hne]

def empty : SortedMap κ ν := ⟨[], List.Pairwise.nil⟩

def find (m : SortedMap κ ν) (k : κ) : Option ν := findKey k m.entries

def insert (m : SortedMap κ ν) (k : κ) (v : ν) : SortedMap κ ν :=
  ⟨insertEntry k v m.entries, sorted_insertEntry k v m.sorted⟩

@[simp] theorem find_empty (k : κ) : (empty : SortedMap κ ν).find k = none := rfl

theorem find_insert (m : SortedMap κ ν) (k k' : κ) (v : ν) :
    (m.insert k v).find k' = if k = k' then some v else m.find k' :=
  findKey_insertEntry k k' v m.entries

theorem find_eq_some_iff (m : SortedMap κ ν) (k : κ) (v : ν) :
    m.find k = some v ↔ (k, v) ∈ m.entries := findKey_eq_some_iff m.sorted k v

/-- A sorted list is given by its members. -/
theorem sorted_ext {es es' : List (κ × ν)} (hsorted : es.Pairwise fun a b => a.1 < b.1)
    (hsorted' : es'.Pairwise fun a b => a.1 < b.1) (h : ∀ e, e ∈ es ↔ e ∈ es') : es = es' := by
  have hnodup {l : List (κ × ν)} (hl : l.Pairwise fun a b => a.1 < b.1) : l.Nodup := by
    refine hl.imp ?_
    intro a b hlt heq
    rw [heq] at hlt
    exact lt_irrefl _ hlt
  have hperm := (List.perm_ext_iff_of_nodup (hnodup hsorted) (hnodup hsorted')).mpr h
  refine hperm.eq_of_pairwise ?_ hsorted hsorted'
  intro a b _ _ hab hba
  exact absurd hab (lt_asymm hba)

/-- Insert the entries one after the other. -/
def insertAll (m : SortedMap κ ν) (es : List (κ × ν)) : SortedMap κ ν :=
  es.foldl (fun m e => m.insert e.1 e.2) m

/-- The value of the last entry with this key. -/
def latest (k : κ) : List (κ × ν) → Option ν
  | [] => none
  | e::es => (latest k es).or (if e.1 = k then some e.2 else none)

theorem find_insertAll (m : SortedMap κ ν) (es : List (κ × ν)) (k : κ) :
    (m.insertAll es).find k = (latest k es).or (m.find k) := by
  induction es generalizing m with
  | nil => rfl
  | cons e es ih =>
    have hrest : m.insertAll (e::es) = (m.insert e.1 e.2).insertAll es := rfl
    rw [hrest, ih, find_insert, latest, Option.or_assoc]
    by_cases hk : e.1 = k
    · rw [if_pos hk, if_pos hk, Option.some_or]
    · rw [if_neg hk, if_neg hk, Option.none_or]

theorem latest_eq_some {k : κ} {v : ν} {es : List (κ × ν)} (h : latest k es = some v) :
    (k, v) ∈ es := by
  induction es with
  | nil => cases h
  | cons e es ih =>
    rw [latest, Option.or_eq_some_iff] at h
    rcases h with hlater | ⟨_, hhere⟩
    · exact List.mem_cons_of_mem e (ih hlater)
    · obtain ⟨hk, hv⟩ := Option.ite_none_right_eq_some.mp hhere
      rw [← hk, ← Option.some.inj hv]
      exact List.mem_cons_self

theorem latest_eq_none {k : κ} {es : List (κ × ν)} :
    latest k es = none ↔ ∀ e ∈ es, e.1 ≠ k := by
  induction es with
  | nil => simp [latest]
  | cons e es ih =>
    rw [latest, Option.or_eq_none_iff, ih, List.forall_mem_cons, and_comm]
    simp

/-- In a sorted list the last entry with a key is the only one. -/
theorem latest_eq_some_iff {es : List (κ × ν)} (h : es.Pairwise fun a b => a.1 < b.1) (k : κ)
    (v : ν) : latest k es = some v ↔ (k, v) ∈ es := by
  refine ⟨latest_eq_some, ?_⟩
  intro hmem
  induction es with
  | nil => cases hmem
  | cons e es ih =>
    obtain ⟨hhead, htail⟩ := List.pairwise_cons.mp h
    rw [latest]
    rcases List.mem_cons.mp hmem with hhere | hlater
    · have hnone : latest k es = none := by
        rw [latest_eq_none]
        intro b hb hk
        have hlt := hhead b hb
        rw [← hhere, hk] at hlt
        exact lt_irrefl _ hlt
      rw [hnone, Option.none_or, ← hhere]
      exact if_pos rfl
    · rw [ih htail hlater, Option.some_or]

theorem latest_append (k : κ) (es es' : List (κ × ν)) :
    latest k (es ++ es') = (latest k es').or (latest k es) := by
  induction es with
  | nil => rw [List.nil_append, latest, Option.or_none]
  | cons e es ih => rw [List.cons_append, latest, ih, latest, Option.or_assoc]

/-- The last entry with a key, among the entries that a list of sources gives. -/
theorem latest_filterMap_iff {σ : Type*} (f : σ → Option (κ × ν)) (l : List σ) (k : κ) (v : ν) :
    latest k (l.filterMap f) = some v ↔
      ∃ before s after, l = before ++ s::after ∧ f s = some (k, v) ∧
        ∀ s' ∈ after, ∀ e ∈ f s', e.1 ≠ k := by
  constructor
  · intro h
    induction l with
    | nil => cases h
    | cons a l ih =>
      have hsplit : (a::l).filterMap f = (f a).toList ++ l.filterMap f := by
        cases ha : f a with
        | none => rw [List.filterMap_cons_none ha, Option.toList_none, List.nil_append]
        | some e =>
          rw [List.filterMap_cons_some ha, Option.toList_some, List.singleton_append]
      rw [hsplit, latest_append, Option.or_eq_some_iff] at h
      rcases h with hlater | ⟨hnone, hhere⟩
      · obtain ⟨before, s, after, hl, hs, hafter⟩ := ih hlater
        exact ⟨a::before, s, after, congrArg (List.cons a) hl, hs, hafter⟩
      · refine ⟨[], a, l, rfl, Option.mem_toList.mp (latest_eq_some hhere), ?_⟩
        intro s' hs' e he
        exact latest_eq_none.mp hnone e (List.mem_filterMap.mpr ⟨s', hs', he⟩)
  · intro ⟨before, s, after, hl, hs, hafter⟩
    have hnone : latest k (after.filterMap f) = none := by
      rw [latest_eq_none]
      intro e he
      obtain ⟨s', hs', hfs⟩ := List.mem_filterMap.mp he
      exact hafter s' hs' e hfs
    rw [hl, List.filterMap_append, latest_append, List.filterMap_cons_some hs, latest, hnone,
      Option.none_or, if_pos rfl, Option.some_or]

end SortedMap

end KinectHelper
