import Mathlib.Algebra.Order.Field.Rat
import Mathlib.Tactic.Positivity
import KinectHelper.Framework.Run
import KinectHelper.Segmentation.FindClusters

namespace KinectHelper.PclSegmentation

variable {P : Type*}

/-- `m_seg`: its answer for a cloud, after the answers that it has given before. -/
structure Segmenter (P : Type*) where
  segment : List (List Nat) → List P → List Nat
  valid : ∀ answers cloud, ∀ i ∈ segment answers cloud, i < cloud.length

/-- The two clouds that `cloud_filtered` and `cloud_filtered2` point to, the other results of a
turn, and what has been answered and how often points have been extracted. -/
structure PlaneLoop (P : Type*) where
  clouds : Bool → List P
  cloud_filtered : Bool
  cloud_filtered2 : Bool
  cloud_plane : List P
  inliers : List Nat
  answers : List (List Nat)
  extractions : Nat

namespace PlaneLoop

def start (cloud : List P) : PlaneLoop P where
  clouds := fun c => if c then [] else cloud
  cloud_filtered := false
  cloud_filtered2 := true
  cloud_plane := []
  inliers := []
  answers := []
  extractions := 0

def remaining (s : PlaneLoop P) : List P := s.clouds s.cloud_filtered

/-- `m_seg.segment` -/
def segment (s : PlaneLoop P) (m_seg : Segmenter P) : PlaneLoop P :=
  let inliers := m_seg.segment s.answers s.remaining
  { s with inliers := inliers, answers := s.answers ++ [inliers] }

/-- The plane is extracted, then the rest, into the other cloud; then the pointers are swapped. -/
def extract (s : PlaneLoop P) : PlaneLoop P :=
  { s with
    cloud_plane := s.inliers.filterMap fun i => s.remaining[i]?
    clouds := Function.update s.clouds s.cloud_filtered2 (extractNegative s.remaining s.inliers)
    cloud_filtered := s.cloud_filtered2
    cloud_filtered2 := s.cloud_filtered
    extractions := s.extractions + 1 }

/-- The loop, with the comparison of its condition; `none` is a loop that goes on after `n`
turns. -/
def run (m_seg : Segmenter P) (above : Nat → Bool) : Nat → PlaneLoop P → Option (PlaneLoop P)
  | 0, _ => none
  | n+1, s =>
      if above s.remaining.length then
        if (s.segment m_seg).inliers.length = 0 then some (s.segment m_seg)
        else run m_seg above n (s.segment m_seg).extract
      else some s

end PlaneLoop

/-- `0.3f` -/
def m_iterLimit : ℚ := 10066330 / 33554432

/-- `size > m_iterLimit * nr_points`, not rounded. -/
def aboveExact (size : Nat) (nr_points : Int) : Bool :=
  decide ((size : ℚ) > m_iterLimit * nr_points)

def removeAllPlanes (m_seg : Segmenter P) (cloud_filtered : List P) : Option (PlaneLoop P) :=
  PlaneLoop.run m_seg (fun size => aboveExact size (intSize cloud_filtered.length))
    (cloud_filtered.length + 1) (PlaneLoop.start cloud_filtered)

namespace PlaneLoop

/-- A turn of the loop: there is too much left after the answers so far, none of which is empty, and
`m_seg` gives this answer for it. -/
structure Turn (m_seg : Segmenter P) (above : Nat → Bool) (cloud : List P)
    (before : List (List Nat)) (inliers : List Nat) : Prop where
  above : above (before.foldl removeAt cloud).length = true
  nonempty : ∀ earlier ∈ before, earlier ≠ []
  answer : inliers = m_seg.segment before (before.foldl removeAt cloud)

/-- The pointers differ, and the cloud in use is the first one without what `m_seg` has answered. -/
structure Inv (m_seg : Segmenter P) (above : Nat → Bool) (cloud : List P) (s : PlaneLoop P) :
    Prop where
  pointers : s.cloud_filtered ≠ s.cloud_filtered2
  remaining : s.remaining = s.answers.foldl removeAt cloud
  turns : Along (Turn m_seg above cloud) s.answers
  nonempty : ∀ inliers ∈ s.answers, inliers ≠ []
  extractions : s.extractions = s.answers.length
  count : s.extractions + s.remaining.length ≤ cloud.length

/-- What holds after the loop. -/
structure Ended (m_seg : Segmenter P) (above : Nat → Bool) (cloud : List P) (s : PlaneLoop P) :
    Prop where
  remaining : s.remaining = s.answers.foldl removeAt cloud
  turns : Along (Turn m_seg above cloud) s.answers
  extractions : s.extractions = (s.answers.filter fun inliers => inliers ≠ []).length
  count : s.extractions ≤ cloud.length
  exit : above s.remaining.length = false ∨ s.answers.getLast? = some []

variable {m_seg : Segmenter P} {above : Nat → Bool}

theorem inv_start (cloud : List P) : Inv m_seg above cloud (start cloud) where
  pointers := Bool.false_ne_true
  remaining := rfl
  turns := along_nil _
  nonempty := nofun
  extractions := rfl
  count := by
    rw [start, Nat.zero_add]
    exact Nat.le_refl _

section Turns

variable {s : PlaneLoop P}

theorem remaining_extract (s : PlaneLoop P) :
    s.extract.remaining = removeAt s.remaining s.inliers := by
  rw [← extractNegative_eq]
  exact Function.update_self s.cloud_filtered2 _ s.clouds

theorem remaining_segment (s : PlaneLoop P) : (s.segment m_seg).remaining = s.remaining := rfl

/-- A turn removes a point if the answer is not empty. -/
theorem length_extract_lt (hne : (s.segment m_seg).inliers.length ≠ 0) :
    (s.segment m_seg).extract.remaining.length < s.remaining.length := by
  obtain ⟨i, hi⟩ := List.exists_mem_of_length_pos (Nat.pos_of_ne_zero hne)
  rw [remaining_extract, remaining_segment]
  exact removeAt_length_lt hi (m_seg.valid _ _ i hi)

variable {cloud : List P}

theorem Inv.turns_segment (h : Inv m_seg above cloud s) (habove : above s.remaining.length = true) :
    Along (Turn m_seg above cloud) (s.segment m_seg).answers := by
  refine along_concat.mpr ⟨h.turns, ?_, h.nonempty, ?_⟩
  · rw [← h.remaining]
    exact habove
  · rw [← h.remaining]

theorem Inv.extract (h : Inv m_seg above cloud s) (habove : above s.remaining.length = true)
    (hne : (s.segment m_seg).inliers.length ≠ 0) :
    Inv m_seg above cloud (s.segment m_seg).extract where
  pointers := h.pointers.symm
  remaining := by
    have hanswers : (s.segment m_seg).extract.answers =
        s.answers ++ [(s.segment m_seg).inliers] := rfl
    rw [remaining_extract, remaining_segment, hanswers, List.foldl_append, ← h.remaining]
    rfl
  turns := h.turns_segment habove
  nonempty := by
    intro inliers hmem
    rcases List.mem_append.mp hmem with hold | hnew
    · exact h.nonempty inliers hold
    · rw [List.mem_singleton.mp hnew]
      exact List.ne_nil_of_length_pos (Nat.pos_of_ne_zero hne)
  extractions := by
    have hone : (s.segment m_seg).extract.extractions = s.extractions + 1 := rfl
    have hanswers : (s.segment m_seg).extract.answers =
        s.answers ++ [(s.segment m_seg).inliers] := rfl
    rw [hone, h.extractions, hanswers, List.length_append]
    rfl
  count := by
    have hlt := length_extract_lt hne
    have hcount := h.count
    have hone : (s.segment m_seg).extract.extractions = s.extractions + 1 := rfl
    omega

theorem Inv.filter_answers (h : Inv m_seg above cloud s) :
    (s.answers.filter fun inliers => inliers ≠ []) = s.answers := by
  rw [List.filter_eq_self]
  intro inliers hmem
  exact decide_eq_true (h.nonempty inliers hmem)

theorem Inv.last (h : Inv m_seg above cloud s) (habove : above s.remaining.length = true)
    (hnil : (s.segment m_seg).inliers.length = 0) :
    Ended m_seg above cloud (s.segment m_seg) := by
  have hanswers : (s.segment m_seg).answers = s.answers ++ [[]] := by
    rw [← List.length_eq_zero_iff.mp hnil]
    rfl
  have hextractions : (s.segment m_seg).extractions = s.extractions := rfl
  refine ⟨?_, h.turns_segment habove, ?_, ?_, Or.inr ?_⟩
  · rw [remaining_segment, hanswers, List.foldl_append, ← h.remaining]
    exact (removeAt_nil s.remaining).symm
  · rw [hextractions, hanswers, List.filter_append, h.filter_answers, h.extractions]
    simp
  · rw [hextractions]
    exact (Nat.le_add_right _ _).trans h.count
  · rw [hanswers, List.getLast?_concat]

/-- One turn for each point that remains, and one more, are enough. -/
theorem Inv.run (h : Inv m_seg above cloud s) {n : Nat} (hn : s.remaining.length < n) :
    ∃ t, run m_seg above n s = some t ∧ Ended m_seg above cloud t := by
  induction n generalizing s with
  | zero => exact absurd hn (Nat.not_lt_zero _)
  | succ n ih =>
    rw [PlaneLoop.run]
    by_cases habove : above s.remaining.length = true
    · rw [if_pos habove]
      by_cases hnil : (s.segment m_seg).inliers.length = 0
      · rw [if_pos hnil]
        exact ⟨_, rfl, h.last habove hnil⟩
      · rw [if_neg hnil]
        have hlt := length_extract_lt hnil
        exact ih (h.extract habove hnil) (by omega)
    · rw [if_neg habove]
      refine ⟨s, rfl, h.remaining, h.turns, ?_, ?_, Or.inl (Bool.eq_false_of_not_eq_true habove)⟩
      · rw [h.filter_answers, h.extractions]
      · exact (Nat.le_add_right _ _).trans h.count

end Turns

/-- With a segmenter that does not depend on its calls, this is the loop over one cloud. -/
theorem removePlanes_eq_run {segment : List P → List Nat}
    (hvalid : ∀ cloud, ∀ i ∈ segment cloud, i < cloud.length) (nr_points : Int) (n : Nat)
    (s : PlaneLoop P) :
    removePlanes segment nr_points n s.remaining =
      (run ⟨fun _ => segment, fun _ => hvalid⟩ (fun size => aboveLimit size nr_points) n s).map
        remaining := by
  induction n generalizing s with
  | zero => rfl
  | succ n ih =>
    rw [removePlanes, run]
    have hinliers : (s.segment ⟨fun _ => segment, fun _ => hvalid⟩).inliers =
        segment s.remaining := rfl
    by_cases habove : aboveLimit s.remaining.length nr_points = true
    · rw [if_pos habove, if_pos habove, hinliers]
      by_cases hnil : (segment s.remaining).length = 0
      · rw [if_pos hnil, if_pos hnil]
        rfl
      · have hnext := ih (s.segment ⟨fun _ => segment, fun _ => hvalid⟩).extract
        rw [remaining_extract] at hnext
        rw [if_neg hnil, if_neg hnil, ← hnext]
        rfl
    · rw [if_neg habove, if_neg habove]
      rfl

end PlaneLoop

theorem intSize_le (size : Nat) : intSize size ≤ size := by
  unfold intSize
  rw [Int.bmod_def]
  push_cast
  split_ifs <;> omega

theorem le_of_not_aboveExact {size n : Nat} (h : aboveExact size (intSize n) = false) :
    (size : ℚ) ≤ m_iterLimit * n := by
  have hsize : (size : ℚ) ≤ m_iterLimit * intSize n := not_lt.mp (of_decide_eq_false h)
  have hlimit : 0 ≤ m_iterLimit := by
    unfold m_iterLimit
    positivity
  have hn : (intSize n : ℚ) ≤ n := by exact_mod_cast intSize_le n
  exact hsize.trans (mul_le_mul_of_nonneg_left hn hlimit)

/-- The loop ends. Each of its answers is the one that `m_seg` gives for what the ones before it
have left, while that is too much; and what is left in the end is what no answer named. -/
theorem removeAllPlanes_leaves_others (m_seg : Segmenter P) (cloud_filtered : List P) :
    ∃ s, removeAllPlanes m_seg cloud_filtered = some s ∧
      Along (fun before inliers =>
        aboveExact (before.foldl removeAt cloud_filtered).length (intSize cloud_filtered.length) =
            true ∧
          (∀ earlier ∈ before, earlier ≠ []) ∧
          inliers = m_seg.segment before (before.foldl removeAt cloud_filtered)) s.answers ∧
      s.extractions = (s.answers.filter fun inliers => inliers ≠ []).length ∧
      s.extractions ≤ cloud_filtered.length ∧
      s.remaining = (cloud_filtered.zipIdx.filter fun p =>
        p.2 ∉ taken (List.range cloud_filtered.length) s.answers).map Prod.fst ∧
      ((s.remaining.length : ℚ) ≤ m_iterLimit * cloud_filtered.length ∨
        s.answers.getLast? = some []) := by
  have hfuel : (PlaneLoop.start cloud_filtered).remaining.length < cloud_filtered.length + 1 :=
    Nat.lt_succ_self _
  obtain ⟨s, hrun, hended⟩ := (PlaneLoop.inv_start cloud_filtered).run hfuel
  refine ⟨s, hrun, ?_, hended.extractions, hended.count, ?_,
    hended.exit.imp_left le_of_not_aboveExact⟩
  · intro before inliers after hsplit
    obtain ⟨habove, hnonempty, hanswer⟩ := hended.turns before inliers after hsplit
    exact ⟨habove, hnonempty, hanswer⟩
  · rw [hended.remaining, foldl_removeAt]

/-- A segmenter that takes every other point for the plane. -/
def everyOther : Segmenter P where
  segment _ cloud := (List.range cloud.length).filter fun i => i % 2 = 0
  valid _ _ _ hi := List.mem_range.mp (List.mem_of_mem_filter hi)

/-- Of ten points, three are below the limit: two rounds leave two. -/
theorem ten_points_two_rounds :
    ∃ s, removeAllPlanes everyOther (List.range 10) = some s ∧ s.remaining = [3, 7] ∧
      s.answers = [[0, 2, 4, 6, 8], [0, 2, 4]] ∧
      s.extractions = (s.answers.filter fun inliers => inliers ≠ []).length ∧
      s.remaining = ((List.range 10).zipIdx.filter fun p =>
        p.2 ∉ taken (List.range 10) s.answers).map Prod.fst := by
  obtain ⟨s, hrun, _, hextractions, _, hremaining, _⟩ :=
    removeAllPlanes_leaves_others everyOther (List.range 10)
  have hresult : ((removeAllPlanes everyOther (List.range 10)).map fun s =>
      (s.remaining, s.answers)) = some ([3, 7], [[0, 2, 4, 6, 8], [0, 2, 4]]) := by
    decide +kernel
  rw [hrun] at hresult
  obtain ⟨hleft, hanswers⟩ := Prod.mk.inj (Option.some.inj hresult)
  exact ⟨s, hrun, hleft, hanswers, hextractions, hremaining⟩

end KinectHelper.PclSegmentation
