import KinectHelper.Segmentation.CreatePointCloud

namespace KinectHelper.PclSegmentation

variable {P : Type*}

/-- Every two-byte read the loops make lies inside the payload. -/
def ReadsInside (frame : VideoFrame) (point : Nat → Nat → Nat → P) : Prop :=
  ∀ s, Visits frame point (.pixels s) → s.xi < toFloat frame.width → Inside frame s.data

section Visited

variable {frame : VideoFrame} {point : Nat → Nat → Nat → P}

theorem endless_row_inside (hin : ReadsInside frame point) (hH : 0 < toFloat frame.height)
    (hW : 2^floatBits < toFloat frame.width) (i : Nat) :
    Inside frame (i * intChannels frame) := by
  induction i using Nat.strong_induction_on with
  | _ i ih =>
    have henter : Visits frame point (.pixels ⟨0, 0, 0, []⟩) :=
      (LeadsTo.refl _).next (step_row frame point ⟨0, 0, 0, []⟩ hH)
    have hx (i : Nat) : min i (2^floatBits) < toFloat frame.width :=
      lt_of_le_of_lt (Nat.min_le_right _ _) hW
    have hrun := pixels_run frame point 0 0 [] i (by
      intro i' hi'
      exact ⟨hx i', by simpa using ih i' hi'⟩)
    have := hin _ (henter.trans hrun) (hx i)
    simpa using this

theorem pixel_inside (hin : ReadsInside frame point) (hW : toFloat frame.width ≤ 2^floatBits)
    (j i : Nat) (hi : i < toFloat frame.width)
    (hj : min j (2^floatBits) < toFloat frame.height) :
    Inside frame ((j * toFloat frame.width + i : Nat) * intChannels frame) := by
  induction hk : j * toFloat frame.width + i using Nat.strong_induction_on generalizing j i with
  | _ k ih =>
    subst hk
    obtain ⟨points, hv⟩ := pixel_visited frame point hW j i hi hj (by
      intro j' i' hi' hlt
      refine ih _ hlt j' i' hi' ?_ rfl
      have hle : j' ≤ j := by
        by_contra h
        have := Nat.mul_le_mul_right (toFloat frame.width) (show j + 1 ≤ j' by omega)
        rw [Nat.add_mul, Nat.one_mul] at this
        omega
      exact lt_of_le_of_lt (min_le_min_right _ hle) hj)
    have hread := hin _ hv hi
    exact hread

theorem readsInside_of_done {points : List P} (h : Visits frame point (.done points)) :
    ReadsInside frame point := by
  intro s hs hx
  by_contra hout
  have hfault : Visits frame point .outside := hs.next (step_outside frame point s hx hout)
  have hsame : CloudState.done points = .outside :=
    @LeadsTo.halted_unique _ (cloudStep frame point) _ _ _ rfl rfl h hfault
  cases hsame

/-- A read outside is one of a pixel. -/
theorem not_outside (hin : ReadsInside frame point) (n : Nat) :
    createPointCloud frame point n ≠ .outside := by
  induction n with
  | zero => exact fun h => nomatch h
  | succ n ih =>
    rw [createPointCloud_succ]
    generalize hs : createPointCloud frame point n = s at ih
    cases s with
    | rows s =>
      by_cases hy : s.yi < toFloat frame.height
      · rw [step_row frame point s hy]
        exact fun h => nomatch h
      · rw [step_done frame point s hy]
        exact fun h => nomatch h
    | pixels s =>
      by_cases hx : s.xi < toFloat frame.width
      · rw [step_pixel frame point s hx (hin s ⟨n, hs⟩ hx)]
        exact fun h => nomatch h
      · rw [step_rowEnd frame point s hx]
        exact fun h => nomatch h
    | done points => exact fun h => nomatch h
    | outside => exact absurd rfl ih

end Visited

/-- The turns of `CreatePointCloud` if the counters reach their limits. -/
def cloudTurns (frame : VideoFrame) : Nat :=
  toFloat frame.height * (toFloat frame.width + 2) + 1

/-- The turns that are left. -/
def turnsLeft (frame : VideoFrame) : CloudState P → Nat
  | .rows s => (toFloat frame.height - s.yi) * (toFloat frame.width + 2) + 1
  | .pixels s =>
      toFloat frame.width - s.xi + 2 +
        (toFloat frame.height - (s.yi + 1)) * (toFloat frame.width + 2)
  | .done _ | .outside => 0

/-- A pixel is one of a row that is there. -/
def InRow (frame : VideoFrame) : CloudState P → Prop
  | .pixels s => s.yi < toFloat frame.height
  | _ => True

section Turns

variable {frame : VideoFrame} {point : Nat → Nat → Nat → P}

theorem inRow_step (s : CloudState P) (hs : InRow frame s) :
    InRow frame (cloudStep frame point s) := by
  cases s with
  | rows s =>
    by_cases hy : s.yi < toFloat frame.height
    · rw [step_row frame point s hy]
      exact hy
    · rw [step_done frame point s hy]
      trivial
  | pixels s =>
    by_cases hx : s.xi < toFloat frame.width
    · by_cases hin : Inside frame s.data
      · rw [step_pixel frame point s hx hin]
        exact hs
      · rw [step_outside frame point s hx hin]
        trivial
    · rw [step_rowEnd frame point s hx]
      trivial
  | done points => trivial
  | outside => trivial

theorem turnsLeft_step (hW : toFloat frame.width ≤ 2^floatBits)
    (hH : toFloat frame.height ≤ 2^floatBits) (s : CloudState P) (hs : InRow frame s) :
    turnsLeft frame (cloudStep frame point s) ≤ turnsLeft frame s - 1 := by
  cases s with
  | rows s =>
    by_cases hy : s.yi < toFloat frame.height
    · have hrow : toFloat frame.height - s.yi = toFloat frame.height - (s.yi + 1) + 1 := by omega
      rw [step_row frame point s hy]
      simp only [turnsLeft]
      rw [hrow, Nat.succ_mul]
      omega
    · rw [step_done frame point s hy]
      exact Nat.zero_le _
  | pixels s =>
    by_cases hx : s.xi < toFloat frame.width
    · by_cases hin : Inside frame s.data
      · have hnext := addOne_of_lt (by decide) (lt_of_lt_of_le hx hW)
        rw [step_pixel frame point s hx hin]
        simp only [turnsLeft]
        rw [hnext]
        omega
      · rw [step_outside frame point s hx hin]
        exact Nat.zero_le _
    · have hnext := addOne_of_lt (by decide) (lt_of_lt_of_le hs hH)
      rw [step_rowEnd frame point s hx]
      simp only [turnsLeft]
      rw [hnext]
      omega
  | done points => exact Nat.zero_le _
  | outside => exact Nat.zero_le _

/-- With limits the counters can reach, and every read inside, the turns are enough. -/
theorem cloudTurns_enough (hW : toFloat frame.width ≤ 2^floatBits)
    (hH : toFloat frame.height ≤ 2^floatBits) (hin : ReadsInside frame point) :
    ∃ points, createPointCloud frame point (cloudTurns frame) = .done points := by
  let start : CloudState P := .rows ⟨0, 0, 0, []⟩
  have hstart : turnsLeft frame start = cloudTurns frame := rfl
  have hInRow : InRow frame start := trivial
  obtain ⟨_, hleft⟩ := iterate_measure (turnsLeft frame) inRow_step
    (@turnsLeft_step _ frame point hW hH) hInRow (cloudTurns frame)
  rw [hstart, Nat.sub_self] at hleft
  have hinside := not_outside hin (cloudTurns frame)
  change turnsLeft frame (createPointCloud frame point (cloudTurns frame)) ≤ 0 at hleft
  generalize createPointCloud frame point (cloudTurns frame) = s at hleft hinside
  cases s with
  | rows s => exact absurd hleft (by simp [turnsLeft])
  | pixels s => exact absurd hleft (by simp [turnsLeft])
  | done points => exact ⟨points, rfl⟩
  | outside => exact absurd rfl hinside

end Turns

/-- The last read fits into a payload of wrapped size only if nothing wraps and, unless a
limit was rounded down, a pixel has at least two bytes. -/
private theorem last_read_fits {w h c W H L : Nat}
    (hw : (w ≤ 2^24 ∧ W = w) ∨ (w = 2^24 + 1 ∧ W = 2^24))
    (hh : (h ≤ 2^24 ∧ H = h) ∨ (h = 2^24 + 1 ∧ H = 2^24))
    (hpos : 1 ≤ w ∧ 1 ≤ h ∧ 1 ≤ c) (hc : c < 2^31)
    (hL : L = w * h * c % 2^32) (hfit : L + 12 < 2^32) (hlast : (H * W - 1) * c + 2 ≤ L) :
    w * h * c + 12 < 2^32 ∧ (2 ≤ c ∨ w = 2^24 + 1 ∨ h = 2^24 + 1) := by
  have hdiv := Nat.div_add_mod (w * h * c) (2^32)
  rw [← hL] at hdiv
  have hHW : 1 ≤ H * W := Nat.mul_pos (by omega) (by omega)
  have hlast' : H * W * c + 2 ≤ L + c := by
    rw [Nat.sub_mul, Nat.one_mul] at hlast
    have := Nat.le_mul_of_pos_left c hHW
    omega
  rcases hw with ⟨hw, rfl⟩ | ⟨rfl, rfl⟩ <;> rcases hh with ⟨hh, rfl⟩ | ⟨rfl, rfl⟩
  · rw [Nat.mul_comm H W] at hlast'
    omega
  · -- the height was rounded down
    have he : W * (2^24 + 1) * c = 2^24 * (W * c) + W * c := by ring
    have hm : c ≤ W * c := Nat.le_mul_of_pos_left c hpos.1
    have hr : 2^24 * W * c = 2^24 * (W * c) := by ring
    rw [hr] at hlast'
    rw [he] at hdiv ⊢
    omega
  · -- the width was rounded down
    have he : (2^24 + 1) * H * c = 2^24 * (H * c) + H * c := by ring
    have hm : c ≤ H * c := Nat.le_mul_of_pos_left c hpos.2.1
    have hr : H * 2^24 * c = 2^24 * (H * c) := by ring
    rw [hr] at hlast'
    rw [he] at hdiv ⊢
    omega
  · omega

private theorem read_fits {w h c W H k : Nat}
    (hw : (w ≤ 2^24 ∧ W = w) ∨ (w = 2^24 + 1 ∧ W = 2^24))
    (hh : (h ≤ 2^24 ∧ H = h) ∨ (h = 2^24 + 1 ∧ H = 2^24))
    (hpos : 1 ≤ w ∧ 1 ≤ h ∧ 1 ≤ c) (hc : 2 ≤ c ∨ w = 2^24 + 1 ∨ h = 2^24 + 1)
    (hk : k < H * W) : k * c + 2 ≤ w * h * c := by
  have hlast : k * c + c ≤ H * W * c := by
    calc k * c + c = (k + 1) * c := by ring
      _ ≤ H * W * c := Nat.mul_le_mul_right c hk
  rcases hw with ⟨hw, rfl⟩ | ⟨rfl, rfl⟩ <;> rcases hh with ⟨hh, rfl⟩ | ⟨rfl, rfl⟩
  · rw [Nat.mul_comm H W] at hlast
    omega
  · have he : W * (2^24 + 1) * c = 2^24 * W * c + W * c := by ring
    have hm : c ≤ W * c := Nat.le_mul_of_pos_left c hpos.1
    omega
  · have he : (2^24 + 1) * H * c = H * 2^24 * c + H * c := by ring
    have hm : c ≤ H * c := Nat.le_mul_of_pos_left c hpos.2.1
    omega
  · have he : (2^24 + 1) * (2^24 + 1) * c = 2^24 * 2^24 * c + (2^25 + 1) * c := by ring
    omega

private theorem toFloat_reached {n : UInt32} (h : n.toNat ≤ 2^24 + 1) :
    (n.toNat ≤ 2^24 ∧ toFloat n = n.toNat) ∨ (n.toNat = 2^24 + 1 ∧ toFloat n = 2^24) := by
  rcases toFloat_cases n with h' | h' | h'
  · exact Or.inl h'
  · exact Or.inr h'
  · omega

private theorem toFloat_le {n : UInt32} (h : n.toNat ≤ 2^24 + 1) : toFloat n ≤ 2^floatBits := by
  rcases toFloat_reached h with h' | h'
  · exact h'.2.trans_le h'.1
  · exact h'.2.le

private theorem toFloat_not_reached {n : UInt32} (h : ¬ n.toNat ≤ 2^24 + 1) :
    2^floatBits < toFloat n := by
  rcases toFloat_cases n with h' | h' | h'
  · omega
  · omega
  · exact h'.2

/-- No stride stays inside the payload for ever. -/
private theorem stride_leaves {frame : VideoFrame} {m : Nat} (hm : 0 < m)
    (hc : 0 < frame.nchannels.toNat)
    (h : ∀ i : Nat, Inside frame ((i * m : Nat) * intChannels frame)) : False := by
  rcases intChannels_cases frame with ⟨_, hci⟩ | ⟨_, hci⟩
  · -- the read at index `n`, the payload's length, starts at or past the end
    let n := frame.getFrame.length
    have hout : n * m * frame.nchannels.toNat + 2 ≤ n := by
      have := (h n).2
      rw [hci] at this
      exact_mod_cast this
    have h1 : n ≤ n * m := Nat.le_mul_of_pos_right n hm
    have h2 : n * m ≤ n * m * frame.nchannels.toNat := Nat.le_mul_of_pos_right (n * m) hc
    omega
  · have hneg := Int.mul_neg_of_pos_of_neg (show (0 : Int) < (1 * m : Nat) by omega) hci
    have hlow := (h 1).1
    omega

private theorem negative_stride {frame : VideoFrame} {k : Nat} (hc : intChannels frame < 0)
    (h : Inside frame (k * intChannels frame)) : k = 0 := by
  by_contra hk
  have hneg := Int.mul_neg_of_pos_of_neg (show (0 : Int) < k by omega) hc
  have hlow := h.1
  omega

private theorem mul_eq_one {m n : Nat} (h : m * n = 1) : m = 1 ∧ n = 1 :=
  ⟨Nat.eq_one_of_mul_eq_one_right h, Nat.eq_one_of_mul_eq_one_left h⟩

section Accepted

variable {frame : VideoFrame} {point : Nat → Nat → Nat → P}

private theorem limits_reached (hw0 : 0 < frame.width.toNat) (hh0 : 0 < frame.height.toNat)
    (hc0 : 0 < frame.nchannels.toNat) (hin : ReadsInside frame point) :
    frame.width.toNat ≤ 2^24 + 1 ∧ frame.height.toNat ≤ 2^24 + 1 := by
  have hw : frame.width.toNat ≤ 2^24 + 1 := by
    by_contra hgt
    have hread := endless_row_inside hin (toFloat_pos hh0) (toFloat_not_reached hgt)
    exact stride_leaves Nat.one_pos hc0 (by simpa using hread)
  refine ⟨hw, ?_⟩
  by_contra hgt
  have hread (j : Nat) := pixel_inside hin (toFloat_le hw) j 0 (toFloat_pos hw0)
    (lt_of_le_of_lt (Nat.min_le_right _ _) (toFloat_not_reached hgt))
  exact stride_leaves (toFloat_pos hw0) hc0 hread

private theorem last_pixel_inside (hw0 : 0 < frame.width.toNat) (hh0 : 0 < frame.height.toNat)
    (hw : frame.width.toNat ≤ 2^24 + 1) (hin : ReadsInside frame point) :
    Inside frame ((toFloat frame.height * toFloat frame.width - 1 : Nat) * intChannels frame) := by
  have hW0 := toFloat_pos hw0
  have hH0 := toFloat_pos hh0
  have hlast := pixel_inside hin (toFloat_le hw) (toFloat frame.height - 1)
    (toFloat frame.width - 1) (by omega) (lt_of_le_of_lt (Nat.min_le_left _ _) (by omega))
  have hindex : (toFloat frame.height - 1) * toFloat frame.width + (toFloat frame.width - 1) =
      toFloat frame.height * toFloat frame.width - 1 := by
    have := Nat.le_mul_of_pos_left (toFloat frame.width) hH0
    rw [Nat.sub_mul, Nat.one_mul]
    omega
  rwa [hindex] at hlast

end Accepted

/-- For an accepted frame all reads stay inside the payload if and only if its size does not
wrap, both loops can reach their limits, and the last pixel has two bytes. -/
theorem readsInside_iff (abi : Abi) (buffer : Block) (bufsize : UInt32) (frame : VideoFrame)
    (point : Nat → Nat → Nat → P)
    (hframe : VideoFrame.fromBuffer abi buffer bufsize = some frame) (hok : frame.isOK = true) :
    ReadsInside frame point ↔
      frame.pixelBytes + 12 < 2^32 ∧
      frame.width.toNat ≤ 2^24 + 1 ∧ frame.height.toNat ≤ 2^24 + 1 ∧
      (2 ≤ frame.nchannels.toNat ∨ frame.width.toNat = 2^24 + 1 ∨
        frame.height.toNat = 2^24 + 1) := by
  obtain ⟨hL, hfit, hmin⟩ := VideoFrame.accepted_payload hframe hok
  have h20 := (VideoFrame.sizeofVideoFrame_bounds abi).1
  have hbytes : frame.pixelBytes =
      frame.width.toNat * frame.height.toNat * frame.nchannels.toNat := rfl
  have hpos : 1 ≤ frame.width.toNat ∧ 1 ≤ frame.height.toNat ∧ 1 ≤ frame.nchannels.toNat :=
    VideoFrame.accepted_pos hframe hok
  constructor
  · intro hin
    obtain ⟨hw, hh⟩ := limits_reached hpos.1 hpos.2.1 hpos.2.2 hin
    have hlast := last_pixel_inside hpos.1 hpos.2.1 hw hin
    rcases intChannels_cases frame with ⟨hc, hci⟩ | ⟨hc, hci⟩
    · have hout : (toFloat frame.height * toFloat frame.width - 1) * frame.nchannels.toNat + 2 ≤
          frame.getFrame.length := by
        have := hlast.2
        rw [hci] at this
        exact_mod_cast this
      have hfits := last_read_fits (toFloat_reached hw) (toFloat_reached hh) hpos hc hL hfit hout
      exact ⟨hfits.1, hw, hh, hfits.2⟩
    · -- a negative stride leaves room for a single pixel
      have hone : toFloat frame.height * toFloat frame.width = 1 := by
        have h1 := Nat.mul_pos (toFloat_pos hpos.2.1) (toFloat_pos hpos.1)
        have h0 := negative_stride hci hlast
        omega
      have hW1 := (mul_eq_one hone).2
      have hH1 := (mul_eq_one hone).1
      have hw1 : frame.width.toNat = 1 := by rcases toFloat_reached hw with h | h <;> omega
      have hh1 : frame.height.toNat = 1 := by rcases toFloat_reached hh with h | h <;> omega
      have hc32 := frame.nchannels.toNat_lt
      rw [hbytes, hw1, hh1] at hL ⊢
      omega
  · intro ⟨hnowrap, hw, hh, htwo⟩
    rw [Nat.mod_eq_of_lt (by omega)] at hL
    refine readsInside_of_done (cloud_done frame point (toFloat_le hw) (toFloat_le hh) ?_)
    intro k hk
    rcases intChannels_cases frame with ⟨hc, hci⟩ | ⟨hc, hci⟩
    · have hread := read_fits (toFloat_reached hw) (toFloat_reached hh) hpos htwo hk
      rw [hci, Inside, hL, hbytes]
      exact ⟨Int.mul_nonneg (Int.natCast_nonneg _) (Int.natCast_nonneg _), by exact_mod_cast hread⟩
    · -- without wrapping, 2^31 channels mean a single pixel
      have hone : frame.width.toNat * frame.height.toNat = 1 := by
        have h1 := Nat.mul_pos hpos.1 hpos.2.1
        by_contra hne
        have := Nat.mul_le_mul_right frame.nchannels.toNat
          (show 2 ≤ frame.width.toNat * frame.height.toNat by omega)
        omega
      obtain ⟨hw1, hh1⟩ := mul_eq_one hone
      have hk0 : k = 0 := by
        have hW1 : toFloat frame.width = 1 := by rcases toFloat_reached hw with h | h <;> omega
        have hH1 : toFloat frame.height = 1 := by rcases toFloat_reached hh with h | h <;> omega
        rw [hW1, hH1] at hk
        omega
      rw [hk0, Inside, hL, hbytes, hw1, hh1]
      omega

/-- Every read of `CreatePointCloud` stays inside the payload. -/
def CloudInside (frame : VideoFrame) : Prop :=
  frame.pixelBytes + 12 < 2^32 ∧
    frame.width.toNat ≤ 2^24 + 1 ∧ frame.height.toNat ≤ 2^24 + 1 ∧
    (2 ≤ frame.nchannels.toNat ∨ frame.width.toNat = 2^24 + 1 ∨ frame.height.toNat = 2^24 + 1)

section Ends

variable {abi : Abi} {buffer : Block} {bufsize : UInt32} {frame : VideoFrame}

theorem createPointCloud_ends_iff (point : Nat → Nat → Nat → P)
    (hframe : VideoFrame.fromBuffer abi buffer bufsize = some frame) (hok : frame.isOK = true) :
    (∃ points, createPointCloud frame point (cloudTurns frame) = .done points) ↔
      CloudInside frame := by
  have hreads := readsInside_iff abi buffer bufsize frame point hframe hok
  constructor
  · intro ⟨points, hdone⟩
    exact hreads.mp (readsInside_of_done ⟨cloudTurns frame, hdone⟩)
  · intro hinside
    exact cloudTurns_enough (toFloat_le hinside.2.1) (toFloat_le hinside.2.2.1)
      (hreads.mpr hinside)

/-- Loops that end at all end within `cloudTurns`. -/
theorem createPointCloud_turns {point : Nat → Nat → Nat → P}
    (hframe : VideoFrame.fromBuffer abi buffer bufsize = some frame) (hok : frame.isOK = true)
    {n : Nat} {points : List P} (hdone : createPointCloud frame point n = .done points) :
    createPointCloud frame point (cloudTurns frame) = .done points := by
  have hinside := (readsInside_iff abi buffer bufsize frame point hframe hok).mp
    (readsInside_of_done ⟨n, hdone⟩)
  obtain ⟨points', hends⟩ := (createPointCloud_ends_iff point hframe hok).mpr hinside
  have hsame := @LeadsTo.halted_unique _ (cloudStep frame point) _ _ _ rfl rfl
    ⟨n, hdone⟩ ⟨cloudTurns frame, hends⟩
  rw [hends, ← hsame]

end Ends

theorem four_by_two_inside :
    ReadsInside (VideoFrame.holding (VideoFrame.encoded 4 2 3 (zeros 24)) 36)
      (fun x y depth => (x, y, depth)) :=
  (readsInside_iff .lp64 (VideoFrame.encoded 4 2 3 (zeros 24)) 36 _ _ (by decide) rfl).mpr
    (by decide)

/-- A row of 21 one-channel pixels is accepted; the read of the last pixel leaves it. -/
theorem one_channel_row_read_past_end :
    ∃ frame, VideoFrame.fromBuffer .lp64 (VideoFrame.encoded 21 1 1 (zeros 21)) 33 = some frame ∧
      frame.isOK = true ∧ ¬ ReadsInside frame (fun x y depth => (x, y, depth)) := by
  refine ⟨VideoFrame.holding (VideoFrame.encoded 21 1 1 (zeros 21)) 33, by decide, rfl, ?_⟩
  intro hin
  have hread := pixel_inside hin (by decide) 0 20 (by decide) (by decide)
  revert hread
  unfold Inside
  decide

end KinectHelper.PclSegmentation
