import KinectHelper.Segmentation.PclObjectDetector

namespace KinectHelper.PclObjectDetector

/-- Every pass worked on a cloud made after the pass before it began. -/
def Fresh {ι : Type*} (s : State ι) : Prop :=
  s.passes.Pairwise (· < ·) ∧ ∀ k ∈ s.passes, 0 < k

/-- The last cloud was never segmented, and nothing will make the worker look at it. -/
def Forgotten (s : State Unit) : Prop :=
  s.detect () = .idle ∧ 0 < s.filled ∧ s.filled ∉ s.passes ∧ s.worker = .waiting
  deriving Decidable

/-- The worker is woken and has not begun its pass. -/
def WorkerPc.beforePass : WorkerPc → Bool
  | .notified | .lockFill | .findClusters => true
  | _ => false

/-- A notification reaches a waiting worker that has a new cloud to look at, or comes before
the pass of a worker that is awake already, or is not needed. -/
def Timely (s : State Unit) (a : Action Unit) : Prop :=
  a = .detect () → s.detect () = .notifying → s.worker.beforePass = false →
    (s.worker = .waiting ↔ s.filled ∉ s.passes)
  deriving Decidable

/-- The caller has made a cloud, and not announced it. -/
def DetectPc.announcing : DetectPc → Bool
  | .unlocking | .notifying => true
  | _ => false

structure HandOff (s : State Unit) : Prop where
  fresh : Fresh s
  made : ∀ k ∈ s.passes, k ≤ s.filled
  some_cloud : (s.detect ()).announcing = true → 0 < s.filled
  new_cloud : s.worker.beforePass = true → 0 < s.filled ∧ s.filled ∉ s.passes
  announced : 0 < s.filled → s.filled ∉ s.passes →
    s.worker.beforePass = true ∨ (s.detect ()).announcing = true

section Steps

variable {s t : State Unit}

theorem HandOff.not_forgotten (hI : HandOff s) : ¬ Forgotten s := by
  intro ⟨hidle, hfilled, hnew, hwait⟩
  rcases hI.announced hfilled hnew with h | h
  · rw [hwait] at h
    cases h
  · rw [hidle] at h
    cases h

theorem HandOff.move_worker (hI : HandOff s) {pc pc' : WorkerPc} (hpc : s.worker = pc)
    (monitor : Bool) (owner : Option (Holder Unit)) (h : pc'.beforePass = pc.beforePass) :
    HandOff { s with mutexMonitorWorker := monitor, mutexFill := owner, worker := pc' } where
  fresh := hI.fresh
  made := hI.made
  some_cloud := hI.some_cloud
  new_cloud := fun hp => hI.new_cloud (by rw [hpc, ← h]; exact hp)
  announced := by
    intro hfilled hnew
    have ha := hI.announced hfilled hnew
    rwa [hpc, ← h] at ha

theorem HandOff.pass (hI : HandOff s) (hpc : s.worker = .findClusters) :
    HandOff { s with passes := s.passes ++ [s.filled], worker := .publishing } := by
  obtain ⟨hfilled, hnew⟩ := hI.new_cloud (by rw [hpc]; rfl)
  obtain ⟨hsorted, hpos⟩ := hI.fresh
  have hlt : ∀ k ∈ s.passes, k < s.filled := by
    intro k hk
    have hle := hI.made k hk
    have hne : k ≠ s.filled := fun h => hnew (h ▸ hk)
    omega
  have hmem : s.filled ∈ s.passes ++ [s.filled] := by simp
  exact {
    fresh := by
      constructor
      · simpa [List.pairwise_append] using ⟨hsorted, hlt⟩
      · intro k hk
        rcases List.mem_append.mp hk with hk | hk
        · exact hpos k hk
        · rwa [List.mem_singleton.mp hk]
    made := by
      intro k hk
      rcases List.mem_append.mp hk with hk | hk
      · exact hI.made k hk
      · exact Nat.le_of_eq (List.mem_singleton.mp hk)
    some_cloud := hI.some_cloud
    new_cloud := nofun
    announced := fun _ h => absurd hmem h }

theorem handOff_workerStep (hI : HandOff s) (h : workerStep s = some t) : HandOff t := by
  unfold workerStep at h
  cases hpc : s.worker <;> simp only [hpc] at h
  case findClusters =>
    cases h
    exact hI.pass hpc
  case lockFill =>
    split at h
    · cases h
      exact hI.move_worker hpc s.mutexMonitorWorker (some .worker) rfl
    · cases h
  case unlockFill =>
    cases h
    exact hI.move_worker hpc s.mutexMonitorWorker none rfl
  all_goals
    try split_ifs at h
    all_goals
      cases h
      try exact hI.move_worker hpc _ s.mutexFill rfl

theorem HandOff.move_detect (hI : HandOff s) {pc pc' : DetectPc} (hpc : s.detect () = pc)
    (owner : Option (Holder Unit)) (h : pc'.announcing = pc.announcing) :
    HandOff (moveDetect { s with mutexFill := owner } () pc') where
  fresh := hI.fresh
  made := hI.made
  some_cloud := by
    intro ha
    rw [moveDetect_self, h, ← hpc] at ha
    exact hI.some_cloud ha
  new_cloud := hI.new_cloud
  announced := by
    intro hfilled hnew
    rw [moveDetect_self, h, ← hpc]
    exact hI.announced hfilled hnew

theorem HandOff.fill (hI : HandOff s) :
    HandOff (moveDetect { s with filled := s.filled + 1 } () .unlocking) := by
  have hnew : s.filled + 1 ∉ s.passes := by
    intro hk
    have := hI.made _ hk
    omega
  exact {
    fresh := hI.fresh
    made := fun k hk => Nat.le_succ_of_le (hI.made k hk)
    some_cloud := fun _ => Nat.succ_pos _
    new_cloud := fun _ => ⟨Nat.succ_pos _, hnew⟩
    announced := fun _ _ => Or.inr (by rw [moveDetect_self]; rfl) }

/-- The notification is the one step that needs its time. -/
theorem HandOff.notify (hI : HandOff s) (hpc : s.detect () = .notifying)
    (htimely : s.worker.beforePass = false → (s.worker = .waiting ↔ s.filled ∉ s.passes)) :
    HandOff (moveDetect (notifyOne s) () .idle) := by
  unfold notifyOne
  split_ifs with hwait
  · have hnew := (htimely (by rw [hwait]; rfl)).mp hwait
    have hcloud := hI.some_cloud (by rw [hpc]; rfl)
    exact {
      fresh := hI.fresh
      made := hI.made
      some_cloud := by
        rw [moveDetect_self]
        exact nofun
      new_cloud := fun _ => ⟨hcloud, hnew⟩
      announced := fun _ _ => Or.inl rfl }
  · exact {
      fresh := hI.fresh
      made := hI.made
      some_cloud := by
        rw [moveDetect_self]
        exact nofun
      new_cloud := hI.new_cloud
      announced := by
        intro _ hnew
        cases hb : s.worker.beforePass with
        | true => exact Or.inl hb
        | false => exact absurd ((htimely hb).mpr hnew) hwait }

theorem handOff_detectStep (hI : HandOff s) (htimely : Timely s (.detect ()))
    (h : detectStep s () = some t) : HandOff t := by
  unfold detectStep at h
  cases hpc : s.detect () <;> simp only [hpc] at h
  case idle => cases h
  case tryLock =>
    split at h
    · cases h
      exact hI.move_detect hpc _ rfl
    · cases h
      exact hI.move_detect hpc s.mutexFill rfl
  case filling =>
    cases h
    exact hI.fill
  case unlocking =>
    cases h
    exact hI.move_detect hpc none rfl
  case notifying =>
    cases h
    exact hI.notify hpc (htimely rfl hpc)

theorem HandOff.move_dtor (hI : HandOff s) (stop : Bool) (pc : DtorPc) :
    HandOff { s with stopWorker := stop, dtor := pc } :=
  ⟨hI.fresh, hI.made, hI.some_cloud, hI.new_cloud, hI.announced⟩

theorem handOff_dtorStep (hI : HandOff s) (h : dtorStep s = some t) : HandOff t := by
  unfold dtorStep at h
  cases hpc : s.dtor <;> simp only [hpc] at h
  case setting =>
    cases h
    exact hI.move_dtor true .joining
  case joining =>
    split_ifs at h
    cases h
    exact hI.move_dtor s.stopWorker .joined
  all_goals cases h

end Steps

theorem handOff_step (s : State Unit) (a : Action Unit) (t : State Unit) (hI : HandOff s)
    (htimely : Timely s a) (h : step s a = some t) : HandOff t := by
  cases a <;> simp only [step] at h
  case callDetect j =>
    split_ifs at h with hpc
    cases h
    exact hI.move_detect hpc s.mutexFill rfl
  case detect j => exact handOff_detectStep hI htimely h
  case worker => exact handOff_workerStep hI h
  case destroy =>
    split_ifs at h
    cases h
    exact hI.move_dtor s.stopWorker .setting
  case dtor => exact handOff_dtorStep hI h

theorem handOff_start : HandOff start where
  fresh := ⟨List.Pairwise.nil, nofun⟩
  made := nofun
  some_cloud := nofun
  new_cloud := nofun
  announced := nofun

/-- With one caller, a run whose notifications are all timely segments no cloud twice and
forgets none. -/
theorem timely_run_hands_off (as : List (Action Unit)) (s : State Unit)
    (hguard : Guarded step Timely start as) (hrun : exec step start as = some s) :
    Fresh s ∧ ¬ Forgotten s := by
  have hI := exec_invariant handOff_step as start s handOff_start hguard hrun
  exact ⟨hI.fresh, hI.not_forgotten⟩

theorem announced_clouds_hand_off :
    ∃ s, exec step start (waitRun ++ detectRun () ++ passRun ++ detectRun () ++ passRun) = some s ∧
      s.passes = [1, 2] ∧ Fresh s ∧ ¬ Forgotten s :=
  ⟨_, rfl, rfl, timely_run_hands_off
    (waitRun ++ detectRun () ++ passRun ++ detectRun () ++ passRun) _ (by decide) rfl⟩

/-- A cloud announced after its pass is segmented again, and one announced before the worker's
first `wait` is forgotten. -/
theorem untimely_notifications :
    (∃ s, exec step start (waitRun ++ detectRun () ++ (detectRun ()).take 4 ++ passRun ++
        [.detect ()] ++ passRun) = some s ∧ ¬ Fresh s) ∧
    (∃ s, exec step start (detectRun () ++ waitRun) = some s ∧ Forgotten s) := by
  refine ⟨⟨_, rfl, ?_⟩, ⟨_, rfl, by decide⟩⟩
  intro hfresh
  have hsorted := hfresh.1
  revert hsorted
  decide

end KinectHelper.PclObjectDetector
