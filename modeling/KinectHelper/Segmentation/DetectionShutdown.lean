import KinectHelper.Segmentation.PclObjectDetector
import Mathlib.Data.Fintype.Basic

namespace KinectHelper.PclObjectDetector

variable {ι : Type*}

/-- The destructor waits for a worker that waits for a notification, and no call of `Detect`
is in progress that could send one. -/
def Deadlocked (s : State ι) : Prop :=
  s.dtor = .joining ∧ s.worker = .waiting ∧ ∀ j, s.detect j = .idle

/-- The stop flag is set when the worker is not between its test and its `wait`, and, if it
waits, while a call of `Detect` is in progress. -/
def StopSeen (s : State ι) (a : Action ι) : Prop :=
  a = .dtor → s.dtor = .setting →
    s.worker ≠ .entering ∧ (s.worker = .waiting → ∃ j, s.detect j ≠ .idle)

instance [Fintype ι] [DecidableEq ι] (s : State ι) (a : Action ι) : Decidable (StopSeen s a) :=
  inferInstanceAs (Decidable (_ → _ → _))

/-- Inside the scope of `m_mutexFill`. -/
def WorkerPc.holdsFill : WorkerPc → Bool
  | .findClusters | .publishing | .unlockFill => true
  | _ => false

def DetectPc.holdsFill : DetectPc → Bool
  | .filling | .unlocking => true
  | _ => false

def State.inside (s : State ι) : Holder ι → Bool
  | .worker => s.worker.holdsFill
  | .caller j => (s.detect j).holdsFill

/-- Once the flag is set the worker comes to no new `wait`, and a caller remains to end the
one it is in. -/
structure Stoppable (s : State ι) : Prop where
  owned : Owned s.mutexFill s.inside
  joining : s.dtor = .joining → s.stopWorker = true
  seen : s.stopWorker = true → s.worker ≠ .entering
  woken : s.stopWorker = true → s.worker = .waiting → ∃ j, s.detect j ≠ .idle

theorem Stoppable.not_deadlocked {s : State ι} (hI : Stoppable s) : ¬ Deadlocked s := by
  intro ⟨hjoin, hwait, hidle⟩
  obtain ⟨j, hj⟩ := hI.woken (hI.joining hjoin) hwait
  exact hj (hidle j)

section Steps

variable {s t : State ι}

theorem Stoppable.move_worker (hI : Stoppable s) {pc : WorkerPc} (hpc : s.worker = pc)
    (pc' : WorkerPc) (monitor : Bool) (owner : Option (Holder ι)) (passes : List Nat)
    (hlock : LockStep .worker s.mutexFill pc.holdsFill owner pc'.holdsFill)
    (hstop : s.stopWorker = true → pc' ≠ .entering ∧ pc' ≠ .waiting) :
    Stoppable { s with
      mutexMonitorWorker := monitor, mutexFill := owner, passes := passes, worker := pc' } where
  owned := by
    refine hI.owned.step (i := .worker) (by rw [State.inside, hpc]; exact hlock) ?_
    intro i hi
    cases i with
    | worker => exact absurd rfl hi
    | caller j => rfl
  joining := hI.joining
  seen := fun h => (hstop h).1
  woken := fun h hwait => absurd hwait (hstop h).2

theorem stoppable_workerStep (hI : Stoppable s) (h : workerStep s = some t) : Stoppable t := by
  unfold workerStep at h
  cases hpc : s.worker <;> simp only [hpc] at h
  case start =>
    split_ifs at h
    cases h
    exact hI.move_worker hpc .test true _ _ (.stay _ _) (fun _ => ⟨nofun, nofun⟩)
  case test =>
    split_ifs at h with hstop
    · cases h
      exact hI.move_worker hpc .finished false _ _ (.stay _ _) (fun _ => ⟨nofun, nofun⟩)
    · cases h
      exact hI.move_worker hpc .entering _ _ _ (.stay _ _) (fun hs => absurd hs hstop)
  case entering =>
    -- only before the flag is set
    cases h
    exact hI.move_worker hpc .waiting false _ _ (.stay _ _) (fun hs => absurd hpc (hI.seen hs))
  case waiting => cases h
  case notified =>
    split_ifs at h
    cases h
    exact hI.move_worker hpc .lockFill true _ _ (.stay _ _) (fun _ => ⟨nofun, nofun⟩)
  case lockFill =>
    split at h
    · rename_i hfree
      cases h
      exact hI.move_worker hpc .findClusters _ (some .worker) _ (by rw [hfree]; exact .enter)
        (fun _ => ⟨nofun, nofun⟩)
    · cases h
  case findClusters =>
    cases h
    exact hI.move_worker hpc .publishing _ _ _ (.stay _ _) (fun _ => ⟨nofun, nofun⟩)
  case publishing =>
    cases h
    exact hI.move_worker hpc .unlockFill _ _ _ (.stay _ _) (fun _ => ⟨nofun, nofun⟩)
  case unlockFill =>
    cases h
    exact hI.move_worker hpc .test _ none _ (.leave _) (fun _ => ⟨nofun, nofun⟩)
  case finished => cases h

theorem Stoppable.notify (hI : Stoppable s) (hwait : s.worker = .waiting) :
    Stoppable { s with worker := .notified } :=
  hI.move_worker hwait .notified _ _ _ (.stay _ _) (fun _ => ⟨nofun, nofun⟩)

/-- A caller that finds `m_mutexFill` taken, with the worker waiting, is not alone. -/
theorem Stoppable.other_caller (hI : Stoppable s) {j : ι} (hpc : s.detect j = .tryLock)
    {holder : Holder ι} (htaken : s.mutexFill = some holder) (hwait : s.worker = .waiting) :
    ∃ k, k ≠ j ∧ s.detect k ≠ .idle := by
  have hin := (hI.owned holder).mp htaken
  cases holder with
  | worker =>
    rw [State.inside, hwait] at hin
    cases hin
  | caller k =>
    refine ⟨k, ?_, ?_⟩
    · intro hsame
      subst hsame
      rw [State.inside, hpc] at hin
      cases hin
    · intro hidle
      rw [State.inside, hidle] at hin
      cases hin

section Detect

variable [DecidableEq ι]

theorem Stoppable.move_detect (hI : Stoppable s) {j : ι} {pc : DetectPc} (hpc : s.detect j = pc)
    (pc' : DetectPc) (owner : Option (Holder ι)) (filled : Nat)
    (hlock : LockStep (.caller j) s.mutexFill pc.holdsFill owner pc'.holdsFill)
    (hwoken : s.worker = .waiting → pc' = .idle → ∃ k, k ≠ j ∧ s.detect k ≠ .idle) :
    Stoppable (moveDetect { s with mutexFill := owner, filled := filled } j pc') where
  owned := by
    refine hI.owned.step (i := .caller j) ?_ ?_
    · change LockStep _ _ (s.detect j).holdsFill owner (Function.update s.detect j pc' j).holdsFill
      rw [hpc, Function.update_self]
      exact hlock
    · intro i hi
      cases i with
      | worker => rfl
      | caller k =>
        have hk : k ≠ j := fun h => hi (congrArg Holder.caller h)
        exact congrArg DetectPc.holdsFill (moveDetect_of_ne _ pc' hk)
  joining := hI.joining
  seen := hI.seen
  woken := by
    intro _ hwait
    by_cases hidle : pc' = .idle
    · obtain ⟨k, hk, hbusy⟩ := hwoken hwait hidle
      exact ⟨k, by rwa [moveDetect_of_ne _ pc' hk]⟩
    · exact ⟨j, by rwa [moveDetect_self]⟩

theorem stoppable_detectStep (hI : Stoppable s) (j : ι) (h : detectStep s j = some t) :
    Stoppable t := by
  unfold detectStep at h
  cases hpc : s.detect j <;> simp only [hpc] at h
  case idle => cases h
  case tryLock =>
    split at h
    · rename_i hfree
      cases h
      exact hI.move_detect hpc .filling (some (.caller j)) _ (by rw [hfree]; exact .enter)
        (fun _ => nofun)
    · rename_i holder htaken
      cases h
      exact hI.move_detect hpc .idle s.mutexFill s.filled (.stay _ _)
        (fun hwait _ => hI.other_caller hpc htaken hwait)
  case filling =>
    cases h
    exact hI.move_detect hpc .unlocking s.mutexFill (s.filled + 1) (.stay _ _) (fun _ => nofun)
  case unlocking =>
    cases h
    exact hI.move_detect hpc .notifying none s.filled (.leave _) (fun _ => nofun)
  case notifying =>
    cases h
    unfold notifyOne
    split_ifs with hwait
    · exact (hI.notify hwait).move_detect hpc .idle _ _ (.stay _ _) nofun
    · exact hI.move_detect hpc .idle _ _ (.stay _ _) (fun h => absurd h hwait)

end Detect

theorem stoppable_dtorStep (hI : Stoppable s) (hseen : StopSeen s .dtor)
    (h : dtorStep s = some t) : Stoppable t := by
  unfold dtorStep at h
  cases hpc : s.dtor <;> simp only [hpc] at h
  case idle => cases h
  case setting =>
    obtain ⟨hentering, hwaiting⟩ := hseen rfl hpc
    cases h
    exact {
      owned := hI.owned
      joining := fun _ => rfl
      seen := fun _ => hentering
      woken := fun _ => hwaiting }
  case joining =>
    split_ifs at h
    cases h
    exact {
      owned := hI.owned
      joining := nofun
      seen := hI.seen
      woken := hI.woken }
  case joined => cases h

end Steps

theorem stoppable_start : Stoppable (start : State ι) where
  owned := by
    intro i
    cases i <;> simp [start, State.inside, WorkerPc.holdsFill, DetectPc.holdsFill]
  joining := nofun
  seen := nofun
  woken := nofun

section Runs

variable [DecidableEq ι]

theorem stoppable_step (s : State ι) (a : Action ι) (t : State ι) (hI : Stoppable s)
    (hseen : StopSeen s a) (h : step s a = some t) : Stoppable t := by
  cases a <;> simp only [step] at h
  case callDetect j =>
    split_ifs at h with hpc
    cases h
    exact hI.move_detect hpc .tryLock s.mutexFill s.filled (.stay _ _) (fun _ => nofun)
  case detect j => exact stoppable_detectStep hI j h
  case worker => exact stoppable_workerStep hI h
  case destroy =>
    split_ifs at h
    cases h
    exact {
      owned := hI.owned
      joining := nofun
      seen := hI.seen
      woken := hI.woken }
  case dtor => exact stoppable_dtorStep hI hseen h

/-- A run in which the stop flag is set at a moment when the worker will still see it never
deadlocks, with any number of callers. -/
theorem seen_stop_no_deadlock (as : List (Action ι)) (s : State ι)
    (hguard : Guarded step StopSeen start as) (hrun : exec step start as = some s) :
    ¬ Deadlocked s :=
  (exec_invariant stoppable_step as start s stoppable_start hguard hrun).not_deadlocked

end Runs

theorem stop_during_detect_no_deadlock :
    ∃ s, exec step start (waitRun ++ (detectRun ()).take 2 ++ [.destroy, .dtor] ++
        List.replicate 3 (.detect ()) ++ List.replicate 6 .worker ++ [.dtor]) = some s ∧
      s.dtor = .joined ∧ ¬ Deadlocked s :=
  ⟨_, rfl, rfl, seen_stop_no_deadlock
    (waitRun ++ (detectRun ()).take 2 ++ [.destroy, .dtor] ++
      List.replicate 3 (.detect ()) ++ List.replicate 6 .worker ++ [.dtor]) _ (by decide) rfl⟩

/-- The destructor of a detector at rest. -/
theorem stop_at_rest_deadlocks :
    ∃ s : State Unit, exec step start (waitRun ++ [.destroy, .dtor]) = some s ∧ Deadlocked s :=
  ⟨_, rfl, rfl, rfl, fun _ => rfl⟩

end KinectHelper.PclObjectDetector
