import KinectHelper.Framework.Lock
import KinectHelper.Framework.Serial
import KinectHelper.Segmentation.ObjectVector
import KinectHelper.Segmentation.PclObjectDetector

namespace KinectHelper.ObjectSnapshots

open PclSegmentation
open PclObjectDetector (ObjectBounds Camera Detector Session Call Holder DtorPc detect workerPass
  clusterBounds pushBounds getObjectVector exactCamera linePcl lineFrame blankFrame
  rowBody rowFrames_accepted)

/-- The variables of the pixel loops; the points are in `m_cloud`. -/
structure PixelCounters where
  yi : Nat
  xi : Nat
  data : Int

/-- The control points at which `m_mutexFill` is held. -/
inductive SectionPc where
  | createPointCloud (frame : VideoFrame)
  | rows (frame : VideoFrame) (c : PixelCounters)
  | pixels (frame : VideoFrame) (c : PixelCounters)
  | findClusters
  | found
  | bounds (nrClusters i : Nat)
  | printing (i : Nat)
  | resize
  /-- `std::copy`, up to the end `last` -/
  | copy (last i : Nat) (objects : List ObjectBounds)
  | unlock
  | unlockRead (objects : List ObjectBounds)

variable {P : Type*}

/-- One step under the mutex; `none` is a fault, or the end. -/
def sectionStep (pcl : Pcl P) (camera : Camera P) :
    SectionPc → Detector P → Option (SectionPc × Detector P)
  | .createPointCloud frame, d =>
      some (.rows frame ⟨0, 0, 0⟩,
        { d with m_seg := d.m_seg.fill (toFloat frame.width) (toFloat frame.height) [] })
  | .rows frame c, d =>
      if c.yi < d.m_seg.m_frameHeight then some (.pixels frame { c with xi := 0 }, d)
      else some (.unlock, d)
  | .pixels frame c, d =>
      if c.xi < d.m_seg.m_frameWidth then
        (readDepth frame.getFrame c.data).map fun depth =>
          let point := camera.point d.m_seg.m_frameWidth d.m_seg.m_frameHeight c.xi c.yi depth
          let m_cloud := if depth ≠ 0 then d.m_seg.m_cloud ++ [point] else d.m_seg.m_cloud
          (.pixels frame ⟨c.yi, addOne floatBits c.xi, c.data + 1 * intChannels frame⟩,
            { d with m_seg := { d.m_seg with m_cloud := m_cloud } })
      else some (.rows frame { c with yi := addOne floatBits c.yi }, d)
  | .findClusters, d =>
      (PclSegmentation.findClusters pcl d.m_seg).map
        fun m_seg => (.found, { d with m_seg := m_seg })
  | .found, d =>
      if 0 < d.m_seg.m_clusters.length then
        some (.bounds d.m_seg.m_clusters.length 0, { d with m_objects := [] })
      else some (.unlock, d)
  | .bounds nrClusters i, d =>
      if i < nrClusters then
        d.m_seg.m_clusters[i]?.map fun cloud =>
          let screen := camera.convertPointToScreen d.m_seg.m_frameWidth d.m_seg.m_frameHeight
          match clusterBounds screen cloud with
          | none => (.bounds nrClusters (i + 1), d)
          | some ob => (.bounds nrClusters (i + 1), { d with m_objects := d.m_objects ++ [ob] })
      else some (.printing 0, d)
  | .printing i, d =>
      if i < d.m_objects.length then
        -- `m_models[i]` is printed
        if i < d.m_seg.m_models.length then some (.printing (i + 1), d) else none
      else some (.unlock, d)
  | .resize, d =>
      some (.copy d.m_objects.length 0 (List.replicate d.m_objects.length ⟨0, 0, 0, 0⟩), d)
  | .copy last i objects, d =>
      if i < last then
        d.m_objects[i]?.map fun ob => (.copy last (i + 1) (objects.set i ob), d)
      else some (.unlockRead objects, d)
  | .unlock, _ => none
  | .unlockRead _, _ => none

inductive WorkerPc where
  | start
  /-- at the test of `m_stopWorker` -/
  | test
  /-- past the test, not yet in `wait` -/
  | entering
  | waiting
  /-- woken, about to lock the monitor again -/
  | notified
  | lockFill
  | inside (k : SectionPc)
  | finished

/-- Where a caller is in `Detect` or in `GetObjectVector`. -/
inductive CallerPc where
  | idle
  | tryLock (frame : VideoFrame)
  | detecting (frame : VideoFrame) (k : SectionPc)
  | notifying
  | lock
  | reading (k : SectionPc)

/-- What is through when the mutex is unlocked. -/
inductive Operation where
  | detect (frame : VideoFrame)
  | pass
  | read (objects : List ObjectBounds)
  deriving DecidableEq

/-- `ι` numbers the threads that call. -/
structure State (ι : Type*) (P : Type*) where
  mutexMonitorWorker : Bool
  mutexFill : Option (Holder ι)
  stopWorker : Bool
  detector : Detector P
  worker : WorkerPc
  caller : ι → CallerPc
  dtor : DtorPc
  /-- the operations in the order of their `unlock` -/
  log : List Operation

variable {ι : Type*}

def start : State ι P where
  mutexMonitorWorker := false
  mutexFill := none
  stopWorker := false
  detector := Detector.start
  worker := .start
  caller := fun _ => .idle
  dtor := .idle
  log := []

section Steps

variable (pcl : Pcl P) (camera : Camera P)

def workerStep (s : State ι P) : Option (State ι P) :=
  match s.worker with
  | .start =>
      if s.mutexMonitorWorker then none
      else some { s with mutexMonitorWorker := true, worker := .test }
  | .test =>
      if s.stopWorker then some { s with mutexMonitorWorker := false, worker := .finished }
      else some { s with worker := .entering }
  | .entering => some { s with mutexMonitorWorker := false, worker := .waiting }
  | .waiting => none
  | .notified =>
      if s.mutexMonitorWorker then none
      else some { s with mutexMonitorWorker := true, worker := .lockFill }
  | .lockFill =>
      match s.mutexFill with
      | none => some { s with mutexFill := some .worker, worker := .inside .findClusters }
      | some _ => none
  | .inside .unlock =>
      some { s with mutexFill := none, worker := .test, log := s.log ++ [.pass] }
  | .inside k => (sectionStep pcl camera k s.detector).map fun r =>
      { s with worker := .inside r.1, detector := r.2 }
  | .finished => none

variable [DecidableEq ι]

def moveCaller (s : State ι P) (j : ι) (pc : CallerPc) : State ι P :=
  { s with caller := Function.update s.caller j pc }

/-- A `notify_one`, or a wake-up without one. -/
def wake (s : State ι P) : State ι P :=
  match s.worker with
  | .waiting => { s with worker := .notified }
  | _ => s

def callerStep (s : State ι P) (j : ι) : Option (State ι P) :=
  match s.caller j with
  | .idle => none
  | .tryLock frame =>
      match s.mutexFill with
      | none => some (moveCaller { s with mutexFill := some (.caller j) } j
          (.detecting frame (.createPointCloud frame)))
      | some _ => some (moveCaller s j .idle)
  | .detecting frame .unlock =>
      some (moveCaller { s with mutexFill := none, log := s.log ++ [.detect frame] } j .notifying)
  | .detecting frame k => (sectionStep pcl camera k s.detector).map fun r =>
      moveCaller { s with detector := r.2 } j (.detecting frame r.1)
  | .notifying => some (moveCaller (wake s) j .idle)
  | .lock =>
      match s.mutexFill with
      | none => some (moveCaller { s with mutexFill := some (.caller j) } j (.reading .resize))
      | some _ => none
  | .reading (.unlockRead objects) =>
      some (moveCaller { s with mutexFill := none, log := s.log ++ [.read objects] } j .idle)
  | .reading k => (sectionStep pcl camera k s.detector).map fun r =>
      moveCaller { s with detector := r.2 } j (.reading r.1)

def dtorStep (s : State ι P) : Option (State ι P) :=
  match s.dtor with
  | .idle => none
  | .setting => some { s with stopWorker := true, dtor := .joining }
  | .joining =>
      match s.worker with
      | .finished => some { s with dtor := .joined }
      | _ => none
  | .joined => none

inductive Action (ι : Type*) where
  | callDetect (j : ι) (frame : VideoFrame)
  | callGetObjectVector (j : ι)
  | caller (j : ι)
  | worker
  /-- `wait` may return without a `notify_one` -/
  | wakeUp
  | destroy
  | dtor

def step (s : State ι P) : Action ι → Option (State ι P)
  | .callDetect j frame =>
      match s.caller j with
      | .idle => some (moveCaller s j (.tryLock frame))
      | _ => none
  | .callGetObjectVector j =>
      match s.caller j with
      | .idle => some (moveCaller s j .lock)
      | _ => none
  | .caller j => callerStep pcl camera s j
  | .worker => workerStep pcl camera s
  | .wakeUp => some (wake s)
  | .destroy =>
      match s.dtor with
      | .idle => some { s with dtor := .setting }
      | _ => none
  | .dtor => dtorStep s

end Steps

def SectionPc.first : SectionPc → Bool
  | .createPointCloud _ | .findClusters | .resize => true
  | _ => false

def SectionPc.through : SectionPc → Bool
  | .unlock | .unlockRead _ => true
  | _ => false

def sections (pcl : Pcl P) (camera : Camera P) : Sections SectionPc (Detector P) where
  first := SectionPc.first
  code := sectionStep pcl camera
  through := SectionPc.through

/-- What a section has been, from its first and its last control point. -/
def operationOf : SectionPc × SectionPc → Operation
  | (.createPointCloud frame, _) => .detect frame
  | (.findClusters, _) => .pass
  | (_, .unlockRead objects) => .read objects
  | _ => .read []

/-- The first control point of the section that the thread is in, and the present one. -/
def WorkerPc.section : WorkerPc → Option (SectionPc × SectionPc)
  | .inside k => some (.findClusters, k)
  | _ => none

def CallerPc.section : CallerPc → Option (SectionPc × SectionPc)
  | .detecting frame k => some (.createPointCloud frame, k)
  | .reading k => some (.resize, k)
  | _ => none

def State.section (s : State ι P) : Holder ι → Option (SectionPc × SectionPc)
  | .worker => s.worker.section
  | .caller j => (s.caller j).section

/-- What a step may do to the lock and to what it protects. -/
inductive Effect (pcl : Pcl P) (camera : Camera P) (s t : State ι P) : Prop where
  | outside (hfill : t.mutexFill = s.mutexFill) (hsection : ∀ h, t.section h = s.section h)
      (hdetector : t.detector = s.detector) (hlog : t.log = s.log)
  | enter (h : Holder ι) (k : SectionPc) (hfirst : k.first = true) (hfree : s.mutexFill = none)
      (hout : s.section h = none) (hfill : t.mutexFill = some h)
      (hsection : t.section h = some (k, k))
      (hothers : ∀ h', h' ≠ h → t.section h' = s.section h')
      (hdetector : t.detector = s.detector) (hlog : t.log = s.log)
  | run (h : Holder ι) (k₀ k : SectionPc) (r : SectionPc × Detector P)
      (hin : s.section h = some (k₀, k)) (hcode : sectionStep pcl camera k s.detector = some r)
      (hfill : t.mutexFill = s.mutexFill) (hsection : t.section h = some (k₀, r.1))
      (hothers : ∀ h', h' ≠ h → t.section h' = s.section h')
      (hdetector : t.detector = r.2) (hlog : t.log = s.log)
  | leave (h : Holder ι) (k₀ k : SectionPc) (hin : s.section h = some (k₀, k))
      (hthrough : k.through = true) (hfill : t.mutexFill = none) (hsection : t.section h = none)
      (hothers : ∀ h', h' ≠ h → t.section h' = s.section h')
      (hdetector : t.detector = s.detector) (hlog : t.log = s.log ++ [operationOf (k₀, k)])

section Effects

variable {pcl : Pcl P} {camera : Camera P}

theorem worker_effect {s t : State ι P} (h : workerStep pcl camera s = some t) :
    Effect pcl camera s t := by
  have hothers (t' : State ι P) (hcaller : t'.caller = s.caller) :
      ∀ h', h' ≠ Holder.worker → t'.section h' = s.section h' := by
    intro h' hne
    cases h' with
    | worker => exact absurd rfl hne
    | caller j => rw [State.section, State.section, hcaller]
  -- a step between two control points outside
  have hmove (t' : State ι P) (hcaller : t'.caller = s.caller)
      (hout : s.worker.section = none) (hout' : t'.worker.section = none) :
      ∀ h', t'.section h' = s.section h' := by
    intro h'
    cases h' with
    | worker => rw [State.section, State.section, hout, hout']
    | caller j => rw [State.section, State.section, hcaller]
  unfold workerStep at h
  split at h
  next hpc =>
    split_ifs at h
    obtain rfl := Option.some.inj h
    exact .outside rfl (hmove _ rfl (by rw [hpc]; rfl) rfl) rfl rfl
  next hpc =>
    split_ifs at h
    · obtain rfl := Option.some.inj h
      exact .outside rfl (hmove _ rfl (by rw [hpc]; rfl) rfl) rfl rfl
    · obtain rfl := Option.some.inj h
      exact .outside rfl (hmove _ rfl (by rw [hpc]; rfl) rfl) rfl rfl
  next hpc =>
    obtain rfl := Option.some.inj h
    exact .outside rfl (hmove _ rfl (by rw [hpc]; rfl) rfl) rfl rfl
  next => exact absurd h (Option.some_ne_none t).symm
  next hpc =>
    split_ifs at h
    obtain rfl := Option.some.inj h
    exact .outside rfl (hmove _ rfl (by rw [hpc]; rfl) rfl) rfl rfl
  next hpc =>
    split at h
    next hfree =>
      obtain rfl := Option.some.inj h
      exact .enter .worker .findClusters rfl hfree (by rw [State.section, hpc]; rfl) rfl rfl
        (hothers _ rfl) rfl rfl
    next => exact absurd h (Option.some_ne_none t).symm
  next hpc =>
    obtain rfl := Option.some.inj h
    exact .leave .worker .findClusters .unlock (by rw [State.section, hpc]; rfl) rfl rfl rfl
      (hothers _ rfl) rfl rfl
  next k _ hpc =>
    obtain ⟨r, hr, rfl⟩ := Option.map_eq_some_iff.mp h
    exact .run .worker .findClusters k r (by rw [State.section, hpc]; rfl) hr rfl rfl
      (hothers _ rfl) rfl rfl
  next => exact absurd h (Option.some_ne_none t).symm

theorem dtor_effect {s t : State ι P} (h : dtorStep s = some t) : Effect pcl camera s t := by
  have hsection (t' : State ι P) (hworker : t'.worker = s.worker) (hcaller : t'.caller = s.caller) :
      ∀ h', t'.section h' = s.section h' := by
    intro h'
    cases h' with
    | worker => rw [State.section, State.section, hworker]
    | caller j => rw [State.section, State.section, hcaller]
  unfold dtorStep at h
  split at h
  next => exact absurd h (Option.some_ne_none t).symm
  next =>
    obtain rfl := Option.some.inj h
    exact .outside rfl (hsection _ rfl rfl) rfl rfl
  next =>
    split at h
    next =>
      obtain rfl := Option.some.inj h
      exact .outside rfl (hsection _ rfl rfl) rfl rfl
    next => exact absurd h (Option.some_ne_none t).symm
  next => exact absurd h (Option.some_ne_none t).symm

theorem wake_section (s : State ι P) (h : Holder ι) : (wake s).section h = s.section h := by
  unfold wake
  cases h with
  | worker =>
    split
    next hpc => rw [State.section, State.section, hpc]; rfl
    next => rfl
  | caller j =>
    split
    next => rfl
    next => rfl

theorem wake_others (s : State ι P) : (wake s).mutexFill = s.mutexFill ∧
    (wake s).detector = s.detector ∧ (wake s).log = s.log ∧ (wake s).caller = s.caller := by
  unfold wake
  split <;> exact ⟨rfl, rfl, rfl, rfl⟩

/-- The threads against the memory under its lock. -/
structure Simulates (s : State ι P) (l : Locked SectionPc (Detector P)) : Prop where
  owned : Owned s.mutexFill fun h => (s.section h).isSome
  memory : l.memory = s.detector
  owner : l.owner = s.mutexFill.bind s.section
  log : l.history.map operationOf = s.log

theorem simulates_start : Simulates (start : State ι P) (Locked.start Detector.start) := by
  constructor
  · intro h
    cases h <;> simp [start, State.section, WorkerPc.section, CallerPc.section]
  · rfl
  · rfl
  · rfl

variable [DecidableEq ι]

theorem moveCaller_self (s : State ι P) (j : ι) (pc : CallerPc) :
    (moveCaller s j pc).section (.caller j) = pc.section := by
  simp only [State.section, moveCaller, Function.update_self]

theorem moveCaller_of_ne (s : State ι P) {j : ι} (pc : CallerPc) {h : Holder ι}
    (hne : h ≠ .caller j) : (moveCaller s j pc).section h = s.section h := by
  cases h with
  | worker => rfl
  | caller i =>
    have hij : i ≠ j := fun hij => hne (by rw [hij])
    simp only [State.section, moveCaller, Function.update_of_ne hij]

theorem moveCaller_outside {s : State ι P} {j : ι} {pc : CallerPc}
    (hout : (s.caller j).section = none) (hpc : pc.section = none) (h : Holder ι) :
    (moveCaller s j pc).section h = s.section h := by
  by_cases hh : h = .caller j
  · rw [hh, moveCaller_self, hpc, State.section, hout]
  · exact moveCaller_of_ne s pc hh

theorem caller_effect {s t : State ι P} {j : ι} (h : callerStep pcl camera s j = some t) :
    Effect pcl camera s t := by
  unfold callerStep at h
  split at h
  next => exact absurd h (Option.some_ne_none t).symm
  next hpc =>
    have hout : (s.caller j).section = none := by rw [hpc]; rfl
    split at h
    next hfree =>
      obtain rfl := Option.some.inj h
      exact .enter (.caller j) _ rfl hfree hout rfl (moveCaller_self _ _ _)
        (fun _ hne => moveCaller_of_ne _ _ hne) rfl rfl
    next =>
      obtain rfl := Option.some.inj h
      exact .outside rfl (moveCaller_outside hout rfl) rfl rfl
  next frame hpc =>
    obtain rfl := Option.some.inj h
    exact .leave (.caller j) (.createPointCloud frame) .unlock (by rw [State.section, hpc]; rfl) rfl
      rfl (moveCaller_self _ _ _) (fun _ hne => moveCaller_of_ne _ _ hne) rfl rfl
  next frame k _ hpc =>
    obtain ⟨r, hr, rfl⟩ := Option.map_eq_some_iff.mp h
    exact .run (.caller j) (.createPointCloud frame) k r (by rw [State.section, hpc]; rfl) hr rfl
      (moveCaller_self _ _ _) (fun _ hne => moveCaller_of_ne _ _ hne) rfl rfl
  next hpc =>
    obtain rfl := Option.some.inj h
    obtain ⟨hfill, hdetector, hlog, hcaller⟩ := wake_others s
    have hout : ((wake s).caller j).section = none := by rw [hcaller, hpc]; rfl
    refine .outside hfill ?_ hdetector hlog
    intro h'
    rw [moveCaller_outside hout rfl, wake_section]
  next hpc =>
    split at h
    next hfree =>
      obtain rfl := Option.some.inj h
      exact .enter (.caller j) .resize rfl hfree (by rw [State.section, hpc]; rfl) rfl
        (moveCaller_self _ _ _) (fun _ hne => moveCaller_of_ne _ _ hne) rfl rfl
    next => exact absurd h (Option.some_ne_none t).symm
  next objects hpc =>
    obtain rfl := Option.some.inj h
    exact .leave (.caller j) .resize (.unlockRead objects) (by rw [State.section, hpc]; rfl) rfl rfl
      (moveCaller_self _ _ _) (fun _ hne => moveCaller_of_ne _ _ hne) rfl rfl
  next k _ hpc =>
    obtain ⟨r, hr, rfl⟩ := Option.map_eq_some_iff.mp h
    exact .run (.caller j) .resize k r (by rw [State.section, hpc]; rfl) hr rfl
      (moveCaller_self _ _ _) (fun _ hne => moveCaller_of_ne _ _ hne) rfl rfl

/-- What a step does. -/
theorem step_effect {s t : State ι P} {a : Action ι} (h : step pcl camera s a = some t) :
    Effect pcl camera s t := by
  cases a with
  | callDetect j frame =>
    rw [step] at h
    split at h
    next hpc =>
      obtain rfl := Option.some.inj h
      exact .outside rfl (moveCaller_outside (by rw [hpc]; rfl) rfl) rfl rfl
    next => exact absurd h (Option.some_ne_none t).symm
  | callGetObjectVector j =>
    rw [step] at h
    split at h
    next hpc =>
      obtain rfl := Option.some.inj h
      exact .outside rfl (moveCaller_outside (by rw [hpc]; rfl) rfl) rfl rfl
    next => exact absurd h (Option.some_ne_none t).symm
  | caller j => exact caller_effect h
  | worker => exact worker_effect h
  | wakeUp =>
    obtain rfl := Option.some.inj h
    obtain ⟨hfill, hdetector, hlog, _⟩ := wake_others s
    exact .outside hfill (wake_section s) hdetector hlog
  | destroy =>
    rw [step] at h
    split at h
    next =>
      obtain rfl := Option.some.inj h
      exact .outside rfl (fun h' => by cases h' <;> rfl) rfl rfl
    next => exact absurd h (Option.some_ne_none t).symm
  | dtor => exact dtor_effect h

theorem simulates_step {s t : State ι P} {l : Locked SectionPc (Detector P)} {a : Action ι}
    (h : Simulates s l) (hstep : step pcl camera s a = some t) :
    ∃ bs m, exec (sections pcl camera).step l bs = some m ∧ Simulates t m := by
  have hothers_isSome {i : Holder ι} (hothers : ∀ h', h' ≠ i → t.section h' = s.section h') :
      ∀ h', h' ≠ i → (t.section h').isSome = (s.section h').isSome :=
    fun h' hne => by rw [hothers h' hne]
  cases step_effect hstep with
  | outside hfill hsection hdetector hlog =>
    have hsections : t.section = s.section := funext hsection
    refine ⟨[], l, rfl, ?_, ?_, ?_, ?_⟩
    · rw [hfill, hsections]
      exact h.owned
    · rw [hdetector, h.memory]
    · rw [hfill, hsections, h.owner]
    · rw [hlog, h.log]
  | enter i k hfirst hfree hout hfill hsection hothers hdetector hlog =>
    have howner : l.owner = none := by rw [h.owner, hfree]; rfl
    refine ⟨[.enter k], { l with owner := some (k, k) }, ?_, ?_, ?_, ?_, ?_⟩
    · rw [exec_cons, Sections.step, howner]
      simp [sections, hfirst]
    · refine h.owned.step (i := i) ?_ (hothers_isSome hothers)
      rw [hfree, hfill, hout, hsection]
      exact .enter
    · rw [hdetector]
      exact h.memory
    · rw [hfill, Option.bind_some, hsection]
    · rw [hlog]
      exact h.log
  | run i k₀ k r hin hcode hfill hsection hothers hdetector hlog =>
    have hheld : s.mutexFill = some i := (h.owned i).mpr (by simp [hin])
    have howner : l.owner = some (k₀, k) := by rw [h.owner, hheld, Option.bind_some, hin]
    refine ⟨[.run], { l with memory := r.2, owner := some (k₀, r.1) }, ?_, ?_, ?_, ?_, ?_⟩
    · rw [exec_cons, Sections.step, howner]
      simp [sections, h.memory, hcode]
    · refine h.owned.step (i := i) ?_ (hothers_isSome hothers)
      rw [hfill, hin, hsection]
      exact .stay _ _
    · rw [hdetector]
    · rw [hfill, hheld, Option.bind_some, hsection]
    · rw [hlog]
      exact h.log
  | leave i k₀ k hin hthrough hfill hsection hothers hdetector hlog =>
    have hheld : s.mutexFill = some i := (h.owned i).mpr (by simp [hin])
    have howner : l.owner = some (k₀, k) := by rw [h.owner, hheld, Option.bind_some, hin]
    refine ⟨[.leave], { l with owner := none, history := l.history ++ [(k₀, k)] }, ?_, ?_, ?_, ?_,
      ?_⟩
    · rw [exec_cons, Sections.step, howner]
      simp [sections, hthrough]
    · refine h.owned.step (i := i) ?_ (hothers_isSome hothers)
      rw [hfill, hin, hsection]
      exact .leave _
    · rw [hdetector]
      exact h.memory
    · rw [hfill]
      rfl
    · rw [hlog, List.map_append, h.log]
      rfl

end Effects

section Whole

variable {pcl : Pcl P} {camera : Camera P}

/-- `Detect`, as far as it has come since it had the mutex with `d₀`. -/
def Filling (camera : Camera P) (frame : VideoFrame) (d₀ : Detector P) (k : SectionPc)
    (d : Detector P) : Prop :=
  let width := toFloat frame.width
  let height := toFloat frame.height
  let reached := createPointCloud frame (camera.point width height)
  match k with
  | .createPointCloud f => f = frame ∧ d = d₀
  | .rows f c => f = frame ∧ ∃ n points, reached n = .rows ⟨c.yi, c.xi, c.data, points⟩ ∧
      d = { d₀ with m_seg := d₀.m_seg.fill width height points }
  | .pixels f c => f = frame ∧ ∃ n points, reached n = .pixels ⟨c.yi, c.xi, c.data, points⟩ ∧
      d = { d₀ with m_seg := d₀.m_seg.fill width height points }
  | .unlock => ∃ n points, reached n = .done points ∧
      d = { d₀ with m_seg := d₀.m_seg.fill width height points }
  | _ => False

theorem filling_step {frame : VideoFrame} {d₀ d d' : Detector P} {k k' : SectionPc}
    (h : Filling camera frame d₀ k d) (hcode : sectionStep pcl camera k d = some (k', d')) :
    Filling camera frame d₀ k' d' := by
  cases k with
  | createPointCloud f =>
    obtain ⟨rfl, rfl⟩ := h
    rw [sectionStep] at hcode
    obtain ⟨rfl, rfl⟩ := Prod.mk.inj (Option.some.inj hcode)
    exact ⟨rfl, 0, [], rfl, rfl⟩
  | rows f c =>
    obtain ⟨rfl, n, points, hn, rfl⟩ := h
    rw [sectionStep] at hcode
    have hnext := createPointCloud_succ f (camera.point (toFloat f.width) (toFloat f.height)) n
    rw [hn, cloudStep] at hnext
    dsimp only at hnext
    by_cases hrow : c.yi < toFloat f.height
    · rw [if_pos hrow] at hnext
      simp only [Segmentation.fill, hrow, if_true] at hcode
      obtain ⟨rfl, rfl⟩ := Prod.mk.inj (Option.some.inj hcode)
      exact ⟨rfl, n + 1, points, hnext, rfl⟩
    · rw [if_neg hrow] at hnext
      simp only [Segmentation.fill, hrow, if_false] at hcode
      obtain ⟨rfl, rfl⟩ := Prod.mk.inj (Option.some.inj hcode)
      exact ⟨n + 1, points, hnext, rfl⟩
  | pixels f c =>
    obtain ⟨rfl, n, points, hn, rfl⟩ := h
    rw [sectionStep] at hcode
    have hnext := createPointCloud_succ f (camera.point (toFloat f.width) (toFloat f.height)) n
    rw [hn, cloudStep] at hnext
    dsimp only at hnext
    by_cases hpixel : c.xi < toFloat f.width
    · rw [if_pos hpixel] at hnext
      simp only [Segmentation.fill, hpixel, if_true] at hcode
      obtain ⟨depth, hdepth, hr⟩ := Option.map_eq_some_iff.mp hcode
      obtain ⟨rfl, rfl⟩ := Prod.mk.inj hr
      rw [hdepth] at hnext
      exact ⟨rfl, n + 1, _, hnext, rfl⟩
    · rw [if_neg hpixel] at hnext
      simp only [Segmentation.fill, hpixel, if_false] at hcode
      obtain ⟨rfl, rfl⟩ := Prod.mk.inj (Option.some.inj hcode)
      exact ⟨rfl, n + 1, points, hnext, rfl⟩
  | unlock => exact absurd hcode (Option.some_ne_none _).symm
  | _ => exact h.elim

theorem detect_of_reaches {frame : VideoFrame} {d d' : Detector P} {k : SectionPc}
    (h : (sections pcl camera).Reaches (.createPointCloud frame, d) (k, d'))
    (hthrough : k.through = true) : ∃ turns, detect camera frame turns d = some d' := by
  have hfilling : Filling camera frame d k d' :=
    h.invariant (Filling camera frame d) (fun _ _ _ _ => filling_step) ⟨rfl, rfl⟩
  cases k with
  | unlock =>
    obtain ⟨n, points, hn, rfl⟩ := hfilling
    refine ⟨n, ?_⟩
    rw [detect]
    rw [hn]
  | unlockRead => exact hfilling.elim
  | _ => exact absurd hthrough (by simp [SectionPc.through])

/-- `DetectionWorker`, as far as it has come since it had the mutex with `d₀`. -/
def Publishing (pcl : Pcl P) (camera : Camera P) (d₀ : Detector P) (k : SectionPc)
    (d : Detector P) : Prop :=
  let screen := camera.convertPointToScreen d.m_seg.m_frameWidth d.m_seg.m_frameHeight
  match k with
  | .findClusters => d = d₀
  | .found => PclSegmentation.findClusters pcl d₀.m_seg = some d.m_seg ∧ d.m_objects = d₀.m_objects
  | .bounds nrClusters i =>
      PclSegmentation.findClusters pcl d₀.m_seg = some d.m_seg ∧ 0 < nrClusters ∧
        nrClusters = d.m_seg.m_clusters.length ∧ i ≤ nrClusters ∧
        d.m_objects = pushBounds screen (d.m_seg.m_clusters.take i)
  | .printing i =>
      PclSegmentation.findClusters pcl d₀.m_seg = some d.m_seg ∧ 0 < d.m_seg.m_clusters.length ∧
        d.m_objects = pushBounds screen d.m_seg.m_clusters ∧ i ≤ d.m_seg.m_models.length
  | .unlock => workerPass pcl camera d₀ = some d
  | _ => False

theorem pushBounds_concat (screen : P → Int × Int) (clusters : List (List P)) (cloud : List P) :
    pushBounds screen (clusters ++ [cloud]) =
      match clusterBounds screen cloud with
      | none => pushBounds screen clusters
      | some ob => pushBounds screen clusters ++ [ob] := by
  rw [pushBounds, List.foldl_append]
  rfl

theorem publishing_step {d₀ d d' : Detector P} {k k' : SectionPc}
    (h : Publishing pcl camera d₀ k d) (hcode : sectionStep pcl camera k d = some (k', d')) :
    Publishing pcl camera d₀ k' d' := by
  cases k with
  | findClusters =>
    obtain rfl : d = d₀ := h
    rw [sectionStep] at hcode
    obtain ⟨m_seg, hseg, hr⟩ := Option.map_eq_some_iff.mp hcode
    obtain ⟨rfl, rfl⟩ := Prod.mk.inj hr
    exact ⟨hseg, rfl⟩
  | found =>
    obtain ⟨hseg, hobjects⟩ := h
    rw [sectionStep] at hcode
    split_ifs at hcode with hfound
    · obtain ⟨rfl, rfl⟩ := Prod.mk.inj (Option.some.inj hcode)
      exact ⟨hseg, hfound, rfl, Nat.zero_le _, rfl⟩
    · obtain ⟨rfl, rfl⟩ := Prod.mk.inj (Option.some.inj hcode)
      change workerPass pcl camera d₀ = some d
      rw [workerPass, hseg, Option.bind_some, if_neg hfound, ← hobjects]
  | bounds nrClusters i =>
    obtain ⟨hseg, hpos, hnr, hi, hobjects⟩ := h
    rw [sectionStep] at hcode
    split_ifs at hcode with hlt
    · obtain ⟨cloud, hcloud, hr⟩ := Option.map_eq_some_iff.mp hcode
      have hlength : i < d.m_seg.m_clusters.length := hnr ▸ hlt
      have htake : d.m_seg.m_clusters.take (i + 1) = d.m_seg.m_clusters.take i ++ [cloud] := by
        rw [List.take_add_one, hcloud, Option.toList_some]
      dsimp only at hr
      have hpush := pushBounds_concat (camera.convertPointToScreen d.m_seg.m_frameWidth
        d.m_seg.m_frameHeight) (d.m_seg.m_clusters.take i) cloud
      rw [← htake, ← hobjects] at hpush
      split at hr
      next hbounds =>
        obtain ⟨rfl, rfl⟩ := Prod.mk.inj hr
        rw [hbounds] at hpush
        exact ⟨hseg, hpos, hnr, hlt, hpush.symm⟩
      next ob hbounds =>
        obtain ⟨rfl, rfl⟩ := Prod.mk.inj hr
        rw [hbounds] at hpush
        exact ⟨hseg, hpos, hnr, hlt, hpush.symm⟩
    · obtain ⟨rfl, rfl⟩ := Prod.mk.inj (Option.some.inj hcode)
      rw [List.take_of_length_le (by omega)] at hobjects
      exact ⟨hseg, hnr ▸ hpos, hobjects, Nat.zero_le _⟩
  | printing i =>
    obtain ⟨hseg, hpos, hobjects, hi⟩ := h
    rw [sectionStep] at hcode
    split_ifs at hcode with hlt hmodel
    · obtain ⟨rfl, rfl⟩ := Prod.mk.inj (Option.some.inj hcode)
      exact ⟨hseg, hpos, hobjects, hmodel⟩
    · obtain ⟨rfl, rfl⟩ := Prod.mk.inj (Option.some.inj hcode)
      change workerPass pcl camera d₀ = some d
      rw [workerPass, hseg, Option.bind_some, if_pos hpos]
      dsimp only
      rw [← hobjects, if_pos (by omega)]
  | unlock => exact absurd hcode (Option.some_ne_none _).symm
  | _ => exact h.elim

theorem pass_of_reaches {d d' : Detector P} {k : SectionPc}
    (h : (sections pcl camera).Reaches (.findClusters, d) (k, d')) (hthrough : k.through = true) :
    workerPass pcl camera d = some d' := by
  have hpublishing : Publishing pcl camera d k d' :=
    h.invariant (Publishing pcl camera d) (fun _ _ _ _ => publishing_step) rfl
  cases k with
  | unlock => exact hpublishing
  | unlockRead => exact hpublishing.elim
  | _ => exact absurd hthrough (by simp [SectionPc.through])

/-- `GetObjectVector`, as far as it has come since it had the mutex with `d₀`. -/
def Copying (d₀ : Detector P) (k : SectionPc) (d : Detector P) : Prop :=
  d = d₀ ∧
    match k with
    | .resize => True
    | .copy last i objects => last = d₀.m_objects.length ∧ objects.length = last ∧ i ≤ last ∧
        objects.take i = d₀.m_objects.take i
    | .unlockRead objects => objects = getObjectVector d₀
    | _ => False

theorem copying_step {d₀ d d' : Detector P} {k k' : SectionPc} (h : Copying d₀ k d)
    (hcode : sectionStep pcl camera k d = some (k', d')) : Copying d₀ k' d' := by
  obtain ⟨rfl, hk⟩ := h
  cases k with
  | resize =>
    rw [sectionStep] at hcode
    obtain ⟨rfl, rfl⟩ := Prod.mk.inj (Option.some.inj hcode)
    exact ⟨rfl, rfl, List.length_replicate, Nat.zero_le _, rfl⟩
  | copy last i objects =>
    obtain ⟨hlast, hlength, hi, htake⟩ := hk
    rw [sectionStep] at hcode
    split_ifs at hcode with hlt
    · obtain ⟨ob, hob, hr⟩ := Option.map_eq_some_iff.mp hcode
      obtain ⟨rfl, rfl⟩ := Prod.mk.inj hr
      refine ⟨rfl, hlast, by rw [List.length_set, hlength], hlt, ?_⟩
      have hset : (objects.set i ob)[i]? = some ob := List.getElem?_set_self (hlength ▸ hlt)
      rw [List.take_add_one, List.take_add_one, hset, hob, List.take_set_of_le (Nat.le_refl i),
        htake]
    · obtain ⟨rfl, rfl⟩ := Prod.mk.inj (Option.some.inj hcode)
      rw [List.take_of_length_le (by omega), List.take_of_length_le (by omega)] at htake
      exact ⟨rfl, htake⟩
  | unlockRead => exact absurd hcode (Option.some_ne_none _).symm
  | _ => exact hk.elim

theorem read_of_reaches {d d' : Detector P} {k : SectionPc}
    (h : (sections pcl camera).Reaches (.resize, d) (k, d')) (hthrough : k.through = true) :
    d' = d ∧ k = .unlockRead (getObjectVector d) := by
  obtain ⟨hd, hk⟩ : Copying d k d' :=
    h.invariant (Copying d) (fun _ _ _ _ => copying_step) ⟨rfl, trivial⟩
  cases k with
  | unlock => exact hk.elim
  | unlockRead => exact ⟨hd, congrArg _ hk⟩
  | _ => exact absurd hthrough (by simp [SectionPc.through])

end Whole

def Operation.ofCall : Call → Operation
  | .detect frame _ => .detect frame
  | .pass => .pass

def Operation.writes : Operation → Bool
  | .read _ => false
  | _ => true

/-- The session makes the calls of the log that write. -/
def Amounts (pcl : Pcl P) (camera : Camera P) (log : List Operation) (u : Session P) : Prop :=
  ∃ calls, calls.map Operation.ofCall = log.filter Operation.writes ∧
    exec (PclObjectDetector.call pcl camera) Session.start calls = some u

/-- The boxes are those of the clusters of one cloud. -/
def FromOnePass (pcl : Pcl P) (camera : Camera P) (u : Session P) : Prop :=
  getObjectVector u.detector = [] ∨
    ∃ p ∈ u.passes, clustersOf pcl p.cloud = some p.after.m_seg.m_clusters ∧
      getObjectVector u.detector = pushBounds
        (camera.convertPointToScreen p.after.m_seg.m_frameWidth p.after.m_seg.m_frameHeight)
        p.after.m_seg.m_clusters

section Sessions

variable {pcl : Pcl P} {camera : Camera P}

theorem amounts_nil : Amounts pcl camera [] (Session.start : Session P) := ⟨[], rfl, rfl⟩

theorem Amounts.concat {log : List Operation} {u v : Session P} (h : Amounts pcl camera log u)
    {c : Call} (hcall : PclObjectDetector.call pcl camera u c = some v)
    (hwrites : (Operation.ofCall c).writes = true) :
    Amounts pcl camera (log ++ [Operation.ofCall c]) v := by
  obtain ⟨calls, hcalls, hexec⟩ := h
  refine ⟨calls ++ [c], ?_, ?_⟩
  · rw [List.map_append, hcalls, List.filter_append]
    simp [hwrites]
  · rw [exec_append, hexec, Option.bind_some, exec_cons, hcall, Option.bind_some, exec_nil]

theorem Amounts.read {log : List Operation} {u : Session P} (h : Amounts pcl camera log u)
    (objects : List ObjectBounds) : Amounts pcl camera (log ++ [.read objects]) u := by
  obtain ⟨calls, hcalls, hexec⟩ := h
  refine ⟨calls, ?_, hexec⟩
  rw [hcalls, List.filter_append]
  simp [Operation.writes]

theorem detect_objects {frame : VideoFrame} {turns : Nat} {d d' : Detector P}
    (h : detect camera frame turns d = some d') : d'.m_objects = d.m_objects := by
  unfold detect at h
  dsimp only at h
  split at h
  next =>
    obtain rfl := Option.some.inj h
    rfl
  next => exact absurd h (Option.some_ne_none _).symm

theorem fromOnePass_call {s t : Session P} {c : Call} (hs : FromOnePass pcl camera s)
    (hcall : PclObjectDetector.call pcl camera s c = some t) : FromOnePass pcl camera t := by
  unfold FromOnePass getObjectVector at hs ⊢
  cases c with
  | detect frame turns =>
    rw [PclObjectDetector.call] at hcall
    obtain ⟨d, hd, rfl⟩ := Option.map_eq_some_iff.mp hcall
    dsimp only
    rw [detect_objects hd]
    exact hs
  | pass =>
    rw [PclObjectDetector.call] at hcall
    obtain ⟨d, hd, rfl⟩ := Option.map_eq_some_iff.mp hcall
    obtain ⟨hseg, hcases⟩ := PclObjectDetector.workerPass_cases hd
    obtain ⟨hclusters, _⟩ := findClusters_cases hseg
    rcases hcases with ⟨_, hobjects⟩ | ⟨_, hkept⟩
    · right
      exact ⟨⟨s.detector.m_seg.m_cloud, d⟩, by simp, hclusters, hobjects⟩
    · dsimp only
      rw [hkept]
      rcases hs with hnil | ⟨p, hp, hfrom⟩
      · exact Or.inl hnil
      · exact Or.inr ⟨p, List.mem_append_left _ hp, hfrom⟩

theorem Amounts.fromOnePass {log : List Operation} {u : Session P}
    (h : Amounts pcl camera log u) : FromOnePass pcl camera u := by
  obtain ⟨calls, _, hexec⟩ := h
  have hstart : FromOnePass pcl camera (Session.start : Session P) := Or.inl rfl
  exact exec_invariant_all (fun _ _ _ => fromOnePass_call) calls _ u hstart hexec

/-- What is read is what the operations before it amount to. -/
def ReadsSession (pcl : Pcl P) (camera : Camera P) (earlier : List Operation) (op : Operation) :
    Prop :=
  ∀ objects, op = .read objects →
    ∃ u, Amounts pcl camera earlier u ∧ objects = getObjectVector u.detector ∧
      FromOnePass pcl camera u

/-- Whole sections are the calls of a session. -/
theorem session_of_serial {history : List (SectionPc × SectionPc)} {d : Detector P}
    (h : (sections pcl camera).Serial Detector.start history d) :
    (∃ u, Amounts pcl camera (history.map operationOf) u ∧ d = u.detector) ∧
      Along (ReadsSession pcl camera) (history.map operationOf) := by
  induction h with
  | nil => exact ⟨⟨Session.start, amounts_nil, rfl⟩, along_nil _⟩
  | @concat history d d' k k' _ hfirst hreaches hthrough ih =>
    obtain ⟨⟨u, hu, rfl⟩, halong⟩ := ih
    rw [List.map_append, List.map_singleton]
    cases k with
    | createPointCloud frame =>
      obtain ⟨turns, hdetect⟩ := detect_of_reaches hreaches hthrough
      have hcall : PclObjectDetector.call pcl camera u (.detect frame turns) =
          some { u with detector := d' } := by
        rw [PclObjectDetector.call, hdetect, Option.map_some]
      refine ⟨⟨_, hu.concat hcall rfl, rfl⟩, along_concat.mpr ⟨halong, ?_⟩⟩
      intro objects hread
      exact absurd hread (by simp [operationOf])
    | findClusters =>
      have hpass := pass_of_reaches hreaches hthrough
      have hcall : PclObjectDetector.call pcl camera u .pass =
          some ⟨d', u.passes ++ [⟨u.detector.m_seg.m_cloud, d'⟩]⟩ := by
        rw [PclObjectDetector.call, hpass, Option.map_some]
      refine ⟨⟨_, hu.concat hcall rfl, rfl⟩, along_concat.mpr ⟨halong, ?_⟩⟩
      intro objects hread
      exact absurd hread (by simp [operationOf])
    | resize =>
      obtain ⟨rfl, rfl⟩ := read_of_reaches hreaches hthrough
      refine ⟨⟨u, hu.read _, rfl⟩, along_concat.mpr ⟨halong, ?_⟩⟩
      intro objects hread
      obtain rfl : getObjectVector u.detector = objects := Operation.read.inj hread
      exact ⟨u, hu, rfl, hu.fromOnePass⟩
    | _ => exact absurd hfirst (by simp [sections, SectionPc.first])

/-- However the steps of the callers, of the worker and of the destructor interleave: when the
mutex is free, the detector is as after the whole calls of `Detect` and the whole passes in the
order of their `unlock`; and every vector that `GetObjectVector` copies is the one after those
before it, the boxes of the clusters of a single cloud. -/
theorem vectors_of_whole_passes [DecidableEq ι] (pcl : Pcl P) (camera : Camera P)
    (as : List (Action ι)) (s : State ι P) (hrun : exec (step pcl camera) start as = some s) :
    (s.mutexFill = none → ∃ u, Amounts pcl camera s.log u ∧ s.detector = u.detector) ∧
      Along (ReadsSession pcl camera) s.log := by
  obtain ⟨bs, l, hbs, hsim⟩ := exec_simulation
    (fun _ _ _ _ => @simulates_step P ι pcl camera _ _ _ _ _) as _ s _
    simulates_start hrun
  have hserialized := Sections.exec_serialized hbs
  unfold Sections.Serialized at hserialized
  cases howner : l.owner with
  | none =>
    rw [howner] at hserialized
    obtain ⟨hsession, halong⟩ := session_of_serial hserialized
    rw [hsim.log, hsim.memory] at hsession
    rw [hsim.log] at halong
    exact ⟨fun _ => hsession, halong⟩
  | some p =>
    rw [howner] at hserialized
    obtain ⟨_, m, hserial, _⟩ := hserialized
    obtain ⟨_, halong⟩ := session_of_serial hserial
    rw [hsim.log] at halong
    refine ⟨fun hfree => ?_, halong⟩
    have howned := hsim.owner
    rw [howner, hfree] at howned
    exact absurd howned (Option.some_ne_none p)

end Sessions

/-- A frame is filled while a second `Detect` is refused; then a pass, and the objects are read. -/
def readRun : List (Action Bool) :=
  List.replicate 3 .worker ++
    [.callDetect false lineFrame, .caller false,
      .callDetect true blankFrame, .caller true] ++
    List.replicate 106 (.caller false) ++ List.replicate 9 .worker ++
    .callGetObjectVector true :: List.replicate 5 (.caller true)

theorem readRun_log :
    (exec (step linePcl exactCamera) start readRun).map
      State.log = some [.detect lineFrame, .pass, .read [⟨0, 0, 99, 0⟩]] := by
  decide +kernel

theorem read_after_pass :
    VideoFrame.fromBuffer .lp64 (rowBody 0xDC 0x05) 212 = some lineFrame ∧
    ∃ s, exec (step linePcl exactCamera) start readRun = some s ∧
      s.log = [.detect lineFrame, .pass, .read [⟨0, 0, 99, 0⟩]] ∧
      (s.mutexFill = none → ∃ u, Amounts linePcl exactCamera s.log u ∧ s.detector = u.detector) ∧
      Along (ReadsSession linePcl exactCamera) s.log := by
  obtain ⟨s, hrun, hlog⟩ := Option.map_eq_some_iff.mp readRun_log
  exact ⟨rowFrames_accepted.1, s, hrun, hlog,
    vectors_of_whole_passes linePcl exactCamera readRun s hrun⟩

end KinectHelper.ObjectSnapshots
