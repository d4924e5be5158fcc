import KinectHelper.Framework.Lock
import KinectHelper.Framework.Run
import Mathlib.Logic.Function.Basic

namespace KinectHelper.PclObjectDetector

/-- Where the thread of `DetectionWorker` is. -/
inductive WorkerPc where
  | start
  /-- at the test of `m_stopWorker` -/
  | test
  /-- past the test, not yet in `wait` -/
  | entering
  | waiting
  /-- woken, about to lock the monitor again -/
  | notified
  | lockFill
  | findClusters
  | publishing
  | unlockFill
  | finished
  deriving DecidableEq

/-- Where a caller is in `Detect`. -/
inductive DetectPc where
  | idle
  | tryLock
  | filling
  | unlocking
  | notifying
  deriving DecidableEq

/-- Where the destructor is. -/
inductive DtorPc where
  | idle
  | setting
  | joining
  | joined
  deriving DecidableEq

inductive Holder (ι : Type*) where
  | worker
  | caller (j : ι)
  deriving DecidableEq

/-- `ι` numbers the threads that call `Detect`. -/
structure State (ι : Type*) where
  mutexMonitorWorker : Bool
  mutexFill : Option (Holder ι)
  stopWorker : Bool
  /-- clouds made so far; the last one is in `m_seg` -/
  filled : Nat
  /-- the clouds `FindClusters` worked on -/
  passes : List Nat
  worker : WorkerPc
  detect : ι → DetectPc
  dtor : DtorPc

variable {ι : Type*}

def start : State ι where
  mutexMonitorWorker := false
  mutexFill := none
  stopWorker := false
  filled := 0
  passes := []
  worker := .start
  detect := fun _ => .idle
  dtor := .idle

def workerStep (s : State ι) : Option (State ι) :=
  match s.worker with
  | .start =>
      if s.mutexMonitorWorker then none
      else some { s with mutexMonitorWorker := true, worker := .test }
  | .test =>
      if s.stopWorker then some { s with mutexMonitorWorker := false, worker := .finished }
      else some { s with worker := .entering }
  | .entering => some { s with mutexMonitorWorker := false, worker := .waiting }
  | .waiting => none
  | .notified =>
      if s.mutexMonitorWorker then none
      else some { s with mutexMonitorWorker := true, worker := .lockFill }
  | .lockFill =>
      match s.mutexFill with
      | none => some { s with mutexFill := some .worker, worker := .findClusters }
      | some _ => none
  | .findClusters => some { s with passes := s.passes ++ [s.filled], worker := .publishing }
  | .publishing => some { s with worker := .unlockFill }
  | .unlockFill => some { s with mutexFill := none, worker := .test }
  | .finished => none

section Detect

variable [DecidableEq ι]

def moveDetect (s : State ι) (j : ι) (pc : DetectPc) : State ι :=
  { s with detect := Function.update s.detect j pc }

/-- `m_condWorkerIsFree.notify_one()`. -/
def notifyOne (s : State ι) : State ι :=
  if s.worker = .waiting then { s with worker := .notified } else s

def detectStep (s : State ι) (j : ι) : Option (State ι) :=
  match s.detect j with
  | .idle => none
  | .tryLock =>
      match s.mutexFill with
      | none => some (moveDetect { s with mutexFill := some (.caller j) } j .filling)
      | some _ => some (moveDetect s j .idle)
  | .filling => some (moveDetect { s with filled := s.filled + 1 } j .unlocking)
  | .unlocking => some (moveDetect { s with mutexFill := none } j .notifying)
  | .notifying => some (moveDetect (notifyOne s) j .idle)

end Detect

def dtorStep (s : State ι) : Option (State ι) :=
  match s.dtor with
  | .idle => none
  | .setting => some { s with stopWorker := true, dtor := .joining }
  | .joining => if s.worker = .finished then some { s with dtor := .joined } else none
  | .joined => none

inductive Action (ι : Type*) where
  | callDetect (j : ι)
  | detect (j : ι)
  | worker
  | destroy
  | dtor
  deriving DecidableEq

def step [DecidableEq ι] (s : State ι) : Action ι → Option (State ι)
  | .callDetect j => if s.detect j = .idle then some (moveDetect s j .tryLock) else none
  | .detect j => detectStep s j
  | .worker => workerStep s
  | .destroy => if s.dtor = .idle then some { s with dtor := .setting } else none
  | .dtor => dtorStep s

def waitRun : List (Action ι) := List.replicate 3 .worker

def detectRun (j : ι) : List (Action ι) := .callDetect j :: List.replicate 4 (.detect j)

def passRun : List (Action ι) := List.replicate 7 .worker

@[simp] theorem moveDetect_self [DecidableEq ι] (s : State ι) (j : ι) (pc : DetectPc) :
    (moveDetect s j pc).detect j = pc := by simp [moveDetect]

theorem moveDetect_of_ne [DecidableEq ι] (s : State ι) {j k : ι} (pc : DetectPc) (h : k ≠ j) :
    (moveDetect s j pc).detect k = s.detect k := by simp [moveDetect, h]

end KinectHelper.PclObjectDetector
