import KinectHelper.Framework.Run
import KinectHelper.WxKinectHelper.KinectGrabberFreenect
import KinectHelper.KinectTest.KinectTestMainFrame

namespace KinectHelper.FreenectFrame

open KinectTestMainFrame (Caller StopSite StopThread Pc UiEvent)
open KinectGrabberFreenect

structure State where
  world : World
  /-- `m_Grabber` -/
  grabber : Option Nat
  /-- `m_DataSender` is not NULL -/
  dataSender : Bool
  pc : Pc
  /-- calls of `StopThread` that wait for their `wxYield`, the innermost first -/
  yields : List StopThread
  /-- grabbers allocated so far -/
  allocated : Nat
  /-- the devices that the driver has open -/
  opened : List Nat

def start : State where
  world := ⟨fun _ => none, fun _ => none⟩
  grabber := none
  dataSender := false
  pc := .dispatching
  yields := []
  allocated := 0
  opened := []

namespace State

/-- The grabber `m_Grabber` points to. -/
def current (s : State) : Option Grabber := s.grabber.bind s.world.grabbers

def goto (s : State) (pc : Pc) : State := { s with pc := pc }

/-- `StopThread` has dropped its thread and calls `wxYield`. -/
def callYield (s : State) (g : Grabber) (c : StopThread) : State :=
  { s with
    world := s.world.setGrabber c.this { g with thread := .none }
    pc := .dispatching
    yields := c :: s.yields }

end State

def uiStep (s : State) : Option State :=
  match s.pc with
  | .stopGrabbing k =>
      match s.grabber with
      | none => some (s.goto (.releasingSender k))
      | some p =>
          match s.world.grabbers p with
          | none => some (s.goto .fault)
          | some g =>
              let site := if isStarted g then StopSite.stop else StopSite.destructor
              some (s.goto (.stopThread ⟨site, p, k⟩))
  | .stopThread c =>
      match s.world.grabbers c.this with
      | none => some (s.goto .fault)
      -- `Delete` waits for the thread
      | some g => if g.thread = .alive then none else some (s.callYield g c)
  | .resetting this k =>
      match closeDevice this s.world with
      | none => some (s.goto .fault)
      | some world => some { s with
          world := world
          opened := s.opened.filter fun d => some d ≠ (s.world.grabbers this).bind Grabber.device
          pc := .stopThread ⟨.destructor, this, k⟩ }
  | .freeing this k =>
      match s.world.grabbers this with
      | none => some (s.goto .fault)
      | some _ => some { s with
          world := s.world.delete this, grabber := none, pc := .releasingSender k }
  | .releasingSender k => some { s with dataSender := false, pc := k.next }
  | .runningSender => some (s.goto (if s.dataSender then .creatingGrabber else .fault))
  | .dispatching | .creatingSender | .creatingGrabber | .closed | .fault => none

inductive Action where
  /-- `freenect_process_events` returns a negative status on the thread of the grabber -/
  | threadEnds (this : Nat)
  /-- the thread of the grabber, asked to end, returns from `Entry` -/
  | entryReturns
  /-- `freenect_process_events` on the thread of the grabber calls back for a device -/
  | depthCallback (this device : Nat) (data : List UInt16)
  | videoCallback (this device : Nat)
  | uiEvent (e : UiEvent)
  /-- the innermost `wxYield` returns -/
  | yieldReturns
  | ui
  /-- `m_DataSender->Create()` returns -/
  | senderCreated (noError : Bool)
  /-- `CreateGrabber` and `Start` return -/
  | grabberCreated (context : Bool) (deviceIndex width height : Nat) (r : StartResults)

/-- A callback that comes to a deleted grabber, or leaves a buffer, is a fault. -/
def callback (s : State) (this device : Nat) (call : World → Option World) : Option State :=
  match s.world.grabbers this with
  | none => none
  | some g =>
      if g.thread = .alive ∧ device ∈ s.opened then
        match call s.world with
        | none => some (s.goto .fault)
        | some world => some { s with world := world }
      else none

/-- A fault stops every thread. -/
def step (s : State) (a : Action) : Option State :=
  if s.pc = .fault then none else
  match a with
  | .threadEnds this =>
      match s.world.grabbers this with
      | none => none
      | some g =>
          if g.thread = .alive
          then some { s with world := s.world.setGrabber this { g with thread := .ended } }
          else none
  | .entryReturns =>
      match s.pc with
      | .stopThread c =>
          match s.world.grabbers c.this with
          | none => none
          | some g => if g.thread = .alive then some (s.callYield g c) else none
      | _ => none
  | .depthCallback this device data =>
      callback s this device (KinectGrabberFreenect.depthCallback device data)
  | .videoCallback this device =>
      callback s this device (KinectGrabberFreenect.videoCallback device)
  | .uiEvent e => if s.pc = .dispatching then some (s.goto (.stopGrabbing e.caller)) else none
  | .yieldReturns =>
      match s.pc, s.yields with
      | .dispatching, c::cs => some { s with pc := c.next, yields := cs }
      | _, _ => none
  | .ui => uiStep s
  | .senderCreated noError =>
      if s.pc = .creatingSender then some { s with dataSender := noError, pc := .runningSender }
      else none
  | .grabberCreated context deviceIndex width height r =>
      if s.pc = .creatingGrabber then
        let this := s.allocated
        let world := s.world.setGrabber this (construct context deviceIndex width height)
        match KinectGrabberFreenect.start this r world with
        | none => some (s.goto .fault)
        | some (world, started) => some { s with
            world := world
            grabber := some this
            allocated := s.allocated + 1
            opened := if started then r.openDevice.toList ++ s.opened else s.opened
            pc := if started then .dispatching else .stopGrabbing .handler }
      else none

end KinectHelper.FreenectFrame
