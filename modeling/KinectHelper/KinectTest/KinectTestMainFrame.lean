import KinectHelper.Framework.Memory
import KinectHelper.Framework.Run

namespace KinectHelper.KinectTestMainFrame

/-- `KINECT_DEPTH_FRAME_RECEIVED` and its siblings. -/
inductive FrameEvent where
  | depth
  | color
  | skeleton
  deriving DecidableEq

/-- A thread object before and after `Run`. -/
inductive Thread where
  | created
  | alive
  deriving DecidableEq

/-- A `KinectGrabberMSW`: which pointers and handles are not NULL, and its skeleton frame. -/
structure Grabber where
  address : Nat
  nuiInstance : Bool
  thread : Option Thread
  newDepthFrameEvent : Bool
  newColorFrameEvent : Bool
  newSkeletonFrameEvent : Bool
  skeletonFrame : Block
  deriving DecidableEq

/-- The results of the calls in `KinectGrabberMSW::Start`; for `CreateEvent`, not NULL. -/
structure StartResults where
  createThread : Bool
  depthEvent : Bool
  colorEvent : Bool
  skeletonEvent : Bool
  openDepthStream : Bool
  openColorStream : Bool
  enableSkeletonTracking : Bool
  run : Bool
  deriving DecidableEq

namespace Grabber

/-- The constructor, which leaves the skeleton frame uninitialised. -/
def construct (address : Nat) (nuiInstance : Bool) (skeletonFrame : Block) : Grabber where
  address := address
  nuiInstance := nuiInstance
  thread := none
  newDepthFrameEvent := false
  newColorFrameEvent := false
  newSkeletonFrameEvent := false
  skeletonFrame := skeletonFrame

def isStarted (g : Grabber) : Bool := decide (g.thread = some .alive)

/-- The bytes behind the returned pointer, or `none` for NULL. -/
def grabSkeletonFrame (g : Grabber) : Option Block :=
  if !g.isStarted || !g.nuiInstance || !g.newSkeletonFrameEvent then none
  else some g.skeletonFrame

def resetEvents (g : Grabber) : Grabber :=
  { g with
    newDepthFrameEvent := false
    newColorFrameEvent := false
    newSkeletonFrameEvent := false }

def start (g : Grabber) (r : StartResults) : Grabber × Bool :=
  if !g.nuiInstance then (g, false)
  else if g.isStarted then (g, false)
  -- `CreateThread` keeps its thread object when `Create` fails
  else if !r.createThread then ({ g with thread := some .created }, false)
  else
    let g := { g with
      thread := some .created
      newDepthFrameEvent := r.depthEvent
      newColorFrameEvent := r.colorEvent
      newSkeletonFrameEvent := r.skeletonEvent }
    if !r.openDepthStream then (g, false)
    else if !r.openColorStream then (g, false)
    else if !r.enableSkeletonTracking then (g, false)
    -- the result of `Run` is not looked at
    else ({ g with thread := some (if r.run then .alive else .created) }, true)

/-- `Entry` can get as far as `AddPendingEvent`: the wait fails when a handle is NULL, and
the three functions that read a frame test `m_Instance`. -/
def reads (g : Grabber) : Bool :=
  g.isStarted && g.newDepthFrameEvent && g.newColorFrameEvent && g.newSkeletonFrameEvent &&
    g.nuiInstance

/-- `ConvertFrame`, for a skeleton event. -/
def readFrame (g : Grabber) (e : FrameEvent) (skeletonFrame : Block) : Grabber :=
  if e = .skeleton then { g with skeletonFrame := skeletonFrame } else g

end Grabber

/-- What follows the `StopGrabbing` that a handler calls. -/
inductive Caller where
  | handler
  | startGrabbing
  | destructor
  deriving DecidableEq

/-- The two places that call `StopThread`. -/
inductive StopSite where
  | stop
  | destructor
  deriving DecidableEq

/-- A call of `StopThread`, with its `this` pointer. -/
structure StopThread where
  site : StopSite
  this : Nat
  caller : Caller
  deriving DecidableEq

/-- Where the UI thread is. -/
inductive Pc where
  /-- in the innermost `wxYield`, or in the event loop when there is none -/
  | dispatching
  | stopGrabbing (k : Caller)
  | stopThread (c : StopThread)
  /-- in `Stop`, after `StopThread` -/
  | resetting (this : Nat) (k : Caller)
  /-- in the destructor, after `StopThread` -/
  | freeing (this : Nat) (k : Caller)
  | releasingSender (k : Caller)
  | creatingSender
  | runningSender
  | creatingGrabber
  | closed
  /-- stopped before an access through a pointer that is NULL or freed -/
  | fault
  deriving DecidableEq

structure State where
  grabber : Option Grabber
  /-- `m_DataSender` is not NULL -/
  dataSender : Bool
  pending : List FrameEvent
  pc : Pc
  /-- calls of `StopThread` that wait for their `wxYield`, the innermost first -/
  yields : List StopThread
  /-- grabbers allocated so far -/
  allocated : Nat
  /-- the source pointers of the copies that `OnSkeletonFrame` has reached -/
  copied : List (Option Block)
  deriving DecidableEq

def start : State where
  grabber := none
  dataSender := false
  pending := []
  pc := .dispatching
  yields := []
  allocated := 0
  copied := []

namespace State

/-- The grabber at an address, unless it has been deleted. -/
def live (s : State) (this : Nat) : Option Grabber :=
  s.grabber.filter fun g => g.address = this

/-- `SkeletonPainter::DrawSkeleton` draws nothing for NULL; the copy faults. -/
def onSkeletonFrame (s : State) : State :=
  match s.grabber with
  | none => s
  | some g =>
      if !s.dataSender then s else
      let skeleton := g.grabSkeletonFrame
      { s with copied := s.copied ++ [skeleton], pc := if skeleton = none then .fault else s.pc }

/-- `OnDepthFrame` and `OnColorFrame` only copy from the grabber's own buffers. -/
def onFrame (s : State) : FrameEvent → State
  | .skeleton => s.onSkeletonFrame
  | .depth | .color => s

/-- `StopThread` has dropped its thread and calls `wxYield`. -/
def callYield (s : State) (g : Grabber) (c : StopThread) : State :=
  { s with
    grabber := some { g with thread := none }
    pc := .dispatching
    yields := c :: s.yields }

end State

/-- Where `wxYield` returns to. -/
def StopThread.next (c : StopThread) : Pc :=
  match c.site with
  | .stop => .resetting c.this c.caller
  | .destructor => .freeing c.this c.caller

def Caller.next : Caller → Pc
  | .handler => .dispatching
  | .startGrabbing => .creatingSender
  | .destructor => .closed

def uiStep (s : State) : Option State :=
  match s.pc with
  | .stopGrabbing k =>
      match s.grabber with
      | none => some { s with pc := .releasingSender k }
      | some g =>
          let site := if g.isStarted then StopSite.stop else StopSite.destructor
          some { s with pc := .stopThread ⟨site, g.address, k⟩ }
  | .stopThread c =>
      match s.live c.this with
      | none => some { s with pc := .fault }
      -- `Delete` waits for the thread
      | some g => if g.isStarted then none else some (s.callYield g c)
  | .resetting this k =>
      match s.live this with
      | none => some { s with pc := .fault }
      | some g => some { s with
          grabber := some g.resetEvents
          pc := .stopThread ⟨.destructor, this, k⟩ }
  | .freeing this k =>
      match s.live this with
      | none => some { s with pc := .fault }
      | some _ => some { s with grabber := none, pc := .releasingSender k }
  | .releasingSender k => some { s with dataSender := false, pc := k.next }
  | .runningSender => some { s with pc := if s.dataSender then .creatingGrabber else .fault }
  | .dispatching | .creatingSender | .creatingGrabber | .closed | .fault => none

/-- The UI events of the frame. -/
inductive UiEvent where
  | deviceListBoxSelected
  | grabberStartClick
  | grabberStopClick
  | refreshClick
  | destroyed
  deriving DecidableEq

/-- `OnREFRESHClick` fills the list again after `StopGrabbing`. -/
def UiEvent.caller : UiEvent → Caller
  | .deviceListBoxSelected | .grabberStartClick => .startGrabbing
  | .grabberStopClick | .refreshClick => .handler
  | .destroyed => .destructor

inductive Action where
  /-- the grabber thread reads a frame and posts its event -/
  | post (e : FrameEvent) (skeletonFrame : Block)
  /-- the grabber thread, asked to end, returns from `Entry` -/
  | entryReturns
  | uiEvent (e : UiEvent)
  /-- the oldest pending frame event is dispatched -/
  | frameEvent
  /-- the innermost `wxYield` returns, whatever is pending -/
  | yieldReturns
  | ui
  /-- `m_DataSender->Create()` returns -/
  | senderCreated (noError : Bool)
  /-- `CreateGrabber` and `Start` return -/
  | grabberCreated (nuiInstance : Bool) (skeletonFrame : Block) (r : StartResults)
  deriving DecidableEq

def step (s : State) : Action → Option State
  | .post e skeletonFrame =>
      match s.grabber with
      | none => none
      | some g =>
          if g.reads then some { s with
            grabber := some (g.readFrame e skeletonFrame)
            pending := s.pending ++ [e] }
          else none
  | .entryReturns =>
      match s.pc with
      | .stopThread c =>
          (s.live c.this).bind fun g => if g.isStarted then some (s.callYield g c) else none
      | _ => none
  | .uiEvent e =>
      match s.pc with
      | .dispatching => some { s with pc := .stopGrabbing e.caller }
      | _ => none
  | .frameEvent =>
      match s.pc, s.pending with
      | .dispatching, e::es => some ({ s with pending := es }.onFrame e)
      | _, _ => none
  | .yieldReturns =>
      match s.pc, s.yields with
      | .dispatching, c::cs => some { s with pc := c.next, yields := cs }
      | _, _ => none
  | .ui => uiStep s
  | .senderCreated noError =>
      match s.pc with
      | .creatingSender => some { s with dataSender := noError, pc := .runningSender }
      | _ => none
  | .grabberCreated nuiInstance skeletonFrame r =>
      match s.pc with
      | .creatingGrabber =>
          let started := (Grabber.construct s.allocated nuiInstance skeletonFrame).start r
          some { s with
            grabber := some started.1
            allocated := s.allocated + 1
            pc := if started.2 then .dispatching else .stopGrabbing .handler }
      | _ => none

end KinectHelper.KinectTestMainFrame
