import KinectHelper.Framework.Run
import KinectHelper.KinectTest.KinectTestMainFrame

namespace KinectHelper.GrabbingSession

open KinectTestMainFrame (StopSite)

/-- A thread object: before `Run`, running, and after `Entry` has returned. -/
inductive Thread where
  | created
  | alive
  | ended
  deriving DecidableEq

/-- A grabber at its address, with its thread unless the pointer is NULL. -/
structure Grabber where
  address : Nat
  thread : Option Thread
  depthFrameSize : Nat × Nat
  colorFrameSize : Nat × Nat
  deriving DecidableEq

def Grabber.isStarted (g : Grabber) : Bool := decide (g.thread = some .alive)

/-- A `KinectDataSender`: a detached thread deletes its object when it ends. -/
inductive Sender where
  | created
  | running
  | deleted
  deriving DecidableEq

/-- The images of the frame, which the canvases point to. -/
inductive Image where
  | currentImage
  | colorImage
  | skeletonImage
  deriving DecidableEq

structure Canvases where
  depth : Option Image
  color : Option Image
  skeleton : Option Image
  deriving DecidableEq

def Canvases.noImage : Canvases := ⟨none, none, none⟩

/-- What follows the `StopGrabbing` that is being run. -/
inductive Caller where
  | handler
  | showDevices
  | startGrabbing
  /-- the last lines of `StartGrabbing`, after `Start` has failed -/
  | startFailed
  | destructor
  deriving DecidableEq

/-- A call of `StopThread`, with its `this` pointer. -/
structure StopThread where
  site : StopSite
  this : Nat
  caller : Caller
  deriving DecidableEq

/-- Why an access through a pointer must not happen. -/
inductive BadPointer where
  | null
  | freed
  deriving DecidableEq

/-- Where the UI thread is. -/
inductive Pc where
  /-- in the innermost `wxYield`, or in the event loop when there is none -/
  | dispatching
  | stopGrabbing (k : Caller)
  | stopThread (c : StopThread)
  /-- in `Stop`, after `StopThread` -/
  | resetting (this : Nat) (k : Caller)
  /-- in the destructor, after `StopThread` -/
  | freeing (this : Nat) (k : Caller)
  | clearingCanvases (k : Caller)
  | releasingSender (k : Caller)
  | fillingList
  | creatingSender
  | runningSender
  | creatingGrabber
  | showingImages
  | startingGrabber
  | startReturned
  | closed
  /-- stopped before an access through a bad pointer, in this `StopGrabbing` or in what follows -/
  | fault (p : BadPointer) (k : Caller)
  deriving DecidableEq

structure State where
  grabber : Option Grabber
  dataSender : Option Sender
  canvases : Canvases
  /-- the sizes of the three images -/
  imageSize : Image → Nat × Nat
  /-- the client data of the items of `m_DeviceListBox` -/
  deviceListBox : List Nat
  selectedDeviceIndex : Int
  /-- whether the two buttons are enabled -/
  startEnabled : Bool
  stopEnabled : Bool
  /-- what `GetDeviceCount` returns; the drivers report it as an `int` -/
  deviceCount : Nat
  pc : Pc
  /-- calls of `StopThread` that wait for their `wxYield`, the innermost first -/
  yields : List StopThread
  /-- grabbers allocated so far -/
  allocated : Nat
  /-- the index that each call of `CreateGrabber` got, with the device count -/
  requests : List (Int × Nat)

/-- The frame after `CreateControls`, with `count` devices plugged in. -/
def opened (count : Nat) : State where
  grabber := none
  dataSender := none
  canvases := .noImage
  imageSize := fun i => if i = .skeletonImage then (320, 240) else (0, 0)
  deviceListBox := List.range count
  selectedDeviceIndex := -1
  startEnabled := true
  stopEnabled := true
  deviceCount := count
  pc := .dispatching
  yields := []
  allocated := 0
  requests := []

namespace State

/-- The grabber at an address, unless it has been deleted. -/
def live (s : State) (this : Nat) : Option Grabber :=
  s.grabber.filter fun g => g.address = this

def goto (s : State) (pc : Pc) : State := { s with pc := pc }

/-- `StopThread` has dropped its thread and calls `wxYield`. -/
def callYield (s : State) (g : Grabber) (c : StopThread) : State :=
  { s with
    grabber := some { g with thread := none }
    pc := .dispatching
    yields := c :: s.yields }

end State

/-- Where `wxYield` returns to. -/
def StopThread.next (c : StopThread) : Pc :=
  match c.site with
  | .stop => .resetting c.this c.caller
  | .destructor => .freeing c.this c.caller

/-- Where `StopGrabbing` returns to. -/
def Caller.next : Caller → Pc
  | .handler => .dispatching
  | .showDevices => .fillingList
  | .startGrabbing => .creatingSender
  | .startFailed => .startReturned
  | .destructor => .closed

/-- The end of `StopGrabbing`, where `Delete` waits for a running sender. -/
def releaseSender (s : State) (k : Caller) : State :=
  match s.dataSender with
  | some .deleted => s.goto (.fault .freed k)
  | none | some .created | some .running => { s with dataSender := none, pc := k.next }

/-- The lines of `StartGrabbing` that read the frame sizes and set the canvases. -/
def showImages (s : State) : State :=
  match s.grabber with
  | none => s.goto (.fault .null .startGrabbing)
  | some g => { s with
      imageSize := fun i => if i = .colorImage then g.colorFrameSize else g.depthFrameSize
      canvases := ⟨some .currentImage, some .colorImage, some .skeletonImage⟩
      pc := .startingGrabber }

def uiStep (s : State) : Option State :=
  match s.pc with
  | .stopGrabbing k =>
      match s.grabber with
      | none => some (s.goto (.clearingCanvases k))
      | some g =>
          let site := if g.isStarted then StopSite.stop else StopSite.destructor
          some (s.goto (.stopThread ⟨site, g.address, k⟩))
  | .stopThread c =>
      match s.live c.this with
      | none => some (s.goto (.fault .freed c.caller))
      -- `Delete` waits for the thread
      | some g => if g.isStarted then none else some (s.callYield g c)
  | .resetting this k =>
      match s.live this with
      | none => some (s.goto (.fault .freed k))
      | some _ => some (s.goto (.stopThread ⟨.destructor, this, k⟩))
  | .freeing this k =>
      match s.live this with
      | none => some (s.goto (.fault .freed k))
      | some _ => some { s with grabber := none, pc := .clearingCanvases k }
  | .clearingCanvases k => some { s with canvases := .noImage, pc := .releasingSender k }
  | .releasingSender k => some (releaseSender s k)
  | .fillingList =>
      some { s with deviceListBox := List.range s.deviceCount, pc := .dispatching }
  | .showingImages => some (showImages s)
  | .startReturned => some (s.goto .dispatching)
  | .dispatching | .creatingSender | .runningSender | .creatingGrabber | .startingGrabber
  | .closed | .fault _ _ => none

/-- The UI events of the frame; a selection comes with the number of its item. -/
inductive UiEvent where
  | deviceListBoxSelected (item : Nat)
  | grabberStartClick
  | grabberStopClick
  | refreshClick
  | destroyed
  deriving DecidableEq

/-- The handlers, as far as `StopGrabbing`; a disabled button is not clicked. -/
def handle (s : State) : UiEvent → Option State
  | .deviceListBoxSelected item =>
      match s.deviceListBox[item]? with
      | none => none
      | some deviceIndex =>
          if deviceIndex > s.deviceCount then some s
          else some { s with
            selectedDeviceIndex := deviceIndex, pc := .stopGrabbing .startGrabbing }
  | .grabberStartClick =>
      if s.startEnabled then some (s.goto (.stopGrabbing .startGrabbing)) else none
  | .grabberStopClick => if s.stopEnabled then some (s.goto (.stopGrabbing .handler)) else none
  | .refreshClick => some (s.goto (.stopGrabbing .showDevices))
  | .destroyed => some (s.goto (.stopGrabbing .destructor))

/-- `OnGRABBERSTARTUpdate` and `OnGRABBERSTOPUpdate`. -/
def updateUI (s : State) : State :=
  let started := s.grabber.any Grabber.isStarted
  { s with
    startEnabled := decide (s.selectedDeviceIndex ≥ 0) && !started
    stopEnabled := started }

inductive Action where
  /-- devices come and go, while no handler is running -/
  | plug (count : Nat)
  /-- the thread of the grabber returns from `Entry` -/
  | threadEnds
  /-- the thread of the sender returns from `Entry` -/
  | senderEnds
  | updateUI
  | uiEvent (e : UiEvent)
  /-- the innermost `wxYield` returns -/
  | yieldReturns
  | ui
  /-- `m_DataSender->Create()` returns -/
  | senderCreated (noError : Bool)
  /-- `m_DataSender->Run()` returns -/
  | senderRun (noError : Bool)
  /-- `CreateGrabber` returns NULL, or a grabber with its two frame sizes -/
  | grabberCreated (sizes : Option ((Nat × Nat) × (Nat × Nat)))
  /-- `m_Grabber->Start()` returns and leaves the grabber with this thread -/
  | grabberStarted (thread : Option Thread) (result : Bool)
  deriving DecidableEq

def step (s : State) : Action → Option State
  | .plug count =>
      if s.pc = .dispatching ∧ s.yields = [] then some { s with deviceCount := count } else none
  | .threadEnds =>
      match s.grabber with
      | none => none
      | some g =>
          if g.isStarted then some { s with grabber := some { g with thread := some .ended } }
          else none
  | .senderEnds =>
      if s.dataSender = some .running then some { s with dataSender := some .deleted } else none
  | .updateUI => if s.pc = .dispatching then some (updateUI s) else none
  | .uiEvent e => if s.pc = .dispatching then handle s e else none
  | .yieldReturns =>
      match s.pc, s.yields with
      | .dispatching, c::cs => some { s with pc := c.next, yields := cs }
      | _, _ => none
  | .ui => uiStep s
  | .senderCreated noError =>
      if s.pc = .creatingSender then
        some { s with
          dataSender := if noError then some .created else none, pc := .runningSender }
      else none
  | .senderRun noError =>
      if s.pc = .runningSender then
        match s.dataSender with
        | none => some (s.goto (.fault .null .startGrabbing))
        | some sender => some { s with
            dataSender := some (if noError then .running else sender), pc := .creatingGrabber }
      else none
  | .grabberCreated sizes =>
      if s.pc = .creatingGrabber then
        some { s with
          grabber := sizes.map fun z => ⟨s.allocated, none, z.1, z.2⟩
          allocated := s.allocated + 1
          requests := s.requests ++ [(s.selectedDeviceIndex, s.deviceCount)]
          pc := .showingImages }
      else none
  | .grabberStarted thread result =>
      if s.pc = .startingGrabber then
        match s.grabber with
        | none => some (s.goto (.fault .null .startGrabbing))
        | some g => some { s with
            grabber := some { g with thread := thread }
            pc := if result then .startReturned else .stopGrabbing .startFailed }
      else none

/-- The grabber that the next step uses, and the caller. -/
def Pc.uses : Pc → Option (Nat × Caller)
  | .stopThread c => some (c.this, c.caller)
  | .resetting this k | .freeing this k => some (this, k)
  | _ => none

/-- What a step of the UI thread does, with what it has found. -/
inductive UiMove (s : State) : State → Prop
  | noGrabber (k : Caller) (hpc : s.pc = .stopGrabbing k) (hg : s.grabber = none) :
      UiMove s (s.goto (.clearingCanvases k))
  | callStop (k : Caller) (hpc : s.pc = .stopGrabbing k) (g : Grabber) (hg : s.grabber = some g)
      (site : StopSite) : UiMove s (s.goto (.stopThread ⟨site, g.address, k⟩))
  | freedGrabber (this : Nat) (k : Caller) (hpc : s.pc.uses = some (this, k))
      (hfreed : s.live this = none) : UiMove s (s.goto (.fault .freed k))
  | freedSender (k : Caller) (hpc : s.pc = .releasingSender k)
      (hfreed : s.dataSender = some .deleted) : UiMove s (s.goto (.fault .freed k))
  | yield (c : StopThread) (hpc : s.pc = .stopThread c) (g : Grabber)
      (hg : s.live c.this = some g) : UiMove s (s.callYield g c)
  | callDestructor (this : Nat) (k : Caller) (hpc : s.pc = .resetting this k) (g : Grabber)
      (hg : s.live this = some g) : UiMove s (s.goto (.stopThread ⟨.destructor, this, k⟩))
  | delete (this : Nat) (k : Caller) (hpc : s.pc = .freeing this k) :
      UiMove s { s with grabber := none, pc := .clearingCanvases k }
  | clear (k : Caller) (hpc : s.pc = .clearingCanvases k) :
      UiMove s { s with canvases := .noImage, pc := .releasingSender k }
  | release (k : Caller) (hpc : s.pc = .releasingSender k) :
      UiMove s { s with dataSender := none, pc := k.next }
  | fill (hpc : s.pc = .fillingList) :
      UiMove s { s with deviceListBox := List.range s.deviceCount, pc := .dispatching }
  | display (hpc : s.pc = .showingImages) : UiMove s (showImages s)
  | finish (hpc : s.pc = .startReturned) : UiMove s (s.goto .dispatching)

theorem uiStep_move {s t : State} (ht : uiStep s = some t) : UiMove s t := by
  unfold uiStep at ht
  cases hpc : s.pc with
  | stopGrabbing k =>
    rw [hpc] at ht
    cases hg : s.grabber with
    | none =>
      simp only [hg, Option.some.injEq] at ht
      exact ht ▸ .noGrabber k hpc hg
    | some g =>
      simp only [hg, Option.some.injEq] at ht
      exact ht ▸ .callStop k hpc g hg _
  | stopThread c =>
    rw [hpc] at ht
    cases hg : s.live c.this with
    | none =>
      simp only [hg, Option.some.injEq] at ht
      exact ht ▸ .freedGrabber c.this c.caller (by rw [hpc]; rfl) hg
    | some g =>
      simp only [hg, Option.ite_none_left_eq_some, Option.some.injEq] at ht
      exact ht.2 ▸ .yield c hpc g hg
  | resetting this k =>
    rw [hpc] at ht
    cases hg : s.live this with
    | none =>
      simp only [hg, Option.some.injEq] at ht
      exact ht ▸ .freedGrabber this k (by rw [hpc]; rfl) hg
    | some g =>
      simp only [hg, Option.some.injEq] at ht
      exact ht ▸ .callDestructor this k hpc g hg
  | freeing this k =>
    rw [hpc] at ht
    cases hg : s.live this with
    | none =>
      simp only [hg, Option.some.injEq] at ht
      exact ht ▸ .freedGrabber this k (by rw [hpc]; rfl) hg
    | some g =>
      simp only [hg, Option.some.injEq] at ht
      exact ht ▸ .delete this k hpc
  | clearingCanvases k =>
    rw [hpc] at ht
    exact Option.some.inj ht ▸ .clear k hpc
  | releasingSender k =>
    rw [hpc] at ht
    obtain rfl := Option.some.inj ht
    unfold releaseSender
    cases hs : s.dataSender with
    | none => exact .release k hpc
    | some sender =>
      cases sender with
      | created => exact .release k hpc
      | running => exact .release k hpc
      | deleted => exact .freedSender k hpc hs
  | fillingList =>
    rw [hpc] at ht
    exact Option.some.inj ht ▸ .fill hpc
  | showingImages =>
    rw [hpc] at ht
    exact Option.some.inj ht ▸ .display hpc
  | startReturned =>
    rw [hpc] at ht
    exact Option.some.inj ht ▸ .finish hpc
  | _ => simp [hpc] at ht

/-- What a step does, with what it has found. -/
inductive Move (s : State) : Action → State → Prop
  | plug (count : Nat) (hpc : s.pc = .dispatching) (hyields : s.yields = []) :
      Move s (.plug count) { s with deviceCount := count }
  | threadEnds (g : Grabber) (hg : s.grabber = some g) :
      Move s .threadEnds { s with grabber := some { g with thread := some .ended } }
  | senderEnds (hrunning : s.dataSender = some .running) :
      Move s .senderEnds { s with dataSender := some .deleted }
  | updateUI (hpc : s.pc = .dispatching) : Move s .updateUI (updateUI s)
  | refuse (item : Nat) : Move s (.uiEvent (.deviceListBoxSelected item)) s
  | select (item deviceIndex : Nat) (hpc : s.pc = .dispatching)
      (hitem : s.deviceListBox[item]? = some deviceIndex) (hcount : deviceIndex ≤ s.deviceCount) :
      Move s (.uiEvent (.deviceListBoxSelected item))
        { s with selectedDeviceIndex := deviceIndex, pc := .stopGrabbing .startGrabbing }
  | startClick (hpc : s.pc = .dispatching) (henabled : s.startEnabled = true) :
      Move s (.uiEvent .grabberStartClick) (s.goto (.stopGrabbing .startGrabbing))
  | stopClick (hpc : s.pc = .dispatching) :
      Move s (.uiEvent .grabberStopClick) (s.goto (.stopGrabbing .handler))
  | refreshClick (hpc : s.pc = .dispatching) :
      Move s (.uiEvent .refreshClick) (s.goto (.stopGrabbing .showDevices))
  | destroyed (hpc : s.pc = .dispatching) :
      Move s (.uiEvent .destroyed) (s.goto (.stopGrabbing .destructor))
  | yieldReturns (hpc : s.pc = .dispatching) (c : StopThread) (cs : List StopThread)
      (hyields : s.yields = c::cs) :
      Move s .yieldReturns { s with pc := c.next, yields := cs }
  | ui (t : State) (h : UiMove s t) : Move s .ui t
  | senderCreated (noError : Bool) (hpc : s.pc = .creatingSender) :
      Move s (.senderCreated noError)
        { s with dataSender := if noError then some .created else none, pc := .runningSender }
  | runNull (noError : Bool) (hpc : s.pc = .runningSender) (hs : s.dataSender = none) :
      Move s (.senderRun noError) (s.goto (.fault .null .startGrabbing))
  | senderRun (noError : Bool) (hpc : s.pc = .runningSender) (sender : Sender) :
      Move s (.senderRun noError)
        { s with
          dataSender := some (if noError then .running else sender), pc := .creatingGrabber }
  | grabberCreated (sizes : Option ((Nat × Nat) × (Nat × Nat))) (hpc : s.pc = .creatingGrabber) :
      Move s (.grabberCreated sizes)
        { s with
          grabber := sizes.map fun z => ⟨s.allocated, none, z.1, z.2⟩
          allocated := s.allocated + 1
          requests := s.requests ++ [(s.selectedDeviceIndex, s.deviceCount)]
          pc := .showingImages }
  | startNull (thread : Option Thread) (result : Bool) (hpc : s.pc = .startingGrabber)
      (hg : s.grabber = none) :
      Move s (.grabberStarted thread result) (s.goto (.fault .null .startGrabbing))
  | grabberStarted (thread : Option Thread) (result : Bool) (hpc : s.pc = .startingGrabber)
      (g : Grabber) :
      Move s (.grabberStarted thread result)
        { s with
          grabber := some { g with thread := thread }
          pc := if result then .startReturned else .stopGrabbing .startFailed }

theorem handle_move {s t : State} {e : UiEvent} (hpc : s.pc = .dispatching)
    (ht : handle s e = some t) : Move s (.uiEvent e) t := by
  cases e with
  | deviceListBoxSelected item =>
    unfold handle at ht
    cases hitem : s.deviceListBox[item]? with
    | none => simp [hitem] at ht
    | some deviceIndex =>
      simp only [hitem] at ht
      by_cases habove : deviceIndex > s.deviceCount
      · rw [if_pos habove] at ht
        exact Option.some.inj ht ▸ .refuse item
      · rw [if_neg habove] at ht
        exact Option.some.inj ht ▸ .select item deviceIndex hpc hitem (Nat.le_of_not_lt habove)
  | grabberStartClick =>
    obtain ⟨henabled, ht⟩ := Option.ite_none_right_eq_some.mp ht
    exact Option.some.inj ht ▸ .startClick hpc henabled
  | grabberStopClick =>
    obtain ⟨_, ht⟩ := Option.ite_none_right_eq_some.mp ht
    exact Option.some.inj ht ▸ .stopClick hpc
  | refreshClick => exact Option.some.inj ht ▸ .refreshClick hpc
  | destroyed => exact Option.some.inj ht ▸ .destroyed hpc

theorem step_move {s t : State} {a : Action} (ht : step s a = some t) : Move s a t := by
  cases a with
  | plug count =>
    obtain ⟨⟨hpc, hyields⟩, ht⟩ := Option.ite_none_right_eq_some.mp ht
    exact Option.some.inj ht ▸ .plug count hpc hyields
  | threadEnds =>
    unfold step at ht
    cases hg : s.grabber with
    | none => simp [hg] at ht
    | some g =>
      simp only [hg, Option.ite_none_right_eq_some, Option.some.injEq] at ht
      exact ht.2 ▸ .threadEnds g hg
  | senderEnds =>
    obtain ⟨hrunning, ht⟩ := Option.ite_none_right_eq_some.mp ht
    exact Option.some.inj ht ▸ .senderEnds hrunning
  | updateUI =>
    obtain ⟨hpc, ht⟩ := Option.ite_none_right_eq_some.mp ht
    exact Option.some.inj ht ▸ .updateUI hpc
  | uiEvent e =>
    obtain ⟨hpc, ht⟩ := Option.ite_none_right_eq_some.mp ht
    exact handle_move hpc ht
  | yieldReturns =>
    unfold step at ht
    cases hpc : s.pc with
    | dispatching =>
      cases hyields : s.yields with
      | nil => simp [hpc, hyields] at ht
      | cons c cs =>
        simp only [hpc, hyields, Option.some.injEq] at ht
        exact ht ▸ .yieldReturns hpc c cs hyields
    | _ => simp [hpc] at ht
  | ui => exact .ui t (uiStep_move ht)
  | senderCreated noError =>
    obtain ⟨hpc, ht⟩ := Option.ite_none_right_eq_some.mp ht
    exact Option.some.inj ht ▸ .senderCreated noError hpc
  | senderRun noError =>
    obtain ⟨hpc, ht⟩ := Option.ite_none_right_eq_some.mp ht
    cases hs : s.dataSender with
    | none =>
      simp only [hs, Option.some.injEq] at ht
      exact ht ▸ .runNull noError hpc hs
    | some sender =>
      simp only [hs, Option.some.injEq] at ht
      exact ht ▸ .senderRun noError hpc sender
  | grabberCreated sizes =>
    obtain ⟨hpc, ht⟩ := Option.ite_none_right_eq_some.mp ht
    exact Option.some.inj ht ▸ .grabberCreated sizes hpc
  | grabberStarted thread result =>
    obtain ⟨hpc, ht⟩ := Option.ite_none_right_eq_some.mp ht
    cases hg : s.grabber with
    | none =>
      simp only [hg, Option.some.injEq] at ht
      exact ht ▸ .startNull thread result hpc hg
    | some g =>
      simp only [hg, Option.some.injEq] at ht
      exact ht ▸ .grabberStarted thread result hpc g

end KinectHelper.GrabbingSession
