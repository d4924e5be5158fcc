import KinectHelper.Framework.Loop
import KinectHelper.Framework.Memory

namespace KinectHelper

/-- What `wxThreadHelper` has of its thread. -/
inductive HelperThread where
  | none
  /-- created, and not running -/
  | created
  | alive
  | ended
  deriving DecidableEq

namespace KinectGrabberFreenect

structure Grabber where
  /-- `m_Context` is not NULL -/
  context : Bool
  /-- `m_Device`; `none` is NULL -/
  device : Option Nat
  deviceIndex : Nat
  /-- the depth events pending at `m_Handler`, by device index; `none` is NULL -/
  handler : Option (List Nat)
  thread : HelperThread
  depthFrameWidth : Nat
  depthFrameHeight : Nat
  depthBuffers : Fin 2 → Option Block
  depthBufferLength : Nat
  depthBufferIndex : Fin 2
  gotDepth : Bool

/-- The grabbers by address, and `DeviceHash`. An entry of `DeviceHash` may hold NULL. -/
structure World where
  grabbers : Nat → Option Grabber
  deviceHash : Nat → Option (Option Nat)

def World.setGrabber (s : World) (self : Nat) (g : Grabber) : World :=
  { s with grabbers := Function.update s.grabbers self (some g) }

def World.delete (s : World) (self : Nat) : World :=
  { s with grabbers := Function.update s.grabbers self none }

/-- The constructor; the members that it leaves uninitialised are not read before `Start`. -/
def construct (context : Bool) (deviceIndex depthFrameWidth depthFrameHeight : Nat) : Grabber where
  context := context
  device := none
  deviceIndex := deviceIndex
  handler := some []
  thread := .none
  depthFrameWidth := depthFrameWidth
  depthFrameHeight := depthFrameHeight
  depthBuffers := fun _ => none
  depthBufferLength := 0
  depthBufferIndex := 0
  gotDepth := false

/-- The conversion of a quotient above 255 is undefined in C; it is taken modulo 256 here. -/
def getDepthValue (data : UInt16) : UInt8 := UInt8.ofNat (255 * data.toNat / 0x7ff)

/-- The body of the loops. The state is `buffer` and the position of `depth`. -/
def depthPixel (data : List UInt16) (w y x : Nat) (s : Block × Nat) : Option (Block × Nat) := do
  let (buffer, depth) := s
  let offset ← checkedInt ((w * y + x) * 3)
  let last ← checkedInt (offset + 2)
  let depthValue := getDepthValue (← data[depth]?)
  let buffer ← storeBytes buffer (offset + 0) [depthValue]
  let buffer ← storeBytes buffer (offset + 1) [depthValue]
  let buffer ← storeBytes buffer last [depthValue]
  pure (buffer, depth + 1)

/-- `DepthCallback` on the grabber found; `none` is an access outside a buffer. -/
def receiveDepth (g : Grabber) (data : List UInt16) : Option Grabber := do
  let w := g.depthFrameWidth
  let h := g.depthFrameHeight
  let buffer ← g.depthBuffers g.depthBufferIndex
  let (buffer, _) ← forPixels w h (depthPixel data w) (buffer, 0)
  pure { g with
    depthBuffers := Function.update g.depthBuffers g.depthBufferIndex (some buffer)
    gotDepth := true
    handler := g.handler.map (· ++ [g.deviceIndex]) }

/-- `none` is also the use of a deleted grabber. -/
def depthCallback (device : Nat) (data : List UInt16) (s : World) : Option World :=
  match s.deviceHash device with
  -- `operator[]` makes the entry it does not find
  | none => some { s with deviceHash := Function.update s.deviceHash device (some none) }
  | some none => some s
  | some (some p) => do
      let g ← s.grabbers p
      let g ← receiveDepth g data
      pure (s.setGrabber p g)

/-- `VideoCallback`, without the colour event that it posts. -/
def videoCallback (device : Nat) (s : World) : Option World :=
  match s.deviceHash device with
  | none => some { s with deviceHash := Function.update s.deviceHash device (some none) }
  | some none => some s
  | some (some p) => (s.grabbers p).map fun _ => s

/-- The grabber, the caller's buffer and the value returned. -/
def grabDepthFrame (g : Grabber) (data : Block) : Option (Grabber × Block × Bool) :=
  if g.device = none ∨ g.gotDepth = false ∨ g.thread ≠ .alive then some (g, data, false)
  else do
    let buffer ← g.depthBuffers g.depthBufferIndex
    let bytes ← loadBytes buffer 0 g.depthBufferLength
    let data ← storeBytes data 0 bytes
    pure ({ g with depthBufferIndex := 1 - g.depthBufferIndex, gotDepth := false }, data, true)

/-- What the calls of `Start` give it: whether there is a thread, the device opened, the content
of fresh buffers, and whether the thread runs. -/
structure StartResults where
  createThread : Bool
  openDevice : Option Nat
  fresh : Fin 2 → Nat → UInt8
  run : Bool

def newBuffer (n : Nat) (fresh : Nat → UInt8) : Block := (List.range n).map fresh

@[simp] theorem newBuffer_length (n : Nat) (fresh : Nat → UInt8) :
    (newBuffer n fresh).length = n := by
  simp [newBuffer]

/-- `Start`, and the value it returns; `none` is an overflow of the buffer size. -/
def start (self : Nat) (r : StartResults) (s : World) : Option (World × Bool) := do
  let g ← s.grabbers self
  if !g.context then some (s, false)
  else if !r.createThread then some (s.setGrabber self { g with thread := .created }, false)
  else
    match r.openDevice with
    | none => some (s.setGrabber self { g with thread := .created }, false)
    | some d => do
        let length ← checkedInt (g.depthFrameWidth * g.depthFrameHeight * 3)
        let s := s.setGrabber self { g with
          device := some d
          depthBufferLength := length
          depthBufferIndex := 0
          gotDepth := false
          depthBuffers := fun i => some (newBuffer length (r.fresh i))
          -- `Start` does not look at what `Run` returns
          thread := if r.run then .alive else .created }
        pure ({ s with deviceHash := Function.update s.deviceHash d (some (some self)) }, true)

/-- `Stop` after `StopThread`. -/
def closeDevice (self : Nat) (s : World) : Option World := do
  let g ← s.grabbers self
  let s := s.setGrabber self { g with
    depthBuffers := fun _ => none
    depthBufferLength := 0
    device := none }
  match g.device with
  | none => some s
  | some d => some { s with deviceHash := Function.update s.deviceHash d none }

def isStarted (g : Grabber) : Bool := g.device.isSome && g.thread = .alive

end KinectGrabberFreenect

end KinectHelper
