import KinectHelper.Framework.Mailbox
import KinectHelper.Framework.Run
import KinectHelper.KinectTypes.Packet

namespace KinectHelper.KinectDataSender

inductive Thread where
  | ui
  | sender
  deriving DecidableEq

/-- An allocated block with its address. -/
structure Buffer where
  address : Nat
  bytes : Block
  deriving DecidableEq

inductive Pointer where
  | null
  | heap (address : Nat)
  /-- a string that only the sender thread uses -/
  | text (bytes : Block)
  deriving DecidableEq

/-- The arguments of `Send`. -/
structure SendArgs where
  data : Pointer
  length : Nat
  type : KinectDataType
  deriving DecidableEq

/-- The two calls of `Send` in `Entry`. -/
inductive Call where
  | connect
  | slot
  deriving DecidableEq

/-- Where the UI thread is: in `SendKinectData`, or in `Stop`. -/
inductive UiPc where
  | idle
  | testConnected (p : Packet)
  | testPrepared (p : Packet)
  | locking (p : Packet)
  | deleting (p : Packet)
  | allocating (p : Packet)
  | copying (p : Packet)
  | settingLen (p : Packet)
  | settingType (p : Packet)
  | settingPrepared (p : Packet)
  | broadcasting
  | unlocking
  | stopTest
  | stopFree
  | stopClear
  | stopBroadcast
  deriving DecidableEq

/-- Where the sender thread is in `Entry`, and in `Send` below it. -/
inductive SenderPc where
  | newBase
  | newConnection
  | clearConnected
  | loopTest
  | testConnection
  | testConnected
  | waiting
  | testPrepared
  | locking
  | calling
  | sendTest (c : Call) (a : SendArgs)
  | sendBuild (c : Call) (a : SendArgs)
  | sendRetest (c : Call) (req : Packet)
  | sendMake (c : Call) (req : Packet)
  | sendDispatch (c : Call)
  | clearing
  | unlocking
  | finished
  /-- stopped before a read outside a block -/
  | fault
  deriving DecidableEq

structure State where
  bConnected : Bool
  bDataPrepared : Bool
  cs : Option Thread
  evhttpConnection : Bool
  rawData : Option Buffer
  dataLen : Nat
  dataType : KinectDataType
  /-- blocks allocated so far -/
  allocated : Nat
  ui : UiPc
  sender : SenderPc
  /-- calls that reached the copy are puts, requests made are takes -/
  log : List (Mailbox.Event Packet)
  deriving DecidableEq

/-- After the constructor, which leaves four fields uninitialised. -/
def start (bConnected evhttpConnection : Bool) (dataLen : Nat) (dataType : KinectDataType) :
    State where
  bConnected := bConnected
  bDataPrepared := false
  cs := none
  evhttpConnection := evhttpConnection
  rawData := none
  dataLen := dataLen
  dataType := dataType
  allocated := 0
  ui := .idle
  sender := .newBase
  log := []

def connectArgs : SendArgs where
  data := .text [99, 111, 110, 110, 101, 99, 116]
  length := 7
  type := .connectionInit

namespace State

def broadcast (s : State) : State :=
  if s.sender = .waiting then { s with sender := .testPrepared } else s

/-- The value of `m_rawData`. -/
def rawDataPointer (s : State) : Pointer :=
  match s.rawData with
  | none => .null
  | some buf => .heap buf.address

/-- The bytes `evbuffer_add` copies, none at all for a NULL pointer or length zero. The
result is `none` when they are not all in the block, or the block is gone. -/
def readArgs (s : State) (a : SendArgs) : Option Block :=
  if a.length = 0 then some [] else
  match a.data with
  | .null => some []
  | .text bytes => loadBytes bytes 0 a.length
  | .heap address =>
      match s.rawData with
      | none => none
      | some buf => if buf.address = address then loadBytes buf.bytes 0 a.length else none

end State

/-- Where `Entry` goes on after `Send`. -/
def Call.next : Call → SenderPc
  | .connect => .loopTest
  | .slot => .clearing

def uiStep (s : State) : Option State :=
  match s.ui with
  | .idle => none
  | .testConnected p => some { s with ui := if s.bConnected then .testPrepared p else .idle }
  | .testPrepared p => some { s with ui := if s.bDataPrepared then .idle else .locking p }
  | .locking p => if s.cs = none then some { s with cs := some .ui, ui := .deleting p } else none
  | .deleting p => some { s with rawData := none, ui := .allocating p }
  | .allocating p => some { s with
      rawData := some ⟨s.allocated, zeros p.data.length⟩
      allocated := s.allocated + 1
      ui := .copying p }
  | .copying p => some { s with
      rawData := s.rawData.map fun buf =>
        { buf with bytes := p.data ++ buf.bytes.drop p.data.length }
      ui := .settingLen p
      log := s.log ++ [.put p] }
  | .settingLen p => some { s with dataLen := p.data.length, ui := .settingType p }
  | .settingType p => some { s with dataType := p.type, ui := .settingPrepared p }
  | .settingPrepared _ => some { s with bDataPrepared := true, ui := .broadcasting }
  | .broadcasting => some { s.broadcast with ui := .unlocking }
  | .unlocking => some { s with cs := none, ui := .idle }
  | .stopTest => some { s with ui := if s.evhttpConnection then .stopFree else .stopClear }
  | .stopFree => some { s with evhttpConnection := false, ui := .stopClear }
  | .stopClear => some { s with bDataPrepared := false, ui := .stopBroadcast }
  | .stopBroadcast => some { s.broadcast with ui := .idle }

def senderStep (s : State) : Option State :=
  match s.sender with
  | .newBase => some { s with sender := .newConnection }
  | .newConnection => some { s with evhttpConnection := true, sender := .clearConnected }
  | .clearConnected => some { s with bConnected := false, sender := .loopTest }
  | .loopTest => some { s with sender := .testConnection }
  | .testConnection =>
      some { s with sender := if s.evhttpConnection then .testConnected else .finished }
  | .testConnected =>
      some { s with sender := if s.bConnected then .waiting else .sendTest .connect connectArgs }
  | .waiting => none
  | .testPrepared => some { s with sender := if s.bDataPrepared then .locking else .loopTest }
  | .locking => if s.cs = none then some { s with cs := some .sender, sender := .calling } else none
  | .calling =>
      some { s with sender := .sendTest .slot ⟨s.rawDataPointer, s.dataLen, s.dataType⟩ }
  | .sendTest c a => some { s with sender := if s.evhttpConnection then .sendBuild c a else c.next }
  | .sendBuild c a =>
      match s.readArgs a with
      | none => some { s with sender := .fault }
      | some bytes => some { s with sender := .sendRetest c ⟨bytes, a.type⟩ }
  | .sendRetest c req =>
      some { s with sender := if s.evhttpConnection then .sendMake c req else c.next }
  | .sendMake c req =>
      some { s with sender := .sendDispatch c, log := s.log ++ [.take req] }
  | .sendDispatch _ => none
  | .clearing => some { s with bDataPrepared := false, sender := .unlocking }
  | .unlocking => some { s with cs := none, sender := .loopTest }
  | .finished => none
  | .fault => none

inductive Action where
  | callSend (p : Packet)
  | callStop
  | ui
  | sender
  /-- `event_base_new` or `evhttp_connection_base_new` returns NULL -/
  | setupFails
  /-- `TestDestroy()` returns true -/
  | destroyed
  /-- `Wait` returns without a broadcast, with or without an error -/
  | waitReturns (noError : Bool)
  /-- `evbuffer_add` fails -/
  | addFails
  /-- `_OnRequestDone` is called, with a request or with NULL -/
  | requestDone (request : Bool)
  /-- `event_base_dispatch` returns -/
  | dispatchReturns
  deriving DecidableEq

/-- The results of the calls into the libraries, and the calls of the UI thread. -/
def environment (s : State) : Action → Option State
  | .callSend p => if s.ui = .idle then some { s with ui := .testConnected p } else none
  | .callStop => if s.ui = .idle then some { s with ui := .stopTest } else none
  | .setupFails =>
      match s.sender with
      | .newBase => some { s with sender := .finished }
      | .newConnection => some { s with evhttpConnection := false, sender := .finished }
      | _ => none
  | .destroyed => if s.sender = .loopTest then some { s with sender := .finished } else none
  | .waitReturns noError =>
      if s.sender = .waiting
      then some { s with sender := if noError then .testPrepared else .loopTest } else none
  | .addFails =>
      match s.sender with
      | .sendBuild c a =>
          if a.data ≠ .null ∧ a.length ≠ 0 then some { s with sender := c.next } else none
      | _ => none
  | .requestDone request =>
      match s.sender with
      | .sendDispatch _ => some { s with bConnected := request }
      | _ => none
  | .dispatchReturns =>
      match s.sender with
      | .sendDispatch c => some { s with sender := c.next }
      | _ => none
  | .ui => none
  | .sender => none

def step (s : State) : Action → Option State
  | .ui => uiStep s
  | .sender => senderStep s
  | a => environment s a

def connectRun : List Action :=
  List.replicate 10 .sender ++ [.requestDone true, .dispatchReturns] ++ List.replicate 3 .sender

def sendRun (p : Packet) : List Action := .callSend p :: List.replicate 11 .ui

def sentRun : List Action :=
  List.replicate 7 .sender ++ [.requestDone true, .dispatchReturns] ++ List.replicate 5 .sender

end KinectHelper.KinectDataSender
