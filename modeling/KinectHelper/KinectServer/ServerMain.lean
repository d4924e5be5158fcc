import KinectHelper.Framework.Run

namespace KinectHelper.ServerMain

inductive Status where
  | running
  | stopped
  deriving DecidableEq

/-- Where `main` is, and in `Stop` below it. -/
inductive MainPc where
  | starting
  | testEvbase
  | testEvhttp
  | freeingEvhttp
  | clearingEvhttp
  | requestingBreak
  | polling
  | deleting
  | deleted
  /-- stopped before a use of a freed object -/
  | fault
  deriving DecidableEq

/-- Where the server's thread is in `Execute`. -/
inductive ExecutePc where
  | noThread
  | settingRunning
  | newBase
  | testBase
  | newHttp
  | testHttp
  | binding
  | settingCallback
  | dispatching
  /-- inside the loop of `event_base_dispatch` -/
  | looping
  | testFree
  | freeingBase
  | clearingBase
  | settingStopped
  | finished
  /-- stopped before a use of a freed object, or of NULL -/
  | fault
  deriving DecidableEq

structure State where
  status : Status
  /-- `_evbase` and `_evhttp` are not NULL -/
  evbase : Bool
  evhttp : Bool
  /-- what they point to is allocated -/
  baseLive : Bool
  httpLive : Bool
  /-- `event_break` of the base -/
  eventBreak : Bool
  main : MainPc
  execute : ExecutePc
  deriving DecidableEq

/-- After `new KinectServer`. -/
def start : State where
  status := .stopped
  evbase := false
  evhttp := false
  baseLive := false
  httpLive := false
  eventBreak := false
  main := .starting
  execute := .noThread

/-- `main`; `ok` tells whether `Start` gets its thread. -/
def mainStep (s : State) (ok : Bool) : Option State :=
  match s.main with
  | .starting => some { s with
      execute := if ok then .settingRunning else .noThread
      main := .testEvbase }
  | .testEvbase => some { s with main := if s.evbase then .testEvhttp else .polling }
  | .testEvhttp => some { s with main := if s.evhttp then .freeingEvhttp else .requestingBreak }
  -- `evhttp_free` takes its events out of the base
  | .freeingEvhttp =>
      if s.httpLive && s.baseLive then some { s with httpLive := false, main := .clearingEvhttp }
      else some { s with main := .fault }
  | .clearingEvhttp => some { s with evhttp := false, main := .requestingBreak }
  -- `event_base_loopbreak` does nothing for NULL
  | .requestingBreak =>
      if !s.evbase then some { s with main := .polling }
      else if s.baseLive then some { s with eventBreak := true, main := .polling }
      else some { s with main := .fault }
  | .polling => some { s with main := if s.status = .stopped then .deleting else .polling }
  | .deleting => some { s with main := .deleted }
  | .deleted | .fault => none

/-- `Execute`; `ok` is the result of `event_base_new`, `evhttp_new` and
`evhttp_bind_socket`. -/
def executeStep (s : State) (ok : Bool) : Option State :=
  match s.execute with
  | .noThread => none
  | .settingRunning => some { s with status := .running, execute := .newBase }
  | .newBase => some { s with
      evbase := ok
      baseLive := ok
      eventBreak := false
      execute := .testBase }
  | .testBase => some { s with execute := if s.evbase then .newHttp else .testFree }
  | .newHttp => some { s with evhttp := ok, httpLive := ok, execute := .testHttp }
  | .testHttp => some { s with execute := if s.evhttp then .binding else .testFree }
  | .binding =>
      if s.evhttp && s.httpLive
      then some { s with execute := if ok then .settingCallback else .testFree }
      else some { s with execute := .fault }
  | .settingCallback =>
      if s.evhttp && s.httpLive then some { s with execute := .dispatching }
      else some { s with execute := .fault }
  -- `event_base_loop` clears `event_break` on entry
  | .dispatching => some { s with eventBreak := false, execute := .looping }
  | .looping => if s.eventBreak then some { s with execute := .testFree } else none
  | .testFree => some { s with execute := if s.evbase then .freeingBase else .settingStopped }
  | .freeingBase => some { s with baseLive := false, execute := .clearingBase }
  | .clearingBase => some { s with evbase := false, execute := .settingStopped }
  | .settingStopped => some { s with status := .stopped, execute := .finished }
  | .finished | .fault => none

inductive Action where
  | main (ok : Bool)
  | execute (ok : Bool)
  /-- the loop ends with no break requested: no events are left, or the dispatch fails -/
  | loopReturns
  deriving DecidableEq

/-- Every step of `Execute` uses the server object. A fault stops both threads. -/
def step (s : State) (a : Action) : Option State :=
  if s.main = .fault ∨ s.execute = .fault then none else
  match a with
  | .main ok => mainStep s ok
  | .execute ok =>
      if s.main = .deleted then
        if s.execute = .noThread ∨ s.execute = .finished then none
        else some { s with execute := .fault }
      else executeStep s ok
  | .loopReturns =>
      if s.execute = .looping ∧ s.main ≠ .deleted then some { s with execute := .testFree }
      else none

end KinectHelper.ServerMain
