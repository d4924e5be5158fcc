import KinectHelper.KinectTest.KinectDataSender

namespace KinectHelper.KinectDataSender

/-- The packet of the call of `SendKinectData` that the UI thread is in. -/
def UiPc.packet : UiPc → Option Packet
  | .testConnected p | .testPrepared p | .locking p | .deleting p | .allocating p | .copying p
  | .settingLen p | .settingType p | .settingPrepared p => some p
  | _ => none

section Step

variable {s t : State}

@[simp] theorem broadcast_log (s : State) : s.broadcast.log = s.log := by
  unfold State.broadcast
  split_ifs <;> rfl

theorem uiStep_log (h : uiStep s = some t) :
    t.log = s.log ∨ ∃ p, s.ui = .copying p ∧ t.log = s.log ++ [.put p] := by
  unfold uiStep at h
  cases hpc : s.ui <;> simp only [hpc, reduceCtorEq] at h
  case copying p =>
    cases h
    exact Or.inr ⟨p, rfl, rfl⟩
  case locking p =>
    split_ifs at h
    cases h
    exact Or.inl rfl
  all_goals
    cases h
    left
    simp

theorem senderStep_log (h : senderStep s = some t) :
    t.log = s.log ∨ ∃ c req, s.sender = .sendMake c req ∧ t.log = s.log ++ [.take req] := by
  unfold senderStep at h
  cases hpc : s.sender <;> simp only [hpc, reduceCtorEq] at h
  case sendMake c req =>
    cases h
    exact Or.inr ⟨c, req, rfl, rfl⟩
  case sendBuild c a =>
    cases hread : s.readArgs a <;> rw [hread] at h <;> cases h <;> exact Or.inl rfl
  case locking =>
    split_ifs at h
    cases h
    exact Or.inl rfl
  all_goals
    cases h
    exact Or.inl rfl

theorem environment_log (a : Action) (h : environment s a = some t) : t.log = s.log := by
  unfold environment at h
  cases a <;> simp only [reduceCtorEq] at h
  case callSend p => split_ifs at h; cases h; rfl
  case callStop => split_ifs at h; cases h; rfl
  case destroyed => split_ifs at h; cases h; rfl
  case waitReturns noError => split_ifs at h <;> cases h <;> rfl
  case addFails =>
    cases hpc : s.sender <;> simp only [hpc, reduceCtorEq] at h
    split_ifs at h
    cases h
    rfl
  all_goals
    cases hpc : s.sender <;> simp only [hpc, reduceCtorEq] at h <;> cases h <;> rfl

/-- The log grows by the packet of a copy, or by a request made. -/
theorem step_log {a : Action} (h : step s a = some t) :
    t.log = s.log ∨ (∃ p, s.ui = .copying p ∧ t.log = s.log ++ [.put p]) ∨
      ∃ c req, a = .sender ∧ s.sender = .sendMake c req ∧ t.log = s.log ++ [.take req] := by
  cases a with
  | ui =>
    rcases uiStep_log h with hlog | hput
    · exact Or.inl hlog
    · exact Or.inr (Or.inl hput)
  | sender =>
    rcases senderStep_log h with hlog | ⟨c, req, hpc, hlog⟩
    · exact Or.inl hlog
    · exact Or.inr (Or.inr ⟨c, req, rfl, hpc, hlog⟩)
  | callSend p => exact Or.inl (environment_log (.callSend p) h)
  | callStop => exact Or.inl (environment_log .callStop h)
  | setupFails => exact Or.inl (environment_log .setupFails h)
  | destroyed => exact Or.inl (environment_log .destroyed h)
  | waitReturns noError => exact Or.inl (environment_log (.waitReturns noError) h)
  | addFails => exact Or.inl (environment_log .addFails h)
  | requestDone request => exact Or.inl (environment_log (.requestDone request) h)
  | dispatchReturns => exact Or.inl (environment_log .dispatchReturns h)

theorem uiStep_packet {p : Packet} (h : uiStep s = some t) (hp : t.ui.packet = some p) :
    s.ui.packet = some p := by
  unfold uiStep at h
  cases hpc : s.ui <;> simp only [hpc, reduceCtorEq] at h
  case testConnected q =>
    cases h
    cases hc : s.bConnected <;> simp_all [UiPc.packet]
  case testPrepared q =>
    cases h
    cases hc : s.bDataPrepared <;> simp_all [UiPc.packet]
  case locking q =>
    split_ifs at h
    cases h
    exact hp
  case stopTest =>
    cases h
    cases hc : s.evhttpConnection <;> simp_all [UiPc.packet]
  all_goals
    cases h
    first | exact hp | cases hp

theorem senderStep_ui (h : senderStep s = some t) : t.ui = s.ui := by
  unfold senderStep at h
  cases hpc : s.sender <;> simp only [hpc, reduceCtorEq] at h
  case sendBuild c a => cases hread : s.readArgs a <;> rw [hread] at h <;> cases h <;> rfl
  case locking => split_ifs at h; cases h; rfl
  all_goals
    cases h
    rfl

theorem environment_packet (a : Action) {p : Packet} (h : environment s a = some t)
    (hp : t.ui.packet = some p) : s.ui.packet = some p ∨ a = .callSend p := by
  unfold environment at h
  cases a <;> simp only [reduceCtorEq] at h
  case callSend q =>
    split_ifs at h
    cases h
    cases hp
    exact Or.inr rfl
  case callStop =>
    split_ifs at h
    cases h
    cases hp
  case destroyed => split_ifs at h; cases h; exact Or.inl hp
  case waitReturns noError => split_ifs at h <;> cases h <;> exact Or.inl hp
  case addFails =>
    cases hpc : s.sender <;> simp only [hpc, reduceCtorEq] at h
    split_ifs at h
    cases h
    exact Or.inl hp
  all_goals
    cases hpc : s.sender <;> simp only [hpc, reduceCtorEq] at h <;> cases h <;> exact Or.inl hp

theorem step_packet {a : Action} {p : Packet} (h : step s a = some t)
    (hp : t.ui.packet = some p) : s.ui.packet = some p ∨ a = .callSend p := by
  cases a with
  | ui => exact Or.inl (uiStep_packet h hp)
  | sender =>
    rw [senderStep_ui h] at hp
    exact Or.inl hp
  | callSend q => exact environment_packet (.callSend q) h hp
  | callStop => exact environment_packet .callStop h hp
  | setupFails => exact environment_packet .setupFails h hp
  | destroyed => exact environment_packet .destroyed h hp
  | waitReturns noError => exact environment_packet (.waitReturns noError) h hp
  | addFails => exact environment_packet .addFails h hp
  | requestDone request => exact environment_packet (.requestDone request) h hp
  | dispatchReturns => exact environment_packet .dispatchReturns h hp

end Step

/-- Every packet in the log, and that of the call under way. -/
structure EveryPacket (P : Packet → Prop) (s : State) : Prop where
  log : ∀ p ∈ Mailbox.puts s.log, P p
  call : ∀ p, s.ui.packet = some p → P p

/-- The packets are those of the calls. -/
theorem everyPacket_step {P : Packet → Prop} {s t : State} {a : Action}
    (hI : EveryPacket P s) (ha : ∀ p, a = .callSend p → P p) (h : step s a = some t) :
    EveryPacket P t := by
  constructor
  · rcases step_log h with hlog | ⟨q, hpc, hlog⟩ | ⟨c, req, _, _, hlog⟩
    · rw [hlog]
      exact hI.log
    · rw [hlog, Mailbox.puts_append]
      intro p hp
      rcases List.mem_append.mp hp with hold | hnew
      · exact hI.log p hold
      · obtain rfl := List.mem_singleton.mp hnew
        exact hI.call p (by rw [hpc]; rfl)
    · rw [hlog, Mailbox.puts_append]
      simpa [Mailbox.puts] using hI.log
  · intro p hp
    rcases step_packet h hp with hold | hcall
    · exact hI.call p hold
    · exact ha p hcall

section Closed

/-- Past the creation of the connection. -/
def SenderPc.pastSetup : SenderPc → Bool
  | .newBase | .newConnection => false
  | _ => true

/-- The connection is gone for good. -/
structure Closed (s : State) : Prop where
  connection : s.evhttpConnection = false
  pastSetup : s.sender.pastSetup = true

/-- A bound on the steps that the sender still takes without its connection. -/
def SenderPc.rank : SenderPc → Nat
  | .testConnected => 10
  | .waiting => 9
  | .testPrepared => 8
  | .locking => 7
  | .calling | .sendBuild _ _ | .sendMake _ _ => 6
  | .sendTest _ _ | .sendRetest _ _ | .sendDispatch _ => 5
  | .clearing => 4
  | .unlocking | .clearConnected => 3
  | .loopTest => 2
  | .testConnection => 1
  | _ => 0

/-- The request that is past both tests of the connection. -/
def SenderPc.making : SenderPc → Nat
  | .sendMake _ _ => 1
  | _ => 0

/-- `n` steps nearer to the end, and no further from it. -/
def SenderPc.ahead (n : Nat) (pc pc' : SenderPc) : Bool :=
  pc'.pastSetup && decide (pc'.rank + n ≤ pc.rank) && decide (pc'.making ≤ pc.making)

variable {s t : State}

/-- What a step leaves of the sender's work. -/
structure Nearer (n : Nat) (s t : State) : Prop where
  closed : Closed t
  rank : t.sender.rank + n ≤ s.sender.rank
  making : (Mailbox.takes t.log).length + t.sender.making ≤
    (Mailbox.takes s.log).length + s.sender.making

theorem Nearer.of_move {n : Nat} {pc pc' : SenderPc} (hpc : s.sender = pc) (hpc' : t.sender = pc')
    (hconnection : t.evhttpConnection = false) (hlog : t.log = s.log)
    (hahead : pc.ahead n pc' = true) : Nearer n s t := by
  simp only [SenderPc.ahead, Bool.and_eq_true, decide_eq_true_eq] at hahead
  obtain ⟨⟨hpast, hrank⟩, hmaking⟩ := hahead
  constructor
  · exact ⟨hconnection, by rw [hpc']; exact hpast⟩
  · rw [hpc, hpc']
    exact hrank
  · rw [hlog, hpc, hpc']
    exact Nat.add_le_add_left hmaking _

theorem Closed.same (hs : Closed s) (hsender : t.sender = s.sender)
    (hconnection : t.evhttpConnection = false)
    (hlog : Mailbox.takes t.log = Mailbox.takes s.log) : Nearer 0 s t where
  closed := ⟨hconnection, by rw [hsender]; exact hs.pastSetup⟩
  rank := by rw [hsender, Nat.add_zero]
  making := by rw [hsender, hlog]

theorem Closed.senderStep (hs : Closed s) (h : senderStep s = some t) : Nearer 1 s t := by
  obtain ⟨hconnection, hpast⟩ := hs
  unfold KinectDataSender.senderStep at h
  cases hpc : s.sender <;> rw [hpc] at h hpast <;> dsimp only at h
  case newBase => cases hpast
  case newConnection => cases hpast
  case clearConnected => cases h; exact .of_move hpc rfl hconnection rfl rfl
  case loopTest => cases h; exact .of_move hpc rfl hconnection rfl rfl
  case testConnection =>
    rw [hconnection] at h
    cases h
    exact .of_move hpc rfl rfl rfl rfl
  case testConnected =>
    cases h
    cases hc : s.bConnected
    · exact .of_move hpc rfl hconnection rfl rfl
    · exact .of_move hpc rfl hconnection rfl rfl
  case waiting => cases h
  case testPrepared =>
    cases h
    cases hprep : s.bDataPrepared
    · exact .of_move hpc rfl hconnection rfl rfl
    · exact .of_move hpc rfl hconnection rfl rfl
  case locking =>
    split_ifs at h
    cases h
    exact .of_move hpc rfl hconnection rfl rfl
  case calling => cases h; exact .of_move hpc rfl hconnection rfl rfl
  case sendTest c a =>
    rw [hconnection] at h
    cases h
    exact .of_move hpc rfl rfl rfl (by cases c <;> rfl)
  case sendBuild c a =>
    cases hread : s.readArgs a <;> rw [hread] at h <;> cases h
    · exact .of_move hpc rfl hconnection rfl rfl
    · exact .of_move hpc rfl hconnection rfl rfl
  case sendRetest c req =>
    rw [hconnection] at h
    cases h
    exact .of_move hpc rfl rfl rfl (by cases c <;> rfl)
  case sendMake c req =>
    cases h
    constructor
    · exact ⟨hconnection, rfl⟩
    · rw [hpc]
      exact Nat.le_refl 6
    · rw [hpc, Mailbox.takes_append, List.length_append]
      exact Nat.le_refl _
  case sendDispatch c => cases h
  case clearing => cases h; exact .of_move hpc rfl hconnection rfl rfl
  case unlocking => cases h; exact .of_move hpc rfl hconnection rfl rfl
  case finished => cases h
  case fault => cases h

/-- A broadcast wakes the sender. -/
theorem Closed.broadcast (hs : Closed s) (ui : UiPc) :
    Nearer 0 s { s.broadcast with ui := ui } := by
  unfold State.broadcast
  split_ifs with hpc
  · exact .of_move hpc rfl hs.connection rfl rfl
  · exact hs.same rfl hs.connection rfl

theorem Closed.uiStep (hs : Closed s) (h : uiStep s = some t) : Nearer 0 s t := by
  unfold KinectDataSender.uiStep at h
  cases hpc : s.ui <;> rw [hpc] at h <;> dsimp only at h
  case idle => cases h
  case broadcasting => cases h; exact hs.broadcast .unlocking
  case stopBroadcast => cases h; exact hs.broadcast .idle
  case locking p =>
    split_ifs at h
    cases h
    exact hs.same rfl hs.connection rfl
  case copying p =>
    cases h
    have hlog : Mailbox.takes (s.log ++ [.put p]) = Mailbox.takes s.log := by
      rw [Mailbox.takes_append]
      exact List.append_nil _
    exact hs.same rfl hs.connection hlog
  case stopFree => cases h; exact hs.same rfl rfl rfl
  all_goals
    cases h
    exact hs.same rfl hs.connection rfl

theorem Closed.environment (hs : Closed s) (a : Action) (h : environment s a = some t) :
    Nearer 0 s t := by
  obtain ⟨hconnection, hpast⟩ := id hs
  unfold KinectDataSender.environment at h
  cases a <;> dsimp only at h
  case callSend p => split_ifs at h; cases h; exact hs.same rfl hconnection rfl
  case callStop => split_ifs at h; cases h; exact hs.same rfl hconnection rfl
  case ui => cases h
  case sender => cases h
  case setupFails =>
    cases hpc : s.sender <;> simp only [hpc, reduceCtorEq] at h hpast
    · cases hpast
    · cases hpast
  case destroyed =>
    split_ifs at h with hpc
    cases h
    exact .of_move hpc rfl hconnection rfl rfl
  case waitReturns noError =>
    split_ifs at h with hpc
    · cases h
      exact .of_move hpc rfl hconnection rfl rfl
    · cases h
      exact .of_move hpc rfl hconnection rfl rfl
  case addFails =>
    cases hpc : s.sender <;> simp only [hpc, reduceCtorEq] at h
    case sendBuild c a =>
      split_ifs at h
      cases h
      exact .of_move hpc rfl hconnection rfl (by cases c <;> rfl)
  case requestDone request =>
    cases hpc : s.sender <;> simp only [hpc, reduceCtorEq] at h
    case sendDispatch c => cases h; exact .of_move hpc rfl hconnection rfl rfl
  case dispatchReturns =>
    cases hpc : s.sender <;> simp only [hpc, reduceCtorEq] at h
    case sendDispatch c => cases h; exact .of_move hpc rfl hconnection rfl (by cases c <;> rfl)

theorem Closed.step (hs : Closed s) {a : Action} (h : step s a = some t) :
    Nearer (if a = .sender then 1 else 0) s t := by
  cases a with
  | ui => exact hs.uiStep h
  | sender => exact hs.senderStep h
  | callSend p => exact hs.environment (.callSend p) h
  | callStop => exact hs.environment .callStop h
  | setupFails => exact hs.environment .setupFails h
  | destroyed => exact hs.environment .destroyed h
  | waitReturns noError => exact hs.environment (.waitReturns noError) h
  | addFails => exact hs.environment .addFails h
  | requestDone request => exact hs.environment (.requestDone request) h
  | dispatchReturns => exact hs.environment .dispatchReturns h

theorem Closed.exec (as : List Action) (s t : State) (hs : Closed s)
    (h : exec KinectDataSender.step s as = some t) : Nearer (as.count .sender) s t := by
  induction as generalizing s with
  | nil =>
    cases h
    exact hs.same rfl hs.connection rfl
  | cons a as ih =>
    rw [exec_cons] at h
    obtain ⟨u, hu, hrest⟩ := Option.bind_eq_some_iff.mp h
    have hfirst := hs.step hu
    have hlast := ih u hfirst.closed hrest
    refine ⟨hlast.closed, ?_, hlast.making.trans hfirst.making⟩
    have hcount : (a :: as).count .sender = as.count .sender + if a = .sender then 1 else 0 := by
      rw [List.count_cons]
      simp
    have h1 := hlast.rank
    have h2 := hfirst.rank
    omega

end Closed

/-- `Stop` takes effect once the sender has made its connection: after `CloseHTTPConnection` the
sender takes at most ten more steps, whatever the other calls and events, and makes at most the one
request that was past both tests of the connection. -/
theorem stopped_sender_bounded (s closed t : State) (as : List Action)
    (hstop : s.ui = .stopFree) (hpast : s.sender.pastSetup = true)
    (hfree : step s .ui = some closed) (hrun : exec step closed as = some t) :
    as.count .sender ≤ 10 ∧ t.evhttpConnection = false ∧
      (Mailbox.takes t.log).length ≤ (Mailbox.takes s.log).length + s.sender.making := by
  rw [step, uiStep, hstop] at hfree
  have hclosed : Closed closed := by
    rw [← Option.some.inj hfree]
    exact ⟨rfl, hpast⟩
  have hsender : closed.sender = s.sender := by rw [← Option.some.inj hfree]
  have hlog : closed.log = s.log := by rw [← Option.some.inj hfree]
  have hbound : s.sender.rank ≤ 10 := by cases s.sender <;> simp [SenderPc.rank]
  obtain ⟨hend, hrank, hmaking⟩ := Closed.exec as closed t hclosed hrun
  rw [hsender] at hrank
  rw [hsender, hlog] at hmaking
  exact ⟨by omega, hend.connection, by omega⟩

/-- `Stop` while a frame is between the second test of the connection and its request. -/
def stopRun : List Action :=
  connectRun ++ sendRun ⟨[1, 2, 3], .frameColor⟩ ++ List.replicate 6 .sender ++ [.callStop, .ui]

def endRun : List Action := .sender :: .dispatchReturns :: List.replicate 4 .sender

theorem request_made_after_stop :
    ∃ s closed t, exec step (start false false 0 .kinectDataNone) stopRun = some s ∧
      step s .ui = some closed ∧
      exec step closed endRun = some t ∧
      t.sender = .finished ∧ (Mailbox.takes t.log).length = (Mailbox.takes s.log).length + 1 ∧
      endRun.count .sender ≤ 10 ∧ t.evhttpConnection = false ∧
      (Mailbox.takes t.log).length ≤ (Mailbox.takes s.log).length + s.sender.making :=
  ⟨_, _, _, rfl, rfl, rfl, rfl, rfl, stopped_sender_bounded _ _ _ endRun rfl rfl rfl rfl⟩

end KinectHelper.KinectDataSender
