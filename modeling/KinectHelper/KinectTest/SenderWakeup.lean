import KinectHelper.KinectTest.KinectDataSender

namespace KinectHelper.KinectDataSender

/-- A prepared packet, a sender blocked in `Wait`, and no call that could wake it. -/
def Stuck (s : State) : Prop :=
  s.bDataPrepared = true ∧ s.ui = .idle ∧ s.sender = .waiting
  deriving Decidable

/-- Not a step of `Stop`, nor a `Wait` that returns without a broadcast. -/
def BeforeStop (a : Action) : Prop :=
  a ≠ .callStop ∧ ∀ noError, a ≠ .waitReturns noError
  deriving Decidable

/-- A broadcast of `SendKinectData` finds the sender thread in `Wait`. -/
def Heard (s : State) (a : Action) : Prop :=
  a = .ui → s.ui = .broadcasting → s.sender = .waiting
  deriving Decidable

/-- Between the broadcast and the end of the request. -/
def SenderPc.handling : SenderPc → Bool
  | .testPrepared | .locking | .calling | .sendTest .slot _ | .sendBuild .slot _ | .fault
  | .sendRetest .slot _ | .sendMake .slot _ | .sendDispatch .slot | .clearing => true
  | _ => false

/-- A prepared packet is about to be announced, or being handled. -/
def Attended (s : State) : Prop :=
  s.bDataPrepared = true → s.ui = .broadcasting ∨ s.sender.handling = true

section Steps

variable {s t : State}

theorem Attended.not_stuck (h : Attended s) : ¬ Stuck s := by
  intro ⟨hprep, hidle, hwait⟩
  rcases h hprep with hb | hh
  · rw [hidle] at hb
    cases hb
  · rw [hwait] at hh
    cases hh

theorem attended_broadcast (hwait : s.sender = .waiting) (u : UiPc) :
    Attended { s.broadcast with ui := u } := by
  rw [State.broadcast, if_pos hwait]
  exact fun _ => Or.inr rfl

theorem Attended.move_ui (hA : Attended s) (hpc : s.ui ≠ .broadcasting)
    (hsender : t.sender = s.sender)
    (hprep : t.bDataPrepared = true → s.bDataPrepared = true ∨ t.ui = .broadcasting) :
    Attended t := by
  intro ht
  rcases hprep ht with hs | hb
  · rcases hA hs with hb | hh
    · exact absurd hb hpc
    · exact Or.inr (by rw [hsender]; exact hh)
  · exact Or.inl hb

theorem attended_uiStep (hA : Attended s) (hheard : Heard s .ui) (h : uiStep s = some t) :
    Attended t := by
  unfold uiStep at h
  cases hpc : s.ui <;> simp only [hpc] at h
  case broadcasting =>
    cases h
    exact attended_broadcast (hheard rfl hpc) .unlocking
  case stopBroadcast =>
    cases h
    by_cases hwait : s.sender = .waiting
    · exact attended_broadcast hwait .idle
    · rw [State.broadcast, if_neg hwait]
      exact hA.move_ui (by rw [hpc]; nofun) rfl Or.inl
  case settingPrepared p =>
    cases h
    exact hA.move_ui (by rw [hpc]; nofun) rfl (fun _ => Or.inr rfl)
  case stopClear =>
    cases h
    exact nofun
  all_goals
    try split_ifs at h
    all_goals
      cases h
      try exact hA.move_ui (by rw [hpc]; nofun) rfl Or.inl

theorem Attended.move_sender (hA : Attended s) (hui : t.ui = s.ui)
    (hprep : t.bDataPrepared = s.bDataPrepared)
    (hhandling : s.sender.handling = true → t.bDataPrepared = true → t.sender.handling = true) :
    Attended t := by
  intro ht
  rcases hA (hprep ▸ ht) with hb | hh
  · exact Or.inl (hui ▸ hb)
  · exact Or.inr (hhandling hh ht)

theorem Attended.move_send (hA : Attended s) {pc : SenderPc} (hpc : s.sender = pc) (c : Call)
    (hui : t.ui = s.ui) (hprep : t.bDataPrepared = s.bDataPrepared)
    (hconnect : c = .connect → pc.handling = false)
    (hslot : c = .slot → t.sender.handling = true) : Attended t := by
  refine hA.move_sender hui hprep ?_
  intro hh _
  cases c with
  | connect =>
    have hnot := hconnect rfl
    rw [hpc, hnot] at hh
    cases hh
  | slot => exact hslot rfl

theorem attended_senderStep (hA : Attended s) (h : senderStep s = some t) : Attended t := by
  unfold senderStep at h
  cases hpc : s.sender <;> simp only [hpc] at h
  case clearing =>
    cases h
    exact nofun
  case testPrepared =>
    cases h
    refine hA.move_sender rfl rfl ?_
    intro _ hprep
    simp only at hprep
    rw [if_pos hprep]
    rfl
  case locking =>
    split_ifs at h
    cases h
    exact hA.move_sender rfl rfl (fun _ _ => rfl)
  case calling =>
    cases h
    exact hA.move_sender rfl rfl (fun _ _ => rfl)
  case sendTest c a =>
    split_ifs at h
    all_goals
      cases h
      exact hA.move_send hpc c rfl rfl (by intro h; subst h; rfl) (by intro h; subst h; rfl)
  case sendBuild c a =>
    split at h
    · cases h
      exact hA.move_sender rfl rfl (fun _ _ => rfl)
    · cases h
      exact hA.move_send hpc c rfl rfl (by intro h; subst h; rfl) (by intro h; subst h; rfl)
  case sendRetest c req =>
    split_ifs at h
    all_goals
      cases h
      exact hA.move_send hpc c rfl rfl (by intro h; subst h; rfl) (by intro h; subst h; rfl)
  case sendMake c req =>
    cases h
    exact hA.move_send hpc c rfl rfl (by intro h; subst h; rfl) (by intro h; subst h; rfl)
  all_goals
    -- here the sender was not handling a packet
    try split_ifs at h
    all_goals
      cases h
      try exact hA.move_sender rfl rfl (by rw [hpc]; nofun)

theorem attended_environment (hA : Attended s) (a : Action) (hstop : BeforeStop a)
    (h : environment s a = some t) : Attended t := by
  cases a <;> simp only [environment] at h
  case callSend p =>
    split_ifs at h with hpc
    cases h
    exact hA.move_ui (by rw [hpc]; nofun) rfl Or.inl
  case callStop => exact absurd rfl hstop.1
  case waitReturns noError => exact absurd rfl (hstop.2 noError)
  case destroyed =>
    split_ifs at h with hpc
    cases h
    exact hA.move_sender rfl rfl (by rw [hpc]; nofun)
  case ui => cases h
  case sender => cases h
  case setupFails =>
    split at h
    all_goals
      cases h
      try exact hA.move_sender rfl rfl (by simp [*, SenderPc.handling])
  case addFails =>
    cases hpc : s.sender <;> simp only [hpc, reduceCtorEq] at h
    case sendBuild c a =>
      split_ifs at h
      cases h
      exact hA.move_send hpc c rfl rfl (by intro h; subst h; rfl) (by intro h; subst h; rfl)
  case requestDone request =>
    cases hpc : s.sender <;> simp only [hpc, reduceCtorEq] at h
    case sendDispatch c =>
      cases h
      exact hA.move_sender rfl rfl (fun hh _ => hpc ▸ hh)
  case dispatchReturns =>
    cases hpc : s.sender <;> simp only [hpc, reduceCtorEq] at h
    case sendDispatch c =>
      cases h
      exact hA.move_send hpc c rfl rfl (by intro h; subst h; rfl) (by intro h; subst h; rfl)

end Steps

theorem attended_step (s : State) (a : Action) (t : State) (hA : Attended s)
    (hguard : BeforeStop a ∧ Heard s a) (h : step s a = some t) : Attended t := by
  cases a with
  | ui => exact attended_uiStep hA hguard.2 h
  | sender => exact attended_senderStep hA h
  | callSend p => exact attended_environment hA (.callSend p) hguard.1 h
  | callStop => exact attended_environment hA .callStop hguard.1 h
  | setupFails => exact attended_environment hA .setupFails hguard.1 h
  | destroyed => exact attended_environment hA .destroyed hguard.1 h
  | waitReturns noError => exact attended_environment hA (.waitReturns noError) hguard.1 h
  | addFails => exact attended_environment hA .addFails hguard.1 h
  | requestDone request => exact attended_environment hA (.requestDone request) hguard.1 h
  | dispatchReturns => exact attended_environment hA .dispatchReturns hguard.1 h

theorem attended_start (bConnected evhttpConnection : Bool) (dataLen : Nat)
    (dataType : KinectDataType) :
    Attended (start bConnected evhttpConnection dataLen dataType) := by
  intro hprep
  cases hprep

/-- Before `Stop`, a run whose broadcasts all find the sender in `Wait` never gets stuck. -/
theorem heard_run_not_stuck (bConnected evhttpConnection : Bool) (dataLen : Nat)
    (dataType : KinectDataType) (as : List Action) (s : State)
    (hguard : Guarded step (fun s a => BeforeStop a ∧ Heard s a)
      (start bConnected evhttpConnection dataLen dataType) as)
    (hrun : exec step (start bConnected evhttpConnection dataLen dataType) as = some s) :
    ¬ Stuck s :=
  (exec_invariant attended_step as _ s
    (attended_start bConnected evhttpConnection dataLen dataType) hguard hrun).not_stuck

theorem heard_frame_not_stuck :
    ∃ s, exec step (start false false 0 .kinectDataNone)
        (connectRun ++ sendRun ⟨[1, 2, 3], .frameColor⟩ ++ sentRun) = some s ∧
      s.sender = .waiting ∧ ¬ Stuck s :=
  ⟨_, rfl, rfl, heard_run_not_stuck false false 0 .kinectDataNone
    (connectRun ++ sendRun ⟨[1, 2, 3], .frameColor⟩ ++ sentRun) _ (by decide) rfl⟩

/-- `SendKinectData` right after the connection's answer, before the sender waits. -/
theorem broadcast_before_wait_stuck :
    ∃ as s, (∀ a ∈ as, BeforeStop a) ∧
      exec step (start false false 0 .kinectDataNone) as = some s ∧ Stuck s := by
  refine ⟨connectRun.take 11 ++ sendRun ⟨[1, 2, 3], .frameColor⟩ ++ connectRun.drop 11,
    _, ?_, rfl, ?_⟩
  · decide
  · decide

end KinectHelper.KinectDataSender
