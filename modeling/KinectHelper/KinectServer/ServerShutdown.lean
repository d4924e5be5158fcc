import KinectHelper.KinectServer.ServerMain

namespace KinectHelper.ServerMain

/-- `Stop` has returned. -/
def MainPc.stopReturned : MainPc → Bool
  | .polling | .deleting | .deleted => true
  | _ => false

/-- Of a thread that has been started: not yet in the loop of `event_base_dispatch`, and not
on a way past it. -/
def ExecutePc.beforeLoop : ExecutePc → Bool
  | .settingRunning | .newBase | .testBase | .newHttp | .testHttp | .binding | .settingCallback
  | .dispatching => true
  | _ => false

/-- `Execute` accesses the server no more, or never does. -/
def ExecutePc.done : ExecutePc → Bool
  | .noThread | .finished => true
  | _ => false

/-- `Execute` has set the status, and not set it back. -/
def ExecutePc.running : ExecutePc → Bool
  | .noThread | .settingRunning | .finished => false
  | _ => true

/-- (a) A deleted server is no more used by `Execute`; (b) when `Stop` has returned, `Execute`
is past its loop or a break that can still end the loop is requested. -/
def SafeShutdown (s : State) : Prop :=
  (s.main = .deleted → s.execute.done = true) ∧
  ¬ (s.main.stopReturned = true ∧
    (s.execute.beforeLoop = true ∨ (s.execute = .looping ∧ s.eventBreak = false)))
  deriving Decidable

/-- `Stop` finds `_evbase` NULL, or requests the break, only when `Execute` has come to its loop
or past it. -/
def StopInTime (s : State) : Action → Prop
  | .main _ =>
      (s.main = .testEvbase ∧ s.evbase = false) ∨ s.main = .requestingBreak →
        s.execute.beforeLoop = false
  | _ => True

instance StopInTime.decidable (s : State) : ∀ a, Decidable (StopInTime s a)
  | .main _ => inferInstanceAs (Decidable (_ → _))
  | .execute _ => isTrue trivial
  | .loopReturns => isTrue trivial

/-- `Execute` has made the base, and not come to its end. -/
def ExecutePc.hasBase : ExecutePc → Bool
  | .newHttp | .testHttp | .binding | .settingCallback | .dispatching | .looping => true
  | _ => false

/-- What a returned `Stop` relies on. -/
def Ending (s : State) : Prop :=
  s.execute.beforeLoop = false ∧ (s.execute = .looping → s.eventBreak = true)

structure Inv (s : State) : Prop where
  base : s.execute.hasBase = true → s.evbase = true
  status : s.execute.running = true → s.status = .running
  returned : s.main.stopReturned = true → Ending s
  deleting : s.main = .deleting ∨ s.main = .deleted → s.execute.done = true

theorem Inv.safe {s : State} (h : Inv s) : SafeShutdown s := by
  refine ⟨fun hdeleted => h.deleting (Or.inr hdeleted), ?_⟩
  intro ⟨hreturned, hbad⟩
  obtain ⟨hpast, hbreak⟩ := h.returned hreturned
  rcases hbad with hbefore | ⟨hloop, hnone⟩
  · rw [hpast] at hbefore
    cases hbefore
  · rw [hbreak hloop] at hnone
    cases hnone

section Steps

variable {s t : State}

/-- A step of `main` that leaves the base and the status alone. -/
theorem Inv.move_main (h : Inv s) (pc : MainPc) (evhttp httpLive : Bool)
    (hreturned : pc.stopReturned = true → Ending s)
    (hdeleting : pc = .deleting ∨ pc = .deleted → s.execute.done = true) :
    Inv { s with evhttp := evhttp, httpLive := httpLive, main := pc } where
  base := h.base
  status := h.status
  returned := hreturned
  deleting := hdeleting

/-- `Execute` past its way to the loop and not in it, or never started. -/
theorem ending_of_not_looping (hpast : s.execute.beforeLoop = false)
    (hloop : s.execute ≠ .looping) : Ending s :=
  ⟨hpast, fun h => absurd h hloop⟩

theorem ExecutePc.done_of_idle (pc : ExecutePc) (hpast : pc.beforeLoop = false)
    (hidle : pc.running = false) : pc.done = true := by
  cases pc with
  | noThread => rfl
  | finished => rfl
  | settingRunning => cases hpast
  | _ => cases hidle

theorem ExecutePc.idle_of_done (pc : ExecutePc) (hdone : pc.done = true) :
    pc = .noThread ∨ pc = .finished := by
  cases pc with
  | noThread => exact Or.inl rfl
  | finished => exact Or.inr rfl
  | _ => cases hdone

/-- When the poll sees `Stopped` after `Stop`, the thread is done. -/
theorem Inv.done_of_stopped (h : Inv s) (hreturned : s.main.stopReturned = true)
    (hstopped : s.status = .stopped) : s.execute.done = true := by
  apply ExecutePc.done_of_idle _ (h.returned hreturned).1
  by_contra hrun
  rw [h.status (by simpa using hrun)] at hstopped
  cases hstopped

/-- A step happens before any fault. -/
theorem sound_of_step {a : Action} (hstep : step s a = some t) :
    ¬ (s.main = .fault ∨ s.execute = .fault) := by
  intro hfault
  unfold step at hstep
  rw [if_pos hfault] at hstep
  cases hstep

theorem step_main {ok : Bool} (hstep : step s (.main ok) = some t) : mainStep s ok = some t := by
  have hsound := sound_of_step hstep
  rwa [step, if_neg hsound] at hstep

theorem step_execute {ok : Bool} (hstep : step s (.execute ok) = some t)
    (hlive : s.main = .deleted → s.execute.done = true) : executeStep s ok = some t := by
  have hsound := sound_of_step hstep
  rw [step, if_neg hsound] at hstep
  by_cases hdeleted : s.main = .deleted
  · rw [if_pos hdeleted, if_pos (ExecutePc.idle_of_done s.execute (hlive hdeleted))] at hstep
    cases hstep
  · rwa [if_neg hdeleted] at hstep

theorem step_loopReturns (hstep : step s .loopReturns = some t) :
    s.execute = .looping ∧ t = { s with execute := .testFree } := by
  have hsound := sound_of_step hstep
  rw [step, if_neg hsound] at hstep
  split_ifs at hstep with hloop
  cases hstep
  exact ⟨hloop.1, rfl⟩

theorem inv_mainStep (h : Inv s) (ok : Bool) (htime : StopInTime s (.main ok))
    (hstep : mainStep s ok = some t) : Inv t := by
  unfold mainStep at hstep
  cases hpc : s.main <;> simp only [hpc] at hstep
  case starting =>
    cases hstep
    cases ok with
    | false => exact ⟨nofun, nofun, nofun, nofun⟩
    | true => exact ⟨nofun, nofun, nofun, nofun⟩
  case testEvbase =>
    cases hstep
    split_ifs with hbase
    · exact h.move_main .testEvhttp s.evhttp s.httpLive nofun nofun
    · have hnull : s.evbase = false := by simpa using hbase
      have hpast := htime (Or.inl ⟨hpc, hnull⟩)
      apply h.move_main .polling s.evhttp s.httpLive
      · intro _
        apply ending_of_not_looping hpast
        intro hloop
        exact hbase (h.base (by rw [hloop]; rfl))
      · nofun
  case testEvhttp =>
    cases hstep
    split_ifs
    · exact h.move_main .freeingEvhttp s.evhttp s.httpLive nofun nofun
    · exact h.move_main .requestingBreak s.evhttp s.httpLive nofun nofun
  case freeingEvhttp =>
    split_ifs at hstep
    · cases hstep
      exact h.move_main .clearingEvhttp s.evhttp false nofun nofun
    · cases hstep
      exact h.move_main .fault s.evhttp s.httpLive nofun nofun
  case clearingEvhttp =>
    cases hstep
    exact h.move_main .requestingBreak false s.httpLive nofun nofun
  case requestingBreak =>
    have hpast := htime (Or.inr hpc)
    split_ifs at hstep with hbase hlive
    · cases hstep
      apply h.move_main .polling s.evhttp s.httpLive
      · intro _
        apply ending_of_not_looping hpast
        intro hloop
        have hset := h.base (by rw [hloop]; rfl)
        rw [hset] at hbase
        cases hbase
      · nofun
    · cases hstep
      exact
        { base := h.base
          status := h.status
          returned := fun _ => ⟨hpast, fun _ => rfl⟩
          deleting := nofun }
    · cases hstep
      exact h.move_main .fault s.evhttp s.httpLive nofun nofun
  case polling =>
    have hreturned := h.returned (by rw [hpc]; rfl)
    cases hstep
    split_ifs with hstopped
    · have hdone := h.done_of_stopped (by rw [hpc]; rfl) hstopped
      exact h.move_main .deleting s.evhttp s.httpLive (fun _ => hreturned) (fun _ => hdone)
    · exact h.move_main .polling s.evhttp s.httpLive (fun _ => hreturned) nofun
  case deleting =>
    cases hstep
    exact h.move_main .deleted s.evhttp s.httpLive (fun _ => h.returned (by rw [hpc]; rfl))
      (fun _ => h.deleting (Or.inl hpc))
  case deleted => cases hstep
  case fault => cases hstep

/-- A step of `Execute`, which is not done. -/
theorem Inv.move_execute (h : Inv s) {pc : ExecutePc} (hpc : s.execute = pc)
    (hdone : pc.done = false) (hmain : t.main = s.main)
    (hbase : t.execute.hasBase = true → t.evbase = true)
    (hstatus : t.execute.running = true → t.status = .running)
    (hpast : pc.beforeLoop = false → Ending t) : Inv t where
  base := hbase
  status := hstatus
  returned := by
    intro hreturned
    rw [hmain] at hreturned
    exact hpast (hpc ▸ (h.returned hreturned).1)
  deleting := by
    intro hdeleting
    rw [hmain] at hdeleting
    have hend := h.deleting hdeleting
    rw [hpc, hdone] at hend
    cases hend

theorem inv_executeStep (h : Inv s) (ok : Bool) (hstep : executeStep s ok = some t) : Inv t := by
  have hbase := h.base
  have hstatus := h.status
  unfold executeStep at hstep
  cases hpc : s.execute <;> simp only [hpc] at hstep <;> rw [hpc] at hbase hstatus
  case noThread => cases hstep
  case settingRunning =>
    cases hstep
    exact h.move_execute hpc rfl rfl nofun (fun _ => rfl) nofun
  case newBase =>
    cases hstep
    exact h.move_execute hpc rfl rfl nofun (fun _ => hstatus rfl) nofun
  case testBase =>
    cases hstep
    split_ifs with hset
    · exact h.move_execute hpc rfl rfl (fun _ => hset) (fun _ => hstatus rfl) nofun
    · exact h.move_execute hpc rfl rfl nofun (fun _ => hstatus rfl) nofun
  case newHttp =>
    cases hstep
    exact h.move_execute hpc rfl rfl (fun _ => hbase rfl) (fun _ => hstatus rfl) nofun
  case testHttp =>
    cases hstep
    split_ifs
    · exact h.move_execute hpc rfl rfl (fun _ => hbase rfl) (fun _ => hstatus rfl) nofun
    · exact h.move_execute hpc rfl rfl nofun (fun _ => hstatus rfl) nofun
  case binding =>
    split_ifs at hstep
    · cases hstep
      exact h.move_execute hpc rfl rfl (fun _ => hbase rfl) (fun _ => hstatus rfl) nofun
    · cases hstep
      exact h.move_execute hpc rfl rfl nofun (fun _ => hstatus rfl) nofun
    · cases hstep
      exact h.move_execute hpc rfl rfl nofun (fun _ => hstatus rfl) nofun
  case settingCallback =>
    split_ifs at hstep
    · cases hstep
      exact h.move_execute hpc rfl rfl (fun _ => hbase rfl) (fun _ => hstatus rfl) nofun
    · cases hstep
      exact h.move_execute hpc rfl rfl nofun (fun _ => hstatus rfl) nofun
  case dispatching =>
    cases hstep
    exact h.move_execute hpc rfl rfl (fun _ => hbase rfl) (fun _ => hstatus rfl) nofun
  case looping =>
    split_ifs at hstep
    cases hstep
    exact h.move_execute hpc rfl rfl nofun (fun _ => hstatus rfl) (fun _ => ⟨rfl, nofun⟩)
  case testFree =>
    cases hstep
    split_ifs
    · exact h.move_execute hpc rfl rfl nofun (fun _ => hstatus rfl) (fun _ => ⟨rfl, nofun⟩)
    · exact h.move_execute hpc rfl rfl nofun (fun _ => hstatus rfl) (fun _ => ⟨rfl, nofun⟩)
  case freeingBase =>
    cases hstep
    exact h.move_execute hpc rfl rfl nofun (fun _ => hstatus rfl) (fun _ => ⟨rfl, nofun⟩)
  case clearingBase =>
    cases hstep
    exact h.move_execute hpc rfl rfl nofun (fun _ => hstatus rfl) (fun _ => ⟨rfl, nofun⟩)
  case settingStopped =>
    cases hstep
    exact h.move_execute hpc rfl rfl nofun nofun (fun _ => ⟨rfl, nofun⟩)
  case finished => cases hstep
  case fault => cases hstep

end Steps

theorem inv_step (s : State) (a : Action) (t : State) (h : Inv s) (htime : StopInTime s a)
    (hstep : step s a = some t) : Inv t := by
  cases a with
  | main ok => exact inv_mainStep h ok htime (step_main hstep)
  | execute ok =>
    exact inv_executeStep h ok (step_execute hstep fun hdeleted => h.deleting (Or.inr hdeleted))
  | loopReturns =>
    obtain ⟨hpc, ht⟩ := step_loopReturns hstep
    subst ht
    exact h.move_execute hpc rfl rfl nofun (fun _ => h.status (by rw [hpc]; rfl))
      (fun _ => ⟨rfl, nofun⟩)

theorem inv_start : Inv start where
  base := nofun
  status := nofun
  returned := nofun
  deleting := nofun

/-- When `Stop` comes in time, the server shuts down safely. -/
theorem timely_stop_safe (as : List Action) (s : State)
    (hguard : Guarded step StopInTime start as) (hrun : exec step start as = some s) :
    SafeShutdown s :=
  (exec_invariant inv_step as start s inv_start hguard hrun).safe

/-- The condition is exact: the first step of `main` against it ends in an unsafe state. -/
theorem untimely_stop_unsafe (s t : State) (ok : Bool) (huntimely : ¬ StopInTime s (.main ok))
    (hstep : step s (.main ok) = some t) (hsound : t.main ≠ .fault) : ¬ SafeShutdown t := by
  have hmainStep := step_main hstep
  simp only [StopInTime, not_forall, Bool.not_eq_false] at huntimely
  obtain ⟨hstop, hbefore⟩ := huntimely
  have hunsafe : ∀ u : State, u.main = .polling → u.execute = s.execute → ¬ SafeShutdown u := by
    intro u hmain hexecute hsafe
    exact hsafe.2 ⟨by rw [hmain]; rfl, Or.inl (by rw [hexecute]; exact hbefore)⟩
  unfold mainStep at hmainStep
  rcases hstop with ⟨hpc, hnull⟩ | hpc
  · rw [hpc] at hmainStep
    simp only [hnull] at hmainStep
    cases hmainStep
    exact hunsafe _ rfl rfl
  · rw [hpc] at hmainStep
    dsimp only at hmainStep
    split_ifs at hmainStep
    · cases hmainStep
      exact hunsafe _ rfl rfl
    · cases hmainStep
      exact hunsafe _ rfl rfl
    · cases hmainStep
      exact absurd rfl hsound

/-- The server serves before it is stopped. -/
def servedRun : List Action :=
  [.main true, .execute true, .execute true, .execute true, .execute true, .execute true,
   .execute true, .execute true, .execute true, .main true, .main true, .main true, .main true,
   .main true, .execute true, .execute true, .main true, .execute true, .execute true,
   .execute true, .main true, .main true]

theorem served_run_safe : ∃ s, exec step start servedRun = some s ∧ s.main = .deleted ∧
    SafeShutdown s := by
  have hrun : ∃ s, exec step start servedRun = some s ∧ s.main = .deleted := by decide
  obtain ⟨s, hs, hdeleted⟩ := hrun
  exact ⟨s, hs, hdeleted, timely_stop_safe servedRun s (by decide) hs⟩

/-- `Stop` at once: `main` sees the initial status and deletes the server before `Execute` has
begun. -/
def stopBeforeExecute : List Action := [.main true, .main true, .main true, .main true]

/-- `Stop` requests its break while `Execute` is still on its way to `event_base_dispatch`, which
clears it. -/
def stopBeforeDispatch : List Action :=
  [.main true, .execute true, .execute true, .main true, .main true, .main true, .execute true,
   .execute true, .execute true, .execute true, .execute true, .execute true]

/-- Either part of a safe shutdown fails. -/
theorem early_stop_unsafe :
    (∃ s, exec step start stopBeforeExecute = some s ∧ ¬ SafeShutdown s ∧
      s.main = .deleted ∧ s.execute = .settingRunning) ∧
    ∃ s, exec step start stopBeforeDispatch = some s ∧ ¬ SafeShutdown s ∧
      s.main = .polling ∧ s.execute = .looping ∧ s.eventBreak = false := by
  decide

end KinectHelper.ServerMain
