import KinectHelper.KinectTest.KinectTestMainFrame

namespace KinectHelper.KinectTestMainFrame

/-- No copy of `OnSkeletonFrame` has read from NULL. -/
def NoNullCopied (s : State) : Prop := none ∉ s.copied
  deriving Decidable

/-- When `StopThread` has ended a running thread and calls `wxYield`, no skeleton event is
pending. -/
def Drained (s : State) (a : Action) : Prop := a = .entryReturns → .skeleton ∉ s.pending
  deriving Decidable

namespace Grabber

theorem grabSkeletonFrame_ne_none (g : Grabber) :
    g.grabSkeletonFrame ≠ none ↔
      g.isStarted = true ∧ g.nuiInstance = true ∧ g.newSkeletonFrameEvent = true := by
  unfold grabSkeletonFrame
  cases g.isStarted <;> cases g.nuiInstance <;> cases g.newSkeletonFrameEvent <;> simp

theorem grabSkeletonFrame_of_reads {g : Grabber} (h : g.reads = true) :
    g.grabSkeletonFrame ≠ none := by
  rw [grabSkeletonFrame_ne_none]
  simp only [reads, Bool.and_eq_true] at h
  exact ⟨h.1.1.1.1, h.2, h.1.2⟩

@[simp] theorem readFrame_address (g : Grabber) (e : FrameEvent) (b : Block) :
    (g.readFrame e b).address = g.address := by
  unfold readFrame
  split_ifs <;> rfl

@[simp] theorem readFrame_isStarted (g : Grabber) (e : FrameEvent) (b : Block) :
    (g.readFrame e b).isStarted = g.isStarted := by
  unfold readFrame
  split_ifs <;> rfl

theorem reads_readFrame (g : Grabber) (e : FrameEvent) (b : Block) :
    (g.readFrame e b).reads = g.reads := by
  unfold readFrame
  split_ifs <;> rfl

@[simp] theorem start_address (g : Grabber) (r : StartResults) :
    (g.start r).1.address = g.address := by
  unfold start
  split_ifs <;> rfl

end Grabber

theorem State.live_eq_some {s : State} {this : Nat} {g : Grabber} (h : s.live this = some g) :
    s.grabber = some g ∧ g.address = this := by
  simpa [State.live, Option.filter_eq_some_iff] using h

/-- A grabber that `StopThread` has gone through: deleted, or without a running thread. -/
def Stopped (s : State) (this : Nat) : Prop :=
  this < s.allocated ∧ ∀ g, s.grabber = some g → g.address = this → g.isStarted = false

/-- What is known at a position of the UI thread. -/
def Pc.Facts (s : State) : Pc → Prop
  | .resetting this _ | .freeing this _ => Stopped s this
  | .releasingSender _ | .creatingSender | .runningSender => s.grabber = none
  | .creatingGrabber => s.grabber = none ∧ s.dataSender = true
  | .dispatching | .stopGrabbing _ | .stopThread _ | .closed | .fault => True

structure Inv (s : State) : Prop where
  /-- a pending skeleton event finds a grabber that has a frame -/
  pending : .skeleton ∈ s.pending → ∃ g, s.grabber = some g ∧ g.grabSkeletonFrame ≠ none
  copied : NoNullCopied s
  dataSender : s.grabber ≠ none → s.dataSender = true
  yields : ∀ c ∈ s.yields, Stopped s c.this
  pc : s.pc.Facts s
  allocated : ∀ g, s.grabber = some g → g.address < s.allocated

section Steps

variable {s t : State}

theorem Stopped.set_grabber {this : Nat} (h : Stopped s this) {g g' : Grabber}
    (hg : s.grabber = some g) (haddress : g.address = g'.address)
    (hstarted : g.isStarted = false → g'.isStarted = false) :
    Stopped { s with grabber := some g' } this := by
  refine ⟨h.1, ?_⟩
  intro u hu hthis
  cases hu
  exact hstarted (h.2 g hg (haddress.trans hthis))

theorem Inv.goto (h : Inv s) {pc : Pc} (hpc : pc.Facts s) : Inv { s with pc := pc } where
  pending := h.pending
  copied := h.copied
  dataSender := h.dataSender
  yields := h.yields
  pc := by cases pc <;> exact hpc
  allocated := h.allocated

theorem Inv.set_sender (h : Inv s) (hnone : s.grabber = none) (dataSender : Bool) {pc : Pc}
    (hpc : pc.Facts { s with dataSender := dataSender }) :
    Inv { s with dataSender := dataSender, pc := pc } where
  pending := h.pending
  copied := h.copied
  dataSender := fun hsome => absurd hnone hsome
  yields := h.yields
  pc := by cases pc <;> exact hpc
  allocated := h.allocated

theorem Inv.set_grabber (h : Inv s) {g : Grabber} (hg : s.grabber = some g) (g' : Grabber)
    (haddress : g.address = g'.address) (hstarted : g.isStarted = false → g'.isStarted = false)
    (hframe : .skeleton ∈ s.pending → g'.grabSkeletonFrame ≠ none) {pc : Pc}
    (hpc : pc.Facts { s with grabber := some g' }) :
    Inv { s with grabber := some g', pc := pc } where
  pending := fun hmem => ⟨g', rfl, hframe hmem⟩
  copied := h.copied
  dataSender := fun _ => h.dataSender (by rw [hg]; nofun)
  yields := fun c hc => (h.yields c hc).set_grabber hg haddress hstarted
  pc := by cases pc <;> exact hpc
  allocated := by
    intro u hu
    cases hu
    exact haddress ▸ h.allocated g hg

theorem Inv.not_pending (h : Inv s) {g : Grabber} (hg : s.grabber = some g)
    (hnull : g.isStarted = false) : .skeleton ∉ s.pending := by
  intro hmem
  obtain ⟨g', hg', hframe⟩ := h.pending hmem
  obtain rfl : g = g' := Option.some.inj (hg.symm.trans hg')
  rw [Grabber.grabSkeletonFrame_ne_none, hnull] at hframe
  cases hframe.1

theorem Inv.callYield (h : Inv s) {g : Grabber} {c : StopThread} (hlive : s.live c.this = some g)
    (hdrained : .skeleton ∉ s.pending) : Inv (s.callYield g c) := by
  obtain ⟨hg, haddress⟩ := State.live_eq_some hlive
  have hended : Inv { s with grabber := some { g with thread := none }, pc := .dispatching } :=
    h.set_grabber hg { g with thread := none } rfl (fun _ => rfl)
      (fun hmem => absurd hmem hdrained) trivial
  refine { hended with yields := ?_ }
  intro d hd
  rcases List.mem_cons.mp hd with rfl | hd
  · refine ⟨haddress ▸ h.allocated g hg, ?_⟩
    intro u hu _
    cases hu
    rfl
  · exact hended.yields d hd

theorem inv_uiStep (h : Inv s) (hstep : uiStep s = some t) : Inv t := by
  have hfacts := h.pc
  unfold uiStep at hstep
  cases hpc : s.pc <;> simp only [hpc, reduceCtorEq] at hstep hfacts
  case stopGrabbing k =>
    split at hstep
    case h_1 hg =>
      cases hstep
      exact h.goto hg
    case h_2 g hg =>
      cases hstep
      exact h.goto trivial
  case stopThread c =>
    cases hlive : s.live c.this <;> simp only [hlive] at hstep
    case none =>
      cases hstep
      exact h.goto trivial
    case some g =>
      split_ifs at hstep with hstarted
      cases hstep
      have hg := (State.live_eq_some hlive).1
      exact h.callYield hlive (h.not_pending hg (by simpa using hstarted))
  case resetting this k =>
    cases hlive : s.live this <;> simp only [hlive] at hstep <;> cases hstep
    case none => exact h.goto trivial
    case some g =>
      obtain ⟨hg, haddress⟩ := State.live_eq_some hlive
      have hdrained := h.not_pending hg (hfacts.2 g hg haddress)
      exact h.set_grabber hg g.resetEvents rfl id (fun hmem => absurd hmem hdrained) trivial
  case freeing this k =>
    cases hlive : s.live this <;> simp only [hlive] at hstep <;> cases hstep
    case none => exact h.goto trivial
    case some g =>
      obtain ⟨hg, haddress⟩ := State.live_eq_some hlive
      have hdrained := h.not_pending hg (hfacts.2 g hg haddress)
      exact
        { pending := fun hmem => absurd hmem hdrained
          copied := h.copied
          dataSender := fun hsome => absurd rfl hsome
          yields := fun c hc => ⟨(h.yields c hc).1, nofun⟩
          pc := rfl
          allocated := nofun }
  case releasingSender k =>
    cases hstep
    apply h.set_sender hfacts false
    cases k with
    | handler => trivial
    | startGrabbing => exact hfacts
    | destructor => trivial
  case runningSender =>
    cases hstep
    apply h.goto
    split_ifs with hsender
    · exact ⟨hfacts, hsender⟩
    · trivial

theorem Pc.Facts.post {pc : Pc} (h : pc.Facts s) {g : Grabber} (hg : s.grabber = some g)
    (e : FrameEvent) (b : Block) : pc.Facts { s with grabber := some (g.readFrame e b) } := by
  cases pc <;> simp only [Pc.Facts, hg, reduceCtorEq, false_and] at h ⊢
  case resetting this k => exact h.set_grabber hg (by simp) (by simp)
  case freeing this k => exact h.set_grabber hg (by simp) (by simp)

/-- The grabber thread posts only while the grabber has a frame to give. -/
theorem inv_post (h : Inv s) (e : FrameEvent) (skeletonFrame : Block) {g : Grabber}
    (hg : s.grabber = some g) (hreads : g.reads = true) :
    Inv { s with
      grabber := some (g.readFrame e skeletonFrame), pending := s.pending ++ [e] } := by
  have hframe : (g.readFrame e skeletonFrame).grabSkeletonFrame ≠ none :=
    Grabber.grabSkeletonFrame_of_reads ((g.reads_readFrame e _).trans hreads)
  have hread : Inv { s with grabber := some (g.readFrame e skeletonFrame), pc := s.pc } :=
    h.set_grabber hg _ (by simp) (by simp) (fun _ => hframe) (h.pc.post hg e skeletonFrame)
  exact { hread with pending := fun _ => ⟨_, rfl, hframe⟩ }

theorem inv_frameEvent (h : Inv s) {e : FrameEvent} {es : List FrameEvent}
    (hpending : s.pending = e::es) :
    Inv ({ s with pending := es }.onFrame e) := by
  have hrest : Inv { s with pending := es } :=
    { h with pending := fun hmem => h.pending (hpending ▸ List.mem_cons_of_mem e hmem) }
  cases e with
  | depth => exact hrest
  | color => exact hrest
  | skeleton =>
    obtain ⟨g, hg, hframe⟩ := h.pending (hpending ▸ List.mem_cons_self)
    rw [State.onFrame, State.onSkeletonFrame]
    split
    case h_1 => exact hrest
    case h_2 g' hg' =>
    obtain rfl : g = g' := Option.some.inj (hg.symm.trans hg')
    simp only [if_neg hframe]
    split_ifs
    · exact hrest
    · refine { hrest with copied := ?_ }
      intro hmem
      rcases List.mem_append.mp hmem with hmem | hmem
      · exact h.copied hmem
      · exact hframe (List.mem_singleton.mp hmem).symm

theorem inv_grabberCreated (h : Inv s) (hpc : s.pc = .creatingGrabber) {g : Grabber}
    (haddress : g.address = s.allocated) {pc : Pc}
    (hnext : pc = .dispatching ∨ pc = .stopGrabbing .handler) :
    Inv { s with grabber := some g, allocated := s.allocated + 1, pc := pc } := by
  have hfacts := h.pc
  rw [hpc] at hfacts
  exact
    { pending := by
        intro hmem
        obtain ⟨g', hg', -⟩ := h.pending hmem
        rw [hfacts.1] at hg'
        cases hg'
      copied := h.copied
      dataSender := fun _ => hfacts.2
      yields := by
        intro c hc
        have hold := (h.yields c hc).1
        refine ⟨Nat.lt_succ_of_lt hold, ?_⟩
        intro u hu hsame
        cases hu
        omega
      pc := by rcases hnext with rfl | rfl <;> trivial
      allocated := by
        intro u hu
        cases hu
        exact haddress ▸ Nat.lt_succ_self _ }

end Steps

theorem inv_step (s : State) (a : Action) (t : State) (h : Inv s) (hdrained : Drained s a)
    (hstep : step s a = some t) : Inv t := by
  cases a with
  | ui => exact inv_uiStep h hstep
  | post e skeletonFrame =>
    cases hg : s.grabber <;> simp only [step, hg, reduceCtorEq] at hstep
    split_ifs at hstep with hreads
    cases hstep
    exact inv_post h e skeletonFrame hg hreads
  | entryReturns =>
    cases hpc : s.pc <;> simp only [step, hpc, reduceCtorEq] at hstep
    case stopThread c =>
      obtain ⟨g, hlive, hstep⟩ := Option.bind_eq_some_iff.mp hstep
      split_ifs at hstep
      cases hstep
      exact h.callYield hlive (hdrained rfl)
  | uiEvent e =>
    cases hpc : s.pc <;> simp only [step, hpc, reduceCtorEq] at hstep
    cases hstep
    exact h.goto trivial
  | frameEvent =>
    simp only [step] at hstep
    split at hstep
    case h_1 e es hpc hpending =>
      cases hstep
      exact inv_frameEvent h hpending
    case h_2 => cases hstep
  | yieldReturns =>
    cases hpc : s.pc <;> simp only [step, hpc, reduceCtorEq] at hstep
    cases hyields : s.yields <;> simp only [hyields, reduceCtorEq] at hstep
    case dispatching.cons c cs =>
      cases hstep
      have hstopped : Stopped s c.this := h.yields c (hyields ▸ List.mem_cons_self)
      refine { h with yields := ?_, pc := ?_ }
      · intro d hd
        exact h.yields d (hyields ▸ List.mem_cons_of_mem c hd)
      · cases hsite : c.site <;> simp only [StopThread.next, hsite] <;> exact hstopped
  | senderCreated noError =>
    have hfacts := h.pc
    cases hpc : s.pc <;> simp only [step, hpc, reduceCtorEq] at hstep hfacts
    cases hstep
    exact h.set_sender hfacts noError hfacts
  | grabberCreated nuiInstance skeletonFrame r =>
    cases hpc : s.pc <;> simp only [step, hpc, reduceCtorEq] at hstep
    cases hstep
    apply inv_grabberCreated h hpc (Grabber.start_address _ r)
    split_ifs
    · exact Or.inl rfl
    · exact Or.inr rfl

theorem inv_start : Inv start where
  pending := nofun
  copied := nofun
  dataSender := fun hsome => absurd rfl hsome
  yields := nofun
  pc := trivial
  allocated := nofun

/-- A run in which no skeleton event is pending when `StopThread` yields copies no NULL frame. -/
theorem drained_run_no_null_copied (as : List Action) (s : State)
    (hguard : Guarded step Drained start as) (hrun : exec step start as = some s) :
    NoNullCopied s :=
  (exec_invariant inv_step as _ s inv_start hguard hrun).copied

def goodStart : StartResults where
  createThread := true
  depthEvent := true
  colorEvent := true
  skeletonEvent := true
  openDepthStream := true
  openColorStream := true
  enableSkeletonTracking := true
  run := true

def startRun : List Action :=
  [.uiEvent .deviceListBoxSelected, .ui, .ui, .senderCreated true, .ui,
    .grabberCreated true [] goodStart]

/-- The stop button, as far as the `wxYield` in `Stop`. -/
def stopRun : List Action := [.uiEvent .grabberStopClick, .ui, .entryReturns]

def stoppedRun : List Action :=
  [.yieldReturns, .ui, .ui, .yieldReturns, .ui, .ui]

theorem drained_stop_no_null_copied :
    ∃ s, exec step start (startRun ++ [.post .skeleton [7], .frameEvent, .post .depth []] ++
        stopRun ++ [.frameEvent] ++ stoppedRun) = some s ∧
      s.copied = [some [7]] ∧ s.grabber = none ∧ NoNullCopied s :=
  ⟨_, rfl, rfl, rfl, drained_run_no_null_copied (startRun ++
    [.post .skeleton [7], .frameEvent, .post .depth []] ++ stopRun ++ [.frameEvent] ++ stoppedRun)
    _ (by decide) rfl⟩

/-- A skeleton event is still pending when `Stop` has ended the thread and yields. -/
theorem pending_skeleton_copied_null :
    ∃ as s, exec step start as = some s ∧ ¬ NoNullCopied s := by
  refine ⟨startRun ++ [.post .skeleton [7]] ++ stopRun ++ [.frameEvent], _, rfl, ?_⟩
  decide

theorem frameEvents_copy_null (es rest : List FrameEvent) (s : State) (g : Grabber)
    (hpc : s.pc = .dispatching) (hpending : s.pending = es ++ .skeleton::rest)
    (hes : .skeleton ∉ es) (hg : s.grabber = some g) (hnull : g.grabSkeletonFrame = none)
    (hsender : s.dataSender = true) :
    ∃ t, exec step s (List.replicate (es.length + 1) .frameEvent) = some t ∧ ¬ NoNullCopied t := by
  induction es generalizing s with
  | nil =>
    refine ⟨({ s with pending := rest } : State).onSkeletonFrame, ?_, ?_⟩
    · simp [exec_cons, step, hpc, hpending, State.onFrame]
    · simp [State.onSkeletonFrame, hg, hsender, hnull, NoNullCopied]
  | cons e es ih =>
    have hother : e ≠ .skeleton := fun h => hes (h ▸ List.mem_cons_self)
    obtain ⟨t, hrun, hnullCopied⟩ := ih { s with pending := es ++ .skeleton::rest } hpc rfl
      (fun hmem => hes (List.mem_cons_of_mem e hmem)) hg hsender
    refine ⟨t, ?_, hnullCopied⟩
    have hstep : step s .frameEvent = some { s with pending := es ++ .skeleton::rest } := by
      cases e with
      | depth => simp [step, hpc, hpending, State.onFrame]
      | color => simp [step, hpc, hpending, State.onFrame]
      | skeleton => exact absurd rfl hother
    rw [List.length_cons, List.replicate_succ, exec_cons, hstep]
    exact hrun

theorem undrained_yield_copies_null (as : List Action) (s t : State)
    (hguard : Guarded step Drained start as) (hrun : exec step start as = some s)
    (hstep : step s .entryReturns = some t) (hundrained : ¬ Drained s .entryReturns) :
    ∃ n u, exec step t (List.replicate n .frameEvent) = some u ∧ ¬ NoNullCopied u := by
  have hinv := exec_invariant inv_step as start s inv_start hguard hrun
  have hpending : .skeleton ∈ s.pending := by
    by_contra hnot
    exact hundrained fun _ => hnot
  obtain ⟨es, rest, hsplit, hes⟩ := List.eq_append_cons_of_mem hpending
  cases hpc : s.pc <;> simp only [step, hpc, reduceCtorEq] at hstep
  case stopThread c =>
    obtain ⟨g, hlive, hstep⟩ := Option.bind_eq_some_iff.mp hstep
    split_ifs at hstep
    cases hstep
    have hg := (State.live_eq_some hlive).1
    obtain ⟨u, hu, hnullCopied⟩ := frameEvents_copy_null es rest (s.callYield g c)
      { g with thread := none } rfl hsplit hes rfl rfl (hinv.dataSender (by rw [hg]; nofun))
    exact ⟨_, u, hu, hnullCopied⟩

end KinectHelper.KinectTestMainFrame
