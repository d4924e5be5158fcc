import KinectHelper.WxKinectHelper.DeviceHash
import KinectHelper.KinectTest.FreenectFrame

namespace KinectHelper.FreenectFrame

open KinectTestMainFrame (Caller StopSite StopThread Pc UiEvent)
open KinectGrabberFreenect

/-- `StopGrabbing` finds a grabber with an open device whose thread is not alive. -/
def State.abandons (s : State) : Bool :=
  match s.pc, s.current with
  | .stopGrabbing _, some g => g.device.isSome && !decide (g.thread = .alive)
  | _, _ => false

def FindsThread (s : State) : Action → Prop
  | .ui => s.abandons = false
  | _ => True

instance FindsThread.decidable (s : State) : ∀ a, Decidable (FindsThread s a)
  | .ui => inferInstanceAs (Decidable (_ = false))
  | .threadEnds _ | .entryReturns | .depthCallback _ _ _ | .videoCallback _ _ | .uiEvent _
  | .yieldReturns | .senderCreated _ | .grabberCreated _ _ _ _ _ => isTrue trivial

/-- A grabber that is deleted, or without a device. -/
def Idle (s : State) (this : Nat) : Prop :=
  this < s.allocated ∧ ∀ g, s.world.grabbers this = some g → g.device = none

/-- What is known at a position of the UI thread. -/
def Facts (s : State) : Pc → Prop
  | .stopThread c => c.site = .destructor → Idle s c.this
  | .freeing this _ => Idle s this
  | .releasingSender _ | .creatingSender | .runningSender | .creatingGrabber => s.grabber = none
  | .dispatching | .stopGrabbing _ | .resetting _ _ | .closed | .fault => True

structure Inv (s : State) : Prop where
  owned : KinectGrabberFreenect.Owned s.world s.grabber
  opened : ∀ d ∈ s.opened, s.world.deviceHash d ≠ none
  /-- a destructor that waits for its `wxYield` has no device -/
  yields : ∀ c ∈ s.yields, c.site = .destructor → Idle s c.this
  pc : Facts s s.pc
  allocated : ∀ p g, s.world.grabbers p = some g → p < s.allocated

section Steps

variable {s t : State} {p : Nat} {g g' : Grabber}

theorem Inv.goto (h : Inv s) {pc : Pc} (hpc : Facts s pc) : Inv (s.goto pc) where
  owned := h.owned
  opened := h.opened
  yields := h.yields
  pc := by cases pc <;> exact hpc
  allocated := h.allocated

theorem Idle.setGrabber {this : Nat} (h : Idle s this) (hg : s.world.grabbers p = some g)
    (hdevice : g'.device = g.device) : Idle { s with world := s.world.setGrabber p g' } this := by
  refine ⟨h.1, ?_⟩
  intro u hu
  by_cases hthis : this = p
  · subst hthis
    obtain rfl : g' = u := Option.some.inj (World.setGrabber_self.symm.trans hu)
    rw [hdevice]
    exact h.2 g hg
  · exact h.2 u ((World.setGrabber_of_ne hthis).symm.trans hu)

theorem Facts.setGrabber {pc : Pc} (h : Facts s pc) (hg : s.world.grabbers p = some g)
    (hdevice : g'.device = g.device) : Facts { s with world := s.world.setGrabber p g' } pc := by
  cases pc with
  | stopThread c => exact fun hsite => (h hsite).setGrabber hg hdevice
  | freeing this k => exact Idle.setGrabber h hg hdevice
  | _ => exact h

/-- A change of a grabber that keeps its device. -/
theorem Inv.setGrabber (h : Inv s) (hg : s.world.grabbers p = some g)
    (hdevice : g'.device = g.device) : Inv { s with world := s.world.setGrabber p g' } where
  owned := h.owned.setGrabber hg hdevice
  opened := h.opened
  yields := fun c hc hsite => (h.yields c hc hsite).setGrabber hg hdevice
  pc := h.pc.setGrabber hg hdevice
  allocated := by
    intro q u hu
    by_cases hq : q = p
    · rw [hq]
      exact h.allocated p g hg
    · exact h.allocated q u ((World.setGrabber_of_ne hq).symm.trans hu)

theorem Inv.callYield (h : Inv s) {c : StopThread} (hpc : s.pc = .stopThread c)
    (hg : s.world.grabbers c.this = some g) : Inv (s.callYield g c) := by
  have hfacts := h.pc
  rw [hpc] at hfacts
  have hchanged : Inv { s with world := s.world.setGrabber c.this { g with thread := .none } } :=
    h.setGrabber hg rfl
  refine { hchanged with yields := ?_, pc := trivial }
  intro d hd hsite
  rcases List.mem_cons.mp hd with rfl | hd
  · exact (hfacts hsite).setGrabber hg rfl
  · exact hchanged.yields d hd hsite

theorem inv_stopGrabbing (h : Inv s) {k : Caller} (hpc : s.pc = .stopGrabbing k)
    (hguard : FindsThread s .ui) (hstep : uiStep s = some t) : Inv t := by
  unfold uiStep at hstep
  simp only [hpc] at hstep
  cases hp : s.grabber with
  | none =>
    simp only [hp, Option.some_inj] at hstep
    subst hstep
    exact h.goto hp
  | some p =>
    simp only [hp] at hstep
    cases hg : s.world.grabbers p with
    | none =>
      simp only [hg, Option.some_inj] at hstep
      subst hstep
      exact h.goto trivial
    | some g =>
      simp only [hg, Option.some_inj] at hstep
      subst hstep
      apply h.goto
      intro hsite
      refine ⟨h.allocated p g hg, ?_⟩
      intro u hu
      obtain rfl : g = u := Option.some.inj (hg.symm.trans hu)
      have hcurrent : s.current = some g := by rw [State.current, hp, Option.bind_some, hg]
      have hfinds : (g.device.isSome && !decide (g.thread = .alive)) = false := by
        simpa only [FindsThread, State.abandons, hpc, hcurrent] using hguard
      have hstopped : isStarted g = false := by
        cases hstarted : isStarted g with
        | false => rfl
        | true => simp only [hstarted, if_true, reduceCtorEq] at hsite
      cases hdevice : g.device with
      | none => rfl
      | some d =>
        simp only [isStarted, hdevice, Option.isSome_some, Bool.true_and] at hstopped hfinds
        rw [hstopped] at hfinds
        cases hfinds

theorem inv_resetting (h : Inv s) {this : Nat} {k : Caller} (hpc : s.pc = .resetting this k)
    (hstep : uiStep s = some t) : Inv t := by
  unfold uiStep at hstep
  simp only [hpc] at hstep
  cases hclose : closeDevice this s.world with
  | none =>
    simp only [hclose, Option.some_inj] at hstep
    subst hstep
    exact h.goto trivial
  | some world =>
    simp only [hclose, Option.some_inj] at hstep
    subst hstep
    obtain ⟨howned, hidle⟩ := h.owned.closeDevice hclose
    obtain ⟨g, hg, hhash, hlive⟩ := closeDevice_cases hclose
    refine
      { owned := howned
        opened := ?_
        yields := ?_
        pc := fun _ => ⟨h.allocated this g hg, hidle⟩
        allocated := ?_ }
    · intro d hd
      simp only [List.mem_filter, decide_eq_true_eq, hg, Option.bind_some] at hd
      rw [hhash d (Ne.symm hd.2)]
      exact h.opened d hd.1
    · intro c hc hsite
      have hold := h.yields c hc hsite
      refine ⟨hold.1, ?_⟩
      intro u hu
      by_cases hthis : c.this = this
      · exact hidle u (hthis ▸ hu)
      · rw [hlive c.this hthis] at hu
        exact hold.2 u hu
    · intro q u hu
      by_cases hq : q = this
      · rw [hq]
        exact h.allocated this g hg
      · rw [hlive q hq] at hu
        exact h.allocated q u hu

theorem inv_freeing (h : Inv s) {this : Nat} {k : Caller} (hpc : s.pc = .freeing this k)
    (hstep : uiStep s = some t) : Inv t := by
  have hfacts := h.pc
  unfold uiStep at hstep
  rw [hpc] at hfacts
  simp only [hpc] at hstep
  cases hg : s.world.grabbers this with
  | none =>
    simp only [hg, Option.some_inj] at hstep
    subst hstep
    exact h.goto trivial
  | some g =>
    simp only [hg, Option.some_inj] at hstep
    subst hstep
    obtain ⟨howned, hempty⟩ := h.owned.delete hg (hfacts.2 g hg)
    exact
      { owned := howned
        opened := fun d hd => absurd (hempty d) (h.opened d hd)
        yields := fun c hc hsite =>
          ⟨(h.yields c hc hsite).1, fun u hu => nomatch howned.live _ u hu⟩
        pc := rfl
        allocated := fun q u hu => nomatch howned.live q u hu }

theorem inv_uiStep (h : Inv s) (hguard : FindsThread s .ui) (hstep : uiStep s = some t) :
    Inv t := by
  have hfacts := h.pc
  cases hpc : s.pc with
  | stopGrabbing k => exact inv_stopGrabbing h hpc hguard hstep
  | resetting this k => exact inv_resetting h hpc hstep
  | freeing this k => exact inv_freeing h hpc hstep
  | stopThread c =>
    simp only [uiStep, hpc] at hstep
    cases hg : s.world.grabbers c.this with
    | none =>
      simp only [hg, Option.some_inj] at hstep
      subst hstep
      exact h.goto trivial
    | some g =>
      simp only [hg] at hstep
      split_ifs at hstep
      cases hstep
      exact h.callYield hpc hg
  | releasingSender k =>
    simp only [uiStep, hpc, Option.some_inj] at hstep
    rw [hpc] at hfacts
    subst hstep
    refine { h with pc := ?_ }
    cases k with
    | startGrabbing => exact hfacts
    | handler => trivial
    | destructor => trivial
  | runningSender =>
    simp only [uiStep, hpc, Option.some_inj] at hstep
    rw [hpc] at hfacts
    subst hstep
    apply h.goto
    split_ifs
    · exact hfacts
    · trivial
  | _ =>
    simp only [uiStep, hpc] at hstep
    cases hstep

theorem inv_callback (h : Inv s) {this d : Nat} {call : World → Option World}
    (hcall : ∀ v, s.world.deviceHash d ≠ none → call s.world = some v →
      Inv { s with world := v }) (hstep : callback s this d call = some t) : Inv t := by
  unfold callback at hstep
  cases hg : s.world.grabbers this with
  | none =>
    rw [hg] at hstep
    cases hstep
  | some g =>
    simp only [hg] at hstep
    split_ifs at hstep with hon
    cases hv : call s.world with
    | none =>
      rw [hv] at hstep
      cases hstep
      exact h.goto trivial
    | some v =>
      rw [hv] at hstep
      cases hstep
      exact hcall v (h.opened d hon.2) hv

theorem inv_grabberCreated (h : Inv s) (hnone : s.grabber = none) {g : Grabber}
    (hidle : g.device = none) {r : StartResults} {world : World} {started : Bool}
    (hstart : KinectGrabberFreenect.start s.allocated r (s.world.setGrabber s.allocated g) =
      some (world, started)) :
    Inv { s with
      world := world
      grabber := some s.allocated
      allocated := s.allocated + 1
      opened := if started then r.openDevice.toList ++ s.opened else s.opened
      pc := if started then .dispatching else .stopGrabbing .handler } := by
  have hold := h.owned
  rw [hnone] at hold
  have hcreated : KinectGrabberFreenect.Owned (s.world.setGrabber s.allocated g)
      (some s.allocated) := hold.create hidle
  have howned := hcreated.start World.setGrabber_self hidle hstart
  have hmine : ∀ q u, world.grabbers q = some u → q = s.allocated := by
    intro q u hu
    exact (Option.some.inj (howned.live q u hu)).symm
  have hclosed : ∀ d, d ∉ s.opened := by
    intro d hd
    exact h.opened d hd (hold.no_entry (fun q u hu => nomatch hold.live q u hu) d)
  refine
    { owned := howned
      opened := ?_
      yields := ?_
      pc := ?_
      allocated := fun q u hu => hmine q u hu ▸ Nat.lt_succ_self _ }
  · intro d hd
    rcases start_cases World.setGrabber_self hstart with ⟨hfails, _⟩ | ⟨hworks, e, g', he, _, hv⟩
    · rw [hfails] at hd
      exact absurd hd (hclosed d)
    · rw [hworks, if_pos rfl, he] at hd
      rcases List.mem_append.mp hd with hnew | hmem
      · obtain rfl : d = e := List.mem_singleton.mp hnew
        rw [hv]
        dsimp only
        rw [Function.update_self]
        nofun
      · exact absurd hmem (hclosed d)
  · intro c hc hsite
    have hlt := (h.yields c hc hsite).1
    refine ⟨Nat.lt_succ_of_lt hlt, ?_⟩
    intro u hu
    exact absurd (hmine c.this u hu) (Nat.ne_of_lt hlt)
  · cases started <;> trivial

end Steps

theorem inv_step (s : State) (a : Action) (t : State) (h : Inv s) (hguard : FindsThread s a)
    (hstep : step s a = some t) : Inv t := by
  unfold step at hstep
  by_cases hfault : s.pc = .fault
  · rw [if_pos hfault] at hstep
    cases hstep
  rw [if_neg hfault] at hstep
  cases a with
  | threadEnds this =>
    dsimp only at hstep
    cases hg : s.world.grabbers this with
    | none =>
      rw [hg] at hstep
      cases hstep
    | some g =>
      simp only [hg] at hstep
      split_ifs at hstep
      cases hstep
      exact h.setGrabber hg rfl
  | entryReturns =>
    dsimp only at hstep
    cases hpc : s.pc <;> simp only [hpc, reduceCtorEq] at hstep
    case stopThread c =>
      cases hg : s.world.grabbers c.this with
      | none =>
        rw [hg] at hstep
        cases hstep
      | some g =>
        simp only [hg] at hstep
        split_ifs at hstep
        cases hstep
        exact h.callYield hpc hg
  | depthCallback this device data =>
    apply inv_callback h _ hstep
    intro v hentry hv
    obtain ⟨q, g, g', hg, hdevice, hset⟩ := h.owned.depthCallback hentry hv
    subst hset
    exact h.setGrabber hg hdevice
  | videoCallback this device =>
    apply inv_callback h _ hstep
    intro v hentry hv
    rw [h.owned.videoCallback hentry hv]
    exact h
  | uiEvent e =>
    dsimp only at hstep
    split_ifs at hstep
    cases hstep
    exact h.goto trivial
  | yieldReturns =>
    dsimp only at hstep
    cases hpc : s.pc <;> simp only [hpc, reduceCtorEq] at hstep
    cases hyields : s.yields <;> simp only [hyields, reduceCtorEq] at hstep
    case dispatching.cons c cs =>
      cases hstep
      refine { h with yields := ?_, pc := ?_ }
      · intro d hd
        exact h.yields d (hyields ▸ List.mem_cons_of_mem c hd)
      · have hidle := h.yields c (hyields ▸ List.mem_cons_self)
        cases hsite : c.site <;> simp only [StopThread.next, hsite]
        case stop => trivial
        case destructor => exact hidle hsite
  | ui => exact inv_uiStep h hguard hstep
  | senderCreated noError =>
    dsimp only at hstep
    split_ifs at hstep with hpc
    cases hstep
    have hfacts := h.pc
    rw [hpc] at hfacts
    exact { h with pc := hfacts }
  | grabberCreated context deviceIndex width height r =>
    dsimp only at hstep
    split_ifs at hstep with hpc
    have hfacts := h.pc
    rw [hpc] at hfacts
    split at hstep
    case h_1 =>
      cases hstep
      exact h.goto trivial
    case h_2 world started hstart =>
      cases hstep
      exact inv_grabberCreated h hfacts rfl hstart

theorem inv_start : Inv start where
  owned := ⟨nofun, nofun, nofun⟩
  opened := nofun
  yields := nofun
  pc := trivial
  allocated := nofun

/-- While `StopGrabbing` finds the thread of every open grabber alive, `DeviceHash` holds no dead
grabber. -/
theorem threads_alive_no_dead_grabber (as : List Action) (s : State)
    (hguard : Guarded step FindsThread start as) (hrun : exec step start as = some s) :
    NoDeadGrabber s.world :=
  (exec_invariant inv_step as start s inv_start hguard hrun).owned.entry

/-- The condition is exact: the first `StopGrabbing` against it deletes a grabber that is still
registered. -/
theorem abandoned_grabber_stays (as : List Action) (s : State)
    (hguard : Guarded step FindsThread start as) (hrun : exec step start as = some s)
    (hbroken : ¬ FindsThread s .ui) :
    ∃ t, exec step s [.ui, .ui, .yieldReturns, .ui] = some t ∧ ¬ NoDeadGrabber t.world := by
  have hinv := exec_invariant inv_step as start s inv_start hguard hrun
  have habandons : s.abandons = true := by simpa [FindsThread] using hbroken
  unfold State.abandons at habandons
  split at habandons
  case h_2 => cases habandons
  case h_1 k g hpc hcurrent =>
  obtain ⟨p, hp, hg⟩ := Option.bind_eq_some_iff.mp hcurrent
  obtain ⟨hopen, hended⟩ := Bool.and_eq_true_iff.mp habandons
  obtain ⟨d, hdevice⟩ := Option.isSome_iff_exists.mp hopen
  have hthread : g.thread ≠ .alive := by simpa using hended
  have hstarted : isStarted g = false := by simp [isStarted, hthread]
  let c : StopThread := ⟨.destructor, p, k⟩
  have hfound : step s .ui = some (s.goto (.stopThread c)) := by
    simp [step, uiStep, hpc, hp, hg, hstarted, c]
  have hyield : step (s.goto (.stopThread c)) .ui =
      some ((s.goto (.stopThread c)).callYield g c) := by
    simp [step, uiStep, State.goto, hg, hthread, c]
  let u := (s.goto (.stopThread c)).callYield g c
  have hback : step u .yieldReturns = some { u with pc := .freeing p k, yields := s.yields } := rfl
  have hself : u.world.grabbers p = some { g with thread := .none } := World.setGrabber_self
  let t : State := { u with
    world := u.world.delete p, grabber := none, pc := .releasingSender k, yields := s.yields }
  have hfree : step { u with pc := .freeing p k, yields := s.yields } .ui = some t := by
    simp [step, uiStep, hself, t]
  refine ⟨t, ?_, ?_⟩
  · rw [exec_cons, hfound, Option.bind_some, exec_cons, hyield, Option.bind_some, exec_cons, hback,
      Option.bind_some, exec_cons, hfree, Option.bind_some, exec_nil]
  · intro hsound
    obtain ⟨q, v, hq, hv, _⟩ := hsound d (some p) (hinv.owned.registered p g d hg hdevice)
    obtain rfl : p = q := Option.some.inj hq
    exact nomatch (Function.update_self _ _ _).symm.trans hv

def goodStart : StartResults where
  createThread := true
  openDevice := some 7
  fresh := fun _ _ => 0
  run := true

def startRun : List Action :=
  [.uiEvent .deviceListBoxSelected, .ui, .ui, .senderCreated true, .ui,
    .grabberCreated true 0 2 1 goodStart]

/-- The stop button, while the thread of the grabber is alive. -/
def stopRun : List Action :=
  [.uiEvent .grabberStopClick, .ui, .entryReturns, .yieldReturns, .ui, .ui, .yieldReturns, .ui, .ui]

theorem stopped_grabber_not_registered :
    ∃ s, exec step start (startRun ++ [.depthCallback 0 7 [1, 2]] ++ stopRun) = some s ∧
      s.grabber = none ∧ NoDeadGrabber s.world :=
  ⟨_, rfl, rfl, threads_alive_no_dead_grabber (startRun ++ [.depthCallback 0 7 [1, 2]] ++ stopRun) _
    (by decide) rfl⟩

/-- The thread ends by itself, and the stop button only deletes the grabber. -/
theorem ended_grabber_stays_registered :
    ∃ s, exec step start (startRun ++ [.threadEnds 0, .uiEvent .grabberStopClick, .ui, .ui,
        .yieldReturns, .ui]) = some s ∧
      s.world.deviceHash 7 = some (some 0) ∧ s.world.grabbers 0 = none ∧
      ¬ NoDeadGrabber s.world := by
  refine ⟨_, rfl, rfl, rfl, ?_⟩
  intro h
  obtain ⟨q, g, hq, hg, _⟩ := h 7 (some 0) rfl
  obtain rfl : 0 = q := Option.some.inj hq
  cases hg

end KinectHelper.FreenectFrame
