import KinectHelper.KinectTest.GrabbingSession

namespace KinectHelper.GrabbingSession

/-- The frame after its first idle event, which comes before the first click. -/
def shown (count : Nat) : State := updateUI (opened count)

/-- Every grabber was created for a device that existed. -/
def ExistingDevices (s : State) : Prop := ∀ r ∈ s.requests, 0 ≤ r.1 ∧ r.1 < r.2
  deriving Decidable

/-- A selected item does not carry the device count itself, and as many devices stay plugged in as
the index selected last needs. -/
def KeepsDevice (s : State) : Action → Prop
  | .uiEvent (.deviceListBoxSelected item) => s.deviceListBox[item]? ≠ some s.deviceCount
  | .plug count => s.selectedDeviceIndex < count
  | .threadEnds | .senderEnds | .updateUI | .uiEvent .grabberStartClick
  | .uiEvent .grabberStopClick | .uiEvent .refreshClick | .uiEvent .destroyed | .yieldReturns | .ui
  | .senderCreated _ | .senderRun _ | .grabberCreated _ | .grabberStarted _ _ => True

instance (s : State) : ∀ a, Decidable (KeepsDevice s a)
  | .uiEvent (.deviceListBoxSelected item) =>
      inferInstanceAs (Decidable (s.deviceListBox[item]? ≠ some s.deviceCount))
  | .plug count => inferInstanceAs (Decidable (s.selectedDeviceIndex < count))
  | .threadEnds | .senderEnds | .updateUI | .uiEvent .grabberStartClick
  | .uiEvent .grabberStopClick | .uiEvent .refreshClick | .uiEvent .destroyed | .yieldReturns | .ui
  | .senderCreated _ | .senderRun _ | .grabberCreated _ | .grabberStarted _ _ => isTrue trivial

/-- A call of `StartGrabbing` is at this position, before `CreateGrabber`. -/
def Pc.starting : Pc → Bool
  | .stopGrabbing k | .resetting _ k | .freeing _ k | .clearingCanvases k | .releasingSender k =>
      decide (k = .startGrabbing)
  | .stopThread c => decide (c.caller = .startGrabbing)
  | .creatingSender | .runningSender | .creatingGrabber => true
  | .dispatching | .fillingList | .showingImages | .startingGrabber | .startReturned | .closed
  | .fault _ _ => false

/-- Some call of `StartGrabbing` has not come to `CreateGrabber` yet. -/
def Starting (s : State) : Prop :=
  s.pc.starting = true ∨ ∃ c ∈ s.yields, c.caller = .startGrabbing

/-- The selected device is plugged in, and where the index is about to be used, a device has been
selected; the Start button is enabled for no other index. -/
structure IndexInv (s : State) : Prop where
  existing : ExistingDevices s
  plugged : s.selectedDeviceIndex < s.deviceCount
  enabled : s.startEnabled = true → 0 ≤ s.selectedDeviceIndex
  starting : Starting s → 0 ≤ s.selectedDeviceIndex

/-- A step that leaves the index, the count, the button and the requests as they are, and starts
nothing. -/
structure Unconcerned (s t : State) : Prop where
  index : t.selectedDeviceIndex = s.selectedDeviceIndex
  count : t.deviceCount = s.deviceCount
  button : t.startEnabled = s.startEnabled
  requests : t.requests = s.requests
  starting : Starting t → Starting s

section Steps

variable {s t : State}

theorem IndexInv.of_unconcerned (h : IndexInv s) (hu : Unconcerned s t) : IndexInv t where
  existing := by
    unfold ExistingDevices
    rw [hu.requests]
    exact h.existing
  plugged := by
    rw [hu.index, hu.count]
    exact h.plugged
  enabled := by
    rw [hu.button, hu.index]
    exact h.enabled
  starting := by
    intro hstarting
    rw [hu.index]
    exact h.starting (hu.starting hstarting)

theorem starting_of_pc {pc pc' : Pc} (hpc : s.pc = pc) (hpc' : t.pc = pc')
    (hyields : t.yields = s.yields) (h : pc'.starting = true → pc.starting = true) :
    Starting t → Starting s := by
  intro hstarting
  rcases hstarting with hat | hwaiting
  · left
    rw [hpc' ] at hat
    rw [hpc]
    exact h hat
  · right
    rwa [hyields] at hwaiting

theorem starting_next {k : Caller} (h : k.next.starting = true) :
    decide (k = .startGrabbing) = true := by
  cases k <;> simp_all [Caller.next, Pc.starting]

theorem unconcerned_goto {pc pc' : Pc} (hpc : s.pc = pc)
    (h : pc'.starting = true → pc.starting = true) : Unconcerned s (s.goto pc') where
  index := rfl
  count := rfl
  button := rfl
  requests := rfl
  starting := starting_of_pc hpc rfl rfl h

theorem unconcerned_showImages (hpc : s.pc = .showingImages) :
    Unconcerned s (showImages s) := by
  unfold showImages
  cases s.grabber with
  | none => exact unconcerned_goto hpc nofun
  | some g => exact ⟨rfl, rfl, rfl, rfl, starting_of_pc hpc rfl rfl nofun⟩

theorem unconcerned_callYield {c : StopThread} (hpc : s.pc = .stopThread c) (g : Grabber) :
    Unconcerned s (s.callYield g c) where
  index := rfl
  count := rfl
  button := rfl
  requests := rfl
  starting := by
    intro hstarting
    rcases hstarting with hat | ⟨d, hd, hcaller⟩
    · simp [State.callYield, Pc.starting] at hat
    · rcases List.mem_cons.mp hd with hnew | hold
      · left
        subst hnew
        simpa [hpc, Pc.starting] using hcaller
      · exact Or.inr ⟨d, hold, hcaller⟩

theorem unconcerned_uiMove (h : UiMove s t) : Unconcerned s t := by
  cases h with
  | noGrabber k hpc _ => exact unconcerned_goto hpc id
  | callStop k hpc g hg site => exact unconcerned_goto hpc id
  | freedGrabber this k hpc hfreed => exact unconcerned_goto rfl nofun
  | freedSender k hpc hfreed => exact unconcerned_goto rfl nofun
  | yield c hpc g hg => exact unconcerned_callYield hpc g
  | callDestructor this k hpc g hg => exact unconcerned_goto hpc id
  | delete this k hpc => exact ⟨rfl, rfl, rfl, rfl, starting_of_pc hpc rfl rfl id⟩
  | clear k hpc => exact ⟨rfl, rfl, rfl, rfl, starting_of_pc hpc rfl rfl id⟩
  | release k hpc => exact ⟨rfl, rfl, rfl, rfl, starting_of_pc hpc rfl rfl starting_next⟩
  | fill hpc => exact ⟨rfl, rfl, rfl, rfl, starting_of_pc hpc rfl rfl nofun⟩
  | display hpc => exact unconcerned_showImages hpc
  | finish hpc => exact unconcerned_goto hpc nofun

theorem unconcerned_yieldReturns {c : StopThread} {cs : List StopThread}
    (hyields : s.yields = c::cs) : Unconcerned s { s with pc := c.next, yields := cs } where
  index := rfl
  count := rfl
  button := rfl
  requests := rfl
  starting := by
    intro hstarting
    right
    rw [hyields]
    rcases hstarting with hat | ⟨d, hd, hcaller⟩
    · refine ⟨c, List.mem_cons_self, ?_⟩
      unfold StopThread.next at hat
      cases hsite : c.site <;> simpa [hsite, Pc.starting] using hat
    · exact ⟨d, List.mem_cons_of_mem c hd, hcaller⟩

/-- The check of a selection lets the count itself through. -/
theorem index_select {item deviceIndex : Nat} (h : IndexInv s)
    (hgood : KeepsDevice s (.uiEvent (.deviceListBoxSelected item)))
    (hitem : s.deviceListBox[item]? = some deviceIndex) (hcount : deviceIndex ≤ s.deviceCount) :
    IndexInv { s with selectedDeviceIndex := deviceIndex, pc := .stopGrabbing .startGrabbing } where
  existing := h.existing
  plugged := by
    have hne : deviceIndex ≠ s.deviceCount := by
      intro heq
      exact hgood (by rw [hitem, heq])
    have hlt : deviceIndex < s.deviceCount := by omega
    exact Int.ofNat_lt.mpr hlt
  enabled := fun _ => Int.natCast_nonneg deviceIndex
  starting := fun _ => Int.natCast_nonneg deviceIndex

theorem index_updateUI (h : IndexInv s) : IndexInv (updateUI s) where
  existing := h.existing
  plugged := h.plugged
  enabled := by
    intro henabled
    rw [updateUI, Bool.and_eq_true] at henabled
    exact of_decide_eq_true henabled.1
  starting := h.starting

theorem index_step {a : Action} (h : IndexInv s) (hgood : KeepsDevice s a)
    (ht : step s a = some t) : IndexInv t := by
  cases step_move ht with
  | plug count hpc hyields => exact ⟨h.existing, hgood, h.enabled, h.starting⟩
  | threadEnds g hg => exact h.of_unconcerned ⟨rfl, rfl, rfl, rfl, id⟩
  | senderEnds hrunning => exact h.of_unconcerned ⟨rfl, rfl, rfl, rfl, id⟩
  | updateUI hpc => exact index_updateUI h
  | refuse item => exact h
  | select item deviceIndex hpc hitem hcount => exact index_select h hgood hitem hcount
  | startClick hpc henabled =>
    exact ⟨h.existing, h.plugged, h.enabled, fun _ => h.enabled henabled⟩
  | stopClick hpc => exact h.of_unconcerned (unconcerned_goto hpc nofun)
  | refreshClick hpc => exact h.of_unconcerned (unconcerned_goto hpc nofun)
  | destroyed hpc => exact h.of_unconcerned (unconcerned_goto hpc nofun)
  | yieldReturns hpc c cs hyields => exact h.of_unconcerned (unconcerned_yieldReturns hyields)
  | ui _ hmove => exact h.of_unconcerned (unconcerned_uiMove hmove)
  | senderCreated noError hpc =>
    exact h.of_unconcerned ⟨rfl, rfl, rfl, rfl, starting_of_pc hpc rfl rfl id⟩
  | runNull noError hpc hs => exact h.of_unconcerned (unconcerned_goto hpc nofun)
  | senderRun noError hpc sender =>
    exact h.of_unconcerned ⟨rfl, rfl, rfl, rfl, starting_of_pc hpc rfl rfl id⟩
  | grabberCreated sizes hpc =>
    have hselected : 0 ≤ s.selectedDeviceIndex := h.starting (Or.inl (by rw [hpc]; rfl))
    refine ⟨?_, h.plugged, h.enabled, fun _ => hselected⟩
    intro r hr
    rcases List.mem_append.mp hr with hold | hnew
    · exact h.existing r hold
    · rw [List.mem_singleton.mp hnew]
      exact ⟨hselected, h.plugged⟩
  | startNull thread result hpc hg => exact h.of_unconcerned (unconcerned_goto hpc nofun)
  | grabberStarted thread result hpc g =>
    apply h.of_unconcerned
    refine ⟨rfl, rfl, rfl, rfl, starting_of_pc hpc rfl rfl ?_⟩
    cases result <;> nofun

end Steps

theorem index_shown (count : Nat) : IndexInv (shown count) where
  existing := nofun
  plugged := lt_of_lt_of_le (by decide : (-1 : Int) < 0) (Int.natCast_nonneg count)
  enabled := nofun
  starting := by
    intro hstarting
    simp [Starting, shown, updateUI, opened, Pc.starting] at hstarting

/-- In every run in which no item with the device count is selected, and the device selected last
stays plugged in, each grabber is created for an existing device. -/
theorem grabbers_for_existing_devices (count : Nat) (as : List Action) (s : State)
    (hgood : Guarded step KeepsDevice (shown count) as)
    (hrun : exec step (shown count) as = some s) : ExistingDevices s := by
  have hinv : IndexInv s :=
    exec_invariant (fun _ _ _ h hg ht => index_step h hg ht) as _ s (index_shown count) hgood hrun
  exact hinv.existing

/-- Three devices, the second is selected; its thread ends, the third device is unplugged, and the
Start button is clicked. -/
def selectAndRestart : List Action :=
  [.uiEvent (.deviceListBoxSelected 1), .ui, .ui, .ui, .senderCreated true, .senderRun true,
    .grabberCreated (some ((320, 240), (640, 480))), .ui,
    .grabberStarted (some .alive) true, .ui, .threadEnds, .updateUI, .plug 2,
    .uiEvent .grabberStartClick, .ui, .ui, .yieldReturns, .ui, .ui, .ui,
    .senderCreated true, .senderRun true,
    .grabberCreated (some ((320, 240), (640, 480)))]

theorem selectAndRestart_existing :
    ∃ s, exec step (shown 3) selectAndRestart = some s ∧ s.requests = [(1, 3), (1, 2)] ∧
      ExistingDevices s :=
  ⟨_, rfl, rfl, grabbers_for_existing_devices 3 selectAndRestart _ (by decide) rfl⟩

/-- The only device is unplugged and then selected in the old list: 0 is the device count. -/
def selectUnplugged : List Action :=
  [.plug 0, .uiEvent (.deviceListBoxSelected 0), .ui, .ui, .ui, .senderCreated true,
    .senderRun true, .grabberCreated (some ((320, 240), (640, 480)))]

theorem selectUnplugged_not_existing :
    ∃ s, exec step (shown 1) selectUnplugged = some s ∧ s.requests = [(0, 0)] ∧
      ¬ ExistingDevices s :=
  ⟨_, rfl, rfl, by decide⟩

section Excluded

variable (s : State)

/-- What a start comes to from `StopGrabbing` on, when there is nothing to stop. -/
theorem starts_stopped (hpc : s.pc = .stopGrabbing .startGrabbing) (hg : s.grabber = none)
    (hs : s.dataSender = none) (hrange : ¬ s.selectedDeviceIndex < s.deviceCount) :
    ∃ t, exec step s [.ui, .ui, .ui, .senderCreated true, .senderRun true, .grabberCreated none] =
      some t ∧ ¬ ExistingDevices t := by
  let t : State := { s with
    grabber := none
    dataSender := some .running
    canvases := .noImage
    allocated := s.allocated + 1
    requests := s.requests ++ [(s.selectedDeviceIndex, s.deviceCount)]
    pc := .showingImages }
  refine ⟨t, ?_, ?_⟩
  · simp [exec, step, uiStep, releaseSender, Caller.next, State.goto, hpc, hg, hs, t]
  · intro h
    exact hrange (h (s.selectedDeviceIndex, s.deviceCount) (by simp [t])).2

/-- An item that carries the device count is not refused. -/
theorem select_count (item : Nat) (hpc : s.pc = .dispatching)
    (hitem : s.deviceListBox[item]? = some s.deviceCount) (hg : s.grabber = none)
    (hs : s.dataSender = none) :
    ∃ t, exec step s (.uiEvent (.deviceListBoxSelected item) :: [.ui, .ui, .ui,
      .senderCreated true, .senderRun true, .grabberCreated none]) = some t ∧
      ¬ ExistingDevices t := by
  have hselect : step s (.uiEvent (.deviceListBoxSelected item)) = some { s with
      selectedDeviceIndex := s.deviceCount, pc := .stopGrabbing .startGrabbing } := by
    simp [step, handle, hpc, hitem]
  rw [exec_cons, hselect, Option.bind_some]
  exact starts_stopped _ rfl hg hs (lt_irrefl _)

/-- The Start button stays enabled for a device that has been unplugged. -/
theorem start_unplugged (count : Nat) (hpc : s.pc = .dispatching) (hyields : s.yields = [])
    (henabled : s.startEnabled = true) (hcount : count ≤ s.selectedDeviceIndex)
    (hg : s.grabber = none) (hs : s.dataSender = none) :
    ∃ t, exec step s (.plug count :: .uiEvent .grabberStartClick :: [.ui, .ui, .ui,
      .senderCreated true, .senderRun true, .grabberCreated none]) = some t ∧
      ¬ ExistingDevices t := by
  have hplug : step s (.plug count) = some { s with deviceCount := count } := by
    simp [step, hpc, hyields]
  have hclick : step { s with deviceCount := count } (.uiEvent .grabberStartClick) =
      some { s with deviceCount := count, pc := .stopGrabbing .startGrabbing } := by
    simp [step, handle, State.goto, hpc, henabled]
  rw [exec_cons, hplug, Option.bind_some, exec_cons, hclick, Option.bind_some]
  exact starts_stopped _ rfl hg hs (not_lt.mpr hcount)

end Excluded

end KinectHelper.GrabbingSession
