import KinectHelper.KinectTest.GrabbingSession

namespace KinectHelper.GrabbingSession

def Started (s : State) : Prop := ∃ g, s.grabber = some g ∧ g.isStarted = true

structure Clean (s : State) : Prop where
  grabber : s.grabber = none
  dataSender : s.dataSender = none
  canvases : s.canvases = .noImage

/-- The `StopGrabbing` is one that `StartGrabbing` calls. -/
def Caller.starts : Caller → Bool
  | .startGrabbing | .startFailed => true
  | .handler | .showDevices | .destructor => false

/-- `StartGrabbing` uses no bad pointer, and it returns with a started grabber or in the clean
stopped state. -/
def StartsOrCleans (s : State) : Prop :=
  (∀ p k, s.pc = .fault p k → k.starts = false) ∧ (s.pc = .startReturned → Started s ∨ Clean s)

/-- `OnDEVICELISTBOXSelected` breaks at its check. -/
def refused (s : State) : UiEvent → Bool
  | .deviceListBoxSelected item => s.deviceListBox[item]?.any fun i => decide (s.deviceCount < i)
  | .grabberStartClick | .grabberStopClick | .refreshClick | .destroyed => false

/-- `Create` succeeds, `CreateGrabber` returns a grabber, and when `Start` returns true its thread
is alive and stays so until `StartGrabbing` returns. No handler comes to `StopGrabbing` in the
`wxYield` of a `StartGrabbing`, and the sender that a `StartGrabbing` releases has not ended. -/
def Succeeds (s : State) : Action → Prop
  | .senderCreated noError => noError = true
  | .grabberCreated sizes => sizes ≠ none
  | .grabberStarted thread result => result = true → thread = some .alive
  | .threadEnds => s.pc ≠ .startReturned
  | .uiEvent e => refused s e = true ∨ ∀ c ∈ s.yields, c.caller.starts = false
  | .ui => (s.pc ≠ .releasingSender .startGrabbing ∧ s.pc ≠ .releasingSender .startFailed) ∨
      s.dataSender ≠ some .deleted
  | .plug _ | .senderEnds | .updateUI | .yieldReturns | .senderRun _ => True

instance (s : State) : ∀ a, Decidable (Succeeds s a)
  | .senderCreated noError => inferInstanceAs (Decidable (noError = true))
  | .grabberCreated sizes => inferInstanceAs (Decidable (sizes ≠ none))
  | .grabberStarted thread result =>
      inferInstanceAs (Decidable (result = true → thread = some .alive))
  | .threadEnds => inferInstanceAs (Decidable (s.pc ≠ .startReturned))
  | .uiEvent e => inferInstanceAs (Decidable (refused s e = true ∨ _))
  | .ui => inferInstanceAs (Decidable (_ ∨ s.dataSender ≠ some .deleted))
  | .plug _ | .senderEnds | .updateUI | .yieldReturns | .senderRun _ => isTrue trivial

/-- What is known at a position of the UI thread. -/
def Pc.Facts (s : State) : Pc → Prop
  | .stopThread c => c.caller.starts = true → s.live c.this ≠ none
  | .resetting this k | .freeing this k => k.starts = true → s.live this ≠ none
  | .clearingCanvases _ => s.grabber = none
  | .releasingSender _ => s.grabber = none ∧ s.canvases = .noImage
  | .runningSender => s.dataSender ≠ none
  | .showingImages | .startingGrabber => s.grabber ≠ none
  | .startReturned => Started s ∨ Clean s
  | .fault _ k => k.starts = false
  | .dispatching | .stopGrabbing _ | .fillingList | .creatingSender | .creatingGrabber
  | .closed => True

/-- Only the innermost `wxYield` can be one of `StartGrabbing`; its grabber is not deleted. -/
structure Waiting (s : State) : Prop where
  innermost : ∀ c cs, s.yields = c::cs → c.caller.starts = true →
    s.pc = .dispatching ∧ s.live c.this ≠ none
  outer : ∀ c cs, s.yields = c::cs → ∀ d ∈ cs, d.caller.starts = false

structure Inv (s : State) : Prop where
  facts : s.pc.Facts s
  waiting : Waiting s

section Steps

variable {s t : State}

theorem Clean.next (h : Clean s) (k : Caller) : k.next.Facts s := by
  cases k with
  | handler => trivial
  | showDevices => trivial
  | startGrabbing => trivial
  | startFailed => exact Or.inr h
  | destructor => trivial

theorem StopThread.next_facts {c : StopThread} {s : State}
    (h : c.caller.starts = true → s.live c.this ≠ none) : c.next.Facts s := by
  unfold StopThread.next
  cases c.site with
  | stop => exact h
  | destructor => exact h

theorem Inv.facts_at {pc : Pc} (h : Inv s) (hpc : s.pc = pc) : pc.Facts s := by
  have hfacts := h.facts
  rwa [hpc] at hfacts

/-- Away from the event loop, no `wxYield` of a `StartGrabbing` waits. -/
theorem Waiting.quiet (h : Waiting s) (hpc : s.pc ≠ .dispatching) :
    ∀ c ∈ s.yields, c.caller.starts = false := by
  intro c hc
  cases hyields : s.yields with
  | nil =>
    rw [hyields] at hc
    exact absurd hc List.not_mem_nil
  | cons d ds =>
    rw [hyields] at hc
    rcases List.mem_cons.mp hc with rfl | hrest
    · by_contra hstarts
      exact hpc (h.innermost c ds hyields (eq_true_of_ne_false hstarts)).1
    · exact h.outer d ds hyields c hrest

theorem Waiting.of_quiet (h : ∀ c ∈ s.yields, c.caller.starts = false) : Waiting s where
  innermost := by
    intro c cs hyields hstarts
    have hc := h c (by rw [hyields]; exact List.mem_cons_self)
    exact absurd hstarts (by simp [hc])
  outer := by
    intro c cs hyields d hd
    exact h d (by rw [hyields]; exact List.mem_cons_of_mem c hd)

/-- A step that stays away from the event loop and leaves the calls that wait. -/
theorem Waiting.keep (h : Waiting s) (hpc : s.pc ≠ .dispatching) (hyields : t.yields = s.yields) :
    Waiting t := by
  apply Waiting.of_quiet
  rw [hyields]
  exact h.quiet hpc

/-- A step of another thread, which deletes no grabber. -/
theorem Waiting.same (h : Waiting s) (hpc : t.pc = s.pc) (hyields : t.yields = s.yields)
    (hlive : ∀ this, s.live this ≠ none → t.live this ≠ none) : Waiting t where
  innermost := by
    intro c cs hc hstarts
    rw [hyields] at hc
    obtain ⟨hdispatching, hc⟩ := h.innermost c cs hc hstarts
    exact ⟨hpc.trans hdispatching, hlive _ hc⟩
  outer := by
    rw [hyields]
    exact h.outer

theorem live_address {g : Grabber} (hg : s.grabber = some g) : s.live g.address = some g := by
  simp [State.live, hg]

/-- The grabber at its address is the same one with another thread. -/
theorem live_update {g : Grabber} (hg : s.grabber = some g) (thread : Option Thread)
    (ht : t.grabber = some { g with thread := thread }) (this : Nat)
    (h : s.live this ≠ none) : t.live this ≠ none := by
  have haddress : g.address = this := by
    by_contra hne
    exact h (by simp [State.live, hg, hne])
  simp [State.live, ht, haddress]

theorem live_some {this : Nat} {g : Grabber} (h : s.live this = some g) :
    s.grabber = some g ∧ g.address = this := by
  obtain ⟨hg, hthis⟩ := Option.filter_eq_some_iff.mp h
  exact ⟨hg, of_decide_eq_true hthis⟩

theorem inv_showImages (h : Inv s) (hpc : s.pc = .showingImages) : Inv (showImages s) := by
  have hgrabber : s.grabber ≠ none := h.facts_at hpc
  have haway : s.pc ≠ .dispatching := by simp [hpc]
  unfold showImages
  cases hg : s.grabber with
  | none => exact absurd hg hgrabber
  | some g =>
    rw [hg] at hgrabber
    exact ⟨hgrabber, h.waiting.keep haway rfl⟩

theorem inv_freedGrabber (h : Inv s) {this : Nat} {k : Caller}
    (hpc : s.pc.uses = some (this, k)) (hfreed : s.live this = none) :
    Inv (s.goto (.fault .freed k)) := by
  have hfacts := h.facts
  cases hat : s.pc with
  | stopThread c =>
    rw [hat] at hpc hfacts
    obtain ⟨rfl, rfl⟩ := Prod.mk.inj (Option.some.inj hpc)
    refine ⟨?_, h.waiting.keep (by simp [hat]) rfl⟩
    by_contra hstarts
    exact hfacts (eq_true_of_ne_false hstarts) hfreed
  | resetting this' k' =>
    rw [hat] at hpc hfacts
    obtain ⟨rfl, rfl⟩ := Prod.mk.inj (Option.some.inj hpc)
    refine ⟨?_, h.waiting.keep (by simp [hat]) rfl⟩
    by_contra hstarts
    exact hfacts (eq_true_of_ne_false hstarts) hfreed
  | freeing this' k' =>
    rw [hat] at hpc hfacts
    obtain ⟨rfl, rfl⟩ := Prod.mk.inj (Option.some.inj hpc)
    refine ⟨?_, h.waiting.keep (by simp [hat]) rfl⟩
    by_contra hstarts
    exact hfacts (eq_true_of_ne_false hstarts) hfreed
  | _ => simp [hat, Pc.uses] at hpc

/-- The `wxYield` of a call becomes the innermost one. -/
theorem inv_yield (h : Inv s) {c : StopThread} (hpc : s.pc = .stopThread c) {g : Grabber}
    (hg : s.live c.this = some g) : Inv (s.callYield g c) := by
  obtain ⟨_, haddress⟩ := live_some hg
  have hquiet := h.waiting.quiet (by simp [hpc])
  refine ⟨trivial, ?_, ?_⟩
  · intro d ds hyields _
    obtain ⟨rfl, rfl⟩ := List.cons.inj hyields
    exact ⟨rfl, by simp [State.live, State.callYield, haddress]⟩
  · intro d ds hyields
    obtain ⟨rfl, rfl⟩ := List.cons.inj hyields
    exact hquiet

theorem inv_uiMove (h : Inv s) (hgood : Succeeds s .ui) (hmove : UiMove s t) : Inv t := by
  cases hmove with
  | noGrabber k hpc hg => exact ⟨hg, h.waiting.keep (by simp [hpc]) rfl⟩
  | callStop k hpc g hg site =>
    refine ⟨fun _ => ?_, h.waiting.keep (by simp [hpc]) rfl⟩
    have hlive : (s.goto (.stopThread ⟨site, g.address, k⟩)).live g.address = some g :=
      live_address hg
    simp [hlive]
  | freedGrabber this k hpc hfreed => exact inv_freedGrabber h hpc hfreed
  | freedSender k hpc hfreed =>
    refine ⟨?_, h.waiting.keep (by simp [hpc]) rfl⟩
    rcases hgood with ⟨hstart, hfailed⟩ | hsender
    · cases k with
      | startGrabbing => exact absurd hpc hstart
      | startFailed => exact absurd hpc hfailed
      | handler => exact rfl
      | showDevices => exact rfl
      | destructor => exact rfl
    · exact absurd hfreed hsender
  | yield c hpc g hg => exact inv_yield h hpc hg
  | callDestructor this k hpc g hg =>
    refine ⟨fun hstarts => ?_, h.waiting.keep (by simp [hpc]) rfl⟩
    have hlive : s.live this ≠ none := h.facts_at hpc hstarts
    exact hlive
  | delete this k hpc => exact ⟨rfl, h.waiting.keep (by simp [hpc]) rfl⟩
  | clear k hpc =>
    have hgrabber : s.grabber = none := h.facts_at hpc
    exact ⟨⟨hgrabber, rfl⟩, h.waiting.keep (by simp [hpc]) rfl⟩
  | release k hpc =>
    obtain ⟨hgrabber, hcanvases⟩ := h.facts_at hpc
    let u : State := { s with dataSender := none, pc := k.next }
    have hclean : Clean u := ⟨hgrabber, rfl, hcanvases⟩
    exact ⟨hclean.next k, h.waiting.keep (by simp [hpc]) rfl⟩
  | fill hpc => exact ⟨trivial, h.waiting.keep (by simp [hpc]) rfl⟩
  | display hpc => exact inv_showImages h hpc
  | finish hpc => exact ⟨trivial, h.waiting.keep (by simp [hpc]) rfl⟩

/-- The end of the thread leaves the facts as they are, except that the grabber is not started. -/
theorem inv_threadEnds {g : Grabber} (h : Inv s) (hgood : s.pc ≠ .startReturned)
    (hg : s.grabber = some g) :
    Inv { s with grabber := some { g with thread := some .ended } } := by
  have hsome : s.grabber ≠ none := by simp [hg]
  let u : State := { s with grabber := some { g with thread := some .ended } }
  have hlive : ∀ this, s.live this ≠ none → u.live this ≠ none := live_update hg _ rfl
  refine ⟨?_, h.waiting.same rfl rfl hlive⟩
  dsimp only
  have hfacts := h.facts
  cases hpc : s.pc with
  | stopThread c =>
    rw [hpc] at hfacts
    exact fun hstarts => hlive _ (hfacts hstarts)
  | resetting this k =>
    rw [hpc] at hfacts
    exact fun hstarts => hlive _ (hfacts hstarts)
  | freeing this k =>
    rw [hpc] at hfacts
    exact fun hstarts => hlive _ (hfacts hstarts)
  | clearingCanvases k => exact absurd (h.facts_at hpc) hsome
  | releasingSender k => exact absurd (h.facts_at hpc).1 hsome
  | startReturned => exact absurd hpc hgood
  | showingImages => exact (Option.some_ne_none _ : u.grabber ≠ none)
  | startingGrabber => exact (Option.some_ne_none _ : u.grabber ≠ none)
  | runningSender => exact h.facts_at hpc
  | fault p k => exact h.facts_at hpc
  | _ => trivial

theorem inv_senderEnds (h : Inv s) (hrunning : s.dataSender = some .running) :
    Inv { s with dataSender := some .deleted } := by
  refine ⟨?_, h.waiting.same rfl rfl fun _ => id⟩
  dsimp only
  cases hpc : s.pc with
  | runningSender => exact Option.some_ne_none _
  | startReturned =>
    rcases h.facts_at hpc with hstarted | hclean
    · exact Or.inl hstarted
    · simp [hclean.dataSender] at hrunning
  | _ => exact h.facts_at hpc

/-- A handler comes to `StopGrabbing`. -/
theorem inv_handler (hquiet : ∀ c ∈ s.yields, c.caller.starts = false) {u : State} {k : Caller}
    (hyields : u.yields = s.yields) (hpc : u.pc = .stopGrabbing k) : Inv u := by
  constructor
  · rw [hpc]
    trivial
  · apply Waiting.of_quiet
    rwa [hyields]

theorem quiet_of_succeeds {e : UiEvent} (hgood : Succeeds s (.uiEvent e))
    (hhandled : refused s e = false) : ∀ c ∈ s.yields, c.caller.starts = false := by
  rcases hgood with hrefused | hquiet
  · simp [hhandled] at hrefused
  · exact hquiet

theorem inv_step {a : Action} (h : Inv s) (hgood : Succeeds s a) (ht : step s a = some t) :
    Inv t := by
  cases step_move ht with
  | plug count hpc hyields =>
    refine ⟨?_, h.waiting.same rfl rfl fun _ => id⟩
    simp [hpc, Pc.Facts]
  | threadEnds g hg => exact inv_threadEnds h hgood hg
  | senderEnds hrunning => exact inv_senderEnds h hrunning
  | updateUI hpc =>
    refine ⟨?_, h.waiting.same rfl rfl fun _ => id⟩
    simp [updateUI, hpc, Pc.Facts]
  | refuse item => exact h
  | select item deviceIndex hpc hitem hcount =>
    refine inv_handler (quiet_of_succeeds hgood ?_) rfl rfl
    simpa [refused, hitem] using hcount
  | startClick hpc henabled => exact inv_handler (quiet_of_succeeds hgood rfl) rfl rfl
  | stopClick hpc => exact inv_handler (quiet_of_succeeds hgood rfl) rfl rfl
  | refreshClick hpc => exact inv_handler (quiet_of_succeeds hgood rfl) rfl rfl
  | destroyed hpc => exact inv_handler (quiet_of_succeeds hgood rfl) rfl rfl
  | yieldReturns hpc c cs hyields =>
    refine ⟨StopThread.next_facts fun hstarts => ?_, Waiting.of_quiet ?_⟩
    · exact (h.waiting.innermost c cs hyields hstarts).2
    · exact h.waiting.outer c cs hyields
  | ui _ hmove => exact inv_uiMove h hgood hmove
  | senderCreated noError hpc =>
    have hcreated : noError = true := hgood
    refine ⟨?_, h.waiting.keep (by simp [hpc]) rfl⟩
    simp [Pc.Facts, hcreated]
  | runNull noError hpc hs => exact absurd hs (h.facts_at hpc)
  | senderRun noError hpc sender => exact ⟨trivial, h.waiting.keep (by simp [hpc]) rfl⟩
  | grabberCreated sizes hpc =>
    have hsizes : sizes ≠ none := hgood
    refine ⟨?_, h.waiting.keep (by simp [hpc]) rfl⟩
    simpa [Pc.Facts] using hsizes
  | startNull thread result hpc hg => exact absurd hg (h.facts_at hpc)
  | grabberStarted thread result hpc g =>
    refine ⟨?_, h.waiting.keep (by simp [hpc]) rfl⟩
    cases result with
    | true =>
      have hthread : thread = some .alive := hgood rfl
      exact Or.inl ⟨{ g with thread := thread }, rfl, decide_eq_true hthread⟩
    | false => trivial

end Steps

section Failures

variable (s : State)

/-- A `StartGrabbing` that has stopped before a bad pointer. -/
theorem not_startsOrCleans {s : State} {p : BadPointer} {k : Caller} (hpc : s.pc = .fault p k)
    (hstarts : k.starts = true) : ¬ StartsOrCleans s := by
  intro h
  exact absurd (h.1 p k hpc) (by simp [hstarts])

/-- A `StartGrabbing` that returns with a grabber whose thread is not alive. -/
theorem not_started {s : State} {g : Grabber} (hpc : s.pc = .startReturned)
    (hg : s.grabber = some g) (hthread : g.thread ≠ some .alive) : ¬ StartsOrCleans s := by
  intro h
  rcases h.2 hpc with ⟨u, hu, hstarted⟩ | hclean
  · obtain rfl := Option.some.inj (hg.symm.trans hu)
    exact hthread (of_decide_eq_true hstarted)
  · simp [hclean.grabber] at hg

theorem create_fails (hpc : s.pc = .creatingSender) (noError : Bool) :
    ∃ t, exec step s [.senderCreated false, .senderRun noError] = some t ∧ ¬ StartsOrCleans t := by
  refine ⟨{ s with dataSender := none, pc := .fault .null .startGrabbing }, ?_,
    not_startsOrCleans rfl rfl⟩
  simp [exec, step, hpc, State.goto]

theorem createGrabber_fails (hpc : s.pc = .creatingGrabber) :
    ∃ t, exec step s [.grabberCreated none, .ui] = some t ∧ ¬ StartsOrCleans t := by
  have hstep : step s (.grabberCreated none) = some { s with
      grabber := none
      allocated := s.allocated + 1
      requests := s.requests ++ [(s.selectedDeviceIndex, s.deviceCount)]
      pc := .showingImages } := by
    simp [step, hpc]
  refine ⟨_, by rw [exec_cons, hstep]; rfl, not_startsOrCleans rfl rfl⟩

theorem run_fails (hpc : s.pc = .startingGrabber) (g : Grabber) (hg : s.grabber = some g)
    (thread : Option Thread) (hthread : thread ≠ some .alive) :
    ∃ t, step s (.grabberStarted thread true) = some t ∧ ¬ StartsOrCleans t := by
  refine ⟨{ s with
    grabber := some { g with thread := thread }, pc := .startReturned }, ?_,
    not_started rfl rfl hthread⟩
  simp [step, hpc, hg]

theorem thread_ends (hpc : s.pc = .startReturned) (g : Grabber) (hg : s.grabber = some g)
    (hstarted : g.isStarted = true) :
    ∃ t, step s .threadEnds = some t ∧ ¬ StartsOrCleans t := by
  refine ⟨{ s with grabber := some { g with thread := some .ended } }, ?_,
    not_started hpc rfl (by simp)⟩
  simp [step, hg, hstarted]

theorem sender_has_ended (k : Caller) (hk : k.starts = true) (hpc : s.pc = .releasingSender k)
    (hs : s.dataSender = some .deleted) :
    ∃ t, step s .ui = some t ∧ ¬ StartsOrCleans t := by
  refine ⟨s.goto (.fault .freed k), ?_, not_startsOrCleans rfl hk⟩
  simp [step, uiStep, releaseSender, hpc, hs]

/-- `StopGrabbing`, called by `ShowDevices` with a grabber that is not started, comes to the
list. -/
theorem showDevices_stops (hpc : s.pc = .stopGrabbing .showDevices) (g : Grabber)
    (hg : s.grabber = some g) (hstopped : g.isStarted = false)
    (hs : s.dataSender ≠ some .deleted) :
    exec step s [.ui, .ui, .yieldReturns, .ui, .ui, .ui] = some { s with
      grabber := none, canvases := .noImage, dataSender := none, pc := .fillingList } := by
  let c : StopThread := ⟨.destructor, g.address, .showDevices⟩
  let stopping := s.goto (.stopThread c)
  let freeing : State := { s with
    grabber := some { g with thread := none }, pc := .freeing g.address .showDevices }
  let releasing : State := { s with
    grabber := none, canvases := .noImage, pc := .releasingSender .showDevices }
  have hlive : stopping.live c.this = some g := live_address hg
  have hlive' : freeing.live g.address = some { g with thread := none } :=
    @live_address freeing { g with thread := none } rfl
  have hcall : step s .ui = some stopping := by
    simp [step, uiStep, hpc, hg, hstopped, stopping, c]
  have hyield : step stopping .ui = some (stopping.callYield g c) := by
    rw [step, uiStep]
    simp [stopping, State.goto] at hlive ⊢
    simp [hlive, hstopped]
  have hreturn : step (stopping.callYield g c) .yieldReturns = some freeing := rfl
  have hdelete : step freeing .ui =
      some { freeing with grabber := none, pc := .clearingCanvases .showDevices } := by
    rw [step, uiStep]
    simp [freeing] at hlive' ⊢
    simp [hlive']
  have hrelease : releaseSender releasing .showDevices =
      { releasing with dataSender := none, pc := .fillingList } := by
    unfold releaseSender
    cases hsender : releasing.dataSender with
    | none => rfl
    | some sender =>
      cases sender with
      | created => rfl
      | running => rfl
      | deleted => exact absurd hsender hs
  rw [exec_cons, hcall, Option.bind_some, exec_cons, hyield, Option.bind_some, exec_cons, hreturn,
    Option.bind_some, exec_cons, hdelete]
  exact congrArg some hrelease

/-- In the `wxYield` of a `StartGrabbing`, the handler of the refresh button deletes the grabber. -/
theorem refresh_in_yield (c : StopThread) (cs : List StopThread) (hc : c.caller.starts = true)
    (hpc : s.pc = .dispatching) (hyields : s.yields = c::cs) (g : Grabber)
    (hg : s.grabber = some g) (hstopped : g.isStarted = false)
    (hs : s.dataSender ≠ some .deleted) :
    ∃ t, exec step s (.uiEvent .refreshClick :: [.ui, .ui, .yieldReturns, .ui, .ui, .ui] ++
      [.ui, .yieldReturns, .ui]) = some t ∧ ¬ StartsOrCleans t := by
  let filled : State := { s with
    grabber := none
    canvases := .noImage
    dataSender := none
    deviceListBox := List.range s.deviceCount
    pc := .dispatching }
  have hclick : step s (.uiEvent .refreshClick) = some (s.goto (.stopGrabbing .showDevices)) := by
    simp [step, handle, hpc]
  have hstops := showDevices_stops (s.goto (.stopGrabbing .showDevices)) rfl g hg hstopped hs
  have hreturn : step filled .yieldReturns = some { filled with pc := c.next, yields := cs } := by
    simp [step, filled, hyields]
  refine ⟨{ filled with pc := .fault .freed c.caller, yields := cs }, ?_,
    not_startsOrCleans rfl hc⟩
  have hresume : step { filled with pc := c.next, yields := cs } .ui =
      some { filled with pc := .fault .freed c.caller, yields := cs } := by
    unfold StopThread.next
    cases c.site with
    | stop => rfl
    | destructor => rfl
  rw [List.cons_append, exec_cons, hclick, Option.bind_some, exec_append, hstops, Option.bind_some,
    exec_cons, show step _ .ui = some filled from rfl, Option.bind_some, exec_cons, hreturn,
    Option.bind_some, exec_cons, hresume, Option.bind_some, exec_nil]

end Failures

end KinectHelper.GrabbingSession
