import KinectHelper.WxKinectHelper.KinectGrabberFreenect

namespace KinectHelper.KinectGrabberFreenect

/-- Every entry of `DeviceHash` maps its device to a grabber that has not been deleted and whose
`m_Device` is that device. -/
def NoDeadGrabber (w : World) : Prop :=
  ∀ d p, w.deviceHash d = some p →
    ∃ q g, p = some q ∧ w.grabbers q = some g ∧ g.device = some d

/-- The grabbers there are: none but `current`, with its device registered. -/
structure Owned (w : World) (current : Option Nat) : Prop where
  live : ∀ p g, w.grabbers p = some g → current = some p
  entry : NoDeadGrabber w
  registered : ∀ p g d, w.grabbers p = some g → g.device = some d →
    w.deviceHash d = some (some p)

section

variable {w v : World} {current : Option Nat} {p d : Nat} {g g' : Grabber}

theorem World.setGrabber_self : (w.setGrabber p g).grabbers p = some g := Function.update_self _ _ _

theorem World.setGrabber_of_ne {q : Nat} (h : q ≠ p) :
    (w.setGrabber p g).grabbers q = w.grabbers q := Function.update_of_ne h _ _

theorem World.delete_of_ne {q : Nat} (h : q ≠ p) : (w.delete p).grabbers q = w.grabbers q :=
  Function.update_of_ne h _ _

/-- The device of a grabber may be looked up in the hash. -/
theorem Owned.found (h : Owned w current) (hentry : w.deviceHash d ≠ none) :
    ∃ q g, w.deviceHash d = some (some q) ∧ w.grabbers q = some g ∧ g.device = some d := by
  obtain ⟨r, hr⟩ := Option.ne_none_iff_exists'.mp hentry
  obtain ⟨q, g, hq, hg, hdevice⟩ := h.entry d r hr
  exact ⟨q, g, hq ▸ hr, hg, hdevice⟩

/-- A change of a grabber that keeps its device. -/
theorem Owned.setGrabber (h : Owned w current) (hg : w.grabbers p = some g)
    (hdevice : g'.device = g.device) : Owned (w.setGrabber p g') current where
  live := by
    intro q u hu
    by_cases hq : q = p
    · rw [hq]
      exact h.live p g hg
    · exact h.live q u ((World.setGrabber_of_ne hq).symm.trans hu)
  entry := by
    intro d r hr
    obtain ⟨q, u, hrq, hu, hd⟩ := h.entry d r hr
    by_cases hq : q = p
    · subst hq
      obtain rfl : g = u := Option.some.inj (hg.symm.trans hu)
      exact ⟨q, g', hrq, World.setGrabber_self, hdevice.trans hd⟩
    · exact ⟨q, u, hrq, (World.setGrabber_of_ne hq).trans hu, hd⟩
  registered := by
    intro q u d hu hd
    by_cases hq : q = p
    · subst hq
      obtain rfl : g' = u := Option.some.inj (World.setGrabber_self.symm.trans hu)
      exact h.registered q g d hg (hdevice ▸ hd)
    · exact h.registered q u d ((World.setGrabber_of_ne hq).symm.trans hu) hd

theorem receiveDepth_device {data : List UInt16} (h : receiveDepth g data = some g') :
    g'.device = g.device := by
  obtain ⟨buffer, _, hrest⟩ := Option.bind_eq_some_iff.mp h
  obtain ⟨filled, _, hlast⟩ := Option.bind_eq_some_iff.mp hrest
  rw [← Option.some.inj hlast]

/-- A callback for a registered device changes its grabber only, and not its device. -/
theorem Owned.depthCallback (h : Owned w current) (hentry : w.deviceHash d ≠ none)
    {data : List UInt16} (hcall : depthCallback d data w = some v) :
    ∃ q g g', w.grabbers q = some g ∧ g'.device = g.device ∧ v = w.setGrabber q g' := by
  obtain ⟨q, g, hq, hg, _⟩ := h.found hentry
  unfold KinectGrabberFreenect.depthCallback at hcall
  simp only [hq, hg, Option.bind_eq_bind, Option.bind_some] at hcall
  obtain ⟨g', hreceive, hv⟩ := Option.bind_eq_some_iff.mp hcall
  exact ⟨q, g, g', hg, receiveDepth_device hreceive, (Option.some.inj hv).symm⟩

theorem Owned.videoCallback (h : Owned w current) (hentry : w.deviceHash d ≠ none)
    (hcall : videoCallback d w = some v) : v = w := by
  obtain ⟨q, g, hq, hg, _⟩ := h.found hentry
  unfold KinectGrabberFreenect.videoCallback at hcall
  simp only [hq, hg, Option.map_some, Option.some_inj] at hcall
  exact hcall.symm

/-- `Stop` changes its grabber, and the entry of its device. -/
theorem closeDevice_cases (hclose : closeDevice p w = some v) :
    ∃ g, w.grabbers p = some g ∧ (∀ d, g.device ≠ some d → v.deviceHash d = w.deviceHash d) ∧
      ∀ q, q ≠ p → v.grabbers q = w.grabbers q := by
  obtain ⟨g, hg, hrest⟩ := Option.bind_eq_some_iff.mp hclose
  refine ⟨g, hg, ?_⟩
  cases hdevice : g.device with
  | none =>
    simp only [hdevice, Option.some_inj] at hrest
    subst hrest
    exact ⟨fun _ _ => rfl, fun q hq => World.setGrabber_of_ne hq⟩
  | some d =>
    simp only [hdevice, Option.some_inj] at hrest
    subst hrest
    refine ⟨?_, fun q hq => World.setGrabber_of_ne hq⟩
    intro e he
    exact Function.update_of_ne (fun hsame => he (by rw [hsame])) _ _

/-- `Stop` takes the device out of the hash. -/
theorem Owned.closeDevice (h : Owned w current) (hclose : closeDevice p w = some v) :
    Owned v current ∧ (∀ g, v.grabbers p = some g → g.device = none) := by
  obtain ⟨g, hg, hrest⟩ := Option.bind_eq_some_iff.mp hclose
  set g' : Grabber := { g with
    depthBuffers := fun _ => none
    depthBufferLength := 0
    device := none }
  cases hdevice : g.device with
  | none =>
    simp only [hdevice, Option.some_inj] at hrest
    subst hrest
    refine ⟨h.setGrabber hg hdevice.symm, ?_⟩
    intro u hu
    obtain rfl : g' = u := Option.some.inj (World.setGrabber_self.symm.trans hu)
    rfl
  | some d =>
    simp only [hdevice, Option.some_inj] at hrest
    subst hrest
    have hmine := h.registered p g d hg hdevice
    refine ⟨⟨?_, ?_, ?_⟩, ?_⟩
    · intro q u hu
      by_cases hq : q = p
      · rw [hq]
        exact h.live p g hg
      · exact h.live q u ((World.setGrabber_of_ne hq).symm.trans hu)
    · intro e r hr
      have he : e ≠ d := by
        intro hsame
        subst hsame
        exact nomatch (Function.update_self _ _ _).symm.trans hr
      obtain ⟨q, u, hrq, hu, hd⟩ := h.entry e r ((Function.update_of_ne he _ _).symm.trans hr)
      have hq : q ≠ p := by
        intro hsame
        subst hsame
        obtain rfl : g = u := Option.some.inj (hg.symm.trans hu)
        exact he (Option.some.inj (hd.symm.trans hdevice))
      exact ⟨q, u, hrq, (World.setGrabber_of_ne hq).trans hu, hd⟩
    · intro q u e hu hd
      have hq : q ≠ p := by
        intro hsame
        subst hsame
        obtain rfl : g' = u := Option.some.inj (World.setGrabber_self.symm.trans hu)
        cases hd
      have hentry := h.registered q u e ((World.setGrabber_of_ne hq).symm.trans hu) hd
      have he : e ≠ d := by
        intro hsame
        subst hsame
        rw [hmine] at hentry
        exact hq (Option.some.inj (Option.some.inj hentry)).symm
      exact (Function.update_of_ne he _ _).trans hentry
    · intro u hu
      obtain rfl : g' = u := Option.some.inj (World.setGrabber_self.symm.trans hu)
      rfl

/-- Without a registered grabber there are no entries. -/
theorem Owned.no_entry (h : Owned w current)
    (hidle : ∀ p g, w.grabbers p = some g → g.device = none) (d : Nat) : w.deviceHash d = none := by
  by_contra hentry
  obtain ⟨q, g, _, hg, hdevice⟩ := h.found hentry
  rw [hidle q g hg] at hdevice
  cases hdevice

theorem Owned.delete (h : Owned w current) (hg : w.grabbers p = some g)
    (hdevice : g.device = none) :
    Owned (w.delete p) none ∧ ∀ d, w.deviceHash d = none := by
  have hall : ∀ q u, w.grabbers q = some u → q = p := by
    intro q u hu
    exact Option.some.inj ((h.live q u hu).symm.trans (h.live p g hg))
  have hgone : ∀ q, (w.delete p).grabbers q = none := by
    intro q
    by_cases hq : q = p
    · subst hq
      exact Function.update_self _ _ _
    · rw [World.delete_of_ne hq, Option.eq_none_iff_forall_ne_some]
      intro u hu
      exact hq (hall q u hu)
  have hempty := h.no_entry fun q u hu => by
    obtain rfl := hall q u hu
    obtain rfl : g = u := Option.some.inj (hg.symm.trans hu)
    exact hdevice
  refine ⟨⟨?_, ?_, ?_⟩, hempty⟩
  · intro q u hu
    rw [hgone q] at hu
    cases hu
  · intro d r hr
    exact nomatch (hempty d).symm.trans hr
  · intro q u d hu
    rw [hgone q] at hu
    cases hu

theorem Owned.create (h : Owned w none) (hdevice : g.device = none) :
    Owned (w.setGrabber p g) (some p) := by
  have hold : ∀ q, w.grabbers q = none := by
    intro q
    rw [Option.eq_none_iff_forall_ne_some]
    intro u hu
    exact nomatch h.live q u hu
  have hmine : ∀ q u, (w.setGrabber p g).grabbers q = some u → q = p ∧ u = g := by
    intro q u hu
    by_cases hq : q = p
    · subst hq
      exact ⟨rfl, Option.some.inj (hu.symm.trans World.setGrabber_self)⟩
    · exact nomatch (hold q).symm.trans ((World.setGrabber_of_ne hq).symm.trans hu)
  refine ⟨?_, ?_, ?_⟩
  · intro q u hu
    rw [(hmine q u hu).1]
  · intro d r hr
    exact nomatch (h.no_entry (fun q u hu => nomatch (hold q).symm.trans hu) d).symm.trans hr
  · intro q u d hu hd
    rw [(hmine q u hu).2, hdevice] at hd
    cases hd

/-- What `Start` does to the world. -/
theorem start_cases {r : StartResults} {ok : Bool} (hg : w.grabbers p = some g)
    (hstart : start p r w = some (v, ok)) :
    (ok = false ∧ (v = w ∨ v = w.setGrabber p { g with thread := .created })) ∨
    (ok = true ∧ ∃ d g', r.openDevice = some d ∧ g'.device = some d ∧
      v = { w.setGrabber p g' with
        deviceHash := Function.update w.deviceHash d (some (some p)) }) := by
  unfold KinectGrabberFreenect.start at hstart
  rw [hg, Option.bind_eq_bind, Option.bind_some] at hstart
  by_cases hcontext : (!g.context) = true
  · rw [if_pos hcontext] at hstart
    cases hstart
    exact Or.inl ⟨rfl, Or.inl rfl⟩
  rw [if_neg hcontext] at hstart
  by_cases hthread : (!r.createThread) = true
  · rw [if_pos hthread] at hstart
    cases hstart
    exact Or.inl ⟨rfl, Or.inr rfl⟩
  rw [if_neg hthread] at hstart
  cases hopen : r.openDevice with
  | none =>
    rw [hopen] at hstart
    cases hstart
    exact Or.inl ⟨rfl, Or.inr rfl⟩
  | some d =>
    rw [hopen] at hstart
    obtain ⟨length, _, hlast⟩ := Option.bind_eq_some_iff.mp hstart
    cases hlast
    exact Or.inr ⟨rfl, d, _, rfl, rfl, rfl⟩

/-- `Start` registers an open device, or fails. -/
theorem Owned.start (h : Owned w (some p)) (hg : w.grabbers p = some g) (hdevice : g.device = none)
    {r : StartResults} {ok : Bool} (hstart : start p r w = some (v, ok)) : Owned v (some p) := by
  rcases start_cases hg hstart with ⟨_, hv | hv⟩ | ⟨_, d, g', _, hd, hv⟩
  · rwa [hv]
  · rw [hv]
    exact h.setGrabber hg rfl
  · have hmine : ∀ q u, v.grabbers q = some u → q = p ∧ u = g' := by
      intro q u hu
      rw [hv] at hu
      by_cases hq : q = p
      · subst hq
        exact ⟨rfl, Option.some.inj (hu.symm.trans World.setGrabber_self)⟩
      · exact absurd (h.live q u ((World.setGrabber_of_ne hq).symm.trans hu))
          (by simpa using Ne.symm hq)
    have hself : v.grabbers p = some g' := by
      rw [hv]
      exact World.setGrabber_self
    refine ⟨?_, ?_, ?_⟩
    · intro q u hu
      rw [(hmine q u hu).1]
    · intro e r hr
      have hempty := h.no_entry (fun q u hu => by
        obtain rfl : p = q := Option.some.inj (h.live q u hu)
        obtain rfl : g = u := Option.some.inj (hg.symm.trans hu)
        exact hdevice) e
      by_cases he : e = d
      · subst he
        rw [hv] at hr
        have hp : some (some p) = some r := (Function.update_self e _ w.deviceHash).symm.trans hr
        exact ⟨p, g', (Option.some.inj hp).symm, hself, hd⟩
      · rw [hv] at hr
        exact nomatch hempty.symm.trans ((Function.update_of_ne he _ _).symm.trans hr)
    · intro q u e hu he
      obtain ⟨rfl, rfl⟩ := hmine q u hu
      obtain rfl : d = e := Option.some.inj (hd.symm.trans he)
      rw [hv]
      exact Function.update_self _ _ _

end

end KinectHelper.KinectGrabberFreenect
