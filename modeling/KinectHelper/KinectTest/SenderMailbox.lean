import KinectHelper.Framework.Lock
import KinectHelper.KinectTest.KinectDataSender

namespace KinectHelper.KinectDataSender

/-- Inside the scope of the `wxCriticalSectionLocker` of `SendKinectData`. -/
def UiPc.holdsLock : UiPc → Bool
  | .deleting _ | .allocating _ | .copying _ | .settingLen _ | .settingType _
  | .settingPrepared _ | .broadcasting | .unlocking => true
  | _ => false

/-- Past the test of `m_bDataPrepared`, and before setting it. -/
def UiPc.sawUnprepared : UiPc → Bool
  | .locking _ | .deleting _ | .allocating _ | .copying _ | .settingLen _ | .settingType _
  | .settingPrepared _ => true
  | _ => false

/-- Between the deletion of the old block and the end of the new slot's assignments. -/
def UiPc.replacing : UiPc → Bool
  | .allocating _ | .copying _ | .settingLen _ | .settingType _ | .settingPrepared _ => true
  | _ => false

/-- Inside the scope of the locker of `Entry`. -/
def SenderPc.holdsLock : SenderPc → Bool
  | .calling | .sendTest .slot _ | .sendBuild .slot _ | .sendRetest .slot _ | .sendMake .slot _
  | .sendDispatch .slot | .clearing | .unlocking => true
  | _ => false

/-- Past the test of `m_bDataPrepared`, and before the copy of the slot. -/
def SenderPc.beforeCopy : SenderPc → Bool
  | .locking | .calling | .sendTest .slot _ | .sendBuild .slot _ => true
  | _ => false

/-- After the request, with `m_bDataPrepared` not cleared yet. -/
def SenderPc.delivered : SenderPc → Bool
  | .sendDispatch .slot | .clearing => true
  | _ => false

namespace State

def inside (s : State) : Thread → Bool
  | .ui => s.ui.holdsLock
  | .sender => s.sender.holdsLock

/-- The mailbox after the calls and requests so far. Connection requests are no takes. -/
def mailbox (s : State) : Option (Option Packet) :=
  Mailbox.replay (Mailbox.ignoring (fun p => p.type ≠ .connectionInit) s.log) none

/-- The three fields of the slot are those of the packet in the mailbox. -/
def SlotFull (s : State) : Prop :=
  ∃ buf, s.rawData = some buf ∧ s.dataLen = buf.bytes.length ∧
    s.mailbox = some (some ⟨buf.bytes, s.dataType⟩)

/-- How far the replacement of the slot has come. -/
def Replaced (s : State) : Prop :=
  match s.ui with
  | .copying p => ∃ buf, s.rawData = some buf ∧ buf.bytes.length = p.data.length
  | .settingLen p =>
      ∃ buf, s.rawData = some buf ∧ buf.bytes = p.data ∧ s.mailbox = some (some p)
  | .settingType p =>
      ∃ buf, s.rawData = some buf ∧ buf.bytes = p.data ∧ s.mailbox = some (some p) ∧
        s.dataLen = p.data.length
  | .settingPrepared p =>
      ∃ buf, s.rawData = some buf ∧ buf.bytes = p.data ∧ s.mailbox = some (some p) ∧
        s.dataLen = p.data.length ∧ s.dataType = p.type
  | _ => True

/-- What `Send` carries. -/
def Carried (s : State) : Prop :=
  match s.sender with
  | .sendTest .slot a | .sendBuild .slot a => a = ⟨s.rawDataPointer, s.dataLen, s.dataType⟩
  | .sendRetest .slot req | .sendMake .slot req => s.mailbox = some (some req)
  | .sendTest .connect a | .sendBuild .connect a => a = connectArgs
  | .sendRetest .connect req | .sendMake .connect req => req.type = .connectionInit
  | .fault => False
  | _ => True

end State

/-- The slot is a mailbox: it is full from the assignments of `SendKinectData` until the
request, and whoever reads or replaces it does so inside `m_cs`. -/
structure SlotInv (s : State) : Prop where
  owned : Owned s.cs s.inside
  unprepared : s.ui.sawUnprepared = true → s.bDataPrepared = false
  possible : s.mailbox.isSome = true
  prepared : s.bDataPrepared = true → s.sender.delivered = false → s.SlotFull
  beforeCopy : s.sender.beforeCopy = true → s.ui.replacing = false → s.SlotFull
  replaced : s.Replaced
  carried : s.Carried

theorem replaced_of_not_replacing {s : State} (h : s.ui.replacing = false) : s.Replaced := by
  unfold State.Replaced
  cases hpc : s.ui <;> simp_all [UiPc.replacing]

theorem carried_of_outside {s t : State} (hpc : t.sender = s.sender)
    (hout : s.sender.holdsLock = false) (h : s.Carried) : t.Carried := by
  unfold State.Carried at *
  rw [hpc]
  cases hs : s.sender <;> rw [hs] at h hout
  case sendTest c a => cases c with
    | connect => exact h
    | slot => cases hout
  case sendBuild c a => cases c with
    | connect => exact h
    | slot => cases hout
  case sendRetest c req => cases c with
    | connect => exact h
    | slot => cases hout
  case sendMake c req => cases c with
    | connect => exact h
    | slot => cases hout
  all_goals exact h

theorem replaced_of_mailbox {s t : State} (hui : t.ui = s.ui) (hraw : t.rawData = s.rawData)
    (hlen : t.dataLen = s.dataLen) (htype : t.dataType = s.dataType)
    (hmail : t.mailbox = s.mailbox) (h : s.Replaced) : t.Replaced := by
  unfold State.Replaced at *
  rwa [hui, hraw, hlen, htype, hmail]

section Lock

variable {s t : State}

private theorem owned_ui (hI : Owned s.cs s.inside) (hsender : t.sender = s.sender)
    (h : LockStep .ui s.cs s.ui.holdsLock t.cs t.ui.holdsLock) : Owned t.cs t.inside := by
  refine hI.step (i := .ui) h ?_
  intro j hj
  cases j with
  | ui => exact absurd rfl hj
  | sender => exact congrArg SenderPc.holdsLock hsender

private theorem owned_sender (hI : Owned s.cs s.inside) (hui : t.ui = s.ui)
    (h : LockStep .sender s.cs s.sender.holdsLock t.cs t.sender.holdsLock) :
    Owned t.cs t.inside := by
  refine hI.step (i := .sender) h ?_
  intro j hj
  cases j with
  | ui => exact congrArg UiPc.holdsLock hui
  | sender => exact absurd rfl hj

end Lock

section Ui

variable {s t : State}

theorem SlotInv.move_ui (hI : SlotInv s) {u : UiPc} (hpc : s.ui = u) (u' : UiPc)
    (cs : Option Thread) (connection : Bool)
    (hlock : LockStep .ui s.cs u.holdsLock cs u'.holdsLock)
    (hold : u.replacing = false) (hnew : u'.replacing = false)
    (hsaw : u'.sawUnprepared = true → s.bDataPrepared = false) :
    SlotInv { s with cs := cs, evhttpConnection := connection, ui := u' } where
  owned := owned_ui hI.owned rfl (by rw [hpc]; exact hlock)
  unprepared := hsaw
  possible := hI.possible
  prepared := hI.prepared
  beforeCopy := fun hcopy _ => hI.beforeCopy hcopy (by rw [hpc]; exact hold)
  replaced := replaced_of_not_replacing hnew
  carried := hI.carried

theorem SlotInv.replace (hI : SlotInv s) {u : UiPc} (hpc : s.ui = u) (hin : u.holdsLock = true)
    (hsaw : u.sawUnprepared = true) (hin' : t.ui.holdsLock = true)
    (hnew : t.ui.replacing = true) (hcs : t.cs = s.cs) (hsender : t.sender = s.sender)
    (hprep : t.bDataPrepared = s.bDataPrepared) (hpossible : t.mailbox.isSome = true)
    (hreplaced : t.Replaced) : SlotInv t := by
  rw [← hpc] at hin hsaw
  have hprep' : t.bDataPrepared = false := hprep.trans (hI.unprepared hsaw)
  have hout : s.sender.holdsLock = false := hI.owned.outside (i := .ui) (j := .sender) hin nofun
  exact {
    owned := owned_ui hI.owned hsender (by rw [hcs, hin, hin']; exact .stay _ _)
    unprepared := fun _ => hprep'
    possible := hpossible
    prepared := fun h => absurd (hprep'.symm.trans h) nofun
    beforeCopy := fun _ h => absurd (hnew.symm.trans h) nofun
    replaced := hreplaced
    carried := carried_of_outside hsender hout hI.carried }

theorem slotInv_broadcast (hI : SlotInv s) : SlotInv s.broadcast := by
  unfold State.broadcast
  split_ifs with h
  · have hcarried : ({ s with sender := .testPrepared } : State).Carried := trivial
    exact {
      owned := owned_sender hI.owned rfl (by rw [h]; exact .stay _ _)
      unprepared := hI.unprepared
      possible := hI.possible
      prepared := fun hp _ => hI.prepared hp (by rw [h]; rfl)
      beforeCopy := nofun
      replaced := hI.replaced
      carried := hcarried }
  · exact hI

theorem broadcast_ui (s : State) : s.broadcast.ui = s.ui := by
  unfold State.broadcast
  split_ifs <;> rfl

/-- The last assignment opens the new slot. -/
theorem SlotInv.publish (hI : SlotInv s) {p : Packet} (hpc : s.ui = .settingPrepared p) :
    SlotInv { s with bDataPrepared := true, ui := .broadcasting } := by
  have hreplaced := hI.replaced
  unfold State.Replaced at hreplaced
  rw [hpc] at hreplaced
  obtain ⟨buf, hraw, hbytes, hmail, hlen, htype⟩ := hreplaced
  have hfull : s.SlotFull := by
    refine ⟨buf, hraw, ?_, ?_⟩
    · rw [hlen, hbytes]
    · rw [hmail, hbytes, htype]
  exact {
    owned := owned_ui hI.owned rfl (by rw [hpc]; exact .stay _ _)
    unprepared := nofun
    possible := hI.possible
    prepared := fun _ _ => hfull
    beforeCopy := fun _ _ => hfull
    replaced := trivial
    carried := hI.carried }

theorem slotInv_uiStep (hI : SlotInv s) (h : uiStep s = some t) : SlotInv t := by
  unfold uiStep at h
  cases hpc : s.ui <;> simp only [hpc] at h
  case idle => cases h
  case testConnected p =>
    split_ifs at h
    · cases h
      exact hI.move_ui hpc (.testPrepared p) s.cs s.evhttpConnection (.stay _ _) rfl rfl nofun
    · cases h
      exact hI.move_ui hpc .idle s.cs s.evhttpConnection (.stay _ _) rfl rfl nofun
  case testPrepared p =>
    split_ifs at h with hprep
    · cases h
      exact hI.move_ui hpc .idle s.cs s.evhttpConnection (.stay _ _) rfl rfl nofun
    · cases h
      exact hI.move_ui hpc (.locking p) s.cs s.evhttpConnection (.stay _ _) rfl rfl
        (fun _ => Bool.eq_false_iff.mpr hprep)
  case locking p =>
    split_ifs at h with hfree
    cases h
    exact hI.move_ui hpc (.deleting p) (some .ui) s.evhttpConnection (by rw [hfree]; exact .enter)
      rfl rfl (fun _ => hI.unprepared (by rw [hpc]; rfl))
  case deleting p =>
    cases h
    exact hI.replace hpc rfl rfl rfl rfl rfl rfl rfl hI.possible trivial
  case allocating p =>
    cases h
    exact hI.replace hpc rfl rfl rfl rfl rfl rfl rfl hI.possible ⟨_, rfl, zeros_length _⟩
  case copying p =>
    cases h
    have hreplaced := hI.replaced
    unfold State.Replaced at hreplaced
    rw [hpc] at hreplaced
    obtain ⟨buf, hraw, hlen⟩ := hreplaced
    obtain ⟨slot, hslot⟩ := Option.isSome_iff_exists.mp hI.possible
    have hmail := Mailbox.replay_ignoring_put hslot p
    refine hI.replace hpc rfl rfl rfl rfl rfl rfl rfl (by rw [State.mailbox, hmail]; rfl) ?_
    refine ⟨{ buf with bytes := p.data ++ buf.bytes.drop p.data.length }, ?_, ?_, hmail⟩
    · simp only [hraw, Option.map_some]
    · simp [← hlen]
  case settingLen p =>
    cases h
    have hreplaced := hI.replaced
    unfold State.Replaced at hreplaced
    rw [hpc] at hreplaced
    obtain ⟨buf, hraw, hbytes, hmail⟩ := hreplaced
    exact hI.replace hpc rfl rfl rfl rfl rfl rfl rfl hI.possible ⟨buf, hraw, hbytes, hmail, rfl⟩
  case settingType p =>
    cases h
    have hreplaced := hI.replaced
    unfold State.Replaced at hreplaced
    rw [hpc] at hreplaced
    obtain ⟨buf, hraw, hbytes, hmail, hlen⟩ := hreplaced
    exact hI.replace hpc rfl rfl rfl rfl rfl rfl rfl hI.possible
      ⟨buf, hraw, hbytes, hmail, hlen, rfl⟩
  case settingPrepared p =>
    cases h
    exact hI.publish hpc
  case broadcasting =>
    cases h
    exact (slotInv_broadcast hI).move_ui ((broadcast_ui s).trans hpc) .unlocking _ _ (.stay _ _)
      rfl rfl nofun
  case unlocking =>
    cases h
    exact hI.move_ui hpc .idle none s.evhttpConnection (.leave _) rfl rfl nofun
  case stopTest =>
    split_ifs at h
    · cases h
      exact hI.move_ui hpc .stopFree s.cs s.evhttpConnection (.stay _ _) rfl rfl nofun
    · cases h
      exact hI.move_ui hpc .stopClear s.cs s.evhttpConnection (.stay _ _) rfl rfl nofun
  case stopFree =>
    cases h
    exact hI.move_ui hpc .stopClear s.cs false (.stay _ _) rfl rfl nofun
  case stopClear =>
    cases h
    have hmoved := hI.move_ui hpc .stopBroadcast s.cs s.evhttpConnection (.stay _ _) rfl rfl nofun
    exact { hmoved with
      unprepared := nofun
      prepared := nofun }
  case stopBroadcast =>
    cases h
    exact (slotInv_broadcast hI).move_ui ((broadcast_ui s).trans hpc) .idle _ _ (.stay _ _)
      rfl rfl nofun

end Ui

section Sender

variable {s t : State}

theorem not_replacing_of_outside {u : UiPc} (hout : u.holdsLock = false) : u.replacing = false := by
  cases u <;> first | rfl | cases hout

theorem SlotInv.ui_not_replacing (hI : SlotInv s) (hin : s.sender.holdsLock = true) :
    s.ui.replacing = false :=
  not_replacing_of_outside (hI.owned.outside (i := .sender) (j := .ui) hin nofun)

theorem SlotInv.move_sender (hI : SlotInv s) {pc : SenderPc} (hpc : s.sender = pc)
    (pc' : SenderPc) (cs : Option Thread) (connected connection : Bool)
    (hlock : LockStep .sender s.cs pc.holdsLock cs pc'.holdsLock)
    (hdelivered : pc'.delivered = false → pc.delivered = false)
    (hcopy : pc'.beforeCopy = true → s.ui.replacing = false → s.SlotFull)
    (hcarried : ({ s with sender := pc' } : State).Carried) :
    SlotInv { s with
      bConnected := connected, cs := cs, evhttpConnection := connection, sender := pc' } where
  owned := owned_sender hI.owned rfl (by rw [hpc]; exact hlock)
  unprepared := hI.unprepared
  possible := hI.possible
  prepared := fun hp hd => hI.prepared hp (by rw [hpc]; exact hdelivered hd)
  beforeCopy := hcopy
  replaced := hI.replaced
  carried := hcarried

/-- Not in `Send`, and neither holding the lock nor about to copy. -/
def SenderPc.outside : SenderPc → Bool
  | .newBase | .newConnection | .clearConnected | .loopTest | .testConnection | .testConnected
  | .waiting | .testPrepared | .finished => true
  | _ => false

theorem SlotInv.move_outside (hI : SlotInv s) {pc : SenderPc} (hpc : s.sender = pc)
    (pc' : SenderPc) (connected connection : Bool) (hout : pc.outside = true)
    (hout' : pc'.outside = true) :
    SlotInv { s with bConnected := connected, evhttpConnection := connection, sender := pc' } := by
  have hlock (q : SenderPc) (hq : q.outside = true) : q.holdsLock = false := by
    cases q <;> first | rfl | cases hq
  have hcopies (q : SenderPc) (hq : q.outside = true) : q.beforeCopy = false := by
    cases q <;> first | rfl | cases hq
  apply hI.move_sender hpc pc' s.cs connected connection
  · rw [hlock pc hout, hlock pc' hout']
    exact .stay _ _
  · intro _
    cases pc <;> first | rfl | cases hout
  · intro hcopy
    rw [hcopies pc' hout'] at hcopy
    cases hcopy
  · cases pc' <;> trivial

/-- `evbuffer_add` finds the whole slot, and copies the packet in the mailbox. -/
theorem SlotInv.readArgs_slot (hI : SlotInv s) {a : SendArgs}
    (hpc : s.sender = .sendBuild .slot a) :
    ∃ bytes, s.readArgs a = some bytes ∧ s.mailbox = some (some ⟨bytes, a.type⟩) := by
  have hcarried := hI.carried
  unfold State.Carried at hcarried
  rw [hpc] at hcarried
  obtain ⟨buf, hraw, hlen, hmail⟩ := hI.beforeCopy (by rw [hpc]; rfl)
    (hI.ui_not_replacing (by rw [hpc]; rfl))
  refine ⟨buf.bytes, ?_, by rw [hcarried]; exact hmail⟩
  rw [hcarried, State.readArgs, State.rawDataPointer]
  simp only [hraw, hlen, loadBytes_all, if_true]
  split_ifs with h0
  · rw [List.eq_nil_of_length_eq_zero h0]
  · rfl

theorem readArgs_connect (s : State) :
    s.readArgs connectArgs = some [99, 111, 110, 110, 101, 99, 116] := by
  rfl

/-- `evhttp_make_request` takes the packet out of the mailbox. -/
theorem SlotInv.make (hI : SlotInv s) {c : Call} {req : Packet} (hpc : s.sender = .sendMake c req) :
    SlotInv { s with sender := .sendDispatch c, log := s.log ++ [.take req] } := by
  have hcarried := hI.carried
  unfold State.Carried at hcarried
  rw [hpc] at hcarried
  cases c with
  | connect =>
    have hsame : ({ s with log := s.log ++ [.take req] } : State).mailbox = s.mailbox :=
      Mailbox.replay_ignoring_outside _ _ (by simpa using hcarried)
    have hfull (h : s.SlotFull) : ({ s with log := s.log ++ [.take req] } : State).SlotFull := by
      obtain ⟨buf, hraw, hlen, hmail⟩ := h
      exact ⟨buf, hraw, hlen, hsame.trans hmail⟩
    exact {
      owned := owned_sender hI.owned rfl (by rw [hpc]; exact .stay _ _)
      unprepared := hI.unprepared
      possible := by
        have hp := hI.possible
        rwa [← hsame] at hp
      prepared := fun hp _ => hfull (hI.prepared hp (by rw [hpc]; rfl))
      beforeCopy := nofun
      replaced := @replaced_of_mailbox s _ rfl rfl rfl rfl hsame hI.replaced
      carried := trivial }
  | slot =>
    have hui := hI.ui_not_replacing (by rw [hpc]; rfl)
    exact {
      owned := owned_sender hI.owned rfl (by rw [hpc]; exact .stay _ _)
      unprepared := hI.unprepared
      possible := Mailbox.replay_ignoring_take hcarried
      prepared := fun _ hd => absurd hd nofun
      beforeCopy := nofun
      replaced := replaced_of_not_replacing hui
      carried := trivial }

theorem SlotInv.leaveSend (hI : SlotInv s) {pc : SenderPc} (hpc : s.sender = pc) (c : Call)
    (hin : pc.holdsLock = (SenderPc.sendDispatch c).holdsLock)
    (hdelivered : c = .connect → pc.delivered = false) : SlotInv { s with sender := c.next } := by
  cases c with
  | connect =>
    exact hI.move_sender hpc .loopTest s.cs s.bConnected s.evhttpConnection
      (by rw [hin]; exact .stay _ _) (fun _ => hdelivered rfl) nofun trivial
  | slot =>
    exact hI.move_sender hpc .clearing s.cs s.bConnected s.evhttpConnection
      (by rw [hin]; exact .stay _ _) nofun nofun trivial

theorem SlotInv.sendTest (hI : SlotInv s) {c : Call} {a : SendArgs}
    (hpc : s.sender = .sendTest c a) :
    SlotInv { s with sender := if s.evhttpConnection then .sendBuild c a else c.next } := by
  have hcarried := hI.carried
  unfold State.Carried at hcarried
  rw [hpc] at hcarried
  split_ifs
  · cases c with
    | connect =>
      exact hI.move_sender hpc (.sendBuild .connect a) s.cs s.bConnected s.evhttpConnection
        (.stay _ _) (fun _ => rfl) nofun hcarried
    | slot =>
      exact hI.move_sender hpc (.sendBuild .slot a) s.cs s.bConnected s.evhttpConnection
        (.stay _ _) (fun _ => rfl) (fun _ => hI.beforeCopy (by rw [hpc]; rfl)) hcarried
  · exact hI.leaveSend hpc c (by cases c <;> rfl) (fun _ => rfl)

/-- `Send` never faults: it finds its bytes, and carries them to the request. -/
theorem SlotInv.sendBuild (hI : SlotInv s) {c : Call} {a : SendArgs}
    (hpc : s.sender = .sendBuild c a) :
    ∃ bytes, s.readArgs a = some bytes ∧
      SlotInv { s with sender := .sendRetest c ⟨bytes, a.type⟩ } := by
  cases c with
  | connect =>
    have hcarried := hI.carried
    unfold State.Carried at hcarried
    rw [hpc] at hcarried
    obtain rfl : a = connectArgs := hcarried
    exact ⟨_, readArgs_connect s, hI.move_sender hpc (.sendRetest .connect _) s.cs s.bConnected
      s.evhttpConnection (.stay _ _) (fun _ => rfl) nofun rfl⟩
  | slot =>
    obtain ⟨bytes, hread, hmail⟩ := hI.readArgs_slot hpc
    exact ⟨bytes, hread, hI.move_sender hpc (.sendRetest .slot ⟨bytes, a.type⟩) s.cs s.bConnected
      s.evhttpConnection (.stay _ _) (fun _ => rfl) nofun hmail⟩

theorem SlotInv.sendRetest (hI : SlotInv s) {c : Call} {req : Packet}
    (hpc : s.sender = .sendRetest c req) :
    SlotInv { s with sender := if s.evhttpConnection then .sendMake c req else c.next } := by
  have hcarried := hI.carried
  unfold State.Carried at hcarried
  rw [hpc] at hcarried
  split_ifs
  · cases c with
    | connect =>
      exact hI.move_sender hpc (.sendMake .connect req) s.cs s.bConnected s.evhttpConnection
        (.stay _ _) (fun _ => rfl) nofun hcarried
    | slot =>
      exact hI.move_sender hpc (.sendMake .slot req) s.cs s.bConnected s.evhttpConnection
        (.stay _ _) (fun _ => rfl) nofun hcarried
  · exact hI.leaveSend hpc c (by cases c <;> rfl) (fun _ => rfl)

theorem slotInv_senderStep (hI : SlotInv s) (h : senderStep s = some t) : SlotInv t := by
  unfold senderStep at h
  cases hpc : s.sender <;> simp only [hpc] at h
  case newBase =>
    cases h
    exact hI.move_outside hpc .newConnection s.bConnected s.evhttpConnection rfl rfl
  case newConnection =>
    cases h
    exact hI.move_outside hpc .clearConnected s.bConnected true rfl rfl
  case clearConnected =>
    cases h
    exact hI.move_outside hpc .loopTest false s.evhttpConnection rfl rfl
  case loopTest =>
    cases h
    exact hI.move_outside hpc .testConnection s.bConnected s.evhttpConnection rfl rfl
  case testConnection =>
    split_ifs at h
    · cases h
      exact hI.move_outside hpc .testConnected s.bConnected s.evhttpConnection rfl rfl
    · cases h
      exact hI.move_outside hpc .finished s.bConnected s.evhttpConnection rfl rfl
  case testConnected =>
    split_ifs at h
    · cases h
      exact hI.move_outside hpc .waiting s.bConnected s.evhttpConnection rfl rfl
    · cases h
      exact hI.move_sender hpc (.sendTest .connect connectArgs) s.cs s.bConnected
        s.evhttpConnection (.stay _ _) (fun _ => rfl) nofun rfl
  case waiting => cases h
  case testPrepared =>
    split_ifs at h with hprep
    · cases h
      exact hI.move_sender hpc .locking s.cs s.bConnected s.evhttpConnection (.stay _ _)
        (fun _ => rfl) (fun _ _ => hI.prepared hprep (by rw [hpc]; rfl)) trivial
    · cases h
      exact hI.move_outside hpc .loopTest s.bConnected s.evhttpConnection rfl rfl
  case locking =>
    split_ifs at h with hfree
    cases h
    exact hI.move_sender hpc .calling (some .sender) s.bConnected s.evhttpConnection
      (by rw [hfree]; exact .enter) (fun _ => rfl) (fun _ => hI.beforeCopy (by rw [hpc]; rfl))
      trivial
  case calling =>
    cases h
    exact hI.move_sender hpc (.sendTest .slot ⟨s.rawDataPointer, s.dataLen, s.dataType⟩) s.cs
      s.bConnected s.evhttpConnection (.stay _ _) (fun _ => rfl)
      (fun _ => hI.beforeCopy (by rw [hpc]; rfl)) rfl
  case sendTest c a =>
    cases h
    exact hI.sendTest hpc
  case sendBuild c a =>
    obtain ⟨bytes, hread, hbuilt⟩ := hI.sendBuild hpc
    rw [hread] at h
    cases h
    exact hbuilt
  case sendRetest c req =>
    cases h
    exact hI.sendRetest hpc
  case sendMake c req =>
    cases h
    exact hI.make hpc
  case sendDispatch c => cases h
  case clearing =>
    cases h
    exact {
      owned := owned_sender hI.owned rfl (by rw [hpc]; exact .stay _ _)
      unprepared := fun _ => rfl
      possible := hI.possible
      prepared := nofun
      beforeCopy := nofun
      replaced := hI.replaced
      carried := trivial }
  case unlocking =>
    cases h
    exact hI.move_sender hpc .loopTest none s.bConnected s.evhttpConnection (.leave _)
      (fun _ => rfl) nofun trivial
  case finished => cases h
  case fault => cases h

theorem slotInv_environment (hI : SlotInv s) (a : Action) (h : environment s a = some t) :
    SlotInv t := by
  cases a <;> simp only [environment] at h
  case callSend p =>
    split_ifs at h with hpc
    cases h
    exact hI.move_ui hpc (.testConnected p) s.cs s.evhttpConnection (.stay _ _) rfl rfl nofun
  case callStop =>
    split_ifs at h with hpc
    cases h
    exact hI.move_ui hpc .stopTest s.cs s.evhttpConnection (.stay _ _) rfl rfl nofun
  case ui => cases h
  case sender => cases h
  case setupFails =>
    cases hpc : s.sender <;> simp only [hpc, reduceCtorEq] at h
    case newBase =>
      cases h
      exact hI.move_outside hpc .finished s.bConnected s.evhttpConnection rfl rfl
    case newConnection =>
      cases h
      exact hI.move_outside hpc .finished s.bConnected false rfl rfl
  case destroyed =>
    split_ifs at h with hpc
    cases h
    exact hI.move_outside hpc .finished s.bConnected s.evhttpConnection rfl rfl
  case waitReturns noError =>
    split_ifs at h with hpc
    · cases h
      exact hI.move_outside hpc .testPrepared s.bConnected s.evhttpConnection rfl rfl
    · cases h
      exact hI.move_outside hpc .loopTest s.bConnected s.evhttpConnection rfl rfl
  case addFails =>
    cases hpc : s.sender <;> simp only [hpc, reduceCtorEq] at h
    case sendBuild c a =>
      split_ifs at h
      cases h
      exact hI.leaveSend hpc c (by cases c <;> rfl) (fun _ => rfl)
  case requestDone request =>
    cases hpc : s.sender <;> simp only [hpc, reduceCtorEq] at h
    case sendDispatch c =>
      cases h
      have hmoved := hI.move_sender hpc (.sendDispatch c) s.cs request s.evhttpConnection
        (.stay _ _) id (by cases c <;> exact nofun) trivial
      exact hmoved
  case dispatchReturns =>
    cases hpc : s.sender <;> simp only [hpc, reduceCtorEq] at h
    case sendDispatch c =>
      cases h
      exact hI.leaveSend hpc c rfl (by intro h; subst h; rfl)

end Sender

theorem slotInv_start (bConnected evhttpConnection : Bool) (dataLen : Nat)
    (dataType : KinectDataType) :
    SlotInv (start bConnected evhttpConnection dataLen dataType) where
  owned := by
    intro i
    cases i <;> simp [start, State.inside, UiPc.holdsLock, SenderPc.holdsLock]
  unprepared := nofun
  possible := rfl
  prepared := nofun
  beforeCopy := nofun
  replaced := trivial
  carried := trivial

theorem slotInv_step (s : State) (a : Action) (t : State) (hI : SlotInv s)
    (h : step s a = some t) : SlotInv t := by
  cases a with
  | ui => exact slotInv_uiStep hI h
  | sender => exact slotInv_senderStep hI h
  | callSend p => exact slotInv_environment hI (.callSend p) h
  | callStop => exact slotInv_environment hI .callStop h
  | setupFails => exact slotInv_environment hI .setupFails h
  | destroyed => exact slotInv_environment hI .destroyed h
  | waitReturns noError => exact slotInv_environment hI (.waitReturns noError) h
  | addFails => exact slotInv_environment hI .addFails h
  | requestDone request => exact slotInv_environment hI (.requestDone request) h
  | dispatchReturns => exact slotInv_environment hI .dispatchReturns h

/-- In every run the requests made, connection requests apart, are some of the packets of the
calls that reached the copy, each whole, at most once, and in the order of the calls. -/
theorem requests_sublist_accepted (bConnected evhttpConnection : Bool) (dataLen : Nat)
    (dataType : KinectDataType) (as : List Action) (s : State)
    (hrun : exec step (start bConnected evhttpConnection dataLen dataType) as = some s) :
    ((Mailbox.takes s.log).filter (fun p => p.type ≠ .connectionInit)).Sublist
      (Mailbox.puts s.log) := by
  have hI := exec_invariant_all slotInv_step as _ s
    (slotInv_start bConnected evhttpConnection dataLen dataType) hrun
  obtain ⟨slot, hslot⟩ := Option.isSome_iff_exists.mp hI.possible
  exact Mailbox.filtered_takes_sublist_puts hslot

theorem waiting_sender_sends_frame :
    ∃ s, exec step (start false false 0 .kinectDataNone)
        (connectRun ++ sendRun ⟨[1, 2, 3], .frameColor⟩ ++ List.replicate 7 .sender) = some s ∧
      (Mailbox.takes s.log).filter (fun p => p.type ≠ .connectionInit) =
        [⟨[1, 2, 3], .frameColor⟩] ∧
      ((Mailbox.takes s.log).filter (fun p => p.type ≠ .connectionInit)).Sublist
        (Mailbox.puts s.log) :=
  ⟨_, rfl, rfl, requests_sublist_accepted false false 0 .kinectDataNone
    (connectRun ++ sendRun ⟨[1, 2, 3], .frameColor⟩ ++ List.replicate 7 .sender) _ rfl⟩

end KinectHelper.KinectDataSender
