import VirtualDualSense.Hcd.PortConsistency

/-!
# The device after a disconnect

A disconnect clears the status flags and resets the USB device, so that the next session
finds nothing of the last one. Neither the submission of URBs nor the writes of the daemon
ask whether the port is connected, though: a request that comes after the disconnect can
undo the reset.

## Implementation notes

A session ends with a disconnect. A feature reply that the daemon writes belongs to the
session that it was asked for in; the driver does not know it, so it comes with the action.
-/

namespace VirtualDualSense.Hcd.SessionReset

open Lib.Runs Protocol.Frames UsbCore Sections Threads AtomicRuns DeviceStatus PortConsistency

/-- The driver with the number of the session, and the session of each cached reply. -/
structure Sessions where
  system : System
  session : Nat
  cached : UInt8 → Nat

def Sessions.init : Sessions := ⟨.init, 0, fun _ => 0⟩

/-- An action, with the session of the reply if it writes one. -/
structure Tagged where
  action : Action
  session : Nat

/-- The report that the action puts into the cache. -/
def cachesReport (dev : HcdDev) : Action → Option UInt8
  | .write frame flags _ =>
      if dev.stopping = false ∧ flags = 0 ∧ frame.type = .usbFeatureReply ∧
          (dev.usb.updateFeatureReply frame.payload).2 = 0 then
        frame.payload.head?
      else none
  | _ => none

/-- The sessions of the cached replies after the action. -/
def cachedAfter (s : Sessions) (a : Tagged) : UInt8 → Nat :=
  match cachesReport s.system.dev a.action with
  | some reportId => Function.update s.cached reportId a.session
  | none => s.cached

def sessionStep (s : Sessions) (a : Tagged) : Option Sessions :=
  (step s.system a.action).map fun t =>
    { system := t
      session :=
        if disconnects a.action && !s.system.dev.stopping then s.session + 1 else s.session
      cached := cachedAfter s a }

/-- The port is not connected and the disconnect is over. -/
def Disconnected (s : System) : Prop :=
  s.dev.portStatus.connection = false ∧ Syscall.resetUsb ∉ s.syscalls

/-- Nothing of an earlier session is left. -/
structure IsReset (s : Sessions) : Prop where
  configured : s.system.dev.statusFlags.configured = false
  hidEnabled : s.system.dev.statusFlags.hidEnabled = false
  audioEnabled : s.system.dev.statusFlags.audioEnabled = false
  configuration : s.system.dev.usb.configuration = 0
  audioOut : s.system.dev.usb.audioOutAltsetting = 0
  audioIn : s.system.dev.usb.audioInAltsetting = 0
  cache : ∀ reportId, s.system.dev.usb.featureCache reportId ≠ [] →
    s.cached reportId = s.session

/-- The transfer selects the configuration or an altsetting of an audio interface. -/
def Selects (usb : UsbDevice) (urb : Urb) : Prop :=
  ∃ setup, urb.setupPacket = some setup ∧ setup.bRequestType &&& 0x60 = 0x00 ∧
    (setup.bRequest = usbReqSetConfiguration ∧
        setup.wValue = usb.controllerProfile.configurationValue.toUInt16 ∨
      setup.bRequest = usbReqSetInterface ∧ setup.wValue = 1 ∧
        (interfaceOf setup = usb.controllerProfile.audioOutInterface ∨
          interfaceOf setup = usb.controllerProfile.audioInInterface))

/-- While the port is not connected, no transfer selects anything, no thread comes to set a status
flag, and no reply of an earlier session is written. -/
def ResetGuard (s : Sessions) (a : Tagged) : Prop :=
  match a.action with
  | .handle id => Disconnected s.system →
      ∀ context ∈ s.system.dev.contexts id, context.urb.pipeType = .control →
        ¬Selects s.system.dev.usb context.urb
  | .call id _ => s.system.dev.portStatus.connection = false →
      ∀ call ∈ (statusCalls (s.system.enqueuers id)).head?, call.2 = false
  | .write _ _ _ => Disconnected s.system →
      (cachesReport s.system.dev a.action).isSome → a.session = s.session
  | _ => True

structure Inv (s : Sessions) : Prop where
  shape : Shape s.system
  flags : s.system.dev.portStatus.connection = false →
    s.system.dev.statusFlags.configured = false ∧
      s.system.dev.statusFlags.hidEnabled = false ∧
        s.system.dev.statusFlags.audioEnabled = false
  usb : Disconnected s.system →
    s.system.dev.usb.configuration = 0 ∧ s.system.dev.usb.audioOutAltsetting = 0 ∧
      s.system.dev.usb.audioInAltsetting = 0
  cache : Disconnected s.system → ∀ reportId, s.system.dev.usb.featureCache reportId ≠ [] →
    s.cached reportId = s.session

section Steps

variable {s : Sessions} {a : Tagged} {t : System}

theorem resetUsb_of_disconnects (h : step s.system a.action = some t)
    (hdisconnects : disconnects a.action = true) (running : s.system.dev.stopping = false) :
    Syscall.resetUsb ∈ t.syscalls := by
  unfold disconnects at hdisconnects
  split at hdisconnects
  · rename_i haction
    rw [haction] at h
    obtain rfl := Option.some.inj h
    simp [disconnect, running]
  · rename_i haction
    rw [haction] at h
    obtain ⟨-, ⟨⟩⟩ := Option.ite_none_right_eq_some.mp h
    simp [resume, disconnect, running]
  · cases hdisconnects

/-- A reply that is written after the disconnect is of the current session. -/
theorem session_of_cachesReport (ok : ResetGuard s a) (hdisconnected : Disconnected s.system)
    {reportId : UInt8} (h : cachesReport s.system.dev a.action = some reportId) :
    a.session = s.session := by
  obtain ⟨action, session⟩ := a
  cases action with
  | write frame flags alloc =>
      refine ok hdisconnected ?_
      rw [h]
      rfl
  | tick | submit | handle | call | defer | request | refile | schedule | file | dequeue | read
  | connect | disconnect | setProfile | openFile | release | resume | hubControl | stop | sleep
  | wake | take | deliver | place | giveback => cases h

theorem updateFeatureReply_written {usb : UsbDevice} {payload : List UInt8}
    (h : (usb.updateFeatureReply payload).2 = 0) : ∃ reportId, payload.head? = some reportId ∧
      (usb.updateFeatureReply payload).1 =
        { usb with featureCache := Function.update usb.featureCache reportId payload } := by
  unfold UsbDevice.updateFeatureReply at h ⊢
  split at h
  · simp [einval] at h
  · rename_i reportId rest
    split at h
    · simp [einval] at h
    · rename_i hlength
      refine ⟨reportId, rfl, ?_⟩
      rw [if_neg hlength]

/-- A transfer that selects nothing leaves or makes the selections zero. -/
theorem controlUrb_unselected {usb : UsbDevice} {urb : Urb} (hselects : ¬Selects usb urb)
    (h : usb.configuration = 0 ∧ usb.audioOutAltsetting = 0 ∧ usb.audioInAltsetting = 0) :
    ((usb.controlUrb urb).1.configuration = 0 ∧ (usb.controlUrb urb).1.audioOutAltsetting = 0 ∧
      (usb.controlUrb urb).1.audioInAltsetting = 0) ∧
      (usb.controlUrb urb).1.featureCache = usb.featureCache := by
  have hvalue : ∀ setup : UsbCtrlrequest, ¬setup.wValue > 1 → setup.wValue ≠ 1 →
      setup.wValue.toUInt8 = 0 := by
    intro setup hle hne
    have hlt : ¬1 < setup.wValue.toNat := hle
    have hne' : setup.wValue.toNat ≠ 1 := fun h => hne (UInt16.toNat_inj.mp h)
    have hzero : setup.wValue.toNat = 0 := by omega
    rw [UInt16.toNat_inj.mp (hzero.trans rfl : setup.wValue.toNat = (0 : UInt16).toNat)]
    rfl
  generalize hresult : usb.controlUrb urb = result
  have heffect := controlEffect usb urb
  rw [hresult] at heffect
  cases heffect with
  | keeps same unreported =>
      rw [same.configuration, same.audioOut, same.audioIn]
      exact ⟨h, same.cache⟩
  | @configures setup _ packet standard request value =>
      rcases value with hzero | hselected
      · refine ⟨⟨?_, rfl, rfl⟩, rfl⟩
        rw [hzero]
        rfl
      · exact absurd ⟨setup, packet, standard, .inl ⟨request, hselected⟩⟩ hselects
  | @audioOut setup _ packet standard request value interface =>
      refine ⟨⟨h.1, hvalue setup value ?_, h.2.2⟩, rfl⟩
      intro hone
      exact hselects ⟨setup, packet, standard, .inr ⟨request, hone, .inl interface⟩⟩
  | @audioIn setup _ packet standard request value interface =>
      refine ⟨⟨h.1, h.2.1, hvalue setup value ?_⟩, rfl⟩
      intro hone
      exact hselects ⟨setup, packet, standard, .inr ⟨request, hone, .inr interface⟩⟩

/-- Off the port the flags stay cleared. -/
theorem flags_step (inv : Inv s) (ok : ResetGuard s a) (hstatus : StatusStep s.system a.action t)
    (hconnection : t.dev.portStatus.connection = false) :
    t.dev.statusFlags.configured = false ∧ t.dev.statusFlags.hidEnabled = false ∧
      t.dev.statusFlags.audioEnabled = false := by
  obtain ⟨action, session⟩ := a
  cases hstatus with
  | quiet status | submit status | control _ _ _ status | reply _ _ _ _ status
  | reset _ status =>
      have hport : t.dev.portStatus = s.system.dev.portStatus := congrArg Status.port status
      have hflags : t.dev.statusFlags = s.system.dev.statusFlags := congrArg Status.flags status
      rw [hflags]
      exact inv.flags (hport ▸ hconnection)
  | @setStatus id alloc _ mask enabled rest before after others status syscalls =>
      have hport : t.dev.portStatus = s.system.dev.portStatus := congrArg Status.port status
      have hflags : t.dev.statusFlags = StatusFlags.set s.system.dev.statusFlags mask enabled :=
        congrArg Status.flags status
      have hbefore : s.system.dev.portStatus.connection = false := hport ▸ hconnection
      have henabled : enabled = false := ok hbefore (mask, enabled) (by rw [before]; rfl)
      obtain ⟨hconfigured, hhid, haudio⟩ := inv.flags hbefore
      rw [hflags, henabled]
      simp [StatusFlags.set, hconfigured, hhid, haudio]
  | @profile profile mode _ status enqueuers syscalls =>
      have hport : t.dev.portStatus = _ := congrArg Status.port status
      have hflags : t.dev.statusFlags = _ := congrArg Status.flags status
      have hbefore : s.system.dev.portStatus.connection = false := by
        rw [← (port_setProfile s.system.dev profile mode).1, ← hconnection, hport]
        rfl
      rw [hflags]
      unfold setProfile
      split
      · exact inv.flags hbefore
      · split
        · exact inv.flags hbefore
        · split
          · exact inv.flags hbefore
          · exact ⟨rfl, rfl, rfl⟩
  | connect running status enqueuers syscalls =>
      rw [status_connectLocked s.system.dev running] at status
      have hport : t.dev.portStatus.connection = true := by
        rw [show t.dev.portStatus = _ from congrArg Status.port status]
      rw [hport] at hconnection
      cases hconnection
  | disconnect disconnects running status enqueuers resets =>
      rw [status_disconnectLocked s.system.dev running] at status
      rw [show t.dev.statusFlags = _ from congrArg Status.flags status]
      exact ⟨rfl, rfl, rfl⟩
  | @hub request value index _ status enqueuers syscalls =>
      have hport : t.dev.portStatus = _ := congrArg Status.port status
      have hflags : t.dev.statusFlags = s.system.dev.statusFlags := congrArg Status.flags status
      rw [hport, (hubKeeps_hubControl s.system.dev request value index).connection] at hconnection
      rw [hflags]
      exact inv.flags hconnection
  | stop status enqueuers syscalls =>
      rw [show t.dev.statusFlags = _ from congrArg Status.flags status]
      exact ⟨rfl, rfl, rfl⟩

theorem cachedAfter_eq (ok : ResetGuard s a) (hdisconnected : Disconnected s.system)
    {reportId : UInt8}
    (h : cachesReport s.system.dev a.action = some reportId ∨ s.cached reportId = s.session) :
    cachedAfter s a reportId = s.session := by
  unfold cachedAfter
  cases hcaches : cachesReport s.system.dev a.action with
  | none =>
      rw [hcaches] at h
      exact h.resolve_left (nomatch ·)
  | some written =>
      dsimp only
      by_cases hid : reportId = written
      · rw [hid, Function.update_self]
        exact session_of_cachesReport ok hdisconnected hcaches
      · rw [Function.update_of_ne hid]
        rw [hcaches] at h
        refine h.resolve_left fun hsome => hid (Option.some.inj hsome).symm

/-- What a disconnected device keeps: no selection, and replies of the current session only. -/
def Unselected (usb : UsbDevice) (cached : UInt8 → Nat) (session : Nat) : Prop :=
  (usb.configuration = 0 ∧ usb.audioOutAltsetting = 0 ∧ usb.audioInAltsetting = 0) ∧
    ∀ reportId, usb.featureCache reportId ≠ [] → cached reportId = session

theorem Inv.unselected (inv : Inv s) (hdisconnected : Disconnected s.system) :
    Unselected s.system.dev.usb s.cached s.session :=
  ⟨inv.usb hdisconnected, inv.cache hdisconnected⟩

/-- A step that keeps the cache. -/
theorem Unselected.after {usb usb' : UsbDevice} (ok : ResetGuard s a)
    (hdisconnected : Disconnected s.system) (h : Unselected usb s.cached s.session)
    (hselections : usb'.configuration = 0 ∧ usb'.audioOutAltsetting = 0 ∧
      usb'.audioInAltsetting = 0)
    (hcache : usb'.featureCache = usb.featureCache) :
    Unselected usb' (cachedAfter s a) s.session := by
  refine ⟨hselections, ?_⟩
  intro reportId hreport
  rw [hcache] at hreport
  exact cachedAfter_eq ok hdisconnected (.inr (h.2 reportId hreport))

theorem unselected_reset {usb : UsbDevice} {cached : UInt8 → Nat} {session : Nat} :
    Unselected usb.resetState cached session :=
  ⟨⟨rfl, rfl, rfl⟩, fun _ h => absurd rfl h⟩

theorem unselected_step (inv : Inv s) (ok : ResetGuard s a)
    (hstatus : StatusStep s.system a.action t) (hdisconnected : Disconnected t) :
    Unselected t.dev.usb (cachedAfter s a) s.session := by
  -- a step that leaves the port, the USB device and the pending resets alone
  have hkeeps : t.dev.usb = s.system.dev.usb →
      t.dev.portStatus.connection = s.system.dev.portStatus.connection →
      (Syscall.resetUsb ∈ s.system.syscalls → Syscall.resetUsb ∈ t.syscalls) →
      Unselected t.dev.usb (cachedAfter s a) s.session := by
    intro husb hconnection hresets
    have hbefore : Disconnected s.system :=
      ⟨hconnection ▸ hdisconnected.1, fun h => hdisconnected.2 (hresets h)⟩
    rw [husb]
    exact (inv.unselected hbefore).after ok hbefore (inv.usb hbefore) rfl
  obtain ⟨action, session⟩ := a
  cases hstatus with
  | quiet status calls resets =>
      have husb : t.dev.usb = s.system.dev.usb := congrArg Status.usb status
      have hport : t.dev.portStatus = s.system.dev.portStatus := congrArg Status.port status
      exact hkeeps husb (by rw [hport]) resets.mpr
  | submit status calls syscalls | setStatus _ _ _ status syscalls | stop status _ syscalls =>
      have husb : t.dev.usb = s.system.dev.usb := congrArg Status.usb status
      have hport : t.dev.portStatus = s.system.dev.portStatus := congrArg Status.port status
      exact hkeeps husb (by rw [hport]) (by rw [syscalls]; exact id)
  | @hub request value index _ status enqueuers syscalls =>
      have husb : t.dev.usb = s.system.dev.usb := congrArg Status.usb status
      have hport : t.dev.portStatus = _ := congrArg Status.port status
      refine hkeeps husb ?_ (by rw [syscalls]; exact id)
      rw [hport]
      exact (hubKeeps_hubControl s.system.dev request value index).connection
  | @control id context _ pc found pipe status enqueuers syscalls =>
      have husb : t.dev.usb = _ := congrArg Status.usb status
      have hport : t.dev.portStatus = s.system.dev.portStatus := congrArg Status.port status
      have hbefore : Disconnected s.system :=
        ⟨hport ▸ hdisconnected.1, syscalls ▸ hdisconnected.2⟩
      have hselects : ¬Selects s.system.dev.usb context.urb := ok hbefore context found pipe
      obtain ⟨hselections, hcache⟩ := controlUrb_unselected hselects (inv.usb hbefore)
      rw [husb]
      exact (inv.unselected hbefore).after ok hbefore hselections hcache
  | @reply frame flags alloc _ running unflagged type written status enqueuers resets =>
      have husb : t.dev.usb = _ := congrArg Status.usb status
      have hport : t.dev.portStatus = s.system.dev.portStatus := congrArg Status.port status
      have hbefore : Disconnected s.system :=
        ⟨hport ▸ hdisconnected.1, fun h => hdisconnected.2 (resets.mpr h)⟩
      obtain ⟨reportId, hhead, hreply⟩ := updateFeatureReply_written written
      have hcaches : cachesReport s.system.dev (.write frame flags alloc) = some reportId := by
        rw [cachesReport, if_pos ⟨running, unflagged, type, written⟩, hhead]
      rw [husb]
      dsimp only
      rw [hreply]
      refine ⟨inv.usb hbefore, ?_⟩
      intro other hother
      by_cases hid : other = reportId
      · exact cachedAfter_eq ok hbefore (.inl (hid ▸ hcaches))
      · simp only [Function.update_of_ne hid] at hother
        exact cachedAfter_eq ok hbefore (.inr (inv.cache hbefore other hother))
  | connect running status enqueuers syscalls =>
      rw [status_connectLocked s.system.dev running] at status
      have hport : t.dev.portStatus.connection = true := by
        rw [show t.dev.portStatus = _ from congrArg Status.port status]
      rw [hdisconnected.1] at hport
      cases hport
  | disconnect disconnects running status enqueuers resets => exact absurd resets hdisconnected.2
  | reset pending status enqueuers =>
      rw [show t.dev.usb = _ from congrArg Status.usb status]
      exact unselected_reset
  | @profile profile mode _ status enqueuers syscalls =>
      have husb : t.dev.usb = _ := congrArg Status.usb status
      have hport : t.dev.portStatus = _ := congrArg Status.port status
      have hconnection : t.dev.portStatus.connection = s.system.dev.portStatus.connection := by
        rw [hport]
        exact congrArg PortStatus.connection (port_setProfile s.system.dev profile mode).1
      have hsame := fun husb => hkeeps husb hconnection (by rw [syscalls]; exact id)
      unfold setProfile at husb
      split at husb
      · exact hsame husb
      · split at husb
        · exact hsame husb
        · split at husb
          · exact hsame husb
          · rw [husb]
            exact unselected_reset

theorem Inv.step {s' : Sessions} (inv : Inv s) (ok : ResetGuard s a)
    (h : sessionStep s a = some s') : Inv s' := by
  obtain ⟨t, hstep, rfl⟩ := Option.map_eq_some_iff.mp h
  have hstatus : StatusStep s.system a.action t := statusStep inv.shape hstep
  have hunselected := fun hdisconnected => unselected_step inv ok hstatus hdisconnected
  refine ⟨shape_step inv.shape hstep, flags_step inv ok hstatus,
    fun hdisconnected => (hunselected hdisconnected).1, ?_⟩
  intro hdisconnected reportId hreport
  have hsession : ¬(disconnects a.action && !s.system.dev.stopping) = true := by
    intro hends
    obtain ⟨hdisconnects, hrunning⟩ := Bool.and_eq_true_iff.mp hends
    exact hdisconnected.2 (resetUsb_of_disconnects hstep hdisconnects (by simpa using hrunning))
  dsimp only
  rw [if_neg hsession]
  exact (hunselected hdisconnected).2 reportId hreport

end Steps

theorem Inv.init : Inv .init where
  shape := fun _ => trivial
  flags := fun _ => ⟨rfl, rfl, rfl⟩
  usb := fun _ => ⟨rfl, rfl, rfl⟩
  cache := fun _ _ h => absurd rfl h

/-- The device stays reset after a disconnect, as long as no transfer selects anything, no thread
sets a flag and no reply of an earlier session is written. -/
theorem isReset_of_guardedRun {actions : List Tagged} {s : Sessions}
    (run : GuardedRun sessionStep ResetGuard .init actions s)
    (hdisconnected : Disconnected s.system) : IsReset s := by
  have inv : Inv s := run.invariant (fun _ _ _ inv ok h => inv.step ok h) .init
  obtain ⟨hconfigured, hhid, haudio⟩ := inv.flags hdisconnected.1
  obtain ⟨hconfiguration, haudioOut, haudioIn⟩ := inv.usb hdisconnected
  exact ⟨hconfigured, hhid, haudio, hconfiguration, haudioOut, haudioIn, inv.cache hdisconnected⟩

section Traces

/-- An action that writes no reply. -/
def untagged (action : Action) : Tagged := ⟨action, 0⟩

/-- Feature report 0x05. -/
def replyFrame : Frame := ⟨.usbFeatureReply, [0x05, 0x01], by decide⟩

/-- A session that configures the device and ends. -/
def configuredSession : List Tagged :=
  [untagged .connect, untagged (.submit setConfigurationUrb true 0), untagged (.handle 0),
    untagged (.call 0 true), untagged (.call 0 true), untagged (.file 0), untagged .disconnect,
    untagged (.resume .resetUsb)]

/-- The daemon fills the cache for the next session. -/
def primedTrace : List Tagged := configuredSession ++ [⟨.write replyFrame 0 true, 1⟩]

/-- The host configures the device before it has noticed the disconnect. -/
def lateTrace : List Tagged :=
  [untagged .connect, untagged .disconnect, untagged (.resume .resetUsb),
    untagged (.submit setConfigurationUrb true 0), untagged (.handle 0), untagged (.call 0 true),
    untagged (.call 0 true), untagged (.file 0)]

theorem guardedRun_primed : ∃ s, GuardedRun sessionStep ResetGuard .init primedTrace s ∧
    Disconnected s.system ∧ s.session = 1 ∧ s.cached 0x05 = 1 := by
  refine ⟨_, .cons trivial rfl (.cons trivial rfl (.cons ?_ rfl (.cons ?_ rfl (.cons ?_ rfl
    (.cons trivial rfl (.cons trivial rfl (.cons trivial rfl (.cons ?_ rfl (.nil _))))))))),
    ⟨rfl, ?_⟩, rfl, rfl⟩
  · rintro ⟨hconnection, -⟩
    cases hconnection
  · intro hconnection
    cases hconnection
  · intro hconnection
    cases hconnection
  · intro _ _
    rfl
  · decide

end Traces

/-- The cache that is filled for the next session leaves the device reset. -/
theorem isReset_primed : ∃ s, GuardedRun sessionStep ResetGuard .init primedTrace s ∧
    s.session = 1 ∧ s.cached 0x05 = 1 ∧ IsReset s := by
  obtain ⟨s, run, hdisconnected, hsession, hcached⟩ := guardedRun_primed
  exact ⟨s, run, hsession, hcached, isReset_of_guardedRun run hdisconnected⟩

/-- A late request configures the disconnected device. -/
theorem lateTrace_configures : ∃ s, Run sessionStep .init lateTrace s ∧ Disconnected s.system ∧
    s.system.dev.statusFlags = ⟨false, true, true, false⟩ ∧
      s.system.dev.usb.configuration = 1 ∧ ¬IsReset s := by
  refine ⟨_, run_of_execute rfl, ⟨rfl, by decide⟩, rfl, rfl, ?_⟩
  intro hreset
  cases hreset.configured

end VirtualDualSense.Hcd.SessionReset
