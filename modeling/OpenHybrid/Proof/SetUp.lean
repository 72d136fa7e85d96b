import OpenHybrid.Proof.Device
import OpenHybrid.Proof.Shutdown

/-!
# What is set up once

Bonding needs a tun device, the data socket and two threads. The flag, the descriptor and the handles
that say they are there are never cleared, so each of them is set up at most once for as long as the
process lives, however often the tunnels are lost and accepted again. The threads and the data socket
stay until it exits; the descriptor of the tun device is closed after every Tear Down all the same.
-/

namespace OpenHybrid

open ByteMemory Frame Transition

inductive Part where
  | device
  | socket
  | thread (thread : Thread)
  deriving DecidableEq

variable {answers : Answers} {past : List Effect} {process other : Process} {part : Part}

def Part.kind : Part → Kind
  | .device => .device
  | .socket => .greSocket
  | .thread _ => .thread

def Part.present (part : Part) (process : Process) : Bool :=
  match part with
  | .device => process.runtime.tunnelInterfaceCreated
  | .socket => decide (process.sockfdGre ≠ 0)
  | .thread .gre2tun => decide (process.runtime.gre2tunThread ≠ 0)
  | .thread .tun2gre => decide (process.runtime.tun2greThread ≠ 0)

def Effect.setsUp : Effect → Option Part
  | .tunDeviceCreated _ => some .device
  | .greSocketOpened _ _ => some .socket
  | .threadStarted thread _ => some (.thread thread)
  | _ => none

/-- A thread is cancelled, or the data socket is closed. The descriptor of the tun device is not
counted: `destroy_tun_tunnel_dev` closes it again and again and calls it a failure. -/
def Effect.stopsPlane : Effect → Bool
  | .threadCancelled _ | .greSocketClosed _ => true
  | _ => false

def setUps (effects : List Effect) : List Part := effects.filterMap Effect.setsUp

/-- What is opened is not descriptor 0, and a thread that runs has a handle. -/
structure Answers.Proper (answers : Answers) : Prop where
  socket : answers.greSocket.fd ≠ 0
  gre2tun : answers.gre2tunThread.started = true → answers.gre2tunThread.handle ≠ 0
  tun2gre : answers.tun2greThread.started = true → answers.tun2greThread.handle ≠ 0

theorem Answers.Proper.create (hproper : answers.Proper) (thread : Thread)
    (hstarted : (answers.create thread).started = true) : (answers.create thread).handle ≠ 0 := by
  cases thread with
  | gre2tun => exact hproper.gre2tun hstarted
  | tun2gre => exact hproper.tun2gre hstarted

def Untouched (past : List Effect) (process : Process) : Prop :=
  ∀ effect ∈ past ++ process.effects, effect.stopsPlane = false

/-- Nothing is there before the device, what is not there has not been set up, and nothing has been
set up twice; as long as the process runs, no thread is cancelled and the data socket stays open. -/
structure Lasting (past : List Effect) (process : Process) : Prop where
  bonding : process.runtime.bonding = true
  bare : process.runtime.tunnelInterfaceCreated = false → ∀ part : Part, part.present process = false
  once : (setUps (past ++ process.effects)).Nodup
  absent : ∀ part : Part, part.present process = false →
    part ∉ setUps (past ++ process.effects)
  kept : process.exited = false → Untouched past process

/-! ### Effects -/

theorem setUps_append (before after : List Effect) :
    setUps (before ++ after) = setUps before ++ setUps after := List.filterMap_append

abbrev SameSetUps (before after : Process) : Prop :=
  (setUps after.effects).Perm (setUps before.effects)

theorem sameSetUps_emit (process : Process) {effect : Effect} (hnone : effect.setsUp = none) :
    SameSetUps process (process.emit effect) := by
  have hnothing : setUps [effect] = [] := by
    rw [setUps, List.filterMap_cons, hnone]
    rfl
  unfold SameSetUps Process.emit
  rw [setUps_append, hnothing, List.append_nil]

theorem sameSetUps_triggerEvent (name : EventName) (process : Process) :
    SameSetUps process (triggerEvent name process) := by
  unfold triggerEvent
  split
  · exact List.Perm.refl _
  · exact sameSetUps_emit process rfl

theorem sameSetUps_if {condition : Prop} [Decidable condition]
    (hsame : SameSetUps process other) :
    SameSetUps process (if condition then other else process) := by
  split
  · exact hsame
  · exact List.Perm.refl _

theorem kind_of_setsUp {effect : Effect} (hsets : effect.setsUp = some part) :
    effect.kind = part.kind := by
  unfold Effect.setsUp at hsets
  split at hsets
  · obtain rfl := Option.some.inj hsets
    rfl
  · obtain rfl := Option.some.inj hsets
    rfl
  · obtain rfl := Option.some.inj hsets
    rfl
  · exact absurd hsets (by simp)

theorem count_setUps_ofKind (part : Part) (effects : List Effect) :
    (setUps (ofKind part.kind effects)).count part = (setUps effects).count part := by
  unfold setUps ofKind
  rw [List.count_eq_countP, List.count_eq_countP, List.countP_filterMap, List.countP_filterMap,
    List.countP_filter]
  refine List.countP_congr fun effect _ => ?_
  cases hsets : effect.setsUp with
  | none => simp
  | some other =>
      by_cases hother : other = part
      · have hkind := kind_of_setsUp hsets
        rw [hother] at hkind
        simp [hother, hkind]
      · simp [hother]

theorem sameSetUps_of_ofKind
    (heffects : ∀ part : Part,
      ofKind part.kind other.effects = ofKind part.kind process.effects) :
    SameSetUps process other := by
  refine List.perm_iff_count.mpr fun part => ?_
  rw [← count_setUps_ofKind, heffects, count_setUps_ofKind]

/-! ### Timers -/

def setUpSupport : List Aspect :=
  [.settings, .created, .threads, .sockfdGre, .exited, .effects .device, .effects .greSocket,
    .effects .thread]

theorem present_congr (hcreated : other.runtime.tunnelInterfaceCreated =
      process.runtime.tunnelInterfaceCreated)
    (hthreads : Aspect.threads.get other = Aspect.threads.get process)
    (hsocket : other.sockfdGre = process.sockfdGre) (part : Part) :
    part.present other = part.present process := by
  obtain ⟨hgre2tun, htun2gre⟩ := Prod.mk.inj hthreads
  cases part with
  | device => exact hcreated
  | socket => rw [Part.present, Part.present, hsocket]
  | thread thread =>
      cases thread with
      | gre2tun => rw [Part.present, Part.present, hgre2tun]
      | tun2gre => rw [Part.present, Part.present, htun2gre]

theorem present_thread (thread : Thread) (process : Process) :
    Part.present (.thread thread) process = decide (process.handle thread ≠ 0) := by
  cases thread <;> rfl

theorem present_setHandle {thread : Thread} (hother : part ≠ .thread thread) (handle : BitVec 64)
    (process : Process) :
    part.present (process.setHandle thread handle) = part.present process := by
  cases part with
  | device => cases thread <;> rfl
  | socket => cases thread <;> rfl
  | thread other =>
      have hne : other ≠ thread := fun hsame => hother (congrArg Part.thread hsame)
      rw [present_thread, present_thread, process.handle_setHandle_of_ne hne]

theorem Untouched.emit (huntouched : Untouched past process) {effect : Effect}
    (hkeeps : effect.stopsPlane = false) : Untouched past (process.emit effect) := by
  intro other hmem
  have hcases : other ∈ past ++ process.effects ∨ other = effect := by
    simpa [Process.emit, ← List.append_assoc, or_assoc] using hmem
  rcases hcases with hold | rfl
  · exact huntouched other hold
  · exact hkeeps

theorem Untouched.triggerEvent (huntouched : Untouched past process) (name : EventName) :
    Untouched past (triggerEvent name process) := by
  unfold OpenHybrid.triggerEvent
  split
  · exact huntouched
  · exact huntouched.emit rfl

/-- Nothing is set up; parts may be taken for set up that were not. -/
theorem Lasting.of_same (hlasting : Lasting past process)
    (hbonding : other.runtime.bonding = process.runtime.bonding)
    (hbare : other.runtime.tunnelInterfaceCreated = false →
      ∀ part : Part, part.present other = false)
    (hpresent : ∀ part : Part, part.present other = false → part.present process = false)
    (hsame : SameSetUps process other)
    (hkept : other.exited = false → Untouched past other) : Lasting past other := by
  have hperm : (setUps (past ++ other.effects)).Perm (setUps (past ++ process.effects)) := by
    rw [setUps_append, setUps_append]
    exact List.Perm.append_left _ hsame
  exact ⟨hbonding.trans hlasting.bonding, hbare, hperm.nodup_iff.mpr hlasting.once,
    fun part hnone hmem => hlasting.absent part (hpresent part hnone) (hperm.mem_iff.mp hmem), hkept⟩

/-- A part that is not there is set up, and nothing before the device. -/
theorem Lasting.setUp (hlasting : Lasting past process) (part : Part)
    (hbonding : other.runtime.bonding = process.runtime.bonding)
    (habsent : part.present process = false)
    (hcreated : other.runtime.tunnelInterfaceCreated = true)
    (hpresent : ∀ other' : Part, other'.present other = false →
      other' ≠ part ∧ other'.present process = false)
    (hsets : setUps other.effects = setUps process.effects ++ [part])
    (hkept : other.exited = false → Untouched past other) : Lasting past other := by
  have hnew := hlasting.absent part habsent
  have hlog : setUps (past ++ other.effects) = setUps (past ++ process.effects) ++ [part] := by
    rw [setUps_append, hsets, ← List.append_assoc, ← setUps_append]
  refine ⟨hbonding.trans hlasting.bonding,
    fun hnone => absurd (hcreated.symm.trans hnone) Bool.false_ne_true.symm, ?_, ?_, hkept⟩
  · rw [hlog]
    refine List.nodup_append.mpr ⟨hlasting.once, List.nodup_singleton part, ?_⟩
    rintro old hold new hmem rfl
    exact hnew (List.mem_singleton.mp hmem ▸ hold)
  · intro old hnone hmem
    obtain ⟨hother, hwas⟩ := hpresent old hnone
    rw [hlog] at hmem
    rcases List.mem_append.mp hmem with hmem | hmem
    · exact hlasting.absent old hwas hmem
    · exact hother (List.mem_singleton.mp hmem)

theorem kind_of_stopsPlane {effect : Effect} (htakes : effect.stopsPlane = true) :
    ∃ part : Part, effect.kind = part.kind := by
  unfold Effect.stopsPlane at htakes
  split at htakes
  · exact ⟨.thread .gre2tun, rfl⟩
  · exact ⟨.socket, rfl⟩
  · exact absurd htakes Bool.false_ne_true

theorem Lasting.of_agree (hlasting : Lasting past process)
    (hagree : Agree Aspect.get setUpSupport process other) : Lasting past other := by
  have hsettings : other.runtime.settings = process.runtime.settings :=
    hagree .settings (by decide)
  have hexited : other.exited = process.exited := hagree .exited (by decide)
  have hkinds : ∀ part : Part,
      ofKind part.kind other.effects = ofKind part.kind process.effects := by
    intro part
    cases part with
    | device => exact hagree (.effects .device) (by decide)
    | socket => exact hagree (.effects .greSocket) (by decide)
    | thread thread => exact hagree (.effects .thread) (by decide)
  have hpresent := present_congr (hagree .created (by decide)) (hagree .threads (by decide))
    (hagree .sockfdGre (by decide))
  refine hlasting.of_same (congrArg Settings.bonding hsettings) (fun hnone part => ?_)
    (fun part hnone => (hpresent part).symm.trans hnone) (sameSetUps_of_ofKind hkinds)
    fun hrunning effect hmem => ?_
  · rw [hpresent]
    exact hlasting.bare ((hpresent .device).symm.trans hnone) part
  have hkept := hlasting.kept (hexited.symm.trans hrunning)
  rcases List.mem_append.mp hmem with hmem | hmem
  · exact hkept effect (List.mem_append_left _ hmem)
  · refine Bool.eq_false_iff.mpr fun htakes => ?_
    obtain ⟨part, hkind⟩ := kind_of_stopsPlane htakes
    have hin : effect ∈ ofKind part.kind other.effects :=
      List.mem_filter.mpr ⟨hmem, decide_eq_true hkind⟩
    rw [hkinds part] at hin
    have hold := hkept effect (List.mem_append_right _ (List.mem_filter.mp hin).1)
    exact absurd htakes (Bool.eq_false_iff.mp hold)

/-! ### The device -/

theorem setUps_emit (process : Process) (effect : Effect) :
    setUps (process.emit effect).effects = setUps process.effects ++ setUps [effect] :=
  setUps_append process.effects [effect]

theorem setUps_triggerEvent (name : EventName) (process : Process) :
    setUps (triggerEvent name process).effects = setUps process.effects := by
  unfold triggerEvent
  split
  · rfl
  · rw [setUps_emit]
    exact List.append_nil _

theorem setUps_createTunnelDev (hbonding : process.runtime.bonding = true) :
    setUps (createTunnelDev answers process).2.effects =
      setUps process.effects ++ if (createTunnelDev answers process).1 then [.device] else [] := by
  rw [createTunnelDev, if_pos hbonding]
  unfold createTunTunnelDev
  dsimp only
  by_cases hfd : answers.tun.fd < 0
  · rw [if_pos hfd]
    exact (List.append_nil _).symm
  rw [if_neg hfd]
  cases hset : answers.tun.tunSetIff with
  | false =>
      show setUps (Process.emit _ _).effects = _
      rw [setUps_emit]
      rfl
  | true =>
      show setUps (triggerEvent .tunnelup (Process.emit _ _)).effects = _
      rw [setUps_triggerEvent, setUps_emit]
      rfl

theorem untouched_createTunnelDev (hbonding : process.runtime.bonding = true)
    (huntouched : Untouched past process) :
    Untouched past (createTunnelDev answers process).2 := by
  rw [createTunnelDev, if_pos hbonding]
  unfold createTunTunnelDev
  dsimp only
  have hset : Untouched past { process with sockfdTun := answers.tun.fd } := huntouched
  split_ifs
  · exact hset
  · exact hset.emit rfl
  all_goals exact (hset.emit rfl).triggerEvent _

/-- Parts other than the device. -/
theorem present_updateTunnelDev {part : Part} (hother : part ≠ .device) :
    part.present (updateTunnelDev answers process) = part.present process := by
  have hwithin := within_updateTunnelDev answers process
  obtain ⟨hgre2tun, htun2gre⟩ := Prod.mk.inj (hwithin .threads (by decide))
  have hsocket : (updateTunnelDev answers process).sockfdGre = process.sockfdGre :=
    hwithin .sockfdGre (by decide)
  cases part with
  | device => exact absurd rfl hother
  | socket => rw [Part.present, Part.present, hsocket]
  | thread thread =>
      cases thread with
      | gre2tun => rw [Part.present, Part.present, hgre2tun]
      | tun2gre => rw [Part.present, Part.present, htun2gre]

/-- A device is created where there was none. -/
theorem lasting_updateTunnelDev (hlasting : Lasting past process)
    (hrunning : process.exited = false) :
    Lasting past (updateTunnelDev answers process) := by
  have huntouched := hlasting.kept hrunning
  have hbonding : (updateTunnelDev answers process).runtime.bonding = process.runtime.bonding :=
    congrArg Settings.bonding (within_updateTunnelDev answers process .settings (by decide))
  have hothers : ∀ part : Part, part ≠ .device →
      part.present (updateTunnelDev answers process) = part.present process :=
    fun part hother => present_updateTunnelDev hother
  rcases updateTunnelDev_cases answers process with ⟨-, hnone, hupdate⟩ |
    ⟨-, hcreated, hupdate⟩ | ⟨-, hupdate⟩
  · have hbare := hlasting.bare hnone
    have hsets : setUps (createTunnelDev answers process).2.effects = setUps process.effects ++
        if (createTunnelDev answers process).1 then [.device] else [] :=
      setUps_createTunnelDev hlasting.bonding
    have hkept : Untouched past (createTunnelDev answers process).2 :=
      untouched_createTunnelDev hlasting.bonding huntouched
    cases hdone : (createTunnelDev answers process).1 with
    | true =>
        rw [hdone, if_pos rfl] at hsets
        rw [hdone] at hupdate
        refine hlasting.setUp .device hbonding hnone (by rw [hupdate]) (fun part hgone => ?_)
          (by rw [hupdate]; exact hsets) fun _ => by rw [hupdate]; exact hkept
        refine ⟨?_, hbare part⟩
        rintro rfl
        rw [hupdate] at hgone
        exact absurd hgone Bool.false_ne_true.symm
    | false =>
        rw [hdone, if_neg Bool.false_ne_true, List.append_nil] at hsets
        rw [hdone] at hupdate
        refine hlasting.of_same hbonding (fun _ part => ?_) (fun part _ => hbare part)
          (by rw [hupdate, SameSetUps]; exact .of_eq hsets) fun _ => by rw [hupdate]; exact hkept
        by_cases hdevice : part = .device
        · rw [hdevice, hupdate]
          rfl
        · exact (hothers part hdevice).trans (hbare part)
  · -- the descriptor is closed, but the flag stays
    have hdestroy : destroyTunnelDev answers process =
        (false, triggerEvent .tunneldown (process.emit (.tunDeviceClosed process.sockfdTun))) := by
      rw [destroyTunnelDev, if_pos hlasting.bonding, destroyTunTunnelDev]
    rw [hdestroy] at hupdate
    have hstill : (updateTunnelDev answers process).runtime.tunnelInterfaceCreated = true := by
      rw [hupdate]
      rfl
    refine hlasting.of_same hbonding (fun hgone => absurd (hstill.symm.trans hgone) (by simp))
      (fun part hgone => ?_) (.of_eq ?_) fun _ => ?_
    · by_cases hdevice : part = .device
      · rw [hdevice, Part.present, hstill] at hgone
        exact absurd hgone Bool.false_ne_true.symm
      · exact (hothers part hdevice).symm.trans hgone
    · rw [hupdate]
      show setUps (triggerEvent .tunneldown _).effects = _
      rw [setUps_triggerEvent, setUps_emit]
      exact List.append_nil _
    · rw [hupdate]
      exact (huntouched.emit rfl).triggerEvent _
  · rw [hupdate]
    exact hlasting

/-! ### The socket and the threads -/

theorem lasting_openGreSocket (hlasting : Lasting past process) (hproper : answers.Proper)
    (hcreated : process.runtime.tunnelInterfaceCreated = true) (hclosed : process.sockfdGre = 0)
    (hrunning : process.exited = false) : Lasting past (openGreSocket answers process) := by
  have huntouched := hlasting.kept hrunning
  have hopen : ∀ next : Process, next.runtime = process.runtime →
      next.sockfdGre = answers.greSocket.fd → ∀ part : Part, part.present next = false →
        part ≠ .socket ∧ part.present process = false := by
    intro next hruntime hfd part hgone
    cases part with
    | socket =>
        rw [Part.present, hfd, decide_eq_false_iff_not, not_not] at hgone
        exact absurd hgone hproper.socket
    | device =>
        rw [Part.present, hruntime] at hgone
        exact ⟨by simp, hgone⟩
    | thread thread =>
        refine ⟨by simp, ?_⟩
        cases thread <;> rwa [Part.present, hruntime] at hgone
  have hfatal : ∀ next : Process, next.runtime = process.runtime →
      next.sockfdGre = answers.greSocket.fd →
      next.effects = process.effects ++ [.exit false] → next.exited = true → Lasting past next := by
    intro next hruntime hfd heffects hexited
    refine hlasting.of_same (by rw [hruntime]) (fun hgone => ?_)
      (fun part hgone => (hopen next hruntime hfd part hgone).2) (.of_eq ?_)
      fun hstill => absurd (hexited.symm.trans hstill) Bool.false_ne_true.symm
    · rw [hruntime] at hgone
      exact absurd (hcreated.symm.trans hgone) Bool.false_ne_true.symm
    · rw [heffects, setUps_append]
      exact List.append_nil _
  unfold openGreSocket
  dsimp only
  split
  · exact hfatal _ rfl rfl rfl rfl
  · split
    · exact hfatal _ rfl rfl rfl rfl
    · have hset : Untouched past { process with sockfdGre := answers.greSocket.fd } := huntouched
      refine hlasting.setUp .socket rfl ?_ hcreated (hopen _ rfl rfl) (setUps_emit _ _)
        fun _ => hset.emit rfl
      simp [Part.present, hclosed]

/-- A thread is started where there was none. -/
theorem lasting_startThread (thread : Thread) (hlasting : Lasting past process)
    (hproper : answers.Proper) (hcreated : process.runtime.tunnelInterfaceCreated = true)
    (huntouched : Untouched past process) : Lasting past (thread.start answers process) := by
  rw [Thread.start_eq]
  by_cases hnone : process.handle thread = 0
  · rw [if_pos hnone]
    dsimp only
    have hself := process.handle_setHandle thread (answers.create thread).handle
    have hothers : ∀ part : Part, part ≠ .thread thread →
        part.present (process.setHandle thread (answers.create thread).handle) =
          part.present process := fun part hother => present_setHandle hother _ process
    have heffects := process.effects_setHandle thread (answers.create thread).handle
    have hbonding : (process.setHandle thread (answers.create thread).handle).runtime.bonding =
        process.runtime.bonding := by
      cases thread <;> rfl
    generalize process.setHandle thread (answers.create thread).handle = next
      at hself hothers heffects hbonding
    have habsent : Part.present (.thread thread) process = false :=
      (present_thread thread process).trans (decide_eq_false (not_not.mpr hnone))
    have hset : Untouched past next := by
      rw [Untouched, heffects]
      exact huntouched
    have hmore : ∀ part : Part, part.present next = false → part.present process = false := by
      intro part hgone
      by_cases hthread : part = .thread thread
      · rw [hthread]
        exact habsent
      · exact (hothers part hthread).symm.trans hgone
    have hstill : next.runtime.tunnelInterfaceCreated = true :=
      (hothers .device (by simp)).trans hcreated
    split
    · rename_i hstarted
      refine hlasting.setUp (.thread thread) hbonding habsent hstill (fun part hgone => ?_) ?_
        fun _ => hset.emit rfl
      · refine ⟨?_, hmore part hgone⟩
        rintro rfl
        have hzero : decide (next.handle thread ≠ 0) = false :=
          (present_thread thread next).symm.trans hgone
        rw [hself] at hzero
        exact absurd (hproper.create thread hstarted) (of_decide_eq_false hzero)
      · rw [setUps_emit, heffects]
        rfl
    · exact hlasting.of_same hbonding
        (fun hgone => absurd (hstill.symm.trans hgone) Bool.false_ne_true.symm) hmore
        (.of_eq (by rw [heffects])) fun _ => hset
  · rw [if_neg hnone]
    exact hlasting

theorem lasting_startThreads (hlasting : Lasting past process) (hproper : answers.Proper)
    (hrunning : process.exited = false) : Lasting past (startThreads answers process) := by
  unfold startThreads
  cases hcreated : process.runtime.tunnelInterfaceCreated with
  | false =>
      rw [Bool.and_false, if_neg Bool.false_ne_true]
      exact hlasting
  | true =>
      rw [hlasting.bonding, Bool.and_true, if_pos rfl]
      have hboth : ∀ process : Process, Lasting past process →
          process.runtime.tunnelInterfaceCreated = true →
          Lasting past (if process.exited then process
            else startTun2gre answers (startGre2tun answers process)) := by
        intro process hlasting hcreated
        cases hexited : process.exited with
        | true => exact hlasting
        | false =>
            have hfirst :=
              lasting_startThread .gre2tun hlasting hproper hcreated (hlasting.kept hexited)
            have hwithin := within_startThread answers process .gre2tun
            have hstill := hwithin .created (by decide)
            have hgoes := hwithin .exited (by decide)
            exact lasting_startThread .tun2gre hfirst hproper (hstill.trans hcreated)
              (hfirst.kept (hgoes.trans hexited))
      dsimp only
      by_cases hclosed : process.sockfdGre = 0
      · rw [if_pos hclosed]
        refine hboth _ (lasting_openGreSocket hlasting hproper hcreated hclosed hrunning) ?_
        exact (within_openGreSocket answers process .created (by decide)).trans hcreated
      · rw [if_neg hclosed]
        exact hboth process hlasting hcreated

/-- Before there is a device there is nothing to take down, and there is one from then on. -/
theorem stopThreads_of_lasting (hlasting : Lasting past process) :
    stopThreads process = process := by
  unfold stopThreads
  cases hcreated : process.runtime.tunnelInterfaceCreated with
  | true => rw [Bool.not_true, Bool.and_false, if_neg Bool.false_ne_true]
  | false =>
      have hbare := hlasting.bare hcreated
      have hgre2tun : ¬ process.runtime.gre2tunThread ≠ 0 :=
        of_decide_eq_false (hbare (.thread .gre2tun))
      have htun2gre : ¬ process.runtime.tun2greThread ≠ 0 :=
        of_decide_eq_false (hbare (.thread .tun2gre))
      have hsocket : ¬ process.sockfdGre ≠ 0 := of_decide_eq_false (hbare .socket)
      rw [hlasting.bonding, Bool.not_false, Bool.and_true, if_pos rfl]
      unfold cancelThreads
      simp only [if_neg hgre2tun, if_neg htun2gre, if_neg hsocket]

/-! ### The shutdown -/

theorem sameSetUps_of_within {footprint : List Aspect}
    (hwithin : Within footprint process other)
    (hkinds : ∀ part : Part, .effects part.kind ∉ footprint) : SameSetUps process other :=
  sameSetUps_of_ofKind fun part => hwithin (.effects part.kind) (hkinds part)

theorem sameSetUps_cancelThreads (process : Process) :
    SameSetUps process (cancelThreads process) := by
  unfold cancelThreads closeGreSocket
  dsimp only
  refine List.Perm.trans (sameSetUps_if (sameSetUps_emit _ rfl)) ?_
  exact (sameSetUps_if (sameSetUps_emit _ rfl)).trans (sameSetUps_if (sameSetUps_emit _ rfl))

theorem sameSetUps_destroyTunnelDev (process : Process) :
    SameSetUps process (destroyTunnelDev answers process).2 := by
  have htold : ∀ process name effect, Effect.setsUp effect = none →
      SameSetUps process (triggerEvent name (process.emit effect)) :=
    fun process name effect hnone =>
      (sameSetUps_triggerEvent name _).trans (sameSetUps_emit process hnone)
  unfold destroyTunnelDev
  split
  · exact htold _ _ _ rfl
  · unfold destroyGreTunnelDev
    cases answers.netlink with
    | noSocket => exact List.Perm.refl _
    | refused => exact List.Perm.refl _
    | acknowledged => exact htold _ _ _ rfl
    | noAnswer carriedOut =>
        cases carriedOut with
        | false => exact sameSetUps_triggerEvent _ _
        | true => exact htold _ _ _ rfl

theorem sameSetUps_shutdown (process : Process) :
    SameSetUps process (shutdown answers process) := by
  have hother : ∀ part : Part, part.kind = .device ∨ part.kind = .greSocket ∨ part.kind = .thread := by
    rintro (_ | _ | _) <;> simp [Part.kind]
  rw [shutdown_eq]
  refine (sameSetUps_of_within (within_sayGoodbye answers _) fun part => ?_).trans
    (List.Perm.trans ?_ ((sameSetUps_of_within (within_endLeases _) fun part => ?_).trans
      (sameSetUps_of_within (within_killClients answers process) fun part => ?_)))
  · rcases hother part with hkind | hkind | hkind <;> rw [hkind] <;> decide
  · unfold removeDevice
    exact (sameSetUps_if (sameSetUps_destroyTunnelDev _)).trans
      (sameSetUps_if (sameSetUps_cancelThreads _))
  · rcases hother part with hkind | hkind | hkind <;> rw [hkind] <;> decide
  · rcases hother part with hkind | hkind | hkind <;> rw [hkind] <;> decide

theorem lasting_handleSignals (hlasting : Lasting past process) :
    Lasting past (handleSignals answers process) := by
  have hsignal : ∀ signal, Lasting past { process with runtime.signal := signal } :=
    fun signal => hlasting.of_agree ((within_signal process signal).agree (by decide))
  rcases handleSignals_eq answers process with ⟨signal, hafter⟩ | ⟨signal, hafter⟩
  · rw [hafter]
    exact hsignal signal
  · rw [hafter]
    set before : Process := { process with runtime.signal := signal }
    have hwithin := within_shutdown answers before
    have hpresent := present_congr (hwithin .created (by decide)) (hwithin .threads (by decide))
      (hwithin .sockfdGre (by decide))
    refine (hsignal signal).of_same
      (congrArg Settings.bonding (hwithin .settings (by decide))) (fun hgone part => ?_)
      (fun part hgone => (hpresent part).symm.trans hgone) (sameSetUps_shutdown before)
      fun hstill => absurd hstill Bool.false_ne_true.symm
    rw [hpresent]
    exact (hsignal signal).bare ((hpresent .device).symm.trans hgone) part

/-! ### One execution and a run -/

theorem lasting_after (hproper : answers.Proper) (timer : Timer)
    (hbefore : Lasting past (Timer.before answers timer process)) :
    Lasting past (Timer.after answers timer process) := by
  refine leaving_invariant _ hbefore fun hrunning => ?_
  have hother : (∀ aspect ∈ setUpSupport, aspect ∉ timer.footprint) → Lasting past
      (timer.run answers (Timer.before answers timer process)) := fun hdisjoint =>
    hbefore.of_agree ((timer.within_run answers _).agree hdisjoint)
  cases timer with
  | updateTunnelDev => exact lasting_updateTunnelDev hbefore hrunning
  | startThreads => exact lasting_startThreads hbefore hproper hrunning
  | stopThreads =>
      show Lasting past (stopThreads _)
      rw [stopThreads_of_lasting hbefore]
      exact hbefore
  | handleSignals => exact lasting_handleSignals hbefore
  | _ => exact hother (by decide)

theorem lasting_executeTimers (hlasting : Lasting past process) (hproper : answers.Proper) :
    Lasting past (executeTimers answers process) := by
  rw [executeTimers_eq]
  exact runUntil_invariant (Lasting past) (by decide : Timer.all.Nodup) (List.append_nil _).symm
    hlasting fun timer _ hbefore => lasting_after hproper timer hbefore

/-- What has been done belongs to the past. -/
theorem Lasting.quiet (hlasting : Lasting past process) :
    Lasting (past ++ process.effects) process.quiet := by
  have hsame : past ++ process.effects ++ process.quiet.effects = past ++ process.effects :=
    List.append_nil _
  refine ⟨hlasting.bonding, hlasting.bare, hsame.symm ▸ hlasting.once, fun part hnone => ?_,
    fun hrunning effect hmem => hlasting.kept hrunning effect (hsame ▸ hmem)⟩
  exact hsame.symm ▸ hlasting.absent part hnone

namespace Main

variable {config : Config} {buffer : Memory} {state : State} {input : Input}
  {history : History Input Output}

theorem lasting_receive (hlasting : Lasting past state.process.quiet)
    (hcontained : ReceiveContained state input) :
    Lasting past (receive state input).process.quiet := by
  have hagree : Agree Aspect.get [.settings, .created, .threads, .sockfdGre, .exited] state.process
      (receive state input).process := by
    refine agree_receive hcontained fun msgtype tuntype _ htuntype => ?_
    rcases htuntype with rfl | rfl <;> cases msgtype <;> decide
  refine hlasting.of_agree fun aspect hmem => ?_
  cases aspect with
  | settings => exact hagree .settings (by decide)
  | created => exact hagree .created (by decide)
  | threads => exact hagree .threads (by decide)
  | sockfdGre => exact hagree .sockfdGre (by decide)
  | exited => exact hagree .exited (by decide)
  | effects kind => rfl
  | _ => exact absurd hmem (by decide)

/-- With bonding, what is set up lasts, in every run. -/
theorem lasting_of_run (hbonding : config.bonding = true)
    (hrun : RunWhere Step
      (fun _ state input => ReceiveContained state input ∧ input.answers.Proper)
      (State.initial config buffer) history state) :
    Lasting (effectsOf history) state.process.quiet := by
  refine hrun.invariant (fun history state => Lasting (effectsOf history) state.process.quiet) ?_ ?_
  · refine ⟨hbonding, fun _ part => ?_, List.nodup_nil, fun _ _ => List.not_mem_nil,
      fun _ _ hmem => absurd hmem List.not_mem_nil⟩
    rcases part with _ | _ | (_ | _) <;> rfl
  · intro history state input output next hlasting hguard hstep
    have hnext := lasting_executeTimers (lasting_receive hlasting hguard.1) hguard.2
    rw [← next_of_step hstep] at hnext
    rw [effectsOf_snoc, (output_of_step hstep).2.2]
    exact hnext.quiet

/-- **The data plane is set up once.** In every run with bonding, whatever is received and however
often the tunnels are lost and accepted again: the tun device, the data socket and either thread are
set up at most once, what has been set up is taken for set up ever after, and before the process exits
no thread is cancelled and the data socket is not closed. -/
theorem dataPlane_once (hbonding : config.bonding = true)
    (hrun : RunWhere Step
      (fun _ state input => ReceiveContained state input ∧ input.answers.Proper)
      (State.initial config buffer) history state) :
    (setUps (effectsOf history)).Nodup ∧
      (∀ part ∈ setUps (effectsOf history), part.present state.process = true) ∧
      (state.process.exited = false →
        ∀ effect ∈ effectsOf history, effect.stopsPlane = false) := by
  obtain ⟨_, _, honce, habsent, hkept⟩ := lasting_of_run hbonding hrun
  rw [Process.quiet_effects, List.append_nil] at honce
  have hall : effectsOf history ++ state.process.quiet.effects = effectsOf history :=
    List.append_nil _
  refine ⟨honce, fun part hmem => ?_, fun hrunning effect hmem => hkept hrunning effect ?_⟩
  · rw [← Bool.not_eq_false]
    exact fun hnone => habsent part hnone (hall.symm ▸ hmem)
  · exact hall.symm ▸ hmem

theorem answers_plain_proper (now : Timeval) : (Answers.plain now).Proper :=
  ⟨show (4 : Int) ≠ 0 by decide, fun _ => show (5 : BitVec 64) ≠ 0 by decide,
    fun _ => show (6 : BitVec 64) ≠ 0 by decide⟩

def reacceptance : History Input Output :=
  let accept := datagram (bareAccept 0x20) ⟨20, 0⟩
  let teardown := datagram (bareAccept 0x50) ⟨21, 0⟩
  let again := datagram (bareAccept 0x20) ⟨22, 0⟩
  let up := iteration (plainStart true) accept
  let down := iteration up teardown
  [(accept, outputOf (plainStart true) accept), (teardown, outputOf up teardown),
    (again, outputOf down again)]

theorem reaccepted_setUps :
    setUps (effectsOf reacceptance) =
        [.device, .socket, .thread .gre2tun, .thread .tun2gre] ∧
      (setUps (effectsOf reacceptance)).Nodup := by
  have hguard : ∀ state typeByte now, ReceiveContained state (datagram (bareAccept typeByte) now) ∧
      (datagram (bareAccept typeByte) now).answers.Proper := fun state typeByte now =>
    ⟨bareAccept_contained state typeByte now, answers_plain_proper now⟩
  have hrun : RunWhere Step
      (fun _ state input => ReceiveContained state input ∧ input.answers.Proper) (plainStart true)
      reacceptance _ :=
    .snoc (.snoc (.snoc .nil (hguard _ _ _) (step_outputOf rfl _)) (hguard _ _ _)
      (step_outputOf (by decide +kernel) _)) (hguard _ _ _) (step_outputOf (by decide +kernel) _)
  exact ⟨by decide +kernel, (dataPlane_once rfl hrun).1⟩

end Main

end OpenHybrid
