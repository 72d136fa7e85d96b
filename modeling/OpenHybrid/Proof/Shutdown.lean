import OpenHybrid.Proof.Execution

/-!
# How an execution ends

The last timer looks at the signals: the loop goes on, or the process shuts down. A shutdown has four
parts.
-/

namespace OpenHybrid

open ByteMemory Frame

variable (answers : Answers) {process : Process}

/-! ### Parts of a shutdown -/

def killClients (process : Process) : Process :=
  let process :=
    if process.runtime.dhcp.udhcpcPid ≠ 0 then (killUdhcpc answers process).2 else process
  if process.runtime.dhcp6.udhcpc6Pid ≠ 0 then (killUdhcpc6 answers process).2 else process

def endLeases (process : Process) : Process :=
  let process :=
    if process.runtime.dhcp.leaseTime ≠ 0 then triggerEvent .dhcpdownIp process else process
  if process.runtime.dhcp6.leaseTime ≠ 0 then triggerEvent .dhcpdownIp6 process else process

def removeDevice (process : Process) : Process :=
  let process := if process.runtime.bonding then cancelThreads process else process
  if process.runtime.tunnelInterfaceCreated then (destroyTunnelDev answers process).2 else process

def sayGoodbye (process : Process) : Process :=
  let process :=
    if process.runtime.lte.tunnelEstablished && process.runtime.dsl.tunnelEstablished then
      (sendGrecpnotifyLinkfailure answers grecpTuntypeDsl
        (sendGrecpnotifyLinkfailure answers grecpTuntypeLte process).2).2
    else process
  (triggerEvent .shutdown process).exit true

/-- A shutdown in its four parts. -/
theorem shutdown_eq (process : Process) :
    shutdown answers process =
      sayGoodbye answers (removeDevice answers (endLeases (killClients answers process))) := rfl

theorem within_killClients (process : Process) :
    Within [.effects .client] process (killClients answers process) := by
  unfold killClients
  exact Within.trans (within_if process (within_killUdhcpc answers process))
    (within_if _ (within_killUdhcpc6 answers _))

theorem within_endLeases (process : Process) :
    Within [.effects .dhcpEvent, .effects .dhcp6Event] process (endLeases process) := by
  unfold endLeases
  exact Within.trans (within_if process (within_triggerEvent process (by decide)))
    (within_if _ (within_triggerEvent _ (by decide)))

theorem within_removeDevice (process : Process) :
    Within [.effects .greSocket, .effects .thread, .effects .device] process
      (removeDevice answers process) := by
  unfold removeDevice
  exact Within.trans (within_if process ((within_cancelThreads process).mono (by simp)))
    (within_if _ ((within_destroyTunnelDev answers _).mono (by simp)))

theorem within_sayGoodbye (process : Process) :
    Within [.exited, .effects (.notify msgattrDslLinkFailure),
      .effects (.notify msgattrLteLinkFailure), .effects .lifecycle] process
      (sayGoodbye answers process) := by
  unfold sayGoodbye
  have hfailures : Within [.exited, .effects (.notify msgattrDslLinkFailure),
      .effects (.notify msgattrLteLinkFailure), .effects .lifecycle] process
      (sendGrecpnotifyLinkfailure answers grecpTuntypeDsl
        (sendGrecpnotifyLinkfailure answers grecpTuntypeLte process).2).2 :=
    Within.trans (within_sendNotify answers process (by decide))
      (within_sendNotify answers _ (by decide))
  dsimp only
  refine Within.trans ?_ (within_exit _ (by decide) (by decide) true)
  refine Within.trans ?_ (within_triggerEvent _ (by decide))
  exact within_if process hfailures

/-! ### The last timer -/

/-- A signal stops the process or is forgotten. -/
theorem handleSignals_eq (process : Process) :
    (∃ signal, handleSignals answers process = { process with runtime.signal := signal }) ∨
      ∃ signal, handleSignals answers process =
        shutdown answers { process with runtime.signal := signal } := by
  unfold handleSignals
  dsimp only
  split_ifs
  · exact Or.inr ⟨_, rfl⟩
  · exact Or.inl ⟨0, rfl⟩
  · exact Or.inl ⟨_, rfl⟩

inductive Ends (before after : Process) : Prop
  /-- The data socket could not be opened. -/
  | fatal (hexited : before.exited = true) (hafter : after = before)
  | goesOn (hrunning : before.exited = false) (signal : Int)
      (hafter : after = { before with runtime.signal := signal })
  | shutsDown (hrunning : before.exited = false) (signal : Int)
      (hafter : after = shutdown answers { before with runtime.signal := signal })

theorem after_handleSignals (process : Process) :
    Timer.after answers .handleSignals process = executeTimers answers process := by
  rw [executeTimers_eq]
  show _ = runUntil _ _ (Timer.all.takeWhile (· ≠ .handleSignals) ++ [.handleSignals]) process
  rw [runUntil_append, runUntil_cons]
  rfl

/-- However an execution ends, it is the last timer that has the last word. -/
theorem ends_executeTimers (process : Process) :
    Ends answers (Timer.before answers .handleSignals process)
      (executeTimers answers process) := by
  rw [← after_handleSignals]
  cases hexited : (Timer.before answers .handleSignals process).exited with
  | true => exact .fatal hexited (leaving_of_done hexited)
  | false =>
      have hafter : Timer.after answers .handleSignals process =
          handleSignals answers (Timer.before answers .handleSignals process) :=
        leaving_of_not_done hexited
      rw [hafter]
      rcases handleSignals_eq answers (Timer.before answers .handleSignals process) with
        ⟨signal, hsignal⟩ | ⟨signal, hshutdown⟩
      · exact .goesOn hexited signal hsignal
      · exact .shutsDown hexited signal hshutdown

theorem ne_handleSignals_of_front {timer other : Timer}
    (hfront : other ∈ Timer.all.takeWhile (· ≠ timer)) : other ≠ .handleSignals := by
  rintro rfl
  cases timer <;> exact absurd hfront (by decide)

theorem exited_shutdown (process : Process) : (shutdown answers process).exited = true := rfl

theorem within_signal (process : Process) (signal : Int) :
    Within [.signal] process { process with runtime.signal := signal } := by
  intro aspect haspect
  cases aspect with
  | signal => exact absurd (by decide) haspect
  | _ => rfl

/-- If the loop goes on, the last timer has done nothing else. -/
theorem agree_of_running {support : List Aspect} (hsupport : ∀ aspect ∈ support, aspect ≠ .signal)
    (hrunning : (executeTimers answers process).exited = false) :
    Agree Aspect.get support (Timer.before answers .handleSignals process)
      (executeTimers answers process) := by
  have hsignal : ∀ before signal, Agree Aspect.get support before
      { before with runtime.signal := signal } := fun before signal =>
    (within_signal before signal).agree fun aspect haspect hmem =>
      hsupport aspect haspect (List.mem_singleton.mp hmem)
  cases ends_executeTimers answers process with
  | fatal hexited hafter =>
      rw [hafter]
      exact Agree.refl support _
  | goesOn _ signal hafter =>
      rw [hafter]
      exact hsignal _ signal
  | shutsDown _ signal hafter =>
      rw [hafter, exited_shutdown] at hrunning
      exact absurd hrunning Bool.false_ne_true.symm

/-- If the loop goes on, what no later timer touches is as it was behind a timer. -/
theorem agree_to_end (support : List Aspect) (timer : Timer)
    (hplaces : Timer.all.takeWhile (· ≠ .handleSignals) = Timer.all.takeWhile (· ≠ timer) ++
      timer :: between Timer.all timer .handleSignals)
    (hdisjoint : ∀ other ∈ between Timer.all timer .handleSignals, ∀ aspect ∈ support,
      aspect ∉ other.footprint)
    (hsupport : ∀ aspect ∈ support, aspect ≠ .signal)
    (hrunning : (executeTimers answers process).exited = false) :
    Agree Aspect.get support (Timer.after answers timer process) (executeTimers answers process) :=
  (Timer.agree_between answers process support timer .handleSignals hplaces hdisjoint).trans
    (agree_of_running answers hsupport hrunning)

/-- If the loop goes on, it was going on in front of every timer. -/
theorem running_before (timer : Timer)
    (hrunning : (executeTimers answers process).exited = false) :
    (Timer.before answers timer process).exited = false := by
  cases hexited : (Timer.before answers timer process).exited with
  | false => rfl
  | true =>
      have hend : executeTimers answers process = Timer.before answers timer process := by
        rw [executeTimers_eq, ← List.takeWhile_append_dropWhile (p := (· ≠ timer)) (l := Timer.all),
          runUntil_append]
        exact runUntil_of_done hexited _
      rw [hend, hexited] at hrunning
      exact hrunning

theorem after_of_running (timer : Timer)
    (hrunning : (executeTimers answers process).exited = false) :
    Timer.after answers timer process = timer.run answers (Timer.before answers timer process) :=
  leaving_of_not_done (running_before answers timer hrunning)

end OpenHybrid
