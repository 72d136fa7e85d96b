import OpenHybrid.Proof.Clients
import OpenHybrid.Proof.Device

/-!
# Leases

The event script should hear when a lease begins and when it ends. It does of the leases of one
family as long as they are not touched by the two blocks that mix the families up.
-/

namespace OpenHybrid

open ByteMemory Frame Transition Alternation

variable {answers : Answers} {client : Client} {past : List Effect} {process other : Process}

def announcement (client : Client) (before after : BitVec 32) : List Effect :=
  if before ≠ 0 ∧ after = 0 then [.event client.leaseDown]
  else if before = 0 ∧ after ≠ 0 then [.event client.leaseUp]
  else []

def Booked (client : Client) (before after : Process) : Prop :=
  ofKind client.eventKind after.effects = ofKind client.eventKind before.effects ++
    if before.runtime.scripted then
      announcement client (before.runtime.leaseTime client) (after.runtime.leaseTime client)
    else []

def Idle (client : Client) (process : Process) : Prop :=
  process.runtime.clientPid client ≠ 0 → process.runtime.leaseTime client = 0

theorem announcement_still {before after : BitVec 32} (hsame : before = 0 ↔ after = 0) :
    announcement client before after = [] := by
  unfold announcement
  rw [if_neg (by tauto), if_neg (by tauto)]

theorem announcement_down {before : BitVec 32} (hbefore : before ≠ 0) :
    announcement client before 0 = [.event client.leaseDown] := if_pos ⟨hbefore, rfl⟩

theorem announcement_up {after : BitVec 32} (hafter : after ≠ 0) :
    announcement client 0 after = [.event client.leaseUp] := by
  unfold announcement
  rw [if_neg fun hdown => hdown.1 rfl, if_pos ⟨rfl, hafter⟩]

theorem booked_of_still (heffects : ofKind client.eventKind other.effects =
      ofKind client.eventKind process.effects)
    (hsame : process.runtime.leaseTime client = 0 ↔ other.runtime.leaseTime client = 0) :
    Booked client process other := by
  unfold Booked
  rw [announcement_still hsame, heffects, ite_self, List.append_nil]

theorem booked_of_agree
    (hagree : Agree Aspect.get [client.aspect, .effects client.eventKind] process other) :
    Booked client process other := by
  have hlease := leaseTime_of_get (hagree client.aspect (by simp))
  exact booked_of_still (hagree (.effects client.eventKind) (by simp)) (by rw [hlease])

theorem Idle.of_agree (hidle : Idle client process)
    (hagree : Agree Aspect.get [client.aspect, .effects client.eventKind] process other) :
    Idle client other := by
  have hlease := leaseTime_of_get (hagree client.aspect (by simp))
  have hpid := clientPid_of_get (hagree client.aspect (by simp))
  unfold Idle
  rw [hlease, hpid]
  exact hidle

theorem Booked.trans_agree {last : Process} (hbooked : Booked client process other)
    (hagree : Agree Aspect.get [client.aspect, .effects client.eventKind] other last) :
    Booked client process last := by
  have hlease := leaseTime_of_get (hagree client.aspect (by simp))
  have heffects : ofKind client.eventKind last.effects = ofKind client.eventKind other.effects :=
    hagree (.effects client.eventKind) (by simp)
  unfold Booked
  rw [heffects, hlease]
  exact hbooked

theorem Booked.of_same {last : Process}
    (hscripted : other.runtime.scripted = process.runtime.scripted)
    (hlease : other.runtime.leaseTime client = process.runtime.leaseTime client)
    (heffects : ofKind client.eventKind other.effects = ofKind client.eventKind process.effects)
    (hbooked : Booked client other last) : Booked client process last := by
  unfold Booked at hbooked ⊢
  rw [hbooked, heffects, hlease, hscripted]

theorem ofKind_triggerEvent (name : EventName) {kind : Kind}
    (hkind : (Effect.event name).kind = kind) (process : Process) :
    ofKind kind (triggerEvent name process).effects =
      ofKind kind process.effects ++ if process.runtime.scripted then [.event name] else [] := by
  rw [effects_triggerEvent, ofKind, List.filter_append]
  congr 1
  split
  · rw [List.filter_singleton, decide_eq_true hkind]
    rfl
  · rfl

theorem booked_of_down (hbefore : process.runtime.leaseTime client ≠ 0)
    (hafter : other.runtime.leaseTime client = 0)
    (heffects : other.effects = (triggerEvent client.leaseDown process).effects) :
    Booked client process other := by
  unfold Booked
  rw [hafter, announcement_down hbefore, heffects]
  exact ofKind_triggerEvent _ (by cases client <;> rfl) process

theorem booked_of_up (client : Client)
    (hscripted : other.runtime.scripted = process.runtime.scripted)
    (heffects : ofKind client.eventKind other.effects = ofKind client.eventKind process.effects)
    (hbefore : process.runtime.leaseTime client = 0)
    (hafter : other.runtime.leaseTime client ≠ 0) :
    Booked client process (triggerEvent client.leaseUp other) := by
  have hkind : (Effect.event client.leaseUp).kind = client.eventKind := by cases client <;> rfl
  unfold Booked
  rw [ofKind_triggerEvent _ hkind, runtime_triggerEvent, hbefore, announcement_up hafter, heffects,
    hscripted]

theorem agree_emit (client : Client) {effect : Effect} (hkind : effect.kind = .client) (process : Process) :
    Agree Aspect.get [.settings, client.aspect, .effects client.eventKind] process
      (process.emit effect) := by
  have hwithin : Within [.effects .client] process (process.emit effect) :=
    within_emit process (by rw [hkind]; exact List.mem_cons_self)
  refine hwithin.agree fun aspect haspect => ?_
  cases client <;> revert aspect <;> decide

/-- A block that says nothing and leaves the lease alone may start a client where there is none. -/
theorem Idle.kept (hidle : Idle client process)
    (heffects : ofKind client.eventKind other.effects = ofKind client.eventKind process.effects)
    (hlease : other.runtime.leaseTime client = process.runtime.leaseTime client)
    (hpid : other.runtime.clientPid client = process.runtime.clientPid client ∨
      process.runtime.leaseTime client = 0) :
    Booked client process other ∧ Idle client other := by
  refine ⟨booked_of_still heffects (by rw [hlease]), fun hclient => hlease.trans ?_⟩
  rcases hpid with hsame | hnone
  · exact hidle (hsame ▸ hclient)
  · exact hnone

/-! ### Starting and polling a client -/

/-- Starting a client says nothing. -/
theorem start_client (hidle : Idle client process) :
    Booked client process (client.start answers process) ∧
      Idle client (client.start answers process) := by
  have heffects := within_start answers process client (.effects client.eventKind)
    (by cases client <;> decide)
  rw [Client.start_eq] at heffects ⊢
  split at heffects
  · rename_i hneeded
    rw [if_pos hneeded]
    simp only [Bool.and_eq_true, decide_eq_true_eq] at hneeded
    refine hidle.kept heffects ?_ (Or.inr hneeded.1.2)
    rw [leaseTime_setPid, startClient_runtime]
  · rename_i hneeded
    rw [if_neg hneeded]
    exact ⟨booked_of_agree (Agree.refl _ _), hidle⟩

theorem booked_processOutput (hlease : process.runtime.leaseTime client = 0) :
    Booked client process (client.processOutput answers process) := by
  obtain ⟨read, hread, heffects, houtput⟩ := client.processOutput_cases answers process
  have hsame : ofKind client.eventKind read.effects = ofKind client.eventKind process.effects := by
    rw [heffects]
    exact agree_emit client rfl process (.effects client.eventKind) (by simp)
  rcases houtput with ⟨hunbound, hnone⟩ | ⟨hbound, hobtained⟩
  · rw [hunbound]
    exact booked_of_still hsame ⟨fun _ => hnone.elim (·.trans hlease) id, fun _ => hlease⟩
  · rw [hbound]
    have hsettings := hread .settings (by cases client <;> decide)
    exact booked_of_up client (scripted_congr hsettings) hsame hlease hobtained

/-- A client that has exited says what there is to say about its lease. -/
theorem poll_client (hidle : Idle client process) :
    Booked client process (client.poll answers process) ∧
      Idle client (client.poll answers process) := by
  by_cases hclient : process.runtime.clientPid client ≠ 0
  · have hlease : process.runtime.leaseTime client = 0 := hidle hclient
    have heffects : ofKind client.eventKind (client.polled answers process).effects =
        ofKind client.eventKind process.effects :=
      agree_emit client rfl process (.effects client.eventKind) (by simp)
    have hpid := clientPid_poll answers client process hclient
    rw [Client.poll_eq, if_pos hclient] at hpid ⊢
    split
    · rename_i hexited
      rw [if_pos hexited, if_pos hexited] at hpid
      set reaped := (client.polled answers process).setPid client 0
      have hnone : reaped.runtime.leaseTime client = 0 := (leaseTime_setPid client 0 _).trans hlease
      refine ⟨Booked.of_same ?_ ?_ ?_ (booked_processOutput hnone), fun hafter => absurd hpid hafter⟩
      · cases client <;> rfl
      · exact hnone.trans hlease.symm
      · rw [effects_setPid]
        exact heffects
    · exact ⟨booked_of_still heffects Iff.rfl, fun _ => hlease⟩
  · rw [Client.poll_eq, if_neg hclient]
    exact ⟨booked_of_agree (Agree.refl _ _), hidle⟩

/-! ### The blocks of the DHCPv4 half -/

/-- The reset takes back a lease that was announced. -/
theorem booked_resetDhcp (hidle : Idle .udhcpc process) :
    Booked .udhcpc process (resetDhcp answers process) := by
  have hafter : (resetDhcp answers process).runtime.leaseTime .udhcpc = 0 :=
    congrArg Dhcp.leaseTime (dhcp_resetDhcp answers process)
  by_cases hclient : process.runtime.dhcp.udhcpcPid ≠ 0
  · have hlease : process.runtime.leaseTime .udhcpc = 0 := hidle hclient
    refine booked_of_still ?_ (by rw [hlease, hafter])
    unfold resetDhcp
    rw [if_pos hclient]
    exact within_killUdhcpc answers process (.effects .dhcpEvent) (by decide)
  · by_cases hlease : process.runtime.dhcp.leaseTime ≠ 0
    · refine booked_of_down hlease hafter ?_
      unfold resetDhcp
      rw [if_neg hclient, if_pos hlease]
      rfl
    · have heffects : (resetDhcp answers process).effects = process.effects := by
        unfold resetDhcp
        rw [if_neg hclient, if_neg hlease]
      have hnone : process.runtime.leaseTime .udhcpc = 0 := not_not.mp hlease
      exact booked_of_still (by rw [heffects]) (by rw [hnone, hafter])

theorem idle_of_none (hnone : process.runtime.dhcp = Dhcp.none) : Idle .udhcpc process :=
  fun hclient => absurd (congrArg Dhcp.udhcpcPid hnone) hclient

theorem idle_of_none6 (hnone : process.runtime.dhcp6 = Dhcp6.none) : Idle .udhcpc6 process :=
  fun hclient => absurd (congrArg Dhcp6.udhcpc6Pid hnone) hclient

theorem resetSession_udhcpc (hidle : Idle .udhcpc process) :
    Booked .udhcpc process (resetSession answers process) ∧
      Idle .udhcpc (resetSession answers process) := by
  cases hup : (process.runtime.established grecpTuntypeLte ||
      process.runtime.established grecpTuntypeDsl) with
  | true =>
      rw [resetSession_of_up answers hup]
      exact ⟨booked_of_agree (Agree.refl _ _), hidle⟩
  | false =>
      rw [resetSession_of_down answers hup]
      have hbooked : Booked .udhcpc process (resetDhcp answers (forgetSession process)) :=
        booked_resetDhcp (hidle : Idle .udhcpc (forgetSession process))
      have hreset : Agree Aspect.get [.dhcp, .effects .dhcpEvent]
          (resetDhcp answers (forgetSession process))
          (resetDhcp6 answers (resetDhcp answers (forgetSession process))) :=
        (within_resetDhcp6 answers _).agree (by decide)
      exact ⟨hbooked.trans_agree hreset,
        (idle_of_none (dhcp_resetDhcp answers (forgetSession process))).of_agree hreset⟩

theorem expireDhcp_udhcpc (hidle : Idle .udhcpc process) :
    Booked .udhcpc process (expireDhcp answers process) ∧
      Idle .udhcpc (expireDhcp answers process) := by
  have hexpire := dhcp_expireDhcp answers process
  cases hover : process.runtime.dhcp.over answers with
  | false =>
      have hsame : expireDhcp answers process = process := by
        unfold Dhcp.over at hover
        unfold expireDhcp
        rw [if_neg (of_decide_eq_false hover)]
      rw [hsame]
      exact ⟨booked_of_agree (Agree.refl _ _), hidle⟩
  | true =>
      rw [hover, if_pos rfl] at hexpire
      have hafter : (expireDhcp answers process).runtime.leaseTime .udhcpc = 0 :=
        congrArg Dhcp.leaseTime hexpire
      have hold := of_decide_eq_true hover
      refine ⟨booked_of_down hold.1 hafter ?_, fun _ => hafter⟩
      unfold expireDhcp
      rw [if_pos hold]
      rfl

/-- The expiry of a DHCPv6 lease must not find a DHCPv4 lease. -/
theorem expireDhcp6_udhcpc (hidle : Idle .udhcpc process)
    (hover : process.runtime.dhcp6.over answers = true → process.runtime.leaseTime .udhcpc = 0) :
    Booked .udhcpc process (expireDhcp6 answers process) ∧
      Idle .udhcpc (expireDhcp6 answers process) := by
  have hexpire := dhcp_expireDhcp6 answers process
  have heffects := within_expireDhcp6 answers process (.effects .dhcpEvent) (by decide)
  cases hover6 : process.runtime.dhcp6.over answers with
  | false =>
      rw [hover6, if_neg Bool.false_ne_true] at hexpire
      have hagree : Agree Aspect.get [.dhcp, .effects .dhcpEvent] process
          (expireDhcp6 answers process) := by
        intro aspect haspect
        rcases List.mem_pair.mp haspect with rfl | rfl
        · exact hexpire
        · exact heffects
      exact ⟨booked_of_agree hagree, hidle.of_agree hagree⟩
  | true =>
      rw [hover6, if_pos rfl] at hexpire
      have hafter : (expireDhcp6 answers process).runtime.leaseTime .udhcpc = 0 :=
        congrArg Dhcp.leaseTime hexpire
      exact ⟨booked_of_still heffects ⟨fun _ => hafter, fun _ => hover hover6⟩, fun _ => hafter⟩

/-! ### The blocks of the DHCPv6 half -/

/-- Behind the DHCPv4 half of the reset there is no DHCPv4 lease, and nothing is said. -/
theorem effects_resetDhcp6 (hlease : process.runtime.dhcp.leaseTime = 0) :
    ofKind .dhcp6Event (resetDhcp6 answers process).effects =
      ofKind .dhcp6Event process.effects := by
  unfold resetDhcp6
  by_cases hclient : process.runtime.dhcp6.udhcpc6Pid ≠ 0
  · rw [if_pos hclient]
    exact within_killUdhcpc6 answers process (.effects .dhcp6Event) (by decide)
  · rw [if_neg hclient, if_neg (not_not.mpr hlease)]

theorem resetSession_udhcpc6 (hidle : Idle .udhcpc6 process)
    (hlost : process.runtime.up = true ∨ process.runtime.leaseTime .udhcpc6 = 0) :
    Booked .udhcpc6 process (resetSession answers process) ∧
      Idle .udhcpc6 (resetSession answers process) := by
  cases hup : process.runtime.up with
  | true =>
      rw [resetSession_of_up answers hup]
      exact ⟨booked_of_agree (Agree.refl _ _), hidle⟩
  | false =>
      have hnone : process.runtime.leaseTime .udhcpc6 = 0 :=
        hlost.resolve_left fun htrue => Bool.false_ne_true (hup.symm.trans htrue)
      rw [resetSession_of_down answers hup]
      have hdhcp := dhcp_resetDhcp answers (forgetSession process)
      have hdhcp6 := dhcp6_resetDhcp6 answers (resetDhcp answers (forgetSession process))
      have heffects : ofKind .dhcp6Event
          (resetDhcp6 answers (resetDhcp answers (forgetSession process))).effects =
            ofKind .dhcp6Event (resetDhcp answers (forgetSession process)).effects :=
        effects_resetDhcp6 (congrArg Dhcp.leaseTime hdhcp)
      have hfirst : ofKind .dhcp6Event (resetDhcp answers (forgetSession process)).effects =
          ofKind .dhcp6Event process.effects :=
        within_resetDhcp answers (forgetSession process) (.effects .dhcp6Event) (by decide)
      have hafter : (resetDhcp6 answers
          (resetDhcp answers (forgetSession process))).runtime.leaseTime .udhcpc6 = 0 :=
        congrArg Dhcp6.leaseTime hdhcp6
      exact ⟨booked_of_still (heffects.trans hfirst) ⟨fun _ => hafter, fun _ => hnone⟩,
        idle_of_none6 hdhcp6⟩

theorem expireDhcp6_of_valid (hover : process.runtime.dhcp6.over answers = false) :
    expireDhcp6 answers process = process := by
  unfold Dhcp6.over at hover
  unfold expireDhcp6
  rw [if_neg (of_decide_eq_false hover)]

/-! ### One execution -/

/-- What the block of a timer must find, for the leases of a family to be accounted for. -/
def Accountable (answers : Answers) (client : Client) (timer : Timer) (process : Process) : Prop :=
  match client, timer with
  | .udhcpc, .expireDhcp6 =>
      process.runtime.dhcp6.over answers = true → process.runtime.leaseTime .udhcpc = 0
  | .udhcpc6, .resetSession =>
      process.runtime.up = true ∨ process.runtime.leaseTime .udhcpc6 = 0
  | .udhcpc6, .expireDhcp6 => process.runtime.dhcp6.over answers = false
  | _, _ => True

/-- **One block.** -/
theorem booked_run {timer : Timer} (hsignals : timer ≠ .handleSignals) (hidle : Idle client process)
    (haccountable : Accountable answers client timer process) :
    Booked client process (timer.run answers process) ∧ Idle client (timer.run answers process) := by
  have hother : (∀ aspect ∈ [client.aspect, .effects client.eventKind], aspect ∉ timer.footprint) →
      Booked client process (timer.run answers process) ∧
        Idle client (timer.run answers process) := by
    intro hdisjoint
    have hagree := (timer.within_run answers process).agree hdisjoint
    exact ⟨booked_of_agree hagree, hidle.of_agree hagree⟩
  cases client with
  | udhcpc =>
      cases timer with
      | resetSession => exact resetSession_udhcpc hidle
      | startDhcp => exact start_client hidle
      | pollDhcp => exact poll_client hidle
      | expireDhcp => exact expireDhcp_udhcpc hidle
      | expireDhcp6 => exact expireDhcp6_udhcpc hidle haccountable
      | handleSignals => exact absurd rfl hsignals
      | _ => exact hother (by decide)
  | udhcpc6 =>
      cases timer with
      | resetSession => exact resetSession_udhcpc6 hidle haccountable
      | startDhcp6 => exact start_client hidle
      | pollDhcp6 => exact poll_client hidle
      | expireDhcp6 =>
          have hsame : expireDhcp6 answers process = process := expireDhcp6_of_valid haccountable
          show Booked .udhcpc6 process (expireDhcp6 answers process) ∧
            Idle .udhcpc6 (expireDhcp6 answers process)
          rw [hsame]
          exact ⟨booked_of_agree (Agree.refl _ _), hidle⟩
      | handleSignals => exact absurd rfl hsignals
      | _ => exact hother (by decide)

/-- The events tell whether there is a lease, and a client runs only without one. -/
structure Books (client : Client) (past : List Effect) (process : Process) : Prop where
  announced : Announced client.leaseUp client.leaseDown
    (decide (process.runtime.leaseTime client ≠ 0)) past process
  idle : Idle client process

theorem kind_leaseUp (client : Client) :
    (Effect.event client.leaseUp).kind = client.eventKind := by
  cases client <;> rfl

theorem kind_leaseDown (client : Client) :
    (Effect.event client.leaseDown).kind = client.eventKind := by
  cases client <;> rfl

theorem Books.booked (hbooks : Books client past process) (hbooked : Booked client process other)
    (hsettings : other.runtime.settings = process.runtime.settings) (hidle : Idle client other) :
    Books client past other := by
  refine ⟨?_, hidle⟩
  have hevents := hbooks.announced
  have hsame : ∀ name, (triggerEvent name process).runtime.settings = process.runtime.settings :=
    fun name => by rw [runtime_triggerEvent]
  unfold Booked at hbooked
  by_cases hbefore : process.runtime.leaseTime client = 0 <;>
    by_cases hafter : other.runtime.leaseTime client = 0
  · rw [hbefore, hafter, announcement_still Iff.rfl, ite_self, List.append_nil] at hbooked
    rw [hbefore] at hevents
    rw [hafter]
    exact hevents.congr (kind_leaseUp client) (kind_leaseDown client) hsettings hbooked
  · rw [hbefore, announcement_up hafter,
      ← ofKind_triggerEvent _ (kind_leaseUp client) process] at hbooked
    rw [hbefore] at hevents
    rw [decide_eq_true hafter]
    exact (hevents.goUp).congr (kind_leaseUp client) (kind_leaseDown client)
      (hsettings.trans (hsame _).symm) hbooked
  · rw [hafter, announcement_down hbefore,
      ← ofKind_triggerEvent _ (kind_leaseDown client) process] at hbooked
    rw [decide_eq_true hbefore] at hevents
    rw [hafter]
    exact (hevents.goDown).congr (kind_leaseUp client) (kind_leaseDown client)
      (hsettings.trans (hsame _).symm) hbooked
  · rw [announcement_still ⟨fun hzero => absurd hzero hbefore, fun hzero => absurd hzero hafter⟩,
      ite_self, List.append_nil] at hbooked
    rw [decide_eq_true hbefore] at hevents
    rw [decide_eq_true hafter]
    exact hevents.congr (kind_leaseUp client) (kind_leaseDown client) hsettings hbooked

/-- **One block where it stands.** -/
theorem booked_after {timer : Timer} (hsignals : timer ≠ .handleSignals)
    (hidle : Idle client (Timer.before answers timer process))
    (haccountable : Accountable answers client timer (Timer.before answers timer process)) :
    Booked client (Timer.before answers timer process) (Timer.after answers timer process) ∧
      Idle client (Timer.after answers timer process) := by
  cases hexited : (Timer.before answers timer process).exited with
  | true =>
      have hsame : Timer.after answers timer process = Timer.before answers timer process :=
        leaving_of_done hexited
      rw [hsame]
      exact ⟨booked_of_agree (Agree.refl _ _), hidle⟩
  | false =>
      have hrun : Timer.after answers timer process =
          timer.run answers (Timer.before answers timer process) := leaving_of_not_done hexited
      rw [hrun]
      exact booked_run hsignals hidle haccountable

theorem settings_after (timer : Timer) (process : Process) :
    (Timer.after answers timer process).runtime.settings =
      (Timer.before answers timer process).runtime.settings := by
  cases hexited : (Timer.before answers timer process).exited with
  | true =>
      have hsame : Timer.after answers timer process = Timer.before answers timer process :=
        leaving_of_done hexited
      rw [hsame]
  | false =>
      have hrun : Timer.after answers timer process =
          timer.run answers (Timer.before answers timer process) := leaving_of_not_done hexited
      rw [hrun]
      exact timer.within_run answers _ .settings (settings_notMem timer)

theorem Books.before (hbooks : Books client past process)
    (haccountable : ∀ timer, Accountable answers client timer (Timer.before answers timer process))
    (timer : Timer) : Books client past (Timer.before answers timer process) := by
  refine reaching_invariant (Books client past) (by decide) hbooks fun other hfront hbefore => ?_
  obtain ⟨hbooked, hidle⟩ := booked_after (ne_handleSignals_of_front hfront) hbefore.idle
    (haccountable other)
  exact hbefore.booked hbooked (settings_after other process) hidle

theorem mem_announcement_down {before after : BitVec 32} :
    .event client.leaseDown ∈ announcement client before after ↔ before ≠ 0 ∧ after = 0 := by
  have hother : client.leaseDown ≠ client.leaseUp := by cases client <;> decide
  unfold announcement
  split
  · rename_i hdown
    exact ⟨fun _ => hdown, fun _ => List.mem_cons_self⟩
  · rename_i hstays
    refine ⟨fun hmem => ?_, fun hdown => absurd hdown hstays⟩
    split at hmem
    · exact absurd (Effect.event.inj (List.mem_singleton.mp hmem)) hother
    · exact absurd hmem List.not_mem_nil

def LeaseEnds (answers : Answers) (client : Client) (process : Process) : Prop :=
  ∃ timer, (Timer.before answers timer process).runtime.leaseTime client ≠ 0 ∧
    (Timer.after answers timer process).runtime.leaseTime client = 0

theorem scripted_before (timer : Timer) (process : Process) :
    (Timer.before answers timer process).runtime.scripted = process.runtime.scripted :=
  scripted_congr (Timer.agree_before answers process [.settings] timer
    (fun other _ aspect haspect => List.mem_singleton.mp haspect ▸ settings_notMem other)
    .settings (by simp))

/-- **One execution.** The end of a lease is announced where there is one. -/
theorem leaseEnds_iff (hbooks : Books client past process)
    (haccountable : ∀ timer, Accountable answers client timer (Timer.before answers timer process))
    (hscripted : process.runtime.scripted = true) (hquiet : process.effects = [])
    (hstill : (executeTimers answers process).exited = false) :
    LeaseEnds answers client process ↔
      .event client.leaseDown ∈ (executeTimers answers process).effects := by
  have hemits : ∀ timer ∈ Timer.all.takeWhile (· ≠ .handleSignals),
      ofKind client.eventKind (Timer.after answers timer process).effects =
        ofKind client.eventKind (Timer.before answers timer process).effects ++
          announcement client ((Timer.before answers timer process).runtime.leaseTime client)
            ((Timer.after answers timer process).runtime.leaseTime client) := by
    intro timer hfront
    have hbooked := (booked_after (ne_handleSignals_of_front hfront)
      (hbooks.before haccountable timer).idle (haccountable timer)).1
    unfold Booked at hbooked
    rw [scripted_before, hscripted, if_pos rfl] at hbooked
    exact hbooked
  have hcollected := collected_reaching (fun process : Process => ofKind client.eventKind process.effects)
    (fun timer => announcement client
      ((Timer.before answers timer process).runtime.leaseTime client)
      ((Timer.after answers timer process).runtime.leaseTime client))
    (by decide : Timer.all.Nodup) hemits
  have hend : Agree Aspect.get [client.aspect, .effects client.eventKind]
      (Timer.before answers .handleSignals process) (executeTimers answers process) :=
    agree_of_running answers (by cases client <;> decide) hstill
  have heffects : ofKind client.eventKind (executeTimers answers process).effects =
      (Timer.all.takeWhile (· ≠ .handleSignals)).flatMap fun timer => announcement client
        ((Timer.before answers timer process).runtime.leaseTime client)
        ((Timer.after answers timer process).runtime.leaseTime client) := by
    refine (hend (.effects client.eventKind) (by simp)).trans (hcollected.trans ?_)
    rw [hquiet]
    rfl
  have hmem : .event client.leaseDown ∈ (executeTimers answers process).effects ↔
      .event client.leaseDown ∈ ofKind client.eventKind (executeTimers answers process).effects := by
    unfold ofKind
    rw [List.mem_filter, decide_eq_true (kind_leaseDown client)]
    exact (and_iff_left rfl).symm
  rw [hmem, heffects, List.mem_flatMap]
  constructor
  · rintro ⟨timer, hbefore, hafter⟩
    by_cases hsignals : timer = .handleSignals
    · subst hsignals
      have hlease := leaseTime_of_get (hend client.aspect (by simp))
      rw [after_handleSignals, hlease] at hafter
      exact absurd hafter hbefore
    · refine ⟨timer, ?_, mem_announcement_down.mpr ⟨hbefore, hafter⟩⟩
      cases timer <;> first | exact absurd rfl hsignals | decide
  · rintro ⟨timer, -, hdown⟩
    exact ⟨timer, mem_announcement_down.mp hdown⟩

theorem ofKind_endLeases (client : Client) (process : Process) :
    ofKind client.eventKind (endLeases process).effects =
      ofKind client.eventKind (if process.runtime.leaseTime client ≠ 0 then
        triggerEvent client.leaseDown process else process).effects := by
  let ended := if process.runtime.dhcp.leaseTime ≠ 0 then triggerEvent .dhcpdownIp process
    else process
  have hruntime : ended.runtime = process.runtime := by
    unfold ended
    split
    · exact runtime_triggerEvent _ _
    · rfl
  have hfirst : Within [.effects .dhcpEvent] process ended :=
    within_if process (within_triggerEvent process (by decide))
  have hsecond : Within [.effects .dhcp6Event] ended (endLeases process) :=
    within_if ended (within_triggerEvent ended (by decide))
  cases client with
  | udhcpc => exact hsecond (.effects .dhcpEvent) (by decide)
  | udhcpc6 =>
      have hkept : ofKind .dhcp6Event ended.effects = ofKind .dhcp6Event process.effects :=
        hfirst (.effects .dhcp6Event) (by decide)
      have hends : endLeases process =
          if process.runtime.leaseTime .udhcpc6 ≠ 0 then triggerEvent .dhcpdownIp6 ended
          else ended := by
        rw [← hruntime]
        rfl
      rw [hends]
      split
      · show ofKind .dhcp6Event (triggerEvent .dhcpdownIp6 ended).effects =
          ofKind .dhcp6Event (triggerEvent .dhcpdownIp6 process).effects
        have hsaid : ∀ process : Process,
            ofKind .dhcp6Event (triggerEvent .dhcpdownIp6 process).effects =
              ofKind .dhcp6Event process.effects ++
                if process.runtime.scripted then [.event .dhcpdownIp6] else [] :=
          ofKind_triggerEvent .dhcpdownIp6 rfl
        rw [hsaid, hsaid, hruntime, hkept]
      · exact hkept

theorem Books.congr (hbooks : Books client past process)
    (hagree : Agree Aspect.get [.settings, client.aspect, .effects client.eventKind] process
      other) : Books client past other := by
  have hlease := leaseTime_of_get (hagree client.aspect (by simp))
  refine ⟨?_, hbooks.idle.of_agree fun aspect haspect =>
    hagree aspect (List.mem_cons_of_mem _ haspect)⟩
  rw [hlease]
  exact hbooks.announced.congr (kind_leaseUp client) (kind_leaseDown client)
    (hagree .settings (by simp)) (hagree (.effects client.eventKind) (by simp))

theorem Books.alternates (hbooks : Books client past process)
    (haccountable : ∀ timer,
      Accountable answers client timer (Timer.before answers timer process)) :
    Alternates (.event client.leaseUp) (.event client.leaseDown)
      (eventsOf client.leaseUp client.leaseDown
        (past ++ (executeTimers answers process).effects)) := by
  have hbefore := hbooks.before haccountable .handleSignals
  have hsignal : ∀ signal, Books client past
      { Timer.before answers .handleSignals process with runtime.signal := signal } := fun signal =>
    hbefore.congr ((within_signal _ signal).agree (by cases client <;> decide))
  cases ends_executeTimers answers process with
  | fatal _ hafter =>
      rw [hafter]
      exact hbefore.announced.alternates
  | goesOn _ signal hafter =>
      rw [hafter]
      exact (hsignal signal).announced.alternates
  | shutsDown _ signal hafter =>
      rw [hafter, shutdown_eq]
      have hkilled : Books client past (killClients answers
          { Timer.before answers .handleSignals process with runtime.signal := signal }) :=
        (hsignal signal).congr ((within_killClients answers _).agree (by cases client <;> decide))
      generalize killClients answers
        { Timer.before answers .handleSignals process with runtime.signal := signal } = killed
        at hkilled ⊢
      have hremoved := within_removeDevice answers (endLeases killed) (.effects client.eventKind)
        (by cases client <;> decide)
      have hgoodbye := within_sayGoodbye answers (removeDevice answers (endLeases killed))
        (.effects client.eventKind) (by cases client <;> decide)
      rw [eventsOf_congr (kind_leaseUp client) (kind_leaseDown client)
        ((hgoodbye.trans hremoved).trans (ofKind_endLeases client killed))]
      have hannounced := hkilled.announced
      by_cases hlease : killed.runtime.leaseTime client ≠ 0
      · rw [if_pos hlease]
        rw [decide_eq_true hlease] at hannounced
        exact hannounced.goDown.alternates
      · rw [if_neg hlease]
        exact hannounced.alternates

/-! ### Runs -/

namespace Main

variable {config : Config} {buffer : Memory} {state next : State} {input : Input}
  {output : Output} {history : History Input Output}

/-- No block mixes up the leases of the two families, as far as those of this one are concerned, and
Accepts copy nothing across the end of `runtime.haap`. -/
structure LeaseKept (client : Client) (state : State) (input : Input) : Prop where
  /-- A DHCPv6 lease expires only without a DHCPv4 lease. -/
  expiry : client = .udhcpc →
    (Timer.before input.answers .expireDhcp6
      (receive state input).process.quiet).runtime.dhcp6.over input.answers = true →
    (Timer.before input.answers .expireDhcp6
      (receive state input).process.quiet).runtime.leaseTime .udhcpc = 0
  /-- No DHCPv6 lease expires. -/
  expiry6 : client = .udhcpc6 →
    (Timer.before input.answers .expireDhcp6
      (receive state input).process.quiet).runtime.dhcp6.over input.answers = false
  /-- No DHCPv6 lease is lost with the tunnels. -/
  lost6 : client = .udhcpc6 →
    staysUp input.answers (receive state input).process.runtime = true ∨
      (receive state input).process.runtime.leaseTime .udhcpc6 = 0
  contained : ReceiveContained state input

structure LeaseTold (client : Client) (history : History Input Output) (input : Input)
    (output : Output) (next : State) : Prop where
  alternates : Alternates (.event client.leaseUp) (.event client.leaseDown)
    (eventsOf client.leaseUp client.leaseDown (effectsOf (history ++ [(input, output)])))
  ends : next.process.exited = false → next.process.runtime.scripted = true →
    (LeaseEnds input.answers client output.received.process.quiet ↔
      .event client.leaseDown ∈ output.effects)

def KnowsLeases (client : Client) (history : History Input Output) (state : State) : Prop :=
  state.process.exited = false → Books client (effectsOf history) state.process.quiet

theorem up_before_resetSession (hstep : Step state input output next) :
    (Timer.before input.answers .resetSession
      (receive state input).process.quiet).runtime.up =
        staysUp input.answers (receive state input).process.runtime := by
  obtain ⟨hlte, hdsl⟩ := established_before input.answers .resetSession (running_of_step hstep)
    (by decide)
  rw [Runtime.up, hlte, hdsl]
  rfl

theorem accountable_of_leaseKept (hguard : LeaseKept client state input)
    (hstep : Step state input output next) (timer : Timer) :
    Accountable input.answers client timer
      (Timer.before input.answers timer (receive state input).process.quiet) := by
  cases client with
  | udhcpc =>
      cases timer with
      | expireDhcp6 => exact hguard.expiry rfl
      | _ => trivial
  | udhcpc6 =>
      cases timer with
      | expireDhcp6 => exact hguard.expiry6 rfl
      | resetSession =>
          have hdhcp6 : (Timer.before input.answers .resetSession
              (receive state input).process.quiet).runtime.dhcp6 =
                (receive state input).process.runtime.dhcp6 :=
            Timer.agree_before input.answers (receive state input).process.quiet [.dhcp6]
              .resetSession (by decide) .dhcp6 (by simp)
          refine (hguard.lost6 rfl).imp (fun hup => ?_) fun hnone => ?_
          · exact (up_before_resetSession hstep).trans hup
          · exact (congrArg Dhcp6.leaseTime hdhcp6).trans hnone
      | _ => trivial

/-- A message leaves the books alone. -/
theorem books_receive (hknows : KnowsLeases client history state)
    (hcontained : ReceiveContained state input) (hstep : Step state input output next) :
    Books client (effectsOf history) (receive state input).process.quiet := by
  have hreceive : Agree Aspect.get [.settings, client.aspect] state.process
      (receive state input).process := by
    refine agree_receive hcontained fun msgtype tuntype _ htuntype => ?_
    cases client <;> rcases htuntype with rfl | rfl <;> cases msgtype <;> decide
  refine (hknows hstep.1).congr fun aspect haspect => ?_
  simp only [List.mem_cons, List.not_mem_nil, or_false] at haspect
  rcases haspect with rfl | rfl | rfl
  · exact hreceive .settings (by simp)
  · cases client with
    | udhcpc => exact hreceive .dhcp (by decide)
    | udhcpc6 => exact hreceive .dhcp6 (by decide)
  · rfl

/-- **One iteration.** -/
theorem knowsLeases_step (hknows : KnowsLeases client history state)
    (hguard : LeaseKept client state input) (hstep : Step state input output next) :
    KnowsLeases client (history ++ [(input, output)]) next := by
  intro hstill
  have hbooks := (books_receive hknows hguard.contained hstep).before
    (accountable_of_leaseKept hguard hstep) .handleSignals
  have hnext := hstill
  rw [next_of_step hstep] at hnext
  have hfinal : Books client (effectsOf history) next.process := by
    rw [next_of_step hstep]
    exact hbooks.congr (agree_of_running input.answers (by cases client <;> decide) hnext)
  have heffects : effectsOf (history ++ [(input, output)]) ++ next.process.quiet.effects =
      effectsOf history ++ next.process.effects := by
    rw [effectsOf_snoc, (output_of_step hstep).2.2, Process.quiet_effects, List.append_nil]
  refine ⟨?_, hfinal.idle⟩
  unfold Announced
  rw [heffects]
  exact hfinal.announced

/-- The books are right along every such run. -/
theorem knowsLeases_of_run
    (hrun : RunWhere Step (fun _ => LeaseKept client) (State.initial config buffer) history state) :
    KnowsLeases client history state := by
  refine hrun.invariant (KnowsLeases client) ?_ ?_
  · intro _
    have hlease : (State.initial config buffer).process.quiet.runtime.leaseTime client = 0 := by
      cases client <;> rfl
    refine ⟨?_, fun _ => hlease⟩
    unfold Announced
    rw [hlease, decide_eq_false (not_not.mpr rfl), Bool.and_false]
    exact InStep.nil
  · intro history state input output next hknows hguard hstep
    exact knowsLeases_step hknows hguard hstep

/-- **Lease events.** In every run in which no block touches the leases of the other family and no
DHCPv6 lease ends, the events of a family alternate, and the end of a lease is announced in the
iterations in which one ends. -/
theorem leaseTold_of_leaseKept
    (hrun : RunWhere Step (fun _ => LeaseKept client) (State.initial config buffer) history state)
    (hguard : LeaseKept client state input) (hstep : Step state input output next) :
    LeaseTold client history input output next := by
  have hbooks := books_receive (knowsLeases_of_run hrun) hguard.contained hstep
  have haccountable := accountable_of_leaseKept hguard hstep
  refine ⟨?_, ?_⟩
  · rw [effectsOf_snoc, (output_of_step hstep).2.2, next_of_step hstep]
    exact hbooks.alternates haccountable
  · intro hstill hscripted
    have hreceived : (receive state input).process.quiet.runtime.scripted = true := by
      rw [← hscripted, next_of_step hstep]
      exact (scripted_congr (Timer.agree_executeTimers input.answers
        (receive state input).process.quiet [.settings] (by decide) .settings (by simp))).symm
    rw [(output_of_step hstep).2.1, (output_of_step hstep).2.2]
    rw [next_of_step hstep] at hstill ⊢
    exact leaseEnds_iff hbooks haccountable hreceived rfl hstill

def Input.printing6 (input : Input) (text : String) : Input :=
  { input with answers.udhcpc6 := ⟨true, 100, 0, some 0, some (ascii text)⟩ }

/-- A lease is obtained as soon as there is a tunnel. -/
theorem obtainedLease_told :
    LeaseTold .udhcpc6 [] ((datagram (bareAccept 0x20) ⟨20, 0⟩).printing6 "lease=100")
      (outputOf scriptedStart ((datagram (bareAccept 0x20) ⟨20, 0⟩).printing6 "lease=100"))
      (iteration scriptedStart ((datagram (bareAccept 0x20) ⟨20, 0⟩).printing6 "lease=100")) := by
  refine leaseTold_of_leaseKept .nil ⟨nofun, fun _ => ?_, fun _ => Or.inr ?_, ?_⟩
    (step_outputOf rfl _)
  · decide +kernel
  · decide +kernel
  · exact bareAccept_contained _ _ _

/-- The only tunnel has been accepted, and a DHCPv6 lease obtained. -/
def leased6 : State :=
  iteration scriptedStart ((datagram (bareAccept 0x20) ⟨20, 0⟩).printing6 "lease=100")

/-- When the tunnel is torn down, the lease ends in silence. -/
theorem lostLease_silent :
    ∃ history, Run Step scriptedStart history leased6 ∧
      Step leased6 (datagram bareTeardown ⟨21, 0⟩)
        (outputOf leased6 (datagram bareTeardown ⟨21, 0⟩))
        (iteration leased6 (datagram bareTeardown ⟨21, 0⟩)) ∧
      (iteration leased6 (datagram bareTeardown ⟨21, 0⟩)).process.exited = false ∧
      (iteration leased6 (datagram bareTeardown ⟨21, 0⟩)).process.runtime.scripted = true ∧
      LeaseEnds (datagram bareTeardown ⟨21, 0⟩).answers .udhcpc6
        (receive leased6 (datagram bareTeardown ⟨21, 0⟩)).process.quiet ∧
      .event .dhcpdownIp6 ∉ (outputOf leased6 (datagram bareTeardown ⟨21, 0⟩)).effects := by
  refine ⟨_, .snoc .nil trivial (step_outputOf rfl _), step_outputOf (by decide +kernel) _,
    by decide +kernel, by decide +kernel, ⟨.resetSession, ?_, ?_⟩, by decide +kernel⟩
  · decide +kernel
  · decide +kernel

end Main

end OpenHybrid
