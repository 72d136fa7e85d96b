import OpenHybrid.Lib.Monitor
import OpenHybrid.Proof.Device
import OpenHybrid.Proof.Clients

/-!
# Who looks after the clients

A client that has been started is recorded under its pid until it exits or is killed. What has become
of its process is read off the effects.
-/

namespace OpenHybrid

open ByteMemory Frame Transition Monitor

variable {answers : Answers} {client : Client} {past : List Effect} {process other : Process}

inductive Fate where
  | absent
  | running (pid : Int)
  | exited
  | killed
  deriving DecidableEq

/-- What an effect says about it. Whenever `waitpid` reports a status, the process is gone. -/
def Fate.follow (client : Client) (fate : Fate) : Effect → Fate
  | .clientStarted started pid => if started = client then .running pid else fate
  | .clientPolled _ pid (some _) => if fate = .running pid then .exited else fate
  | .killed pid true => if fate = .running pid then .killed else fate
  | _ => fate

def followFates (fates : Client → Fate) (effect : Effect) : Client → Fate :=
  fun client => (fates client).follow client effect

/-- The output of a client is read behind its exit, and signals go to running clients. -/
def permitted (fates : Client → Fate) : Effect → Prop
  | .outputRead client => fates client = .exited
  | .killed pid _ => ∃ client, fates client = .running pid
  | _ => True

def fateOf (client : Client) (trace : List Effect) : Fate :=
  trace.foldl followFates (fun _ => .absent) client

def Orderly (trace : List Effect) : Prop := Accepts followFates permitted (fun _ => .absent) trace

def Fate.Records : Fate → Int → Prop
  | .running child, pid => pid = child ∧ pid ≠ 0
  | .exited, _ => True
  | _, pid => pid = 0

/-- Every client that is running is recorded, and all went well so far. -/
structure Owned (past : List Effect) (process : Process) : Prop where
  records : ∀ client,
    (fateOf client (past ++ process.effects)).Records (process.runtime.clientPid client)
  orderly : Orderly (past ++ process.effects)

theorem Fate.Records.running {fate : Fate} {pid : Int} (hrecords : fate.Records pid)
    (hpid : pid ≠ 0) (hexited : fate ≠ .exited) : fate = .running pid := by
  cases fate with
  | absent => exact absurd hrecords hpid
  | running child => rw [hrecords.1]
  | exited => exact absurd rfl hexited
  | killed => exact absurd hrecords hpid

theorem Fate.Records.idle {fate : Fate} (hrecords : fate.Records 0) (pid : Int) :
    fate ≠ .running pid := by
  rintro rfl
  exact hrecords.2 rfl

theorem Fate.records_zero {fate : Fate} (hidle : ∀ pid, fate ≠ .running pid) : fate.Records 0 := by
  cases fate with
  | running child => exact absurd rfl (hidle child)
  | exited => trivial
  | _ => rfl

/-! ### Traces -/

theorem follow_of_kind (fates : Client → Fate) (effect : Effect) (hkind : effect.kind ≠ .client) :
    followFates fates effect = fates := by
  funext client
  cases effect <;> first | rfl | exact absurd rfl hkind

theorem permitted_of_kind (fates : Client → Fate) (effect : Effect)
    (hkind : effect.kind ≠ .client) : permitted fates effect := by
  cases effect <;> trivial

theorem fateOf_snoc (client : Client) (trace : List Effect) (effect : Effect) :
    fateOf client (trace ++ [effect]) = (fateOf client trace).follow client effect := by
  unfold fateOf
  rw [List.foldl_append]
  rfl

theorem fateOf_congr (client : Client) {first second : List Effect}
    (heffects : ofKind .client first = ofKind .client second) :
    fateOf client (past ++ first) = fateOf client (past ++ second) := by
  unfold fateOf
  rw [List.foldl_append, List.foldl_append, ← foldl_ofKind follow_of_kind first, heffects,
    foldl_ofKind follow_of_kind]

theorem orderly_congr {first second : List Effect}
    (heffects : ofKind .client first = ofKind .client second) :
    Orderly (past ++ first) ↔ Orderly (past ++ second) := by
  have hfilter : ∀ (fates : Client → Fate) (trace : List Effect),
      Accepts followFates permitted fates (ofKind .client trace) ↔
        Accepts followFates permitted fates trace := by
    intro fates trace
    refine accepts_filter ?_ ?_
    · intro fates effect hkind
      exact follow_of_kind fates effect (of_decide_eq_false hkind)
    · intro fates effect hkind
      exact permitted_of_kind fates effect (of_decide_eq_false hkind)
  unfold Orderly
  rw [accepts_append, accepts_append, ← hfilter _ first, heffects, hfilter]

theorem Owned.congr (howned : Owned past process)
    (hpids : ∀ client, other.runtime.clientPid client = process.runtime.clientPid client)
    (heffects : ofKind .client other.effects = ofKind .client process.effects) :
    Owned past other := by
  refine ⟨fun client => ?_, (orderly_congr heffects).mpr howned.orderly⟩
  rw [hpids, fateOf_congr client heffects]
  exact howned.records client

theorem Owned.prolong (howned : Owned past process) {effect : Effect}
    (heffects : ofKind .client other.effects = ofKind .client (process.effects ++ [effect]))
    (hpermitted : permitted (fun client => fateOf client (past ++ process.effects)) effect)
    (hrecords : ∀ client, ((fateOf client (past ++ process.effects)).follow client effect).Records
      (other.runtime.clientPid client)) : Owned past other := by
  refine ⟨fun client => ?_, ?_⟩
  · rw [fateOf_congr client heffects, ← List.append_assoc, fateOf_snoc]
    exact hrecords client
  · rw [orderly_congr heffects, ← List.append_assoc]
    exact howned.orderly.snoc hpermitted

/-! ### Conditions -/

/-- `kill_udhcpc6` looks at the pid of the other client: there must be no DHCPv6 client to be killed.
A DHCPv4 client has not died on its own, and the signal reaches it. -/
@[mk_iff]
structure Killable (answers : Answers) (past : List Effect) (process : Process) : Prop where
  alone : process.runtime.dhcp6.udhcpc6Pid = 0
  alive : process.runtime.dhcp.udhcpcPid ≠ 0 →
    fateOf .udhcpc (past ++ process.effects) ≠ .exited
  reached : process.runtime.dhcp.udhcpcPid ≠ 0 →
    answers.kill process.runtime.dhcp.udhcpcPid = true

instance (answers : Answers) (past : List Effect) (process : Process) :
    Decidable (Killable answers past process) :=
  decidable_of_iff' _ (killable_iff answers past process)

/-- As long as `waitpid` has nothing to report, the status word does not read as an exit. -/
def Waited (client : Client) (answers : Answers) (past : List Effect) (process : Process) : Prop :=
  ∀ pid, fateOf client (past ++ process.effects) = .running pid →
    (answers.client client).waitpid = none →
      wifexited (answers.client client).uninitialized = false

def stopping (answers : Answers) (process : Process) : Prop :=
  answers.signal.getD process.runtime.signal = sigint ∨
    answers.signal.getD process.runtime.signal = sigterm

instance (answers : Answers) (process : Process) : Decidable (stopping answers process) :=
  inferInstanceAs (Decidable (_ ∨ _))

def Manageable (answers : Answers) (past : List Effect) : Timer → Process → Prop
  | .resetSession, process => process.runtime.up = false → Killable answers past process
  | .startDhcp, _ => answers.udhcpc.fork ≠ 0
  | .startDhcp6, _ => answers.udhcpc6.fork ≠ 0
  | .pollDhcp, process => Waited .udhcpc answers past process
  | .pollDhcp6, process => Waited .udhcpc6 answers past process
  | .handleSignals, process => stopping answers process → Killable answers past process
  | _, _ => True

/-! ### Killing -/

def killing (answers : Answers) (process : Process) : List Effect :=
  if process.runtime.dhcp.udhcpcPid ≠ 0 then
    [.killed process.runtime.dhcp.udhcpcPid (answers.kill process.runtime.dhcp.udhcpcPid)]
  else []

theorem ofKind_append (kind : Kind) (before after : List Effect) :
    ofKind kind (before ++ after) = ofKind kind before ++ ofKind kind after :=
  List.filter_append ..

theorem client_triggerEvent (name : EventName) (process : Process) :
    ofKind .client (triggerEvent name process).effects = ofKind .client process.effects := by
  have hevent : ofKind .client [.event name] = [] := by cases name <;> rfl
  rw [effects_triggerEvent, ofKind_append]
  split
  · rw [hevent, List.append_nil]
  · exact List.append_nil _

/-- A client that may be killed is killed, and then none is left. -/
theorem Owned.kill (howned : Owned past process) (hkillable : Killable answers past process)
    (heffects : ofKind .client other.effects =
      ofKind .client (process.effects ++ killing answers process)) :
    Orderly (past ++ other.effects) ∧
      ∀ client pid, fateOf client (past ++ other.effects) ≠ .running pid := by
  have hrecords := howned.records .udhcpc
  have hrecords6 := howned.records .udhcpc6
  have hidle6 : ∀ pid, fateOf .udhcpc6 (past ++ process.effects) ≠ .running pid := by
    have halone : process.runtime.clientPid .udhcpc6 = 0 := hkillable.alone
    rw [halone] at hrecords6
    exact hrecords6.idle
  by_cases hclient : process.runtime.dhcp.udhcpcPid ≠ 0
  · have hrunning : fateOf .udhcpc (past ++ process.effects) =
        .running process.runtime.dhcp.udhcpcPid :=
      hrecords.running hclient (hkillable.alive hclient)
    have hkilled : killing answers process =
        [.killed process.runtime.dhcp.udhcpcPid true] := by
      unfold killing
      rw [if_pos hclient, hkillable.reached hclient]
    rw [hkilled] at heffects
    refine ⟨?_, fun client pid => ?_⟩
    · rw [orderly_congr heffects, ← List.append_assoc]
      exact howned.orderly.snoc ⟨.udhcpc, hrunning⟩
    · rw [fateOf_congr client heffects, ← List.append_assoc, fateOf_snoc]
      cases client with
      | udhcpc =>
          rw [hrunning]
          show (if _ then _ else _) ≠ _
          rw [if_pos rfl]
          exact nofun
      | udhcpc6 =>
          show (if _ then _ else _) ≠ _
          rw [if_neg (hidle6 _)]
          exact hidle6 pid
  · have hnone : killing answers process = [] := if_neg hclient
    rw [hnone, List.append_nil] at heffects
    refine ⟨(orderly_congr heffects).mpr howned.orderly, fun client pid => ?_⟩
    rw [fateOf_congr client heffects]
    cases client with
    | udhcpc =>
        have hzero : process.runtime.clientPid .udhcpc = 0 := not_not.mp hclient
        rw [hzero] at hrecords
        exact hrecords.idle pid
    | udhcpc6 => exact hidle6 pid

theorem effects_resetDhcp (process : Process) :
    ofKind .client (resetDhcp answers process).effects =
      ofKind .client (process.effects ++ killing answers process) := by
  unfold resetDhcp killing
  by_cases hclient : process.runtime.dhcp.udhcpcPid ≠ 0
  · rw [if_pos hclient, if_pos hclient]
    unfold killUdhcpc
    rw [if_pos hclient]
    rfl
  · rw [if_neg hclient, if_neg hclient, List.append_nil]
    split
    · exact client_triggerEvent _ _
    · rfl

/-- The reset keeps account of the clients, if they may be killed. -/
theorem owned_resetSession (howned : Owned past process)
    (hkillable : process.runtime.up = false → Killable answers past process) :
    Owned past (resetSession answers process) := by
  cases hup : process.runtime.up with
  | true =>
      rw [resetSession_of_up answers hup]
      exact howned
  | false =>
      rw [resetSession_of_down answers hup]
      have hkill : Killable answers past (forgetSession process) :=
        ⟨(hkillable hup).alone, (hkillable hup).alive, (hkillable hup).reached⟩
      have hforgot : Owned past (forgetSession process) :=
        howned.congr (fun client => by cases client <;> rfl) rfl
      generalize forgetSession process = forgot at hkill hforgot ⊢
      obtain ⟨horderly, hidle⟩ := hforgot.kill hkill (effects_resetDhcp forgot)
      have hnone6 : (resetDhcp answers forgot).runtime.dhcp6.udhcpc6Pid = 0 :=
        (congrArg Dhcp6.udhcpc6Pid
          (within_resetDhcp answers forgot .dhcp6 (by decide))).trans hkill.alone
      have heffects : ofKind .client (resetDhcp6 answers (resetDhcp answers forgot)).effects =
          ofKind .client (resetDhcp answers forgot).effects := by
        unfold resetDhcp6
        rw [if_neg (not_not.mpr hnone6)]
        split
        · exact client_triggerEvent _ _
        · rfl
      refine ⟨fun client => ?_, (orderly_congr heffects).mpr horderly⟩
      rw [fateOf_congr client heffects]
      have hpid : (resetDhcp6 answers (resetDhcp answers forgot)).runtime.clientPid client = 0 := by
        cases client with
        | udhcpc =>
            exact congrArg Dhcp.udhcpcPid ((within_resetDhcp6 answers _ .dhcp (by decide)).trans
              (dhcp_resetDhcp answers forgot))
        | udhcpc6 => exact congrArg Dhcp6.udhcpc6Pid (dhcp6_resetDhcp6 answers _)
      rw [hpid]
      exact Fate.records_zero (hidle client)

/-! ### Starting and polling -/

theorem Owned.start (howned : Owned past process) (client : Client) {pid : Int} (hpid : pid ≠ 0)
    (heffects : ofKind .client other.effects =
      ofKind .client (process.effects ++ [.clientStarted client pid]))
    (hrecorded : other.runtime.clientPid client = pid)
    (hothers : ∀ other', other' ≠ client →
      other.runtime.clientPid other' = process.runtime.clientPid other') : Owned past other := by
  refine howned.prolong heffects trivial fun started => ?_
  by_cases hsame : started = client
  · subst hsame
    show (if _ then _ else _ : Fate).Records _
    rw [if_pos rfl, hrecorded]
    exact ⟨rfl, hpid⟩
  · show (if _ then _ else _ : Fate).Records _
    rw [if_neg (Ne.symm hsame), hothers started hsame]
    exact howned.records started

theorem Owned.poll (howned : Owned past process) (client : Client)
    (hclient : process.runtime.clientPid client ≠ 0)
    (hwaited : Waited client answers past process)
    (heffects : ofKind .client other.effects = ofKind .client (process.effects ++
      .clientPolled client (process.runtime.clientPid client) (answers.client client).waitpid ::
        if wifexited (answers.client client).status then [.outputRead client] else []))
    (hrecorded : other.runtime.clientPid client =
      if wifexited (answers.client client).status then 0 else process.runtime.clientPid client)
    (hothers : ∀ polled, polled ≠ client →
      other.runtime.clientPid polled = process.runtime.clientPid polled) : Owned past other := by
  let polled := process.emit
    (.clientPolled client (process.runtime.clientPid client) (answers.client client).waitpid)
  have hpolled : Owned past polled := by
    refine howned.prolong rfl trivial fun other => ?_
    show ((fateOf other (past ++ process.effects)).follow other (.clientPolled client
      (process.runtime.clientPid client) (answers.client client).waitpid)).Records
        (process.runtime.clientPid other)
    cases (answers.client client).waitpid with
    | none => exact howned.records other
    | some status =>
        show (if _ then _ else _ : Fate).Records _
        split
        · trivial
        · exact howned.records other
  cases hexited : wifexited (answers.client client).status with
  | false =>
      rw [hexited, if_neg Bool.false_ne_true] at heffects hrecorded
      refine hpolled.congr (fun other => ?_) heffects
      by_cases hsame : other = client
      · rw [hsame]
        exact hrecorded
      · exact hothers other hsame
  | true =>
      rw [hexited, if_pos rfl] at heffects hrecorded
      have hgone : fateOf client (past ++ polled.effects) = .exited := by
        show fateOf client (past ++ (process.effects ++ [_])) = _
        rw [← List.append_assoc, fateOf_snoc]
        by_cases hbefore : fateOf client (past ++ process.effects) = .exited
        · rw [hbefore]
          cases (answers.client client).waitpid <;> rfl
        · have hrunning := (howned.records client).running hclient hbefore
          unfold ClientAnswers.status at hexited
          cases hstatus : (answers.client client).waitpid with
          | none =>
              rw [hstatus, Option.getD_none, hwaited _ hrunning hstatus] at hexited
              exact absurd hexited Bool.false_ne_true
          | some status =>
              rw [hrunning]
              exact if_pos rfl
      have hread : ofKind .client other.effects =
          ofKind .client (polled.effects ++ [.outputRead client]) := by
        rw [heffects]
        show _ = ofKind .client ((process.effects ++ [_]) ++ [.outputRead client])
        rw [List.append_assoc]
        rfl
      refine hpolled.prolong hread hgone fun other => ?_
      · show (fateOf other (past ++ polled.effects)).Records _
        by_cases hsame : other = client
        · rw [hsame, hgone]
          trivial
        · rw [hothers other hsame]
          exact hpolled.records other

theorem effects_startClient (client : Client) {clientAnswers : ClientAnswers}
    (hfork : clientAnswers.fork ≠ 0) (process : Process) :
    (startClient client clientAnswers process).2.effects = process.effects ++
      if clientAnswers.pid ≠ 0 then [.clientStarted client clientAnswers.pid] else [] := by
  unfold startClient ClientAnswers.pid
  split
  · exact (List.append_nil _).symm
  · split
    · exact (List.append_nil _).symm
    · rfl

theorem Owned.startClient (howned : Owned past process) (client : Client)
    {clientAnswers : ClientAnswers} (hfork : clientAnswers.fork ≠ 0)
    (hidle : process.runtime.clientPid client = 0)
    (heffects : other.effects = (startClient client clientAnswers process).2.effects)
    (hrecorded : other.runtime.clientPid client = clientAnswers.pid)
    (hothers : ∀ other', other' ≠ client →
      other.runtime.clientPid other' = process.runtime.clientPid other') : Owned past other := by
  rw [effects_startClient client hfork] at heffects
  by_cases hpid : clientAnswers.pid ≠ 0
  · rw [if_pos hpid] at heffects
    exact howned.start client hpid (congrArg _ heffects) hrecorded hothers
  · rw [if_neg hpid, List.append_nil] at heffects
    refine howned.congr (fun other' => ?_) (congrArg _ heffects)
    by_cases hsame : other' = client
    · rw [hsame, hrecorded, hidle]
      exact not_not.mp hpid
    · exact hothers other' hsame

theorem owned_start (client : Client) (howned : Owned past process)
    (hfork : (answers.client client).fork ≠ 0) : Owned past (client.start answers process) := by
  have hothers := fun other (hother : other ≠ client) =>
    (clientPid_other answers hother process).1
  rw [Client.start_eq] at hothers ⊢
  split
  · rename_i hneeded
    rw [if_pos hneeded] at hothers
    simp only [Bool.and_eq_true, decide_eq_true_eq] at hneeded
    refine howned.startClient client hfork hneeded.2 (effects_setPid client _ _) ?_ hothers
    rw [clientPid_setPid, startClient_fst]
  · exact howned

theorem effects_processOutput (client : Client) (process : Process) :
    ofKind .client (client.processOutput answers process).effects =
      ofKind .client (process.effects ++ [.outputRead client]) := by
  obtain ⟨read, -, heffects, houtput⟩ := client.processOutput_cases answers process
  rcases houtput with ⟨hunbound, -⟩ | ⟨hbound, -⟩
  · rw [hunbound, heffects]
  · rw [hbound, client_triggerEvent, heffects]

theorem effects_poll (client : Client) (hclient : process.runtime.clientPid client ≠ 0) :
    ofKind .client (client.poll answers process).effects = ofKind .client (process.effects ++
      .clientPolled client (process.runtime.clientPid client) (answers.client client).waitpid ::
        if wifexited (answers.client client).status then [.outputRead client] else []) := by
  rw [Client.poll_eq, if_pos hclient]
  split
  · rw [effects_processOutput, effects_setPid]
    show ofKind .client ((process.effects ++ [_]) ++ [_]) = _
    rw [List.append_assoc]
    rfl
  · rfl

/-- Polling a client keeps account of it. -/
theorem owned_poll (client : Client) (howned : Owned past process)
    (hwaited : Waited client answers past process) : Owned past (client.poll answers process) := by
  by_cases hclient : process.runtime.clientPid client ≠ 0
  · exact howned.poll client hclient hwaited (effects_poll client hclient)
      (clientPid_poll answers client process hclient) fun _ hother =>
        (clientPid_other answers hother process).2
  · rw [Client.poll_eq, if_neg hclient]
    exact howned

/-! ### Leases and signals -/

/-- The end of a lease is not about a client, in either family. -/
theorem pids_expire (client : Client) (process : Process) :
    (expireDhcp answers process).runtime.clientPid client = process.runtime.clientPid client ∧
      (expireDhcp6 answers process).runtime.clientPid client =
        process.runtime.clientPid client := by
  cases client with
  | udhcpc =>
      constructor
      · refine (congrArg Dhcp.udhcpcPid (dhcp_expireDhcp answers process)).trans ?_
        split <;> rfl
      · refine (congrArg Dhcp.udhcpcPid (dhcp_expireDhcp6 answers process)).trans ?_
        split <;> rfl
  | udhcpc6 =>
      exact ⟨congrArg Dhcp6.udhcpc6Pid (within_expireDhcp answers process .dhcp6 (by decide)),
        congrArg Dhcp6.udhcpc6Pid (within_expireDhcp6 answers process .dhcp6 (by decide))⟩

/-- **One block.** -/
theorem owned_run {timer : Timer} (hsignals : timer ≠ .handleSignals) (howned : Owned past process)
    (hmanageable : Manageable answers past timer process) :
    Owned past (timer.run answers process) := by
  have hother : (∀ aspect ∈ [.dhcp, .dhcp6, .effects .client], aspect ∉ timer.footprint) →
      Owned past (timer.run answers process) := by
    intro hdisjoint
    have hagree := (timer.within_run answers process).agree hdisjoint
    refine howned.congr (fun client => ?_) (hagree (.effects .client) (by simp))
    cases client with
    | udhcpc => exact congrArg Dhcp.udhcpcPid (hagree .dhcp (by simp))
    | udhcpc6 => exact congrArg Dhcp6.udhcpc6Pid (hagree .dhcp6 (by simp))
  cases timer with
  | resetSession => exact owned_resetSession howned hmanageable
  | startDhcp => exact owned_start .udhcpc howned hmanageable
  | pollDhcp => exact owned_poll .udhcpc howned hmanageable
  | startDhcp6 => exact owned_start .udhcpc6 howned hmanageable
  | pollDhcp6 => exact owned_poll .udhcpc6 howned hmanageable
  | expireDhcp =>
      exact howned.congr (fun client => (pids_expire client process).1)
        (within_expireDhcp answers process (.effects .client) (by decide))
  | expireDhcp6 =>
      exact howned.congr (fun client => (pids_expire client process).2)
        (within_expireDhcp6 answers process (.effects .client) (by decide))
  | handleSignals => exact absurd rfl hsignals
  | _ => exact hother (by decide)

/-- In front of a timer, if all those before it found what they must. -/
theorem Owned.before (howned : Owned past process)
    (hmanageable : ∀ timer, (Timer.before answers timer process).exited = false →
      Manageable answers past timer (Timer.before answers timer process)) (timer : Timer) :
    Owned past (Timer.before answers timer process) := by
  refine reaching_invariant (Owned past) (by decide) howned fun other hfront hbefore => ?_
  refine leaving_invariant (Owned past) hbefore fun hrunning => ?_
  exact owned_run (ne_handleSignals_of_front hfront) hbefore (hmanageable other hrunning)

theorem handleSignals_of_stopping (hstopping : stopping answers process) :
    handleSignals answers process = shutdown answers
      { process with runtime.signal := answers.signal.getD process.runtime.signal } := by
  have hsignal : answers.signal.getD process.runtime.signal ≠ 0 := by
    rcases hstopping with hsigint | hsigterm
    · rw [hsigint]
      decide
    · rw [hsigterm]
      decide
  unfold handleSignals
  dsimp only
  rw [if_pos hsignal]
  exact if_pos hstopping

theorem handleSignals_of_not_stopping (hstopping : ¬stopping answers process) :
    ∃ signal, handleSignals answers process = { process with runtime.signal := signal } := by
  unfold handleSignals
  dsimp only
  split_ifs with hsignal hstops
  · exact absurd hstops hstopping
  · exact ⟨0, rfl⟩
  · exact ⟨_, rfl⟩

/-- A shutdown kills the clients and does nothing else to them. -/
theorem effects_shutdown (hnone6 : process.runtime.dhcp6.udhcpc6Pid = 0) :
    ofKind .client (shutdown answers process).effects =
      ofKind .client (process.effects ++ killing answers process) := by
  have hkill : (killClients answers process).effects =
      process.effects ++ killing answers process := by
    unfold killClients killing
    by_cases hclient : process.runtime.dhcp.udhcpcPid ≠ 0
    · rw [if_pos hclient, if_pos hclient]
      unfold killUdhcpc
      rw [if_pos hclient]
      show (if process.runtime.dhcp6.udhcpc6Pid ≠ 0 then _ else _ : Process).effects = _
      rw [if_neg (not_not.mpr hnone6)]
      rfl
    · rw [if_neg hclient, if_neg hclient, if_neg (not_not.mpr hnone6), List.append_nil]
  rw [shutdown_eq]
  calc
    ofKind .client (sayGoodbye answers (removeDevice answers
        (endLeases (killClients answers process)))).effects =
        ofKind .client (removeDevice answers (endLeases (killClients answers process))).effects :=
      within_sayGoodbye answers _ (.effects .client) (by decide)
    _ = ofKind .client (endLeases (killClients answers process)).effects :=
      within_removeDevice answers _ (.effects .client) (by decide)
    _ = ofKind .client (killClients answers process).effects :=
      within_endLeases _ (.effects .client) (by decide)
    _ = _ := by rw [hkill]

/-! ### Exits -/

theorem mem_ofKind {effect : Effect} {effects : List Effect} :
    effect ∈ ofKind effect.kind effects ↔ effect ∈ effects := by
  unfold ofKind
  rw [List.mem_filter, decide_eq_true rfl]
  exact and_iff_left rfl

theorem exit_startThreads (hquiet : .exit true ∉ process.effects) :
    .exit true ∉ (startThreads answers process).effects := by
  have hopen : .exit true ∉ (openGreSocket answers process).effects := by
    unfold openGreSocket Process.exit Process.emit
    dsimp only
    split_ifs <;> simpa using hquiet
  have hstart : ∀ process : Process, .exit true ∉ process.effects →
      .exit true ∉ (startTun2gre answers (startGre2tun answers process)).effects := by
    intro process hquiet
    have hlifecycle : ofKind .lifecycle (startTun2gre answers (startGre2tun answers process)).effects =
        ofKind .lifecycle process.effects :=
      within_startBoth answers process (.effects .lifecycle) (by decide)
    intro hexit
    refine hquiet ?_
    rw [← mem_ofKind] at hexit ⊢
    exact hlifecycle ▸ hexit
  unfold startThreads
  dsimp only
  split
  · by_cases hclosed : process.sockfdGre = 0
    · rw [if_pos hclosed]
      split
      · exact hopen
      · exact hstart _ hopen
    · rw [if_neg hclosed]
      split
      · exact hquiet
      · exact hstart _ hquiet
  · exact hquiet

theorem exit_before_signals (hquiet : .exit true ∉ process.effects) :
    .exit true ∉ (Timer.before answers .handleSignals process).effects := by
  let inv (process : Process) : Prop := .exit true ∉ process.effects
  refine reaching_invariant inv (by decide) hquiet fun timer hfront hbefore => ?_
  refine leaving_invariant inv hbefore fun _ => ?_
  by_cases hthreads : timer = .startThreads
  · subst hthreads
    exact exit_startThreads hbefore
  · intro hexit
    have hsignals := ne_handleSignals_of_front hfront
    have hlifecycle : ofKind (Effect.exit true).kind
        (timer.run answers (Timer.before answers timer process)).effects =
          ofKind (Effect.exit true).kind (Timer.before answers timer process).effects := by
      refine timer.within_run answers _ (.effects .lifecycle) ?_
      cases timer <;> first | decide | exact absurd rfl hthreads | exact absurd rfl hsignals
    exact hbefore (mem_ofKind.mp (hlifecycle ▸ mem_ofKind.mpr hexit))

/-! ### One execution -/

structure CaredFor (past : List Effect) (process : Process) : Prop where
  /-- A client that is running is recorded. -/
  recorded : ∀ client pid, fateOf client (past ++ process.effects) = .running pid →
    process.runtime.clientPid client = pid
  orderly : Orderly (past ++ process.effects)
  /-- A shutdown leaves no client behind. -/
  stopped : .exit true ∈ process.effects →
    ∀ client pid, fateOf client (past ++ process.effects) ≠ .running pid

theorem Owned.caredFor (howned : Owned past process) (hquiet : .exit true ∉ process.effects) :
    CaredFor past process := by
  refine ⟨fun client pid hrunning => ?_, howned.orderly, fun hexit => absurd hexit hquiet⟩
  have hrecords := howned.records client
  rw [hrunning] at hrecords
  exact hrecords.1

/-- **One execution.** -/
theorem caredFor_executeTimers (howned : Owned past process)
    (hquiet : .exit true ∉ process.effects)
    (hmanageable : ∀ timer, (Timer.before answers timer process).exited = false →
      Manageable answers past timer (Timer.before answers timer process)) :
    CaredFor past (executeTimers answers process) := by
  have hbefore := howned.before hmanageable .handleSignals
  have hexit : .exit true ∉ (Timer.before answers .handleSignals process).effects :=
    exit_before_signals hquiet
  rw [← after_handleSignals]
  refine leaving_invariant (CaredFor past) (hbefore.caredFor hexit) fun hrunning => ?_
  have hkillable := hmanageable .handleSignals hrunning
  show CaredFor past (handleSignals answers (Timer.before answers .handleSignals process))
  generalize Timer.before answers .handleSignals process = last at hbefore hexit hkillable ⊢
  by_cases hstopping : stopping answers last
  · have hkill := hkillable hstopping
    rw [handleSignals_of_stopping hstopping]
    have hasked : Owned past
        { last with runtime.signal := answers.signal.getD last.runtime.signal } :=
      hbefore.congr (fun client => by cases client <;> rfl) rfl
    obtain ⟨horderly, hidle⟩ := hasked.kill ⟨hkill.alone, hkill.alive, hkill.reached⟩
      (effects_shutdown hkill.alone)
    exact ⟨fun client pid hclient => absurd hclient (hidle client pid), horderly, fun _ => hidle⟩
  · obtain ⟨signal, hsignal⟩ := handleSignals_of_not_stopping hstopping
    have hforgotten : Owned past { last with runtime.signal := signal } :=
      hbefore.congr (fun client => by cases client <;> rfl) rfl
    rw [hsignal]
    exact hforgotten.caredFor hexit

/-- The books are right as long as the loop goes on. -/
theorem owned_executeTimers (howned : Owned past process)
    (hmanageable : ∀ timer, (Timer.before answers timer process).exited = false →
      Manageable answers past timer (Timer.before answers timer process))
    (hstill : (executeTimers answers process).exited = false) :
    Owned past (executeTimers answers process) := by
  have hagree : Agree Aspect.get [.dhcp, .dhcp6, .effects .client]
      (Timer.before answers .handleSignals process) (executeTimers answers process) :=
    agree_of_running answers (by decide) hstill
  refine (howned.before hmanageable .handleSignals).congr (fun client => ?_)
    (hagree (.effects .client) (by simp))
  cases client with
  | udhcpc => exact congrArg Dhcp.udhcpcPid (hagree .dhcp (by simp))
  | udhcpc6 => exact congrArg Dhcp6.udhcpc6Pid (hagree .dhcp6 (by simp))

/-! ### Runs -/

namespace Main

variable {config : Config} {buffer : Memory} {state next : State} {input : Input}
  {output : Output} {history : History Input Output}

/-- All timers find what they must, and Accepts copy nothing across the end of `runtime.haap`. -/
structure Manages (history : History Input Output) (state : State) (input : Input) : Prop where
  manageable : ∀ timer,
    (Timer.before input.answers timer (receive state input).process.quiet).exited = false →
      Manageable input.answers (effectsOf history) timer
        (Timer.before input.answers timer (receive state input).process.quiet)
  contained : ReceiveContained state input

theorem owned_receive (howned : Owned (effectsOf history) state.process.quiet)
    (hcontained : ReceiveContained state input) :
    Owned (effectsOf history) (receive state input).process.quiet := by
  have hreceive : Agree Aspect.get [.dhcp, .dhcp6] state.process
      (receive state input).process := by
    refine agree_receive hcontained fun msgtype tuntype _ htuntype => ?_
    rcases htuntype with rfl | rfl <;> cases msgtype <;> decide
  refine howned.congr (fun client => ?_) rfl
  cases client with
  | udhcpc => exact congrArg Dhcp.udhcpcPid (hreceive .dhcp (by simp))
  | udhcpc6 => exact congrArg Dhcp6.udhcpc6Pid (hreceive .dhcp6 (by simp))

/-- Every running client is recorded, along every such run. -/
theorem owned_of_run
    (hrun : RunWhere Step Manages (State.initial config buffer) history state)
    (hrunning : state.process.exited = false) :
    Owned (effectsOf history) state.process.quiet := by
  refine hrun.invariant (fun history state => state.process.exited = false →
    Owned (effectsOf history) state.process.quiet) ?_ ?_ hrunning
  · intro _
    refine ⟨fun client => ?_, trivial⟩
    cases client <;> rfl
  · intro history state input output next howned hguard hstep hstill
    have hreceived := owned_receive (howned hstep.1) hguard.contained
    have hstill' := hstill
    rw [next_of_step hstep] at hstill'
    have hnext := owned_executeTimers hreceived hguard.manageable hstill'
    rw [← next_of_step hstep] at hnext
    have heffects : effectsOf (history ++ [(input, output)]) ++ next.process.quiet.effects =
        effectsOf history ++ next.process.effects := by
      rw [effectsOf_snoc, (output_of_step hstep).2.2, Process.quiet_effects, List.append_nil]
    refine ⟨fun client => ?_, ?_⟩
    · rw [heffects]
      exact hnext.records client
    · rw [heffects]
      exact hnext.orderly

/-- **No orphans.** In every run in which all timers find what they must, a client that is running is
recorded, its output is read behind its exit, signals go to running clients and a shutdown leaves
none of them behind. -/
theorem caredFor_of_manages
    (hrun : RunWhere Step Manages (State.initial config buffer) history state)
    (hguard : Manages history state input) (hstep : Step state input output next) :
    CaredFor (effectsOf history) next.process := by
  have hreceived := owned_receive (owned_of_run hrun hstep.1) hguard.contained
  rw [next_of_step hstep]
  exact caredFor_executeTimers hreceived List.not_mem_nil hguard.manageable

def ClientAnswers.busy (pid : Int) (uninitialized : BitVec 32) : ClientAnswers :=
  ⟨true, pid, uninitialized, none, none⟩

/-- The tunnel is accepted, and both clients are started. -/
def starting (uninitialized : BitVec 32) : Input :=
  { datagram (bareAccept 0x20) ⟨20, 0⟩ with
    answers.udhcpc := ClientAnswers.busy 99 uninitialized
    answers.udhcpc6 := ClientAnswers.busy 100 1 }

/-- Where no process is asked to stop and no status word reads as an exit by itself, only a reset can
go wrong. -/
theorem manages_of_killable
    (hforks : input.answers.udhcpc.fork ≠ 0 ∧ input.answers.udhcpc6.fork ≠ 0)
    (hwords : wifexited input.answers.udhcpc.uninitialized = false ∧
      wifexited input.answers.udhcpc6.uninitialized = false)
    (hreset : (Timer.before input.answers .resetSession
        (receive state input).process.quiet).runtime.up = false →
      Killable input.answers (effectsOf history) (Timer.before input.answers .resetSession
        (receive state input).process.quiet))
    (hsignal : ¬ stopping input.answers (Timer.before input.answers .handleSignals
      (receive state input).process.quiet))
    (hcontained : ReceiveContained state input) : Manages history state input := by
  refine ⟨fun timer _ => ?_, hcontained⟩
  cases timer with
  | resetSession => exact hreset
  | startDhcp => exact hforks.1
  | startDhcp6 => exact hforks.2
  | pollDhcp => exact fun _ _ _ => hwords.1
  | pollDhcp6 => exact fun _ _ _ => hwords.2
  | handleSignals => exact fun hstopping => absurd hstopping hsignal
  | _ => trivial

def exiting6 : Input :=
  { silence ⟨21, 0⟩ with
    answers.udhcpc := ClientAnswers.busy 99 1
    answers.udhcpc6 := ⟨true, 100, 1, some 0, some []⟩ }

def tearing : Input :=
  { datagram bareTeardown ⟨22, 0⟩ with
    answers.udhcpc := ClientAnswers.busy 99 1
    answers.udhcpc6 := ClientAnswers.busy 100 1 }

/-- One client has been seen to exit, and the other is killed when the tunnel is torn down. -/
theorem tearing_caredFor :
    let history := recorded (plainStart false) [starting 1, exiting6]
    let state := played (plainStart false) [starting 1, exiting6]
    fateOf .udhcpc (effectsOf history) = .running 99 ∧
      fateOf .udhcpc6 (effectsOf history) = .exited ∧
      CaredFor (effectsOf history) (iteration state tearing).process := by
  have hrun : RunWhere Step Manages (plainStart false)
      (recorded (plainStart false) [starting 1, exiting6])
      (played (plainStart false) [starting 1, exiting6]) := by
    refine run_played (by decide +kernel) ⟨manages_of_killable ?_ ?_ ?_ ?_ ?_,
      manages_of_killable ?_ ?_ ?_ ?_ ?_, trivial⟩ <;> decide +kernel
  have hguard : Manages (recorded (plainStart false) [starting 1, exiting6])
      (played (plainStart false) [starting 1, exiting6]) tearing := by
    refine manages_of_killable ?_ ?_ ?_ ?_ ?_ <;> decide +kernel
  exact ⟨by decide +kernel, by decide +kernel,
    caredFor_of_manages hrun hguard (step_outputOf (by decide +kernel) _)⟩

/-- Both clients are started, one behind a status word that reads as an exit, and the tunnel is torn
down. -/
def orphaning : State :=
  iteration (iteration (plainStart false) (starting 0)) (datagram bareTeardown ⟨21, 0⟩)

/-- Both clients are running, neither is recorded, and the output of one has been read. -/
theorem orphaning_forgets :
    ∃ history, Run Step (plainStart false) history orphaning ∧
      orphaning.process.exited = false ∧
      fateOf .udhcpc (effectsOf history) = .running 99 ∧
      orphaning.process.runtime.clientPid .udhcpc = 0 ∧
      .outputRead .udhcpc ∈ effectsOf history ∧
      fateOf .udhcpc6 (effectsOf history) = .running 100 ∧
      orphaning.process.runtime.clientPid .udhcpc6 = 0 := by
  refine ⟨_, .snoc (.snoc .nil trivial (step_outputOf rfl (starting 0))) trivial
    (step_outputOf (by decide +kernel) (datagram bareTeardown ⟨21, 0⟩)), ?_⟩
  decide +kernel

end Main

end OpenHybrid
