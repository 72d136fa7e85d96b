import OpenHybrid.Proof.Events
import OpenHybrid.Proof.Shutdown

/-!
# The two DHCP clients

What the blocks about DHCP make of the state of each address family. There is one definition for
each block of the DHCPv4 half and one for its copy.
-/

namespace OpenHybrid

open ByteMemory Frame

variable (answers : Answers) {process : Process}

/-! ### Families -/

theorem leaseTime_of_get {client : Client} {other : Process}
    (hget : client.aspect.get other = client.aspect.get process) :
    other.runtime.leaseTime client = process.runtime.leaseTime client := by
  cases client with
  | udhcpc => exact congrArg Dhcp.leaseTime hget
  | udhcpc6 => exact congrArg Dhcp6.leaseTime hget

theorem clientPid_of_get {client : Client} {other : Process}
    (hget : client.aspect.get other = client.aspect.get process) :
    other.runtime.clientPid client = process.runtime.clientPid client := by
  cases client with
  | udhcpc => exact congrArg Dhcp.udhcpcPid hget
  | udhcpc6 => exact congrArg Dhcp6.udhcpc6Pid hget

/-! ### What the blocks make of the state -/

def ClientAnswers.pid (client : ClientAnswers) : Int :=
  if !client.pipe then 0 else if client.fork = -1 then 0 else client.fork

theorem startClient_fst (client : Client) (clientAnswers : ClientAnswers) (process : Process) :
    (startClient client clientAnswers process).1 = clientAnswers.pid := by
  unfold startClient ClientAnswers.pid
  split
  · rfl
  · split <;> rfl

theorem startClient_runtime (client : Client) (clientAnswers : ClientAnswers) (process : Process) :
    (startClient client clientAnswers process).2.runtime = process.runtime := by
  unfold startClient
  split
  · rfl
  · split <;> rfl

def Dhcp.none : Dhcp := ⟨0, fun _ => 0, 0, 0⟩

def Dhcp6.none : Dhcp6 := ⟨0, fun _ => 0, 0, 0, 0⟩

def Dhcp.clear (dhcp : Dhcp) : Dhcp :=
  { dhcp with ip := fun _ => 0, leaseTime := 0, leaseObtained := 0 }

def Dhcp.start (created : Bool) (client : ClientAnswers) (dhcp : Dhcp) : Dhcp :=
  if created = true ∧ dhcp.leaseTime = 0 ∧ dhcp.udhcpcPid = 0 then
    { dhcp with udhcpcPid := client.pid }
  else dhcp

def Dhcp6.start (created : Bool) (client : ClientAnswers) (dhcp6 : Dhcp6) : Dhcp6 :=
  if created = true ∧ dhcp6.leaseTime = 0 ∧ dhcp6.udhcpc6Pid = 0 then
    { dhcp6 with udhcpc6Pid := client.pid }
  else dhcp6

def Dhcp.output (dhcp : Dhcp) : Dhcp :=
  if answers.udhcpc.read = some [] then dhcp
  else
    let dhcp := (outputLines answers.udhcpc.read).foldl (udhcpcLine answers) dhcp
    if dhcp.leaseTime ≠ 0 then { dhcp with leaseObtained := (answers.uptime .udhcpcOutput).tvSec }
    else dhcp

def Dhcp6.output (dhcp6 : Dhcp6) : Dhcp6 :=
  if answers.udhcpc6.read = some [] then dhcp6
  else
    let dhcp6 := (outputLines answers.udhcpc6.read).foldl (udhcpc6Line answers) dhcp6
    if dhcp6.leaseTime ≠ 0 then
      { dhcp6 with leaseObtained := (answers.uptime .udhcpc6Output).tvSec }
    else dhcp6

def Dhcp.exits (dhcp : Dhcp) : Bool :=
  decide (dhcp.udhcpcPid ≠ 0) && wifexited answers.udhcpc.status

def Dhcp6.exits (dhcp6 : Dhcp6) : Bool :=
  decide (dhcp6.udhcpc6Pid ≠ 0) && wifexited answers.udhcpc6.status

def Dhcp.poll (dhcp : Dhcp) : Dhcp :=
  if dhcp.exits answers then ({ dhcp with udhcpcPid := 0 } : Dhcp).output answers else dhcp

def Dhcp6.poll (dhcp6 : Dhcp6) : Dhcp6 :=
  if dhcp6.exits answers then ({ dhcp6 with udhcpc6Pid := 0 } : Dhcp6).output answers else dhcp6

def Dhcp.over (dhcp : Dhcp) : Bool :=
  decide (dhcp.leaseTime ≠ 0 ∧
    dhcp.leaseObtained + dhcp.leaseTime.toNat ≤ (answers.uptime .dhcpExpiry).tvSec)

def Dhcp6.over (dhcp6 : Dhcp6) : Bool :=
  decide (dhcp6.leaseTime ≠ 0 ∧
    dhcp6.leaseObtained + dhcp6.leaseTime.toNat ≤ (answers.uptime .dhcp6Expiry).tvSec)

/-- The reset leaves neither a client nor a lease. -/
theorem dhcp_resetDhcp (process : Process) :
    (resetDhcp answers process).runtime.dhcp = Dhcp.none := by
  have hpid : ∀ dhcp : Dhcp, dhcp.udhcpcPid = 0 → dhcp.clear = Dhcp.none := by
    intro dhcp hnone
    unfold Dhcp.clear
    rw [hnone]
    rfl
  unfold resetDhcp
  dsimp only
  by_cases hclient : process.runtime.dhcp.udhcpcPid ≠ 0
  · rw [if_pos hclient]
    rfl
  · rw [if_neg hclient]
    refine hpid _ ?_
    split
    · rw [runtime_triggerEvent]
      exact not_not.mp hclient
    · exact not_not.mp hclient

theorem dhcp6_resetDhcp6 (process : Process) :
    (resetDhcp6 answers process).runtime.dhcp6 = Dhcp6.none := by
  have hpid : ∀ dhcp6 : Dhcp6, dhcp6.udhcpc6Pid = 0 →
      ({ dhcp6 with
        prefixAddress := fun _ => 0
        prefixLength := 0
        leaseTime := 0
        leaseObtained := 0 } : Dhcp6) = Dhcp6.none := by
    intro dhcp6 hnone
    rw [hnone]
    rfl
  unfold resetDhcp6
  dsimp only
  by_cases hclient : process.runtime.dhcp6.udhcpc6Pid ≠ 0
  · rw [if_pos hclient]
    rfl
  · rw [if_neg hclient]
    refine hpid _ ?_
    split
    · rw [runtime_triggerEvent]
      exact not_not.mp hclient
    · exact not_not.mp hclient

theorem dhcp_startDhcp (process : Process) :
    (startDhcp answers process).runtime.dhcp =
      process.runtime.dhcp.start process.runtime.tunnelInterfaceCreated answers.udhcpc := by
  unfold startDhcp Dhcp.start startUdhcpc
  simp only [Bool.and_eq_true, decide_eq_true_eq, and_assoc]
  split
  · dsimp only
    rw [startClient_fst, startClient_runtime]
  · rfl

theorem dhcp6_startDhcp6 (process : Process) :
    (startDhcp6 answers process).runtime.dhcp6 =
      process.runtime.dhcp6.start process.runtime.tunnelInterfaceCreated answers.udhcpc6 := by
  unfold startDhcp6 Dhcp6.start startUdhcpc6
  simp only [Bool.and_eq_true, decide_eq_true_eq, and_assoc]
  split
  · dsimp only
    rw [startClient_fst, startClient_runtime]
  · rfl

theorem dhcp_processUdhcpcOutput (process : Process) :
    (processUdhcpcOutput answers process).runtime.dhcp =
      process.runtime.dhcp.output answers := by
  unfold processUdhcpcOutput Dhcp.output
  dsimp only
  split
  · rfl
  · rw [runtime_emit]
    split
    · rw [runtime_triggerEvent]
    · rfl

theorem dhcp6_processUdhcpc6Output (process : Process) :
    (processUdhcpc6Output answers process).runtime.dhcp6 =
      process.runtime.dhcp6.output answers := by
  unfold processUdhcpc6Output Dhcp6.output
  dsimp only
  split
  · rfl
  · rw [runtime_emit]
    split
    · rw [runtime_triggerEvent]
    · rfl

theorem dhcp_pollDhcp (process : Process) :
    (pollDhcp answers process).runtime.dhcp = process.runtime.dhcp.poll answers := by
  unfold pollDhcp Dhcp.poll Dhcp.exits
  by_cases hclient : process.runtime.dhcp.udhcpcPid ≠ 0
  · rw [if_pos hclient, decide_eq_true hclient, Bool.true_and]
    dsimp only
    split
    · rw [dhcp_processUdhcpcOutput]
      rfl
    · rfl
  · rw [if_neg hclient, decide_eq_false hclient, Bool.false_and, if_neg Bool.false_ne_true]

theorem dhcp6_pollDhcp6 (process : Process) :
    (pollDhcp6 answers process).runtime.dhcp6 = process.runtime.dhcp6.poll answers := by
  unfold pollDhcp6 Dhcp6.poll Dhcp6.exits
  by_cases hclient : process.runtime.dhcp6.udhcpc6Pid ≠ 0
  · rw [if_pos hclient, decide_eq_true hclient, Bool.true_and]
    dsimp only
    split
    · rw [dhcp6_processUdhcpc6Output]
      rfl
    · rfl
  · rw [if_neg hclient, decide_eq_false hclient, Bool.false_and, if_neg Bool.false_ne_true]

theorem dhcp_expireDhcp (process : Process) :
    (expireDhcp answers process).runtime.dhcp =
      if process.runtime.dhcp.over answers then process.runtime.dhcp.clear
      else process.runtime.dhcp := by
  unfold expireDhcp Dhcp.over
  simp only [decide_eq_true_eq]
  split
  · dsimp only
    rw [runtime_triggerEvent]
    rfl
  · rfl

/-- It is the DHCPv4 lease that is cleared when the DHCPv6 lease is over. -/
theorem dhcp_expireDhcp6 (process : Process) :
    (expireDhcp6 answers process).runtime.dhcp =
      if process.runtime.dhcp6.over answers then process.runtime.dhcp.clear
      else process.runtime.dhcp := by
  unfold expireDhcp6 Dhcp6.over
  simp only [decide_eq_true_eq]
  split
  · dsimp only
    rw [runtime_triggerEvent]
    rfl
  · rfl

/-! ### Pids -/

theorem pid_udhcpcLines (lines : List (List Byte)) (dhcp : Dhcp) :
    (lines.foldl (udhcpcLine answers) dhcp).udhcpcPid = dhcp.udhcpcPid := by
  induction lines generalizing dhcp with
  | nil => rfl
  | cons line lines ih =>
      rw [List.foldl_cons, ih]
      unfold udhcpcLine
      split
      · rfl
      · split <;> rfl

theorem pid_udhcpc6Lines (lines : List (List Byte)) (dhcp6 : Dhcp6) :
    (lines.foldl (udhcpc6Line answers) dhcp6).udhcpc6Pid = dhcp6.udhcpc6Pid := by
  induction lines generalizing dhcp6 with
  | nil => rfl
  | cons line lines ih =>
      rw [List.foldl_cons, ih]
      unfold udhcpc6Line
      split
      · rfl
      · split
        · rfl
        · split <;> rfl

theorem pid_output (dhcp : Dhcp) : (dhcp.output answers).udhcpcPid = dhcp.udhcpcPid := by
  unfold Dhcp.output
  split
  · rfl
  · dsimp only
    split
    · exact pid_udhcpcLines answers _ dhcp
    · exact pid_udhcpcLines answers _ dhcp

theorem pid_output6 (dhcp6 : Dhcp6) : (dhcp6.output answers).udhcpc6Pid = dhcp6.udhcpc6Pid := by
  unfold Dhcp6.output
  split
  · rfl
  · dsimp only
    split
    · exact pid_udhcpc6Lines answers _ dhcp6
    · exact pid_udhcpc6Lines answers _ dhcp6

/-! ### Either client -/

theorem clientPid_setPid (client : Client) (pid : Int) (process : Process) :
    (process.setPid client pid).runtime.clientPid client = pid := by
  cases client <;> rfl

theorem leaseTime_setPid (client : Client) (pid : Int) (process : Process) :
    (process.setPid client pid).runtime.leaseTime client = process.runtime.leaseTime client := by
  cases client <;> rfl

theorem effects_setPid (client : Client) (pid : Int) (process : Process) :
    (process.setPid client pid).effects = process.effects := by
  cases client <;> rfl

/-- Starting and polling a client leave the other alone. -/
theorem clientPid_other {client other : Client} (hother : other ≠ client) (process : Process) :
    (client.start answers process).runtime.clientPid other = process.runtime.clientPid other ∧
      (client.poll answers process).runtime.clientPid other =
        process.runtime.clientPid other := by
  constructor
  · refine clientPid_of_get (within_start answers process client other.aspect ?_)
    cases client <;> cases other <;> first | decide | exact absurd rfl hother
  · refine clientPid_of_get (within_poll answers process client other.aspect ?_)
    cases client <;> cases other <;> first | decide | exact absurd rfl hother

theorem clientPid_processOutput (client : Client) (process : Process) :
    (client.processOutput answers process).runtime.clientPid client =
      process.runtime.clientPid client := by
  cases client with
  | udhcpc =>
      exact (congrArg Dhcp.udhcpcPid (dhcp_processUdhcpcOutput answers process)).trans
        (pid_output answers _)
  | udhcpc6 =>
      exact (congrArg Dhcp6.udhcpc6Pid (dhcp6_processUdhcpc6Output answers process)).trans
        (pid_output6 answers _)

/-- A client that has exited is no longer recorded. -/
theorem clientPid_poll (client : Client) (process : Process)
    (hclient : process.runtime.clientPid client ≠ 0) :
    (client.poll answers process).runtime.clientPid client =
      if wifexited (answers.client client).status then 0
      else process.runtime.clientPid client := by
  rw [Client.poll_eq, if_pos hclient]
  split
  · rw [clientPid_processOutput, clientPid_setPid]
  · rfl

end OpenHybrid
