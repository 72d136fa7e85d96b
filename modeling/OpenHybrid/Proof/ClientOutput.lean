import OpenHybrid.Proof.Events
import OpenHybrid.Proof.Execution
import OpenHybrid.Proof.Text

/-!
# What the DHCP clients print

The script prints its values as `key=value`, one a line, and the parser picks these lines out of
everything else the client prints: each field is a fold over the lines that begin with its key.
-/

namespace OpenHybrid

open ByteMemory

variable {answers : Answers} {process : Process} {output : List Byte}

/-! ### Output -/

/-- The output comes in one read that has room for it, and no NUL cuts it short. -/
structure Delivers (client : ClientAnswers) (output : List Byte) : Prop where
  read : client.read = some output
  length : output.length ≤ maxUdhcpcOutput - 1
  plain : ∀ char ∈ output, char ≠ 0

def linesFor (key output : List Byte) : List (List Byte) :=
  (output.splitOn newline).filter key.isPrefixOf

/-- Among other lines, the two lines of the script about an IPv4 lease. -/
structure BoundOutput (inetPton : List Byte → Option (Bytes 4)) (output : List Byte)
    (ip : Bytes 4) (lease : Nat) : Prop where
  ipLine : ∃ text, inetPton text = some ip ∧ linesFor (ascii "ip=") output = [ascii "ip=" ++ text]
  leaseLine : linesFor (ascii "lease=") output = [ascii "lease=" ++ decimal lease]
  lease_pos : 1 ≤ lease
  lease_lt : lease < 2 ^ 31

/-- Among other lines, the three lines of the script about an IPv6 prefix. -/
structure BoundOutput6 (inetPton6 : List Byte → Option In6Addr) (output : List Byte)
    (address : In6Addr) (length lease : Nat) : Prop where
  addressLine : ∃ text, inetPton6 text = some address ∧
    linesFor (ascii "prefix_address=") output = [ascii "prefix_address=" ++ text]
  lengthLine : linesFor (ascii "prefix_length=") output =
    [ascii "prefix_length=" ++ decimal length]
  leaseLine : linesFor (ascii "lease=") output = [ascii "lease=" ++ decimal lease]
  length_le : length ≤ 128
  lease_pos : 1 ≤ lease
  lease_lt : lease < 2 ^ 31

/-! ### Lines -/

theorem Delivers.lines {client : ClientAnswers} (hdelivers : Delivers client output) :
    outputLines client.read = strtok newline output := by
  have htext : cString output = output :=
    List.takeWhile_eq_self_iff.mpr fun char hmem => decide_eq_true (hdelivers.plain char hmem)
  unfold outputLines
  rw [hdelivers.read, Option.getD_some, List.take_of_length_le hdelivers.length, htext]

/-- Lines with a key are not empty. -/
theorem strtok_filter {key : List Byte} (hkey : key ≠ []) :
    (strtok newline output).filter key.isPrefixOf = linesFor key output := by
  unfold strtok linesFor
  rw [List.filter_filter]
  refine List.filter_congr fun line _ => ?_
  by_cases hline : line = []
  · obtain ⟨first, rest, rfl⟩ := List.exists_cons_of_ne_nil hkey
    rw [hline]
    rfl
  · rw [decide_eq_true hline, Bool.and_true]

/-- No line begins with two keys. -/
theorem not_isPrefixOf {first second line : List Byte} (hapart : ¬ first <+: second)
    (hback : ¬ second <+: first) (hline : second.isPrefixOf line = true) :
    first.isPrefixOf line = false := by
  refine Bool.eq_false_iff.mpr fun hfirst => ?_
  rcases List.prefix_or_prefix_of_prefix (List.isPrefixOf_iff_prefix.mp hfirst)
    (List.isPrefixOf_iff_prefix.mp hline) with hbegins | hbegins
  · exact hapart hbegins
  · exact hback hbegins

theorem keys_apart :
    (¬ ascii "ip=" <+: ascii "lease=" ∧ ¬ ascii "lease=" <+: ascii "ip=") ∧
      (¬ ascii "prefix_address=" <+: ascii "prefix_length=" ∧
        ¬ ascii "prefix_length=" <+: ascii "prefix_address=") ∧
      (¬ ascii "prefix_address=" <+: ascii "lease=" ∧
        ¬ ascii "lease=" <+: ascii "prefix_address=") ∧
      (¬ ascii "prefix_length=" <+: ascii "lease=" ∧
        ¬ ascii "lease=" <+: ascii "prefix_length=") := by
  decide

theorem keys_ne_nil : ascii "ip=" ≠ [] ∧ ascii "lease=" ≠ [] ∧ ascii "prefix_address=" ≠ [] ∧
    ascii "prefix_length=" ≠ [] := by
  decide

/-! ### Fields -/

variable (answers)

/-- Only lines that begin with a key count, and of each kind the last one that can be read. -/
theorem foldl_udhcpcLine (lines : List (List Byte)) (dhcp : Dhcp) :
    lines.foldl (udhcpcLine answers) dhcp =
      { dhcp with
        ip := (lines.filter (ascii "ip=").isPrefixOf).foldl
          (fun ip line => (answers.inetPton (line.drop 3)).getD ip) dhcp.ip
        leaseTime := (lines.filter (ascii "lease=").isPrefixOf).foldl
          (fun _ line => BitVec.ofInt 32 (atoi (line.drop 6))) dhcp.leaseTime } := by
  induction lines generalizing dhcp with
  | nil => rfl
  | cons line rest ih =>
      rw [List.foldl_cons, ih, List.filter_cons, List.filter_cons, udhcpcLine]
      cases hlease : (ascii "lease=").isPrefixOf line with
      | true =>
          rw [not_isPrefixOf keys_apart.1.1 keys_apart.1.2 hlease]
          rfl
      | false => cases (ascii "ip=").isPrefixOf line <;> rfl

theorem foldl_udhcpc6Line (lines : List (List Byte)) (dhcp6 : Dhcp6) :
    lines.foldl (udhcpc6Line answers) dhcp6 =
      { dhcp6 with
        prefixAddress := (lines.filter (ascii "prefix_address=").isPrefixOf).foldl
          (fun address line => (answers.inetPton6 (line.drop 15)).getD address)
          dhcp6.prefixAddress
        prefixLength := (lines.filter (ascii "prefix_length=").isPrefixOf).foldl
          (fun _ line => BitVec.ofInt 8 (atoi (line.drop 14))) dhcp6.prefixLength
        leaseTime := (lines.filter (ascii "lease=").isPrefixOf).foldl
          (fun _ line => BitVec.ofInt 32 (atoi (line.drop 6))) dhcp6.leaseTime } := by
  obtain ⟨-, hlength, haddress, hlease⟩ := keys_apart
  induction lines generalizing dhcp6 with
  | nil => rfl
  | cons line rest ih =>
      rw [List.foldl_cons, ih, List.filter_cons, List.filter_cons, List.filter_cons, udhcpc6Line]
      cases hline : (ascii "lease=").isPrefixOf line with
      | true =>
          rw [not_isPrefixOf haddress.1 haddress.2 hline, not_isPrefixOf hlease.1 hlease.2 hline]
          rfl
      | false =>
          cases hline : (ascii "prefix_length=").isPrefixOf line with
          | true =>
              rw [not_isPrefixOf hlength.1 hlength.2 hline]
              rfl
          | false => cases (ascii "prefix_address=").isPrefixOf line <;> rfl

variable {answers}

theorem ofInt_atoi_lease {lease : Nat} (hlt : lease < 2 ^ 31) :
    BitVec.ofInt 32 (atoi ((ascii "lease=" ++ decimal lease).drop 6)) = BitVec.ofNat 32 lease := by
  have hlength : (ascii "lease=").length = 6 := by decide
  rw [← hlength, List.drop_left, atoi_decimal hlt, BitVec.ofInt_natCast]

theorem ofNat_lease_ne_zero {lease : Nat} (hpos : 1 ≤ lease) (hlt : lease < 2 ^ 31) :
    BitVec.ofNat 32 lease ≠ 0 := by
  intro hzero
  have hnat := congrArg BitVec.toNat hzero
  rw [BitVec.toNat_ofNat, Nat.mod_eq_of_lt (by omega)] at hnat
  exact absurd hnat (Nat.pos_iff_ne_zero.mp hpos)

/-- The lines of the script come to the address and the lease. -/
theorem BoundOutput.foldl {ip : Bytes 4} {lease : Nat}
    (hbound : BoundOutput answers.inetPton output ip lease) (dhcp : Dhcp) :
    (strtok newline output).foldl (udhcpcLine answers) dhcp =
      { dhcp with ip := ip, leaseTime := BitVec.ofNat 32 lease } := by
  obtain ⟨text, htext, hip⟩ := hbound.ipLine
  have hlength : (ascii "ip=").length = 3 := by decide
  rw [foldl_udhcpcLine, strtok_filter keys_ne_nil.1, strtok_filter keys_ne_nil.2.1, hip,
    hbound.leaseLine]
  simp only [List.foldl_cons, List.foldl_nil]
  rw [ofInt_atoi_lease hbound.lease_lt, ← hlength, List.drop_left, htext]
  rfl

theorem BoundOutput6.foldl {address : In6Addr} {length lease : Nat}
    (hbound : BoundOutput6 answers.inetPton6 output address length lease) (dhcp6 : Dhcp6) :
    (strtok newline output).foldl (udhcpc6Line answers) dhcp6 =
      { dhcp6 with
        prefixAddress := address
        prefixLength := BitVec.ofNat 8 length
        leaseTime := BitVec.ofNat 32 lease } := by
  obtain ⟨text, htext, haddress⟩ := hbound.addressLine
  have haddressKey : (ascii "prefix_address=").length = 15 := by decide
  have hlengthKey : (ascii "prefix_length=").length = 14 := by decide
  have hlength := hbound.length_le
  rw [foldl_udhcpc6Line, strtok_filter keys_ne_nil.2.2.1, strtok_filter keys_ne_nil.2.2.2,
    strtok_filter keys_ne_nil.2.1, haddress, hbound.lengthLine, hbound.leaseLine]
  simp only [List.foldl_cons, List.foldl_nil]
  rw [ofInt_atoi_lease hbound.lease_lt, ← haddressKey, List.drop_left, htext, ← hlengthKey,
    List.drop_left, atoi_decimal (by omega), BitVec.ofInt_natCast]
  rfl

theorem leaseTime_foldl_udhcpcLine (hnone : linesFor (ascii "lease=") output = []) (dhcp : Dhcp) :
    ((strtok newline output).foldl (udhcpcLine answers) dhcp).leaseTime = dhcp.leaseTime := by
  rw [foldl_udhcpcLine, strtok_filter keys_ne_nil.2.1, hnone]
  rfl

theorem leaseTime_foldl_udhcpc6Line (hnone : linesFor (ascii "lease=") output = [])
    (dhcp6 : Dhcp6) :
    ((strtok newline output).foldl (udhcpc6Line answers) dhcp6).leaseTime = dhcp6.leaseTime := by
  rw [foldl_udhcpc6Line, strtok_filter keys_ne_nil.2.1, hnone]
  rfl

/-! ### The process -/

theorem ne_nil_of_linesFor {key line : List Byte} (hkey : key ≠ [])
    (hline : linesFor key output = [line]) : output ≠ [] := by
  rintro rfl
  have hempty : linesFor key [] = [] := by
    obtain ⟨first, rest, rfl⟩ := List.exists_cons_of_ne_nil hkey
    rfl
  rw [hempty] at hline
  exact nomatch hline

/-- A lease that was printed is stored and announced. -/
theorem processUdhcpcOutput_bound (hdelivers : Delivers answers.udhcpc output) {ip : Bytes 4}
    {lease : Nat} (hbound : BoundOutput answers.inetPton output ip lease) :
    processUdhcpcOutput answers process =
      triggerEvent .dhcpupIp { process.emit (.outputRead .udhcpc) with
        runtime.dhcp := { process.runtime.dhcp with
          ip := ip
          leaseTime := BitVec.ofNat 32 lease
          leaseObtained := (answers.uptime .udhcpcOutput).tvSec } } := by
  have hread : answers.udhcpc.read ≠ some [] := by
    rw [hdelivers.read]
    exact fun heq => ne_nil_of_linesFor keys_ne_nil.2.1 hbound.leaseLine (Option.some.inj heq)
  have hlease := ofNat_lease_ne_zero hbound.lease_pos hbound.lease_lt
  unfold processUdhcpcOutput
  dsimp only
  rw [if_neg hread, hdelivers.lines, hbound.foldl, if_pos hlease]
  rfl

theorem processUdhcpc6Output_bound (hdelivers : Delivers answers.udhcpc6 output)
    {address : In6Addr} {length lease : Nat}
    (hbound : BoundOutput6 answers.inetPton6 output address length lease) :
    processUdhcpc6Output answers process =
      triggerEvent .dhcpupIp6 { process.emit (.outputRead .udhcpc6) with
        runtime.dhcp6 := { process.runtime.dhcp6 with
          prefixAddress := address
          prefixLength := BitVec.ofNat 8 length
          leaseTime := BitVec.ofNat 32 lease
          leaseObtained := (answers.uptime .udhcpc6Output).tvSec } } := by
  have hread : answers.udhcpc6.read ≠ some [] := by
    rw [hdelivers.read]
    exact fun heq => ne_nil_of_linesFor keys_ne_nil.2.1 hbound.leaseLine (Option.some.inj heq)
  have hlease := ofNat_lease_ne_zero hbound.lease_pos hbound.lease_lt
  unfold processUdhcpc6Output
  dsimp only
  rw [if_neg hread, hdelivers.lines, hbound.foldl, if_pos hlease]
  rfl

/-- Output without a lease announces nothing. -/
theorem processUdhcpcOutput_unbound (hdelivers : Delivers answers.udhcpc output)
    (hnone : linesFor (ascii "lease=") output = [])
    (hstart : process.runtime.dhcp.leaseTime = 0) :
    (processUdhcpcOutput answers process).runtime.dhcp.leaseTime = 0 ∧
      (processUdhcpcOutput answers process).effects =
        process.effects ++ [.outputRead .udhcpc] := by
  have hlease : ((strtok newline output).foldl (udhcpcLine answers)
      (process.emit (.outputRead .udhcpc)).runtime.dhcp).leaseTime = 0 :=
    (leaseTime_foldl_udhcpcLine hnone _).trans hstart
  unfold processUdhcpcOutput
  dsimp only
  rw [hdelivers.lines]
  split
  · exact ⟨hstart, rfl⟩
  · rw [if_neg (not_not.mpr hlease)]
    exact ⟨hlease, rfl⟩

theorem processUdhcpc6Output_unbound (hdelivers : Delivers answers.udhcpc6 output)
    (hnone : linesFor (ascii "lease=") output = [])
    (hstart : process.runtime.dhcp6.leaseTime = 0) :
    (processUdhcpc6Output answers process).runtime.dhcp6.leaseTime = 0 ∧
      (processUdhcpc6Output answers process).effects =
        process.effects ++ [.outputRead .udhcpc6] := by
  have hlease : ((strtok newline output).foldl (udhcpc6Line answers)
      (process.emit (.outputRead .udhcpc6)).runtime.dhcp6).leaseTime = 0 :=
    (leaseTime_foldl_udhcpc6Line hnone _).trans hstart
  unfold processUdhcpc6Output
  dsimp only
  rw [hdelivers.lines]
  split
  · exact ⟨hstart, rfl⟩
  · rw [if_neg (not_not.mpr hlease)]
    exact ⟨hlease, rfl⟩

/-! ### Both families -/

/-- The parser recovers what the script printed: the address, the lease and the time, with one
event, and nothing without a lease. -/
theorem clientOutput_agrees (answers : Answers) (process : Process) :
    (process.runtime.dhcp.leaseTime = 0 → ∀ output, Delivers answers.udhcpc output →
      (∀ ip lease, BoundOutput answers.inetPton output ip lease →
        (processUdhcpcOutput answers process).runtime =
          { process.runtime with
            dhcp := { process.runtime.dhcp with
              ip := ip
              leaseTime := BitVec.ofNat 32 lease
              leaseObtained := (answers.uptime .udhcpcOutput).tvSec } } ∧
        (processUdhcpcOutput answers process).effects =
          process.effects ++ .outputRead .udhcpc ::
            if process.runtime.scripted then [.event .dhcpupIp] else []) ∧
      (linesFor (ascii "lease=") output = [] →
        (processUdhcpcOutput answers process).runtime.dhcp.leaseTime = 0 ∧
        (processUdhcpcOutput answers process).effects =
          process.effects ++ [.outputRead .udhcpc])) ∧
    (process.runtime.dhcp6.leaseTime = 0 → ∀ output, Delivers answers.udhcpc6 output →
      (∀ address length lease, BoundOutput6 answers.inetPton6 output address length lease →
        (processUdhcpc6Output answers process).runtime =
          { process.runtime with
            dhcp6 := { process.runtime.dhcp6 with
              prefixAddress := address
              prefixLength := BitVec.ofNat 8 length
              leaseTime := BitVec.ofNat 32 lease
              leaseObtained := (answers.uptime .udhcpc6Output).tvSec } } ∧
        (processUdhcpc6Output answers process).effects =
          process.effects ++ .outputRead .udhcpc6 ::
            if process.runtime.scripted then [.event .dhcpupIp6] else []) ∧
      (linesFor (ascii "lease=") output = [] →
        (processUdhcpc6Output answers process).runtime.dhcp6.leaseTime = 0 ∧
        (processUdhcpc6Output answers process).effects =
          process.effects ++ [.outputRead .udhcpc6])) := by
  constructor
  · intro hstart output hdelivers
    refine ⟨fun ip lease hbound => ?_, fun hnone =>
      processUdhcpcOutput_unbound hdelivers hnone hstart⟩
    rw [processUdhcpcOutput_bound hdelivers hbound]
    refine ⟨runtime_triggerEvent _ _, ?_⟩
    rw [effects_triggerEvent, Process.emit, List.append_assoc]
    rfl
  · intro hstart output hdelivers
    refine ⟨fun address length lease hbound => ?_, fun hnone =>
      processUdhcpc6Output_unbound hdelivers hnone hstart⟩
    rw [processUdhcpc6Output_bound hdelivers hbound]
    refine ⟨runtime_triggerEvent _ _, ?_⟩
    rw [effects_triggerEvent, Process.emit, List.append_assoc]
    rfl

def Answers.delivering (output output6 : List Byte) : Answers :=
  { Answers.plain ⟨20, 0⟩ with
    udhcpc := { ClientAnswers.plain with read := some output }
    udhcpc6 := { ClientAnswers.plain with read := some output6 }
    inetPton := fun text =>
      if text = ascii "192.0.2.1" then some fun i => [192#8, 0, 2, 1].getD i 0 else none
    inetPton6 := fun text =>
      if text = ascii "2001:db8::" then some fun i => [0x20#8, 0x01, 0x0d, 0xb8].getD i 0
      else none }

def boundOutput : List Byte :=
  ascii "udhcpc: started\nlease=3600\n\nip=192.0.2.1\nudhcpc: lease obtained\n"

def boundOutput6 : List Byte :=
  ascii "prefix_address=2001:db8::\nprefix_length=56\nlease=3600\n"

def unboundOutput : List Byte := ascii "udhcpc: started\nudhcpc: no lease, failing\n"

def Process.unleased : Process :=
  ⟨{ Runtime.zero with eventScriptPath := fun i => if i.val = 0 then 47#8 else 0 }, 0, 0, false, []⟩

theorem boundOutput_agrees :
    (processUdhcpcOutput (.delivering boundOutput boundOutput6) .unleased).runtime.dhcp =
      ⟨0, fun i => [192#8, 0, 2, 1].getD i 0, 3600, 20⟩ ∧
    (processUdhcpcOutput (.delivering boundOutput boundOutput6) .unleased).effects =
      [.outputRead .udhcpc, .event .dhcpupIp] ∧
    (processUdhcpc6Output (.delivering boundOutput boundOutput6) .unleased).runtime.dhcp6 =
      ⟨0, fun i => [0x20#8, 0x01, 0x0d, 0xb8].getD i 0, 56, 3600, 20⟩ ∧
    (processUdhcpc6Output (.delivering boundOutput boundOutput6) .unleased).effects =
      [.outputRead .udhcpc6, .event .dhcpupIp6] ∧
    (processUdhcpcOutput (.delivering unboundOutput unboundOutput) .unleased).effects =
      [.outputRead .udhcpc] ∧
    (processUdhcpc6Output (.delivering unboundOutput unboundOutput) .unleased).effects =
      [.outputRead .udhcpc6] := by
  have hchars : ([boundOutput, boundOutput6, unboundOutput].all fun output =>
      decide (output.length ≤ maxUdhcpcOutput - 1) && output.all fun char =>
        decide (char ≠ 0)) = true := by
    decide
  have hdelivers : ∀ output ∈ [boundOutput, boundOutput6, unboundOutput],
      ∀ client : ClientAnswers, client.read = some output → Delivers client output := by
    intro output hmem client hread
    have houtput := List.all_eq_true.mp hchars output hmem
    rw [Bool.and_eq_true, decide_eq_true_eq, List.all_eq_true] at houtput
    exact ⟨hread, houtput.1, fun char hchar => of_decide_eq_true (houtput.2 char hchar)⟩
  have hlines : linesFor (ascii "ip=") boundOutput = [ascii "ip=" ++ ascii "192.0.2.1"] ∧
      linesFor (ascii "lease=") boundOutput = [ascii "lease=" ++ decimal 3600] := by
    decide
  have hlines6 : linesFor (ascii "prefix_address=") boundOutput6 =
        [ascii "prefix_address=" ++ ascii "2001:db8::"] ∧
      linesFor (ascii "prefix_length=") boundOutput6 =
        [ascii "prefix_length=" ++ decimal 56] ∧
      linesFor (ascii "lease=") boundOutput6 = [ascii "lease=" ++ decimal 3600] := by
    decide
  have hnone : linesFor (ascii "lease=") unboundOutput = [] := by decide
  obtain ⟨hbound, hbound6⟩ :=
    clientOutput_agrees (.delivering boundOutput boundOutput6) .unleased
  obtain ⟨hunbound, hunbound6⟩ :=
    clientOutput_agrees (.delivering unboundOutput unboundOutput) .unleased
  obtain ⟨hruntime, heffects⟩ := (hbound rfl boundOutput (hdelivers _ (by simp) _ rfl)).1 _ 3600
    ⟨⟨_, if_pos rfl, hlines.1⟩, hlines.2, by decide, by decide⟩
  obtain ⟨hruntime6, heffects6⟩ :=
    (hbound6 rfl boundOutput6 (hdelivers _ (by simp) _ rfl)).1 _ 56 3600
      ⟨⟨_, if_pos rfl, hlines6.1⟩, hlines6.2.1, hlines6.2.2, by decide, by decide, by decide⟩
  refine ⟨congrArg Runtime.dhcp hruntime, heffects, congrArg Runtime.dhcp6 hruntime6, heffects6,
    ?_, ?_⟩
  · exact ((hunbound rfl unboundOutput (hdelivers _ (by simp) _ rfl)).2 hnone).2
  · exact ((hunbound6 rfl unboundOutput (hdelivers _ (by simp) _ rfl)).2 hnone).2

end OpenHybrid
