import OpenHybrid.Environment
import OpenHybrid.Helpers
import OpenHybrid.Proof.ConfigLines
import OpenHybrid.Proof.Emission

/-!
# The interface table

The kernel lists the addresses of all interfaces in `/proc/net/if_inet6`, one in a line. What
`get_primary_ip6` makes of such a table is the last global address it lists for the interface, and so
that is where the control messages come from.
-/

namespace OpenHybrid

open ByteMemory Frame Transition

/-! ### Conversions -/

theorem of_isXdigit {char : Byte} (hdigit : isXdigit char = true) :
    isSpace char = false ∧ char ≠ 45#8 ∧ char ≠ 43#8 := by
  have hall : ∀ char : Byte, isXdigit char = true →
      isSpace char = false ∧ char ≠ 45#8 ∧ char ≠ 43#8 := by decide
  exact hall char hdigit

/-- Digits do not begin like a mark, unless one stands right behind a single digit. -/
theorem unmarked {digits behind : List Byte} (hdigits : ∀ char ∈ digits, isXdigit char = true)
    (hne : digits ≠ []) (hbehind : ∀ char ∈ behind.head?, char ≠ 120#8 ∧ char ≠ 88#8) :
    (digits ++ behind).take 2 ∉ [ascii "0x", ascii "0X"] := by
  have hsecond : ∀ mark, mark = 120#8 ∨ mark = 88#8 →
      (digits ++ behind).take 2 ≠ [48#8, mark] := by
    intro mark hmark htake
    obtain ⟨first, rest, rfl⟩ := List.exists_cons_of_ne_nil hne
    cases rest with
    | nil =>
        cases behind with
        | nil => simp at htake
        | cons char behind =>
            have hchar : char = mark := by simp_all
            have hneither := hbehind char rfl
            rcases hmark with rfl | rfl
            · exact hneither.1 hchar
            · exact hneither.2 hchar
    | cons char rest =>
        have hchar : char = mark := by simp_all
        have hdigit := hdigits char (by simp)
        rcases hmark with rfl | rfl
        · exact absurd (hchar ▸ hdigit) (by decide)
        · exact absurd (hchar ▸ hdigit) (by decide)
  intro hmem
  rcases List.mem_cons.mp hmem with hlower | hupper
  · exact hsecond 120#8 (Or.inl rfl) hlower
  · exact hsecond 88#8 (Or.inr rfl) (List.mem_singleton.mp hupper)

theorem takeWhile_digits {digits behind : List Byte}
    (hdigits : ∀ char ∈ digits, isXdigit char = true)
    (hbehind : ∀ char ∈ behind.head?, isXdigit char = false) :
    (digits ++ behind).takeWhile isXdigit = digits := by
  rw [List.takeWhile_append_of_pos hdigits]
  cases behind with
  | nil => rw [List.takeWhile_nil, List.append_nil]
  | cons char behind =>
      rw [List.takeWhile_cons, hbehind char rfl, if_neg Bool.false_ne_true, List.append_nil]

/-- Digits are read up to what is not one, or up to the width. -/
theorem scanHex_digits {width : Option Nat} {digits rest : List Byte} (behind : List Byte)
    (hdigits : ∀ char ∈ digits, isXdigit char = true) (hne : digits ≠ [])
    (hfield : (width.map (digits ++ rest).take).getD (digits ++ rest) = digits ++ behind)
    (hbehind : ∀ char ∈ behind.head?, isXdigit char = false ∧ char ≠ 120#8 ∧ char ≠ 88#8) :
    scanHex width (digits ++ rest) =
      some (strtoul false (Numeral.value 16 xdigitValue digits), rest) := by
  obtain ⟨first, others, hfirst⟩ := List.exists_cons_of_ne_nil hne
  obtain ⟨hspace, hminus, hplus⟩ := of_isXdigit (hdigits first (hfirst ▸ List.mem_cons_self))
  have hstart : (digits ++ rest).dropWhile isSpace = digits ++ rest := by
    rw [hfirst, List.cons_append, List.dropWhile_cons, hspace]
    rfl
  have hhead : (digits ++ behind).head? = some first := by
    rw [hfirst]
    rfl
  have hmarks := unmarked hdigits hne fun char hchar => (hbehind char hchar).2
  have htake := takeWhile_digits hdigits fun char hchar => (hbehind char hchar).1
  have hlead : leadLength (digits ++ behind) = 0 := by
    simp only [leadLength, hhead, Option.some.injEq, hminus, hplus, or_self, if_false,
      List.drop_zero, hmarks]
  unfold scanHex
  simp only [hstart, hfield, hhead, hlead, Option.some.injEq, hminus, decide_false, if_false,
    List.drop_zero, htake, hne, Nat.zero_add, List.drop_left]

theorem scanHex_space (width : Option Nat) (input : List Byte) :
    scanHex width (32#8 :: input) = scanHex width input := by
  have hskip : (32#8 :: input).dropWhile isSpace = input.dropWhile isSpace := rfl
  unfold scanHex
  rw [hskip]

theorem scanHex_skip (width : Option Nat) (input : List Byte) :
    scanHex width (input.dropWhile isSpace) = scanHex width input := by
  unfold scanHex
  rw [List.dropWhile_idempotent]

theorem scanOctets_skip (count : Nat) (input : List Byte) :
    scanOctets (count + 1) (input.dropWhile isSpace) = scanOctets (count + 1) input := by
  rw [scanOctets, scanOctets, scanHex_skip]

theorem scanString_space (input : List Byte) :
    scanString (32#8 :: input) = scanString input := by
  have hskip : (32#8 :: input).dropWhile isSpace = input.dropWhile isSpace := rfl
  unfold scanString
  rw [hskip]

/-! ### Lines -/

def hex (n : Nat) : List Byte := Numeral.spell 16 hexChar 2 n

theorem hexChar_digit : ∀ digit < 16, isXdigit (hexChar digit) = true ∧
    xdigitValue (hexChar digit) = digit := by decide

theorem isXdigit_hex {n : Nat} : ∀ char ∈ hex n, isXdigit char = true := by
  intro char hmem
  obtain ⟨digit, hdigit, rfl⟩ := Numeral.mem_spell (by decide) hmem
  exact (hexChar_digit digit hdigit).1

theorem value_hex (n : Nat) : Numeral.value 16 xdigitValue (hex n) = n :=
  Numeral.value_spell (by decide) fun digit hdigit => (hexChar_digit digit hdigit).2

theorem hex_ne_nil (n : Nat) : hex n ≠ [] := Numeral.spell_ne_nil (by decide)

theorem strtoul_of_lt {n : Nat} (hn : n < 2 ^ 64) : strtoul false n = BitVec.ofNat 64 n := by
  rw [strtoul, if_neg (Nat.not_le_of_lt hn), if_neg Bool.false_ne_true]

/-- A number between spaces. -/
theorem scanHex_word {size : Nat} (word : BitVec size) (hsize : size ≤ 64) (rest : List Byte) :
    scanHex none (32#8 :: (hex word.toNat ++ 32#8 :: rest)) =
      some (word.setWidth 64, 32#8 :: rest) := by
  have hword : word.toNat < 2 ^ 64 :=
    Nat.lt_of_lt_of_le word.isLt (Nat.pow_le_pow_right (by decide) hsize)
  have hstop : ∀ char ∈ (32#8 :: rest).head?,
      isXdigit char = false ∧ char ≠ 120#8 ∧ char ≠ 88#8 := by
    intro char hchar
    obtain rfl : 32#8 = char := Option.some.inj hchar
    decide
  rw [scanHex_space, scanHex_digits (32#8 :: rest) isXdigit_hex (hex_ne_nil _) rfl hstop, value_hex,
    strtoul_of_lt hword, BitVec.ofNat_toNat]

/-- Two digits, whatever stands behind them. -/
theorem scanHex_octet (octet : Byte) (rest : List Byte) :
    scanHex (some 2) (hex octet.toNat ++ rest) = some (octet.setWidth 64, rest) := by
  have hlength : (hex octet.toNat).length = 2 := Numeral.length_spell (by decide) octet.isLt
  have hfield : ((some 2).map (hex octet.toNat ++ rest).take).getD (hex octet.toNat ++ rest) =
      hex octet.toNat ++ [] := by
    rw [List.append_nil]
    exact List.take_left' hlength
  rw [scanHex_digits [] isXdigit_hex (hex_ne_nil _) hfield (fun _ hchar => nomatch hchar), value_hex,
    strtoul_of_lt (by omega), BitVec.ofNat_toNat]

theorem scanOctets_hex (octets rest : List Byte) :
    scanOctets octets.length ((octets.flatMap fun octet => hex octet.toNat) ++ rest) =
      some (octets, rest) := by
  induction octets with
  | nil => rfl
  | cons octet octets ih =>
      rw [List.length_cons, scanOctets, List.flatMap_cons, List.append_assoc, scanHex_octet]
      simp [ih]

theorem scanString_padded {item : List Byte} (hne : item ≠ [])
    (hitem : ∀ char ∈ item, isSpace char = false) (padding : Nat) (rest : List Byte) :
    scanString (List.replicate padding 32#8 ++ (item ++ newline :: rest)) =
      some (item, newline :: rest) := by
  obtain ⟨first, others, rfl⟩ := List.exists_cons_of_ne_nil hne
  have hstart : (List.replicate padding 32#8 ++ (first :: others ++ newline :: rest)).dropWhile
      isSpace = first :: others ++ newline :: rest := by
    rw [List.dropWhile_append_of_pos fun char hmem => by rw [List.eq_of_mem_replicate hmem]; decide,
      List.cons_append, List.dropWhile_cons, hitem first List.mem_cons_self]
    rfl
  have hword : (first :: others ++ newline :: rest).takeWhile (!isSpace ·) = first :: others := by
    rw [List.takeWhile_append_of_pos fun char hmem => by rw [hitem char hmem]; rfl,
      List.takeWhile_cons, if_neg (by decide), List.append_nil]
  unfold scanString
  simp only [hstart, hword, reduceCtorEq, if_false, List.drop_left]

/-! ### Tables -/

/-- An address as the kernel lists it, with the name of a network device. -/
structure Inet6Ifaddr where
  address : In6Addr
  ifindex : BitVec 32
  addressBits : BitVec 32
  scope : BitVec 32
  flags : Byte
  name : List Byte
  name_ne : name ≠ []
  name_short : name.length < ifNamesize
  name_plain : ∀ char ∈ name, isSpace char = false ∧ char ≠ 0

namespace Inet6Ifaddr

/-- Everything in hexadecimal, and the name on the right of 8 columns. -/
def line (ifa : Inet6Ifaddr) : List Byte :=
  ((List.ofFn ifa.address).flatMap fun octet => hex octet.toNat) ++ 32#8 ::
    (hex ifa.ifindex.toNat ++ 32#8 :: (hex ifa.addressBits.toNat ++ 32#8 ::
      (hex ifa.scope.toNat ++ 32#8 :: (hex ifa.flags.toNat ++ 32#8 ::
        (List.replicate (8 - ifa.name.length) 32#8 ++ (ifa.name ++ [newline]))))))

def entry (ifa : Inet6Ifaddr) : IfInet6 := ⟨ifa.address, ifa.scope, ifa.name⟩

/-- `fscanf` reads back a line of the kernel. -/
theorem scanIfInet6_line (ifa : Inet6Ifaddr) (rest : List Byte) :
    scanIfInet6 (ifa.line ++ rest) = some (ifa.entry, newline :: rest) := by
  have hoctets := fun behind => scanOctets_hex (List.ofFn ifa.address) behind
  rw [List.length_ofFn] at hoctets
  have hstring := scanString_padded ifa.name_ne
    (fun char hmem => (ifa.name_plain char hmem).1) (8 - ifa.name.length) rest
  have haddress : (fun i : Fin 16 => (List.ofFn ifa.address).getD i 0) = ifa.address := by
    funext i
    rw [List.getD_eq_getElem _ _ (by rw [List.length_ofFn]; exact i.isLt), List.getElem_ofFn]
  have hword := fun (word : BitVec 32) => scanHex_word word (by decide)
  have hflags := scanHex_word ifa.flags (by decide)
  have hscope : (ifa.scope.setWidth 64).setWidth 32 = ifa.scope := by simp
  unfold scanIfInet6 line
  rw [scanOctets_skip]
  simp only [List.append_assoc, List.cons_append, List.nil_append, hoctets,
    Option.bind_eq_bind, Option.bind_some, hword, hflags, scanString_space, hstring, hscope,
    haddress]
  rfl

end Inet6Ifaddr

def ifInet6 (table : List Inet6Ifaddr) : List Byte := table.flatMap Inet6Ifaddr.line

def globals (table : List Inet6Ifaddr) (name : List Byte) : List In6Addr :=
  (table.filter fun ifa => ifa.name = name ∧ ifa.scope = 0).map Inet6Ifaddr.address

theorem scanIfInet6_newline (input : List Byte) :
    scanIfInet6 (newline :: input) = scanIfInet6 input := rfl

/-- Every line of the table is one call, and the last global address stays. -/
theorem returns_table {interface : List Byte} {table : List Inet6Ifaddr} {input : List Byte}
    (ip : In6Addr) (hinput : input = ifInet6 table ∨ input = newline :: ifInet6 table) :
    Loop.Returns (scanEntry interface) (ip, input)
      (some (((globals table interface).getLast?).getD ip)) := by
  induction table generalizing input ip with
  | nil => rcases hinput with rfl | rfl <;> exact Loop.returns_of_inr rfl
  | cons ifa table ih =>
      have hline : ifInet6 (ifa :: table) = ifa.line ++ ifInet6 table := List.flatMap_cons
      have hscan : scanIfInet6 input = some (ifa.entry, newline :: ifInet6 table) := by
        rcases hinput with rfl | rfl
        · rw [hline, ifa.scanIfInet6_line]
        · rw [scanIfInet6_newline, hline, ifa.scanIfInet6_line]
      have hname : cString ifa.name = ifa.name :=
        cString_of_plain fun char hmem => (ifa.name_plain char hmem).2
      have hturn : scanEntry interface (ip, input) =
          .inl (if interface = ifa.name ∧ ifa.scope = 0 then ifa.address else ip,
            newline :: ifInet6 table) := by
        unfold scanEntry
        rw [hscan]
        dsimp only [Inet6Ifaddr.entry]
        rw [if_neg (Nat.not_le_of_lt ifa.name_short), hname]
      refine Loop.Returns.of_inl hturn ?_
      by_cases hglobal : ifa.name = interface ∧ ifa.scope = 0
      · have hglobals : globals (ifa :: table) interface =
            ifa.address :: globals table interface := by
          unfold globals
          rw [List.filter_cons, if_pos (decide_eq_true hglobal), List.map_cons]
        rw [hglobals, List.getLast?_cons, if_pos ⟨hglobal.1.symm, hglobal.2⟩, Option.getD_some]
        exact ih _ (Or.inr rfl)
      · have hglobals : globals (ifa :: table) interface = globals table interface := by
          unfold globals
          rw [List.filter_cons, if_neg fun htrue => hglobal (of_decide_eq_true htrue)]
        rw [hglobals, if_neg fun hboth => hglobal ⟨hboth.1.symm, hboth.2⟩]
        exact ih _ (Or.inr rfl)

/-! ### Any input -/

/-- A number takes at least one character. -/
theorem length_of_scanHex {width : Option Nat} {input rest : List Byte} {number : BitVec 64}
    (hscan : scanHex width input = some (number, rest)) : rest.length < input.length := by
  unfold scanHex at hscan
  dsimp only at hscan
  split_ifs at hscan with hdigits
  obtain ⟨-, rfl⟩ := Prod.mk.inj (Option.some.inj hscan)
  generalize hstart : input.dropWhile isSpace = start at hdigits ⊢
  generalize hfield : (width.map start.take).getD start = field at hdigits ⊢
  have hlength : start.length ≤ input.length :=
    hstart ▸ (List.dropWhile_sublist isSpace).length_le
  have hshort : field.length ≤ start.length := by
    rw [← hfield]
    cases width with
    | none => exact Nat.le_refl _
    | some width => exact List.length_take_le' _ _
  have hpositive := List.length_pos_of_ne_nil hdigits
  have htake := (List.takeWhile_sublist isXdigit (l := field.drop (leadLength field))).length_le
  rw [List.length_drop] at htake
  rw [List.length_drop]
  omega

theorem length_of_scanOctets {count : Nat} {input rest octets : List Byte}
    (hscan : scanOctets count input = some (octets, rest)) : rest.length ≤ input.length := by
  induction count generalizing input octets with
  | zero =>
      obtain ⟨-, rfl⟩ := Prod.mk.inj (Option.some.inj hscan)
      exact Nat.le_refl _
  | succ count ih =>
      simp only [scanOctets, Option.bind_eq_bind, Option.bind_eq_some_iff, Prod.exists] at hscan
      obtain ⟨octet, middle, hoctet, others, last, hothers, hpure⟩ := hscan
      obtain ⟨-, rfl⟩ := Prod.mk.inj (Option.some.inj hpure)
      exact (ih hothers).trans (length_of_scanHex hoctet).le

theorem length_of_scanString {input item rest : List Byte}
    (hscan : scanString input = some (item, rest)) : rest.length ≤ input.length := by
  unfold scanString at hscan
  dsimp only at hscan
  split_ifs at hscan
  obtain ⟨-, rfl⟩ := Prod.mk.inj (Option.some.inj hscan)
  rw [List.length_drop]
  have hstart := (List.dropWhile_sublist isSpace (l := input)).length_le
  omega

/-- A call that assigns all items takes at least one character. -/
theorem length_of_scanIfInet6 {input rest : List Byte} {entry : IfInet6}
    (hscan : scanIfInet6 input = some (entry, rest)) : rest.length < input.length := by
  simp only [scanIfInet6, Option.bind_eq_bind, Option.bind_eq_some_iff, Prod.exists] at hscan
  obtain ⟨octets, first, hoctets, index, second, hindex, bits, third, hbits, scope, fourth, hscope,
    flags, fifth, hflags, ifname, last, hifname, hpure⟩ := hscan
  obtain ⟨-, rfl⟩ := Prod.mk.inj (Option.some.inj hpure)
  have hstart := (List.dropWhile_sublist isSpace (l := input)).length_le
  have hfirst := length_of_scanOctets hoctets
  have hsecond := length_of_scanHex hindex
  have hthird := length_of_scanHex hbits
  have hfourth := length_of_scanHex hscope
  have hfifth := length_of_scanHex hflags
  have hlast := length_of_scanString hifname
  omega

/-- **The loop ends**: every call but the last brings it closer to the end of the input. -/
theorem scan_ends (interface input : List Byte) (ip : In6Addr) :
    ∃ result, Loop.run (scanEntry interface) (input.length + 1) (ip, input) = some result := by
  have hround : ∀ scan next, True → scanEntry interface scan = .inl next →
      True ∧ next.2.length < scan.2.length := by
    intro scan next _ hturn
    unfold scanEntry at hturn
    cases hscan : scanIfInet6 scan.2 with
    | none =>
        rw [hscan] at hturn
        exact nomatch hturn
    | some scanned =>
        obtain ⟨entry, rest⟩ := scanned
        rw [hscan] at hturn
        dsimp only at hturn
        split at hturn
        · exact nomatch hturn
        · obtain rfl := Sum.inl.inj hturn
          exact ⟨trivial, length_of_scanIfInet6 hscan⟩
  exact Loop.run_of_measure (fun _ => True) (fun scan : In6Addr × List Byte => scan.2.length) hround trivial

/-- The last global address of the interface, if it has one. -/
theorem getPrimaryIp6_table (table : List Inet6Ifaddr) (interface : Bytes 16) :
    getPrimaryIp6 (some (ifInet6 table)) interface =
      some (((globals table (cString (List.ofFn interface))).getLast?).getD in6addrAny) := by
  obtain ⟨result, hrun⟩ := scan_ends (cString (List.ofFn interface)) (ifInet6 table) in6addrAny
  have hresult := Loop.Returns.unique ⟨_, hrun⟩ (returns_table in6addrAny (Or.inl rfl))
  unfold getPrimaryIp6
  dsimp only
  rw [hrun, hresult]
  rfl

namespace Main

variable {config : Config} {buffer : Memory} {state next : State} {input : Input}
  {output : Output} {history : History Input Output} {table : List Inet6Ifaddr}

def Listed (table : List Inet6Ifaddr) (answers : Answers) : Prop :=
  ∀ interface,
    getPrimaryIp6 (some (ifInet6 table)) interface = some (answers.getPrimaryIp6 interface)

def listedName (config : Config) (tuntype : Byte) : List Byte :=
  cString (List.ofFn
    (if tuntype = grecpTuntypeLte then config.lteInterfaceName else config.dslInterfaceName))

/-- Without bonding the address of the DSL interface is never asked for. -/
def Unbonded (config : Config) (runtime : Runtime) : Prop :=
  runtime.settings = config.runtime.settings ∧
    (config.bonding = false → runtime.dsl.interfaceIp = in6addrAny)

/-- The addresses stay what the first block makes them. -/
theorem interfaceIps_executeTimers (answers : Answers) {process : Process}
    (hrunning : process.exited = false) :
    (executeTimers answers process).runtime.lte.interfaceIp =
        (updateInterfaceIps answers process).runtime.lte.interfaceIp ∧
      (executeTimers answers process).runtime.dsl.interfaceIp =
        (updateInterfaceIps answers process).runtime.dsl.interfaceIp := by
  have hagree := Timer.agree_after answers process [.interfaceIps] .updateInterfaceIps (by decide)
    (by decide)
  rw [after_updateInterfaceIps answers process hrunning] at hagree
  exact Prod.mk.inj (hagree .interfaceIps (by simp))

theorem unbonded_receive (hunbonded : Unbonded config state.process.runtime)
    (hcontained : ReceiveContained state input) :
    Unbonded config (receive state input).process.runtime := by
  have hagree : Agree Aspect.get [.settings, .interfaceIps] state.process
      (receive state input).process := by
    refine agree_receive hcontained fun msgtype tuntype _ htuntype => ?_
    cases msgtype <;> rcases htuntype with rfl | rfl <;> decide
  have hips := Prod.mk.inj (hagree .interfaceIps (by simp))
  exact ⟨(hagree .settings (by simp)).trans hunbonded.1,
    fun hbonding => hips.2.trans (hunbonded.2 hbonding)⟩

theorem unbonded_updateInterfaceIps {answers : Answers} {process : Process}
    (hunbonded : Unbonded config process.runtime) :
    Unbonded config (updateInterfaceIps answers process).runtime := by
  have hsettings : (updateInterfaceIps answers process).runtime.settings =
      process.runtime.settings := within_updateInterfaceIps answers process .settings (by decide)
  refine ⟨hsettings.trans hunbonded.1, fun hbonding => ?_⟩
  have hsingle : process.runtime.bonding = false :=
    (congrArg Settings.bonding hunbonded.1).trans hbonding
  unfold updateInterfaceIps
  dsimp only
  rw [hsingle, if_neg Bool.false_ne_true]
  exact hunbonded.2 hbonding

/-- Without bonding there is no DSL address in any run. -/
theorem unbonded_of_run
    (hrun : RunWhere Step (fun _ => ReceiveContained) (State.initial config buffer) history state) :
    Unbonded config state.process.runtime := by
  refine hrun.invariant (fun _ state => Unbonded config state.process.runtime)
    ⟨rfl, fun _ => rfl⟩ ?_
  intro history state input output next hunbonded hcontained hstep
  have hreceived := unbonded_receive hunbonded hcontained
  have hupdated : Unbonded config
      (updateInterfaceIps input.answers (receive state input).process.quiet).runtime :=
    unbonded_updateInterfaceIps hreceived
  rw [next_of_step hstep]
  have hips := interfaceIps_executeTimers input.answers (running_of_step hstep)
  have hsettings : (executeTimers input.answers (receive state input).process.quiet).runtime.settings =
      (receive state input).process.quiet.runtime.settings :=
    Timer.agree_executeTimers input.answers _ [.settings] (by decide) .settings (by simp)
  exact ⟨hsettings.trans hreceived.1, fun hbonding => hips.2.trans (hupdated.2 hbonding)⟩

theorem globals_of_listed {answers : Answers} (hlisted : Listed table answers)
    {interface : Bytes 16} (haddress : answers.getPrimaryIp6 interface ≠ in6addrAny) :
    (globals table (cString (List.ofFn interface))).getLast? =
      some (answers.getPrimaryIp6 interface) := by
  have hanswer := hlisted interface
  rw [getPrimaryIp6_table] at hanswer
  have hip := Option.some.inj hanswer
  cases hlast : (globals table (cString (List.ofFn interface))).getLast? with
  | none =>
      rw [hlast] at hip
      exact absurd hip.symm haddress
  | some ip =>
      rw [hlast] at hip
      exact congrArg some hip

/-- The address an interface has at the time of the messages. -/
theorem interfaceIp_updateInterfaceIps {answers : Answers} {process : Process} {tuntype : Byte}
    (hunbonded : Unbonded config process.runtime) (hlisted : Listed table answers)
    (htuntype : IsTuntype tuntype)
    (haddress : (updateInterfaceIps answers process).runtime.interfaceIp tuntype ≠ in6addrAny) :
    (globals table (listedName config tuntype)).getLast? =
      some ((updateInterfaceIps answers process).runtime.interfaceIp tuntype) := by
  have hlteName : process.runtime.lte.interfaceName = config.lteInterfaceName :=
    congrArg Settings.lteInterfaceName hunbonded.1
  have hdslName : process.runtime.dsl.interfaceName = config.dslInterfaceName :=
    congrArg Settings.dslInterfaceName hunbonded.1
  have hbonding : process.runtime.bonding = config.bonding :=
    congrArg Settings.bonding hunbonded.1
  rcases htuntype with rfl | rfl
  · have hlte : (updateInterfaceIps answers process).runtime.interfaceIp grecpTuntypeLte =
        answers.getPrimaryIp6 config.lteInterfaceName := by
      rw [← hlteName]
      unfold updateInterfaceIps
      dsimp only
      split <;> rfl
    rw [hlte] at haddress ⊢
    exact globals_of_listed hlisted haddress
  · cases hboth : config.bonding with
    | false =>
        exact absurd ((unbonded_updateInterfaceIps hunbonded).2 hboth) haddress
    | true =>
        have hdsl : (updateInterfaceIps answers process).runtime.interfaceIp grecpTuntypeDsl =
            answers.getPrimaryIp6 config.dslInterfaceName := by
          rw [← hdslName]
          unfold updateInterfaceIps
          dsimp only
          rw [hbonding, hboth]
          rfl
        rw [hdsl] at haddress ⊢
        exact globals_of_listed hlisted haddress

/-- **Where the messages come from.** In every run, whatever tables the kernel has answered with
before: each control message comes from the last global address that the table lists for the
interface of its tunnel, none is sent if it lists none, and without bonding none goes out over DSL. -/
theorem sources_listed
    (hrun : RunWhere Step (fun _ => ReceiveContained) (State.initial config buffer) history state)
    (hcontained : ReceiveContained state input) (hstep : Step state input output next)
    (hlisted : Listed table input.answers) {msgtype : Msgtype} {tuntype : Byte} {message : Message}
    {sent : Bool} (hmem : .sendmsg msgtype tuntype message sent ∈ output.effects) :
    (globals table (listedName config tuntype)).getLast? = some message.source ∧
      (config.bonding = false → tuntype = grecpTuntypeLte) := by
  have hreceived := unbonded_receive (unbonded_of_run hrun) hcontained
  have hupdated : Unbonded config
      (updateInterfaceIps input.answers (receive state input).process.quiet).runtime :=
    unbonded_updateInterfaceIps hreceived
  have hrunning := running_of_step hstep
  have hsaid : said (executeTimers input.answers _).effects = _ := said_executeTimers _ hrunning
  rw [← next_of_step hstep, ← (output_of_step hstep).2.2] at hsaid
  have hmessage : Effect.sendmsg msgtype tuntype message sent ∈ said output.effects :=
    List.mem_filter.mpr ⟨hmem, isMessage_kind (rfl : (Effect.sendmsg msgtype tuntype message
      sent).message = some message)⟩
  rw [hsaid] at hmessage
  obtain ⟨content, hcontent, hsend⟩ := List.mem_flatMap.mp hmessage
  unfold Content.send at hsend
  split_ifs at hsend with haddress
  · cases List.mem_singleton.mp hsend
    have htuntype := isTuntype_of_announced hcontent
    refine ⟨interfaceIp_updateInterfaceIps hreceived hlisted htuntype haddress, fun hsingle => ?_⟩
    rcases htuntype with hlte | hdsl
    · exact hlte
    · have hsource : (updateInterfaceIps input.answers
          (receive state input).process.quiet).runtime.interfaceIp content.tuntype = in6addrAny := by
        rw [hdsl]
        exact hupdated.2 hsingle
      exact absurd hsource haddress
  · exact absurd hsend List.not_mem_nil

def wwan : List Byte := ascii "wwan0"

def wwanAddress (first : Byte) (scope : BitVec 32) : Inet6Ifaddr where
  address i := if i.val = 0 then first else 1
  ifindex := 12
  addressBits := 64
  scope := scope
  flags := 0x80
  name := wwan
  name_ne := by decide
  name_short := by decide
  name_plain := by decide

def wwanTable : List Inet6Ifaddr :=
  [wwanAddress 0x20 0, wwanAddress 0x2a 0, wwanAddress 0xfe 0x20]

def wwanConfig : Config := { Config.plain false with lteInterfaceName := textBytes wwan }

def answersOf (table : List Inet6Ifaddr) (answers : Answers) : Answers :=
  { answers with
    getPrimaryIp6 := fun interface =>
      (getPrimaryIp6 (some (ifInet6 table)) interface).getD in6addrAny }

theorem listed_answersOf (table : List Inet6Ifaddr) (answers : Answers) :
    Listed table (answersOf table answers) := by
  intro interface
  unfold answersOf
  dsimp only
  rw [getPrimaryIp6_table, Option.getD_some]

def wwanStart : State := State.initial wwanConfig fun _ => 0

def wwanSilence : Input :=
  { silence ⟨20, 0⟩ with answers := answersOf wwanTable (.plain ⟨20, 0⟩) }

def wwanSender : Runtime :=
  (updateInterfaceIps wwanSilence.answers (receive wwanStart wwanSilence).process.quiet).runtime

/-- The first request comes from the second global address. -/
theorem wwan_listed :
    (globals wwanTable (listedName wwanConfig grecpTuntypeLte)).getLast? =
        some ((Content.request grecpTuntypeLte).message wwanSender).source ∧
      ((Content.request grecpTuntypeLte).message wwanSender).source 0 = 0x2a := by
  have hmem : .sendmsg .request grecpTuntypeLte
      ((Content.request grecpTuntypeLte).message wwanSender) true ∈
        (outputOf wwanStart wwanSilence).effects := by
    decide +kernel
  have hcontained : ReceiveContained wwanStart wwanSilence := fun _ hhandled => nomatch hhandled
  exact ⟨(sources_listed .nil hcontained (step_outputOf rfl wwanSilence)
    (listed_answersOf wwanTable _) hmem).1, by decide +kernel⟩

end Main

end OpenHybrid
