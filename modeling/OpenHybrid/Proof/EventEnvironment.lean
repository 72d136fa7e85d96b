import OpenHybrid.Environment
import OpenHybrid.Lib.Environ
import OpenHybrid.Proof.Footprint
import OpenHybrid.Proof.Text
import OpenHybrid.ReadConfig

/-!
# What the event script reads

As long as the names of the interfaces end inside their arrays, nothing that `trigger_event` prints
overruns what it set aside, and the script reads back every variable as it was printed.
-/

namespace OpenHybrid

open ByteMemory

/-! ### Conversions -/

theorem hexChar_ne_zero : ∀ digit < 16, hexChar digit ≠ 0 := by decide

theorem mem_printUnsigned {n : Nat} {char : Byte} (hmem : char ∈ printUnsigned n) : char ≠ 0 := by
  obtain ⟨digit, hdigit, rfl⟩ := Numeral.mem_spell (by decide) hmem
  exact hexChar_ne_zero digit (by omega)

theorem mem_printHex {n : Nat} {char : Byte} (hmem : char ∈ printHex n) : char ≠ 0 := by
  obtain ⟨digit, hdigit, rfl⟩ := Numeral.mem_spell (by decide) hmem
  exact hexChar_ne_zero digit hdigit

theorem length_printUnsigned_le {n room : Nat} (hroom : 1 ≤ room) (hn : n < 10 ^ room) :
    (printUnsigned n).length ≤ room := Numeral.length_spell_le (by decide) hroom hn

theorem length_printHex_le {n room : Nat} (hroom : 1 ≤ room) (hn : n < 16 ^ room) :
    (printHex n).length ≤ room := Numeral.length_spell_le (by decide) hroom hn

/-- `%u` prints in decimal. -/
theorem printUnsigned_eq (n : Nat) : printUnsigned n = decimal n := by
  have hdigits : ∀ digit < 10, hexChar digit = digitChar digit := by decide
  unfold printUnsigned Numeral.spell decimal Nat.digitsAppend
  split
  · rename_i hzero
    rw [hzero]
    rfl
  · rename_i hne
    have hlength : 1 ≤ (Nat.digits 10 n).length :=
      List.length_pos_iff.mpr (Nat.digits_ne_nil_iff_ne_zero.mpr hne)
    rw [Nat.sub_eq_zero_of_le hlength, List.replicate_zero, List.append_nil]
    refine List.map_congr_left fun digit hmem => hdigits digit ?_
    exact Nat.digits_lt_base (by decide) (List.mem_reverse.mp hmem)

theorem printArray_of_mem {size : Nat} {array : Bytes size} (hends : 0 ∈ List.ofFn array) :
    printArray array = some (cString (List.ofFn array)) := if_pos hends

theorem length_cString_lt {text : List Byte} (hends : 0 ∈ text) :
    (cString text).length < text.length := by
  refine lt_of_le_of_ne (List.takeWhile_prefix _).length_le fun hlength => ?_
  have hall := List.takeWhile_eq_self_iff.mp ((List.takeWhile_prefix _).eq_of_length hlength)
  exact of_decide_eq_true (hall 0 hends) rfl

theorem notMem_cString (text : List Byte) : 0 ∉ cString text := by
  intro hmem
  have hne := List.mem_takeWhile_imp hmem
  exact of_decide_eq_true hne rfl

/-! ### Addresses -/

theorem inetNtop_eq (ip : Bytes 4) :
    inetNtop ip = printUnsigned (ip 0).toNat ++ 46#8 :: (printUnsigned (ip 1).toNat ++
      46#8 :: (printUnsigned (ip 2).toNat ++ 46#8 :: printUnsigned (ip 3).toNat)) := by
  simp [inetNtop, List.ofFn_succ, List.intercalate, List.intersperse]

theorem length_inetNtop_le (ip : Bytes 4) : (inetNtop ip).length ≤ 15 := by
  have hoctet : ∀ octet : Byte, (printUnsigned octet.toNat).length ≤ 3 := fun octet =>
    length_printUnsigned_le (by decide) (by have := octet.isLt; omega)
  have h0 := hoctet (ip 0)
  have h1 := hoctet (ip 1)
  have h2 := hoctet (ip 2)
  have h3 := hoctet (ip 3)
  rw [inetNtop_eq]
  simp only [List.length_append, List.length_cons]
  omega

theorem notMem_inetNtop (ip : Bytes 4) : 0 ∉ inetNtop ip := by
  have hoctet : ∀ octet : Byte, 0 ∉ printUnsigned octet.toNat := fun octet hmem =>
    mem_printUnsigned hmem rfl
  have hdot : (0 : Byte) ≠ 46#8 := by decide
  rw [inetNtop_eq]
  simp only [List.mem_append, List.mem_cons, hoctet, hdot, or_self, not_false_iff]

theorem addressWord_lt (address : In6Addr) (i : Nat) : addressWord address i < 16 ^ 4 := by
  unfold addressWord
  dsimp only
  have hhigh := ((List.ofFn address).getD (2 * i) 0).isLt
  have hlow := ((List.ofFn address).getD (2 * i + 1) 0).isLt
  omega

variable (address : In6Addr) {best : Option ZeroWords}

theorem length_wordText_le (i : Nat) :
    (wordText address best i).length ≤ (if i = 0 then 0 else 1) +
      if best.any (ZeroWords.embeds (addressWord address)) && i = 6 then 15 else 4 := by
  have hword := length_printHex_le (by decide) (addressWord_lt address i)
  have hlast := length_inetNtop_le fun j => (List.ofFn address).getD (12 + j) 0
  have hcolon : (ascii ":").length = 1 := by decide
  unfold wordText
  dsimp only
  split
  · refine le_trans (b := 1) ?_ (by split <;> split <;> omega)
    split
    · exact hcolon.le
    · exact Nat.zero_le _
  · split
    · exact Nat.zero_le _
    · rw [List.length_append]
      refine Nat.add_le_add ?_ ?_
      · split
        · exact le_rfl
        · exact hcolon.le
      · split
        · exact hlast
        · exact hword

/-- In front of an embedded address there are hardly any words. -/
theorem length_wordText_zeros_le
    (hembeds : best.any (ZeroWords.embeds (addressWord address)) = true) {i : Nat} (hi : i < 5) :
    (wordText address best i).length ≤ 1 := by
  have hcolon : (ascii ":").length = 1 := by decide
  obtain ⟨row, rfl, hrow⟩ := (Option.any_eq_true _ _).mp hembeds
  have hshape : row.base = 0 ∧ 5 ≤ row.len := by
    unfold ZeroWords.embeds at hrow
    simp only [Bool.and_eq_true, Bool.or_eq_true, decide_eq_true_eq] at hrow
    omega
  have hinside : ((some row).any fun row => row.base ≤ i && i < row.base + row.len) = true := by
    rw [Option.any_some, Bool.and_eq_true, decide_eq_true_eq, decide_eq_true_eq]
    omega
  unfold wordText
  dsimp only
  rw [if_pos hinside]
  split
  · exact hcolon.le
  · exact Nat.zero_le _

/-- An address always fits `INET6_ADDRSTRLEN`. -/
theorem length_inetNtop6_le : (inetNtop6 address).length ≤ 40 := by
  unfold inetNtop6
  dsimp only
  set best := ZeroWords.best (addressWord address)
  have hend : (if best.any fun row => row.base + row.len = 8 then ascii ":"
      else []).length ≤ 1 := by
    split
    · exact (by decide : (ascii ":").length ≤ 1)
    · exact Nat.zero_le _
  have hwords : ((List.range 8).flatMap (wordText address best)).length =
      (wordText address best 0).length + (wordText address best 1).length +
        (wordText address best 2).length + (wordText address best 3).length +
        (wordText address best 4).length + (wordText address best 5).length +
        (wordText address best 6).length + (wordText address best 7).length := by
    simp only [List.range_succ, List.range_zero, List.nil_append, List.flatMap_append,
      List.flatMap_singleton, List.length_append]
  have hword : ∀ i, (wordText address best i).length ≤ _ := length_wordText_le address
  have h0 := hword 0
  have h1 := hword 1
  have h2 := hword 2
  have h3 := hword 3
  have h4 := hword 4
  have h5 := hword 5
  have h6 := hword 6
  have h7 := hword 7
  rw [List.length_append, hwords]
  cases hembeds : best.any (ZeroWords.embeds (addressWord address)) with
  | true =>
      have hzeros : ∀ i < 5, (wordText address best i).length ≤ 1 := fun i hi =>
        length_wordText_zeros_le address hembeds hi
      have hzero := hzeros 0 (by decide)
      have hone := hzeros 1 (by decide)
      have htwo := hzeros 2 (by decide)
      have hthree := hzeros 3 (by decide)
      have hfour := hzeros 4 (by decide)
      rw [hembeds] at h5 h6 h7
      simp at h5 h6 h7
      omega
  | false =>
      rw [hembeds] at h0 h1 h2 h3 h4 h5 h6 h7
      simp at h0 h1 h2 h3 h4 h5 h6 h7
      omega

theorem notMem_wordText (i : Nat) : 0 ∉ wordText address best i := by
  have hcolon : 0 ∉ ascii ":" := by decide
  unfold wordText
  dsimp only
  split
  · split
    · exact hcolon
    · exact List.not_mem_nil
  · split
    · exact List.not_mem_nil
    · refine List.mem_append.not.mpr (not_or.mpr ⟨?_, ?_⟩)
      · split
        · exact List.not_mem_nil
        · exact hcolon
      · split
        · exact notMem_inetNtop _
        · exact fun hmem => mem_printHex hmem rfl

theorem notMem_inetNtop6 : 0 ∉ inetNtop6 address := by
  unfold inetNtop6
  refine List.mem_append.not.mpr (not_or.mpr ⟨fun hmem => ?_, ?_⟩)
  · obtain ⟨i, -, hword⟩ := List.mem_flatMap.mp hmem
    exact notMem_wordText address i hword
  · split
    · exact (by decide : 0 ∉ ascii ":")
    · exact List.not_mem_nil

example : inetNtop6 (fun i => [0x20, 0x01, 0x0d, 0xb8].getD i 0) = ascii "2001:db8::" := by
  decide

/-! ### The environment -/

def getenv (name : String) (env : List (List Byte)) : Option (List Byte) :=
  Environ.get equalsSign (ascii name) env

structure NamesEnd (settings : Settings) : Prop where
  lte : 0 ∈ List.ofFn settings.lteInterfaceName
  dsl : 0 ∈ List.ofFn settings.dslInterfaceName
  tunnel : 0 ∈ List.ofFn settings.tunnelInterfaceName

def described (runtime : Runtime) : List (List Byte × List Byte) :=
  (envVariables runtime).map fun given => (given.1, given.2.getD [])

structure Printable (given : List Byte × Option (List Byte)) : Prop where
  named : 0 ∉ given.1 ∧ equalsSign ∉ given.1
  printed : ∃ text, given.2 = some text ∧ 0 ∉ text ∧
    given.1.length + 1 + text.length < maxEnvVarLength

theorem printable_array {size : Nat} {array : Bytes size} (name : List Byte)
    (hends : 0 ∈ List.ofFn array)
    (hname : (0 ∉ name ∧ equalsSign ∉ name) ∧ name.length + size < maxEnvVarLength) :
    Printable (name, printArray array) where
  named := hname.1
  printed := by
    refine ⟨_, printArray_of_mem hends, notMem_cString _, ?_⟩
    have hlength := length_cString_lt hends
    rw [List.length_ofFn] at hlength
    have hroom := hname.2
    dsimp only
    omega

theorem printable_unsigned {width : Nat} (room : Nat) (word : BitVec width) (hroom : 1 ≤ room)
    (hwidth : 2 ^ width ≤ 10 ^ room) {name : List Byte}
    (hname : (0 ∉ name ∧ equalsSign ∉ name) ∧ name.length + 1 + room < maxEnvVarLength) :
    Printable (name, some (printUnsigned word.toNat)) where
  named := hname.1
  printed := by
    refine ⟨_, rfl, fun hmem => mem_printUnsigned hmem rfl, ?_⟩
    have hlength := length_printUnsigned_le hroom (word.isLt.trans_le hwidth)
    have hbound := hname.2
    dsimp only
    omega

theorem printable_address {size : Nat} {text : List Byte} (hplain : 0 ∉ text)
    {room : Nat} (hlength : text.length ≤ room) (hsize : room < size) {name : List Byte}
    (hname : (0 ∉ name ∧ equalsSign ∉ name) ∧ name.length + 1 + room < maxEnvVarLength) :
    Printable (name, some (straddr size text)) where
  named := hname.1
  printed := by
    refine ⟨text, congrArg some (if_pos (hlength.trans_lt hsize)), hplain, ?_⟩
    have hbound := hname.2
    dsimp only
    omega

/-- Every variable fits its element of `env`. -/
theorem printable_envVariables {runtime : Runtime} (hnames : NamesEnd runtime.settings) :
    ∀ given ∈ envVariables runtime, Printable given := by
  have hlte := printable_array (ascii "lte_interface_name") hnames.lte (by decide)
  have hdsl := printable_array (ascii "dsl_interface_name") hnames.dsl (by decide)
  have htunnel := printable_array (ascii "tunnel_interface_name") hnames.tunnel
    (by decide)
  intro given hmem
  unfold envVariables at hmem
  simp only [List.mem_append, List.mem_cons, List.not_mem_nil, or_false] at hmem
  rcases hmem with (rfl | hmem) | rfl | rfl | rfl | rfl | rfl | rfl | rfl
  · exact hlte
  · split at hmem
    · rw [List.mem_singleton.mp hmem]
      exact hdsl
    · exact absurd hmem List.not_mem_nil
  · exact htunnel
  · exact printable_unsigned 5 _ (by decide) (by decide) (by decide)
  · exact printable_address (notMem_inetNtop _) (length_inetNtop_le _) (by decide)
      (by decide)
  · exact printable_unsigned 10 _ (by decide) (by decide) (by decide)
  · exact printable_address (notMem_inetNtop6 _) (length_inetNtop6_le _) (by decide)
      (by decide)
  · exact printable_unsigned 3 _ (by decide) (by decide) (by decide)
  · exact printable_unsigned 10 _ (by decide) (by decide) (by decide)

/-- What fits is printed as a whole. -/
theorem envVar_of_printable {given : List Byte × Option (List Byte)}
    (hprintable : Printable given) : given.2.bind (envVar given.1) =
      some (Environ.entry equalsSign (given.1, given.2.getD [])) := by
  obtain ⟨text, htext, -, hroom⟩ := hprintable.printed
  have hequals : ascii "=" = [equalsSign] := by decide
  rw [htext, Option.bind_some, Option.getD_some, envVar, hequals, List.append_assoc,
    List.singleton_append]
  refine if_pos ?_
  rw [List.length_append, List.length_cons]
  omega

/-- **Nothing is overrun**, and these are the strings. -/
theorem environment_eq {runtime : Runtime} (hnames : NamesEnd runtime.settings) :
    environment runtime = some ((described runtime).map (Environ.entry equalsSign)) := by
  have hprinted : (envVariables runtime).mapM (fun given => given.2.bind (envVar given.1)) =
      some ((envVariables runtime).map fun given =>
        Environ.entry equalsSign (given.1, given.2.getD [])) := by
    have hall := printable_envVariables hnames
    generalize envVariables runtime = assignments at hall
    induction assignments with
    | nil => rfl
    | cons given rest ih =>
        rw [List.mapM_cons, envVar_of_printable (hall given List.mem_cons_self),
          ih fun other hother => hall other (List.mem_cons_of_mem _ hother)]
        rfl
  have hcount : (envVariables runtime).length < maxEnvVars := by
    unfold envVariables
    split <;> simp [maxEnvVars]
  unfold environment
  rw [hprinted, Option.bind_eq_bind, Option.bind_some, described, List.map_map]
  exact if_pos (by rwa [List.length_map])

/-- **What was printed is read back**, under every name. -/
theorem getenv_environment {runtime : Runtime} (hnames : NamesEnd runtime.settings)
    {env : List (List Byte)} (henv : environment runtime = some env) {name : String}
    (hname : equalsSign ∉ ascii name) :
    getenv name env = (described runtime).lookup (ascii name) := by
  rw [environment_eq hnames] at henv
  obtain rfl := Option.some.inj henv
  refine Environ.get_map_entry hname fun given hmem => ?_
  obtain ⟨assignment, hassignment, rfl⟩ := List.mem_map.mp hmem
  exact (printable_envVariables hnames assignment hassignment).named.2

end OpenHybrid
