import OpenHybrid.Handlers

/-!
# Across the control plane

What `append_grecpattribute` and `send_grecpmessage` build is what `process_grecpmessage` and the
attribute loop of its handlers take apart.
-/

namespace OpenHybrid

open ByteMemory

/-- An attribute as the sender has it: its id and its value. -/
abbrev Item := Byte × List Byte

def attributeArea (items : List Item) : List Byte :=
  items.foldl (fun buffer item =>
    appendGrecpattribute buffer item.1 (BitVec.ofNat 16 item.2.length) item.2) []

def Item.bytes (item : Item) : List Byte :=
  item.1 :: storeList (htons (BitVec.ofNat 16 item.2.length)) ++ item.2

@[simp]
theorem Item.bytes_length (item : Item) : item.bytes.length = 3 + item.2.length := by
  simp only [Item.bytes, List.cons_append, List.length_cons, List.length_append, storeList_length]
  omega

theorem attributeArea_eq {items : List Item} (hvalues : ∀ item ∈ items, item.2.length < 2 ^ 16) :
    attributeArea items = items.flatMap Item.bytes := by
  have hfold : ∀ buffer, items.foldl (fun buffer item =>
      appendGrecpattribute buffer item.1 (BitVec.ofNat 16 item.2.length) item.2) buffer =
      buffer ++ items.flatMap Item.bytes := by
    induction items with
    | nil => intro buffer; simp
    | cons item rest ih =>
        intro buffer
        have hlength : (BitVec.ofNat 16 item.2.length).toNat = item.2.length := by
          rw [BitVec.toNat_ofNat, Nat.mod_eq_of_lt (hvalues item List.mem_cons_self)]
        rw [List.foldl_cons, ih fun other hother => hvalues other (List.mem_cons_of_mem item hother),
          appendGrecpattribute, hlength, List.take_length, List.flatMap_cons, Item.bytes]
        simp
  rw [attributeArea, hfold, List.nil_append]

theorem length_le_flatMap_bytes (items : List Item) :
    items.length ≤ (items.flatMap Item.bytes).length := by
  induction items with
  | nil => simp
  | cons item rest ih =>
      rw [List.flatMap_cons, List.length_append, Item.bytes_length, List.length_cons]
      omega

/-! ### One attribute -/

def Item.at (item : Item) (buffer : Nat) : Grecpattr :=
  ⟨item.1, BitVec.ofNat 16 item.2.length, buffer + 3⟩

/-- An attribute is read back where it was written, and the next one stands behind it. -/
theorem readGrecpattribute_bytes {memory base : Memory} {buffer : Nat} {size : Int} {item : Item}
    {rest : List Byte} (hmemory : memory.shift buffer = base.write 0 (item.bytes ++ rest))
    (hvalue : item.2.length < 2 ^ 16) (hsize : (3 + item.2.length : Nat) ≤ size) :
    readGrecpattribute memory buffer size = some (3 + item.2.length, item.at buffer) ∧
      (memory.shift (buffer + 3)).read item.2.length = item.2 ∧
      memory.shift (buffer + (3 + item.2.length)) =
        (base.shift (3 + item.2.length)).write 0 rest := by
  obtain ⟨id, value⟩ := item
  have hsplit : Item.bytes (id, value) ++ rest =
      [id] ++ (storeList (htons (BitVec.ofNat 16 value.length)) ++ (value ++ rest)) := by
    simp [Item.bytes]
  have hid : memory buffer = id := by
    have hzero := congrFun hmemory 0
    rw [hsplit] at hzero
    simpa [Memory.write] using hzero
  have hone : memory.shift (buffer + 1) = (base.shift 1).write 0
      (storeList (htons (BitVec.ofNat 16 value.length)) ++ (value ++ rest)) := by
    rw [← Memory.shift_shift, hmemory, hsplit]
    exact base.shift_write_append [id] _
  have hlength : ntohs (load 16 (memory.shift (buffer + 1))) = BitVec.ofNat 16 value.length := by
    rw [hone, load_write_storeList (by decide), ntohs_htons]
  have hthree : memory.shift (buffer + 3) = (base.shift 3).write 0 (value ++ rest) := by
    have hbehind := (base.shift 1).shift_write_append
      (storeList (htons (BitVec.ofNat 16 value.length))) (value ++ rest)
    rw [← hone, storeList_length, Memory.shift_shift, Memory.shift_shift] at hbehind
    exact hbehind
  have hnat : (BitVec.ofNat 16 value.length).toNat = value.length := by
    rw [BitVec.toNat_ofNat, Nat.mod_eq_of_lt hvalue]
  refine ⟨?_, ?_, ?_⟩
  · simp only at hsize
    rw [readGrecpattribute, if_neg (by omega), if_neg (by omega)]
    simp only [hlength, hnat, hid]
    rw [if_neg (by omega)]
    rfl
  · rw [hthree]
    exact Memory.read_write_append _ _ _
  · have hbehind := (base.shift 3).shift_write_append value rest
    rw [← hthree, Memory.shift_shift, Memory.shift_shift] at hbehind
    rwa [← Nat.add_assoc]

/-! ### The loop -/

/-- The loop reads back what was appended, one attribute after the other, up to the end of the
area. -/
theorem attributeLoop_flatMap (memory : Memory) {items : List Item}
    (hvalues : ∀ item ∈ items, item.2.length < 2 ^ 16) :
    ∀ (fuel buffer : Nat) (base : Memory), items.length ≤ fuel →
      memory.shift buffer = base.write 0 (items.flatMap Item.bytes) →
      ∃ attrs, attributeLoop memory fuel buffer ((items.flatMap Item.bytes).length : Nat) =
          (attrs, 0) ∧
        attrs.map (fun attr =>
          (attr.id, attr.length.toNat, (memory.shift attr.value).read attr.length.toNat)) =
          items.map fun item => (item.1, item.2.length, item.2) := by
  induction items with
  | nil =>
      intro fuel buffer base _ _
      refine ⟨[], ?_, rfl⟩
      cases fuel with
      | zero => rfl
      | succ fuel => rfl
  | cons item rest ih =>
      intro fuel buffer base hfuel hmemory
      obtain ⟨fuel, rfl⟩ : ∃ more, fuel = more + 1 := ⟨fuel - 1, by simp at hfuel; omega⟩
      have hvalue := hvalues item List.mem_cons_self
      rw [List.flatMap_cons] at hmemory
      have hlength : ((item :: rest).flatMap Item.bytes).length =
          (3 + item.2.length) + (rest.flatMap Item.bytes).length := by
        rw [List.flatMap_cons, List.length_append, Item.bytes_length]
      have harea : ((3 + item.2.length : Nat) : Int) ≤
          (((item :: rest).flatMap Item.bytes).length : Nat) := by
        rw [hlength]
        omega
      obtain ⟨hread, hrange, hrest⟩ := readGrecpattribute_bytes hmemory hvalue harea
      obtain ⟨attrs, hloop, hitems⟩ := ih
        (fun other hother => hvalues other (List.mem_cons_of_mem item hother)) fuel _ _
        (by simp at hfuel; omega) hrest
      have hsize : (((item :: rest).flatMap Item.bytes).length : Int) - (3 + item.2.length : Nat) =
          ((rest.flatMap Item.bytes).length : Nat) := by
        rw [hlength]
        omega
      refine ⟨item.at buffer :: attrs, ?_, ?_⟩
      · rw [attributeLoop, hread]
        dsimp only
        rw [hsize, hloop]
      · have hnat : (BitVec.ofNat 16 item.2.length).toNat = item.2.length := by
          rw [BitVec.toNat_ofNat, Nat.mod_eq_of_lt hvalue]
        rw [List.map_cons, List.map_cons, hitems, Item.at]
        simp only [hnat, hrange]

/-! ### The whole message -/

section Message

variable {sender : Runtime} {msgtype : Msgtype} {tuntype : Byte} {area : List Byte}

@[simp]
theorem grecpmessage_length :
    (grecpmessage sender msgtype tuntype area).bytes.length = 9 + area.length := by
  simp only [grecpmessage, List.length_append, Grehdr.bytes_length, List.length_cons]
  omega

/-- Where the parts of the message lie in the buffer it is received into. -/
theorem received_grecpmessage (sender : Runtime) (msgtype : Msgtype) (tuntype : Byte)
    (buffer : Memory) (hfits : 9 + area.length ≤ maxPktSize) :
    let memory := received buffer (grecpmessage sender msgtype tuntype area).bytes
    Grehdr.at memory =
        ⟨htons grecpFlagsandversion, htons grecpProto, htonl sender.haap.bondingKey⟩ ∧
      memory 8 = msgtype.code <<< 4 ||| tuntype ∧
      memory.shift 9 = (buffer.shift 9).write 0 area := by
  intro memory
  set greh : Grehdr :=
    ⟨htons grecpFlagsandversion, htons grecpProto, htonl sender.haap.bondingKey⟩ with hgreh
  have hmemory : memory =
      buffer.write 0 (greh.bytes ++ ([msgtype.code <<< 4 ||| tuntype] ++ area)) := by
    have htake : (grecpmessage sender msgtype tuntype area).bytes.take maxPktSize =
        (grecpmessage sender msgtype tuntype area).bytes := by
      apply List.take_of_length_le
      rwa [grecpmessage_length]
    show received buffer _ = _
    rw [received, htake]
    rfl
  have height : memory.shift 8 =
      (buffer.shift 8).write 0 ([msgtype.code <<< 4 ||| tuntype] ++ area) := by
    rw [hmemory]
    exact greh.shift_write _ _
  refine ⟨?_, ?_, ?_⟩
  · rw [hmemory]
    exact greh.at_write _ _
  · have hzero := congrFun height 0
    simpa [Memory.write] using hzero
  · have hnine := (buffer.shift 8).shift_write_append [msgtype.code <<< 4 ||| tuntype] area
    rw [← height, Memory.shift_shift, Memory.shift_shift] at hnine
    exact hnine

/-- A message that was sent under the same key reaches its handler. -/
theorem dispatch_grecpmessage (buffer : Memory) (hmsgtype : msgtype ≠ .request)
    (htuntype : tuntype = grecpTuntypeLte ∨ tuntype = grecpTuntypeDsl)
    (hfits : 9 + area.length ≤ maxPktSize) :
    dispatch sender.haap.bondingKey
        (received buffer (grecpmessage sender msgtype tuntype area).bytes) =
      some (msgtype, tuntype) := by
  obtain ⟨hheader, height, _⟩ := received_grecpmessage sender msgtype tuntype buffer hfits
  have hflags : ntohs (htons grecpFlagsandversion) = grecpFlagsandversion := ntohs_htons _
  have hkey : ntohl (htonl sender.haap.bondingKey) = sender.haap.bondingKey := ntohl_htonl _
  exact dispatch_eq_some (hheader ▸ hflags) (Or.inl (hheader ▸ hkey)) height hmsgtype htuntype

end Message

/-- **The control plane.** A message built from any list of attributes that fits the packet reaches
the handler of its type, for its tunnel, under the same bonding key; and the handler's loop reads
exactly these attributes, in order, and nothing is left of the area. -/
theorem control_plane_round_trip (sender receiver : Runtime) (msgtype : Msgtype) (tuntype : Byte)
    (items : List Item) (buffer : Memory) (hmsgtype : msgtype ≠ .request)
    (htuntype : tuntype = grecpTuntypeLte ∨ tuntype = grecpTuntypeDsl)
    (hkey : receiver.haap.bondingKey = sender.haap.bondingKey)
    (hvalues : ∀ item ∈ items, item.2.length < 2 ^ 16)
    (hfits : 9 + (attributeArea items).length ≤ maxPktSize) :
    let datagram := (grecpmessage sender msgtype tuntype (attributeArea items)).bytes
    let memory := received buffer datagram
    let size : Int := datagram.length - attributesOffset
    dispatch receiver.haap.bondingKey memory = some (msgtype, tuntype) ∧
    (∀ uptime, processGrecpmessage memory datagram.length uptime receiver =
      handleGrecpmessage memory msgtype tuntype attributesOffset size uptime receiver) ∧
    (attributes memory attributesOffset size).map (fun attr =>
        (attr.id, attr.length.toNat, (memory.shift attr.value).read attr.length.toNat)) =
      items.map (fun item => (item.1, item.2.length, item.2)) ∧
    (attributeLoop memory size.toNat attributesOffset size).2 = 0 := by
  intro datagram memory size
  have hdispatch : dispatch receiver.haap.bondingKey memory = some (msgtype, tuntype) := by
    rw [hkey]
    exact dispatch_grecpmessage buffer hmsgtype htuntype hfits
  have harea := attributeArea_eq hvalues
  have hmemory : memory.shift 9 = (buffer.shift 9).write 0 (items.flatMap Item.bytes) := by
    rw [← harea]
    exact (received_grecpmessage sender msgtype tuntype buffer hfits).2.2
  have hsize : size = ((items.flatMap Item.bytes).length : Nat) := by
    show ((grecpmessage sender msgtype tuntype (attributeArea items)).bytes.length : Int) -
      attributesOffset = _
    rw [grecpmessage_length, harea, attributesOffset]
    omega
  have hrounds : items.length ≤ size.toNat := by
    rw [hsize, Int.toNat_natCast]
    exact length_le_flatMap_bytes items
  obtain ⟨attrs, hloop, hitems⟩ := attributeLoop_flatMap memory hvalues _ _ _ hrounds hmemory
  rw [← hsize] at hloop
  refine ⟨hdispatch, fun uptime => ?_, ?_, ?_⟩
  · rw [processGrecpmessage, hdispatch]
  · rw [attributes, attributesOffset, hloop]
    exact hitems
  · rw [attributesOffset, hloop]

def threeItems : List Item :=
  [(msgattrSessionId, [0, 0, 0, 1]), (msgattrPadding, []), (msgattrBondingKeyValue, [0, 0, 0, 5])]

/-- An Accept for the LTE tunnel with three attributes, received over the bytes of an older
packet. -/
theorem accept_round_trip :
    (attributes (received (fun _ => 0xff) (grecpmessage Runtime.zero .accept grecpTuntypeLte
        (attributeArea threeItems)).bytes) 9 17).map
      (fun attr => (attr.id, attr.length.toNat)) =
        [(msgattrSessionId, 4), (msgattrPadding, 0), (msgattrBondingKeyValue, 4)] := by
  have htrip := control_plane_round_trip Runtime.zero Runtime.zero .accept grecpTuntypeLte
    threeItems (fun _ => 0xff) (by decide) (Or.inl rfl) rfl (by decide) (by decide)
  have hitems := congrArg (List.map fun item => (item.1, item.2.1)) htrip.2.2.1
  rw [List.map_map] at hitems
  exact hitems

end OpenHybrid
