import CardLogon.CTokens
import CardLogon.MySqlConn

/- The machine line: `MachineInfo`, and the `strtok` calls that take its text apart in
   `GetConnectedStatus` and `user_Print`.

   The text is the time, the machine name, the IP list and the MAC list with `^` between
   them. The two lists are collected in one loop over the adapters, and an adapter is set
   off with `/` when the list has more than ten bytes by then; the address strings of an
   adapter follow each other with nothing between. The clock, `GetComputerName` and
   `GetAdaptersInfo` are given by what they return.

   What is proved:
     1. `machine_line_iff`. The text fits the 250-byte buffers and its four tokens are what
        was joined exactly when no name and no address has the separator, and the sizes
        add up to less than 250.
     2. `ip_list_readable_iff`. The parts of the IP list are the adapters' addresses
        exactly when every adapter has one address, and there is one adapter or the first
        address is longer than ten.
     3. `mac_list_of_addresses`. With hardware addresses of six bytes the MAC list is the
        addresses with `/` between, and other adapters have another list. -/
namespace CardLogon
open CText

/-! `MachineInfo`. -/

/-- The fields of SYSTEMTIME that are printed. -/
structure SystemTime where
  wYear : UInt16
  wMonth : UInt16
  wDay : UInt16
  wHour : UInt16
  wMinute : UInt16
  wSecond : UInt16

/-- An adapter of `GetAdaptersInfo`: its hardware address, and its address strings, of
    which there is one at least. -/
structure Adapter where
  address : Bytes
  ipAddress : CStr
  next : List CStr

/-- "%d-%02d-%02d %02d:%02d:%02d". -/
def timeText (sdt : SystemTime) : Bytes :=
  dec sdt.wYear.toNat ++ 45 :: (dec2 sdt.wMonth.toNat ++ 45 :: (dec2 sdt.wDay.toNat ++
    32 :: (dec2 sdt.wHour.toNat ++ 58 :: (dec2 sdt.wMinute.toNat ++ 58 :: dec2 sdt.wSecond.toNat))))

def chTime (sdt : SystemTime) : Bytes :=
  if (timeText sdt).length = 0 then lit "2055-05-05 11:05:05" else timeText sdt

/-- The loop over the hardware address: "%02X-" and at the end "%02X". -/
def macText : Bytes → Bytes
  | [] => []
  | [b] => hex2 b
  | b :: bs => hex2 b ++ 45 :: macText bs

/-- The loop over the address strings. -/
def ipText (a : Adapter) : Bytes := a.ipAddress.val ++ (a.next.map Subtype.val).flatten

/-- A turn of the loop over the adapters, with strMAC and strIP. -/
def addAdapter (s : Bytes × Bytes) (a : Adapter) : Bytes × Bytes :=
  (appendField 47 10 s.1 (macText a.address), appendField 47 10 s.2 (ipText a))

/-- The source's fallback texts, in the encoding of the source. -/
def noName : Bytes := [0xCE, 0xB4, 0xC8, 0xA1, 0xB5, 0xBD, 0xBB, 0xFA, 0xC6, 0xF7, 0xC3, 0xFB]
def noIP : Bytes := [0xCE, 0xB4, 0xB5, 0xBD, 0xB1, 0xBE, 0xBB, 0xFA, 0x49, 0x50]
def noMAC : Bytes := [0xCE, 0xB4, 0xB5, 0xBD, 0xB1, 0xBE, 0xBB, 0xFA, 0x4D, 0x41, 0x43]

def strMAC (as : List Adapter) : Bytes :=
  let s := as.foldl addAdapter ([], [])
  if s.1.length = 0 then noMAC else s.1

def strIP (as : List Adapter) : Bytes :=
  let s := as.foldl addAdapter ([], [])
  if s.2.length = 0 then noIP else s.2

/-- The name, or what stands for it when `GetComputerName` fails. -/
def szBufCPName (name : Option CStr) : Bytes :=
  match name with
  | some n => n.val
  | none => noName

/-- `MachineInfo`; the list is empty when `GetAdaptersInfo` fails. -/
def machineInfo (name : Option CStr) (sdt : SystemTime) (as : List Adapter) : Bytes :=
  chTime sdt ++ 94 :: (szBufCPName name ++ 94 :: (strIP as ++ 94 :: strMAC as))

/-! The calls of `strtok`. -/

/-- Its tokens are C strings, like the buffer. -/
def strtokC (sep : UInt8) (s : CStr) : Option (CStr × CStr) :=
  match h : strtok sep s.val with
  | none => none
  | some (t, r) =>
    some (⟨t, fun hc => s.property (strtok_mem h (.inl hc))⟩,
      ⟨r, fun hc => s.property (strtok_mem h (.inr hc))⟩)

theorem strtokC_eq_some {sep : UInt8} {s t r : CStr} :
    strtokC sep s = some (t, r) ↔ strtok sep s.val = some (t.val, r.val) := by
  unfold strtokC
  split
  · next h => simp [h]
  · next t' r' h => simp [h, Subtype.ext_iff]

/-- The four calls on a copy of the text, and what is left; 94 is `^`. -/
def machineTokens (chGetMachineInfo : CStr) : Option (MachineInfo × CStr) :=
  (strtokC 94 chGetMachineInfo).bind fun sqlTime =>
  (strtokC 94 sqlTime.2).bind fun sqlMachineName =>
  (strtokC 94 sqlMachineName.2).bind fun sqlIP =>
  (strtokC 94 sqlIP.2).map fun sqlMAC =>
    (⟨sqlTime.1, sqlMachineName.1, sqlIP.1, sqlMAC.1⟩, sqlMAC.2)

/-! What the texts are made of. -/

theorem mem_timeText {sdt : SystemTime} {c : UInt8} (h : c ∈ timeText sdt) :
    isDigit c = true ∨ c = 45 ∨ c = 32 ∨ c = 58 := by
  unfold timeText at h
  simp only [List.mem_append, List.mem_cons] at h
  rcases h with h | h | h | h | h | h | h | h | h | h | h
  · exact .inl (isDigit_of_mem_dec h)
  · exact .inr (.inl h)
  · exact .inl (isDigit_of_mem_dec2 h)
  · exact .inr (.inl h)
  · exact .inl (isDigit_of_mem_dec2 h)
  · exact .inr (.inr (.inl h))
  · exact .inl (isDigit_of_mem_dec2 h)
  · exact .inr (.inr (.inr h))
  · exact .inl (isDigit_of_mem_dec2 h)
  · exact .inr (.inr (.inr h))
  · exact .inl (isDigit_of_mem_dec2 h)

theorem chTime_eq (sdt : SystemTime) : chTime sdt = timeText sdt ∧ timeText sdt ≠ [] := by
  have hne : timeText sdt ≠ [] := by
    unfold timeText
    intro h
    exact dec_ne_nil _ (List.append_eq_nil_iff.mp h).1
  refine ⟨?_, hne⟩
  unfold chTime
  rw [if_neg (fun h => hne (List.length_eq_zero_iff.mp h))]

theorem mem_hex2 {b c : UInt8} (h : c ∈ hex2 b) : isDigit c = true ∨ (65 ≤ c ∧ c ≤ 70) := by
  have hb : b.toNat < 256 := b.toNat_lt_size
  obtain rfl | h := List.mem_cons.mp h
  · exact hexDigit_range (by omega)
  · obtain rfl := List.mem_singleton.mp h
    exact hexDigit_range (by omega)

/-- The bytes with `-` between them. -/
theorem macText_eq (bs : Bytes) : macText bs = [45].intercalate (bs.map hex2) := by
  induction bs with
  | nil => rfl
  | cons b bs ih =>
    cases bs with
    | nil => simp [macText, List.intercalate]
    | cons b' bs =>
      rw [macText, ih, List.map_cons, List.map_cons, List.map_cons, List.intercalate_cons_cons,
        List.append_assoc, List.singleton_append]
      intro h
      cases h

theorem mem_macText {bs : Bytes} {c : UInt8} (h : c ∈ macText bs) :
    isDigit c = true ∨ (65 ≤ c ∧ c ≤ 70) ∨ c = 45 := by
  induction bs with
  | nil => cases h
  | cons b bs ih =>
    have hhex : c ∈ hex2 b → isDigit c = true ∨ (65 ≤ c ∧ c ≤ 70) ∨ c = 45 :=
      fun hc => (mem_hex2 hc).imp_right .inl
    cases bs with
    | nil => exact hhex h
    | cons b' bs =>
      rcases List.mem_append.mp h with h | h
      · exact hhex h
      · rcases List.mem_cons.mp h with rfl | h
        · exact .inr (.inr rfl)
        · exact ih h

theorem length_macText (bs : Bytes) : (macText bs).length = 3 * bs.length - 1 := by
  induction bs with
  | nil => rfl
  | cons b bs ih =>
    cases bs with
    | nil => rfl
    | cons b' bs =>
      show (hex2 b ++ 45 :: macText (b' :: bs)).length = _
      rw [List.length_append, List.length_cons, ih]
      simp only [hex2, List.length_cons, List.length_nil]
      omega

/-- The two lists, before the fallbacks. -/
def macList (as : List Adapter) : Bytes :=
  (as.map fun a => macText a.address).foldl (appendField 47 10) []

def ipList (as : List Adapter) : Bytes := (as.map ipText).foldl (appendField 47 10) []

/-- The loop collects them side by side. -/
theorem foldl_addAdapter (as : List Adapter) (s : Bytes × Bytes) :
    as.foldl addAdapter s = ((as.map fun a => macText a.address).foldl (appendField 47 10) s.1,
      (as.map ipText).foldl (appendField 47 10) s.2) := by
  induction as generalizing s with
  | nil => rfl
  | cons a as ih => exact ih (addAdapter s a)

theorem strMAC_eq (as : List Adapter) :
    strMAC as = if (macList as).length = 0 then noMAC else macList as := by
  unfold strMAC
  rw [foldl_addAdapter]
  rfl

theorem strIP_eq (as : List Adapter) :
    strIP as = if (ipList as).length = 0 then noIP else ipList as := by
  unfold strIP
  rw [foldl_addAdapter]
  rfl

theorem fallback_ne_nil {l d : Bytes} (hd : d ≠ []) : (if l.length = 0 then d else l) ≠ [] := by
  split
  · exact hd
  · next h => exact fun hnil => h (List.length_eq_zero_iff.mpr hnil)

theorem strMAC_ne_nil (as : List Adapter) : strMAC as ≠ [] := by
  rw [strMAC_eq]
  exact fallback_ne_nil (by decide)

theorem strIP_ne_nil (as : List Adapter) : strIP as ≠ [] := by
  rw [strIP_eq]
  exact fallback_ne_nil (by decide)

theorem mem_strMAC {as : List Adapter} {c : UInt8} (h : c ∈ strMAC as) :
    c ∈ noMAC ∨ c = 47 ∨ isDigit c = true ∨ (65 ≤ c ∧ c ≤ 70) ∨ c = 45 := by
  rw [strMAC_eq] at h
  split at h
  · exact .inl h
  · rcases mem_foldl_appendField 47 10 h with h | h | ⟨f, hf, hc⟩
    · cases h
    · exact .inr (.inl h)
    · obtain ⟨a, -, rfl⟩ := List.mem_map.mp hf
      exact .inr (.inr (mem_macText hc))

theorem mem_ipText {a : Adapter} {c : UInt8} :
    c ∈ ipText a ↔ c ∈ a.ipAddress.val ∨ ∃ s ∈ a.next, c ∈ s.val := by
  unfold ipText
  simp [List.mem_flatten]

theorem mem_strIP {as : List Adapter} {c : UInt8} (h : c ∈ strIP as) :
    c ∈ noIP ∨ c = 47 ∨ ∃ a ∈ as, c ∈ ipText a := by
  rw [strIP_eq] at h
  split at h
  · exact .inl h
  · rcases mem_foldl_appendField 47 10 h with h | h | ⟨f, hf, hc⟩
    · cases h
    · exact .inr (.inl h)
    · obtain ⟨a, ha, rfl⟩ := List.mem_map.mp hf
      exact .inr (.inr ⟨a, ha, hc⟩)

/-- Every byte of an address string is in the list. -/
theorem mem_strIP_of_mem {as : List Adapter} {a : Adapter} (ha : a ∈ as) {c : UInt8}
    (hc : c ∈ ipText a) : c ∈ strIP as := by
  have hmem : c ∈ ipList as :=
    mem_foldl_of_mem 47 10 (.inr ⟨ipText a, List.mem_map_of_mem ha, hc⟩)
  rw [strIP_eq, if_neg]
  · exact hmem
  · intro h
    rw [List.length_eq_zero_iff.mp h] at hmem
    cases hmem

/-- A byte that is in none of the names and addresses is not in the text. -/
theorem notMem_timeText (sdt : SystemTime) :
    (0 : UInt8) ∉ timeText sdt ∧ (94 : UInt8) ∉ timeText sdt := by
  refine ⟨fun h => ?_, fun h => ?_⟩
  · have hc := mem_timeText h
    revert hc
    decide
  · have hc := mem_timeText h
    revert hc
    decide

theorem notMem_strMAC (as : List Adapter) :
    (0 : UInt8) ∉ strMAC as ∧ (94 : UInt8) ∉ strMAC as := by
  refine ⟨fun h => ?_, fun h => ?_⟩
  · have hc := mem_strMAC h
    revert hc
    decide
  · have hc := mem_strMAC h
    revert hc
    decide

theorem nul_notMem_strIP (as : List Adapter) : (0 : UInt8) ∉ strIP as := by
  intro h
  rcases mem_strIP h with h | h | ⟨a, -, h⟩
  · revert h
    decide
  · revert h
    decide
  · rcases mem_ipText.mp h with h | ⟨s, -, h⟩
    · exact a.ipAddress.property h
    · exact s.property h

/-- No address string of an adapter has the separator. -/
def NoCaret (as : List Adapter) : Prop :=
  ∀ a ∈ as, (94 : UInt8) ∉ a.ipAddress.val ∧ ∀ s ∈ a.next, (94 : UInt8) ∉ s.val

theorem caret_notMem_strIP (as : List Adapter) : (94 : UInt8) ∉ strIP as ↔ NoCaret as := by
  unfold NoCaret
  refine ⟨fun h a ha => ⟨fun hc => ?_, fun s hs hc => ?_⟩, fun h hc => ?_⟩
  · exact h (mem_strIP_of_mem ha (mem_ipText.mpr (.inl hc)))
  · exact h (mem_strIP_of_mem ha (mem_ipText.mpr (.inr ⟨s, hs, hc⟩)))
  · rcases mem_strIP hc with hc | hc | ⟨a, ha, hc⟩
    · revert hc
      decide
    · revert hc
      decide
    · rcases mem_ipText.mp hc with hc | ⟨s, hs, hc⟩
      · exact (h a ha).1 hc
      · exact (h a ha).2 s hs hc

/-! The tokens are what was joined. -/

section
variable (name : CStr) (sdt : SystemTime) (as : List Adapter)

/-- What `MachineInfo` joins. -/
def joinedInfo : MachineInfo where
  sqlTime := ⟨chTime sdt, by
    rw [(chTime_eq sdt).1]
    exact (notMem_timeText sdt).1⟩
  sqlMachineName := name
  sqlIP := ⟨strIP as, nul_notMem_strIP as⟩
  sqlMAC := ⟨strMAC as, (notMem_strMAC as).1⟩

/-- Four fields with the separator between them. -/
def joinFields (m : MachineInfo) : Bytes :=
  m.sqlTime.val ++ 94 :: (m.sqlMachineName.val ++ 94 :: (m.sqlIP.val ++ 94 :: m.sqlMAC.val))

theorem nul_notMem_joinFields (m : MachineInfo) : (0 : UInt8) ∉ joinFields m := by
  unfold joinFields
  simp [m.sqlTime.property, m.sqlMachineName.property, m.sqlIP.property, m.sqlMAC.property]

/-- The text as the buffers hold it. -/
def machineText : CStr :=
  ⟨machineInfo (some name) sdt as, nul_notMem_joinFields (joinedInfo name sdt as)⟩

/-- The text fits the buffers it is copied to, and the calls give what was joined, and
    nothing is left for another. -/
def SplitsBack : Prop :=
  (machineInfo (some name) sdt as).length < 250 ∧
    ∃ rest, machineTokens (machineText name sdt as) = some (joinedInfo name sdt as, rest) ∧
      strtokC 94 rest = none

/-- The bytes of the text, from the sizes of the numbers, the name and the addresses. -/
def timeSize : Nat :=
  let size2 n := max 2 (Nat.log 10 n + 1)
  Nat.log 10 sdt.wYear.toNat + 1 + size2 sdt.wMonth.toNat + size2 sdt.wDay.toNat +
    size2 sdt.wHour.toNat + size2 sdt.wMinute.toNat + size2 sdt.wSecond.toNat + 5

def ipSize : Nat :=
  let n := appendedSize 10 0 (as.map fun a =>
    a.ipAddress.val.length + (a.next.map fun s => s.val.length).sum)
  if n = 0 then 10 else n

def macSize : Nat :=
  let n := appendedSize 10 0 (as.map fun a => 3 * a.address.length - 1)
  if n = 0 then 11 else n

def lineSize : Nat := timeSize sdt + name.val.length + ipSize as + macSize as + 3

end

theorem machineTokens_eq_some {s : CStr} {m : MachineInfo} {r : CStr} :
    machineTokens s = some (m, r) ↔ ∃ s₁ s₂ s₃, strtokC 94 s = some (m.sqlTime, s₁) ∧
      strtokC 94 s₁ = some (m.sqlMachineName, s₂) ∧ strtokC 94 s₂ = some (m.sqlIP, s₃) ∧
      strtokC 94 s₃ = some (m.sqlMAC, r) := by
  unfold machineTokens
  refine ⟨fun h => ?_, fun ⟨s₁, s₂, s₃, h₁, h₂, h₃, h₄⟩ => ?_⟩
  · obtain ⟨⟨t, s₁⟩, h₁, h⟩ := Option.bind_eq_some_iff.mp h
    obtain ⟨⟨n, s₂⟩, h₂, h⟩ := Option.bind_eq_some_iff.mp h
    obtain ⟨⟨i, s₃⟩, h₃, h⟩ := Option.bind_eq_some_iff.mp h
    obtain ⟨⟨c, s₄⟩, h₄, h⟩ := Option.map_eq_some_iff.mp h
    obtain ⟨rfl, rfl⟩ := Prod.mk.inj h
    exact ⟨s₁, s₂, s₃, h₁, h₂, h₃, h₄⟩
  · rw [h₁, Option.bind_some, h₂, Option.bind_some, h₃, Option.bind_some, h₄]
    rfl

/-- No token has the separator. -/
theorem machineTokens_sep {s : CStr} {m : MachineInfo} {r : CStr}
    (h : machineTokens s = some (m, r)) :
    (94 : UInt8) ∉ m.sqlMachineName.val ∧ (94 : UInt8) ∉ m.sqlIP.val := by
  obtain ⟨s₁, s₂, s₃, -, h₂, h₃, -⟩ := machineTokens_eq_some.mp h
  exact ⟨(strtok_token (strtokC_eq_some.mp h₂)).2, (strtok_token (strtokC_eq_some.mp h₃)).2⟩

/-- Fields that have something in them and no separator come back. -/
theorem machineTokens_joinFields (m : MachineInfo)
    (ht : m.sqlTime.val ≠ [] ∧ (94 : UInt8) ∉ m.sqlTime.val)
    (hn : m.sqlMachineName.val ≠ [] ∧ (94 : UInt8) ∉ m.sqlMachineName.val)
    (hi : m.sqlIP.val ≠ [] ∧ (94 : UInt8) ∉ m.sqlIP.val)
    (hc : m.sqlMAC.val ≠ [] ∧ (94 : UInt8) ∉ m.sqlMAC.val) :
    machineTokens ⟨joinFields m, nul_notMem_joinFields m⟩ =
      some (m, ⟨[], List.not_mem_nil⟩) := by
  have hno := nul_notMem_joinFields m
  unfold joinFields at hno
  simp only [List.mem_append, List.mem_cons, not_or] at hno
  obtain ⟨-, -, hno₁⟩ := hno
  obtain ⟨-, -, hno₂⟩ := id hno₁
  obtain ⟨-, -, hno₃⟩ := id hno₂
  apply machineTokens_eq_some.mpr
  refine ⟨⟨m.sqlMachineName.val ++ 94 :: (m.sqlIP.val ++ 94 :: m.sqlMAC.val), by simpa using hno₁⟩,
    ⟨m.sqlIP.val ++ 94 :: m.sqlMAC.val, by simpa using hno₂⟩, m.sqlMAC, ?_, ?_, ?_, ?_⟩
  · exact strtokC_eq_some.mpr (strtok_field ht.1 ht.2 _)
  · exact strtokC_eq_some.mpr (strtok_field hn.1 hn.2 _)
  · exact strtokC_eq_some.mpr (strtok_field hi.1 hi.2 _)
  · exact strtokC_eq_some.mpr (strtok_last hc.1 hc.2)

theorem length_timeText (sdt : SystemTime) : (timeText sdt).length = timeSize sdt := by
  unfold timeText timeSize
  simp only [List.length_append, List.length_cons, length_dec, length_dec2]
  omega

theorem length_ipText (a : Adapter) :
    (ipText a).length = a.ipAddress.val.length + (a.next.map fun s => s.val.length).sum := by
  unfold ipText
  rw [List.length_append, List.length_flatten, List.map_map]
  rfl

theorem length_strIP (as : List Adapter) : (strIP as).length = ipSize as := by
  have hlist : (ipList as).length = appendedSize 10 0 (as.map fun a =>
      a.ipAddress.val.length + (a.next.map fun s => s.val.length).sum) := by
    unfold ipList
    rw [length_foldl_appendField, List.map_map]
    congr 1
    exact List.map_congr_left fun a _ => length_ipText a
  unfold ipSize
  rw [strIP_eq, ← hlist]
  exact apply_ite List.length _ _ _

theorem length_strMAC (as : List Adapter) : (strMAC as).length = macSize as := by
  have hlist : (macList as).length =
      appendedSize 10 0 (as.map fun a => 3 * a.address.length - 1) := by
    unfold macList
    rw [length_foldl_appendField, List.map_map]
    congr 1
    exact List.map_congr_left fun a _ => length_macText a.address
  unfold macSize
  rw [strMAC_eq, ← hlist]
  exact apply_ite List.length _ _ _

theorem length_machineInfo (name : CStr) (sdt : SystemTime) (as : List Adapter) :
    (machineInfo (some name) sdt as).length = lineSize name sdt as := by
  unfold machineInfo lineSize szBufCPName
  rw [(chTime_eq sdt).1]
  simp only [List.length_append, List.length_cons, length_timeText, length_strIP, length_strMAC]
  omega

/-- The text fits and comes apart into what was joined exactly when neither the name nor an
    address has the separator, and the sizes add up to less than the buffers. -/
theorem machine_line_iff (name : CStr) (hname : name.val ≠ []) (sdt : SystemTime)
    (as : List Adapter) : SplitsBack name sdt as ↔
      (94 : UInt8) ∉ name.val ∧ NoCaret as ∧ lineSize name sdt as < 250 := by
  unfold SplitsBack
  rw [length_machineInfo, ← caret_notMem_strIP]
  refine ⟨fun ⟨hfit, rest, htok, _⟩ => ?_, fun ⟨hn, hi, hfit⟩ => ⟨hfit, ?_⟩⟩
  · obtain ⟨hn, hi⟩ := machineTokens_sep htok
    exact ⟨hn, hi, hfit⟩
  · obtain ⟨htime, htne⟩ := chTime_eq sdt
    refine ⟨⟨[], List.not_mem_nil⟩, ?_, rfl⟩
    apply machineTokens_joinFields (joinedInfo name sdt as)
    · show chTime sdt ≠ [] ∧ 94 ∉ chTime sdt
      rw [htime]
      exact ⟨htne, (notMem_timeText sdt).2⟩
    · exact ⟨hname, hn⟩
    · exact ⟨strIP_ne_nil as, hi⟩
    · exact ⟨strMAC_ne_nil as, (notMem_strMAC as).2⟩

/-- A machine with one adapter. -/
def someTime : SystemTime := ⟨2019, 6, 24, 9, 22, 51⟩
def pc21 : CStr := ⟨lit "PC-21", by decide⟩
def someAdapter : Adapter :=
  ⟨[0x00, 0x11, 0x22, 0x33, 0x44, 0x55], ⟨lit "192.168.0.21", by decide⟩, []⟩

theorem some_line_splits : SplitsBack pc21 someTime [someAdapter] :=
  (machine_line_iff pc21 (by decide) someTime [someAdapter]).mpr
    ⟨by decide, by
      intro a ha
      obtain rfl := List.mem_singleton.mp ha
      decide, by decide +kernel⟩

/-- A name that Windows allows. -/
def caretName : CStr := ⟨lit "PC^7", by decide⟩

/-- The tokens after the first are shifted. -/
theorem caret_name_splits_wrong :
    ¬ ∀ name sdt as, name.val ≠ [] → name.val.length ≤ 15 → SplitsBack name sdt as := by
  intro hall
  obtain ⟨-, rest, htok, -⟩ := hall caretName someTime [someAdapter] (by decide) (by decide)
  exact (machineTokens_sep htok).1 (by decide)

/-! Reading the IP list back. -/

def isAddressChar (c : UInt8) : Bool := isDigit c || c == 46

/-- The entries of a list, each as the addresses that stand in it. -/
def readIpList (s : Bytes) : List (List Bytes) := (s.splitOn 47).map (runs isAddressChar)

/-- An entry for each adapter, with its addresses. -/
def IpListReadable (as : List Adapter) : Prop :=
  readIpList (strIP as) = as.map fun a => (a.ipAddress :: a.next).map Subtype.val

def dottedQuad (a b c d : UInt8) : Bytes :=
  dec a.toNat ++ 46 :: (dec b.toNat ++ 46 :: (dec c.toNat ++ 46 :: dec d.toNat))

def DottedQuad (s : CStr) : Prop := ∃ a b c d, s.val = dottedQuad a b c d

theorem DottedQuad.ne_nil {s : CStr} (h : DottedQuad s) : s.val ≠ [] := by
  obtain ⟨a, b, c, d, h⟩ := h
  rw [h]
  unfold dottedQuad
  simp

theorem DottedQuad.chars {s : CStr} (h : DottedQuad s) : ∀ c ∈ s.val, isAddressChar c = true := by
  obtain ⟨a, b, c, d, h⟩ := h
  intro x hx
  rw [h] at hx
  unfold dottedQuad at hx
  unfold isAddressChar
  simp only [List.mem_append, List.mem_cons] at hx
  rw [Bool.or_eq_true, beq_iff_eq]
  rcases hx with hx | hx | hx | hx | hx | hx | hx
  · exact .inl (isDigit_of_mem_dec hx)
  · exact .inr hx
  · exact .inl (isDigit_of_mem_dec hx)
  · exact .inr hx
  · exact .inl (isDigit_of_mem_dec hx)
  · exact .inr hx
  · exact .inl (isDigit_of_mem_dec hx)

/-- The addresses of an adapter are dotted quads. -/
def Adapter.Quads (a : Adapter) : Prop := ∀ s ∈ a.ipAddress :: a.next, DottedQuad s

section
variable {a : Adapter} {as : List Adapter}

theorem Adapter.Quads.chars (h : a.Quads) : ∀ c ∈ ipText a, isAddressChar c = true := by
  intro c hc
  rcases mem_ipText.mp hc with hc | ⟨s, hs, hc⟩
  · exact (h a.ipAddress List.mem_cons_self).chars c hc
  · exact (h s (List.mem_cons_of_mem _ hs)).chars c hc

theorem Adapter.Quads.ne_nil (h : a.Quads) : ipText a ≠ [] := by
  unfold ipText
  intro hnil
  exact (h a.ipAddress List.mem_cons_self).ne_nil (List.append_eq_nil_iff.mp hnil).1

theorem Adapter.Quads.slash_notMem (h : a.Quads) : (47 : UInt8) ∉ ipText a := by
  intro hc
  have := h.chars 47 hc
  revert this
  decide

theorem ipText_single (h : a.next = []) : ipText a = a.ipAddress.val := by
  unfold ipText
  rw [h]
  exact List.append_nil _

variable (hquads : ∀ b ∈ a :: as, b.Quads)
include hquads

theorem strIP_quads : strIP (a :: as) = ipList (a :: as) := by
  have ha : a.Quads := hquads a List.mem_cons_self
  obtain ⟨c, t, hc⟩ := List.exists_cons_of_ne_nil ha.ne_nil
  have hmem : c ∈ ipList (a :: as) := by
    apply mem_foldl_of_mem 47 10
    refine .inr ⟨ipText a, List.mem_map_of_mem List.mem_cons_self, ?_⟩
    rw [hc]
    exact List.mem_cons_self
  rw [strIP_eq, if_neg]
  intro h
  rw [List.length_eq_zero_iff.mp h] at hmem
  cases hmem

/-- An entry is one run of address characters at most. -/
theorem runs_entry {l : Bytes} (hl : l ∈ (ipList (a :: as)).splitOn 47) :
    (runs isAddressChar l).length ≤ 1 := by
  have hall : ∀ c ∈ l, isAddressChar c = true := by
    intro c hc
    rcases mem_foldl_appendField 47 10 (mem_of_mem_splitOn hl hc) with h | rfl | ⟨f, hf, h⟩
    · cases h
    · exact absurd hc (notMem_of_mem_splitOn hl)
    · obtain ⟨b, hb, rfl⟩ := List.mem_map.mp hf
      exact (hquads b hb).chars c h
  by_cases hnil : l = []
  · rw [hnil]
    decide
  · rw [runs_self hnil hall]
    exact Nat.le_refl 1

/-- The addresses come back exactly when each adapter has one, and the list has one
    adapter or its first address is longer than the bound of the separator. -/
theorem ip_list_readable_iff : IpListReadable (a :: as) ↔
    (∀ b ∈ a :: as, b.next = []) ∧ (as = [] ∨ 10 < a.ipAddress.val.length) := by
  have hslash : ∀ f ∈ ipText a :: as.map ipText, (47 : UInt8) ∉ f := by
    intro f hf
    obtain ⟨b, hb, rfl⟩ := List.mem_map.mp (List.map_cons ▸ hf)
    exact (hquads b hb).slash_notMem
  have hlist : ipList (a :: as) =
      (ipText a :: as.map ipText).foldl (appendField 47 10) [] := rfl
  unfold IpListReadable readIpList
  rw [strIP_quads hquads]
  refine ⟨fun h => ?_, fun ⟨hone, hcase⟩ => ?_⟩
  · have hnext : ∀ b ∈ a :: as, b.next = [] := by
      intro b hb
      have hmem : (b.ipAddress :: b.next).map Subtype.val ∈
          (a :: as).map fun b => (b.ipAddress :: b.next).map Subtype.val :=
        List.mem_map_of_mem hb
      rw [← h] at hmem
      obtain ⟨l, hl, hruns⟩ := List.mem_map.mp hmem
      have hle := runs_entry hquads hl
      rw [hruns, List.length_map, List.length_cons] at hle
      exact List.length_eq_zero_iff.mp (by omega)
    refine ⟨hnext, ?_⟩
    have hlen := congrArg List.length h
    rw [List.length_map, List.length_map, List.length_cons, ← List.length_map ipText, hlist,
      ← List.length_cons (a := ipText a)] at hlen
    have hcase := of_length_splitOn_appended 47 10 hslash hlen
    rw [List.map_eq_nil_iff, ipText_single (hnext a List.mem_cons_self)] at hcase
    exact hcase
  · rw [hlist, splitOn_appended 47 10 hslash]
    · rw [← List.map_cons, List.map_map]
      apply List.map_congr_left
      intro b hb
      have hb' := hquads b hb
      show runs isAddressChar (ipText b) = _
      rw [runs_self hb'.ne_nil hb'.chars, ipText_single (hone b hb), hone b hb]
      rfl
    · rw [List.map_eq_nil_iff, ipText_single (hone a List.mem_cons_self)]
      exact hcase

end

/-- An adapter without an address of its own. -/
def secondAdapter : Adapter :=
  ⟨[0x66, 0x77, 0x88, 0x99, 0xAA, 0xBB], ⟨lit "0.0.0.0", by decide⟩, []⟩

theorem someAdapter_quads : someAdapter.Quads := by
  intro s hs
  obtain rfl := List.mem_singleton.mp hs
  exact ⟨192, 168, 0, 21, by decide⟩

theorem secondAdapter_quads : secondAdapter.Quads := by
  intro s hs
  obtain rfl := List.mem_singleton.mp hs
  exact ⟨0, 0, 0, 0, by decide⟩

theorem long_first_readable : IpListReadable [someAdapter, secondAdapter] :=
  (ip_list_readable_iff (by
    intro b hb
    rcases List.mem_pair.mp hb with rfl | rfl
    · exact someAdapter_quads
    · exact secondAdapter_quads)).mpr ⟨by decide, .inr (by decide)⟩

/-- In the other order the two addresses are run together. -/
theorem short_first_run_together :
    ¬ ∀ a as, (∀ b ∈ a :: as, b.Quads) → IpListReadable (a :: as) := by
  intro hall
  have h := hall secondAdapter [someAdapter] (by
    intro b hb
    rcases List.mem_pair.mp hb with rfl | rfl
    · exact secondAdapter_quads
    · exact someAdapter_quads)
  unfold IpListReadable at h
  revert h
  decide +kernel

/-! Reading the MAC list back. -/

/-- The hardware addresses that stand in a list. -/
def readMacList (s : Bytes) : List Bytes :=
  (s.splitOn 47).map fun mac => (mac.splitOn 45).map readHex2

theorem notMem_macText (bs : Bytes) : (47 : UInt8) ∉ macText bs := by
  intro h
  have hc := mem_macText h
  revert hc
  decide

theorem dash_notMem_hex2 (b : UInt8) : (45 : UInt8) ∉ hex2 b := by
  intro h
  have hc := mem_hex2 h
  revert hc
  decide

/-- The bytes of an address come back. -/
theorem read_macText {bs : Bytes} (h : bs ≠ []) :
    ((macText bs).splitOn 45).map readHex2 = bs := by
  have hdash : ∀ l ∈ bs.map hex2, (45 : UInt8) ∉ l := by
    intro l hl
    obtain ⟨b, -, rfl⟩ := List.mem_map.mp hl
    exact dash_notMem_hex2 b
  rw [macText_eq, List.splitOn_intercalate 45 hdash (by simpa using h), List.map_map]
  calc bs.map (readHex2 ∘ hex2) = bs.map id := List.map_congr_left fun b _ => readHex2_hex2 b
    _ = bs := List.map_id bs

section
variable {as : List Adapter} (hne : as ≠ []) (hsize : ∀ a ∈ as, a.address.length = 6)
include hne hsize

/-- An address of six bytes is longer than the bound of the separator. -/
theorem macList_eq : macList as = [47].intercalate (as.map fun a => macText a.address) := by
  obtain ⟨a, as, rfl⟩ := List.exists_cons_of_ne_nil hne
  apply foldl_appendField_eq
  right
  rw [length_macText, hsize a List.mem_cons_self]
  decide

theorem strMAC_eq_macList : strMAC as = macList as := by
  obtain ⟨a, as, rfl⟩ := List.exists_cons_of_ne_nil hne
  have hlen : 0 < (macText a.address).length := by
    rw [length_macText, hsize a List.mem_cons_self]
    decide
  obtain ⟨c, hc⟩ := List.exists_mem_of_length_pos hlen
  have hmem : c ∈ macList (a :: as) :=
    mem_foldl_of_mem 47 10
      (.inr ⟨macText a.address, List.mem_cons_self, hc⟩)
  rw [strMAC_eq, if_neg]
  intro h
  rw [List.length_eq_zero_iff.mp h] at hmem
  cases hmem

/-- The adapters' addresses come back. -/
theorem readMacList_strMAC : readMacList (strMAC as) = as.map Adapter.address := by
  have hslash : ∀ l ∈ as.map fun a => macText a.address, (47 : UInt8) ∉ l := by
    intro l hl
    obtain ⟨a, -, rfl⟩ := List.mem_map.mp hl
    exact notMem_macText a.address
  unfold readMacList
  rw [strMAC_eq_macList hne hsize, macList_eq hne hsize,
    List.splitOn_intercalate 47 hslash (by simpa using hne), List.map_map]
  apply List.map_congr_left
  intro a ha
  apply read_macText
  intro hnil
  have hlen := hsize a ha
  rw [hnil] at hlen
  cases hlen

/-- The fallback has bytes that no list of addresses has. -/
theorem strMAC_ne_noMAC : strMAC as ≠ noMAC := by
  intro h
  have hmem : (0xCE : UInt8) ∈ macList as := by
    rw [← strMAC_eq_macList hne hsize, h]
    decide
  rcases mem_foldl_appendField 47 10 hmem with hc | hc | ⟨f, hf, hc⟩
  · cases hc
  · revert hc
    decide
  · obtain ⟨a, -, rfl⟩ := List.mem_map.mp hf
    have hmac := mem_macText hc
    revert hmac
    decide

/-- The MAC list of adapters with addresses of six bytes is these addresses, and no other
    adapters have it. -/
theorem mac_list_of_addresses :
    strMAC as = [47].intercalate (as.map fun a => [45].intercalate (a.address.map hex2)) ∧
      strMAC as ≠ noMAC ∧
      ∀ bs : List Adapter, bs ≠ [] → (∀ b ∈ bs, b.address.length = 6) → strMAC as = strMAC bs →
        as.map Adapter.address = bs.map Adapter.address := by
  refine ⟨?_, strMAC_ne_noMAC hne hsize, ?_⟩
  · rw [strMAC_eq_macList hne hsize, macList_eq hne hsize]
    simp only [macText_eq]
  · intro bs hbs hbsize heq
    calc as.map Adapter.address = readMacList (strMAC as) := (readMacList_strMAC hne hsize).symm
      _ = readMacList (strMAC bs) := by rw [heq]
      _ = bs.map Adapter.address := readMacList_strMAC hbs hbsize

end

theorem two_adapters_mac_list :
    strMAC [someAdapter, secondAdapter] = [47].intercalate ([someAdapter, secondAdapter].map
        fun a => [45].intercalate (a.address.map hex2)) ∧
      strMAC [someAdapter, secondAdapter] ≠ noMAC ∧
      ∀ bs : List Adapter, bs ≠ [] → (∀ b ∈ bs, b.address.length = 6) →
        strMAC [someAdapter, secondAdapter] = strMAC bs →
        [someAdapter, secondAdapter].map Adapter.address = bs.map Adapter.address :=
  mac_list_of_addresses (List.cons_ne_nil _ _) (by decide)

end CardLogon
