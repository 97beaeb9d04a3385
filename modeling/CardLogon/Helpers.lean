import CardLogon.ByteImage

/- `helpers.cpp`: the packed KERB_INTERACTIVE_UNLOCK_LOGON.

   `KerbInteractiveUnlockLogonInit` fills a local structure with weak references to
   the three strings and copies it out when every step succeeded;
   `KerbInteractiveUnlockLogonPack` lays the structure and the strings out in one
   allocated block, with byte offsets in place of the pointers. A wide string
   pointer is the string it points to (or NULL); the block is a list of bytes with
   arbitrary first contents at an arbitrary address; a write outside it has no
   result. Both layouts the project is built for, Win32 and x64, are covered.

   What is proved: `init_pack_correct`. Init succeeds exactly on three strings of at
   most 32767 characters in one of three scenarios and leaves `*pkiul` alone
   otherwise; Pack then never writes outside its block, succeeds exactly when it is
   given one, and what it returns reads back as the three strings, end to end after the
   header. -/
namespace CardLogon
open ByteImage

/-! Results and sizes of the Windows headers. -/

abbrev HRESULT := UInt32

def S_OK : HRESULT := 0
def E_INVALIDARG : HRESULT := 0x80070057
def E_FAIL : HRESULT := 0x80004005
def E_OUTOFMEMORY : HRESULT := 0x8007000E
def STRSAFE_E_INVALID_PARAMETER : HRESULT := 0x80070057
def INTSAFE_E_ARITHMETIC_OVERFLOW : HRESULT := 0x80070216

/-- The sign bit is clear. -/
def succeeded (hr : HRESULT) : Bool := hr < 0x80000000

/-- `USHORT_MAX`. -/
def ushortMax : Nat := 65535

/-- A wide string: its characters before the NUL. -/
abbrev WStr := {s : List UInt16 // (0 : UInt16) ∉ s}

/-- The length, when the string and its NUL fit into `cchMax` characters. -/
def stringCchLengthW (psz : WStr) (cchMax : Nat) : HRESULT × Nat :=
  if psz.val.length < cchMax then (S_OK, psz.val.length) else (STRSAFE_E_INVALID_PARAMETER, 0)

def sizeTToUShort (operand : Nat) : HRESULT × UInt16 :=
  if operand ≤ ushortMax then (S_OK, UInt16.ofNat operand)
  else (INTSAFE_E_ARITHMETIC_OVERFLOW, 0xFFFF)

def uShortMult (multiplicand multiplier : UInt16) : HRESULT × UInt16 :=
  if multiplicand.toNat * multiplier.toNat ≤ ushortMax then
    (S_OK, UInt16.ofNat (multiplicand.toNat * multiplier.toNat))
  else (INTSAFE_E_ARITHMETIC_OVERFLOW, 0xFFFF)

/-! The structures. -/

structure UnicodeString where
  length : UInt16
  maximumLength : UInt16
  buffer : Option WStr

def UnicodeString.zero : UnicodeString := { length := 0, maximumLength := 0, buffer := none }

structure KerbInteractiveLogon where
  messageType : UInt32
  logonDomainName : UnicodeString
  userName : UnicodeString
  password : UnicodeString

structure KerbInteractiveUnlockLogon where
  logon : KerbInteractiveLogon
  logonId : UInt64

/-- The structure after `ZeroMemory`. -/
def KerbInteractiveUnlockLogon.zero : KerbInteractiveUnlockLogon where
  logon :=
    { messageType := 0, logonDomainName := .zero, userName := .zero, password := .zero }
  logonId := 0

/-- CREDENTIAL_PROVIDER_USAGE_SCENARIO. -/
inductive UsageScenario where
  | invalid
  | logon
  | unlockWorkstation
  | changePassword
  | credui
  | plap
  deriving DecidableEq

/-- The values of KERB_LOGON_SUBMIT_TYPE. -/
def kerbInteractiveLogon : UInt32 := 2
def kerbWorkstationUnlockLogon : UInt32 := 7

/-! `KerbInteractiveUnlockLogonInit`. -/

def unicodeStringInitWithString (pwz : Option WStr) (pus : UnicodeString) :
    HRESULT × UnicodeString :=
  match pwz with
  | none => (E_INVALIDARG, pus)
  | some s =>
    let len := stringCchLengthW s ushortMax
    if succeeded len.1 then
      let count := sizeTToUShort len.2
      if succeeded count.1 then
        let size := sizeTToUShort 2
        if succeeded size.1 then
          let prod := uShortMult count.2 size.2
          if succeeded prod.1 then
            (S_OK, { length := prod.2, maximumLength := prod.2, buffer := some s })
          else (INTSAFE_E_ARITHMETIC_OVERFLOW, { pus with length := prod.2 })
        else (size.1, pus)
      else (count.1, pus)
    else (len.1, pus)

/-- The `MessageType` of a scenario, if it has one. -/
def messageTypeOf : UsageScenario → Option UInt32
  | .unlockWorkstation => some kerbWorkstationUnlockLogon
  | .logon => some kerbInteractiveLogon
  | .credui => some 0
  | _ => none

/-- The result and `*pkiul` after the call. -/
def kerbInteractiveUnlockLogonInit (pwzDomain pwzUsername pwzPassword : Option WStr)
    (cpus : UsageScenario) (pkiul : KerbInteractiveUnlockLogon) :
    HRESULT × KerbInteractiveUnlockLogon :=
  let kiul := KerbInteractiveUnlockLogon.zero
  let d := unicodeStringInitWithString pwzDomain kiul.logon.logonDomainName
  if succeeded d.1 then
    let u := unicodeStringInitWithString pwzUsername kiul.logon.userName
    if succeeded u.1 then
      let p := unicodeStringInitWithString pwzPassword kiul.logon.password
      if succeeded p.1 then
        match messageTypeOf cpus with
        | some t =>
          (S_OK,
            { kiul with
              logon :=
                { messageType := t, logonDomainName := d.2, userName := u.2, password := p.2 } })
        | none => (E_FAIL, pkiul)
      else (p.1, pkiul)
    else (u.1, pkiul)
  else (d.1, pkiul)

/-! The layout of the structure. -/

inductive Arch where
  | x86
  | x64

def Arch.ptrSize : Arch → Nat
  | .x86 => 4
  | .x64 => 8

/-- Offset of `Buffer` in a UNICODE_STRING, and its size. -/
def Arch.usBuffer (a : Arch) : Nat := a.ptrSize
def Arch.usSize (a : Arch) : Nat := 2 * a.ptrSize

/-- Offsets in a KERB_INTERACTIVE_UNLOCK_LOGON, and its size. -/
def Arch.logonDomainName (a : Arch) : Nat := a.ptrSize
def Arch.userName (a : Arch) : Nat := a.ptrSize + a.usSize
def Arch.password (a : Arch) : Nat := a.ptrSize + 2 * a.usSize
def Arch.logonId (a : Arch) : Nat := a.ptrSize + 3 * a.usSize
def Arch.sizeofLogon (a : Arch) : Nat := a.logonId + 8

/-! `KerbInteractiveUnlockLogonPack`. -/

/-- The bytes of wide characters. -/
def wideBytes (s : List UInt16) : List UInt8 := s.flatMap fun c => leBytes 2 c.toNat

/-- A block of `n` bytes that `CoTaskMemAlloc` gave. -/
structure Block (n : Nat) where
  base : Nat
  bytes : List UInt8
  length_eq : bytes.length = n

/-- The bytes `CopyMemory` reads at `rus.Buffer`: the string with its NUL. -/
def sourceBytes (rus : UnicodeString) (len : Nat) : Option (List UInt8) :=
  match rus.buffer with
  | some s => peek (wideBytes (s.val ++ [0])) 0 len
  | none => if len = 0 then some [] else none

/-- `_UnicodeStringPackedUnicodeStringCopy` for the UNICODE_STRING at `pus`. -/
def packedUnicodeStringCopy (a : Arch) (base : Nat) (rus : UnicodeString) (pwzBuffer pus : Nat)
    (m : List UInt8) : Option (List UInt8) := do
  let m ← poke m pus (leBytes 2 rus.length.toNat)
  let m ← poke m (pus + 2) (leBytes 2 rus.length.toNat)
  let m ← poke m (pus + a.usBuffer) (leBytes a.ptrSize (base + pwzBuffer))
  let len ← peekVal m pus 2
  let bs ← sourceBytes rus len
  poke m pwzBuffer bs

/-- Copy a string, put its offset in place of the pointer, and advance `pbBuffer`. -/
def packString (a : Arch) (base : Nat) (rus : UnicodeString) (pbBuffer pus : Nat)
    (m : List UInt8) : Option (List UInt8 × Nat) := do
  let m ← packedUnicodeStringCopy a base rus pbBuffer pus m
  let m ← poke m (pus + a.usBuffer) (leBytes a.ptrSize pbBuffer)
  let len ← peekVal m pus 2
  some (m, pbBuffer + len)

/-- What Pack returns: the result, and `*prgb` with `*pcb` when they are set. -/
structure Packed where
  hr : HRESULT
  out : Option (List UInt8 × UInt32)

/-- `cb`: the header and the three lengths, in a DWORD. -/
def packedSize (a : Arch) (rkiulIn : KerbInteractiveUnlockLogon) : UInt32 :=
  UInt32.ofNat (a.sizeofLogon + rkiulIn.logon.logonDomainName.length.toNat +
    rkiulIn.logon.userName.length.toNat + rkiulIn.logon.password.length.toNat)

def kerbInteractiveUnlockLogonPack (a : Arch) (coTaskMemAlloc : (cb : UInt32) → Option (Block cb.toNat))
    (rkiulIn : KerbInteractiveUnlockLogon) : Option Packed :=
  let cb := packedSize a rkiulIn
  match coTaskMemAlloc cb with
  | none => some { hr := E_OUTOFMEMORY, out := none }
  | some block => do
    let m ← poke block.bytes a.logonId (leBytes 8 0)
    let m ← poke m 0 (leBytes 4 rkiulIn.logon.messageType.toNat)
    let (m, pb) ←
      packString a block.base rkiulIn.logon.logonDomainName a.sizeofLogon a.logonDomainName m
    let (m, pb) ← packString a block.base rkiulIn.logon.userName pb a.userName m
    let (m, _) ← packString a block.base rkiulIn.logon.password pb a.password m
    some { hr := S_OK, out := some (m, cb) }

/-! What Init does. -/

/-- The most characters a UNICODE_STRING holds. -/
def maxChars : Nat := 32767

/-- A weak reference to a string. -/
def weakRef (s : WStr) : UnicodeString where
  length := UInt16.ofNat (s.val.length * 2)
  maximumLength := UInt16.ofNat (s.val.length * 2)
  buffer := some s

theorem weakRef_length {s : WStr} (h : s.val.length ≤ maxChars) :
    (weakRef s).length.toNat = 2 * s.val.length := by
  rw [weakRef, UInt16.toNat_ofNat', Nat.mod_eq_of_lt (by unfold maxChars at h; omega), Nat.mul_comm]

/-- A string of at most 32767 characters is referenced; any other pointer fails. -/
theorem unicodeStringInit_spec (pwz : Option WStr) (pus : UnicodeString) :
    (∃ s, pwz = some s ∧ s.val.length ≤ maxChars ∧
      unicodeStringInitWithString pwz pus = (S_OK, weakRef s)) ∨
    ((∀ s, pwz = some s → ¬ s.val.length ≤ maxChars) ∧
      succeeded (unicodeStringInitWithString pwz pus).1 = false) := by
  have hok : succeeded S_OK = true := by decide
  have hparam : succeeded STRSAFE_E_INVALID_PARAMETER = false := by decide
  have hover : succeeded INTSAFE_E_ARITHMETIC_OVERFLOW = false := by decide
  cases pwz with
  | none => exact .inr ⟨fun s h => (nomatch h), show succeeded E_INVALIDARG = false by decide⟩
  | some s =>
    have htwo : sizeTToUShort 2 = (S_OK, 2) := by decide
    by_cases hlen : s.val.length < ushortMax
    · have hcount : sizeTToUShort s.val.length = (S_OK, UInt16.ofNat s.val.length) :=
        if_pos (Nat.le_of_lt hlen)
      have hnat : (UInt16.ofNat s.val.length).toNat = s.val.length := by
        rw [UInt16.toNat_ofNat', Nat.mod_eq_of_lt (by unfold ushortMax at hlen; omega)]
      have htwoNat : (2 : UInt16).toNat = 2 := rfl
      by_cases hfit : s.val.length ≤ maxChars
      · left
        refine ⟨s, rfl, hfit, ?_⟩
        have hmul : s.val.length * 2 ≤ ushortMax := by unfold maxChars at hfit; unfold ushortMax; omega
        simp [unicodeStringInitWithString, stringCchLengthW, hlen, hok, hcount, htwo, uShortMult,
          hnat, htwoNat, hmul, weakRef]
      · right
        refine ⟨fun t ht => by rwa [← Option.some.inj ht], ?_⟩
        have hmul : ¬ s.val.length * 2 ≤ ushortMax := by
          unfold maxChars at hfit; unfold ushortMax; omega
        simp [unicodeStringInitWithString, stringCchLengthW, hlen, hok, hcount, htwo, uShortMult,
          hnat, htwoNat, hmul, hover]
    · right
      refine ⟨?_, ?_⟩
      · intro t ht
        rw [← Option.some.inj ht]
        unfold ushortMax at hlen
        unfold maxChars
        omega
      · simp [unicodeStringInitWithString, stringCchLengthW, hlen, hparam]

/-- The scenarios Init accepts and their message types. -/
def ScenarioType (cpus : UsageScenario) (t : UInt32) : Prop :=
  (cpus = .logon ∧ t = kerbInteractiveLogon) ∨
    (cpus = .unlockWorkstation ∧ t = kerbWorkstationUnlockLogon) ∨ (cpus = .credui ∧ t = 0)

theorem messageTypeOf_eq_some_iff (cpus : UsageScenario) (t : UInt32) :
    messageTypeOf cpus = some t ↔ ScenarioType cpus t := by
  cases cpus <;> simp [messageTypeOf, ScenarioType, eq_comm]

/-- Three strings short enough, in a scenario that has a message type. -/
structure Packable (domain user password : Option WStr) (cpus : UsageScenario) (d u p : WStr)
    (t : UInt32) : Prop where
  domain_eq : domain = some d
  user_eq : user = some u
  password_eq : password = some p
  domain_le : d.val.length ≤ maxChars
  user_le : u.val.length ≤ maxChars
  password_le : p.val.length ≤ maxChars
  type_eq : ScenarioType cpus t

/-- The structure Init fills. -/
def referenced (d u p : WStr) (t : UInt32) : KerbInteractiveUnlockLogon where
  logon :=
    { messageType := t, logonDomainName := weakRef d, userName := weakRef u, password := weakRef p }
  logonId := 0

section
variable (d u p : WStr) (t : UInt32)

@[simp] theorem referenced_type : (referenced d u p t).logon.messageType = t := rfl

@[simp] theorem referenced_domain : (referenced d u p t).logon.logonDomainName = weakRef d := rfl

@[simp] theorem referenced_user : (referenced d u p t).logon.userName = weakRef u := rfl

@[simp] theorem referenced_password : (referenced d u p t).logon.password = weakRef p := rfl

end

/-- Init fills the structure from packable strings; in any other case it fails and
    leaves `*pkiul` as it was. -/
theorem init_spec (domain user password : Option WStr) (cpus : UsageScenario)
    (pkiul : KerbInteractiveUnlockLogon) :
    (∃ d u p t, Packable domain user password cpus d u p t ∧
      kerbInteractiveUnlockLogonInit domain user password cpus pkiul = (S_OK, referenced d u p t)) ∨
    ((∀ d u p t, ¬ Packable domain user password cpus d u p t) ∧
      succeeded (kerbInteractiveUnlockLogonInit domain user password cpus pkiul).1 = false ∧
      (kerbInteractiveUnlockLogonInit domain user password cpus pkiul).2 = pkiul) := by
  have hok : succeeded S_OK = true := by decide
  unfold kerbInteractiveUnlockLogonInit
  obtain ⟨d, hd, hdl, hde⟩ | ⟨hd, hde⟩ :=
    unicodeStringInit_spec domain KerbInteractiveUnlockLogon.zero.logon.logonDomainName
  · obtain ⟨u, hu, hul, hue⟩ | ⟨hu, hue⟩ :=
      unicodeStringInit_spec user KerbInteractiveUnlockLogon.zero.logon.userName
    · obtain ⟨p, hp, hpl, hpe⟩ | ⟨hp, hpe⟩ :=
        unicodeStringInit_spec password KerbInteractiveUnlockLogon.zero.logon.password
      · cases ht : messageTypeOf cpus with
        | some t =>
          left
          refine ⟨d, u, p, t, ⟨hd, hu, hp, hdl, hul, hpl,
            (messageTypeOf_eq_some_iff cpus t).mp ht⟩, ?_⟩
          simp only [hde, hue, hpe, hok, if_true]
          rfl
        | none =>
          right
          refine ⟨?_, ?_, ?_⟩
          · intro d u p t h
            rw [(messageTypeOf_eq_some_iff cpus t).mpr h.type_eq] at ht; cases ht
          · simp only [hde, hue, hpe, hok, if_true]; decide
          · simp only [hde, hue, hpe, hok, if_true]
      · right
        refine ⟨fun d u p t h => hp p h.password_eq h.password_le, ?_, ?_⟩
        · simp [hde, hue, hpe, hok]
        · simp [hde, hue, hpe, hok]
    · right
      refine ⟨fun d u p t h => hu u h.user_eq h.user_le, ?_, ?_⟩
      · simp [hde, hue, hok]
      · simp [hde, hue, hok]
  · right
    refine ⟨fun d u p t h => hd d h.domain_eq h.domain_le, ?_, ?_⟩
    · simp [hde]
    · simp [hde]

/-! What Pack does. -/

theorem length_wideBytes : ∀ s : List UInt16, (wideBytes s).length = 2 * s.length
  | [] => rfl
  | c :: s => by
    have ih := length_wideBytes s
    simp only [wideBytes, List.flatMap_cons, List.length_append, length_leBytes, List.length_cons]
      at ih ⊢
    omega

/-- The wide characters of bytes. -/
def wideChars : List UInt8 → List UInt16
  | b :: c :: bs => UInt16.ofNat (leVal [b, c]) :: wideChars bs
  | _ => []

theorem wideChars_wideBytes : ∀ s : List UInt16, wideChars (wideBytes s) = s
  | [] => rfl
  | c :: s => by
    have hc : c.toNat < 256 ^ 2 := c.toNat_lt
    have hval : leVal [UInt8.ofNat (c.toNat % 256), UInt8.ofNat (c.toNat / 256 % 256)] = c.toNat :=
      leVal_leBytes 2 hc
    have hcons : wideBytes (c :: s) =
        UInt8.ofNat (c.toNat % 256) :: UInt8.ofNat (c.toNat / 256 % 256) :: wideBytes s := rfl
    rw [hcons, wideChars, hval, wideChars_wideBytes s, UInt16.ofNat_toNat]

theorem sourceBytes_weakRef (s : WStr) :
    sourceBytes (weakRef s) (2 * s.val.length) = some (wideBytes s.val) := by
  have hsplit : wideBytes (s.val ++ [0]) = wideBytes s.val ++ [0, 0] := by
    simp only [wideBytes, List.flatMap_append]
    rfl
  have hlen := length_wideBytes s.val
  simp only [sourceBytes, weakRef, hsplit, peek, List.drop_zero]
  rw [if_pos (by simp [hlen]), List.take_append_of_le_length (by omega), ← hlen, List.take_length]

/-- The packed string `s`: the UNICODE_STRING at `pus` holds its length twice and its
    offset `pb`, where its bytes are. -/
structure StringAt (a : Arch) (m : List UInt8) (pus pb : Nat) (s : WStr) : Prop where
  length_eq : peekVal m pus 2 = some (2 * s.val.length)
  maximum_eq : peekVal m (pus + 2) 2 = some (2 * s.val.length)
  offset_eq : peekVal m (pus + a.usBuffer) a.ptrSize = some pb
  bytes_eq : peek m pb (2 * s.val.length) = some (wideBytes s.val)

theorem Arch.ptrSize_cases (a : Arch) : a.ptrSize = 4 ∨ a.ptrSize = 8 := by
  cases a
  · exact .inl rfl
  · exact .inr rfl

/-- The structure's parts, one after the other. -/
theorem Arch.offsets (a : Arch) : 4 ≤ a.logonDomainName ∧
    a.logonDomainName + a.usSize = a.userName ∧ a.userName + a.usSize = a.password ∧
    a.password + a.usSize = a.logonId ∧ a.logonId + 8 = a.sizeofLogon ∧ a.sizeofLogon ≤ 64 := by
  cases a <;> decide

/-- Writes elsewhere leave a packed string. -/
theorem StringAt.frame {a : Arch} {m m' : List UInt8} {pus pb : Nat} {s : WStr}
    {rs : List (Nat × Nat)} (h : StringAt a m pus pb s) (hf : Frame rs m m')
    (hpus : ∀ r ∈ rs, pus + a.usSize ≤ r.1 ∨ r.1 + r.2 ≤ pus)
    (hpb : ∀ r ∈ rs, pb + 2 * s.val.length ≤ r.1 ∨ r.1 + r.2 ≤ pb) : StringAt a m' pus pb s := by
  have ha := a.ptrSize_cases
  simp only [Arch.usSize] at hpus
  refine ⟨?_, ?_, ?_, ?_⟩
  · rw [hf.peekVal_eq fun r hr => by have := hpus r hr; omega]
    exact h.length_eq
  · rw [hf.peekVal_eq fun r hr => by have := hpus r hr; omega]
    exact h.maximum_eq
  · rw [hf.peekVal_eq fun r hr => by have := hpus r hr; simp only [Arch.usBuffer]; omega]
    exact h.offset_eq
  · rw [hf.peek_eq _ _ hpb]
    exact h.bytes_eq

/-- Packing one string: it stands where `pbBuffer` pointed, `pbBuffer` is at its end,
    and nothing else has changed. -/
theorem packString_spec (a : Arch) (base : Nat) {s : WStr} (hs : s.val.length ≤ maxChars)
    {pb pus : Nat} {m : List UInt8} (hpus : pus + a.usSize ≤ pb)
    (hend : pb + 2 * s.val.length ≤ m.length) (hpb : pb < 256 ^ 4) :
    ∃ m', packString a base (weakRef s) pb pus m = some (m', pb + 2 * s.val.length) ∧
      Frame [(pus, a.usSize), (pb, 2 * s.val.length)] m m' ∧ StringAt a m' pus pb s := by
  have hP := a.ptrSize_cases
  have hlen := weakRef_length hs
  have hwide := length_wideBytes s.val
  have hlt : 2 * s.val.length < 256 ^ 2 := by unfold maxChars at hs; omega
  have hpbP : pb < 256 ^ a.ptrSize := by
    rcases hP with h | h
    · rwa [h]
    · rw [h]; omega
  simp only [Arch.usSize] at hpus
  -- the three fields, with the pointer still absolute
  obtain ⟨m₁, h₁, f₁, v₁⟩ := @poke_val_spec m pus 2 _ (by omega) hlt
  obtain ⟨m₂, h₂, f₂, v₂⟩ := @poke_val_spec m₁ (pus + 2) 2 _ (by rw [f₁.length_eq]; omega) hlt
  obtain ⟨m₃, h₃, f₃, -⟩ := @poke_spec m₂ (leBytes a.ptrSize (base + pb)) (pus + a.usBuffer) (by
    rw [f₂.length_eq, f₁.length_eq, length_leBytes, Arch.usBuffer]; omega)
  rw [length_leBytes, Arch.usBuffer] at f₃
  have hv₃ : peekVal m₃ pus 2 = some (2 * s.val.length) := by
    rw [f₃.peekVal_eq (by simp; omega), f₂.peekVal_eq (by simp), v₁]
  -- the bytes of the string, then the offset over the pointer
  obtain ⟨m₄, h₄, f₄, v₄⟩ := @poke_spec m₃ (wideBytes s.val) pb (by
    rw [f₃.length_eq, f₂.length_eq, f₁.length_eq, hwide]; omega)
  rw [hwide] at f₄ v₄
  obtain ⟨m₅, h₅, f₅, v₅⟩ := @poke_val_spec m₄ (pus + a.usBuffer) a.ptrSize _
    (by rw [f₄.length_eq, f₃.length_eq, f₂.length_eq, f₁.length_eq, Arch.usBuffer]; omega) hpbP
  rw [Arch.usBuffer] at f₅
  have hv₅ : peekVal m₅ pus 2 = some (2 * s.val.length) := by
    rw [f₅.peekVal_eq (by simp; omega), f₄.peekVal_eq (by simp; omega), hv₃]
  refine ⟨m₅, ?_, ?_, ?_⟩
  · simp only [packString, packedUnicodeStringCopy, hlen, h₁, h₂, h₃, hv₃, sourceBytes_weakRef, h₄,
      h₅, hv₅, Option.bind_eq_bind, Option.bind_some]
  · refine ((((f₁.trans f₂).trans f₃).trans f₄).trans f₅).mono ?_
    simp [Arch.usSize]
    omega
  · refine ⟨hv₅, ?_, v₅, ?_⟩
    · rw [f₅.peekVal_eq (by simp; omega), f₄.peekVal_eq (by simp; omega),
        f₃.peekVal_eq (by simp; omega), v₂]
    · rw [f₅.peek_eq _ _ (by simp; omega), v₄]

/-! Reading the packed structure. -/

/-- The stored byte offset and length of the string at `pus`. -/
def stringRange (a : Arch) (m : List UInt8) (pus : Nat) : Option (Nat × Nat) := do
  let off ← peekVal m (pus + a.usBuffer) a.ptrSize
  let len ← peekVal m pus 2
  some (off, len)

/-- The string at `pus`, read through its offset and length. -/
def readString (a : Arch) (m : List UInt8) (pus : Nat) : Option (List UInt16) := do
  let r ← stringRange a m pus
  let bs ← peek m r.1 r.2
  some (wideChars bs)

theorem StringAt.range {a : Arch} {m : List UInt8} {pus pb : Nat} {s : WStr}
    (h : StringAt a m pus pb s) : stringRange a m pus = some (pb, 2 * s.val.length) := by
  simp [stringRange, h.offset_eq, h.length_eq]

theorem StringAt.read {a : Arch} {m : List UInt8} {pus pb : Nat} {s : WStr}
    (h : StringAt a m pus pb s) : readString a m pus = some s.val := by
  simp [readString, h.range, h.bytes_eq, wideChars_wideBytes]

/-- The packed structure: `cb` bytes, the strings end to end from the header to the
    end of the block, each read back unchanged. -/
structure PackedAs (a : Arch) (b : List UInt8) (cb t : UInt32) (d u p : WStr) : Prop where
  size_eq : b.length = cb.toNat
  domain_range : stringRange a b a.logonDomainName = some (a.sizeofLogon, 2 * d.val.length)
  user_range : stringRange a b a.userName =
    some (a.sizeofLogon + 2 * d.val.length, 2 * u.val.length)
  password_range : stringRange a b a.password =
    some (a.sizeofLogon + 2 * d.val.length + 2 * u.val.length, 2 * p.val.length)
  ends_at : a.sizeofLogon + 2 * d.val.length + 2 * u.val.length + 2 * p.val.length = cb.toNat
  domain_eq : readString a b a.logonDomainName = some d.val
  user_eq : readString a b a.userName = some u.val
  password_eq : readString a b a.password = some p.val
  messageType_eq : peekVal b 0 4 = some t.toNat
  logonId_eq : peekVal b a.logonId 8 = some 0

theorem packedSize_referenced (a : Arch) {d u p : WStr} (hd : d.val.length ≤ maxChars)
    (hu : u.val.length ≤ maxChars) (hp : p.val.length ≤ maxChars) (t : UInt32) :
    (packedSize a (referenced d u p t)).toNat =
      a.sizeofLogon + 2 * d.val.length + 2 * u.val.length + 2 * p.val.length := by
  have hP := a.ptrSize_cases
  simp only [packedSize, referenced, weakRef_length hd, weakRef_length hu, weakRef_length hp,
    UInt32.toNat_ofNat']
  unfold maxChars at hd hu hp
  apply Nat.mod_eq_of_lt
  simp only [Arch.sizeofLogon, Arch.logonId, Arch.usSize]
  omega

/-- Pack never writes outside its block; it succeeds exactly when there is memory, and
    then what it returns reads back as what was packed. -/
theorem pack_spec (a : Arch) (coTaskMemAlloc : (cb : UInt32) → Option (Block cb.toNat))
    {d u p : WStr} (hd : d.val.length ≤ maxChars) (hu : u.val.length ≤ maxChars)
    (hp : p.val.length ≤ maxChars) (t : UInt32) :
    ∃ r, kerbInteractiveUnlockLogonPack a coTaskMemAlloc (referenced d u p t) = some r ∧
      (r.hr = S_OK ↔ (coTaskMemAlloc (packedSize a (referenced d u p t))).isSome) ∧
      (r.hr = S_OK → ∃ b cb, r.out = some (b, cb) ∧ PackedAs a b cb t d u p) := by
  have hcb := packedSize_referenced a hd hu hp t
  unfold kerbInteractiveUnlockLogonPack
  cases ha : coTaskMemAlloc (packedSize a (referenced d u p t)) with
  | none =>
    refine ⟨⟨E_OUTOFMEMORY, none⟩, ?_, ?_, fun h => absurd h (by decide)⟩
    · simp only [ha]
    · simp only [Option.isSome_none, Bool.false_eq_true, iff_false]
      decide
  | some block =>
    have hblock := block.length_eq.trans hcb
    obtain ⟨o₁, o₂, o₃, o₄, o₅, o₆⟩ := a.offsets
    have hd' := hd
    have hu' := hu
    unfold maxChars at hd' hu'
    -- the header
    obtain ⟨m₁, h₁, f₁, v₁⟩ := @poke_val_spec block.bytes a.logonId 8 0 (by omega) (by decide)
    obtain ⟨m₂, h₂, f₂, v₂⟩ := @poke_val_spec m₁ 0 4 t.toNat (by rw [f₁.length_eq]; omega) t.toNat_lt
    have hlen₂ : m₂.length = block.bytes.length := f₂.length_eq.trans f₁.length_eq
    -- the three strings, each after the one before it
    obtain ⟨m₃, h₃, f₃, s₃⟩ := @packString_spec a block.base d hd a.sizeofLogon a.logonDomainName m₂
      (by omega) (by omega) (by omega)
    obtain ⟨m₄, h₄, f₄, s₄⟩ := @packString_spec a block.base u hu
      (a.sizeofLogon + 2 * d.val.length) a.userName m₃ (by omega)
      (by rw [f₃.length_eq]; omega) (by omega)
    obtain ⟨m₅, h₅, f₅, s₅⟩ := @packString_spec a block.base p hp
      (a.sizeofLogon + 2 * d.val.length + 2 * u.val.length) a.password m₄ (by omega)
      (by rw [f₄.length_eq, f₃.length_eq]; omega) (by omega)
    have hall := (f₃.trans f₄).trans f₅
    have hdom : StringAt a m₅ a.logonDomainName a.sizeofLogon d :=
      s₃.frame (f₄.trans f₅) (by simp; omega) (by simp; omega)
    have huser : StringAt a m₅ a.userName (a.sizeofLogon + 2 * d.val.length) u :=
      s₄.frame f₅ (by simp; omega) (by simp; omega)
    refine ⟨{ hr := S_OK, out := some (m₅, packedSize a (referenced d u p t)) }, ?_, by simp,
      fun _ => ⟨m₅, _, rfl, ?_⟩⟩
    · simp only [ha, referenced_type, referenced_domain, referenced_user, referenced_password, h₁,
        h₂, h₃, h₄, h₅, Option.bind_eq_bind, Option.bind_some]
    · exact
        { size_eq := by
            rw [hall.length_eq, hlen₂, block.length_eq]
          domain_range := hdom.range
          user_range := huser.range
          password_range := s₅.range
          ends_at := hcb.symm
          domain_eq := hdom.read
          user_eq := huser.read
          password_eq := s₅.read
          messageType_eq := by rw [hall.peekVal_eq (by simp; omega), v₂]
          logonId_eq := by rw [hall.peekVal_eq (by simp; omega), f₂.peekVal_eq (by simp; omega), v₁] }

/-- Init succeeds exactly on packable strings and leaves `*pkiul` alone otherwise;
    what it fills in, Pack packs without leaving its block, with success exactly when it
    is given one, and a buffer Pack returns reads back as the three strings. -/
theorem init_pack_correct (a : Arch) (domain user password : Option WStr) (cpus : UsageScenario)
    (pkiul : KerbInteractiveUnlockLogon)
    (coTaskMemAlloc : (cb : UInt32) → Option (Block cb.toNat)) :
    let init := kerbInteractiveUnlockLogonInit domain user password cpus pkiul
    (succeeded init.1 = true ↔ ∃ d u p t, Packable domain user password cpus d u p t) ∧
    (succeeded init.1 = false → init.2 = pkiul) ∧
    (succeeded init.1 = true → ∃ d u p t, Packable domain user password cpus d u p t ∧
      ∃ r, kerbInteractiveUnlockLogonPack a coTaskMemAlloc init.2 = some r ∧
        (r.hr = S_OK ↔ (coTaskMemAlloc (packedSize a init.2)).isSome) ∧
        (r.hr = S_OK → ∃ b cb, r.out = some (b, cb) ∧ PackedAs a b cb t d u p)) := by
  intro init
  have hok : succeeded S_OK = true := by decide
  obtain ⟨d, u, p, t, hpack, hinit⟩ | ⟨hnone, hfail, hsame⟩ :=
    init_spec domain user password cpus pkiul
  · have h₁ : init.1 = S_OK := congrArg Prod.fst hinit
    have h₂ : init.2 = referenced d u p t := congrArg Prod.snd hinit
    rw [h₁, h₂, hok]
    refine ⟨⟨fun _ => ⟨d, u, p, t, hpack⟩, fun _ => rfl⟩, fun h => (nomatch h), fun _ => ?_⟩
    exact ⟨d, u, p, t, hpack,
      pack_spec a coTaskMemAlloc hpack.domain_le hpack.user_le hpack.password_le t⟩
  · have hf : succeeded init.1 = false := hfail
    rw [hf]
    refine ⟨⟨fun h => (nomatch h), fun ⟨d, u, p, t, h⟩ => absurd h (hnone d u p t)⟩, fun _ => hsame,
      fun h => (nomatch h)⟩

end CardLogon
