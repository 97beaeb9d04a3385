import CardLogon.Credential
import CardLogon.CText

/- `CSampleCredential::GetSerialization` and what it calls in `helpers.cpp`.

   Every call that leaves the DLL is a field of `SerializationCalls`: what it answers,
   if it is made. A structure on the stack that nothing has filled in holds
   arbitrary contents (`kiul`). `filled` and `packed` note what a successful
   `KerbInteractiveUnlockLogonInit` and the pack step of this call left.

   What is proved: `serialization_sound_iff`. Success always comes with
   CPGSR_RETURN_CREDENTIAL_FINISHED and the packing of a structure Init has filled,
   and failure without a buffer, exactly when none of three things happens:
   `GetComputerNameW` fails with last error 0, the domain query succeeds with a NULL
   name (and memory for the packing is there), or only the last step, the
   authentication package, fails. -/
namespace CardLogon
open CText ByteImage

/-- CREDENTIAL_PROVIDER_GET_SERIALIZATION_RESPONSE. -/
inductive SerializationResponse where
  | noCredentialNotFinished
  | noCredentialFinished
  | returnCredentialFinished
  | returnNoCredentialFinished
  deriving DecidableEq

/-- The class identifiers the DLL knows, and the rest. -/
inductive Clsid where
  | sampleProvider
  | other (guid : Nat)
  deriving DecidableEq

/-- CREDENTIAL_PROVIDER_CREDENTIAL_SERIALIZATION; a buffer pointer is the buffer. -/
structure CredentialSerialization where
  ulAuthenticationPackage : UInt32
  clsidCredentialProvider : Clsid
  cbSerialization : UInt32
  rgbSerialization : Option (List UInt8)

/-! Results of other systems as HRESULTs. -/

def hresultFromNt (status : UInt32) : HRESULT := status ||| 0x10000000

def ERROR_INSUFFICIENT_BUFFER : UInt32 := 122

theorem succeeded_hresultFromWin32 (x : UInt32) :
    succeeded (hresultFromWin32 x) = true ↔ x = 0 := by
  unfold hresultFromWin32
  split
  · next h =>
    unfold succeeded
    constructor
    · intro hs
      rw [decide_eq_true_eq] at hs
      obtain h | h := h
      · exact h
      · exact absurd hs (UInt32.not_lt.mpr h)
    · intro hx
      rw [hx]
      rfl
  · next h =>
    have hor : (0x80000000 : UInt32) ≤ (x &&& 0xFFFF) ||| 0x80070000 := by
      rw [UInt32.le_iff_toNat_le, UInt32.toNat_or]
      exact Nat.le_trans (by decide) Nat.right_le_or
    constructor
    · intro hs
      have hlt : (x &&& 0xFFFF) ||| 0x80070000 < 0x80000000 := by simpa [succeeded] using hs
      exact absurd hlt (UInt32.not_lt.mpr hor)
    · intro hx
      exact absurd (.inl hx) h

/-! `ProtectIfNecessaryAndCopyPassword`. -/

/-- What the calls that protect a password answer for a string: whether
    `CredIsProtectedW` finds it protected, the plain copy, `GetLastError` and
    `cchProtected` after the first `CredProtectW` (`none` if that succeeds), the
    allocation, the second one. -/
structure ProtectCalls where
  alreadyProtected : WStr → Bool
  dup : StrDup
  first : WStr → Option (UInt32 × Nat)
  allocates : Bool
  second : WStr → Except UInt32 WStr

def protectAndCopyString (pwzToProtect : WStr) (o : ProtectCalls) : HRESULT × Option WStr :=
  match o.first pwzToProtect with
  | none => (E_FAIL, none)
  | some (dwErr, cchProtected) =>
    if dwErr = ERROR_INSUFFICIENT_BUFFER ∧ 0 < cchProtected then
      if o.allocates then
        match o.second pwzToProtect with
        | .ok s => (S_OK, some s)
        | .error e => (hresultFromWin32 e, none)
      else (E_OUTOFMEMORY, none)
    else (hresultFromWin32 dwErr, none)

def protectIfNecessaryAndCopyPassword (pwzPassword : Option WStr) (cpus : UsageScenario)
    (o : ProtectCalls) : HRESULT × Option WStr :=
  match pwzPassword with
  | some s =>
    if s.val = [] then shStrDupW (some (wlit "")) o.dup
    else if cpus = .credui ∨ o.alreadyProtected s = true then shStrDupW (some s) o.dup
    else protectAndCopyString s o
  | none => shStrDupW (some (wlit "")) o.dup

/-! `RetrieveNegotiateAuthPackage`. -/

/-- From the status of `LsaConnectUntrusted` and the status and package of
    `LsaLookupAuthenticationPackage`: the result and `*pulAuthPackage`. -/
def retrieveNegotiateAuthPackage (lsaConnect : UInt32) (lsaLookup : UInt32 × UInt32)
    (pulAuthPackage : UInt32) : HRESULT × UInt32 :=
  if succeeded (hresultFromNt lsaConnect) then
    if succeeded (hresultFromNt lsaLookup.1) then (S_OK, lsaLookup.2)
    else (hresultFromNt lsaLookup.1, pulAuthPackage)
  else (hresultFromNt lsaConnect, pulAuthPackage)

/-! `GetSerialization`. -/

structure SerializationCalls where
  arch : Arch
  strUser : Bytes
  dupUser : StrDup
  dupUserValue : StrDup
  dupPassword : StrDup
  computerName : Except UInt32 WStr
  protect : ProtectCalls
  /-- `none` when the query fails, else `DomainNameFlat` -/
  domain : Option (Option WStr)
  kiul : KerbInteractiveUnlockLogon
  coTaskMemAlloc : (cb : UInt32) → Option (Block cb.toNat)
  lsaConnect : UInt32
  lsaLookup : UInt32 × UInt32
  ulAuthPackage : UInt32

/-- What a call leaves: the result, the credential, `*pcpgsr` and `*pcpcs`. -/
structure Serialized where
  hr : HRESULT
  credential : CSampleCredential
  pcpgsr : SerializationResponse
  pcpcs : CredentialSerialization
  filled : Option KerbInteractiveUnlockLogon
  packed : Option (List UInt8 × UInt32)

/-- A `char` as a `wchar_t`: the sign is extended. -/
def widen (b : UInt8) : UInt16 := if b < 0x80 then b.toUInt16 else b.toUInt16 ||| 0xFF00

theorem widen_ne_zero (b : UInt8) (h : b ≠ 0) : widen b ≠ 0 := by
  have hall : ∀ n < 256, UInt8.ofNat n ≠ 0 → widen (UInt8.ofNat n) ≠ 0 := by
    decide +kernel
  have hb := hall b.toNat b.toNat_lt
  rw [UInt8.ofNat_toNat] at hb
  exact hb h

/-- `std::wstring(strUser.begin(), strUser.end()).c_str()`. -/
def wtUser (strUser : Bytes) : WStr :=
  ⟨(cstr strUser).map widen, by
    intro h
    obtain ⟨b, hb, h0⟩ := List.mem_map.mp h
    exact widen_ne_zero b (fun hz => cstr_no_nul strUser (hz ▸ hb)) h0⟩

/-- `SetStringValue`. -/
def CSampleCredential.setStringValue (c : CSampleCredential) (dwFieldID : Nat) (pwz : WStr)
    (o : StrDup) : HRESULT × CSampleCredential :=
  if h : dwFieldID < 4 then
    let i : Fin 4 := ⟨dwFieldID, h⟩
    if (c.fields.descriptors i).cpft = .editText ∨
        (c.fields.descriptors i).cpft = .passwordText then
      let d := shStrDupW (some pwz) o
      (d.1, { c with
        fields := { c.fields with strings := Function.update c.fields.strings i d.2 } })
    else (E_INVALIDARG, c)
  else (E_INVALIDARG, c)

/-- The user name and the password are put into the fields; the results are not looked
    at. -/
def CSampleCredential.fillStrings (c : CSampleCredential) (o : SerializationCalls) :
    CSampleCredential :=
  let user := (shStrDupW (some (wtUser o.strUser)) o.dupUser).2
  let c := { c with
    fields := { c.fields with strings := Function.update c.fields.strings SFI_USERNAME user } }
  let c := (c.setStringValue SFI_USERNAME (wtUser o.strUser) o.dupUserValue).2
  (c.setStringValue SFI_PASSWORD (wlit "12345678-a") o.dupPassword).2

/-- `hr` and `kiul` after the domain query and Init; `filled` when Init has succeeded. -/
structure Initialised where
  hr : HRESULT
  kiul : KerbInteractiveUnlockLogon
  filled : Option KerbInteractiveUnlockLogon

/-- Init with one of the two domain names. -/
def initWith (domain user password : Option WStr) (cpus : UsageScenario)
    (kiul : KerbInteractiveUnlockLogon) : Initialised :=
  let r := kerbInteractiveUnlockLogonInit domain user password cpus kiul
  ⟨r.1, r.2, if succeeded r.1 then some r.2 else none⟩

/-- With the computer's name when the domain query fails, else with the domain's,
    else not at all. -/
def initStructure (hr : HRESULT) (wsz : WStr) (user password : Option WStr) (cpus : UsageScenario)
    (o : SerializationCalls) : Initialised :=
  match o.domain with
  | none => initWith (some wsz) user password cpus o.kiul
  | some (some flat) => initWith (some flat) user password cpus o.kiul
  | some none => ⟨hr, o.kiul, none⟩

/-- From the pack step on. -/
def finishSerialization (c : CSampleCredential) (o : SerializationCalls) (i : Initialised)
    (pk : Packed) (pcpgsr : SerializationResponse) (pcpcs : CredentialSerialization) :
    Serialized :=
  let pcpcs :=
    match pk.out with
    | some (rgb, cb) => { pcpcs with rgbSerialization := some rgb, cbSerialization := cb }
    | none => pcpcs
  if succeeded pk.hr then
    let auth := retrieveNegotiateAuthPackage o.lsaConnect o.lsaLookup o.ulAuthPackage
    if succeeded auth.1 then
      ⟨auth.1, c, .returnCredentialFinished,
        { pcpcs with
          ulAuthenticationPackage := auth.2
          clsidCredentialProvider := .sampleProvider }, i.filled, pk.out⟩
    else ⟨auth.1, c, pcpgsr, pcpcs, i.filled, pk.out⟩
  else ⟨pk.hr, c, pcpgsr, pcpcs, i.filled, pk.out⟩

/-- Nothing is defined for a credential whose `_cpus` was never set, nor when the pack
    step leaves its block. -/
def getSerialization (c : CSampleCredential) (o : SerializationCalls)
    (pcpgsr : SerializationResponse) (pcpcs : CredentialSerialization) : Option Serialized :=
  match c.cpus with
  | none => none
  | some cpus =>
    let c := c.fillStrings o
    match o.computerName with
    | .error dwErr => some ⟨hresultFromWin32 dwErr, c, pcpgsr, pcpcs, none, none⟩
    | .ok wsz =>
      let pw := protectIfNecessaryAndCopyPassword (c.fields.strings SFI_PASSWORD) cpus o.protect
      if succeeded pw.1 then
        let i := initStructure pw.1 wsz (c.fields.strings SFI_USERNAME) pw.2 cpus o
        if succeeded i.hr then
          (kerbInteractiveUnlockLogonPack o.arch o.coTaskMemAlloc i.kiul).map fun pk =>
            finishSerialization c o i pk pcpgsr pcpcs
        else some ⟨i.hr, c, pcpgsr, pcpcs, i.filled, none⟩
      else some ⟨pw.1, c, pcpgsr, pcpcs, none, none⟩

/-! Sound outcomes. -/

/-- Success: finished, and the buffer is the packing of a structure that Init has
    filled. Failure: no new buffer, and not set to finished. -/
structure Serialized.Sound (r : Serialized) (o : SerializationCalls)
    (pcpgsr : SerializationResponse) (pcpcs : CredentialSerialization) : Prop where
  success : succeeded r.hr = true → r.pcpgsr = .returnCredentialFinished ∧
    ∃ kiul rgb cb, r.filled = some kiul ∧
      kerbInteractiveUnlockLogonPack o.arch o.coTaskMemAlloc kiul =
        some ⟨S_OK, some (rgb, cb)⟩ ∧
      r.pcpcs.rgbSerialization = some rgb ∧ r.pcpcs.cbSerialization = cb
  failure : succeeded r.hr = false → r.packed = none ∧ r.pcpcs = pcpcs ∧ r.pcpgsr = pcpgsr

/-- The call is defined and its outcome is sound. -/
def SerializationSound (c : CSampleCredential) (o : SerializationCalls)
    (pcpgsr : SerializationResponse) (pcpcs : CredentialSerialization) : Prop :=
  ∃ r, getSerialization c o pcpgsr pcpcs = some r ∧ r.Sound o pcpgsr pcpcs

/-- The authentication package is found. -/
def SerializationCalls.authenticates (o : SerializationCalls) : Bool :=
  succeeded (hresultFromNt o.lsaConnect) && succeeded (hresultFromNt o.lsaLookup.1)

/-- From an Init with this domain name on: if Init accepts the strings and there is
    memory for the packing, the authentication package is found. -/
def AuthenticatesAfter (domain user password : Option WStr) (cpus : UsageScenario)
    (o : SerializationCalls) : Prop :=
  let r := kerbInteractiveUnlockLogonInit domain user password cpus o.kiul
  succeeded r.1 = true → (o.coTaskMemAlloc (packedSize o.arch r.2)).isSome →
    o.authenticates = true

/-- The outcomes that do not reach a gap: no computer name means an error code; with a
    NULL domain name there is no memory; after a packing the package is found. -/
def SerializationOk (c : CSampleCredential) (o : SerializationCalls) : Prop :=
  ∃ cpus, c.cpus = some cpus ∧
    match o.computerName with
    | .error dwErr => dwErr ≠ 0
    | .ok wsz =>
      let strings := (c.fillStrings o).fields.strings
      let pw := protectIfNecessaryAndCopyPassword (strings SFI_PASSWORD) cpus o.protect
      succeeded pw.1 = true →
        match o.domain with
        | none => AuthenticatesAfter (some wsz) (strings SFI_USERNAME) pw.2 cpus o
        | some (some flat) => AuthenticatesAfter (some flat) (strings SFI_USERNAME) pw.2 cpus o
        | some none => o.coTaskMemAlloc (packedSize o.arch o.kiul) = none

/-- What the pack step returns: an error without a buffer, or success with one. -/
theorem pack_cases {a : Arch} {alloc : (cb : UInt32) → Option (Block cb.toNat)}
    {kiul : KerbInteractiveUnlockLogon} {pk : Packed}
    (h : kerbInteractiveUnlockLogonPack a alloc kiul = some pk) :
    (alloc (packedSize a kiul) = none ∧ pk = ⟨E_OUTOFMEMORY, none⟩) ∨
    ((alloc (packedSize a kiul)).isSome ∧ ∃ rgb, pk = ⟨S_OK, some (rgb, packedSize a kiul)⟩) := by
  unfold kerbInteractiveUnlockLogonPack at h
  cases ha : alloc (packedSize a kiul) with
  | none =>
    simp only [ha] at h
    exact .inl ⟨rfl, (Option.some.inj h).symm⟩
  | some block =>
    simp only [ha] at h
    obtain ⟨m₁, -, h⟩ := Option.bind_eq_some_iff.mp h
    obtain ⟨m₂, -, h⟩ := Option.bind_eq_some_iff.mp h
    obtain ⟨⟨m₃, p₃⟩, -, h⟩ := Option.bind_eq_some_iff.mp h
    obtain ⟨⟨m₄, p₄⟩, -, h⟩ := Option.bind_eq_some_iff.mp h
    obtain ⟨⟨m₅, p₅⟩, -, h⟩ := Option.bind_eq_some_iff.mp h
    exact .inr ⟨rfl, m₅, (Option.some.inj h).symm⟩

theorem retrieve_cases (o : SerializationCalls) :
    (o.authenticates = true ∧ (retrieveNegotiateAuthPackage o.lsaConnect o.lsaLookup
      o.ulAuthPackage).1 = S_OK) ∨
    (o.authenticates = false ∧ succeeded (retrieveNegotiateAuthPackage o.lsaConnect o.lsaLookup
      o.ulAuthPackage).1 = false) := by
  unfold SerializationCalls.authenticates retrieveNegotiateAuthPackage
  cases h₁ : succeeded (hresultFromNt o.lsaConnect) with
  | false => exact .inr ⟨rfl, h₁⟩
  | true =>
    cases h₂ : succeeded (hresultFromNt o.lsaLookup.1) with
    | false => exact .inr ⟨rfl, h₂⟩
    | true => exact .inl ⟨rfl, rfl⟩

section
variable (c : CSampleCredential) (o : SerializationCalls) (i : Initialised)
  (pcpgsr : SerializationResponse) (pcpcs : CredentialSerialization)

/-- Without memory for the packing the failure is clean. -/
theorem finish_noMemory :
    (finishSerialization c o i ⟨E_OUTOFMEMORY, none⟩ pcpgsr pcpcs).Sound o pcpgsr pcpcs where
  success h := (nomatch h)
  failure _ := ⟨rfl, rfl, rfl⟩

/-- With a packed buffer the outcome is sound exactly when the buffer comes from Init
    and the authentication package is found. -/
theorem finish_packed_iff {rgb : List UInt8} {cb : UInt32}
    (hp : kerbInteractiveUnlockLogonPack o.arch o.coTaskMemAlloc i.kiul =
      some ⟨S_OK, some (rgb, cb)⟩) (hi : i.filled = none ∨ i.filled = some i.kiul) :
    (finishSerialization c o i ⟨S_OK, some (rgb, cb)⟩ pcpgsr pcpcs).Sound o pcpgsr pcpcs ↔
      i.filled = some i.kiul ∧ o.authenticates = true := by
  unfold finishSerialization
  rw [if_pos (show succeeded S_OK = true from rfl)]
  obtain ⟨ha, hr⟩ | ⟨ha, hr⟩ := retrieve_cases o
  · simp only [hr, show succeeded S_OK = true from rfl, if_true]
    constructor
    · intro h
      obtain ⟨-, kiul, -, -, hfill, -⟩ := h.success rfl
      obtain hi | hi := hi
      · rw [hi] at hfill
        cases hfill
      · exact ⟨hi, ha⟩
    · intro h
      exact
        { success := fun _ => ⟨rfl, i.kiul, rgb, cb, h.1, hp, rfl, rfl⟩
          failure := fun h => (nomatch h) }
  · simp only [hr, Bool.false_eq_true, if_false]
    constructor
    · intro h
      obtain ⟨hpk, -⟩ := h.failure hr
      cases hpk
    · intro h
      rw [ha] at h
      cases h.2

end

section
variable {c : CSampleCredential} {o : SerializationCalls} {pcpgsr : SerializationResponse}
  {pcpcs : CredentialSerialization}

/-- A call that ends before the pack step. -/
theorem early_sound_iff (hr : HRESULT) (i : Option KerbInteractiveUnlockLogon)
    (hi : i = none ∨ succeeded hr = false) :
    (Serialized.mk hr c pcpgsr pcpcs i none).Sound o pcpgsr pcpcs ↔ succeeded hr = false := by
  constructor
  · intro h
    cases hs : succeeded hr with
    | false => rfl
    | true =>
      obtain ⟨-, _, _, _, hfill, -⟩ := h.success hs
      obtain hi | hi := hi
      · exact absurd hfill (by rw [hi]; simp)
      · rw [hs] at hi
        cases hi
  · intro hs
    exact
      { success := fun h => absurd (h.symm.trans hs) (by simp)
        failure := fun _ => ⟨rfl, rfl, rfl⟩ }

/-- From the structure on: pack it and finish, if it has not failed already. -/
def packAndFinish (c : CSampleCredential) (o : SerializationCalls) (i : Initialised)
    (pcpgsr : SerializationResponse) (pcpcs : CredentialSerialization) : Option Serialized :=
  if succeeded i.hr then
    (kerbInteractiveUnlockLogonPack o.arch o.coTaskMemAlloc i.kiul).map fun pk =>
      finishSerialization c o i pk pcpgsr pcpcs
  else some ⟨i.hr, c, pcpgsr, pcpcs, i.filled, none⟩

/-- A structure that Init was called for. -/
theorem initWith_sound_iff (domain user password : Option WStr) (cpus : UsageScenario) :
    (∃ r, packAndFinish c o (initWith domain user password cpus o.kiul) pcpgsr pcpcs = some r ∧
      r.Sound o pcpgsr pcpcs) ↔ AuthenticatesAfter domain user password cpus o := by
  unfold packAndFinish AuthenticatesAfter initWith
  have hspec := init_spec domain user password cpus o.kiul
  generalize kerbInteractiveUnlockLogonInit domain user password cpus o.kiul = r at hspec ⊢
  obtain ⟨d, u, p, t, hpack, rfl⟩ | ⟨-, hbad, -⟩ := hspec
  · obtain ⟨pk, hpk, -, -⟩ := pack_spec o.arch o.coTaskMemAlloc hpack.domain_le hpack.user_le
      hpack.password_le t
    simp only [show succeeded S_OK = true from rfl, if_true, true_implies, hpk, Option.map_some,
      Option.some.injEq, exists_eq_left']
    obtain ⟨hnone, rfl⟩ | ⟨hsome, rgb, rfl⟩ := pack_cases hpk
    · rw [hnone]
      exact ⟨fun _ h => (nomatch h), fun _ => finish_noMemory c o _ pcpgsr pcpcs⟩
    · rw [finish_packed_iff c o ⟨S_OK, referenced d u p t, some (referenced d u p t)⟩ pcpgsr pcpcs
        hpk (.inr rfl)]
      exact ⟨fun h _ => h.2, fun h => ⟨rfl, h hsome⟩⟩
  · simp only [hbad, Bool.false_eq_true, if_false, Option.some.injEq, exists_eq_left', false_implies,
      iff_true]
    exact (early_sound_iff _ none (.inl rfl)).mpr hbad

/-- A structure that nothing was called for. -/
theorem uninitialised_sound_iff {hr : HRESULT} (hok : succeeded hr = true) :
    (∃ r, packAndFinish c o ⟨hr, o.kiul, none⟩ pcpgsr pcpcs = some r ∧ r.Sound o pcpgsr pcpcs) ↔
      o.coTaskMemAlloc (packedSize o.arch o.kiul) = none := by
  unfold packAndFinish
  rw [if_pos hok]
  dsimp only
  cases hpk : kerbInteractiveUnlockLogonPack o.arch o.coTaskMemAlloc o.kiul with
  | none =>
    refine ⟨fun ⟨r, h, _⟩ => (nomatch h), fun hnone => ?_⟩
    unfold kerbInteractiveUnlockLogonPack at hpk
    simp only [hnone] at hpk
    cases hpk
  | some pk =>
    rw [Option.map_some]
    simp only [Option.some.injEq, exists_eq_left']
    obtain ⟨hnone, rfl⟩ | ⟨hsome, rgb, rfl⟩ := pack_cases hpk
    · exact ⟨fun _ => hnone, fun _ => finish_noMemory c o _ pcpgsr pcpcs⟩
    · rw [finish_packed_iff c o ⟨hr, o.kiul, none⟩ pcpgsr pcpcs hpk (.inl rfl)]
      constructor
      · intro h
        cases h.1
      · intro h
        rw [h] at hsome
        cases hsome

end

/-- `GetSerialization` has a sound outcome exactly when its calls do not reach one of the
    three gaps. -/
theorem serialization_sound_iff (c : CSampleCredential) (o : SerializationCalls)
    (pcpgsr : SerializationResponse) (pcpcs : CredentialSerialization) :
    SerializationSound c o pcpgsr pcpcs ↔ SerializationOk c o := by
  unfold SerializationSound SerializationOk getSerialization
  cases hc : c.cpus with
  | none => simp
  | some cpus =>
    simp only [Option.some.injEq, exists_eq_left']
    cases hn : o.computerName with
    | error dwErr =>
      simp only [Option.some.injEq, exists_eq_left']
      rw [early_sound_iff _ none (.inl rfl), ← Bool.not_eq_true, succeeded_hresultFromWin32]
    | ok wsz =>
      dsimp only
      cases hpw : succeeded (protectIfNecessaryAndCopyPassword
          ((c.fillStrings o).fields.strings SFI_PASSWORD) cpus o.protect).1 with
      | false =>
        simp only [Bool.false_eq_true, if_false, Option.some.injEq, exists_eq_left',
          false_implies, iff_true]
        exact (early_sound_iff _ none (.inl rfl)).mpr hpw
      | true =>
        simp only [if_true, true_implies]
        unfold initStructure
        cases o.domain with
        | none => exact initWith_sound_iff _ _ _ _
        | some flat =>
          cases flat with
          | none => exact uninitialised_sound_iff hpw
          | some flat => exact initWith_sound_iff _ _ _ _

/-- Copies that all succeed. -/
def allCopied : CredentialCopies := ⟨fun _ => none, none, none, none⟩

/-- The credential of a provider asked for the logon tile. -/
def logonCredential : CSampleCredential :=
  (CSampleCredential.new.initializeFields (some .logon) rgCredProvFieldDescriptors rgFieldStatePairs
    allCopied).2.1

/-- The calls that protect a password all work: the copy is the text behind a mark. -/
def markedProtection : ProtectCalls where
  alreadyProtected _ := false
  dup := none
  first s := some (ERROR_INSUFFICIENT_BUFFER, s.val.length + 4)
  allocates := true
  second s := .ok ⟨(wlit "@@D").val ++ s.val, fun h =>
    (List.mem_append.mp h).elim (wlit "@@D").property s.property⟩

/-- Everything works, but the domain information has no flat name: the structure is
    what the stack holds. -/
def nullDomainCalls : SerializationCalls where
  arch := .x64
  strUser := lit "ann"
  dupUser := none
  dupUserValue := none
  dupPassword := none
  computerName := .ok (wlit "PC")
  protect := markedProtection
  domain := some none
  kiul := .zero
  coTaskMemAlloc cb := some ⟨0x1000, List.replicate cb.toNat 0, List.length_replicate⟩
  lsaConnect := 0
  lsaLookup := (0, 7)
  ulAuthPackage := 0

/-- A buffer that Init has not filled is returned as a success. -/
theorem null_domain_unsound :
    ¬ ∀ c o pcpgsr pcpcs, c.cpus.isSome → SerializationSound c o pcpgsr pcpcs := by
  intro hall
  obtain ⟨r, hr, hs⟩ := hall logonCredential nullDomainCalls .noCredentialNotFinished
    ⟨0, .other 0, 0, none⟩ rfl
  have hrun : (getSerialization logonCredential nullDomainCalls .noCredentialNotFinished
      ⟨0, .other 0, 0, none⟩).map (fun r => (succeeded r.hr, r.filled.isSome)) =
        some (true, false) := by
    decide +kernel
  rw [hr, Option.map_some] at hrun
  obtain ⟨hok, hfill⟩ := Prod.mk.inj (Option.some.inj hrun)
  obtain ⟨-, kiul, -, -, hk, -⟩ := hs.success hok
  rw [hk] at hfill
  cases hfill

/-! The message type of a packed buffer. -/

theorem poke_keeps_type {m m' bs : List UInt8} {off : Nat} (h : poke m off bs = some m')
    (hoff : 4 ≤ off) : peekVal m' 0 4 = peekVal m 0 4 := by
  unfold peekVal
  rw [peek_poke_disjoint h (.inl (by omega))]

/-- Packing a string behind the first four bytes leaves them, whatever the string. -/
theorem packString_keeps_type {a : Arch} {base : Nat} {rus : UnicodeString} {pb pus : Nat}
    {m m' : List UInt8} {pb' : Nat} (h : packString a base rus pb pus m = some (m', pb'))
    (hpus : 4 ≤ pus) (hpb : 4 ≤ pb) : peekVal m' 0 4 = peekVal m 0 4 ∧ 4 ≤ pb' := by
  unfold packString packedUnicodeStringCopy at h
  obtain ⟨m₅, h₅, h⟩ := Option.bind_eq_some_iff.mp h
  obtain ⟨m₁, h₁, h₅⟩ := Option.bind_eq_some_iff.mp h₅
  obtain ⟨m₂, h₂, h₅⟩ := Option.bind_eq_some_iff.mp h₅
  obtain ⟨m₃, h₃, h₅⟩ := Option.bind_eq_some_iff.mp h₅
  obtain ⟨len, -, h₅⟩ := Option.bind_eq_some_iff.mp h₅
  obtain ⟨bs, -, h₅⟩ := Option.bind_eq_some_iff.mp h₅
  obtain ⟨m₆, h₆, h⟩ := Option.bind_eq_some_iff.mp h
  obtain ⟨len', -, h⟩ := Option.bind_eq_some_iff.mp h
  obtain ⟨rfl, rfl⟩ := Prod.mk.inj (Option.some.inj h)
  refine ⟨?_, by omega⟩
  calc peekVal m₆ 0 4 = peekVal m₅ 0 4 := poke_keeps_type h₆ (by omega)
    _ = peekVal m₃ 0 4 := poke_keeps_type h₅ hpb
    _ = peekVal m₂ 0 4 := poke_keeps_type h₃ (by omega)
    _ = peekVal m₁ 0 4 := poke_keeps_type h₂ (by omega)
    _ = peekVal m 0 4 := poke_keeps_type h₁ hpus

/-- A packed buffer begins with the message type of the structure. -/
theorem pack_messageType {a : Arch} {alloc : (cb : UInt32) → Option (Block cb.toNat)}
    {kiul : KerbInteractiveUnlockLogon} {hr : HRESULT} {rgb : List UInt8} {cb : UInt32}
    (h : kerbInteractiveUnlockLogonPack a alloc kiul = some ⟨hr, some (rgb, cb)⟩) :
    peekVal rgb 0 4 = some kiul.logon.messageType.toNat := by
  unfold kerbInteractiveUnlockLogonPack at h
  obtain ⟨o₁, o₂, o₃, o₄, o₅, -⟩ := a.offsets
  cases ha : alloc (packedSize a kiul) with
  | none =>
    simp only [ha] at h
    cases h
  | some block =>
    simp only [ha] at h
    obtain ⟨m₁, -, h⟩ := Option.bind_eq_some_iff.mp h
    obtain ⟨m₂, h₂, h⟩ := Option.bind_eq_some_iff.mp h
    obtain ⟨⟨m₃, p₃⟩, h₃, h⟩ := Option.bind_eq_some_iff.mp h
    obtain ⟨⟨m₄, p₄⟩, h₄, h⟩ := Option.bind_eq_some_iff.mp h
    obtain ⟨⟨m₅, p₅⟩, h₅, h⟩ := Option.bind_eq_some_iff.mp h
    obtain rfl : m₅ = rgb := congrArg (fun o => o.1) (Option.some.inj (Packed.mk.inj
      (Option.some.inj h)).2)
    obtain ⟨k₃, q₃⟩ := packString_keeps_type h₃ (by omega) (by omega)
    obtain ⟨k₄, q₄⟩ := packString_keeps_type h₄ (by omega) q₃
    obtain ⟨k₅, -⟩ := packString_keeps_type h₅ (by omega) q₄
    have htype : peekVal m₂ 0 4 = some kiul.logon.messageType.toNat := by
      have hsame := peek_poke_same h₂
      rw [length_leBytes] at hsame
      rw [peekVal, hsame, Option.map_some, leVal_leBytes 4 kiul.logon.messageType.toNat_lt]
    rw [k₅, k₄, k₃, htype]

/-- A packing that succeeds. -/
theorem packAndFinish_success {c : CSampleCredential} {o : SerializationCalls} {i : Initialised}
    {pcpgsr : SerializationResponse} {pcpcs : CredentialSerialization} {r : Serialized}
    (h : packAndFinish c o i pcpgsr pcpcs = some r) (hok : succeeded r.hr = true) :
    succeeded i.hr = true ∧ ∃ rgb cb, r.packed = some (rgb, cb) ∧
      kerbInteractiveUnlockLogonPack o.arch o.coTaskMemAlloc i.kiul =
        some ⟨S_OK, some (rgb, cb)⟩ := by
  unfold packAndFinish at h
  split at h
  · next hi =>
    obtain ⟨pk, hpk, rfl⟩ := Option.map_eq_some_iff.mp h
    obtain ⟨-, rfl⟩ | ⟨-, rgb, rfl⟩ := pack_cases hpk
    · cases hok
    · refine ⟨hi, rgb, _, ?_, hpk⟩
      unfold finishSerialization
      rw [if_pos (show succeeded S_OK = true from rfl)]
      dsimp only
      split <;> rfl
  · next hi =>
    obtain rfl := Option.some.inj h
    exact absurd hok hi

/-- What Init has filled is for the scenario. -/
theorem initWith_type {domain user password : Option WStr} {cpus : UsageScenario}
    {kiul : KerbInteractiveUnlockLogon}
    (h : succeeded (initWith domain user password cpus kiul).hr = true) :
    ScenarioType cpus (initWith domain user password cpus kiul).kiul.logon.messageType := by
  unfold initWith at h ⊢
  obtain ⟨d, u, p, t, hpack, hinit⟩ | ⟨-, hbad, -⟩ := init_spec domain user password cpus kiul
  · rw [hinit]
    exact hpack.type_eq
  · exact absurd (h.symm.trans hbad) (by simp)

/-- A call that succeeds: nothing was done for want of a computer name and of an error,
    or a structure was packed, the stack's own after a NULL domain name and else one that
    Init has filled for the credential's scenario. -/
theorem serialization_success_cases {c : CSampleCredential} {o : SerializationCalls}
    {pcpgsr : SerializationResponse} {pcpcs : CredentialSerialization} {r : Serialized}
    {cpus : UsageScenario} (hc : c.cpus = some cpus)
    (h : getSerialization c o pcpgsr pcpcs = some r) (hok : succeeded r.hr = true) :
    (∃ dwErr, o.computerName = .error dwErr ∧ r.packed = none) ∨
    (∃ wsz kiul rgb cb, o.computerName = .ok wsz ∧ r.packed = some (rgb, cb) ∧
      kerbInteractiveUnlockLogonPack o.arch o.coTaskMemAlloc kiul =
        some ⟨S_OK, some (rgb, cb)⟩ ∧
      ((o.domain = some none ∧ kiul = o.kiul) ∨
        (o.domain ≠ some none ∧ ScenarioType cpus kiul.logon.messageType))) := by
  unfold getSerialization at h
  rw [hc] at h
  dsimp only at h
  cases hn : o.computerName with
  | error dwErr =>
    rw [hn] at h
    obtain rfl := Option.some.inj h
    exact .inl ⟨dwErr, rfl, rfl⟩
  | ok wsz =>
    right
    rw [hn] at h
    dsimp only at h
    split at h
    · next hpw =>
      obtain ⟨hi, rgb, cb, hpacked, hpk⟩ := packAndFinish_success h hok
      refine ⟨wsz, _, rgb, cb, rfl, hpacked, hpk, ?_⟩
      unfold initStructure at hi ⊢
      cases hd : o.domain with
      | none =>
        rw [hd] at hi
        exact .inr ⟨by simp, initWith_type hi⟩
      | some flat =>
        cases flat with
        | none => exact .inl ⟨rfl, rfl⟩
        | some flat =>
          rw [hd] at hi
          exact .inr ⟨by simp, initWith_type hi⟩
    · next hpw =>
      obtain rfl := Option.some.inj h
      exact absurd hok hpw

end CardLogon
