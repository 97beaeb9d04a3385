import CardLogon.Ledger
import CardLogon.SerializationHistory

/- The memory of a `CSampleCredential`.

   Every string of a tile is a block of its own: four labels and four field strings, the
   copies that `GetStringValue` and `ReportResult` give out, and in `GetSerialization` the
   protected password, what DsRoleGetPrimaryDomainInformation hands over, and the packed
   buffer. The memory runs beside the values of `SerializationHistory.lean`: each function
   here is the source function's allocations and frees. A caller takes the packed buffer of a
   call that succeeds; the pointers of a function end with it.

   What is proved: `tile_memory`. From the constructor through `Initialize` and any calls of
   LogonUI to the destructor, with any of the copies and allocations failing, each block was
   freed once, or given to LogonUI, or lost, and nothing was freed twice. The lost ones are
   the old user name at each `GetSerialization` (SHStrDupW writes over it), each domain
   information, and a packed buffer for which no authentication package was found. -/
namespace CardLogon
open CText GuardedRun Ledger

/-! Slots. -/

/-- The pointers on the stack of a call. -/
inductive Temp where
  | out
  | pwzProtectedPassword
  | info
  | packed
  deriving DecidableEq

inductive TileSlot where
  | label (i : Fin 4)
  | string (i : Fin 4)
  | temp (t : Temp)
  deriving DecidableEq

def TileSlot.all : List TileSlot :=
  (List.finRange 4).map .label ++ (List.finRange 4).map .string ++
    [.temp .out, .temp .pwzProtectedPassword, .temp .info, .temp .packed]

instance : Fintype TileSlot where
  elems := TileSlot.all.toFinset
  complete := by
    intro k
    rw [List.mem_toFinset]
    cases k with
    | label i => simp [TileSlot.all]
    | string i => simp [TileSlot.all]
    | temp t => cases t <;> simp [TileSlot.all]

abbrev TileBook := Book TileSlot

/-! The allocations and frees of each function. -/

/-- `FieldDescriptorCopy` into `_rgCredProvFieldDescriptors[i]`, in a turn of the loop. -/
def labelMemory (rgcpfd : Fin 4 → FieldDescriptor) (label : Fin 4 → StrDup) (c : Copying 4)
    (i : Fin 4) (b : TileBook) : TileBook :=
  if succeeded c.hr then
    match (rgcpfd i).pszLabel with
    | some _ => if (label i).isNone then b.acquire (.label i) true else b
    | none => b.acquire (.label i) false
  else b

/-- A guarded SHStrDupW of a literal. -/
def stringMemory (c : Copying 4) (i : Fin 4) (o : StrDup) (b : TileBook) : TileBook :=
  if succeeded c.hr then b.acquire (.string i) o.isNone else b

/-- The loop over the fields, with the memory. -/
def copyFieldsMemory (rgcpfd : Fin 4 → FieldDescriptor) (rgfsp : Fin 4 → FieldStatePair)
    (label : Fin 4 → StrDup) (x : Copying 4 × TileBook) : Copying 4 × TileBook :=
  (List.finRange 4).foldl
    (fun x i => (x.1.field rgcpfd rgfsp label i, labelMemory rgcpfd label x.1 i x.2)) x

/-- `Initialize`, for a credential with these fields. -/
def initializeMemory (rgcpfd : Fin 4 → FieldDescriptor) (rgfsp : Fin 4 → FieldStatePair)
    (o : CredentialCopies) (f : Fields 4) (b : TileBook) : TileBook :=
  let x := copyFieldsMemory rgcpfd rgfsp o.label (⟨S_OK, f, []⟩, b)
  let b := stringMemory x.1 SFI_USERNAME o.userName x.2
  let k := x.1.string SFI_USERNAME (some (wlit "CSIC互联认证")) o.userName
  let b := stringMemory k SFI_PASSWORD o.password b
  let k := k.string SFI_PASSWORD (some (wlit "12345678-a")) o.password
  stringMemory k SFI_SUBMIT_BUTTON o.submit b

/-- `SetStringValue`. -/
def setStringMemory (c : CSampleCredential) (dwFieldID : Nat) (o : StrDup) (b : TileBook) :
    TileBook :=
  if h : dwFieldID < 4 then
    let i : Fin 4 := ⟨dwFieldID, h⟩
    if (c.fields.descriptors i).cpft = .editText ∨ (c.fields.descriptors i).cpft = .passwordText then
      b.replace (.string i) o.isNone
    else b
  else b

/-- `SetDeselected`. -/
def setDeselectedMemory (c : CSampleCredential) (o : StrDup) (b : TileBook) : TileBook :=
  match c.fields.strings SFI_PASSWORD with
  | none => b
  | some pw =>
    if succeeded (stringCchLengthW pw 128).1 then b.replace (.string SFI_PASSWORD) o.isNone else b

/-- A string that is given out. -/
def giveOut (made : Bool) (b : TileBook) : TileBook :=
  (b.acquire (.temp .out) made).give (.temp .out)

/-- `GetStringValue`. -/
def getStringMemory (c : CSampleCredential) (dwFieldID : Nat) (ppwsz : Option (Option WStr))
    (o : StrDup) (b : TileBook) : TileBook :=
  match ppwsz with
  | none => b
  | some _ =>
    if h : dwFieldID < 4 then giveOut (shStrDupW (c.fields.strings ⟨dwFieldID, h⟩) o).2.isSome b
    else b

/-- `ReportResult`. -/
def reportResultMemory (ntsStatus ntsSubstatus : UInt32) (events : Bool) (o : StrDup)
    (b : TileBook) : TileBook :=
  giveOut (reportResult ntsStatus ntsSubstatus events o).optionalStatusText.isSome b

/-- `ProtectAndCopyString`. -/
def protectAndCopyMemory (pwzToProtect : WStr) (o : ProtectCalls) (b : TileBook) : TileBook :=
  match o.first pwzToProtect with
  | none => b.acquire (.temp .pwzProtectedPassword) false
  | some (dwErr, cchProtected) =>
    if dwErr = ERROR_INSUFFICIENT_BUFFER ∧ 0 < cchProtected then
      let b := b.acquire (.temp .pwzProtectedPassword) o.allocates
      if o.allocates then
        match o.second pwzToProtect with
        | .ok _ => b
        | .error _ => b.replace (.temp .pwzProtectedPassword) false
      else b
    else b.acquire (.temp .pwzProtectedPassword) false

/-- `ProtectIfNecessaryAndCopyPassword`. -/
def protectMemory (pwzPassword : Option WStr) (cpus : UsageScenario) (o : ProtectCalls)
    (b : TileBook) : TileBook :=
  match pwzPassword with
  | some s =>
    if s.val = [] then b.acquire (.temp .pwzProtectedPassword) o.dup.isNone
    else if cpus = .credui ∨ o.alreadyProtected s = true then
      b.acquire (.temp .pwzProtectedPassword) o.dup.isNone
    else protectAndCopyMemory s o b
  | none => b.acquire (.temp .pwzProtectedPassword) o.dup.isNone

/-- The strings that `GetSerialization` puts into the fields. -/
def fillStringsMemory (c : CSampleCredential) (o : SerializationCalls) (b : TileBook) : TileBook :=
  let user := (shStrDupW (some (wtUser o.strUser)) o.dupUser).2
  let b := b.acquire (.string SFI_USERNAME) o.dupUser.isNone
  let c := c.putString SFI_USERNAME user
  let b := setStringMemory c SFI_USERNAME o.dupUserValue b
  let c := (c.setStringValue SFI_USERNAME (wtUser o.strUser) o.dupUserValue).2
  setStringMemory c SFI_PASSWORD o.dupPassword b

/-- The pack step, and the authentication package. -/
def finishMemory (o : SerializationCalls) (pk : Packed) (b : TileBook) : TileBook :=
  match pk.out with
  | none => b
  | some _ =>
    let b := b.acquire (.temp .packed) true
    if o.authenticates then b.give (.temp .packed) else b.acquire (.temp .packed) false

/-- `GetSerialization` with the strings in the fields and the computer's name. -/
def serializeMemory (c : CSampleCredential) (cpus : UsageScenario) (wsz : WStr)
    (o : SerializationCalls) (b : TileBook) : TileBook :=
  let pw := protectIfNecessaryAndCopyPassword (c.fields.strings SFI_PASSWORD) cpus o.protect
  let b := protectMemory (c.fields.strings SFI_PASSWORD) cpus o.protect b
  if succeeded pw.1 then
    let i := initStructure pw.1 wsz (c.fields.strings SFI_USERNAME) pw.2 cpus o
    let b := b.acquire (.temp .info) o.domain.isSome
    let b :=
      if succeeded i.hr then
        match kerbInteractiveUnlockLogonPack o.arch o.coTaskMemAlloc i.kiul with
        | some pk => finishMemory o pk b
        | none => b
      else b
    -- CoTaskMemFree(pwzProtectedPassword), and the end of info
    (b.replace (.temp .pwzProtectedPassword) false).acquire (.temp .info) false
  else b.acquire (.temp .pwzProtectedPassword) false

def getSerializationMemory (c : CSampleCredential) (o : SerializationCalls) (b : TileBook) :
    TileBook :=
  match c.cpus with
  | none => b
  | some cpus =>
    let b := fillStringsMemory c o b
    match o.computerName with
    | .error _ => b
    | .ok wsz => serializeMemory (c.fillStrings o) cpus wsz o b

/-- A call of LogonUI. -/
def callMemory (c : CSampleCredential) (b : TileBook) : CredentialCall → TileBook
  | .field (.setStringValue dwFieldID _ o) => setStringMemory c dwFieldID o b
  | .field (.setDeselected _ o) => setDeselectedMemory c o b
  | .field (.getStringValue dwFieldID ppwsz o) => getStringMemory c dwFieldID ppwsz o b
  | .reportResult ntsStatus ntsSubstatus events o =>
    reportResultMemory ntsStatus ntsSubstatus events o b
  | .getSerialization o _ _ => getSerializationMemory c o b

/-- The loop of the destructor: a string and a label at a time. -/
def destructorMemory (b : TileBook) : TileBook :=
  ((List.finRange 4).flatMap fun i => [TileSlot.string i, TileSlot.label i]).foldl Book.free b

/-! A tile and its memory. -/

structure Tile where
  credential : CSampleCredential
  memory : TileBook

def Tile.initialised (cpus : UsageScenario) (o : CredentialCopies) : Tile where
  credential := initialisedCredential cpus o
  memory := initializeMemory rgCredProvFieldDescriptors rgFieldStatePairs o (.zero 4) .empty

def Tile.step (t : Tile) (call : CredentialCall) : Option Tile :=
  (callStep t.credential call).map fun c =>
    { credential := c, memory := callMemory t.credential t.memory call }

/-! What a call loses. -/

/-- `GetSerialization` gets to the domain query and it succeeds. -/
def queriesDomain (c : CSampleCredential) (o : SerializationCalls) : Bool :=
  match c.cpus, o.computerName with
  | some cpus, .ok _ =>
    succeeded (protectIfNecessaryAndCopyPassword ((c.fillStrings o).fields.strings SFI_PASSWORD)
      cpus o.protect).1 && o.domain.isSome
  | _, _ => false

/-- It packs a structure, and finds no authentication package. -/
def packsInVain (c : CSampleCredential) (o : SerializationCalls) (pcpgsr : SerializationResponse)
    (pcpcs : CredentialSerialization) : Bool :=
  match getSerialization c o pcpgsr pcpcs with
  | some r => r.packed.isSome && !o.authenticates
  | none => false

/-- How many blocks a call loses. -/
def leak (c : CSampleCredential) : CredentialCall → Nat
  | .getSerialization o pcpgsr pcpcs =>
    (c.fields.strings SFI_USERNAME).isSome.toNat + (queriesDomain c o).toNat +
      (packsInVain c o pcpgsr pcpcs).toNat
  | _ => 0

/-- How many the calls of a history lose. -/
def leaks (c : CSampleCredential) : List CredentialCall → Nat
  | [] => 0
  | call :: calls =>
    leak c call +
      match callStep c call with
      | some c' => leaks c' calls
      | none => 0

/-! The tile holds what its values say. -/

/-- A slot of the tile holds a block exactly when the value is not NULL. -/
structure Kept (f : Fields 4) (b : TileBook) : Prop where
  sound : b.Sound
  strings : ∀ i, b.slots (.string i) = .empty ↔ f.strings i = none
  labels : ∀ i, b.slots (.label i) = .empty ↔ (f.descriptors i).pszLabel = none

/-- Between two calls no pointer of a call is left. -/
structure Between (f : Fields 4) (b : TileBook) : Prop where
  kept : Kept f b
  temps : ∀ t, b.slots (.temp t) = .empty

section
variable {f : Fields 4} {b b' : TileBook}

theorem ite_live_eq_empty (ok : Bool) (n : Nat) :
    (if ok then Cell.live n else .empty) = .empty ↔ ok = false := by
  cases ok
  · exact ⟨fun _ => rfl, fun _ => rfl⟩
  · exact ⟨fun h => (nomatch h), fun h => (nomatch h)⟩

/-- A field string is written. -/
theorem Kept.putString (h : Kept f b) (i : Fin 4) (psz : Option WStr) (hsound : b'.Sound)
    (hself : b'.slots (.string i) = if psz.isSome then .live b.next else .empty)
    (hother : ∀ k, k ≠ .string i → b'.slots k = b.slots k) :
    Kept { f with strings := Function.update f.strings i psz } b' where
  sound := hsound
  strings j := by
    by_cases hj : j = i
    · rw [hj, hself, ite_live_eq_empty]
      show _ ↔ Function.update f.strings i psz i = none
      rw [Function.update_self]
      exact Option.isSome_eq_false_iff.trans Option.isNone_iff_eq_none
    · rw [hother (.string j) fun h => hj (TileSlot.string.inj h), h.strings j]
      show _ ↔ Function.update f.strings i psz j = none
      rw [Function.update_of_ne hj]
  labels j := by
    rw [hother (.label j) fun h => nomatch h]
    exact h.labels j

theorem Between.putString (h : Between f b) (i : Fin 4) (psz : Option WStr) (hsound : b'.Sound)
    (hself : b'.slots (.string i) = if psz.isSome then .live b.next else .empty)
    (hother : ∀ k, k ≠ .string i → b'.slots k = b.slots k) :
    Between { f with strings := Function.update f.strings i psz } b' where
  kept := h.kept.putString i psz hsound hself hother
  temps t := by
    rw [hother (.temp t) fun h => nomatch h]
    exact h.temps t

/-- A pointer of a call is written. -/
theorem Kept.congr (h : Kept f b) (hsound : b'.Sound)
    (hother : ∀ k, (∀ t, k ≠ .temp t) → b'.slots k = b.slots k) : Kept f b' where
  sound := hsound
  strings i := by
    rw [hother (.string i) fun t h => nomatch h]
    exact h.strings i
  labels i := by
    rw [hother (.label i) fun t h => nomatch h]
    exact h.labels i

theorem Kept.acquire (h : Kept f b) (t : Temp) (ok : Bool) : Kept f (b.acquire (.temp t) ok) :=
  h.congr (h.sound.acquire _ ok) fun _ hk => acquire_slots_ne b _ ok (hk t)

theorem Kept.replace (h : Kept f b) (t : Temp) (ok : Bool) : Kept f (b.replace (.temp t) ok) :=
  h.congr (h.sound.replace _ ok) fun _ hk => replace_slots_ne b _ ok (hk t)

theorem Kept.give (h : Kept f b) (t : Temp) : Kept f (b.give (.temp t)) :=
  h.congr (h.sound.give _) fun _ hk => give_slots_ne b _ (hk t)

theorem Between.giveOut (h : Between f b) (made : Bool) :
    Between f (giveOut made b) ∧ (giveOut made b).lost = b.lost := by
  refine ⟨⟨(h.kept.acquire .out made).give .out, ?_⟩, ?_⟩
  · intro t
    by_cases ht : t = .out
    · rw [ht]
      exact give_slots_self ..
    · have hne : TileSlot.temp t ≠ .temp .out := fun h => ht (TileSlot.temp.inj h)
      show ((b.acquire (.temp .out) made).give (.temp .out)).slots _ = _
      rw [give_slots_ne _ _ hne, acquire_slots_ne _ _ _ hne]
      exact h.temps t
  · show (b.acquire (.temp .out) made).lost = b.lost
    apply acquire_lost
    rw [h.temps .out]
    rfl

/-! The calls. -/

theorem isSome_shStrDupW (s : WStr) (o : StrDup) : (shStrDupW (some s) o).2.isSome = o.isNone := by
  cases o <;> rfl

/-- The field's old string is freed and the new one written. -/
theorem Between.replaceString (h : Between f b) (i : Fin 4) (psz : Option WStr) {ok : Bool}
    (hok : psz.isSome = ok) :
    Between { f with strings := Function.update f.strings i psz } (b.replace (.string i) ok) := by
  subst hok
  exact h.putString i psz (h.kept.sound.replace _ _) (replace_slots_self ..) fun k hk =>
    replace_slots_ne b _ _ hk

variable {c : CSampleCredential}

theorem Between.setString (h : Between c.fields b) (dwFieldID : Nat) (pwz : WStr) (o : StrDup) :
    Between (c.setStringValue dwFieldID pwz o).2.fields (setStringMemory c dwFieldID o b) ∧
      (setStringMemory c dwFieldID o b).lost = b.lost := by
  unfold CSampleCredential.setStringValue setStringMemory
  split
  · next hid =>
    dsimp only
    split
    · exact ⟨h.replaceString ⟨dwFieldID, hid⟩ _ (isSome_shStrDupW pwz o), replace_lost b _ _⟩
    · exact ⟨h, rfl⟩
  · exact ⟨h, rfl⟩

theorem Between.setDeselected (h : Between c.fields b) (events : Bool) (o : StrDup) :
    Between (c.setDeselected events o).credential.fields (setDeselectedMemory c o b) ∧
      (setDeselectedMemory c o b).lost = b.lost := by
  unfold CSampleCredential.setDeselected setDeselectedMemory
  cases c.fields.strings SFI_PASSWORD with
  | none => exact ⟨h, rfl⟩
  | some pw =>
    dsimp only
    split
    · exact ⟨h.replaceString SFI_PASSWORD _ (isSome_shStrDupW _ o), replace_lost b _ _⟩
    · exact ⟨h, rfl⟩

theorem Between.getString (h : Between c.fields b) (dwFieldID : Nat) (ppwsz : Option (Option WStr))
    (o : StrDup) : Between c.fields (getStringMemory c dwFieldID ppwsz o b) ∧
      (getStringMemory c dwFieldID ppwsz o b).lost = b.lost := by
  unfold getStringMemory
  cases ppwsz with
  | none => exact ⟨h, rfl⟩
  | some p =>
    dsimp only
    split
    · exact h.giveOut _
    · exact ⟨h, rfl⟩

/-- The user name is written over the old one. -/
theorem Between.fillStrings (h : Between c.fields b) (o : SerializationCalls) :
    Between (c.fillStrings o).fields (fillStringsMemory c o b) ∧
      (fillStringsMemory c o b).lost.length =
        b.lost.length + (c.fields.strings SFI_USERNAME).isSome.toNat := by
  have huser : Between (c.putString SFI_USERNAME (shStrDupW (some (wtUser o.strUser)) o.dupUser).2).fields
      (b.acquire (.string SFI_USERNAME) o.dupUser.isNone) := by
    rw [← isSome_shStrDupW (wtUser o.strUser)]
    exact h.putString SFI_USERNAME _ (h.kept.sound.acquire _ _) (acquire_slots_self ..) fun k hk =>
      acquire_slots_ne b _ _ hk
  have hlost : (b.acquire (.string SFI_USERNAME) o.dupUser.isNone).lost.length =
      b.lost.length + (c.fields.strings SFI_USERNAME).isSome.toNat := by
    show ((b.slots (.string SFI_USERNAME)).held ++ b.lost).length = _
    rw [List.length_append, length_held (h.kept.sound.fresh _), Nat.add_comm]
    congr 1
    cases hs : c.fields.strings SFI_USERNAME with
    | none => rw [if_pos ((h.kept.strings SFI_USERNAME).mpr hs)]; rfl
    | some s =>
      rw [if_neg fun he => by simp [(h.kept.strings SFI_USERNAME).mp he] at hs]
      rfl
  obtain ⟨h₁, hl₁⟩ := huser.setString SFI_USERNAME (wtUser o.strUser) o.dupUserValue
  obtain ⟨h₂, hl₂⟩ := h₁.setString SFI_PASSWORD (wlit "12345678-a") o.dupPassword
  refine ⟨h₂, ?_⟩
  rw [← hlost, ← hl₁, ← hl₂]
  rfl

/-! `GetSerialization` from the protected password on. -/

/-- Inside the call: whether the domain information is held, and how many blocks are lost. -/
structure Within (f : Fields 4) (b : TileBook) (info : Bool) (n : Nat) : Prop where
  kept : Kept f b
  out : b.slots (.temp .out) = .empty
  packed : b.slots (.temp .packed) = .empty
  info_iff : b.slots (.temp .info) = .empty ↔ info = false
  lost : b.lost.length = n

theorem Between.within (h : Between f b) : Within f b false b.lost.length where
  kept := h.kept
  out := h.temps .out
  packed := h.temps .packed
  info_iff := ⟨fun _ => rfl, fun _ => h.temps .info⟩
  lost := rfl

theorem Within.congr {info : Bool} {n : Nat} (h : Within f b info n) (hkept : Kept f b')
    (hslots : ∀ t, t ≠ .pwzProtectedPassword → b'.slots (.temp t) = b.slots (.temp t))
    (hlost : b'.lost = b.lost) : Within f b' info n where
  kept := hkept
  out := (hslots .out (by decide)).trans h.out
  packed := (hslots .packed (by decide)).trans h.packed
  info_iff := by
    rw [hslots .info (by decide)]
    exact h.info_iff
  lost := by
    rw [hlost]
    exact h.lost

theorem temp_ne {t u : Temp} (h : t ≠ u) : TileSlot.temp t ≠ .temp u :=
  fun he => h (TileSlot.temp.inj he)

theorem Within.acquirePassword {info : Bool} {n : Nat} (h : Within f b info n)
    (hempty : b.slots (.temp .pwzProtectedPassword) = .empty) (ok : Bool) :
    Within f (b.acquire (.temp .pwzProtectedPassword) ok) info n := by
  refine h.congr (h.kept.acquire _ ok) (fun t ht => acquire_slots_ne b _ ok (temp_ne ht)) ?_
  apply acquire_lost
  rw [hempty]
  rfl

theorem Within.replacePassword {info : Bool} {n : Nat} (h : Within f b info n) (ok : Bool) :
    Within f (b.replace (.temp .pwzProtectedPassword) ok) info n :=
  h.congr (h.kept.replace _ ok) (fun _ ht => replace_slots_ne b _ ok (temp_ne ht))
    (replace_lost b _ ok)

/-- The protected copy is held when there is one. -/
structure Protected (f : Fields 4) (b : TileBook) (copy : Option WStr) (n : Nat) : Prop where
  within : Within f b false n
  none : copy = none → b.slots (.temp .pwzProtectedPassword) = .empty

theorem Between.dupPassword (h : Between f b) (s : WStr) (o : StrDup) :
    Protected f (b.acquire (.temp .pwzProtectedPassword) o.isNone) (shStrDupW (some s) o).2
      b.lost.length where
  within := h.within.acquirePassword (h.temps _) _
  none hnone := by
    rw [acquire_slots_self, ← isSome_shStrDupW s, hnone]
    rfl

theorem Between.protectAndCopy (h : Between f b) (pwzToProtect : WStr) (o : ProtectCalls) :
    Protected f (protectAndCopyMemory pwzToProtect o b) (protectAndCopyString pwzToProtect o).2
      b.lost.length := by
  have hnothing : Protected f (b.acquire (.temp .pwzProtectedPassword) false) none b.lost.length :=
    ⟨h.within.acquirePassword (h.temps _) _, fun _ => acquire_slots_self ..⟩
  unfold protectAndCopyMemory protectAndCopyString
  cases o.first pwzToProtect with
  | none => exact hnothing
  | some e =>
    obtain ⟨dwErr, cchProtected⟩ := e
    dsimp only
    split
    · cases o.allocates with
      | false => exact hnothing
      | true =>
        have hmade : Within f (b.acquire (.temp .pwzProtectedPassword) true) false b.lost.length :=
          h.within.acquirePassword (h.temps _) _
        rw [if_pos rfl, if_pos rfl]
        cases o.second pwzToProtect with
        | ok s => exact ⟨hmade, fun h => nomatch h⟩
        | error e => exact ⟨hmade.replacePassword false, fun _ => replace_slots_self ..⟩
    · exact hnothing

theorem Between.protect (h : Between f b) (pwzPassword : Option WStr) (cpus : UsageScenario)
    (o : ProtectCalls) :
    Protected f (protectMemory pwzPassword cpus o b)
      (protectIfNecessaryAndCopyPassword pwzPassword cpus o).2 b.lost.length := by
  unfold protectMemory protectIfNecessaryAndCopyPassword
  cases pwzPassword with
  | none => exact h.dupPassword _ o.dup
  | some s =>
    dsimp only
    split
    · exact h.dupPassword _ o.dup
    · split
      · exact h.dupPassword s o.dup
      · exact h.protectAndCopy s o

/-- Without success there is no copy. -/
theorem protect_failed {pwzPassword : Option WStr} {cpus : UsageScenario} {o : ProtectCalls}
    (h : succeeded (protectIfNecessaryAndCopyPassword pwzPassword cpus o).1 = false) :
    (protectIfNecessaryAndCopyPassword pwzPassword cpus o).2 = none := by
  have hdup : ∀ (s : WStr) (d : StrDup), succeeded (shStrDupW (some s) d).1 = false →
      (shStrDupW (some s) d).2 = none := by
    intro s d hd
    cases d with
    | none => cases hd
    | some e => rfl
  unfold protectIfNecessaryAndCopyPassword at h ⊢
  cases pwzPassword with
  | none => exact hdup _ _ h
  | some s =>
    dsimp only at h ⊢
    split at h
    · next hs =>
      rw [if_pos hs]
      exact hdup _ _ h
    · next hs =>
      rw [if_neg hs]
      split at h
      · next hp =>
        rw [if_pos hp]
        exact hdup _ _ h
      · next hp =>
        rw [if_neg hp]
        unfold protectAndCopyString at h ⊢
        cases hf : o.first s with
        | none => rfl
        | some e =>
          rw [hf] at h
          dsimp only at h ⊢
          split at h
          · next he =>
            rw [if_pos he]
            split at h
            · next ha =>
              rw [if_pos ha]
              cases hsec : o.second s with
              | ok s' => rw [hsec] at h; cases h
              | error e' => rfl
            · next ha => rw [if_neg ha]
          · next he => rw [if_neg he]

theorem Within.acquireInfo {n : Nat} (h : Within f b false n) (ok : Bool) :
    Within f (b.acquire (.temp .info) ok) ok n where
  kept := h.kept.acquire .info ok
  out := (acquire_slots_ne b _ ok (temp_ne (by decide))).trans h.out
  packed := (acquire_slots_ne b _ ok (temp_ne (by decide))).trans h.packed
  info_iff := by
    rw [acquire_slots_self, ite_live_eq_empty]
  lost := by
    rw [acquire_lost]
    · exact h.lost
    · rw [h.info_iff.mpr rfl]
      rfl

/-- The packed buffer goes to the caller, or is lost. -/
theorem Within.finish {info : Bool} {n : Nat} (h : Within f b info n) (o : SerializationCalls)
    (pk : Packed) :
    Within f (finishMemory o pk b) info (n + (pk.out.isSome && !o.authenticates).toNat) := by
  unfold finishMemory
  cases pk.out with
  | none => exact h
  | some out =>
    have hne : ∀ t, t ≠ .packed → TileSlot.temp t ≠ .temp .packed := fun t ht => temp_ne ht
    have hlost : (b.acquire (.temp .packed) true).lost = b.lost := by
      apply acquire_lost
      rw [h.packed]
      rfl
    dsimp only
    cases o.authenticates with
    | true =>
      rw [if_pos rfl]
      exact
        { kept := (h.kept.acquire .packed true).give .packed
          out := by
            rw [give_slots_ne _ _ (hne .out (by decide)), acquire_slots_ne _ _ _ (hne .out (by decide))]
            exact h.out
          packed := give_slots_self ..
          info_iff := by
            rw [give_slots_ne _ _ (hne .info (by decide)),
              acquire_slots_ne _ _ _ (hne .info (by decide))]
            exact h.info_iff
          lost := (congrArg List.length hlost).trans h.lost }
    | false =>
      rw [if_neg Bool.false_ne_true]
      exact
        { kept := (h.kept.acquire .packed true).acquire .packed false
          out := by
            rw [acquire_slots_ne _ _ _ (hne .out (by decide)),
              acquire_slots_ne _ _ _ (hne .out (by decide))]
            exact h.out
          packed := acquire_slots_self ..
          info_iff := by
            rw [acquire_slots_ne _ _ _ (hne .info (by decide)),
              acquire_slots_ne _ _ _ (hne .info (by decide))]
            exact h.info_iff
          lost := by
            show (((b.acquire (.temp .packed) true).slots (.temp .packed)).held ++
              (b.acquire (.temp .packed) true).lost).length = n + 1
            rw [acquire_slots_self, hlost, List.length_append, h.lost]
            exact Nat.add_comm 1 n }

/-- The end of the call. -/
theorem Within.leave {info : Bool} {n : Nat} (h : Within f b info n) :
    Between f ((b.replace (.temp .pwzProtectedPassword) false).acquire (.temp .info) false) ∧
      ((b.replace (.temp .pwzProtectedPassword) false).acquire (.temp .info) false).lost.length =
        n + info.toNat := by
  have hfreed := h.replacePassword false
  refine ⟨⟨hfreed.kept.acquire .info false, ?_⟩, ?_⟩
  · intro t
    cases t with
    | out => exact (acquire_slots_ne _ _ _ (by decide)).trans hfreed.out
    | packed => exact (acquire_slots_ne _ _ _ (by decide)).trans hfreed.packed
    | info => exact acquire_slots_self ..
    | pwzProtectedPassword =>
      exact (acquire_slots_ne _ _ _ (by decide)).trans (replace_slots_self ..)
  · show (((b.replace (.temp .pwzProtectedPassword) false).slots (.temp .info)).held ++
      (b.replace (.temp .pwzProtectedPassword) false).lost).length = _
    rw [List.length_append, length_held (hfreed.kept.sound.fresh _), hfreed.lost, Nat.add_comm]
    congr 1
    cases info with
    | false => rw [if_pos (hfreed.info_iff.mpr rfl)]; rfl
    | true => rw [if_neg fun he => nomatch hfreed.info_iff.mp he]; rfl

/-- How many blocks are lost from the protected password on. -/
def serializeLeak (c : CSampleCredential) (cpus : UsageScenario) (wsz : WStr)
    (o : SerializationCalls) : Nat :=
  let pw := protectIfNecessaryAndCopyPassword (c.fields.strings SFI_PASSWORD) cpus o.protect
  if succeeded pw.1 then
    let i := initStructure pw.1 wsz (c.fields.strings SFI_USERNAME) pw.2 cpus o
    o.domain.isSome.toNat +
      if succeeded i.hr then
        match kerbInteractiveUnlockLogonPack o.arch o.coTaskMemAlloc i.kiul with
        | some pk => (pk.out.isSome && !o.authenticates).toNat
        | none => 0
      else 0
  else 0

theorem Between.serialize (h : Between c.fields b) (cpus : UsageScenario) (wsz : WStr)
    (o : SerializationCalls) :
    Between c.fields (serializeMemory c cpus wsz o b) ∧
      (serializeMemory c cpus wsz o b).lost.length =
        b.lost.length + serializeLeak c cpus wsz o := by
  have hprot := h.protect (c.fields.strings SFI_PASSWORD) cpus o.protect
  unfold serializeMemory serializeLeak
  dsimp only
  split
  · have hinfo := hprot.within.acquireInfo o.domain.isSome
    split
    · split
      · next pk hpk =>
        obtain ⟨hbetween, hlost⟩ := (hinfo.finish o pk).leave
        refine ⟨hbetween, ?_⟩
        rw [hlost]
        omega
      · exact hinfo.leave
    · exact hinfo.leave
  · next hfail =>
    have hnone := hprot.none (protect_failed (by simpa using hfail))
    have hlost := acquire_lost (protectMemory (c.fields.strings SFI_PASSWORD) cpus o.protect b)
      (.temp .pwzProtectedPassword) false (by rw [hnone]; rfl)
    refine ⟨⟨hprot.within.kept.acquire _ false, ?_⟩, ?_⟩
    · intro t
      cases t with
      | out => exact (acquire_slots_ne _ _ _ (by decide)).trans hprot.within.out
      | packed => exact (acquire_slots_ne _ _ _ (by decide)).trans hprot.within.packed
      | info => exact (acquire_slots_ne _ _ _ (by decide)).trans (hprot.within.info_iff.mpr rfl)
      | pwzProtectedPassword => exact acquire_slots_self ..
    · rw [hlost]
      exact hprot.within.lost

theorem finishSerialization_packed (c : CSampleCredential) (o : SerializationCalls)
    (i : Initialised) (pk : Packed) (pcpgsr : SerializationResponse)
    (pcpcs : CredentialSerialization) :
    (finishSerialization c o i pk pcpgsr pcpcs).packed = pk.out := by
  unfold finishSerialization
  dsimp only
  split
  · split
    · rfl
    · rfl
  · rfl

/-- What is lost after the strings: the domain information, and a buffer packed in vain. -/
theorem serializeLeak_eq {o : SerializationCalls} {pcpgsr : SerializationResponse}
    {pcpcs : CredentialSerialization} {r : Serialized} {cpus : UsageScenario} {wsz : WStr}
    (hcpus : c.cpus = some cpus) (hname : o.computerName = .ok wsz)
    (hr : getSerialization c o pcpgsr pcpcs = some r) :
    serializeLeak (c.fillStrings o) cpus wsz o =
      (queriesDomain c o).toNat + (packsInVain c o pcpgsr pcpcs).toNat := by
  have hvain : packsInVain c o pcpgsr pcpcs = (r.packed.isSome && !o.authenticates) := by
    simp only [packsInVain, hr]
  rw [hvain]
  unfold getSerialization at hr
  rw [hcpus] at hr
  dsimp only at hr
  rw [hname] at hr
  dsimp only at hr
  simp only [queriesDomain, hcpus, hname]
  unfold serializeLeak
  dsimp only
  split at hr
  · next hok =>
    rw [if_pos hok, hok, Bool.true_and]
    split at hr
    · next hi =>
      rw [if_pos hi]
      obtain ⟨pk, hpk, rfl⟩ := Option.map_eq_some_iff.mp hr
      rw [hpk, finishSerialization_packed]
    · next hi =>
      rw [if_neg hi]
      obtain rfl := Option.some.inj hr
      rfl
  · next hfail =>
    rw [if_neg hfail]
    obtain rfl := Option.some.inj hr
    rw [Bool.eq_false_iff.mpr hfail]
    rfl

theorem Between.getSerialization (h : Between c.fields b) {o : SerializationCalls}
    {pcpgsr : SerializationResponse} {pcpcs : CredentialSerialization} {r : Serialized}
    (hr : getSerialization c o pcpgsr pcpcs = some r) :
    Between r.credential.fields (getSerializationMemory c o b) ∧
      (getSerializationMemory c o b).lost.length =
        b.lost.length + leak c (.getSerialization o pcpgsr pcpcs) := by
  obtain ⟨hfilled, hlost⟩ := h.fillStrings o
  rw [getSerialization_credential hr]
  unfold getSerializationMemory leak
  cases hcpus : c.cpus with
  | none => simp [CardLogon.getSerialization, hcpus] at hr
  | some cpus =>
    dsimp only
    cases hname : o.computerName with
    | error dwErr =>
      refine ⟨hfilled, ?_⟩
      have hvain : packsInVain c o pcpgsr pcpcs = false := by
        simp only [CardLogon.getSerialization, hcpus, hname] at hr
        simp only [packsInVain, CardLogon.getSerialization, hcpus, hname]
        rfl
      rw [hlost, hvain]
      simp only [queriesDomain, hcpus, hname]
      rfl
    | ok wsz =>
      obtain ⟨hbetween, hlost'⟩ := hfilled.serialize cpus wsz o
      refine ⟨hbetween, ?_⟩
      rw [hlost', hlost, serializeLeak_eq hcpus hname hr]
      omega

/-- A call of LogonUI. -/
theorem Between.call (h : Between c.fields b) {call : CredentialCall} {c' : CSampleCredential}
    (hc : callStep c call = some c') :
    Between c'.fields (callMemory c b call) ∧
      (callMemory c b call).lost.length = b.lost.length + leak c call := by
  cases call with
  | field f =>
    obtain rfl := Option.some.inj hc
    cases f with
    | setStringValue dwFieldID pwz o =>
      obtain ⟨hbetween, hlost⟩ := h.setString dwFieldID pwz o
      exact ⟨hbetween, congrArg List.length hlost⟩
    | setDeselected events o =>
      obtain ⟨hbetween, hlost⟩ := h.setDeselected events o
      exact ⟨hbetween, congrArg List.length hlost⟩
    | getStringValue dwFieldID ppwsz o =>
      obtain ⟨hbetween, hlost⟩ := h.getString dwFieldID ppwsz o
      exact ⟨hbetween, congrArg List.length hlost⟩
  | reportResult ntsStatus ntsSubstatus events o =>
    obtain rfl := Option.some.inj hc
    obtain ⟨hbetween, hlost⟩ :=
      h.giveOut (reportResult ntsStatus ntsSubstatus events o).optionalStatusText.isSome
    exact ⟨hbetween, congrArg List.length hlost⟩
  | getSerialization o pcpgsr pcpcs =>
    obtain ⟨r, hr, rfl⟩ := Option.map_eq_some_iff.mp hc
    exact h.getSerialization hr

/-! `Initialize`. -/

/-- A label is written. -/
theorem Between.putLabel (h : Between f b) (i : Fin 4) (d : FieldDescriptor) (p : FieldStatePair)
    (hd : d.pszLabel.isSome) :
    Between
      { f with
        descriptors := Function.update f.descriptors i d
        statePairs := Function.update f.statePairs i p }
      (b.acquire (.label i) true) where
  kept :=
    { sound := h.kept.sound.acquire _ true
      strings := fun j => by
        rw [acquire_slots_ne (j := .string j) b (.label i) true fun h => nomatch h]
        exact h.kept.strings j
      labels := fun j => by
        by_cases hj : j = i
        · rw [hj, acquire_slots_self]
          show _ ↔ (Function.update f.descriptors i d i).pszLabel = none
          rw [Function.update_self, ite_live_eq_empty]
          exact ⟨fun h => (nomatch h), fun h => by simp [h] at hd⟩
        · rw [acquire_slots_ne b (.label i) true fun h => hj (TileSlot.label.inj h)]
          show _ ↔ (Function.update f.descriptors i d j).pszLabel = none
          rw [Function.update_of_ne hj]
          exact h.kept.labels j }
  temps t := by
    rw [acquire_slots_ne (j := .temp t) b (.label i) true fun h => nomatch h]
    exact h.temps t

section
variable {k : Copying 4} {rgcpfd : Fin 4 → FieldDescriptor} (rgfsp : Fin 4 → FieldStatePair)
  (label : Fin 4 → StrDup)

/-- A turn of the loop, for a field that has no label yet. -/
theorem Between.field (h : Between k.fields b) (hl : ∀ i, (rgcpfd i).pszLabel.isSome) (i : Fin 4)
    (hnone : (k.fields.descriptors i).pszLabel = none) :
    Between (k.field rgcpfd rgfsp label i).fields (labelMemory rgcpfd label k i b) ∧
      (labelMemory rgcpfd label k i b).lost = b.lost ∧
      (k.field rgcpfd rgfsp label i).fields.strings = k.fields.strings ∧
      ∀ j, j ≠ i → (k.field rgcpfd rgfsp label i).fields.descriptors j = k.fields.descriptors j := by
  unfold Copying.field labelMemory
  split
  · obtain ⟨s, hs⟩ := Option.isSome_iff_exists.mp (hl i)
    rw [hs]
    dsimp only
    obtain ⟨ho, hd⟩ | ⟨e, ho, hd⟩ := fieldDescriptorCopy_cases (hl i) (k.fields.descriptors i) (label i)
    · rw [hd, ho]
      refine ⟨h.putLabel i _ _ (hl i), ?_, rfl, fun j hj => Function.update_of_ne hj ..⟩
      apply acquire_lost
      rw [(h.kept.labels i).mpr hnone]
      rfl
    · rw [hd, ho]
      refine ⟨?_, rfl, rfl, fun j hj => Function.update_of_ne hj ..⟩
      rw [if_neg (by simp), Function.update_eq_self]
      exact ⟨⟨h.kept.sound, h.kept.strings, h.kept.labels⟩, h.temps⟩
  · exact ⟨h, rfl, rfl, fun _ _ => rfl⟩

theorem Between.fields (hl : ∀ i, (rgcpfd i).pszLabel.isSome) :
    ∀ (is : List (Fin 4)), is.Nodup → ∀ {x : Copying 4 × TileBook}, Between x.1.fields x.2 →
      (∀ i ∈ is, (x.1.fields.descriptors i).pszLabel = none) →
      let y := is.foldl (fun x i =>
        (x.1.field rgcpfd rgfsp label i, labelMemory rgcpfd label x.1 i x.2)) x
      y.1 = is.foldl (Copying.field rgcpfd rgfsp label) x.1 ∧ Between y.1.fields y.2 ∧
        y.2.lost = x.2.lost ∧ y.1.fields.strings = x.1.fields.strings := by
  intro is
  induction is with
  | nil => exact fun _ _ h _ => ⟨rfl, h, rfl, rfl⟩
  | cons i is ih =>
    intro hnodup x h hnone
    obtain ⟨hi, hnodup⟩ := List.nodup_cons.mp hnodup
    obtain ⟨h₁, hlost₁, hstr₁, hother⟩ := h.field rgfsp label hl i (hnone i List.mem_cons_self)
    have hnone₁ : ∀ j ∈ is,
        ((x.1.field rgcpfd rgfsp label i).fields.descriptors j).pszLabel = none := by
      intro j hj
      rw [hother j fun heq => hi (heq ▸ hj)]
      exact hnone j (List.mem_cons_of_mem i hj)
    obtain ⟨hfst, h₂, hlost₂, hstr₂⟩ := ih hnodup
      (x := (x.1.field rgcpfd rgfsp label i, labelMemory rgcpfd label x.1 i x.2)) h₁ hnone₁
    exact ⟨hfst, h₂, hlost₂.trans hlost₁, hstr₂.trans hstr₁⟩

end

/-- A string of a field that has none yet. -/
theorem Between.string {k : Copying 4} (h : Between k.fields b) (i : Fin 4) (s : WStr) (o : StrDup)
    (hnone : k.fields.strings i = none) :
    Between (k.string i (some s) o).fields (stringMemory k i o b) ∧
      (stringMemory k i o b).lost = b.lost ∧
      ∀ j, j ≠ i → (k.string i (some s) o).fields.strings j = k.fields.strings j := by
  unfold Copying.string stringMemory
  split
  · refine ⟨?_, ?_, fun j hj => Function.update_of_ne hj ..⟩
    · rw [← isSome_shStrDupW s]
      exact h.putString i _ (h.kept.sound.acquire _ _) (acquire_slots_self ..) fun j hj =>
        acquire_slots_ne b _ _ hj
    · apply acquire_lost
      rw [(h.kept.strings i).mpr hnone]
      rfl
  · exact ⟨h, rfl, fun _ _ => rfl⟩

/-- `Initialize` of a credential without strings. -/
theorem Between.copyIn {rgcpfd : Fin 4 → FieldDescriptor} (hl : ∀ i, (rgcpfd i).pszLabel.isSome)
    (rgfsp : Fin 4 → FieldStatePair) (o : CredentialCopies) (h : Between c.fields b)
    (hlabels : ∀ i, (c.fields.descriptors i).pszLabel = none)
    (hstrings : ∀ i, c.fields.strings i = none) :
    Between (c.copyIn rgcpfd rgfsp o).fields (initializeMemory rgcpfd rgfsp o c.fields b) ∧
      (initializeMemory rgcpfd rgfsp o c.fields b).lost = b.lost := by
  obtain ⟨hfst, h₀, hlost₀, hstr₀⟩ := Between.fields rgfsp o.label hl (List.finRange 4)
    (List.nodup_finRange 4) (x := (⟨S_OK, c.fields, []⟩, b)) h fun i _ => hlabels i
  unfold CSampleCredential.copyIn initializeMemory copyFieldsMemory copyFields
  rw [← hfst]
  generalize (List.finRange 4).foldl _ _ = y at h₀ hlost₀ hstr₀ ⊢
  have hnone : ∀ i, y.1.fields.strings i = none := by
    intro i
    rw [hstr₀]
    exact hstrings i
  obtain ⟨h₁, hlost₁, hother₁⟩ :=
    h₀.string SFI_USERNAME (wlit "CSIC互联认证") o.userName (hnone SFI_USERNAME)
  obtain ⟨h₂, hlost₂, hother₂⟩ := h₁.string SFI_PASSWORD (wlit "12345678-a") o.password
    ((hother₁ SFI_PASSWORD (by decide)).trans (hnone SFI_PASSWORD))
  obtain ⟨h₃, hlost₃, -⟩ := h₂.string SFI_SUBMIT_BUTTON (wlit "Submit") o.submit
    ((hother₂ SFI_SUBMIT_BUTTON (by decide)).trans
      ((hother₁ SFI_SUBMIT_BUTTON (by decide)).trans (hnone SFI_SUBMIT_BUTTON)))
  exact ⟨h₃, hlost₃.trans (hlost₂.trans (hlost₁.trans hlost₀))⟩

theorem between_zero : Between (.zero 4) (.empty : TileBook) :=
  ⟨⟨sound_empty, fun _ => ⟨fun _ => rfl, fun _ => rfl⟩, fun _ => ⟨fun _ => rfl, fun _ => rfl⟩⟩,
    fun _ => rfl⟩

theorem between_initialised (cpus : UsageScenario) (o : CredentialCopies) :
    Between (Tile.initialised cpus o).credential.fields (Tile.initialised cpus o).memory ∧
      (Tile.initialised cpus o).memory.lost = [] := by
  have h := Between.copyIn (c := .new) rgCredProvFieldDescriptors_label rgFieldStatePairs o
    between_zero (fun _ => rfl) fun _ => rfl
  simp only [Tile.initialised, initialisedCredential, CSampleCredential.initializeFields]
  exact h

/-! Histories. -/

theorem tile_run : ∀ (calls : List CredentialCall) {t t' : Tile},
    Between t.credential.fields t.memory → runFrom Tile.step always t calls = some t' →
    Between t'.credential.fields t'.memory ∧
      t'.memory.lost.length = t.memory.lost.length + leaks t.credential calls := by
  intro calls
  induction calls with
  | nil =>
    intro t t' h hrun
    obtain rfl := Option.some.inj hrun
    exact ⟨h, rfl⟩
  | cons call calls ih =>
    intro t t' h hrun
    simp only [runFrom, always, if_true] at hrun
    obtain ⟨t₁, hstep, hrest⟩ := Option.bind_eq_some_iff.mp hrun
    obtain ⟨c', hc, rfl⟩ := Option.map_eq_some_iff.mp hstep
    obtain ⟨h₁, hlost₁⟩ := h.call hc
    obtain ⟨h₂, hlost₂⟩ := ih h₁ hrest
    refine ⟨h₂, ?_⟩
    rw [hlost₂, hlost₁, leaks, hc]
    exact Nat.add_assoc _ _ _

/-- Each block was freed once, given away or lost by the end of the destructor, and the lost
    ones are those that the calls of `GetSerialization` lose. -/
theorem tile_memory (cpus : UsageScenario) (o : CredentialCopies) (calls : List CredentialCall)
    (t : Tile) (h : runFrom Tile.step always (Tile.initialised cpus o) calls = some t) :
    let d := destructorMemory t.memory
    (∀ n, d.released.count n + d.given.count n + d.lost.count n = if n < d.next then 1 else 0) ∧
      d.lost.length = leaks (initialisedCredential cpus o) calls := by
  obtain ⟨hinit, hlost₀⟩ := between_initialised cpus o
  obtain ⟨hend, hlost⟩ := tile_run calls hinit h
  rw [hlost₀] at hlost
  intro d
  have hacc : d.Accounted := by
    apply hend.kept.sound.accounted.free_all
    · decide
    · exact fun k _ => hend.kept.sound.fresh k
  have hheld : ∀ k, (d.slots k).held = [] := by
    intro k
    apply free_all_held
    cases k with
    | label i => exact .inl (by revert i; decide)
    | string i => exact .inl (by revert i; decide)
    | temp t =>
      right
      rw [hend.temps t]
      rfl
  refine ⟨fun n => ?_, ?_⟩
  · have hn := hacc n
    rwa [holders_of_none hheld, Nat.zero_add] at hn
  · show (destructorMemory t.memory).lost.length = _
    unfold destructorMemory
    rw [free_all_lost, hlost]
    exact Nat.zero_add _

end

/-- One `GetSerialization` in a history: the user name of `Initialize` and the domain
    information are lost. -/
theorem typed_history_loses_two :
    (destructorMemory (final Tile.step always (Tile.initialised .logon allCopied)
      typedHistory).memory).lost.length = 2 := by
  have hrun : runFrom Tile.step always (Tile.initialised .logon allCopied) typedHistory =
      some (final Tile.step always (Tile.initialised .logon allCopied) typedHistory) := by
    have hsome : (runFrom Tile.step always (Tile.initialised .logon allCopied) typedHistory).isSome := by
      decide +kernel
    obtain ⟨t, ht⟩ := Option.isSome_iff_exists.mp hsome
    rw [final, ht]
    rfl
  have hleaks : leaks (initialisedCredential .logon allCopied) typedHistory = 2 := by
    decide +kernel
  exact (tile_memory .logon allCopied typedHistory _ hrun).2.trans hleaks

end CardLogon
