import CardLogon.Serialization

/- The strings in the fields of a `CSampleCredential`: `SetStringValue`,
   `GetStringValue`, `SetDeselected`, `ReportResult` and the destructor.

   A field holds a pointer, NULL or to a buffer of its own; the model keeps the string
   of the buffer and writes the buffer out (with its NUL) where it is freed. `SHStrDupW`
   sets its output to NULL when it fails.

   What is proved:
     1. `password_wiped_iff`. `SetDeselected` and the destructor zero the password before
        they free it exactly when it has at most 127 characters: both measure it with
        `StringCchLengthW(.., 128, ..)`, and skip the wipe when that fails.
     2. `setStringValue_law_iff`. After any calls, `SetStringValue` is all or nothing
        exactly when it does not free a string it cannot replace. -/
namespace CardLogon
open CText

/-! Buffers. -/

/-- The buffer of a string. -/
def wideBuffer (s : WStr) : List UInt16 := s.val ++ [0]

/-- `SecureZeroMemory` on the first `n` characters. -/
def secureZero (buf : List UInt16) (n : Nat) : List UInt16 := List.replicate n 0 ++ buf.drop n

/-- Every character is zero. -/
def Zeroed (buf : List UInt16) : Prop := ∀ c ∈ buf, c = 0

/-! The methods. -/

/-- `_rgFieldStrings[i] = psz`. -/
def CSampleCredential.putString (c : CSampleCredential) (i : Fin 4) (psz : Option WStr) :
    CSampleCredential :=
  { c with fields := { c.fields with strings := Function.update c.fields.strings i psz } }

@[simp] theorem putString_self (c : CSampleCredential) (i : Fin 4) (psz : Option WStr) :
    (c.putString i psz).fields.strings i = psz := by simp [CSampleCredential.putString]

theorem putString_ne (c : CSampleCredential) {i j : Fin 4} (h : j ≠ i) (psz : Option WStr) :
    (c.putString i psz).fields.strings j = c.fields.strings j := by
  simp [CSampleCredential.putString, h]

/-- `GetStringValue`: the result and `*ppwsz`; `ppwsz` is NULL or what it points to. -/
def CSampleCredential.getStringValue (c : CSampleCredential) (dwFieldID : Nat)
    (ppwsz : Option (Option WStr)) (o : StrDup) : HRESULT × Option (Option WStr) :=
  if h : dwFieldID < 4 ∧ ppwsz.isSome then
    let d := shStrDupW (c.fields.strings ⟨dwFieldID, h.1⟩) o
    (d.1, some d.2)
  else (E_INVALIDARG, ppwsz)

/-- What `SetDeselected` does: the result, the credential, the buffers it frees as they
    are then, and the string it hands to `SetFieldString`. -/
structure Deselected where
  hr : HRESULT
  credential : CSampleCredential
  freed : List (List UInt16)
  setFieldString : Option (Option WStr)

/-- `SetDeselected`, with a callback or without. -/
def CSampleCredential.setDeselected (c : CSampleCredential) (events : Bool) (o : StrDup) :
    Deselected :=
  match c.fields.strings SFI_PASSWORD with
  | none => ⟨S_OK, c, [], none⟩
  | some pw =>
    let len := stringCchLengthW pw 128
    if succeeded len.1 then
      let d := shStrDupW (some (wlit "")) o
      ⟨d.1, c.putString SFI_PASSWORD d.2, [secureZero (wideBuffer pw) len.2],
        if succeeded d.1 && events then some d.2 else none⟩
    else ⟨len.1, c, [], none⟩

/-- The buffers the destructor frees, as they are then. -/
structure Destroyed where
  strings : Fin 4 → Option (List UInt16)
  labels : Fin 4 → Option (List UInt16)

/-- The destructor. -/
def CSampleCredential.destructor (c : CSampleCredential) : Destroyed where
  strings :=
    let buffers := fun i => (c.fields.strings i).map wideBuffer
    match c.fields.strings SFI_PASSWORD with
    | none => buffers
    | some pw =>
      let len := stringCchLengthW pw 128
      if succeeded len.1 then
        Function.update buffers SFI_PASSWORD (some (secureZero (wideBuffer pw) len.2))
      else buffers
  labels := fun i => (c.fields.descriptors i).pszLabel.map wideBuffer

/-! `ReportResult`. -/

/-- CREDENTIAL_PROVIDER_STATUS_ICON. -/
inductive StatusIcon where
  | none
  | error
  | warning
  | success
  deriving DecidableEq

structure ReportResultStatusInfo where
  ntsStatus : UInt32
  ntsSubstatus : UInt32
  pwzMessage : WStr
  cpsi : StatusIcon

def STATUS_SUCCESS : UInt32 := 0
def STATUS_LOGON_FAILURE : UInt32 := 0xC000006D
def STATUS_ACCOUNT_RESTRICTION : UInt32 := 0xC000006E
def STATUS_ACCOUNT_DISABLED : UInt32 := 0xC0000072

def rgLogonStatusInfo : List ReportResultStatusInfo :=
  [⟨STATUS_LOGON_FAILURE, STATUS_SUCCESS, wlit "用户名或密码错误！请重新输入！", .error⟩,
    ⟨STATUS_ACCOUNT_RESTRICTION, STATUS_ACCOUNT_DISABLED, wlit "用户不存在", .warning⟩]

/-- What `ReportResult` gives out: the result, the text, the icon, and the string it hands
    to `SetFieldString`. -/
structure Reported where
  hr : HRESULT
  optionalStatusText : Option WStr
  optionalStatusIcon : StatusIcon
  setFieldString : Option WStr

/-- `ReportResult`; the credential is not touched. -/
def reportResult (ntsStatus ntsSubstatus : UInt32) (events : Bool) (o : StrDup) : Reported :=
  let info := rgLogonStatusInfo.find? fun i =>
    i.ntsStatus == ntsStatus && i.ntsSubstatus == ntsSubstatus
  let shown : Option WStr × StatusIcon :=
    match info with
    | none => (none, .none)
    | some i =>
      let d := shStrDupW (some i.pwzMessage) o
      if succeeded d.1 then (d.2, i.cpsi) else (d.2, .none)
  { hr := S_OK
    optionalStatusText := shown.1
    optionalStatusIcon := shown.2
    setFieldString :=
      if succeeded (hresultFromNt ntsStatus) = false ∧ events = true then some (wlit "") else none }

/-! The wipe. -/

/-- `SetDeselected` leaves an empty password; the old buffer was zeroed when it was
    freed. The copy of the empty string is made. -/
structure DeselectWipes (c : CSampleCredential) (pw : WStr) (events : Bool) : Prop where
  emptied : (c.setDeselected events none).credential.fields.strings SFI_PASSWORD = some (wlit "")
  zeroed : ∃ buf, (c.setDeselected events none).freed = [buf] ∧
    buf.length = (wideBuffer pw).length ∧ Zeroed buf

/-- The destructor frees the buffer of the password zeroed. -/
def DestructorWipes (c : CSampleCredential) (pw : WStr) : Prop :=
  ∃ buf, c.destructor.strings SFI_PASSWORD = some buf ∧ buf.length = (wideBuffer pw).length ∧
    Zeroed buf

/-- The password is wiped on both ways. -/
structure PasswordWiped (c : CSampleCredential) (pw : WStr) : Prop where
  deselect : ∀ events, DeselectWipes c pw events
  destructor : DestructorWipes c pw

theorem secureZero_buffer (s : WStr) :
    secureZero (wideBuffer s) s.val.length = List.replicate (s.val.length + 1) 0 := by
  unfold secureZero wideBuffer
  rw [List.drop_left, List.replicate_succ']

theorem zeroed_secureZero (s : WStr) :
    (secureZero (wideBuffer s) s.val.length).length = (wideBuffer s).length ∧
      Zeroed (secureZero (wideBuffer s) s.val.length) := by
  rw [secureZero_buffer]
  refine ⟨by simp [wideBuffer], ?_⟩
  intro c hc
  exact List.eq_of_mem_replicate hc

/-- A string has no NUL, so that only the empty one is all zeros. -/
theorem not_zeroed_buffer {s : WStr} (h : s.val ≠ []) : ¬ Zeroed (wideBuffer s) := by
  intro hz
  obtain ⟨c, cs, hs⟩ := List.exists_cons_of_ne_nil h
  have hmem : c ∈ s.val := by
    rw [hs]
    exact List.mem_cons_self
  obtain rfl : c = 0 := hz c (List.mem_append_left [0] hmem)
  exact s.property hmem

/-- The bounded length call, on both ways. -/
theorem stringCchLengthW_cases (s : WStr) (cchMax : Nat) :
    (s.val.length < cchMax ∧ stringCchLengthW s cchMax = (S_OK, s.val.length)) ∨
    (cchMax ≤ s.val.length ∧ stringCchLengthW s cchMax = (STRSAFE_E_INVALID_PARAMETER, 0)) := by
  by_cases h : s.val.length < cchMax
  · exact .inl ⟨h, if_pos h⟩
  · exact .inr ⟨by omega, if_neg h⟩

section
variable {c : CSampleCredential} {pw : WStr} (h : c.fields.strings SFI_PASSWORD = some pw)
include h

theorem deselect_wipes_iff (events : Bool) :
    DeselectWipes c pw events ↔ pw.val.length < 128 := by
  obtain ⟨hlt, hlen⟩ | ⟨hge, hlen⟩ := stringCchLengthW_cases pw 128
  · refine ⟨fun _ => hlt, fun _ => ?_⟩
    have hdes : c.setDeselected events none =
        ⟨S_OK, c.putString SFI_PASSWORD (some (wlit "")),
          [secureZero (wideBuffer pw) pw.val.length],
          if succeeded S_OK && events then some (some (wlit "")) else none⟩ := by
      unfold CSampleCredential.setDeselected
      rw [h]
      dsimp only
      rw [hlen, if_pos (show succeeded S_OK = true from rfl)]
      rfl
    exact
      { emptied := by
          rw [hdes]
          exact putString_self c SFI_PASSWORD _
        zeroed := by
          rw [hdes]
          exact ⟨_, rfl, zeroed_secureZero pw⟩ }
  -- the length call fails: nothing is freed, and the password stays
  · constructor
    · intro hw
      obtain ⟨buf, hfreed, -⟩ := hw.zeroed
      have hnone : (c.setDeselected events none).freed = [] := by
        unfold CSampleCredential.setDeselected
        rw [h]
        dsimp only
        rw [hlen, if_neg (by decide)]
      rw [hnone] at hfreed
      cases hfreed
    · intro hlt
      omega

theorem destructor_wipes_iff : DestructorWipes c pw ↔ pw.val.length < 128 := by
  obtain ⟨hlt, hlen⟩ | ⟨hge, hlen⟩ := stringCchLengthW_cases pw 128
  · refine ⟨fun _ => hlt, fun _ => ?_⟩
    refine ⟨secureZero (wideBuffer pw) pw.val.length, ?_, zeroed_secureZero pw⟩
    unfold CSampleCredential.destructor
    dsimp only
    rw [h]
    dsimp only
    rw [hlen, if_pos (show succeeded S_OK = true from rfl)]
    exact Function.update_self SFI_PASSWORD _ _
  · constructor
    · intro hw
      obtain ⟨buf, hbuf, -, hzero⟩ := hw
      have hkept : c.destructor.strings SFI_PASSWORD = some (wideBuffer pw) := by
        unfold CSampleCredential.destructor
        dsimp only
        rw [h]
        dsimp only
        rw [hlen, if_neg (by decide), h]
        rfl
      obtain rfl : wideBuffer pw = buf := Option.some.inj (hkept.symm.trans hbuf)
      have hne : pw.val ≠ [] := by
        intro hnil
        rw [hnil] at hge
        exact absurd hge (by decide)
      exact absurd hzero (not_zeroed_buffer hne)
    · intro hlt
      omega

/-- The stored password is wiped on both ways exactly when it has at most 127
    characters. These are the ways that mean to wipe it: `SetStringValue` frees the string
    that it replaces as it is, and nothing here notes that buffer. -/
theorem password_wiped_iff : PasswordWiped c pw ↔ pw.val.length < 128 := by
  constructor
  · intro hw
    exact (destructor_wipes_iff h).mp hw.destructor
  · intro hlt
    exact ⟨fun events => (deselect_wipes_iff h events).mpr hlt, (destructor_wipes_iff h).mpr hlt⟩

end

/-- A password of `n` letters. -/
def letters (n : Nat) : WStr := ⟨List.replicate n 97, fun h => (by decide : (0 : UInt16) ≠ 97)
  (List.eq_of_mem_replicate h)⟩

/-- The credential of the logon tile after a password was typed. -/
def typed (pw : WStr) : CSampleCredential :=
  (logonCredential.setStringValue SFI_PASSWORD pw none).2

theorem short_password_wiped : PasswordWiped (typed (letters 127)) (letters 127) :=
  (password_wiped_iff (c := typed (letters 127)) rfl).mpr (by simp [letters])

/-- A longer one stays in the field, and is freed as it is. -/
theorem long_password_kept : ¬ ∀ (c : CSampleCredential) (pw : WStr) (o : StrDup),
    succeeded (c.setStringValue SFI_PASSWORD pw o).1 = true →
      PasswordWiped (c.setStringValue SFI_PASSWORD pw o).2 pw := by
  intro hall
  have hw := hall logonCredential (letters 128) none rfl
  obtain ⟨buf, hfreed, -⟩ := (hw.deselect false).zeroed
  have hnone : (((typed (letters 128)).setDeselected false none).freed).length = 0 := by
    decide +kernel
  have hone : (((typed (letters 128)).setDeselected false none).freed).length = 1 :=
    congrArg List.length hfreed
  omega

/-! Setting a field. -/

/-- `SetStringValue` takes a string for the field. -/
def CSampleCredential.Accepts (c : CSampleCredential) (dwFieldID : Nat) : Prop :=
  ∃ i : Fin 4, i.val = dwFieldID ∧ ((c.fields.descriptors i).cpft = .editText ∨
    (c.fields.descriptors i).cpft = .passwordText)

/-- What the field holds. -/
def CSampleCredential.stored (c : CSampleCredential) (dwFieldID : Nat) : Option WStr :=
  if h : dwFieldID < 4 then c.fields.strings ⟨dwFieldID, h⟩ else none

/-- A failure leaves what `GetStringValue` gives for every field; a success changes it for
    the one field, to the new string. -/
structure SetLaw (c : CSampleCredential) (dwFieldID : Nat) (pwz : WStr) (o : StrDup) : Prop where
  failed : succeeded (c.setStringValue dwFieldID pwz o).1 = false → ∀ id p d,
    (c.setStringValue dwFieldID pwz o).2.getStringValue id p d = c.getStringValue id p d
  set : succeeded (c.setStringValue dwFieldID pwz o).1 = true → ∀ p,
    (c.setStringValue dwFieldID pwz o).2.getStringValue dwFieldID (some p) none =
      (S_OK, some (some pwz))
  others : succeeded (c.setStringValue dwFieldID pwz o).1 = true → ∀ id, id ≠ dwFieldID → ∀ p d,
    (c.setStringValue dwFieldID pwz o).2.getStringValue id p d = c.getStringValue id p d

/-- A string that is freed can be replaced. -/
def SetSafe (c : CSampleCredential) (dwFieldID : Nat) (o : StrDup) : Prop :=
  c.Accepts dwFieldID → o = none ∨ c.stored dwFieldID = none

/-- The field is rejected, or it holds the copy. -/
theorem setStringValue_cases (c : CSampleCredential) (dwFieldID : Nat) (pwz : WStr) (o : StrDup) :
    (¬ c.Accepts dwFieldID ∧ c.setStringValue dwFieldID pwz o = (E_INVALIDARG, c)) ∨
    (∃ i : Fin 4, i.val = dwFieldID ∧ c.Accepts dwFieldID ∧ c.setStringValue dwFieldID pwz o =
      ((shStrDupW (some pwz) o).1, c.putString i (shStrDupW (some pwz) o).2)) := by
  unfold CSampleCredential.setStringValue
  by_cases hid : dwFieldID < 4
  · rw [dif_pos hid]
    dsimp only
    by_cases hcpft : (c.fields.descriptors ⟨dwFieldID, hid⟩).cpft = .editText ∨
        (c.fields.descriptors ⟨dwFieldID, hid⟩).cpft = .passwordText
    · rw [if_pos hcpft]
      exact .inr ⟨⟨dwFieldID, hid⟩, rfl, ⟨⟨dwFieldID, hid⟩, rfl, hcpft⟩, rfl⟩
    · rw [if_neg hcpft]
      refine .inl ⟨?_, rfl⟩
      intro ha
      obtain ⟨i, rfl, hi⟩ := ha
      exact hcpft hi
  · rw [dif_neg hid]
    refine .inl ⟨?_, rfl⟩
    intro ha
    obtain ⟨i, rfl, -⟩ := ha
    exact hid i.isLt

/-- `GetStringValue` reads the string of the field, and nothing else. -/
theorem getStringValue_congr {c c' : CSampleCredential} {id : Nat}
    (h : ∀ i : Fin 4, i.val = id → c'.fields.strings i = c.fields.strings i)
    (p : Option (Option WStr)) (d : StrDup) : c'.getStringValue id p d = c.getStringValue id p d := by
  unfold CSampleCredential.getStringValue
  by_cases hid : id < 4 ∧ p.isSome
  · rw [dif_pos hid, dif_pos hid, h ⟨id, hid.1⟩ rfl]
  · rw [dif_neg hid, dif_neg hid]

theorem getStringValue_stored {c : CSampleCredential} {i : Fin 4} (p : Option WStr) (d : StrDup) :
    c.getStringValue i.val (some p) d =
      ((shStrDupW (c.fields.strings i) d).1, some (shStrDupW (c.fields.strings i) d).2) := by
  unfold CSampleCredential.getStringValue
  rw [dif_pos ⟨i.isLt, rfl⟩]

/-- Only one field changes. -/
theorem getStringValue_putString (c : CSampleCredential) (i : Fin 4) (psz : Option WStr) {id : Nat}
    (h : id ≠ i.val) (p : Option (Option WStr)) (d : StrDup) :
    (c.putString i psz).getStringValue id p d = c.getStringValue id p d := by
  apply getStringValue_congr
  intro j hj
  apply putString_ne
  intro hji
  exact h (hj.symm.trans (congrArg Fin.val hji))

/-- One call of `SetStringValue`. -/
theorem setLaw_iff (c : CSampleCredential) (dwFieldID : Nat) (pwz : WStr) (o : StrDup) :
    SetLaw c dwFieldID pwz o ↔ SetSafe c dwFieldID o := by
  obtain ⟨hrej, hrun⟩ | ⟨i, rfl, hacc, hrun⟩ := setStringValue_cases c dwFieldID pwz o
  · refine ⟨fun _ hacc => absurd hacc hrej, fun _ => ?_⟩
    exact
      { failed := by
          rw [hrun]
          exact fun _ _ _ _ => rfl
        set := by
          rw [hrun]
          intro hok
          cases hok
        others := by
          rw [hrun]
          exact fun _ _ _ _ _ => rfl }
  · have hstored : c.stored i.val = c.fields.strings i := dif_pos i.isLt
    obtain ⟨rfl, hdup⟩ | ⟨e, rfl, hdup⟩ := shStrDupW_cases pwz o
    · refine ⟨fun _ _ => .inl rfl, fun _ => ?_⟩
      rw [hdup] at hrun
      exact
        { failed := by
            rw [hrun]
            intro hbad
            cases hbad
          set := by
            rw [hrun]
            intro _ p
            rw [getStringValue_stored, putString_self]
            rfl
          others := by
            rw [hrun]
            intro _ id hne p d
            exact getStringValue_putString c i _ hne p d }
    -- the copy fails after the old string is gone
    · rw [hdup] at hrun
      constructor
      · intro hlaw _
        right
        have hsame := hlaw.failed (by rw [hrun]; exact e.property) i.val (some none) none
        rw [hrun, getStringValue_stored, getStringValue_stored, putString_self] at hsame
        rw [hstored]
        cases hs : c.fields.strings i with
        | none => rfl
        | some s =>
          rw [hs] at hsame
          cases hsame
      · intro hsafe
        obtain hnone | hnone := hsafe hacc
        · cases hnone
        · exact
            { failed := by
                rw [hrun]
                intro _ id p d
                apply getStringValue_congr
                intro j hj
                by_cases hji : j = i
                · rw [hji, putString_self, ← hstored, hnone]
                · exact putString_ne c hji none
              set := by
                rw [hrun]
                intro hok
                rw [e.property] at hok
                cases hok
              others := by
                rw [hrun]
                intro hok
                rw [e.property] at hok
                cases hok }

/-! Any calls. -/

/-- The calls LogonUI makes for the fields. -/
inductive FieldCall where
  | setStringValue (dwFieldID : Nat) (pwz : WStr) (o : StrDup)
  | setDeselected (events : Bool) (o : StrDup)
  | getStringValue (dwFieldID : Nat) (ppwsz : Option (Option WStr)) (o : StrDup)

def CSampleCredential.call (c : CSampleCredential) : FieldCall → CSampleCredential
  | .setStringValue dwFieldID pwz o => (c.setStringValue dwFieldID pwz o).2
  | .setDeselected events o => (c.setDeselected events o).credential
  | .getStringValue _ _ _ => c

def CSampleCredential.calls (c : CSampleCredential) (cs : List FieldCall) : CSampleCredential :=
  cs.foldl CSampleCredential.call c

/-- After any calls `SetStringValue` is all or nothing exactly when the field is rejected,
    or the copy is made, or there was no string to lose. -/
theorem setStringValue_law_iff (c : CSampleCredential) (cs : List FieldCall) (dwFieldID : Nat)
    (pwz : WStr) (o : StrDup) :
    SetLaw (c.calls cs) dwFieldID pwz o ↔ SetSafe (c.calls cs) dwFieldID o :=
  setLaw_iff (c.calls cs) dwFieldID pwz o

/-- There is no memory for the new password: the old one is gone. -/
theorem password_lost : ¬ ∀ c dwFieldID pwz o, SetLaw c dwFieldID pwz o := by
  intro hall
  have hsafe := (setLaw_iff _ _ _ _).mp
    (hall logonCredential SFI_PASSWORD (letters 1) (some ⟨E_OUTOFMEMORY, by decide⟩))
  obtain h | h := hsafe ⟨SFI_PASSWORD, rfl, .inr rfl⟩
  · cases h
  · cases h

end CardLogon
