import CardLogon.RefCount
import Mathlib.Data.List.FinRange
import Mathlib.Data.Fintype.Basic

/- `CSampleCredential` and `CMessageCredential`: the fields of a tile and the
   `Initialize` methods that copy them from the tables of `common.h`.

   Both classes keep three arrays over their fields and copy with the same loop; a
   loop that stops at the first failure is a pass over all indices that does nothing
   after one. Every string is copied by `SHStrDupW`, which may fail at any call; the
   results of the calls made are kept next to the fields. `Initialize` keeps the
   running `hr` and then returns S_OK.

   What is proved: the running `hr` is S_OK exactly when every copy succeeded
   (`sampleCredential_hr_iff`, `messageCredential_hr_iff`) and then the fields are the
   tables (`sampleCredential_filled`, `messageCredential_filled`); otherwise it is the
   result of a copy that failed, and `Initialize` forgets it. -/
namespace CardLogon

/-! Fields and tables. -/

/-- CREDENTIAL_PROVIDER_FIELD_TYPE. -/
inductive FieldType where
  | invalid
  | largeText
  | smallText
  | commandLink
  | editText
  | passwordText
  | tileImage
  | checkbox
  | combobox
  | submitButton
  deriving DecidableEq

/-- CREDENTIAL_PROVIDER_FIELD_STATE. -/
inductive FieldState where
  | hidden
  | displayInSelectedTile
  | displayInDeselectedTile
  | displayInBoth
  deriving DecidableEq

/-- CREDENTIAL_PROVIDER_FIELD_INTERACTIVE_STATE. -/
inductive FieldInteractiveState where
  | none
  | readonly
  | disabled
  | focused
  deriving DecidableEq

/-- CREDENTIAL_PROVIDER_FIELD_DESCRIPTOR. -/
structure FieldDescriptor where
  dwFieldID : Nat
  cpft : FieldType
  pszLabel : Option WStr
  deriving DecidableEq

/-- FIELD_STATE_PAIR. -/
structure FieldStatePair where
  cpfs : FieldState
  cpfis : FieldInteractiveState
  deriving DecidableEq

/-- The wide characters of a source literal. -/
def wlit (s : String) : WStr :=
  ⟨(s.toList.map fun c => UInt16.ofNat c.toNat).filter (· ≠ 0), by simp⟩

/-- SAMPLE_FIELD_ID. -/
def SFI_TILEIMAGE : Fin 4 := 0
def SFI_USERNAME : Fin 4 := 1
def SFI_PASSWORD : Fin 4 := 2
def SFI_SUBMIT_BUTTON : Fin 4 := 3

/-- SAMPLE_MESSAGE_FIELD_ID. -/
def SMFI_MESSAGE : Fin 1 := 0

def rgFieldStatePairs : Fin 4 → FieldStatePair
  | 0 => ⟨.displayInBoth, .none⟩
  | 1 => ⟨.displayInBoth, .none⟩
  | 2 => ⟨.displayInBoth, .none⟩
  | 3 => ⟨.displayInSelectedTile, .none⟩

def rgMessageFieldStatePairs : Fin 1 → FieldStatePair
  | 0 => ⟨.displayInBoth, .none⟩

def rgCredProvFieldDescriptors : Fin 4 → FieldDescriptor
  | 0 => ⟨0, .tileImage, some (wlit "Image")⟩
  | 1 => ⟨1, .largeText, some (wlit "Username")⟩
  | 2 => ⟨2, .passwordText, some (wlit "Password")⟩
  | 3 => ⟨3, .submitButton, some (wlit "Submit")⟩

def rgMessageCredProvFieldDescriptors : Fin 1 → FieldDescriptor
  | 0 => ⟨0, .largeText, some (wlit "请连接！")⟩

/-! Copies. -/

/-- A result with the sign bit set. -/
abbrev FailedHr := {hr : HRESULT // succeeded hr = false}

/-- `HRESULT_FROM_WIN32`. -/
def hresultFromWin32 (x : UInt32) : HRESULT :=
  if x = 0 ∨ 0x80000000 ≤ x then x else (x &&& 0xFFFF) ||| 0x80070000

/-- What `SHStrDupW` does with a string: it copies it (`none`) or fails. -/
abbrev StrDup := Option FailedHr

def shStrDupW (psz : Option WStr) (o : StrDup) : HRESULT × Option WStr :=
  match psz, o with
  | none, _ => (E_INVALIDARG, none)
  | some s, none => (S_OK, some s)
  | some _, some e => (e.val, none)

/-- The arrays of a credential with `n` fields. -/
structure Fields (n : Nat) where
  descriptors : Fin n → FieldDescriptor
  statePairs : Fin n → FieldStatePair
  strings : Fin n → Option WStr

/-- The arrays after `ZeroMemory`. -/
def Fields.zero (n : Nat) : Fields n where
  descriptors := fun _ => ⟨0, .invalid, none⟩
  statePairs := fun _ => ⟨.hidden, .none⟩
  strings := fun _ => none

/-- `Initialize` under way: the running `hr`, the arrays, and what each `SHStrDupW`
    made so far returned. -/
structure Copying (n : Nat) where
  hr : HRESULT
  fields : Fields n
  copies : List HRESULT

/-- `FieldDescriptorCopy` into `*pcpfd`. -/
def fieldDescriptorCopy (rcpfd pcpfd : FieldDescriptor) (o : StrDup) :
    HRESULT × FieldDescriptor × List HRESULT :=
  match rcpfd.pszLabel with
  | some label =>
    let d := shStrDupW (some label) o
    (d.1, if succeeded d.1 then { rcpfd with pszLabel := d.2 } else pcpfd, [d.1])
  | none => (S_OK, { rcpfd with pszLabel := none }, [])

section
variable {n : Nat}

/-- One turn of the loop over the fields. -/
def Copying.field (rgcpfd : Fin n → FieldDescriptor) (rgfsp : Fin n → FieldStatePair)
    (label : Fin n → StrDup) (c : Copying n) (i : Fin n) : Copying n :=
  if succeeded c.hr then
    let d := fieldDescriptorCopy (rgcpfd i) (c.fields.descriptors i) (label i)
    { hr := d.1
      fields :=
        { c.fields with
          descriptors := Function.update c.fields.descriptors i d.2.1
          statePairs := Function.update c.fields.statePairs i (rgfsp i) }
      copies := c.copies ++ d.2.2 }
  else c

/-- `if (SUCCEEDED(hr)) hr = SHStrDupW(psz, &_rgFieldStrings[i]);`. -/
def Copying.string (c : Copying n) (i : Fin n) (psz : Option WStr) (o : StrDup) : Copying n :=
  if succeeded c.hr then
    let d := shStrDupW psz o
    { hr := d.1
      fields := { c.fields with strings := Function.update c.fields.strings i d.2 }
      copies := c.copies ++ [d.1] }
  else c

/-- The loop over the fields. -/
def copyFields (rgcpfd : Fin n → FieldDescriptor) (rgfsp : Fin n → FieldStatePair)
    (label : Fin n → StrDup) (f : Fields n) : Copying n :=
  (List.finRange n).foldl (Copying.field rgcpfd rgfsp label) ⟨S_OK, f, []⟩

end

/-! The two classes. -/

structure CSampleCredential where
  cRef : Int32
  cpus : Option UsageScenario
  fields : Fields 4

/-- The constructor; `_cpus` is not set. -/
def CSampleCredential.new : CSampleCredential := ⟨1, none, .zero 4⟩

structure CMessageCredential where
  cRef : Int32
  fields : Fields 1

def CMessageCredential.new : CMessageCredential := ⟨1, .zero 1⟩

/-- What the copies of one `CSampleCredential::Initialize` do, if they are made. -/
structure CredentialCopies where
  label : Fin 4 → StrDup
  userName : StrDup
  password : StrDup
  submit : StrDup

/-- What the copies of one `CMessageCredential::Initialize` do, if they are made. -/
structure MessageCopies where
  label : Fin 1 → StrDup
  message : StrDup

/-- `CSampleCredential::Initialize` up to its `return`. -/
def CSampleCredential.copyIn (rgcpfd : Fin 4 → FieldDescriptor) (rgfsp : Fin 4 → FieldStatePair)
    (o : CredentialCopies) (c : CSampleCredential) : Copying 4 :=
  (((copyFields rgcpfd rgfsp o.label c.fields).string
    SFI_USERNAME (some (wlit "CSIC互联认证")) o.userName).string
    SFI_PASSWORD (some (wlit "12345678-a")) o.password).string
    SFI_SUBMIT_BUTTON (some (wlit "Submit")) o.submit

/-- `CSampleCredential::Initialize`: the result, the credential and the results of the
    copies. -/
def CSampleCredential.initializeFields (cpus : Option UsageScenario)
    (rgcpfd : Fin 4 → FieldDescriptor) (rgfsp : Fin 4 → FieldStatePair) (o : CredentialCopies)
    (c : CSampleCredential) : HRESULT × CSampleCredential × List HRESULT :=
  let k := c.copyIn rgcpfd rgfsp o
  (S_OK, { c with cpus := cpus, fields := k.fields }, k.copies)

/-- `CMessageCredential::Initialize` up to its `return`. -/
def CMessageCredential.copyIn (rgcpfd : Fin 1 → FieldDescriptor) (rgfsp : Fin 1 → FieldStatePair)
    (szMessage : Option WStr) (o : MessageCopies) (c : CMessageCredential) : Copying 1 :=
  (copyFields rgcpfd rgfsp o.label c.fields).string SMFI_MESSAGE szMessage o.message

/-- `CMessageCredential::Initialize`. -/
def CMessageCredential.initializeFields (rgcpfd : Fin 1 → FieldDescriptor)
    (rgfsp : Fin 1 → FieldStatePair) (szMessage : Option WStr) (o : MessageCopies)
    (c : CMessageCredential) : HRESULT × CMessageCredential × List HRESULT :=
  let k := c.copyIn rgcpfd rgfsp szMessage o
  (S_OK, { c with fields := k.fields }, k.copies)

/-! What the copies do. -/

/-- The running `hr` tells how the copies went: all well, or it is one that failed. -/
def Tracks {n : Nat} (c : Copying n) : Prop :=
  (c.hr = S_OK ∧ ∀ e ∈ c.copies, e = S_OK) ∨ (succeeded c.hr = false ∧ c.hr ∈ c.copies)

/-- A copy is complete, or it is NULL and the result says so. -/
theorem shStrDupW_cases (s : WStr) (o : StrDup) :
    (o = none ∧ shStrDupW (some s) o = (S_OK, some s)) ∨
    (∃ e : FailedHr, o = some e ∧ shStrDupW (some s) o = (e.val, none)) := by
  cases o with
  | none => exact .inl ⟨rfl, rfl⟩
  | some e => exact .inr ⟨e, rfl, rfl⟩

theorem fieldDescriptorCopy_cases {rcpfd : FieldDescriptor} (h : rcpfd.pszLabel.isSome)
    (pcpfd : FieldDescriptor) (o : StrDup) :
    (o = none ∧ fieldDescriptorCopy rcpfd pcpfd o = (S_OK, rcpfd, [S_OK])) ∨
    (∃ e : FailedHr, o = some e ∧ fieldDescriptorCopy rcpfd pcpfd o = (e.val, pcpfd, [e.val])) := by
  obtain ⟨id, cpft, label⟩ := rcpfd
  obtain ⟨s, rfl⟩ := Option.isSome_iff_exists.mp h
  unfold fieldDescriptorCopy
  obtain ⟨ho, hd⟩ | ⟨e, ho, hd⟩ := shStrDupW_cases s o
  · left
    refine ⟨ho, ?_⟩
    simp only [hd]
    rfl
  · right
    refine ⟨e, ho, ?_⟩
    simp only [hd, e.property, Bool.false_eq_true, if_false]

section
variable {n : Nat} {c : Copying n}

theorem FailedHr.ne_S_OK (e : FailedHr) : e.val ≠ S_OK := by
  intro he
  have hf := e.property
  rw [he] at hf
  cases hf

theorem Tracks.ok_iff (h : Tracks c) : succeeded c.hr = true ↔ c.hr = S_OK := by
  obtain ⟨hok, -⟩ | ⟨hf, -⟩ := h
  · rw [hok]
    exact ⟨fun _ => rfl, fun _ => rfl⟩
  · constructor
    · intro hs
      rw [hf] at hs
      cases hs
    · intro hok
      rw [hok]
      rfl

theorem Tracks.extend {hr : HRESULT} {f : Fields n} (h : Tracks c) (hc : c.hr = S_OK)
    (hhr : hr = S_OK ∨ succeeded hr = false) : Tracks ⟨hr, f, c.copies ++ [hr]⟩ := by
  obtain ⟨-, hcopies⟩ | ⟨hf, -⟩ := h
  · obtain rfl | hbad := hhr
    · left
      refine ⟨rfl, ?_⟩
      intro e he
      obtain he | he := List.mem_append.mp he
      · exact hcopies e he
      · exact List.mem_singleton.mp he
    · exact .inr ⟨hbad, by simp⟩
  · rw [hc] at hf
    cases hf

/-- A guarded step that makes one copy: `r` is its result, `f` what it leaves, `good`
    what it leaves when the copy succeeds. -/
theorem copy_spec (h : Tracks c) {o : StrDup} {r : HRESULT} {f good : Fields n}
    (hr : (o = none ∧ r = S_OK ∧ f = good) ∨ (∃ e : FailedHr, o = some e ∧ r = e.val)) :
    let c' : Copying n := if succeeded c.hr then ⟨r, f, c.copies ++ [r]⟩ else c
    Tracks c' ∧ (c'.hr = S_OK ↔ c.hr = S_OK ∧ o = none) ∧
      (c.hr = S_OK → o = none → c'.fields = good) := by
  intro c'
  by_cases hc : c.hr = S_OK
  · have hc' : c' = ⟨r, f, c.copies ++ [r]⟩ := if_pos (h.ok_iff.mpr hc)
    rw [hc']
    obtain ⟨rfl, rfl, rfl⟩ | ⟨e, rfl, rfl⟩ := hr
    · exact ⟨h.extend hc (.inl rfl), by simp [hc], fun _ _ => rfl⟩
    · exact ⟨h.extend hc (.inr e.property), by simp [e.ne_S_OK], fun _ h => (nomatch h)⟩
  · have hc' : c' = c := if_neg fun hs => hc (h.ok_iff.mp hs)
    rw [hc']
    exact ⟨h, by simp [hc], fun he => absurd he hc⟩

/-- Copying one string. -/
theorem string_spec (h : Tracks c) (i : Fin n) (s : WStr) (o : StrDup) :
    Tracks (c.string i (some s) o) ∧
    ((c.string i (some s) o).hr = S_OK ↔ c.hr = S_OK ∧ o = none) ∧
    (c.hr = S_OK → o = none → (c.string i (some s) o).fields =
      { c.fields with strings := Function.update c.fields.strings i (some s) }) := by
  apply copy_spec h
  obtain ⟨ho, hd⟩ | ⟨e, ho, hd⟩ := shStrDupW_cases s o
  · rw [hd]
    exact .inl ⟨ho, rfl, rfl⟩
  · rw [hd]
    exact .inr ⟨e, ho, rfl⟩

/-- Copying one field. -/
theorem field_spec {rgcpfd : Fin n → FieldDescriptor} (hl : ∀ i, (rgcpfd i).pszLabel.isSome)
    (rgfsp : Fin n → FieldStatePair) (label : Fin n → StrDup) (h : Tracks c) (i : Fin n) :
    Tracks (c.field rgcpfd rgfsp label i) ∧
    ((c.field rgcpfd rgfsp label i).hr = S_OK ↔ c.hr = S_OK ∧ label i = none) ∧
    (c.hr = S_OK → label i = none → (c.field rgcpfd rgfsp label i).fields =
      { c.fields with
        descriptors := Function.update c.fields.descriptors i (rgcpfd i)
        statePairs := Function.update c.fields.statePairs i (rgfsp i) }) := by
  unfold Copying.field
  obtain ⟨ho, hd⟩ | ⟨e, ho, hd⟩ :=
    fieldDescriptorCopy_cases (hl i) (c.fields.descriptors i) (label i)
  · simp only [hd]
    exact copy_spec h (.inl ⟨ho, rfl, rfl⟩)
  · simp only [hd]
    exact copy_spec h (.inr ⟨e, ho, rfl⟩)

/-- Writing an index after the list is covered already, or before. -/
theorem update_fold {α : Type} (f g : Fin n → α) (i : Fin n) (is : List (Fin n)) :
    (fun j => if j ∈ is then f j else Function.update g i (f i) j) =
      fun j => if j ∈ i :: is then f j else g j := by
  funext j
  by_cases hj : j ∈ is
  · simp [hj]
  · by_cases hji : j = i
    · simp [hji]
    · simp [hj, hji]

/-- The loop, from any point of it. -/
theorem foldl_field_spec {rgcpfd : Fin n → FieldDescriptor} (hl : ∀ i, (rgcpfd i).pszLabel.isSome)
    (rgfsp : Fin n → FieldStatePair) (label : Fin n → StrDup) :
    ∀ (is : List (Fin n)) {c : Copying n}, Tracks c →
      Tracks (is.foldl (Copying.field rgcpfd rgfsp label) c) ∧
      ((is.foldl (Copying.field rgcpfd rgfsp label) c).hr = S_OK ↔
        c.hr = S_OK ∧ ∀ i ∈ is, label i = none) ∧
      (c.hr = S_OK → (∀ i ∈ is, label i = none) →
        (is.foldl (Copying.field rgcpfd rgfsp label) c).fields =
          { c.fields with
            descriptors := fun i => if i ∈ is then rgcpfd i else c.fields.descriptors i
            statePairs := fun i => if i ∈ is then rgfsp i else c.fields.statePairs i })
  | [], c, h => ⟨h, by simp, fun _ _ => by simp⟩
  | i :: is, c, h => by
    obtain ⟨h₁, hr₁, hf₁⟩ := field_spec hl rgfsp label h i
    obtain ⟨h₂, hr₂, hf₂⟩ := foldl_field_spec hl rgfsp label is h₁
    rw [List.foldl_cons]
    refine ⟨h₂, ?_, ?_⟩
    · rw [hr₂, hr₁, List.forall_mem_cons, and_assoc]
    · intro hc hall
      obtain ⟨hi, his⟩ := List.forall_mem_cons.mp hall
      rw [hf₂ (hr₁.mpr ⟨hc, hi⟩) his, hf₁ hc hi]
      dsimp only
      rw [update_fold, update_fold]

/-- The loop over all fields. -/
theorem copyFields_spec {rgcpfd : Fin n → FieldDescriptor} (hl : ∀ i, (rgcpfd i).pszLabel.isSome)
    (rgfsp : Fin n → FieldStatePair) (label : Fin n → StrDup) (f : Fields n) :
    Tracks (copyFields rgcpfd rgfsp label f) ∧
    ((copyFields rgcpfd rgfsp label f).hr = S_OK ↔ ∀ i, label i = none) ∧
    ((∀ i, label i = none) → (copyFields rgcpfd rgfsp label f).fields =
      { f with descriptors := rgcpfd, statePairs := rgfsp }) := by
  have h₀ : Tracks (⟨S_OK, f, []⟩ : Copying n) := .inl ⟨rfl, by simp⟩
  obtain ⟨h, hr, hf⟩ := foldl_field_spec hl rgfsp label (List.finRange n) h₀
  refine ⟨h, ?_, ?_⟩
  · unfold copyFields
    rw [hr]
    simp
  · intro hall
    unfold copyFields
    rw [hf rfl fun i _ => hall i]
    simp

end

/-- The tables have a label in every row. -/
theorem rgCredProvFieldDescriptors_label (i : Fin 4) :
    (rgCredProvFieldDescriptors i).pszLabel.isSome := by
  revert i
  decide

theorem rgMessageCredProvFieldDescriptors_label (i : Fin 1) :
    (rgMessageCredProvFieldDescriptors i).pszLabel.isSome := by
  revert i
  decide

/-- Every copy of an `Initialize` succeeds. -/
def CredentialCopies.AllOk (o : CredentialCopies) : Prop :=
  (∀ i, o.label i = none) ∧ o.userName = none ∧ o.password = none ∧ o.submit = none

def MessageCopies.AllOk (o : MessageCopies) : Prop :=
  (∀ i, o.label i = none) ∧ o.message = none

instance (o : CredentialCopies) : Decidable o.AllOk := inferInstanceAs (Decidable (_ ∧ _))

instance (o : MessageCopies) : Decidable o.AllOk := inferInstanceAs (Decidable (_ ∧ _))

/-- The fields are the table's and the three strings are there. -/
structure CSampleCredential.Filled (rgcpfd : Fin 4 → FieldDescriptor)
    (rgfsp : Fin 4 → FieldStatePair) (c : CSampleCredential) : Prop where
  descriptors_eq : c.fields.descriptors = rgcpfd
  statePairs_eq : c.fields.statePairs = rgfsp
  userName : c.fields.strings SFI_USERNAME ≠ none
  password : c.fields.strings SFI_PASSWORD ≠ none
  submit : c.fields.strings SFI_SUBMIT_BUTTON ≠ none

structure CMessageCredential.Filled (rgcpfd : Fin 1 → FieldDescriptor)
    (rgfsp : Fin 1 → FieldStatePair) (c : CMessageCredential) : Prop where
  descriptors_eq : c.fields.descriptors = rgcpfd
  statePairs_eq : c.fields.statePairs = rgfsp
  message : c.fields.strings SMFI_MESSAGE ≠ none

section
variable {rgfsp : Fin 4 → FieldStatePair} {rgcpfd : Fin 4 → FieldDescriptor}
  (hl : ∀ i, (rgcpfd i).pszLabel.isSome) (o : CredentialCopies) (c : CSampleCredential)
include hl

/-- The running `hr` of `CSampleCredential::Initialize`. -/
theorem sampleCredential_hr_iff : Tracks (c.copyIn rgcpfd rgfsp o) ∧
    ((c.copyIn rgcpfd rgfsp o).hr = S_OK ↔ o.AllOk) := by
  obtain ⟨h₀, r₀, -⟩ := copyFields_spec hl rgfsp o.label c.fields
  obtain ⟨h₁, r₁, -⟩ := string_spec h₀ SFI_USERNAME (wlit "CSIC互联认证") o.userName
  obtain ⟨h₂, r₂, -⟩ := string_spec h₁ SFI_PASSWORD (wlit "12345678-a") o.password
  obtain ⟨h₃, r₃, -⟩ := string_spec h₂ SFI_SUBMIT_BUTTON (wlit "Submit") o.submit
  refine ⟨h₃, ?_⟩
  unfold CSampleCredential.copyIn
  rw [r₃, r₂, r₁, r₀]
  exact ⟨fun ⟨⟨⟨a, b⟩, c⟩, d⟩ => ⟨a, b, c, d⟩, fun ⟨a, b, c, d⟩ => ⟨⟨⟨a, b⟩, c⟩, d⟩⟩

/-- When every copy succeeds the credential holds the tables and its strings. -/
theorem sampleCredential_filled (cpus : Option UsageScenario) (ho : o.AllOk) :
    (c.initializeFields cpus rgcpfd rgfsp o).2.1.Filled rgcpfd rgfsp := by
  obtain ⟨hlabel, huser, hpass, hsubmit⟩ := ho
  obtain ⟨h₀, r₀, f₀⟩ := copyFields_spec hl rgfsp o.label c.fields
  obtain ⟨h₁, r₁, f₁⟩ := string_spec h₀ SFI_USERNAME (wlit "CSIC互联认证") o.userName
  obtain ⟨h₂, r₂, f₂⟩ := string_spec h₁ SFI_PASSWORD (wlit "12345678-a") o.password
  obtain ⟨-, -, f₃⟩ := string_spec h₂ SFI_SUBMIT_BUTTON (wlit "Submit") o.submit
  have hr₀ := r₀.mpr hlabel
  have hr₁ := r₁.mpr ⟨hr₀, huser⟩
  have hr₂ := r₂.mpr ⟨hr₁, hpass⟩
  have hf : (c.copyIn rgcpfd rgfsp o).fields =
      { descriptors := rgcpfd
        statePairs := rgfsp
        strings := Function.update (Function.update (Function.update c.fields.strings SFI_USERNAME
          (some (wlit "CSIC互联认证"))) SFI_PASSWORD (some (wlit "12345678-a")))
          SFI_SUBMIT_BUTTON (some (wlit "Submit")) } := by
    unfold CSampleCredential.copyIn
    rw [f₃ hr₂ hsubmit, f₂ hr₁ hpass, f₁ hr₀ huser, f₀ hlabel]
  exact
    { descriptors_eq := by simp [CSampleCredential.initializeFields, hf]
      statePairs_eq := by simp [CSampleCredential.initializeFields, hf]
      userName := by
        simp [CSampleCredential.initializeFields, hf, Function.update, SFI_USERNAME, SFI_PASSWORD,
          SFI_SUBMIT_BUTTON]
      password := by
        simp [CSampleCredential.initializeFields, hf, Function.update, SFI_PASSWORD, SFI_SUBMIT_BUTTON]
      submit := by simp [CSampleCredential.initializeFields, hf] }

end

section
variable {rgfsp : Fin 1 → FieldStatePair} {rgcpfd : Fin 1 → FieldDescriptor}
  (hl : ∀ i, (rgcpfd i).pszLabel.isSome) (message : WStr) (o : MessageCopies)
  (c : CMessageCredential)
include hl

/-- The running `hr` of `CMessageCredential::Initialize`. -/
theorem messageCredential_hr_iff : Tracks (c.copyIn rgcpfd rgfsp (some message) o) ∧
    ((c.copyIn rgcpfd rgfsp (some message) o).hr = S_OK ↔ o.AllOk) := by
  obtain ⟨h₀, r₀, -⟩ := copyFields_spec hl rgfsp o.label c.fields
  obtain ⟨h₁, r₁, -⟩ := string_spec h₀ SMFI_MESSAGE message o.message
  refine ⟨h₁, ?_⟩
  unfold CMessageCredential.copyIn
  rw [r₁, r₀]
  rfl

theorem messageCredential_filled (ho : o.AllOk) :
    (c.initializeFields rgcpfd rgfsp (some message) o).2.1.Filled rgcpfd rgfsp := by
  obtain ⟨hlabel, hmessage⟩ := ho
  obtain ⟨h₀, r₀, f₀⟩ := copyFields_spec hl rgfsp o.label c.fields
  obtain ⟨-, -, f₁⟩ := string_spec h₀ SMFI_MESSAGE message o.message
  have hf : (c.copyIn rgcpfd rgfsp (some message) o).fields =
      { descriptors := rgcpfd
        statePairs := rgfsp
        strings := Function.update c.fields.strings SMFI_MESSAGE (some message) } := by
    unfold CMessageCredential.copyIn
    rw [f₁ (r₀.mpr hlabel) hmessage, f₀ hlabel]
  exact
    { descriptors_eq := by simp [CMessageCredential.initializeFields, hf]
      statePairs_eq := by simp [CMessageCredential.initializeFields, hf]
      message := by simp [CMessageCredential.initializeFields, hf] }

end

end CardLogon
