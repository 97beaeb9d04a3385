import CardLogon.Credential
import CardLogon.StateOption

/- `CSampleProvider`: its constructor and destructor, `SetUsageScenario`, `Advise`
   and `UnAdvise`, over the objects they create and delete.

   An object is an address in `World.objs`; a destroyed one is gone from there, and a
   call on it has no result. The provider a method runs on is passed along as a
   value. A command window is created by a provider for itself and keeps a reference
   to it, so that `_pProvider` is the creating provider or NULL. `g_cRef` is the
   counter of `Dll.cpp`. The log notes which references the provider takes and gives
   back, and what every string copy returned.

   What is proved: `setUsageScenario_cases`, all that a call can do, and
   `setUsageScenario_defined`. Everything about runs of a provider is derived from
   these. -/
namespace CardLogon
open StateOption

abbrev Addr := Nat

def E_NOTIMPL : HRESULT := 0x80004001

/-- `_pProvider` is set. -/
structure CCommandWindow where
  pProvider : Bool

/-- `pcpe` names the callback object LogonUI passed; what the constructor does not set
    is `none` until a method sets it. -/
structure CSampleProvider where
  cRef : Int32
  pCommandWindow : Option Addr
  pCredential : Option Addr
  pMessageCredential : Option Addr
  pcpe : Option Nat
  upAdviseContext : Option Nat
  cpus : Option UsageScenario
  deriving DecidableEq

inductive Obj where
  | factory (cRef : Int32)
  | provider (p : CSampleProvider)
  | credential (c : CSampleCredential)
  | message (m : CMessageCredential)
  | window (cw : CCommandWindow)

/-- What a provider acquires. -/
inductive Resource where
  | credential (a : Addr)
  | message (a : Addr)
  | window (a : Addr)
  | callback (pcpe : Nat)
  deriving DecidableEq

inductive Deed where
  | acquired (r : Resource)
  | givenBack (r : Resource)
  | copied (hr : HRESULT)
  deriving DecidableEq

structure World where
  objs : List (Option Obj)
  gRef : Int32
  log : List Deed

abbrev M := Prog World

/-! The DLL's counter and the objects. -/

def dllAddRef : M Unit := modify fun w => { w with gRef := w.gRef + 1 }

def dllRelease : M Unit := modify fun w => { w with gRef := w.gRef - 1 }

def record (ds : List Deed) : M Unit := modify fun w => { w with log := w.log ++ ds }

def newObj (o : Obj) : M Addr := fun w =>
  some (w.objs.length, { w with objs := w.objs ++ [some o] })

def putObj (a : Addr) (o : Obj) : M Unit := modify fun w => { w with objs := w.objs.set a (some o) }

def dropObj (a : Addr) : M Unit := modify fun w => { w with objs := w.objs.set a none }

def World.lookup (w : World) (a : Addr) : Option Obj := (w.objs[a]?).join

def getCredential (a : Addr) : M CSampleCredential := fun w =>
  match w.lookup a with
  | some (.credential c) => some (c, w)
  | _ => none

def getMessage (a : Addr) : M CMessageCredential := fun w =>
  match w.lookup a with
  | some (.message m) => some (m, w)
  | _ => none

def getWindow (a : Addr) : M CCommandWindow := fun w =>
  match w.lookup a with
  | some (.window cw) => some (cw, w)
  | _ => none

/-! Constructors and destructors. -/

/-- `new CSampleCredential()`, NULL when `ok` is false. -/
def newCredential (ok : Bool) : M (Option Addr) :=
  if ok then do
    dllAddRef
    let a ← newObj (.credential .new)
    record [.acquired (.credential a)]
    pure (some a)
  else pure none

def newMessage (ok : Bool) : M (Option Addr) :=
  if ok then do
    dllAddRef
    let a ← newObj (.message .new)
    record [.acquired (.message a)]
    pure (some a)
  else pure none

def newWindow (ok : Bool) : M (Option Addr) :=
  if ok then do
    let a ← newObj (.window ⟨false⟩)
    record [.acquired (.window a)]
    pure (some a)
  else pure none

/-- The end of a `Release`: the new count is stored, or the destructor runs. -/
def finishRelease (a : Addr) (r : Released) (o : Obj) (dtor : M Unit) : M UInt32 := do
  putObj a o
  if r.deleted then do
    dtor
    dropObj a
    pure r.ret
  else pure r.ret

def releaseCredential (a : Addr) : M UInt32 := do
  let c ← getCredential a
  let r := CSampleCredential.release c.cRef
  finishRelease a r (.credential { c with cRef := r.cRef }) dllRelease

def releaseMessage (a : Addr) : M UInt32 := do
  let m ← getMessage a
  let r := CMessageCredential.release m.cRef
  finishRelease a r (.message { m with cRef := r.cRef }) dllRelease

/-- `if (_pProvider != NULL) _pProvider->Release();`. Were it the last reference, the
    provider's destructor would delete this window under its own code. -/
def CCommandWindow.releaseProvider (cw : CCommandWindow) (p : CSampleProvider) :
    M CSampleProvider :=
  if cw.pProvider then
    let r := CSampleProvider.release p.cRef
    if r.deleted then undefined else pure { p with cRef := r.cRef }
  else pure p

/-- `delete _pCommandWindow`. -/
def deleteWindow (p : CSampleProvider) (a : Addr) : M CSampleProvider := do
  let cw ← getWindow a
  dropObj a
  cw.releaseProvider p

/-! The provider gives back what it holds, where a pointer is not NULL. -/

def giveBackCredential : Option Addr → M Unit
  | some a => do
    let _ ← releaseCredential a
    record [.givenBack (.credential a)]
  | none => pure ()

def giveBackMessage : Option Addr → M Unit
  | some a => do
    let _ ← releaseMessage a
    record [.givenBack (.message a)]
  | none => pure ()

def giveBackWindow (p : CSampleProvider) : M CSampleProvider :=
  match p.pCommandWindow with
  | some a => do
    let p ← deleteWindow p a
    record [.givenBack (.window a)]
    pure p
  | none => pure p

def giveBackCallback : Option Nat → M Unit
  | some e => record [.givenBack (.callback e)]
  | none => pure ()

/-- The constructor. -/
def CSampleProvider.new : CSampleProvider := ⟨1, none, none, none, none, none, none⟩

/-- The destructor. -/
def CSampleProvider.destroy (p : CSampleProvider) : M Unit := do
  giveBackCredential p.pCredential
  let _ ← giveBackWindow p
  dllRelease

/-- `Release` on a provider: what it returns, and the provider if it is still there. -/
def CSampleProvider.releaseCall (p : CSampleProvider) : M (UInt32 × Option CSampleProvider) :=
  let r := CSampleProvider.release p.cRef
  if r.deleted then do
    CSampleProvider.destroy { p with cRef := r.cRef }
    pure (r.ret, none)
  else pure (r.ret, some { p with cRef := r.cRef })

/-! `SetUsageScenario`. -/

/-- What the calls that create and initialise the objects do, if they are made: `new`
    yields an object, `GetLastError` after a `CreateThread` that failed, the copies. -/
structure Outcomes where
  newCredential : Bool
  newMessage : Bool
  newWindow : Bool
  thread : Option UInt32
  credential : CredentialCopies
  message : MessageCopies

/-- `hr` after the `CreateThread` of `CCommandWindow::Initialize`. -/
def Outcomes.threadHr (o : Outcomes) : HRESULT :=
  match o.thread with
  | none => S_OK
  | some e => hresultFromWin32 e

/-- `_pCommandWindow->Initialize(this)`. -/
def initializeWindow (p : CSampleProvider) (a : Addr) (o : Outcomes) :
    M (HRESULT × CSampleProvider) := do
  let cw ← getWindow a
  let p ← cw.releaseProvider p
  putObj a (.window ⟨true⟩)
  pure (o.threadHr, { p with cRef := (CSampleProvider.addRef p.cRef).2 })

def initializeCredential (a : Addr) (cpus : Option UsageScenario) (o : Outcomes) : M HRESULT := do
  let c ← getCredential a
  let r := c.initializeFields cpus rgCredProvFieldDescriptors rgFieldStatePairs o.credential
  putObj a (.credential r.2.1)
  record (r.2.2.map .copied)
  pure r.1

def initializeMessage (a : Addr) (o : Outcomes) : M HRESULT := do
  let m ← getMessage a
  let r := m.initializeFields rgMessageCredProvFieldDescriptors rgMessageFieldStatePairs
    (some (wlit "请连接")) o.message
  putObj a (.message r.2.1)
  record (r.2.2.map .copied)
  pure r.1

/-- The three `Initialize` calls, as far as they succeed. -/
def initializeAll (p : CSampleProvider) (c m cw : Addr) (o : Outcomes) :
    M (HRESULT × CSampleProvider) := do
  let (hr, p) ← initializeWindow p cw o
  if succeeded hr then do
    let hr ← initializeCredential c p.cpus o
    if succeeded hr then do
      let hr ← initializeMessage m o
      pure (hr, p)
    else pure (hr, p)
  else pure (hr, p)

/-- The creation of the three objects. -/
def createAll (p : CSampleProvider) (o : Outcomes) : M (HRESULT × CSampleProvider) := do
  let pCredential ← newCredential o.newCredential
  let p := { p with pCredential := pCredential }
  match pCredential with
  | none => pure (E_OUTOFMEMORY, p)
  | some c => do
    let pMessageCredential ← newMessage o.newMessage
    let p := { p with pMessageCredential := pMessageCredential }
    match pMessageCredential with
    | none => pure (E_OUTOFMEMORY, p)
    | some m => do
      let pCommandWindow ← newWindow o.newWindow
      let p := { p with pCommandWindow := pCommandWindow }
      match pCommandWindow with
      | none => pure (E_OUTOFMEMORY, p)
      | some cw => initializeAll p c m cw o

/-- "If anything failed, clean up." -/
def cleanUp (p : CSampleProvider) : M CSampleProvider := do
  let p ← giveBackWindow p
  giveBackCredential p.pCredential
  giveBackMessage p.pMessageCredential
  pure { p with pCommandWindow := none, pCredential := none, pMessageCredential := none }

/-- `!_pCredential && !_pMessageCredential && !_pCommandWindow`. -/
def CSampleProvider.unset (p : CSampleProvider) : Bool :=
  p.pCredential.isNone && p.pMessageCredential.isNone && p.pCommandWindow.isNone

def setUsageScenario (p : CSampleProvider) (cpus : UsageScenario) (o : Outcomes) :
    M (HRESULT × CSampleProvider) :=
  match cpus with
  | .logon | .unlockWorkstation =>
    let p := { p with cpus := some cpus }
    if p.unset then do
      let (hr, p) ← createAll p o
      if succeeded hr then pure (hr, p)
      else do
        let p ← cleanUp p
        pure (hr, p)
    else pure (S_OK, p)
  | .credui | .changePassword => pure (E_NOTIMPL, p)
  | _ => pure (E_INVALIDARG, p)

/-! `Advise` and `UnAdvise`. -/

/-- A NULL `pcpe` is called `AddRef` on. -/
def advise (p : CSampleProvider) (pcpe : Option Nat) (upAdviseContext : Nat) :
    M (HRESULT × CSampleProvider) := do
  giveBackCallback p.pcpe
  match pcpe with
  | none => undefined
  | some e => do
    record [.acquired (.callback e)]
    pure (S_OK, { p with pcpe := some e, upAdviseContext := some upAdviseContext })

def unAdvise (p : CSampleProvider) : M (HRESULT × CSampleProvider) := do
  giveBackCallback p.pcpe
  pure (S_OK, { p with pcpe := none })

/-! What the parts do, from a known world. -/

section
variable (w : World)

@[simp] theorem record_apply (ds : List Deed) :
    record ds w = some ((), { w with log := w.log ++ ds }) := rfl

@[simp] theorem putObj_apply (a : Addr) (o : Obj) :
    putObj a o w = some ((), { w with objs := w.objs.set a (some o) }) := rfl

@[simp] theorem dropObj_apply (a : Addr) :
    dropObj a w = some ((), { w with objs := w.objs.set a none }) := rfl

theorem newCredential_apply (ok : Bool) : newCredential ok w =
    if ok then some (some w.objs.length,
      { objs := w.objs ++ [some (.credential .new)]
        gRef := w.gRef + 1
        log := w.log ++ [.acquired (.credential w.objs.length)] })
    else some (none, w) := by
  cases ok <;> rfl

theorem newMessage_apply (ok : Bool) : newMessage ok w =
    if ok then some (some w.objs.length,
      { objs := w.objs ++ [some (.message .new)]
        gRef := w.gRef + 1
        log := w.log ++ [.acquired (.message w.objs.length)] })
    else some (none, w) := by
  cases ok <;> rfl

theorem newWindow_apply (ok : Bool) : newWindow ok w =
    if ok then some (some w.objs.length,
      { w with
        objs := w.objs ++ [some (.window ⟨false⟩)]
        log := w.log ++ [.acquired (.window w.objs.length)] })
    else some (none, w) := by
  cases ok <;> rfl

end

/-! An object is found exactly where it is. -/

theorem getCredential_eq_some {a : Addr} {w w' : World} {c : CSampleCredential} :
    getCredential a w = some (c, w') ↔ w' = w ∧ w.lookup a = some (.credential c) := by
  unfold getCredential
  constructor
  · intro h
    split at h
    · next ho =>
      cases h
      exact ⟨rfl, ho⟩
    · cases h
  · intro ⟨hw, ho⟩
    rw [ho, hw]

theorem getMessage_eq_some {a : Addr} {w w' : World} {m : CMessageCredential} :
    getMessage a w = some (m, w') ↔ w' = w ∧ w.lookup a = some (.message m) := by
  unfold getMessage
  constructor
  · intro h
    split at h
    · next ho =>
      cases h
      exact ⟨rfl, ho⟩
    · cases h
  · intro ⟨hw, ho⟩
    rw [ho, hw]

theorem getWindow_eq_some {a : Addr} {w w' : World} {cw : CCommandWindow} :
    getWindow a w = some (cw, w') ↔ w' = w ∧ w.lookup a = some (.window cw) := by
  unfold getWindow
  constructor
  · intro h
    split at h
    · next ho =>
      cases h
      exact ⟨rfl, ho⟩
    · cases h
  · intro ⟨hw, ho⟩
    rw [ho, hw]

/-! References given back to new objects. -/

/-- A new credential survives the `Release` of its only reference. -/
theorem giveBackCredential_new {w : World} {a : Addr} {c : CSampleCredential}
    (h : w.lookup a = some (.credential c)) (hc : c.cRef = 1) :
    giveBackCredential (some a) w = some ((),
      { w with
        objs := w.objs.set a (some (.credential { c with cRef := 0 }))
        log := w.log ++ [.givenBack (.credential a)] }) := by
  have hget : getCredential a w = some (c, w) := getCredential_eq_some.mpr ⟨rfl, h⟩
  have hrel : CSampleCredential.release c.cRef = ⟨1, 0, false⟩ := by
    rw [hc]
    decide
  simp only [giveBackCredential, releaseCredential, bind_apply, hget, Option.bind_some, hrel,
    finishRelease, putObj_apply, Bool.false_eq_true, if_false, pure_apply, record_apply]

theorem giveBackMessage_new {w : World} {a : Addr} {m : CMessageCredential}
    (h : w.lookup a = some (.message m)) (hm : m.cRef = 1) :
    giveBackMessage (some a) w = some ((),
      { w with
        objs := w.objs.set a (some (.message { m with cRef := 0 }))
        log := w.log ++ [.givenBack (.message a)] }) := by
  have hget : getMessage a w = some (m, w) := getMessage_eq_some.mpr ⟨rfl, h⟩
  have hrel : CMessageCredential.release m.cRef = ⟨1, 0, false⟩ := by
    rw [hm]
    decide
  simp only [giveBackMessage, releaseMessage, bind_apply, hget, Option.bind_some, hrel,
    finishRelease, putObj_apply, Bool.false_eq_true, if_false, pure_apply, record_apply]

/-- Deleting the window gives back the provider's reference. -/
theorem giveBackWindow_set {w : World} {p : CSampleProvider} {a : Addr}
    (ha : p.pCommandWindow = some a) (h : w.lookup a = some (.window ⟨true⟩)) :
    giveBackWindow p w =
      if p.cRef = 0 then none
      else some ({ p with cRef := p.cRef - 1 },
        { w with objs := w.objs.set a none, log := w.log ++ [.givenBack (.window a)] }) := by
  have hget : getWindow a w = some (⟨true⟩, w) := getWindow_eq_some.mpr ⟨rfl, h⟩
  unfold giveBackWindow
  rw [ha]
  simp only [deleteWindow, CCommandWindow.releaseProvider, CSampleProvider.release, comRelease,
    bind_apply, hget, Option.bind_some, dropObj_apply, if_true, decide_eq_true_eq]
  by_cases hc : p.cRef = 0
  · rw [if_pos hc, if_pos hc]
    rfl
  · rw [if_neg hc, if_neg hc, ha]
    rfl

/-! What `SetUsageScenario` does. -/

/-- All three objects are created and the window's thread is started. -/
def Outcomes.creates (o : Outcomes) : Bool :=
  o.newCredential && o.newMessage && o.newWindow && succeeded o.threadHr

/-- The objects of a creation that goes through, at the end of `objs`. -/
def createdObjs (cpus : Option UsageScenario) (o : Outcomes) : List (Option Obj) :=
  [some (.credential (CSampleCredential.new.initializeFields cpus rgCredProvFieldDescriptors
      rgFieldStatePairs o.credential).2.1),
    some (.message (CMessageCredential.new.initializeFields rgMessageCredProvFieldDescriptors
      rgMessageFieldStatePairs (some (wlit "请连接")) o.message).2.1),
    some (.window ⟨true⟩)]

/-- What its string copies returned. -/
def createdCopies (cpus : Option UsageScenario) (o : Outcomes) : List HRESULT :=
  (CSampleCredential.new.initializeFields cpus rgCredProvFieldDescriptors rgFieldStatePairs
      o.credential).2.2 ++
    (CMessageCredential.new.initializeFields rgMessageCredProvFieldDescriptors
      rgMessageFieldStatePairs (some (wlit "请连接")) o.message).2.2

/-- The provider with the three objects at `n`, and one reference more. -/
def CSampleProvider.withObjects (p : CSampleProvider) (n : Addr) : CSampleProvider :=
  { p with
    pCredential := some n
    pMessageCredential := some (n + 1)
    pCommandWindow := some (n + 2)
    cRef := p.cRef + 1 }

theorem lookup_tail (l r : List (Option Obj)) (g : Int32) (ds : List Deed) (k : Nat) :
    World.lookup ⟨l ++ r, g, ds⟩ (l.length + k) = (r[k]?).join := by
  unfold World.lookup
  rw [List.getElem?_append_right (Nat.le_add_right _ _), Nat.add_sub_cancel_left]

theorem set_tail (l r : List (Option Obj)) (k : Nat) (v : Option Obj) :
    (l ++ r).set (l.length + k) v = l ++ r.set k v := by
  rw [List.set_append_right _ _ (Nat.le_add_right _ _), Nat.add_sub_cancel_left]

/-- The three objects before they are initialised. -/
def freshObjs (windowSet : Bool) : List (Option Obj) :=
  [some (.credential .new), some (.message .new), some (.window ⟨windowSet⟩)]

theorem initializeWindow_apply {w : World} {a : Addr} (h : w.lookup a = some (.window ⟨false⟩))
    (p : CSampleProvider) (o : Outcomes) :
    initializeWindow p a o w = some ((o.threadHr, { p with cRef := p.cRef + 1 }),
      { w with objs := w.objs.set a (some (.window ⟨true⟩)) }) := by
  have hget : getWindow a w = some (⟨false⟩, w) := getWindow_eq_some.mpr ⟨rfl, h⟩
  unfold initializeWindow
  rw [bind_of_eq hget]
  rfl

theorem initializeCredential_apply {w : World} {a : Addr} {c : CSampleCredential}
    (h : w.lookup a = some (.credential c)) (cpus : Option UsageScenario) (o : Outcomes) :
    initializeCredential a cpus o w =
      let r := c.initializeFields cpus rgCredProvFieldDescriptors rgFieldStatePairs o.credential
      some (S_OK, { w with
        objs := w.objs.set a (some (.credential r.2.1))
        log := w.log ++ r.2.2.map .copied }) := by
  have hget : getCredential a w = some (c, w) := getCredential_eq_some.mpr ⟨rfl, h⟩
  unfold initializeCredential
  rw [bind_of_eq hget]
  rfl

theorem initializeMessage_apply {w : World} {a : Addr} {m : CMessageCredential}
    (h : w.lookup a = some (.message m)) (o : Outcomes) :
    initializeMessage a o w =
      let r := m.initializeFields rgMessageCredProvFieldDescriptors rgMessageFieldStatePairs
        (some (wlit "请连接")) o.message
      some (S_OK, { w with
        objs := w.objs.set a (some (.message r.2.1))
        log := w.log ++ r.2.2.map .copied }) := by
  have hget : getMessage a w = some (m, w) := getMessage_eq_some.mpr ⟨rfl, h⟩
  unfold initializeMessage
  rw [bind_of_eq hget]
  rfl

/-- The three `Initialize` calls on new objects at the end of `objs`. -/
theorem initializeAll_apply (p : CSampleProvider) (o : Outcomes) (l : List (Option Obj))
    (g : Int32) (ds : List Deed) :
    initializeAll p l.length (l.length + 1) (l.length + 2) o ⟨l ++ freshObjs false, g, ds⟩ =
      if succeeded o.threadHr then
        some ((S_OK, { p with cRef := p.cRef + 1 }),
          ⟨l ++ createdObjs p.cpus o, g, ds ++ (createdCopies p.cpus o).map .copied⟩)
      else some ((o.threadHr, { p with cRef := p.cRef + 1 }), ⟨l ++ freshObjs true, g, ds⟩) := by
  have hw := initializeWindow_apply (lookup_tail l (freshObjs false) g ds 2) p o
  rw [set_tail] at hw
  unfold initializeAll
  rw [bind_of_eq hw]
  dsimp only
  by_cases hok : succeeded o.threadHr = true
  · rw [if_pos hok, if_pos hok]
    have hc := initializeCredential_apply (lookup_tail l (freshObjs true) g ds 0) p.cpus o
    dsimp only at hc
    rw [set_tail, Nat.add_zero] at hc
    have hset : (freshObjs false).set 2 (some (.window ⟨true⟩)) = freshObjs true := rfl
    rw [hset, bind_of_eq hc, if_pos (show succeeded S_OK = true from rfl)]
    have hm := fun x ds' => initializeMessage_apply
      (lookup_tail l [x, some (.message .new), some (.window ⟨true⟩)] g ds' 1) o
    refine (bind_of_eq (hm _ _) _).trans ?_
    simp only [set_tail, createdCopies, List.map_append, ← List.append_assoc]
    rfl
  · rw [if_neg hok, if_neg hok]
    rfl

/-- The objects of the first `k` creations at `n`, and their references. -/
def resourcesAt (n : Addr) (k : Nat) : List Resource :=
  [.credential n, .message (n + 1), .window (n + 2)].take k

def acquiredAt (n : Addr) (k : Nat) : List Deed := (resourcesAt n k).map .acquired

theorem createAll_noCredential {o : Outcomes} (h : o.newCredential = false) (p : CSampleProvider)
    (w : World) : createAll p o w = some ((E_OUTOFMEMORY, { p with pCredential := none }), w) := by
  simp only [createAll, bind_apply, newCredential_apply, h]
  rfl

theorem createAll_noMessage {o : Outcomes} (h₁ : o.newCredential = true) (h₂ : o.newMessage = false)
    (p : CSampleProvider) (w : World) :
    createAll p o w = some ((E_OUTOFMEMORY,
      { p with pCredential := some w.objs.length, pMessageCredential := none }),
      ⟨w.objs ++ [some (.credential .new)], w.gRef + 1, w.log ++ acquiredAt w.objs.length 1⟩) := by
  simp only [createAll, bind_apply, newCredential_apply, h₁]
  simp only [if_true, Option.bind_some, bind_apply, newMessage_apply, h₂]
  rfl

theorem createAll_noWindow {o : Outcomes} (h₁ : o.newCredential = true) (h₂ : o.newMessage = true)
    (h₃ : o.newWindow = false) (p : CSampleProvider) (w : World) :
    createAll p o w = some ((E_OUTOFMEMORY,
      { p with
        pCredential := some w.objs.length
        pMessageCredential := some (w.objs.length + 1)
        pCommandWindow := none }),
      ⟨w.objs ++ [some (.credential .new), some (.message .new)], w.gRef + 1 + 1,
        w.log ++ acquiredAt w.objs.length 2⟩) := by
  simp only [createAll, bind_apply, newCredential_apply, newMessage_apply, newWindow_apply, h₁, h₂,
    h₃, if_true, Option.bind_some, List.append_assoc, List.length_append, List.length_singleton]
  rfl

theorem createAll_initialize {o : Outcomes} (h₁ : o.newCredential = true) (h₂ : o.newMessage = true)
    (h₃ : o.newWindow = true) (p : CSampleProvider) (w : World) :
    createAll p o w = initializeAll
      { p with
        pCredential := some w.objs.length
        pMessageCredential := some (w.objs.length + 1)
        pCommandWindow := some (w.objs.length + 2) }
      w.objs.length (w.objs.length + 1) (w.objs.length + 2) o
      ⟨w.objs ++ freshObjs false, w.gRef + 1 + 1, w.log ++ acquiredAt w.objs.length 3⟩ := by
  simp only [createAll, bind_apply, newCredential_apply, newMessage_apply, newWindow_apply, h₁, h₂,
    h₃, if_true, Option.bind_some, List.append_assoc, List.length_append, List.length_singleton]
  rfl

/-- Everything acquired has been given back, as often as it was acquired. -/
def Balanced (ds : List Deed) : Prop := ∀ r, ds.count (.acquired r) = ds.count (.givenBack r)

theorem count_acquired (as bs : List Resource) (r : Resource) :
    (as.map Deed.acquired ++ bs.map Deed.givenBack).count (.acquired r) = as.count r := by
  have hinj : Function.Injective Deed.acquired := fun _ _ h => Deed.acquired.inj h
  have hno : Deed.acquired r ∉ bs.map Deed.givenBack := by simp
  rw [List.count_append, List.count_map_of_injective _ _ hinj, List.count_eq_zero.mpr hno,
    Nat.add_zero]

theorem count_givenBack (as bs : List Resource) (r : Resource) :
    (as.map Deed.acquired ++ bs.map Deed.givenBack).count (.givenBack r) = bs.count r := by
  have hinj : Function.Injective Deed.givenBack := fun _ _ h => Deed.givenBack.inj h
  have hno : Deed.givenBack r ∉ as.map Deed.acquired := by simp
  rw [List.count_append, List.count_map_of_injective _ _ hinj, List.count_eq_zero.mpr hno,
    Nat.zero_add]

/-- One for an object whose constructor called `DllAddRef`. -/
def counted : Option Obj → Nat
  | some (.provider _) => 1
  | some (.credential _) => 1
  | some (.message _) => 1
  | _ => 0

/-- How many of these objects there are. -/
def aliveIn (os : List (Option Obj)) : Nat := (os.map counted).sum

/-- What a creation that failed leaves behind: objects of its own, which `g_cRef` counts,
    every reference to them given back, and no string copied. -/
structure Undone (w w' : World) : Prop where
  objs : ∃ os, w'.objs = w.objs ++ os ∧ w'.gRef = w.gRef + Int32.ofNat (aliveIn os)
  log : ∃ ds, w'.log = w.log ++ ds ∧ Balanced ds ∧ ∀ hr, .copied hr ∉ ds

theorem undone_of_perm {w : World} {as bs : List Resource} (h : as.Perm bs)
    {os : List (Option Obj)} {g : Int32} (hg : g = w.gRef + Int32.ofNat (aliveIn os)) :
    Undone w ⟨w.objs ++ os, g, w.log ++ (as.map .acquired ++ bs.map .givenBack)⟩ := by
  refine ⟨⟨os, rfl, hg⟩, _, rfl, ?_, ?_⟩
  · intro r
    rw [count_acquired, count_givenBack, h.count_eq]
  · intro hr
    simp

/-- A credential and a message credential without a reference. -/
def spentCredential : Obj := .credential { CSampleCredential.new with cRef := 0 }
def spentMessage : Obj := .message { CMessageCredential.new with cRef := 0 }

theorem giveBackCredential_at (l tail : List (Option Obj)) (g : Int32) (ds : List Deed) :
    giveBackCredential (some l.length) ⟨l ++ some (.credential .new) :: tail, g, ds⟩ =
      some ((), ⟨l ++ some spentCredential :: tail, g,
        ds ++ [.givenBack (.credential l.length)]⟩) := by
  have h := giveBackCredential_new (lookup_tail l (some (.credential .new) :: tail) g ds 0) rfl
  dsimp only at h
  rw [set_tail, Nat.add_zero] at h
  exact h

theorem giveBackMessage_at (l : List (Option Obj)) (x : Option Obj) (tail : List (Option Obj))
    (g : Int32) (ds : List Deed) :
    giveBackMessage (some (l.length + 1)) ⟨l ++ x :: some (.message .new) :: tail, g, ds⟩ =
      some ((), ⟨l ++ x :: some spentMessage :: tail, g,
        ds ++ [.givenBack (.message (l.length + 1))]⟩) := by
  have h := giveBackMessage_new (lookup_tail l (x :: some (.message .new) :: tail) g ds 1) rfl
  dsimp only at h
  rw [set_tail] at h
  exact h

theorem giveBackWindow_at (p : CSampleProvider) (l : List (Option Obj)) (x y : Option Obj)
    (g : Int32) (ds : List Deed) (h : p.pCommandWindow = some (l.length + 2)) :
    giveBackWindow p ⟨l ++ [x, y, some (.window ⟨true⟩)], g, ds⟩ =
      if p.cRef = 0 then none
      else some ({ p with cRef := p.cRef - 1 }, ⟨l ++ [x, y, none], g,
        ds ++ [.givenBack (.window (l.length + 2))]⟩) := by
  rw [giveBackWindow_set h (lookup_tail l [x, y, some (.window ⟨true⟩)] g ds 2)]
  dsimp only
  rw [set_tail]
  rfl

theorem giveBackWindow_none {p : CSampleProvider} (h : p.pCommandWindow = none) (w : World) :
    giveBackWindow p w = some (p, w) := by
  unfold giveBackWindow
  rw [h]
  rfl

/-- `cleanUp` after the creation of the credential alone. -/
theorem cleanUp_one {p : CSampleProvider} {l : List (Option Obj)} (g : Int32) (ds : List Deed)
    (h₁ : p.pCredential = some l.length) (h₂ : p.pMessageCredential = none)
    (h₃ : p.pCommandWindow = none) :
    cleanUp p ⟨l ++ [some (.credential .new)], g, ds⟩ =
      some ({ p with pCommandWindow := none, pCredential := none, pMessageCredential := none },
        ⟨l ++ [some spentCredential], g, ds ++ [.givenBack (.credential l.length)]⟩) := by
  unfold cleanUp
  rw [bind_of_eq (giveBackWindow_none h₃ _), h₁, bind_of_eq (giveBackCredential_at l [] g ds), h₂]
  rfl

/-- The end of `cleanUp` after the creation of both credentials. -/
theorem cleanUp_both {p p' : CSampleProvider} {w : World} {l tail : List (Option Obj)} {g : Int32}
    {ds : List Deed} (h₁ : p'.pCredential = some l.length)
    (h₂ : p'.pMessageCredential = some (l.length + 1))
    (hw : giveBackWindow p w =
      some (p', ⟨l ++ some (.credential .new) :: some (.message .new) :: tail, g, ds⟩)) :
    cleanUp p w =
      some ({ p' with pCommandWindow := none, pCredential := none, pMessageCredential := none },
        ⟨l ++ some spentCredential :: some spentMessage :: tail, g,
          ds ++ [.givenBack (.credential l.length), .givenBack (.message (l.length + 1))]⟩) := by
  unfold cleanUp
  rw [bind_of_eq hw, h₁, bind_of_eq (giveBackCredential_at l _ g ds), h₂,
    bind_of_eq (giveBackMessage_at l _ tail g _)]
  simp only [List.append_assoc]
  rfl

/-- `cleanUp` of all three objects, the window holding a reference to the provider. -/
theorem cleanUp_all {p : CSampleProvider} {l : List (Option Obj)} (g : Int32) (ds : List Deed)
    (h₁ : p.pCredential = some l.length) (h₂ : p.pMessageCredential = some (l.length + 1))
    (h₃ : p.pCommandWindow = some (l.length + 2)) :
    cleanUp p ⟨l ++ freshObjs true, g, ds⟩ =
      if p.cRef = 0 then none
      else some ({ p with
          pCommandWindow := none
          pCredential := none
          pMessageCredential := none
          cRef := p.cRef - 1 },
        ⟨l ++ [some spentCredential, some spentMessage, none], g,
          ds ++ [.givenBack (.window (l.length + 2))] ++
            [.givenBack (.credential l.length), .givenBack (.message (l.length + 1))]⟩) := by
  have hw := giveBackWindow_at p l (some (.credential .new)) (some (.message .new)) g ds h₃
  by_cases hz : p.cRef = 0
  · rw [if_pos hz] at hw ⊢
    unfold cleanUp
    rw [bind_apply]
    exact congrArg (Option.bind · _) hw
  · rw [if_neg hz] at hw ⊢
    refine cleanUp_both ?_ ?_ hw
    · exact h₁
    · exact h₂

/-- The scenarios the provider supports. -/
def UsageScenario.supported : UsageScenario → Bool
  | .logon => true
  | .unlockWorkstation => true
  | _ => false

theorem setUsageScenario_unsupported {cpus : UsageScenario} (hs : cpus.supported = false)
    (p : CSampleProvider) (o : Outcomes) (w : World) :
    ∃ hr, setUsageScenario p cpus o w = some ((hr, p), w) ∧ succeeded hr = false := by
  cases cpus with
  | logon => cases hs
  | unlockWorkstation => cases hs
  | credui => exact ⟨E_NOTIMPL, rfl, rfl⟩
  | changePassword => exact ⟨E_NOTIMPL, rfl, rfl⟩
  | _ => exact ⟨E_INVALIDARG, rfl, rfl⟩

theorem setUsageScenario_set {cpus : UsageScenario} (hs : cpus.supported = true)
    {p : CSampleProvider} (hp : p.unset = false) (o : Outcomes) (w : World) :
    setUsageScenario p cpus o w = some ((S_OK, { p with cpus := some cpus }), w) := by
  have hp' : CSampleProvider.unset { p with cpus := some cpus } = false := hp
  cases cpus with
  | logon => simp only [setUsageScenario, hp']; rfl
  | unlockWorkstation => simp only [setUsageScenario, hp']; rfl
  | _ => cases hs

theorem setUsageScenario_unset {cpus : UsageScenario} (hs : cpus.supported = true)
    {p : CSampleProvider} (hp : p.unset = true) (o : Outcomes) (w : World)
    {hr : HRESULT} {p' : CSampleProvider} {w' : World}
    (hc : createAll { p with cpus := some cpus } o w = some ((hr, p'), w')) :
    setUsageScenario p cpus o w =
      if succeeded hr then some ((hr, p'), w')
      else (cleanUp p' w').bind fun r => some ((hr, r.1), r.2) := by
  have hp' : CSampleProvider.unset { p with cpus := some cpus } = true := hp
  have h : setUsageScenario p cpus o w = (do
      let (hr, p) ← createAll { p with cpus := some cpus } o
      if succeeded hr then pure (hr, p)
      else do
        let p ← cleanUp p
        pure (hr, p) : M (HRESULT × CSampleProvider)) w := by
    cases cpus with
    | logon => simp only [setUsageScenario, hp', if_true]
    | unlockWorkstation => simp only [setUsageScenario, hp', if_true]
    | _ => cases hs
  rw [h, bind_of_eq hc]
  dsimp only
  by_cases hok : succeeded hr = true
  · rw [if_pos hok, if_pos hok]
    rfl
  · rw [if_neg hok, if_neg hok]
    rfl

theorem unset_iff (p : CSampleProvider) : p.unset = true ↔
    p.pCredential = none ∧ p.pMessageCredential = none ∧ p.pCommandWindow = none := by
  simp [CSampleProvider.unset, and_assoc]

/-- A creation that goes through. -/
theorem setUsageScenario_creates {cpus : UsageScenario} (hs : cpus.supported = true)
    {p : CSampleProvider} (hp : p.unset = true) {o : Outcomes} (ho : o.creates = true)
    (w : World) :
    setUsageScenario p cpus o w =
      some ((S_OK, CSampleProvider.withObjects { p with cpus := some cpus } w.objs.length),
        ⟨w.objs ++ createdObjs (some cpus) o, w.gRef + 1 + 1,
          w.log ++ acquiredAt w.objs.length 3 ++ (createdCopies (some cpus) o).map .copied⟩) := by
  simp only [Outcomes.creates, Bool.and_eq_true] at ho
  obtain ⟨⟨⟨h₁, h₂⟩, h₃⟩, h₄⟩ := ho
  have hc := createAll_initialize h₁ h₂ h₃ { p with cpus := some cpus } w
  rw [initializeAll_apply, if_pos h₄] at hc
  rw [setUsageScenario_unset hs hp o w hc, if_pos (show succeeded S_OK = true from rfl)]
  rfl

/-- The creation fails, and the clean-up goes through. -/
theorem setUsageScenario_cleanUp {cpus : UsageScenario} (hs : cpus.supported = true)
    {p p' p'' : CSampleProvider} (hp : p.unset = true) {o : Outcomes} {w w' w'' : World}
    {hr : HRESULT} (hc : createAll { p with cpus := some cpus } o w = some ((hr, p'), w'))
    (hbad : succeeded hr = false) (hclean : cleanUp p' w' = some (p'', w'')) :
    setUsageScenario p cpus o w = some ((hr, p''), w'') := by
  rw [setUsageScenario_unset hs hp o w hc, hbad, hclean]
  rfl

theorem cleanUp_nothing {p : CSampleProvider} (hp : p.unset = true) (w : World) :
    cleanUp p w = some (p, w) := by
  obtain ⟨h₁, h₂, h₃⟩ := (unset_iff p).mp hp
  obtain ⟨cRef, cw, c, m, e, ctx, cpus⟩ := p
  obtain ⟨rfl, rfl, rfl⟩ : c = none ∧ m = none ∧ cw = none := ⟨h₁, h₂, h₃⟩
  rfl

/-- A creation that fails. It has no result when it gives back a reference to the
    provider that the wrapped counter takes for the last one. -/
theorem setUsageScenario_fails {cpus : UsageScenario} (hs : cpus.supported = true)
    {p : CSampleProvider} (hp : p.unset = true) {o : Outcomes} (ho : o.creates = false)
    (w : World) :
    (setUsageScenario p cpus o w = none ∧ p.cRef + 1 = 0) ∨
    ∃ hr w', setUsageScenario p cpus o w = some ((hr, { p with cpus := some cpus }), w') ∧
      succeeded hr = false ∧ Undone w w' := by
  have hnull := (unset_iff p).mp hp
  obtain ⟨cRef, cw, c, m, e, ctx, old⟩ := p
  obtain ⟨rfl, rfl, rfl⟩ := hnull
  have hbad : succeeded E_OUTOFMEMORY = false := rfl
  cases h₁ : o.newCredential with
  | false =>
    right
    have hrun := setUsageScenario_cleanUp hs hp (createAll_noCredential h₁ _ w) hbad
      (cleanUp_nothing rfl w)
    refine ⟨_, w, hrun, hbad, ⟨⟨[], by simp, (Int32.add_zero _).symm⟩, [], by simp, ?_, by simp⟩⟩
    exact fun _ => rfl
  | true =>
    cases h₂ : o.newMessage with
    | false =>
      right
      have hrun := setUsageScenario_cleanUp hs hp (createAll_noMessage h₁ h₂ _ w) hbad
        (cleanUp_one _ _ rfl rfl rfl)
      rw [List.append_assoc] at hrun
      exact ⟨_, _, hrun, hbad, undone_of_perm (List.Perm.refl (resourcesAt w.objs.length 1)) rfl⟩
    | true =>
      cases h₃ : o.newWindow with
      | false =>
        right
        have hrun := setUsageScenario_cleanUp hs hp (createAll_noWindow h₁ h₂ h₃ _ w) hbad
          (cleanUp_both rfl rfl (giveBackWindow_none rfl _))
        rw [List.append_assoc] at hrun
        exact ⟨_, _, hrun, hbad,
          undone_of_perm (List.Perm.refl (resourcesAt w.objs.length 2)) (Int32.add_assoc _ _ _)⟩
      | true =>
        -- all three objects are there, so the thread is what failed
        have h₄ : succeeded o.threadHr = false := by simpa [Outcomes.creates, h₁, h₂, h₃] using ho
        have hc := createAll_initialize h₁ h₂ h₃ ⟨cRef, none, none, none, e, ctx, some cpus⟩ w
        rw [initializeAll_apply, h₄] at hc
        have hclean := cleanUp_all (w.gRef + 1 + 1) (w.log ++ acquiredAt w.objs.length 3)
          (p := ⟨cRef + 1, some (w.objs.length + 2), some w.objs.length,
            some (w.objs.length + 1), e, ctx, some cpus⟩) rfl rfl rfl
        by_cases hz : cRef + 1 = 0
        · left
          rw [if_pos hz] at hclean
          refine ⟨?_, hz⟩
          rw [setUsageScenario_unset hs hp o w hc, h₄, if_neg Bool.false_ne_true]
          exact congrArg (Option.bind · _) hclean
        · right
          rw [if_neg hz, Int32.add_sub_cancel] at hclean
          refine ⟨o.threadHr, _, setUsageScenario_cleanUp hs hp hc h₄ hclean, h₄, ?_⟩
          rw [List.append_assoc, List.append_assoc]
          exact undone_of_perm (@List.perm_append_comm _ (resourcesAt w.objs.length 2)
            [.window (w.objs.length + 2)]) (Int32.add_assoc _ _ _)

/-- All that a call can do: the scenario is refused; the objects are there already;
    they are created; or the creation fails and is undone. -/
theorem setUsageScenario_cases {p p' : CSampleProvider} {cpus : UsageScenario} {o : Outcomes}
    {w w' : World} {hr : HRESULT} (h : setUsageScenario p cpus o w = some ((hr, p'), w')) :
    (cpus.supported = false ∧ succeeded hr = false ∧ p' = p ∧ w' = w) ∨
    (cpus.supported = true ∧ p.unset = false ∧ hr = S_OK ∧ p' = { p with cpus := some cpus } ∧
      w' = w) ∨
    (cpus.supported = true ∧ p.unset = true ∧ o.creates = true ∧ hr = S_OK ∧
      p' = CSampleProvider.withObjects { p with cpus := some cpus } w.objs.length ∧
      w' = ⟨w.objs ++ createdObjs (some cpus) o, w.gRef + 1 + 1,
        w.log ++ acquiredAt w.objs.length 3 ++ (createdCopies (some cpus) o).map .copied⟩) ∨
    (cpus.supported = true ∧ p.unset = true ∧ o.creates = false ∧ succeeded hr = false ∧
      p' = { p with cpus := some cpus } ∧ Undone w w') := by
  cases hs : cpus.supported with
  | false =>
    obtain ⟨hr₁, h₁, hbad⟩ := setUsageScenario_unsupported hs p o w
    rw [h₁] at h
    cases h
    exact .inl ⟨rfl, hbad, rfl, rfl⟩
  | true =>
    cases hp : p.unset with
    | false =>
      rw [setUsageScenario_set hs hp] at h
      cases h
      exact .inr (.inl ⟨rfl, rfl, rfl, rfl, rfl⟩)
    | true =>
      cases ho : o.creates with
      | true =>
        rw [setUsageScenario_creates hs hp ho] at h
        cases h
        exact .inr (.inr (.inl ⟨rfl, rfl, rfl, rfl, rfl, rfl⟩))
      | false =>
        obtain ⟨hnone, -⟩ | ⟨hr₁, w₁, h₁, hbad, hu⟩ := setUsageScenario_fails hs hp ho w
        · rw [hnone] at h
          cases h
        · rw [h₁] at h
          cases h
          exact .inr (.inr (.inr ⟨rfl, rfl, rfl, hbad, rfl, hu⟩))

/-- A call has a result while the counter of an unset provider has not wrapped. -/
theorem setUsageScenario_defined {p : CSampleProvider} (hp : p.unset = true → p.cRef + 1 ≠ 0)
    (cpus : UsageScenario) (o : Outcomes) (w : World) :
    ∃ hr p' w', setUsageScenario p cpus o w = some ((hr, p'), w') := by
  cases hs : cpus.supported with
  | false =>
    obtain ⟨hr, h, -⟩ := setUsageScenario_unsupported hs p o w
    exact ⟨hr, p, w, h⟩
  | true =>
    cases hu : p.unset with
    | false => exact ⟨_, _, _, setUsageScenario_set hs hu o w⟩
    | true =>
      cases ho : o.creates with
      | true => exact ⟨_, _, _, setUsageScenario_creates hs hu ho w⟩
      | false =>
        obtain ⟨-, hz⟩ | ⟨hr, w', h, -, -⟩ := setUsageScenario_fails hs hu ho w
        · exact absurd hz (hp hu)
        · exact ⟨hr, _, w', h⟩

end CardLogon
