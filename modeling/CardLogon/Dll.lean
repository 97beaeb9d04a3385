import CardLogon.GuardedRun
import CardLogon.Release
import CardLogon.Serialization

/- `Dll.cpp`: the class factory, `g_cRef` and `DllCanUnloadNow`, over all the objects of
   the DLL.

   A run starts with the DLL loaded and no object, and makes any calls on any objects
   that are there. `locks` is how often the server is locked and not yet unlocked.
   Every call keeps `ServerOk`: `g_cRef` exceeds the number of objects by the number of
   locks.

   What is proved: `unload_when_unused`. `g_cRef` is the number of objects and locks as
   a 32-bit LONG; below 2^31 it is the number itself, and `DllCanUnloadNow` answers S_OK
   exactly when the number is 0. With 2^31 locks it is negative
   (`unload_while_locked`). -/
namespace CardLogon
open GuardedRun StateOption

def CLASS_E_NOAGGREGATION : HRESULT := 0x80040110
def CLASS_E_CLASSNOTAVAILABLE : HRESULT := 0x80040111
def S_FALSE : HRESULT := 1

/-! The calls of `IUnknown` on any object. -/

def getFactory (a : Addr) : M Int32 := fun w =>
  match w.lookup a with
  | some (.factory cRef) => some (cRef, w)
  | _ => none

def getProvider (a : Addr) : M CSampleProvider := fun w =>
  match w.lookup a with
  | some (.provider p) => some (p, w)
  | _ => none

/-- An object as one of the four classes: the class, its count, and the object with
    another count. -/
structure ComObject where
  cls : ComClass
  cRef : Int32
  withCRef : Int32 → Obj

def Obj.com : Obj → Option ComObject
  | .factory cRef => some ⟨.classFactory, cRef, .factory⟩
  | .provider p => some ⟨.sampleProvider, p.cRef, fun n => .provider { p with cRef := n }⟩
  | .credential c => some ⟨.sampleCredential, c.cRef, fun n => .credential { c with cRef := n }⟩
  | .message m => some ⟨.messageCredential, m.cRef, fun n => .message { m with cRef := n }⟩
  | .window _ => none

def getCom (a : Addr) : M ComObject := fun w =>
  ((w.lookup a).bind Obj.com).map fun k => (k, w)

def objAddRef (a : Addr) : M UInt32 := do
  let k ← getCom a
  let r := k.cls.addRef k.cRef
  putObj a (k.withCRef r.2)
  pure r.1

def objQueryInterface (a : Addr) (riid : Iid) (ppv : Bool) : M HRESULT := do
  let k ← getCom a
  match k.cls.queryInterface k.cRef riid ppv with
  | none => undefined
  | some q => do
    putObj a (k.withCRef q.cRef)
    pure q.hr

/-- The factory's destructor does nothing. -/
def releaseFactory (a : Addr) : M UInt32 := do
  let cRef ← getFactory a
  let r := CClassFactory.release cRef
  finishRelease a r (.factory r.cRef) (pure ())

def releaseProvider (a : Addr) : M UInt32 := do
  let p ← getProvider a
  let r ← p.releaseCall
  match r.2 with
  | some p => do
    putObj a (.provider p)
    pure r.1
  | none => do
    dropObj a
    pure r.1

def objRelease (a : Addr) : M UInt32 := fun w =>
  match w.lookup a with
  | some (.factory _) => releaseFactory a w
  | some (.provider _) => releaseProvider a w
  | some (.credential _) => releaseCredential a w
  | some (.message _) => releaseMessage a w
  | _ => none

/-! The functions of the DLL. -/

/-- `new CSampleProvider()`, NULL when `ok` is false. -/
def newProvider (ok : Bool) : M (Option Addr) :=
  if ok then do
    dllAddRef
    let a ← newObj (.provider .new)
    pure (some a)
  else pure none

def newFactory (ok : Bool) : M (Option Addr) :=
  if ok then do
    let a ← newObj (.factory 1)
    pure (some a)
  else pure none

/-- The new object, asked for `riid`, and released. -/
def queryNew (pNew : Option Addr) (riid : Iid) (ppv : Bool) : M HRESULT :=
  match pNew with
  | some a => do
    let hr ← objQueryInterface a riid ppv
    let _ ← objRelease a
    pure hr
  | none => pure E_OUTOFMEMORY

/-- `CSampleProvider_CreateInstance`. -/
def sampleProviderCreateInstance (riid : Iid) (ppv ok : Bool) : M HRESULT := do
  let pProvider ← newProvider ok
  queryNew pProvider riid ppv

/-- `CClassFactory_CreateInstance`. -/
def classFactoryCreateInstance (rclsid : Clsid) (riid : Iid) (ppv ok : Bool) : M HRESULT :=
  if rclsid = .sampleProvider then do
    let pcf ← newFactory ok
    queryNew pcf riid ppv
  else pure CLASS_E_CLASSNOTAVAILABLE

def dllGetClassObject : Clsid → Iid → Bool → Bool → M HRESULT := classFactoryCreateInstance

/-- `CClassFactory::CreateInstance`; `pUnkOuter` is false for NULL. -/
def CClassFactory.createInstance (a : Addr) (pUnkOuter : Bool) (riid : Iid) (ppv ok : Bool) :
    M HRESULT := do
  let _ ← getFactory a
  if pUnkOuter then pure CLASS_E_NOAGGREGATION else sampleProviderCreateInstance riid ppv ok

def CClassFactory.lockServer (a : Addr) (bLock : Bool) : M HRESULT := do
  let _ ← getFactory a
  if bLock then dllAddRef else dllRelease
  pure S_OK

def dllCanUnloadNow (w : World) : HRESULT := if w.gRef > 0 then S_FALSE else S_OK

/-- `SetUsageScenario` on the provider at `a`. -/
def CSampleProvider.setUsageScenarioAt (a : Addr) (cpus : UsageScenario) (o : Outcomes) :
    M HRESULT := do
  let p ← getProvider a
  let r ← setUsageScenario p cpus o
  putObj a (.provider r.2)
  pure r.1

/-! Runs. -/

inductive ServerCall where
  | getClassObject (rclsid : Clsid) (riid : Iid) (ppv ok : Bool)
  | createInstance (a : Addr) (pUnkOuter : Bool) (riid : Iid) (ppv ok : Bool)
  | queryInterface (a : Addr) (riid : Iid) (ppv : Bool)
  | addRef (a : Addr)
  | release (a : Addr)
  | lockServer (a : Addr) (bLock : Bool)
  | setUsageScenario (a : Addr) (cpus : UsageScenario) (o : Outcomes)

structure DllServer where
  world : World
  locks : Nat

/-- The DLL after it has been loaded. -/
def loaded : DllServer := ⟨⟨[], 0, []⟩, 0⟩

/-- The server is never unlocked more often than it was locked. -/
def serverStep (s : DllServer) : ServerCall → Option DllServer
  | .getClassObject rclsid riid ppv ok =>
    (dllGetClassObject rclsid riid ppv ok s.world).map fun r => ⟨r.2, s.locks⟩
  | .createInstance a pUnkOuter riid ppv ok =>
    (CClassFactory.createInstance a pUnkOuter riid ppv ok s.world).map fun r => ⟨r.2, s.locks⟩
  | .queryInterface a riid ppv =>
    (objQueryInterface a riid ppv s.world).map fun r => ⟨r.2, s.locks⟩
  | .addRef a => (objAddRef a s.world).map fun r => ⟨r.2, s.locks⟩
  | .release a => (objRelease a s.world).map fun r => ⟨r.2, s.locks⟩
  | .lockServer a bLock =>
    if bLock then
      (CClassFactory.lockServer a true s.world).map fun r => ⟨r.2, s.locks + 1⟩
    else if 0 < s.locks then
      (CClassFactory.lockServer a false s.world).map fun r => ⟨r.2, s.locks - 1⟩
    else none
  | .setUsageScenario a cpus o =>
    (CSampleProvider.setUsageScenarioAt a cpus o s.world).map fun r => ⟨r.2, s.locks⟩

/-- The objects that are there, and the locks. -/
def DllServer.uses (s : DllServer) : Nat := aliveIn s.world.objs + s.locks

/-- `g_cRef` is the number of objects and locks, and `DllCanUnloadNow` answers S_OK
    exactly when there are none. -/
def CountsUses (s : DllServer) : Prop :=
  s.world.gRef.toInt = s.uses ∧
    (dllCanUnloadNow s.world = S_OK ↔ aliveIn s.world.objs = 0 ∧ s.locks = 0)

/-! What the calls of `IUnknown` do to it. -/

theorem getCom_eq_some {a : Addr} {w w' : World} {k : ComObject} (h : getCom a w = some (k, w')) :
    w' = w ∧ ∃ o, w.lookup a = some o ∧ o.com = some k := by
  obtain ⟨k', hk, heq⟩ := Option.map_eq_some_iff.mp h
  cases heq
  exact ⟨rfl, Option.bind_eq_some_iff.mp hk⟩

/-- Another count leaves the object one of its class. -/
theorem counted_withCRef {o : Obj} {k : ComObject} (h : o.com = some k) (n : Int32) :
    counted (some (k.withCRef n)) = counted (some o) := by
  cases o with
  | window cw => cases h
  | _ => cases h; rfl

theorem getFactory_eq_some {a : Addr} {w w' : World} {cRef : Int32} :
    getFactory a w = some (cRef, w') ↔ w' = w ∧ w.lookup a = some (.factory cRef) := by
  unfold getFactory
  constructor
  · intro h
    split at h
    · next ho =>
      cases h
      exact ⟨rfl, ho⟩
    · cases h
  · intro ⟨hw, ho⟩
    rw [ho, hw]

theorem getProvider_eq_some {a : Addr} {w w' : World} {p : CSampleProvider}
    (h : getProvider a w = some (p, w')) : w' = w ∧ w.lookup a = some (.provider p) := by
  unfold getProvider at h
  split at h
  · next ha =>
    cases h
    exact ⟨rfl, ha⟩
  · cases h

theorem objAddRef_counter (a : Addr) (d : Int32) :
    Triple (Counter d) (objAddRef a) (fun _ => Counter d) := by
  intro w ret w' hc h
  obtain ⟨k, w₁, hk, hput⟩ := bind_eq_some h
  obtain ⟨rfl, o, ho, hcom⟩ := getCom_eq_some hk
  cases hput
  exact hc.replace ho rfl rfl (counted_withCRef hcom _)

theorem objQueryInterface_counter (a : Addr) (riid : Iid) (ppv : Bool) (d : Int32) :
    Triple (Counter d) (objQueryInterface a riid ppv) (fun _ => Counter d) := by
  intro w hr w' hc h
  obtain ⟨k, w₁, hk, hrest⟩ := bind_eq_some h
  obtain ⟨rfl, o, ho, hcom⟩ := getCom_eq_some hk
  cases hq : k.cls.queryInterface k.cRef riid ppv with
  | none =>
    rw [hq] at hrest
    cases hrest
  | some q =>
    rw [hq] at hrest
    cases hrest
    exact hc.replace ho rfl rfl (counted_withCRef hcom _)

theorem releaseFactory_counter (a : Addr) (d : Int32) :
    Triple (Counter d) (releaseFactory a) (fun _ => Counter d) := by
  intro w ret w' hc h
  obtain ⟨cRef, w₁, hget, hrest⟩ := bind_eq_some h
  obtain ⟨rfl, ha⟩ := getFactory_eq_some.mp hget
  dsimp only at hrest
  rw [finishRelease_apply a _ _ (pure ()) id (fun _ => rfl)] at hrest
  cases hrest
  split
  · exact hc.replace ha rfl rfl rfl
  · exact hc.replace ha rfl rfl rfl

theorem releaseProvider_counter (a : Addr) (d : Int32) :
    Triple (Counter d) (releaseProvider a) (fun _ => Counter d) := by
  intro w ret w' hc h
  obtain ⟨p, w₁, hget, hrest⟩ := bind_eq_some h
  obtain ⟨rfl, ha⟩ := getProvider_eq_some hget
  obtain ⟨⟨ret', p'⟩, w₂, hcall, hend⟩ := bind_eq_some hrest
  obtain ⟨rfl, rfl⟩ | ⟨rfl, hdestroy⟩ := releaseCall_cases hcall
  · cases hend
    exact hc.replace ha rfl rfl rfl
  -- the destructor has taken one off g_cRef, and now the object goes
  · cases hend
    have hk := destroy_steady d w₁.log w₁ _ w₁ _ _ (steady_refl hc) hdestroy
    exact hk.counter.drop (hk.providers a p ha) rfl rfl rfl

theorem objRelease_counter (a : Addr) (d : Int32) :
    Triple (Counter d) (objRelease a) (fun _ => Counter d) := by
  intro w ret w' hc h
  unfold objRelease at h
  split at h
  · exact releaseFactory_counter a d w ret w' hc h
  · exact releaseProvider_counter a d w ret w' hc h
  · exact (releaseCredential_steady d w.log w a w ret w' (steady_refl hc) h).counter
  · exact (releaseMessage_steady d w.log w a w ret w' (steady_refl hc) h).counter
  · cases h

/-! What the functions of the DLL do to it. -/

theorem newProvider_counter (ok : Bool) (d : Int32) :
    Triple (Counter d) (newProvider ok) (fun _ => Counter d) := by
  intro w a w' hc h
  cases ok with
  | false =>
    cases h
    exact hc
  | true =>
    cases h
    exact hc.append rfl rfl

theorem newFactory_counter (ok : Bool) (d : Int32) :
    Triple (Counter d) (newFactory ok) (fun _ => Counter d) := by
  intro w a w' hc h
  cases ok with
  | false =>
    cases h
    exact hc
  | true =>
    cases h
    exact hc.append rfl (Int32.add_zero _).symm

theorem queryNew_counter (pNew : Option Addr) (riid : Iid) (ppv : Bool) (d : Int32) :
    Triple (Counter d) (queryNew pNew riid ppv) (fun _ => Counter d) := by
  unfold queryNew
  split
  · refine Triple.bind' (objQueryInterface_counter _ riid ppv d) ?_
    intro hr
    refine Triple.bind' (objRelease_counter _ d) ?_
    intro _
    exact Triple.pure' fun _ h => h
  · exact Triple.pure' fun _ h => h

theorem classFactoryCreateInstance_counter (rclsid : Clsid) (riid : Iid) (ppv ok : Bool)
    (d : Int32) :
    Triple (Counter d) (classFactoryCreateInstance rclsid riid ppv ok) (fun _ => Counter d) := by
  unfold classFactoryCreateInstance
  refine Triple.ite' ?_ ?_
  · intro _
    refine Triple.bind' (newFactory_counter ok d) ?_
    intro pcf
    exact queryNew_counter pcf riid ppv d
  · intro _
    exact Triple.pure' fun _ h => h

theorem getFactory_counter (a : Addr) (d : Int32) :
    Triple (Counter d) (getFactory a) (fun _ => Counter d) := by
  intro w cRef w' hc h
  obtain ⟨rfl, -⟩ := getFactory_eq_some.mp h
  exact hc

theorem createInstance_counter (a : Addr) (pUnkOuter : Bool) (riid : Iid) (ppv ok : Bool)
    (d : Int32) :
    Triple (Counter d) (CClassFactory.createInstance a pUnkOuter riid ppv ok)
      (fun _ => Counter d) := by
  unfold CClassFactory.createInstance
  refine Triple.bind' (getFactory_counter a d) ?_
  intro _
  refine Triple.ite' ?_ ?_
  · intro _
    exact Triple.pure' fun _ h => h
  · intro _
    unfold sampleProviderCreateInstance
    refine Triple.bind' (newProvider_counter ok d) ?_
    intro pProvider
    exact queryNew_counter pProvider riid ppv d

/-- `LockServer` moves `g_cRef` alone. -/
theorem lockServer_counter (a : Addr) (bLock : Bool) (d : Int32) :
    Triple (Counter d) (CClassFactory.lockServer a bLock)
      (fun _ => Counter (if bLock then d + 1 else d - 1)) := by
  unfold CClassFactory.lockServer
  refine Triple.bind' (getFactory_counter a d) ?_
  intro _
  cases bLock with
  | true =>
    refine Triple.bind' (Q := fun _ => Counter (d + 1)) ?_ ?_
    · refine Triple.modify' ?_
      intro w h
      show w.gRef + 1 = Int32.ofNat (aliveIn w.objs) + (d + 1)
      rw [show w.gRef = _ from h, Int32.add_assoc]
    · intro _
      exact Triple.pure' fun _ h => h
  | false =>
    refine Triple.bind' (Q := fun _ => Counter (d - 1)) ?_ ?_
    · exact Triple.modify' fun w h => h.less rfl rfl
    · intro _
      exact Triple.pure' fun _ h => h

/-- All that a call does to the objects is to add some at the end. -/
theorem setUsageScenarioAt_counter (a : Addr) (cpus : UsageScenario) (o : Outcomes) (d : Int32) :
    Triple (Counter d) (CSampleProvider.setUsageScenarioAt a cpus o) (fun _ => Counter d) := by
  intro w hr w' hc h
  obtain ⟨p, w₁, hget, hrest⟩ := bind_eq_some h
  obtain ⟨rfl, ha⟩ := getProvider_eq_some hget
  obtain ⟨⟨hr', p'⟩, w₂, hcall, hput⟩ := bind_eq_some hrest
  obtain ⟨os, hobjs, hg⟩ : ∃ os, w₂.objs = w₁.objs ++ os ∧
      w₂.gRef = w₁.gRef + Int32.ofNat (aliveIn os) := by
    obtain ⟨-, -, -, rfl⟩ | ⟨-, -, -, -, rfl⟩ | ⟨-, -, -, -, -, rfl⟩ | ⟨-, -, -, -, -, hundone⟩ :=
      setUsageScenario_cases hcall
    · exact ⟨[], (List.append_nil _).symm, (Int32.add_zero _).symm⟩
    · exact ⟨[], (List.append_nil _).symm, (Int32.add_zero _).symm⟩
    · exact ⟨_, rfl, Int32.add_assoc _ _ _⟩
    · exact hundone.objs
  cases hput
  exact (hc.append hobjs hg).replace (lookup_append hobjs ha) rfl rfl rfl

/-! Whole runs. -/

/-- `g_cRef` exceeds the number of objects by the number of locks. -/
def ServerOk (s : DllServer) : Prop := Counter (Int32.ofNat s.locks) s.world

/-- A call that leaves the locks as they are. -/
theorem serverOk_call {α : Type} {x : M α} {s s' : DllServer} (hs : ServerOk s)
    (hx : Triple (Counter (Int32.ofNat s.locks)) x (fun _ => Counter (Int32.ofNat s.locks)))
    (h : (x s.world).map (fun r => (⟨r.2, s.locks⟩ : DllServer)) = some s') : ServerOk s' := by
  obtain ⟨⟨a, w⟩, hrun, rfl⟩ := Option.map_eq_some_iff.mp h
  exact hx s.world a w hs hrun

theorem serverOk_step {s s' : DllServer} {c : ServerCall} (hs : ServerOk s)
    (h : serverStep s c = some s') : ServerOk s' := by
  cases c with
  | getClassObject rclsid riid ppv ok =>
    exact serverOk_call hs (classFactoryCreateInstance_counter rclsid riid ppv ok _) h
  | createInstance a pUnkOuter riid ppv ok =>
    exact serverOk_call hs (createInstance_counter a pUnkOuter riid ppv ok _) h
  | queryInterface a riid ppv => exact serverOk_call hs (objQueryInterface_counter a riid ppv _) h
  | addRef a => exact serverOk_call hs (objAddRef_counter a _) h
  | release a => exact serverOk_call hs (objRelease_counter a _) h
  | lockServer a bLock =>
    simp only [serverStep] at h
    cases bLock with
    | true =>
      rw [if_pos rfl] at h
      obtain ⟨⟨hr, w⟩, hrun, rfl⟩ := Option.map_eq_some_iff.mp h
      have hc := lockServer_counter a true _ s.world hr w hs hrun
      show Counter (Int32.ofNat (s.locks + 1)) w
      rw [Int32.ofNat_add]
      exact hc
    | false =>
      rw [if_neg Bool.false_ne_true] at h
      split at h
      · next hpos =>
        obtain ⟨⟨hr, w⟩, hrun, rfl⟩ := Option.map_eq_some_iff.mp h
        have hc := lockServer_counter a false _ s.world hr w hs hrun
        show Counter (Int32.ofNat (s.locks - 1)) w
        rw [Int32.ofNat_sub _ _ hpos]
        exact hc
      · cases h
  | setUsageScenario a cpus o => exact serverOk_call hs (setUsageScenarioAt_counter a cpus o _) h

theorem serverOk_preserved : Preserved serverStep always loaded ServerOk where
  init := rfl
  step hs _ h := serverOk_step hs h

/-- A LONG below 2^31 is the number it counts. -/
theorem toInt_ofNat_small {n : Nat} (h : n < 2 ^ 31) : (Int32.ofNat n).toInt = n :=
  Int32.toInt_ofNat_of_lt h

theorem dllCanUnloadNow_iff {w : World} : dllCanUnloadNow w = S_OK ↔ w.gRef.toInt ≤ 0 := by
  unfold dllCanUnloadNow
  split
  · next hpos =>
    have hlt : 0 < w.gRef.toInt := Int32.lt_iff_toInt_lt.mp hpos
    constructor
    · intro h
      exact absurd h (by decide)
    · intro h
      omega
  · next hpos =>
    have hle : ¬ 0 < w.gRef.toInt := fun h => hpos (Int32.lt_iff_toInt_lt.mpr h)
    constructor
    · intro _
      omega
    · intro _
      rfl

/-- `g_cRef` is the number of objects and locks modulo 2^32. Below 2^31 it is the number,
    and the DLL says it can be unloaded exactly when there are none. -/
theorem unload_when_unused (s : DllServer) (h : Reachable serverStep always loaded s) :
    s.world.gRef = Int32.ofNat s.uses ∧ (s.uses < 2 ^ 31 → CountsUses s) := by
  have hok : s.world.gRef = Int32.ofNat s.uses := by
    unfold DllServer.uses
    rw [Int32.ofNat_add]
    exact h.holds serverOk_preserved
  refine ⟨hok, ?_⟩
  intro hlt
  have hint : s.world.gRef.toInt = s.uses := by
    rw [hok]
    exact toInt_ofNat_small hlt
  refine ⟨hint, ?_⟩
  rw [dllCanUnloadNow_iff, hint]
  unfold DllServer.uses
  omega

/-- A factory, a provider made by it, and a lock. -/
def usedRun : List ServerCall :=
  [.getClassObject .sampleProvider .classFactory true true,
    .createInstance 0 false .credentialProvider true true, .lockServer 0 true]

theorem used_stays_loaded :
    (final serverStep always loaded usedRun).world.gRef = Int32.ofNat 2 ∧
      CountsUses (final serverStep always loaded usedRun) := by
  obtain ⟨hg, hcounts⟩ := unload_when_unused _ (reachable_final usedRun)
  exact ⟨hg, hcounts (by decide)⟩

/-! Too many locks. -/

/-- The server is locked `n` times. -/
theorem lock_run (cRef : Int32) (n : Nat) : ∀ s : DllServer,
    s.world.lookup 0 = some (.factory cRef) →
    runFrom serverStep always s (List.replicate n (.lockServer 0 true)) =
      some ⟨{ s.world with gRef := s.world.gRef + Int32.ofNat n }, s.locks + n⟩ := by
  induction n with
  | zero =>
    intro s _
    simp [runFrom]
  | succ n ih =>
    intro s h
    have hget : getFactory 0 s.world = some (cRef, s.world) := getFactory_eq_some.mpr ⟨rfl, h⟩
    have hstep : serverStep s (.lockServer 0 true) =
        some ⟨{ s.world with gRef := s.world.gRef + 1 }, s.locks + 1⟩ := by
      simp only [serverStep, CClassFactory.lockServer, bind_apply, hget]
      rfl
    rw [List.replicate_succ]
    simp only [runFrom, always, if_true, hstep, Option.bind_some]
    refine (ih ⟨{ s.world with gRef := s.world.gRef + 1 }, s.locks + 1⟩ h).trans ?_
    dsimp only
    have hsucc : Int32.ofNat (n + 1) = 1 + Int32.ofNat n := by
      rw [Int32.ofNat_add, Int32.add_comm]
      rfl
    rw [hsucc, Int32.add_assoc, Nat.add_assoc, Nat.add_comm 1 n]

/-- A factory, and the server locked `n` times. -/
def lockRun (n : Nat) : List ServerCall :=
  .getClassObject .sampleProvider .classFactory true true ::
    List.replicate n (.lockServer 0 true)

theorem lockRun_final (n : Nat) : runFrom serverStep always loaded (lockRun n) =
    some ⟨⟨[some (.factory 1)], 0 + Int32.ofNat n, []⟩, 0 + n⟩ := by
  have hfirst : serverStep loaded (.getClassObject .sampleProvider .classFactory true true) =
      some ⟨⟨[some (.factory 1)], 0, []⟩, 0⟩ := rfl
  unfold lockRun
  simp only [runFrom, always, if_true, hfirst, Option.bind_some]
  exact lock_run 1 n _ rfl

/-- After 2^31 locks `g_cRef` is negative, and the DLL says it can be unloaded. -/
theorem unload_while_locked : ¬ ∀ s, Reachable serverStep always loaded s → CountsUses s := by
  intro hall
  obtain ⟨n, hn⟩ : ∃ n, n = 2 ^ 31 := ⟨_, rfl⟩
  obtain ⟨hcount, -⟩ := hall _ (reachable_runFrom (lockRun n) .init (lockRun_final n))
  have hneg : (0 + Int32.ofNat n).toInt < 0 := by
    rw [hn]
    decide
  have hpos : (0 + Int32.ofNat n).toInt = ((aliveIn [some (.factory 1)] + (0 + n) : Nat) : Int) :=
    hcount
  omega

end CardLogon
