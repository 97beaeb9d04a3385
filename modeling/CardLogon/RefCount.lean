import CardLogon.GuardedRun
import CardLogon.Helpers

/- `AddRef`, `Release` and `QueryInterface` of the four COM classes of the DLL.

   The classes repeat the same three methods over their own `LONG _cRef`, which
   the constructor sets to 1. `Release` decrements after it has taken the value,
   and deletes the object when the value it took is 0. The counter wraps as a
   32-bit register does.

   What is proved: `destroyed_at_last_iff`. For calls that give back no more
   references than there are, the object is destroyed at the `Release` that gives
   up the last one, and at no other, exactly when no `Release` is made with one
   reference left or with a multiple of 2^32 of them: the first leaves the
   object alive (`last_release_keeps_alive`), the second destroys it. -/
namespace CardLogon
open GuardedRun

/-- The interface identifiers that the classes know, and the rest. -/
inductive Iid where
  | unknown
  | classFactory
  | credentialProvider
  | credentialProviderCredential
  | other (guid : Nat)
  deriving DecidableEq

/-- `E_NOINTERFACE`. -/
def E_NOINTERFACE : HRESULT := 0x80004002

/-- `return _cRef++;`: the value returned and the new count. -/
def comAddRef (cRef : Int32) : UInt32 × Int32 := (cRef.toUInt32, cRef + 1)

/-- What a `Release` returns, the new count, and whether it deletes the object. -/
structure Released where
  ret : UInt32
  cRef : Int32
  deleted : Bool
  deriving DecidableEq

/-- `LONG cRef = _cRef--; if (!cRef) delete this; return cRef;`. -/
def comRelease (cRef : Int32) : Released := ⟨cRef.toUInt32, cRef - 1, decide (cRef = 0)⟩

/-- What a `QueryInterface` returns, whether it hands out the object in `*ppv`, and
    the new count. -/
structure Queried where
  hr : HRESULT
  ppv : Bool
  cRef : Int32
  deriving DecidableEq

/-- `QueryInterface` with the interfaces it compares `riid` to; `checksPpv` where it
    tests `ppv`, `ppv` false for NULL. Nothing is defined when NULL is written to. -/
def comQueryInterface (interfaces : List Iid) (checksPpv : Bool) (cRef : Int32) (riid : Iid)
    (ppv : Bool) : Option Queried :=
  if ppv then
    if riid ∈ interfaces then some ⟨S_OK, true, (comAddRef cRef).2⟩
    else some ⟨E_NOINTERFACE, false, cRef⟩
  else if checksPpv then some ⟨E_INVALIDARG, false, cRef⟩
  else none

/-! The four classes. -/

def CClassFactory.addRef : Int32 → UInt32 × Int32 := comAddRef
def CClassFactory.release : Int32 → Released := comRelease
def CClassFactory.queryInterface : Int32 → Iid → Bool → Option Queried :=
  comQueryInterface [.classFactory, .unknown] true

def CSampleProvider.addRef : Int32 → UInt32 × Int32 := comAddRef
def CSampleProvider.release : Int32 → Released := comRelease
/-- The provider's own copy does not test `ppv`. -/
def CSampleProvider.queryInterface : Int32 → Iid → Bool → Option Queried :=
  comQueryInterface [.unknown, .credentialProvider] false

def CSampleCredential.addRef : Int32 → UInt32 × Int32 := comAddRef
def CSampleCredential.release : Int32 → Released := comRelease
def CSampleCredential.queryInterface : Int32 → Iid → Bool → Option Queried :=
  comQueryInterface [.unknown, .credentialProviderCredential] true

def CMessageCredential.addRef : Int32 → UInt32 × Int32 := comAddRef
def CMessageCredential.release : Int32 → Released := comRelease
def CMessageCredential.queryInterface : Int32 → Iid → Bool → Option Queried :=
  comQueryInterface [.unknown, .credentialProviderCredential] true

/-- The four classes. -/
inductive ComClass where
  | classFactory
  | sampleProvider
  | sampleCredential
  | messageCredential

def ComClass.addRef : ComClass → Int32 → UInt32 × Int32
  | .classFactory => CClassFactory.addRef
  | .sampleProvider => CSampleProvider.addRef
  | .sampleCredential => CSampleCredential.addRef
  | .messageCredential => CMessageCredential.addRef

def ComClass.release : ComClass → Int32 → Released
  | .classFactory => CClassFactory.release
  | .sampleProvider => CSampleProvider.release
  | .sampleCredential => CSampleCredential.release
  | .messageCredential => CMessageCredential.release

def ComClass.queryInterface : ComClass → Int32 → Iid → Bool → Option Queried
  | .classFactory => CClassFactory.queryInterface
  | .sampleProvider => CSampleProvider.queryInterface
  | .sampleCredential => CSampleCredential.queryInterface
  | .messageCredential => CMessageCredential.queryInterface

@[simp] theorem ComClass.addRef_eq (k : ComClass) (cRef : Int32) :
    k.addRef cRef = (cRef.toUInt32, cRef + 1) := by cases k <;> rfl

@[simp] theorem ComClass.release_eq (k : ComClass) (cRef : Int32) :
    k.release cRef = ⟨cRef.toUInt32, cRef - 1, decide (cRef = 0)⟩ := by cases k <;> rfl

/-- A `QueryInterface` that succeeds adds a reference. -/
theorem ComClass.queryInterface_ok {k : ComClass} {cRef : Int32} {riid : Iid} {ppv : Bool}
    {q : Queried} (h : k.queryInterface cRef riid ppv = some q) (hok : succeeded q.hr) :
    q.cRef = cRef + 1 ∧ q.ppv = true := by
  obtain ⟨is, b, hk⟩ : ∃ is b, k.queryInterface = comQueryInterface is b := by
    cases k <;> exact ⟨_, _, rfl⟩
  rw [hk] at h
  unfold comQueryInterface at h
  split at h
  · split at h
    · cases h
      exact ⟨rfl, rfl⟩
    · cases h
      exact absurd hok (by decide : ¬ succeeded E_NOINTERFACE = true)
  · split at h
    · cases h
      exact absurd hok (by decide : ¬ succeeded E_INVALIDARG = true)
    · cases h

/-! The life of one object. -/

/-- An object and the references to it that its clients hold. -/
structure Life where
  cRef : Int32
  alive : Bool
  held : Nat
  deriving DecidableEq

/-- After the constructor: the creator holds the one reference. -/
def created : Life := ⟨1, true, 1⟩

/-- The calls of the clients; a `QueryInterface` is for an interface and has a `ppv`. -/
inductive Call where
  | addRef
  | release
  | queryInterface (riid : Iid)
  deriving DecidableEq

/-- A call on a living object. `Release` needs a reference to give back, and only a
    `QueryInterface` that succeeds counts. -/
def lifeStep (k : ComClass) (s : Life) (c : Call) : Option Life :=
  if s.alive then
    match c with
    | .addRef => some { s with cRef := (k.addRef s.cRef).2, held := s.held + 1 }
    | .release =>
      if s.held = 0 then none
      else
        let r := k.release s.cRef
        some ⟨r.cRef, !r.deleted, s.held - 1⟩
    | .queryInterface riid =>
      match k.queryInterface s.cRef riid true with
      | some q => if succeeded q.hr then some { s with cRef := q.cRef, held := s.held + 1 } else none
      | none => none
  else none

/-- The references held when each `Release` of the calls is made. -/
def heldAtReleases : Nat → List Call → List Nat
  | _, [] => []
  | n, .release :: cs => n :: heldAtReleases (n - 1) cs
  | n, _ :: cs => heldAtReleases (n + 1) cs

/-- The object is destroyed at the `Release` that gives up the last reference and at
    no other. -/
def DestroyedAtLast (k : ComClass) : Life → List Call → Prop
  | _, [] => True
  | s, c :: cs => ∀ s', lifeStep k s c = some s' →
      (c = .release → (s'.alive = false ↔ s.held = 1)) ∧ DestroyedAtLast k s' cs

/-- The counter of a living object follows the references. -/
def Counted (s : Life) : Prop := s.alive = true → s.cRef = Int32.ofNat s.held

theorem ofNat_eq_zero_iff (n : Nat) : Int32.ofNat n = 0 ↔ n % 2 ^ 32 = 0 := by
  rw [← Int32.toInt_inj, Int32.toInt_ofNat', Int32.toInt_zero, ← Int.dvd_iff_bmod_eq_zero,
    Int32.size]
  omega

/-- A step of a living object: one reference more, or one less. -/
theorem lifeStep_cases {k : ComClass} {s s' : Life} {c : Call} (h : lifeStep k s c = some s') :
    (c ≠ .release ∧ s' = ⟨s.cRef + 1, true, s.held + 1⟩) ∨
    (c = .release ∧ s.held ≠ 0 ∧ s' = ⟨s.cRef - 1, !decide (s.cRef = 0), s.held - 1⟩) := by
  unfold lifeStep at h
  split at h
  · next ha =>
    cases c with
    | addRef =>
      obtain rfl := Option.some.inj h
      exact .inl ⟨by simp, by rw [k.addRef_eq, ha]⟩
    | release =>
      dsimp only at h
      split at h
      · cases h
      · next hheld =>
        obtain rfl := Option.some.inj h
        exact .inr ⟨rfl, hheld, by rw [k.release_eq]⟩
    | queryInterface riid =>
      dsimp only at h
      split at h
      · next q hq =>
        split at h
        · next hok =>
          obtain rfl := Option.some.inj h
          exact .inl ⟨by simp, by rw [(ComClass.queryInterface_ok hq hok).1, ha]⟩
        · cases h
      · cases h
  · cases h

theorem counted_step {k : ComClass} {s s' : Life} {c : Call} (ha : s.alive = true)
    (hs : Counted s) (h : lifeStep k s c = some s') : Counted s' := by
  intro _
  obtain ⟨-, rfl⟩ | ⟨-, hheld, rfl⟩ := lifeStep_cases h
  · show s.cRef + 1 = Int32.ofNat (s.held + 1)
    rw [hs ha, Int32.ofNat_add]
    rfl
  · show s.cRef - 1 = Int32.ofNat (s.held - 1)
    rw [hs ha, Int32.ofNat_sub _ _ (by omega)]
    rfl

theorem alive_of_step {k : ComClass} {s s' : Life} {c : Call} (h : lifeStep k s c = some s') :
    s.alive = true := by
  unfold lifeStep at h
  split at h
  · assumption
  · cases h

/-- Along the calls from any state whose counter is right. -/
theorem destroyedAtLast_iff_of_counted (k : ComClass) : ∀ (cs : List Call) (s s₁ : Life),
    Counted s → runFrom (lifeStep k) always s cs = some s₁ →
    (DestroyedAtLast k s cs ↔ ∀ n ∈ heldAtReleases s.held cs, n ≠ 1 ∧ n % 2 ^ 32 ≠ 0)
  | [], s, s₁, _, _ => by simp [DestroyedAtLast, heldAtReleases]
  | c :: cs, s, s₁, hs, h => by
    simp only [runFrom, always, if_true] at h
    obtain ⟨s', hc, hrest⟩ := Option.bind_eq_some_iff.mp h
    have ha := alive_of_step hc
    have ih := destroyedAtLast_iff_of_counted k cs s' s₁ (counted_step ha hs hc) hrest
    have hone : DestroyedAtLast k s (c :: cs) ↔
        (c = .release → (s'.alive = false ↔ s.held = 1)) ∧ DestroyedAtLast k s' cs :=
      ⟨fun hd => hd s' hc, fun hd t ht => by rw [hc] at ht; cases ht; exact hd⟩
    rw [hone, ih]
    obtain ⟨hne, rfl⟩ | ⟨rfl, hheld, rfl⟩ := lifeStep_cases hc
    · have hh : heldAtReleases s.held (c :: cs) = heldAtReleases (s.held + 1) cs := by
        cases c <;> first | rfl | exact absurd rfl hne
      rw [hh]
      exact ⟨fun hr => hr.2, fun hr => ⟨fun hc => absurd hc hne, hr⟩⟩
    · have hzero : (!decide (s.cRef = 0)) = false ↔ s.held % 2 ^ 32 = 0 := by
        rw [hs ha, ← ofNat_eq_zero_iff]
        simp
      have hfirst : (s.held % 2 ^ 32 = 0 ↔ s.held = 1) ↔ s.held ≠ 1 ∧ s.held % 2 ^ 32 ≠ 0 := by
        constructor
        · intro hiff
          constructor <;> intro h <;> omega
        · intro hn
          exact ⟨fun h => absurd h hn.2, fun h => absurd h hn.1⟩
      simp only [heldAtReleases, List.mem_cons, forall_eq_or_imp, true_implies, hzero, hfirst]

/-- For calls that give back no more references than are held: the object is destroyed
    exactly at its last `Release` if and only if no `Release` is made with one reference
    held, nor with a multiple of 2^32. -/
theorem destroyed_at_last_iff (k : ComClass) (cs : List Call)
    (h : (runFrom (lifeStep k) always created cs).isSome) :
    DestroyedAtLast k created cs ↔ ∀ n ∈ heldAtReleases 1 cs, n ≠ 1 ∧ n % 2 ^ 32 ≠ 0 := by
  obtain ⟨s₁, hs₁⟩ := Option.isSome_iff_exists.mp h
  exact destroyedAtLast_iff_of_counted k cs created s₁ (fun _ => rfl) hs₁

/-- A client takes a second reference and gives it back. -/
theorem second_reference_returned :
    DestroyedAtLast .sampleProvider created [.queryInterface .credentialProvider, .release] :=
  (destroyed_at_last_iff .sampleProvider [.queryInterface .credentialProvider, .release]
    (by decide)).mpr (by decide)

/-- The creator gives up its reference, the only one: the object stays. -/
theorem last_release_keeps_alive :
    ¬ ∀ k cs, (runFrom (lifeStep k) always created cs).isSome → DestroyedAtLast k created cs := by
  intro hall
  have hd := hall .sampleProvider [.release] (by decide) ⟨0, true, 0⟩ (by decide)
  exact absurd ((hd.1 rfl).mpr rfl) (by decide)

end CardLogon
