import CardLogon.CText

/- `ComAsy::ComWrite` and the request `GetConnectedStatus` sends with it.

   The length of the request is a global that `ComWrite` takes by reference, sets to 0
   and then to the number of bytes written: one call decides what the next one asks for.
   Every outcome of an overlapped write is covered; a write transfers at most what it is
   asked to.

   What is proved: `requests_right_iff`. Every call of a sequence asks for the whole
   request and returns true exactly when it was written if and only if every call but the
   last writes all of it at once, and the last one either does, or fails, or is pending and
   then transfers less: a pending write that completes is reported as a failure. -/
namespace CardLogon
open CText

/-- `chData`, with its NUL. -/
def chData : Bytes := lit "ready" ++ [0]

/-- `sizeof(chData)`, the first value of `len`. -/
def sizeofChData : Nat := chData.length

/-- How an overlapped write goes: `WriteFile` finishes with `n` bytes, or it is pending and
    finishes with `n` bytes or fails, or it fails at once. -/
inductive Overlapped where
  | atOnce (n : Nat)
  | pending (n : Nat)
  | pendingFails
  | fails

/-- What `WriteFile` returns. -/
def Overlapped.rtn : Overlapped → Bool
  | .atOnce _ => true
  | _ => false

/-- The last error is ERROR_IO_PENDING. -/
def Overlapped.ioPending : Overlapped → Bool
  | .pending _ => true
  | .pendingFails => true
  | _ => false

/-- What `GetOverlappedResult` returns. -/
def Overlapped.result : Overlapped → Bool
  | .pending _ => true
  | _ => false

/-- The bytes transferred of those asked for. -/
def Overlapped.transferred (len : Nat) : Overlapped → Nat
  | .atOnce n => min n len
  | .pending n => min n len
  | _ => 0

/-- A call: the bytes it asks to send, what it returns, the bytes written, and `len` after
    it. -/
structure Written where
  asked : Nat
  ret : Bool
  written : Nat
  len : Nat

def comWrite (len : Nat) (o : Overlapped) : Written :=
  -- WriteSize is 0 while the write is pending, and when it fails
  let writeSize := if o.rtn then o.transferred len else 0
  if o.rtn = false ∧ o.ioPending = true then
    if o.result = false then ⟨len, false, 0, 0⟩
    else ⟨len, o.rtn, o.transferred len, o.transferred len⟩
  else ⟨len, o.rtn, writeSize, writeSize⟩

/-- The calls of a run, each with the `len` the one before left. -/
def comWrites : Nat → List Overlapped → List Written
  | _, [] => []
  | len, o :: os => comWrite len o :: comWrites (comWrite len o).len os

/-- The call asks for the whole request, and returns true exactly when it is all written. -/
def Written.Right (w : Written) : Prop :=
  w.asked = sizeofChData ∧ (w.ret = true ↔ w.written = w.asked)

/-- Every call of the run does. -/
def RequestsRight (os : List Overlapped) : Prop := ∀ w ∈ comWrites sizeofChData os, w.Right

/-- The whole request at once. -/
def Overlapped.Full (o : Overlapped) : Prop := ∃ n, o = .atOnce n ∧ sizeofChData ≤ n

/-- The whole request at once, or a failure, or a pending write that transfers less. -/
def Overlapped.Told : Overlapped → Prop
  | .atOnce n => sizeofChData ≤ n
  | .pending n => n < sizeofChData
  | .pendingFails => True
  | .fails => True

@[simp] theorem comWrite_asked (len : Nat) (o : Overlapped) : (comWrite len o).asked = len := by
  cases o with
  | atOnce n => rfl
  | pending n => rfl
  | pendingFails => rfl
  | fails => rfl

/-- `len` after a call is what was written. -/
@[simp] theorem comWrite_len (len : Nat) (o : Overlapped) :
    (comWrite len o).len = (comWrite len o).written := by
  cases o with
  | atOnce n => rfl
  | pending n => rfl
  | pendingFails => rfl
  | fails => rfl

theorem min_eq_sizeof (n : Nat) : min n sizeofChData = sizeofChData ↔ sizeofChData ≤ n := by
  omega

/-- A call for the whole request. -/
theorem comWrite_right_iff (o : Overlapped) : (comWrite sizeofChData o).Right ↔ o.Told := by
  unfold Written.Right
  rw [comWrite_asked]
  cases o with
  | atOnce n =>
    show sizeofChData = sizeofChData ∧ (true = true ↔ min n sizeofChData = sizeofChData) ↔
      sizeofChData ≤ n
    rw [min_eq_sizeof]
    simp
  | pending n =>
    show sizeofChData = sizeofChData ∧ (false = true ↔ min n sizeofChData = sizeofChData) ↔
      n < sizeofChData
    rw [min_eq_sizeof]
    simp
  | pendingFails => exact ⟨fun _ => trivial, fun _ => ⟨rfl, by decide⟩⟩
  | fails => exact ⟨fun _ => trivial, fun _ => ⟨rfl, by decide⟩⟩

/-- The one way to be told right and to leave the length for the next call. -/
theorem full_iff (o : Overlapped) :
    o.Full ↔ o.Told ∧ (comWrite sizeofChData o).written = sizeofChData := by
  unfold Overlapped.Full
  cases o with
  | atOnce n =>
    show _ ↔ sizeofChData ≤ n ∧ min n sizeofChData = sizeofChData
    rw [min_eq_sizeof]
    simp
  | pending n =>
    show _ ↔ n < sizeofChData ∧ min n sizeofChData = sizeofChData
    rw [min_eq_sizeof]
    refine ⟨fun ⟨_, h, _⟩ => ?_, fun ⟨hlt, hle⟩ => absurd hle (Nat.not_le_of_lt hlt)⟩
    cases h
  | pendingFails =>
    refine ⟨fun ⟨_, h, _⟩ => ?_, fun ⟨_, h⟩ => ?_⟩
    · cases h
    · cases h
  | fails =>
    refine ⟨fun ⟨_, h, _⟩ => ?_, fun ⟨_, h⟩ => ?_⟩
    · cases h
    · cases h

/-- The calls of a run are all right exactly when every one but the last writes the whole
    request at once, and the last one is told right. -/
theorem requests_right_iff (os : List Overlapped) :
    RequestsRight os ↔ (∀ o ∈ os.dropLast, o.Full) ∧ ∀ o ∈ os.getLast?, o.Told := by
  unfold RequestsRight
  induction os with
  | nil => simp [comWrites]
  | cons o os ih =>
    rw [comWrites, List.forall_mem_cons, comWrite_right_iff, comWrite_len]
    cases os with
    | nil => simp [comWrites]
    | cons o' os =>
      rw [List.dropLast_cons_cons, List.forall_mem_cons, List.getLast?_cons_cons, full_iff, and_assoc,
        ← ih]
      refine ⟨fun h => ?_, fun h => ?_⟩
      · -- the next call asks for what this one wrote
        obtain ⟨hasked, -⟩ := h.2 _ List.mem_cons_self
        rw [comWrite_asked] at hasked
        rw [hasked] at h
        exact ⟨⟨h.1, hasked⟩, h.2⟩
      · rw [h.1.2]
        exact ⟨h.1.1, h.2⟩

/-- A pending write that completes: the request was sent, and the call returns false. -/
theorem pending_reported_failed : ¬ ∀ os, RequestsRight os := by
  intro hall
  have h := hall [.pending 6] _ List.mem_cons_self
  exact Nat.lt_irrefl 6 ((comWrite_right_iff (.pending 6)).mp h)

end CardLogon
