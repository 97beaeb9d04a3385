import CardLogon.Terminal

/- The port: a reader runs, or a reconnect is pending.

   A session opens the port once, in `Initialize`, and then only when `isopenCOM` is
   1, which a reader sets when its wait fails. When the first InitCOM fails there is
   no reader to set it, and the terminal waits for a card that nothing can bring.
   The same happens when the thread is not created, or starts so fast that it finds
   `m_IsOpen` still false: `InitCOM` sets it after it has created the thread.

   What is proved: `reader_or_reconnect`. In every run where an InitCOM with
   `isopenCOM` at 0 succeeds, the thread is created, and the new reader makes its
   first test after `m_IsOpen` is set, the logon thread stands at the head of the
   loop only with a running reader or with `isopenCOM` at 1. -/
namespace CardLogon
open CText GuardedRun

/-- The reader has not left its loop. -/
def Reader.running (r : Reader) : Bool := r.pc != .exited

/-- Some reader has not left its loop. -/
def readerRuns (s : State) : Bool := s.readers.any Reader.running

/-- The reader created last has not left its loop. -/
def newestRuns (s : State) : Bool := (s.readers.getLast?.map Reader.running).getD false

/-- The reader created last is about to test `m_IsOpen`. -/
def newestTests (s : State) (i : Nat) : Bool :=
  i + 1 == s.readers.length && s.readers[i]?.map Reader.pc == some .test

/-- InitCOM works when no reconnect is pending: `Initialize` opens the port and the
    thread is created, and the new reader does not test `m_IsOpen` before InitCOM has set
    it; and in a reconnect the thread is created, and waits for `m_IsOpen` likewise. -/
def initCOMWorks (s : State) : Act → Bool
  | .logon a =>
    match s.logon with
    | .openPort .boot => a.ok || s.isopenCOM
    | .spawn .boot => a.ok || s.isopenCOM
    | .spawn .reconnect => a.ok
    | _ => true
  | .reader i _ =>
    match s.logon with
    | .setOpen .boot => s.isopenCOM || !newestTests s i
    | .setOpen .reconnect => !newestTests s i
    | _ => true
  | _ => true

/-- What holds of the port where the logon thread stands. -/
def portOk (s : State) : LogonPc → Prop
  | .idle | .openPort .boot | .uninitAccepted | .connect | .wipeCar | .wipeNames | .wipeNick => True
  | .spawn .boot => True
  | .openPort .reconnect | .spawn .reconnect | .uninitReconnect => s.isopenCOM = true
  | .setOpen .boot => newestRuns s = true ∨ s.isopenCOM = true
  | .setOpen .reconnect => newestRuns s = true ∧ s.isopenCOM = true
  | .reopened => s.mIsOpen = true ∧ readerRuns s = true
  | _ => (s.mIsOpen = true ∧ readerRuns s = true) ∨ s.isopenCOM = true

theorem readerRuns_of_newest {s : State} (h : newestRuns s = true) : readerRuns s = true := by
  unfold newestRuns at h
  cases hl : s.readers.getLast? with
  | none => simp [hl] at h
  | some r =>
    rw [hl] at h
    exact List.any_eq_true.mpr ⟨r, List.mem_of_getLast? hl, by simpa using h⟩

/-- A step of the logon thread. -/
theorem portOk_logon {s : State} (hi : portOk s s.logon) (a : Answer)
    (hg : initCOMWorks s (.logon a) = true) :
    portOk (logonStep s a s.logon) (logonStep s a s.logon).logon := by
  cases hpc : s.logon with
  | openPort c =>
    cases c with
    | boot =>
      simp only [initCOMWorks, hpc, Bool.or_eq_true] at hg
      simp only [logonStep]
      split
      · exact trivial
      · next hno => exact .inr (hg.resolve_left hno)
    | reconnect =>
      rw [hpc] at hi
      simp only [logonStep]
      split
      · exact hi
      · exact .inr hi
  | spawn c =>
    have hnew : a.ok = true → newestRuns (logonStep s a (.spawn c)) = true := by
      intro h
      simp [newestRuns, logonStep, h, Reader.running]
    cases c with
    | boot =>
      simp only [initCOMWorks, hpc, Bool.or_eq_true] at hg
      exact hg.imp hnew id
    | reconnect =>
      simp only [initCOMWorks, hpc] at hg
      rw [hpc] at hi
      exact ⟨hnew hg, hi⟩
  | setOpen c =>
    rw [hpc] at hi
    cases c with
    | boot => exact hi.imp (fun h => ⟨rfl, readerRuns_of_newest h⟩) id
    | reconnect => exact ⟨rfl, readerRuns_of_newest hi.1⟩
  | reopened => rw [hpc] at hi; exact .inl hi
  | head =>
    rw [hpc] at hi
    simp only [logonStep]
    split
    · exact trivial
    · exact hi
  | inner => rw [hpc] at hi; simp only [logonStep]; split <;> exact hi
  | ping => rw [hpc] at hi; simp only [logonStep]; split <;> exact hi
  | infoOk p =>
    rw [hpc] at hi
    simp only [logonStep]
    split
    · exact hi
    · cases p <;> exact hi
  | copyAudit p k =>
    rw [hpc] at hi
    simp only [logonStep]
    split
    · exact hi
    · cases p <;> exact hi
  | check => rw [hpc] at hi; simp only [logonStep]; split <;> exact hi
  | noCard =>
    rw [hpc] at hi
    simp only [logonStep]
    split
    · next h => exact h
    · exact hi
  | query =>
    rw [hpc] at hi
    simp only [logonStep]
    cases a.result <;> exact hi
  | queryOk => rw [hpc] at hi; simp only [logonStep]; split <;> exact hi
  | branch => rw [hpc] at hi; simp only [logonStep]; split <;> exact hi
  | verdict => rw [hpc] at hi; simp only [logonStep]; split <;> exact hi
  | wait => rw [hpc] at hi; simp only [logonStep]; split <;> exact hi
  | readBack => rw [hpc] at hi; simp only [logonStep]; split <;> exact hi
  | insertOk =>
    rw [hpc] at hi
    simp only [logonStep]
    split
    · exact trivial
    · exact hi
  | uninitReconnect => rw [hpc] at hi; exact hi
  | idle => exact trivial
  | uninitAccepted => exact trivial
  | connect => exact trivial
  | wipeCar => exact trivial
  | wipeNames => exact trivial
  | wipeNick => exact trivial
  | _ => rw [hpc] at hi; exact hi

/-- The port's part of the state. -/
theorem portOk_congr {s s' : State} (h1 : s'.mIsOpen = s.mIsOpen) (h2 : s'.isopenCOM = s.isopenCOM)
    (h3 : s'.readers = s.readers) {pc : LogonPc} (hi : portOk s pc) : portOk s' pc := by
  have hr : readerRuns s' = readerRuns s := by simp only [readerRuns, h3]
  have hn : newestRuns s' = newestRuns s := by simp only [newestRuns, h3]
  cases pc with
  | openPort c =>
    cases c with
    | boot => trivial
    | reconnect => exact h2.trans hi
  | spawn c =>
    cases c with
    | boot => trivial
    | reconnect => exact h2.trans hi
  | setOpen c =>
    cases c with
    | boot => exact hi.imp hn.trans h2.trans
    | reconnect => exact ⟨hn.trans hi.1, h2.trans hi.2⟩
  | _ =>
    first
    | trivial
    | (simp only [portOk, h1, h2, hr] at hi ⊢; exact hi)

/-! The readers. -/

/-- A reader's step: it stays in its loop, unless it finds the port closed. -/
theorem readerStep_running {s : State} {i : Nat} {r : Reader} (hr : s.readers[i]? = some r)
    (a : Answer) :
    ∃ r', (readerStep s a i r r.pc).readers = s.readers.set i r' ∧
      (readerStep s a i r r.pc).mIsOpen = s.mIsOpen ∧
      (readerStep s a i r r.pc).logon = s.logon ∧
      (s.isopenCOM = true → (readerStep s a i r r.pc).isopenCOM = true) ∧
      (r.running = true → r'.running = true ∨ (r.pc = .test ∧ s.mIsOpen = false)) := by
  cases hpc : r.pc with
  | start => exact ⟨_, rfl, rfl, rfl, id, fun _ => .inl rfl⟩
  | test =>
    refine ⟨_, rfl, rfl, rfl, id, fun _ => ?_⟩
    cases hm : s.mIsOpen with
    | true => exact .inl rfl
    | false => exact .inr ⟨rfl, rfl⟩
  | await =>
    refine ⟨_, rfl, rfl, rfl, id, fun _ => .inl ?_⟩
    simp only [Reader.running]
    split <;> rfl
  | read => exact ⟨_, rfl, rfl, rfl, id, fun _ => .inl rfl⟩
  | append data =>
    simp only [readerStep]
    split
    · exact ⟨_, rfl, rfl, rfl, id, fun _ => .inl rfl⟩
    · exact ⟨_, rfl, rfl, rfl, id, fun _ => .inl rfl⟩
  | purge => exact ⟨_, rfl, rfl, rfl, id, fun _ => .inl rfl⟩
  | result =>
    refine ⟨_, rfl, rfl, rfl, fun h => ?_, fun _ => .inl rfl⟩
    simp only [readerStep, State.setReader, h]
    split <;> rfl
  | exited =>
    refine ⟨r, ?_, rfl, rfl, id, fun h => .inl h⟩
    obtain ⟨hlt, hget⟩ := List.getElem?_eq_some_iff.mp hr
    simp only [readerStep]
    rw [← hget, List.set_getElem_self]

theorem any_running_set {rs : List Reader} {i : Nat} {r r' : Reader} (hr : rs[i]? = some r)
    (h : r.running = true → r'.running = true) (hany : rs.any Reader.running = true) :
    (rs.set i r').any Reader.running = true := by
  obtain ⟨x, hx, hrun⟩ := List.any_eq_true.mp hany
  obtain ⟨j, hj⟩ := List.mem_iff_getElem?.mp hx
  obtain ⟨hlt, -⟩ := List.getElem?_eq_some_iff.mp hr
  by_cases hij : i = j
  · subst hij
    obtain rfl : r = x := Option.some.inj (hr.symm.trans hj)
    exact List.any_eq_true.mpr ⟨r', List.mem_iff_getElem?.mpr ⟨i, by simp [hlt]⟩, h hrun⟩
  · exact List.any_eq_true.mpr
      ⟨x, List.mem_iff_getElem?.mpr ⟨j, by rw [List.getElem?_set_ne hij, hj]⟩, hrun⟩

theorem newest_running_set {rs : List Reader} {i : Nat} {r r' : Reader} (hr : rs[i]? = some r)
    (h : i + 1 = rs.length → r.running = true → r'.running = true)
    (hnew : (rs.getLast?.map Reader.running).getD false = true) :
    (((rs.set i r').getLast?).map Reader.running).getD false = true := by
  obtain ⟨hlt, -⟩ := List.getElem?_eq_some_iff.mp hr
  rw [List.getLast?_eq_getElem?] at hnew ⊢
  rw [List.length_set]
  by_cases hi : i + 1 = rs.length
  · have hlast : rs.length - 1 = i := by omega
    rw [hlast] at hnew ⊢
    rw [hr] at hnew
    rw [List.getElem?_set_self hlt]
    exact h hi hnew
  · rwa [List.getElem?_set_ne (by omega)]

/-- A step of a reader. -/
theorem portOk_reader {s : State} (hi : portOk s s.logon) {i : Nat} {r : Reader}
    (hr : s.readers[i]? = some r) (a : Answer) (hg : initCOMWorks s (.reader i a) = true) :
    portOk (readerStep s a i r r.pc) (readerStep s a i r r.pc).logon := by
  obtain ⟨r', hrs, hopen, hlogon, hcom, hrun⟩ := readerStep_running hr a
  generalize readerStep s a i r r.pc = s' at hrs hopen hlogon hcom ⊢
  rw [hlogon]
  have hany : s.mIsOpen = true → readerRuns s = true → readerRuns s' = true := by
    intro hm h
    simp only [readerRuns, hrs]
    refine any_running_set hr (fun hx => (hrun hx).resolve_right fun h => ?_) h
    rw [hm] at h
    cases h.2
  have hnew : newestTests s i = false → newestRuns s = true → newestRuns s' = true := by
    intro htests h
    simp only [newestRuns, hrs]
    refine newest_running_set hr (fun hlast hx => (hrun hx).resolve_right fun ⟨ht, _⟩ => ?_) h
    simp [newestTests, hlast, hr, ht] at htests
  cases hpc : s.logon with
  | idle => trivial
  | openPort c =>
    rw [hpc] at hi
    cases c with
    | boot => trivial
    | reconnect => exact hcom hi
  | spawn c =>
    rw [hpc] at hi
    cases c with
    | boot => trivial
    | reconnect => exact hcom hi
  | setOpen c =>
    rw [hpc] at hi
    cases c with
    | boot =>
      -- an InitCOM of `Initialize` has only to work when no reconnect is pending
      cases hpend : s.isopenCOM with
      | true => exact .inr (hcom hpend)
      | false =>
        have htests : newestTests s i = false := by simpa [initCOMWorks, hpc, hpend] using hg
        exact hi.imp (hnew htests) hcom
    | reconnect =>
      have htests : newestTests s i = false := by simpa [initCOMWorks, hpc] using hg
      exact ⟨hnew htests hi.1, hcom hi.2⟩
  | reopened => rw [hpc] at hi; exact ⟨hopen.trans hi.1, hany hi.1 hi.2⟩
  | uninitAccepted => trivial
  | uninitReconnect => rw [hpc] at hi; exact hcom hi
  | connect => trivial
  | wipeCar => trivial
  | wipeNames => trivial
  | wipeNick => trivial
  | _ => rw [hpc] at hi; exact hi.imp (fun h => ⟨hopen.trans h.1, hany h.1 h.2⟩) hcom

theorem portOk_preserved :
    Preserved step initCOMWorks initial (fun s => portOk s s.logon) := by
  refine preserved_of_steps trivial ?_ ?_ ?_ ?_
  · intro s a hi hg
    exact portOk_logon hi a hg
  · intro s s' a hi _ h
    have hf := windowStep_frame h
    rw [hf.logon]
    exact portOk_congr hf.mIsOpen hf.isopenCOM hf.readers hi
  · intro s i r a hi hg hr
    exact portOk_reader hi hr a hg
  · intro s queue rx hi
    exact @portOk_congr s { s with queue := queue, rx := rx } rfl rfl rfl s.logon hi

/-- The logon thread is at the head of the loop, not connected and past the
    initialization. -/
def atHead (s : State) : Prop :=
  s.logon = .head ∧ s.fConnected = false ∧ s.initialization = false

instance (s : State) : Decidable (atHead s) := inferInstanceAs (Decidable (_ ∧ _ ∧ _))

/-- At the head of the loop a reader runs or a reconnect is pending, in every run
    whose InitCOM calls work when no reconnect is pending. -/
theorem reader_or_reconnect (s : State) (h : Reachable step initCOMWorks initial s)
    (hs : atHead s) : readerRuns s = true ∨ s.isopenCOM = true := by
  have hi : portOk s s.logon := h.holds portOk_preserved
  rw [hs.1] at hi
  exact hi.imp And.right id

/-- The port opens, and the loop comes back to its head without a card. -/
def openedRun : List Act := bootRun ++ logons 2 yes

theorem opened_reader_runs :
    readerRuns (final step initCOMWorks initial openedRun) = true ∨
      (final step initCOMWorks initial openedRun).isopenCOM = true :=
  reader_or_reconnect _ (reachable_final openedRun) (by decide +kernel)

/-- InitCOM fails in `Initialize`, and the loop comes back to its head with no
    reader and no reconnect. -/
def deafRun : List Act := [.logon yes, .logon no] ++ logons 14 yes ++ logons 2 yes

theorem first_open_fails : ¬ ∀ s, Reachable step always initial s → atHead s →
    readerRuns s = true ∨ s.isopenCOM = true :=
  not_forall_reachable deafRun (by decide +kernel)

end CardLogon
