import CardLogon.Terminal

/- How long a thread of the terminal works before it waits again.

   Each thread has places where it waits, and stays while it does: the logon thread for the
   next call of LogonUI, for a card and for the window; the window thread for a message; a
   reader for bytes; and the first two for the network: in the loop of the ping, in each
   query of the database (which shows a message box when it fails) and in each request to
   the login server, whose receive loop a silent server keeps going. Everywhere else a
   measure of what is still to be done gets smaller with each step of the thread, and no
   other thread changes it. A `Clock` is such a measure: `turn` runs to the next wait of any
   kind, and `round` through the queries and the requests, where a call that comes back is
   one step. So is the loop that replaces `+` in a typed password, which ends by itself
   (`LoginForm.lean`).

   What is proved: `bounded_turns`. From any state, whatever the other threads do and whatever
   the calls answer, a thread that does not come to a place where it waits takes no more than
   10 steps (the logon thread), 4 (the window thread) or 5 (a reader); and one that waits for
   nothing but a query or a request takes no more than 38, 13 or 5. -/
namespace CardLogon
open GuardedRun

inductive Thread where
  | logon
  | window
  | reader (i : Nat)

/-- The action is a step of the thread. -/
def Thread.owns : Thread → Act → Bool
  | .logon, .logon _ => true
  | .window, .window _ => true
  | .reader i, .reader j _ => i == j
  | _, _ => false

/-! What is still to be done. -/

/-- Steps to the next place where the logon thread waits, at most. -/
def logonTurn : LogonPc → Nat
  | .idle | .head | .ping | .wait => 0
  -- the database
  | .conn _ | .info _ | .bootPrint | .query | .print | .insert | .refuse => 0
  -- the login server: getData comes before the clear and before the print of the body
  | .bootClear | .fmt | .sent _ => 0
  | .infoOk _ => 6
  | .copyAudit _ k => 1 + (4 - k)
  | .inner => 8
  | .check => 7
  | .putCar _ => 10
  | .putName _ => 9
  | .putNick _ => 8
  | .putPw _ | .putMiss _ => 7
  | .queryRet _ => 6
  | .queryOk => 5
  | .takeUser => 4
  | .takePw => 3
  | .branch => 2
  | .send => 1
  | .rearm => 5
  | .verdict => 4
  | .pass1 => 3
  | .pass2 => 2
  | .pass3 | .arm | .fail => 1
  -- after the wait
  | .readBack => 2
  | .insertOk => 6
  | .uninitAccepted => 5
  | .connect => 4
  | .wipeCar => 3
  | .wipeNames => 2
  | .wipeNick | .clear | .backClear => 1
  -- no card
  | .noCard => 6
  | .uninitReconnect => 5
  | .openPort _ => 4
  | .spawn _ => 3
  | .setOpen _ => 2
  | .reopened => 1

/-- The same, with the queries and the requests between. -/
def logonRound : LogonPc → Nat
  | .idle | .head | .ping | .wait => 0
  -- the first round
  | .conn .boot => 38
  | .info .boot => 37
  | .infoOk .boot => 36
  | .copyAudit .boot k => 31 + (4 - k)
  | .bootClear => 30
  | .bootPrint => 29
  | .inner => 28
  -- a card
  | .check => 27
  | .conn .card => 26
  | .info .card => 25
  | .infoOk .card => 24
  | .copyAudit .card k => 19 + (4 - k)
  | .query => 18
  | .putCar _ => 17
  | .putName _ => 16
  | .putNick _ => 15
  | .putPw _ | .putMiss _ => 14
  | .queryRet _ => 13
  | .queryOk => 12
  | .takeUser => 11
  | .takePw => 10
  | .branch => 9
  | .fmt => 8
  | .send => 7
  | .sent _ => 6
  | .rearm => 5
  | .verdict => 4
  | .pass1 => 3
  | .pass2 => 2
  | .pass3 | .arm | .fail => 1
  -- after the wait
  | .readBack => 9
  | .print => 8
  | .insert => 7
  | .insertOk => 6
  | .uninitAccepted => 5
  | .connect => 4
  | .wipeCar => 3
  | .wipeNames => 2
  | .refuse => 2
  | .wipeNick | .clear | .backClear => 1
  -- no card
  | .noCard => 6
  | .uninitReconnect => 5
  | .openPort _ => 4
  | .spawn _ => 3
  | .setOpen _ => 2
  | .reopened => 1

/-- For the window thread: to the next message, getData, post or update. -/
def windowTurn : WindowPc → Nat
  | .idle | .getDt | .sent _ | .updating _ => 0
  | .click => 3
  | .request _ => 3
  | .format _ _ => 2
  | .send => 1
  | .verdict => 3
  | .update => 1
  | .updated => 4
  | .acc1 => 3
  | .acc2 | .rej1 | .back1 => 2
  | .acc3 | .rej2 | .back2 => 1

def windowRound : WindowPc → Nat
  | .idle => 0
  | .click => 13
  | .getDt => 12
  | .request _ => 11
  | .format _ _ => 10
  | .send => 9
  | .sent _ => 8
  | .verdict => 7
  | .update => 6
  | .updating _ => 5
  | .updated => 4
  | .acc1 => 3
  | .acc2 | .rej1 | .back1 => 2
  | .acc3 | .rej2 | .back2 => 1

/-- A reader waits in `WaitCommEvent`. -/
def readerLeft : ReaderPc → Nat
  | .await | .exited => 0
  | .read => 5
  | .append _ => 4
  | .purge => 3
  | .start | .result => 2
  | .test => 1

/-- Measures of what the logon thread and the window thread have still to do: each step of
    the thread lowers them, and they are bounded. -/
structure Clock where
  logonLeft : LogonPc → Nat
  windowLeft : WindowPc → Nat
  logonBound : Nat
  windowBound : Nat
  logon_step : ∀ (s : State) (a : Answer) (pc : LogonPc), logonLeft pc ≠ 0 →
    logonLeft (logonStep s a pc).logon < logonLeft pc
  window_step : ∀ (s s' : State) (a : Answer) (pc : WindowPc), s.window = pc →
    windowLeft pc ≠ 0 → windowStep s a pc = some s' → windowLeft s'.window < windowLeft pc
  logon_le : ∀ pc, logonLeft pc ≤ logonBound
  window_le : ∀ pc, windowLeft pc ≤ windowBound

/-- To the next wait. -/
def Clock.turn : Clock where
  logonLeft := logonTurn
  windowLeft := windowTurn
  logonBound := 10
  windowBound := 4
  logon_step s a pc h := by
    cases pc with
    | idle | head | ping | wait | conn | info | bootPrint | query | print | insert | refuse |
      bootClear | fmt | sent => exact absurd rfl h
    | setOpen c => cases c <;> simp [logonStep, logonTurn]
    | infoOk p =>
      simp only [logonStep]
      cases p <;> split <;> simp [logonTurn]
    | copyAudit p k =>
      simp only [logonStep]
      cases p <;> split <;> simp only [afterAudit, logonTurn] <;> omega
    | _ =>
      simp only [logonStep]
      first
      | (simp [logonTurn]; done)
      | (split <;> simp [logonTurn])
  window_step s s' a pc _ h hstep := by
    cases pc with
    | idle | getDt | sent | updating => exact absurd rfl h
    | _ =>
      cases hstep
      first
      | (simp [windowTurn]; done)
      | (dsimp only; split <;> simp [windowTurn])
  logon_le pc := by
    cases pc with
    | copyAudit p k =>
      simp only [logonTurn]
      omega
    | _ => simp [logonTurn]
  window_le pc := by
    cases pc <;> simp [windowTurn]

/-- To the next wait for something else than a query or a request. -/
def Clock.round : Clock where
  logonLeft := logonRound
  windowLeft := windowRound
  logonBound := 38
  windowBound := 13
  logon_step s a pc h := by
    cases pc with
    | idle | head | ping | wait => exact absurd rfl h
    | setOpen c => cases c <;> simp [logonStep, logonRound]
    | conn p => cases p <;> simp [logonStep, logonRound]
    | info p => cases p <;> simp [logonStep, logonRound]
    | infoOk p =>
      simp only [logonStep]
      cases p <;> split <;> simp [logonRound]
    | copyAudit p k =>
      simp only [logonStep]
      cases p <;> split <;> simp only [afterAudit, logonRound] <;> omega
    | query =>
      simp only [logonStep]
      split <;> simp [logonRound]
    | _ =>
      simp only [logonStep]
      first
      | (simp [logonRound]; done)
      | (split <;> simp [logonRound])
  window_step s s' a pc _ h hstep := by
    cases pc with
    | idle => exact absurd rfl h
    | _ =>
      cases hstep
      first
      | (simp [windowRound]; done)
      | (dsimp only; split <;> simp [windowRound])
  logon_le pc := by
    cases pc with
    | copyAudit p k => cases p <;> simp only [logonRound] <;> omega
    | conn p | info p | infoOk p => cases p <;> simp [logonRound]
    | _ => simp [logonRound]
  window_le pc := by
    cases pc <;> simp [windowRound]

/-- What is still to be done by the thread; nothing by a reader that is not there. -/
def Thread.left (c : Clock) (s : State) : Thread → Nat
  | .logon => c.logonLeft s.logon
  | .window => c.windowLeft s.window
  | .reader i => (s.readers[i]?).elim 0 fun r => readerLeft r.pc

/-- The thread stands where it waits. -/
def Thread.waits (c : Clock) (s : State) (t : Thread) : Bool := t.left c s == 0

def Thread.bound (c : Clock) : Thread → Nat
  | .logon => c.logonBound
  | .window => c.windowBound
  | .reader _ => 5

/-! One step. -/

/-- The reader that takes a step. -/
theorem readerStep_self (s : State) (a : Answer) {i : Nat} {r : Reader} (hi : s.readers[i]? = some r)
    (h : readerLeft r.pc ≠ 0) :
    ∃ r', (readerStep s a i r r.pc).readers[i]? = some r' ∧ readerLeft r'.pc < readerLeft r.pc := by
  have hlen : i < s.readers.length := (List.getElem?_eq_some_iff.mp hi).1
  have hset : ∀ (t : State) (r' : Reader), t.readers = s.readers →
      (t.setReader i r').readers[i]? = some r' := by
    intro t r' ht
    simp only [State.setReader, ht]
    exact List.getElem?_set_self hlen
  cases hpc : r.pc with
  | await =>
    rw [hpc] at h
    exact absurd rfl h
  | exited =>
    rw [hpc] at h
    exact absurd rfl h
  | start => exact ⟨_, hset _ _ rfl, by simp [readerLeft]⟩
  | test =>
    refine ⟨_, hset _ _ rfl, ?_⟩
    dsimp only
    split <;> simp [readerLeft]
  | read => exact ⟨_, hset _ _ rfl, by simp [readerLeft]⟩
  | append data =>
    simp only [readerStep]
    split
    · exact ⟨_, hset _ _ rfl, by simp [readerLeft]⟩
    · exact ⟨_, hset _ _ rfl, by simp [readerLeft]⟩
  | purge => exact ⟨_, hset _ _ rfl, by simp [readerLeft]⟩
  | result => exact ⟨_, hset _ _ rfl, by simp [readerLeft]⟩

/-- The others stay as they are. -/
theorem readerStep_other (s : State) (a : Answer) {i j : Nat} (hij : i ≠ j) (r : Reader) :
    (readerStep s a i r r.pc).readers[j]? = s.readers[j]? := by
  have hset : ∀ (t : State) (r' : Reader), t.readers = s.readers →
      (t.setReader i r').readers[j]? = s.readers[j]? := by
    intro t r' ht
    simp only [State.setReader, ht]
    exact List.getElem?_set_ne hij
  cases r.pc with
  | append data =>
    simp only [readerStep]
    split <;> exact hset _ _ rfl
  | exited => rfl
  | _ => exact hset _ _ rfl

/-- The logon thread starts readers, and leaves those there are alone. -/
theorem logonStep_reader (s : State) (a : Answer) {pc : LogonPc} {i : Nat} {r : Reader}
    (hi : s.readers[i]? = some r) : (logonStep s a pc).readers[i]? = some r := by
  cases pc with
  | openPort c =>
    simp only [logonStep]
    split <;> exact hi
  | spawn c =>
    simp only [logonStep]
    split
    · rw [List.getElem?_append_left (List.getElem?_eq_some_iff.mp hi).1]
      exact hi
    · exact hi
  | setOpen c => cases c <;> exact hi
  | ping =>
    simp only [logonStep]
    split <;> exact hi
  | infoOk p =>
    simp only [logonStep]
    split
    · exact hi
    · cases p <;> exact hi
  | check =>
    simp only [logonStep]
    split <;> exact hi
  | _ => exact hi

/-! A stretch of a run. -/

/-- The thread's own steps make less of what is to be done, and the others change nothing. -/
theorem Thread.left_step {c : Clock} {t : Thread} {s s' : State} {act : Act}
    (h : t.waits c s = false) (hstep : step s act = some s') :
    t.left c s' + (if t.owns act then 1 else 0) ≤ t.left c s := by
  have hleft : t.left c s ≠ 0 := by simpa [Thread.waits] using h
  cases t with
  | logon =>
    obtain ⟨a, rfl, rfl⟩ | ⟨a, rfl, hw⟩ | ⟨i, a, r, rfl, -, rfl⟩ | ⟨m, rfl, rfl⟩ | ⟨bytes, rfl, rfl⟩ :=
      step_cases hstep
    · exact c.logon_step s a s.logon hleft
    · exact Nat.le_of_eq (congrArg c.logonLeft (windowStep_frame hw).logon)
    · obtain ⟨rx, rs, ht | ht | ht | ⟨card, ht⟩⟩ := readerStep_cases s a i r r.pc
      all_goals
        rw [ht]
        exact Nat.le_refl _
    · exact Nat.le_refl _
    · exact Nat.le_refl _
  | window =>
    obtain ⟨a, rfl, rfl⟩ | ⟨a, rfl, hw⟩ | ⟨i, a, r, rfl, -, rfl⟩ | ⟨m, rfl, rfl⟩ | ⟨bytes, rfl, rfl⟩ :=
      step_cases hstep
    · exact Nat.le_of_eq (congrArg c.windowLeft (logonStep_frame s a s.logon).window)
    · exact c.window_step s s' a s.window rfl hleft hw
    · obtain ⟨rx, rs, ht | ht | ht | ⟨card, ht⟩⟩ := readerStep_cases s a i r r.pc
      all_goals
        rw [ht]
        exact Nat.le_refl _
    · exact Nat.le_refl _
    · exact Nat.le_refl _
  | reader i =>
    obtain ⟨r, hr⟩ : ∃ r, s.readers[i]? = some r := by
      cases hr : s.readers[i]? with
      | none => simp [Thread.left, hr] at hleft
      | some r => exact ⟨r, rfl⟩
    have hat : ∀ {u : State} {r' : Reader}, u.readers[i]? = some r' →
        (Thread.reader i).left c u = readerLeft r'.pc := by
      intro u r' hu
      simp [Thread.left, hu]
    rw [hat hr] at hleft ⊢
    obtain ⟨a, rfl, rfl⟩ | ⟨a, rfl, hw⟩ | ⟨j, a, r', rfl, hr', rfl⟩ | ⟨m, rfl, rfl⟩ |
      ⟨bytes, rfl, rfl⟩ := step_cases hstep
    · exact Nat.le_of_eq (hat (logonStep_reader s a hr))
    · rw [← (windowStep_frame hw).readers] at hr
      exact Nat.le_of_eq (hat hr)
    · by_cases hij : i = j
      · subst hij
        obtain rfl : r = r' := Option.some.inj (hr.symm.trans hr')
        obtain ⟨r₁, hr₁, hlt⟩ := readerStep_self s a hr hleft
        rw [hat hr₁, Thread.owns, beq_self_eq_true, if_pos rfl]
        exact hlt
      · have hr₁ := (readerStep_other s a (Ne.symm hij) r').trans hr
        rw [hat hr₁, Thread.owns, beq_eq_false_iff_ne.mpr hij, if_neg Bool.false_ne_true]
        exact Nat.le_refl _
    · exact Nat.le_of_eq (hat hr)
    · exact Nat.le_of_eq (hat hr)

theorem Thread.left_le_bound (c : Clock) (t : Thread) (s : State) : t.left c s ≤ t.bound c := by
  cases t with
  | logon => exact c.logon_le s.logon
  | window => exact c.window_le s.window
  | reader i =>
    show (s.readers[i]?).elim 0 (fun r => readerLeft r.pc) ≤ 5
    cases s.readers[i]? with
    | none => simp
    | some r =>
      show readerLeft r.pc ≤ 5
      cases r.pc <;> simp [readerLeft]

/-- In a stretch of a run in which the thread does not wait, by the clock, whatever the other
    threads do there, it takes no more steps than its bound. -/
theorem countP_le_bound (c : Clock) (t : Thread) (s : State) (as : List Act)
    (h : (runFrom step (fun s _ => !t.waits c s) s as).isSome = true) :
    as.countP t.owns ≤ t.bound c := by
  obtain ⟨s', hs'⟩ := Option.isSome_iff_exists.mp h
  have hbound := t.left_le_bound c s
  have hrun := @runFrom_countP_le _ _ step (fun s _ => !t.waits c s) t.owns (t.left c)
    (fun hg hstep => t.left_step (by simpa using hg) hstep) as _ _ hs'
  omega

/-- A thread that does not come to a place where it waits takes no more than 10, 4 or 5
    steps, and one that waits for nothing but a query or a request no more than 38, 13
    or 5. -/
theorem bounded_turns (t : Thread) (s : State) (as : List Act) :
    ((runFrom step (fun s _ => !t.waits .turn s) s as).isSome = true →
      as.countP t.owns ≤ t.bound .turn) ∧
    ((runFrom step (fun s _ => !t.waits .round s) s as).isSome = true →
      as.countP t.owns ≤ t.bound .round) :=
  ⟨countP_le_bound .turn t s as, countP_le_bound .round t s as⟩

/-- A click on Login that is accepted, while the logon thread goes on. -/
def clicked : State := final step always initial (.message .login :: windows 1 yes)

def acceptedClick : List Act := windows 7 yes ++ logons 4 yes ++ windows 6 yes

/-- From the update's answer on. -/
def updated : State := final step always clicked (windows 9 yes)

theorem accepted_click_bounded :
    (windows 4 yes).countP Thread.window.owns ≤ 4 ∧ acceptedClick.countP Thread.window.owns ≤ 13 :=
  ⟨(bounded_turns .window updated (windows 4 yes)).1 (by decide +kernel),
    (bounded_turns .window clicked acceptedClick).2 (by decide +kernel)⟩

/-- Both bounds are reached. -/
example : (windows 4 yes).countP Thread.window.owns = 4 ∧
    acceptedClick.countP Thread.window.owns = 13 := by decide

end CardLogon
