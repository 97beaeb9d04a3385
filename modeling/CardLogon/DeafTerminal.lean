import CardLogon.PrintUser
import CardLogon.Reconnect

/- The terminal that no card reaches any more.

   The loop of `GetConnectedStatus` opens the port again only when `isopenCOM` is 1, and only
   a reader sets it. When every reader has left its loop, or will leave it at its next test
   of `m_IsOpen`, and nobody has set `isopenCOM`, no thread is left that could bring a card
   or set it, and the loop goes round for ever.

   What is proved: `login_possible_iff`. While the logon thread looks for a card, some
   continuation completes a login exactly when the terminal is not deaf in this sense. So
   one reader in its loop is enough, whatever it has gathered: when its wait fails, the port
   is opened again and the new reader begins with nothing. -/
namespace CardLogon
open CText GuardedRun

/-- The logon thread looks for a card: the head of the loop, the initialization, and the
    test of `Readinfo`. -/
def looking : LogonPc → Bool
  | .head | .inner | .ping | .conn .boot | .info .boot | .infoOk .boot | .copyAudit .boot _
  | .bootClear | .bootPrint | .check | .noCard => true
  | _ => false

/-- The reader has left its loop, or finds the port closed at its next test. -/
def Reader.lost (mIsOpen : Bool) (r : Reader) : Bool :=
  match r.pc with
  | .exited => true
  | .start | .test => !mIsOpen
  | _ => false

structure Deaf (s : State) : Prop where
  looking : looking s.logon = true
  fConnected : s.fConnected = false
  noCard : (cstr s.readinfo).length ≠ cardLen
  isopenCOM : s.isopenCOM = false
  lost : ∀ r ∈ s.readers, r.lost s.mIsOpen = true

/-- Some continuation connects. -/
def LoginPossible (s : State) : Prop :=
  ∃ s', Reachable step always s s' ∧ s'.fConnected = true

/-! A deaf terminal stays deaf. -/

section
variable {s s' : State}

/-- What deafness is about, apart from where the logon thread stands. -/
structure SamePort (s s' : State) : Prop where
  fConnected : s'.fConnected = s.fConnected
  readinfo : s'.readinfo = s.readinfo
  isopenCOM : s'.isopenCOM = s.isopenCOM
  mIsOpen : s'.mIsOpen = s.mIsOpen
  readers : s'.readers = s.readers

theorem SamePort.trans {s'' : State} (h : SamePort s s') (h' : SamePort s' s'') :
    SamePort s s'' where
  fConnected := h'.fConnected.trans h.fConnected
  readinfo := h'.readinfo.trans h.readinfo
  isopenCOM := h'.isopenCOM.trans h.isopenCOM
  mIsOpen := h'.mIsOpen.trans h.mIsOpen
  readers := h'.readers.trans h.readers

theorem Deaf.congr (h : Deaf s) (hlooking : CardLogon.looking s'.logon = true)
    (hsame : SamePort s s') : Deaf s' where
  looking := hlooking
  fConnected := hsame.fConnected.trans h.fConnected
  noCard := by
    rw [hsame.readinfo]
    exact h.noCard
  isopenCOM := hsame.isopenCOM.trans h.isopenCOM
  lost := by
    rw [hsame.mIsOpen, hsame.readers]
    exact h.lost

/-- While it looks for a card the logon thread touches none of it. -/
theorem samePort_logon (h : CardLogon.looking s.logon = true) (a : Answer) :
    SamePort s (logonStep s a s.logon) := by
  cases hpc : s.logon with
  | ping =>
    simp only [logonStep]
    split
    · exact ⟨rfl, rfl, rfl, rfl, rfl⟩
    · exact ⟨rfl, rfl, rfl, rfl, rfl⟩
  | infoOk p =>
    simp only [logonStep]
    split
    · exact ⟨rfl, rfl, rfl, rfl, rfl⟩
    · cases p with
      | boot => exact ⟨rfl, rfl, rfl, rfl, rfl⟩
      | card => exact ⟨rfl, rfl, rfl, rfl, rfl⟩
  | check =>
    simp only [logonStep]
    split
    · exact ⟨rfl, rfl, rfl, rfl, rfl⟩
    · exact ⟨rfl, rfl, rfl, rfl, rfl⟩
  | _ =>
    first
    | exact ⟨rfl, rfl, rfl, rfl, rfl⟩
    | (rw [hpc] at h; cases h)

/-- It looks on, unless it is connected, has a card or is to open the port again. -/
theorem looking_logon (h : CardLogon.looking s.logon = true) (hconn : s.fConnected = false)
    (hcard : (cstr s.readinfo).length ≠ cardLen) (hcom : s.isopenCOM = false) (a : Answer) :
    CardLogon.looking (logonStep s a s.logon).logon = true := by
  cases hpc : s.logon with
  | head => simp [logonStep, hconn, CardLogon.looking]
  | inner =>
    simp only [logonStep]
    split <;> rfl
  | ping =>
    simp only [logonStep]
    split <;> rfl
  | conn p => cases p <;> first | rfl | (rw [hpc] at h; cases h)
  | info p => cases p <;> first | rfl | (rw [hpc] at h; cases h)
  | infoOk p =>
    cases p with
    | boot =>
      simp only [logonStep]
      split <;> rfl
    | card =>
      rw [hpc] at h
      cases h
  | copyAudit p k =>
    cases p with
    | boot =>
      simp only [logonStep, afterAudit]
      split <;> rfl
    | card =>
      rw [hpc] at h
      cases h
  | check =>
    simp only [logonStep, if_neg hcard]
    rfl
  | noCard => simp [logonStep, hcom, CardLogon.looking]
  | _ => first | rfl | (rw [hpc] at h; cases h)

theorem Deaf.logon (h : Deaf s) (a : Answer) : Deaf (logonStep s a s.logon) :=
  h.congr (looking_logon h.looking h.fConnected h.noCard h.isopenCOM a) (samePort_logon h.looking a)

/-- A lost reader's step: it clears `Readinfo` at its start, and stays lost. -/
theorem Deaf.reader (h : Deaf s) {i : Nat} {r : Reader} (hr : s.readers[i]? = some r)
    (a : Answer) : Deaf (readerStep s a i r r.pc) := by
  have hlost := h.lost r (List.mem_of_getElem? hr)
  have hset : ∀ r' : Reader, r'.lost s.mIsOpen = true →
      ∀ x ∈ s.readers.set i r', x.lost s.mIsOpen = true := by
    intro r' hr' x hx
    obtain hx | rfl := List.mem_or_eq_of_mem_set hx
    · exact h.lost x hx
    · exact hr'
  cases hpc : r.pc with
  | start =>
    simp only [Reader.lost, hpc] at hlost
    have hempty : (cstr []).length ≠ cardLen := by decide
    exact ⟨h.looking, h.fConnected, hempty, h.isopenCOM, hset _ hlost⟩
  | test =>
    have hclosed : s.mIsOpen = false := by simpa [Reader.lost, hpc] using hlost
    refine ⟨h.looking, h.fConnected, h.noCard, h.isopenCOM, hset _ ?_⟩
    simp [Reader.lost, hclosed]
  | exited => exact h
  | _ =>
    simp only [Reader.lost, hpc] at hlost
    cases hlost

/-- Nothing that any thread does, and no message and no byte from outside, helps. -/
theorem Deaf.reachable (h : Deaf s) (hs : Reachable step always s s') : Deaf s' := by
  induction hs with
  | init => exact h
  | step _ _ hstep ih =>
    obtain ⟨a, rfl, rfl⟩ | ⟨a, rfl, hw⟩ | ⟨i, a, r, rfl, hr, rfl⟩ | ⟨m, rfl, rfl⟩ |
      ⟨bytes, rfl, rfl⟩ := step_cases hstep
    · exact ih.logon a
    · have hf := windowStep_frame hw
      have hlooking := ih.looking
      rw [← hf.logon] at hlooking
      exact ih.congr hlooking
        ⟨windowStep_fConnected hw, hf.readinfo, hf.isopenCOM, hf.mIsOpen, hf.readers⟩
    · exact ih.reader hr a
    · exact ih.congr ih.looking ⟨rfl, rfl, rfl, rfl, rfl⟩
    · exact ih.congr ih.looking ⟨rfl, rfl, rfl, rfl, rfl⟩

/-! A card that is there is logged in. -/

theorem LoginPossible.of_reachable (hs : Reachable step always s s') (h : LoginPossible s') :
    LoginPossible s := by
  obtain ⟨t, ht, hconn⟩ := h
  exact ⟨t, hs.trans ht, hconn⟩

/-- The logon thread runs alone. -/
theorem reachable_logonRun (s : State) (as : List Answer) :
    Reachable step always s (logonRun s as) := by
  induction as generalizing s with
  | nil => exact .init
  | cons a as ih => exact (Reachable.init.step (a := .logon a) rfl rfl).trans (ih _)

theorem reachable_reader {i : Nat} {r : Reader} (hr : s.readers[i]? = some r) (a : Answer) :
    Reachable step always s (readerStep s a i r r.pc) := by
  refine Reachable.init.step (a := .reader i a) rfl ?_
  simp only [step, hr, Option.map_some]

/-- The card's row has a password, and every call succeeds. -/
theorem login_of_card (h : s.logon = .conn .card) : LoginPossible s := by
  refine ⟨_, reachable_logonRun s (List.replicate 33 yes), ?_⟩
  cases s
  cases h
  rfl

/-- The logon thread can come to the test of `Readinfo`, with everything as it was. -/
def ComesToCheck (s : State) : Prop :=
  ∃ t, Reachable step always s t ∧ t.logon = .check ∧ SamePort s t

theorem ComesToCheck.of_step (a : Answer) (h : looking s.logon = true)
    (hs : ComesToCheck (logonStep s a s.logon)) : ComesToCheck s := by
  obtain ⟨t, ht, hpc, hsame⟩ := hs
  have hstep : Reachable step always s (logonStep s a s.logon) := reachable_logonRun s [a]
  exact ⟨t, hstep.trans ht, hpc, (samePort_logon h a).trans hsame⟩

theorem comesToCheck_inner (h : s.logon = .inner) : ComesToCheck s := by
  cases hinit : s.initialization with
  | false =>
    refine ⟨_, reachable_logonRun s [yes], ?_⟩
    cases s
    cases h
    cases hinit
    exact ⟨rfl, rfl, rfl, rfl, rfl, rfl⟩
  | true =>
    refine ⟨_, reachable_logonRun s (List.replicate 13 yes), ?_⟩
    cases s
    cases h
    cases hinit
    exact ⟨rfl, rfl, rfl, rfl, rfl, rfl⟩

theorem comesToCheck_bootClear (h : s.logon = .bootClear) : ComesToCheck s := by
  refine .of_step yes (by rw [h]; rfl) ?_
  refine .of_step yes (by rw [h]; rfl) (comesToCheck_inner ?_)
  rw [h]
  rfl

theorem comesToCheck_copyAudit {k : Nat} (h : s.logon = .copyAudit .boot k) : ComesToCheck s := by
  -- the settings that are left
  induction hn : 4 - k generalizing s k with
  | zero =>
    refine .of_step yes (by rw [h]; rfl) (comesToCheck_bootClear ?_)
    rw [h]
    simp only [logonStep, if_neg (show ¬ k < 4 by omega), afterAudit]
  | succ n ih =>
    refine .of_step yes (by rw [h]; rfl) (ih (k := k + 1) ?_ (by omega))
    rw [h]
    simp only [logonStep, if_pos (show k < 4 by omega)]

theorem comesToCheck_infoOk (h : s.logon = .infoOk .boot) : ComesToCheck s := by
  cases hok : s.isOK with
  | true =>
    refine .of_step yes (by rw [h]; rfl) (comesToCheck_copyAudit (k := 0) ?_)
    simp only [h, logonStep, hok, if_true]
  | false =>
    refine .of_step yes (by rw [h]; rfl) (comesToCheck_bootClear ?_)
    simp only [h, logonStep, hok, Bool.false_eq_true, if_false]

theorem comesToCheck_info (h : s.logon = .info .boot) : ComesToCheck s := by
  refine .of_step yes (by rw [h]; rfl) (comesToCheck_infoOk ?_)
  rw [h]
  rfl

/-- Wherever it looks for a card, unless it has just found none. -/
theorem comesToCheck_looking (h : looking s.logon = true) (hconn : s.fConnected = false)
    (hno : s.logon ≠ .noCard) : ComesToCheck s := by
  cases hpc : s.logon with
  | check => exact ⟨s, .init, hpc, rfl, rfl, rfl, rfl, rfl⟩
  | head =>
    refine .of_step yes h (comesToCheck_inner ?_)
    simp only [hpc, logonStep, hconn, Bool.false_eq_true, if_false]
  | inner => exact comesToCheck_inner hpc
  | ping =>
    refine .of_step no h (comesToCheck_inner ?_)
    rw [hpc]
    rfl
  | conn p =>
    cases p with
    | boot =>
      refine .of_step yes h (comesToCheck_info ?_)
      rw [hpc]
      rfl
    | card =>
      rw [hpc] at h
      cases h
  | info p =>
    cases p with
    | boot => exact comesToCheck_info hpc
    | card =>
      rw [hpc] at h
      cases h
  | infoOk p =>
    cases p with
    | boot => exact comesToCheck_infoOk hpc
    | card =>
      rw [hpc] at h
      cases h
  | copyAudit p k =>
    cases p with
    | boot => exact comesToCheck_copyAudit hpc
    | card =>
      rw [hpc] at h
      cases h
  | bootClear => exact comesToCheck_bootClear hpc
  | bootPrint =>
    refine .of_step yes h (comesToCheck_inner ?_)
    rw [hpc]
    rfl
  | noCard => exact absurd hpc hno
  | _ =>
    rw [hpc] at h
    cases h

theorem login_of_delivered (h : ComesToCheck s) (hcard : (cstr s.readinfo).length = cardLen) :
    LoginPossible s := by
  obtain ⟨t, ht, hpc, hsame⟩ := h
  rw [← hsame.readinfo] at hcard
  refine .of_reachable (ht.trans (reachable_logonRun t [yes])) (login_of_card ?_)
  simp only [logonRun, hpc, logonStep, if_pos hcard]

/-! The port is opened again, and a card comes. -/

/-- Reader `i` can be brought to `r`, and the rest of the loop is where it was. -/
structure Brings (s : State) (i : Nat) (r : Reader) (t : State) : Prop where
  reachable : Reachable step always s t
  logon : t.logon = s.logon
  fConnected : t.fConnected = s.fConnected
  mIsOpen : t.mIsOpen = s.mIsOpen
  reader : t.readers[i]? = some r

theorem Brings.init {i : Nat} {r : Reader} (hr : s.readers[i]? = some r) : Brings s i r s :=
  ⟨.init, rfl, rfl, rfl, hr⟩

theorem Brings.step {t : State} {i : Nat} {r r' : Reader} (h : Brings s i r t) (a : Answer)
    (hr' : (readerStep t a i r r.pc).readers[i]? = some r') :
    Brings s i r' (readerStep t a i r r.pc) := by
  have hkeep : (readerStep t a i r r.pc).logon = t.logon ∧
      (readerStep t a i r r.pc).fConnected = t.fConnected ∧
      (readerStep t a i r r.pc).mIsOpen = t.mIsOpen := by
    obtain ⟨rx, rs, ht | ht | ht | ⟨card, ht⟩⟩ := readerStep_cases t a i r r.pc
    all_goals
      rw [ht]
      exact ⟨rfl, rfl, rfl⟩
  exact ⟨h.reachable.trans (reachable_reader h.reader a), hkeep.1.trans h.logon,
    hkeep.2.1.trans h.fConnected, hkeep.2.2.trans h.mIsOpen, hr'⟩

theorem Brings.arrive {t : State} {i : Nat} {r : Reader} (h : Brings s i r t) (bytes : Bytes) :
    Brings s i r { t with rx := t.rx ++ bytes } :=
  ⟨h.reachable.step (a := .arrive bytes) rfl rfl, h.logon, h.fConnected, h.mIsOpen, h.reader⟩

theorem getElem?_setReader {t : State} {i : Nat} {r r' : Reader} (h : t.readers[i]? = some r) :
    (t.setReader i r').readers[i]? = some r' := by
  obtain ⟨hlt, -⟩ := List.getElem?_eq_some_iff.mp h
  exact List.getElem?_set_self hlt

theorem readerStep_test {t : State} (h : t.mIsOpen = true) (a : Answer) (i : Nat) (r : Reader) :
    readerStep t a i r .test = t.setReader i { r with pc := .await } := by
  simp only [readerStep, h, if_true]

/-- A reader that waits with nothing gathered and nothing in the port's queue. -/
theorem reader_delivers {t : State} {i : Nat} (h : Brings s i ⟨.await, []⟩ t) (hrx : t.rx = []) :
    ∃ u, Reachable step always s u ∧ u.logon = s.logon ∧ u.fConnected = s.fConnected ∧
      (cstr u.readinfo).length = cardLen := by
  have h₁ := h.arrive someRow.carNumber
  generalize ht₁ : { t with rx := t.rx ++ someRow.carNumber } = t₁ at h₁
  have hrx₁ : t₁.rx = someRow.carNumber := by
    rw [← ht₁, hrx]
    rfl
  have h₂ : Brings s i ⟨.read, []⟩ (readerStep t₁ yes i ⟨.await, []⟩ .await) := by
    refine h₁.step yes ?_
    have hbytes : yes.ok = true ∧ t₁.rx ≠ [] := ⟨rfl, by rw [hrx₁]; decide⟩
    simp only [readerStep, if_pos hbytes]
    exact getElem?_setReader h₁.reader
  generalize ht₂ : readerStep t₁ yes i ⟨.await, []⟩ .await = t₂ at h₂
  have hrx₂ : t₂.rx = someRow.carNumber := by
    rw [← ht₂]
    exact hrx₁
  have h₃ : Brings s i ⟨.append someRow.carNumber, []⟩ (readerStep t₂ yes i ⟨.read, []⟩ .read) := by
    refine h₂.step yes ?_
    simp only [readerStep, hrx₂]
    exact getElem?_setReader h₂.reader
  generalize readerStep t₂ yes i ⟨.read, []⟩ .read = t₃ at h₃
  have hchunk : recvChunk [] someRow.carNumber yes.text = ([], some someRow.carNumber) := by
    decide +kernel
  have h₄ : Brings s i ⟨.purge, []⟩
      (readerStep t₃ yes i ⟨.append someRow.carNumber, []⟩ (.append someRow.carNumber)) := by
    refine h₃.step yes ?_
    simp only [readerStep, hchunk]
    exact getElem?_setReader h₃.reader
  refine ⟨_, h₄.reachable, h₄.logon, h₄.fConnected, ?_⟩
  have hcard : (readerStep t₃ yes i ⟨.append someRow.carNumber, []⟩
      (.append someRow.carNumber)).readinfo = someRow.carNumber := by
    simp only [readerStep, hchunk]
    rfl
  rw [hcard]
  decide

/-- From the end of a port that has failed. -/
theorem login_of_uninit (h : s.logon = .uninitReconnect) (hconn : s.fConnected = false) :
    LoginPossible s := by
  have hrun := reachable_logonRun s (List.replicate 5 yes)
  have hat : (logonRun s (List.replicate 5 yes)).logon = .head ∧
      (logonRun s (List.replicate 5 yes)).fConnected = false ∧
      (logonRun s (List.replicate 5 yes)).mIsOpen = true ∧
      (logonRun s (List.replicate 5 yes)).rx = [] ∧
      (logonRun s (List.replicate 5 yes)).readers = s.readers ++ [⟨.start, []⟩] := by
    cases s
    cases h
    cases hconn
    exact ⟨rfl, rfl, rfl, rfl, rfl⟩
  obtain ⟨hhead, hconn', hopen, hrx, hreaders⟩ := hat
  generalize logonRun s (List.replicate 5 yes) = s' at *
  have hnew : s'.readers[s.readers.length]? = some ⟨.start, []⟩ := by
    rw [hreaders, List.getElem?_append_right (Nat.le_refl _), Nat.sub_self]
    rfl
  have h₁ : Brings s' s.readers.length ⟨.test, []⟩
      (readerStep s' yes s.readers.length ⟨.start, []⟩ .start) :=
    (Brings.init hnew).step yes (getElem?_setReader hnew)
  have h₂ : Brings s' s.readers.length ⟨.await, []⟩
      (readerStep (readerStep s' yes s.readers.length ⟨.start, []⟩ .start) yes s.readers.length
        ⟨.test, []⟩ .test) := by
    refine h₁.step yes ?_
    rw [readerStep_test (h₁.mIsOpen.trans hopen)]
    exact getElem?_setReader h₁.reader
  obtain ⟨t, ht, hpc, hfc, hcard⟩ := reader_delivers h₂ hrx
  refine .of_reachable (hrun.trans ht) (login_of_delivered ?_ hcard)
  rw [hhead] at hpc
  exact comesToCheck_looking (by rw [hpc]; rfl) (hfc.trans hconn') (by simp [hpc])

/-- A card is there, or the port is to be opened again. -/
theorem login_of_pending (h : looking s.logon = true) (hconn : s.fConnected = false)
    (hpending : (cstr s.readinfo).length = cardLen ∨ s.isopenCOM = true) : LoginPossible s := by
  by_cases hno : s.logon = .noCard
  · cases hcom : s.isopenCOM with
    | true =>
      refine .of_reachable (reachable_logonRun s [yes]) (login_of_uninit ?_ ?_)
      · simp only [logonRun, hno, logonStep, hcom, if_true]
      · exact (samePort_logon h yes).fConnected.trans hconn
    | false =>
      have hcard := hpending.resolve_right (by simp [hcom])
      refine login_of_delivered (.of_step yes h ?_) hcard
      have hhead : (logonStep s yes s.logon).logon = .head := by
        simp only [hno, logonStep, hcom, Bool.false_eq_true, if_false]
      refine comesToCheck_looking (by rw [hhead]; rfl) ?_ (by simp [hhead])
      exact (samePort_logon h yes).fConnected.trans hconn
  · have hcheck := comesToCheck_looking h hconn hno
    by_cases hcard : (cstr s.readinfo).length = cardLen
    · exact login_of_delivered hcheck hcard
    · obtain ⟨t, ht, hpc, hsame⟩ := hcheck
      rw [← hsame.readinfo] at hcard
      have hcom : t.isopenCOM = true :=
        hsame.isopenCOM.trans (hpending.resolve_left (hsame.readinfo ▸ hcard))
      refine .of_reachable (ht.trans (reachable_logonRun t [yes, yes])) (login_of_uninit ?_ ?_)
      · simp only [logonRun, hpc, logonStep, if_neg hcard, hcom, if_true]
      · simp only [logonRun, hpc, logonStep, if_neg hcard]
        exact hsame.fConnected.trans hconn

/-! A reader in its loop sets `isopenCOM` when its wait fails. -/

/-- The steps to the end of a reader's round, and to its wait. -/
def ReaderPc.left : ReaderPc → Nat
  | .exited | .result => 0
  | .purge | .await => 1
  | .append _ | .test => 2
  | .read | .start => 3

/-- A reader that is not lost, and has not failed yet, goes on. -/
theorem readerStep_left {i : Nat} {r : Reader} (hr : s.readers[i]? = some r)
    (hloop : r.lost s.mIsOpen = false) (hpc : r.pc ≠ .result) :
    ∃ r', (readerStep s no i r r.pc).readers[i]? = some r' ∧ r'.lost s.mIsOpen = false ∧
      r'.pc.left < r.pc.left := by
  cases h : r.pc with
  | start =>
    simp only [Reader.lost, h] at hloop
    exact ⟨_, getElem?_setReader hr, hloop, by decide⟩
  | test =>
    have hopen : s.mIsOpen = true := by simpa [Reader.lost, h] using hloop
    refine ⟨_, getElem?_setReader hr, ?_⟩
    simp only [hopen, if_true]
    exact ⟨rfl, by decide⟩
  | await =>
    refine ⟨_, getElem?_setReader hr, ?_⟩
    have hno : ¬ (no.ok = true ∧ s.rx ≠ []) := fun h => nomatch h.1
    rw [if_neg hno]
    exact ⟨rfl, Nat.one_pos⟩
  | read => exact ⟨_, getElem?_setReader hr, rfl, by simp [ReaderPc.left]⟩
  | append data =>
    simp only [readerStep]
    split
    · exact ⟨_, getElem?_setReader hr, rfl, by simp [ReaderPc.left]⟩
    · exact ⟨_, getElem?_setReader hr, rfl, by simp [ReaderPc.left]⟩
  | purge => exact ⟨_, getElem?_setReader hr, rfl, Nat.one_pos⟩
  | result => exact absurd h hpc
  | exited => simp [Reader.lost, h] at hloop

/-- A failing wait, at the end of the round that the reader is in. -/
theorem reader_fails {i : Nat} {r : Reader} {t : State} (h : Brings s i r t)
    (hloop : r.lost s.mIsOpen = false) :
    ∃ u, Reachable step always s u ∧ u.logon = s.logon ∧ u.fConnected = s.fConnected ∧
      u.isopenCOM = true := by
  induction hn : r.pc.left using Nat.strong_induction_on generalizing r t with
  | _ n ih =>
    by_cases hpc : r.pc = .result
    · have hrun : Brings s i { r with pc := .test } (readerStep t no i r r.pc) := by
        refine h.step no ?_
        rw [hpc]
        exact getElem?_setReader h.reader
      refine ⟨_, hrun.reachable, hrun.logon, hrun.fConnected, ?_⟩
      rw [hpc]
      rfl
    · rw [← h.mIsOpen] at hloop
      obtain ⟨r', hr', hloop', hlt⟩ := readerStep_left h.reader hloop hpc
      rw [h.mIsOpen] at hloop'
      exact ih r'.pc.left (hn ▸ hlt) (h.step no hr') hloop' rfl

/-- While the logon thread looks for a card, some continuation completes a login exactly when
    the terminal is not deaf. -/
theorem login_possible_iff (s : State) (hlooking : looking s.logon = true)
    (hconn : s.fConnected = false) : LoginPossible s ↔ ¬ Deaf s := by
  constructor
  · rintro ⟨t, ht, hyes⟩ hdeaf
    have hno := (hdeaf.reachable ht).fConnected
    rw [hyes] at hno
    cases hno
  · intro hnot
    by_cases hcard : (cstr s.readinfo).length = cardLen
    · exact login_of_pending hlooking hconn (.inl hcard)
    · cases hcom : s.isopenCOM with
      | true => exact login_of_pending hlooking hconn (.inr hcom)
      | false =>
        have hreader : ∃ r ∈ s.readers, r.lost s.mIsOpen = false := by
          by_contra hall
          refine hnot ⟨hlooking, hconn, hcard, hcom, ?_⟩
          intro r hr
          by_contra hlost
          exact hall ⟨r, hr, by simpa using hlost⟩
        obtain ⟨r, hr, hloop⟩ := hreader
        obtain ⟨i, hi⟩ := List.mem_iff_getElem?.mp hr
        obtain ⟨t, ht, hpc, hfc, hfail⟩ := reader_fails (.init hi) hloop
        rw [← hpc] at hlooking
        exact .of_reachable ht (login_of_pending hlooking (hfc.trans hconn) (.inr hfail))

end

/-- InitCOM fails in `Initialize`: no login is possible any more. -/
theorem failed_open_is_final : ¬ LoginPossible (final step always initial deafRun) := by
  intro h
  have hdeaf := (login_possible_iff _ (by decide +kernel) (by decide +kernel)).mp h
  exact hdeaf ⟨by decide +kernel, by decide +kernel, by decide +kernel, by decide +kernel,
    by decide +kernel⟩

end CardLogon
