import CardLogon.Terminal

/- Handing an accepted login over to the logon thread.

   After a lookup the logon thread either posts the stored password itself or waits
   until the window thread ends the wait. Two flags tell it how the wait ended:
   `empPWCT` that it did, `boolGetBack` that Back ended it. The accepting handler
   writes `boolGetBack` first and `empPWCT` last; Back writes them in the other order,
   and a rejected click writes `boolGetBack` before it sets `empPWCT` again. Between
   the two writes the logon thread can take a Back for an acceptance.

   Each thread gets an assertion for each of its program counters (`logonOk`,
   `windowOk`), about the user `n` of the last lookup: what is posted is `n`'s login,
   and where the logon thread has left the wait, a post for `n` has returned true.
   A step keeps its own thread's assertion and does not break the other's.

   The body is printed from a template of the database, which need not show the user
   name; a body carries it when its text has it.

   What is proved: `connected_vouched`. In every run that keeps the threads out of
   each other's half-made writes and whose templates show the user name (`apart`), a
   card is connected only after a post that carried its user name returned true. -/
namespace CardLogon
open CText GuardedRun

/-! The last lookup and the posts since. -/

/-- The user name of the row the last lookup found. -/
def currentUser : List Event → Option Bytes
  | [] => none
  | .lookup _ (.row r) :: _ => some r.userName
  | .lookup _ _ :: _ => none
  | _ :: log => currentUser log

/-- The bodies that were accepted since the last lookup. -/
def acceptedBodies : List Event → List PostBody
  | [] => []
  | .lookup _ _ :: _ => []
  | .post _ body true :: log => body :: acceptedBodies log
  | _ :: log => acceptedBodies log

/-- The last lookup found a row, and a post that carried its user name has returned
    true since. -/
def vouched (log : List Event) : Bool :=
  match currentUser log with
  | none => false
  | some n => (acceptedBodies log).any fun body => body.carries n

/-- Every connected card was vouched for. -/
def ConnectedVouched (log : List Event) : Prop :=
  Throughout (fun e before => e = .connected → vouched before = true) log

instance (log : List Event) : Decidable (ConnectedVouched log) :=
  inferInstanceAs (Decidable (Throughout _ log))

/-! The condition on runs. -/

/-- The window thread has read `strlogUser` for a login and is not done with it. -/
def requesting : WindowPc → Bool
  | .format _ _ | .send | .sent _ | .verdict | .update | .updating _ | .updated
  | .acc1 | .acc2 | .acc3 => true
  | _ => false

/-- The logon thread has looked a card up and not yet assigned `strlogUser`. -/
def lookingUp : LogonPc → Bool
  | .putCar _ | .putName _ | .putNick _ | .putPw _ | .putMiss _ | .queryRet _ | .queryOk
  | .takeUser => true
  | _ => false

/-- No lookup while a login is under way, no login begun before the lookup's user
    name is there, and the logon thread does not act on the two flags while the window
    thread is between its two writes of them. A body is printed from a template that
    shows the user name. -/
def apart (s : State) : Act → Bool
  | .logon _ =>
    match s.logon with
    | .query => !requesting s.window
    | .wait => s.empPWCT || s.window != .rej2
    | .readBack => s.window != .back2
    | .fmt => s.storedRequest.printsUser
    | _ => true
  | .window _ =>
    match s.window with
    | .request _ => !lookingUp s.logon
    | .format login user => (s.typedRequest login user).printsUser
    | .rej1 => s.logon != .readBack
    | _ => true
  | _ => true

/-! The assertions. -/

/-- A post that carried the user name `n` has returned true since the last lookup. -/
def Accepted (s : State) (n : Bytes) : Prop := ∃ body ∈ acceptedBodies s.log, body.carries n = true

/-- What a login under way is about. -/
def windowOk (n : Bytes) (s : State) : WindowPc → Prop
  | .format _ user => user = n
  | .send => s.chhttpPOST.carries n = true
  | .sent body => body.carries n = true
  | .verdict => s.boolHttpback = true → Accepted s n
  | .update | .updating _ | .updated | .acc1 | .acc2 | .acc3 => Accepted s n
  | _ => True

/-- The wait goes on, or it ended by an acceptance or by Back; `w` is the window
    thread's place, where one of its two writes may be still to come. -/
def waitOk (n : Bytes) (s : State) (w : WindowPc) : Prop :=
  s.empPWCT = true ∨ Accepted s n ∨ s.boolGetBack = true ∨ w = .back2 ∨ w = .rej2

/-- The wait ended by an acceptance, or by Back. -/
def endOk (n : Bytes) (s : State) (w : WindowPc) : Prop :=
  Accepted s n ∨ s.boolGetBack = true ∨ w = .back2

/-- What the logon thread has made sure of. -/
def logonOk (n : Bytes) (s : State) : LogonPc → Prop
  | .send => s.chhttpPOST.carries n = true
  | .sent body => body.carries n = true
  | .rearm | .verdict => s.boolHttpback = true → Accepted s n
  | .pass1 | .pass2 | .pass3 => Accepted s n
  | .wait => waitOk n s s.window
  | .readBack => endOk n s s.window
  | .print | .insert | .insertOk | .uninitAccepted | .connect => Accepted s n
  | _ => True

/-- What is known of the last lookup. -/
def hasUser (s : State) : LogonPc → Prop
  | .putCar r => currentUser s.log = some r.userName
  | .putName r => currentUser s.log = some r.userName
  | .putNick _ | .putPw _ | .takeUser => currentUser s.log = some s.getUserNames
  | .putMiss _ => currentUser s.log = none
  | .queryRet b => currentUser s.log = if b then some s.getUserNames else none
  | .queryOk => currentUser s.log = if s.isOK then some s.getUserNames else none
  | .takePw | .branch | .arm | .fmt | .send | .sent _ | .rearm | .verdict | .pass1 | .pass2 | .pass3
  | .fail | .wait | .readBack | .print | .insert | .insertOk | .uninitAccepted | .connect =>
    currentUser s.log ≠ none
  | _ => True

structure HandoverInv (s : State) : Prop where
  history : ConnectedVouched s.log
  exclusive : lookingUp s.logon = true → requesting s.window = false
  found : hasUser s s.logon
  user : ∀ n, currentUser s.log = some n → lookingUp s.logon = false → s.strlogUser = n
  logon : ∀ n, currentUser s.log = some n → logonOk n s s.logon
  window : ∀ n, currentUser s.log = some n → windowOk n s s.window

/-! The assertions depend on little of the state. -/

theorem windowOk_mono {n : Bytes} {s s' : State}
    (hbody : s.chhttpPOST.carries n = true → s'.chhttpPOST.carries n = true)
    (hback : (s.boolHttpback = true → Accepted s n) → s'.boolHttpback = true → Accepted s' n)
    (hacc : Accepted s n → Accepted s' n) {pc : WindowPc} (h : windowOk n s pc) :
    windowOk n s' pc := by
  cases pc with
  | format login user => exact h
  | send => exact hbody h
  | sent body => exact h
  | verdict => exact hback h
  | update => exact hacc h
  | updating c => exact hacc h
  | updated => exact hacc h
  | acc1 => exact hacc h
  | acc2 => exact hacc h
  | acc3 => exact hacc h
  | _ => trivial

theorem logonOk_mono {n : Bytes} {s s' : State}
    (hbody : s.chhttpPOST.carries n = true → s'.chhttpPOST.carries n = true)
    (hback : (s.boolHttpback = true → Accepted s n) → s'.boolHttpback = true → Accepted s' n)
    (hacc : Accepted s n → Accepted s' n) (hwait : waitOk n s s.window → waitOk n s' s'.window)
    {pc : LogonPc} (hend : pc = .readBack → endOk n s s.window → endOk n s' s'.window)
    (h : logonOk n s pc) : logonOk n s' pc := by
  cases pc with
  | send => exact hbody h
  | sent body => exact h
  | rearm => exact hback h
  | verdict => exact hback h
  | pass1 => exact hacc h
  | pass2 => exact hacc h
  | pass3 => exact hacc h
  | wait => exact hwait h
  | readBack => exact hend rfl h
  | print => exact hacc h
  | insert => exact hacc h
  | insertOk => exact hacc h
  | uninitAccepted => exact hacc h
  | connect => exact hacc h
  | _ => trivial

theorem hasUser_congr {s s' : State} (hcur : currentUser s'.log = currentUser s.log)
    (hnames : s'.getUserNames = s.getUserNames) {pc : LogonPc}
    (hok : lookingUp pc = true → s'.isOK = s.isOK) (h : hasUser s pc) : hasUser s' pc := by
  cases pc with
  | queryOk =>
    simp only [hasUser, hcur, hnames, hok rfl] at h ⊢
    exact h
  | _ =>
    first
    | trivial
    | (simp only [hasUser, hcur, hnames] at h ⊢; exact h)

/-! Nothing is claimed where no card is worked for. -/

theorem lookingUp_of_not_handling {pc : LogonPc} (h : handling pc = false) :
    lookingUp pc = false := by
  cases pc <;> first | rfl | cases h

theorem hasUser_of_not_handling {s : State} {pc : LogonPc} (h : handling pc = false) :
    hasUser s pc := by
  cases pc <;> trivial

theorem logonOk_of_not_handling {n : Bytes} {s : State} {pc : LogonPc}
    (h : handling pc = false) : logonOk n s pc := by
  cases pc <;> trivial

/-! Events that are no lookup keep the user and the accepted posts. -/

theorem currentUser_cons {e : Event} (h : e.isLookup = false) {log : List Event} :
    currentUser (e :: log) = currentUser log := by
  cases e with
  | lookup card result => cases h
  | _ => rfl

theorem mem_acceptedBodies_cons {e : Event} (h : e.isLookup = false) {log : List Event}
    {b : PostBody} (hn : b ∈ acceptedBodies log) : b ∈ acceptedBodies (e :: log) := by
  cases e with
  | lookup card result => cases h
  | post who body ok =>
    cases ok with
    | true => exact List.mem_cons_of_mem _ hn
    | false => exact hn
  | _ => exact hn

/-- An accepted post is one of the accepted bodies. -/
theorem accepted_post {body : PostBody} {n : Bytes} {ok : Bool} (hb : body.carries n = true)
    (hok : ok = true) (who : Who) (log : List Event) :
    ∃ b ∈ acceptedBodies (.post who body ok :: log), b.carries n = true := by
  rw [hok]
  exact ⟨body, List.mem_cons_self, hb⟩

/-! Steps of the logon thread. -/

section
variable (s : State) (a : Answer)

theorem logonStep_user (pc : LogonPc) (hq : pc ≠ .query) :
    currentUser (logonStep s a pc).log = currentUser s.log := by
  obtain h | ⟨e, he, h⟩ := logonStep_log_cases s a pc
  · rw [h]
  · rw [h]
    exact currentUser_cons (logonEvent_lookup he hq)

theorem logonStep_accepted (pc : LogonPc) (hq : pc ≠ .query) {n : Bytes} (h : Accepted s n) :
    Accepted (logonStep s a pc) n := by
  obtain ⟨b, hb, hn⟩ := h
  refine ⟨b, ?_, hn⟩
  obtain hlog | ⟨e, he, hlog⟩ := logonStep_log_cases s a pc
  · rw [hlog]
    exact hb
  · rw [hlog]
    exact mem_acceptedBodies_cons (logonEvent_lookup he hq) hb

/-- A lookup goes on until it is over, and only `query` begins one. -/
theorem logonStep_lookingUp (pc : LogonPc) (h : lookingUp (logonStep s a pc).logon = true) :
    lookingUp pc = true ∨ pc = .query := by
  cases hw : handling pc with
  | false =>
    obtain hn | hn := logonStep_handling s a pc hw
    · rw [lookingUp_of_not_handling hn] at h
      cases h
    · rw [hn] at h
      cases h
  | true =>
    cases pc with
    | query => exact .inr rfl
    | branch => simp only [logonStep] at h; split at h <;> cases h
    | verdict => simp only [logonStep] at h; split at h <;> cases h
    | wait => simp only [logonStep] at h; split at h <;> cases h
    | readBack => simp only [logonStep] at h; split at h <;> cases h
    | insertOk => simp only [logonStep] at h; split at h <;> cases h
    | _ => first | (cases hw; done) | exact .inl rfl | cases h

/-- The row of the lookup is on its way to the globals. -/
theorem logonStep_hasUser (pc : LogonPc) (h : hasUser s pc) :
    hasUser (logonStep s a pc) (logonStep s a pc).logon := by
  cases hw : handling pc with
  | false =>
    obtain hn | hn := logonStep_handling s a pc hw
    · exact hasUser_of_not_handling hn
    · rw [hn]
      trivial
  | true =>
    cases pc with
    | query =>
      simp only [logonStep]
      cases a.result <;> rfl
    | queryOk =>
      have h' : currentUser s.log = if s.isOK then some s.getUserNames else none := h
      simp only [logonStep]
      split
      · next hok => rwa [if_pos hok] at h'
      · trivial
    | takeUser =>
      have h' : currentUser s.log = some s.getUserNames := h
      intro hnone
      have hlog : currentUser s.log = none := hnone
      rw [h'] at hlog
      cases hlog
    | branch => simp only [logonStep]; split <;> exact h
    | verdict => simp only [logonStep]; split <;> exact h
    | wait => simp only [logonStep]; split <;> exact h
    | readBack =>
      simp only [logonStep]
      split
      · trivial
      · exact h
    | insert => simp only [logonStep]; split <;> exact h
    | insertOk =>
      simp only [logonStep]
      split
      · exact h
      · trivial
    | _ => first | (cases hw; done) | exact h | trivial

/-- The lookup ends with `takeUser`, or without a user. -/
theorem lookingUp_ends (pc : LogonPc) (h : lookingUp pc = true)
    (hn : lookingUp (logonStep s a pc).logon = false) :
    pc = .takeUser ∨ (pc = .queryOk ∧ s.isOK = false) := by
  cases pc with
  | takeUser => exact .inl rfl
  | queryOk =>
    simp only [logonStep] at hn
    split at hn
    · cases hn
    · next hok => exact .inr ⟨rfl, by simpa using hok⟩
  | _ => first | (cases h; done) | cases hn

end

section
variable {s : State} {n : Bytes}

/-- A body that is printed carries the user name it is printed with. -/
theorem storedRequest_carries {a : Answer} (hg : apart s (.logon a) = true) (hpc : s.logon = .fmt)
    (hn : s.strlogUser = n) : s.storedRequest.carries n = true := by
  simp only [apart, hpc] at hg
  rw [← hn]
  exact PostBody.carries_of_prints hg

theorem typedRequest_carries {a : Answer} {login user : Bytes} (hg : apart s (.window a) = true)
    (hpc : s.window = .format login user) (hn : user = n) :
    (s.typedRequest login user).carries n = true := by
  simp only [apart, hpc] at hg
  rw [← hn]
  exact PostBody.carries_of_prints hg

/-- A step of the logon thread keeps its assertion. -/
theorem logonOk_logon (a : Answer) (hg : apart s (.logon a) = true)
    (huser : lookingUp s.logon = false → s.strlogUser = n) (h : logonOk n s s.logon) :
    logonOk n (logonStep s a s.logon) (logonStep s a s.logon).logon := by
  cases hw : handling s.logon with
  | false =>
    obtain hn | hn := logonStep_handling s a s.logon hw
    · exact logonOk_of_not_handling hn
    · rw [hn]
      trivial
  | true =>
    cases hpc : s.logon with
    | query => simp only [logonStep]; cases a.result <;> trivial
    | queryOk => simp only [logonStep]; split <;> trivial
    | branch => simp only [logonStep]; split <;> trivial
    | fmt => exact storedRequest_carries hg hpc (huser (by rw [hpc]; rfl))
    | send => rw [hpc] at h; exact h
    | sent body =>
      rw [hpc] at h
      exact fun hok => accepted_post h hok .logon s.log
    | rearm => rw [hpc] at h; exact h
    | verdict =>
      rw [hpc] at h
      simp only [logonStep]
      split
      · next hok => exact h hok
      · trivial
    | pass1 => rw [hpc] at h; exact h
    | pass2 => rw [hpc] at h; exact h
    | pass3 => rw [hpc] at h; exact .inr (.inl h)
    | fail => exact .inl rfl
    | arm => exact .inl rfl
    | wait =>
      rw [hpc] at h
      simp only [logonStep]
      split
      · exact h
      · next hct =>
        -- the wait is over: a rejected click between its two writes is excluded
        simp only [apart, hpc, hct, Bool.false_or, bne_iff_ne, ne_eq] at hg
        obtain h | h | h | h | h := h
        · exact absurd h hct
        · exact .inl h
        · exact .inr (.inl h)
        · exact .inr (.inr h)
        · exact absurd h hg
    | readBack =>
      rw [hpc] at h
      simp only [logonStep]
      split
      · trivial
      · next hback =>
        -- Back between its two writes is excluded, so it is an acceptance
        simp only [apart, hpc, bne_iff_ne, ne_eq] at hg
        obtain h | h | h := h
        · exact h
        · exact absurd h hback
        · exact absurd h hg
    | print => rw [hpc] at h; exact h
    | insert =>
      rw [hpc] at h
      exact logonStep_accepted s a .insert (by simp) h
    | insertOk =>
      rw [hpc] at h
      simp only [logonStep]
      split
      · exact h
      · trivial
    | uninitAccepted => rw [hpc] at h; exact h
    | _ =>
      first
      | trivial
      | (rw [hpc] at hw; cases hw)

/-- What the logon thread posts for is the current user, so its steps leave the
    window thread's assertion. -/
theorem windowOk_logon (a : Answer) (hg : apart s (.logon a) = true) (hq : s.logon ≠ .query)
    (huser : lookingUp s.logon = false → s.strlogUser = n) (h : logonOk n s s.logon)
    (hw : windowOk n s s.window) : windowOk n (logonStep s a s.logon) s.window := by
  have hacc : Accepted s n → Accepted (logonStep s a s.logon) n :=
    logonStep_accepted s a s.logon hq
  by_cases hf : s.logon = .fmt
  · have hbody := storedRequest_carries hg hf (huser (by rw [hf]; rfl))
    rw [hf] at hacc ⊢
    refine @windowOk_mono n s (logonStep s a .fmt) (fun _ => hbody) (fun h => h) hacc _ hw
  · by_cases hs : ∃ body, s.logon = .sent body
    · obtain ⟨body, hs⟩ := hs
      rw [hs] at h hacc ⊢
      refine @windowOk_mono n s (logonStep s a (.sent body)) id (fun _ hok => ?_) hacc _ hw
      exact accepted_post h hok .logon s.log
    · have hf' := logonStep_frame s a s.logon
      have hbody := hf'.chhttpPOST hf
      have hback := hf'.boolHttpback fun body h => hs ⟨body, h⟩
      exact windowOk_mono (s := s) (fun h => by rw [hbody]; exact h)
        (fun h hok => hacc (h (by rwa [hback] at hok))) hacc hw

/-- The logon thread's own part of the user: `takeUser` assigns it. -/
theorem strlogUser_logon (a : Answer) (hfound : hasUser s s.logon)
    (huser : ∀ n, currentUser s.log = some n → lookingUp s.logon = false → s.strlogUser = n)
    (hcur : currentUser s.log = some n) (hn : lookingUp (logonStep s a s.logon).logon = false) :
    (logonStep s a s.logon).strlogUser = n := by
  by_cases hl : lookingUp s.logon = true
  · obtain hp | ⟨hp, hok⟩ := lookingUp_ends s a s.logon hl hn
    · rw [hp] at hfound ⊢
      exact Option.some.inj (hfound.symm.trans hcur)
    · rw [hp] at hfound
      simp only [hasUser, hok] at hfound
      rw [hcur] at hfound
      cases hfound
  · have hp : s.logon ≠ .takeUser := fun h => hl (by rw [h]; rfl)
    rw [(logonStep_frame s a s.logon).strlogUser hp]
    exact huser n hcur (by simpa using hl)

/-! Steps of the window thread. -/

theorem windowStep_user {s' : State} {a : Answer} {pc : WindowPc}
    (h : windowStep s a pc = some s') : currentUser s'.log = currentUser s.log := by
  obtain hlog | ⟨e, he, hlog⟩ := windowStep_log_cases h
  · rw [hlog]
  · rw [hlog]
    exact currentUser_cons (windowEvent_lookup he)

theorem windowStep_accepted {s' : State} {a : Answer} {pc : WindowPc}
    (h : windowStep s a pc = some s') (hacc : Accepted s n) : Accepted s' n := by
  obtain ⟨b, hb, hn⟩ := hacc
  refine ⟨b, ?_, hn⟩
  obtain hlog | ⟨e, he, hlog⟩ := windowStep_log_cases h
  · rw [hlog]
    exact hb
  · rw [hlog]
    exact mem_acceptedBodies_cons (windowEvent_lookup he) hb

/-- `isOK` is written only on the way of a login. -/
theorem windowStep_isOK {s' : State} {a : Answer} {pc : WindowPc}
    (h : windowStep s a pc = some s') (hr : requesting pc = false) : s'.isOK = s.isOK := by
  cases pc with
  | idle =>
    obtain ⟨q, rfl | rfl | rfl⟩ := windowStep_idle h
    all_goals rfl
  | updating c => cases hr
  | _ => cases h; rfl

/-- A login begins only where `apart` allows it. -/
theorem windowStep_requesting {s' : State} {a : Answer} {pc : WindowPc}
    (h : windowStep s a pc = some s') (hr : requesting s'.window = true) :
    requesting pc = true ∨ ∃ login, pc = .request login := by
  cases pc with
  | request login => exact .inr ⟨login, rfl⟩
  | idle =>
    obtain ⟨q, rfl | rfl | rfl⟩ := windowStep_idle h
    all_goals cases hr
  | click =>
    cases h
    dsimp only at hr
    split at hr <;> cases hr
  | _ => first | exact .inl rfl | (cases h; cases hr)

/-- A step of the window thread keeps its assertion. -/
theorem windowOk_window {s' : State} {a : Answer} (h : windowStep s a s.window = some s')
    (hg : apart s (.window a) = true)
    (huser : lookingUp s.logon = false → s.strlogUser = n) (hw : windowOk n s s.window) :
    windowOk n s' s'.window := by
  cases hpc : s.window with
  | idle =>
    rw [hpc] at h
    obtain ⟨q, rfl | rfl | rfl⟩ := windowStep_idle h
    all_goals trivial
  | click =>
    rw [hpc] at h
    cases h
    dsimp only
    split <;> trivial
  | request login =>
    simp only [apart, hpc, Bool.not_eq_true'] at hg
    rw [hpc] at h
    cases h
    exact huser hg
  | format login user =>
    rw [hpc] at h hw
    have huser : user = n := hw
    have hbody := typedRequest_carries hg hpc huser
    cases h
    exact hbody
  | send => rw [hpc] at h hw; cases h; exact hw
  | sent body =>
    rw [hpc] at h hw
    cases h
    exact fun hok => accepted_post hw hok .window s.log
  | verdict =>
    rw [hpc] at h hw
    cases h
    dsimp only
    split
    · next hok => exact hw hok
    · trivial
  | updated =>
    rw [hpc] at h hw
    cases h
    dsimp only
    split
    · exact hw
    · trivial
  | update => rw [hpc] at h hw; cases h; exact hw
  | updating c => rw [hpc] at h hw; cases h; exact hw
  | acc1 => rw [hpc] at h hw; cases h; exact hw
  | acc2 => rw [hpc] at h hw; cases h; exact hw
  | _ => rw [hpc] at h; cases h; trivial

/-- The window thread's writes to what a request shares. -/
theorem windowStep_request {s' : State} {a : Answer} (h : windowStep s a s.window = some s')
    (hg : apart s (.window a) = true) (hw : windowOk n s s.window) :
    (s.chhttpPOST.carries n = true → s'.chhttpPOST.carries n = true) ∧
      ((s.boolHttpback = true → Accepted s n) → s'.boolHttpback = true → Accepted s' n) := by
  cases hpc : s.window with
  | idle =>
    rw [hpc] at h
    obtain ⟨q, rfl | rfl | rfl⟩ := windowStep_idle h
    all_goals exact ⟨id, id⟩
  | format login user =>
    rw [hpc] at h hw
    have huser : user = n := hw
    have hbody := typedRequest_carries hg hpc huser
    cases h
    exact ⟨fun _ => hbody, id⟩
  | sent body =>
    rw [hpc] at h hw
    cases h
    exact ⟨id, fun _ hok => accepted_post hw hok .window s.log⟩
  | _ =>
    rw [hpc] at h
    cases h
    exact ⟨id, id⟩

/-- The steps that write `empPWCT`. -/
def writesEmpPWCT : WindowPc → Bool
  | .acc1 | .acc3 | .rej2 | .back1 => true
  | _ => false

/-- The steps that write `boolGetBack`. -/
def writesBack : WindowPc → Bool
  | .acc2 | .rej1 | .back2 => true
  | _ => false

theorem windowStep_empPWCT {s' : State} {a : Answer} {pc : WindowPc}
    (h : windowStep s a pc = some s') (hf : writesEmpPWCT pc = false) :
    s'.empPWCT = s.empPWCT := by
  cases pc with
  | idle =>
    obtain ⟨q, rfl | rfl | rfl⟩ := windowStep_idle h
    all_goals rfl
  | _ => first | (cases hf; done) | (cases h; rfl)

theorem windowStep_boolGetBack {s' : State} {a : Answer} {pc : WindowPc}
    (h : windowStep s a pc = some s') (hf : writesBack pc = false) :
    s'.boolGetBack = s.boolGetBack := by
  cases pc with
  | idle =>
    obtain ⟨q, rfl | rfl | rfl⟩ := windowStep_idle h
    all_goals rfl
  | _ => first | (cases hf; done) | (cases h; rfl)

/-- The wait ends by an acceptance or by Back, whatever the window thread does. -/
theorem waitOk_window {s' : State} {a : Answer} (h : windowStep s a s.window = some s')
    (hw : windowOk n s s.window) (hl : waitOk n s s.window) : waitOk n s' s'.window := by
  cases hpc : s.window with
  -- an accepted click: the post it knows of is the reason for all three writes
  | acc1 => rw [hpc] at h; cases h; exact .inl rfl
  | acc2 => rw [hpc] at h hw; cases h; exact .inr (.inl hw)
  | acc3 => rw [hpc] at h hw; cases h; exact .inr (.inl hw)
  -- a rejected click and Back: between the two writes only the place tells
  | rej1 => rw [hpc] at h; cases h; exact .inr (.inr (.inr (.inr rfl)))
  | rej2 => rw [hpc] at h; cases h; exact .inl rfl
  | back1 => rw [hpc] at h; cases h; exact .inr (.inr (.inr (.inl rfl)))
  | back2 => rw [hpc] at h; cases h; exact .inr (.inr (.inl rfl))
  | _ =>
    have hemp := windowStep_empPWCT h (by rw [hpc]; rfl)
    have hback := windowStep_boolGetBack h (by rw [hpc]; rfl)
    obtain hl | hl | hl | hl | hl := hl
    · exact .inl (hemp.trans hl)
    · exact .inr (.inl (windowStep_accepted h hl))
    · exact .inr (.inr (.inl (hback.trans hl)))
    · rw [hpc] at hl; cases hl
    · rw [hpc] at hl; cases hl

/-- Where the logon thread is about to read `boolGetBack`, it is not cleared without
    an acceptance. -/
theorem endOk_window {s' : State} {a : Answer} (h : windowStep s a s.window = some s')
    (hg : apart s (.window a) = true) (hread : s.logon = .readBack) (hw : windowOk n s s.window)
    (hl : endOk n s s.window) : endOk n s' s'.window := by
  cases hpc : s.window with
  | acc2 => rw [hpc] at h hw; cases h; exact .inl hw
  | rej1 => simp [apart, hpc, hread] at hg
  | back1 => rw [hpc] at h; cases h; exact .inr (.inr rfl)
  | back2 => rw [hpc] at h; cases h; exact .inr (.inl rfl)
  | _ =>
    have hback := windowStep_boolGetBack h (by rw [hpc]; rfl)
    obtain hl | hl | hl := hl
    · exact .inl (windowStep_accepted h hl)
    · exact .inr (.inl (hback.trans hl))
    · rw [hpc] at hl; cases hl

end

/-! The invariant. -/

theorem windowOk_of_not_requesting {n : Bytes} {s : State} {pc : WindowPc}
    (h : requesting pc = false) : windowOk n s pc := by
  cases pc <;> trivial

theorem vouched_of_accepted {s : State} {n : Bytes} (hcur : currentUser s.log = some n)
    (h : Accepted s n) : vouched s.log = true := by
  simp only [vouched, hcur]
  exact List.any_eq_true.mpr h

theorem logonStep_history {s : State} (a : Answer) (pc : LogonPc)
    (hc : pc = .connect → vouched s.log = true) (h : ConnectedVouched s.log) :
    ConnectedVouched (logonStep s a pc).log := by
  obtain hlog | ⟨e, he, hlog⟩ := logonStep_log_cases s a pc
  · rw [hlog]
    exact h
  · rw [hlog]
    refine ⟨fun hconn => ?_, h⟩
    -- only `connect` logs a connection
    obtain ⟨-, rfl⟩ | ⟨body, -, rfl⟩ | ⟨t, -, rfl⟩ | ⟨hp, -⟩ := logonEvent_cases he
    · cases hconn
    · cases hconn
    · cases hconn
    · exact hc hp

theorem windowStep_history {s s' : State} {a : Answer} {pc : WindowPc}
    (hs : windowStep s a pc = some s') (h : ConnectedVouched s.log) : ConnectedVouched s'.log := by
  obtain hlog | ⟨e, he, hlog⟩ := windowStep_log_cases hs
  · rw [hlog]
    exact h
  · rw [hlog]
    refine ⟨fun hconn => ?_, h⟩
    obtain ⟨body, -, rfl⟩ | ⟨c, -, rfl⟩ := windowEvent_cases he
    all_goals cases hconn

theorem HandoverInv.logon_step {s : State} (hi : HandoverInv s) (a : Answer)
    (hg : apart s (.logon a) = true) : HandoverInv (logonStep s a s.logon) := by
  have hwin := (logonStep_frame s a s.logon).window
  have hhist : ConnectedVouched (logonStep s a s.logon).log := by
    refine logonStep_history a s.logon (fun hc => ?_) hi.history
    have hne : currentUser s.log ≠ none := by
      have := hi.found
      rwa [hc] at this
    obtain ⟨n, hn⟩ := Option.ne_none_iff_exists'.mp hne
    have hl := hi.logon n hn
    rw [hc] at hl
    exact vouched_of_accepted hn hl
  have hfound := logonStep_hasUser s a s.logon hi.found
  by_cases hq : s.logon = .query
  · have hidle : requesting s.window = false := by simpa [apart, hq] using hg
    have hlook : lookingUp (logonStep s a s.logon).logon = true := by
      rw [hq]
      simp only [logonStep]
      cases a.result <;> rfl
    refine ⟨hhist, fun _ => by rw [hwin]; exact hidle, hfound, ?_, ?_, ?_⟩
    · intro n _ hl
      rw [hlook] at hl
      cases hl
    · intro n _
      rw [hq]
      simp only [logonStep]
      cases a.result <;> trivial
    · intro n _
      rw [hwin]
      exact windowOk_of_not_requesting hidle
  · have hcur := logonStep_user s a s.logon hq
    refine ⟨hhist, ?_, hfound, ?_, ?_, ?_⟩
    · intro hl
      rw [hwin]
      exact hi.exclusive ((logonStep_lookingUp s a s.logon hl).resolve_right hq)
    · intro n hn hl
      rw [hcur] at hn
      exact strlogUser_logon a hi.found hi.user hn hl
    · intro n hn
      rw [hcur] at hn
      exact logonOk_logon a hg (hi.user n hn) (hi.logon n hn)
    · intro n hn
      rw [hcur] at hn
      rw [hwin]
      exact windowOk_logon a hg hq (hi.user n hn) (hi.logon n hn) (hi.window n hn)

theorem HandoverInv.window_step {s s' : State} (hi : HandoverInv s) {a : Answer}
    (hg : apart s (.window a) = true) (h : windowStep s a s.window = some s') : HandoverInv s' := by
  have hf := windowStep_frame h
  have hlogon := hf.logon
  have hcur := windowStep_user h
  refine ⟨windowStep_history h hi.history, ?_, ?_, ?_, ?_, ?_⟩
  · intro hl
    rw [hlogon] at hl
    cases hr : requesting s'.window with
    | false => rfl
    | true =>
      obtain hr | ⟨login, hpc⟩ := windowStep_requesting h hr
      · rw [hi.exclusive hl] at hr
        cases hr
      · simp [apart, hpc, hl] at hg
  · rw [hlogon]
    refine hasUser_congr hcur hf.getUserNames (fun hl => ?_) hi.found
    exact windowStep_isOK h (hi.exclusive hl)
  · intro n hn hl
    rw [hlogon] at hl
    rw [hcur] at hn
    rw [hf.strlogUser]
    exact hi.user n hn hl
  · intro n hn
    rw [hcur] at hn
    rw [hlogon]
    obtain ⟨hbody, hback⟩ := windowStep_request h hg (hi.window n hn)
    exact logonOk_mono hbody hback (windowStep_accepted h)
      (waitOk_window h (hi.window n hn))
      (fun hr => endOk_window h hg hr (hi.window n hn)) (hi.logon n hn)
  · intro n hn
    rw [hcur] at hn
    exact windowOk_window h hg (hi.user n hn) (hi.window n hn)

/-- A reader's events are neither lookups nor posts nor connections. -/
theorem HandoverInv.reader_step {s : State} (hi : HandoverInv s) (a : Answer) (i : Nat)
    (r : Reader) : HandoverInv (readerStep s a i r r.pc) := by
  obtain ⟨rx, rs, h | h | h | ⟨card, h⟩⟩ := readerStep_cases s a i r r.pc
  · rw [h]
    exact ⟨hi.history, hi.exclusive, hi.found, hi.user, hi.logon, hi.window⟩
  · rw [h]
    exact ⟨hi.history, hi.exclusive, hi.found, hi.user, hi.logon, hi.window⟩
  · rw [h]
    exact ⟨⟨fun e => (nomatch e), hi.history⟩, hi.exclusive, hi.found, hi.user, hi.logon,
      hi.window⟩
  · rw [h]
    exact ⟨⟨fun e => (nomatch e), hi.history⟩, hi.exclusive, hi.found, hi.user, hi.logon,
      hi.window⟩

theorem handoverInv_preserved : Preserved step apart initial HandoverInv := by
  refine preserved_of_steps ?_ ?_ ?_ ?_ ?_
  · exact ⟨trivial, fun h => (nomatch h), trivial, fun _ h => (nomatch h), fun _ h => (nomatch h),
      fun _ h => (nomatch h)⟩
  · intro s a hi hg
    exact hi.logon_step a hg
  · intro s s' a hi hg h
    exact hi.window_step hg h
  · intro s i r a hi _ _
    exact hi.reader_step a i r
  · intro s queue rx hi
    exact ⟨hi.history, hi.exclusive, hi.found, hi.user, hi.logon, hi.window⟩

/-- A card is connected only after a post that carried its user name returned true, in
    every run that keeps the threads out of each other's half-made writes and whose
    templates show the user name. -/
theorem connected_vouched (s : State) (h : Reachable step apart initial s) :
    ConnectedVouched s.log :=
  (h.holds handoverInv_preserved).history

/-- A card with a stored password, which the server accepts. -/
def storedRun : List Act := bootRun ++ cardRun 0 ++ logons 34 yes

theorem stored_password_connects :
    (final step apart initial storedRun).fConnected = true ∧
      ConnectedVouched (final step apart initial storedRun).log :=
  ⟨by decide +kernel, connected_vouched _ (reachable_final storedRun)⟩

/-- With a template that shows no user name the accepted body carries none. -/
example : ¬ vouched [.post .logon ⟨lit "login=1", someRow.userName, []⟩ true,
    .lookup someRow.carNumber (.row someRow)] = true := by
  decide +kernel

/-- The row of a card without a stored password. -/
def newUser : Answer := { yes with result := .row { someRow with userPW := [] } }

/-- Back is clicked for a card that waits for its first password, and the logon thread
    reads `boolGetBack` between the two writes. -/
def backRun : List Act :=
  bootRun ++ cardRun 0 ++ logons 20 newUser ++ [.message .back] ++ windows 2 yes ++ logons 7 yes

theorem back_connects :
    ¬ ∀ s, Reachable step always initial s → ConnectedVouched s.log :=
  not_forall_reachable backRun (by decide +kernel)

end CardLogon
