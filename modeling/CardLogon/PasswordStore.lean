import CardLogon.Terminal

/- Storing a typed password.

   A login click reads `strlogUser`, posts it with the typed password, and when the
   post returns true writes the password to the row of `GetCarNumber`, which it reads
   only then. While the post is out the logon thread can finish one card and look up
   the next: the password accepted for the first user goes to the second one's row.

   The body is printed from a template of the database, which need not show either; a
   body carries what its text has.

   What is proved: `stored_password_accepted`. In every run that leaves a click
   undisturbed from its read of `strlogUser` to its update, and whose templates show the
   user name and the password, every password that is stored for a card stood,
   form-encoded, in the text of this click's post, with the user name of that card, and
   the post returned true. `password_to_other_card` is a run without that condition. -/
namespace CardLogon
open CText GuardedRun

/-- The user name of a card, as the last lookup that found its row gave it. -/
def ownerOf (carNumber : Bytes) : List Event → Option Bytes
  | [] => none
  | .lookup _ (.row r) :: log =>
    if r.carNumber = carNumber then some r.userName else ownerOf carNumber log
  | _ :: log => ownerOf carNumber log

/-- The last post of a login click, and what it returned. -/
def lastPost : List Event → Option (PostBody × Bool)
  | [] => none
  | .post .window body ok :: _ => some (body, ok)
  | _ :: log => lastPost log

/-- The last post returned true, and its text carried the card's user name and the
    password. -/
def acceptedFor (carNumber pw : Bytes) (log : List Event) : Bool :=
  match lastPost log with
  | some (body, true) =>
    (ownerOf carNumber log).any fun user => body.carriesLogin user (escapePlus pw)
  | _ => false

/-- What has to hold when an event is logged. -/
def storedOk : Event → List Event → Bool
  | .update carNumber pw, before => acceptedFor carNumber pw before
  | _, _ => true

/-- Every stored password was accepted for the card's user. -/
def StoredAccepted (log : List Event) : Prop :=
  Throughout (fun e before => storedOk e before = true) log

instance (log : List Event) : Decidable (StoredAccepted log) :=
  inferInstanceAs (Decidable (Throughout _ log))

/-! The condition on runs. -/

/-- A click has read `strlogUser` and not yet made its update. -/
def posting : WindowPc → Bool
  | .format _ _ | .send | .sent _ | .verdict | .update | .updating _ => true
  | _ => false

/-- A click has read `strlogUser` and not yet `GetCarNumber`. -/
def beforeCar : WindowPc → Bool
  | .updating _ => false
  | pc => posting pc

/-- A click starts only with the user of the card in `GetCarNumber`, and until its
    update the logon thread looks no card up, does not assign `GetCarNumber`, and
    prints or posts no body of its own over the click's. The click prints its body from
    a template that shows the user name and the password. -/
def undisturbed (s : State) : Act → Bool
  | .logon _ =>
    match s.logon with
    | .query => !posting s.window
    | .fmt => s.window != .send
    | .sent _ => s.window != .verdict
    | pc => !writesCar pc || !beforeCar s.window
  | .window _ =>
    match s.window with
    | .request _ => ownerOf s.getCarNumber s.log == some s.strlogUser
    | .format login user => (s.typedRequest login user).printsLogin
    | _ => true
  | _ => true

/-! The assertions. -/

/-- The body has the card's user name, and the typed password. -/
def Carries (s : State) (carNumber : Bytes) (body : PostBody) : Prop :=
  ∃ user, ownerOf carNumber s.log = some user ∧ body.carriesLogin user (escapePlus s.getUpw) = true

/-- The last post returned `ok` and carried this. -/
def Posted (s : State) (carNumber : Bytes) (ok : Bool) : Prop :=
  ∃ body, lastPost s.log = some (body, ok) ∧ Carries s carNumber body

/-- What a click has made sure of. -/
def clickOk (s : State) : WindowPc → Prop
  | .format _ user => ownerOf s.getCarNumber s.log = some user
  | .send => Carries s s.getCarNumber s.chhttpPOST
  | .sent body => Carries s s.getCarNumber body
  | .verdict => Posted s s.getCarNumber s.boolHttpback
  | .update => Posted s s.getCarNumber true
  | .updating carNumber => Posted s carNumber true
  | _ => True

structure StoreInv (s : State) : Prop where
  history : StoredAccepted s.log
  click : clickOk s s.window

/-! Events of the logon thread. -/

theorem ownerOf_cons {e : Event} (h : e.isLookup = false) (c : Bytes) (log : List Event) :
    ownerOf c (e :: log) = ownerOf c log := by
  cases e with
  | lookup card result => cases h
  | _ => rfl

/-- The logon thread's events are neither a click's post nor an update. -/
theorem logonEvent_click {s : State} {a : Answer} {pc : LogonPc} {e : Event}
    (h : logonEvent s a pc = some e) (log : List Event) :
    lastPost (e :: log) = lastPost log ∧ storedOk e log = true := by
  obtain ⟨-, rfl⟩ | ⟨body, -, rfl⟩ | ⟨t, -, rfl⟩ | ⟨-, rfl⟩ := logonEvent_cases h
  all_goals exact ⟨rfl, rfl⟩

/-! The assertions depend on little of the state. -/

theorem Carries.congr {s s' : State} {c : Bytes} {body : PostBody}
    (howner : ownerOf c s'.log = ownerOf c s.log) (hpw : s'.getUpw = s.getUpw)
    (h : Carries s c body) : Carries s' c body := by
  obtain ⟨user, huser, hbody⟩ := h
  refine ⟨user, howner.trans huser, ?_⟩
  rw [hpw]
  exact hbody

theorem Posted.congr {s s' : State} {c : Bytes} {ok : Bool}
    (howner : ownerOf c s'.log = ownerOf c s.log) (hlast : lastPost s'.log = lastPost s.log)
    (hpw : s'.getUpw = s.getUpw) (h : Posted s c ok) : Posted s' c ok := by
  obtain ⟨body, hb, hc⟩ := h
  exact ⟨body, hlast.trans hb, hc.congr howner hpw⟩

theorem clickOk_congr {s s' : State} (howner : ∀ c, ownerOf c s'.log = ownerOf c s.log)
    (hlast : lastPost s'.log = lastPost s.log) (hpw : s'.getUpw = s.getUpw) {pc : WindowPc}
    (hcar : beforeCar pc = true → s'.getCarNumber = s.getCarNumber)
    (hbody : pc = .send → s'.chhttpPOST = s.chhttpPOST)
    (hback : pc = .verdict → s'.boolHttpback = s.boolHttpback) (h : clickOk s pc) :
    clickOk s' pc := by
  cases pc with
  | format login user =>
    show ownerOf s'.getCarNumber s'.log = some user
    rw [hcar rfl, howner]
    exact h
  | send =>
    show Carries s' s'.getCarNumber s'.chhttpPOST
    rw [hcar rfl, hbody rfl]
    exact Carries.congr (howner _) hpw h
  | sent body =>
    show Carries s' s'.getCarNumber body
    rw [hcar rfl]
    exact Carries.congr (howner _) hpw h
  | verdict =>
    show Posted s' s'.getCarNumber s'.boolHttpback
    rw [hcar rfl, hback rfl]
    exact Posted.congr (howner _) hlast hpw h
  | update =>
    show Posted s' s'.getCarNumber true
    rw [hcar rfl]
    exact Posted.congr (howner _) hlast hpw h
  | updating c => exact Posted.congr (howner c) hlast hpw h
  | _ => trivial

theorem clickOk_of_not_posting {s : State} {pc : WindowPc} (h : posting pc = false) :
    clickOk s pc := by
  cases pc <;> trivial

/-! Steps. -/

/-- What the condition says of a logon step. -/
theorem undisturbed_logon {s : State} {a : Answer} (hg : undisturbed s (.logon a) = true) :
    (s.logon = .query → posting s.window = false) ∧ (s.logon = .fmt → s.window ≠ .send) ∧
      (∀ body, s.logon = .sent body → s.window ≠ .verdict) ∧
      (writesCar s.logon = true → beforeCar s.window = false) := by
  refine ⟨?_, ?_, ?_, ?_⟩
  · intro h
    simpa [undisturbed, h] using hg
  · intro h
    simpa [undisturbed, h] using hg
  · intro body h
    simpa [undisturbed, h] using hg
  · intro h
    cases hpc : s.logon with
    | bootClear => simpa [undisturbed, hpc, writesCar] using hg
    | putCar r => simpa [undisturbed, hpc, writesCar] using hg
    | putMiss card => simpa [undisturbed, hpc, writesCar] using hg
    | wipeCar => simpa [undisturbed, hpc, writesCar] using hg
    | _ =>
      rw [hpc] at h
      cases h

theorem StoreInv.logon {s : State} (hi : StoreInv s) (a : Answer)
    (hg : undisturbed s (.logon a) = true) : StoreInv (logonStep s a s.logon) := by
  have hf := logonStep_frame s a s.logon
  obtain ⟨hquery, hfmt, hsent, hcar⟩ := undisturbed_logon hg
  have hlog := logonStep_log_cases s a s.logon
  refine ⟨?_, ?_⟩
  · obtain h | ⟨e, he, h⟩ := hlog
    · rw [h]
      exact hi.history
    · rw [h]
      exact ⟨(logonEvent_click he s.log).2, hi.history⟩
  · rw [hf.window]
    cases hp : posting s.window with
    | false => exact clickOk_of_not_posting hp
    | true =>
      have hq : s.logon ≠ .query := fun h => by
        rw [hquery h] at hp
        cases hp
      have howner : ∀ c, ownerOf c (logonStep s a s.logon).log = ownerOf c s.log := by
        intro c
        obtain h | ⟨e, he, h⟩ := hlog
        · rw [h]
        · rw [h]
          exact ownerOf_cons (logonEvent_lookup he hq) c s.log
      have hlast : lastPost (logonStep s a s.logon).log = lastPost s.log := by
        obtain h | ⟨e, he, h⟩ := hlog
        · rw [h]
        · rw [h]
          exact (logonEvent_click he s.log).1
      refine clickOk_congr howner hlast hf.getUpw (fun hb => hf.getCarNumber ?_)
        (fun hw => hf.chhttpPOST fun h => hfmt h hw)
        (fun hw => hf.boolHttpback fun body h => hsent body h hw) hi.click
      cases hc : writesCar s.logon with
      | false => rfl
      | true =>
        rw [hcar hc] at hb
        cases hb

/-- A click's assertions follow one another. -/
theorem clickOk_window {s s' : State} {a : Answer} (h : windowStep s a s.window = some s')
    (hg : undisturbed s (.window a) = true) (hc : clickOk s s.window) : clickOk s' s'.window := by
  cases hpc : s.window with
  | idle =>
    rw [hpc] at h
    obtain ⟨q, rfl | rfl | rfl⟩ := windowStep_idle h
    all_goals trivial
  | click =>
    rw [hpc] at h
    cases h
    dsimp only
    split <;> trivial
  | request login =>
    rw [hpc] at h
    cases h
    show ownerOf s.getCarNumber s.log = some s.strlogUser
    simpa [undisturbed, hpc] using hg
  | format login user =>
    simp only [undisturbed, hpc] at hg
    rw [hpc] at h hc
    cases h
    exact ⟨user, hc, PostBody.carriesLogin_of_prints hg⟩
  | send => rw [hpc] at h hc; cases h; exact hc
  | sent body => rw [hpc] at h hc; cases h; exact ⟨body, rfl, hc⟩
  | verdict =>
    rw [hpc] at h hc
    cases h
    have hc : Posted s s.getCarNumber s.boolHttpback := hc
    dsimp only
    split
    · next hok =>
      rw [hok] at hc
      exact hc
    · trivial
  | update => rw [hpc] at h hc; cases h; exact hc
  | updated =>
    rw [hpc] at h
    cases h
    dsimp only
    split <;> trivial
  | _ => rw [hpc] at h; cases h; trivial

theorem acceptedFor_of_posted {s : State} {c : Bytes} (h : Posted s c true) :
    acceptedFor c s.getUpw s.log = true := by
  obtain ⟨body, hlast, user, howner, hbody⟩ := h
  simp [acceptedFor, hlast, howner, hbody]

theorem StoreInv.window {s s' : State} {a : Answer} (hi : StoreInv s)
    (hg : undisturbed s (.window a) = true) (h : windowStep s a s.window = some s') :
    StoreInv s' := by
  refine ⟨?_, clickOk_window h hg hi.click⟩
  obtain hlog | ⟨e, he, hlog⟩ := windowStep_log_cases h
  · rw [hlog]
    exact hi.history
  · rw [hlog]
    refine ⟨?_, hi.history⟩
    obtain ⟨body, -, rfl⟩ | ⟨c, hpc, rfl⟩ := windowEvent_cases he
    · rfl
    · have hc := hi.click
      rw [hpc] at hc
      exact acceptedFor_of_posted hc

theorem StoreInv.reader {s : State} (hi : StoreInv s) (a : Answer) (i : Nat) (r : Reader) :
    StoreInv (readerStep s a i r r.pc) := by
  obtain ⟨rx, rs, h | h | h | ⟨card, h⟩⟩ := readerStep_cases s a i r r.pc
  · rw [h]
    exact ⟨hi.history, hi.click⟩
  · rw [h]
    exact ⟨hi.history, hi.click⟩
  · rw [h]
    exact ⟨⟨rfl, hi.history⟩, hi.click⟩
  · rw [h]
    exact ⟨⟨rfl, hi.history⟩, hi.click⟩

theorem storeInv_preserved : Preserved step undisturbed initial StoreInv := by
  refine preserved_of_steps ⟨trivial, trivial⟩ ?_ ?_ ?_ ?_
  · intro s a hi hg
    exact hi.logon a hg
  · intro s s' a hi hg h
    exact hi.window hg h
  · intro s i r a hi _ _
    exact hi.reader a i r
  · intro s queue rx hi
    exact ⟨hi.history, hi.click⟩

/-- The row of a card whose password is typed in the window. -/
def emptyPW : Answer := { yes with result := .row { someRow with userPW := [] } }

/-- The first password of a card is typed and accepted. -/
def typedRun : List Act :=
  bootRun ++ cardRun 0 ++ logons 20 emptyPW ++ [.message .login] ++ windows 10 yes

/-- Another user's row. -/
def otherRow : Row where
  carNumber := lit "99887766554433221100998877665544"
  userName := lit "bob"
  nickname := lit "Bob"
  userPW := lit "87654321"

/-- Login is clicked twice. The first click is accepted; the second one's post is out
    while the insert fails and the next card is looked up. -/
def twoClicksRun : List Act :=
  bootRun ++ cardRun 0 ++ logons 20 emptyPW ++ [.message .login, .message .login] ++
    windows 20 yes ++ logons 3 yes ++ [.logon no] ++ logons 4 yes ++
    readers 3 0 yes ++ [.arrive otherRow.carNumber] ++ readers 3 0 yes ++
    logons 11 { yes with result := .row otherRow } ++ windows 4 yes

end CardLogon
