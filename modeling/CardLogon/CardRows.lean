import CardLogon.Terminal
import Mathlib.Data.List.Count

/- Every recorded login attempt has a card of its own, or not.

   A card that a reader hands over in `Readinfo` may lead to one row, in loginTable
   or in loginFTable. The paths that end an attempt clear `Readinfo`: Back,
   rejection, a failed insert. The accepted one does not: it leaves the loop with the
   card still there, and the next session finds it when its reader has not started
   (InitCOM failed, or the thread has not cleared `Readinfo` yet).

   What is proved: `rows_le_cards`. In every run whose logon thread takes a card from
   `Readinfo` only when a reader has assigned it since the last row was inserted, each
   row is for a lookup that came after a card delivered since the row before, so that no
   card is recorded twice, and the rows are never more than the cards delivered.
   `replayed_card` is a run without that condition. -/
namespace CardLogon
open CText GuardedRun

def Event.isInsert : Event → Bool
  | .insert _ _ => true
  | _ => false

def Event.isDelivered : Event → Bool
  | .delivered _ => true
  | _ => false

/-- The rows inserted in loginTable and loginFTable. -/
def rows (log : List Event) : Nat := log.countP Event.isInsert

/-- The cards `OnRecv` has delivered. -/
def cards (log : List Event) : Nat := log.countP Event.isDelivered

/-- No reader has assigned `Readinfo` since the last row was inserted. -/
def leftover : List Event → Bool
  | [] => false
  | .insert _ _ :: _ => true
  | .readerStart :: _ => false
  | .delivered _ :: _ => false
  | _ :: log => leftover log

/-- A card has been delivered since the last row was inserted. -/
def fresh : List Event → Bool
  | [] => false
  | .insert _ _ :: _ => false
  | .delivered _ :: _ => true
  | _ :: log => fresh log

/-- A card has been looked up since the last row was inserted, the last one after it
    was delivered. -/
def ownCard : List Event → Bool
  | [] => false
  | .insert _ _ :: _ => false
  | .lookup _ _ :: log => fresh log
  | _ :: log => ownCard log

/-- Every row has a card of its own: between the row before and the lookup that this one
    is for, a card was delivered. -/
def OwnCards (log : List Event) : Prop :=
  Throughout (fun e before => e.isInsert = true → ownCard before = true) log

instance (log : List Event) : Decidable (OwnCards log) :=
  inferInstanceAs (Decidable (Throughout _ log))

/-- The loop's test finds a card. -/
def cardRead (s : State) : Bool := (cstr s.readinfo).length = cardLen

/-- The logon thread takes a card from `Readinfo` only when a reader has assigned it
    since the last row was inserted. -/
def freshCard (s : State) : Act → Bool
  | .logon _ => s.logon != .check || !cardRead s || !leftover s.log
  | _ => true

/-! What a card of its own comes to. -/

theorem fresh_of_ownCard {log : List Event} (h : ownCard log = true) : fresh log = true := by
  induction log with
  | nil => cases h
  | cons e log ih =>
    cases e with
    | lookup card result => exact h
    | insert t c => cases h
    | delivered card => rfl
    | _ => exact ih h

/-- A card that has no row yet is one more than the rows. -/
theorem rows_add_fresh_le {log : List Event} (h : OwnCards log) :
    rows log + (fresh log).toNat ≤ cards log := by
  induction log with
  | nil => exact Nat.le_refl 0
  | cons e log ih =>
    have hrest := ih h.2
    cases e with
    | insert t c =>
      have hfresh : fresh log = true := fresh_of_ownCard (h.1 rfl)
      rw [hfresh] at hrest
      have hrows : rows (.insert t c :: log) = rows log + 1 := List.countP_cons_of_pos rfl
      rw [hrows]
      exact hrest
    | delivered card =>
      have hcards : cards (.delivered card :: log) = cards log + 1 := List.countP_cons_of_pos rfl
      rw [hcards]
      exact Nat.succ_le_succ (Nat.le_trans (Nat.le_add_right _ _) hrest)
    | _ => exact hrest

/-! The invariant. -/

/-- A card has been taken and not yet looked up. -/
def toLookUp : LogonPc → Bool
  | .conn .card | .info .card | .infoOk .card | .copyAudit .card _ | .query => true
  | _ => false

/-- It has been looked up, and no row inserted for it yet. -/
def toRecord : LogonPc → Bool
  | .putCar _ | .putName _ | .putNick _ | .putPw _ | .putMiss _ | .queryRet _ | .queryOk | .takeUser
  | .takePw | .branch | .arm | .fmt | .send | .sent _ | .rearm | .verdict | .pass1 | .pass2 | .pass3
  | .fail | .wait | .readBack | .print | .insert | .refuse => true
  | _ => false

/-- There is a delivered card without a row when a reader's card stands in `Readinfo` and
    when one is taken; one that is looked up was delivered before that. -/
structure CardInv (s : State) : Prop where
  history : OwnCards s.log
  full : cardRead s = true → leftover s.log = false → fresh s.log = true
  taken : toLookUp s.logon = true → fresh s.log = true
  lookedUp : toRecord s.logon = true → ownCard s.log = true

/-- Events that neither look a card up nor insert a row nor assign `Readinfo`. -/
def Event.quiet : Event → Bool
  | .post _ _ _ | .update _ _ | .connected => true
  | _ => false

theorem quiet_cons {e : Event} (h : e.quiet = true) (log : List Event) :
    fresh (e :: log) = fresh log ∧ leftover (e :: log) = leftover log ∧
      ownCard (e :: log) = ownCard log ∧ (OwnCards log → OwnCards (e :: log)) := by
  cases e with
  | post who body ok => exact ⟨rfl, rfl, rfl, fun hlog => ⟨fun hi => (nomatch hi), hlog⟩⟩
  | update c pw => exact ⟨rfl, rfl, rfl, fun hlog => ⟨fun hi => (nomatch hi), hlog⟩⟩
  | connected => exact ⟨rfl, rfl, rfl, fun hlog => ⟨fun hi => (nomatch hi), hlog⟩⟩
  | _ => cases h

/-- What a logon step logs: the lookup of the taken card, the row for one that has been
    looked up, or nothing that counts. -/
theorem logonEvent_counts {s : State} {a : Answer} {pc : LogonPc} {e : Event}
    (h : logonEvent s a pc = some e) :
    (pc = .query ∧ e = .lookup s.readinfo a.result) ∨ e.quiet = true ∨
      (toRecord pc = true ∧ toRecord (logonStep s a pc).logon = false ∧
        toLookUp (logonStep s a pc).logon = false ∧ ∃ t, e = .insert t s.getCarNumber) := by
  obtain ⟨hp, rfl⟩ | ⟨body, -, rfl⟩ | ⟨t, rfl | rfl, rfl⟩ | ⟨-, rfl⟩ := logonEvent_cases h
  · exact .inl ⟨hp, rfl⟩
  · exact .inr (.inl rfl)
  · exact .inr (.inr ⟨rfl, rfl, rfl, t, rfl⟩)
  · exact .inr (.inr ⟨rfl, rfl, rfl, t, rfl⟩)
  · exact .inr (.inl rfl)

theorem windowEvent_counts {s : State} {a : Answer} {pc : WindowPc} {e : Event}
    (h : windowEvent s a pc = some e) : e.quiet = true := by
  obtain ⟨body, -, rfl⟩ | ⟨c, -, rfl⟩ := windowEvent_cases h
  all_goals rfl

/-- A card is taken at the loop's test, and stays taken on the way to the lookup. -/
theorem logonStep_toLookUp (s : State) (a : Answer) (pc : LogonPc)
    (h : toLookUp (logonStep s a pc).logon = true) :
    (toLookUp pc = true ∧ pc ≠ .query) ∨ (pc = .check ∧ cardRead s = true) := by
  cases pc with
  | check =>
    right
    simp only [logonStep] at h
    split at h
    · next hc => exact ⟨rfl, decide_eq_true hc⟩
    · cases h
  | openPort c => simp only [logonStep] at h; split at h <;> cases h
  | setOpen c => cases c <;> cases h
  | ping => simp only [logonStep] at h; split at h <;> cases h
  | head => simp only [logonStep] at h; split at h <;> cases h
  | inner => simp only [logonStep] at h; split at h <;> cases h
  | noCard => simp only [logonStep] at h; split at h <;> cases h
  | query => simp only [logonStep] at h; split at h <;> cases h
  | queryOk => simp only [logonStep] at h; split at h <;> cases h
  | branch => simp only [logonStep] at h; split at h <;> cases h
  | verdict => simp only [logonStep] at h; split at h <;> cases h
  | wait => simp only [logonStep] at h; split at h <;> cases h
  | readBack => simp only [logonStep] at h; split at h <;> cases h
  | insertOk => simp only [logonStep] at h; split at h <;> cases h
  | conn p => cases p <;> first | exact .inl ⟨rfl, by simp⟩ | cases h
  | info p => cases p <;> first | exact .inl ⟨rfl, by simp⟩ | cases h
  | infoOk p =>
    cases p
    · simp only [logonStep] at h; split at h <;> cases h
    · exact .inl ⟨rfl, by simp⟩
  | copyAudit p k =>
    cases p
    · simp only [logonStep] at h; split at h <;> cases h
    · exact .inl ⟨rfl, by simp⟩
  | _ => cases h

/-- Only the lookup leads to what follows it. -/
theorem logonStep_toRecord (s : State) (a : Answer) (pc : LogonPc)
    (h : toRecord (logonStep s a pc).logon = true) : toRecord pc = true ∨ pc = .query := by
  cases pc with
  | query => exact .inr rfl
  | openPort c => simp only [logonStep] at h; split at h <;> cases h
  | setOpen c => cases c <;> cases h
  | ping => simp only [logonStep] at h; split at h <;> cases h
  | head => simp only [logonStep] at h; split at h <;> cases h
  | inner => simp only [logonStep] at h; split at h <;> cases h
  | check => simp only [logonStep] at h; split at h <;> cases h
  | noCard => simp only [logonStep] at h; split at h <;> cases h
  | insertOk => simp only [logonStep] at h; split at h <;> cases h
  | infoOk p =>
    simp only [logonStep] at h
    split at h
    · cases h
    · cases p <;> cases h
  | copyAudit p k => simp only [logonStep] at h; split at h <;> cases p <;> cases h
  | _ => first | exact .inl rfl | cases h

theorem cardRead_nil {s : State} (h : s.readinfo = []) : cardRead s = false := by
  simp [cardRead, h, cstr, cardLen]

theorem cardRead_congr {s s' : State} (h : s'.readinfo = s.readinfo) : cardRead s' = cardRead s := by
  simp only [cardRead, h]

theorem CardInv.logon {s : State} (hi : CardInv s) (a : Answer)
    (hg : freshCard s (.logon a) = true) : CardInv (logonStep s a s.logon) := by
  have htaken : toLookUp (logonStep s a s.logon).logon = true → fresh s.log = true := by
    intro ht
    obtain ⟨h, -⟩ | ⟨hc, hr⟩ := logonStep_toLookUp s a s.logon ht
    · exact hi.taken h
    · simp only [freshCard, hc, hr, bne_self_eq_false, Bool.not_true, Bool.false_or,
        Bool.not_eq_true'] at hg
      exact hi.full hr hg
  have hread : cardRead (logonStep s a s.logon) = true → cardRead s = true := by
    intro h
    obtain h' | h' := (logonStep_frame s a s.logon).readinfo
    · rwa [← cardRead_congr h']
    · rw [cardRead_nil h'] at h
      cases h
  have hfull := fun hr => hi.full (hread hr)
  have hlooked : s.logon ≠ .query → toRecord (logonStep s a s.logon).logon = true →
      ownCard s.log = true := by
    intro hq hr
    exact hi.lookedUp ((logonStep_toRecord s a s.logon hr).resolve_right hq)
  have hlog := logonStep_log s a s.logon
  cases he : logonEvent s a s.logon with
  | none =>
    have hq : s.logon ≠ .query := fun hq => by rw [hq] at he; cases he
    rw [he] at hlog
    have hlog : (logonStep s a s.logon).log = s.log := hlog
    refine ⟨?_, ?_, ?_, ?_⟩
    all_goals rw [hlog]
    · exact hi.history
    · exact hfull
    · exact htaken
    · exact hlooked hq
  | some e =>
    rw [he] at hlog
    have hlog : (logonStep s a s.logon).log = e :: s.log := hlog
    obtain ⟨hq, rfl⟩ | hquiet | ⟨hr, hn, hn', t, rfl⟩ := logonEvent_counts he
    -- the lookup of the taken card
    · have hfresh : fresh s.log = true := hi.taken (by rw [hq]; rfl)
      refine ⟨?_, ?_, ?_, ?_⟩
      all_goals rw [hlog]
      · exact ⟨fun h => (nomatch h), hi.history⟩
      · exact fun _ _ => hfresh
      · exact fun _ => hfresh
      · exact fun _ => hfresh
    · have hq : s.logon ≠ .query := fun hq => by
        rw [hq] at he
        obtain rfl := Option.some.inj he
        cases hquiet
      obtain ⟨hf, hl, ho, hh⟩ := quiet_cons hquiet s.log
      refine ⟨?_, ?_, ?_, ?_⟩
      all_goals rw [hlog]
      · exact hh hi.history
      · rw [hf, hl]
        exact hfull
      · rw [hf]
        exact htaken
      · rw [ho]
        exact hlooked hq
    -- the row for the card that was looked up
    · refine ⟨?_, ?_, ?_, ?_⟩
      · rw [hlog]
        exact ⟨fun _ => hi.lookedUp hr, hi.history⟩
      · rw [hlog]
        exact fun _ h => (nomatch h)
      · rw [hn']
        exact fun h => (nomatch h)
      · rw [hn]
        exact fun h => (nomatch h)

theorem CardInv.window {s s' : State} {a : Answer} (hi : CardInv s)
    (h : windowStep s a s.window = some s') : CardInv s' := by
  have hf := windowStep_frame h
  obtain hlog | ⟨e, he, hlog⟩ := windowStep_log_cases h
  · refine ⟨?_, ?_, ?_, ?_⟩
    · rw [hlog]
      exact hi.history
    · rw [hlog, cardRead_congr hf.readinfo]
      exact hi.full
    · rw [hlog, hf.logon]
      exact hi.taken
    · rw [hlog, hf.logon]
      exact hi.lookedUp
  · obtain ⟨hfresh, hl, ho, hh⟩ := quiet_cons (windowEvent_counts he) s.log
    refine ⟨?_, ?_, ?_, ?_⟩
    · rw [hlog]
      exact hh hi.history
    · rw [hlog, hfresh, hl, cardRead_congr hf.readinfo]
      exact hi.full
    · rw [hlog, hfresh, hf.logon]
      exact hi.taken
    · rw [hlog, ho, hf.logon]
      exact hi.lookedUp

theorem CardInv.reader {s : State} (hi : CardInv s) (a : Answer) (i : Nat) (r : Reader) :
    CardInv (readerStep s a i r r.pc) := by
  obtain ⟨rx, rs, h | h | h | ⟨card, h⟩⟩ := readerStep_cases s a i r r.pc
  · rw [h]
    exact ⟨hi.history, hi.full, hi.taken, hi.lookedUp⟩
  · rw [h]
    exact ⟨hi.history, hi.full, hi.taken, hi.lookedUp⟩
  -- a start clears `Readinfo`; a delivery is a fresh card
  · rw [h]
    refine ⟨⟨fun hins => (nomatch hins), hi.history⟩, fun hr => ?_, hi.taken, hi.lookedUp⟩
    rw [cardRead_nil rfl] at hr
    cases hr
  · rw [h]
    exact ⟨⟨fun hins => (nomatch hins), hi.history⟩, fun _ _ => rfl, fun _ => rfl, hi.lookedUp⟩

theorem cardInv_preserved : Preserved step freshCard initial CardInv := by
  refine preserved_of_steps ?_ ?_ ?_ ?_ ?_
  · exact ⟨trivial, fun h => (nomatch h), fun h => (nomatch h), fun h => (nomatch h)⟩
  · intro s a hi hg
    exact hi.logon a hg
  · intro s s' a hi _ h
    exact hi.window h
  · intro s i r a hi _ _
    exact hi.reader a i r
  · intro s queue rx hi
    exact ⟨hi.history, hi.full, hi.taken, hi.lookedUp⟩

/-- A card, its stored password accepted, and the row in loginTable. -/
def acceptedRun : List Act := bootRun ++ cardRun 0 ++ logons 31 yes

/-- After the accepted card the session ends; in the next one InitCOM fails, and the
    loop finds the same card. Its first round frees the buffer of `strCMD` for the second
    time, as every second session does. -/
def replayRun : List Act :=
  acceptedRun ++ logons 6 yes ++ [.logon yes, .logon no] ++ logons 14 yes ++ logons 31 yes

end CardLogon
