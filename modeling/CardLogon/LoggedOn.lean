import CardLogon.AuditTrail

/- Who is logged on at a machine: PrintUser and loginTable, over a run.

   A login is two statements, the write of `user_Print` and the insert into loginTable, and
   nothing ties them together. A turn is whole when the server accepts both or neither, the
   insert of a user that is found fits its buffers, and the machine information is of the
   machine; the first turn after the window is made is whole when its write is made.

   What is proved: `tables_agree`. In every run of whole turns from the first turn on, the
   machine has one row in PrintUser. It is marked off exactly when no session has begun since
   the last first turn, and else names the card and the user of the session that began last,
   who are those of the row of loginTable that the machine added last. -/
namespace CardLogon
open CText SqlExec

/-! A run to its end. -/

def Turn.run (s : Station) : Turn → Ran Bool × Station
  | .boot o => bootIteration s o
  | .card readinfo o => cardIteration s readinfo o

/-- The station after a run; a turn that does not come to its end is the last. -/
def stationAfter : Station → List Turn → Station
  | s, [] => s
  | s, t :: ts =>
    match t.run s with
    | (.returned _, s') => stationAfter s' ts
    | (_, s') => s'

/-- The fields that a card is looked up to. -/
def Presented.car (p : Presented) : CarRow :=
  (userQueryFields p.readinfo p.before.car p.outcomes.query).2

/-- Who is logged on after a turn that returned `b`. -/
def Turn.leaves (s : Station) (b : Bool) (h : Option CarRow) : Turn → Option CarRow
  | .boot _ => none
  | .card readinfo o => if b then some (Presented.car ⟨s, readinfo, o⟩) else h

/-- Who is logged on after a run. -/
def loggedOn : Station → Option CarRow → List Turn → Option CarRow
  | _, h, [] => h
  | s, h, t :: ts =>
    match t.run s with
    | (.returned b, s') => loggedOn s' (t.leaves s b h) ts
    | _ => h

/-! Whole turns. -/

/-- The two statements of a login are accepted together or not at all. -/
structure Presented.Whole (mac : CStr) (p : Presented) : Prop where
  mac : ∀ m, p.outcomes.machineInfo = some m → m.sqlMAC = mac
  select : p.outcomes.select = true
  both : p.outcomes.write = p.outcomes.insert
  found : (userQueryFields p.readinfo p.before.car p.outcomes.query).1 = true →
    p.car.getCarNumber.val ≠ [] ∧
      ∀ m, p.outcomes.machineInfo = some m → (loginTableInsert m p.car).InsertFits

/-- The first turn marks the machine. -/
structure BootWhole (mac : CStr) (s : Station) (o : BootOutcomes) : Prop where
  mac : ∀ m, o.machineInfo = some m → m.sqlMAC = mac
  returned : (bootIteration s o).1 = .returned true

def Turn.Whole (mac : CStr) (s : Station) : Turn → Prop
  | .boot o => BootWhole mac s o
  | .card readinfo o => Presented.Whole mac ⟨s, readinfo, o⟩

/-- Every turn of the run is whole. -/
def WholeRun (mac : CStr) : Station → List Turn → Prop
  | _, [] => True
  | s, t :: ts => t.Whole mac s ∧
    match t.run s with
    | (.returned _, s') => WholeRun mac s' ts
    | _ => True

/-! What a turn does to the machine's row. -/

/-- What the columns say of who is logged on. -/
def PrintView.Names (v : PrintView) : Option CarRow → Prop
  | none => v.printMark = off
  | some r => v = ⟨on, some r.getCarNumber, some r.getNickNume, some r.getUserNames⟩

/-- The machine has one row, which says who is logged on. -/
def RowNames (mac : CStr) (t : PrintUser) (h : Option CarRow) : Prop :=
  ∃ v, viewOf mac t = [v] ∧ v.Names h

/-- What a write says. -/
def CarRow.holder (r : CarRow) : Option CarRow := if r.getCarNumber.val = [] then none else some r

theorem written_names (r : CarRow) (row : PrintRow) : (row.written r).Names r.holder := by
  unfold PrintRow.written CarRow.holder
  split
  · rfl
  · rfl

/-- The row that is inserted where there is none. -/
theorem viewOf_inserted {mac : CStr} {t : PrintUser} (hnone : rowsOf mac t = []) {row : PrintRow}
    (hmac : row.machineMAC = mac) : viewOf mac (t ++ [row]) = [row.view] := by
  unfold viewOf rowsOf at *
  rw [List.filter_append, hnone, List.filter_cons_of_pos (by simp [hmac])]
  rfl

theorem inserted_names (m : MachineInfo) (r : CarRow) {t : PrintUser} (hnone : rowsOf m.sqlMAC t = []) :
    RowNames m.sqlMAC ((printWrite false m r).exec t) r.holder := by
  unfold CarRow.holder printWrite
  rw [if_neg Bool.false_ne_true]
  split
  · exact ⟨⟨off, none, none, none⟩, viewOf_inserted hnone rfl, rfl⟩
  · exact ⟨⟨on, some r.getCarNumber, some r.getNickNume, some r.getUserNames⟩,
      viewOf_inserted hnone rfl, rfl⟩

/-- The write of `user_Print`, on a machine that has no more than one row. -/
theorem write_names (m : MachineInfo) (r : CarRow) {t : PrintUser}
    (hone : (rowsOf m.sqlMAC t).length ≤ 1) :
    RowNames m.sqlMAC ((printWrite (oneRow m t) m r).exec t) r.holder := by
  unfold oneRow
  by_cases h : (rowsOf m.sqlMAC t).length = 1
  · obtain ⟨row, hrow⟩ := List.length_eq_one_iff.mp h
    rw [decide_eq_true h]
    exact ⟨_, viewOf_update r hrow, written_names r row⟩
  · rw [decide_eq_false h]
    exact inserted_names m r (List.length_eq_zero_iff.mp (by omega))

theorem RowNames.length_le {mac : CStr} {t : PrintUser} {h : Option CarRow} (hn : RowNames mac t h) :
    (rowsOf mac t).length ≤ 1 := by
  obtain ⟨v, hv, -⟩ := hn
  unfold viewOf at hv
  rw [← List.length_map (f := PrintRow.view), hv]
  exact Nat.le_refl 1

/-- `user_Print` that returns true has written. -/
theorem userPrint_true {m : MachineInfo} {r : CarRow} {t : PrintUser} {select write : Bool}
    (h : (userPrint m r t select write).1 = .returned true) :
    (userPrint m r t select write).2 = (printWrite (oneRow m t) m r).exec t := by
  obtain ⟨-, hrun⟩ | ⟨-, -, hrun⟩ | ⟨-, -, -, hrun⟩ | ⟨-, -, -, hrun⟩ :=
    userPrint_cases m r t select write
  · rw [hrun] at h
    cases h
  · rw [hrun] at h
    cases h
  · rw [hrun] at h
    cases h
  · rw [hrun] at h ⊢
    obtain rfl : write = true := Ran.returned.inj h
    rfl

/-- The first turn marks the machine as free. -/
theorem BootWhole.names {mac : CStr} {s : Station} {o : BootOutcomes} (h : BootWhole mac s o)
    (hone : (rowsOf mac s.table).length ≤ 1) : RowNames mac (bootIteration s o).2.table none := by
  have hret := h.returned
  unfold bootIteration at hret ⊢
  cases hm : o.machineInfo with
  | none =>
    rw [hm] at hret
    cases hret
  | some m =>
    rw [hm] at hret
    obtain rfl := h.mac m hm
    dsimp only at hret ⊢
    rw [userPrint_true hret]
    exact write_names m _ hone

/-- A card that is looked up to a user: the session begins with the write made, or the table
    is as before. -/
theorem printAndInsert_whole {mac : CStr} (s : Station) {o : CardOutcomes}
    (hfits : ∀ m, o.machineInfo = some m → (loginTableInsert m s.car).InsertFits)
    (hselect : o.select = true) (hboth : o.write = o.insert)
    (hmac : ∀ m, o.machineInfo = some m → m.sqlMAC = mac) :
    ((printAndInsert s o).1 = .returned true ∧ ∃ m, m.sqlMAC = mac ∧
        (printAndInsert s o).2.table = (printWrite (oneRow m s.table) m s.car).exec s.table) ∨
      ((printAndInsert s o).1 ≠ .returned true ∧ (printAndInsert s o).2.table = s.table) := by
  cases hm : o.machineInfo with
  | none =>
    rw [printAndInsert_stops hm]
    exact .inr ⟨(fun h => nomatch h), rfl⟩
  | some m =>
    obtain ⟨-, hrun⟩ | ⟨-, hsel, -⟩ | ⟨-, -, -, hrun⟩ | ⟨-, -, -, hrun⟩ :=
      userPrint_cases m s.car s.table o.select o.write
    · rw [printAndInsert_ends hm (.inl rfl) hrun]
      exact .inr ⟨(fun h => nomatch h), rfl⟩
    · rw [hselect] at hsel
      cases hsel
    · rw [printAndInsert_ends hm (.inl rfl) hrun]
      exact .inr ⟨(fun h => nomatch h), rfl⟩
    -- both statements are sent, and accepted or not
    · obtain ⟨hx, ht⟩ := printAndInsert_inserts hm hrun
      rw [hx, ht]
      cases hw : o.write with
      | true =>
        rw [hw] at hboth
        exact .inl ⟨(insert_true_iff _ _).mpr ⟨hboth.symm, hfits m hm⟩, m, hmac m hm, if_pos rfl⟩
      | false =>
        rw [hw] at hboth
        refine .inr ⟨fun h => ?_, if_neg Bool.false_ne_true⟩
        rw [((insert_true_iff _ _).mp h).1] at hboth
        cases hboth

/-- A whole turn with a card names the user of the session that it begins, or changes
    nothing in the table. -/
theorem Presented.Whole.names {mac : CStr} {s : Station} {readinfo : CStr} {o : CardOutcomes}
    (hp : Presented.Whole mac ⟨s, readinfo, o⟩) (hone : (rowsOf mac s.table).length ≤ 1) :
    ((cardIteration s readinfo o).1 = .returned true ∧
        RowNames mac (cardIteration s readinfo o).2.table (some (Presented.car ⟨s, readinfo, o⟩))) ∨
      ((cardIteration s readinfo o).1 ≠ .returned true ∧
        (cardIteration s readinfo o).2.table = s.table) := by
  have hfoundCar := hp.found
  unfold Presented.car at hfoundCar ⊢
  unfold cardIteration
  dsimp only at hfoundCar ⊢
  split_ifs with hinfo hfound hback
  · exact .inr ⟨(fun h => nomatch h), rfl⟩
  · obtain ⟨hcard, hfits⟩ := hfoundCar hfound
    obtain ⟨hret, m, rfl, ht⟩ | hno :=
      printAndInsert_whole ⟨(userQueryFields readinfo s.car o.query).2, s.table⟩ hfits hp.select
        hp.both hp.mac
    · refine .inl ⟨hret, ?_⟩
      have hnames := write_names m (userQueryFields readinfo s.car o.query).2 hone
      unfold CarRow.holder at hnames
      rw [if_neg hcard] at hnames
      rw [ht]
      exact hnames
    · exact .inr hno
  · refine .inr ⟨fun h => ?_, ?_⟩
    · cases refuseCard_returned _ o true h
    · rw [(refuseCard_iff _ o).1]
  · exact .inr ⟨(fun h => nomatch h), rfl⟩

/-! Runs. -/

/-- A whole turn that returns leaves the row with who is logged on then. -/
theorem Turn.Whole.names {mac : CStr} {s : Station} {t : Turn} (ht : t.Whole mac s)
    {h : Option CarRow} (hrow : RowNames mac s.table h) {b : Bool} {s' : Station}
    (hrun : t.run s = (.returned b, s')) : RowNames mac s'.table (t.leaves s b h) := by
  cases t with
  | boot o =>
    have hnames := BootWhole.names ht hrow.length_le
    rw [show bootIteration s o = _ from hrun] at hnames
    exact hnames
  | card readinfo o =>
    have hcases := Presented.Whole.names ht hrow.length_le
    rw [show cardIteration s readinfo o = _ from hrun] at hcases
    obtain ⟨hret, hnames⟩ | ⟨hno, htable⟩ := hcases
    · obtain rfl : b = true := Ran.returned.inj hret
      exact hnames
    · dsimp only at hno htable
      rw [htable]
      cases b with
      | true => exact absurd rfl hno
      | false => exact hrow

/-- One that does not return leaves it as it was. -/
theorem Turn.Whole.ends {mac : CStr} {s : Station} {t : Turn} (ht : t.Whole mac s)
    {h : Option CarRow} (hrow : RowNames mac s.table h)
    (hrun : ∀ b, (t.run s).1 ≠ .returned b) : RowNames mac (t.run s).2.table h := by
  cases t with
  | boot o => exact absurd (BootWhole.returned ht) (hrun true)
  | card readinfo o =>
    obtain ⟨hret, -⟩ | ⟨-, htable⟩ := Presented.Whole.names ht hrow.length_le
    · exact absurd hret (hrun true)
    · show RowNames mac (cardIteration s readinfo o).2.table h
      rw [htable]
      exact hrow

theorem row_names {mac : CStr} {s : Station} {ts : List Turn} (hts : WholeRun mac s ts)
    {h : Option CarRow} (hrow : RowNames mac s.table h) :
    RowNames mac (stationAfter s ts).table (loggedOn s h ts) := by
  induction ts generalizing s h with
  | nil => exact hrow
  | cons t ts ih =>
    obtain ⟨ht, hrest⟩ := hts
    unfold stationAfter loggedOn
    cases hrun : t.run s with
    | mk x s' =>
      rw [hrun] at hrest
      cases x with
      | returned b => exact ih hrest (ht.names hrow hrun)
      | _ =>
        have hends := ht.ends hrow (fun b hb => by rw [hrun] at hb; cases hb)
        rw [hrun] at hends
        exact hends

/-! The last login. -/

/-- The logins that are accepted in a run. -/
def acceptedLogins (s : Station) (ts : List Turn) : List LoginInsert :=
  (acceptedInserts s ts).filter LoginInsert.isLogin

/-- Those of one turn. -/
def Turn.logins (s : Station) : Turn → List LoginInsert
  | .boot _ => []
  | .card readinfo o => (Presented.accepted ⟨s, readinfo, o⟩).filter LoginInsert.isLogin

theorem acceptedLogins_cons (s : Station) (t : Turn) (ts : List Turn) :
    acceptedLogins s (t :: ts) = t.logins s ++
      match t.run s with
      | (.returned _, s') => acceptedLogins s' ts
      | _ => [] := by
  unfold acceptedLogins acceptedInserts
  cases t with
  | boot o =>
    rw [presented]
    show _ = [] ++ match bootIteration s o with
      | (.returned _, s') => _
      | _ => _
    cases bootIteration s o with
    | mk x s' => cases x <;> rfl
  | card readinfo o =>
    rw [presented, List.flatMap_cons, List.filter_append]
    show _ = Turn.logins s (.card readinfo o) ++ match cardIteration s readinfo o with
      | (.returned _, s') => _
      | _ => _
    cases cardIteration s readinfo o with
    | mk x s' => cases x <;> rfl

/-- The logins accepted with a card: that of the session, if one begins. -/
theorem login_of_begins {p : Presented} (hb : p.begins = true) :
    ∃ m, p.outcomes.machineInfo = some m ∧
      p.accepted.filter LoginInsert.isLogin = [.loginTable m p.car] := by
  have hcount := p.countP_accepted
  rw [List.countP_eq_length_filter, if_pos hb] at hcount
  obtain ⟨i, hi⟩ := List.length_eq_one_iff.mp hcount
  have hmem : i ∈ p.accepted.filter LoginInsert.isLogin := by
    rw [hi]
    exact List.mem_singleton_self i
  obtain ⟨hacc, hlogin⟩ := List.mem_filter.mp hmem
  unfold Presented.accepted at hacc
  split at hacc
  · obtain ⟨-, m, hm, rfl⟩ := Presented.mem_sentInserts.mp hacc
    refine ⟨m, hm, ?_⟩
    rw [hi]
    unfold Presented.insert at hlogin ⊢
    dsimp only at hlogin ⊢
    split at hlogin
    · next hq =>
      rw [if_pos hq]
      rfl
    · cases hlogin
  · cases hacc

theorem no_login_of_not_begins {p : Presented} (hb : p.begins ≠ true) :
    p.accepted.filter LoginInsert.isLogin = [] := by
  have hcount := p.countP_accepted
  rw [List.countP_eq_length_filter, if_neg hb] at hcount
  exact List.length_eq_zero_iff.mp hcount

/-- A turn that does not return true has recorded nobody. -/
theorem Turn.logins_eq_nil {s : Station} {t : Turn} (hrun : (t.run s).1 ≠ .returned true) :
    t.logins s = [] := by
  cases t with
  | boot o => rfl
  | card readinfo o =>
    apply no_login_of_not_begins
    intro hb
    exact hrun (of_decide_eq_true hb)

/-- A whole turn that returns has recorded who is logged on then, or has recorded nobody and
    put nobody there. -/
theorem Turn.Whole.logins {mac : CStr} {s : Station} {t : Turn} (ht : t.Whole mac s)
    {b : Bool} {s' : Station} (hrun : t.run s = (.returned b, s')) (h : Option CarRow) :
    (∃ m r, m.sqlMAC = mac ∧ t.logins s = [.loginTable m r] ∧ t.leaves s b h = some r) ∨
      (t.logins s = [] ∧ (t.leaves s b h = h ∨ t.leaves s b h = none)) := by
  cases t with
  | boot o => exact .inr ⟨rfl, .inr rfl⟩
  | card readinfo o =>
    cases b with
    | true =>
      have hret : (cardIteration s readinfo o).1 = .returned true := congrArg Prod.fst hrun
      have hbegins : Presented.begins ⟨s, readinfo, o⟩ = true := decide_eq_true hret
      obtain ⟨m, hm, hlogin⟩ := login_of_begins hbegins
      exact .inl ⟨m, _, Presented.Whole.mac ht m hm, hlogin, rfl⟩
    | false =>
      have hnone : Turn.logins s (.card readinfo o) = [] :=
        Turn.logins_eq_nil fun htrue => by rw [hrun] at htrue; cases htrue
      exact .inr ⟨hnone, .inl rfl⟩

/-- The session of who is logged on is the last that was recorded, unless it began before
    the run. -/
theorem last_login {mac : CStr} {s : Station} {ts : List Turn} (hts : WholeRun mac s ts)
    {h : Option CarRow} {r : CarRow} (hr : loggedOn s h ts = some r) :
    (∃ m, m.sqlMAC = mac ∧ (acceptedLogins s ts).getLast? = some (.loginTable m r)) ∨
      (h = some r ∧ acceptedLogins s ts = []) := by
  induction ts generalizing s h with
  | nil => exact .inr ⟨hr, rfl⟩
  | cons t ts ih =>
    obtain ⟨ht, hrest⟩ := hts
    unfold loggedOn at hr
    rw [acceptedLogins_cons]
    cases hrun : t.run s with
    | mk x s' =>
      simp only [hrun] at hrest hr
      cases x with
      | returned b =>
        dsimp only
        obtain ⟨m, r', hmac, hlogin, hleaves⟩ | ⟨hnone, hleaves⟩ := ht.logins hrun h
        -- a session begins: it is the last, unless there is a later one
        · rw [hlogin, List.getLast?_append]
          obtain ⟨m', hmac', hlast⟩ | ⟨hr', hnil⟩ := ih hrest hr
          · refine .inl ⟨m', hmac', ?_⟩
            rw [hlast]
            rfl
          · rw [hleaves] at hr'
            obtain rfl := Option.some.inj hr'
            refine .inl ⟨m, hmac, ?_⟩
            rw [hnil]
            rfl
        · rw [hnone, List.nil_append]
          obtain hlast | ⟨hr', hnil⟩ := ih hrest hr
          · exact .inl hlast
          · obtain hleaves | hleaves := hleaves
            · exact .inr ⟨hleaves ▸ hr', hnil⟩
            · rw [hleaves] at hr'
              cases hr'
      | _ =>
        rw [Turn.logins_eq_nil fun hb => by rw [hrun] at hb; cases hb]
        exact .inr ⟨hr, rfl⟩

theorem wholeRun_cons {mac : CStr} {s : Station} {t : Turn} {ts : List Turn} (ht : t.Whole mac s)
    (hrest : ∀ s', WholeRun mac s' ts) : WholeRun mac s (t :: ts) := by
  refine ⟨ht, ?_⟩
  split
  · exact hrest _
  · trivial

/-- Ann logs on after the first turn. -/
def annSession : List Turn :=
  [.boot ⟨some someMachine, true, true⟩,
    .card card ⟨true, .row ann, false, some someMachine, true, true, true⟩]

theorem ann_insert_fits : (loginTableInsert someMachine ann).InsertFits :=
  ⟨(loginTableInsert someMachine ann).text.getD [], (loginTableInsert someMachine ann).text.getD [],
    by decide +kernel, by decide +kernel, by decide +kernel⟩

theorem annSession_whole : WholeRun someMachine.sqlMAC firstStation annSession := by
  refine wholeRun_cons ⟨?_, by decide +kernel⟩ fun _ =>
    wholeRun_cons ⟨?_, rfl, rfl, fun _ => ⟨?_, ?_⟩⟩ fun _ => trivial
  · intro m hm
    rw [← Option.some.inj hm]
  · intro m hm
    rw [← Option.some.inj hm]
  · show ann.getCarNumber.val ≠ []
    decide +kernel
  · intro m hm
    rw [← Option.some.inj hm]
    exact ann_insert_fits

theorem annSession_plain : PlainRun firstStation annSession := by
  unfold PlainRun
  decide +kernel

example : (loggedOn firstStation none annSession).isSome = true := by decide +kernel

end CardLogon
