import CardLogon.PrintUser

/- The settings of the login server: `info_query`, and the copy of them in
   `GetConnectedStatus`.

   `info_query` goes through the rows of the table BehavioralAudit, takes the name of a
   setting from the second column and its value from the third, and keeps the fields of the
   settings that no row names. The table has these columns (`MysqlRow`); a NULL in one is
   read through a null pointer (`none`).

   What is proved: `settings_complete_iff`. When `info_query` returns true, every setting is
   the value of a row of this result set exactly when each of the five names is in it; the
   number of rows is asked for and not looked at. `get_infoRows` says what a setting is
   after the loop: the value of the last row of its name, or what it was before. -/
namespace CardLogon
open CText

/-- A fetched row, of at least three columns; NULL is `none`. -/
abbrev MysqlRow := { columns : List (Option CStr) // 3 ≤ columns.length }

/-- `sqlba_row[i]`; `none` is a null pointer. -/
def column (sqlba_row : MysqlRow) (i : Fin 3) : Option Bytes :=
  (sqlba_row.val.get ⟨i, i.isLt.trans_le sqlba_row.property⟩).map Subtype.val

inductive Setting where
  | BAip
  | BALogoutdDirectory
  | BALogoutT
  | BALOginDirectory
  | BALLoginDt
  deriving DecidableEq

def Setting.name : Setting → Bytes
  | .BAip => lit "BAip"
  | .BALogoutdDirectory => lit "BALogoutdDirectory"
  | .BALogoutT => lit "BALogoutT"
  | .BALOginDirectory => lit "BALOginDirectory"
  | .BALLoginDt => lit "BALLoginDt"

def Audit.get (a : Audit) : Setting → Bytes
  | .BAip => a.BAip
  | .BALogoutdDirectory => a.BALogoutdDirectory
  | .BALogoutT => a.BALogoutT
  | .BALOginDirectory => a.BALOginDirectory
  | .BALLoginDt => a.BALLoginDt

def Audit.put (a : Audit) (v : Bytes) : Setting → Audit
  | .BAip => { a with BAip := v }
  | .BALogoutdDirectory => { a with BALogoutdDirectory := v }
  | .BALogoutT => { a with BALogoutT := v }
  | .BALOginDirectory => { a with BALOginDirectory := v }
  | .BALLoginDt => { a with BALLoginDt := v }

/-- The comparisons of the loop. -/
def settingOf (strTempROW : Bytes) : Option Setting :=
  if strTempROW = lit "BAip" then some .BAip
  else if strTempROW = lit "BALogoutdDirectory" then some .BALogoutdDirectory
  else if strTempROW = lit "BALogoutT" then some .BALogoutT
  else if strTempROW = lit "BALOginDirectory" then some .BALOginDirectory
  else if strTempROW = lit "BALLoginDt" then some .BALLoginDt
  else none

/-- A turn of the loop. -/
def infoRow (a : Audit) (sqlba_row : MysqlRow) : Option Audit :=
  (column sqlba_row 1).bind fun strTempROW =>
    match settingOf strTempROW with
    | none => some a
    | some k => (column sqlba_row 2).map fun v => a.put v k

def infoRows : List MysqlRow → Audit → Option Audit
  | [], a => some a
  | row :: rows, a => (infoRow a row).bind (infoRows rows)

/-- What the query gives: an error, no result set, or its rows. -/
inductive AuditResult where
  | failed
  | noResult
  | fetched (rows : List MysqlRow)

/-- `info_query`, on the fields of the connection object. -/
def infoQuery (mysql : Audit) : AuditResult → Ran Bool × Audit
  | .failed | .noResult => (.returned false, mysql)
  | .fetched rows =>
    match infoRows rows mysql with
    | none => (.undefined, mysql)
    | some mysql' => (.returned true, mysql')

/-- The copy that follows it in `GetConnectedStatus`, and what it returned. -/
def takeSettings (mysql audit : Audit) (q : AuditResult) : Ran Bool × Audit :=
  match infoQuery mysql q with
  | (.returned true, mysql') => (.returned true, mysql')
  | (r, _) => (r, audit)

/-! The loop. -/

theorem settingOf_name (k : Setting) : settingOf k.name = some k := by
  cases k with
  | BAip => rfl
  | BALogoutdDirectory => rfl
  | BALogoutT => rfl
  | BALOginDirectory => rfl
  | BALLoginDt => rfl

theorem name_of_settingOf {n : Bytes} {k : Setting} (h : settingOf n = some k) : n = k.name := by
  unfold settingOf at h
  split_ifs at h with h₁ h₂ h₃ h₄ h₅
  · cases h
    exact h₁
  · cases h
    exact h₂
  · cases h
    exact h₃
  · cases h
    exact h₄
  · cases h
    exact h₅

theorem get_put (a : Audit) (v : Bytes) (k k' : Setting) :
    (a.put v k).get k' = if k' = k then v else a.get k' := by
  cases k <;> cases k' <;> rfl

/-- What a row says about a setting. -/
def valueFor (k : Setting) (row : MysqlRow) : Option Bytes :=
  if column row 1 = some k.name then column row 2 else none

theorem valueFor_eq_some {k : Setting} {row : MysqlRow} {v : Bytes} :
    valueFor k row = some v ↔ column row 1 = some k.name ∧ column row 2 = some v := by
  unfold valueFor
  split
  · next h => simp [h]
  · next h => simp [h]

/-- The loop can read the row: it has a name, and a value if the name is of a setting. -/
def Readable (row : MysqlRow) : Prop :=
  ∃ n, column row 1 = some n ∧ (settingOf n ≠ none → column row 2 ≠ none)

theorem infoRow_ne_none_iff (a : Audit) (row : MysqlRow) : infoRow a row ≠ none ↔ Readable row := by
  unfold infoRow Readable
  cases column row 1 with
  | none => simp
  | some n =>
    simp only [Option.bind_some, Option.some.injEq, exists_eq_left']
    cases settingOf n with
    | none => simp
    | some k => simp

/-- A row that is read sets the setting of its name, and no other. -/
theorem get_infoRow {a a' : Audit} {row : MysqlRow} (h : infoRow a row = some a') (k : Setting) :
    a'.get k = (valueFor k row).getD (a.get k) ∧
      (column row 1 = some k.name → (valueFor k row).isSome = true) := by
  unfold infoRow at h
  obtain ⟨n, hn, h⟩ := Option.bind_eq_some_iff.mp h
  simp only [valueFor, hn, Option.some.injEq]
  cases hs : settingOf n with
  | none =>
    rw [hs] at h
    obtain rfl := Option.some.inj h
    have hne : n ≠ k.name := by
      rintro rfl
      rw [settingOf_name] at hs
      cases hs
    rw [if_neg hne]
    exact ⟨rfl, fun hk => absurd hk hne⟩
  | some k' =>
    rw [hs] at h
    obtain ⟨v, hv, rfl⟩ := Option.map_eq_some_iff.mp h
    obtain rfl := name_of_settingOf hs
    rw [get_put]
    by_cases hk : k = k'
    · subst hk
      rw [if_pos rfl, if_pos rfl, hv]
      exact ⟨rfl, fun _ => rfl⟩
    · have hne : k'.name ≠ k.name := by
        intro he
        have hk' := settingOf_name k
        rw [← he, settingOf_name] at hk'
        exact hk (Option.some.inj hk').symm
      rw [if_neg hk, if_neg hne]
      exact ⟨rfl, fun he => absurd he hne⟩

theorem infoRows_ne_none_iff (rows : List MysqlRow) (a : Audit) :
    infoRows rows a ≠ none ↔ ∀ row ∈ rows, Readable row := by
  induction rows generalizing a with
  | nil => simp [infoRows]
  | cons row rows ih =>
    rw [List.forall_mem_cons, ← infoRow_ne_none_iff a]
    unfold infoRows
    cases infoRow a row with
    | none => simp
    | some a' => simp [ih a']

/-- After the loop a setting is the value of the last row of its name, or what it was. -/
theorem get_infoRows {rows : List MysqlRow} {a a' : Audit} (h : infoRows rows a = some a')
    (k : Setting) : a'.get k = ((rows.filterMap (valueFor k)).getLast?).getD (a.get k) := by
  induction rows generalizing a with
  | nil =>
    obtain rfl := Option.some.inj h
    rfl
  | cons row rows ih =>
    obtain ⟨a₁, h₁, h₂⟩ := Option.bind_eq_some_iff.mp h
    have hrow := (get_infoRow h₁ k).1
    rw [ih h₂, hrow, List.filterMap_cons]
    cases valueFor k row with
    | none => rfl
    | some v =>
      dsimp only
      rw [List.getLast?_cons]
      rfl

/-- A row of this name has a value, when the loop got through. -/
theorem valueFor_mem {rows : List MysqlRow} {a a' : Audit} (h : infoRows rows a = some a')
    {k : Setting} {row : MysqlRow} (hrow : row ∈ rows) (hname : column row 1 = some k.name) :
    rows.filterMap (valueFor k) ≠ [] := by
  have hread := (infoRows_ne_none_iff rows a).mp (by rw [h]; exact Option.some_ne_none a') row hrow
  rw [← infoRow_ne_none_iff .empty] at hread
  obtain ⟨a₁, h₁⟩ := Option.ne_none_iff_exists'.mp hread
  obtain ⟨v, hv⟩ := Option.isSome_iff_exists.mp ((get_infoRow h₁ k).2 hname)
  exact List.ne_nil_of_mem (List.mem_filterMap.mpr ⟨row, hrow, hv⟩)

/-! What success means. -/

/-- The rows of the result set. -/
def AuditResult.rows : AuditResult → List MysqlRow
  | .failed | .noResult => []
  | .fetched rows => rows

/-- When the query is reported as a success, every setting that the requests are built from
    is the value of a row of its name. -/
def SuccessIsComplete (mysql audit : Audit) (q : AuditResult) : Prop :=
  (takeSettings mysql audit q).1 = .returned true → ∀ k : Setting, ∃ row ∈ q.rows,
    column row 1 = some k.name ∧ column row 2 = some ((takeSettings mysql audit q).2.get k)

/-- It is a success when there is a result set and the loop gets through it. -/
theorem takeSettings_cases (mysql audit : Audit) (q : AuditResult) :
    (∃ rows mysql', q = .fetched rows ∧ infoRows rows mysql = some mysql' ∧
      takeSettings mysql audit q = (.returned true, mysql')) ∨
    ((∀ rows, q = .fetched rows → infoRows rows mysql = none) ∧
      (takeSettings mysql audit q).1 ≠ .returned true ∧
      (takeSettings mysql audit q).2 = audit) := by
  cases q with
  | failed =>
    right
    simp [takeSettings, infoQuery]
  | noResult =>
    right
    simp [takeSettings, infoQuery]
  | fetched rows =>
    cases hloop : infoRows rows mysql with
    | none =>
      right
      simp [takeSettings, infoQuery, hloop]
    | some mysql' =>
      left
      exact ⟨rows, mysql', rfl, hloop, by simp [takeSettings, infoQuery, hloop]⟩

/-- So it is exactly when the result set, if there is one and the loop gets through it, has
    all five names. -/
theorem settings_complete_iff (mysql audit : Audit) (q : AuditResult) :
    SuccessIsComplete mysql audit q ↔
      ∀ rows, q = .fetched rows → (∀ row ∈ rows, Readable row) →
        ∀ k : Setting, ∃ row ∈ rows, column row 1 = some k.name := by
  unfold SuccessIsComplete
  obtain ⟨rows, mysql', rfl, hloop, htake⟩ | ⟨hno, hret, -⟩ := takeSettings_cases mysql audit q
  · have hread := (infoRows_ne_none_iff rows mysql).mp (by rw [hloop]; exact Option.some_ne_none _)
    rw [htake]
    constructor
    · rintro h _ ⟨⟩ _ k
      obtain ⟨row, hrow, hname, -⟩ := h rfl k
      exact ⟨row, hrow, hname⟩
    · intro h _ k
      obtain ⟨row, hrow, hname⟩ := h rows rfl hread k
      -- the last row of the name is the one that counts
      have hne := valueFor_mem hloop hrow hname
      have hlast := get_infoRows hloop k
      rw [List.getLast?_eq_some_getLast hne, Option.getD_some] at hlast
      obtain ⟨row', hrow', hv⟩ := List.mem_filterMap.mp (List.getLast_mem hne)
      obtain ⟨hname', hval⟩ := valueFor_eq_some.mp hv
      exact ⟨row', hrow', hname', by rw [hlast, hval]⟩
  · constructor
    · intro _ rows hq hread
      exact absurd (hno rows hq) ((infoRows_ne_none_iff rows mysql).mpr hread)
    · intro _ h
      exact absurd h hret

/-- The table without the template, and what an earlier card left. -/
def oneSetting : AuditResult :=
  .fetched [⟨[some ⟨lit "1", by decide⟩, some ⟨lit "BAip", by decide⟩,
    some ⟨lit "10.0.0.9", by decide⟩], by decide⟩]

def earlier : Audit := ⟨lit "10.0.0.1", lit "/out", lit "7", lit "/in", lit "u=%s&p=%s&q=%s"⟩

/-- The old template is used with the new address. -/
theorem old_template_stays : ¬ ∀ mysql audit q, SuccessIsComplete mysql audit q := by
  intro hall
  obtain ⟨row, hrow, hname, -⟩ := hall earlier earlier oneSetting rfl .BALLoginDt
  obtain rfl := List.mem_singleton.mp hrow
  revert hname
  decide +kernel

/-! The logon thread of the terminal makes the same query. -/

/-- What the two calls of the query give the thread. -/
def queryAnswer (ok : Bool) (audit : Audit) : Answer := ⟨ok, false, [], 0, audit, .failed⟩

/-- The five copies of `GetConnectedStatus`, one after the other. -/
theorem copy_all (mysql audit : Audit) :
    Audit.copy 4 mysql (Audit.copy 3 mysql (Audit.copy 2 mysql
      (Audit.copy 1 mysql (Audit.copy 0 mysql audit)))) = mysql := rfl

/-- The thread takes the settings that `takeSettings` gives. -/
theorem takeSettings_terminal {s : State} {p : Phase} (h : s.logon = .info p) {q : AuditResult}
    {ok : Bool} (hret : (takeSettings s.mysqlAudit s.audit q).1 = .returned ok) :
    ∃ as, (logonRun s as).isOK = ok ∧
      (logonRun s as).audit = (takeSettings s.mysqlAudit s.audit q).2 := by
  generalize htake : takeSettings s.mysqlAudit s.audit q = r at hret
  obtain ⟨rows, mysql', -, -, hr⟩ | ⟨-, hno, hr⟩ := takeSettings_cases s.mysqlAudit s.audit q
  · rw [htake] at hr
    subst hr
    obtain rfl : true = ok := Ran.returned.inj hret
    refine ⟨List.replicate 7 (queryAnswer true mysql'), ?_⟩
    simp [List.replicate, logonRun, logonStep, h, queryAnswer, copy_all]
  · rw [htake] at hno hr
    have hok : ok = false := by
      cases ok with
      | true => exact absurd hret hno
      | false => rfl
    subst hok
    refine ⟨[queryAnswer false .empty], ?_⟩
    rw [hr]
    cases s
    cases h
    exact ⟨rfl, rfl⟩

end CardLogon
