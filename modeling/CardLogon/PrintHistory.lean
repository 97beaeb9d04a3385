import CardLogon.MachineLine
import CardLogon.PrintUser
import CardLogon.SqlExec
import Mathlib.Data.List.Forall2

/- The PrintUser table on the server, under the calls of `user_Print` of any machines.

   `userPrintSent` is `user_Print` with the texts it sends: the machine line is cut by
   `strtok`, the select and the write are printed into their buffers, and the server reads
   each text and does what it says (`SqlExec`). Which strings the server takes for the
   same, and what an insert leaves in the columns that it does not name, may be anything;
   the selects succeed.

   What is proved:
     1. `userPrintSent_rows`. On rows with the columns of `PrintRow` this is `userPrint`:
        the statements do to the table what `PrintWrite.exec` says.
     2. `print_history`. Whatever the machines call and whichever writes fail, the table
        keeps at most one row for each MAC, and a call writes the row of its own MAC or
        nothing. -/
namespace CardLogon
open CText SqlLex SqlExec

/-! The statements of the formats. -/

def printUserTable : Bytes := lit "PrintUser"

namespace PrintColumn

def machineName : Bytes := lit "MachineName"
def machineMAC : Bytes := lit "MachineMAC"
def machineIP : Bytes := lit "MachineIP"
def carNumber : Bytes := lit "CarNumber"
def printUserNickName : Bytes := lit "PrintUserNickName"
def printUserName : Bytes := lit "PrintUserName"
def puTime : Bytes := lit "PuTime"
def printMark : Bytes := lit "PrintMark"

end PrintColumn

open PrintColumn

theorem select_shape : formatStatement userPrintSelectFormat =
    some (.select printUserTable (machineMAC, 0)) := by
  decide +kernel

/-- The statements of the formats, with numbers for the fields. -/
def PrintWrite.shape : PrintWrite → Statement Nat
  | .updateOff _ => .update printUserTable [(puTime, 0), (printMark, 1)] (machineMAC, 2)
  | .updateOn _ _ => .update printUserTable [(machineName, 0), (machineIP, 1), (carNumber, 2),
      (printUserNickName, 3), (printUserName, 4), (puTime, 5), (printMark, 6)] (machineMAC, 7)
  | .insertOff _ => .insert printUserTable [machineName, machineMAC, machineIP, puTime, printMark]
      [0, 1, 2, 3, 4]
  | .insertOn _ _ => .insert printUserTable [machineName, machineMAC, machineIP, carNumber,
      printUserNickName, printUserName, puTime, printMark] [0, 1, 2, 3, 4, 5, 6, 7]

theorem shape_eq (w : PrintWrite) : formatStatement w.sql.format = some w.shape := by
  cases w with
  | updateOff m =>
    dsimp only [PrintWrite.sql, userPrintUpdateOff, PrintWrite.shape]
    decide +kernel
  | updateOn m r =>
    dsimp only [PrintWrite.sql, userPrintUpdateOn, PrintWrite.shape]
    decide +kernel
  | insertOff m =>
    dsimp only [PrintWrite.sql, userPrintInsertOff, PrintWrite.shape]
    decide +kernel
  | insertOn m r =>
    dsimp only [PrintWrite.sql, userPrintInsertOn, PrintWrite.shape]
    decide +kernel

/-- The select of a machine. -/
def selectStatement (m : MachineInfo) : Statement Bytes :=
  .select printUserTable (machineMAC, m.sqlMAC.val)

/-- What the `set` of an update assigns, and what the columns of an insert get. -/
def PrintWrite.sets : PrintWrite → List (Bytes × Bytes)
  | .updateOff m => [(puTime, m.sqlTime.val), (printMark, off.val)]
  | .updateOn m r => [(machineName, m.sqlMachineName.val), (machineIP, m.sqlIP.val),
      (carNumber, r.getCarNumber.val), (printUserNickName, r.getNickNume.val),
      (printUserName, r.getUserNames.val), (puTime, m.sqlTime.val), (printMark, on.val)]
  | .insertOff m => [(machineName, m.sqlMachineName.val), (machineMAC, m.sqlMAC.val),
      (machineIP, m.sqlIP.val), (puTime, m.sqlTime.val), (printMark, off.val)]
  | .insertOn m r => [(machineName, m.sqlMachineName.val), (machineMAC, m.sqlMAC.val),
      (machineIP, m.sqlIP.val), (carNumber, r.getCarNumber.val),
      (printUserNickName, r.getNickNume.val), (printUserName, r.getUserNames.val),
      (puTime, m.sqlTime.val), (printMark, on.val)]

/-- The statement of a write. -/
def PrintWrite.statement (w : PrintWrite) : Statement Bytes :=
  match w with
  | .updateOff m | .updateOn m _ => .update printUserTable w.sets (machineMAC, m.sqlMAC.val)
  | .insertOff _ | .insertOn _ _ =>
    .insert printUserTable (w.sets.map Prod.fst) (w.sets.map Prod.snd)

/-- It is the statement of the format with the fields. -/
theorem shape_fields (w : PrintWrite) :
    (w.shape.map fun i => w.sql.fields.getD i []) = w.statement := by
  cases w with
  | updateOff m => rfl
  | updateOn m r => rfl
  | insertOff m => rfl
  | insertOn m r => rfl

/-- No quote of either kind and no backslash. -/
def Unquoted (s : CStr) : Prop := (34 : UInt8) ∉ s.val ∧ (39 : UInt8) ∉ s.val ∧ (92 : UInt8) ∉ s.val

theorem Unquoted.clean {s : CStr} (h : Unquoted s) {q : UInt8} (hq : isQuote q = true) :
    Clean q s.val := by
  obtain ⟨h34, h39, h92⟩ := h
  unfold isQuote at hq
  rw [Bool.or_eq_true, decide_eq_true_eq, decide_eq_true_eq] at hq
  obtain rfl | rfl := hq
  · exact clean_of_no_backslash h34 h92
  · exact clean_of_no_backslash h39 h92

/-- The server reads the statement of the format, with the arguments in their places. -/
theorem readText_built {s : Sql} (hs : Built s) {text : Bytes} (htext : s.text = some text)
    (hargs : ∀ a ∈ s.args, Unquoted a) {shape : Statement Nat}
    (hshape : formatStatement s.format = some shape) :
    readText text = some (shape.map fun i => s.fields.getD i []) := by
  have hclean : FieldsClean s := by
    intro p hp
    obtain ⟨hq, hf⟩ := List.of_mem_zip hp
    obtain ⟨a, ha, hval⟩ := List.mem_map.mp hf
    rw [← hval]
    have hok := (formats_ok _ (built_format hs)).1
    exact (hargs a ha).clean (isQuote_of_formatOk hok p.1 hq)
  obtain ⟨hlen, ts, hlex, hfill⟩ := (built_lexes_iff hs htext).mpr hclean
  apply read_fill hshape hlex _ hfill
  rw [hlen, Sql.fields, List.length_map]

/-- The fields of a machine and of a card. -/
def MachineInfo.Unquoted (m : MachineInfo) : Prop :=
  CardLogon.Unquoted m.sqlTime ∧ CardLogon.Unquoted m.sqlMachineName ∧
    CardLogon.Unquoted m.sqlIP ∧ CardLogon.Unquoted m.sqlMAC

def CarRow.Unquoted (r : CarRow) : Prop :=
  CardLogon.Unquoted r.getCarNumber ∧ CardLogon.Unquoted r.getUserNames ∧
    CardLogon.Unquoted r.getNickNume

section
variable {m : MachineInfo} {r : CarRow} (hm : m.Unquoted) (hr : r.Unquoted) {text : Bytes}
include hm

theorem readText_select (htext : (userPrintSelect m).text = some text) :
    readText text = some (selectStatement m) := by
  have hargs : ∀ a ∈ (userPrintSelect m).args, Unquoted a := by
    intro a ha
    obtain rfl := List.mem_singleton.mp ha
    exact hm.2.2.2
  have hshape : formatStatement (userPrintSelect m).format =
      some (.select printUserTable (machineMAC, 0)) := by
    dsimp only [userPrintSelect]
    exact select_shape
  rw [readText_built (.userPrintSelect m) htext hargs hshape]
  rfl

include hr

theorem unquoted_args (oneRow : Bool) : ∀ a ∈ (userPrintWrite oneRow m r).args, Unquoted a := by
  obtain ⟨htime, hname, hip, hmac⟩ := hm
  obtain ⟨hcar, huser, hnick⟩ := hr
  have hoff : Unquoted off := by
    unfold Unquoted
    decide
  have hon : Unquoted on := by
    unfold Unquoted
    decide
  rcases userPrintWrite_cases oneRow m r with h | h | h | h
  · rw [h]
    simp [userPrintUpdateOff, htime, hoff, hmac]
  · rw [h]
    simp [userPrintUpdateOn, htime, hname, hip, hmac, hcar, huser, hnick, hon]
  · rw [h]
    simp [userPrintInsertOff, htime, hname, hip, hmac, hoff]
  · rw [h]
    simp [userPrintInsertOn, htime, hname, hip, hmac, hcar, huser, hnick, hon]

theorem readText_write (oneRow : Bool) (htext : (userPrintWrite oneRow m r).text = some text) :
    readText text = some (printWrite oneRow m r).statement := by
  have hshape := shape_eq (printWrite oneRow m r)
  rw [printWrite_sql] at hshape
  rw [readText_built (.userPrintWrite oneRow m r) htext (unquoted_args hm hr oneRow) hshape,
    ← printWrite_sql, shape_fields]

end

/-! `user_Print` and the server. -/

section
variable (col : Collation)

/-- `user_Print` of a machine line, and what the server does with its texts. The select
    succeeds, the write does when `write` says so; an insert gives the columns that it does
    not name what `defaults` says. -/
def userPrintSent (defaults : Record) (strGetMachineInfo : CStr) (car : CarRow) (write : Bool)
    (t : Records) : Ran Bool × Records :=
  if strGetMachineInfo.val.length < 250 then
    match machineTokens strGetMachineInfo with
    -- a null pointer is printed
    | none => (.undefined, t)
    | some (m, _) =>
      match (userPrintSelect m).text with
      | none => (.stopped, t)
      | some select_user =>
        match (readText select_user).bind fun s => s.rows col printUserTable t with
        -- the text is not a select of this table
        | none => (.undefined, t)
        | some result =>
          match (userPrintWrite (decide (result.length = 1)) m car).text with
          | none => (.stopped, t)
          | some select_user =>
            match (readText select_user).bind fun s => s.exec col printUserTable defaults t with
            | none => (.returned false, t)
            | some t' => if write then (.returned true, t') else (.returned false, t)
  else (.stopped, t)

/-- A call: the machine's fields, the fields of its connection object, and what the server
    does with the write. -/
structure PrintCall where
  machine : MachineInfo
  car : CarRow
  write : Bool
  defaults : Record

/-- The fields are not empty and have no `^`, and nothing has a quote or a backslash. -/
structure PrintCall.Proper (c : PrintCall) : Prop where
  sqlTime : c.machine.sqlTime.val ≠ [] ∧ (94 : UInt8) ∉ c.machine.sqlTime.val
  sqlMachineName : c.machine.sqlMachineName.val ≠ [] ∧ (94 : UInt8) ∉ c.machine.sqlMachineName.val
  sqlIP : c.machine.sqlIP.val ≠ [] ∧ (94 : UInt8) ∉ c.machine.sqlIP.val
  sqlMAC : c.machine.sqlMAC.val ≠ [] ∧ (94 : UInt8) ∉ c.machine.sqlMAC.val
  machine : c.machine.Unquoted
  car : c.car.Unquoted

/-- The texts fit their buffers. -/
structure PrintCall.Fits (c : PrintCall) : Prop where
  line : (joinFields c.machine).length < 250
  select : (userPrintSelect c.machine).text.isSome
  write : ∀ oneRow, (userPrintWrite oneRow c.machine c.car).text.isSome

def PrintCall.run (c : PrintCall) (t : Records) : Ran Bool × Records :=
  userPrintSent col c.defaults ⟨joinFields c.machine, nul_notMem_joinFields c.machine⟩ c.car
    c.write t

/-- The column and the value that a call looks for. -/
def PrintCall.key (c : PrintCall) : Bytes × Bytes := (machineMAC, c.machine.sqlMAC.val)

/-- What its row is to say. -/
def PrintCall.Says (c : PrintCall) (row : Record) : Prop :=
  if c.car.getCarNumber.val = [] then row printMark = some off.val
  else row printMark = some on.val ∧ row carNumber = some c.car.getCarNumber.val ∧
    row printUserNickName = some c.car.getNickNume.val ∧
    row printUserName = some c.car.getUserNames.val

/-- The table after the calls, one after the other. -/
def history (t : Records) (calls : List PrintCall) : Records :=
  calls.foldl (fun t c => (c.run col t).2) t

/-- The write a call chooses. -/
def PrintCall.chosen (c : PrintCall) (t : Records) : PrintWrite :=
  printWrite (decide ((withKey col c.key t).length = 1)) c.machine c.car

/-- What a write does to the rows. -/
def PrintWrite.onRows (defaults : Record) (t : Records) (w : PrintWrite) : Records :=
  match w with
  | .updateOff m | .updateOn m _ => updateRows col w.sets (machineMAC, m.sqlMAC.val) t
  | .insertOff _ | .insertOn _ _ => t ++ [Record.setAll defaults w.sets]

theorem exec_statement (defaults : Record) (t : Records) (w : PrintWrite) :
    w.statement.exec col printUserTable defaults t = some (w.onRows col defaults t) := by
  cases w with
  | updateOff m => simp [PrintWrite.statement, Statement.exec, PrintWrite.onRows]
  | updateOn m r => simp [PrintWrite.statement, Statement.exec, PrintWrite.onRows]
  | insertOff m => simp [PrintWrite.statement, Statement.exec, PrintWrite.onRows, PrintWrite.sets]
  | insertOn m r => simp [PrintWrite.statement, Statement.exec, PrintWrite.onRows, PrintWrite.sets]

/-- No column is set twice. -/
theorem sets_nodup (w : PrintWrite) : (w.sets.map Prod.fst).Nodup := by
  cases w with
  | updateOff m =>
    show [puTime, printMark].Nodup
    decide +kernel
  | updateOn m r =>
    show [machineName, machineIP, carNumber, printUserNickName, printUserName, puTime,
      printMark].Nodup
    decide +kernel
  | insertOff m =>
    show [machineName, machineMAC, machineIP, puTime, printMark].Nodup
    decide +kernel
  | insertOn m r =>
    show [machineName, machineMAC, machineIP, carNumber, printUserNickName, printUserName, puTime,
      printMark].Nodup
    decide +kernel

theorem sets_get (w : PrintWrite) (row : Record) {c v : Bytes} (h : (c, v) ∈ w.sets) :
    Record.setAll row w.sets c = some v :=
  Record.setAll_of_mem w.sets row (sets_nodup w) h

/-- The row says what it is to say after any write that the call may choose. -/
theorem says_setAll (c : PrintCall) (oneRow : Bool) (row : Record) :
    c.Says (Record.setAll row (printWrite oneRow c.machine c.car).sets) := by
  unfold PrintCall.Says printWrite
  split
  · cases oneRow with
    | true => exact sets_get (.updateOff c.machine) row (by simp [PrintWrite.sets])
    | false => exact sets_get (.insertOff c.machine) row (by simp [PrintWrite.sets])
  · cases oneRow with
    | true =>
      let w := PrintWrite.updateOn c.machine c.car
      refine ⟨sets_get w row ?_, sets_get w row ?_, sets_get w row ?_, sets_get w row ?_⟩
      all_goals simp [w, PrintWrite.sets]
    | false =>
      let w := PrintWrite.insertOn c.machine c.car
      refine ⟨sets_get w row ?_, sets_get w row ?_, sets_get w row ?_, sets_get w row ?_⟩
      all_goals simp [w, PrintWrite.sets]

/-- The updates do not set the MAC. -/
theorem updateOff_keeps_mac (m : MachineInfo) :
    machineMAC ∉ (PrintWrite.updateOff m).sets.map Prod.fst := by
  show machineMAC ∉ [puTime, printMark]
  decide +kernel

theorem updateOn_keeps_mac (m : MachineInfo) (r : CarRow) :
    machineMAC ∉ (PrintWrite.updateOn m r).sets.map Prod.fst := by
  show machineMAC ∉ [machineName, machineIP, carNumber, printUserNickName, printUserName, puTime,
    printMark]
  decide +kernel

theorem update_keeps_mac {m : MachineInfo} {r : CarRow} :
    machineMAC ∉ (printWrite true m r).sets.map Prod.fst := by
  unfold printWrite
  rw [if_pos rfl]
  split
  · exact updateOff_keeps_mac m
  · exact updateOn_keeps_mac m r

/-- The inserts set it to the machine's. -/
theorem insert_sets_mac {m : MachineInfo} {r : CarRow} :
    (machineMAC, m.sqlMAC.val) ∈ (printWrite false m r).sets := by
  unfold printWrite
  rw [if_neg Bool.false_ne_true]
  split
  · simp [PrintWrite.sets]
  · simp [PrintWrite.sets]

/-- The write that `user_Print` chooses writes the row of its MAC. -/
theorem chosen_written (c : PrintCall) {t : Records} (ht : KeyUnique col machineMAC t) :
    RowWritten col c.key c.Says t ((c.chosen col t).onRows col c.defaults t) := by
  unfold PrintCall.chosen
  by_cases hone : (withKey col c.key t).length = 1
  · rw [decide_eq_true hone]
    have hrows : (printWrite true c.machine c.car).onRows col c.defaults t =
        updateRows col (printWrite true c.machine c.car).sets c.key t := by
      unfold printWrite
      rw [if_pos rfl]
      split
      · rfl
      · rfl
    rw [hrows]
    exact RowWritten.of_update ht hone update_keeps_mac (says_setAll c true)
  · rw [decide_eq_false hone]
    have hrows : (printWrite false c.machine c.car).onRows col c.defaults t =
        t ++ [Record.setAll c.defaults (printWrite false c.machine c.car).sets] := by
      unfold printWrite
      rw [if_neg Bool.false_ne_true]
      split
      · rfl
      · rfl
    rw [hrows]
    exact RowWritten.of_insert ht hone (sets_get _ _ insert_sets_mac) (says_setAll c false c.defaults)

/-- A call is a select that counts the rows of its MAC, and the write it chooses then. -/
theorem run_eq {c : PrintCall} (hc : c.Proper) (hline : (joinFields c.machine).length < 250)
    (t : Records) : c.run col t =
      if (userPrintSelect c.machine).text.isSome ∧ (c.chosen col t).sql.text.isSome then
        (.returned c.write, if c.write then (c.chosen col t).onRows col c.defaults t else t)
      else (.stopped, t) := by
  have htok := machineTokens_joinFields c.machine hc.sqlTime hc.sqlMachineName hc.sqlIP hc.sqlMAC
  have hrows : (selectStatement c.machine).rows col printUserTable t = some (withKey col c.key t) := by
    simp [selectStatement, Statement.rows, PrintCall.key]
  unfold PrintCall.run userPrintSent
  rw [if_pos hline, htok]
  dsimp only
  cases hsel : (userPrintSelect c.machine).text with
  | none => rfl
  | some select_user =>
    dsimp only
    rw [readText_select hc.machine hsel, Option.bind_some, hrows]
    dsimp only
    rw [← printWrite_sql]
    show (match (c.chosen col t).sql.text with | none => _ | some select_user => _) = _
    cases hw : (c.chosen col t).sql.text with
    | none => rfl
    | some text =>
      unfold PrintCall.chosen at hw
      rw [printWrite_sql] at hw
      dsimp only
      rw [readText_write hc.machine hc.car _ hw, Option.bind_some, exec_statement]
      cases c.write with
      | true => rfl
      | false => rfl

/-- What a call is to do to a table; `r` is how it ends, and the table then. -/
structure PrintCall.WritesItsRow (c : PrintCall) (t : Records) (r : Ran Bool × Records) : Prop where
  defined : r.1 ≠ .undefined
  returned : c.Fits → r.1 = .returned c.write
  written : r.1 = .returned true → ∃ row, withKey col c.key r.2 = [row] ∧ c.Says row
  others : withoutKey col c.key r.2 = withoutKey col c.key t
  failed : r.1 ≠ .returned true → r.2 = t

section
variable {col} {c : PrintCall} {t : Records}

theorem PrintCall.WritesItsRow.of_stopped (hfits : ¬ c.Fits) :
    c.WritesItsRow col t (.stopped, t) where
  defined h := by cases h
  returned h := absurd h hfits
  written h := by cases h
  others := rfl
  failed _ := rfl

theorem PrintCall.WritesItsRow.of_failed (hw : c.write = false) :
    c.WritesItsRow col t (.returned false, t) where
  defined h := by cases h
  returned _ := by rw [hw]
  written h := by cases h
  others := rfl
  failed _ := rfl

theorem PrintCall.WritesItsRow.of_written (hw : c.write = true) {t' : Records}
    (h : RowWritten col c.key c.Says t t') : c.WritesItsRow col t (.returned true, t') where
  defined h := by cases h
  returned _ := by rw [hw]
  written _ := h.one
  others := h.others
  failed h := absurd rfl h

/-- A call of a table with at most one row for each MAC. -/
theorem PrintCall.step (hc : c.Proper) (ht : KeyUnique col machineMAC t) :
    KeyUnique col machineMAC (c.run col t).2 ∧ c.WritesItsRow col t (c.run col t) := by
  by_cases hline : (joinFields c.machine).length < 250
  · rw [run_eq col hc hline t]
    split
    · cases hw : c.write with
      | true =>
        have hrow := chosen_written col c ht
        exact ⟨hrow.unique, .of_written hw hrow⟩
      | false => exact ⟨ht, .of_failed hw⟩
    · next hno =>
      refine ⟨ht, .of_stopped ?_⟩
      intro hf
      apply hno
      refine ⟨hf.select, ?_⟩
      unfold PrintCall.chosen
      rw [printWrite_sql]
      exact hf.write _
  · have hrun : c.run col t = (.stopped, t) := if_neg hline
    rw [hrun]
    exact ⟨ht, .of_stopped fun hf => hline hf.line⟩

theorem history_unique {calls : List PrintCall} (hcalls : ∀ c ∈ calls, c.Proper)
    (ht : KeyUnique col machineMAC t) : KeyUnique col machineMAC (history col t calls) := by
  induction calls generalizing t with
  | nil => exact ht
  | cons c calls ih =>
    apply ih
    · exact fun c' hc' => hcalls c' (List.mem_cons_of_mem c hc')
    · exact (PrintCall.step (hcalls c List.mem_cons_self) ht).1

end

/-- Under any calls the table keeps at most one row for each MAC, and every call of them
    writes the row of its MAC or nothing. -/
theorem print_history (t : Records) (ht : KeyUnique col machineMAC t) (calls : List PrintCall)
    (hcalls : ∀ c ∈ calls, c.Proper) :
    KeyUnique col machineMAC (history col t calls) ∧
      ∀ pre c post, calls = pre ++ c :: post →
        c.WritesItsRow col (history col t pre) (c.run col (history col t pre)) := by
  refine ⟨history_unique hcalls ht, ?_⟩
  rintro pre c post rfl
  have hpre : KeyUnique col machineMAC (history col t pre) :=
    history_unique (fun c' hc' => hcalls c' (List.mem_append_left _ hc')) ht
  exact (PrintCall.step (hcalls c (by simp)) hpre).2

end

/-- A machine that a card logs on at, and then nobody. -/
def someCalls : List PrintCall :=
  [⟨someMachine, ann, true, fun _ => none⟩,
    ⟨someMachine, ⟨emptyCStr, emptyCStr, emptyCStr⟩, true, fun _ => none⟩]

theorem some_calls_history :
    KeyUnique .binary machineMAC (history .binary [] someCalls) ∧
      ∀ pre c post, someCalls = pre ++ c :: post →
        c.WritesItsRow .binary (history .binary [] pre) (c.run .binary (history .binary [] pre)) :=
  print_history .binary [] (fun _ => Nat.zero_le 1) someCalls (by
    have hmachine : someMachine.Unquoted := by
      unfold MachineInfo.Unquoted Unquoted
      decide
    intro c hc
    rcases List.mem_pair.mp hc with rfl | rfl
    · refine ⟨by decide, by decide, by decide, by decide, hmachine, ?_⟩
      unfold CarRow.Unquoted Unquoted
      decide
    · refine ⟨by decide, by decide, by decide, by decide, hmachine, ?_⟩
      unfold CarRow.Unquoted Unquoted
      decide)

/-! The rows of the model. -/

/-- The row has what `PrintRow` says in the columns that the statements name. -/
structure PrintRow.Shown (row : PrintRow) (rec : Record) : Prop where
  machineName : rec PrintColumn.machineName = some row.machineName.val
  machineMAC : rec PrintColumn.machineMAC = some row.machineMAC.val
  machineIP : rec PrintColumn.machineIP = some row.machineIP.val
  carNumber : rec PrintColumn.carNumber = row.carNumber.map Subtype.val
  printUserNickName : rec PrintColumn.printUserNickName = row.printUserNickName.map Subtype.val
  printUserName : rec PrintColumn.printUserName = row.printUserName.map Subtype.val
  puTime : rec PrintColumn.puTime = some row.puTime.val
  printMark : rec PrintColumn.printMark = some row.printMark.val

/-- So has every row of the table. -/
abbrev Shows (t : PrintUser) (recs : Records) : Prop := List.Forall₂ PrintRow.Shown t recs

theorem insertOff_keeps {c : Bytes} (hc : c ∉ [PrintColumn.machineName, PrintColumn.machineMAC,
    PrintColumn.machineIP, puTime, printMark]) (m : MachineInfo) (rec : Record) :
    Record.setAll rec (PrintWrite.insertOff m).sets c = rec c :=
  Record.setAll_of_notMem _ rec hc

theorem updateOff_keeps {c : Bytes} (hc : c ∉ [puTime, printMark]) (m : MachineInfo) (rec : Record) :
    Record.setAll rec (PrintWrite.updateOff m).sets c = rec c :=
  Record.setAll_of_notMem _ rec hc

section
variable {row : PrintRow} {rec : Record} (h : row.Shown rec) (m : MachineInfo) (r : CarRow)

include h in
theorem shown_setOff : (row.setOff m).Shown (Record.setAll rec (PrintWrite.updateOff m).sets) where
  machineName := (updateOff_keeps (by decide +kernel) m rec).trans h.machineName
  machineMAC := (updateOff_keeps (by decide +kernel) m rec).trans h.machineMAC
  machineIP := (updateOff_keeps (by decide +kernel) m rec).trans h.machineIP
  carNumber := (updateOff_keeps (by decide +kernel) m rec).trans h.carNumber
  printUserNickName := (updateOff_keeps (by decide +kernel) m rec).trans h.printUserNickName
  printUserName := (updateOff_keeps (by decide +kernel) m rec).trans h.printUserName
  puTime := sets_get (.updateOff m) rec (by simp [PrintWrite.sets, PrintRow.setOff])
  printMark := sets_get (.updateOff m) rec (by simp [PrintWrite.sets, PrintRow.setOff])

include h in
theorem shown_setOn : (row.setOn m r).Shown (Record.setAll rec (PrintWrite.updateOn m r).sets) where
  machineName := sets_get (.updateOn m r) rec (by simp [PrintWrite.sets, PrintRow.setOn])
  machineMAC := (Record.setAll_of_notMem _ rec (updateOn_keeps_mac m r)).trans h.machineMAC
  machineIP := sets_get (.updateOn m r) rec (by simp [PrintWrite.sets, PrintRow.setOn])
  carNumber := sets_get (.updateOn m r) rec (by simp [PrintWrite.sets])
  printUserNickName := sets_get (.updateOn m r) rec (by simp [PrintWrite.sets])
  printUserName := sets_get (.updateOn m r) rec (by simp [PrintWrite.sets])
  puTime := sets_get (.updateOn m r) rec (by simp [PrintWrite.sets, PrintRow.setOn])
  printMark := sets_get (.updateOn m r) rec (by simp [PrintWrite.sets, PrintRow.setOn])

variable {d : Record} (hd : ∀ c, d c = none)
include hd

/-- The columns that an insert does not name are NULL. -/
theorem shown_insertOff :
    PrintRow.Shown ⟨m.sqlMachineName, m.sqlMAC, m.sqlIP, none, none, none, m.sqlTime, off⟩
      (Record.setAll d (PrintWrite.insertOff m).sets) where
  machineName := sets_get (.insertOff m) d (by simp [PrintWrite.sets])
  machineMAC := sets_get (.insertOff m) d (by simp [PrintWrite.sets])
  machineIP := sets_get (.insertOff m) d (by simp [PrintWrite.sets])
  carNumber := (insertOff_keeps (by decide +kernel) m d).trans (hd _)
  printUserNickName := (insertOff_keeps (by decide +kernel) m d).trans (hd _)
  printUserName := (insertOff_keeps (by decide +kernel) m d).trans (hd _)
  puTime := sets_get (.insertOff m) d (by simp [PrintWrite.sets])
  printMark := sets_get (.insertOff m) d (by simp [PrintWrite.sets])

omit hd in
theorem shown_insertOn :
    PrintRow.Shown ⟨m.sqlMachineName, m.sqlMAC, m.sqlIP, some r.getCarNumber, some r.getNickNume,
      some r.getUserNames, m.sqlTime, on⟩ (Record.setAll d (PrintWrite.insertOn m r).sets) where
  machineName := sets_get (.insertOn m r) d (by simp [PrintWrite.sets])
  machineMAC := sets_get (.insertOn m r) d (by simp [PrintWrite.sets])
  machineIP := sets_get (.insertOn m r) d (by simp [PrintWrite.sets])
  carNumber := sets_get (.insertOn m r) d (by simp [PrintWrite.sets])
  printUserNickName := sets_get (.insertOn m r) d (by simp [PrintWrite.sets])
  printUserName := sets_get (.insertOn m r) d (by simp [PrintWrite.sets])
  puTime := sets_get (.insertOn m r) d (by simp [PrintWrite.sets])
  printMark := sets_get (.insertOn m r) d (by simp [PrintWrite.sets])

end

section
variable {t : PrintUser} {recs : Records} (h : Shows t recs)

/-- The comparison of the server is the one of the model. -/
theorem PrintRow.Shown.has {row : PrintRow} {rec : Record} (h : row.Shown rec) (mac : CStr) :
    rec.has .binary (PrintColumn.machineMAC, mac.val) = decide (row.machineMAC = mac) := by
  unfold Record.has
  rw [h.machineMAC]
  apply Bool.eq_iff_iff.mpr
  rw [decide_eq_true_iff, ← Subtype.val_inj]
  exact beq_iff_eq

include h

theorem shows_update {f : PrintRow → PrintRow} {sets : List (Bytes × Bytes)}
    (hf : ∀ row rec, PrintRow.Shown row rec → (f row).Shown (Record.setAll rec sets)) (mac : CStr) :
    Shows (updateWhere mac f t) (updateRows .binary sets (machineMAC, mac.val) recs) := by
  unfold updateWhere updateRows
  induction h with
  | nil => exact .nil
  | cons hrow _ ih =>
    refine .cons ?_ ih
    dsimp only
    rw [hrow.has mac]
    split
    · next heq =>
      rw [if_pos (decide_eq_true heq)]
      exact hf _ _ hrow
    · next hne =>
      rw [if_neg (by simpa using hne)]
      exact hrow

theorem length_withKey (mac : CStr) :
    (withKey .binary (machineMAC, mac.val) recs).length = (rowsOf mac t).length := by
  unfold withKey rowsOf
  induction h with
  | nil => rfl
  | cons hrow _ ih =>
    rw [List.filter_cons, List.filter_cons, hrow.has mac]
    split
    · rw [List.length_cons, List.length_cons, ih]
    · exact ih

/-- A statement does to the rows what the model's write does. -/
theorem exec_shows (w : PrintWrite) {d : Record} (hd : ∀ c, d c = none) :
    Shows (w.exec t) (w.onRows .binary d recs) := by
  cases w with
  | updateOff m => exact shows_update h (fun _ _ hrow => shown_setOff hrow m) m.sqlMAC
  | updateOn m r => exact shows_update h (fun _ _ hrow => shown_setOn hrow m r) m.sqlMAC
  | insertOff m => exact List.rel_append h (.cons (shown_insertOff m hd) .nil)
  | insertOn m r => exact List.rel_append h (.cons (shown_insertOn m r) .nil)

/-- With a server that compares byte for byte, and NULL for the columns that an insert does
    not name, a call ends as `userPrint` does, and the rows are those of its table. -/
theorem userPrintSent_rows {c : PrintCall} (hc : c.Proper)
    (hline : (joinFields c.machine).length < 250) (hd : ∀ k, c.defaults k = none) :
    (c.run .binary recs).1 = (userPrint c.machine c.car t true c.write).1 ∧
      Shows (userPrint c.machine c.car t true c.write).2 (c.run .binary recs).2 := by
  have hchosen : c.chosen .binary recs = printWrite (oneRow c.machine t) c.machine c.car := by
    unfold PrintCall.chosen PrintCall.key oneRow
    rw [length_withKey h]
  rw [run_eq .binary hc hline, hchosen, printWrite_sql]
  obtain ⟨hs, hrun⟩ | ⟨_, hsel, _⟩ | ⟨hs, _, hw, hrun⟩ | ⟨hs, _, hw, hrun⟩ :=
    userPrint_cases c.machine c.car t true c.write
  · rw [hrun, hs]
    exact ⟨rfl, h⟩
  · cases hsel
  · rw [hrun, hw]
    simp [h]
  · rw [hrun, if_pos ⟨hs, hw⟩]
    refine ⟨rfl, ?_⟩
    cases c.write with
    | true => exact exec_shows h _ hd
    | false => exact h

end

end CardLogon
