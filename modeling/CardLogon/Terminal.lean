import CardLogon.ComAsy
import CardLogon.LoginForm
import CardLogon.GuardedRun

/- The terminal: the threads of the credential provider and what they share.

   Three kinds of thread work on process-wide globals: the logon thread
   (`CCommandWindow::Initialize` and `GetConnectedStatus`), the window thread
   (`_ProcessNextMessage`) and the serial readers (`ComAsy::OnRecv`, one for each
   `InitCOM`). Each is a program counter with a step function; one step is one read
   or write of a shared variable, or one call that leaves the process. What such a
   call returns is the step's `Answer`, any value at all: ping, database, login
   server, serial port and edit box are not restricted. A step acts on one thread,
   so that runs are all interleavings.

   Left out: window texts, message boxes and drawing, `G_Readinfochs`, sleeps, the
   path that exits the process for a missing configuration, and `getData`, whose
   result is not used. `user_Print` and the inserts are here only for what they
   return; their SQL is in `MySqlConn.lean`. Also left out: `delete cmdstr`, at the end
   of each round of the initialization loop, frees the buffer that `strCMD` still owns,
   so that a ping that fails and a second session free it once more; a run here goes on
   as if the heap had stood it.

   The log keeps the events the properties are about, newest first. -/
namespace CardLogon
open CText GuardedRun

/-! What the calls return. -/

/-- The login server's data, as `info_query` reads it. -/
structure Audit where
  BAip : Bytes
  BALogoutdDirectory : Bytes
  BALogoutT : Bytes
  BALOginDirectory : Bytes
  BALLoginDt : Bytes
  deriving DecidableEq

def Audit.empty : Audit := ⟨[], [], [], [], []⟩

/-- The row `user_query` fetches (a NULL password is an empty one). -/
structure Row where
  carNumber : Bytes
  userName : Bytes
  nickname : Bytes
  userPW : Bytes
  deriving DecidableEq

/-- The result of the select: no result set, not exactly one row, or the row. -/
inductive QueryResult where
  | failed
  | noRow
  | row (r : Row)
  deriving DecidableEq

/-- What the environment returns at a step; each step uses the parts it asks for. -/
structure Answer where
  ok : Bool
  row : Bool
  text : Bytes
  count : Nat
  audit : Audit
  result : QueryResult

/-! The log. -/

inductive Who where
  | logon
  | window
  deriving DecidableEq

inductive Table where
  | loginTable
  | loginFTable
  deriving DecidableEq

inductive Event where
  | readerStart
  | delivered (card : Bytes)
  | lookup (card : Bytes) (result : QueryResult)
  | post (who : Who) (body : PostBody) (ok : Bool)
  | update (carNumber pw : Bytes)
  | insert (table : Table) (carNumber : Bytes)
  | connected
  deriving DecidableEq

/-! Program counters. -/

/-- Where InitCOM is called from. -/
inductive Caller where
  | boot
  | reconnect
  deriving DecidableEq

/-- The two places that query the login server's data. -/
inductive Phase where
  | boot
  | card
  deriving DecidableEq

/-- Where the logon thread stands; the arguments are its local variables. -/
inductive LogonPc where
  | idle
  | openPort (c : Caller)
  | spawn (c : Caller)
  | setOpen (c : Caller)
  | reopened
  | head
  | inner
  | ping
  | conn (p : Phase)
  | info (p : Phase)
  | infoOk (p : Phase)
  | copyAudit (p : Phase) (k : Nat)
  | bootClear
  | bootPrint
  | check
  | noCard
  | query
  | putCar (r : Row)
  | putName (r : Row)
  | putNick (r : Row)
  | putPw (r : Row)
  | putMiss (card : Bytes)
  | queryRet (b : Bool)
  | queryOk
  | takeUser
  | takePw
  | branch
  | arm
  | fmt
  | send
  | sent (body : PostBody)
  | rearm
  | verdict
  | pass1
  | pass2
  | pass3
  | fail
  | wait
  | readBack
  | backClear
  | print
  | insert
  | insertOk
  | refuse
  | clear
  | uninitAccepted
  | uninitReconnect
  | connect
  | wipeCar
  | wipeNames
  | wipeNick
  deriving DecidableEq

/-- Where the window thread stands. -/
inductive WindowPc where
  | idle
  | click
  | getDt
  | request (login : Bytes)
  | format (login user : Bytes)
  | send
  | sent (body : PostBody)
  | verdict
  | update
  | updating (carNumber : Bytes)
  | updated
  | acc1
  | acc2
  | acc3
  | rej1
  | rej2
  | back1
  | back2
  deriving DecidableEq

/-- Where a reader stands. -/
inductive ReaderPc where
  | start
  | test
  | await
  | read
  | append (data : Bytes)
  | purge
  | result
  | exited
  deriving DecidableEq

structure Reader where
  pc : ReaderPc
  tempReadinfo : Bytes
  deriving DecidableEq

/-- Button and key messages of the window. -/
inductive Msg where
  | login
  | back
  | enter
  deriving DecidableEq

/-! The state. -/

structure State where
  readinfo : Bytes
  strlogUser : Bytes
  strlogUserPW : Bytes
  isopenCOM : Bool
  initialization : Bool
  getUpw : Bytes
  empPWCT : Bool
  boolGetBack : Bool
  isOK : Bool
  chhttpPOST : PostBody
  boolHttpback : Bool
  audit : Audit
  getCarNumber : Bytes
  getUserNames : Bytes
  getNickNume : Bytes
  getUserPW : Bytes
  mysqlAudit : Audit
  mIsOpen : Bool
  fConnected : Bool
  rx : Bytes
  logon : LogonPc
  window : WindowPc
  queue : List Msg
  readers : List Reader
  log : List Event

/-- The process after it is loaded. -/
def initial : State where
  readinfo := []
  strlogUser := []
  strlogUserPW := []
  isopenCOM := false
  initialization := false
  getUpw := []
  empPWCT := true
  boolGetBack := false
  isOK := false
  chhttpPOST := { login := [], user := [], pw := [] }
  boolHttpback := false
  audit := .empty
  getCarNumber := []
  getUserNames := []
  getNickNume := []
  getUserPW := []
  mysqlAudit := .empty
  mIsOpen := false
  fConnected := false
  rx := []
  logon := .idle
  window := .idle
  queue := []
  readers := []
  log := []

/-! The logon thread. -/

/-- Copy one string of the login server's data. -/
def Audit.copy (k : Nat) (src dst : Audit) : Audit :=
  match k with
  | 0 => { dst with BAip := src.BAip }
  | 1 => { dst with BALogoutdDirectory := src.BALogoutdDirectory }
  | 2 => { dst with BALogoutT := src.BALogoutT }
  | 3 => { dst with BALOginDirectory := src.BALOginDirectory }
  | _ => { dst with BALLoginDt := src.BALLoginDt }

/-- What follows the copy of the data. -/
def afterAudit : Phase → LogonPc
  | .boot => .bootClear
  | .card => .query

/-- One step of the logon thread. -/
def logonStep (s : State) (a : Answer) : LogonPc → State
  -- a new CCommandWindow, and Initialize up to InitCOM
  | .idle => { s with fConnected := false, initialization := true, logon := .openPort .boot }
  -- InitCOM; the event thread is told nothing when it fails
  | .openPort c =>
    if a.ok then { s with rx := [], logon := .spawn c } else { s with logon := .head }
  | .spawn c =>
    { s with
      readers := if a.ok then s.readers ++ [{ pc := .start, tempReadinfo := [] }] else s.readers
      logon := .setOpen c }
  | .setOpen .boot => { s with mIsOpen := true, logon := .head }
  | .setOpen .reconnect => { s with mIsOpen := true, logon := .reopened }
  | .reopened => { s with isopenCOM := false, logon := .head }
  -- GetConnectedStatus
  | .head => { s with logon := if s.fConnected then .idle else .inner }
  | .inner => { s with logon := if s.initialization then .ping else .check }
  | .ping =>
    if a.ok then { s with initialization := false, logon := .conn .boot }
    else { s with initialization := true, logon := .inner }
  | .conn p => { s with isOK := a.ok, logon := .info p }
  | .info p =>
    { s with
      mysqlAudit := if a.ok then a.audit else s.mysqlAudit
      isOK := a.ok
      logon := .infoOk p }
  | .infoOk p =>
    if s.isOK then { s with logon := .copyAudit p 0 }
    else
      match p with
      | .boot => { s with logon := .bootClear }
      | .card => { s with logon := .head }
  | .copyAudit p k =>
    { s with
      audit := Audit.copy k s.mysqlAudit s.audit
      logon := if k < 4 then .copyAudit p (k + 1) else afterAudit p }
  | .bootClear => { s with getCarNumber := [], logon := .bootPrint }
  | .bootPrint => { s with isOK := a.ok, logon := .inner }
  | .check =>
    if (cstr s.readinfo).length = cardLen then { s with logon := .conn .card }
    else { s with logon := .noCard }
  | .noCard => { s with logon := if s.isopenCOM then .uninitReconnect else .head }
  -- user_query(Readinfo)
  | .query =>
    { s with
      log := .lookup s.readinfo a.result :: s.log
      logon :=
        match a.result with
        | .failed => .queryRet false
        | .noRow => .putMiss (cstr s.readinfo)
        | .row r => .putCar r }
  | .putCar r => { s with getCarNumber := r.carNumber, logon := .putName r }
  | .putName r => { s with getUserNames := r.userName, logon := .putNick r }
  | .putNick r => { s with getNickNume := r.nickname, logon := .putPw r }
  | .putPw r => { s with getUserPW := r.userPW, logon := .queryRet true }
  | .putMiss card => { s with getCarNumber := card, logon := .queryRet false }
  | .queryRet b => { s with isOK := b, logon := .queryOk }
  | .queryOk => { s with logon := if s.isOK then .takeUser else .refuse }
  | .takeUser => { s with strlogUser := s.getUserNames, logon := .takePw }
  | .takePw => { s with strlogUserPW := s.getUserPW, logon := .branch }
  -- an empty stored password is typed in the window
  | .branch => { s with logon := if s.getUserPW = [] then .arm else .fmt }
  | .arm => { s with empPWCT := true, logon := .wait }
  | .fmt =>
    { s with
      chhttpPOST := { login := s.audit.BALLoginDt, user := s.strlogUser, pw := s.strlogUserPW }
      logon := .send }
  | .send => { s with logon := .sent s.chhttpPOST }
  | .sent body =>
    { s with
      boolHttpback := a.ok
      log := .post .logon body a.ok :: s.log
      logon := .rearm }
  | .rearm => { s with empPWCT := true, logon := .verdict }
  | .verdict => { s with logon := if s.boolHttpback then .pass1 else .fail }
  | .pass1 => { s with empPWCT := true, logon := .pass2 }
  | .pass2 => { s with empPWCT := false, logon := .pass3 }
  | .pass3 => { s with boolGetBack := false, logon := .wait }
  | .fail => { s with empPWCT := true, logon := .wait }
  -- while (empPWCT) Sleep(100)
  | .wait => { s with logon := if s.empPWCT then .wait else .readBack }
  | .readBack => { s with logon := if s.boolGetBack then .backClear else .print }
  | .backClear => { s with readinfo := [], logon := .head }
  | .print => { s with isOK := a.ok, logon := .insert }
  | .insert =>
    { s with
      isOK := a.ok
      log := if a.row then .insert .loginTable s.getCarNumber :: s.log else s.log
      logon := .insertOk }
  | .insertOk => { s with logon := if s.isOK then .uninitAccepted else .clear }
  | .refuse =>
    { s with
      isOK := a.ok
      log := if a.row then .insert .loginFTable s.getCarNumber :: s.log else s.log
      logon := .clear }
  | .clear => { s with readinfo := [], logon := .head }
  -- UninitCOM, at the end of the session or before a reconnect
  | .uninitAccepted => { s with mIsOpen := false, logon := .connect }
  | .uninitReconnect => { s with mIsOpen := false, logon := .openPort .reconnect }
  -- the accepted card; Readinfo is not cleared
  | .connect => { s with fConnected := true, log := .connected :: s.log, logon := .wipeCar }
  | .wipeCar => { s with getCarNumber := [], logon := .wipeNames }
  | .wipeNames => { s with getUserNames := [], logon := .wipeNick }
  | .wipeNick => { s with getNickNume := [], logon := .idle }

/-! The window thread. -/

/-- One step of the window thread; an idle one takes the next message. -/
def windowStep (s : State) (a : Answer) : WindowPc → Option State
  | .idle =>
    match s.queue with
    | [] => none
    | .login :: q => some { s with queue := q, getUpw := (cstr a.text).take 1023, window := .click }
    | .back :: q => some { s with queue := q, window := .back1 }
    | .enter :: q => some { s with queue := q ++ [.login], window := .idle }
  | .click => some { s with window := if (cstr s.getUpw).length > 7 then .getDt else .rej1 }
  | .getDt => some { s with window := .request s.audit.BALLoginDt }
  | .request login => some { s with window := .format login s.strlogUser }
  | .format login user =>
    some { s with
      chhttpPOST := { login := login, user := user, pw := escapePlus s.getUpw }
      window := .send }
  | .send => some { s with window := .sent s.chhttpPOST }
  | .sent body =>
    some { s with
      boolHttpback := a.ok
      log := .post .window body a.ok :: s.log
      window := .verdict }
  | .verdict => some { s with window := if s.boolHttpback then .update else .rej1 }
  -- user_update(getUpw)
  | .update => some { s with window := .updating s.getCarNumber }
  | .updating carNumber =>
    some { s with
      isOK := a.ok
      log := .update carNumber s.getUpw :: s.log
      window := .updated }
  | .updated => some { s with window := if s.isOK then .acc1 else .rej1 }
  | .acc1 => some { s with empPWCT := true, window := .acc2 }
  | .acc2 => some { s with boolGetBack := false, window := .acc3 }
  | .acc3 => some { s with empPWCT := false, window := .idle }
  | .rej1 => some { s with boolGetBack := false, window := .rej2 }
  | .rej2 => some { s with empPWCT := true, window := .idle }
  -- the Back button, in the other order
  | .back1 => some { s with empPWCT := false, window := .back2 }
  | .back2 => some { s with boolGetBack := true, window := .idle }

/-- What the logon thread prints its body from, and the window thread. -/
def State.storedRequest (s : State) : PostBody :=
  { login := s.audit.BALLoginDt, user := s.strlogUser, pw := s.strlogUserPW }

def State.typedRequest (s : State) (login user : Bytes) : PostBody :=
  { login := login, user := user, pw := escapePlus s.getUpw }

/-! The readers. -/

/-- Put reader `i` back. -/
def State.setReader (s : State) (i : Nat) (r : Reader) : State :=
  { s with readers := s.readers.set i r }

/-- One step of reader `i`, which is `r`. -/
def readerStep (s : State) (a : Answer) (i : Nat) (r : Reader) : ReaderPc → State
  | .start =>
    { s with readinfo := [], log := .readerStart :: s.log }.setReader i
      { pc := .test, tempReadinfo := [] }
  | .test => s.setReader i { r with pc := if s.mIsOpen then .await else .exited }
  -- WaitCommEvent and ClearCommError: an event, and bytes in the queue
  | .await => s.setReader i { r with pc := if a.ok ∧ s.rx ≠ [] then .read else .result }
  | .read =>
    let n := min a.count readBufSize
    { s with rx := s.rx.drop n }.setReader i { r with pc := .append (s.rx.take n) }
  | .append data =>
    let c := recvChunk r.tempReadinfo data a.text
    match c.2 with
    | none => s.setReader i { pc := .purge, tempReadinfo := c.1 }
    | some card =>
      { s with readinfo := card, log := .delivered card :: s.log }.setReader i
        { pc := .purge, tempReadinfo := c.1 }
  | .purge => { s with rx := [] }.setReader i { r with pc := .result }
  | .result =>
    { s with isopenCOM := if a.ok then s.isopenCOM else true }.setReader i { r with pc := .test }
  | .exited => s

/-! Steps of the process. -/

inductive Act where
  | logon (a : Answer)
  | window (a : Answer)
  | reader (i : Nat) (a : Answer)
  | message (m : Msg)
  | arrive (bytes : Bytes)

def step (s : State) : Act → Option State
  | .logon a => some (logonStep s a s.logon)
  | .window a => windowStep s a s.window
  | .reader i a => (s.readers[i]?).map fun r => readerStep s a i r r.pc
  | .message m => some { s with queue := s.queue ++ [m] }
  | .arrive bytes => some { s with rx := s.rx ++ bytes }

/-! Concrete runs. -/

/-- A row with a stored password. -/
def someRow : Row where
  carNumber := lit "00112233445566778899001122334455"
  userName := lit "ann"
  nickname := lit "Ann"
  userPW := lit "12345678"

/-- The data of a login server; the request is the template of the source's own comment. -/
def someAudit : Audit where
  BAip := lit "192.168.0.1"
  BALogoutdDirectory := lit "/logout"
  BALogoutT := lit "logout"
  BALOginDirectory := lit "/login"
  BALLoginDt := loginTemplate.val

/-- Every call succeeds, or every call fails. -/
def yes : Answer where
  ok := true
  row := true
  text := lit "12345678"
  count := 32
  audit := someAudit
  result := .row someRow

def no : Answer := { yes with ok := false, row := false, result := .failed }

/-- Steps of one thread, all with one answer. -/
def logons (n : Nat) (a : Answer) : List Act := List.replicate n (.logon a)
def windows (n : Nat) (a : Answer) : List Act := List.replicate n (.window a)
def readers (n i : Nat) (a : Answer) : List Act := List.replicate n (.reader i a)

/-- Initialize and the first round of the loop, up to its test of `Readinfo`. -/
def bootRun : List Act := logons 18 yes

/-- The bytes of a card arrive and reader `i` hands them over. -/
def cardRun (i : Nat) : List Act := .arrive someRow.carNumber :: readers 5 i yes

/-! What the logon thread can touch. -/

/-- The steps that assign `GetCarNumber`. -/
def writesCar : LogonPc → Bool
  | .putCar _ | .putMiss _ | .bootClear | .wipeCar => true
  | _ => false

/-- What a logon step at `pc` leaves alone; `Readinfo` it can only clear. -/
structure LogonFrame (s s' : State) (pc : LogonPc) : Prop where
  window : s'.window = s.window
  getUpw : s'.getUpw = s.getUpw
  readinfo : s'.readinfo = s.readinfo ∨ s'.readinfo = []
  strlogUser : pc ≠ .takeUser → s'.strlogUser = s.strlogUser
  chhttpPOST : pc ≠ .fmt → s'.chhttpPOST = s.chhttpPOST
  boolHttpback : (∀ body, pc ≠ .sent body) → s'.boolHttpback = s.boolHttpback
  getCarNumber : writesCar pc = false → s'.getCarNumber = s.getCarNumber

theorem LogonFrame.refl (s : State) (pc : LogonPc) : LogonFrame s s pc :=
  ⟨rfl, rfl, .inl rfl, fun _ => rfl, fun _ => rfl, fun _ => rfl, fun _ => rfl⟩

theorem logonStep_frame (s : State) (a : Answer) (pc : LogonPc) :
    LogonFrame s (logonStep s a pc) pc := by
  cases pc with
  -- the steps that write one of these
  | bootClear => exact { LogonFrame.refl s _ with getCarNumber := fun h => (nomatch h) }
  | putCar r => exact { LogonFrame.refl s _ with getCarNumber := fun h => (nomatch h) }
  | putMiss card => exact { LogonFrame.refl s _ with getCarNumber := fun h => (nomatch h) }
  | wipeCar => exact { LogonFrame.refl s _ with getCarNumber := fun h => (nomatch h) }
  | takeUser => exact { LogonFrame.refl s _ with strlogUser := fun h => absurd rfl h }
  | fmt => exact { LogonFrame.refl s _ with chhttpPOST := fun h => absurd rfl h }
  | sent body => exact { LogonFrame.refl s _ with boolHttpback := fun h => absurd rfl (h body) }
  | backClear => exact { LogonFrame.refl s _ with readinfo := .inr rfl }
  | clear => exact { LogonFrame.refl s _ with readinfo := .inr rfl }
  -- the branches whose states differ elsewhere
  | openPort c => simp only [logonStep]; split <;> exact { LogonFrame.refl s _ with }
  | setOpen c => cases c <;> exact { LogonFrame.refl s _ with }
  | ping => simp only [logonStep]; split <;> exact { LogonFrame.refl s _ with }
  | infoOk p =>
    simp only [logonStep]
    split
    · exact { LogonFrame.refl s _ with }
    · cases p <;> exact { LogonFrame.refl s _ with }
  | check => simp only [logonStep]; split <;> exact { LogonFrame.refl s _ with }
  | _ => exact { LogonFrame.refl s _ with }

/-- `_fConnected` is written at the beginning of a session and at its end. -/
theorem logonStep_fConnected (s : State) (a : Answer) {pc : LogonPc} (hidle : pc ≠ .idle)
    (hconnect : pc ≠ .connect) : (logonStep s a pc).fConnected = s.fConnected := by
  cases pc with
  | idle => exact absurd rfl hidle
  | connect => exact absurd rfl hconnect
  | openPort c => simp only [logonStep]; split <;> rfl
  | setOpen c => cases c <;> rfl
  | ping => simp only [logonStep]; split <;> rfl
  | infoOk p =>
    simp only [logonStep]
    split
    · rfl
    · cases p <;> rfl
  | check => simp only [logonStep]; split <;> rfl
  | _ => rfl

/-- Between two sessions, where `_fConnected` may be TRUE. -/
def pastLoop : LogonPc → Bool
  | .idle | .wipeCar | .wipeNames | .wipeNick => true
  | _ => false

theorem pastLoop_logon {s : State} (h : s.fConnected = true → pastLoop s.logon = true) (a : Answer)
    (hconn : (logonStep s a s.logon).fConnected = true) :
    pastLoop (logonStep s a s.logon).logon = true := by
  by_cases hidle : s.logon = .idle
  · rw [hidle] at hconn
    cases hconn
  · by_cases hconnect : s.logon = .connect
    · rw [hconnect]
      rfl
    · rw [logonStep_fConnected s a hidle hconnect] at hconn
      have hpast := h hconn
      cases hpc : s.logon with
      | idle => exact absurd hpc hidle
      | wipeCar => rfl
      | wipeNames => rfl
      | wipeNick => rfl
      | _ =>
        rw [hpc] at hpast
        cases hpast

/-- The logon thread works for a card: from the lookup to the end of the session, or
    until the card is dropped. -/
def handling : LogonPc → Bool
  | .query | .putCar _ | .putName _ | .putNick _ | .putPw _ | .putMiss _ | .queryRet _ | .queryOk
  | .takeUser | .takePw | .branch | .arm | .fmt | .send | .sent _ | .rearm | .verdict | .pass1
  | .pass2 | .pass3 | .fail | .wait | .readBack | .print | .insert | .insertOk | .refuse
  | .uninitAccepted | .connect => true
  | _ => false

/-- Work for a card begins with its lookup. -/
theorem logonStep_handling (s : State) (a : Answer) (pc : LogonPc) (h : handling pc = false) :
    handling (logonStep s a pc).logon = false ∨ (logonStep s a pc).logon = .query := by
  cases pc with
  | openPort c => simp only [logonStep]; split <;> exact .inl rfl
  | setOpen c => cases c <;> exact .inl rfl
  | head => simp only [logonStep]; split <;> exact .inl rfl
  | inner => simp only [logonStep]; split <;> exact .inl rfl
  | ping => simp only [logonStep]; split <;> exact .inl rfl
  | infoOk p =>
    simp only [logonStep]
    split
    · exact .inl rfl
    · cases p <;> exact .inl rfl
  | copyAudit p k =>
    simp only [logonStep]
    split
    · exact .inl rfl
    · cases p
      · exact .inl rfl
      · exact .inr rfl
  | check => simp only [logonStep]; split <;> exact .inl rfl
  | noCard => simp only [logonStep]; split <;> exact .inl rfl
  | _ => first | exact .inl rfl | cases h

/-- The event a logon step logs. -/
def logonEvent (s : State) (a : Answer) : LogonPc → Option Event
  | .query => some (.lookup s.readinfo a.result)
  | .sent body => some (.post .logon body a.ok)
  | .insert => if a.row then some (.insert .loginTable s.getCarNumber) else none
  | .refuse => if a.row then some (.insert .loginFTable s.getCarNumber) else none
  | .connect => some .connected
  | _ => none

theorem logonStep_log (s : State) (a : Answer) (pc : LogonPc) :
    (logonStep s a pc).log = (logonEvent s a pc).toList ++ s.log := by
  cases pc with
  | openPort c => simp only [logonStep]; split <;> rfl
  | setOpen c => cases c <;> rfl
  | ping => simp only [logonStep]; split <;> rfl
  | infoOk p =>
    simp only [logonStep]
    split
    · rfl
    · cases p <;> rfl
  | check => simp only [logonStep]; split <;> rfl
  | insert => simp only [logonStep, logonEvent]; split <;> rfl
  | refuse => simp only [logonStep, logonEvent]; split <;> rfl
  | _ => rfl

/-- What the logon thread logs, and where. -/
theorem logonEvent_cases {s : State} {a : Answer} {pc : LogonPc} {e : Event}
    (h : logonEvent s a pc = some e) :
    (pc = .query ∧ e = .lookup s.readinfo a.result) ∨
    (∃ body, pc = .sent body ∧ e = .post .logon body a.ok) ∨
    (∃ t, (pc = .insert ∨ pc = .refuse) ∧ e = .insert t s.getCarNumber) ∨
    (pc = .connect ∧ e = .connected) := by
  cases pc with
  | query => exact .inl ⟨rfl, (Option.some.inj h).symm⟩
  | sent body => exact .inr (.inl ⟨body, rfl, (Option.some.inj h).symm⟩)
  | insert =>
    simp only [logonEvent] at h
    split at h
    · exact .inr (.inr (.inl ⟨.loginTable, .inl rfl, (Option.some.inj h).symm⟩))
    · cases h
  | refuse =>
    simp only [logonEvent] at h
    split at h
    · exact .inr (.inr (.inl ⟨.loginFTable, .inr rfl, (Option.some.inj h).symm⟩))
    · cases h
  | connect => exact .inr (.inr (.inr ⟨rfl, (Option.some.inj h).symm⟩))
  | _ => cases h

/-- The event is a lookup. -/
def Event.isLookup : Event → Bool
  | .lookup _ _ => true
  | _ => false

/-- The logon thread logs it. -/
def Event.byLogon : Event → Bool
  | .lookup _ _ | .post .logon _ _ | .insert _ _ | .connected => true
  | _ => false

theorem Event.lookup_of_byLogon {e : Event} (h : e.byLogon = false) : e.isLookup = false := by
  cases e with
  | lookup _ _ => cases h
  | _ => rfl

theorem logonEvent_lookup {s : State} {a : Answer} {pc : LogonPc} {e : Event}
    (h : logonEvent s a pc = some e) (hq : pc ≠ .query) : e.isLookup = false := by
  obtain ⟨hp, -⟩ | ⟨body, -, rfl⟩ | ⟨t, -, rfl⟩ | ⟨-, rfl⟩ := logonEvent_cases h
  · exact absurd hp hq
  all_goals rfl

/-- A logon step logs nothing, or the event of its program counter. -/
theorem logonStep_log_cases (s : State) (a : Answer) (pc : LogonPc) :
    (logonStep s a pc).log = s.log ∨
      ∃ e, logonEvent s a pc = some e ∧ (logonStep s a pc).log = e :: s.log := by
  rw [logonStep_log]
  cases logonEvent s a pc with
  | none => exact .inl rfl
  | some e => exact .inr ⟨e, rfl, rfl⟩

/-! What the window thread can touch. -/

/-- An idle window thread takes a message: Login, Back, or Enter, which becomes a
    Login at the end of the queue. -/
theorem windowStep_idle {s s' : State} {a : Answer} (h : windowStep s a .idle = some s') :
    ∃ q, s' = { s with queue := q, getUpw := (cstr a.text).take 1023, window := .click } ∨
      s' = { s with queue := q, window := .back1 } ∨ s' = { s with queue := q, window := .idle } := by
  simp only [windowStep] at h
  split at h
  · cases h
  · next q _ => exact ⟨q, .inl (Option.some.inj h).symm⟩
  · next q _ => exact ⟨q, .inr (.inl (Option.some.inj h).symm)⟩
  · next q _ => exact ⟨q ++ [.login], .inr (.inr (Option.some.inj h).symm)⟩

/-- What a step of the window thread leaves alone. -/
structure WindowFrame (s s' : State) : Prop where
  logon : s'.logon = s.logon
  readinfo : s'.readinfo = s.readinfo
  readers : s'.readers = s.readers
  mIsOpen : s'.mIsOpen = s.mIsOpen
  isopenCOM : s'.isopenCOM = s.isopenCOM
  strlogUser : s'.strlogUser = s.strlogUser
  getCarNumber : s'.getCarNumber = s.getCarNumber
  getUserNames : s'.getUserNames = s.getUserNames

theorem windowStep_frame {s s' : State} {a : Answer} {pc : WindowPc}
    (h : windowStep s a pc = some s') : WindowFrame s s' := by
  cases pc with
  | idle =>
    obtain ⟨q, rfl | rfl | rfl⟩ := windowStep_idle h
    all_goals exact ⟨rfl, rfl, rfl, rfl, rfl, rfl, rfl, rfl⟩
  | _ =>
    cases h
    exact ⟨rfl, rfl, rfl, rfl, rfl, rfl, rfl, rfl⟩

theorem windowStep_fConnected {s s' : State} {a : Answer} {pc : WindowPc}
    (h : windowStep s a pc = some s') : s'.fConnected = s.fConnected := by
  cases pc with
  | idle =>
    obtain ⟨q, rfl | rfl | rfl⟩ := windowStep_idle h
    all_goals rfl
  | _ =>
    cases h
    rfl

/-- The event a step of the window thread logs. -/
def windowEvent (s : State) (a : Answer) : WindowPc → Option Event
  | .sent body => some (.post .window body a.ok)
  | .updating carNumber => some (.update carNumber s.getUpw)
  | _ => none

/-- What the window thread logs, and where. -/
theorem windowEvent_cases {s : State} {a : Answer} {pc : WindowPc} {e : Event}
    (h : windowEvent s a pc = some e) :
    (∃ body, pc = .sent body ∧ e = .post .window body a.ok) ∨
    (∃ c, pc = .updating c ∧ e = .update c s.getUpw) := by
  cases pc with
  | sent body => exact .inl ⟨body, rfl, (Option.some.inj h).symm⟩
  | updating c => exact .inr ⟨c, rfl, (Option.some.inj h).symm⟩
  | _ => cases h

theorem windowEvent_lookup {s : State} {a : Answer} {pc : WindowPc} {e : Event}
    (h : windowEvent s a pc = some e) : e.isLookup = false := by
  obtain ⟨body, -, rfl⟩ | ⟨c, -, rfl⟩ := windowEvent_cases h
  all_goals rfl

theorem windowStep_log {s s' : State} {a : Answer} {pc : WindowPc}
    (h : windowStep s a pc = some s') : s'.log = (windowEvent s a pc).toList ++ s.log := by
  cases pc with
  | idle =>
    obtain ⟨q, rfl | rfl | rfl⟩ := windowStep_idle h
    all_goals rfl
  | _ =>
    cases h
    rfl

/-- A step of the window thread logs nothing, a post, or an update. -/
theorem windowStep_log_cases {s s' : State} {a : Answer} {pc : WindowPc}
    (h : windowStep s a pc = some s') :
    s'.log = s.log ∨ ∃ e, windowEvent s a pc = some e ∧ s'.log = e :: s.log := by
  rw [windowStep_log h]
  cases windowEvent s a pc with
  | none => exact .inl rfl
  | some e => exact .inr ⟨e, rfl, rfl⟩

/-! What the readers can touch, and the steps of the process. -/

/-- A reader changes `Readinfo`, `isopenCOM`, the port's queue and the readers, and
    logs its start or a card. -/
theorem readerStep_cases (s : State) (a : Answer) (i : Nat) (r : Reader) (pc : ReaderPc) :
    ∃ rx rs, readerStep s a i r pc = { s with rx := rx, readers := rs } ∨
      readerStep s a i r pc = { s with isopenCOM := true, readers := rs } ∨
      readerStep s a i r pc =
        { s with readinfo := [], log := .readerStart :: s.log, readers := rs } ∨
      ∃ card, readerStep s a i r pc =
        { s with readinfo := card, log := .delivered card :: s.log, readers := rs } := by
  cases pc with
  | start => exact ⟨s.rx, _, .inr (.inr (.inl rfl))⟩
  | test => exact ⟨s.rx, _, .inl rfl⟩
  | await => exact ⟨s.rx, _, .inl rfl⟩
  | read => exact ⟨_, _, .inl rfl⟩
  | append data =>
    simp only [readerStep]
    split
    · exact ⟨s.rx, _, .inl rfl⟩
    · next card _ => exact ⟨s.rx, _, .inr (.inr (.inr ⟨card, rfl⟩))⟩
  | purge => exact ⟨_, _, .inl rfl⟩
  | result =>
    cases h : a.ok with
    | true => exact ⟨s.rx, _, .inl (by simp only [readerStep, h]; rfl)⟩
    | false => exact ⟨s.rx, _, .inr (.inl (by simp only [readerStep, h]; rfl))⟩
  | exited => exact ⟨s.rx, s.readers, .inl rfl⟩

/-- The actor of a step: a thread at its program counter, or the outside. -/
theorem step_cases {s s' : State} {act : Act} (h : step s act = some s') :
    (∃ a, act = .logon a ∧ s' = logonStep s a s.logon) ∨
    (∃ a, act = .window a ∧ windowStep s a s.window = some s') ∨
    (∃ i a r, act = .reader i a ∧ s.readers[i]? = some r ∧ s' = readerStep s a i r r.pc) ∨
    (∃ m, act = .message m ∧ s' = { s with queue := s.queue ++ [m] }) ∨
    (∃ bytes, act = .arrive bytes ∧ s' = { s with rx := s.rx ++ bytes }) := by
  cases act with
  | logon a => exact .inl ⟨a, rfl, (Option.some.inj h).symm⟩
  | window a => exact .inr (.inl ⟨a, rfl, h⟩)
  | reader i a =>
    obtain ⟨r, hr, rfl⟩ := Option.map_eq_some_iff.mp h
    exact .inr (.inr (.inl ⟨i, a, r, rfl, hr, rfl⟩))
  | message m => exact .inr (.inr (.inr (.inl ⟨m, rfl, (Option.some.inj h).symm⟩)))
  | arrive bytes => exact .inr (.inr (.inr (.inr ⟨bytes, rfl, (Option.some.inj h).symm⟩)))

/-- A step of another thread, of the device or of the keyboard. -/
structure Elsewhere (s t : State) : Prop where
  logon : t.logon = s.logon
  fConnected : t.fConnected = s.fConnected
  log : ∃ es : List Event, t.log = es ++ s.log ∧ ∀ e ∈ es, e.byLogon = false

theorem elsewhere_of_step {s t : State} {act : Act} (hact : ∀ a, act ≠ .logon a)
    (h : step s act = some t) : Elsewhere s t := by
  obtain ⟨a, rfl, -⟩ | ⟨a, rfl, hw⟩ | ⟨i, a, r, rfl, -, rfl⟩ | ⟨m, rfl, rfl⟩ | ⟨bytes, rfl, rfl⟩ :=
    step_cases h
  · exact absurd rfl (hact a)
  · refine ⟨(windowStep_frame hw).logon, windowStep_fConnected hw, _, windowStep_log hw, ?_⟩
    intro e he
    obtain ⟨body, -, rfl⟩ | ⟨c, -, rfl⟩ := windowEvent_cases (Option.mem_toList.mp he)
    all_goals rfl
  · obtain ⟨rx, rs, ht | ht | ht | ⟨card, ht⟩⟩ := readerStep_cases s a i r r.pc
    all_goals rw [ht]
    · exact ⟨rfl, rfl, [], rfl, fun e he => nomatch he⟩
    · exact ⟨rfl, rfl, [], rfl, fun e he => nomatch he⟩
    · exact ⟨rfl, rfl, [.readerStart], rfl, fun e he => by rw [List.mem_singleton.mp he]; rfl⟩
    · exact ⟨rfl, rfl, [.delivered card], rfl, fun e he => by rw [List.mem_singleton.mp he]; rfl⟩
  · exact ⟨rfl, rfl, [], rfl, fun e he => nomatch he⟩
  · exact ⟨rfl, rfl, [], rfl, fun e he => nomatch he⟩

/-- An invariant of the process: each thread's steps keep it, and so do messages and
    bytes from outside. -/
theorem preserved_of_steps {guard : State → Act → Bool} {inv : State → Prop} (init : inv initial)
    (logon : ∀ {s : State} (a : Answer), inv s → guard s (.logon a) = true →
      inv (logonStep s a s.logon))
    (window : ∀ {s s' : State} {a : Answer}, inv s → guard s (.window a) = true →
      windowStep s a s.window = some s' → inv s')
    (reader : ∀ {s : State} {i : Nat} {r : Reader} (a : Answer), inv s →
      guard s (.reader i a) = true → s.readers[i]? = some r → inv (readerStep s a i r r.pc))
    (outside : ∀ {s : State} (queue : List Msg) (rx : Bytes), inv s →
      inv { s with queue := queue, rx := rx }) :
    Preserved step guard initial inv where
  init := init
  step := by
    intro s s' act hi hg h
    obtain ⟨a, rfl, rfl⟩ | ⟨a, rfl, h⟩ | ⟨i, a, r, rfl, hr, rfl⟩ | ⟨m, rfl, rfl⟩ | ⟨bytes, rfl, rfl⟩ :=
      step_cases h
    · exact logon a hi hg
    · exact window hi hg h
    · exact reader a hi hg hr
    · exact outside (s.queue ++ [m]) s.rx hi
    · exact outside s.queue (s.rx ++ bytes) hi

end CardLogon
