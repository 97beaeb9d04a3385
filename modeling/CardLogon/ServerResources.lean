import CardLogon.Ledger
import CardLogon.Terminal

/- What the terminal obtains from the two servers: connections to the database, result sets,
   sockets to the login server, and the buffers that answers are received in.

   Each call is here with what it obtains and frees; the terminal makes the calls where its
   threads stand. A connection lives in `m_sqlCon` from one call to the next; the others are
   pointers of a call, and end with it. `mysql_init` writes over `m_sqlCon`. `FreeConnect`,
   which would close the connection, is never called. A `user_Print` without a result set
   has no defined result, and `postData` returns true over a connection only: other steps are
   not taken.

   What is proved: `server_resources`. In every run nothing is freed twice, and what is freed
   is the result set of a row that was found, the socket of a connection that was made, and
   the buffer of a POST. All else that was obtained is lost, but for the last connection to
   the database; so with every card that is looked up one more connection is open that the
   terminal cannot close. -/
namespace CardLogon
open GuardedRun Ledger

inductive ServerResource where
  | connection
  | result
  | socket
  | buffer
  deriving DecidableEq

/-- For each kind, the one pointer to it. -/
abbrev Books := ServerResource → Book Unit

namespace Books

/-- Nothing has been obtained. -/
def empty : Books := fun _ => .empty

/-- The pointer is written. -/
def acquire (b : Books) (k : ServerResource) (ok : Bool) : Books :=
  Function.update b k ((b k).acquire () ok)

def free (b : Books) (k : ServerResource) : Books := Function.update b k ((b k).free ())

/-- The pointer ends with the call. -/
def leave (b : Books) (k : ServerResource) : Books := b.acquire k false

end Books

/-! The calls. -/

/-- What becomes of `socket` and `connect`. -/
inductive Connection where
  | noSocket
  | refused
  | made
  deriving DecidableEq

def initConnectionBooks (ok : Bool) (b : Books) : Books := b.acquire .connection ok

def infoQueryBooks (ok : Bool) (b : Books) : Books := (b.acquire .result ok).leave .result

/-- It frees the result set where it has found the row. -/
def userQueryBooks (r : QueryResult) (b : Books) : Books :=
  match r with
  | .failed => (b.acquire .result false).leave .result
  | .noRow => (b.acquire .result true).leave .result
  | .row _ => ((b.acquire .result true).free .result).leave .result

def userPrintBooks (b : Books) : Books := (b.acquire .result true).leave .result

/-- A connection that is not made leaves the socket; a GET leaves the buffer. -/
def socketHttpBooks (c : Connection) (boolGET : Bool) (b : Books) : Books :=
  let b := b.acquire .socket (decide (c ≠ .noSocket))
  if c = .made then
    let b := (b.acquire .buffer true).free .socket
    let b := if boolGET then b.free .buffer else b
    (b.leave .buffer).leave .socket
  else b.leave .socket

inductive RemoteCall where
  | initConnection (ok : Bool)
  | infoQuery (ok : Bool)
  | userQuery (r : QueryResult)
  | userPrint
  | getData (c : Connection)
  | postData (c : Connection)

def RemoteCall.books : RemoteCall → Books → Books
  | .initConnection ok => initConnectionBooks ok
  | .infoQuery ok => infoQueryBooks ok
  | .userQuery r => userQueryBooks r
  | .userPrint => userPrintBooks
  | .getData c => socketHttpBooks c false
  | .postData c => socketHttpBooks c true

/-! The terminal makes them. -/

/-- How the two requests to the login server go. -/
structure Requests where
  get : Connection
  post : Connection

/-- The call at a step of the logon thread. `getData` is made after the settings have been
    copied for the first time, and by both threads before a request is printed. -/
def logonCall (a : Answer) (o : Requests) : LogonPc → Option RemoteCall
  | .conn _ => some (.initConnection a.ok)
  | .info _ => some (.infoQuery a.ok)
  | .copyAudit .boot k => if k < 4 then none else some (.getData o.get)
  | .bootPrint | .print => some .userPrint
  | .query => some (.userQuery a.result)
  | .fmt => some (.getData o.get)
  | .sent _ => some (.postData o.post)
  | _ => none

def windowCall (o : Requests) : WindowPc → Option RemoteCall
  | .getDt => some (.getData o.get)
  | .sent _ => some (.postData o.post)
  | _ => none

def remoteCall (s : State) (o : Requests) : Act → Option RemoteCall
  | .logon a => logonCall a o s.logon
  | .window _ => windowCall o s.window
  | _ => none

/-- `postData` returns true. -/
def postsTrue (s : State) : Act → Bool
  | .logon a =>
    match s.logon with
    | .sent _ => a.ok
    | _ => false
  | .window a =>
    match s.window with
    | .sent _ => a.ok
    | _ => false
  | _ => false

structure Servers where
  term : State
  books : Books
  calls : List RemoteCall

def Servers.initial : Servers := ⟨CardLogon.initial, .empty, []⟩

/-- The books after the call of a step. -/
def Servers.after (n : Servers) (s : State) (c : Option RemoteCall) : Servers :=
  match c with
  | none => { n with term := s }
  | some c => { term := s, books := c.books n.books, calls := c :: n.calls }

def Servers.step (n : Servers) (x : Act × Requests) : Option Servers :=
  if postsTrue n.term x.1 = true ∧ x.2.post ≠ .made then none
  else (CardLogon.step n.term x.1).map fun s => n.after s (remoteCall n.term x.2 x.1)

/-! What a call does with each kind. -/

/-- It leaves the kind alone, obtains one and keeps the pointer, obtains one and leaves it,
    or obtains one and frees it. -/
inductive Use where
  | untouched
  | kept (ok : Bool)
  | left (ok : Bool)
  | freed

def Use.book (u : Use) (b : Book Unit) : Book Unit :=
  match u with
  | .untouched => b
  | .kept ok => b.acquire () ok
  | .left ok => (b.acquire () ok).acquire () false
  | .freed => (b.acquire () true).replace () false

def Use.opens : Use → Nat
  | .untouched => 0
  | .kept ok | .left ok => ok.toNat
  | .freed => 1

def Use.frees : Use → Nat
  | .freed => 1
  | _ => 0

def RemoteCall.use : RemoteCall → ServerResource → Use
  | .initConnection ok, .connection => .kept ok
  | .infoQuery ok, .result => .left ok
  | .userQuery .failed, .result => .left false
  | .userQuery .noRow, .result | .userPrint, .result => .left true
  | .userQuery (.row _), .result => .freed
  | .getData .noSocket, .socket | .postData .noSocket, .socket => .left false
  | .getData .refused, .socket | .postData .refused, .socket => .left true
  | .getData .made, .socket | .postData .made, .socket => .freed
  | .getData .made, .buffer => .left true
  | .postData .made, .buffer => .freed
  | _, _ => .untouched

/-- How many the calls obtain, and how many they free. -/
def opened (k : ServerResource) (cs : List RemoteCall) : Nat := (cs.map fun c => (c.use k).opens).sum
def freed (k : ServerResource) (cs : List RemoteCall) : Nat := (cs.map fun c => (c.use k).frees).sum

/-- A connection is never freed. -/
theorem frees_connection (c : RemoteCall) : (c.use .connection).frees = 0 := by
  cases c with
  | userQuery r => cases r <;> rfl
  | getData c => cases c <;> rfl
  | postData c => cases c <;> rfl
  | _ => rfl

theorem freed_connection (cs : List RemoteCall) : freed .connection cs = 0 := by
  unfold freed
  induction cs with
  | nil => rfl
  | cons c cs ih => rw [List.map_cons, List.sum_cons, frees_connection, ih]

/-- The other pointers are those of a call. -/
theorem use_local (c : RemoteCall) {k : ServerResource} (hk : k ≠ .connection) (ok : Bool) :
    c.use k ≠ .kept ok := by
  intro h
  cases k with
  | connection => exact hk rfl
  | _ =>
    cases c with
    | userQuery r => cases r <;> cases h
    | getData c => cases c <;> cases h
    | postData c => cases c <;> cases h
    | _ => cases h

theorem RemoteCall.books_eq (c : RemoteCall) (b : Books) (k : ServerResource) :
    c.books b k = (c.use k).book (b k) := by
  cases c with
  | initConnection ok => cases k <;> rfl
  | infoQuery ok => cases k <;> rfl
  | userQuery r => cases r <;> cases k <;> rfl
  | userPrint => cases k <;> rfl
  | getData c => cases c <;> cases k <;> rfl
  | postData c => cases c <;> cases k <;> rfl

/-! A book after some calls. -/

/-- `n` have been obtained and `m` of them freed; none was given away. -/
structure Tally (b : Book Unit) (n m : Nat) : Prop where
  sound : b.Sound
  all : b.lost.length + (b.slots ()).held.length + b.released.length = n
  released : b.released.length = m
  given : b.given = []

theorem tally_empty : Tally .empty 0 0 := ⟨sound_empty, rfl, rfl, rfl⟩

section
variable {b : Book Unit} {n m : Nat}

theorem length_cell (k : Nat) (ok : Bool) :
    ((if ok then Cell.live k else .empty).held).length = ok.toNat := by
  cases ok <;> rfl

theorem Tally.acquire (h : Tally b n m) (ok : Bool) : Tally (b.acquire () ok) (n + ok.toNat) m where
  sound := h.sound.acquire () ok
  all := by
    have hall := h.all
    have hcell := length_cell b.next ok
    rw [acquire_slots_self]
    show ((b.slots ()).held ++ b.lost).length + _ + b.released.length = _
    rw [List.length_append]
    omega
  released := h.released
  given := h.given

/-- What the slot holds is freed. -/
theorem Tally.replace (h : Tally b n m) {i : Nat} (hlive : b.slots () = .live i) :
    Tally (b.replace () false) n (m + 1) where
  sound := h.sound.replace () false
  all := by
    have hall := h.all
    rw [replace_lost, replace_slots_self]
    show b.lost.length + 0 + ((b.slots ()).pointer ++ b.released).length = n
    rw [hlive] at hall ⊢
    rw [List.length_append]
    simp only [Cell.held, Cell.pointer, List.length_singleton] at hall ⊢
    omega
  released := by
    show ((b.slots ()).pointer ++ b.released).length = m + 1
    rw [hlive, List.length_append, h.released, Nat.add_comm]
    rfl
  given := h.given

theorem Tally.use (h : Tally b n m) (u : Use) : Tally (u.book b) (n + u.opens) (m + u.frees) := by
  cases u with
  | untouched => exact h
  | kept ok => exact h.acquire ok
  | left ok => exact (h.acquire ok).acquire false
  | freed => exact (h.acquire true).replace (acquire_slots_self b () true)

end

/-- No pointer is left where none is kept. -/
theorem use_held {u : Use} {b : Book Unit} (hu : ∀ ok, u ≠ .kept ok) (h : b.slots () = .empty) :
    (u.book b).slots () = .empty := by
  cases u with
  | untouched => exact h
  | kept ok => exact absurd rfl (hu ok)
  | left ok => exact acquire_slots_self _ () false
  | freed => exact replace_slots_self _ () false

/-! Each lookup has had its connection. -/

def RemoteCall.connects : RemoteCall → Bool
  | .initConnection _ => true
  | _ => false

/-- Between `initConnection` and the lookup. -/
def beforeLookup : LogonPc → Nat
  | .info .card | .infoOk .card | .copyAudit .card _ | .query => 1
  | _ => 0

/-- A step of the logon thread, with the call it makes. -/
theorem beforeLookup_logon (s : State) (a : Answer) (o : Requests) :
    (logonEvent s a s.logon).toList.countP Event.isLookup +
        beforeLookup (logonStep s a s.logon).logon ≤
      beforeLookup s.logon + (logonCall a o s.logon).toList.countP RemoteCall.connects := by
  cases hpc : s.logon with
  | conn p =>
    cases p with
    | boot => exact Nat.zero_le _
    | card => exact Nat.le_refl _
  | info p => cases p <;> exact Nat.le_refl _
  | infoOk p =>
    simp only [logonStep]
    split
    · cases p <;> exact Nat.le_refl _
    · cases p <;> exact Nat.zero_le _
  | copyAudit p k =>
    simp only [logonStep]
    cases p with
    | boot =>
      refine Nat.le_trans ?_ (Nat.zero_le _)
      split <;> exact Nat.le_refl _
    | card => split <;> exact Nat.le_refl _
  | query =>
    simp only [logonStep]
    cases a.result <;> exact Nat.le_refl _
  | openPort c =>
    simp only [logonStep]
    split <;> exact Nat.zero_le _
  | setOpen c => cases c <;> exact Nat.zero_le _
  | insert =>
    simp only [logonEvent]
    split <;> exact Nat.zero_le _
  | refuse =>
    simp only [logonEvent]
    split <;> exact Nat.zero_le _
  | _ =>
    simp only [logonStep]
    first
    | exact Nat.zero_le _
    | (split <;> exact Nat.zero_le _)

/-- The other threads look nobody up. -/
theorem Elsewhere.lookups {s t : State} (h : Elsewhere s t) :
    t.log.countP Event.isLookup = s.log.countP Event.isLookup := by
  obtain ⟨es, hlog, hes⟩ := h.log
  have hnone : es.countP Event.isLookup = 0 := by
    rw [List.countP_eq_zero]
    intro e he hlookup
    rw [Event.lookup_of_byLogon (hes e he)] at hlookup
    cases hlookup
  rw [hlog, List.countP_append, hnone, Nat.zero_add]

/-- When every connection succeeds, each attempt has opened one. -/
theorem connects_opened {cs : List RemoteCall} (h : ∀ c ∈ cs, c ≠ .initConnection false) :
    cs.countP RemoteCall.connects ≤ opened .connection cs := by
  unfold opened
  induction cs with
  | nil => exact Nat.le_refl 0
  | cons c cs ih =>
    have hc := h c List.mem_cons_self
    have hrest := ih fun c' hc' => h c' (List.mem_cons_of_mem c hc')
    rw [List.countP_cons, List.map_cons, List.sum_cons]
    cases c with
    | initConnection ok =>
      cases ok with
      | false => exact absurd rfl hc
      | true =>
        show _ + 1 ≤ 1 + _
        omega
    | _ => exact Nat.le_trans hrest (Nat.le_add_left _ _)

/-! The runs. -/

structure Servers.Inv (n : Servers) : Prop where
  tally : ∀ k, Tally (n.books k) (opened k n.calls) (freed k n.calls)
  noPointer : ∀ k ≠ .connection, (n.books k).slots () = .empty
  lookups : n.term.log.countP Event.isLookup + beforeLookup n.term.logon ≤
    n.calls.countP RemoteCall.connects

theorem Servers.Inv.after {n : Servers} {s : State} {c : Option RemoteCall} (hi : n.Inv)
    (h : s.log.countP Event.isLookup + beforeLookup s.logon ≤
      n.calls.countP RemoteCall.connects + c.toList.countP RemoteCall.connects) :
    (n.after s c).Inv := by
  cases c with
  | none => exact ⟨hi.tally, hi.noPointer, h⟩
  | some c =>
    refine ⟨fun k => ?_, fun k hk => ?_, ?_⟩
    · show Tally (c.books n.books k) (opened k (c :: n.calls)) (freed k (c :: n.calls))
      unfold opened freed
      rw [c.books_eq, List.map_cons, List.map_cons, List.sum_cons, List.sum_cons, Nat.add_comm,
        Nat.add_comm (c.use k).frees]
      exact (hi.tally k).use (c.use k)
    · show (c.books n.books k).slots () = .empty
      rw [c.books_eq]
      exact use_held (use_local c hk) (hi.noPointer k hk)
    · refine Nat.le_trans h (Nat.le_of_eq ?_)
      show _ = (c :: n.calls).countP RemoteCall.connects
      rw [List.countP_cons, Option.toList_some, List.countP_singleton]

theorem servers_preserved : Preserved Servers.step always .initial Servers.Inv where
  init := ⟨fun _ => tally_empty, fun _ _ => rfl, Nat.le_refl 0⟩
  step := by
    intro n n' x hi _ h
    unfold Servers.step at h
    split at h
    · cases h
    obtain ⟨s, hs, rfl⟩ := Option.map_eq_some_iff.mp h
    obtain ⟨act, o⟩ := x
    apply hi.after
    have hlookups := hi.lookups
    cases act with
    | logon a =>
      obtain rfl := Option.some.inj hs
      have hstep := beforeLookup_logon n.term a o
      rw [logonStep_log, List.countP_append]
      show _ ≤ _ + (logonCall a o n.term.logon).toList.countP RemoteCall.connects
      omega
    | _ =>
      have hother := elsewhere_of_step (fun _ hb => by cases hb) hs
      rw [hother.lookups, hother.logon]
      omega

/-- In every run nothing is freed twice, and what is freed is what the calls free; what they
    leave is lost. No connection to the database is closed: with each card that is looked up,
    while the server accepts connections, one more is out of reach. -/
theorem server_resources (n : Servers) (h : Reachable Servers.step always .initial n) :
    (∀ k, (n.books k).Accounted ∧ (n.books k).released.length = freed k n.calls) ∧
      (∀ k ≠ .connection, (n.books k).lost.length + freed k n.calls = opened k n.calls) ∧
      (n.books .connection).released = [] ∧
      opened .connection n.calls ≤ (n.books .connection).lost.length + 1 ∧
      ((∀ c ∈ n.calls, c ≠ .initConnection false) →
        n.term.log.countP Event.isLookup ≤ (n.books .connection).lost.length + 1) := by
  have hi : n.Inv := h.holds servers_preserved
  have hreleased : (n.books .connection).released = [] := by
    rw [← List.length_eq_zero_iff, (hi.tally .connection).released, freed_connection]
  have hopened : opened .connection n.calls ≤ (n.books .connection).lost.length + 1 := by
    have hall := (hi.tally .connection).all
    have hone := length_held ((hi.tally .connection).sound.fresh ())
    rw [hreleased, List.length_nil] at hall
    split at hone <;> omega
  refine ⟨fun k => ⟨(hi.tally k).sound.accounted, (hi.tally k).released⟩, fun k hk => ?_, hreleased,
    hopened, fun hok => ?_⟩
  · have hall := (hi.tally k).all
    rw [hi.noPointer k hk, (hi.tally k).released] at hall
    exact hall
  · refine Nat.le_trans ?_ hopened
    refine Nat.le_trans (Nat.le_trans (Nat.le_add_right _ _) hi.lookups) ?_
    exact connects_opened hok

/-- The first round of the loop, and a card that is looked up. -/
def oneCard : List (Act × Requests) :=
  (bootRun ++ cardRun 0 ++ logons 10 yes).map fun act => (act, ⟨.made, .made⟩)

/-- The connection of the first round is out of reach. -/
theorem one_card_one_connection :
    (final Servers.step always .initial oneCard).term.log.countP Event.isLookup ≤
      ((final Servers.step always .initial oneCard).books .connection).lost.length + 1 := by
  obtain ⟨-, -, -, -, h⟩ := server_resources _ (reachable_final oneCard)
  apply h
  have hall : (final Servers.step always .initial oneCard).calls.all fun c =>
      match c with
      | .initConnection false => false
      | _ => true := by
    decide +kernel
  intro c hc hfalse
  have hno := List.all_eq_true.mp hall c hc
  rw [hfalse] at hno
  cases hno

example : ((final Servers.step always .initial oneCard).books .connection).lost.length = 1 ∧
    ((final Servers.step always .initial oneCard).books .result).lost.length = 3 ∧
    ((final Servers.step always .initial oneCard).books .buffer).lost.length = 1 := by
  decide +kernel

end CardLogon
