import CardLogon.CText
import Mathlib.Data.List.GetD
import Mathlib.Data.Int.Basic
import Mathlib.Tactic.Push

/- `HttpConnect`: the POST a login is decided by.

   `socketHttp` connects, sends the request and receives into a heap buffer of
   1024*1024 bytes until `recv` returns 0; then it terminates the buffer and, for
   a POST, answers true when neither failure marker is found in the buffer read
   as a C string. The receive loop is modelled for every sequence of `recv`
   results: a count moves the offset up, an error (-1) moves it down by one, and
   what the buffer held before is arbitrary (`garbage`). A write outside the
   buffer has no defined result (`outOfBuffer`): the code goes on and may answer
   anything. A sequence that ends without a 0 leaves the call waiting. A host that
   `gethostbyname` does not resolve is left out: the code reads through its NULL.

   What is proved: `postData_true_iff` gives the exact answers that count as an
   acceptance, and `acceptsOnlyGood_iff` says for which server behaviours an
   acceptance means what it should: not for an empty answer, not for one whose only
   markers stand behind a NUL, and not for one that overruns the buffer. -/
namespace CardLogon
open CText

/-- The size of the receive buffer. -/
def recvBufSize : Nat := 1024 * 1024

/-- The bytes one `recv(.., 1024, 0)` returns. -/
def Segment := {d : Bytes // 0 < d.length ∧ d.length ≤ 1024}

/-- What a call of `recv` returns: bytes, 0, or `SOCKET_ERROR`. -/
inductive Recv where
  | data (d : Segment)
  | closed
  | error

/-- How the receive loop ends. -/
inductive RecvEnd where
  | ended (buf : Int → UInt8) (offset : Int)
  | waiting
  | outOfBuffer

/-- `recv` writing `d` at `buf + offset`. -/
def store (buf : Int → UInt8) (offset : Int) (d : Bytes) : Int → UInt8 := fun a =>
  if offset ≤ a ∧ a < offset + d.length then d.getD (a - offset).toNat 0 else buf a

/-- `while (rc = recv(sockfd, buf + offset, 1024, 0)) offset += rc;` -/
def recvLoop : List Recv → (Int → UInt8) → Int → RecvEnd
  | [], _, _ => .waiting
  | .closed :: _, buf, offset => .ended buf offset
  | .error :: rs, buf, offset => recvLoop rs buf (offset - 1)
  | .data d :: rs, buf, offset =>
    if 0 ≤ offset ∧ offset + d.val.length ≤ recvBufSize then
      recvLoop rs (store buf offset d.val) (offset + d.val.length)
    else .outOfBuffer

/-- The buffer read as a C string, terminated at `offset`. -/
def bufString (buf : Int → UInt8) (offset : Int) : Bytes :=
  cstr ((List.range offset.toNat).map fun i : Nat => buf (i : Int))

/-- What a call answers, when it answers. -/
inductive Outcome where
  | returned (b : Bool)
  | waiting
  | outOfBuffer
  deriving DecidableEq

/-- What the server does with a request: whether the connection is made, and the
    results of the successive `recv` calls. -/
structure Server where
  connects : Bool
  recvs : List Recv

/-- The two failure markers. -/
def markers : List Bytes := [lit "%E7", lit "authfailed"]

/-- The answer read off the terminated buffer. -/
def verdict (boolGET : Bool) (strDatabuf : Bytes) : Bool :=
  if boolGET then
    find (lit "%E7") strDatabuf == none && find (lit "authfailed") strDatabuf == none
  else boolGET

def socketHttp (garbage : Int → UInt8) (server : Bytes → Server) (request : Bytes)
    (boolGET : Bool) : Outcome :=
  if (server request).connects then
    match recvLoop (server request).recvs garbage 0 with
    | .waiting => .waiting
    | .outOfBuffer => .outOfBuffer
    | .ended buf offset =>
      if 0 ≤ offset ∧ offset < recvBufSize then .returned (verdict boolGET (bufString buf offset))
      else .outOfBuffer
  else .returned false

/-- The request text of a POST. -/
def postRequest (host path post_content : Bytes) : Bytes :=
  lit "POST " ++ path ++ lit " HTTP/1.0\r\n" ++
  lit "Host: " ++ host ++ lit "\r\n" ++
  lit "User-Agent: Mozilla/5.0 (Windows; U; Windows NT 5.1; zh-CN; rv:1.9.2.3) Gecko/20100401 Firefox/3.6.3\r\n" ++
  lit "Content-Type:application/x-www-form-urlencoded\r\n" ++
  lit "Content-Length:" ++ lit (toString post_content.length) ++ lit "\r\n" ++
  lit "Connection:close\r\n\r\n" ++
  cstr post_content

def postData (garbage : Int → UInt8) (server : Bytes → Server) (host path post_content : Bytes) :
    Outcome :=
  socketHttp garbage server (postRequest host path post_content) true

/-! The receive loop on an answer that is sent and closed. -/

theorem store_nil (buf : Int → UInt8) (offset : Int) : store buf offset [] = buf := by
  funext a
  simp only [store, List.length_nil]
  rw [if_neg (by omega)]

theorem store_append (buf : Int → UInt8) (offset : Int) (d t : Bytes) :
    store (store buf offset d) (offset + d.length) t = store buf offset (d ++ t) := by
  funext a
  simp only [store, List.length_append]
  by_cases h1 : offset + d.length ≤ a ∧ a < offset + d.length + t.length
  · rw [if_pos h1, if_pos (by omega), List.getD_append_right _ _ _ _ (by omega)]
    congr 1
    omega
  · rw [if_neg h1]
    by_cases h2 : offset ≤ a ∧ a < offset + d.length
    · rw [if_pos h2, if_pos (by omega), List.getD_append _ _ _ _ (by omega)]
    · rw [if_neg h2, if_neg (by omega)]

/-- The bytes of a list of segments. -/
def received (segs : List Segment) : Bytes := (segs.map Subtype.val).flatten

@[simp] theorem received_nil : received [] = [] := rfl

@[simp] theorem received_cons (d : Segment) (segs : List Segment) :
    received (d :: segs) = d.val ++ received segs := rfl

/-- Data are stored one behind the other while there is room. -/
theorem recvLoop_data (rest : List Recv) : ∀ (segs : List Segment) (buf : Int → UInt8) (n : Nat),
    n ≤ recvBufSize →
    recvLoop (segs.map .data ++ rest) buf n =
      if n + (received segs).length ≤ recvBufSize
      then recvLoop rest (store buf n (received segs)) ((n + (received segs).length : Nat) : Int)
      else .outOfBuffer
  | [], buf, n, hn => by simp [store_nil, hn]
  | d :: segs, buf, n, hn => by
    simp only [List.map_cons, List.cons_append, recvLoop, received_cons, List.length_append]
    by_cases hd : n + d.val.length ≤ recvBufSize
    · have ih := recvLoop_data rest segs (store buf n d.val) (n + d.val.length) hd
      rw [if_pos (by omega), ← Int.natCast_add, ih, ← Nat.add_assoc,
        Int.natCast_add n d.val.length, store_append]
    · rw [if_neg (by omega), if_neg (by omega)]

theorem recvLoop_segments (segs : List Segment) (buf : Int → UInt8) (n : Nat)
    (hn : n ≤ recvBufSize) :
    recvLoop (segs.map .data ++ [.closed]) buf n =
      if n + (received segs).length ≤ recvBufSize
      then .ended (store buf n (received segs)) ((n + (received segs).length : Nat) : Int)
      else .outOfBuffer :=
  recvLoop_data [.closed] segs buf n hn

theorem bufString_store (buf : Int → UInt8) (s : Bytes) :
    bufString (store buf 0 s) (s.length : Nat) = cstr s := by
  unfold bufString
  congr 1
  apply List.ext_getElem
  · simp
  · intro i h1 h2
    simp only [List.getElem_map, List.getElem_range, store]
    rw [if_pos (by omega)]
    simp [List.getD_eq_getElem?_getD, List.getElem?_eq_getElem h2]

/-! Server behaviours on a POST. -/

/-- The connection is refused, or bytes are sent in any splitting and then the
    connection is closed. -/
inductive Reply where
  | refused
  | sends (segs : List Segment)

def Reply.server : Reply → Server
  | .refused => ⟨false, []⟩
  | .sends segs => ⟨true, segs.map .data ++ [.closed]⟩

/-- The bytes received in all. -/
def Reply.bytes : Reply → Bytes
  | .refused => []
  | .sends segs => received segs

theorem verdict_true_iff (s : Bytes) :
    verdict true s = true ↔ ∀ m ∈ markers, ¬ m <:+: s := by
  simp [verdict, markers, find_eq_none_iff]

/-- The answers that count as an acceptance: a made connection, an answer that
    leaves room for the terminating zero, and no marker before the first NUL. -/
theorem postData_true_iff (garbage : Int → UInt8) (server : Bytes → Server)
    (host path content : Bytes) (r : Reply)
    (hr : server (postRequest host path content) = r.server) :
    postData garbage server host path content = .returned true ↔
      ∃ segs, r = .sends segs ∧ (received segs).length < recvBufSize ∧
        ∀ m ∈ markers, ¬ m <:+: cstr (received segs) := by
  unfold postData socketHttp
  rw [hr]
  cases r with
  | refused => simp [Reply.server]
  | sends segs =>
    have hloop := recvLoop_segments segs garbage 0 (Nat.zero_le _)
    simp only [Int.natCast_zero, Nat.zero_add] at hloop
    simp only [Reply.server, if_true, hloop, Reply.sends.injEq, exists_eq_left']
    by_cases hfit : (received segs).length < recvBufSize
    · rw [if_pos (by omega)]
      simp only
      rw [if_pos (by omega), bufString_store, Outcome.returned.injEq, verdict_true_iff]
      simp [hfit]
    · by_cases hle : (received segs).length ≤ recvBufSize
      · rw [if_pos hle]
        simp only
        rw [if_neg (by omega)]
        simp [hfit]
      · rw [if_neg hle]
        simp [hfit]

/-- An acceptance means that the connection was made, the answer is not empty,
    and no failure marker occurs anywhere in it. A call that overruns the buffer
    may answer true for any bytes. -/
def AcceptsOnlyGood (garbage : Int → UInt8) (server : Bytes → Server)
    (host path content : Bytes) (r : Reply) : Prop :=
  postData garbage server host path content ≠ .outOfBuffer ∧
    (postData garbage server host path content = .returned true →
      r ≠ .refused ∧ r.bytes ≠ [] ∧ ∀ m ∈ markers, ¬ m <:+: r.bytes)

/-- The answers that leave no room for the terminating zero overrun the buffer. -/
theorem postData_outOfBuffer_iff (garbage : Int → UInt8) (server : Bytes → Server)
    (host path content : Bytes) (r : Reply)
    (hr : server (postRequest host path content) = r.server) :
    postData garbage server host path content = .outOfBuffer ↔ recvBufSize ≤ r.bytes.length := by
  unfold postData socketHttp
  rw [hr]
  cases r with
  | refused =>
    refine ⟨fun h => (nomatch h), fun h => ?_⟩
    exact absurd h (by decide)
  | sends segs =>
    have hloop := recvLoop_segments segs garbage 0 (Nat.zero_le _)
    simp only [Int.natCast_zero, Nat.zero_add] at hloop
    simp only [Reply.server, Reply.bytes, if_true, hloop]
    by_cases hle : (received segs).length ≤ recvBufSize
    · rw [if_pos hle]
      dsimp only
      split
      · next hfit =>
        refine ⟨fun h => (nomatch h), fun h => ?_⟩
        omega
      · next hfull => exact ⟨fun _ => by omega, fun _ => rfl⟩
    · rw [if_neg hle]
      exact ⟨fun _ => by omega, fun _ => rfl⟩

/-- A marker behind the first NUL is not seen. -/
theorem marker_seen_iff {bytes : Bytes} :
    ((∀ m ∈ markers, ¬ m <:+: cstr bytes) → bytes ≠ [] ∧ ∀ m ∈ markers, ¬ m <:+: bytes) ↔
      bytes ≠ [] ∧ ((∃ m ∈ markers, m <:+: bytes) → ∃ m ∈ markers, m <:+: cstr bytes) := by
  constructor
  · intro h
    refine ⟨?_, fun hin => ?_⟩
    · rintro rfl
      refine (h fun m hm hin => ?_).1 rfl
      have hnil : m = [] := List.infix_nil.mp hin
      rw [hnil] at hm
      revert hm
      decide
    · by_contra hno
      push Not at hno
      obtain ⟨m, hm, hin⟩ := hin
      exact (h hno).2 m hm hin
  · intro ⟨hne, himp⟩ hno
    refine ⟨hne, fun m hm hin => ?_⟩
    obtain ⟨m', hm', hin'⟩ := himp ⟨m, hm, hin⟩
    exact hno m' hm' hin'

/-- An acceptance means what it should exactly when the connection is refused, or the
    answer leaves room for the terminating zero, is not empty and, if it holds a marker
    at all, holds one before its first NUL. -/
theorem acceptsOnlyGood_iff (garbage : Int → UInt8) (server : Bytes → Server)
    (host path content : Bytes) (r : Reply)
    (hr : server (postRequest host path content) = r.server) :
    AcceptsOnlyGood garbage server host path content r ↔
      r = .refused ∨ (r.bytes.length < recvBufSize ∧ r.bytes ≠ [] ∧
        ((∃ m ∈ markers, m <:+: r.bytes) → ∃ m ∈ markers, m <:+: cstr r.bytes)) := by
  unfold AcceptsOnlyGood
  rw [ne_eq, postData_outOfBuffer_iff garbage server host path content r hr,
    postData_true_iff garbage server host path content r hr, Nat.not_le]
  cases r with
  | refused =>
    refine ⟨fun _ => .inl rfl, fun _ => ⟨by decide, fun h => ?_⟩⟩
    obtain ⟨segs, h, -⟩ := h
    cases h
  | sends segs =>
    simp only [Reply.bytes, Reply.sends.injEq, exists_eq_left', ne_eq, reduceCtorEq,
      not_false_eq_true, true_and, false_or]
    rw [← ne_eq, ← marker_seen_iff]
    refine and_congr_right fun hfit => ?_
    exact ⟨fun h hno => h ⟨hfit, hno⟩, fun h hans => h hans.2⟩

/-- A server that sends a plain answer and closes: the condition is met. -/
theorem acceptsOnlyGood_ok : AcceptsOnlyGood (fun _ => 0)
    (fun _ => (Reply.sends [⟨lit "ok", by decide⟩]).server) [] [] []
    (.sends [⟨lit "ok", by decide⟩]) :=
  (acceptsOnlyGood_iff _ _ _ _ _ _ rfl).mpr (by
    right
    refine ⟨by decide, by decide, ?_⟩
    intro h
    obtain ⟨m, hm, hin⟩ := h
    revert m
    decide)

/-- A server that closes without sending anything is taken as an acceptance. -/
theorem empty_answer_accepted : ¬ AcceptsOnlyGood (fun _ => 0)
    (fun _ => (Reply.sends []).server) [] [] [] (.sends []) := by
  intro h
  exact (h.2 (by decide)).2.1 rfl

end CardLogon
