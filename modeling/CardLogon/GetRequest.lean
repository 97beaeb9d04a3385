import CardLogon.PostRequest
import CardLogon.ReceiveLoop

/- `getData`: the request that logs the last user out at the login server, before a card's
   own login is posted.

   The content is put behind the path and a question mark. The call answers nothing; it comes
   back when the server refuses the connection or its answer leaves room in the buffer.

   What is proved: `get_reads_back`. With a host, a path and a content on one line, and no
   question mark in the path, a reader of HTTP/1.0 finds the path, the content and the host,
   no length and no body; and the call comes back for exactly the answers for which a POST
   does. -/
namespace CardLogon
open CText HttpMessage

/-- The request text of a GET. -/
def getRequest (host path get_content : Bytes) : Bytes :=
  lit "GET " ++ path ++ lit "?" ++ get_content ++ lit " HTTP/1.0\r\n" ++
  lit "Host: " ++ host ++ lit "\r\n" ++
  lit "User-Agent: Mozilla/5.0 (Windows; U; Windows NT 5.1; zh-CN; rv:1.9.2.3) Gecko/20100401 Firefox/3.6.3\r\n" ++
  lit "Connection:close\r\n\r\n"

/-- Its outcome is dropped by the caller. -/
def getData (garbage : Int → UInt8) (server : Bytes → Server) (host path get_content : Bytes) :
    Outcome :=
  socketHttp garbage server (getRequest host path get_content) false

/-- It is over, whatever it answers. -/
def Outcome.over : Outcome → Bool
  | .returned _ => true
  | _ => false

/-! The request. -/

section
variable (host path get_content : Bytes)

/-- 63 is the question mark. -/
def getTarget : Bytes := path ++ 63 :: get_content

def getLine : Bytes := lit "GET" ++ 32 :: (getTarget path get_content ++ 32 :: lit "HTTP/1.0")

def getFields : List Bytes := [hostField host, agentField, connectionField]

theorem getRequest_eq : getRequest host path get_content =
    (getLine path get_content :: getFields host).flatMap (· ++ crlf) ++ (crlf ++ []) := by
  have hget : lit "GET " = lit "GET" ++ [32] ∧ lit "?" = [63] := by decide +kernel
  obtain ⟨-, h₂, h₃, h₄, h₅, -, -, h₈⟩ := literals_end_lines
  unfold getRequest getLine getTarget getFields hostField
  rw [hget.1, hget.2, h₂, h₃, h₄, h₅, h₈]
  simp only [List.flatMap_cons, List.flatMap_nil, List.append_assoc, List.cons_append,
    List.nil_append, List.append_nil]

variable {host path get_content}

theorem getLines_ok (hhost : OneLine host) (hpath : OneLine path) (hget : OneLine get_content) :
    ∀ l ∈ getLine path get_content :: getFields host, l ≠ [] ∧ OneLine l := by
  have hfixed : OneLine (lit "GET") ∧ OneLine (lit "HTTP/1.0") ∧ OneLine (lit "Host") := by
    decide +kernel
  have hwhole : ∀ l ∈ [agentField, connectionField], l ≠ [] ∧ OneLine l := by decide +kernel
  obtain ⟨⟨hg₁, hg₂⟩, ⟨hv₁, hv₂⟩, hh₁, hh₂⟩ := hfixed
  intro l hl
  simp only [getFields, List.mem_cons, List.not_mem_nil, or_false] at hl
  rcases hl with rfl | rfl | rfl | rfl
  · unfold getLine getTarget OneLine
    simp [hg₁, hg₂, hv₁, hv₂, hpath.1, hpath.2, hget.1, hget.2]
  · unfold hostField OneLine
    simp [hh₁, hh₂, hhost.1, hhost.2]
  · exact hwhole _ (by simp)
  · exact hwhole _ (by simp)

/-- The values of the fields; there is no length among them. -/
theorem get_values (l body : Bytes) :
    Message.values ⟨l, getFields host, body⟩ (lit "Host") = [host] ∧
      Message.values ⟨l, getFields host, body⟩ (lit "Content-Length") = [] := by
  have hother : fieldValue (lit "Host") agentField = none ∧
      fieldValue (lit "Host") connectionField = none ∧
      fieldValue (lit "Content-Length") agentField = none ∧
      fieldValue (lit "Content-Length") connectionField = none := by
    decide +kernel
  obtain ⟨h₁, h₂, h₃, h₄⟩ := hother
  have hhost : fieldValue (lit "Host") (hostField host) = some host :=
    fieldValue_eq (by decide +kernel) (32 :: host)
  have hlength : fieldValue (lit "Content-Length") (hostField host) = none :=
    fieldValue_other (by decide +kernel) (by decide +kernel) _
  unfold Message.values getFields
  simp only [List.filterMap_cons, List.filterMap_nil, hhost, hlength, h₁, h₂, h₃, h₄, and_self]

end

/-! The call. -/

/-- A request is over when the connection is refused, or the answer leaves room for the
    terminating zero; what kind of request it is does not matter. -/
theorem socketHttp_over (garbage : Int → UInt8) (server : Bytes → Server) (request : Bytes)
    (boolGET : Bool) (r : Reply) (hr : server request = r.server) :
    (socketHttp garbage server request boolGET).over = true ↔
      r = .refused ∨ r.bytes.length < recvBufSize := by
  unfold socketHttp
  rw [hr]
  cases r with
  | refused => simp [Reply.server, Outcome.over]
  | sends segs =>
    have hloop := recvLoop_segments segs garbage 0 (Nat.zero_le _)
    simp only [Int.natCast_zero, Nat.zero_add] at hloop
    simp only [Reply.server, if_true, hloop, Reply.bytes, reduceCtorEq, false_or]
    by_cases hle : (received segs).length ≤ recvBufSize
    · rw [if_pos hle]
      dsimp only
      by_cases hlt : (received segs).length < recvBufSize
      · rw [if_pos ⟨by omega, by omega⟩]
        simp [Outcome.over, hlt]
      · rw [if_neg (by omega)]
        simp [Outcome.over, hlt]
    · have hno : ¬ (received segs).length < recvBufSize := by omega
      rw [if_neg hle]
      simp [Outcome.over, hno]

/-- The reader takes the request apart into the path, the content and the host; and the call
    comes back when the server refuses, or its answer fits. -/
theorem get_reads_back (tolerant : Bool) (host path get_content : Bytes)
    (hhost : OneLine host) (hpath : OneLine path) (hget : OneLine get_content)
    (hmark : (63 : UInt8) ∉ path) :
    (∃ m target, readMessage tolerant (getRequest host path get_content) = some m ∧
      readRequestLine m.requestLine = some ⟨lit "GET", target, lit "HTTP/1.0"⟩ ∧
      cutFirst 63 target = some (path, get_content) ∧ m.values (lit "Host") = [host] ∧
      m.values (lit "Content-Length") = [] ∧ m.body = []) ∧
    ∀ (garbage : Int → UInt8) (server : Bytes → Server) (r : Reply),
      server (getRequest host path get_content) = r.server →
        ((getData garbage server host path get_content).over = true ↔
          r = .refused ∨ r.bytes.length < recvBufSize) := by
  refine ⟨⟨⟨getLine path get_content, getFields host, []⟩, getTarget path get_content, ?_, ?_, ?_,
    (get_values _ _).1, (get_values _ _).2, rfl⟩, fun garbage server r hr => ?_⟩
  · rw [getRequest_eq]
    exact readMessage_eq tolerant (getLines_ok hhost hpath hget) []
  · exact readRequestLine_eq (by decide +kernel) (by decide +kernel) _
  · exact cutFirst_eq hmark
  · exact socketHttp_over garbage server _ false r hr

/-- The request of the source's own example. -/
theorem logout_reads_back :
    ∃ m target, readMessage true (getRequest (lit "192.168.0.11") (lit "/ajaxlogout")
        (lit "_t=1561370397125")) = some m ∧
      readRequestLine m.requestLine = some ⟨lit "GET", target, lit "HTTP/1.0"⟩ ∧
      cutFirst 63 target = some (lit "/ajaxlogout", lit "_t=1561370397125") ∧
      m.values (lit "Host") = [lit "192.168.0.11"] ∧ m.values (lit "Content-Length") = [] ∧
      m.body = [] :=
  (get_reads_back true (lit "192.168.0.11") (lit "/ajaxlogout") (lit "_t=1561370397125")
    (by decide +kernel) (by decide +kernel) (by decide +kernel) (by decide +kernel)).1

end CardLogon
