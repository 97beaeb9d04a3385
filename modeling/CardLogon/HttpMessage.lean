import CardLogon.CTokens

/- Reading an HTTP/1.0 request.

   `readHeader` takes lines until one is empty; what follows is the body. A line ends with
   CR LF, and for a reader that is `tolerant` with a bare LF too. A line of the header is a
   name, a colon and a value, with one blank in front of the value or none; the request line
   is a method, a path and a version, the method up to the first blank and the version from
   the last one on. Names count without case.

   `readHeader_lines` says that lines without CR and LF which are not empty, ended by CR LF
   each, are read back with whatever body follows the empty line. -/
namespace HttpMessage
open CText

/-- The end of a line. -/
def crlf : Bytes := [13, 10]

/-- The lines of the header and the body behind it, with `l` read of a line. -/
def readHeader (tolerant : Bool) : Bytes → Bytes → Option (List Bytes × Bytes)
  | l, 13 :: 10 :: s =>
    if l = [] then some ([], s) else (readHeader tolerant [] s).map fun p => (l :: p.1, p.2)
  | l, c :: s =>
    if tolerant && c == 10 then
      if l = [] then some ([], s) else (readHeader tolerant [] s).map fun p => (l :: p.1, p.2)
    else readHeader tolerant (l ++ [c]) s
  | _, [] => none

structure Message where
  requestLine : Bytes
  fields : List Bytes
  body : Bytes
  deriving DecidableEq

def readMessage (tolerant : Bool) (s : Bytes) : Option Message :=
  match readHeader tolerant [] s with
  | some (l :: fields, body) => some ⟨l, fields, body⟩
  | _ => none

/-- Cut at the first `c`, or at the last. -/
def cutFirst (c : UInt8) (s : Bytes) : Option (Bytes × Bytes) :=
  match s.dropWhile (· != c) with
  | [] => none
  | _ :: t => some (s.takeWhile (· != c), t)

def cutLast (c : UInt8) (s : Bytes) : Option (Bytes × Bytes) :=
  (cutFirst c s.reverse).map fun p => (p.2.reverse, p.1.reverse)

structure RequestLine where
  method : Bytes
  path : Bytes
  version : Bytes
  deriving DecidableEq

/-- The method ends at the first blank (32) and the version begins behind the last one, so that
    a path may have blanks. -/
def readRequestLine (l : Bytes) : Option RequestLine :=
  (cutFirst 32 l).bind fun p => (cutLast 32 p.2).map fun q => ⟨p.1, q.1, q.2⟩

/-- One blank at the front does not count. -/
def trimBlank : Bytes → Bytes
  | 32 :: v => v
  | v => v

/-- The value of a line of this name; 58 is the colon. -/
def fieldValue (name l : Bytes) : Option Bytes :=
  (cutFirst 58 l).bind fun p =>
    if p.1.map lower = name.map lower then some (trimBlank p.2) else none

/-- All the values of this name. -/
def Message.values (m : Message) (name : Bytes) : List Bytes := m.fields.filterMap (fieldValue name)

/-- A number: digits and nothing else. -/
def readNumber (s : Bytes) : Option Nat := if s ≠ [] ∧ s.all isDigit then some (readDec s) else none

/-! Cutting. -/

section
variable {c : UInt8} {a b : Bytes}

theorem cutFirst_eq (h : c ∉ a) : cutFirst c (a ++ c :: b) = some (a, b) := by
  have hall : ∀ x ∈ a, (x != c) = true := by
    intro x hx
    rw [bne_iff_ne]
    rintro rfl
    exact h hx
  unfold cutFirst
  rw [List.dropWhile_append_of_pos hall, List.takeWhile_append_of_pos hall]
  simp

theorem cutLast_eq (h : c ∉ b) : cutLast c (a ++ c :: b) = some (a, b) := by
  have hrev : (a ++ c :: b).reverse = b.reverse ++ c :: a.reverse := by
    rw [List.reverse_append, List.reverse_cons, List.append_assoc]
    rfl
  unfold cutLast
  rw [hrev, cutFirst_eq (by simpa using h), Option.map_some, List.reverse_reverse,
    List.reverse_reverse]

end

theorem readRequestLine_eq {method version : Bytes} (hm : (32 : UInt8) ∉ method)
    (hv : (32 : UInt8) ∉ version) (path : Bytes) :
    readRequestLine (method ++ 32 :: (path ++ 32 :: version)) = some ⟨method, path, version⟩ := by
  unfold readRequestLine
  rw [cutFirst_eq hm, Option.bind_some, cutLast_eq hv]
  rfl

theorem trimBlank_self {v : Bytes} (h : v.head? ≠ some 32) : trimBlank v = v := by
  unfold trimBlank
  split
  · exact absurd rfl h
  · rfl

theorem fieldValue_eq {name : Bytes} (h : (58 : UInt8) ∉ name) (v : Bytes) :
    fieldValue name (name ++ 58 :: v) = some (trimBlank v) := by
  unfold fieldValue
  rw [cutFirst_eq h, Option.bind_some, if_pos rfl]

/-- A line of another name. -/
theorem fieldValue_other {name name' : Bytes} (h : (58 : UInt8) ∉ name')
    (hne : name'.map lower ≠ name.map lower) (v : Bytes) :
    fieldValue name (name' ++ 58 :: v) = none := by
  unfold fieldValue
  rw [cutFirst_eq h, Option.bind_some, if_neg hne]

theorem readNumber_dec (n : Nat) : readNumber (dec n) = some n := by
  have hdigits : (dec n).all isDigit = true := by
    rw [List.all_eq_true]
    exact fun c hc => isDigit_of_mem_dec hc
  unfold readNumber
  rw [if_pos ⟨dec_ne_nil n, hdigits⟩, readDec_dec]

/-! The header. -/

/-- Neither of the bytes of a line end. -/
def OneLine (l : Bytes) : Prop := (13 : UInt8) ∉ l ∧ (10 : UInt8) ∉ l

instance (l : Bytes) : Decidable (OneLine l) := inferInstanceAs (Decidable (_ ∧ _))

section
variable (tolerant : Bool)

/-- A line is read to its end. -/
theorem readHeader_line {l : Bytes} (hl : OneLine l) (acc s : Bytes) :
    readHeader tolerant acc (l ++ 13 :: 10 :: s) =
      readHeader tolerant (acc ++ l) (13 :: 10 :: s) := by
  induction l generalizing acc with
  | nil => rw [List.append_nil, List.nil_append]
  | cons c l ih =>
    obtain ⟨hcr, hlf⟩ := hl
    rw [List.mem_cons, not_or] at hcr hlf
    have hc : (tolerant && c == 10) = false := by
      rw [beq_eq_false_iff_ne.mpr (Ne.symm hlf.1), Bool.and_false]
    calc readHeader tolerant acc (c :: (l ++ 13 :: 10 :: s))
      _ = readHeader tolerant (acc ++ [c]) (l ++ 13 :: 10 :: s) := by
        rw [readHeader, hc, if_neg Bool.false_ne_true]
        rintro s' ⟨⟩
        exact absurd rfl hcr.1
      _ = readHeader tolerant (acc ++ [c] ++ l) (13 :: 10 :: s) := ih ⟨hcr.2, hlf.2⟩ _
      _ = readHeader tolerant (acc ++ c :: l) (13 :: 10 :: s) := by
        rw [List.append_assoc]
        rfl

/-- Lines that are not empty come back, and the body behind the empty line, whatever it
    is. -/
theorem readHeader_lines {ls : List Bytes} (hls : ∀ l ∈ ls, l ≠ [] ∧ OneLine l) (body : Bytes) :
    readHeader tolerant [] (ls.flatMap (· ++ crlf) ++ (crlf ++ body)) = some (ls, body) := by
  induction ls with
  | nil => rfl
  | cons l ls ih =>
    obtain ⟨hne, hline⟩ := hls l List.mem_cons_self
    have hrest := ih fun l' hl' => hls l' (List.mem_cons_of_mem l hl')
    have hshape : (l :: ls).flatMap (· ++ crlf) ++ (crlf ++ body) =
        l ++ 13 :: 10 :: (ls.flatMap (· ++ crlf) ++ (crlf ++ body)) := by
      rw [List.flatMap_cons, List.append_assoc, List.append_assoc]
      rfl
    rw [hshape, readHeader_line tolerant hline, List.nil_append, readHeader, if_neg hne, hrest]
    rfl

theorem readMessage_eq {l : Bytes} {fields : List Bytes}
    (hls : ∀ l' ∈ l :: fields, l' ≠ [] ∧ OneLine l') (body : Bytes) :
    readMessage tolerant ((l :: fields).flatMap (· ++ crlf) ++ (crlf ++ body)) =
      some ⟨l, fields, body⟩ := by
  unfold readMessage
  rw [readHeader_lines tolerant hls]

end

end HttpMessage
