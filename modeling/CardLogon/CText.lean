import Mathlib.Data.List.Infix
import Mathlib.Data.List.TakeWhile

/- C strings: the view up to the NUL, substring search, and `sprintf` with `%s`.

   A byte buffer read as a C string is its part before the first NUL (`cstr`); a
   `CStr` is a byte list that has no NUL, so that reading it back as a C string
   gives it unchanged. `find` is `std::string::find`: the first index a pattern
   occurs at. `sprintf` takes a format apart into pieces (`parse`) and fills the
   string arguments in (`render`): it knows `%%` and `%[-][width][.precision]s`;
   any other conversion, and a `%s` with no argument left, has no defined result
   (`none`). `sprintf_s` also gives none when the text and its NUL do not fit. -/
namespace CText

abbrev Bytes := List UInt8

/-- The bytes of a source literal. -/
def lit (s : String) : Bytes := s.toUTF8.data.toList

/-- A buffer read as a C string: the bytes before the first NUL. -/
def cstr (m : Bytes) : Bytes := m.takeWhile (· != 0)

/-- A C string: a byte list without NUL. -/
abbrev CStr := {s : Bytes // (0 : UInt8) ∉ s}

theorem cstr_no_nul (m : Bytes) : (0 : UInt8) ∉ cstr m := by
  intro h
  simpa using List.mem_takeWhile_imp h

theorem bne_nul_of_no_nul {s : Bytes} (h : (0 : UInt8) ∉ s) : ∀ c ∈ s, (c != 0) = true := by
  intro c hc
  simp only [bne_iff_ne, ne_eq]
  intro h0
  subst h0
  exact h hc

theorem cstr_of_no_nul {s : Bytes} (h : (0 : UInt8) ∉ s) : cstr s = s := by
  unfold cstr
  rw [List.takeWhile_eq_self_iff]
  exact bne_nul_of_no_nul h

@[simp] theorem cstr_val (s : CStr) : cstr s.val = s.val := cstr_of_no_nul s.property

theorem cstr_append_of_no_nul {s : Bytes} (h : (0 : UInt8) ∉ s) (t : Bytes) :
    cstr (s ++ t) = s ++ cstr t :=
  List.takeWhile_append_of_pos (bne_nul_of_no_nul h)

theorem cstr_append_of_nul {s : Bytes} (h : (0 : UInt8) ∈ s) (t : Bytes) : cstr (s ++ t) = cstr s := by
  unfold cstr
  rw [List.takeWhile_append, if_neg]
  intro hlen
  have hself := List.takeWhile_eq_self_iff.mp ((List.takeWhile_prefix _).eq_of_length hlen) 0 h
  simp at hself

/-! Substring search. -/

/-- The first index `pat` occurs at in `s`. -/
def find (pat : Bytes) : Bytes → Option Nat
  | [] => if pat.isPrefixOf [] then some 0 else none
  | c :: s => if pat.isPrefixOf (c :: s) then some 0 else (find pat s).map (· + 1)

theorem find_eq_none_iff (pat : Bytes) : ∀ s : Bytes, find pat s = none ↔ ¬ pat <:+: s
  | [] => by
    simp only [find]
    cases pat <;> simp
  | c :: s => by
    simp only [find, List.infix_cons_iff]
    by_cases h : pat <+: c :: s
    · simp [h]
    · simp only [List.isPrefixOf_iff_prefix, h, if_false, false_or, Option.map_eq_none_iff]
      exact find_eq_none_iff pat s

theorem find_eq_some {pat : Bytes} : ∀ {s : Bytes} {i : Nat}, find pat s = some i →
    s = s.take i ++ (pat ++ s.drop (i + pat.length))
  | [], i, h => by
    cases pat with
    | nil => simp
    | cons c pat => simp [find] at h
  | c :: s, i, h => by
    simp only [find] at h
    split at h
    · next hp =>
      obtain rfl : 0 = i := by simpa using h
      obtain ⟨t, ht⟩ := List.isPrefixOf_iff_prefix.mp hp
      rw [← ht]
      simp
    · obtain ⟨j, hj, rfl⟩ := Option.map_eq_some_iff.mp h
      have ih := find_eq_some hj
      rw [Nat.add_right_comm, List.take_succ_cons, List.drop_succ_cons, List.cons_append, ← ih]

/-! Formats. -/

/-- A piece of a format: a byte copied as it is, or a `%s` with its flag, width
    and precision. -/
inductive Piece where
  | byte (c : UInt8)
  | str (left : Bool) (width : Nat) (prec : Option Nat)
  deriving DecidableEq

/-- Where the format reader stands: outside conversions, just after `%`, after a
    `-` flag, in the width, or in the precision. -/
inductive FmtMode where
  | text
  | percent
  | flags
  | width (left : Bool) (w : Nat)
  | prec (left : Bool) (w p : Nat)
  deriving DecidableEq

def isDigit (c : UInt8) : Bool := 48 ≤ c && c ≤ 57
def digit (c : UInt8) : Nat := c.toNat - 48

/-- Read a format from a mode on; 37 is `%`, 45 is `-`, 46 is `.`, 115 is `s`. -/
def parseFrom : FmtMode → Bytes → Option (List Piece)
  | .text, [] => some []
  | _, [] => none
  | .text, c :: s => if c = 37 then parseFrom .percent s else (parseFrom .text s).map (.byte c :: ·)
  | .percent, c :: s =>
    if c = 37 then (parseFrom .text s).map (.byte 37 :: ·)
    else if c = 45 then parseFrom .flags s
    else if isDigit c && c != 48 then parseFrom (.width false (digit c)) s
    else if c = 46 then parseFrom (.prec false 0 0) s
    else if c = 115 then (parseFrom .text s).map (.str false 0 none :: ·)
    else none
  | .flags, c :: s =>
    if c = 45 then parseFrom .flags s
    else if isDigit c && c != 48 then parseFrom (.width true (digit c)) s
    else if c = 46 then parseFrom (.prec true 0 0) s
    else if c = 115 then (parseFrom .text s).map (.str true 0 none :: ·)
    else none
  | .width left w, c :: s =>
    if isDigit c then parseFrom (.width left (10 * w + digit c)) s
    else if c = 46 then parseFrom (.prec left w 0) s
    else if c = 115 then (parseFrom .text s).map (.str left w none :: ·)
    else none
  | .prec left w p, c :: s =>
    if isDigit c then parseFrom (.prec left w (10 * p + digit c)) s
    else if c = 115 then (parseFrom .text s).map (.str left w (some p) :: ·)
    else none

/-- The pieces of a format, itself a C string. -/
def parse (fmt : Bytes) : Option (List Piece) := parseFrom .text (cstr fmt)

/-- The part of an argument that a precision lets through. -/
def shown (prec : Option Nat) (a : Bytes) : Bytes :=
  match prec with
  | none => a
  | some p => a.take p

/-- A `%s` field: the argument as a C string, cut to the precision and padded
    with blanks to the width. -/
def field (left : Bool) (width : Nat) (prec : Option Nat) (a : Bytes) : Bytes :=
  let b := shown prec (cstr a)
  let pad := List.replicate (width - b.length) 32
  if left then b ++ pad else pad ++ b

/-- Fill the arguments into the pieces, in order. -/
def render : List Piece → List Bytes → Option Bytes
  | [], _ => some []
  | .byte c :: ps, as => (render ps as).map (c :: ·)
  | .str l w p :: ps, a :: as => (render ps as).map (field l w p a ++ ·)
  | .str _ _ _ :: _, [] => none

def sprintf (fmt : Bytes) (args : List Bytes) : Option Bytes :=
  (parse fmt).bind fun ps => render ps args

/-- `sprintf` into a buffer of `size` bytes, the NUL included. -/
def sprintf_s (size : Nat) (fmt : Bytes) (args : List Bytes) : Option Bytes :=
  (sprintf fmt args).bind fun out => if out.length < size then some out else none

theorem sprintf_s_eq_some {size : Nat} {fmt : Bytes} {args : List Bytes} {out : Bytes} :
    sprintf_s size fmt args = some out ↔ sprintf fmt args = some out ∧ out.length < size := by
  unfold sprintf_s
  cases sprintf fmt args with
  | none => simp
  | some o =>
    simp only [Option.bind_some, Option.some.injEq]
    by_cases h : o.length < size
    · rw [if_pos h, Option.some.injEq]
      constructor
      · intro he
        subst he
        exact ⟨rfl, h⟩
      · exact fun h' => h'.1
    · rw [if_neg h]
      constructor
      · intro h'; cases h'
      · intro he
        exact absurd (he.1 ▸ he.2) h

/-- A `%s` field holds as many of a byte other than the blank as its shown part. -/
theorem count_field {c : UInt8} (hc : c ≠ 32) (left : Bool) (width : Nat) (prec : Option Nat)
    (a : Bytes) : (field left width prec a).count c = (shown prec (cstr a)).count c := by
  have hpad : ∀ n, (List.replicate n (32 : UInt8)).count c = 0 := by
    intro n
    rw [List.count_replicate, if_neg (by simpa using hc.symm)]
  unfold field
  cases left <;> simp [List.count_append, hpad]

/-- A plain `%s` copies a C string as it is. -/
theorem field_plain {a : Bytes} (h : (0 : UInt8) ∉ a) : field false 0 none a = a := by
  simp [field, shown, cstr_of_no_nul h]

theorem parseFrom_append {s : Bytes} (hs : (37 : UInt8) ∉ s) (t : Bytes) :
    parseFrom .text (s ++ t) = (parseFrom .text t).map (s.map Piece.byte ++ ·) := by
  induction s with
  | nil => simp
  | cons c s ih =>
    have hc : c ≠ 37 := fun e => hs (e ▸ List.mem_cons_self)
    rw [List.cons_append, parseFrom, if_neg hc, ih (fun h => hs (List.mem_cons_of_mem c h))]
    cases parseFrom .text t <;> simp

theorem render_bytes (s : Bytes) (ps : List Piece) (as : List Bytes) :
    render (s.map Piece.byte ++ ps) as = (render ps as).map (s ++ ·) := by
  induction s with
  | nil => simp
  | cons c s ih =>
    rw [List.map_cons, List.cons_append, render, ih]
    cases render ps as <;> simp

/-- What the rest of a format makes of the arguments left. -/
def fillFrom (t : Bytes) (as : List Bytes) : Option Bytes :=
  (parseFrom .text t).bind fun ps => render ps as

theorem sprintf_eq (fmt : Bytes) (args : List Bytes) : sprintf fmt args = fillFrom (cstr fmt) args :=
  rfl

theorem fillFrom_nil (as : List Bytes) : fillFrom [] as = some [] := rfl

theorem fillFrom_text {s : Bytes} (hs : (37 : UInt8) ∉ s) (t : Bytes) (as : List Bytes) :
    fillFrom (s ++ t) as = (fillFrom t as).map (s ++ ·) := by
  simp only [fillFrom, parseFrom_append hs]
  cases parseFrom .text t with
  | none => rfl
  | some ps => exact render_bytes s ps as

theorem fillFrom_s {a : Bytes} (ha : (0 : UInt8) ∉ a) (t : Bytes) (as : List Bytes) :
    fillFrom (lit "%s" ++ t) (a :: as) = (fillFrom t as).map (a ++ ·) := by
  have hparse : parseFrom .text (lit "%s" ++ t) =
      (parseFrom .text t).map (.str false 0 none :: ·) := by
    rw [show lit "%s" = [37, 115] from rfl]
    simp [parseFrom, isDigit]
  rw [fillFrom, hparse, fillFrom]
  cases parseFrom .text t with
  | none => rfl
  | some ps => simp [render, field_plain ha]

end CText
