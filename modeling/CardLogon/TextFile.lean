import CardLogon.CTokens
import CardLogon.WhileLoop

/- Text files as the C library reads them: the text mode, `atoi`, lines, `fgets`, and
   `getline`.

   In text mode CR LF is one line end and Ctrl-Z the end of the file. `atoi` skips blanks,
   takes a sign and digits, and leaves the rest alone. `fgets` stores a line with its end,
   and a NUL behind it, and at the end of the file leaves the buffer as it is
   (`fgetsFor_buffer` says what the buffer holds after some calls: the last line that was
   there to read, or what it held before). `getline` gives a line without its end, and what
   is left unless the end of the file was reached. A loop that takes a line until then takes
   the parts of the text between the line ends, and ends (`eachLine_ends`). -/
namespace CText

/-- What a stream in text mode delivers. -/
def textMode : Bytes → Bytes
  | [] => []
  | 13 :: 10 :: s => 10 :: textMode s
  | c :: s => if c = 26 then [] else c :: textMode s

/-! One byte searched for. -/

theorem find_byte (c : UInt8) (s : Bytes) :
    find [c] s = if c ∈ s then some (s.takeWhile (· != c)).length else none := by
  induction s with
  | nil => rfl
  | cons d s ih =>
    rw [find, ih]
    by_cases h : d = c
    · subst h
      simp
    · have hne : ([c].isPrefixOf (d :: s)) = false := by
        simp [List.isPrefixOf, Ne.symm h]
      rw [hne, if_neg Bool.false_ne_true]
      by_cases hs : c ∈ s
      · simp [hs, h]
      · simp [hs, Ne.symm h]

theorem mem_of_find {c : UInt8} {s : Bytes} {i : Nat} (h : find [c] s = some i) : c ∈ s := by
  rw [find_byte] at h
  by_contra hc
  rw [if_neg hc] at h
  cases h

theorem notMem_of_find {c : UInt8} {s : Bytes} (h : find [c] s = none) : c ∉ s := by
  rw [find_byte] at h
  simpa using h

/-- The text behind the first such byte. -/
def behind (c : UInt8) (s : Bytes) : Bytes := (s.dropWhile (· != c)).drop 1

theorem behind_append {c : UInt8} {s : Bytes} (h : c ∈ s) (t : Bytes) :
    behind c (s ++ t) = behind c s ++ t := by
  have hne : s.dropWhile (· != c) ≠ [] := by
    rw [Ne, List.dropWhile_eq_nil_iff]
    intro hall
    simpa using hall c h
  unfold behind
  rw [List.dropWhile_append, if_neg (by simpa using hne),
    List.drop_append_of_le_length (List.length_pos_of_ne_nil hne)]

/-- The text before the byte, and the text behind it. -/
theorem take_drop_find {c : UInt8} {s : Bytes} {i : Nat} (h : find [c] s = some i) :
    s.take i = s.takeWhile (· != c) ∧ s.drop (i + 1) = behind c s := by
  have hs : s.takeWhile (· != c) ++ s.dropWhile (· != c) = s := List.takeWhile_append_dropWhile
  rw [find_byte] at h
  split at h
  · obtain rfl := Option.some.inj h
    constructor
    · calc s.take _ = (s.takeWhile (· != c) ++ s.dropWhile (· != c)).take _ := by rw [hs]
        _ = s.takeWhile (· != c) := List.take_left
    · calc s.drop _ = ((s.takeWhile (· != c) ++ s.dropWhile (· != c)).drop _).drop 1 := by
            rw [hs, List.drop_drop]
        _ = behind c s := by
          rw [List.drop_left]
          rfl
  · cases h

/-! `atoi`. -/

/-- 43 and 45 are the signs. -/
def signed : Bytes → Int
  | 43 :: s => readDec (s.takeWhile isDigit)
  | 45 :: s => -readDec (s.takeWhile isDigit)
  | s => readDec (s.takeWhile isDigit)

def atoi (s : Bytes) : Int := signed (s.dropWhile isSpace)

theorem takeWhile_append_stop {p : UInt8 → Bool} {a b : Bytes} (hb : b.takeWhile p = []) :
    (a ++ b).takeWhile p = a.takeWhile p := by
  induction a with
  | nil => exact hb
  | cons c a ih =>
    rw [List.cons_append, List.takeWhile_cons, List.takeWhile_cons, ih]

theorem signed_append {a b : Bytes} (ha : a ≠ []) (hb : b.takeWhile isDigit = []) :
    signed (a ++ b) = signed a := by
  obtain ⟨c, a, rfl⟩ := List.exists_cons_of_ne_nil ha
  have htake := takeWhile_append_stop (a := a) hb
  by_cases h₁ : c = 43
  · subst h₁
    show ((readDec ((a ++ b).takeWhile isDigit) : Nat) : Int) = _
    rw [htake]
    rfl
  · by_cases h₂ : c = 45
    · subst h₂
      show -((readDec ((a ++ b).takeWhile isDigit) : Nat) : Int) = _
      rw [htake]
      rfl
    · have hother : ∀ s, signed (c :: s) = readDec ((c :: s).takeWhile isDigit) := by
        intro s
        rw [signed]
        · rintro s' ⟨⟩
          exact h₁ rfl
        · rintro s' ⟨⟩
          exact h₂ rfl
      rw [List.cons_append, hother, hother, ← List.cons_append, takeWhile_append_stop hb]

/-- What does not begin with a number adds nothing. -/
theorem atoi_append (a : Bytes) {b : Bytes} (hb : b.takeWhile isDigit = []) (h0 : atoi b = 0) :
    atoi (a ++ b) = atoi a := by
  unfold atoi at h0 ⊢
  by_cases ha : a.dropWhile isSpace = []
  · rw [List.dropWhile_append, ha, List.isEmpty_nil, if_pos rfl, h0]
    rfl
  · rw [List.dropWhile_append, if_neg (by simpa using ha)]
    exact signed_append ha hb

/-- A text of which no front part goes on with a number. -/
def NoNumber (b : Bytes) : Prop :=
  ∀ n, (b.take n).takeWhile isDigit = [] ∧ atoi (b.take n) = 0

theorem NoNumber.atoi_take {b : Bytes} (hb : NoNumber b) (a : Bytes) (n : Nat) :
    atoi ((a ++ b).take n) = atoi (a.take n) := by
  obtain ⟨htake, h0⟩ := hb (n - a.length)
  rw [List.take_append]
  exact atoi_append _ htake h0

theorem noNumber_nil : NoNumber [] := by
  intro n
  rw [List.take_nil]
  exact ⟨rfl, rfl⟩

/-- A NUL ends a number. -/
theorem noNumber_nul (s : Bytes) : NoNumber (0 :: s) := by
  intro n
  cases n with
  | zero => exact ⟨rfl, rfl⟩
  | succ n => exact ⟨rfl, rfl⟩

theorem cstr_noNumber (s : Bytes) : ∃ b, s = cstr s ++ b ∧ NoNumber b := by
  refine ⟨s.dropWhile (· != 0), List.takeWhile_append_dropWhile.symm, ?_⟩
  cases hs : s.dropWhile (· != 0) with
  | nil => exact noNumber_nil
  | cons c b =>
    have hhead := List.head?_dropWhile_not (· != 0) s
    rw [hs] at hhead
    obtain rfl : c = 0 := by simpa using hhead
    exact noNumber_nul b

/-! Lines. -/

/-- The lines of a text, without their ends; the last one may have none. -/
def lines : Bytes → List Bytes
  | [] => []
  | c :: s =>
    if c = 10 then [] :: lines s
    else
      match lines s with
      | [] => [[c]]
      | l :: ls => (c :: l) :: ls

/-- A line with its end, of `n` bytes at most, and what is left. -/
def takeLine : Nat → Bytes → Bytes × Bytes
  | 0, s => ([], s)
  | _ + 1, [] => ([], [])
  | n + 1, c :: s =>
    if c = 10 then ([10], s) else (c :: (takeLine n s).1, (takeLine n s).2)

/-- `fgets` into a buffer for `n` bytes: the buffer after it, and what is left. -/
def fgets (n : Nat) (buf s : Bytes) : Bytes × Bytes :=
  match s with
  | [] => (buf, [])
  | c :: s =>
    let l := takeLine (n - 1) (c :: s)
    (l.1 ++ 0 :: buf.drop (l.1.length + 1), l.2)

/-- `k` calls of it. -/
def fgetsFor (n : Nat) : Nat → Bytes → Bytes → Bytes × Bytes
  | 0, buf, s => (buf, s)
  | k + 1, buf, s => fgetsFor n k (fgets n buf s).1 (fgets n buf s).2

theorem lines_ne_nil {s : Bytes} (h : s ≠ []) : lines s ≠ [] := by
  obtain ⟨c, s, rfl⟩ := List.exists_cons_of_ne_nil h
  rw [lines]
  split
  · exact List.cons_ne_nil _ _
  · split
    · exact List.cons_ne_nil _ _
    · exact List.cons_ne_nil _ _

/-- A line end, or nothing at the end of the text. -/
def LineEnd (e : Bytes) : Prop := e = [10] ∨ e = []

theorem LineEnd.noNumber {e : Bytes} (he : LineEnd e) : NoNumber e := by
  obtain rfl | rfl := he
  · intro n
    cases n with
    | zero => exact ⟨rfl, rfl⟩
    | succ n =>
      rw [List.take_succ_cons, List.take_nil]
      exact ⟨rfl, rfl⟩
  · exact noNumber_nil

/-- The first line, where there is room for it. -/
theorem takeLine_lines {s l : Bytes} {ls : List Bytes} {n : Nat} (h : lines s = l :: ls)
    (hl : l.length < n) :
    ∃ e, LineEnd e ∧ (takeLine n s).1 = l ++ e ∧ lines (takeLine n s).2 = ls := by
  induction s generalizing l ls n with
  | nil => cases h
  | cons c s ih =>
    obtain ⟨n, rfl⟩ := Nat.exists_eq_succ_of_ne_zero (by omega : n ≠ 0)
    rw [lines] at h
    by_cases hc : c = 10
    · rw [if_pos hc] at h
      cases h
      refine ⟨[10], .inl rfl, ?_, ?_⟩
      · rw [takeLine, if_pos hc]
        rfl
      · rw [takeLine, if_pos hc]
    · rw [if_neg hc] at h
      rw [takeLine, if_neg hc]
      cases hs : lines s with
      | nil =>
        have hnil : s = [] := by
          by_contra hne
          exact lines_ne_nil hne hs
        subst hnil
        rw [hs] at h
        cases h
        cases n with
        | zero => exact absurd hl (by simp)
        | succ n => exact ⟨[], .inr rfl, rfl, rfl⟩
      | cons l' ls' =>
        rw [hs] at h
        cases h
        obtain ⟨e, he, hline, hrest⟩ := ih hs (Nat.lt_of_succ_lt_succ hl)
        exact ⟨e, he, congrArg (c :: ·) hline, hrest⟩

/-- The buffer holds this line. -/
def BufferHolds (buf l : Bytes) : Prop := ∃ e rest, LineEnd e ∧ buf = l ++ e ++ 0 :: rest

theorem fgets_lines {s l : Bytes} {ls : List Bytes} {n : Nat} (buf : Bytes) (h : lines s = l :: ls)
    (hl : l.length < n) :
    BufferHolds (fgets (n + 1) buf s).1 l ∧ lines (fgets (n + 1) buf s).2 = ls := by
  cases s with
  | nil => cases h
  | cons c s =>
    obtain ⟨e, he, hline, hrest⟩ := takeLine_lines h hl
    refine ⟨⟨e, buf.drop ((l ++ e).length + 1), he, ?_⟩, hrest⟩
    show (takeLine n (c :: s)).1 ++ 0 :: buf.drop ((takeLine n (c :: s)).1.length + 1) = _
    rw [hline]

/-- After some calls the buffer holds the last line that they found, or, where the text was
    at its end, what it held before. -/
theorem fgetsFor_buffer {n : Nat} (k : Nat) (buf : Bytes) {s : Bytes}
    (hs : ∀ l ∈ lines s, l.length < n) :
    (((lines s).take k).getLast? = none → (fgetsFor (n + 1) k buf s).1 = buf) ∧
    (∀ l, ((lines s).take k).getLast? = some l → BufferHolds (fgetsFor (n + 1) k buf s).1 l) := by
  induction k generalizing buf s with
  | zero => exact ⟨fun _ => rfl, fun l hl => by cases hl⟩
  | succ k ih =>
    cases hls : lines s with
    | nil =>
      have hnil : s = [] := by
        by_contra hne
        exact lines_ne_nil hne hls
      subst hnil
      have hrest := ih buf hs
      rw [hls, List.take_nil] at hrest
      rw [List.take_nil]
      exact hrest
    | cons l ls =>
      obtain ⟨hbuf, hlines⟩ := fgets_lines buf hls (hs l (by rw [hls]; exact List.mem_cons_self))
      have hrest := ih (fgets (n + 1) buf s).1 (s := (fgets (n + 1) buf s).2) (by
        rw [hlines]
        intro l' hl'
        exact hs l' (by rw [hls]; exact List.mem_cons_of_mem _ hl'))
      rw [hlines] at hrest
      rw [List.take_succ_cons, List.getLast?_cons]
      constructor
      · intro h
        cases h
      · intro l' hl'
        cases hlast : (ls.take k).getLast? with
        | none =>
          rw [hlast] at hl'
          cases hl'
          rw [fgetsFor, hrest.1 hlast]
          exact hbuf
        | some l'' =>
          rw [hlast] at hl'
          cases hl'
          exact hrest.2 _ hlast

/-! `getline`. -/

/-- The line, and what is left; `none` when the end of the file was reached. -/
def getline (s : Bytes) : Bytes × Option Bytes :=
  (s.takeWhile (· != 10),
    match s.dropWhile (· != 10) with
    | [] => none
    | _ :: rest => some rest)

theorem splitOn_getline (s : Bytes) :
    s.splitOn 10 = (getline s).1 :: ((getline s).2.map (List.splitOn 10)).getD [] := by
  induction s with
  | nil => rfl
  | cons c s ih =>
    rw [List.splitOn_cons_eq_if_modifyHead]
    by_cases hc : c = 10
    · subst hc
      rfl
    · have hne : (c != 10) = true := by simpa using hc
      rw [if_neg (by simpa using hc), ih, List.modifyHead_cons]
      simp only [getline, List.takeWhile_cons, List.dropWhile_cons, hne, if_true]

theorem length_getline {s rest : Bytes} (h : (getline s).2 = some rest) :
    rest.length < s.length := by
  have hle : (s.dropWhile (· != 10)).length ≤ s.length := (List.dropWhile_suffix _).length_le
  unfold getline at h
  dsimp only at h
  split at h
  · cases h
  · next c r heq =>
    cases h
    rw [heq, List.length_cons] at hle
    exact hle

section Loop

open WhileLoop

variable {τ : Type*}

/-- A round of `while (!eof)`, which takes a line. -/
def eachLine (body : τ → Bytes → τ) : Option Bytes × τ → Option (Option Bytes × τ)
  | (none, _) => none
  | (some s, t) => some ((getline s).2, body t (getline s).1)

theorem eachLine_ends (body : τ → Bytes → τ) (s : Bytes) (t : τ) :
    Ends (eachLine body) (some s, t) (s.splitOn 10).length (none, (s.splitOn 10).foldl body t) := by
  induction hn : s.length using Nat.strong_induction_on generalizing s t with
  | _ n ih =>
    rw [splitOn_getline, List.length_cons, List.foldl_cons]
    have hround : eachLine body (some s, t) = some ((getline s).2, body t (getline s).1) := rfl
    apply Ends.step hround
    cases hrest : (getline s).2 with
    | none => exact .stop rfl
    | some rest => exact ih rest.length (hn ▸ length_getline hrest) rest _ rfl

end Loop

end CText
