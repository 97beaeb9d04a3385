import CardLogon.CFormat
import Mathlib.Data.List.Count

/- Lexing SQL text under MySQL's default quoting rules.

   The lexer is a machine with one step a byte (`delta`) that emits tokens: a
   byte outside literals, or a whole string literal with its kind of quote and
   its value. Inside a literal a quote of the same kind closes it, unless it is
   doubled, and a backslash escapes the next byte (`\%` and `\_` keep the
   backslash). Comments (`#`, `-- `, `/* */`) emit nothing; a back-quoted name
   emits its bytes.

   `Denotes q raw value` says what the bytes between two quotes stand for. It
   keeps the number of bytes that are neither the quote nor a backslash, and never
   makes a value longer, so that a literal whose value is the pasted field can
   only be the field itself, read byte for byte: `Clean q field`. For a template
   with a quoted `%s` in each slot, `Template.lex_text_iff` says that the filled
   text lexes as the template exactly when every field is clean for its quote; and a
   filled text that is used as a format itself is the template with its fields printed
   once more (`sprintf_printed`). -/
namespace SqlLex
open CText

/-- A byte outside string literals, or a string literal. -/
inductive Token where
  | ch (c : UInt8)
  | lit (q : UInt8) (v : Bytes)
  deriving DecidableEq

/-- Where the lexer stands. `quote` is just after a quote inside a literal, which
    closes it or is the first of a doubled one. -/
inductive Mode where
  | code
  | minus
  | minus2
  | slash
  | line
  | block
  | star
  | backtick
  | str (q : UInt8) (acc : Bytes)
  | esc (q : UInt8) (acc : Bytes)
  | quote (q : UInt8) (acc : Bytes)
  deriving DecidableEq

/-- What an escaped byte stands for: `\0 \b \n \r \t \Z`, the two wildcards, and
    any other byte for itself. -/
def unescape (c : UInt8) : Bytes :=
  if c = 48 then [0]
  else if c = 98 then [8]
  else if c = 110 then [10]
  else if c = 114 then [13]
  else if c = 116 then [9]
  else if c = 90 then [26]
  else if c = 37 ∨ c = 95 then [92, c]
  else [c]

/-- A byte outside literals and comments. -/
def codeStep (c : UInt8) : Mode × List Token :=
  if c = 34 ∨ c = 39 then (.str c [], [])
  else if c = 96 then (.backtick, [.ch c])
  else if c = 35 then (.line, [])
  else if c = 45 then (.minus, [])
  else if c = 47 then (.slash, [])
  else (.code, [.ch c])

/-- Emit tokens before a step. -/
def after (ts : List Token) (r : Mode × List Token) : Mode × List Token := (r.1, ts ++ r.2)

def delta : Mode → UInt8 → Mode × List Token
  | .code, c => codeStep c
  | .minus, c => if c = 45 then (.minus2, []) else after [.ch 45] (codeStep c)
  | .minus2, c =>
    if c = 10 then (.code, [])
    else if c ≤ 32 then (.line, [])
    else if c = 45 then (.minus2, [.ch 45])
    else after [.ch 45, .ch 45] (codeStep c)
  | .slash, c => if c = 42 then (.block, []) else after [.ch 47] (codeStep c)
  | .line, c => if c = 10 then (.code, []) else (.line, [])
  | .block, c => if c = 42 then (.star, []) else (.block, [])
  | .star, c => if c = 47 then (.code, []) else if c = 42 then (.star, []) else (.block, [])
  | .backtick, c => if c = 96 then (.code, [.ch c]) else (.backtick, [.ch c])
  | .str q acc, c =>
    if c = q then (.quote q acc, [])
    else if c = 92 then (.esc q acc, [])
    else (.str q (acc ++ [c]), [])
  | .esc q acc, c => (.str q (acc ++ unescape c), [])
  | .quote q acc, c => if c = q then (.str q (acc ++ [q]), []) else after [.lit q acc] (codeStep c)

/-- The end of the text: an open literal, name or comment is an error. -/
def finish : Mode → Option (List Token)
  | .code | .line | .minus2 => some []
  | .minus => some [.ch 45]
  | .slash => some [.ch 47]
  | .quote q acc => some [.lit q acc]
  | .block | .star | .backtick | .str _ _ | .esc _ _ => none

def run : Mode → Bytes → Mode × List Token
  | m, [] => (m, [])
  | m, c :: s => after (delta m c).2 (run (delta m c).1 s)

def lexFrom (m : Mode) (s : Bytes) : Option (List Token) :=
  (finish (run m s).1).map ((run m s).2 ++ ·)

/-- The tokens of a text. -/
def lex (s : Bytes) : Option (List Token) := lexFrom .code s

theorem lexFrom_nil (m : Mode) : lexFrom m [] = finish m := by
  simp [lexFrom, run]

theorem lexFrom_cons (m : Mode) (c : UInt8) (s : Bytes) :
    lexFrom m (c :: s) = (lexFrom (delta m c).1 s).map ((delta m c).2 ++ ·) := by
  simp only [lexFrom, run, after, Option.map_map]
  congr 1
  funext ts
  simp

/-- A step that emits nothing. -/
theorem lexFrom_silent {m m' : Mode} {c : UInt8} (h : delta m c = (m', [])) (s : Bytes) :
    lexFrom m (c :: s) = lexFrom m' s := by
  rw [lexFrom_cons, h]
  cases lexFrom m' s <;> rfl

theorem run_append (m : Mode) (s t : Bytes) :
    run m (s ++ t) = after (run m s).2 (run (run m s).1 t) := by
  induction s generalizing m with
  | nil => simp [run, after]
  | cons c s ih => simp [run, after, ih]

theorem lexFrom_append (m : Mode) (s t : Bytes) :
    lexFrom m (s ++ t) = (lexFrom (run m s).1 t).map ((run m s).2 ++ ·) := by
  simp only [lexFrom, run_append, after, Option.map_map]
  congr 1
  funext ts
  simp

/-! What a literal stands for. -/

/-- The bytes between two quotes `q` and the value they stand for. -/
inductive Denotes (q : UInt8) : Bytes → Bytes → Prop where
  | nil : Denotes q [] []
  | plain {c : UInt8} {r v : Bytes} : c ≠ q → c ≠ 92 → Denotes q r v →
      Denotes q (c :: r) (c :: v)
  | doubled {r v : Bytes} : Denotes q r v → Denotes q (q :: q :: r) (q :: v)
  | escape {c : UInt8} {r v : Bytes} : Denotes q r v → Denotes q (92 :: c :: r) (unescape c ++ v)

/-- The two kinds of quote. -/
def isQuote (q : UInt8) : Bool := q = 34 || q = 39

theorem quote_ne_backslash {q : UInt8} (hq : isQuote q = true) : q ≠ 92 := by
  intro h
  subst h
  exact absurd hq (by decide)

/-- Neither the quote nor a backslash. -/
def ordinary (q c : UInt8) : Bool := c != q && c != 92

/-- A field that stands for itself inside quotes `q`: no quote of that kind, and
    every backslash directly before a `%` or a `_`. -/
def Clean (q : UInt8) (f : Bytes) : Prop :=
  q ∉ f ∧ ∀ pre post, f = pre ++ 92 :: post → ∃ c, post.head? = some c ∧ (c = 37 ∨ c = 95)

theorem unescape_ordinary (q : UInt8) (hq : isQuote q = true) (c : UInt8) :
    (unescape c).countP (ordinary q) = [c].countP (ordinary q) := by
  simp only [isQuote, Bool.or_eq_true, decide_eq_true_eq] at hq
  unfold unescape
  rcases hq with rfl | rfl
  all_goals
    split_ifs with h1 h2 h3 h4 h5 h6 h7
    · subst h1; decide
    · subst h2; decide
    · subst h3; decide
    · subst h4; decide
    · subst h5; decide
    · subst h6; decide
    · rcases h7 with rfl | rfl <;> decide
    · rfl

theorem unescape_length (c : UInt8) : (unescape c).length = if c = 37 ∨ c = 95 then 2 else 1 := by
  unfold unescape
  split_ifs <;> simp_all

/-- The ordinary bytes stay ordinary, one for one. -/
theorem Denotes.countP_ordinary {q : UInt8} (hq : isQuote q = true) {r v : Bytes}
    (h : Denotes q r v) : v.countP (ordinary q) = r.countP (ordinary q) := by
  induction h with
  | nil => rfl
  | plain _ _ _ ih => simp only [List.countP_cons, ih]
  | doubled _ ih => simp [ordinary, ih]
  | @escape c r v _ ih =>
    rw [List.countP_append, unescape_ordinary q hq, ih, ← List.countP_append]
    have h92 : ordinary q 92 = false := by simp [ordinary]
    simp [h92]

theorem Denotes.length_le {q : UInt8} {r v : Bytes} (h : Denotes q r v) : v.length ≤ r.length := by
  induction h with
  | nil => exact Nat.le_refl _
  | plain _ _ _ ih => simpa using ih
  | doubled _ ih => simp only [List.length_cons]; omega
  | @escape c r v _ ih =>
    have := unescape_length c
    simp only [List.length_append, List.length_cons]
    split at this <;> omega

theorem clean_nil (q : UInt8) : Clean q [] :=
  ⟨List.not_mem_nil, fun pre post h => by cases pre <;> cases h⟩

theorem clean_cons_plain {q c : UInt8} (hq : c ≠ q) (hc : c ≠ 92) (s : Bytes) :
    Clean q (c :: s) ↔ Clean q s := by
  constructor
  · intro h
    obtain ⟨h1, h2⟩ := h
    exact ⟨fun hm => h1 (List.mem_cons_of_mem c hm), fun pre post he => h2 (c :: pre) post (by rw [he]; rfl)⟩
  · intro h
    obtain ⟨h1, h2⟩ := h
    refine ⟨by simp [Ne.symm hq, h1], ?_⟩
    intro pre post he
    cases pre with
    | nil => exact absurd (List.cons.inj he).1 hc
    | cons p pre => exact h2 pre post (List.cons.inj he).2

theorem clean_cons_escape {q : UInt8} (hq : isQuote q = true) (c : UInt8) (s : Bytes) :
    Clean q (92 :: c :: s) ↔ (c = 37 ∨ c = 95) ∧ Clean q s := by
  have hq92 := quote_ne_backslash hq
  constructor
  · intro h
    obtain ⟨h1, h2⟩ := h
    obtain ⟨d, hd, hw⟩ := h2 [] (c :: s) rfl
    obtain rfl : c = d := by simpa using hd
    refine ⟨hw, fun hm => h1 (by simp [hm]), ?_⟩
    intro pre post he
    exact h2 (92 :: c :: pre) post (by rw [he]; rfl)
  · intro h
    obtain ⟨hw, h1, h2⟩ := h
    have hcq : q ≠ c := by
      intro h
      subst h
      rcases hw with rfl | rfl <;> exact absurd hq (by decide)
    refine ⟨by simp [hq92, hcq, h1], ?_⟩
    intro pre post he
    match pre, he with
    | [], he => exact ⟨c, by rw [← (List.cons.inj he).2]; rfl, hw⟩
    | [a], he =>
      have : c = 92 := by simpa using (List.cons.inj (List.cons.inj he).2).1
      subst this
      rcases hw with h | h <;> exact absurd h (by decide)
    | a :: b :: pre, he => exact h2 pre post (List.cons.inj (List.cons.inj he).2).2

theorem not_clean_backslash (q : UInt8) : ¬ Clean q [92] := by
  intro h
  obtain ⟨_, h⟩ := h
  obtain ⟨c, hc, _⟩ := h [] [] rfl
  cases hc

theorem clean_of_no_backslash {q : UInt8} {f : Bytes} (hq : q ∉ f) (hb : (92 : UInt8) ∉ f) :
    Clean q f :=
  ⟨hq, fun pre post h => absurd (by rw [h]; simp) hb⟩

/-- A clean field stands for itself. -/
theorem Clean.denotes {q : UInt8} (hq : isQuote q = true) : ∀ {f : Bytes}, Clean q f → Denotes q f f
  | [], _ => .nil
  | [c], h => by
    have hcq : c ≠ q := fun e => h.1 (by simp [e])
    have hc : c ≠ 92 := by
      intro hc
      subst hc
      exact not_clean_backslash q h
    exact .plain hcq hc .nil
  | c :: d :: f, h => by
    have hcq : c ≠ q := fun e => h.1 (by simp [e])
    by_cases hc : c = 92
    · subst hc
      obtain ⟨hw, hf⟩ := (clean_cons_escape hq d f).mp h
      have hd : unescape d = [92, d] := by rcases hw with rfl | rfl <;> rfl
      simpa [hd] using Denotes.escape (c := d) (hf.denotes hq)
    · exact .plain hcq hc (((clean_cons_plain hcq hc _).mp h).denotes hq)

/-- Only a clean field stands for a value of its own length. -/
theorem Denotes.clean {q : UInt8} (hq : isQuote q = true) {r v : Bytes} (h : Denotes q r v)
    (hl : v.length = r.length) : Clean q r := by
  induction h with
  | nil => exact clean_nil q
  | plain h1 h2 _ ih => exact (clean_cons_plain h1 h2 _).mpr (ih (by simpa using hl))
  | doubled h _ =>
    have := h.length_le
    simp only [List.length_cons] at hl
    omega
  | @escape c r v h ih =>
    have hle := h.length_le
    have hu := unescape_length c
    simp only [List.length_append, List.length_cons] at hl
    rw [clean_cons_escape hq]
    split at hu
    · next hw => exact ⟨hw, ih (by omega)⟩
    · omega

/-! Lexing a literal. -/

theorem lexFrom_quote {q : UInt8} {t : Bytes} (h : t.head? ≠ some q) (v : Bytes) :
    lexFrom (.quote q v) t = (lexFrom .code t).map (.lit q v :: ·) := by
  cases t with
  | nil => rfl
  | cons c t =>
    have hc : c ≠ q := fun e => h (by rw [e]; rfl)
    simp only [lexFrom_cons, delta, if_neg hc, after, Option.map_map]
    congr 1

/-! The steps inside a literal. -/

theorem delta_str_quote (q : UInt8) (acc : Bytes) : delta (.str q acc) q = (.quote q acc, []) := by
  simp [delta]

theorem delta_quote_quote (q : UInt8) (acc : Bytes) :
    delta (.quote q acc) q = (.str q (acc ++ [q]), []) := by
  simp [delta]

theorem delta_str_backslash {q : UInt8} (hq : (92 : UInt8) ≠ q) (acc : Bytes) :
    delta (.str q acc) 92 = (.esc q acc, []) := by
  simp [delta, hq]

theorem delta_esc (q : UInt8) (acc : Bytes) (c : UInt8) :
    delta (.esc q acc) c = (.str q (acc ++ unescape c), []) := rfl

theorem delta_str_ordinary {q c : UInt8} (h1 : c ≠ q) (h2 : c ≠ 92) (acc : Bytes) :
    delta (.str q acc) c = (.str q (acc ++ [c]), []) := by
  simp [delta, h1, h2]

/-- A literal in the text: its bytes, its value, and what follows. -/
theorem lexFrom_denotes {q : UInt8} (hq : isQuote q = true) {r v : Bytes} (h : Denotes q r v)
    {t : Bytes} (ht : t.head? ≠ some q) (acc : Bytes) :
    lexFrom (.str q acc) (r ++ q :: t) = (lexFrom .code t).map (.lit q (acc ++ v) :: ·) := by
  have hq92 := (quote_ne_backslash hq).symm
  induction h generalizing acc with
  | nil => rw [List.nil_append, lexFrom_silent (delta_str_quote q acc), lexFrom_quote ht, List.append_nil]
  | plain h1 h2 _ ih =>
    rw [List.cons_append, lexFrom_silent (delta_str_ordinary h1 h2 acc), ih, List.append_assoc]
    rfl
  | doubled _ ih =>
    rw [List.cons_append, List.cons_append, lexFrom_silent (delta_str_quote q acc),
      lexFrom_silent (delta_quote_quote q acc), ih, List.append_assoc]
    rfl
  | @escape c _ _ _ ih =>
    rw [List.cons_append, List.cons_append, lexFrom_silent (delta_str_backslash hq92 acc),
      lexFrom_silent (delta_esc q acc c), ih, List.append_assoc]

/-- Every text lexed from inside a literal is of that form. -/
theorem denotes_of_lexFrom {q : UInt8} {s acc : Bytes} {ts : List Token}
    (h : lexFrom (.str q acc) s = some ts) :
    ∃ r v t ts', s = r ++ q :: t ∧ Denotes q r v ∧ t.head? ≠ some q ∧
      lexFrom .code t = some ts' ∧ ts = .lit q (acc ++ v) :: ts' := by
  induction hn : s.length using Nat.strong_induction_on generalizing s acc with
  | _ n ih =>
    match s, h, hn with
    | [], h, _ => cases h
    | c :: s, h, hn =>
      rw [List.length_cons] at hn
      by_cases hc : c = q
      · subst hc
        rw [lexFrom_silent (delta_str_quote c acc)] at h
        by_cases hd : s.head? = some c
        · obtain ⟨s', rfl⟩ : ∃ s', s = c :: s' := List.head?_eq_some_iff.mp hd
          rw [lexFrom_silent (delta_quote_quote c acc)] at h
          rw [List.length_cons] at hn
          obtain ⟨r, v, t, ts', rfl, hr, ht, hts, rfl⟩ := ih s'.length (by omega) h rfl
          exact ⟨_, _, t, ts', rfl, .doubled hr, ht, hts, by simp⟩
        · rw [lexFrom_quote hd, Option.map_eq_some_iff] at h
          obtain ⟨ts', hts, rfl⟩ := h
          exact ⟨[], [], s, ts', rfl, .nil, hd, hts, by simp⟩
      · by_cases hb : c = 92
        · subst hb
          rw [lexFrom_silent (delta_str_backslash hc acc)] at h
          match s, h, hn with
          | [], h, _ => cases h
          | d :: s', h, hn =>
            rw [lexFrom_silent (delta_esc q acc d)] at h
            rw [List.length_cons] at hn
            obtain ⟨r, v, t, ts', rfl, hr, ht, hts, rfl⟩ := ih s'.length (by omega) h rfl
            exact ⟨_, _, t, ts', rfl, .escape hr, ht, hts, by simp⟩
        · rw [lexFrom_silent (delta_str_ordinary hc hb acc)] at h
          obtain ⟨r, v, t, ts', rfl, hr, ht, hts, rfl⟩ := ih s.length (by omega) h rfl
          exact ⟨_, _, t, ts', rfl, .plain hc hb hr, ht, hts, by simp⟩

/-! Templates: a text with a quoted slot for each field. -/

/-- A slot's quote and the text after its closing quote. -/
structure Slot where
  quote : UInt8
  after : Bytes

/-- Text that begins and ends outside literals, with nothing pending. -/
def neutral (b : Bytes) : Bool := (run .code b).1 == .code

/-- The tokens of neutral text. -/
def codeTokens (b : Bytes) : List Token := (run .code b).2

/-- The place a field goes to, in the tokens of a format. -/
def isHole : Token → Bool
  | .ch _ => false
  | .lit _ v => v == lit "%s"

/-- Neutral text with no byte `sprintf` would read as a directive or an end. -/
def textOk (b : Bytes) : Bool :=
  neutral b && !b.contains 37 && !b.contains 0 && (codeTokens b).all fun t => !isHole t

/-- Only the last slot has nothing after it; elsewhere an ordinary byte follows. -/
def slotsOk : List Slot → Bool
  | [] => true
  | s :: ss =>
    isQuote s.quote && textOk s.after &&
      (match s.after with
        | [] => ss.isEmpty
        | c :: _ => ordinary s.quote c) && slotsOk ss

structure Template where
  head : Bytes
  slots : List Slot
  headOk : textOk head = true
  slotsOk : slotsOk slots = true

/-- The text of slots filled with fields. -/
def body : List (Slot × Bytes) → Bytes
  | [] => []
  | (s, f) :: ps => s.quote :: (f ++ s.quote :: (s.after ++ body ps))

/-- The tokens of slots filled with fields. -/
def bodyTokens : List (Slot × Bytes) → List Token
  | [] => []
  | (s, f) :: ps => .lit s.quote f :: (codeTokens s.after ++ bodyTokens ps)

theorem lexFrom_neutral {b : Bytes} (hb : textOk b = true) (t : Bytes) :
    lexFrom .code (b ++ t) = (lexFrom .code t).map (codeTokens b ++ ·) := by
  simp only [textOk, neutral, Bool.and_eq_true, beq_iff_eq] at hb
  rw [lexFrom_append, hb.1.1.1, codeTokens]

theorem head?_after {s : Slot} {ps : List (Slot × Bytes)}
    (h : slotsOk (s :: ps.map Prod.fst) = true) :
    ∀ c, (s.after ++ body ps).head? = some c → ordinary s.quote c = true := by
  intro c hc
  simp only [slotsOk, Bool.and_eq_true] at h
  cases ha : s.after with
  | nil =>
    rw [ha] at h hc
    cases ps with
    | nil => cases hc
    | cons p ps => exact absurd h.1.2 (by simp)
  | cons d b =>
    rw [ha] at h hc
    obtain rfl : d = c := by simpa using hc
    exact h.1.2

theorem not_ordinary_quote (q : UInt8) : ordinary q q = false := by simp [ordinary]

/-- A literal that begins where a field was pasted and has the field as its value
    ends where the field ends. -/
theorem Denotes.eq_of_paste {q : UInt8} (hq : isQuote q = true) {r f u t : Bytes}
    (h : Denotes q r f) (he : f ++ q :: u = r ++ q :: t)
    (hu : ∀ c, u.head? = some c → ordinary q c = true) : r = f ∧ t = u := by
  obtain ⟨x, hr, hx⟩ | ⟨x, hf, hx⟩ := List.append_eq_append_iff.mp he
  · have hcount := h.countP_ordinary hq
    have hzero : x.countP (ordinary q) = 0 := by
      rw [hr, List.countP_append] at hcount
      omega
    have hnone : ∀ c ∈ x, ordinary q c ≠ true := List.countP_eq_zero.mp hzero
    match x, hx with
    | [], hx => exact ⟨by simpa using hr, (List.cons.inj hx).2.symm⟩
    | c :: x, hx =>
      have hu' := (List.cons.inj hx).2
      match x, hu' with
      | [], hu' =>
        have := hu q (by rw [hu']; rfl)
        rw [not_ordinary_quote] at this
        cases this
      | d :: x, hu' => exact absurd (hu d (by rw [hu']; rfl)) (hnone d (by simp))
  · have hlen := h.length_le
    have hx0 : x = [] := by
      rw [hf, List.length_append] at hlen
      exact List.eq_nil_of_length_eq_zero (by omega)
    subst hx0
    exact ⟨by simpa using hf.symm, (List.cons.inj hx).2⟩

/-- The filled slots lex as the slots exactly when every field is clean. -/
theorem lex_body_iff : ∀ ps : List (Slot × Bytes), slotsOk (ps.map Prod.fst) = true →
    (lexFrom .code (body ps) = some (bodyTokens ps) ↔ ∀ p ∈ ps, Clean p.1.quote p.2)
  | [], _ => by simp [body, bodyTokens, lexFrom_nil, finish]
  | (s, f) :: ps, h => by
    have hu := head?_after h
    simp only [List.map_cons, slotsOk, Bool.and_eq_true] at h
    obtain ⟨⟨⟨hq, hok⟩, _⟩, hrest⟩ := h
    have ih := lex_body_iff ps hrest
    have hopen : ∀ t, lexFrom .code (s.quote :: t) = lexFrom (.str s.quote []) t := by
      intro t
      refine lexFrom_silent ?_ t
      simp only [isQuote, Bool.or_eq_true, decide_eq_true_eq] at hq
      simp [delta, codeStep, hq]
    have htail : lexFrom .code (s.after ++ body ps) = some (codeTokens s.after ++ bodyTokens ps) ↔
        lexFrom .code (body ps) = some (bodyTokens ps) := by
      rw [lexFrom_neutral hok]
      cases lexFrom .code (body ps) <;> simp
    have hhead : (s.after ++ body ps).head? ≠ some s.quote := by
      intro hc
      have := hu _ hc
      rw [not_ordinary_quote] at this
      cases this
    rw [body, bodyTokens, hopen, List.forall_mem_cons, ← ih, ← htail]
    constructor
    · intro hl
      obtain ⟨r, v, t, ts', he, hr, _, hts, hcons⟩ := denotes_of_lexFrom hl
      obtain ⟨hlit, rfl⟩ := List.cons.inj hcons
      obtain rfl : f = v := by simpa using hlit
      obtain ⟨rfl, rfl⟩ := hr.eq_of_paste hq he hu
      exact ⟨hr.clean hq rfl, hts⟩
    · intro h
      obtain ⟨hclean, hl⟩ := h
      rw [lexFrom_denotes hq (hclean.denotes hq) hhead, hl]
      rfl

/-! The format, the filled text and their tokens. -/

/-- The format: every slot holds `%s`. -/
def Template.format (t : Template) : Bytes := t.head ++ body (t.slots.map fun s => (s, lit "%s"))

/-- The text of the template filled with fields. -/
def Template.text (t : Template) (fs : List Bytes) : Bytes := t.head ++ body (t.slots.zip fs)

/-- Put the fields into the holes, in order. -/
def fill : List Token → List Bytes → List Token
  | [], _ => []
  | .lit q v :: ts, f :: fs =>
    if isHole (.lit q v) then .lit q f :: fill ts fs else .lit q v :: fill ts (f :: fs)
  | t :: ts, fs => t :: fill ts fs

theorem fill_code {b : Bytes} (hb : textOk b = true) (ts : List Token) (fs : List Bytes) :
    fill (codeTokens b ++ ts) fs = codeTokens b ++ fill ts fs := by
  simp only [textOk, Bool.and_eq_true, List.all_eq_true, Bool.not_eq_true'] at hb
  have hall := hb.2
  generalize codeTokens b = us at hall
  induction us with
  | nil => rfl
  | cons u us ih =>
    have hu := hall u (List.mem_cons_self ..)
    have ih' := ih fun t ht => hall t (List.mem_cons_of_mem u ht)
    cases u with
    | ch c => simp [fill, ih']
    | lit q v => cases fs <;> simp [fill, hu, ih']

theorem fill_body : ∀ (ss : List Slot) (fs : List Bytes), slotsOk ss = true →
    ss.length = fs.length →
    fill (bodyTokens (ss.map fun s => (s, lit "%s"))) fs = bodyTokens (ss.zip fs)
  | [], [], _, _ => rfl
  | s :: ss, f :: fs, h, hl => by
    simp only [slotsOk, Bool.and_eq_true] at h
    simp only [List.map_cons, bodyTokens, fill, isHole, beq_self_eq_true, if_true,
      List.zip_cons_cons, fill_code h.1.1.2]
    rw [fill_body ss fs h.2 (by simpa using hl)]

theorem clean_hole {q : UInt8} (hq : isQuote q = true) : Clean q (lit "%s") := by
  simp only [isQuote, Bool.or_eq_true, decide_eq_true_eq] at hq
  rcases hq with rfl | rfl
  all_goals
    rw [show lit "%s" = [37, 115] from rfl, clean_cons_plain (by decide) (by decide),
      clean_cons_plain (by decide) (by decide)]
    exact clean_nil _

theorem quote_of_slotsOk : ∀ {ss : List Slot}, slotsOk ss = true → ∀ s ∈ ss, isQuote s.quote = true
  | s :: ss, h, s', hs => by
    simp only [slotsOk, Bool.and_eq_true] at h
    rcases List.mem_cons.mp hs with rfl | hs
    · exact h.1.1.1
    · exact quote_of_slotsOk h.2 s' hs

/-- The tokens of the format. -/
theorem Template.lex_format (t : Template) :
    lex t.format = some (codeTokens t.head ++ bodyTokens (t.slots.map fun s => (s, lit "%s"))) := by
  have hmap : (t.slots.map fun s => (s, lit "%s")).map Prod.fst = t.slots := by
    rw [List.map_map]
    exact List.map_id _
  have hbody : lexFrom .code (body (t.slots.map fun s => (s, lit "%s"))) =
      some (bodyTokens (t.slots.map fun s => (s, lit "%s"))) := by
    rw [lex_body_iff _ (by rw [hmap]; exact t.slotsOk)]
    intro p hp
    obtain ⟨s, hs, rfl⟩ := List.mem_map.mp hp
    exact clean_hole (quote_of_slotsOk t.slotsOk s hs)
  rw [lex, Template.format, lexFrom_neutral t.headOk, hbody]
  rfl

/-- The kind of quote of a hole. -/
def holeKind : Token → Option UInt8
  | .ch _ => none
  | .lit q v => if v = lit "%s" then some q else none

/-- The kinds of quote around the holes of a format, in order. -/
def quoteKinds (format : Bytes) : List UInt8 := ((lex format).getD []).filterMap holeKind

theorem holeKind_code {b : Bytes} (hb : textOk b = true) : (codeTokens b).filterMap holeKind = [] := by
  simp only [textOk, Bool.and_eq_true, List.all_eq_true, Bool.not_eq_true'] at hb
  rw [List.filterMap_eq_nil_iff]
  intro t ht
  have hno := hb.2 t ht
  cases t with
  | ch c => rfl
  | lit q v => simpa [holeKind, isHole] using hno

theorem holeKind_body : ∀ ss : List Slot, slotsOk ss = true →
    (bodyTokens (ss.map fun s => (s, lit "%s"))).filterMap holeKind = ss.map Slot.quote
  | [], _ => rfl
  | s :: ss, h => by
    simp only [slotsOk, Bool.and_eq_true] at h
    have hs : holeKind (.lit s.quote (lit "%s")) = some s.quote := by simp [holeKind]
    simp only [List.map_cons, bodyTokens, List.filterMap_cons, hs, List.filterMap_append,
      holeKind_code h.1.1.2, holeKind_body ss h.2, List.nil_append]

theorem Template.quoteKinds_format (t : Template) :
    quoteKinds t.format = t.slots.map Slot.quote := by
  rw [quoteKinds, t.lex_format, Option.getD_some, List.filterMap_append, holeKind_code t.headOk,
    holeKind_body _ t.slotsOk]
  rfl

/-- The filled text lexes as the format with the fields in the holes exactly when
    every field is clean for its quote. -/
theorem Template.lex_text_iff (t : Template) (fs : List Bytes) (hl : t.slots.length = fs.length) :
    (∃ ts, lex t.format = some ts ∧ lex (t.text fs) = some (fill ts fs)) ↔
      ∀ p ∈ (quoteKinds t.format).zip fs, Clean p.1 p.2 := by
  have hmap : (t.slots.zip fs).map Prod.fst = t.slots := List.map_fst_zip (Nat.le_of_eq hl)
  have hbody := lex_body_iff (t.slots.zip fs) (by rw [hmap]; exact t.slotsOk)
  rw [t.lex_format]
  simp only [Option.some.injEq, exists_eq_left', fill_code t.headOk, fill_body _ _ t.slotsOk hl,
    Template.text, lex, lexFrom_neutral t.headOk]
  have hcancel : (lexFrom .code (body (t.slots.zip fs))).map (codeTokens t.head ++ ·) =
      some (codeTokens t.head ++ bodyTokens (t.slots.zip fs)) ↔
      lexFrom .code (body (t.slots.zip fs)) = some (bodyTokens (t.slots.zip fs)) := by
    cases lexFrom .code (body (t.slots.zip fs)) <;> simp
  rw [hcancel, hbody, t.quoteKinds_format, List.zip_map_left]
  simp only [List.forall_mem_map, Prod.map, id_eq]

/-! What `sprintf` makes of the format. -/

theorem percent_notMem {b : Bytes} (hb : textOk b = true) : (37 : UInt8) ∉ b := by
  simp only [textOk, Bool.and_eq_true, Bool.not_eq_true', List.contains_eq_mem,
    decide_eq_false_iff_not] at hb
  exact hb.1.1.2

theorem nul_notMem {b : Bytes} (hb : textOk b = true) : (0 : UInt8) ∉ b := by
  simp only [textOk, Bool.and_eq_true, Bool.not_eq_true', List.contains_eq_mem,
    decide_eq_false_iff_not] at hb
  exact hb.1.2

theorem quote_bounds {q : UInt8} (hq : isQuote q = true) : q ≠ 37 ∧ q ≠ 0 := by
  simp only [isQuote, Bool.or_eq_true, decide_eq_true_eq] at hq
  rcases hq with rfl | rfl <;> decide

theorem fillFrom_body : ∀ (ss : List Slot) (fs : List Bytes), slotsOk ss = true →
    ss.length = fs.length → (∀ f ∈ fs, (0 : UInt8) ∉ f) →
    fillFrom (body (ss.map fun s => (s, lit "%s"))) fs = some (body (ss.zip fs))
  | [], [], _, _, _ => rfl
  | s :: ss, f :: fs, h, hl, hno => by
    simp only [slotsOk, Bool.and_eq_true] at h
    obtain ⟨⟨⟨hq, hok⟩, _⟩, hrest⟩ := h
    have h37 : (37 : UInt8) ≠ s.quote := (quote_bounds hq).1.symm
    have ih := fillFrom_body ss fs hrest (by simpa using hl)
      (fun f hf => hno f (List.mem_cons_of_mem _ hf))
    have hafter : (37 : UInt8) ∉ s.quote :: s.after := by simp [h37, percent_notMem hok]
    have hshape : body ((s, lit "%s") :: ss.map fun s => (s, lit "%s")) =
        [s.quote] ++ (lit "%s" ++
          ((s.quote :: s.after) ++ body (ss.map fun s => (s, lit "%s")))) := by
      simp [body]
    rw [List.map_cons, hshape, fillFrom_text (by simpa using h37),
      fillFrom_s (hno f (List.mem_cons_self ..)), fillFrom_text hafter, ih]
    simp [body]

theorem nul_notMem_body : ∀ ss : List Slot, slotsOk ss = true →
    (0 : UInt8) ∉ body (ss.map fun s => (s, lit "%s"))
  | [], _ => List.not_mem_nil
  | s :: ss, h => by
    simp only [slotsOk, Bool.and_eq_true] at h
    obtain ⟨⟨⟨hq, hok⟩, _⟩, hrest⟩ := h
    have h0 : (0 : UInt8) ≠ s.quote := (quote_bounds hq).2.symm
    have hhole : (0 : UInt8) ∉ lit "%s" := by decide
    simp [body, h0, hhole, nul_notMem hok, nul_notMem_body ss hrest]

/-- `sprintf` on the format is the filled template. -/
theorem Template.sprintf_format (t : Template) (fs : List Bytes) (hl : t.slots.length = fs.length)
    (hno : ∀ f ∈ fs, (0 : UInt8) ∉ f) : sprintf t.format fs = some (t.text fs) := by
  have hcstr : cstr t.format = t.format :=
    cstr_of_no_nul (by simp [Template.format, nul_notMem t.headOk, nul_notMem_body _ t.slotsOk])
  rw [sprintf_eq, hcstr, Template.format, fillFrom_text (percent_notMem t.headOk),
    fillFrom_body _ _ t.slotsOk hl hno]
  rfl

/-- A filled template that is used as a format itself: each field is printed, and the text
    around them stays. -/
theorem fillFrom_filled : ∀ (ss : List Slot) (fs : List Bytes), slotsOk ss = true →
    ss.length = fs.length →
    fillFrom (body (ss.zip fs)) [] =
      (fs.mapM fun f => fillFrom f []).map fun gs => body (ss.zip gs)
  | [], [], _, _ => rfl
  | s :: ss, f :: fs, h, hl => by
    simp only [slotsOk, Bool.and_eq_true] at h
    obtain ⟨⟨⟨hq, hok⟩, _⟩, hrest⟩ := h
    have h37 : s.quote ≠ 37 := (quote_bounds hq).1
    have ih := fillFrom_filled ss fs hrest (by simpa using hl)
    have hquote : (37 : UInt8) ∉ [s.quote] := by simpa using h37.symm
    have hafter : (37 : UInt8) ∉ s.quote :: s.after := by simp [h37.symm, percent_notMem hok]
    have hshape : body ((s :: ss).zip (f :: fs)) =
        [s.quote] ++ (f ++ s.quote :: (s.after ++ body (ss.zip fs))) := rfl
    have htail : fillFrom (s.quote :: (s.after ++ body (ss.zip fs))) [] =
        ((fs.mapM fun f => fillFrom f []).map fun gs => body (ss.zip gs)).map
          (s.quote :: s.after ++ ·) := by
      rw [← List.cons_append, fillFrom_text hafter, ih]
    rw [hshape, fillFrom_text hquote, fillFrom_append_stop h37, htail, List.mapM_cons]
    cases fillFrom f [] with
    | none => rfl
    | some g =>
      cases fs.mapM fun f => fillFrom f [] with
      | none => rfl
      | some gs => simp [body]

theorem nul_notMem_filled : ∀ (ss : List Slot) (fs : List Bytes), slotsOk ss = true →
    (∀ f ∈ fs, (0 : UInt8) ∉ f) → (0 : UInt8) ∉ body (ss.zip fs)
  | [], _, _, _ => List.not_mem_nil
  | _ :: _, [], _, _ => List.not_mem_nil
  | s :: ss, f :: fs, h, hno => by
    simp only [slotsOk, Bool.and_eq_true] at h
    obtain ⟨⟨⟨hq, hok⟩, _⟩, hrest⟩ := h
    obtain ⟨hf, hfs⟩ := List.forall_mem_cons.mp hno
    have h0 : (0 : UInt8) ≠ s.quote := (quote_bounds hq).2.symm
    simp [body, h0, hf, nul_notMem hok, nul_notMem_filled ss fs hrest hfs]

theorem Template.sprintf_text (t : Template) (fs : List Bytes) (hl : t.slots.length = fs.length)
    (hno : ∀ f ∈ fs, (0 : UInt8) ∉ f) :
    sprintf (t.text fs) [] = (fs.mapM fun f => sprintf f []).map t.text := by
  have htext : cstr (t.text fs) = t.text fs := by
    apply cstr_of_no_nul
    simp [Template.text, nul_notMem t.headOk, nul_notMem_filled t.slots fs t.slotsOk hno]
  have hfields : (fs.mapM fun f => sprintf f []) = fs.mapM fun f => fillFrom f [] := by
    clear hl htext
    induction fs with
    | nil => rfl
    | cons f fs ih =>
      obtain ⟨hf, hfs⟩ := List.forall_mem_cons.mp hno
      rw [List.mapM_cons, List.mapM_cons, ih hfs, sprintf_eq, cstr_of_no_nul hf]
  rw [sprintf_eq, htext, Template.text, fillFrom_text (percent_notMem t.headOk),
    fillFrom_filled t.slots fs t.slotsOk hl, hfields, Option.map_map]
  rfl

/-! Formats that are templates. -/

/-- Cut a format at its quoted `%s`: the text before the first, and the slots. -/
def cut : Bytes → Bytes × List Slot
  | [] => ([], [])
  | q :: 37 :: 115 :: q' :: s =>
    if isQuote q && q' == q then ([], ⟨q, (cut s).1⟩ :: (cut s).2)
    else (q :: (cut (37 :: 115 :: q' :: s)).1, (cut (37 :: 115 :: q' :: s)).2)
  | c :: s => (c :: (cut s).1, (cut s).2)

theorem cut_body (s : Bytes) : (cut s).1 ++ body ((cut s).2.map fun x => (x, lit "%s")) = s := by
  induction s using cut.induct with
  | case1 => rfl
  | case2 q q' s h ih =>
    simp only [Bool.and_eq_true, beq_iff_eq] at h
    obtain ⟨hq, rfl⟩ := h
    rw [cut, if_pos (by simp [hq])]
    simp only [List.map_cons, body, List.nil_append, ih]
    rfl
  | case3 q q' s h ih => rw [cut, if_neg h, List.cons_append, ih]
  | case4 c s h ih =>
    rw [cut]
    · rw [List.cons_append, ih]
    · exact h

/-- The format is a template: outside its slots it is neutral text. -/
def formatOk (format : Bytes) : Bool := textOk (cut format).1 && slotsOk (cut format).2

/-- The places of a template are between quotes. -/
theorem isQuote_of_formatOk {format : Bytes} (hok : formatOk format = true) :
    ∀ q ∈ quoteKinds format, isQuote q = true := by
  simp only [formatOk, Bool.and_eq_true] at hok
  let t : Template := ⟨(cut format).1, (cut format).2, hok.1, hok.2⟩
  have hf : t.format = format := cut_body format
  intro q hq
  rw [← hf, t.quoteKinds_format] at hq
  obtain ⟨s, hs, rfl⟩ := List.mem_map.mp hq
  exact quote_of_slotsOk t.slotsOk s hs

/-- Fields that are printed stay in number, and have no NUL if they had none. -/
theorem printed_fields : ∀ (fs : List Bytes) {gs : List Bytes},
    (∀ f ∈ fs, (0 : UInt8) ∉ f) → (fs.mapM fun f => sprintf f []) = some gs →
    gs.length = fs.length ∧ ∀ g ∈ gs, (0 : UInt8) ∉ g
  | [], gs, _, h => by
    obtain rfl : [] = gs := Option.some.inj h
    exact ⟨rfl, fun _ hg => (List.not_mem_nil hg).elim⟩
  | f :: fs, gs, hno, h => by
    obtain ⟨hf, hfs⟩ := List.forall_mem_cons.mp hno
    rw [List.mapM_cons] at h
    obtain ⟨g, hg, h⟩ := Option.bind_eq_some_iff.mp h
    obtain ⟨gs', hgs, h⟩ := Option.bind_eq_some_iff.mp h
    obtain rfl : g :: gs' = gs := Option.some.inj h
    obtain ⟨hlen, hrest⟩ := printed_fields fs hfs hgs
    refine ⟨by rw [List.length_cons, hlen, List.length_cons], ?_⟩
    rw [List.forall_mem_cons]
    refine ⟨fun h0 => hf ?_, hrest⟩
    rw [sprintf_eq, cstr_of_no_nul hf] at hg
    exact mem_of_mem_fillFrom f hg 0 h0

/-- What a format makes of some fields, used as a format itself, is what it makes of the
    fields as they are printed. -/
theorem sprintf_printed {format : Bytes} (hok : formatOk format = true) {fs : List Bytes}
    {text query : Bytes} (hl : (quoteKinds format).length = fs.length) (hno : ∀ f ∈ fs, (0 : UInt8) ∉ f)
    (hs : sprintf format fs = some text) (hq : sprintf text [] = some query) :
    ∃ gs, (fs.mapM fun f => sprintf f []) = some gs ∧ sprintf format gs = some query := by
  simp only [formatOk, Bool.and_eq_true] at hok
  let t : Template := ⟨(cut format).1, (cut format).2, hok.1, hok.2⟩
  have hf : t.format = format := cut_body format
  have hlen : t.slots.length = fs.length := by
    rw [← hl, ← hf, t.quoteKinds_format, List.length_map]
  have htext : t.text fs = text := by
    rw [← hf, t.sprintf_format fs hlen hno] at hs
    exact Option.some.inj hs
  rw [← htext, t.sprintf_text fs hlen hno] at hq
  obtain ⟨gs, hgs, rfl⟩ := Option.map_eq_some_iff.mp hq
  refine ⟨gs, hgs, ?_⟩
  rw [← hf]
  obtain ⟨hlength, hgs0⟩ := printed_fields fs hno hgs
  exact t.sprintf_format gs (hlen.trans hlength.symm) hgs0

/-- A printed format lexes as the format with the arguments in the holes exactly
    when every argument is clean for the quotes around its `%s`. -/
theorem lexes_iff {format : Bytes} (hok : formatOk format = true) {fs : List Bytes} {text : Bytes}
    (hl : (quoteKinds format).length = fs.length) (hno : ∀ f ∈ fs, (0 : UInt8) ∉ f)
    (hs : sprintf format fs = some text) :
    (∃ ts, lex format = some ts ∧ lex text = some (fill ts fs)) ↔
      ∀ p ∈ (quoteKinds format).zip fs, Clean p.1 p.2 := by
  simp only [formatOk, Bool.and_eq_true] at hok
  let t : Template := ⟨(cut format).1, (cut format).2, hok.1, hok.2⟩
  have hf : t.format = format := cut_body format
  have hlen : t.slots.length = fs.length := by
    rw [← hl, ← hf, t.quoteKinds_format, List.length_map]
  have htext : t.text fs = text := by
    rw [← hf, t.sprintf_format fs hlen hno] at hs
    exact Option.some.inj hs
  have := t.lex_text_iff fs hlen
  rwa [hf, htext] at this

end SqlLex
