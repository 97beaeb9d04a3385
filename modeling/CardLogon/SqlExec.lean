import CardLogon.CTokens
import CardLogon.SqlLex
import Mathlib.Logic.Function.Basic

/- What SQL statements do to a table.

   A text is read in three steps: `lex` gives its tokens, `lexemes` puts the bytes outside
   literals together to words and symbols, and `read` reads an update, an insert
   or a select. The last two do not look at the values of the literals: they are written
   for literals of any type, and `Natural` says that a reader does the same whatever the
   values are. So the statement of a filled format is the statement of the format, with
   each field in the place of its number (`read_fill`).

   A row is a function from columns to values, `none` for NULL; a table is a list of rows.
   `exec` is what a statement does, with the comparison of strings given by a `Collation`
   and the columns that an insert does not name by `defaults`. The library's rules are
   about the rows with one value in a key column: an update that does not set the column
   keeps their number (`length_withKey_updateRows`) and changes no other rows
   (`withoutKey_updateRows`); an insert adds one row to those of its value. -/
namespace SqlExec
open CText SqlLex

/-! Lexemes. -/

/-- A word, another symbol, or a literal. -/
inductive Lexeme (α : Type) where
  | word (w : Bytes)
  | sym (c : UInt8)
  | str (a : α)
  deriving DecidableEq

def Lexeme.map {α β : Type} (f : α → β) : Lexeme α → Lexeme β
  | .word w => .word w
  | .sym c => .sym c
  | .str a => .str (f a)

/-- Letters, digits and `_`. -/
def isWordChar (c : UInt8) : Bool :=
  isDigit c || (65 ≤ c && c ≤ 90) || (97 ≤ c && c ≤ 122) || c == 95

section
variable {α β γ δ : Type}

def endWord (w : Bytes) (ls : List (Lexeme α)) : List (Lexeme α) :=
  if w = [] then ls else .word w :: ls

/-- The lexemes, with `w` read of a word; a literal is given by what stands for it. -/
def lexemes : Bytes → List (UInt8 ⊕ α) → List (Lexeme α)
  | w, [] => endWord w []
  | w, .inr a :: ts => endWord w (.str a :: lexemes [] ts)
  | w, .inl c :: ts =>
    if isWordChar c then lexemes (w ++ [c]) ts
    else if isSpace c then endWord w (lexemes [] ts)
    else endWord w (.sym c :: lexemes [] ts)

theorem endWord_map (f : α → β) (w : Bytes) (ls : List (Lexeme α)) :
    endWord w (ls.map (Lexeme.map f)) = (endWord w ls).map (Lexeme.map f) := by
  unfold endWord
  split
  · rfl
  · rfl

theorem lexemes_map (f : α → β) (w : Bytes) (ts : List (UInt8 ⊕ α)) :
    lexemes w (ts.map (Sum.map id f)) = (lexemes w ts).map (Lexeme.map f) := by
  induction ts generalizing w with
  | nil => exact endWord_map f w []
  | cons t ts ih =>
    cases t with
    | inr a =>
      show endWord w (.str (f a) :: lexemes [] (ts.map (Sum.map id f))) = _
      rw [ih]
      exact endWord_map f w (.str a :: lexemes [] ts)
    | inl c =>
      show lexemes w (.inl c :: ts.map (Sum.map id f)) = _
      unfold lexemes
      split
      · exact ih _
      · split
        · rw [ih]
          exact endWord_map f w (lexemes [] ts)
        · rw [ih]
          exact endWord_map f w (.sym c :: lexemes [] ts)

/-! Readers. -/

/-- A reader takes lexemes from the front. -/
abbrev Reader (α β : Type) := List (Lexeme α) → Option (β × List (Lexeme α))

namespace Reader

def done (b : β) : Reader α β := fun ls => some (b, ls)

instance : Monad (Reader α) where
  pure := done
  bind r k := fun ls => (r ls).bind fun p => k p.1 p.2

/-- The second, where the first reads nothing. -/
def orElse (r r' : Reader α β) : Reader α β := fun ls => (r ls).or (r' ls)

/-- A keyword, in any case. -/
def keyword (k : Bytes) : Reader α Unit
  | .word w :: ls => if w.map lower = k then some ((), ls) else none
  | _ => none

def symbol (c : UInt8) : Reader α Unit
  | .sym d :: ls => if d = c then some ((), ls) else none
  | _ => none

def name : Reader α Bytes
  | .word w :: ls => some (w, ls)
  | _ => none

def value : Reader α α
  | .str a :: ls => some (a, ls)
  | _ => none

/-- One or more with commas between, at most `n`. -/
def commas (r : Reader α β) : Nat → Reader α (List β)
  | 0 => fun _ => none
  | n + 1 => do
    let b ← r
    orElse (do symbol 44; let bs ← commas r n; done (b :: bs)) (done [b])

/-- One or more with commas between. -/
def list (r : Reader α β) : Reader α (List β) := fun ls => commas r ls.length ls

end Reader

/-! Readers that do not look at the values. -/

/-- With the values renamed, `r'` reads what `r` reads, renamed by `g`. -/
def Natural (f : α → β) (r : Reader α γ) (r' : Reader β δ) (g : γ → δ) : Prop :=
  ∀ ls, r' (ls.map (Lexeme.map f)) = (r ls).map fun p => (g p.1, p.2.map (Lexeme.map f))

namespace Natural
open Reader

theorem done (f : α → β) (g : γ → δ) (c : γ) :
    Natural f (Reader.done c) (Reader.done (g c)) g := fun _ => rfl

theorem bind {ε ζ : Type} {f : α → β} {r : Reader α γ} {r' : Reader β δ} {g : γ → δ}
    {k : γ → Reader α ε} {k' : δ → Reader β ζ} {h : ε → ζ} (hr : Natural f r r' g)
    (hk : ∀ c, Natural f (k c) (k' (g c)) h) : Natural f (r >>= k) (r' >>= k') h := by
  intro ls
  show (r' (ls.map (Lexeme.map f))).bind _ = Option.map _ ((r ls).bind _)
  rw [hr ls]
  cases r ls with
  | none => rfl
  | some p => exact hk p.1 p.2

theorem orElse {f : α → β} {r₁ r₂ : Reader α γ} {r₁' r₂' : Reader β δ} {g : γ → δ}
    (h₁ : Natural f r₁ r₁' g) (h₂ : Natural f r₂ r₂' g) :
    Natural f (r₁.orElse r₂) (r₁'.orElse r₂') g := by
  intro ls
  unfold Reader.orElse
  rw [h₁ ls, h₂ ls]
  cases r₁ ls with
  | none => rfl
  | some p => rfl

theorem keyword (f : α → β) (k : Bytes) : Natural f (keyword k) (keyword k) id
  | [] => rfl
  | .word w :: ls => by
    show (if w.map lower = k then _ else none) = Option.map _ (if w.map lower = k then _ else none)
    split
    · rfl
    · rfl
  | .sym _ :: _ => rfl
  | .str _ :: _ => rfl

theorem symbol (f : α → β) (c : UInt8) : Natural f (symbol c) (symbol c) id
  | [] => rfl
  | .sym d :: ls => by
    show (if d = c then _ else none) = Option.map _ (if d = c then _ else none)
    split
    · rfl
    · rfl
  | .word _ :: _ => rfl
  | .str _ :: _ => rfl

theorem name (f : α → β) : Natural f name name id
  | [] => rfl
  | .word _ :: _ => rfl
  | .sym _ :: _ => rfl
  | .str _ :: _ => rfl

theorem value (f : α → β) : Natural f value value f
  | [] => rfl
  | .word _ :: _ => rfl
  | .sym _ :: _ => rfl
  | .str _ :: _ => rfl

theorem commas {f : α → β} {r : Reader α γ} {r' : Reader β δ} {g : γ → δ} (h : Natural f r r' g) :
    ∀ n, Natural f (r.commas n) (r'.commas n) (List.map g)
  | 0 => fun _ => rfl
  | n + 1 => by
    apply bind h
    intro c
    apply orElse
    · apply bind (symbol f 44)
      intro _
      apply bind (commas h n)
      intro cs
      exact done f (List.map g) (c :: cs)
    · exact done f (List.map g) [c]

theorem list {f : α → β} {r : Reader α γ} {r' : Reader β δ} {g : γ → δ} (h : Natural f r r' g) :
    Natural f r.list r'.list (List.map g) := by
  intro ls
  unfold Reader.list
  rw [List.length_map]
  exact commas h ls.length ls

end Natural

end

/-! Statements. -/

/-- A statement, with literals of any type. -/
inductive Statement (α : Type) where
  | update (table : Bytes) (sets : List (Bytes × α)) (key : Bytes × α)
  | insert (table : Bytes) (columns : List Bytes) (values : List α)
  | select (table : Bytes) (key : Bytes × α)
  deriving DecidableEq

def Statement.map {α β : Type} (f : α → β) : Statement α → Statement β
  | .update n sets key => .update n (sets.map (Prod.map id f)) (Prod.map id f key)
  | .insert n cols vals => .insert n cols (vals.map f)
  | .select n key => .select n (Prod.map id f key)

section
variable {α β : Type}

namespace Reader

/-- `column=value`; 61 is `=`. -/
def assign : Reader α (Bytes × α) := do
  let column ← name
  symbol 61
  let v ← value
  done (column, v)

def update : Reader α (Statement α) := do
  keyword (lit "update")
  let table ← name
  keyword (lit "set")
  let sets ← list assign
  keyword (lit "where")
  let key ← assign
  done (.update table sets key)

/-- 40 and 41 are the parentheses. -/
def insert : Reader α (Statement α) := do
  keyword (lit "insert")
  keyword (lit "into")
  let table ← name
  symbol 40
  let columns ← list name
  symbol 41
  keyword (lit "values")
  symbol 40
  let values ← list value
  symbol 41
  done (.insert table columns values)

/-- 42 is `*`. -/
def select : Reader α (Statement α) := do
  keyword (lit "select")
  symbol 42
  keyword (lit "from")
  let table ← name
  keyword (lit "where")
  let key ← assign
  done (.select table key)

def statement : Reader α (Statement α) := update.orElse (insert.orElse select)

end Reader

/-- Nothing is left, or a semicolon. -/
def atEnd : List (Lexeme α) → Bool
  | [] => true
  | [.sym c] => c == 59
  | _ => false

/-- The statement of a text whose tokens are these. -/
def read (ts : List (UInt8 ⊕ α)) : Option (Statement α) :=
  (Reader.statement (lexemes [] ts)).bind fun p => if atEnd p.2 then some p.1 else none

theorem atEnd_map (f : α → β) (ls : List (Lexeme α)) : atEnd (ls.map (Lexeme.map f)) = atEnd ls := by
  match ls with
  | [] => rfl
  | [.sym _] => rfl
  | [.word _] => rfl
  | [.str _] => rfl
  | .sym _ :: _ :: _ => rfl
  | .word _ :: _ :: _ => rfl
  | .str _ :: _ :: _ => rfl

namespace Natural

theorem assign (f : α → β) : Natural f Reader.assign Reader.assign (Prod.map id f) := by
  apply bind (name f)
  intro c
  apply bind (symbol f 61)
  intro _
  apply bind (value f)
  intro v
  exact done f (Prod.map id f) (c, v)

theorem update (f : α → β) : Natural f Reader.update Reader.update (Statement.map f) := by
  apply bind (keyword f _)
  intro _
  apply bind (name f)
  intro table
  apply bind (keyword f _)
  intro _
  apply bind (list (assign f))
  intro sets
  apply bind (keyword f _)
  intro _
  apply bind (assign f)
  intro key
  exact done f (Statement.map f) (.update table sets key)

theorem insert (f : α → β) : Natural f Reader.insert Reader.insert (Statement.map f) := by
  apply bind (keyword f _)
  intro _
  apply bind (keyword f _)
  intro _
  apply bind (name f)
  intro table
  apply bind (symbol f _)
  intro _
  apply bind (list (name f))
  intro columns
  apply bind (symbol f _)
  intro _
  apply bind (keyword f _)
  intro _
  apply bind (symbol f _)
  intro _
  apply bind (list (value f))
  intro values
  apply bind (symbol f _)
  intro _
  rw [List.map_id]
  exact done f (Statement.map f) (.insert table columns values)

theorem select (f : α → β) : Natural f Reader.select Reader.select (Statement.map f) := by
  apply bind (keyword f _)
  intro _
  apply bind (symbol f _)
  intro _
  apply bind (keyword f _)
  intro _
  apply bind (name f)
  intro table
  apply bind (keyword f _)
  intro _
  apply bind (assign f)
  intro key
  exact done f (Statement.map f) (.select table key)

theorem statement (f : α → β) :
    Natural f Reader.statement Reader.statement (Statement.map f) :=
  orElse (update f) (orElse (insert f) (select f))

end Natural

/-- Renamed values are read as the statement with its values renamed. -/
theorem read_map (f : α → β) (ts : List (UInt8 ⊕ α)) :
    read (ts.map (Sum.map id f)) = (read ts).map (Statement.map f) := by
  unfold read
  rw [lexemes_map, Natural.statement f]
  cases Reader.statement (lexemes [] ts) with
  | none => rfl
  | some p =>
    show (if atEnd (p.2.map (Lexeme.map f)) then _ else none) =
      Option.map _ (if atEnd p.2 then _ else none)
    rw [atEnd_map]
    split
    · rfl
    · rfl

end

/-! The statement of a filled format. -/

/-- A token without its kind of quote. -/
def atom : Token → UInt8 ⊕ Bytes
  | .ch c => .inl c
  | .lit _ v => .inr v

/-- The statement of a text. -/
def readText (text : Bytes) : Option (Statement Bytes) := (lex text).bind fun ts => read (ts.map atom)

/-- The literals replaced by their numbers, from `n` on. -/
def numbered : Nat → List Token → List (UInt8 ⊕ Nat)
  | _, [] => []
  | n, .ch c :: ts => .inl c :: numbered n ts
  | n, .lit _ _ :: ts => .inr n :: numbered (n + 1) ts

/-- Every literal is a place for a field. -/
def holesOnly : List Token → Bool
  | [] => true
  | .ch _ :: ts => holesOnly ts
  | .lit q v :: ts => isHole (.lit q v) && holesOnly ts

/-- The statement of a format, with numbers for its fields. -/
def formatStatement (format : Bytes) : Option (Statement Nat) :=
  (lex format).bind fun ts => if holesOnly ts then read (numbered 0 ts) else none

/-- The places are filled in their order. -/
theorem fill_atoms (fs : List Bytes) (n : Nat) (ts : List Token) (hts : holesOnly ts = true)
    (hn : n + (ts.filterMap holeKind).length ≤ fs.length) :
    (fill ts (fs.drop n)).map atom =
      (numbered n ts).map (Sum.map id fun i => fs.getD i []) := by
  induction ts generalizing n with
  | nil => rfl
  | cons t ts ih =>
    cases t with
    | ch c =>
      have h := ih n hts hn
      have hfill : fill (.ch c :: ts) (fs.drop n) = .ch c :: fill ts (fs.drop n) := by
        cases fs.drop n with
        | nil => rfl
        | cons f fs' => rfl
      rw [hfill, List.map_cons, h]
      rfl
    | lit q v =>
      obtain ⟨ht, hts⟩ := Bool.and_eq_true_iff.mp hts
      have hhole : holeKind (.lit q v) = some q := by
        simpa [holeKind, isHole] using ht
      rw [List.filterMap_cons, hhole] at hn
      dsimp only [List.length_cons] at hn
      have hlt : n < fs.length := by omega
      have h := ih (n + 1) hts (by omega)
      have hget : fs.getD n [] = fs[n] := by
        rw [List.getD_eq_getElem?_getD, List.getElem?_eq_getElem hlt]
        rfl
      rw [List.drop_eq_getElem_cons hlt]
      simp only [fill, if_pos ht, List.map_cons, h, numbered, atom, Sum.map_inr, hget]

/-- A text that lexes as the format with the fields in the holes is the format's
    statement, with the fields in the places of their numbers. -/
theorem read_fill {format text : Bytes} {ts : List Token} {fs : List Bytes}
    {shape : Statement Nat} (hshape : formatStatement format = some shape)
    (hlex : lex format = some ts) (hlen : (quoteKinds format).length = fs.length)
    (htext : lex text = some (fill ts fs)) :
    readText text = some (shape.map fun i => fs.getD i []) := by
  unfold formatStatement at hshape
  rw [hlex, Option.bind_some] at hshape
  split at hshape
  · next hholes =>
    have hcount : 0 + (ts.filterMap holeKind).length ≤ fs.length := by
      unfold quoteKinds at hlen
      rw [hlex, Option.getD_some] at hlen
      omega
    have hatoms := fill_atoms fs 0 ts hholes hcount
    rw [List.drop_zero] at hatoms
    unfold readText
    rw [htext, Option.bind_some, hatoms, read_map, hshape]
    rfl
  · cases hshape

/-! Tables. -/

/-- A row: the values of its columns, `none` for NULL. -/
abbrev Record := Bytes → Option Bytes

/-- The rows of a table. -/
abbrev Records := List Record

/-- Which strings a comparison takes for the same. -/
structure Collation where
  same : Bytes → Bytes → Bool
  refl : ∀ a, same a a = true
  symm : ∀ {a b}, same a b = true → same b a = true
  trans : ∀ {a b c}, same a b = true → same b c = true → same a c = true

/-- Byte for byte. -/
def Collation.binary : Collation where
  same a b := a == b
  refl a := beq_self_eq_true a
  symm h := by
    rw [eq_of_beq h]
    exact beq_self_eq_true _
  trans h h' := by
    rw [eq_of_beq h]
    exact h'

/-- `column=value`, which NULL does not meet. -/
def Record.has (col : Collation) (key : Bytes × Bytes) (row : Record) : Bool :=
  match row key.1 with
  | none => false
  | some v => col.same v key.2

/-- The assignments, from left to right. -/
def Record.setAll (row : Record) (sets : List (Bytes × Bytes)) : Record :=
  sets.foldl (fun row p => Function.update row p.1 (some p.2)) row

theorem Record.setAll_of_notMem {c : Bytes} (sets : List (Bytes × Bytes)) (row : Record)
    (hc : c ∉ sets.map Prod.fst) : row.setAll sets c = row c := by
  induction sets generalizing row with
  | nil => rfl
  | cons p sets ih =>
    rw [List.map_cons, List.mem_cons, not_or] at hc
    calc Record.setAll row (p :: sets) c
      _ = (Function.update row p.1 (some p.2)) c := ih _ hc.2
      _ = row c := Function.update_of_ne hc.1 _ _

/-- Columns that are set once have what they are set to. -/
theorem Record.setAll_of_mem {c v : Bytes} (sets : List (Bytes × Bytes)) (row : Record)
    (hnodup : (sets.map Prod.fst).Nodup) (hmem : (c, v) ∈ sets) : row.setAll sets c = some v := by
  induction sets generalizing row with
  | nil => cases hmem
  | cons p sets ih =>
    rw [List.map_cons, List.nodup_cons] at hnodup
    obtain rfl | hmem := List.mem_cons.mp hmem
    · calc Record.setAll row ((c, v) :: sets) c
        _ = (Function.update row c (some v)) c := Record.setAll_of_notMem sets _ hnodup.1
        _ = some v := Function.update_self c _ row
    · exact ih _ hnodup.2 hmem

section
variable (col : Collation)

/-- The rows of a key, and the others. -/
def withKey (key : Bytes × Bytes) (t : Records) : Records := t.filter (Record.has col key)

def withoutKey (key : Bytes × Bytes) (t : Records) : Records := t.filter fun row => !row.has col key

def updateRows (sets : List (Bytes × Bytes)) (key : Bytes × Bytes) (t : Records) : Records :=
  t.map fun row => if row.has col key then row.setAll sets else row

/-- What a statement does to the table `name`; `none` is an error. -/
def Statement.exec (name : Bytes) (defaults : Record) : Statement Bytes → Records → Option Records
  | .update n sets key, t => if n = name then some (updateRows col sets key t) else none
  | .insert n columns values, t =>
    if n = name ∧ columns.length = values.length then
      some (t ++ [Record.setAll defaults (columns.zip values)])
    else none
  | .select n _, t => if n = name then some t else none

/-- The result set of a select. -/
def Statement.rows (name : Bytes) : Statement Bytes → Records → Option Records
  | .select n key, t => if n = name then some (withKey col key t) else none
  | .update .., _ | .insert .., _ => none

/-- At most one row for each value of the column. -/
def KeyUnique (k : Bytes) (t : Records) : Prop := ∀ v, (withKey col (k, v) t).length ≤ 1

variable {col} {sets : List (Bytes × Bytes)} {key : Bytes × Bytes}

theorem has_setAll {key : Bytes × Bytes} (hkey : key.1 ∉ sets.map Prod.fst) (row : Record) :
    (row.setAll sets).has col key = row.has col key := by
  unfold Record.has
  rw [Record.setAll_of_notMem sets row hkey]

/-- An update that does not set the column changes the rows of a key and no others. -/
theorem withKey_updateRows (hkey : key.1 ∉ sets.map Prod.fst) (t : Records) :
    withKey col key (updateRows col sets key t) = (withKey col key t).map (Record.setAll · sets) := by
  unfold withKey updateRows
  induction t with
  | nil => rfl
  | cons row t ih =>
    rw [List.map_cons]
    by_cases h : row.has col key = true
    · rw [if_pos h, List.filter_cons_of_pos (by rw [has_setAll hkey]; exact h),
        List.filter_cons_of_pos h, List.map_cons, ih]
    · rw [if_neg h, List.filter_cons_of_neg h, List.filter_cons_of_neg h, ih]

theorem withoutKey_updateRows (hkey : key.1 ∉ sets.map Prod.fst) (t : Records) :
    withoutKey col key (updateRows col sets key t) = withoutKey col key t := by
  unfold withoutKey updateRows
  induction t with
  | nil => rfl
  | cons row t ih =>
    rw [List.map_cons]
    by_cases h : row.has col key = true
    · simp [h, has_setAll hkey, ih]
    · simp [h, ih]

/-- Whatever the key of the update, every value of the column has as many rows as before. -/
theorem length_withKey_updateRows {k : Bytes} (hk : k ∉ sets.map Prod.fst) (v : Bytes)
    (t : Records) :
    (withKey col (k, v) (updateRows col sets key t)).length = (withKey col (k, v) t).length := by
  unfold withKey updateRows
  rw [List.filter_map, List.length_map]
  congr 1
  apply List.filter_congr
  intro row _
  show (if row.has col key then row.setAll sets else row).has col (k, v) = row.has col (k, v)
  split
  · exact has_setAll hk row
  · rfl

theorem KeyUnique.update {k : Bytes} {t : Records} (h : KeyUnique col k t)
    (hk : k ∉ sets.map Prod.fst) : KeyUnique col k (updateRows col sets key t) := by
  intro v
  rw [length_withKey_updateRows hk]
  exact h v

/-- A row is added whose value no row has. -/
theorem KeyUnique.insert {k v : Bytes} {t : Records} {row : Record} (h : KeyUnique col k t)
    (hrow : row k = some v) (hnone : withKey col (k, v) t = []) :
    KeyUnique col k (t ++ [row]) := by
  intro v'
  unfold withKey
  rw [List.filter_append, List.length_append]
  by_cases hv' : row.has col (k, v') = true
  · have hsame : col.same v v' = true := by
      unfold Record.has at hv'
      rw [hrow] at hv'
      exact hv'
    -- a row of the other value would be one of this
    have hnil : t.filter (Record.has col (k, v')) = [] := by
      rw [List.filter_eq_nil_iff]
      intro row' hrow' hhas
      unfold Record.has at hhas
      split at hhas
      · cases hhas
      · next x hx =>
        have hmem : row' ∈ withKey col (k, v) t := by
          unfold withKey
          rw [List.mem_filter]
          refine ⟨hrow', ?_⟩
          unfold Record.has
          rw [hx]
          exact col.trans hhas (col.symm hsame)
        rw [hnone] at hmem
        cases hmem
    rw [hnil, List.filter_cons_of_pos hv']
    exact Nat.le_refl 1
  · rw [List.filter_cons_of_neg hv']
    exact h v'

/-- The row of a key has been written: it is the one row of the key and meets `p`, the
    other rows are as before, and there is still at most one row for each value. -/
structure RowWritten (col : Collation) (key : Bytes × Bytes) (p : Record → Prop) (t t' : Records) :
    Prop where
  one : ∃ row, withKey col key t' = [row] ∧ p row
  others : withoutKey col key t' = withoutKey col key t
  unique : KeyUnique col key.1 t'

/-- By an update, when there is one row. -/
theorem RowWritten.of_update {t : Records} (h : KeyUnique col key.1 t)
    (hone : (withKey col key t).length = 1) (hkey : key.1 ∉ sets.map Prod.fst) {p : Record → Prop}
    (hp : ∀ row : Record, p (row.setAll sets)) : RowWritten col key p t (updateRows col sets key t) where
  one := by
    obtain ⟨row, hrow⟩ := List.length_eq_one_iff.mp hone
    refine ⟨row.setAll sets, ?_, hp row⟩
    rw [withKey_updateRows hkey, hrow]
    rfl
  others := withoutKey_updateRows hkey t
  unique := h.update hkey

/-- By an insert, when there is none. -/
theorem RowWritten.of_insert {t : Records} (h : KeyUnique col key.1 t)
    (hone : (withKey col key t).length ≠ 1) {row : Record} (hrow : row key.1 = some key.2)
    {p : Record → Prop} (hp : p row) : RowWritten col key p t (t ++ [row]) := by
  have hnone : withKey col key t = [] := by
    have hle : (withKey col key t).length ≤ 1 := h key.2
    exact List.length_eq_zero_iff.mp (by omega)
  have hhas : row.has col key = true := by
    unfold Record.has
    rw [hrow]
    exact col.refl key.2
  refine ⟨⟨row, ?_, hp⟩, ?_, h.insert hrow hnone⟩
  · unfold withKey at hnone ⊢
    rw [List.filter_append, hnone, List.filter_cons_of_pos hhas]
    rfl
  · unfold withoutKey
    simp [hhas]

end

end SqlExec
