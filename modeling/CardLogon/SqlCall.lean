import CardLogon.SqlExec

/- Statements with function calls, and with literals that are no places for fields.

   An expression is an operand, a column or a literal, or a call of a function of the
   server on operands; an update assigns expressions, a select has a list of them. What
   the functions give is a parameter (`Functions`). The literals of a format that are not
   `%s` keep their values (`Place`), so that the statement of a filled format is again the
   statement of the format with the fields in the places of their numbers
   (`readCall_fill`).

   The rules about the rows of a key are for any change of rows that keeps the key's
   column (`mapKey`): it changes the rows of its key (`withKey_mapKey_same`) and none of
   another value of the column (`withKey_mapKey_other`). -/
namespace SqlCall
open CText SqlLex SqlExec

/-! Syntax. -/

inductive Operand (α : Type) where
  | column (c : Bytes)
  | value (a : α)
  deriving DecidableEq

inductive Expr (α : Type) where
  | operand (x : Operand α)
  | call (fn : Bytes) (args : List (Operand α))
  deriving DecidableEq

inductive CallStatement (α : Type) where
  | update (table : Bytes) (sets : List (Bytes × Expr α)) (key : Bytes × α)
  | select (items : List (Expr α)) (table : Bytes) (key : Bytes × α)
  deriving DecidableEq

section
variable {α β : Type}

def Operand.map (f : α → β) : Operand α → Operand β
  | .column c => .column c
  | .value a => .value (f a)

def Expr.map (f : α → β) : Expr α → Expr β
  | .operand x => .operand (x.map f)
  | .call fn args => .call fn (args.map (Operand.map f))

def CallStatement.map (f : α → β) : CallStatement α → CallStatement β
  | .update n sets key => .update n (sets.map (Prod.map id (Expr.map f))) (Prod.map id f key)
  | .select items n key => .select (items.map (Expr.map f)) n (Prod.map id f key)

/-! Readers. -/

def operand : Reader α (Operand α) :=
  Reader.orElse (do let c ← Reader.name; Reader.done (.column c))
    (do let a ← Reader.value; Reader.done (.value a))

/-- 40 and 41 are the parentheses. -/
def expr : Reader α (Expr α) :=
  Reader.orElse
    (do
      let fn ← Reader.name
      Reader.symbol 40
      let args ← Reader.list operand
      Reader.symbol 41
      Reader.done (.call fn args))
    (do let x ← operand; Reader.done (.operand x))

/-- An item of a select; the name after `as` is not looked at. -/
def item : Reader α (Expr α) := do
  let e ← expr
  Reader.orElse (do Reader.keyword (lit "as"); let _ ← Reader.name; Reader.done e) (Reader.done e)

/-- `column=expression`; 61 is `=`. -/
def assignExpr : Reader α (Bytes × Expr α) := do
  let column ← Reader.name
  Reader.symbol 61
  let e ← expr
  Reader.done (column, e)

def updateExpr : Reader α (CallStatement α) := do
  Reader.keyword (lit "update")
  let table ← Reader.name
  Reader.keyword (lit "set")
  let sets ← Reader.list assignExpr
  Reader.keyword (lit "where")
  let key ← Reader.assign
  Reader.done (.update table sets key)

def selectExpr : Reader α (CallStatement α) := do
  Reader.keyword (lit "select")
  let items ← Reader.list item
  Reader.keyword (lit "from")
  let table ← Reader.name
  Reader.keyword (lit "where")
  let key ← Reader.assign
  Reader.done (.select items table key)

def callStatement : Reader α (CallStatement α) := updateExpr.orElse selectExpr

/-- The statement of a text whose tokens are these. -/
def readCall (ts : List (UInt8 ⊕ α)) : Option (CallStatement α) :=
  (callStatement (lexemes [] ts)).bind fun p => if atEnd p.2 then some p.1 else none

/-! The readers do not look at the values. -/

open Natural

theorem natural_operand (f : α → β) : Natural f operand operand (Operand.map f) := by
  apply orElse
  · apply bind (name f)
    intro c
    exact done f (Operand.map f) (.column c)
  · apply bind (value f)
    intro a
    exact done f (Operand.map f) (.value a)

theorem natural_expr (f : α → β) : Natural f expr expr (Expr.map f) := by
  apply orElse
  · apply bind (name f)
    intro fn
    apply bind (symbol f 40)
    intro _
    apply bind (list (natural_operand f))
    intro args
    apply bind (symbol f 41)
    intro _
    exact done f (Expr.map f) (.call fn args)
  · apply bind (natural_operand f)
    intro x
    exact done f (Expr.map f) (.operand x)

theorem natural_item (f : α → β) : Natural f item item (Expr.map f) := by
  apply bind (natural_expr f)
  intro e
  apply orElse
  · apply bind (keyword f _)
    intro _
    apply bind (name f)
    intro _
    exact done f (Expr.map f) e
  · exact done f (Expr.map f) e

theorem natural_assignExpr (f : α → β) :
    Natural f assignExpr assignExpr (Prod.map id (Expr.map f)) := by
  apply bind (name f)
  intro c
  apply bind (symbol f 61)
  intro _
  apply bind (natural_expr f)
  intro e
  exact done f (Prod.map id (Expr.map f)) (c, e)

theorem natural_updateExpr (f : α → β) :
    Natural f updateExpr updateExpr (CallStatement.map f) := by
  apply bind (keyword f _)
  intro _
  apply bind (name f)
  intro table
  apply bind (keyword f _)
  intro _
  apply bind (list (natural_assignExpr f))
  intro sets
  apply bind (keyword f _)
  intro _
  apply bind (assign f)
  intro key
  exact done f (CallStatement.map f) (.update table sets key)

theorem natural_selectExpr (f : α → β) :
    Natural f selectExpr selectExpr (CallStatement.map f) := by
  apply bind (keyword f _)
  intro _
  apply bind (list (natural_item f))
  intro items
  apply bind (keyword f _)
  intro _
  apply bind (name f)
  intro table
  apply bind (keyword f _)
  intro _
  apply bind (assign f)
  intro key
  exact done f (CallStatement.map f) (.select items table key)

/-- Renamed values are read as the statement with its values renamed. -/
theorem readCall_map (f : α → β) (ts : List (UInt8 ⊕ α)) :
    readCall (ts.map (Sum.map id f)) = (readCall ts).map (CallStatement.map f) := by
  have h : Natural f callStatement callStatement (CallStatement.map f) :=
    orElse (natural_updateExpr f) (natural_selectExpr f)
  unfold readCall
  rw [lexemes_map, h]
  cases callStatement (lexemes [] ts) with
  | none => rfl
  | some p =>
    show (if atEnd (p.2.map (Lexeme.map f)) then _ else none) =
      Option.map _ (if atEnd p.2 then _ else none)
    rw [atEnd_map]
    split
    · rfl
    · rfl

end

/-! The statement of a filled format. -/

/-- The number of a place for a field, or the value of another literal. -/
abbrev Place := Nat ⊕ Bytes

/-- What stands there when the fields are `fs`. -/
def Place.fill (fs : List Bytes) : Place → Bytes
  | .inl i => fs.getD i []
  | .inr v => v

/-- The literals replaced by their places, which are numbered from `n` on. -/
def places : Nat → List Token → List (UInt8 ⊕ Place)
  | _, [] => []
  | n, .ch c :: ts => .inl c :: places n ts
  | n, .lit q v :: ts =>
    if isHole (.lit q v) then .inr (.inl n) :: places (n + 1) ts else .inr (.inr v) :: places n ts

/-- The statement of a format. -/
def formatCall (format : Bytes) : Option (CallStatement Place) :=
  (lex format).bind fun ts => readCall (places 0 ts)

/-- The statement of a text. -/
def readCallText (text : Bytes) : Option (CallStatement Bytes) :=
  (lex text).bind fun ts => readCall (ts.map atom)

/-- The places are filled in their order. -/
theorem fill_places (fs : List Bytes) (n : Nat) (ts : List Token)
    (hn : n + (ts.filterMap holeKind).length ≤ fs.length) :
    (fill ts (fs.drop n)).map atom = (places n ts).map (Sum.map id (Place.fill fs)) := by
  induction ts generalizing n with
  | nil => rfl
  | cons t ts ih =>
    cases t with
    | ch c =>
      have hfill : fill (.ch c :: ts) (fs.drop n) = .ch c :: fill ts (fs.drop n) := by
        cases fs.drop n with
        | nil => rfl
        | cons f fs' => rfl
      rw [hfill, List.map_cons, ih n hn]
      rfl
    | lit q v =>
      by_cases ht : isHole (.lit q v) = true
      · have hhole : holeKind (.lit q v) = some q := by
          simpa [holeKind, isHole] using ht
        rw [List.filterMap_cons, hhole] at hn
        dsimp only [List.length_cons] at hn
        have hlt : n < fs.length := by omega
        have hget : fs.getD n [] = fs[n] := by
          rw [List.getD_eq_getElem?_getD, List.getElem?_eq_getElem hlt]
          rfl
        rw [List.drop_eq_getElem_cons hlt]
        simp only [fill, places, if_pos ht, List.map_cons, ih (n + 1) (by omega), atom,
          Sum.map_inr, Place.fill, hget]
      -- a literal with a value of its own takes no field
      · have hhole : holeKind (.lit q v) = none := by
          simpa [holeKind, isHole] using ht
        rw [List.filterMap_cons, hhole] at hn
        have hfill : fill (.lit q v :: ts) (fs.drop n) = .lit q v :: fill ts (fs.drop n) := by
          cases fs.drop n with
          | nil => rfl
          | cons f fs' => exact if_neg ht
        simp only [hfill, places, if_neg ht, List.map_cons, ih n hn, atom, Sum.map_inr, Place.fill]

/-- A text that lexes as the format with the fields in the holes is the format's
    statement, with the fields in the places of their numbers. -/
theorem readCall_fill {format text : Bytes} {ts : List Token} {fs : List Bytes}
    {shape : CallStatement Place} (hshape : formatCall format = some shape)
    (hlex : lex format = some ts) (hlen : (quoteKinds format).length = fs.length)
    (htext : lex text = some (fill ts fs)) :
    readCallText text = some (shape.map (Place.fill fs)) := by
  unfold formatCall at hshape
  rw [hlex, Option.bind_some] at hshape
  have hcount : 0 + (ts.filterMap holeKind).length ≤ fs.length := by
    unfold quoteKinds at hlen
    rw [hlex, Option.getD_some] at hlen
    omega
  have hatoms := fill_places fs 0 ts hcount
  rw [List.drop_zero] at hatoms
  unfold readCallText
  rw [htext, Option.bind_some, hatoms, readCall_map, hshape]
  rfl

/-! What the statements do. -/

/-- What the server's functions give; NULL is `none`. -/
abbrev Functions := Bytes → List (Option Bytes) → Option Bytes

def Operand.eval (row : Record) : Operand Bytes → Option Bytes
  | .column c => row c
  | .value v => some v

def Expr.eval (fns : Functions) (row : Record) : Expr Bytes → Option Bytes
  | .operand x => x.eval row
  | .call fn args => fns fn (args.map (Operand.eval row))

/-- The assignments, from left to right. -/
def assignAll (fns : Functions) (sets : List (Bytes × Expr Bytes)) (row : Record) : Record :=
  sets.foldl (fun row p => Function.update row p.1 (p.2.eval fns row)) row

theorem assignAll_of_notMem {fns : Functions} {c : Bytes} (sets : List (Bytes × Expr Bytes))
    (row : Record) (hc : c ∉ sets.map Prod.fst) : assignAll fns sets row c = row c := by
  induction sets generalizing row with
  | nil => rfl
  | cons p sets ih =>
    rw [List.map_cons, List.mem_cons, not_or] at hc
    calc assignAll fns (p :: sets) row c
      _ = (Function.update row p.1 (p.2.eval fns row)) c := ih _ hc.2
      _ = row c := Function.update_of_ne hc.1 _ _

section
variable (col : Collation)

/-- A change of the rows of a key. -/
def mapKey (key : Bytes × Bytes) (f : Record → Record) (t : Records) : Records :=
  t.map fun row => if row.has col key then f row else row

/-- What a statement does to the table `name`; `none` is an error. -/
def CallStatement.exec (fns : Functions) (name : Bytes) : CallStatement Bytes → Records →
    Option Records
  | .update n sets key, t => if n = name then some (mapKey col key (assignAll fns sets) t) else none
  | .select _ n _, t => if n = name then some t else none

/-- The result set of a select. -/
def CallStatement.rows (fns : Functions) (name : Bytes) : CallStatement Bytes → Records →
    Option (List (List (Option Bytes)))
  | .select items n key, t =>
    if n = name then some ((withKey col key t).map fun row => items.map (Expr.eval fns row)) else none
  | .update .., _ => none

variable {col} (key : Bytes × Bytes) {f : Record → Record} (hf : ∀ row, f row key.1 = row key.1)
include hf

/-- The change does not touch the column, so it keeps what a comparison with it says. -/
theorem has_of_keeps (v : Bytes) (row : Record) : (f row).has col (key.1, v) = row.has col (key.1, v) := by
  unfold Record.has
  rw [hf]

theorem has_mapped (v : Bytes) (row : Record) :
    (if row.has col key then f row else row).has col (key.1, v) = row.has col (key.1, v) := by
  split
  · exact has_of_keeps key hf v row
  · rfl

/-- The rows of a value of the column, after the change, are those before, changed. -/
theorem withKey_mapKey_eq (v : Bytes) (t : Records) :
    withKey col (key.1, v) (mapKey col key f t) =
      (withKey col (key.1, v) t).map fun row => if row.has col key then f row else row := by
  unfold withKey mapKey
  rw [List.filter_map]
  congr 1
  apply List.filter_congr
  intro row _
  exact has_mapped key hf v row

/-- The rows of a value that the key's is the same as are changed too. -/
theorem withKey_mapKey_same {v : Bytes} (hv : col.same key.2 v = true) (t : Records) :
    withKey col (key.1, v) (mapKey col key f t) = (withKey col (key.1, v) t).map f := by
  rw [withKey_mapKey_eq key hf]
  apply List.map_congr_left
  intro row hrow
  apply if_pos
  have hhas := (List.mem_filter.mp hrow).2
  unfold Record.has at hhas ⊢
  split at hhas
  · cases hhas
  · next x hx =>
    rw [hx]
    exact col.trans hhas (col.symm hv)

/-- Those of any other value are as they were. -/
theorem withKey_mapKey_other {v : Bytes} (hv : col.same key.2 v = false) (t : Records) :
    withKey col (key.1, v) (mapKey col key f t) = withKey col (key.1, v) t := by
  rw [withKey_mapKey_eq key hf]
  calc (withKey col (key.1, v) t).map (fun row => if row.has col key then f row else row)
    _ = (withKey col (key.1, v) t).map id := by
      apply List.map_congr_left
      intro row hrow
      apply if_neg
      intro hkey
      have hhas := (List.mem_filter.mp hrow).2
      unfold Record.has at hhas hkey
      split at hhas
      · cases hhas
      · next x hx =>
        rw [hx] at hkey
        rw [col.trans (col.symm hkey) hhas] at hv
        cases hv
    _ = withKey col (key.1, v) t := List.map_id _

end

end SqlCall
