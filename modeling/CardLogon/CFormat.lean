import CardLogon.CText
import Mathlib.Algebra.GroupWithZero.Nat
import Mathlib.Tactic.SplitIfs

/- Formats of bytes and plain `%s`, and texts that are used as formats.

   `sprintf_plain`: the text of a plain format is the bytes of the format and the
   arguments, in some order, which gives its length and its characters at once.
   `sprintf_self_iff`: a text that is printed as a format, without arguments, comes out as
   it is exactly when it has no `%`. -/
namespace CText

/-! Formats of bytes and plain `%s`. -/

/-- A byte, or a `%s` without flag, width and precision. -/
def Piece.plain : Piece → Bool
  | .byte _ => true
  | .str left width prec => !left && width == 0 && prec == none

/-- The bytes a format copies. -/
def copied : List Piece → Bytes
  | [] => []
  | .byte c :: ps => c :: copied ps
  | .str _ _ _ :: ps => copied ps

/-- The number of arguments it takes. -/
def taken : List Piece → Nat
  | [] => 0
  | .byte _ :: ps => taken ps
  | .str _ _ _ :: ps => taken ps + 1

/-- What a format of plain pieces copies, and how many arguments it takes. -/
def plainFormat (fmt : Bytes) : Option (Bytes × Nat) :=
  (parse fmt).bind fun ps => if ps.all Piece.plain then some (copied ps, taken ps) else none

theorem render_plain (ps : List Piece) (as : List Bytes) (hps : ∀ p ∈ ps, p.plain = true)
    (hlen : taken ps = as.length) (hno : ∀ a ∈ as, (0 : UInt8) ∉ a) :
    ∃ out, render ps as = some out ∧ out.Perm (copied ps ++ as.flatten) := by
  induction ps generalizing as with
  | nil =>
    obtain rfl := List.length_eq_zero_iff.mp hlen.symm
    exact ⟨[], rfl, .nil⟩
  | cons p ps ih =>
    have hps' : ∀ p ∈ ps, p.plain = true := fun q hq => hps q (List.mem_cons_of_mem p hq)
    cases p with
    | byte c =>
      obtain ⟨out, hout, hperm⟩ := ih as hps' hlen hno
      refine ⟨c :: out, ?_, hperm.cons c⟩
      rw [render, hout, Option.map_some]
    | str left width prec =>
      have hplain := hps (.str left width prec) List.mem_cons_self
      simp only [Piece.plain, Bool.and_eq_true, Bool.not_eq_true', beq_iff_eq] at hplain
      obtain ⟨⟨rfl, rfl⟩, rfl⟩ := hplain
      cases as with
      | nil => cases hlen
      | cons a as =>
        obtain ⟨out, hout, hperm⟩ := ih as hps' (Nat.succ.inj hlen)
          fun b hb => hno b (List.mem_cons_of_mem a hb)
        refine ⟨a ++ out, ?_, ?_⟩
        · rw [render, hout, field_plain (hno a List.mem_cons_self), Option.map_some]
        · rw [copied, List.flatten_cons]
          exact (hperm.append_left a).trans (List.perm_append_comm_assoc a (copied ps) as.flatten)

/-- The text of a plain format is its bytes and the arguments, in some order. -/
theorem sprintf_plain {fmt lits : Bytes} {n : Nat} (h : plainFormat fmt = some (lits, n))
    {as : List Bytes} (hn : as.length = n) (hno : ∀ a ∈ as, (0 : UInt8) ∉ a) :
    ∃ out, sprintf fmt as = some out ∧ out.Perm (lits ++ as.flatten) := by
  obtain ⟨ps, hparse, hps⟩ := Option.bind_eq_some_iff.mp h
  split at hps
  · next hall =>
    obtain ⟨rfl, rfl⟩ := Prod.mk.inj (Option.some.inj hps)
    obtain ⟨out, hout, hperm⟩ := render_plain ps as (List.all_eq_true.mp hall) hn.symm hno
    refine ⟨out, ?_, hperm⟩
    unfold sprintf
    rw [hparse, Option.bind_some, hout]
  · cases hps

/-- It fits exactly when the sizes add up to less than the buffer. -/
theorem sprintf_s_isSome_iff {size n : Nat} {fmt lits : Bytes}
    (h : plainFormat fmt = some (lits, n)) {as : List Bytes} (hn : as.length = n)
    (hno : ∀ a ∈ as, (0 : UInt8) ∉ a) :
    (sprintf_s size fmt as).isSome = true ↔ lits.length + (as.map List.length).sum < size := by
  obtain ⟨out, hout, hperm⟩ := sprintf_plain h hn hno
  have hlen : out.length = lits.length + (as.map List.length).sum := by
    rw [hperm.length_eq, List.length_append, List.length_flatten]
  rw [← hlen, Option.isSome_iff_exists]
  refine ⟨fun ⟨out', h'⟩ => ?_, fun h' => ⟨out, sprintf_s_eq_some.mpr ⟨hout, h'⟩⟩⟩
  obtain ⟨hout', hfits⟩ := sprintf_s_eq_some.mp h'
  obtain rfl := Option.some.inj (hout.symm.trans hout')
  exact hfits

/-! A text as a format without arguments. -/

/-- Inside a conversion nothing but a `%s` comes next. -/
theorem parseFrom_conversion : ∀ {s : Bytes} {m : FmtMode} {ps : List Piece},
    m ≠ .text → m ≠ .percent → parseFrom m s = some ps →
      ∃ left width prec ps', ps = .str left width prec :: ps'
  | [], m, ps, hm, _, h => by
    cases m with
    | text => exact absurd rfl hm
    | _ => cases h
  | c :: s, m, ps, hm, hm', h => by
    cases m with
    | text => exact absurd rfl hm
    | percent => exact absurd rfl hm'
    | flags =>
      simp only [parseFrom] at h
      split_ifs at h
      · exact parseFrom_conversion (by simp) (by simp) h
      · exact parseFrom_conversion (by simp) (by simp) h
      · exact parseFrom_conversion (by simp) (by simp) h
      · obtain ⟨ps', -, rfl⟩ := Option.map_eq_some_iff.mp h
        exact ⟨_, _, _, _, rfl⟩
    | width left w =>
      simp only [parseFrom] at h
      split_ifs at h
      · exact parseFrom_conversion (by simp) (by simp) h
      · exact parseFrom_conversion (by simp) (by simp) h
      · obtain ⟨ps', -, rfl⟩ := Option.map_eq_some_iff.mp h
        exact ⟨_, _, _, _, rfl⟩
    | prec left w p =>
      simp only [parseFrom] at h
      split_ifs at h
      · exact parseFrom_conversion (by simp) (by simp) h
      · obtain ⟨ps', -, rfl⟩ := Option.map_eq_some_iff.mp h
        exact ⟨_, _, _, _, rfl⟩

theorem render_str_nil (left : Bool) (width : Nat) (prec : Option Nat) (ps : List Piece) :
    render (.str left width prec :: ps) [] = none := rfl

/-- Behind a `%`, a text without arguments goes on with another one. -/
theorem fillFrom_percent {d : UInt8} {s out : Bytes} (h : fillFrom (37 :: d :: s) [] = some out) :
    d = 37 ∧ ∃ out', fillFrom s [] = some out' ∧ out = 37 :: out' := by
  obtain ⟨ps, hparse, hout⟩ := Option.bind_eq_some_iff.mp h
  rw [parseFrom, if_pos rfl, parseFrom] at hparse
  by_cases hd : d = 37
  · rw [if_pos hd] at hparse
    obtain ⟨ps', hps', rfl⟩ := Option.map_eq_some_iff.mp hparse
    obtain ⟨out', hout', rfl⟩ := Option.map_eq_some_iff.mp hout
    refine ⟨hd, out', ?_, rfl⟩
    unfold fillFrom
    rw [hps', Option.bind_some, hout']
  · rw [if_neg hd] at hparse
    have hstr : ∃ left width prec ps', ps = .str left width prec :: ps' := by
      split_ifs at hparse
      · exact parseFrom_conversion (by simp) (by simp) hparse
      · exact parseFrom_conversion (by simp) (by simp) hparse
      · exact parseFrom_conversion (by simp) (by simp) hparse
      · obtain ⟨ps', -, rfl⟩ := Option.map_eq_some_iff.mp hparse
        exact ⟨_, _, _, _, rfl⟩
    obtain ⟨left, width, prec, ps', rfl⟩ := hstr
    rw [render_str_nil] at hout
    cases hout

/-- A text printed without arguments up to a byte that no conversion takes: the two parts
    are printed one after the other. -/
theorem fillFrom_append_stop {d : UInt8} (hd : d ≠ 37) (t : Bytes) : ∀ s : Bytes,
    fillFrom (s ++ d :: t) [] =
      (fillFrom s []).bind fun a => (fillFrom (d :: t) []).map (a ++ ·)
  | [] => by
    rw [fillFrom_nil, Option.bind_some, List.nil_append]
    cases fillFrom (d :: t) [] <;> rfl
  | [c] => by
    by_cases hc : c = 37
    · subst hc
      have hnone : fillFrom (37 :: d :: t) [] = none := by
        by_contra h
        obtain ⟨out, hout⟩ := Option.ne_none_iff_exists'.mp h
        exact hd (fillFrom_percent hout).1
      exact hnone
    · have hno : (37 : UInt8) ∉ [c] := by simpa using Ne.symm hc
      have hself := fillFrom_text hno [] []
      rw [List.append_nil, fillFrom_nil, Option.map_some, List.append_nil] at hself
      rw [fillFrom_text hno, hself, Option.bind_some]
  | c :: e :: s => by
    by_cases hc : c = 37
    · subst hc
      by_cases he : e = 37
      · subst he
        have hpair : ∀ u, fillFrom (37 :: 37 :: u) [] = (fillFrom u []).map (37 :: ·) := by
          intro u
          unfold fillFrom
          rw [parseFrom, if_pos rfl, parseFrom, if_pos rfl]
          cases parseFrom .text u with
          | none => rfl
          | some ps => rfl
        rw [List.cons_append, List.cons_append, hpair, hpair, fillFrom_append_stop hd t s]
        cases fillFrom s [] with
        | none => rfl
        | some a =>
          cases fillFrom (d :: t) [] with
          | none => rfl
          | some b => rfl
      · have hnone : ∀ u, fillFrom (37 :: e :: u) [] = none := by
          intro u
          by_contra h
          obtain ⟨out, hout⟩ := Option.ne_none_iff_exists'.mp h
          exact he (fillFrom_percent hout).1
        rw [List.cons_append, List.cons_append, hnone, hnone]
        rfl
    · have hno : (37 : UInt8) ∉ [c] := by simpa using Ne.symm hc
      have hrest := fillFrom_append_stop hd t (e :: s)
      rw [show c :: e :: s ++ d :: t = [c] ++ (e :: s ++ d :: t) from rfl, fillFrom_text hno, hrest,
        show c :: e :: s = [c] ++ (e :: s) from rfl, fillFrom_text hno]
      cases fillFrom (e :: s) [] with
      | none => rfl
      | some a =>
        cases fillFrom (d :: t) [] with
        | none => rfl
        | some b => rfl

/-- Nothing comes into a text that is printed without arguments. -/
theorem mem_of_mem_fillFrom : ∀ (s : Bytes) {out : Bytes}, fillFrom s [] = some out →
    ∀ c ∈ out, c ∈ s
  | [], out, h, c, hc => by
    obtain rfl := Option.some.inj h
    exact hc
  | [b], out, h, c, hc => by
    by_cases hb : b = 37
    · subst hb
      cases h
    · have hno : (37 : UInt8) ∉ [b] := by simpa using Ne.symm hb
      have hout := fillFrom_text hno [] []
      rw [List.append_nil, h, fillFrom_nil] at hout
      obtain rfl := Option.some.inj hout
      simpa using hc
  | b :: d :: s, out, h, c, hc => by
    by_cases hb : b = 37
    · subst hb
      obtain ⟨-, out', hout', rfl⟩ := fillFrom_percent h
      have ih := mem_of_mem_fillFrom s hout' c
      simp only [List.mem_cons] at hc ⊢
      tauto
    · have hno : (37 : UInt8) ∉ [b] := by simpa using Ne.symm hb
      have hout := fillFrom_text hno (d :: s) []
      rw [List.singleton_append, h] at hout
      obtain ⟨out', hout', rfl⟩ := Option.map_eq_some_iff.mp hout.symm
      rcases List.mem_append.mp hc with hc | hc
      · rw [List.mem_singleton.mp hc]
        exact List.mem_cons_self
      · exact List.mem_cons_of_mem _ (mem_of_mem_fillFrom (d :: s) hout' c hc)

/-- Printed without arguments, a text does not get longer, and keeps its length only if it
    has no `%`. -/
theorem length_fillFrom_nil : ∀ (s : Bytes) {out : Bytes}, fillFrom s [] = some out →
    out.length ≤ s.length ∧ (out.length = s.length → (37 : UInt8) ∉ s)
  | [], out, h => by
    obtain rfl := Option.some.inj h
    exact ⟨Nat.le_refl 0, fun _ => List.not_mem_nil⟩
  | [c], out, h => by
    by_cases hc : c = 37
    · subst hc
      cases h
    · have hno : (37 : UInt8) ∉ [c] := by simpa using Ne.symm hc
      have hout := fillFrom_text hno [] []
      rw [List.append_nil, h, fillFrom_nil] at hout
      obtain rfl := Option.some.inj hout
      exact ⟨Nat.le_refl _, fun _ => by simpa using hno⟩
  | c :: d :: s, out, h => by
    by_cases hc : c = 37
    · subst hc
      obtain ⟨-, out', hout', rfl⟩ := fillFrom_percent h
      obtain ⟨hle, -⟩ := length_fillFrom_nil s hout'
      simp only [List.length_cons]
      refine ⟨by omega, fun heq => ?_⟩
      omega
    · have hno : (37 : UInt8) ∉ [c] := by simpa using Ne.symm hc
      have hout := fillFrom_text hno (d :: s) []
      rw [List.singleton_append, h] at hout
      obtain ⟨out', hout', rfl⟩ := Option.map_eq_some_iff.mp hout.symm
      obtain ⟨hle, heq⟩ := length_fillFrom_nil (d :: s) hout'
      simp only [List.singleton_append, List.length_cons] at hle heq ⊢
      refine ⟨by omega, fun hlen => ?_⟩
      rw [List.mem_cons, not_or]
      exact ⟨Ne.symm hc, heq (by omega)⟩

/-- A text comes out of `sprintf` as it is exactly when it has no `%`. -/
theorem sprintf_self_iff {s : Bytes} (h : (0 : UInt8) ∉ s) :
    sprintf s [] = some s ↔ (37 : UInt8) ∉ s := by
  rw [sprintf_eq, cstr_of_no_nul h]
  refine ⟨fun hs => (length_fillFrom_nil s hs).2 rfl, fun hs => ?_⟩
  have hout := fillFrom_text hs [] []
  rw [List.append_nil, fillFrom_nil, Option.map_some, List.append_nil] at hout
  exact hout

end CText
