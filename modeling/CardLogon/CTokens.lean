import CardLogon.CText
import Mathlib.Algebra.GroupWithZero.Nat
import Mathlib.Data.List.Basic
import Mathlib.Data.Nat.Log

/- Fields of a text: numbers as `%d`, `%02d` and `%02X` print them and how they are read
   back, `strtok`, and lists with a separator.

   `strtok` skips the separators at the front and cuts at the next one, so that empty
   fields are lost: it gives a field back exactly when the field is not empty and has no
   separator in it. `appendField` adds a field to a list and puts the separator between
   only when the list is longer than a bound: the fields come back from the list exactly
   when there is one, or the first is longer than that (`splitOn_appended`,
   `of_length_splitOn_appended`). -/
namespace CText

/-! Numbers. -/

/-- `%d` of a number that is not negative. -/
def dec (n : Nat) : Bytes := (Nat.toDigits 10 n).map Char.toUInt8

/-- `%02d`. -/
def dec2 (n : Nat) : Bytes := if n < 10 then 48 :: dec n else dec n

def hexDigit (n : Nat) : UInt8 := if n < 10 then UInt8.ofNat (48 + n) else UInt8.ofNat (55 + n)

/-- `%02X` of a byte. -/
def hex2 (b : UInt8) : Bytes := [hexDigit (b.toNat / 16), hexDigit (b.toNat % 16)]

theorem mem_toDigits {n : Nat} {d : Char} (hd : d ∈ Nat.toDigits 10 n) :
    48 ≤ d.val.toNat ∧ d.val.toNat ≤ 57 := by
  have hdigit := Nat.isDigit_of_mem_toDigits (by decide) (by decide) hd
  simp only [Char.isDigit, Bool.and_eq_true, decide_eq_true_eq] at hdigit
  exact ⟨UInt32.le_iff_toNat_le.mp hdigit.1, UInt32.le_iff_toNat_le.mp hdigit.2⟩

/-- A digit is one byte. -/
theorem toNat_digit {n : Nat} {d : Char} (hd : d ∈ Nat.toDigits 10 n) :
    d.toUInt8.toNat = d.val.toNat := by
  have hrange := mem_toDigits hd
  show d.val.toNat % 256 = d.val.toNat
  omega

theorem isDigit_of_mem_dec {n : Nat} {c : UInt8} (h : c ∈ dec n) : isDigit c = true := by
  obtain ⟨d, hd, rfl⟩ := List.mem_map.mp h
  unfold isDigit
  rw [Bool.and_eq_true, decide_eq_true_eq, decide_eq_true_eq, UInt8.le_iff_toNat_le,
    UInt8.le_iff_toNat_le, toNat_digit hd]
  exact mem_toDigits hd

/-- The number that digits stand for. -/
def readDec (s : Bytes) : Nat := s.foldl (fun n c => 10 * n + digit c) 0

theorem readDec_dec (n : Nat) : readDec (dec n) = n := by
  unfold readDec dec
  rw [List.foldl_map]
  calc (Nat.toDigits 10 n).foldl (fun k d => 10 * k + digit d.toUInt8) 0
    _ = (Nat.toDigits 10 n).foldl (fun k d => 10 * k + (d.toNat - '0'.toNat)) 0 := by
      apply List.foldl_ext
      intro k d hd
      unfold digit
      rw [toNat_digit hd]
      rfl
    _ = n := Nat.ofDigitChars_ten_toDigits

/-- A number put into a text by a stream. -/
theorem lit_toString (n : Nat) : lit (toString n) = dec n := by
  calc lit (toString n) = (Nat.toDigits 10 n).flatMap String.utf8EncodeChar := by
        show (String.ofList (Nat.toDigits 10 n)).toByteArray.data.toList = _
        rw [String.toByteArray_ofList]
        exact List.toList_data_toByteArray
    _ = (Nat.toDigits 10 n).flatMap fun d => [d.toUInt8] := by
      apply List.flatMap_congr
      intro d hd
      have hrange := mem_toDigits hd
      exact if_pos (by omega)
    _ = dec n := List.flatMap_pure_eq_map _ _

theorem dec_ne_nil (n : Nat) : dec n ≠ [] := by
  unfold dec
  rw [Ne, List.map_eq_nil_iff]
  exact Nat.toDigits_ne_nil

theorem length_dec (n : Nat) : (dec n).length = Nat.log 10 n + 1 := by
  have hiff : ∀ k, 0 < k → ((dec n).length ≤ k ↔ n < 10 ^ k) := by
    intro k hk
    unfold dec
    rw [List.length_map]
    exact Nat.length_toDigits_le_iff (by decide) hk
  have hle : (dec n).length ≤ Nat.log 10 n + 1 :=
    (hiff _ (Nat.succ_pos _)).mpr (Nat.lt_pow_succ_log_self (by decide) n)
  have hpos : 0 < (dec n).length := List.length_pos_of_ne_nil (dec_ne_nil n)
  have hlog : Nat.log 10 n < (dec n).length :=
    Nat.log_lt_of_lt_pow' (by omega) ((hiff _ hpos).mp (Nat.le_refl _))
  omega

/-- Two digits at least. -/
theorem length_dec2 (n : Nat) : (dec2 n).length = max 2 (Nat.log 10 n + 1) := by
  unfold dec2
  split
  · next h =>
    rw [List.length_cons, length_dec, Nat.log_of_lt h]
    rfl
  · next h =>
    have hlog : 1 ≤ Nat.log 10 n := Nat.log_pos (by decide) (by omega)
    rw [length_dec]
    omega

theorem isDigit_of_mem_dec2 {n : Nat} {c : UInt8} (h : c ∈ dec2 n) : isDigit c = true := by
  unfold dec2 at h
  split at h
  · obtain rfl | h := List.mem_cons.mp h
    · rfl
    · exact isDigit_of_mem_dec h
  · exact isDigit_of_mem_dec h

/-- The sixteen digits. -/
theorem hexDigit_range {n : Nat} (h : n < 16) : isDigit (hexDigit n) = true ∨
    (65 ≤ hexDigit n ∧ hexDigit n ≤ 70) := by
  have hall : ∀ n < 16, isDigit (hexDigit n) = true ∨ (65 ≤ hexDigit n ∧ hexDigit n ≤ 70) := by
    decide
  exact hall n h

/-- The value of such a digit. -/
def hexDigitVal (c : UInt8) : Nat := if isDigit c then c.toNat - 48 else c.toNat - 55

theorem hexDigitVal_hexDigit {n : Nat} (h : n < 16) : hexDigitVal (hexDigit n) = n := by
  have hall : ∀ n < 16, hexDigitVal (hexDigit n) = n := by decide
  exact hall n h

/-- The byte that two digits stand for. -/
def readHex2 (s : Bytes) : UInt8 := UInt8.ofNat (s.foldl (fun n c => 16 * n + hexDigitVal c) 0)

theorem readHex2_hex2 (b : UInt8) : readHex2 (hex2 b) = b := by
  have hb : b.toNat < 256 := b.toNat_lt_size
  unfold readHex2 hex2
  simp only [List.foldl_cons, List.foldl_nil]
  rw [hexDigitVal_hexDigit (by omega), hexDigitVal_hexDigit (by omega),
    show 16 * (16 * 0 + b.toNat / 16) + b.toNat % 16 = b.toNat by omega]
  exact UInt8.ofNat_toNat

/-- Blanks and line ends. -/
def isSpace (c : UInt8) : Bool := c == 32 || (9 ≤ c && c ≤ 13)

/-- A letter in lower case. -/
def lower (c : UInt8) : UInt8 := if 65 ≤ c && c ≤ 90 then c + 32 else c

/-! `strtok`. -/

/-- One call: the separators at the front are skipped, the token goes to the next one; what
    is left begins behind that. -/
def strtok (sep : UInt8) (s : Bytes) : Option (Bytes × Bytes) :=
  match s.dropWhile (· == sep) with
  | [] => none
  | c :: t => some ((c :: t).takeWhile (· != sep), ((c :: t).dropWhile (· != sep)).drop 1)

section
variable {sep : UInt8} {s t r : Bytes}

/-- A token is not empty and has no separator. -/
theorem strtok_token (h : strtok sep s = some (t, r)) : t ≠ [] ∧ sep ∉ t := by
  unfold strtok at h
  cases hs : s.dropWhile (· == sep) with
  | nil =>
    rw [hs] at h
    cases h
  | cons c u =>
    rw [hs] at h
    obtain ⟨rfl, -⟩ := Prod.mk.inj (Option.some.inj h)
    have hc : (c == sep) = false := by
      have hne : s.dropWhile (· == sep) ≠ [] := by
        rw [hs]
        simp
      have hd := List.head_dropWhile_not (· == sep) hne
      simpa [hs] using hd
    refine ⟨?_, ?_⟩
    · rw [List.takeWhile_cons_of_pos (by simpa using hc)]
      simp
    · intro hm
      simpa using List.mem_takeWhile_imp hm

/-- Tokens and what is left are parts of the text. -/
theorem strtok_mem (h : strtok sep s = some (t, r)) {c : UInt8} (hc : c ∈ t ∨ c ∈ r) : c ∈ s := by
  unfold strtok at h
  cases hs : s.dropWhile (· == sep) with
  | nil =>
    rw [hs] at h
    cases h
  | cons d u =>
    rw [hs] at h
    obtain ⟨rfl, rfl⟩ := Prod.mk.inj (Option.some.inj h)
    have hsub : c ∈ s.dropWhile (· == sep) := by
      rw [hs]
      obtain hc | hc := hc
      · exact (List.takeWhile_prefix _).subset hc
      · exact (List.dropWhile_suffix _).subset (List.mem_of_mem_drop hc)
    exact (List.dropWhile_suffix _).subset hsub

variable (ht : t ≠ []) (hsep : sep ∉ t)
include ht hsep

theorem strtok_front : t.dropWhile (· == sep) = t := by
  obtain ⟨c, u, rfl⟩ := List.exists_cons_of_ne_nil ht
  have hc : c ≠ sep := fun e => hsep (e ▸ List.mem_cons_self)
  exact List.dropWhile_cons_of_neg (by simpa using hc)

/-- A field in front of a separator is given back. -/
theorem strtok_field (r : Bytes) : strtok sep (t ++ sep :: r) = some (t, r) := by
  have hall : ∀ c ∈ t, (c != sep) = true := by
    intro c hc
    simp only [bne_iff_ne, ne_eq]
    intro e
    exact hsep (e ▸ hc)
  obtain ⟨c, u, rfl⟩ := List.exists_cons_of_ne_nil ht
  have hc : c ≠ sep := fun e => hsep (e ▸ List.mem_cons_self)
  have hfront : (c :: u ++ sep :: r).dropWhile (· == sep) = c :: (u ++ sep :: r) :=
    List.dropWhile_cons_of_neg (by simpa using hc)
  unfold strtok
  rw [hfront]
  dsimp only
  rw [← List.cons_append, List.takeWhile_append_of_pos hall, List.dropWhile_append_of_pos hall]
  simp

/-- So is the last one. -/
theorem strtok_last : strtok sep t = some (t, []) := by
  have hall : ∀ c ∈ t, (c != sep) = true := by
    intro c hc
    simp only [bne_iff_ne, ne_eq]
    intro e
    exact hsep (e ▸ hc)
  obtain ⟨c, u, rfl⟩ := List.exists_cons_of_ne_nil ht
  unfold strtok
  rw [strtok_front ht hsep]
  dsimp only
  rw [List.takeWhile_eq_self_iff.mpr hall, List.dropWhile_eq_nil_iff.mpr hall]
  rfl

end

/-! Splitting at a separator. -/

theorem length_splitOn (x : UInt8) (s : Bytes) : (s.splitOn x).length = s.count x + 1 := by
  induction s with
  | nil => rfl
  | cons c s ih =>
    rw [List.splitOn_cons_eq_if_modifyHead]
    by_cases h : (c == x) = true
    · simp [h, ih, List.count_cons]
    · simp [h, ih, List.count_cons]

theorem count_intercalate (x : UInt8) : ∀ ls : List Bytes, ls ≠ [] →
    ([x].intercalate ls).count x + 1 = (ls.map (List.count x)).sum + ls.length
  | [], h => absurd rfl h
  | [l], _ => by simp [List.intercalate]
  | l :: m :: ls, _ => by
    have ih := count_intercalate x (m :: ls) (by simp)
    rw [List.intercalate_cons_cons, List.count_append, List.count_append, List.count_singleton_self]
    simp only [List.map_cons, List.sum_cons, List.length_cons] at ih ⊢
    omega

/-- The parts are as many as were joined exactly when none holds the separator. -/
theorem length_splitOn_intercalate (x : UInt8) {ls : List Bytes} (h : ls ≠ []) :
    (([x].intercalate ls).splitOn x).length = ls.length ↔ ∀ l ∈ ls, x ∉ l := by
  have hcount := count_intercalate x ls h
  have hsum : (ls.map (List.count x)).sum = 0 ↔ ∀ l ∈ ls, x ∉ l := by
    rw [List.sum_eq_zero_iff_forall_eq_nat, List.forall_mem_map]
    simp only [List.count_eq_zero]
  rw [length_splitOn, hcount, ← hsum]
  omega

/-- No part has the separator. -/
theorem notMem_of_mem_splitOn {x : UInt8} {s l : Bytes} (hl : l ∈ s.splitOn x) : x ∉ l := by
  refine (length_splitOn_intercalate x (List.splitOn_ne_nil x s)).mp ?_ l hl
  rw [List.intercalate_splitOn]

/-- The parts are parts of the text. -/
theorem mem_of_mem_splitOn {x c : UInt8} {s l : Bytes} (hl : l ∈ s.splitOn x) (hc : c ∈ l) :
    c ∈ s := by
  have hjoin : [x].intercalate (s.splitOn x) = s := List.intercalate_splitOn x
  rw [← hjoin]
  generalize s.splitOn x = ls at hl
  induction ls with
  | nil => cases hl
  | cons m ls ih =>
    cases ls with
    | nil =>
      obtain rfl := List.mem_singleton.mp hl
      simpa [List.intercalate] using hc
    | cons m' ls =>
      rw [List.intercalate_cons_cons, List.mem_append, List.mem_append]
      obtain rfl | hl := List.mem_cons.mp hl
      · exact .inl (.inl hc)
      · exact .inr (ih hl)

/-! Adding fields to a list. -/

/-- The separator goes in front of a field when the list is longer than the bound. -/
def appendField (sep : UInt8) (bound : Nat) (acc f : Bytes) : Bytes :=
  (if acc.length > bound then acc ++ [sep] else acc) ++ f

/-- The size of a list of size `n` when fields of these sizes are added. -/
def appendedSize (bound n : Nat) (sizes : List Nat) : Nat :=
  sizes.foldl (fun n k => (if n > bound then n + 1 else n) + k) n

section
variable (sep : UInt8) (bound : Nat)

theorem length_foldl_appendField (fs : List Bytes) (acc : Bytes) :
    (fs.foldl (appendField sep bound) acc).length =
      appendedSize bound acc.length (fs.map List.length) := by
  unfold appendedSize
  induction fs generalizing acc with
  | nil => rfl
  | cons f fs ih =>
    rw [List.foldl_cons, ih, List.map_cons, List.foldl_cons]
    congr 1
    unfold appendField
    split
    · rw [List.length_append, List.length_append, List.length_singleton]
    · rw [List.length_append]

/-- Nothing else gets into the list. -/
theorem mem_foldl_appendField {c : UInt8} {fs : List Bytes} {acc : Bytes}
    (h : c ∈ fs.foldl (appendField sep bound) acc) : c ∈ acc ∨ c = sep ∨ ∃ f ∈ fs, c ∈ f := by
  induction fs generalizing acc with
  | nil => exact .inl h
  | cons f fs ih =>
    rcases ih h with hc | rfl | ⟨g, hg, hc⟩
    · rcases List.mem_append.mp hc with hc | hc
      · split at hc
        · rcases List.mem_append.mp hc with hc | hc
          · exact .inl hc
          · exact .inr (.inl (List.mem_singleton.mp hc))
        · exact .inl hc
      · exact .inr (.inr ⟨f, List.mem_cons_self, hc⟩)
    · exact .inr (.inl rfl)
    · exact .inr (.inr ⟨g, List.mem_cons_of_mem f hg, hc⟩)

/-- What was in it stays, and every field gets in. -/
theorem mem_foldl_of_mem {c : UInt8} {fs : List Bytes} {acc : Bytes}
    (h : c ∈ acc ∨ ∃ f ∈ fs, c ∈ f) : c ∈ fs.foldl (appendField sep bound) acc := by
  induction fs generalizing acc with
  | nil =>
    obtain h | ⟨f, hf, -⟩ := h
    · exact h
    · cases hf
  | cons f fs ih =>
    apply ih
    rcases h with h | ⟨g, hg, hc⟩
    · refine .inl (List.mem_append_left f ?_)
      split
      · exact List.mem_append_left [sep] h
      · exact h
    · rcases List.mem_cons.mp hg with rfl | hg
      · exact .inl (List.mem_append_right _ hc)
      · exact .inr ⟨g, hg, hc⟩

/-- Every field that is added to a long list has its separator. -/
theorem foldl_appendField_long (fs : List Bytes) (acc : Bytes) (h : bound < acc.length) :
    fs.foldl (appendField sep bound) acc = [sep].intercalate (acc :: fs) := by
  induction fs generalizing acc with
  | nil => simp [List.intercalate]
  | cons f fs ih =>
    have hf : appendField sep bound acc f = acc ++ [sep] ++ f := by
      unfold appendField
      rw [if_pos h]
    have hlong : bound < (acc ++ [sep] ++ f).length := by
      rw [List.length_append, List.length_append]
      omega
    rw [List.foldl_cons, hf, ih _ hlong, List.intercalate_cons_cons]
    cases fs with
    | nil => simp [List.intercalate]
    | cons g fs => simp only [List.intercalate_cons_cons, List.append_assoc]

/-- Fields without separators bring at most one each. -/
theorem count_foldl_appendField_le (fs : List Bytes) (acc : Bytes) (h : ∀ f ∈ fs, sep ∉ f) :
    (fs.foldl (appendField sep bound) acc).count sep ≤ acc.count sep + fs.length := by
  induction fs generalizing acc with
  | nil => exact Nat.le_refl _
  | cons f fs ih =>
    have hf : f.count sep = 0 := List.count_eq_zero.mpr (h f List.mem_cons_self)
    have hone : (appendField sep bound acc f).count sep ≤ acc.count sep + 1 := by
      unfold appendField
      split
      · rw [List.count_append, List.count_append, hf, List.count_singleton_self]
      · rw [List.count_append, hf]
        omega
    rw [List.foldl_cons, List.length_cons]
    have := ih (appendField sep bound acc f) fun g hg => h g (List.mem_cons_of_mem f hg)
    omega

theorem appendField_nil (f : Bytes) : appendField sep bound [] f = f := by
  unfold appendField
  rw [if_neg (by simp), List.nil_append]

/-- With one field, or a first one that is longer than the bound, the fields have the
    separator between them. -/
theorem foldl_appendField_eq {f : Bytes} {fs : List Bytes} (hcase : fs = [] ∨ bound < f.length) :
    (f :: fs).foldl (appendField sep bound) [] = [sep].intercalate (f :: fs) := by
  rw [List.foldl_cons, appendField_nil]
  obtain rfl | hlong := hcase
  · simp [List.intercalate]
  · exact foldl_appendField_long sep bound fs f hlong

variable {f : Bytes} {fs : List Bytes} (h : ∀ g ∈ f :: fs, sep ∉ g)
include h

/-- The parts are then the fields. -/
theorem splitOn_appended (hcase : fs = [] ∨ bound < f.length) :
    ((f :: fs).foldl (appendField sep bound) []).splitOn sep = f :: fs := by
  rw [foldl_appendField_eq sep bound hcase]
  exact List.splitOn_intercalate sep h (List.cons_ne_nil f fs)

/-- Otherwise there are fewer parts than fields. -/
theorem of_length_splitOn_appended
    (hlen : (((f :: fs).foldl (appendField sep bound) []).splitOn sep).length = (f :: fs).length) :
    fs = [] ∨ bound < f.length := by
  rw [List.foldl_cons, appendField_nil] at hlen
  cases fs with
  | nil => exact .inl rfl
  | cons g fs =>
    refine .inr (Nat.lt_of_not_le ?_)
    intro hshort
    -- the second field is run together with the first
    have hg : appendField sep bound f g = f ++ g := by
      unfold appendField
      rw [if_neg (by omega)]
    have hzero : (f ++ g).count sep = 0 := by
      rw [List.count_append, List.count_eq_zero.mpr (h f List.mem_cons_self),
        List.count_eq_zero.mpr (h g (List.mem_cons_of_mem f List.mem_cons_self))]
    have hle := count_foldl_appendField_le sep bound fs (f ++ g) fun l hl => h l (by simp [hl])
    rw [List.foldl_cons, hg, length_splitOn, List.length_cons, List.length_cons] at hlen
    omega

end

/-! Runs of a class of characters. -/

/-- The longest runs of characters of the class. -/
def runs (p : UInt8 → Bool) (s : Bytes) : List Bytes :=
  (s.splitOnP fun c => !p c).filter fun r => r ≠ []

/-- A text of nothing else is one run. -/
theorem runs_self {p : UInt8 → Bool} {s : Bytes} (hs : s ≠ []) (hall : ∀ c ∈ s, p c = true) :
    runs p s = [s] := by
  unfold runs
  rw [List.splitOnP_eq_singleton (fun c hc => by rw [hall c hc, Bool.not_true])]
  simp [hs]

end CText
