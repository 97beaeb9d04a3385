import CardLogon.CTokens

/- Decoding application/x-www-form-urlencoded bodies.

   A body is split at every `&`, each part at its first `=`, and both halves are
   decoded: `+` is a space and `%XX` the byte XX. A `%` that two hexadecimal digits
   do not follow stands for itself.

   `decode_join_iff`: joining raw fields and decoding gives a list of as many
   fields exactly when no raw value has an `&`, and then each value is the decoded
   one. `decodeWith_eq_self_iff`: decoding leaves a string as it is exactly when
   there is no escape in it and nothing its bytes are mapped from. -/
namespace FormUrl
open CText

/-- The value of a hexadecimal digit. -/
def hexVal (c : UInt8) : Option UInt8 :=
  if 48 ≤ c ∧ c ≤ 57 then some (c - 48)
  else if 65 ≤ c ∧ c ≤ 70 then some (c - 55)
  else if 97 ≤ c ∧ c ≤ 102 then some (c - 87)
  else none

/-- The byte an escape stands for. -/
def escaped (a b : UInt8) : Option UInt8 :=
  match hexVal a, hexVal b with
  | some x, some y => some (16 * x + y)
  | _, _ => none

/-- Decode escapes, mapping the other bytes; 37 is `%`. -/
def decodeWith (f : UInt8 → UInt8) : Bytes → Bytes
  | [] => []
  | [c] => [f c]
  | [c, d] => [f c, f d]
  | c :: a :: b :: s =>
    if c = 37 then
      match escaped a b with
      | some x => x :: decodeWith f s
      | none => f c :: decodeWith f (a :: b :: s)
    else f c :: decodeWith f (a :: b :: s)

/-- `+` is a space. -/
def plusToSpace (c : UInt8) : UInt8 := if c = 43 then 32 else c

/-- A decoded half of a part. -/
def value (s : Bytes) : Bytes := decodeWith plusToSpace s

/-- A field: the decoded halves before and after the first `=`. -/
def pair (s : Bytes) : Bytes × Bytes :=
  (value (s.takeWhile (· != 61)), value ((s.dropWhile (· != 61)).drop 1))

def decode (body : Bytes) : List (Bytes × Bytes) := (body.splitOn 38).map pair

/-- Raw fields written one after the other. -/
def join (raw : List (Bytes × Bytes)) : Bytes :=
  [38].intercalate (raw.map fun r => r.1 ++ 61 :: r.2)

/-- The byte of the escape whose digits a string begins with. -/
def headEscape : Bytes → Option UInt8
  | a :: b :: _ => escaped a b
  | _ => none

theorem decodeWith_cons_escape (f : UInt8 → UInt8) {a b x : UInt8} (h : escaped a b = some x)
    (s : Bytes) : decodeWith f (37 :: a :: b :: s) = x :: decodeWith f s := by
  simp [decodeWith, h]

theorem decodeWith_cons (f : UInt8 → UInt8) {c : UInt8} {s : Bytes}
    (h : c = 37 → headEscape s = none) : decodeWith f (c :: s) = f c :: decodeWith f s := by
  match s, h with
  | [], _ => rfl
  | [a], _ => rfl
  | a :: b :: s, h =>
    by_cases hc : c = 37
    · subst hc
      have hab : escaped a b = none := h rfl
      simp [decodeWith, hab]
    · simp [decodeWith, hc]

/-! Joined fields. -/

theorem pair_join {k : Bytes} (hk : (61 : UInt8) ∉ k) (v : Bytes) :
    pair (k ++ 61 :: v) = (value k, value v) := by
  have hall : ∀ c ∈ k, (c != 61) = true := by
    intro c hc
    simp only [bne_iff_ne, ne_eq]
    intro h
    exact hk (h ▸ hc)
  simp [pair, List.takeWhile_append_of_pos hall, List.dropWhile_append_of_pos hall]

/-- Decoding joined fields gives as many fields exactly when no value holds an `&`,
    and then the decoded keys and values. -/
theorem decode_join_iff {raw ts : List (Bytes × Bytes)} (hne : raw ≠ [])
    (hkeys : ∀ r ∈ raw, (61 : UInt8) ∉ r.1 ∧ (38 : UInt8) ∉ r.1) (hlen : ts.length = raw.length) :
    decode (join raw) = ts ↔
      (∀ r ∈ raw, (38 : UInt8) ∉ r.2) ∧ ts = raw.map fun r => (value r.1, value r.2) := by
  have hparts : ∀ r ∈ raw, ((38 : UInt8) ∉ r.1 ++ 61 :: r.2 ↔ (38 : UInt8) ∉ r.2) := by
    intro r hr
    simp [(hkeys r hr).2]
  have hdecode : (∀ r ∈ raw, (38 : UInt8) ∉ r.2) →
      decode (join raw) = raw.map fun r => (value r.1, value r.2) := by
    intro hno
    rw [decode, join, List.splitOn_intercalate 38 _ (by simpa using hne), List.map_map]
    · apply List.map_congr_left
      intro r hr
      exact pair_join (hkeys r hr).1 r.2
    · intro l hl
      obtain ⟨r, hr, rfl⟩ := List.mem_map.mp hl
      exact (hparts r hr).mpr (hno r hr)
  refine ⟨?_, ?_⟩
  · intro h
    have hno : ∀ r ∈ raw, (38 : UInt8) ∉ r.2 := by
      intro r hr
      have hl : ((join raw).splitOn 38).length = (raw.map fun r => r.1 ++ 61 :: r.2).length := by
        rw [List.length_map, ← hlen, ← h, decode, List.length_map]
      have := (length_splitOn_intercalate 38 (by simpa using hne)).mp hl
      exact (hparts r hr).mp (this _ (List.mem_map_of_mem hr))
    exact ⟨hno, h ▸ hdecode hno⟩
  · intro h
    rw [h.2]
    exact hdecode h.1

/-! Strings that decoding leaves as they are. -/

/-- There is no `%` followed by two hexadecimal digits. -/
def NoEscape (s : Bytes) : Prop :=
  ∀ pre a b post, s = pre ++ 37 :: a :: b :: post → escaped a b = none

theorem noEscape_cons {c a b : UInt8} {s : Bytes} :
    NoEscape (c :: a :: b :: s) ↔ (c = 37 → escaped a b = none) ∧ NoEscape (a :: b :: s) := by
  refine ⟨fun h => ⟨?_, fun pre x y post he => h (c :: pre) x y post (by rw [he]; rfl)⟩, ?_⟩
  · intro h
    subst h
    exact h [] a b s rfl
  · intro h pre x y post he
    cases pre with
    | nil =>
      obtain ⟨hc, h1⟩ := List.cons.inj he
      obtain ⟨ha, h2⟩ := List.cons.inj h1
      obtain ⟨hb, _⟩ := List.cons.inj h2
      exact ha ▸ hb ▸ h.1 hc
    | cons d pre => exact h.2 pre x y post (List.cons.inj he).2

theorem noEscape_of_no_percent {s : Bytes} (h : (37 : UInt8) ∉ s) : NoEscape s :=
  fun pre a b post he => absurd (by rw [he]; simp) h

theorem noEscape_short {s : Bytes} (h : s.length < 3) : NoEscape s := by
  intro pre a b post he
  have := congrArg List.length he
  simp only [List.length_append, List.length_cons] at this
  omega

theorem length_decodeWith_le (f : UInt8 → UInt8) (s : Bytes) :
    (decodeWith f s).length ≤ s.length := by
  induction s using decodeWith.induct with
  | case1 => simp [decodeWith]
  | case2 c => simp [decodeWith]
  | case3 c d => simp [decodeWith]
  | case4 a b s x hx ih =>
    simp only [decodeWith, hx, if_true, List.length_cons]
    omega
  | case5 a b s hx ih =>
    simp only [decodeWith, hx, if_true, List.length_cons] at ih ⊢
    omega
  | case6 c a b s hc ih =>
    simp only [decodeWith, if_neg hc, List.length_cons] at ih ⊢
    omega

theorem decodeWith_of_noEscape (f : UInt8 → UInt8) {s : Bytes} (h : NoEscape s) :
    decodeWith f s = s.map f := by
  induction s using decodeWith.induct with
  | case1 => rfl
  | case2 c => rfl
  | case3 c d => rfl
  | case4 a b s x hx ih =>
    have := (noEscape_cons.mp h).1 rfl
    rw [hx] at this
    cases this
  | case5 a b s hx ih =>
    simp [decodeWith, hx, ih (noEscape_cons.mp h).2]
  | case6 c a b s hc ih =>
    simp [decodeWith, hc, ih (noEscape_cons.mp h).2]

/-- An escape makes the decoded string shorter. -/
theorem noEscape_of_length (f : UInt8 → UInt8) {s : Bytes}
    (h : (decodeWith f s).length = s.length) : NoEscape s := by
  induction s using decodeWith.induct with
  | case1 => exact noEscape_short (by simp)
  | case2 c => exact noEscape_short (by simp)
  | case3 c d => exact noEscape_short (by simp)
  | case4 a b s x hx ih =>
    have := length_decodeWith_le f s
    simp only [decodeWith, hx, if_true, List.length_cons] at h
    omega
  | case5 a b s hx ih =>
    simp only [decodeWith, hx, if_true, List.length_cons] at h
    exact noEscape_cons.mpr ⟨fun _ => hx, ih (by simpa using h)⟩
  | case6 c a b s hc ih =>
    simp only [decodeWith, if_neg hc, List.length_cons] at h
    exact noEscape_cons.mpr ⟨fun e => absurd e hc, ih (by simpa using h)⟩

theorem decodeWith_eq_self_iff (f : UInt8 → UInt8) (s : Bytes) :
    decodeWith f s = s ↔ NoEscape s ∧ ∀ c ∈ s, f c = c := by
  have hmap : s.map f = s ↔ ∀ c ∈ s, f c = c := by
    simpa using List.map_inj_left (l := s) (f := f) (g := id)
  refine ⟨?_, ?_⟩
  · intro h
    have hno := noEscape_of_length f (congrArg List.length h)
    rw [decodeWith_of_noEscape f hno, hmap] at h
    exact ⟨hno, h⟩
  · intro h
    rw [decodeWith_of_noEscape f h.1, hmap]
    exact h.2

theorem value_eq_self_iff (s : Bytes) : value s = s ↔ NoEscape s ∧ (43 : UInt8) ∉ s := by
  rw [value, decodeWith_eq_self_iff]
  have hplus : (∀ c ∈ s, plusToSpace c = c) ↔ (43 : UInt8) ∉ s := by
    refine ⟨fun h hm => absurd (h 43 hm) (by decide), fun h c hc => ?_⟩
    have : c ≠ 43 := fun e => h (e ▸ hc)
    simp [plusToSpace, this]
  rw [hplus]

end FormUrl
