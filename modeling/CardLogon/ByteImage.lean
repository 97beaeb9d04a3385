import Mathlib.Data.List.Basic
import Mathlib.Tactic.Ring

/- A block of bytes with bounded reads and writes.

   `peek m off n` reads `n` bytes, `poke m off bs` writes `bs`; both give none when
   they leave the block. `leBytes` and `leVal` are the little-endian form of a
   number and back. `Frame rs m m'` says that `m'` is a block of the same size that
   differs from `m` only inside the regions `rs` (offset and length): a read outside
   them is unchanged. Every `poke` has a frame of one region, and frames compose, so
   that a packer is proved by adding up the regions it writes. -/
namespace ByteImage

/-- The `w` little-endian bytes of a number. -/
def leBytes : Nat → Nat → List UInt8
  | 0, _ => []
  | w + 1, n => UInt8.ofNat (n % 256) :: leBytes w (n / 256)

/-- The number of little-endian bytes. -/
def leVal : List UInt8 → Nat
  | [] => 0
  | b :: bs => b.toNat + 256 * leVal bs

@[simp] theorem length_leBytes : ∀ w n : Nat, (leBytes w n).length = w
  | 0, _ => rfl
  | w + 1, n => by rw [leBytes, List.length_cons, length_leBytes w]

theorem leVal_leBytes : ∀ (w : Nat) {n : Nat}, n < 256 ^ w → leVal (leBytes w n) = n
  | 0, n, h => by
    rw [Nat.pow_zero] at h
    show 0 = n
    omega
  | w + 1, n, h => by
    have hdiv : n / 256 < 256 ^ w := by
      apply Nat.div_lt_of_lt_mul
      rwa [Nat.pow_succ, Nat.mul_comm] at h
    have hmod : (UInt8.ofNat (n % 256)).toNat = n % 256 := by
      rw [UInt8.toNat_ofNat']
      exact Nat.mod_eq_of_lt (Nat.mod_lt n (by decide))
    rw [leBytes, leVal, hmod, leVal_leBytes w hdiv]
    exact Nat.mod_add_div n 256

/-- Read `n` bytes. -/
def peek (m : List UInt8) (off n : Nat) : Option (List UInt8) :=
  if off + n ≤ m.length then some ((m.drop off).take n) else none

/-- Write bytes. -/
def poke (m : List UInt8) (off : Nat) (bs : List UInt8) : Option (List UInt8) :=
  if off + bs.length ≤ m.length then some (m.take off ++ (bs ++ m.drop (off + bs.length))) else none

theorem length_poke {m m' bs : List UInt8} {off : Nat} (h : poke m off bs = some m') :
    m'.length = m.length := by
  unfold poke at h
  split at h
  · obtain rfl := Option.some.inj h
    simp only [List.length_append, List.length_take, List.length_drop]
    omega
  · cases h

theorem peek_poke_same {m m' bs : List UInt8} {off : Nat} (h : poke m off bs = some m') :
    peek m' off bs.length = some bs := by
  have hlen := length_poke h
  unfold poke at h
  split at h
  · next hb =>
    rw [peek, if_pos (by omega)]
    obtain rfl := Option.some.inj h
    have htake : (m.take off).length = off := by rw [List.length_take]; omega
    rw [List.drop_append_of_le_length (by omega), List.drop_of_length_le (by omega),
      List.nil_append, List.take_left]
  · cases h

theorem peek_poke_disjoint {m m' bs : List UInt8} {off o n : Nat} (h : poke m off bs = some m')
    (hd : o + n ≤ off ∨ off + bs.length ≤ o) : peek m' o n = peek m o n := by
  have hlen := length_poke h
  simp only [peek, hlen]
  split
  · next hb =>
    unfold poke at h
    split at h
    · next hw =>
      obtain rfl := Option.some.inj h
      congr 1
      have htake : (m.take off).length = off := by rw [List.length_take]; omega
      rcases hd with hd | hd
      · rw [List.drop_append_of_le_length (by omega), List.take_append_of_le_length (by
          rw [List.length_drop, htake]; omega), List.drop_take, List.take_take]
        congr 1
        omega
      · rw [List.drop_append, htake, List.drop_of_length_le (by omega), List.nil_append,
          List.drop_append, List.drop_of_length_le (by omega), List.nil_append, List.drop_drop]
        congr 2
        omega
    · cases h
  · rfl

/-! Frames. -/

/-- `m'` has the size of `m` and differs from it only inside the regions. -/
structure Frame (rs : List (Nat × Nat)) (m m' : List UInt8) : Prop where
  length_eq : m'.length = m.length
  peek_eq : ∀ o n, (∀ r ∈ rs, o + n ≤ r.1 ∨ r.1 + r.2 ≤ o) → peek m' o n = peek m o n

theorem Frame.trans {rs ss : List (Nat × Nat)} {m m₁ m₂ : List UInt8} (h₁ : Frame rs m m₁)
    (h₂ : Frame ss m₁ m₂) : Frame (rs ++ ss) m m₂ where
  length_eq := h₂.length_eq.trans h₁.length_eq
  peek_eq o n h := by
    rw [List.forall_mem_append] at h
    rw [h₂.peek_eq o n h.2, h₁.peek_eq o n h.1]

/-- A frame by larger regions. -/
theorem Frame.mono {rs ss : List (Nat × Nat)} {m m' : List UInt8} (h : Frame rs m m')
    (hsub : ∀ r ∈ rs, ∃ s ∈ ss, s.1 ≤ r.1 ∧ r.1 + r.2 ≤ s.1 + s.2) : Frame ss m m' where
  length_eq := h.length_eq
  peek_eq o n hs := by
    refine h.peek_eq o n fun r hr => ?_
    obtain ⟨s, hm, hl, hu⟩ := hsub r hr
    have := hs s hm
    omega

/-- What a write inside the block does. -/
theorem poke_spec {m bs : List UInt8} {off : Nat} (h : off + bs.length ≤ m.length) :
    ∃ m', poke m off bs = some m' ∧ Frame [(off, bs.length)] m m' ∧
      peek m' off bs.length = some bs := by
  refine ⟨_, if_pos h, ?_, peek_poke_same (if_pos h)⟩
  exact
    { length_eq := length_poke (if_pos h)
      peek_eq := fun o n hd => peek_poke_disjoint (if_pos h) (hd _ (List.mem_singleton_self _)) }

/-- A number read back from where it was written. -/
def peekVal (m : List UInt8) (off w : Nat) : Option Nat := (peek m off w).map leVal

theorem Frame.peekVal_eq {rs : List (Nat × Nat)} {m m' : List UInt8} (h : Frame rs m m')
    {off w : Nat} (hd : ∀ r ∈ rs, off + w ≤ r.1 ∨ r.1 + r.2 ≤ off) :
    peekVal m' off w = peekVal m off w := by
  rw [peekVal, peekVal, h.peek_eq off w hd]

/-- What writing a number that fits its width does. -/
theorem poke_val_spec {m : List UInt8} {off w n : Nat} (h : off + w ≤ m.length) (hn : n < 256 ^ w) :
    ∃ m', poke m off (leBytes w n) = some m' ∧ Frame [(off, w)] m m' ∧
      peekVal m' off w = some n := by
  obtain ⟨m', hm, hf, hp⟩ := @poke_spec m (leBytes w n) off (by rw [length_leBytes]; exact h)
  rw [length_leBytes] at hf hp
  exact ⟨m', hm, hf, by rw [peekVal, hp, Option.map_some, leVal_leBytes w hn]⟩

end ByteImage
