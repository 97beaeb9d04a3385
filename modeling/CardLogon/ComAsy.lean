import CardLogon.CText
import CardLogon.Framing

/- `ComAsy::OnRecv` as a framer of the serial stream.

   The reader thread appends what each `ReadFile` brings to `TempReadinfo` and
   hands a card over (`Readinfo = TempReadinfo`) when exactly 32 characters have
   gathered; otherwise it keeps them. Here the loop runs over the pieces that the
   successive reads return; the port, the purge and the other threads are in
   `Terminal.lean`, whose reader uses the same `recvChunk`.

   A full piece of 4096 non-zero bytes leaves no NUL in `ReadBuf`, so that the
   `(LPCSTR)ReadBuf` view runs on into the memory after it (`beyond`, arbitrary).

   What is proved: `onRecv_blocks_iff`. The cards handed over are the 32-byte
   blocks of the stream, with fewer than 32 bytes kept after each piece, exactly
   when no piece crosses a block border. A piece that does (two cards in one
   read, say) makes the count pass 32 and nothing is ever handed over again. -/
namespace CardLogon
open CText Framing

/-- The length at which `OnRecv` hands a card over. -/
def cardLen : Nat := 32

/-- `sizeof(ReadBuf)`. -/
def readBufSize : Nat := 4096

/-- `ReadBuf` after a `ReadFile` into the zeroed buffer, and the memory after it. -/
def readBuf (data beyond : Bytes) : Bytes :=
  data ++ List.replicate (readBufSize - data.length) 0 ++ beyond

/-- `TempReadinfo += (LPCSTR)ReadBuf`, then the test of the gathered length: the
    new `TempReadinfo` and the card handed over, if any. -/
def recvChunk (tempReadinfo data beyond : Bytes) : Bytes × Option Bytes :=
  let t := tempReadinfo ++ cstr (readBuf data beyond)
  if (cstr t).length = cardLen then ([], some t) else (t, none)

/-- What one `ReadFile` returns from a stream of non-zero bytes. -/
structure Chunk where
  data : Bytes
  beyond : Bytes
  pos : 0 < data.length
  le : data.length ≤ readBufSize
  nonzero : (0 : UInt8) ∉ data

/-- The receive loop over the pieces read: after each, the value assigned to
    `Readinfo` (if any) and `TempReadinfo`. -/
def onRecv : Bytes → List Chunk → List (Option Bytes × Bytes)
  | _, [] => []
  | temp, c :: cs =>
    let r := recvChunk temp c.data c.beyond
    (r.2, r.1) :: onRecv r.1 cs

/-- The values assigned to `Readinfo`, in order. -/
def delivered (tr : List (Option Bytes × Bytes)) : List Bytes := tr.filterMap (·.1)

/-- The bytes received. -/
def stream (cs : List Chunk) : Bytes := (cs.map Chunk.data).flatten

/-- The reader delivers the 32-byte blocks of the stream and keeps fewer than 32
    bytes after each piece. -/
def DeliversBlocks (cs : List Chunk) : Prop :=
  delivered (onRecv [] cs) = blocks cardLen (stream cs) ∧
    ∀ e ∈ onRecv [] cs, e.2.length < cardLen

/-! The view of one piece. -/

theorem cstr_readBuf {data : Bytes} (h : (0 : UInt8) ∉ data) (beyond : Bytes) :
    ∃ extra, cstr (readBuf data beyond) = data ++ extra ∧
      (data.length < readBufSize → extra = []) := by
  unfold readBuf
  rw [List.append_assoc, cstr_append_of_no_nul h]
  refine ⟨_, rfl, fun hlt => ?_⟩
  obtain ⟨k, hk⟩ : ∃ k, readBufSize - data.length = k + 1 := ⟨readBufSize - data.length - 1, by omega⟩
  simp [hk, List.replicate_succ, cstr]

theorem recvChunk_eq {temp data : Bytes} (ht : (0 : UInt8) ∉ temp) (beyond : Bytes) :
    recvChunk temp data beyond =
      if (temp ++ cstr (readBuf data beyond)).length = cardLen
      then ([], some (temp ++ cstr (readBuf data beyond)))
      else (temp ++ cstr (readBuf data beyond), none) := by
  have hno : (0 : UInt8) ∉ temp ++ cstr (readBuf data beyond) := by
    simp [ht, cstr_no_nul]
  simp only [recvChunk, cstr_of_no_nul hno]

/-- `TempReadinfo` never holds a NUL. -/
theorem recvChunk_no_nul {temp : Bytes} (ht : (0 : UInt8) ∉ temp) (data beyond : Bytes) :
    (0 : UInt8) ∉ (recvChunk temp data beyond).1 := by
  rw [recvChunk_eq ht]
  split
  · simp
  · simp [ht, cstr_no_nul]

/-- A piece that stays in its block: the framer's step. -/
theorem recvChunk_fits {temp : Bytes} (ht : (0 : UInt8) ∉ temp) (c : Chunk)
    (h : temp.length + c.data.length ≤ cardLen) :
    recvChunk temp c.data c.beyond =
      (rest cardLen (temp ++ c.data), (blocks cardLen (temp ++ c.data)).head?) := by
  obtain ⟨extra, he, hx⟩ := cstr_readBuf c.nonzero c.beyond
  have hlt : c.data.length < readBufSize := by simp only [cardLen, readBufSize] at h ⊢; omega
  rw [recvChunk_eq ht, he, hx hlt, List.append_nil]
  by_cases hl : (temp ++ c.data).length = cardLen
  · rw [if_pos hl, blocks_of_length (by decide) hl, rest_of_length (by decide) hl]
    rfl
  · have hs : (temp ++ c.data).length < cardLen := by rw [List.length_append] at hl ⊢; omega
    rw [if_neg hl, blocks_of_short hs, rest_of_short hs]
    rfl

/-- A piece that crosses the border leaves 32 bytes or more behind. -/
theorem recvChunk_crosses {temp : Bytes} (ht : (0 : UInt8) ∉ temp) (c : Chunk)
    (h : cardLen < temp.length + c.data.length) :
    cardLen ≤ (recvChunk temp c.data c.beyond).1.length := by
  obtain ⟨extra, he, _⟩ := cstr_readBuf c.nonzero c.beyond
  have hl : (temp ++ (c.data ++ extra)).length = temp.length + c.data.length + extra.length := by
    simp only [List.length_append]; omega
  rw [recvChunk_eq ht, he, if_neg (by omega), hl]
  omega

/-! The loop. -/

/-- What the loop keeps and delivers on pieces that stay in their blocks, from a
    `TempReadinfo` of fewer than 32 bytes. -/
theorem onRecv_fits : ∀ (cs : List Chunk) (temp : Bytes), (0 : UInt8) ∉ temp →
    temp.length < cardLen → Fits cardLen temp.length (cs.map Chunk.data) →
    delivered (onRecv temp cs) = blocks cardLen (temp ++ stream cs) ∧
      ∀ e ∈ onRecv temp cs, e.2.length < cardLen
  | [], temp, _, hlt, _ => by simp [onRecv, delivered, stream, blocks_of_short hlt]
  | c :: cs, temp, ht, hlt, ⟨hc, hfit⟩ => by
    have hstep := recvChunk_fits ht c hc
    have hno := recvChunk_no_nul ht c.data c.beyond
    have hlen : (rest cardLen (temp ++ c.data)).length = (temp.length + c.data.length) % cardLen := by
      rw [rest_length, List.length_append]
    have hkeep : (rest cardLen (temp ++ c.data)).length < cardLen := by
      rw [hlen]; exact Nat.mod_lt _ (by decide)
    rw [hstep] at hno
    obtain ⟨hd, hk⟩ := onRecv_fits cs (rest cardLen (temp ++ c.data)) hno hkeep (by rw [hlen]; exact hfit)
    have hblocks : blocks cardLen (temp ++ c.data) =
        ((blocks cardLen (temp ++ c.data)).head?).toList := by
      rcases Nat.lt_or_eq_of_le (show (temp ++ c.data).length ≤ cardLen by
        rw [List.length_append]; exact hc) with h | h
      · rw [blocks_of_short h]; rfl
      · rw [blocks_of_length (by decide) h]; rfl
    refine ⟨?_, ?_⟩
    · have hcons : delivered (onRecv temp (c :: cs)) =
          ((blocks cardLen (temp ++ c.data)).head?).toList ++
            delivered (onRecv (rest cardLen (temp ++ c.data)) cs) := by
        simp only [onRecv, hstep, delivered, List.filterMap_cons]
        cases (blocks cardLen (temp ++ c.data)).head? <;> rfl
      calc delivered (onRecv temp (c :: cs))
          = blocks cardLen (temp ++ c.data) ++
              blocks cardLen (rest cardLen (temp ++ c.data) ++ stream cs) := by
            rw [hcons, hd, ← hblocks]
        _ = blocks cardLen (temp ++ c.data ++ stream cs) :=
            (blocks_append (by decide) _ _).symm
        _ = blocks cardLen (temp ++ stream (c :: cs)) := by
            rw [stream, stream, List.map_cons, List.flatten_cons, List.append_assoc]
    · intro e he
      simp only [onRecv, hstep, List.mem_cons] at he
      rcases he with rfl | he
      · exact hkeep
      · exact hk e he

/-- Conversely, a loop that keeps fewer than 32 bytes after each piece was never
    given a piece that crosses a border. -/
theorem fits_of_kept : ∀ (cs : List Chunk) (temp : Bytes), (0 : UInt8) ∉ temp →
    (∀ e ∈ onRecv temp cs, e.2.length < cardLen) → Fits cardLen temp.length (cs.map Chunk.data)
  | [], _, _, _ => trivial
  | c :: cs, temp, ht, h => by
    have h0 : (recvChunk temp c.data c.beyond).1.length < cardLen :=
      h ((recvChunk temp c.data c.beyond).2, (recvChunk temp c.data c.beyond).1) (by simp [onRecv])
    have hc : temp.length + c.data.length ≤ cardLen := by
      by_contra hcross
      have := recvChunk_crosses ht c (by omega)
      omega
    have hstep := recvChunk_fits ht c hc
    have hno := recvChunk_no_nul ht c.data c.beyond
    have hrec := fits_of_kept cs _ hno (fun e he => h e (by simp [onRecv, he]))
    rw [hstep, rest_length, List.length_append] at hrec
    exact ⟨hc, hrec⟩

/-- The reader delivers the 32-byte blocks of the stream exactly when every
    piece ends inside the block it starts in. -/
theorem onRecv_blocks_iff (cs : List Chunk) :
    DeliversBlocks cs ↔
      ∀ pre c post, cs = pre ++ c :: post →
        (stream pre).length % cardLen + c.data.length ≤ cardLen := by
  have hfits : Fits cardLen 0 (cs.map Chunk.data) ↔
      ∀ pre c post, cs = pre ++ c :: post →
        (stream pre).length % cardLen + c.data.length ≤ cardLen := by
    rw [fits_iff (by decide)]
    constructor
    · intro h pre c post he
      simpa [stream] using h (pre.map Chunk.data) c.data (post.map Chunk.data) (by simp [he])
    · intro h pre d post he
      obtain ⟨pre', post', rfl, hp, hpost⟩ := List.map_eq_append_iff.mp he
      obtain ⟨c, post'', rfl, rfl, _⟩ := List.map_eq_cons_iff.mp hpost
      simpa [stream, hp] using h pre' c post'' rfl
  rw [← hfits]
  constructor
  · exact fun h => fits_of_kept cs [] (by simp) h.2
  · intro h
    simpa [DeliversBlocks] using onRecv_fits cs [] (by simp) (by decide) h

/-- Two cards in one read: 64 bytes gather and neither card is delivered. -/
def twoCards : Chunk :=
  { data := List.replicate 64 49, beyond := [], pos := by decide, le := by decide,
    nonzero := by decide }

theorem two_cards_in_one_read : ¬ DeliversBlocks [twoCards] := by
  intro h
  have := h.2 _ (List.mem_singleton_self _)
  revert this
  decide +kernel

end CardLogon
