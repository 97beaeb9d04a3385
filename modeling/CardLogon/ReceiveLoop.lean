import CardLogon.HttpConnect

/- The receive loop of `socketHttp` on any results of `recv`.

   The loop condition is the value of `recv` itself, so that SOCKET_ERROR (-1) counts as
   true: the loop goes on, with the offset one lower. Nothing else bounds the offset.

   What is proved: `recv_safe_iff`. For results with a 0 or a -1 among them, the loop ends
   at the first of these with every write inside the buffer exactly when that first one
   is a 0 and the data before it leave room for the terminating zero. -/
namespace CardLogon
open CText

/-- 0 or SOCKET_ERROR. -/
def Recv.stops : Recv → Bool
  | .data _ => false
  | .closed => true
  | .error => true

/-- The results up to the first 0 or -1. -/
def uptoStop : List Recv → List Recv
  | [] => []
  | .data d :: rs => .data d :: uptoStop rs
  | r :: _ => [r]

/-- The data before it. -/
def dataBefore : List Recv → List Segment
  | .data d :: rs => d :: dataBefore rs
  | _ => []

/-- The loop ends having asked for no result after the first 0 or -1; its writes are inside
    the buffer, and so is the terminating zero. -/
def RecvSafe (garbage : Int → UInt8) (rs : List Recv) : Prop :=
  ∃ buf offset, recvLoop (uptoStop rs) garbage 0 = .ended buf offset ∧
    recvLoop rs garbage 0 = .ended buf offset ∧ 0 ≤ offset ∧ offset < recvBufSize

/-- The results up to the first 0 or -1 are data and then that one. -/
theorem uptoStop_eq : ∀ {rs : List Recv}, (∃ r ∈ rs, r.stops = true) →
    ∃ t rest, t.stops = true ∧ rs.find? Recv.stops = some t ∧
      uptoStop rs = (dataBefore rs).map .data ++ [t] ∧
      rs = (dataBefore rs).map .data ++ t :: rest
  | [], h => by simp at h
  | .data d :: rs, h => by
    obtain ⟨r, hr, hs⟩ := h
    have hrs : ∃ r ∈ rs, r.stops = true := by
      refine ⟨r, ?_, hs⟩
      obtain rfl | hr := List.mem_cons.mp hr
      · cases hs
      · exact hr
    obtain ⟨t, rest, ht, hfind, hupto, heq⟩ := uptoStop_eq hrs
    refine ⟨t, rest, ht, ?_, ?_, ?_⟩
    · rw [List.find?_cons_of_neg (by simp [Recv.stops]), hfind]
    · rw [uptoStop, dataBefore, hupto]
      rfl
    · rw [dataBefore, List.map_cons, List.cons_append, ← heq]
  | .closed :: rs, _ => ⟨.closed, rs, rfl, rfl, rfl, rfl⟩
  | .error :: rs, _ => ⟨.error, rs, rfl, rfl, rfl, rfl⟩

/-- A 0 ends the loop where it stands. -/
theorem recvLoop_closed (segs : List Segment) (rest : List Recv) (garbage : Int → UInt8) :
    recvLoop (segs.map .data ++ .closed :: rest) garbage 0 =
      if (received segs).length ≤ recvBufSize
      then .ended (store garbage 0 (received segs)) ((received segs).length : Nat)
      else .outOfBuffer := by
  have h := recvLoop_data (.closed :: rest) segs garbage 0 (Nat.zero_le _)
  rw [Nat.zero_add] at h
  exact h

/-- A -1 does not: the loop asks for the next result. -/
theorem recvLoop_error (segs : List Segment) (garbage : Int → UInt8) (buf : Int → UInt8)
    (offset : Int) : recvLoop (segs.map .data ++ [.error]) garbage 0 ≠ .ended buf offset := by
  have h := recvLoop_data [.error] segs garbage 0 (Nat.zero_le _)
  intro hend
  rw [show ((0 : Int)) = ((0 : Nat) : Int) from rfl, h] at hend
  split at hend
  · cases hend
  · cases hend

/-- The loop is safe exactly when a 0 comes before any -1, and the data before it fit with
    the terminating zero. -/
theorem recv_safe_iff (garbage : Int → UInt8) {rs : List Recv} (h : ∃ r ∈ rs, r.stops = true) :
    RecvSafe garbage rs ↔
      rs.find? Recv.stops = some .closed ∧ (received (dataBefore rs)).length < recvBufSize := by
  obtain ⟨t, rest, ht, hfind, hupto, heq⟩ := uptoStop_eq h
  unfold RecvSafe
  rw [hfind, hupto, Option.some.injEq]
  cases t with
  | data d => cases ht
  | closed =>
    have hall : recvLoop rs garbage 0 =
        recvLoop ((dataBefore rs).map .data ++ [.closed]) garbage 0 := by
      calc recvLoop rs garbage 0
          = recvLoop ((dataBefore rs).map .data ++ .closed :: rest) garbage 0 :=
            congrArg (recvLoop · garbage 0) heq
        _ = recvLoop ((dataBefore rs).map .data ++ [.closed]) garbage 0 := by
            rw [recvLoop_closed, recvLoop_closed]
    rw [hall, recvLoop_closed]
    simp only [true_and]
    constructor
    · intro hsafe
      obtain ⟨buf, offset, hend, -, -, hlt⟩ := hsafe
      split at hend
      · obtain ⟨-, rfl⟩ := RecvEnd.ended.inj hend
        omega
      · cases hend
    · intro hlt
      rw [if_pos (by omega)]
      exact ⟨_, _, rfl, rfl, by omega, by omega⟩
  | error =>
    constructor
    · intro hsafe
      obtain ⟨buf, offset, hend, -⟩ := hsafe
      exact absurd hend (recvLoop_error _ _ _ _)
    · intro hcond
      cases hcond.1

/-- One answer, and the end of the connection. -/
theorem one_answer_safe : RecvSafe (fun _ => 0) [.data ⟨lit "ok", by decide⟩, .closed] :=
  (recv_safe_iff _ ⟨.closed, by simp, rfl⟩).mpr ⟨rfl, by decide⟩

/-- The connection breaks at once: the loop goes on after the error, and the zero would be
    written before the buffer. -/
theorem error_not_safe :
    ¬ ∀ (garbage : Int → UInt8) (rs : List Recv), (∃ r ∈ rs, r.stops = true) → RecvSafe garbage rs := by
  intro hall
  obtain ⟨buf, offset, -, hend, hpos, -⟩ :=
    hall (fun _ => 0) [.error, .closed] ⟨.error, by simp, rfl⟩
  obtain ⟨-, rfl⟩ := RecvEnd.ended.inj hend
  revert hpos
  decide

end CardLogon
