import CardLogon.PrintUser
import CardLogon.TextFile

/- The output of ping: `AnalysisFile`, on which `GetConnectedStatus` decides whether the
   network is there.

   The file is read in text mode with three `fgets` into one buffer, and the number behind
   the first '=' in the buffer is taken for the number of bytes of the reply; neither the
   reads nor the search are checked.

   What is proved: `ping_read_iff`. For a file whose lines fit the buffer the answer is that
   of the third line exactly when the line has a '=' before any NUL, or gives no number
   without one; and, where there is no third line, when the line read last, or what the
   buffer held before, gives none. -/
namespace CardLogon
open CText

/-- The number that `data` is taken to give; `npos + 1` is 0. -/
def pingNumber (data : Bytes) : Int :=
  let pos := match find (lit "=") data with
    | some iPos => iPos + 1
    | none => 0
  atoi ((data.drop pos).take 3)

/-- `AnalysisFile` of a file with this content, and of this buffer. A buffer without a NUL is
    read past its end. -/
def analysisFile (file ln : Bytes) : Ran Bool :=
  let ln := (fgetsFor 80 3 ln (textMode file)).1
  if 0 ∈ ln then .returned (decide (0 < pingNumber (cstr ln))) else .undefined

/-- The third line of the file. -/
def thirdLine (file : Bytes) : Option Bytes := (lines (textMode file))[2]?

/-- A number of bytes behind the first '='. -/
def RepliedLine (l : Bytes) : Prop := 61 ∈ l ∧ 0 < atoi ((behind 61 l).take 3)

instance (l : Bytes) : Decidable (RepliedLine l) := inferInstanceAs (Decidable (_ ∧ _))

/-- The ping was answered: the third line has such a number. -/
def Replied (file : Bytes) : Prop := ∃ l ∈ thirdLine file, RepliedLine l

instance (file : Bytes) : Decidable (Replied file) := inferInstanceAs (Decidable (∃ l ∈ _, _))

/-- A text that is taken for an answer: a number of bytes behind the first '=', or at the
    front of a text without one. -/
def TakenForReply (t : Bytes) : Prop :=
  0 < atoi ((if 61 ∈ t then behind 61 t else t).take 3)

instance (t : Bytes) : Decidable (TakenForReply t) := inferInstanceAs (Decidable (0 < atoi _))

/-- The buffer after the reads is as good as the third line. -/
def ReadsRight (file ln : Bytes) : Prop :=
  match thirdLine file, (lines (textMode file)).getLast? with
  | some l, _ => 61 ∈ cstr l ∨ (0 < atoi (l.take 3) ↔ RepliedLine l)
  | none, some l => ¬ TakenForReply (cstr l)
  | none, none => 0 ∈ ln ∧ ¬ TakenForReply (cstr ln)

/-! The number. -/

theorem pingNumber_pos_iff (data : Bytes) : 0 < pingNumber data ↔ TakenForReply data := by
  unfold pingNumber TakenForReply
  have hlit : lit "=" = [61] := rfl
  rw [hlit]
  cases hpos : find [61] data with
  | none =>
    rw [if_neg (notMem_of_find hpos)]
    exact Iff.rfl
  | some i => rw [if_pos (mem_of_find hpos), ← (take_drop_find hpos).2]

/-- The end of the line makes no difference. -/
theorem takenForReply_append (t : Bytes) {e : Bytes} (he : NoNumber e) (h61 : 61 ∉ e) :
    TakenForReply (t ++ e) ↔ TakenForReply t := by
  unfold TakenForReply
  by_cases ht : 61 ∈ t
  · rw [if_pos ht, if_pos (List.mem_append_left e ht), behind_append ht, he.atoi_take]
  · rw [if_neg ht, if_neg (by simp [ht, h61]), he.atoi_take]

/-- What the buffer holds is read up to its NUL, or to one in the line. -/
theorem takenForReply_of_holds {buf l : Bytes} (h : BufferHolds buf l) :
    0 ∈ buf ∧ (TakenForReply (cstr buf) ↔ TakenForReply (cstr l)) := by
  obtain ⟨e, rest, he, rfl⟩ := h
  have h61 : 61 ∉ e := by
    obtain rfl | rfl := he <;> decide
  have h0 : 0 ∉ e := by
    obtain rfl | rfl := he <;> decide
  refine ⟨by simp, ?_⟩
  by_cases hl : 0 ∈ l
  · rw [List.append_assoc, cstr_append_of_nul hl]
  · have hle : 0 ∉ l ++ e := by simp [hl, h0]
    rw [cstr_append_of_no_nul hle, cstr_of_no_nul hl]
    show TakenForReply (l ++ e ++ []) ↔ _
    rw [List.append_nil]
    exact takenForReply_append l he.noNumber h61

/-- The third line is taken for an answer when it is one; without a '=' before a NUL its
    front is looked at. -/
theorem takenForReply_line (l : Bytes) :
    TakenForReply (cstr l) ↔ if 61 ∈ cstr l then RepliedLine l else 0 < atoi (l.take 3) := by
  obtain ⟨b, hl, hb⟩ := cstr_noNumber l
  unfold TakenForReply RepliedLine
  split
  · next h =>
    have hmem : 61 ∈ l := by
      rw [hl]
      exact List.mem_append_left b h
    have hbehind : behind 61 l = behind 61 (cstr l) ++ b := by
      rw [← behind_append h, ← hl]
    rw [hbehind, hb.atoi_take]
    exact ⟨fun hn => ⟨hmem, hn⟩, fun hn => hn.2⟩
  · next h =>
    have htake : atoi (l.take 3) = atoi ((cstr l).take 3) := by
      calc atoi (l.take 3) = atoi ((cstr l ++ b).take 3) := by rw [← hl]
        _ = atoi ((cstr l).take 3) := hb.atoi_take _ _
    rw [htake]

/-! The answer. -/

variable {file : Bytes}

/-- A line was read. -/
theorem analysisFile_of_line (ln : Bytes) (hfits : ∀ l ∈ lines (textMode file), l.length < 79)
    {l : Bytes} (h : ((lines (textMode file)).take 3).getLast? = some l) :
    analysisFile file ln = .returned (decide (TakenForReply (cstr l))) := by
  obtain ⟨h0, hiff⟩ := takenForReply_of_holds ((fgetsFor_buffer 3 ln hfits).2 l h)
  unfold analysisFile
  rw [if_pos h0]
  exact congrArg Ran.returned (decide_eq_decide.mpr ((pingNumber_pos_iff _).trans hiff))

/-- No line was there. -/
theorem analysisFile_of_empty (ln : Bytes) (hfits : ∀ l ∈ lines (textMode file), l.length < 79)
    (h : ((lines (textMode file)).take 3).getLast? = none) :
    analysisFile file ln =
      if 0 ∈ ln then .returned (decide (TakenForReply (cstr ln))) else .undefined := by
  have hbuf := (fgetsFor_buffer 3 ln hfits).1 h
  unfold analysisFile
  rw [hbuf]
  by_cases h0 : 0 ∈ ln
  · rw [if_pos h0, if_pos h0]
    exact congrArg Ran.returned (decide_eq_decide.mpr (pingNumber_pos_iff _))
  · rw [if_neg h0, if_neg h0]

theorem ping_read_iff (ln : Bytes) (hfits : ∀ l ∈ lines (textMode file), l.length < 79) :
    analysisFile file ln = .returned (decide (Replied file)) ↔ ReadsRight file ln := by
  have hlast : ((lines (textMode file)).take 3).getLast? =
      (thirdLine file).or (lines (textMode file)).getLast? := List.getLast?_take
  unfold ReadsRight
  cases hthird : thirdLine file with
  | some l =>
    have hreplied : Replied file ↔ RepliedLine l := by simp [Replied, hthird]
    rw [hthird, Option.some_or] at hlast
    rw [analysisFile_of_line ln hfits hlast, Ran.returned.injEq, decide_eq_decide, hreplied,
      takenForReply_line]
    by_cases h : 61 ∈ cstr l
    · simp [h]
    · simp [h]
  | none =>
    have hreplied : ¬ Replied file := by simp [Replied, hthird]
    rw [hthird, Option.none_or] at hlast
    cases hend : (lines (textMode file)).getLast? with
    | some l =>
      rw [hend] at hlast
      rw [analysisFile_of_line ln hfits hlast, Ran.returned.injEq, decide_eq_decide]
      simp [hreplied]
    | none =>
      rw [hend] at hlast
      rw [analysisFile_of_empty ln hfits hlast]
      by_cases h0 : 0 ∈ ln
      · rw [if_pos h0, Ran.returned.injEq, decide_eq_decide]
        simp [hreplied, h0]
      · simp [h0]

/-- Output that is not there yet, and a buffer that holds an earlier answer. -/
def oldBuffer : Bytes :=
  lit "Reply from 192.168.0.7: bytes=32 time<1ms TTL=128" ++ List.replicate 31 0

theorem old_answer_taken : oldBuffer.length = 80 ∧ analysisFile [] oldBuffer = .returned true ∧
    ¬ Replied [] ∧ analysisFile [] oldBuffer ≠ .returned (decide (Replied [])) := by
  decide +kernel

/-- A ping that was answered. -/
def replyLine : Bytes := lit "Reply from 192.168.0.7: bytes=32 time=1ms TTL=64"

def answeredPing : Bytes :=
  lit "\r\nPinging 192.168.0.7 with 32 bytes of data:\r\n" ++ replyLine ++ lit "\r\n"

theorem answeredPing_facts : (∀ l ∈ lines (textMode answeredPing), l.length < 79) ∧
    thirdLine answeredPing = some replyLine ∧ 61 ∈ cstr replyLine ∧
    decide (Replied answeredPing) = true := by
  decide +kernel

theorem answered_ping_taken : analysisFile answeredPing (List.replicate 80 204) = .returned true := by
  obtain ⟨hfits, hthird, h61, hreplied⟩ := answeredPing_facts
  rw [← hreplied]
  apply (ping_read_iff (List.replicate 80 204) hfits).mpr
  unfold ReadsRight
  rw [hthird]
  exact .inl h61

end CardLogon
