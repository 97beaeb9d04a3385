import CardLogon.FormUrl
import CardLogon.WhileLoop
import Mathlib.Tactic.Push

/- The body of the login request.

   The body is printed from the template of the database (`BALLoginDt`) with the
   user name and the password twice, on two paths: `GetConnectedStatus` takes the
   stored password as it is, the login click takes the typed one after its loop
   has replaced every `+` by `%2b`. The buffer `chhttpPOST` has 1000 bytes.

   What is proved: the loop ends for every password, with each `+` replaced
   (`plus_loop`); the two bodies for one password are the same exactly when no
   `+` is shown by the template's password directives
   (`storedBody_eq_typedBody_iff`); and with the template
   username=%s&password=%s&pwd=%s&secret=true the typed body decodes to the four
   fields exactly when neither field has an `&` or an escape and the user name has
   no `+` (`decode_typedBody_iff`). A template that shows the user name, or the
   password too, makes a body that carries it (`PostBody.carries_of_prints`). -/
namespace CardLogon
open CText FormUrl WhileLoop

/-- `strFind` and `strT` of the login click. -/
def strFind : Bytes := lit "+"
def strT : Bytes := lit "%2b"

/-- The loop `while (pos != -1)` of the login click, for `n` rounds at most. -/
def replaceLoop : Nat → Bytes → Bytes
  | 0, s => s
  | n + 1, s =>
    match find strFind s with
    | none => s
    | some pos => replaceLoop n (s.take pos ++ strT ++ s.drop (pos + strFind.length))

/-- The typed password as it is sent. Every round replaces one `+`, so that the
    length bounds the rounds. -/
def escapePlus (s : Bytes) : Bytes := replaceLoop s.length s

/-- What `sprintf_s` prints a request body from. -/
structure PostBody where
  login : Bytes
  user : Bytes
  pw : Bytes
  deriving DecidableEq

/-- `chhttpPOST`, when the body fits. -/
def PostBody.text (b : PostBody) : Option Bytes := sprintf_s 1000 b.login [b.user, b.pw, b.pw]

/-- The body was printed for `user`, and its text has the user name. -/
def PostBody.carries (b : PostBody) (user : Bytes) : Bool :=
  b.user == user && b.text.any fun text => (find user text).isSome

/-- And it was printed with `pw`, which its text has as well. -/
def PostBody.carriesLogin (b : PostBody) (user pw : Bytes) : Bool :=
  b.carries user && (b.pw == pw && b.text.any fun text => (find pw text).isSome)

/-- The body the logon thread builds for a stored password. -/
def storedBody (login user pw : CStr) : Option Bytes :=
  PostBody.text { login := login.val, user := user.val, pw := pw.val }

/-- The body the login click builds: none for a password of 7 characters or less. -/
def typedBody (login user getUpw : CStr) : Option Bytes :=
  if getUpw.val.length > 7 then
    PostBody.text { login := login.val, user := user.val, pw := escapePlus getUpw.val }
  else none

/-! The replacement. -/

/-- What becomes of one byte. -/
def enc (c : UInt8) : Bytes := if c = 43 then strT else [c]

theorem enc_plus : enc 43 = [37, 50, 98] := rfl

theorem enc_other {c : UInt8} (h : c ≠ 43) : enc c = [c] := if_neg h

theorem flatMap_enc_self {s : Bytes} (h : (43 : UInt8) ∉ s) : s.flatMap enc = s := by
  induction s with
  | nil => rfl
  | cons c s ih =>
    have hc : c ≠ 43 := fun e => h (e ▸ List.mem_cons_self)
    rw [List.flatMap_cons, enc_other hc, ih fun hm => h (List.mem_cons_of_mem c hm)]
    rfl

theorem strFind_infix_iff (s : Bytes) : strFind <:+: s ↔ (43 : UInt8) ∈ s := by
  rw [show strFind = [43] from rfl]
  exact List.singleton_infix_iff 43 s

/-- A round of the loop: the first `+` is replaced. -/
def plusRound (strUserPW : Bytes) : Option Bytes :=
  (find strFind strUserPW).map fun pos =>
    strUserPW.take pos ++ strT ++ strUserPW.drop (pos + strFind.length)

theorem replaceLoop_runFor (n : Nat) (s : Bytes) : replaceLoop n s = runFor plusRound n s := by
  induction n generalizing s with
  | zero => rfl
  | succ n ih =>
    unfold replaceLoop runFor plusRound
    cases find strFind s with
    | none => rfl
    | some pos => exact ih _

/-- The loop ends when no `+` is left. -/
theorem plusRound_none {s : Bytes} (h : plusRound s = none) : (43 : UInt8) ∉ s := by
  rw [plusRound, Option.map_eq_none_iff, find_eq_none_iff, strFind_infix_iff] at h
  exact h

/-- A round takes one `+` away, and does not change what is to come out. -/
theorem plusRound_some {s s' : Bytes} (h : plusRound s = some s') :
    s.count 43 = s'.count 43 + 1 ∧ s'.flatMap enc = s.flatMap enc := by
  obtain ⟨pos, hpos, rfl⟩ := Option.map_eq_some_iff.mp h
  have hs := find_eq_some hpos
  generalize s.take pos = u at hs ⊢
  generalize s.drop (pos + strFind.length) = v at hs ⊢
  subst hs
  have hF : strFind.count 43 = 1 := by decide
  have hT : strT.count 43 = 0 := by decide
  have hTe : strT.flatMap enc = strT := flatMap_enc_self (by decide)
  have hFe : strFind.flatMap enc = strT := by decide
  constructor
  · simp only [List.count_append]
    omega
  · simp only [List.flatMap_append, hTe, hFe, List.append_assoc]

/-- The loop ends, after a round for every `+`, with the replaced string. -/
theorem plusRound_ends (s : Bytes) : Ends plusRound s (s.count 43) (s.flatMap enc) := by
  obtain ⟨r, hr⟩ := ends_of_count (μ := List.count 43) (fun _ _ h => (plusRound_some h).1)
    (fun _ h => List.count_eq_zero.mpr (plusRound_none h)) s
  have hend : r = s.flatMap enc := by
    calc r = r.flatMap enc := (flatMap_enc_self (plusRound_none hr.exit)).symm
      _ = s.flatMap enc := hr.keeps fun _ _ h => (plusRound_some h).2
  rwa [hend] at hr

/-- So it does with rounds enough for the `+` in the string. -/
theorem replaceLoop_eq (n : Nat) (s : Bytes) (hn : s.count 43 ≤ n) :
    replaceLoop n s = s.flatMap enc := by
  rw [replaceLoop_runFor]
  exact (plusRound_ends s).runFor hn

theorem escapePlus_eq (s : Bytes) : escapePlus s = s.flatMap enc :=
  replaceLoop_eq _ s List.count_le_length

/-- The loop ends because no `+` is left. -/
theorem plus_notMem_escapePlus (s : Bytes) : (43 : UInt8) ∉ escapePlus s := by
  rw [escapePlus_eq, List.mem_flatMap]
  intro h
  obtain ⟨c, _, hc⟩ := h
  by_cases h : c = 43
  · rw [h, enc_plus] at hc
    revert hc
    decide
  · rw [enc_other h, List.mem_singleton] at hc
    exact h hc.symm

theorem length_escapePlus (s : Bytes) : (escapePlus s).length = s.length + 2 * s.count 43 := by
  rw [escapePlus_eq]
  induction s with
  | nil => rfl
  | cons c s ih =>
    rw [List.flatMap_cons, List.length_append, ih, List.length_cons, List.count_cons]
    by_cases hc : c = 43
    · subst hc
      rw [enc_plus, beq_self_eq_true, if_pos rfl]
      simp only [List.length_cons, List.length_nil]
      omega
    · rw [enc_other hc, beq_eq_false_iff_ne.mpr hc, if_neg Bool.false_ne_true]
      simp only [List.length_cons, List.length_nil]
      omega

/-- The loop of the login click ends for every password, with `escapePlus` of it: every `+`
    is replaced and the other characters stay, so that no `+` is left and each has made the
    string longer by two. -/
theorem plus_loop (getUpw : Bytes) :
    (∃ n, Ends plusRound getUpw n (escapePlus getUpw)) ∧
      (∀ n r, Ends plusRound getUpw n r → n = getUpw.count 43 ∧ r = escapePlus getUpw) ∧
      escapePlus getUpw = getUpw.flatMap (fun c => if c = 43 then lit "%2b" else [c]) ∧
      (43 : UInt8) ∉ escapePlus getUpw ∧
      (escapePlus getUpw).length = getUpw.length + 2 * getUpw.count 43 := by
  have hends := plusRound_ends getUpw
  rw [← escapePlus_eq] at hends
  exact ⟨⟨_, hends⟩, fun n r h => h.unique hends, escapePlus_eq getUpw,
    plus_notMem_escapePlus getUpw, length_escapePlus getUpw⟩

theorem nul_notMem_escapePlus {s : Bytes} (h : (0 : UInt8) ∉ s) : (0 : UInt8) ∉ escapePlus s := by
  rw [escapePlus_eq, List.mem_flatMap]
  intro h
  obtain ⟨c, hm, hc⟩ := h
  by_cases h43 : c = 43
  · rw [h43, enc_plus] at hc
    revert hc
    decide
  · rw [enc_other h43, List.mem_singleton] at hc
    exact h (hc ▸ hm)

/-- A part without `+` is left as it is. -/
theorem shown_escapePlus {s : Bytes} : ∀ {prec : Option Nat}, (43 : UInt8) ∉ shown prec s →
    shown prec (escapePlus s) = shown prec s
  | none, h => by
    show escapePlus s = s
    rw [escapePlus_eq]
    exact flatMap_enc_self h
  | some p, h => by
    simp only [shown] at h ⊢
    have hsplit : s.flatMap enc = s.take p ++ (s.drop p).flatMap enc := by
      calc s.flatMap enc
          = (s.take p ++ s.drop p).flatMap enc := by rw [List.take_append_drop]
        _ = s.take p ++ (s.drop p).flatMap enc := by rw [List.flatMap_append, flatMap_enc_self h]
    rw [escapePlus_eq, hsplit]
    by_cases hp : p ≤ s.length
    · rw [List.take_append_of_le_length (by rw [List.length_take]; omega), List.take_take,
        Nat.min_self]
    · have hd : s.drop p = [] := List.drop_eq_nil_of_le (by omega)
      rw [hd, List.flatMap_nil, List.append_nil, List.take_take, Nat.min_self]

/-! The bodies of one password on the two paths. -/

/-- The precisions of the `%s` of a format, in order. -/
def directives : List Piece → List (Option Nat)
  | [] => []
  | .byte _ :: ps => directives ps
  | .str _ _ prec :: ps => prec :: directives ps

/-- The parts of the password that the template shows: its first `%s` is the user
    name, the others are the password. -/
def passwordShown (login pw : CStr) : List Bytes :=
  ((directives ((parse login.val).getD [])).drop 1).map fun prec => shown prec pw.val

/-- The text fits, and the template shows the whole user name in it. -/
def PostBody.printsUser (b : PostBody) : Bool :=
  b.text.isSome && (directives ((parse b.login).getD [])).head?.any fun prec =>
    shown prec (cstr b.user) == b.user

/-- And the whole password. -/
def PostBody.printsLogin (b : PostBody) : Bool :=
  b.printsUser && ((directives ((parse b.login).getD [])).drop 1).any fun prec =>
    shown prec (cstr b.pw) == b.pw

theorem shown_infix_field (left : Bool) (width : Nat) (prec : Option Nat) (a : Bytes) :
    shown prec (cstr a) <:+: field left width prec a := by
  unfold field
  dsimp only
  split
  · exact (List.prefix_append _ _).isInfix
  · exact (List.suffix_append _ _).isInfix

/-- A text has of each argument what its directive shows. -/
theorem render_shown {ps : List Piece} {as : List Bytes} {out : Bytes} (h : render ps as = some out)
    {i : Nat} {prec : Option Nat} (hi : (directives ps)[i]? = some prec) :
    ∃ a, as[i]? = some a ∧ shown prec (cstr a) <:+: out := by
  induction ps generalizing as out i with
  | nil => cases hi
  | cons p ps ih =>
    cases p with
    | byte c =>
      obtain ⟨rest, hrest, rfl⟩ := Option.map_eq_some_iff.mp h
      obtain ⟨a, ha, hin⟩ := ih hrest hi
      exact ⟨a, ha, hin.trans (List.suffix_cons c rest).isInfix⟩
    | str l w q =>
      cases as with
      | nil => cases h
      | cons a as =>
        obtain ⟨rest, hrest, rfl⟩ := Option.map_eq_some_iff.mp h
        cases i with
        | zero =>
          obtain rfl : q = prec := Option.some.inj hi
          exact ⟨a, rfl, (shown_infix_field l w q a).trans (List.prefix_append _ _).isInfix⟩
        | succ i =>
          obtain ⟨b, hb, hin⟩ := ih hrest hi
          exact ⟨b, hb, hin.trans (List.suffix_append _ _).isInfix⟩

theorem PostBody.text_shown {b : PostBody} {text : Bytes} (h : b.text = some text) {i : Nat}
    {prec : Option Nat} (hi : (directives ((parse b.login).getD []))[i]? = some prec) :
    ∃ a, [b.user, b.pw, b.pw][i]? = some a ∧ shown prec (cstr a) <:+: text := by
  obtain ⟨ps, hps, hr⟩ := Option.bind_eq_some_iff.mp (sprintf_s_eq_some.mp h).1
  rw [hps, Option.getD_some] at hi
  exact render_shown hr hi

theorem find_isSome_iff (pat s : Bytes) : (find pat s).isSome = true ↔ pat <:+: s := by
  rw [Option.isSome_iff_ne_none, ne_eq, find_eq_none_iff, not_not]

theorem PostBody.carries_iff (b : PostBody) (user : Bytes) :
    b.carries user = true ↔ b.user = user ∧ ∃ text, b.text = some text ∧ user <:+: text := by
  unfold PostBody.carries
  rw [Bool.and_eq_true, beq_iff_eq, Option.any_eq_true]
  simp only [find_isSome_iff]

/-- What the template shows is carried. -/
theorem PostBody.carries_of_prints {b : PostBody} (h : b.printsUser = true) :
    b.carries b.user = true := by
  unfold PostBody.printsUser at h
  obtain ⟨hfits, hshown⟩ := Bool.and_eq_true_iff.mp h
  obtain ⟨text, htext⟩ := Option.isSome_iff_exists.mp hfits
  obtain ⟨prec, hprec, heq⟩ := (Option.any_eq_true ..).mp hshown
  rw [List.head?_eq_getElem?] at hprec
  obtain ⟨a, ha, hin⟩ := b.text_shown htext hprec
  obtain rfl : b.user = a := Option.some.inj ha
  rw [beq_iff_eq.mp heq] at hin
  exact (b.carries_iff b.user).mpr ⟨rfl, text, htext, hin⟩

theorem PostBody.carriesLogin_of_prints {b : PostBody} (h : b.printsLogin = true) :
    b.carriesLogin b.user b.pw = true := by
  unfold PostBody.printsLogin at h
  obtain ⟨huser, hpw⟩ := Bool.and_eq_true_iff.mp h
  have hcarries := b.carries_of_prints huser
  obtain ⟨-, text, htext, -⟩ := (b.carries_iff b.user).mp hcarries
  obtain ⟨prec, hprec, heq⟩ := List.any_eq_true.mp hpw
  obtain ⟨i, hi⟩ := List.mem_iff_getElem?.mp hprec
  rw [List.getElem?_drop] at hi
  obtain ⟨a, ha, hin⟩ := b.text_shown htext hi
  -- behind the first directive there are only those of the password
  have ha' : ([b.user, b.pw, b.pw].drop 1)[i]? = some a := by
    rw [List.getElem?_drop]
    exact ha
  obtain rfl : a = b.pw := by simpa using List.mem_of_getElem? ha'
  rw [beq_iff_eq.mp heq] at hin
  unfold PostBody.carriesLogin
  rw [hcarries, htext, beq_self_eq_true, Option.any_some, (find_isSome_iff _ _).mpr hin]
  rfl

section
variable {pw : Bytes} (h0 : (0 : UInt8) ∉ pw)
include h0

theorem field_escapePlus {left : Bool} {width : Nat} {prec : Option Nat}
    (h : (43 : UInt8) ∉ shown prec pw) :
    field left width prec (escapePlus pw) = field left width prec pw := by
  simp only [field, cstr_of_no_nul h0, cstr_of_no_nul (nul_notMem_escapePlus h0),
    shown_escapePlus h]

/-- When no `+` is shown, the texts printed with the two forms are the same. -/
theorem render_same : ∀ (ps : List Piece) (us : List Bytes) (n : Nat),
    (∀ prec ∈ (directives ps).drop us.length, (43 : UInt8) ∉ shown prec pw) →
    render ps (us ++ List.replicate n pw) = render ps (us ++ List.replicate n (escapePlus pw))
  | [], _, _, _ => rfl
  | .byte c :: ps, us, n, h => by
    rw [render, render, render_same ps us n h]
  | .str l w p :: ps, u :: us, n, h => by
    rw [List.cons_append, List.cons_append, render, render, render_same ps us n h]
  | .str l w p :: ps, [], 0, h => rfl
  | .str l w p :: ps, [], n + 1, h => by
    simp only [List.length_nil, List.drop_zero, directives, List.forall_mem_cons] at h
    have ih := render_same ps [] n (by simpa using h.2)
    simp only [List.nil_append] at ih
    simp only [List.nil_append, List.replicate_succ, render, ih, field_escapePlus h0 h.1]

/-- The text printed with the escaped form misses the `+` of the shown parts. -/
theorem count_render : ∀ (ps : List Piece) (us : List Bytes) (n : Nat) {out out' : Bytes},
    render ps (us ++ List.replicate n pw) = some out →
    render ps (us ++ List.replicate n (escapePlus pw)) = some out' →
    out.count 43 = out'.count 43 +
      (((directives ps).drop us.length).map fun prec => (shown prec pw).count 43).sum
  | [], us, n, out, out', h, h' => by
    simp only [render, Option.some.injEq] at h h'
    subst h h'
    simp [directives]
  | .byte c :: ps, us, n, out, out', h, h' => by
    obtain ⟨o, ho, rfl⟩ := Option.map_eq_some_iff.mp h
    obtain ⟨o', ho', rfl⟩ := Option.map_eq_some_iff.mp h'
    have ih := count_render ps us n ho ho'
    simp only [List.count_cons, directives]
    omega
  | .str l w p :: ps, u :: us, n, out, out', h, h' => by
    obtain ⟨o, ho, rfl⟩ := Option.map_eq_some_iff.mp h
    obtain ⟨o', ho', rfl⟩ := Option.map_eq_some_iff.mp h'
    have ih := count_render ps us n ho ho'
    simp only [List.count_append, directives, List.length_cons, List.drop_succ_cons]
    omega
  | .str l w p :: ps, [], 0, out, out', h, h' => by cases h
  | .str l w p :: ps, [], n + 1, out, out', h, h' => by
    obtain ⟨o, ho, rfl⟩ := Option.map_eq_some_iff.mp h
    obtain ⟨o', ho', rfl⟩ := Option.map_eq_some_iff.mp h'
    have ih := count_render ps [] n ho ho'
    have hp : (field l w p pw).count 43 = (shown p pw).count 43 := by
      rw [count_field (by decide), cstr_of_no_nul h0]
    have he : (field l w p (escapePlus pw)).count 43 = 0 := by
      rw [count_field (by decide), cstr_of_no_nul (nul_notMem_escapePlus h0),
        List.count_eq_zero]
      intro hm
      cases p with
      | none => exact plus_notMem_escapePlus pw hm
      | some k => exact plus_notMem_escapePlus pw (List.mem_of_mem_take hm)
    simp only [List.length_nil, List.drop_zero] at ih
    simp only [List.count_append, directives, List.length_nil, List.drop_zero, List.map_cons,
      List.sum_cons, hp, he]
    omega

end

/-- The body built for a stored password is the body built when it is typed exactly
    when the template's password directives show no `+` of it. -/
theorem storedBody_eq_typedBody_iff (login user pw : CStr) (hlen : 7 < pw.val.length)
    {stored typed : Bytes} (hs : storedBody login user pw = some stored)
    (ht : typedBody login user pw = some typed) :
    stored = typed ↔ ∀ part ∈ passwordShown login pw, (43 : UInt8) ∉ part := by
  rw [typedBody, if_pos hlen] at ht
  have hs' := (sprintf_s_eq_some.mp hs).1
  have ht' := (sprintf_s_eq_some.mp ht).1
  obtain ⟨ps, hps, hrs⟩ := Option.bind_eq_some_iff.mp hs'
  obtain ⟨ps', hps', hrt⟩ := Option.bind_eq_some_iff.mp ht'
  obtain rfl : ps = ps' := Option.some.inj (hps.symm.trans hps')
  have hshown : (∀ part ∈ passwordShown login pw, (43 : UInt8) ∉ part) ↔
      ∀ prec ∈ (directives ps).drop 1, (43 : UInt8) ∉ shown prec pw.val := by
    have hparse : parse login.val = some ps := hps
    simp only [passwordShown, hparse, Option.getD_some, List.forall_mem_map]
  rw [hshown]
  refine ⟨?_, ?_⟩
  · intro h
    have hcount := count_render pw.property ps [user.val] 2 hrs hrt
    rw [h] at hcount
    have hzero : (((directives ps).drop 1).map fun prec => (shown prec pw.val).count 43).sum = 0 := by
      simp only [List.length_singleton] at hcount
      omega
    rw [List.sum_eq_zero_iff_forall_eq_nat, List.forall_mem_map] at hzero
    exact fun prec hm => List.count_eq_zero.mp (hzero prec hm)
  · intro h
    have hsame := render_same pw.property ps [user.val] 2 h
    exact Option.some.inj (hrs.symm.trans (hsame.trans hrt))

/-- A stored password without `+`, on the template of the login server. -/
def loginTemplate : CStr := ⟨lit "username=%s&password=%s&pwd=%s&secret=true", by decide +kernel⟩
def userAnn : CStr := ⟨lit "ann", by decide⟩
def plainPassword : CStr := ⟨lit "12345678-a", by decide⟩

theorem plain_password_same_body :
    (storedBody loginTemplate userAnn plainPassword).getD [] =
      (typedBody loginTemplate userAnn plainPassword).getD [] :=
  (storedBody_eq_typedBody_iff loginTemplate userAnn plainPassword (by decide +kernel)
    (by decide +kernel) (by decide +kernel)).mpr (by decide +kernel)

/-- A password with a `+`: the typed body has `%2b`, the stored one the bare `+`. -/
def plusPassword : CStr := ⟨lit "11111111+a", by decide⟩

theorem plus_password_differs : ¬ ∀ login user pw : CStr, 7 < pw.val.length →
    ∀ stored typed, storedBody login user pw = some stored → typedBody login user pw = some typed →
      stored = typed := by
  intro h
  have := h loginTemplate userAnn plusPassword (by decide +kernel)
    (lit "username=ann&password=11111111+a&pwd=11111111+a&secret=true")
    (lit "username=ann&password=11111111%2ba&pwd=11111111%2ba&secret=true")
    (by decide +kernel) (by decide +kernel)
  revert this
  decide +kernel

/-! Decoding the typed body. -/

theorem hexVal_percent : hexVal 37 = none := by decide

theorem hexVal_plus : hexVal 43 = none := by decide

theorem escaped_eq_some {a b x : UInt8} (h : escaped a b = some x) : a ≠ 43 ∧ b ≠ 43 := by
  refine ⟨?_, ?_⟩
  · intro e
    rw [e, escaped, hexVal_plus] at h
    cases h
  · intro e
    rw [e, escaped, hexVal_plus] at h
    revert h
    cases hexVal a <;> simp

theorem escaped_percent_right (a : UInt8) : escaped a 37 = none := by
  rw [escaped, hexVal_percent]
  cases hexVal a <;> rfl

/-- The replacement puts no escape at the head of a string that has none there. -/
theorem headEscape_enc {s : Bytes} (h : headEscape s = none) :
    headEscape (s.flatMap enc) = none := by
  match s, h with
  | [], _ => rfl
  | [a], _ =>
    by_cases ha : a = 43
    · subst ha; decide
    · simp [enc_other ha, headEscape]
  | a :: b :: s, h =>
    by_cases ha : a = 43
    · subst ha
      simp [enc_plus, headEscape, escaped, hexVal_percent]
    · by_cases hb : b = 43
      · subst hb
        simp [enc_other ha, enc_plus, headEscape, escaped_percent_right]
      · simpa [enc_other ha, enc_other hb, headEscape] using h

/-- Decoding the sent password: every `+` is back, and only the escapes that were
    typed are decoded. -/
theorem value_escapePlus (s : Bytes) : value (escapePlus s) = decodeWith id s := by
  rw [escapePlus_eq]
  induction hn : s.length using Nat.strong_induction_on generalizing s with
  | _ n ih =>
    match s, hn with
    | [], _ => rfl
    | c :: s, hn =>
      rw [List.length_cons] at hn
      have ihs := ih s.length (by omega) s rfl
      by_cases hc : c = 43
      · subst hc
        have hx : value ([37, 50, 98] ++ s.flatMap enc) = 43 :: value (s.flatMap enc) :=
          decodeWith_cons_escape plusToSpace (by decide) _
        calc value ((43 :: s).flatMap enc)
            = 43 :: value (s.flatMap enc) := by rw [List.flatMap_cons, enc_plus, hx]
          _ = 43 :: decodeWith id s := by rw [ihs]
          _ = decodeWith id (43 :: s) :=
              (decodeWith_cons id (fun e => absurd e (by decide))).symm
      · rw [List.flatMap_cons, enc_other hc, List.singleton_append]
        by_cases he : c = 37 → headEscape s = none
        · -- no escape starts here, before the replacement or after it
          have hp : plusToSpace c = c := if_neg hc
          calc value (c :: s.flatMap enc)
              = plusToSpace c :: value (s.flatMap enc) :=
                decodeWith_cons _ (fun e => headEscape_enc (he e))
            _ = c :: decodeWith id s := by rw [hp, ihs]
            _ = decodeWith id (c :: s) := (decodeWith_cons id he).symm
        · push Not at he
          obtain ⟨rfl, hne⟩ := he
          match s, hne, hn with
          | [], hne, _ => exact absurd rfl hne
          | [_], hne, _ => exact absurd rfl hne
          | a :: b :: t, hne, hn =>
            obtain ⟨x, hx⟩ : ∃ x, escaped a b = some x := Option.ne_none_iff_exists'.mp hne
            obtain ⟨ha, hb⟩ := escaped_eq_some hx
            simp only [List.length_cons] at hn
            rw [List.flatMap_cons, List.flatMap_cons, enc_other ha, enc_other hb, value]
            simp only [List.singleton_append]
            rw [decodeWith_cons_escape _ hx, decodeWith_cons_escape _ hx, ← value,
              ih t.length (by omega) t rfl]

/-- The four fields of the login form. -/
def loginFields (user pw : Bytes) : List (Bytes × Bytes) :=
  [(lit "username", user), (lit "password", pw), (lit "pwd", pw), (lit "secret", lit "true")]

/-- The typed body is the four raw fields, joined. -/
theorem typedBody_eq_join {user pw : CStr} {body : Bytes}
    (h : typedBody loginTemplate user pw = some body) :
    body = join (loginFields user.val (escapePlus pw.val)) := by
  have htext : PostBody.text
      { login := loginTemplate.val, user := user.val, pw := escapePlus pw.val } = some body := by
    unfold typedBody at h
    split at h
    · exact h
    · cases h
  have hprint := (sprintf_s_eq_some.mp htext).1
  have hno := nul_notMem_escapePlus pw.property
  have hshape : loginTemplate.val = lit "username=" ++ (lit "%s" ++ (lit "&password=" ++
      (lit "%s" ++ (lit "&pwd=" ++ (lit "%s" ++ (lit "&secret=true" ++ [])))))) := by
    decide +kernel
  rw [sprintf_eq, cstr_val, hshape, fillFrom_text (by decide +kernel), fillFrom_s user.property,
    fillFrom_text (by decide +kernel), fillFrom_s hno, fillFrom_text (by decide +kernel),
    fillFrom_s hno, fillFrom_text (by decide +kernel), fillFrom_nil] at hprint
  simp only [Option.map_some, Option.some.injEq, List.append_nil] at hprint
  rw [← hprint]
  have h1 : lit "username=" = lit "username" ++ [61] := by decide +kernel
  have h2 : lit "&password=" = 38 :: (lit "password" ++ [61]) := by decide +kernel
  have h3 : lit "&pwd=" = 38 :: (lit "pwd" ++ [61]) := by decide +kernel
  have h4 : lit "&secret=true" = 38 :: (lit "secret" ++ 61 :: lit "true") := by decide +kernel
  simp [join, loginFields, List.intercalate, h1, h2, h3, h4]

theorem loginFields_keys {user pw : Bytes} :
    ∀ r ∈ loginFields user pw, (61 : UInt8) ∉ r.1 ∧ (38 : UInt8) ∉ r.1 := by
  simp only [loginFields, List.forall_mem_cons]
  exact ⟨by decide, by decide, by decide, by decide, fun r hr => absurd hr List.not_mem_nil⟩

theorem loginFields_values {user pw sent : Bytes} :
    loginFields user pw = (loginFields user sent).map (fun r => (value r.1, value r.2)) ↔
      user = value user ∧ pw = value sent := by
  have h1 : value (lit "username") = lit "username" := by decide
  have h2 : value (lit "password") = lit "password" := by decide
  have h3 : value (lit "pwd") = lit "pwd" := by decide
  have h4 : value (lit "secret") = lit "secret" := by decide
  have h5 : value (lit "true") = lit "true" := by decide
  simp only [loginFields, List.map_cons, List.map_nil, h1, h2, h3, h4, h5, List.cons.injEq,
    Prod.mk.injEq, true_and, and_true]
  exact ⟨fun h => ⟨h.1, h.2.1⟩, fun h => ⟨h.1, h.2, h.2⟩⟩

theorem amp_mem_flatMap_enc (s : Bytes) : (38 : UInt8) ∈ s.flatMap enc ↔ (38 : UInt8) ∈ s := by
  have henc : ∀ c, (38 : UInt8) ∈ enc c ↔ 38 = c := by
    intro c
    by_cases hc : c = 43
    · subst hc; decide
    · rw [enc_other hc, List.mem_singleton]
  rw [List.mem_flatMap]
  simp only [henc]
  exact ⟨fun ⟨c, hm, h⟩ => h ▸ hm, fun h => ⟨38, h, rfl⟩⟩

/-- The typed body decodes to the four fields exactly when neither field has an
    `&` or an escape and the user name has no `+`. -/
theorem decode_typedBody_iff (user pw : CStr) {body : Bytes}
    (h : typedBody loginTemplate user pw = some body) :
    decode body = loginFields user.val pw.val ↔
      ((38 : UInt8) ∉ user.val ∧ (43 : UInt8) ∉ user.val ∧ NoEscape user.val) ∧
        (38 : UInt8) ∉ pw.val ∧ NoEscape pw.val := by
  have hamp : (38 : UInt8) ∉ escapePlus pw.val ↔ (38 : UInt8) ∉ pw.val := by
    rw [escapePlus_eq, amp_mem_flatMap_enc]
  have huser : user.val = value user.val ↔ NoEscape user.val ∧ (43 : UInt8) ∉ user.val := by
    rw [eq_comm, value_eq_self_iff]
  have hpw : pw.val = value (escapePlus pw.val) ↔ NoEscape pw.val := by
    rw [value_escapePlus, eq_comm, decodeWith_eq_self_iff]
    simp
  have hiff := @decode_join_iff (loginFields user.val (escapePlus pw.val))
    (loginFields user.val pw.val) (by simp [loginFields]) loginFields_keys rfl
  rw [typedBody_eq_join h, hiff, loginFields_values, huser, hpw]
  simp only [loginFields, List.forall_mem_cons, hamp]
  have htrue : (38 : UInt8) ∉ lit "true" := by decide
  refine ⟨fun ⟨⟨hu, hp, _⟩, ⟨hue, hplus⟩, hpe⟩ => ⟨⟨hu, hplus, hue⟩, hp, hpe⟩,
    fun ⟨⟨hu, hplus, hue⟩, hp, hpe⟩ => ⟨⟨hu, hp, hp, htrue, ?_⟩, ⟨hue, hplus⟩, hpe⟩⟩
  exact fun r hr => absurd hr List.not_mem_nil

/-- A user and a password of letters and digits come back as they were. -/
theorem decode_plain_body :
    decode (lit "username=ann&password=12345678-a&pwd=12345678-a&secret=true") =
      loginFields userAnn.val plainPassword.val :=
  (decode_typedBody_iff userAnn plainPassword (by decide +kernel)).mpr
    ⟨⟨by decide, by decide, noEscape_of_no_percent (by decide)⟩, by decide,
      noEscape_of_no_percent (by decide)⟩

/-- A password with an `&`: the fields are cut in the middle of it. -/
def ampPassword : CStr := ⟨lit "12345678&a", by decide⟩

theorem amp_password_cut : ¬ ∀ user pw : CStr, ∀ body,
    typedBody loginTemplate user pw = some body → decode body = loginFields user.val pw.val := by
  intro h
  have := h userAnn ampPassword
    (lit "username=ann&password=12345678&a&pwd=12345678&a&secret=true") (by decide +kernel)
  revert this
  decide +kernel

end CardLogon
