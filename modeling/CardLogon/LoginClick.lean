import CardLogon.CFormat
import CardLogon.LoginForm
import CardLogon.PrintUser

/- The login click of `_ProcessNextMessage`, with `user_update`.

   The typed password goes into two buffers: twice, with every `+` as `%2b`, into the 1000
   bytes of chhttpPOST, and, when the login server accepts it, as it is into the 255 bytes
   of the update. `sprintf_s` stops the process at a text that does not fit.

   What is proved: `login_click_completes_iff`. With the template of the login server and a
   password of eight characters or more the click completes, whatever the server and the
   database answer, exactly when both texts fit, by their sizes. -/
namespace CardLogon
open CText

/-- The click with the login button. It returns whether the wait of the logon thread is
    over; `boolHttpback` is the verdict of the login server, `updated` that of the
    database. -/
def loginClick (login user getUpw getCarNumber : CStr) (boolHttpback updated : Bool) : Ran Bool :=
  if getUpw.val.length > 7 then
    match typedBody login user getUpw with
    | none => .stopped
    | some _ =>
      if boolHttpback then
        match (userUpdate getUpw getCarNumber).text with
        | none => .stopped
        | some _ => .returned updated
      else .returned false
  else .returned false

/-- Whatever is answered, the click comes to its end. -/
def ClickCompletes (user getUpw getCarNumber : CStr) : Prop :=
  ∀ boolHttpback updated, ∃ b,
    loginClick loginTemplate user getUpw getCarNumber boolHttpback updated = .returned b

/-- The bytes of the two formats. -/
def loginTemplateBytes : Bytes := lit "username=&password=&pwd=&secret=true"
def userUpdateBytes : Bytes := lit "update CarTable set UserPW=AES_ENCRYPT('','Dust') where CarNumber=''"

theorem loginTemplate_plain : plainFormat loginTemplate.val = some (loginTemplateBytes, 3) := by
  decide +kernel

theorem userUpdate_plain : plainFormat userUpdateFormat = some (userUpdateBytes, 2) := by
  decide +kernel

theorem length_formats : loginTemplateBytes.length = 36 ∧ userUpdateBytes.length = 68 := by
  decide +kernel

section
variable (user getUpw getCarNumber : CStr)

/-- The body fits chhttpPOST. -/
theorem typedBody_isSome_iff (hlen : 7 < getUpw.val.length) :
    (typedBody loginTemplate user getUpw).isSome = true ↔
      36 + user.val.length + 2 * (getUpw.val.length + 2 * getUpw.val.count 43) < 1000 := by
  have hpw : (0 : UInt8) ∉ escapePlus getUpw.val := nul_notMem_escapePlus getUpw.property
  have hno : ∀ a ∈ [user.val, escapePlus getUpw.val, escapePlus getUpw.val], (0 : UInt8) ∉ a := by
    simp [user.property, hpw]
  unfold typedBody PostBody.text
  rw [if_pos hlen, sprintf_s_isSome_iff loginTemplate_plain rfl hno, length_formats.1]
  simp only [List.map_cons, List.map_nil, List.sum_cons, List.sum_nil, length_escapePlus]
  omega

/-- The statement fits the query. -/
theorem userUpdate_isSome_iff : (userUpdate getUpw getCarNumber).text.isSome = true ↔
    68 + getUpw.val.length + getCarNumber.val.length < 255 := by
  have hno : ∀ a ∈ [getUpw.val, getCarNumber.val], (0 : UInt8) ∉ a := by
    simp [getUpw.property, getCarNumber.property]
  show (sprintf_s 255 userUpdateFormat [getUpw.val, getCarNumber.val]).isSome = true ↔ _
  rw [sprintf_s_isSome_iff userUpdate_plain rfl hno, length_formats.2]
  simp only [List.map_cons, List.map_nil, List.sum_cons, List.sum_nil]
  omega

/-- The click completes exactly when its two texts are there. -/
theorem clickCompletes_iff (hlen : 7 < getUpw.val.length) :
    ClickCompletes user getUpw getCarNumber ↔
      (typedBody loginTemplate user getUpw).isSome = true ∧
        (userUpdate getUpw getCarNumber).text.isSome = true := by
  have hlong : ∀ boolHttpback updated,
      loginClick loginTemplate user getUpw getCarNumber boolHttpback updated =
        match typedBody loginTemplate user getUpw with
        | none => .stopped
        | some _ =>
          if boolHttpback then
            match (userUpdate getUpw getCarNumber).text with
            | none => .stopped
            | some _ => .returned updated
          else .returned false := fun _ _ => if_pos hlen
  unfold ClickCompletes
  simp only [hlong]
  cases typedBody loginTemplate user getUpw with
  | none => simp
  | some body =>
    cases (userUpdate getUpw getCarNumber).text with
    | none =>
      refine ⟨fun h => ?_, fun h => ?_⟩
      -- the server accepts what the database cannot be told
      · obtain ⟨b, hb⟩ := h true true
        cases hb
      · cases h.2
    | some query =>
      refine ⟨fun _ => ⟨rfl, rfl⟩, fun _ boolHttpback updated => ?_⟩
      cases boolHttpback with
      | true => exact ⟨updated, rfl⟩
      | false => exact ⟨false, rfl⟩

/-- The click completes exactly when the body and the statement fit their buffers. -/
theorem login_click_completes_iff (hlen : 7 < getUpw.val.length) :
    ClickCompletes user getUpw getCarNumber ↔
      36 + user.val.length + 2 * (getUpw.val.length + 2 * getUpw.val.count 43) < 1000 ∧
        68 + getUpw.val.length + getCarNumber.val.length < 255 := by
  rw [clickCompletes_iff user getUpw getCarNumber hlen, typedBody_isSome_iff user getUpw hlen,
    userUpdate_isSome_iff]

end

theorem digits_click_completes : ClickCompletes userAnn digits card :=
  (login_click_completes_iff userAnn digits card (by decide)).mpr (by decide)

/-- A password the box can return that is too long for the update. -/
def longPassword : CStr := ⟨List.replicate 155 97, by decide +kernel⟩

theorem long_password_stops : ¬ ∀ user getUpw getCarNumber : CStr,
    8 ≤ getUpw.val.length → getUpw.val.length ≤ 1023 → user.val.length ≤ 64 →
      getCarNumber.val.length = 32 → ClickCompletes user getUpw getCarNumber := by
  intro hall
  have hlen : longPassword.val.length = 155 := List.length_replicate
  have h := hall userAnn longPassword card (by omega) (by omega) (by decide) (by decide)
  obtain ⟨-, hupdate⟩ := (clickCompletes_iff userAnn longPassword card (by omega)).mp h
  have hfits := (userUpdate_isSome_iff longPassword card).mp hupdate
  have hcard : card.val.length = 32 := by decide
  omega

end CardLogon
