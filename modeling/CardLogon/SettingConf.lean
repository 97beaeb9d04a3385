import CardLogon.TextFile
import Mathlib.Logic.Function.Basic

/- The configuration file setting.conf: the reading loop of `Initialize`.

   Every line that does not begin with '#' is cut at its first '=', and goes into a map that
   keeps the first value of a key; the name of the serial port and that of the user are
   taken from the map, where they are there. The search for '=' is not checked: a line
   without one is cut at `npos`, and is its own key and its own value.

   What is proved: `setting_conf_iff`. The loop ends, and the two strings are the text behind
   the '=' of the first line of their name exactly when no line that is the bare name comes
   before it, or that text is the name too. -/
namespace CardLogon
open CText WhileLoop

/-- `map<string, string>`. -/
abbrev ConfigMap := Bytes → Option Bytes

/-- `insert` keeps the value that is there. -/
def ConfigMap.insert (m : ConfigMap) (k v : Bytes) : ConfigMap :=
  Function.update m k (some ((m k).getD v))

/-- The body of the loop; `substr(0, npos)` and `substr(npos + 1)` are the whole line. -/
def configLine (mapConfig : ConfigMap) (str_line : Bytes) : ConfigMap :=
  if find (lit "#") str_line = some 0 then mapConfig
  else
    match find (lit "=") str_line with
    | some pos => mapConfig.insert (str_line.take pos) (str_line.drop (pos + 1))
    | none => mapConfig.insert str_line str_line

/-- The strings that are read from the file. -/
@[ext]
structure ConfigStrings where
  strCom : Bytes
  strUser : Bytes
  deriving DecidableEq

/-- The opened file, and an empty map. -/
def openedConf (file : Bytes) : Option Bytes × ConfigMap := (some (textMode file), fun _ => none)

/-- What follows the loop. -/
def takeStrings (mapConfig : ConfigMap) (before : ConfigStrings) : ConfigStrings where
  strCom := (mapConfig (lit "Com")).getD before.strCom
  strUser := (mapConfig (lit "User")).getD before.strUser

/-! What the file says. -/

/-- A line that sets `key`. -/
def SetsKey (key l : Bytes) : Prop := l.head? ≠ some 35 ∧ 61 ∈ l ∧ l.takeWhile (· != 61) = key

instance (key l : Bytes) : Decidable (SetsKey key l) := inferInstanceAs (Decidable (_ ∧ _ ∧ _))

/-- The text behind the first '=' of the first such line, or what there was before. -/
def settingIn (key : Bytes) (ls : List Bytes) (before : Bytes) : Bytes :=
  ((ls.find? fun l => SetsKey key l).map (behind 61)).getD before

/-- A line that is the bare name comes first. -/
def BareFirst (key : Bytes) (ls : List Bytes) : Prop :=
  (ls.find? fun l => l = key ∨ SetsKey key l) = some key

/-! The map. -/

/-- What a line adds under `key`. -/
def valueIn (key l : Bytes) : Option Bytes :=
  if l.head? = some 35 then none
  else if 61 ∈ l then (if l.takeWhile (· != 61) = key then some (behind 61 l) else none)
  else if l = key then some l else none

theorem insert_apply (m : ConfigMap) (k v key : Bytes) :
    m.insert k v key = (m key).or (if k = key then some v else none) := by
  unfold ConfigMap.insert
  by_cases h : key = k
  · subst h
    rw [Function.update_self, if_pos rfl]
    cases m key <;> rfl
  · rw [Function.update_of_ne h, if_neg (Ne.symm h), Option.or_none]

theorem find_hash_iff (l : Bytes) : find (lit "#") l = some 0 ↔ l.head? = some 35 := by
  have hlit : lit "#" = [35] := rfl
  rw [hlit, find_byte]
  cases l with
  | nil => simp
  | cons c l =>
    by_cases hc : c = 35
    · simp [hc]
    · simp [hc, Ne.symm hc]

theorem configLine_apply (m : ConfigMap) (l key : Bytes) :
    configLine m l key = (m key).or (valueIn key l) := by
  unfold configLine valueIn
  by_cases hhash : l.head? = some 35
  · rw [if_pos ((find_hash_iff l).mpr hhash), if_pos hhash, Option.or_none]
  · rw [if_neg fun h => hhash ((find_hash_iff l).mp h), if_neg hhash]
    have hlit : lit "=" = [61] := rfl
    rw [hlit]
    cases hpos : find [61] l with
    | none =>
      rw [if_neg (notMem_of_find hpos)]
      exact insert_apply m l l key
    | some pos =>
      obtain ⟨htake, hdrop⟩ := take_drop_find hpos
      rw [if_pos (mem_of_find hpos), ← htake, ← hdrop]
      exact insert_apply m (l.take pos) (l.drop (pos + 1)) key

/-- The loop keeps the first value. -/
theorem foldl_configLine (ls : List Bytes) (m : ConfigMap) (key : Bytes) :
    ls.foldl configLine m key = (m key).or (ls.findSome? (valueIn key)) := by
  induction ls generalizing m with
  | nil => rw [List.foldl_nil, List.findSome?_nil, Option.or_none]
  | cons l ls ih =>
    rw [List.foldl_cons, ih, configLine_apply, List.findSome?_cons, Option.or_assoc]
    cases valueIn key l <;> rfl

/-! The first line of a name. -/

variable {key : Bytes}

theorem valueIn_of_setsKey {l : Bytes} (h : SetsKey key l) : valueIn key l = some (behind 61 l) := by
  obtain ⟨hhash, hmem, hkey⟩ := h
  unfold valueIn
  rw [if_neg hhash, if_pos hmem, if_pos hkey]

/-- A name has no '=' and is no comment. -/
theorem valueIn_bare (hhash : key.head? ≠ some 35) (hmem : 61 ∉ key) : valueIn key key = some key := by
  unfold valueIn
  rw [if_neg hhash, if_neg hmem, if_pos rfl]

theorem valueIn_other {l : Bytes} (hbare : l ≠ key) (hsets : ¬ SetsKey key l) : valueIn key l = none := by
  unfold valueIn
  split_ifs with hhash hmem hkey
  · rfl
  · exact absurd ⟨hhash, hmem, hkey⟩ hsets
  · rfl
  · rfl

theorem findSome?_eq_settingIn_iff (hhash : key.head? ≠ some 35) (hmem : 61 ∉ key)
    (ls : List Bytes) (before : Bytes) :
    (ls.findSome? (valueIn key)).getD before = settingIn key ls before ↔
      (BareFirst key ls → settingIn key ls before = key) := by
  induction ls with
  | nil => simp [settingIn, BareFirst]
  | cons l ls ih =>
    unfold settingIn BareFirst at ih ⊢
    by_cases hsets : SetsKey key l
    · have hne : l ≠ key := by
        rintro rfl
        exact hmem hsets.2.1
      simp [valueIn_of_setsKey hsets, hsets, hne]
    · by_cases hbare : l = key
      · subst hbare
        simp [valueIn_bare hhash hmem, hsets, eq_comm]
      · simp only [List.findSome?_cons, valueIn_other hbare hsets, List.find?_cons, hsets, hbare,
          or_self, decide_false]
        exact ih

/-! The strings. -/

/-- The lines of the file. -/
def configLines (file : Bytes) : List Bytes := (textMode file).splitOn 10

/-- The strings that the file and what there was before give. -/
def stringsIn (file : Bytes) (before : ConfigStrings) : ConfigStrings where
  strCom := settingIn (lit "Com") (configLines file) before.strCom
  strUser := settingIn (lit "User") (configLines file) before.strUser

theorem setting_conf_iff (file : Bytes) (before : ConfigStrings) :
    ∃ n mapConfig, Ends (eachLine configLine) (openedConf file) n (none, mapConfig) ∧
      (takeStrings mapConfig before = stringsIn file before ↔
        (BareFirst (lit "Com") (configLines file) → (stringsIn file before).strCom = lit "Com") ∧
        (BareFirst (lit "User") (configLines file) →
          (stringsIn file before).strUser = lit "User")) := by
  refine ⟨_, _, eachLine_ends configLine (textMode file) _, ?_⟩
  have hfirst : ∀ key, (configLines file).foldl configLine (fun _ => none) key =
      (configLines file).findSome? (valueIn key) := by
    intro key
    rw [foldl_configLine, Option.none_or]
  have hcom := @findSome?_eq_settingIn_iff (lit "Com") (by decide) (by decide)
    (configLines file) before.strCom
  have huser := @findSome?_eq_settingIn_iff (lit "User") (by decide) (by decide)
    (configLines file) before.strUser
  rw [ConfigStrings.ext_iff]
  apply and_congr
  · unfold takeStrings
    dsimp only
    rw [← configLines, hfirst]
    exact hcom
  · unfold takeStrings
    dsimp only
    rw [← configLines, hfirst]
    exact huser

/-- The port's name alone, and then the setting. -/
def bareConf : Bytes := lit "Com\nCom=COM3"

theorem bare_name_taken :
    ∃ n mapConfig, Ends (eachLine configLine) (openedConf bareConf) n (none, mapConfig) ∧
      (takeStrings mapConfig ⟨[], []⟩).strCom = lit "Com" ∧
      takeStrings mapConfig ⟨[], []⟩ ≠ stringsIn bareConf ⟨[], []⟩ := by
  refine ⟨_, _, .step rfl (.step rfl (.stop rfl)), ?_⟩
  decide +kernel

end CardLogon
