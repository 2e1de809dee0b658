import ResourceProvider.Engine.Run
import ResourceProvider.Schema.Resolve
/-!
# Setting the version of a database

The setting `user_version` takes the head of a text as a number, and zero for a number that is too
large. The text of a version that a schema can have is read back as that version
(`Database.setting_version`).
-/
namespace ResourceProvider

/-! ## Digits -/

namespace Text

theorem decimalValue_dropWhile (ds : List Char) :
    decimalValue (ds.dropWhile (· = '0')) = decimalValue ds := by
  induction ds with
  | nil => rfl
  | cons d ds ih =>
    by_cases zero : d = '0'
    · rw [List.dropWhile_cons_of_pos (by simp [zero]), ih]
      subst zero
      rfl
    · rw [List.dropWhile_cons_of_neg (by simp [zero])]

theorem isDigit_of_mem_toDigits {n : Nat} {c : Char} (hc : c ∈ Nat.toDigits 10 n) : isDigit c := by
  have digit := Nat.isDigit_of_mem_toDigits (by decide) (by decide) hc
  unfold Char.isDigit at digit
  exact digit

/-- A number is read back from its digits. -/
theorem decimalValue_toDigits (n : Nat) : decimalValue (Nat.toDigits 10 n) = n := by
  have read : Nat.ofDigitChars 10 (Nat.toDigits 10 n) 0 = n := Nat.ofDigitChars_ten_toDigits
  unfold decimalValue digitValue
  simpa only [Nat.ofDigitChars, Nat.mul_comm] using read

theorem toList_toString (n : Nat) : (toString (n : Int)).toList = Nat.toDigits 10 n :=
  Nat.toList_repr

theorem toList_toString_negSucc (n : Nat) :
    (toString (Int.negSucc n)).toList = '-' :: Nat.toDigits 10 (n + 1) := by
  have text : toString (Int.negSucc n) = "-" ++ Nat.repr (n + 1) := rfl
  rw [text, String.toList_append, Nat.toList_repr]
  rfl

end Text

/-! ## Settings -/

namespace Engine

/-- The number of a text of digits, if it is below the limit. -/
theorem Database.settingNumber_digits {text : String} (digits : ∀ c ∈ text.toList, Text.isDigit c)
    (limit : Text.decimalValue text.toList < 0x80000000) :
    settingNumber text = Text.decimalValue text.toList := by
  unfold settingNumber
  generalize text.toList = cs at digits limit
  have all : (cs ++ []).takeWhile Text.isDigit = cs ++ [].takeWhile Text.isDigit :=
    List.takeWhile_append_of_pos digits
  rw [List.append_nil, List.takeWhile_nil, List.append_nil] at all
  split
  rename_i negative unsigned sign
  have plain : negative = false ∧ unsigned = cs := by
    split at sign
    · cases digits '-' (List.mem_cons_self ..)
    · cases digits '+' (List.mem_cons_self ..)
    · cases sign
      exact ⟨rfl, rfl⟩
  obtain ⟨rfl, rfl⟩ := plain
  simp only [all, Text.decimalValue_dropWhile, Bool.false_eq_true, if_false]
  rw [if_pos (by omega)]

/-- A version that a database can store is stored as it is. -/
theorem Database.setting_version {v : Nat} (h : v ≤ Schema.maxVersion) (db : Database) :
    db.setting "user_version" (some (toString v)) = ({ db with version := v }, .ok .nothing) := by
  have digits : (toString v).toList = Nat.toDigits 10 v := Nat.toList_repr
  have value : Text.decimalValue (toString v).toList = v := by
    rw [digits, Text.decimalValue_toDigits]
  have limit : Text.decimalValue (toString v).toList < 0x80000000 := by
    rw [value]
    unfold Schema.maxVersion at h
    omega
  have number : Database.settingNumber (toString v) = _ :=
    Database.settingNumber_digits (fun c hc => Text.isDigit_of_mem_toDigits (digits ▸ hc)) limit
  have name : sameName "user_version" "user_version" := by decide
  simp only [Database.setting, name, if_true, number, value]

end Engine

end ResourceProvider
