/-!
# Half-width marks and digits

Input may be typed with full-width commas and digits. `toHalfWidth` replaces them by their ASCII
forms and leaves every other character as it is.

* `toHalfWidth_toHalfWidth`: doing it twice is doing it once.
-/

namespace Billing.Text

/-- The ASCII form of a full-width comma or digit; other characters unchanged. -/
def halfWidth (c : Char) : Char :=
  if c = '、' ∨ c = '，' then ','
  else if '０' ≤ c ∧ c ≤ '９' then Char.ofNat (c.toNat - 0xFEE0)
  else c

/-- The text with full-width commas and digits in their ASCII form. -/
def toHalfWidth (s : String) : String := String.ofList (s.toList.map halfWidth)

theorem halfWidth_digit :
    ∀ n < 10, halfWidth (Char.ofNat (0xFF10 + n)) = Char.ofNat (0x30 + n) := by
  decide

theorem halfWidth_halfWidth (c : Char) : halfWidth (halfWidth c) = halfWidth c := by
  by_cases hc : c = '、' ∨ c = '，'
  · simp only [halfWidth, hc, if_true]
    decide
  · by_cases hd : '０' ≤ c ∧ c ≤ '９'
    · have hn : 0xFF10 ≤ c.toNat ∧ c.toNat ≤ 0xFF19 := ⟨hd.1, hd.2⟩
      obtain ⟨k, hk, hck⟩ : ∃ k, k < 10 ∧ c.toNat = 0xFF10 + k := ⟨c.toNat - 0xFF10, by omega⟩
      have : c = Char.ofNat (0xFF10 + k) := by rw [← hck, Char.ofNat_toNat]
      have ascii : ∀ n < 10, halfWidth (Char.ofNat (0x30 + n)) = Char.ofNat (0x30 + n) := by decide
      rw [this, halfWidth_digit k hk, ascii k hk]
    · simp [halfWidth, hc, hd]

theorem toHalfWidth_toHalfWidth (s : String) : toHalfWidth (toHalfWidth s) = toHalfWidth s := by
  simp [toHalfWidth, Function.comp_def, halfWidth_halfWidth]

end Billing.Text
