import ManifestEdit.Console

/-!
# Texts that have bytes

Letters are encoded exactly where every half of a surrogate pair among them has a byte. So a whole
text has bytes, and the console prints a text where it prints its halves; what has bytes it prints.
-/

namespace ManifestEdit

namespace Utf8

theorem exists_encodeFrom_iff (byte? : Fin 0x800 → Option UInt8) (place : Nat)
    (ls : List Letter) :
    (∃ bytes, encodeFrom byte? place ls = .ok bytes) ↔
      ∀ half, .half half ∈ ls → (byte? half).isSome = true := by
  induction ls generalizing place with
  | nil => simp [encodeFrom]
  | cons l rest ih =>
    have hrest := ih (place + 1)
    cases l with
    | char c =>
      rw [encodeFrom]
      cases h : encodeFrom byte? (place + 1) rest with
      | ok bytes => simpa [h] using hrest
      | error u => simpa [h] using hrest
    | half offset =>
      rw [encodeFrom]
      cases hbyte : byte? offset with
      | none =>
        constructor
        · rintro ⟨bytes, h⟩
          cases h
        · intro h
          have hsome := h offset List.mem_cons_self
          rw [hbyte] at hsome
          cases hsome
      | some b =>
        have hsome : (byte? offset).isSome = true := by
          rw [hbyte]
          rfl
        cases h : encodeFrom byte? (place + 1) rest with
        | ok bytes => simpa [h, hsome] using hrest
        | error u => simpa [h, hsome] using hrest

theorem exists_encodeText_iff {t : Text} :
    (∃ bytes, encodeText t = .ok bytes) ↔ t.isWhole = true := by
  rw [encodeText, exists_encodeFrom_iff, Text.isWhole, List.all_eq_true]
  constructor
  · intro h l hl
    cases l with
    | char c => rfl
    | half offset => cases h offset hl
  · intro h half hhalf
    cases h _ hhalf

theorem fault?_eq_none_iff {r : Except Unencodable (List UInt8)} :
    fault? r = none ↔ ∃ bytes, r = .ok bytes := by
  cases r <;> simp [fault?]

end Utf8

namespace Console

variable [Glyphs] {s t : Text}

theorem refused?_eq_none_iff :
    refused? t = none ↔ ∀ half, .half half ∈ t.letters → Glyphs.prints half = true := by
  rw [refused?, Utf8.fault?_eq_none_iff, Utf8.exists_encodeFrom_iff]
  refine forall₂_congr fun half _ => ?_
  cases Glyphs.prints half <;> simp

theorem refused?_append :
    refused? (s ++ t) = none ↔ refused? s = none ∧ refused? t = none := by
  simp only [refused?_eq_none_iff, Text.letters_append, List.mem_append, or_imp, forall_and]

theorem refused?_of_isWhole (h : t.isWhole = true) : refused? t = none := by
  refine refused?_eq_none_iff.2 fun half hhalf => ?_
  have hwhole := List.all_eq_true.1 h _ hhalf
  cases hwhole

theorem refused?_ofString (s : String) : refused? (s : Text) = none :=
  refused?_of_isWhole (Text.isWhole_ofString s)

end Console

end ManifestEdit
