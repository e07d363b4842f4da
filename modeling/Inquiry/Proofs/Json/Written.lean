import Inquiry.Json.Writing
import Inquiry.Proofs.Json.Grammar

/-! What is written is strict JSON. -/
namespace Inquiry.Json

theorem hexValue_hexDigit : ∀ n < 16, hexValue? (hexDigit n) = some n := by decide

theorem isUnit_control {c : Char} (control : c.toNat < 0x20) :
    IsUnit ['0', '0', hexDigit (c.toNat / 16), hexDigit (c.toNat % 16)] c.toNat := by
  refine ⟨_, _, _, _, rfl, 0, 0, c.toNat / 16, c.toNat % 16, rfl, rfl, ?_, ?_, ?_⟩
  · exact hexValue_hexDigit _ (by omega)
  · exact hexValue_hexDigit _ (by omega)
  · omega

/-- A character stands for itself, has a letter, or is written as a unit. -/
theorem escaped_cases (c : Char) :
    (0x20 ≤ c.toNat ∧ c ≠ '"' ∧ c ≠ '\\') ∧ escaped c = [c] ∨
    (∃ letter, (letter, c) ∈ escapeLetters ∧ escaped c = ['\\', letter]) ∨
    ∃ digits, IsUnit digits c.toNat ∧ escaped c = '\\' :: 'u' :: digits := by
  unfold escaped
  by_cases quote : c = '"'
  · rw [if_pos quote]
    exact .inr (.inl ⟨'"', by rw [quote]; decide, rfl⟩)
  rw [if_neg quote]
  by_cases backslash : c = '\\'
  · rw [if_pos backslash]
    exact .inr (.inl ⟨'\\', by rw [backslash]; decide, rfl⟩)
  rw [if_neg backslash]
  by_cases visible : 0x20 ≤ c.toNat
  · rw [if_pos visible]
    exact .inl ⟨⟨visible, quote, backslash⟩, rfl⟩
  rw [if_neg visible]
  by_cases back : c = '\x08'
  · rw [if_pos back]
    exact .inr (.inl ⟨'b', by rw [back]; decide, rfl⟩)
  rw [if_neg back]
  by_cases tab : c = '\t'
  · rw [if_pos tab]
    exact .inr (.inl ⟨'t', by rw [tab]; decide, rfl⟩)
  rw [if_neg tab]
  by_cases feed : c = '\n'
  · rw [if_pos feed]
    exact .inr (.inl ⟨'n', by rw [feed]; decide, rfl⟩)
  rw [if_neg feed]
  by_cases form : c = '\x0c'
  · rw [if_pos form]
    exact .inr (.inl ⟨'f', by rw [form]; decide, rfl⟩)
  rw [if_neg form]
  by_cases carriage : c = '\r'
  · rw [if_pos carriage]
    exact .inr (.inl ⟨'r', by rw [carriage]; decide, rfl⟩)
  rw [if_neg carriage]
  exact .inr (.inr ⟨_, isUnit_control (Nat.lt_of_not_le visible), rfl⟩)

theorem spells_escaped (text : List Char) : Spells '"' text (text.flatMap escaped) := by
  induction text with
  | nil => exact .nil
  | cons c rest ih =>
    rw [List.flatMap_cons]
    rcases escaped_cases c with ⟨⟨visible, inside, unescaped⟩, same⟩ | ⟨letter, listed, same⟩ |
      ⟨digits, meant, same⟩
    · rw [same]
      exact .plain visible inside unescaped ih
    · rw [same]
      exact .escape listed ih
    · rw [same]
      exact .unit meant ih

theorem spells_plain {mark : Char} {text : List Char}
    (plain : ∀ c ∈ text, 0x20 ≤ c.toNat ∧ c ≠ mark ∧ c ≠ '\\') : Spells mark text text := by
  induction text with
  | nil => exact .nil
  | cons c rest ih =>
    obtain ⟨visible, inside, unescaped⟩ := plain c List.mem_cons_self
    exact .plain visible inside unescaped (ih fun d member => plain d (List.mem_cons_of_mem _ member))

/-- A key that needs no escapes. -/
theorem Label.plain {dialect : Dialect} (name : String) {before : List Char} (blank : IsGap before)
    (plain : ∀ c ∈ name.toList, 0x20 ≤ c.toNat ∧ c ≠ '"' ∧ c ≠ '\\') :
    Label dialect name (before ++ '"' :: (name.toList ++ ['"', ':'])) := by
  have label := @Label.intro dialect name before _ [] blank gap_nil
    (.quoted (.double (spells_plain plain)))
  simpa using label

theorem Prints.spaced {dialect : Dialect} {value : Json} {text : List Char}
    (inner : Prints dialect (.value value) text) : Prints dialect (.member value) (' ' :: text) := by
  have member := @Prints.member dialect value [' '] text [] gap_space gap_nil (.plain inner)
  simpa using member

end Inquiry.Json
