import HandleGuard.Json
import HandleGuard.Proofs.Json.Reading

/-!
# What is written is read

A value that is written without any space is one of the spellings of its document, so its text is
read as that document.

* `Json.valueSpelling_compactChars`   what is written is a spelling
* `Json.parse_compact`                what is written is read back
-/

namespace HandleGuard.Json

/-! ### Characters and digits -/

theorem hexDigit_digitChar {v : Nat} (h : v < 16) : HexDigit v.digitChar v := ⟨h, .inl rfl⟩

/-- A character is escaped by letter, escaped by number, or written as it is. -/
theorem charSpelling_escapeChar (c : Char) : CharSpelling c (escapeChar c) := by
  have hshort {letter c' : Char} (h : c = c') (hmem : (letter, c') ∈ shortEscapes) :
      CharSpelling c ['\\', letter] := h ▸ .short hmem
  have hnumber {n : Nat} (h : c.toNat = n) : c = Char.ofNat n := by rw [← h, Char.ofNat_toNat]
  unfold escapeChar
  split
  · exact hshort ‹c = '"'› (by decide)
  split
  · exact hshort ‹c = '\\'› (by decide)
  split
  · exact hshort ‹c = '\n'› (by decide)
  split
  · exact hshort ‹c = '\r'› (by decide)
  split
  · exact hshort ‹c = '\t'› (by decide)
  split
  · exact hshort (hnumber ‹c.toNat = 0x08›) (by decide)
  split
  · exact hshort (hnumber ‹c.toNat = 0x0c›) (by decide)
  split
  · rename_i hcontrol
    have hunit : UnitSpelling ((0 * 16 + 0) * 256 + (c.toNat / 16 * 16 + c.toNat % 16))
        (hexEscape c) :=
      .digits (hexDigit_digitChar (by omega)) (hexDigit_digitChar (by omega))
        (hexDigit_digitChar (by omega)) (hexDigit_digitChar (by omega))
    have hvalue : (0 * 16 + 0) * 256 + (c.toNat / 16 * 16 + c.toNat % 16) = c.toNat := by omega
    exact .unit (hvalue ▸ hunit)
  · rename_i hquote hbackslash _ _ _ _ _ hcontrol
    exact .plain hquote hbackslash (by omega)

theorem charsSpelling_flatMap (s : List Char) : CharsSpelling s (s.flatMap escapeChar) := by
  induction s with
  | nil => exact .nil
  | cons c s ih => exact .cons (charSpelling_escapeChar c) ih

theorem stringSpelling_textChars (s : String) : StringSpelling s (textChars s) :=
  .quoted (charsSpelling_flatMap s.toList)

/-- The first digit of a number other than zero is not zero. -/
theorem head?_toDigits_ne {n : Nat} (h : 0 < n) : (Nat.toDigits 10 n).head? ≠ some '0' := by
  induction n using Nat.strongRecOn with
  | ind n ih =>
    by_cases hlt : n < 10
    · rw [Nat.toDigits_of_lt_base hlt]
      have hdigits : ∀ k < 10, 0 < k → [k.digitChar].head? ≠ some '0' := by decide
      exact hdigits n hlt h
    · have hhead := ih (n / 10) (by omega) (by omega)
      rw [List.head?_eq_some_head Nat.toDigits_ne_nil] at hhead
      rwa [Nat.toDigits_of_base_le (by decide) (by omega), List.head?_append,
        List.head?_eq_some_head Nat.toDigits_ne_nil, Option.some_or]

theorem whole_toDigits (n : Nat) : Whole (Nat.toDigits 10 n) := by
  refine ⟨⟨Nat.toDigits_ne_nil, fun c hc => ?_⟩, fun h => ?_⟩
  · exact Nat.isDigit_of_mem_toDigits (by decide) (by decide) hc
  · obtain rfl | hn := n.eq_zero_or_pos
    · rfl
    · exact absurd h (head?_toDigits_ne hn)

theorem numberSpelling_intChars (i : Int) :
    NumberSpelling ⟨i < 0, Nat.toDigits 10 i.natAbs, [], none⟩ (intChars i) := by
  have h : NumberSpelling ⟨i < 0, Nat.toDigits 10 i.natAbs, [], none⟩ _ :=
    .parts (whole_toDigits i.natAbs) .absent .absent
  unfold intChars
  by_cases hi : i < 0
  · rw [if_pos hi]
    simpa only [hi, decide_true, if_true, List.append_nil, List.singleton_append] using h
  · rw [if_neg hi]
    simpa only [hi, decide_false, Bool.false_eq_true, if_false, List.append_nil, List.nil_append]
      using h

/-! ### Values -/

theorem Blank.nil : Blank [] := List.forall_mem_nil _

theorem ValueSpelling.spelling {d : Document} {cs : List Char} (h : ValueSpelling d cs) :
    Spelling d cs := by
  have hpadded : Spelling d ([] ++ (cs ++ [])) := .padded .nil h .nil
  rwa [List.nil_append, List.append_nil] at hpadded

theorem fieldSpelling_compact (key : String) {d : Document} {cs : List Char}
    (h : ValueSpelling d cs) : FieldSpelling (key, d) (textChars key ++ ':' :: cs) :=
  .pair .nil (stringSpelling_textChars key) .nil h.spelling

mutual

theorem valueSpelling_compactChars : ∀ j : Json, ValueSpelling j.toDocument j.compactChars
  | .null => .null
  | .bool b => by cases b <;> exact .bool
  | .int i => .number (numberSpelling_intChars i)
  | .text s => .text (stringSpelling_textChars s)
  | .array [] => .emptyArray .nil
  | .array (item :: items) =>
    .array (itemsSpelling_compactItems (item :: items) (List.cons_ne_nil item items))
  | .object [] => .emptyObject .nil
  | .object (field :: fields) =>
    .object (fieldsSpelling_compactFields (field :: fields) (List.cons_ne_nil field fields))

theorem itemsSpelling_compactItems : ∀ items : List Json, items ≠ [] →
    ItemsSpelling (itemsToDocuments items) (compactItems items)
  | [], h => absurd rfl h
  | [item], _ => .last (valueSpelling_compactChars item).spelling
  | item :: next :: items, _ =>
    .cons (valueSpelling_compactChars item).spelling
      (itemsSpelling_compactItems (next :: items) (List.cons_ne_nil next items))

theorem fieldsSpelling_compactFields : ∀ fields : List (String × Json), fields ≠ [] →
    FieldsSpelling (fieldsToDocuments fields) (compactFields fields)
  | [], h => absurd rfl h
  | [(key, value)], _ => .last (fieldSpelling_compact key (valueSpelling_compactChars value))
  | (key, value) :: next :: fields, _ =>
    .cons (fieldSpelling_compact key (valueSpelling_compactChars value))
      (fieldsSpelling_compactFields (next :: fields) (List.cons_ne_nil next fields))

end

/-- What is written is read back. -/
theorem parse_compact (j : Json) : Document.parse j.compact.toUTF8 = some j.toDocument := by
  apply Document.parse_toUTF8
  rw [compact, String.toList_ofList]
  exact (valueSpelling_compactChars j).spelling

end HandleGuard.Json
