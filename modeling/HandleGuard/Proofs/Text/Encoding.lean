import HandleGuard.Text.Utf8
import HandleGuard.Proofs.Lists

/-!
# Text as bytes, read back

The bytes of a text are read as its characters, and nothing else: no byte of a character is taken for
the start of another one, and none for ill-formed. And bytes that are read as characters only are the
bytes of a text.
-/

namespace HandleGuard.Utf8

/-- The symbols of encoded characters, from where the encoding of `cs` begins. -/
private theorem symbolsFrom_utf8Encode (before cs : List Char) :
    symbolsFrom (before ++ cs).utf8Encode before.utf8Encode.size = cs.map some := by
  induction cs generalizing before with
  | nil =>
    rw [symbolsFrom, List.append_nil, if_neg (Nat.lt_irrefl _)]
    rfl
  | cons c cs ih =>
    have hchar : [c].utf8Encode.size = c.utf8Size := by
      rw [List.utf8Encode_singleton, List.size_toByteArray, String.length_utf8EncodeChar]
    have hcut : (before ++ c :: cs).utf8Encode = before.utf8Encode ++ (c :: cs).utf8Encode :=
      List.utf8Encode_append
    have hlt : before.utf8Encode.size < (before ++ c :: cs).utf8Encode.size := by
      have hpos := c.utf8Size_pos
      rw [hcut, List.utf8Encode_cons, ByteArray.size_append, ByteArray.size_append, hchar]
      omega
    have hdecode : (before ++ c :: cs).utf8Encode.utf8DecodeChar? before.utf8Encode.size =
        some c := by
      rw [ByteArray.utf8DecodeChar?_eq_utf8DecodeChar?_extract, hcut,
        ByteArray.extract_append_eq_right rfl ByteArray.size_append,
        List.utf8DecodeChar?_utf8Encode_cons]
    have hnext : before.utf8Encode.size + c.utf8Size = (before ++ [c]).utf8Encode.size := by
      rw [List.utf8Encode_append, ByteArray.size_append, hchar]
    rw [symbolsFrom, if_pos hlt, hdecode]
    dsimp only
    rw [hnext, List.append_cons, ih, List.map_cons]

theorem symbols_toUTF8 (s : String) : symbols s.toUTF8 = s.toList.map some := by
  have h := symbolsFrom_utf8Encode [] s.toList
  rwa [List.nil_append, String.utf8Encode_toList, List.utf8Encode_nil] at h

/-! ### Which bytes are text -/

theorem text?_eq_some_iff {s : List Symbol} {cs : List Char} :
    text? s = some cs ↔ s = cs.map some := by
  constructor
  · intro h
    induction s generalizing cs with
    | nil =>
      cases h
      rfl
    | cons x s ih =>
      obtain ⟨c, hx, hs⟩ := Option.bind_eq_some_iff.mp (List.mapM_cons.symm.trans h)
      obtain ⟨rest, hrest, hcons⟩ := Option.bind_eq_some_iff.mp hs
      cases hcons
      rw [List.map_cons, ← ih hrest]
      exact congrArg (· :: s) hx
  · rintro rfl
    exact List.mapM_map_some (f := id) (fun _ => rfl) cs

/-- Bytes that are read as characters only encode these characters. -/
private theorem extract_of_symbolsFrom {b : ByteArray} {i : Nat} {cs : List Char}
    (h : symbolsFrom b i = cs.map some) : b.extract i b.size = cs.utf8Encode := by
  induction cs generalizing i with
  | nil =>
    have hend : b.size ≤ i := by
      rw [symbolsFrom] at h
      split at h
      · split at h <;> cases h
      · omega
    rw [ByteArray.extract_eq_empty_iff.mpr (by omega), List.utf8Encode_nil]
  | cons c cs ih =>
    rw [symbolsFrom] at h
    split at h
    · split at h
      · rename_i c' hdecode
        obtain ⟨hc, htail⟩ := List.cons.inj h
        cases hc
        -- The bytes from here on are those of the character and those after it.
        have hrest : (b.extract i b.size).extract c.utf8Size (b.extract i b.size).size =
            b.extract (i + c.utf8Size) b.size := by
          rw [ByteArray.extract_extract, ByteArray.size_extract]
          congr 1
          omega
        rw [ByteArray.utf8DecodeChar?_eq_utf8DecodeChar?_extract] at hdecode
        rw [ByteArray.eq_of_utf8DecodeChar?_eq_some hdecode, hrest, ih htail, List.utf8Encode_cons,
          List.utf8Encode_singleton]
      · cases (List.cons.inj h).1
    · cases h

/-- Bytes are read as the text that they encode, and not at all when they encode none. -/
theorem decode?_eq_some_iff {b : ByteArray} {s : String} : decode? b = some s ↔ b = s.toUTF8 := by
  rw [decode?, Option.map_eq_some_iff]
  constructor
  · rintro ⟨cs, htext, rfl⟩
    have hbytes := extract_of_symbolsFrom (text?_eq_some_iff.mp htext)
    rw [ByteArray.extract_zero_size] at hbytes
    rw [hbytes, String.toUTF8_eq_toByteArray, String.toByteArray_ofList]
  · rintro rfl
    exact ⟨s.toList, text?_eq_some_iff.mpr (symbols_toUTF8 s), String.ofList_toList⟩

end HandleGuard.Utf8
