import HandleGuard.Proofs.Json.Lexing
import HandleGuard.Proofs.Text.Encoding

/-!
# Reading what is spelled

The reader takes the tokens of a value and then has the value, whatever stack it started on. The
grammar is followed rule by rule: for each there are tokens that the lexer finds in the spelling and
that take the reader from before the value to after it.

* `Json.Document.parse_toUTF8`   the bytes of a spelling are read as the document it spells
-/

namespace HandleGuard.Json

variable {ts ts' : List Token}

namespace Reading

theorem run_append (r : Reading) (ts ts' : List Token) :
    r.run (ts ++ ts') = (r.run ts).bind (·.run ts') := by
  induction ts generalizing r with
  | nil => rfl
  | cons t ts ih =>
    rw [List.cons_append, run, run]
    cases r.step t with
    | none => rfl
    | some r => exact ih r

theorem run_cons {r r' : Reading} {t : Token} (h : r.step t = some r') (ts : List Token) :
    r.run (t :: ts) = r'.run ts := by
  rw [run, h]

/-- The tokens of a value. -/
def Reads (ts : List Token) (d : Document) : Prop :=
  ∀ stack, (value stack).run ts = some (after d stack)

/-- The tokens of the items of an array, after the items `done`, of which the latest is first. -/
def ReadsItems (ts : List Token) (items : List Document) : Prop :=
  ∀ done stack, (value (.array done :: stack)).run (ts ++ [.endArray]) =
    some (after (.array (done.reverse ++ items)) stack)

/-- The tokens of a field. -/
def ReadsField (ts : List Token) (f : Option String × Document) : Prop :=
  ∀ done stack, (key done stack).run ts = some (after f.2 (.object done f.1 :: stack))

/-- The tokens of the fields of an object, after the fields `done`, of which the latest is first. -/
def ReadsFields (ts : List Token) (fields : List (Option String × Document)) : Prop :=
  ∀ done stack, (key done stack).run (ts ++ [.endObject]) =
    some (after (.object (done.reverse ++ fields)) stack)

theorem Reads.lastItem {d : Document} (h : Reads ts d) : ReadsItems ts [d] := by
  intro done stack
  rw [run_append, h, Option.bind_some, run_cons rfl, run, List.reverse_cons]

theorem Reads.item {d : Document} {ds : List Document} (h : Reads ts d)
    (hrest : ReadsItems ts' ds) : ReadsItems (ts ++ .comma :: ts') (d :: ds) := by
  intro done stack
  rw [List.append_assoc, run_append, h, Option.bind_some, List.cons_append, run_cons rfl, hrest,
    List.reverse_cons, List.append_assoc, List.singleton_append]

/-- An array does not end before its first item. -/
theorem ReadsItems.reads {ds : List Document} (h : ReadsItems ts ds) :
    Reads (.beginArray :: (ts ++ [.endArray])) (.array ds) := by
  intro stack
  have hitems := h [] stack
  rw [List.reverse_nil, List.nil_append] at hitems
  have hbegin : (value stack).step .beginArray = some (.firstItem stack) := rfl
  rw [run_cons hbegin, ← hitems]
  cases ts with
  | nil =>
    rw [List.nil_append, run] at hitems
    cases hitems
  | cons t ts =>
    rw [List.cons_append, run, run]
    rw [List.cons_append, run] at hitems
    cases t with
    | endArray => cases hitems
    | _ => rfl

theorem ReadsField.lastField {f : Option String × Document} (h : ReadsField ts f) :
    ReadsFields ts [f] := by
  intro done stack
  rw [run_append, h, Option.bind_some, run_cons rfl, run, List.reverse_cons]

theorem ReadsField.field {f : Option String × Document} {fs : List (Option String × Document)}
    (h : ReadsField ts f) (hrest : ReadsFields ts' fs) :
    ReadsFields (ts ++ .comma :: ts') (f :: fs) := by
  intro done stack
  rw [List.append_assoc, run_append, h, Option.bind_some, List.cons_append, run_cons rfl, hrest,
    List.reverse_cons, List.append_assoc, List.singleton_append]

/-- An object does not end before its first key. -/
theorem ReadsFields.reads {fs : List (Option String × Document)} (h : ReadsFields ts fs) :
    Reads (.beginObject :: (ts ++ [.endObject])) (.object fs) := by
  intro stack
  have hfields := h [] stack
  rw [List.reverse_nil, List.nil_append] at hfields
  have hbegin : (value stack).step .beginObject = some (.firstKey stack) := rfl
  rw [run_cons hbegin, ← hfields]
  cases ts with
  | nil =>
    rw [List.nil_append, run] at hfields
    cases hfields
  | cons t ts =>
    rw [List.cons_append, run, run]
    rw [List.cons_append, run] at hfields
    cases t with
    | text => rfl
    | _ => cases hfields

theorem Reads.ofField {d : Document} (h : Reads ts d) (k : String) :
    ReadsField (.text k :: .colon :: ts) (k, d) := by
  intro done stack
  rw [run_cons rfl, run_cons rfl, h]

end Reading

open Reading

mutual

theorem ValueSpelling.read : ∀ {d : Document} {cs : List Char}, ValueSpelling d cs →
    ∃ ts, LexesBefore cs ts ∧ Reads ts d
  | _, _, .null => ⟨[.null], lexes_null.before, fun _ => rfl⟩
  | _, _, .bool => ⟨[.bool _], (lexes_bool _).before, fun _ => rfl⟩
  | _, _, .number h => ⟨[.number _], h.lexesBefore, fun _ => rfl⟩
  | _, _, .text h => ⟨[.text _], h.lexes.before, fun _ => rfl⟩
  | _, _, .emptyArray h =>
    ⟨[.beginArray, .endArray], h.lexes.before.enclosed (by decide) (by decide), fun _ => rfl⟩
  | _, _, .array h => by
    obtain ⟨ts, hlex, hread⟩ := h.read
    exact ⟨_, hlex.enclosed (by decide) (by decide), hread.reads⟩
  | _, _, .emptyObject h =>
    ⟨[.beginObject, .endObject], h.lexes.before.enclosed (by decide) (by decide), fun _ => rfl⟩
  | _, _, .object h => by
    obtain ⟨ts, hlex, hread⟩ := h.read
    exact ⟨_, hlex.enclosed (by decide) (by decide), hread.reads⟩

theorem Spelling.read : ∀ {d : Document} {cs : List Char}, Spelling d cs →
    ∃ ts, LexesBefore cs ts ∧ Reads ts d
  | _, _, .padded hbefore h hafter => by
    obtain ⟨ts, hlex, hread⟩ := h.read
    refine ⟨ts, ?_, hread⟩
    have hpadded := hbefore.lexes.append (hlex.append hafter.stops hafter.lexes.before)
    rwa [List.nil_append, List.append_nil] at hpadded

theorem ItemsSpelling.read : ∀ {ds : List Document} {cs : List Char}, ItemsSpelling ds cs →
    ∃ ts, LexesBefore cs ts ∧ ReadsItems ts ds
  | _, _, .last h => by
    obtain ⟨ts, hlex, hread⟩ := h.read
    exact ⟨ts, hlex, hread.lastItem⟩
  | _, _, .cons h hrest => by
    obtain ⟨ts, hlex, hread⟩ := h.read
    obtain ⟨ts', hlex', hread'⟩ := hrest.read
    exact ⟨_, hlex.joined (by decide) hlex', hread.item hread'⟩

theorem FieldSpelling.read : ∀ {f : Option String × Document} {cs : List Char},
    FieldSpelling f cs → ∃ ts, LexesBefore cs ts ∧ ReadsField ts f
  | _, _, @FieldSpelling.pair k _ _ _ gap cs hbefore hkey hgap h => by
    obtain ⟨ts, hlex, hread⟩ := h.read
    refine ⟨.text k :: .colon :: ts, ?_, hread.ofField k⟩
    have hvalue : LexesBefore (gap ++ ':' :: cs) (.colon :: ts) :=
      hgap.lexes.before.joined (by decide) hlex
    exact hbefore.lexes.append (hkey.lexes.append hvalue)

theorem FieldsSpelling.read : ∀ {fs : List (Option String × Document)} {cs : List Char},
    FieldsSpelling fs cs → ∃ ts, LexesBefore cs ts ∧ ReadsFields ts fs
  | _, _, .last h => by
    obtain ⟨ts, hlex, hread⟩ := h.read
    exact ⟨ts, hlex, hread.lastField⟩
  | _, _, .cons h hrest => by
    obtain ⟨ts, hlex, hread⟩ := h.read
    obtain ⟨ts', hlex', hread'⟩ := hrest.read
    exact ⟨_, hlex.joined (by decide) hlex', hread.field hread'⟩

end

/-- The bytes of a spelling are read as the document that it spells. -/
theorem Document.parse_toUTF8 {d : Document} {s : String} (h : Spelling d s.toList) :
    Document.parse s.toUTF8 = some d := by
  obtain ⟨ts, hlex, hread⟩ := h.read
  have htokens : tokens (s.toList.map some) = some ts := by
    have hall := hlex [] (by rintro c hc; cases hc)
    rwa [List.append_nil, tokens, Option.map_eq_map, Option.map_some, List.append_nil] at hall
  rw [parse, Utf8.symbols_toUTF8, ofSymbols?, htokens, Option.bind_eq_bind, Option.bind_some,
    ofTokens?, hread]

end HandleGuard.Json
