import HandleGuard.Proofs.Json.Records
import HandleGuard.Proofs.Json.RoundTrip
import HandleGuard.Trace
import Mathlib.Data.List.Forall2

/-!
# Texts of traces

Which documents say that a trace has given operations. The fields of an operation and of the trace
may stand in any order and among others; the kind of an operation is a field like the rest. What is
not bound and what has no arguments may be left out. Together with the spellings of a document these
are the texts of a trace, and the trace is read from each of them.

* `TraceOp.Record`, `Trace.Record`   the documents of an operation and of a trace
* `Trace.parse_text`                 the operations are read back
-/

namespace HandleGuard

open Json (Document)

/-! ### References -/

namespace HandleRef

/-- A handle is written as its number, and a name as a string. -/
def toDocument : HandleRef → Document
  | raw h => h.toJson.toDocument
  | name s => .text (some s)

theorem ofDocument?_toDocument (r : HandleRef) : ofDocument? r.toDocument = some r := by
  cases r with
  | raw h =>
    have hread := Document.handle?_toJson h
    rw [Handle.toJson, wordJson, Json.toDocument] at hread
    rw [toDocument, Handle.toJson, wordJson, Json.toDocument, ofDocument?, hread]
    rfl
    · simp
  | name s => rfl

end HandleRef

namespace Json.Document

theorem int?_toInt (i : Int64) : (Json.int i.toInt).toDocument.int? = some i := by
  have hlow : -(Numeral.signedLimit : Int) ≤ i.toInt := i.le_toInt
  have hhigh : i.toInt < Numeral.signedLimit := i.toInt_lt
  have hword : (Numeral.signedLimit : Int) < Numeral.wordLimit := by decide
  rw [toDocument, int?, Number.integer?_toDigits hlow (Int.lt_trans hhigh hword)]
  exact (if_pos hhigh).trans (congrArg some i.ofInt_toInt)

/-- A whole number of a word's size can be held everywhere. -/
theorem isHeld_int {room : Nat} {i : Int} (hlow : -(Numeral.signedLimit : Int) ≤ i)
    (hhigh : i < Numeral.wordLimit) : isHeld room (Json.int i).toDocument := by
  rw [toDocument, isHeld, Number.integer?_toDigits hlow hhigh]
  rfl

theorem isHeld_ofNat {room n : Nat} (h : n < Numeral.wordLimit) :
    isHeld room (Json.int n).toDocument :=
  isHeld_int (by simp only [Numeral.signedLimit]; omega) (Int.ofNat_lt.mpr h)

end Json.Document

theorem HandleRef.isHeld_toDocument (r : HandleRef) {room : Nat} : r.toDocument.isHeld room := by
  cases r with
  | raw h => exact Document.isHeld_ofNat h.raw.toNat_lt
  | name s => rfl

/-! ### Operations -/

namespace TraceOp

/-- The fields of an operation besides its kind. -/
def fieldNames : TraceOp → List String
  | fromInt .. => ["value", "as"]
  | dup .. => ["handle", "as"]
  | close _ | asInt _ | rawUnwrap _ | rawClose _ => ["handle"]
  | same .. => ["a", "b"]
  | invoke .. => ["code", "args", "as"]
  | newGeneration => []

/-- Nothing bound may be said or left out. -/
inductive Binding : Option String → List (String × Document) → Prop where
  | omitted : Binding none []
  | null : Binding none [("as", .null)]
  | name {s : String} : Binding (some s) [("as", .text (some s))]

/-- An empty list of arguments may be left out. -/
inductive Arguments : List HandleRef → List (String × Document) → Prop where
  | omitted : Arguments [] []
  | list {args : List HandleRef} :
    Arguments args [("args", .array (args.map HandleRef.toDocument))]

/-- What the fields of an operation hold. -/
inductive Fields : TraceOp → List (String × Document) → Prop where
  | fromInt {value : Int64} {bind : Option String} {bound : List (String × Document)}
    (h : Binding bind bound) :
    Fields (.fromInt value bind) (("value", (Json.int value.toInt).toDocument) :: bound)
  | dup {handle : HandleRef} {bind : Option String} {bound : List (String × Document)}
    (h : Binding bind bound) : Fields (.dup handle bind) (("handle", handle.toDocument) :: bound)
  | close {handle : HandleRef} : Fields (.close handle) [("handle", handle.toDocument)]
  | asInt {handle : HandleRef} : Fields (.asInt handle) [("handle", handle.toDocument)]
  | same {a b : HandleRef} : Fields (.same a b) [("a", a.toDocument), ("b", b.toDocument)]
  | invoke {op : OpId} {args : List HandleRef} {bind : Option String}
    {listed bound : List (String × Document)} (hargs : Arguments args listed)
    (h : Binding bind bound) :
    Fields (.invoke op args bind) (("code", op.toJson.toDocument) :: (listed ++ bound))
  | newGeneration : Fields .newGeneration []
  | rawUnwrap {handle : HandleRef} : Fields (.rawUnwrap handle) [("handle", handle.toDocument)]
  | rawClose {handle : HandleRef} : Fields (.rawClose handle) [("handle", handle.toDocument)]

/-- Nesting that a field of an operation may have. -/
def fieldNesting : Nat := nestingLimit - nestingAround - 1

/-- The documents of an operation. Fields that it does not have must be fit to be held. -/
inductive Record (op : TraceOp) (d : Document) : Prop where
  | tagged {known : List (String × Document)} (hknown : Fields op known)
    (hd : Document.Record (Document.isHeld fieldNesting ·) ("op" :: op.fieldNames)
      (("op", .text (some op.name)) :: known) d) : Record op d

variable {Allowed : Document → Prop} {op : TraceOp} {known : List (String × Document)}
  {d : Document}

theorem Binding.optional?_lookup {bind : Option String} {bound : List (String × Document)}
    (h : Binding bind bound) :
    Document.optional? Document.string? (bound.lookup "as") = some bind := by
  cases h <;> rfl

theorem Fields.nodup (h : Fields op known) : ("op" :: known.map Prod.fst).Nodup := by
  cases h with
  | fromInt h => cases h <;> simp
  | dup h => cases h <;> simp
  | invoke hargs h => cases hargs <;> cases h <;> simp
  | _ => simp

theorem Binding.lookup_args {bind : Option String} {bound : List (String × Document)}
    (h : Binding bind bound) : bound.lookup "args" = none := by
  cases h <;> rfl

/-- The fields of an operation are read by its kind. -/
theorem Fields.ofFields?_eq (h : Fields op known)
    (hd : Document.Record Allowed op.fieldNames known d) : ofFields? op.name d = some op := by
  have hread := hd.record?_eq (List.nodup_cons.mp h.nodup).2
  have href := HandleRef.ofDocument?_toDocument
  cases h with
  | fromInt h =>
    rename_i value bind bound
    have hvalue := Document.int?_toInt value
    have hbound := h.optional?_lookup
    simp only [fieldNames, List.map_cons, List.map_nil] at hread
    simp [name, ofFields?, hread, List.lookup_cons, Document.required?, hvalue, hbound]
  | dup h =>
    have hbound := h.optional?_lookup
    simp only [fieldNames, List.map_cons, List.map_nil] at hread
    simp [name, ofFields?, hread, List.lookup_cons, Document.required?, href, hbound]
  | invoke hargs h =>
    rename_i op args bind listed bound
    have hop := Document.opId?_toJson op
    have hnone := h.lookup_args
    have hbound := h.optional?_lookup
    have hlist : (Document.array (args.map HandleRef.toDocument)).list? HandleRef.ofDocument? =
        some args := List.mapM_map_some href args
    simp only [fieldNames, List.map_cons, List.map_nil] at hread
    cases hargs with
    | omitted =>
      simp [name, ofFields?, hread, List.lookup_cons, Document.required?, hop, hnone, hbound]
    | list =>
      simp [name, ofFields?, hread, List.lookup_cons, Document.required?, hop, hlist, hbound]
  | same =>
    simp only [fieldNames, List.map_cons, List.map_nil] at hread
    simp [name, ofFields?, hread, List.lookup_cons, Document.required?, href]
  | newGeneration =>
    simp only [fieldNames, List.map_nil] at hread
    simp [name, ofFields?, hread]
  | close | asInt | rawUnwrap | rawClose =>
    simp only [fieldNames, List.map_cons, List.map_nil] at hread
    simp [name, ofFields?, hread, Document.required?, href]

/-! ### Reading operations -/

theorem Binding.isHeld {room : Nat} {bind : Option String} {bound : List (String × Document)}
    (h : Binding bind bound) : ∀ f ∈ bound, f.2.isHeld room := by
  cases h <;> simp [Document.isHeld]

/-- The fields that an operation has are fit to be held: their numbers fit a word, and a list of
references is the deepest of them. -/
theorem Fields.isHeld (h : Fields op known) : ∀ f ∈ known, f.2.isHeld fieldNesting := by
  have href (r : HandleRef) (room : Nat) : r.toDocument.isHeld room := r.isHeld_toDocument
  cases h with
  | fromInt h =>
    rename_i value bind bound
    have hvalue : (Json.int value.toInt).toDocument.isHeld fieldNesting :=
      Document.isHeld_int value.le_toInt (Int.lt_trans value.toInt_lt (by decide))
    exact List.forall_mem_cons.mpr ⟨hvalue, h.isHeld⟩
  | dup h => exact List.forall_mem_cons.mpr ⟨href _ _, h.isHeld⟩
  | invoke hargs h =>
    rename_i op args bind listed bound
    have hop : op.toJson.toDocument.isHeld fieldNesting :=
      Document.isHeld_ofNat (Nat.lt_trans op.code.toNat_lt (by decide))
    have hlisted : ∀ f ∈ listed, f.2.isHeld fieldNesting := by
      cases hargs with
      | omitted => exact List.forall_mem_nil _
      | list =>
        rw [List.forall_mem_singleton, Document.isHeld, Bool.and_eq_true, Document.areHeld_iff,
          List.forall_mem_map]
        exact ⟨rfl, fun r _ => href r _⟩
    exact List.forall_mem_cons.mpr ⟨hop, List.forall_mem_append.mpr ⟨hlisted, h.isHeld⟩⟩
  | same => simp [href]
  | newGeneration => exact List.forall_mem_nil _
  | close | asInt | rawUnwrap | rawClose => simp [href]

/-- An operation is read from each of its documents. -/
theorem Record.ofDocument?_eq (h : Record op d) : ofDocument? d = some op := by
  obtain ⟨hknown, hd⟩ := h
  have hheld : d.isHeld (nestingLimit - nestingAround) :=
    hd.isHeld (List.forall_mem_cons.mpr ⟨rfl, hknown.isHeld⟩)
  obtain ⟨fields, rfl, htag, hrest⟩ := hd.untag (List.nodup_cons.mp hknown.nodup).1
  rw [ofDocument?, if_pos hheld]
  simp only [htag]
  exact hknown.ofFields?_eq hrest

end TraceOp

/-! ### Traces -/

/-- The documents of a trace. -/
inductive Trace.Record (version : String) (ops : List TraceOp) (d : Document) : Prop where
  | versioned {ds : List Document} (hops : List.Forall₂ TraceOp.Record ops ds)
    (hd : Document.Record (fun _ => True) ["schema_version", "ops"]
      [("schema_version", .text (some version)), ("ops", .array ds)] d) : Record version ops d

theorem TraceOp.mapM_ofDocument? {ops : List TraceOp} {ds : List Document}
    (h : List.Forall₂ TraceOp.Record ops ds) : ds.mapM TraceOp.ofDocument? = some ops := by
  induction h with
  | nil => rfl
  | cons hop _ ih =>
    rw [List.mapM_cons, hop.ofDocument?_eq, ih]
    rfl

theorem Trace.Record.ofDocument?_eq {version : String} {ops : List TraceOp} {d : Document}
    (h : Trace.Record version ops d) : Trace.ofDocument? d = some (version, ⟨ops⟩) := by
  obtain ⟨hops, hd⟩ := h
  rename_i ds
  have hread := hd.record?_eq (by simp)
  have hlist : (Document.array ds).list? TraceOp.ofDocument? = some ops :=
    TraceOp.mapM_ofDocument? hops
  simp only [List.map_cons, List.map_nil] at hread
  simp [Trace.ofDocument?, hread, List.lookup_cons, Document.required?, hlist, Document.string?]

/-- Whatever spelling a trace has, its operations are read back if it has the right version, and
the text is refused for its version if not. -/
theorem Trace.parse_text {version : String} {ops : List TraceOp} {d : Document} {s : String}
    (hd : Trace.Record version ops d) (hs : Json.Spelling d s.toList) :
    Trace.parse s.toUTF8 = if version = Schema.trace then .ok ⟨ops⟩ else
      .error (.unsupportedVersion version) := by
  rw [Trace.parse, Document.parse_toUTF8 hs, Option.bind_some, hd.ofDocument?_eq]

/-- The operations stand before the version and the kind behind the fields, nothing bound is null,
a note is skipped, and the first letter of the version is escaped. -/
theorem Trace.parse_text_kind_last :
    ∃ d text, text = " \x7b\"ops\":[\x7b\"handle\":\"é\\\"\",\"as\":null,\"note\":[1]," ++
        "\"op\":\"dup\"\x7d],\n\"schema_version\" : \"\\u0068debug.trace@0.1.0\"\x7d" ∧
      Trace.Record Schema.trace [.dup (.name "é\"") none] d ∧ Json.Spelling d text.toList ∧
      Trace.parse text.toUTF8 = .ok ⟨[.dup (.name "é\"") none]⟩ := by
  have hop : TraceOp.Record (.dup (.name "é\"") none) (.ofFields [("handle", .text "é\""),
      ("as", .null), ("note", .array [(Json.int 1).toDocument]), ("op", .text "dup")]) :=
    .tagged (.dup .null) (.fields (List.forall_mem_singleton.mpr ⟨by decide, rfl⟩)
      (List.perm_append_singleton _ [_, _, _]))
  have htrace : Trace.Record Schema.trace [.dup (.name "é\"") none]
      (.ofFields [("ops", .array [_]), ("schema_version", .text Schema.trace)]) :=
    .versioned (.cons hop .nil) (.fields (List.forall_mem_nil _) (.swap _ _ []))
  have hops := Json.valueSpelling_compactChars (.array [.object [("handle", .text "é\""),
    ("as", .null), ("note", .array [.int 1]), ("op", .text "dup")]])
  have hversion : Json.StringSpelling Schema.trace _ :=
    .quoted (.cons (.unit (.digits (Json.hexDigit_digitChar (v := 0) (by decide))
      (Json.hexDigit_digitChar (v := 0) (by decide)) (Json.hexDigit_digitChar (v := 6) (by decide))
      (Json.hexDigit_digitChar (v := 8) (by decide))))
      (Json.charsSpelling_flatMap "debug.trace@0.1.0".toList))
  have hspace : Json.Blank [' '] := by simp [Json.Blank]
  have hnewline : Json.Blank ['\n'] := by simp [Json.Blank]
  have hspelling := Json.Spelling.padded hspace (.object (.cons
    (Json.fieldSpelling_compact "ops" hops) (.last (.pair hnewline
      (Json.stringSpelling_textChars "schema_version") hspace
        (.padded hspace (.text hversion) .nil))))) .nil
  refine ⟨_, _, rfl, htrace, hspelling, ?_⟩
  exact Trace.parse_text htrace hspelling

end HandleGuard
