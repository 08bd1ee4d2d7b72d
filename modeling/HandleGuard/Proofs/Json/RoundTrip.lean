import HandleGuard.Json.Forms
import HandleGuard.Proofs.Json.Compact
import HandleGuard.Proofs.Lists

/-!
# Written forms are read back

Diagnostics, leak reports and all their parts are written as JSON values. The document of such a
value is read as what was written, so with `Json.parse_compact` its text is, too. A text that came
from elsewhere may spell the same value in another way; once it was read and written again, nothing
changes any more.

* `Form.RoundTrips`             the law for one type
* `written_forms_round_trip`    it holds for every type that is both written and read
-/

namespace HandleGuard

open Json (Document)

/-! ### Numbers -/

namespace Json

theorem Number.integer?_toDigits {i : Int} (hlow : -(Numeral.signedLimit : Int) ≤ i)
    (hhigh : i < Numeral.wordLimit) :
    Number.integer? ⟨i < 0, Nat.toDigits 10 i.natAbs, [], none⟩ = some i := by
  have hdigits : Nat.ofDigitChars 10 (Nat.toDigits 10 i.natAbs) 0 = i.natAbs :=
    Nat.ofDigitChars_ten_toDigits
  simp only [integer?, and_self, if_true, hdigits, decide_eq_true_eq]
  split
  · rw [if_neg (by omega)]
    exact congrArg some (by omega)
  · rw [if_pos (by omega)]
    exact congrArg some (by omega)

/-- A number below the first one that no word holds. -/
theorem Number.integer?_of_lt {n : Nat} (h : n < Numeral.wordLimit) :
    Number.integer? ⟨(n : Int) < 0, Nat.toDigits 10 (n : Int).natAbs, [], none⟩ = some (n : Int) :=
  integer?_toDigits (by simp only [Numeral.signedLimit]; omega) (by omega)

namespace Document

theorem word?_wordJson (w : UInt64) : (wordJson w).toDocument.word? = some w := by
  have hlt : w.toNat < Numeral.wordLimit := w.toNat_lt
  simp only [wordJson, toDocument, word?, Number.integer?_of_lt hlt]
  exact congrArg some UInt64.ofNat_toNat

theorem handle?_toJson (h : Handle) : h.toJson.toDocument.handle? = some h := by
  rw [handle?, Handle.toJson, word?_wordJson]
  rfl

theorem contextId?_toJson (c : ContextId) : c.toJson.toDocument.contextId? = some c := by
  rw [contextId?, ContextId.toJson, word?_wordJson]
  rfl

theorem opId?_toJson (op : OpId) : op.toJson.toDocument.opId? = some op := by
  have hlt : op.code.toNat < Numeral.halfWordLimit := op.code.toNat_lt
  have hword : op.code.toNat < Numeral.wordLimit := Nat.lt_trans hlt (by decide)
  have hread : op.toJson.toDocument.halfWord? = some op.code := by
    simp only [OpId.toJson, toDocument, halfWord?, Number.integer?_of_lt hword]
    exact (if_pos hlt).trans (congrArg some UInt32.ofNat_toNat)
  rw [opId?, hread]
  rfl

theorem itemsToDocuments_eq_map (items : List Json) :
    itemsToDocuments items = items.map toDocument := by
  induction items with
  | nil => rfl
  | cons item items ih => rw [itemsToDocuments, ih, List.map_cons]

theorem list?_map {α : Type} {toJson : α → Json} {read : Document → Option α}
    (h : ∀ a, read (toJson a).toDocument = some a) (as : List α) :
    list? read (Json.array (as.map toJson)).toDocument = some as := by
  rw [toDocument, itemsToDocuments_eq_map, List.map_map]
  exact List.mapM_map_some h as

/-- A field that is left out when there is nothing to say. -/
theorem optional?_map {α : Type} {write : α → Document} {read : Document → Option α}
    (h : ∀ a, read (write a) = some a) (hnull : read .null = none) (o : Option α) :
    optional? read (o.map write) = some o := by
  cases o with
  | none => rfl
  | some a =>
    rw [Option.map_some, optional?, h, Option.map_some]
    rintro heq
    cases (h a).symm.trans ((congrArg read heq).trans hnull)

end Document

end Json

/-! ### Documents of values -/

theorem InvalidReason.ofDocument?_toJson (r : InvalidReason) :
    ofDocument? r.toJson.toDocument = some r := by
  cases r <;> rfl

theorem Severity.ofDocument?_toJson (s : Severity) : ofDocument? s.toJson.toDocument = some s := by
  cases s <;> rfl

theorem DiagnosticCode.ofDocument?_toJson (c : DiagnosticCode) :
    ofDocument? c.toJson.toDocument = some c := by
  cases c <;> rfl

theorem Diagnostic.ofDocument?_toJson (d : Diagnostic) :
    ofDocument? d.toJson.toDocument = some d := by
  have hfields : d.toJson.toDocument.record?
      ["code", "severity", "message", "handle", "context", "help"] =
        some [some d.code.toJson.toDocument, some d.severity.toJson.toDocument,
          some (.text d.message), d.handle.map fun h => h.toJson.toDocument,
          d.context.map fun c => c.toJson.toDocument,
          d.help.map fun s => Document.text (some s)] := by
    obtain ⟨code, severity, message, handle, context, help⟩ := d
    cases handle <;> cases context <;> cases help <;> rfl
  have hhandle := Document.optional?_map Document.handle?_toJson rfl d.handle
  have hcontext := Document.optional?_map Document.contextId?_toJson rfl d.context
  have hstring (s : String) : Document.string? (.text (some s)) = some s := rfl
  have hhelp := Document.optional?_map hstring rfl d.help
  simp only [ofDocument?, hfields, hhandle, hcontext, hhelp, Document.required?, Option.bind_eq_bind,
    Option.bind_some, DiagnosticCode.ofDocument?_toJson, Severity.ofDocument?_toJson,
    Document.string?, Option.pure_def]

theorem OpenHandle.ofDocument?_toJson (o : OpenHandle) :
    ofDocument? o.toJson.toDocument = some o := by
  have hfields : o.toJson.toDocument.record? ["handle", "underlying", "opened_in"] =
      some [some o.handle.toJson.toDocument, some o.underlying.toJson.toDocument,
        some (wordJson o.openedIn).toDocument] := rfl
  simp only [ofDocument?, hfields, Document.required?, Option.bind_eq_bind, Option.bind_some,
    Document.handle?_toJson, Document.word?_wordJson, Option.pure_def]

theorem LeakReport.ofDocument?_toJson (r : LeakReport) :
    ofDocument? r.toJson.toDocument = some r := by
  have hfields : r.toJson.toDocument.record? ["schema_version", "context", "generation", "leaks"] =
      some [some (.text r.schemaVersion), some r.context.toJson.toDocument,
        some (wordJson r.generation).toDocument,
        some (Json.array (r.leaks.map OpenHandle.toJson)).toDocument] := rfl
  simp only [ofDocument?, hfields, Document.required?, Option.bind_eq_bind, Option.bind_some,
    Document.string?, Document.contextId?_toJson, Document.word?_wordJson,
    Document.list?_map OpenHandle.ofDocument?_toJson, Option.pure_def]

/-! ### Texts -/

/-- How the values of a type are written, and how documents are read as such values. -/
structure Form (α : Type) where
  toJson : α → Json
  ofDocument? : Document → Option α

namespace Form

variable {α : Type}

/-- The text of a value. -/
def text (f : Form α) (a : α) : String := (f.toJson a).compact

/-- Reads the bytes of a text. -/
def parse (f : Form α) (b : ByteArray) : Option α := (Document.parse b).bind f.ofDocument?

/-- Every value is read back from its text. So whatever bytes were read as a value, its text is read
as the same value, and that has the same text. -/
structure RoundTrips (f : Form α) : Prop where
  parse_text : ∀ a, f.parse (f.text a).toUTF8 = some a
  parse_again : ∀ {b a}, f.parse b = some a →
    ∃ a', f.parse (f.text a).toUTF8 = some a' ∧ a' = a ∧ f.text a' = f.text a

theorem roundTrips {f : Form α} (h : ∀ a, f.ofDocument? (f.toJson a).toDocument = some a) :
    f.RoundTrips := by
  have hparse (a : α) : f.parse (f.text a).toUTF8 = some a := by
    rw [parse, text, Json.parse_compact, Option.bind_some, h]
  exact ⟨hparse, fun {b a} _ => ⟨a, hparse a, rfl, rfl⟩⟩

end Form

def Handle.form : Form Handle := ⟨toJson, Document.handle?⟩

def ContextId.form : Form ContextId := ⟨toJson, Document.contextId?⟩

def OpId.form : Form OpId := ⟨toJson, Document.opId?⟩

def InvalidReason.form : Form InvalidReason := ⟨toJson, ofDocument?⟩

def Severity.form : Form Severity := ⟨toJson, ofDocument?⟩

def DiagnosticCode.form : Form DiagnosticCode := ⟨toJson, ofDocument?⟩

def Diagnostic.form : Form Diagnostic := ⟨toJson, ofDocument?⟩

/-- Open handles and leaked ones have the same form. -/
def OpenHandle.form : Form OpenHandle := ⟨toJson, ofDocument?⟩

def LeakReport.form : Form LeakReport := ⟨toJson, ofDocument?⟩

/-- Whatever is written as a document is read back from it. -/
theorem written_forms_round_trip :
    Diagnostic.form.RoundTrips ∧ LeakReport.form.RoundTrips ∧
      (OpenHandle.form : Form LeakedHandle).RoundTrips ∧ OpenHandle.form.RoundTrips ∧
      Handle.form.RoundTrips ∧ ContextId.form.RoundTrips ∧ OpId.form.RoundTrips ∧
      InvalidReason.form.RoundTrips ∧ Severity.form.RoundTrips ∧ DiagnosticCode.form.RoundTrips :=
  ⟨Form.roundTrips Diagnostic.ofDocument?_toJson, Form.roundTrips LeakReport.ofDocument?_toJson,
    Form.roundTrips OpenHandle.ofDocument?_toJson, Form.roundTrips OpenHandle.ofDocument?_toJson,
    Form.roundTrips Document.handle?_toJson, Form.roundTrips Document.contextId?_toJson,
    Form.roundTrips Document.opId?_toJson, Form.roundTrips InvalidReason.ofDocument?_toJson,
    Form.roundTrips Severity.ofDocument?_toJson, Form.roundTrips DiagnosticCode.ofDocument?_toJson⟩

end HandleGuard
