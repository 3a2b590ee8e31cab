import LambdaText.Datum.Validation
import LambdaText.Source.Basic

/-!
# Validation of sources

Reading a nested dictionary of fields as a source. The fields of a stage are checked first; that it
has exactly one of a body and an inner stage is checked only if all of them are valid.
-/

namespace LambdaText.Source

def formOf : Datum → Checked Form
  | .text s =>
    match Form.ofName? s with
    | some form => .ok form
    | none => .fail .unknownForm
  | _ => .fail .unknownForm

def required {α : Type} (check : Datum → Checked α) : Option Datum → Checked α
  | none => .fail .missing
  | some d => check d

def optional {α : Type} (check : Datum → Checked α) : Option Datum → Checked (Option α)
  | none => .ok none
  | some .none => .ok none
  | some d => (check d).map some

/-- The stage that fields make up: it has a body or an inner stage, and not both. -/
def ofParts (text : String) (form : Form) (parameters : List String) :
    Option String → Option Source → Checked Source
  | some body, none => .ok (.last text form parameters body)
  | none, some inner => .ok (.stage text form parameters inner)
  | _, _ => .fail (.rule "LambdaSource requires exactly one of 'body' or 'inner'.")

def ofChecked (field? : String → Option Datum) (inner : Checked (Option Source)) :
    Checked Source :=
  let text := (required Datum.asText (field? "text")).at "text"
  let form := (required formOf (field? "form")).at "form"
  let parameters := (match field? "params" with
    | none => .ok []
    | some d => d.asTexts : Checked (List String)).at "params"
  let body := (optional Datum.asText (field? "body")).at "body"
  let inner := inner.at "inner"
  match text, form, parameters, body, inner with
  | .ok text, .ok form, .ok parameters, .ok body, .ok inner =>
    ofParts text form parameters body inner
  | _, _, _, _, _ =>
    .error (text.issues ++ form.issues ++ parameters.issues ++ body.issues ++ inner.issues)

mutual

def ofDatum : Datum → Checked Source
  | .dict entries => ofChecked (Datum.field? entries) (innerOf entries)
  | _ => .fail .notModel

/-- Reads the inner stage among the entries of a dictionary; the last such entry counts. -/
def innerOf : List (Datum × Datum) → Checked (Option Source)
  | [] => .ok none
  | entry :: rest =>
    if (Datum.field? rest "inner").isSome then innerOf rest else innerOfEntry entry

def innerOfEntry : Datum × Datum → Checked (Option Source)
  | (key, d) =>
    match key with
    | .text name =>
      if name = "inner" then
        match d with
        | .none => .ok none
        | d => (ofDatum d).map some
      else .ok none
    | _ => .ok none

end

end LambdaText.Source
