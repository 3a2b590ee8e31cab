import LambdaText.Proofs.Eval.Ends
import Mathlib.Data.List.Induction

/-!
# Global names

The global names of a compiled text are the built-in module under its own name, and the entries of
the namespace put over it. What a namespace gives to a name is what its last entry for the name
holds.
-/

namespace LambdaText

open LambdaText.Function

/-- The value that entries give to a name, their first one for it counting. -/
def entryValue? (entries : List (Value × Value)) (name : String) : Option Value :=
  (entries.find? fun e => e.1.same (.text name)).map Prod.snd

/-! ### Texts as keys -/

theorem same_text_right {v : Value} {name : String} :
    v.same (.text name) = true ↔ v = .text name := by
  cases v <;> simp [Value.same]

theorem sameKey_text_right {v : Value} {name : String} :
    v.sameKey (.text name) = true ↔ v = .text name := by
  cases v <;> simp [Value.sameKey, Value.same, Value.amount?]

theorem sameKey_text_left {v : Value} {name : String} :
    Value.sameKey (.text name) v = true ↔ v = .text name := by
  cases v with
  | text s => simpa [Value.sameKey, Value.same, Value.amount?] using eq_comm
  | _ => simp [Value.sameKey, Value.same, Value.amount?]

theorem same_text_eq_false {v : Value} {name : String} (h : v ≠ .text name) :
    v.same (.text name) = false := by
  rwa [Ne, ← same_text_right, Bool.not_eq_true] at h

def putEntry (key value : Value) : List (Value × Value) → List (Value × Value)
  | [] => [(key, value)]
  | e :: rest =>
    if Value.sameKey e.1 key then (e.1, value) :: rest else e :: putEntry key value rest

theorem putEntry_eq (key value : Value) (row : List (Value × Value)) :
    putEntry key value row = match row.findIdx? fun e => Value.sameKey e.1 key with
      | some i => row.modify i fun e => (e.1, value)
      | none => row ++ [(key, value)] := by
  induction row with
  | nil => rfl
  | cons e rest ih =>
    rw [List.findIdx?_cons, putEntry, ih]
    cases Value.sameKey e.1 key with
    | true => rfl
    | false => cases rest.findIdx? fun e => Value.sameKey e.1 key <;> rfl

theorem toList_addEntry (entries : Array (Value × Value)) (key value : Value) :
    (addEntry entries key value).toList = putEntry key value entries.toList := by
  obtain ⟨row⟩ := entries
  rw [putEntry_eq, addEntry, Value.findKey, List.findIdx?_toArray]
  cases row.findIdx? fun e => Value.sameKey e.1 key <;> simp

theorem entryValue?_putEntry_text (name : String) (value : Value)
    (entries : List (Value × Value)) :
    entryValue? (putEntry (.text name) value entries) name = some value := by
  induction entries with
  | nil => simp [putEntry, entryValue?, same_text_right]
  | cons e rest ih =>
    rw [putEntry]
    split
    · next hkey => simp [entryValue?, same_text_right.2 (sameKey_text_right.1 hkey)]
    · next hkey =>
      have hne : e.1 ≠ .text name := fun h => hkey (sameKey_text_right.2 h)
      rw [entryValue?, List.find?_cons, same_text_eq_false hne]
      exact ih

/-- An entry for another key changes nothing for a name. -/
theorem entryValue?_putEntry_of_ne {key : Value} {name : String} (h : key ≠ .text name)
    (value : Value) (entries : List (Value × Value)) :
    entryValue? (putEntry key value entries) name = entryValue? entries name := by
  induction entries with
  | nil => simp [putEntry, entryValue?, same_text_eq_false h]
  | cons e rest ih =>
    rw [putEntry]
    split
    · next hkey =>
      have hne : e.1 ≠ .text name := fun he => h (sameKey_text_left.1 (he ▸ hkey))
      simp [entryValue?, same_text_eq_false hne]
    · rw [entryValue?, List.find?_cons, entryValue?, List.find?_cons]
      cases e.1.same (.text name) with
      | true => rfl
      | false => exact ih

/-! ### Namespaces -/

def namespaceEntries (s : State) : Value → List (Value × Value)
  | .dict a => (s.dictAt a).toList
  | _ => []

/-- What may be given as a namespace: nothing, or a mapping. -/
def IsNamespace : Value → Prop
  | .none | .dict _ => True
  | _ => False

/-- The value that a namespace gives to a name, its last entry for it counting. -/
def namespaceValue? (s : State) (given : Value) (name : String) : Option Value :=
  entryValue? (namespaceEntries s given).reverse name

/-- The built-in module under its own name. -/
def builtinEntries : Array (Value × Value) := #[(.text "__builtins__", .module "builtins")]

/-- The global names of a text that is compiled with a namespace. -/
def globalEntries (s : State) (given : Value) : Array (Value × Value) :=
  (namespaceEntries s given).foldl (fun out e => addEntry out e.1 e.2) builtinEntries

theorem entryValue?_foldl (row : List (Value × Value)) (entries : Array (Value × Value))
    (name : String) :
    entryValue? (row.foldl (fun out e => addEntry out e.1 e.2) entries).toList name =
      (entryValue? row.reverse name).or (entryValue? entries.toList name) := by
  induction row using List.reverseRec with
  | nil => rfl
  | append_singleton row e ih =>
    obtain ⟨key, value⟩ := e
    rw [List.foldl_append, List.foldl_cons, List.foldl_nil, toList_addEntry, List.reverse_append]
    by_cases hkey : key = .text name
    · subst hkey
      rw [entryValue?_putEntry_text]
      simp [entryValue?, same_text_right.2]
    · rw [entryValue?_putEntry_of_ne hkey, ih]
      simp [entryValue?, same_text_eq_false hkey]

/-- A global name has the value that the namespace gives to it, or is the built-in module. -/
theorem entryValue?_globalEntries (s : State) (given : Value) (name : String) :
    entryValue? (globalEntries s given).toList name =
      (namespaceValue? s given name).or (entryValue? builtinEntries.toList name) :=
  entryValue?_foldl _ _ _

/-- The global names are put into a cell of their own. -/
theorem ends_globalsFor (m : Machine) {given : Value} (h : IsNamespace given) (s : State) :
    (globalsFor m given).ends s =
      some (.ok s.cells.size,
        { s with cells := s.cells.push (.dict (globalEntries s given)) }) := by
  cases given with
  | none => rfl
  | dict a =>
    have htruth : (truth (.dict a)).ends s = some (.ok !(s.dictAt a).isEmpty, s) := by
      simp only [truth]
      rw [Run.ends_bind_of_ok (Run.ends_dictEntries a s)]
      rfl
    have hupdate : (updateEntries m builtinEntries (some (.dict a)) []).ends s =
        some (.ok (globalEntries s (.dict a)), s) := by
      simp only [updateEntries]
      rw [Run.ends_bind_of_ok (Run.ends_dictEntries a s)]
      simp [globalEntries, namespaceEntries]
    simp only [globalsFor]
    rw [Run.ends_bind_of_ok htruth]
    cases hempty : (s.dictAt a).isEmpty with
    | true =>
      simp [globalEntries, namespaceEntries, Array.isEmpty_iff.1 hempty, builtinEntries]
    | false =>
      simp only [Bool.not_false, if_true]
      exact Run.ends_bind_of_ok hupdate _
  | _ => exact h.elim

theorem ends_lookupGlobal {s : State} {globals : Nat} {entries : Array (Value × Value)}
    (h : s.cells[globals]? = some (.dict entries)) (name : String) :
    (lookupGlobal globals name).ends s = match entryValue? entries.toList name with
      | some v => some (.ok v, s)
      | none => (lookupBuiltin entries name).ends s := by
  have hat : s.dictAt globals = entries := by rw [State.dictAt, h, Option.getD_some]
  rw [lookupGlobal, Run.ends_bind_of_ok (Run.ends_dictEntries globals s), hat]
  simp only [entryValue?, Array.find?_toList]
  cases entries.find? fun e => e.1.same (.text name) <;> rfl

/-- Built-in names are looked up in what the global names say. -/
theorem lookupBuiltin_congr {entries entries' : Array (Value × Value)}
    (h : entryValue? entries'.toList "__builtins__" = entryValue? entries.toList "__builtins__")
    (n : String) : lookupBuiltin entries' n = lookupBuiltin entries n := by
  rw [entryValue?, entryValue?, Array.find?_toList, Array.find?_toList] at h
  rw [lookupBuiltin, lookupBuiltin, h]

end LambdaText
