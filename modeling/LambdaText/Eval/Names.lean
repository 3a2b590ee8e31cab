import LambdaText.Value.Item

/-!
# Names

A name belongs to the innermost frame that lists it. A frame may leave a name to the global names
instead. What no frame lists is global, and what is not global is built in.
-/

namespace LambdaText

def unboundLocal {α : Type} (name : String) : Run α :=
  Run.raise "UnboundLocalError"
    s!"cannot access local variable '{name}' where it is not associated with a value"

/-- Fails because a name of a function around has no value. -/
def unboundFree {α : Type} (name : String) : Run α :=
  Run.raise "NameError"
    s!"cannot access free variable '{name}' where it is not associated with a value in enclosing scope"

def undefinedName {α : Type} (name : String) : Run α :=
  Run.raise "NameError" s!"name '{name}' is not defined"

def Frame.slot? (f : Frame) (name : String) : Option Nat := f.slots.findIdx? fun s => s.1 == name

def builtinNamed (name : String) : Run Value :=
  match builtinValue? name with
  | some v => return v
  | none => if openNames.contains name then Run.leaveOpen else undefinedName name

/-- The value of a name among the built-in ones; another value with items may stand for them. -/
def lookupBuiltin (entries : Array (Value × Value)) (name : String) : Run Value := do
  match (entries.find? fun e => e.1.same (.text "__builtins__")).map Prod.snd with
  | some (.dict a) =>
    match ← dictGet? a (.text name) with
    | some v => return v
    | none => undefinedName name
  | some (.module _) | none => builtinNamed name
  | some v => getItem v (.text name)

def lookupGlobal (globals : Nat) (name : String) : Run Value := do
  let entries ← Run.dictEntries globals
  match entries.find? fun e => e.1.same (.text name) with
  | some (_, v) => return v
  | none => lookupBuiltin entries name

/-- The value of a name, `inner` saying whether no frame has been left yet. -/
def lookupIn (globals : Nat) (name : String) : Bool → List Nat → Run Value
  | _, [] => lookupGlobal globals name
  | inner, address :: rest => do
    let f ← Run.frame address
    if f.globals.contains name then lookupGlobal globals name
    else match f.slot? name with
      | some i =>
        match (f.slots[i]?).bind Prod.snd with
        | some v => return v
        | none => if inner then unboundLocal name else unboundFree name
      | none => lookupIn globals name false rest

def lookupName (scope : Scope) (name : String) : Run Value :=
  lookupIn scope.globals name true scope.frames

/-- The value of a name in an expression. One name is a constant, whatever a namespace gives it. -/
def nameValue (scope : Scope) (name : String) : Run Value :=
  if name == Code.lockedName then return .bool true else lookupName scope name

/-! ### Scopes that are shown -/

/-- Whether a name has a value in the innermost frame that lists it. -/
def isBoundIn (name : String) : List Nat → Run Bool
  | [] => return false
  | address :: rest => do
    let f ← Run.frame address
    if f.globals.contains name then return false
    else match f.slot? name with
      | some i => return ((f.slots[i]?).bind Prod.snd).isSome
      | none => isBoundIn name rest

def boundAmong (addresses : List Nat) : List String → Run (List String)
  | [] => return []
  | n :: names => do
    let isBound ← isBoundIn n addresses
    let more ← boundAmong addresses names
    return if isBound then n :: more else more

/-- The names that code finds in its own frame and has captured from the functions around. -/
def visibleNames (scope : Scope) : Run (List String) := do
  match scope.frames with
  | [] => Run.leaveOpen
  | address :: rest => do
    let f ← Run.frame address
    let own := f.slots.toList.filterMap fun (n, v) => v.map fun _ => n
    match f.captured, rest with
    | some names, _ => return own ++ (← boundAmong rest names.eraseDups)
    | none, [] => return own
    | none, _ => Run.leaveOpen

def showNames (scope : Scope) : Run Value := do
  Run.expose
  let names ← visibleNames scope
  Run.newList ((names.mergeSort fun a b => decide (a ≤ b)).map Value.text).toArray

def showGlobals (scope : Scope) : Run Value := do
  Run.expose
  return .dict scope.globals

/-! ### Binding -/

def Frame.set (f : Frame) (i : Nat) (name : String) (v : Option Value) : Frame :=
  { f with slots := f.slots.setIfInBounds i (name, v) }

/-- Binds a name in the frame that lists it, or among the global names. -/
def bindIn (globals : Nat) (name : String) (v : Value) : List Nat → Run Unit
  | [] => dictSet globals (.text name) v
  | address :: rest => do
    let f ← Run.frame address
    if f.globals.contains name then dictSet globals (.text name) v
    else match f.slot? name with
      | some i => Run.setFrame address (f.set i name (some v))
      | none => bindIn globals name v rest

def bindName (scope : Scope) (name : String) (v : Value) : Run Unit :=
  bindIn scope.globals name v scope.frames

def removeGlobal (globals : Nat) (name : String) : Run Unit := do
  match ← dictRemove? globals (.text name) with
  | some _ => return ()
  | none => undefinedName name

def removeIn (globals : Nat) (name : String) : Bool → List Nat → Run Unit
  | _, [] => removeGlobal globals name
  | inner, address :: rest => do
    let f ← Run.frame address
    if f.globals.contains name then removeGlobal globals name
    else match f.slot? name with
      | some i =>
        if ((f.slots[i]?).bind Prod.snd).isSome then Run.setFrame address (f.set i name none)
        else if inner then unboundLocal name else unboundFree name
      | none => removeIn globals name false rest

def removeName (scope : Scope) (name : String) : Run Unit :=
  removeIn scope.globals name true scope.frames

end LambdaText
