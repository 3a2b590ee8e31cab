import LambdaText.Eval.Levels
import LambdaText.Proofs.Eval.Frames
import LambdaText.Proofs.Veiled.Builtins

/-!
# Names apart from a hidden cell

Code may look names up in a scope over the hidden cell as long as each is listed by a frame or agreed
on. A call gives the body of a function a frame that lists the names of the function, so that only
its free names are left to the scope around; a comprehension does the same. Frames that share names
out are one to all code that looks names up through all of them. Giving a name a value is no danger
at all: where the name is global it gets the same value on both sides, and so it does in whichever
of these frames lists it. Showing a scope as such is another matter: then all is lost.
-/

namespace LambdaText

open LambdaText.Code LambdaText.Function
open Run (Apart)

variable {V : Veil} {c d : Facts V}

instance : Inhabited (Facts V) := ⟨⟨fun _ => True, fun _ h => h⟩⟩

/-! ### Names that code may look up -/

theorem Veil.Covers.subset {W : World} {scope : Scope} {names names' : List String}
    (h : V.Covers W scope names) (hsubset : names' ⊆ names) : V.Covers W scope names' :=
  ⟨h.1, fun hg => ⟨(h.2 hg).1, fun n hn => (h.2 hg).2 n (hsubset hn)⟩⟩

theorem covered_append {scope : Scope} {names names' : List String} :
    Covered c scope (names ++ names') ↔ Covered c scope names ∧ Covered c scope names' := by
  constructor
  · exact fun h => ⟨⟨fun hc => (h.covers hc).subset (List.subset_append_left _ _)⟩,
      ⟨fun hc => (h.covers hc).subset (List.subset_append_right _ _)⟩⟩
  · refine fun h => ⟨fun hc => ⟨(h.1.covers hc).1, fun hg => ?_⟩⟩
    obtain ⟨hknown, hnames⟩ := (h.1.covers hc).2 hg
    exact ⟨hknown, fun n hn =>
      (List.mem_append.1 hn).elim (hnames n) (((h.2.covers hc).2 hg).2 n)⟩

theorem covered_of_subset {scope : Scope} {names names' : List String} (h : names' ⊆ names)
    [Covered c scope names] : Covered c scope names' :=
  ⟨fun hc => (Covered.covers hc).subset h⟩

/-- Code that looks names up in a scope may run there, more so if it looks none up. -/
theorem covered_nil {scope : Scope} (names : List String) [Covered c scope names] :
    Covered c scope [] :=
  covered_of_subset (List.nil_subset names)

instance covered_of_foreign (scope : Scope) (names : List String) [Foreign c scope] :
    Covered c scope names :=
  ⟨fun hc => ⟨Veil.places_of_forall (Foreign.frames hc), fun hg => absurd hg (Foreign.ne hc)⟩⟩

/-- A written function may be made where its free names may be looked up. -/
theorem admitted_lambda {scope : Scope} {parameters : List Parameter} {body : Expr}
    [Covered c scope (without body.free (parameters.map Parameter.name ++ body.usage.bound))] :
    Admitted c scope (lambdaRoutine parameters body) :=
  ⟨fun hc => ⟨(covered_of_subset (free_lambdaRoutine parameters body)).covers hc,
    fun _ => ⟨rfl, body, rfl⟩⟩⟩

/-- The body of a function may run in a scope, as the facts say. -/
class Runnable (c : Facts V) (scope : Scope) (code : Routine) : Prop where
  runs {W : World} : c.holds W → V.Covers W scope code.body.free ∧
    (scope.globals = V.cell → ∃ e, code.body = .value e) ∧
      ∀ a ∈ scope.frames.head?, ¬ V.Hides a

section

variable {α : Type} [Valued α]

instance runnable_and (scope : Scope) (code : Routine) (b : α) [Runnable c scope code] :
    Runnable (c.and b) scope code :=
  ⟨fun hc => Runnable.runs hc.1⟩

instance runnable_of_opens (scope : Scope) (code : Routine) [Opens c d] [Runnable d scope code] :
    Runnable c scope code :=
  ⟨fun hc => Runnable.runs (Opens.le (c := c) (d := d) hc)⟩

instance runnable_routine (scope : Scope) (code : Routine) :
    Runnable (c.and (Iterator.routine scope code)) scope code :=
  ⟨fun hc => hc.2⟩

instance has_routine (scope : Scope) (code : Routine) [Runnable c scope code] :
    Has c (Iterator.routine scope code) :=
  ⟨fun hc => Runnable.runs hc⟩

instance covered_comprehension (scope : Scope) (item : Expr) (value : Option Expr)
    (loops : List Loop) (opened : List Value) :
    Covered (c.and (Iterator.comprehension scope item value loops opened)) scope
      (item.free ++ freeOfOption value ++ loops.flatMap Loop.free) :=
  ⟨fun hc => hc.2.1⟩

instance has_comprehension (scope : Scope) (item : Expr) (value : Option Expr)
    (loops : List Loop) (opened : List Value)
    [Covered c scope (item.free ++ freeOfOption value ++ loops.flatMap Loop.free)]
    [Has c opened] : Has c (Iterator.comprehension scope item value loops opened) :=
  ⟨fun hc => ⟨Covered.covers hc, Has.clear hc⟩⟩

end

/-! ### Frames -/

instance has_slots (f : Frame) [Has c f] : Has c f.slots := Has.imp (a := f) fun _ h => h.1

instance has_yielded (f : Frame) [Has c f] : Has c f.yielded := Has.imp (a := f) fun _ h => h.2

instance has_newFrame (slots : Array (String × Option Value)) (globals : List String)
    (yielded : Array Value) (captured : Option (List String)) [Has c slots] [Has c yielded] :
    Has c (Frame.mk slots globals yielded captured) :=
  Has.imp₂ (a := slots) (b := yielded) fun _ h h' => ⟨h, h'⟩

instance has_frameSet (f : Frame) (i : Nat) (name : String) (v : Option Value) [Has c f]
    [Has c v] : Has c (f.set i name v) := by
  unfold Frame.set
  infer_instance

instance has_frameOf (code : Routine) (values : List (String × Value)) [Has c values] :
    Has c (frameOf code values) := by
  unfold frameOf
  infer_instance

theorem map_fst_set {f : Frame} {name : String} {i : Nat} (h : f.slot? name = some i)
    (v : Option Value) :
    (f.set i name v).slots.toList.map Prod.fst = f.slots.toList.map Prod.fst := by
  obtain ⟨hlt, hname, -⟩ := Array.findIdx?_eq_some_iff_getElem.1 h
  rw [Frame.set, Array.toList_setIfInBounds, List.map_set]
  refine List.ext_getElem (by simp) fun j hj _ => ?_
  rw [List.getElem_set]
  split
  · next heq =>
    subst heq
    simpa using (beq_iff_eq.1 hname).symm
  · rfl

theorem known?_set {f : Frame} {name : String} {i : Nat} (h : f.slot? name = some i)
    (v : Option Value) : (f.set i name v).known? = f.known? := by
  rw [Frame.known?, Frame.known?, map_fst_set h]
  rfl

/-- The slot of a name is the place of the name among those that the frame lists. -/
theorem slot?_eq (f : Frame) (name : String) :
    f.slot? name = (f.slots.toList.map Prod.fst).findIdx? (· == name) := by
  have hslots : f.slots.toList.toArray = f.slots := Array.toArray_toList
  rw [Frame.slot?, ← hslots, List.findIdx?_toArray, List.findIdx?_map]
  rfl

theorem known?_frameOf {code : Routine} (h : code.globals = []) (values : List (String × Value)) :
    (frameOf code values).known? = some code.locals := by
  simp [Frame.known?, frameOf, h, Function.comp_def]

/-- A frame around leaves those names to the scope that it does not list. -/
theorem Veil.Covers.enter {W : World} {scope : Scope} {names listed : List String} {a : Nat}
    {path : String} (h : V.Covers W scope (without names listed)) (hshown : ¬ V.Hides a)
    (ha : scope.globals = V.cell → W a = some listed) :
    V.Covers W ⟨a :: scope.frames, scope.globals, path⟩ names := by
  obtain ⟨⟨front, back, hframes, hfront, hback⟩, hcell⟩ := h
  refine ⟨⟨a :: front, back, ?_, List.forall_mem_cons.2 ⟨hshown, hfront⟩, hback⟩, fun hg => ?_⟩
  · rw [hframes, List.cons_append]
  obtain ⟨hknown, hnames⟩ := hcell hg
  have ha := ha hg
  refine ⟨List.forall_mem_cons.2 ⟨by rw [ha]; rfl, hknown⟩, fun n hn => ?_⟩
  by_cases hlisted : n ∈ listed
  · exact .inr ⟨a, List.mem_cons_self, listed, ha, hlisted⟩
  · exact (hnames n (mem_without.2 ⟨hn, hlisted⟩)).imp_right fun ⟨a', ha', hfound⟩ =>
      ⟨a', .tail _ ha', hfound⟩

/-- The body of a function runs in the frame of a call. -/
instance runnable_entered (scope : Scope) (code : Routine) (values : List (String × Value))
    (a : Nat) (path : String) [Admitted c scope code] :
    Runnable (c.entered (frameOf code values) a) ⟨a :: scope.frames, scope.globals, path⟩ code :=
  ⟨fun hc => by
    have hadmits : V.Admits _ scope code := Admitted.admits hc.1
    obtain ⟨hcovers, hplain⟩ := hadmits
    exact ⟨hcovers.enter hc.2.2 fun hg => hc.2.1 _ (known?_frameOf (hplain hg).1 values),
      fun hg => (hplain hg).2, fun _ ha => Option.some.inj ha ▸ hc.2.2⟩⟩

/-- What a comprehension computes runs in its frame. -/
theorem covered_entered {scope : Scope} {names listed : List String} {f : Frame} {a : Nat}
    {path : String} (hf : f.known? = some listed) [Covered c scope (without names listed)] :
    Covered (c.entered f a) ⟨a :: scope.frames, scope.globals, path⟩ names :=
  ⟨fun hc => (Covered.covers hc.1).enter hc.2.2 fun _ => hc.2.1 _ hf⟩

theorem Lists.clear {W : World} {frames : Array Frame} {a : Nat} {layer : List (String × Value)}
    (h : Lists frames a layer) (hclear : Valued.clear V W frames) {name : String} {v : Value}
    (hv : layer.lookup name = some v) : V.Clear W v := by
  obtain ⟨f, hf, hlayer⟩ := h
  obtain ⟨i, -, hvalue⟩ := hlayer.slot name v hv
  obtain ⟨slot, hslot, hvalue⟩ := Option.bind_eq_some_iff.1 hvalue
  exact ((hclear f (Array.mem_of_getElem? hf)).1 slot (Array.mem_of_getElem? hslot)).2 v hvalue

/-- Going on with a frame that may be changed. -/
theorem Run.apart_frame_bind {α : Type} [Valued α] {address : Nat} (hshown : ¬ V.Hides address)
    {k : Frame → Run α} (hstays : (frame address >>= k).StaysLost)
    (hk : ∀ f {s s' : State}, V.Alike s s' → c.holds s.world → Valued.clear V s.world f →
      (∀ f₀, s.frames[address]? = some f₀ → f = f₀) →
      V.EndsAlike s.world ((k f).ends s) ((k f).ends s')) :
    Apart c (frame address >>= k) :=
  ⟨hstays, fun {s s'} h hc => by
    rw [ends_bind_of_ok (ends_frame address s), ends_bind_of_ok (ends_frame address s'),
      h.frames address hshown]
    refine hk _ h hc ?_ fun f₀ hf₀ => by rw [hf₀, Option.getD_some]
    cases hframe : s.frames[address]? with
    | none => exact ⟨fun _ h => (by simp at h), fun _ h => (by simp at h)⟩
    | some f => exact h.shows.frames f (Array.mem_of_getElem? hframe)⟩

/-! ### Looking names up -/

instance apart_unboundLocal {α : Type} [Valued α] (name : String) :
    Apart c (unboundLocal name : Run α) := by
  unfold unboundLocal
  infer_instance

instance apart_unboundFree {α : Type} [Valued α] (name : String) :
    Apart c (unboundFree name : Run α) := by
  unfold unboundFree
  infer_instance

instance apart_undefinedName {α : Type} [Valued α] (name : String) :
    Apart c (undefinedName name : Run α) := by
  unfold undefinedName
  infer_instance

instance apart_builtinNamed (name : String) : Apart c (builtinNamed name) := by
  unfold builtinNamed
  repeat' first | infer_instance | split | exact .of_eq_some ‹_ = some _› inferInstance

instance has_entryValue? (entries : List (Value × Value)) (name : String) [Has c entries] :
    Has c (entryValue? entries name) := by
  unfold entryValue?
  infer_instance

theorem find?_eq_entryValue? (entries : Array (Value × Value)) (name : String) :
    (entries.find? fun e => e.1.same (.text name)).map Prod.snd =
      entryValue? entries.toList name := by
  rw [entryValue?, Array.find?_toList]

instance apart_lookupBuiltin (entries : Array (Value × Value)) (name : String)
    [Has c (entryValue? entries.toList "__builtins__")] : Apart c (lookupBuiltin entries name) := by
  unfold lookupBuiltin
  rw [find?_eq_entryValue?]
  refine .using (entryValue? entries.toList "__builtins__") ?_
  repeat' first | infer_instance | split | with_reducible refine .bind ?_ fun _ => ?_ |
    exact .of_eq_some ‹_ = some _› inferInstance

instance apart_lookupGlobal (globals : Nat) (name : String) [Away c globals] :
    Apart c (lookupGlobal globals name) := by
  unfold lookupGlobal
  refine .bind inferInstance fun _ => ?_
  split
  · exact .of_eq_some ‹_ = some _› inferInstance
  · infer_instance

/-- An agreed name is looked up in the hidden cell. -/
theorem endsAlike_lookupGlobal {s s' : State} (h : V.Alike s s') {name : String}
    (hname : V.agreed name) : V.EndsAlike s.world ((lookupGlobal V.cell name).ends s)
      ((lookupGlobal V.cell name).ends s') := by
  obtain ⟨entries, entries', hs, hs', hagree⟩ := h.globals
  rw [ends_lookupGlobal hs, ends_lookupGlobal hs', hagree.same name hname,
    lookupBuiltin_congr (hagree.same _ V.builtins)]
  cases hvalue : entryValue? entries.toList name with
  | some v => exact .same h (.refl _) (hagree.clear name hname v hvalue)
  | none =>
    let d : Facts V := (default : Facts V).and (entryValue? entries.toList "__builtins__")
    exact (apart_lookupBuiltin (c := d) entries name).ends h ⟨trivial, hagree.clear _ V.builtins⟩

theorem apart_lookupIn (globals : Nat) (name : String) (inner : Bool) {addresses : List Nat}
    (hshown : ∀ a ∈ addresses, ¬ V.Hides a) [Away c globals] :
    Apart c (lookupIn globals name inner addresses) := by
  induction addresses generalizing inner c with
  | nil =>
    unfold lookupIn
    infer_instance
  | cons a rest ih =>
    obtain ⟨ha, hrest⟩ := List.forall_mem_cons.1 hshown
    have hlater (d : Facts V) [Away d globals] : Apart d (lookupIn globals name false rest) :=
      ih false hrest
    unfold lookupIn
    refine .bind (Run.apart_frame fun _ => ha) fun f => ?_
    repeat' first | infer_instance | split | exact .of_eq_some ‹_ = some _› inferInstance

theorem slot?_isSome_of_known? {f : Frame} {listed : List String} (h : f.known? = some listed)
    (name : String) : (f.slot? name).isSome ↔ name ∈ listed := by
  rw [Frame.known?] at h
  split at h
  · cases h
    simp only [Frame.slot?, Array.findIdx?_isSome, Array.any_eq_true, beq_iff_eq, List.mem_map,
      Array.mem_toList_iff]
    constructor
    · rintro ⟨i, hi, rfl⟩
      exact ⟨_, Array.getElem_mem hi, rfl⟩
    · rintro ⟨slot, hslot, rfl⟩
      obtain ⟨i, hi, rfl⟩ := Array.mem_iff_getElem.1 hslot
      exact ⟨i, hi, rfl⟩
  · cases h

theorem Lists.not_mem {s : State} {a : Nat} {layer : List (String × Value)}
    (h : Lists s.frames a layer) {name : String} (hname : layer.lookup name = none)
    {listed : List String} (hlisted : s.world a = some listed) : name ∉ listed := by
  obtain ⟨f, hf, hlayer⟩ := h
  rw [State.world, hf, Option.bind_some] at hlisted
  intro hmem
  simpa [hlayer.noSlot name hname] using (slot?_isSome_of_known? hlisted name).2 hmem

/-- The value of a name in the layers of a row does not lead to what is hidden. -/
theorem clear_lookup_layers {W : World} {frames : Array Frame} (hclear : Valued.clear V W frames)
    {row : List Nat} {layers : List (List (String × Value))}
    (h : List.Forall₂ (Lists frames) row layers) {name : String} {v : Value}
    (hv : layers.flatten.lookup name = some v) : V.Clear W v := by
  induction h with
  | nil => cases hv
  | cons hfirst _ ih =>
    rw [List.flatten_cons, List.lookup_append] at hv
    rcases Option.or_eq_some_iff.1 hv with hv | ⟨-, hv⟩
    · exact hfirst.clear hclear hv
    · exact ih hv

theorem not_mem_of_lookup_layers {s : State} {row : List Nat}
    {layers : List (List (String × Value))} (h : List.Forall₂ (Lists s.frames) row layers)
    {name : String} (hname : layers.flatten.lookup name = none) :
    ∀ a ∈ row, ∀ listed, s.world a = some listed → name ∉ listed := by
  induction h with
  | nil => exact List.forall_mem_nil _
  | cons hfirst _ ih =>
    rw [List.flatten_cons, List.lookup_append, Option.or_eq_none_iff] at hname
    exact List.forall_mem_cons.2 ⟨fun _ => hfirst.not_mem hname.1, ih hname.2⟩

/-- A name is looked up through all frames that share names out, and over the hidden cell. -/
theorem endsAlike_lookupRow {s s' : State} (h : V.Alike s s') {name : String} (inner : Bool)
    (hname : V.agreed name ∨ ∃ a ∈ V.row, ∃ listed ∈ s.world a, name ∈ listed) :
    V.EndsAlike s.world ((lookupIn V.cell name inner V.row).ends s)
      ((lookupIn V.cell name inner V.row).ends s') := by
  obtain ⟨layers, layers', hlayers, hlayers', hsame⟩ := h.row
  rw [ends_lookupIn hlayers, ends_lookupIn hlayers', hsame]
  cases hlookup : layers.flatten.lookup name with
  | some v => exact .same h (.refl _) (clear_lookup_layers h.shows.frames hlayers hlookup)
  | none =>
    refine endsAlike_lookupGlobal h (hname.resolve_right ?_)
    rintro ⟨a, ha, listed, hlisted, hmem⟩
    exact not_mem_of_lookup_layers hlayers hlookup a ha listed hlisted hmem

/-- A name that a frame lists or that is agreed on is looked up over the hidden cell. -/
theorem endsAlike_lookupIn {s s' : State} (h : V.Alike s s') {name : String} (inner : Bool)
    {front back : List Nat} (hfront : ∀ a ∈ front, ¬ V.Hides a)
    (hback : back = [] ∨ back = V.row)
    (hknown : ∀ a ∈ front ++ back, (s.world a).isSome)
    (hname : V.agreed name ∨ ∃ a ∈ front ++ back, ∃ listed ∈ s.world a, name ∈ listed) :
    V.EndsAlike s.world ((lookupIn V.cell name inner (front ++ back)).ends s)
      ((lookupIn V.cell name inner (front ++ back)).ends s') := by
  induction front generalizing inner with
  | nil =>
    rcases hback with rfl | rfl
    · rcases hname with hagreed | ⟨a, ha, -⟩
      · exact endsAlike_lookupGlobal h hagreed
      · cases ha
    · exact endsAlike_lookupRow h inner hname
  | cons a rest ih =>
    obtain ⟨ha, hrest⟩ := List.forall_mem_cons.1 hfront
    obtain ⟨listed, hlisted⟩ := Option.isSome_iff_exists.1 (hknown a List.mem_cons_self)
    obtain ⟨f, hf, hfknown⟩ := Option.bind_eq_some_iff.1 hlisted
    have hglobals : f.globals = [] := by
      by_contra hne
      simp [Frame.known?, hne] at hfknown
    have hclear : Valued.clear V s.world f := h.shows.frames f (Array.mem_of_getElem? hf)
    rw [List.cons_append, lookupIn, Run.ends_bind_of_ok (Run.ends_frame a s),
      Run.ends_bind_of_ok (Run.ends_frame a s'), h.frames a ha, hf, Option.getD_some, hglobals]
    simp only [List.contains_nil, Bool.false_eq_true, if_false]
    cases hslot : f.slot? name with
    | some i =>
      let d : Facts V := (default : Facts V).and f
      cases hvalue : (f.slots[i]?).bind Prod.snd with
      | some v =>
        have hreturn : Apart d (return v : Run Value) := .of_eq_some hvalue inferInstance
        simp only [hvalue]
        exact hreturn.ends h ⟨trivial, hclear⟩
      | none =>
        have hunbound :
            Apart d (if inner then unboundLocal name else unboundFree name : Run Value) :=
          inferInstance
        simp only [hvalue]
        exact hunbound.ends h ⟨trivial, hclear⟩
    | none =>
      refine ih false hrest (fun b hb => hknown b (.tail _ hb)) (hname.imp_right ?_)
      rintro ⟨b, hb, other, hother, hmem⟩
      rcases List.mem_cons.1 hb with rfl | hb
      · obtain rfl : other = listed := Option.some.inj (hother.symm.trans hlisted)
        have := (slot?_isSome_of_known? hfknown name).2 hmem
        simp [hslot] at this
      · exact ⟨b, hb, other, hother, hmem⟩

instance apart_lookupName (scope : Scope) (name : String) [Covered c scope [name]] :
    Apart c (lookupName scope name) :=
  ⟨Run.staysLost _, fun {s s'} h hc => by
    have hcovers : V.Covers _ scope [name] := Covered.covers hc
    obtain ⟨hplaces, hcell⟩ := hcovers
    by_cases hg : scope.globals = V.cell
    · obtain ⟨hknown, hnames⟩ := hcell hg
      have hname := hnames name List.mem_cons_self
      obtain ⟨front, back, hframes, hfront, hback⟩ := hplaces
      rw [hframes] at hknown hname
      rw [lookupName, hg, hframes]
      exact endsAlike_lookupIn h true hfront (hback.imp_right And.right) hknown hname
    · have : Away (default : Facts V) scope.globals := Run.away_of_ne hg
      exact (apart_lookupIn (c := default) scope.globals name true (hplaces.not_hides hg)).ends h
        trivial⟩

instance apart_nameValue (scope : Scope) (name : String) [Covered c scope [name]] :
    Apart c (nameValue scope name) := by
  unfold nameValue
  infer_instance

/-! ### Scopes that are shown -/

instance apart_showNames (scope : Scope) : Apart c (showNames scope) :=
  Run.apart_expose_bind (Run.staysLost _)

instance apart_showGlobals (scope : Scope) : Apart c (showGlobals scope) :=
  Run.apart_expose_bind (Run.staysLost _)

/-! ### Binding names -/

/-- A global name gets the same value on both sides. -/
theorem endsAlike_bindGlobal {s s' : State} (h : V.Alike s s') (name : String) {v : Value}
    (hv : V.Clear s.world v) : V.EndsAlike s.world ((dictSet V.cell (.text name) v).ends s)
      ((dictSet V.cell (.text name) v).ends s') := by
  obtain ⟨entries, entries', hs, hs', hagree⟩ := h.globals
  have hsize := (Array.getElem?_eq_some_iff.1 hs).1
  have hsize' := (Array.getElem?_eq_some_iff.1 hs').1
  have hat : s.dictAt V.cell = entries := by rw [State.dictAt, hs, Option.getD_some]
  have hat' : s'.dictAt V.cell = entries' := by rw [State.dictAt, hs', Option.getD_some]
  rw [ends_dictSet_text, ends_dictSet_text, hat, hat']
  refine .same ⟨⟨?_, h.shows.compiler, fun a ha => ?_, h.shows.frames, h.shows.handled,
    h.shows.caches, h.shows.row⟩, ?_, ?_, fun a ha => ?_,
    ⟨_, _, Array.getElem?_setIfInBounds_self_of_lt hsize,
      Array.getElem?_setIfInBounds_self_of_lt hsize', ?_⟩, h.compilersSize, h.compilers,
    h.framesSize, h.frames, h.row⟩ (.refl _) trivial
  · simpa only [Array.size_setIfInBounds] using h.shows.cell
  · rw [Array.getElem?_setIfInBounds_ne (Ne.symm ha)]
    exact h.shows.cells a ha
  · conv_lhs => rw [h.rest]
  · simp only [Array.size_setIfInBounds, h.size]
  · rw [Array.getElem?_setIfInBounds_ne (Ne.symm ha), Array.getElem?_setIfInBounds_ne (Ne.symm ha),
      h.cells a ha]
  · refine ⟨fun n hn => ?_, fun n hn => ?_⟩ <;> simp only [toList_addEntry] <;>
      by_cases hname : n = name
    · subst hname
      rw [entryValue?_putEntry_text, entryValue?_putEntry_text]
    · have hne : Value.text name ≠ .text n := fun h => hname (Value.text.inj h).symm
      rw [entryValue?_putEntry_of_ne hne, entryValue?_putEntry_of_ne hne, hagree.same n hn]
    · subst hname
      rw [entryValue?_putEntry_text]
      exact fun _ hw => Option.some.inj hw ▸ hv
    · have hne : Value.text name ≠ .text n := fun h => hname (Value.text.inj h).symm
      rw [entryValue?_putEntry_of_ne hne]
      exact hagree.clear n hn

instance apart_bindGlobal (globals : Nat) (name : String) (v : Value) [Has c v] :
    Apart c (dictSet globals (.text name) v) :=
  ⟨Run.staysLost _, fun {s s'} h hc => by
    have hv : V.Clear s.world v := Has.clear (a := v) hc
    by_cases hg : globals = V.cell
    · rw [hg]
      exact endsAlike_bindGlobal h name hv
    · let d : Facts V := (default : Facts V).and v
      have : Away d globals := Run.away_of_ne hg
      exact (apart_dictSet (c := d) globals (.text name) v).ends h ⟨trivial, hv⟩⟩

/-- Setting the slot of a name gives the name this value and keeps all others. -/
theorem Frame.Holds.set {f : Frame} {layer : List (String × Value)} (h : f.Holds layer)
    {name : String} {i : Nat} (hslot : f.slot? name = some i) (v : Value) :
    (f.set i name (some v)).Holds ((name, v) :: layer) := by
  obtain ⟨hlt, hname, -⟩ := Array.findIdx?_eq_some_iff_getElem.1 hslot
  rw [beq_iff_eq] at hname
  have hslots (n : String) : (f.set i name (some v)).slot? n = f.slot? n := by
    rw [slot?_eq, slot?_eq, map_fst_set hslot]
  refine ⟨h.globals, fun n w hw => ?_, fun n hn => ?_⟩ <;> rw [hslots]
  · by_cases heq : n = name
    · subst heq
      rw [List.lookup_cons_self] at hw
      exact ⟨i, hslot, by simpa [Frame.set, hlt] using hw⟩
    · rw [List.lookup_cons, beq_false_of_ne heq] at hw
      obtain ⟨j, hj, hvalue⟩ := h.slot n w hw
      refine ⟨j, hj, ?_⟩
      have hij : i ≠ j := by
        rintro rfl
        obtain ⟨_, hfound, -⟩ := Array.findIdx?_eq_some_iff_getElem.1 hj
        exact heq ((beq_iff_eq.1 hfound).symm.trans hname)
      rw [Frame.set, Array.getElem?_setIfInBounds_ne hij, hvalue]
  · refine h.noSlot n ?_
    rw [List.lookup_cons] at hn
    split at hn
    · cases hn
    · exact hn

/-- Changing a frame beside a row. -/
theorem Lists.set {frames : Array Frame} {a : Nat} {f : Frame} {row : List Nat}
    {layers : List (List (String × Value))} (h : List.Forall₂ (Lists frames) row layers)
    (ha : a ∉ row) : List.Forall₂ (Lists (frames.setIfInBounds a f)) row layers := by
  refine Lists.of_keeps h fun b hb g hg => ?_
  rw [Array.getElem?_setIfInBounds_ne, hg]
  rintro rfl
  exact ha hb

/-- Binding a name in a row of frames sets the slot of the name in the frame that lists it; if none
does, the name is bound beyond all of them. -/
theorem ends_bindRow {s : State} {row : List Nat} (hrow : row.Nodup)
    {layers : List (List (String × Value))} (h : List.Forall₂ (Lists s.frames) row layers)
    (globals : Nat) (name : String) (v : Value) :
    (layers.flatten.lookup name = none ∧
      (bindIn globals name v row).ends s = (dictSet globals (.text name) v).ends s) ∨
    ∃ a f i layers', a ∈ row ∧ s.frames[a]? = some f ∧ f.slot? name = some i ∧
      layers.flatten.lookup name ≠ none ∧
      (bindIn globals name v row).ends s = (Run.setFrame a (f.set i name (some v))).ends s ∧
      List.Forall₂ (Lists (s.frames.setIfInBounds a (f.set i name (some v)))) row layers' ∧
      ∀ k, layers'.flatten.lookup k = if k = name then some v else layers.flatten.lookup k := by
  induction h with
  | nil => exact .inl ⟨rfl, rfl⟩
  | @cons a layer row layers hfirst hrest ih =>
    obtain ⟨f, hf, hlayer⟩ := hfirst
    obtain ⟨ha, hrow⟩ := List.nodup_cons.1 hrow
    have hlt := (Array.getElem?_eq_some_iff.1 hf).1
    have hlookup (k : String) :
        (layer :: layers).flatten.lookup k = (layer.lookup k).or (layers.flatten.lookup k) := by
      rw [List.flatten_cons, List.lookup_append]
    rw [bindIn, Run.ends_bind_of_ok (Run.ends_frame _ s), hf, Option.getD_some, hlayer.globals]
    simp only [List.contains_nil, Bool.false_eq_true, if_false]
    cases hvalue : layer.lookup name with
    | some w =>
      obtain ⟨i, hi, -⟩ := hlayer.slot name w hvalue
      refine .inr ⟨a, f, i, ((name, v) :: layer) :: layers, List.mem_cons_self, hf, hi,
        by rw [hlookup, hvalue]; exact Option.some_ne_none w, by rw [hi], .cons ⟨_,
          Array.getElem?_setIfInBounds_self_of_lt hlt, hlayer.set hi v⟩ (Lists.set hrest ha),
        fun k => ?_⟩
      by_cases hk : k = name
      · simp [hk]
      · simp [List.lookup_cons, beq_false_of_ne hk, hk]
    | none =>
      rw [hlayer.noSlot name hvalue]
      rcases ih hrow with ⟨hnone, hends⟩ | ⟨b, g, i, layers', hb, hg, hi, hsome, hends, hset, hl⟩
      · exact .inl ⟨by rw [hlookup, hvalue, hnone]; rfl, hends⟩
      · have hab : b ≠ a := fun hba => ha (hba ▸ hb)
        refine .inr ⟨b, g, i, layer :: layers', .tail _ hb, hg, hi, by rwa [hlookup, hvalue],
          hends, .cons ⟨f, by rw [Array.getElem?_setIfInBounds_ne hab, hf], hlayer⟩ hset,
          fun k => ?_⟩
        rw [hlookup, List.flatten_cons, List.lookup_append, hl]
        by_cases hk : k = name
        · simp [hk, hvalue]
        · simp [hk]

/-- A name gets the same value in whichever of the frames that share names out lists it. -/
theorem endsAlike_bindRow {s s' : State} (h : V.Alike s s') (globals : Nat) (name : String)
    {v : Value} (hv : V.Clear s.world v) :
    V.EndsAlike s.world ((bindIn globals name v V.row).ends s)
      ((bindIn globals name v V.row).ends s') := by
  obtain ⟨layers, layers', hlayers, hlayers', hsame⟩ := h.row
  rcases ends_bindRow V.nodup hlayers globals name v with
    ⟨hnone, hends⟩ | ⟨a, f, i, l, ha, hf, hi, hsome, hends, hset, hl⟩ <;>
  rcases ends_bindRow V.nodup hlayers' globals name v with
    ⟨hnone', hends'⟩ | ⟨a', f', i', l', ha', hf', hi', hsome', hends', hset', hl'⟩
  · rw [hends, hends']
    exact (apart_bindGlobal (c := (default : Facts V).and v) globals name v).ends h ⟨trivial, hv⟩
  · exact absurd ((hsame name).trans hnone) hsome'
  · exact absurd ((hsame name).symm.trans hnone') hsome
  · rw [hends, hends']
    refine Run.endsAlike_setFrames h (fun f₀ hf₀ => ?_) ?_ (fun b hb => ?_)
      ⟨l, l', hset, hset', fun k => by rw [hl, hl', hsame]⟩
    · rw [Option.some.inj (hf₀.symm.trans hf), known?_set hi]
    · exact Has.clear (c := ((default : Facts V).and f).and v)
        ⟨⟨trivial, h.shows.frames f (Array.mem_of_getElem? hf)⟩, hv⟩
    · have hne {x : Nat} (hx : x ∈ V.row) : x ≠ b := fun hxb => hb (hxb ▸ hx)
      rw [Array.getElem?_setIfInBounds_ne (hne ha), Array.getElem?_setIfInBounds_ne (hne ha'),
        h.frames b hb]

theorem apart_bindIn (globals : Nat) (name : String) (v : Value) {front back : List Nat}
    (hfront : ∀ a ∈ front, ¬ V.Hides a) (hback : back = [] ∨ back = V.row) [Has c v] :
    Apart c (bindIn globals name v (front ++ back)) := by
  induction front with
  | nil =>
    rcases hback with rfl | rfl
    · exact apart_bindGlobal globals name v
    · exact ⟨Run.staysLost _, fun h hc => endsAlike_bindRow h globals name (Has.clear (a := v) hc)⟩
  | cons a rest ih =>
    obtain ⟨ha, hrest⟩ := List.forall_mem_cons.1 hfront
    rw [List.cons_append, bindIn]
    refine Run.apart_frame_bind ha (Run.staysLost (bindIn globals name v (a :: (rest ++ back))))
      fun f s s' h hc hclear hframe => ?_
    split
    · exact (apart_bindGlobal globals name v).ends h hc
    · split
      · next i hslot =>
        exact Run.endsAlike_setFrame h ha (fun f₀ hf₀ => hframe f₀ hf₀ ▸ known?_set hslot _)
          (Has.clear (c := c.and f) (a := f.set i name (some v)) ⟨hc, hclear⟩)
      · exact (ih hrest).ends h hc

/-- A name may be bound in a scope where code may run. -/
instance apart_bindName (scope : Scope) (name : String) (v : Value) [Covered c scope []]
    [Has c v] : Apart c (bindName scope name v) :=
  ⟨Run.staysLost _, fun {s s'} h hc => by
    have hcovers : V.Covers s.world scope [] := Covered.covers hc
    obtain ⟨⟨front, back, hframes, hfront, hback⟩, -⟩ := hcovers
    rw [bindName, hframes]
    exact (apart_bindIn (c := c) scope.globals name v hfront (hback.imp_right And.right)).ends h hc⟩

instance apart_removeGlobal (globals : Nat) (name : String) [Away c globals] :
    Apart c (removeGlobal globals name) := by
  unfold removeGlobal
  refine .bind inferInstance fun _ => ?_
  split <;> infer_instance

theorem apart_removeIn (globals : Nat) (name : String) (inner : Bool) {addresses : List Nat}
    (hshown : ∀ a ∈ addresses, ¬ V.Hides a) [Away c globals] :
    Apart c (removeIn globals name inner addresses) := by
  induction addresses generalizing inner with
  | nil => exact apart_removeGlobal globals name
  | cons a rest ih =>
    obtain ⟨ha, hrest⟩ := List.forall_mem_cons.1 hshown
    unfold removeIn
    refine Run.apart_frame_bind ha (Run.staysLost (removeIn globals name inner (a :: rest)))
      fun f s s' h hc hclear hframe => ?_
    split
    · exact (apart_removeGlobal globals name).ends h hc
    · split
      · next i hslot =>
        split
        · exact Run.endsAlike_setFrame h ha (fun f₀ hf₀ => hframe f₀ hf₀ ▸ known?_set hslot _)
            (Has.clear (c := c.and f) (a := f.set i name none) ⟨hc, hclear⟩)
        · have hunbound : Apart c
              (if inner then unboundLocal name else unboundFree name : Run Unit) := inferInstance
          exact hunbound.ends h hc
      · exact (ih false hrest).ends h hc

instance away_of_foreign (scope : Scope) [Foreign c scope] : Away c scope.globals :=
  ⟨fun hc => Foreign.ne hc⟩

instance apart_removeName (scope : Scope) (name : String) [Foreign c scope] :
    Apart c (removeName scope name) :=
  ⟨Run.staysLost _, fun h hc => (apart_removeIn scope.globals name true (Foreign.frames hc)).ends h hc⟩

/-- Adding to the items of a frame keeps the names that it lists. -/
theorem Frame.Holds.yield {f : Frame} {layer : List (String × Value)} (h : f.Holds layer)
    (yielded : Array Value) : ({ f with yielded } : Frame).Holds layer :=
  ⟨h.globals, h.slot, h.noSlot⟩

theorem Lists.yield {frames : Array Frame} {a b : Nat} {f : Frame} {layer : List (String × Value)}
    (hf : frames[b]? = some f) (h : Lists frames a layer) (yielded : Array Value) :
    Lists (frames.setIfInBounds b { f with yielded }) a layer := by
  obtain ⟨g, hg, hlayer⟩ := h
  by_cases hab : b = a
  · subst hab
    obtain rfl : g = f := Option.some.inj (hg.symm.trans hf)
    exact ⟨_, Array.getElem?_setIfInBounds_self_of_lt (Array.getElem?_eq_some_iff.1 hf).1,
      hlayer.yield yielded⟩
  · exact ⟨g, by rw [Array.getElem?_setIfInBounds_ne hab, hg], hlayer⟩

theorem Lists.exists_frame {frames : Array Frame} {row : List Nat}
    {layers : List (List (String × Value))} (h : List.Forall₂ (Lists frames) row layers) {a : Nat}
    (ha : a ∈ row) : ∃ f, frames[a]? = some f := by
  induction h with
  | nil => cases ha
  | cons hfirst _ ih =>
    rcases List.mem_cons.1 ha with rfl | ha
    · exact hfirst.imp fun f hf => hf.1
    · exact ih ha

/-- A function that gives items adds one to its frame. -/
instance apart_yieldItem (scope : Scope) (v : Value) [Covered c scope []] [Has c v] :
    Apart c (yieldItem scope v) :=
  ⟨Run.staysLost _, fun {s s'} h hc => by
    have hcovers : V.Covers s.world scope [] := Covered.covers hc
    obtain ⟨⟨front, back, hframes, hfront, hback⟩, -⟩ := hcovers
    have hv : V.Clear s.world v := Has.clear (a := v) hc
    rw [yieldItem, hframes]
    cases front with
    | cons a rest =>
      have hitem : Apart c (Run.frame a >>= fun f =>
          Run.setFrame a { f with yielded := f.yielded.push v }) :=
        Run.apart_frame_bind (hfront a List.mem_cons_self) (Run.staysLost _)
          fun f s s' h hc hclear hframe =>
            Run.endsAlike_setFrame h (hfront a List.mem_cons_self)
              (fun f₀ hf₀ => hframe f₀ hf₀ ▸ rfl)
              (Has.clear (c := c.and f) (a := { f with yielded := f.yielded.push v }) ⟨hc, hclear⟩)
      exact hitem.ends h hc
    | nil =>
      rcases hback with rfl | ⟨-, rfl⟩
      · exact .same h (.refl _) trivial
      rw [List.nil_append]
      cases hrow : V.row with
      | nil => exact .same h (.refl _) trivial
      | cons a rest =>
        obtain ⟨layers, layers', hlayers, hlayers', hsame⟩ := h.row
        have ha : a ∈ V.row := hrow ▸ List.mem_cons_self
        obtain ⟨f, hf⟩ := Lists.exists_frame hlayers ha
        obtain ⟨f', hf'⟩ := Lists.exists_frame hlayers' ha
        simp only
        rw [Run.ends_bind_of_ok (Run.ends_frame _ s), Run.ends_bind_of_ok (Run.ends_frame _ s'), hf,
          hf', Option.getD_some, Option.getD_some]
        refine Run.endsAlike_setFrames h (fun f₀ hf₀ => ?_) ?_ (fun b hb => ?_)
          ⟨layers, layers', hlayers.imp fun _ _ hl => .yield hf hl _,
            hlayers'.imp fun _ _ hl => .yield hf' hl _, hsame⟩
        · rw [← Option.some.inj (hf.symm.trans hf₀)]
          rfl
        · exact Has.clear (c := ((default : Facts V).and f).and v)
            ⟨⟨trivial, h.shows.frames f (Array.mem_of_getElem? hf)⟩, hv⟩
        · have hne : a ≠ b := fun hab => hb (hab ▸ ha)
          rw [Array.getElem?_setIfInBounds_ne hne, Array.getElem?_setIfInBounds_ne hne,
            h.frames b hb]⟩

end LambdaText
