import LambdaText.Proofs.Library.Coercion

/-!
# The places of functions

An operation that takes functions makes the values at some of its arguments callable before it does
anything else, in a fixed order and each of them once. Making the values at the first of these
places callable beforehand changes nothing, and the first value that cannot be made callable is what
the operation fails with.
-/

namespace LambdaText

open LambdaText.Code LambdaText.Function LambdaText.Log LambdaText.Text

/-- The arguments of an operation: those that have names, and the further ones. -/
abbrev Arguments := List Value × List Value

/-- A place among the arguments of an operation where a function stands. -/
inductive Place where
  /-- An argument with a name. -/
  | named (i : Nat)
  /-- An argument with a name that may be absent. -/
  | present (i : Nat)
  /-- A further argument. -/
  | further (i : Nat)

namespace Place

/-- Whether a place is among the further arguments, and its index. -/
def slot : Place → Bool × Nat
  | named i | present i => (false, i)
  | further i => (true, i)

/-- What stands at a place. -/
def get (a : Arguments) : Place → Value
  | named i | present i => a.1.getD i .none
  | further i => a.2.getD i .none

/-- Puts a value at a place. -/
def set (a : Arguments) (v : Value) : Place → Arguments
  | named i | present i => (a.1.set i v, a.2)
  | further i => (a.1, a.2.set i v)

/-- Whether there is such a place among arguments. -/
def IsIn (a : Arguments) : Place → Prop
  | named i | present i => i < a.1.length
  | further i => i < a.2.length

/-- Whether nothing stands at a place where that is allowed. -/
def isAbsent (a : Arguments) : Place → Bool
  | present i => (present? (a.1.getD i .none)).isNone
  | _ => false

variable (m : Machine)

/-- Makes the value at a place callable. -/
def coerce (a : Arguments) (p : Place) : Run Arguments := do
  if p.isAbsent a then return a
  else return p.set a (← LambdaText.coerce m (p.get a))

/-- Makes the values at places callable, in order. -/
def coerceAll : List Place → Arguments → Run Arguments
  | [], a => return a
  | p :: places, a => do coerceAll places (← p.coerce m a)

/-- Puts values at places, in order. -/
def setAll : List Place → List Value → Arguments → Arguments
  | p :: places, v :: vs, a => setAll places vs (p.set a v)
  | _, _, a => a

/-! ### Reading and writing places -/

@[simp] theorem length_set_fst (p : Place) (a : Arguments) (v : Value) :
    (p.set a v).1.length = a.1.length := by
  cases p <;> simp [set]

@[simp] theorem length_set_snd (p : Place) (a : Arguments) (v : Value) :
    (p.set a v).2.length = a.2.length := by
  cases p <;> simp [set]

@[simp] theorem isIn_set (p q : Place) (a : Arguments) (v : Value) :
    q.IsIn (p.set a v) ↔ q.IsIn a := by
  cases q <;> simp [IsIn]

theorem get_set_of_ne {p q : Place} (h : q.slot ≠ p.slot) (a : Arguments) (v : Value) :
    q.get (p.set a v) = q.get a := by
  cases p <;> cases q <;> simp_all [slot, get, set, Ne.symm]

theorem get_set_of_eq {p q : Place} (h : q.slot = p.slot) {a : Arguments} (hp : p.IsIn a)
    (v : Value) : q.get (p.set a v) = v := by
  cases p <;> cases q <;> simp_all [slot, get, set, IsIn]

theorem get_congr {p q : Place} (h : q.slot = p.slot) (a : Arguments) : q.get a = p.get a := by
  cases p <;> cases q <;> simp_all [slot, get]

theorem set_set {p q : Place} (h : q.slot = p.slot) (a : Arguments) (v w : Value) :
    q.set (p.set a v) w = q.set a w := by
  cases p <;> cases q <;> simp_all [slot, set]

theorem set_comm {p q : Place} (h : q.slot ≠ p.slot) (a : Arguments) (v w : Value) :
    q.set (p.set a v) w = p.set (q.set a w) v := by
  cases p <;> cases q <;> simp_all [slot, set, List.set_comm]

@[simp] theorem set_get (p : Place) (a : Arguments) : p.set a (p.get a) = a := by
  have hself (items : List Value) (i : Nat) : items.set i (items.getD i .none) = items := by
    refine List.ext_getElem? fun j => ?_
    by_cases h : i = j
    · subst h
      by_cases hi : i < items.length <;> simp [hi]
    · simp [h]
  cases p <;> simp only [set, get, hself]

theorem isAbsent_congr {p : Place} {a b : Arguments} (h : p.get b = p.get a) :
    p.isAbsent b = p.isAbsent a := by
  cases p with
  | present i => exact congrArg (fun v => (present? v).isNone) h
  | _ => rfl

/-- What is put at a place is of no account if something else is put there later. -/
theorem setAll_set {p : Place} {places : List Place} (hp : p ∈ places) {vs : List Value}
    (hvs : vs.length = places.length) (a : Arguments) (v : Value) :
    setAll places vs (p.set a v) = setAll places vs a := by
  induction places generalizing a vs with
  | nil => cases hp
  | cons q places ih =>
    obtain ⟨w, ws, rfl⟩ := List.exists_cons_of_length_eq_add_one hvs
    rw [setAll, setAll]
    by_cases hslot : q.slot = p.slot
    · rw [set_set hslot]
    · rw [set_comm hslot]
      have hmem : p ∈ places := (List.mem_cons.1 hp).resolve_left (by rintro rfl; exact hslot rfl)
      exact ih hmem (by simpa using hvs) _

/-! ### Making values callable -/

theorem coerce_named (a : Arguments) (i : Nat) :
    (named i).coerce m a =
      (fun f => (a.1.set i f, a.2)) <$> LambdaText.coerce m (a.1.getD i .none) := by
  simp [coerce, isAbsent, get, set]

theorem coerce_present (a : Arguments) (i : Nat) :
    (present i).coerce m a =
      (fun f => (a.1.set i f, a.2)) <$>
        (if (present? (a.1.getD i .none)).isNone then pure (a.1.getD i .none)
          else LambdaText.coerce m (a.1.getD i .none)) := by
  have hself : a.1.set i (a.1.getD i .none) = a.1 := congrArg Prod.fst (set_get (present i) a)
  unfold coerce
  simp only [isAbsent, get, set]
  by_cases h : (present? (a.1.getD i .none)).isNone = true
  · simp only [h, if_true, map_pure, hself]
  · simp only [h, Bool.false_eq_true, if_false, map_eq_pure_bind]

theorem coerceAll_append (before after : List Place) (a : Arguments) :
    coerceAll m (before ++ after) a = coerceAll m before a >>= coerceAll m after := by
  induction before generalizing a with
  | nil => simp [coerceAll]
  | cons p before ih => simp [coerceAll, ih]

theorem coerceAll_machine (m m' : Machine) (places : List Place) (a : Arguments) :
    coerceAll m places a = coerceAll m' places a := by
  induction places generalizing a with
  | nil => rfl
  | cons p places ih => simp only [coerceAll, coerce, coerce_machine m m', ih]

variable {m} {p q : Place} {places : List Place} {a b : Arguments} {s t : State}

/-- A place is left as it is, or its value is replaced by what it is made into. -/
theorem exists_of_coerce (h : (p.coerce m a).ends s = some (.ok b, t)) :
    (p.isAbsent a = true ∧ b = a ∧ t = s) ∨
      ∃ f, (LambdaText.coerce m (p.get a)).ends s = some (.ok f, t) ∧ b = p.set a f := by
  unfold coerce at h
  split at h
  · next habsent =>
    cases h
    exact .inl ⟨habsent, rfl, rfl⟩
  · obtain ⟨f, u, hf, hset⟩ := Run.exists_of_ends_bind h
    cases hset
    exact .inr ⟨f, hf, rfl⟩

theorem onlyMade_of_coerce {result : Except Value Arguments} (hs : s.Sound)
    (h : (p.coerce m a).ends s = some (result, t)) : OnlyMade s t ∧ t.Sound := by
  unfold coerce at h
  split at h
  · cases h
    exact ⟨.refl s, hs⟩
  · obtain ⟨made, u, hmade, honly⟩ := ends_coerce m (p.get a) hs
    have hu := sound_of_coerce hs hmade
    cases made with
    | error e =>
      rw [Run.ends_bind_of_error hmade] at h
      cases h
      exact ⟨honly, hu⟩
    | ok f =>
      rw [Run.ends_bind_of_ok hmade] at h
      cases h
      exact ⟨honly, hu⟩

/-- Making values callable at places changes neither the number of arguments nor anything that was
there before. -/
theorem onlyMade_of_coerceAll (hs : s.Sound)
    (h : (coerceAll m places a).ends s = some (.ok b, t)) :
    OnlyMade s t ∧ t.Sound ∧ b.1.length = a.1.length ∧ b.2.length = a.2.length := by
  induction places generalizing a s with
  | nil =>
    cases h
    exact ⟨.refl _, hs, rfl, rfl⟩
  | cons p places ih =>
    obtain ⟨c, u, hc, hrest⟩ := Run.exists_of_ends_bind h
    obtain ⟨honly, hu⟩ := onlyMade_of_coerce hs hc
    obtain ⟨honly', ht, hfst, hsnd⟩ := ih hu hrest
    refine ⟨honly.trans honly', ht, ?_⟩
    rcases exists_of_coerce hc with ⟨-, rfl, -⟩ | ⟨f, -, rfl⟩
    · exact ⟨hfst, hsnd⟩
    · rw [hfst, hsnd]
      simp

/-! ### Places where nothing is left to do -/

/-- Whether the value at a place is callable, or absent where that is allowed. -/
def IsDone (a : Arguments) (p : Place) : Prop :=
  p.isAbsent a = true ∨ (p.get a).isCallable = true

theorem IsDone.coerce (h : p.IsDone a) (m : Machine) : p.coerce m a = pure a := by
  unfold Place.coerce
  split
  · rfl
  · rw [coerce_eq_pure (h.resolve_left ‹_›), pure_bind, set_get]

theorem coerceAll_of_isDone (h : ∀ p ∈ places, p.IsDone a) (m : Machine) :
    coerceAll m places a = pure a := by
  induction places with
  | nil => rfl
  | cons p places ih =>
    rw [coerceAll, (h p List.mem_cons_self).coerce, pure_bind]
    exact ih fun q hq => h q (List.mem_cons_of_mem p hq)

theorem isDone_of_coerce (hs : s.Sound) (hp : p.IsIn a)
    (h : (p.coerce m a).ends s = some (.ok b, t)) : p.IsDone b := by
  rcases exists_of_coerce h with ⟨habsent, rfl, -⟩ | ⟨f, hf, rfl⟩
  · exact .inl habsent
  · exact .inr (by rw [get_set_of_eq rfl hp]; exact callable_of_coerce hs hf)

/-- Making the value at one place callable undoes nothing at the others. -/
theorem IsDone.of_coerce (hq : q.IsDone a) (hs : s.Sound) (hp : p.IsIn a)
    (h : (p.coerce m a).ends s = some (.ok b, t)) : q.IsDone b := by
  rcases exists_of_coerce h with ⟨-, rfl, -⟩ | ⟨f, hf, rfl⟩
  · exact hq
  · by_cases hslot : q.slot = p.slot
    · exact .inr (by rw [get_set_of_eq hslot hp]; exact callable_of_coerce hs hf)
    · have hget := get_set_of_ne hslot a f
      rwa [IsDone, isAbsent_congr hget, hget]

theorem isDone_of_coerceAll (hs : s.Sound) (hplaces : ∀ p ∈ places, p.IsIn a)
    (h : (coerceAll m places a).ends s = some (.ok b, t)) :
    (∀ p ∈ places, p.IsDone b) ∧ ∀ q : Place, q.IsDone a → q.IsDone b := by
  induction places generalizing a s with
  | nil =>
    cases h
    exact ⟨fun p hp => absurd hp List.not_mem_nil, fun q hq => hq⟩
  | cons p places ih =>
    obtain ⟨hp, hplaces⟩ := List.forall_mem_cons.1 hplaces
    obtain ⟨c, u, hc, hrest⟩ := Run.exists_of_ends_bind h
    have hplaces' : ∀ q ∈ places, q.IsIn c := fun q hq => by
      rcases exists_of_coerce hc with ⟨-, rfl, -⟩ | ⟨f, -, rfl⟩
      · exact hplaces q hq
      · simpa using hplaces q hq
    obtain ⟨hdone, hkept⟩ := ih (onlyMade_of_coerce hs hc).2 hplaces' hrest
    exact ⟨List.forall_mem_cons.2 ⟨hkept p (isDone_of_coerce hs hp hc), hdone⟩,
      fun q hq => hkept q (hq.of_coerce hs hp hc)⟩

/-- What has been made callable at places is not made again. -/
theorem coerceAll_coerceAll (hs : s.Sound) (hplaces : ∀ p ∈ places, p.IsIn a)
    (h : (coerceAll m places a).ends s = some (.ok b, t)) (m' : Machine) :
    coerceAll m' places b = pure b :=
  coerceAll_of_isDone (isDone_of_coerceAll hs hplaces h).1 m'

end Place

/-! ### Operations -/

/-- The places of the functions that an operation takes, in the order in which it makes them
callable; none for operations that take no functions. -/
def Operation.places (more : Nat) : Operation → List Place
  | .call | .apply | .curry _ | .partially | .saturate | .flip | .uncurry | .returning | .negate
  | .mapItems | .foldLeft | .foldRight | .selectItems | .someItem | .everyItem => [.named 0]
  | .countedCurry _ => [.named 1]
  | .compose | .sequence => (List.range more).map .further
  | .guarded => [.named 0, .present 1, .present 2]
  | .filterAt => [.named 0, .named 2]
  | .filterSlice | .iterate => [.named 0, .named 1]
  | _ => []

/-- Whether arguments are as many as an operation is called with. -/
def Operation.Fits (op : Operation) (a : Arguments) : Prop :=
  a.1.length = op.demand.required.length + op.demand.optional.length ∧
    (op.demand.more = none → a.2 = [])

variable (m : Machine)

def Operation.withFunctions (op : Operation) (a : Arguments) : Run Value :=
  match op, a with
  | .call, ([f], more) => callOn m f more
  | .apply, ([f, v], _) => do callOn m f (← itemsOf m v)
  | .curry right, ([function], more) =>
    LambdaText.newCurried { function, held := more, count := none, right := .bool right }
  | .countedCurry right, ([n, function], more) => do
    LambdaText.newCurried
      { function, held := more, count := some (← checkCount n), right := .bool right }
  | .partially, ([function], more) => do
    return .template (← Run.fresh) { function, items := more }
  | .saturate, ([f], more) => newCombined (.saturate f more)
  | .compose, ([], fs) => newCombined (.compose fs)
  | .sequence, ([], fs) => newCombined (.sequence fs)
  | .flip, ([f], _) => newCombined (.flip f)
  | .uncurry, ([f], _) => newCombined (.uncurry f)
  | .guarded, ([f, test, fallback], _) =>
    newCombined (.guarded f (present? test) (present? fallback))
  | .returning, ([f], _) => newCombined (.returning f)
  | .filterAt, ([f, index, filter], _) => newCombined (.filterAt f index filter)
  | .filterSlice, ([f, filter, first, last], _) => newCombined (.filterSlice f filter first last)
  | .negate, ([f], _) => newCombined (.negate f)
  | .iterate, ([test, f], _) => newCombined (.iterate test f)
  | .mapItems, ([f, v], _) => walkOver m (mapping (callOn m) Run.newList f) #[] v
  | .foldLeft, ([f, start, v], _) => walkOver m (folding (callOn m) f) start v
  | .foldRight, ([f, start, v], _) => do
    (foldingBack (callOn m) f).over start (← itemsOf m v).reverse
  | .selectItems, ([f, v], _) => walkOver m (selecting (callOn m) truth Run.newList f) #[] v
  | .someItem, ([f, v], _) => walkOver m (deciding (callOn m) truth true f) (.bool false) v
  | .everyItem, ([f, v], _) => walkOver m (deciding (callOn m) truth false f) (.bool true) v
  | op, (arguments, more) => op.run m arguments more

theorem coerceAll_further (arguments done fs : List Value) :
    Place.coerceAll m ((List.range' done.length fs.length).map .further) (arguments, done ++ fs) =
      (fun fs => (arguments, done ++ fs)) <$> coerceAll m fs := by
  induction fs generalizing done with
  | nil => simp [Place.coerceAll, coerceAll]
  | cons v fs ih =>
    have hplace : (Place.further done.length).coerce m (arguments, done ++ v :: fs) =
        (fun f => (arguments, (done ++ [f]) ++ fs)) <$> coerce m v := by
      simp [Place.coerce, Place.isAbsent, Place.get, Place.set]
    have hnext (f : Value) := ih (done ++ [f])
    simp only [List.length_append, List.length_singleton] at hnext
    simp only [List.length_cons, List.range'_succ, List.map_cons, Place.coerceAll, hplace,
      coerceAll, bind_map_left, map_bind, hnext]
    simp

theorem coerceAll_row (arguments fs : List Value) :
    Place.coerceAll m ((List.range fs.length).map .further) (arguments, fs) =
      (fun fs => (arguments, fs)) <$> coerceAll m fs := by
  simpa [List.range_eq_range'] using coerceAll_further m arguments [] fs

variable {m} {op : Operation} {a b : Arguments} {s t : State}

/-- A function that may be absent is made callable if it is there. -/
theorem ends_coercePresent_bind (v : Value) (k : Option Value → Run Value) (hs : s.Sound) :
    (coercePresent m v >>= k).ends s =
      ((if (present? v).isNone then pure v else coerce m v) >>= fun f => k (present? f)).ends s := by
  cases v with
  | none => rfl
  | _ =>
    simp only [coercePresent, present?, bind_assoc, pure_bind, Option.isNone_some,
      Bool.false_eq_true, if_false]
    refine Run.ends_bind_congr fun f t h => ?_
    have hf := callable_of_coerce hs h
    cases f <;> first | rfl | cases hf

/-- An operation makes its functions callable and goes on with them. -/
theorem Operation.ends_run (m : Machine) (hfits : op.Fits a) (hs : s.Sound) :
    (op.run m a.1 a.2).ends s =
      (Place.coerceAll m (op.places a.2.length) a >>= op.withFunctions m).ends s := by
  obtain ⟨arguments, more⟩ := a
  obtain ⟨hlength, -⟩ := hfits
  cases op
  case call | curry | saturate | partially | flip | uncurry | returning | negate =>
    obtain ⟨f, rfl⟩ := List.length_eq_one_iff.1 hlength
    simp [Operation.run, places, Place.coerceAll, Place.coerce_named, withFunctions, hold,
      holdTemplate, combineOne]
  case apply | mapItems | selectItems | someItem | everyItem =>
    obtain ⟨f, v, rfl⟩ := List.length_eq_two.1 hlength
    simp [Operation.run, places, Place.coerceAll, Place.coerce_named, withFunctions,
      LambdaText.mapItems, LambdaText.selectItems, LambdaText.someItem, LambdaText.everyItem]
  case foldLeft | foldRight =>
    obtain ⟨f, v, w, rfl⟩ := List.length_eq_three.1 hlength
    simp [Operation.run, places, Place.coerceAll, Place.coerce_named, withFunctions,
      LambdaText.foldLeft, LambdaText.foldRight]
  case countedCurry =>
    obtain ⟨n, f, rfl⟩ := List.length_eq_two.1 hlength
    simp [Operation.run, places, Place.coerceAll, Place.coerce_named, withFunctions, holdCounted]
  case iterate =>
    obtain ⟨f, g, rfl⟩ := List.length_eq_two.1 hlength
    simp [Operation.run, places, Place.coerceAll, Place.coerce_named, withFunctions, combineTwo]
  case filterAt =>
    obtain ⟨f, v, g, rfl⟩ := List.length_eq_three.1 hlength
    simp [Operation.run, places, Place.coerceAll, Place.coerce_named, withFunctions, combineTwo]
  case filterSlice =>
    obtain ⟨f, arguments, rfl⟩ := List.exists_cons_of_length_eq_add_one hlength
    obtain ⟨g, v, w, rfl⟩ := List.length_eq_three.1 (Nat.succ.inj hlength)
    simp [Operation.run, places, Place.coerceAll, Place.coerce_named, withFunctions, combineTwo]
  case compose | sequence =>
    obtain rfl := List.length_eq_zero_iff.1 hlength
    simp [Operation.run, places, coerceAll_row, withFunctions, combineRow]
  case guarded =>
    obtain ⟨f, test, fallback, rfl⟩ := List.length_eq_three.1 hlength
    simp only [Operation.run, places, Place.coerceAll, Place.coerce_named, Place.coerce_present,
      combineGuarded, List.getD_cons_zero, List.getD_cons_succ, List.set_cons_zero,
      List.set_cons_succ, bind_map_left, bind_assoc, pure_bind]
    refine Run.ends_bind_congr fun f' t h => ?_
    have ht : t.Sound := sound_of_coerce hs h
    rw [ends_coercePresent_bind test _ ht]
    refine Run.ends_bind_congr fun test' u hu => ?_
    have hu : u.Sound := by
      split at hu
      · cases hu
        exact ht
      · exact sound_of_coerce ht hu
    rw [ends_coercePresent_bind fallback _ hu]
    rfl
  -- All other operations take no functions.
  all_goals rfl

theorem Operation.isIn_places (hfits : op.Fits a) {p : Place} (hp : p ∈ op.places a.2.length) :
    p.IsIn a := by
  obtain ⟨hlength, -⟩ := hfits
  cases op <;> cases p <;> simp_all [places, demand, Place.IsIn] <;> omega

theorem Operation.Fits.of_length (hfits : op.Fits a) (hfst : b.1.length = a.1.length)
    (hsnd : b.2.length = a.2.length) : op.Fits b := by
  refine ⟨hfst.trans hfits.1, fun hmore => ?_⟩
  rw [← List.length_eq_zero_iff, hsnd, hfits.2 hmore]
  rfl

/-- Functions may be made callable beforehand, if they are the first ones. -/
theorem Operation.ends_run_beforehand (m : Machine) (hfits : op.Fits a) (hs : s.Sound)
    {before after : List Place} (hplaces : op.places a.2.length = before ++ after) :
    (op.run m a.1 a.2).ends s =
      (Place.coerceAll m before a >>= fun b => op.run m b.1 b.2).ends s := by
  rw [ends_run m hfits hs, hplaces, Place.coerceAll_append, bind_assoc]
  refine Run.ends_bind_congr fun b t h => ?_
  obtain ⟨-, ht, hfst, hsnd⟩ := Place.onlyMade_of_coerceAll hs h
  have hin : ∀ p ∈ before, p.IsIn a := fun p hp =>
    isIn_places hfits (hplaces ▸ List.mem_append_left after hp)
  rw [ends_run m (hfits.of_length hfst hsnd) ht, hsnd, hplaces, Place.coerceAll_append,
    Place.coerceAll_coerceAll hs hin h, pure_bind]

/-- The first value that cannot be made callable is what an operation fails with, whatever calling
functions and advancing iterators would do. -/
theorem Operation.ends_run_refused (m : Machine) (hfits : op.Fits a) (hs : s.Sound)
    {before after : List Place} {p : Place} {u : State} {e : Value}
    (hplaces : op.places a.2.length = before ++ p :: after)
    (hbefore : (Place.coerceAll m before a).ends s = some (.ok b, u))
    (hp : (p.coerce m b).ends u = some (.error e, t)) (m' : Machine) :
    (op.run m' a.1 a.2).ends s = some (.error e, t) := by
  rw [ends_run m' hfits hs, hplaces, Place.coerceAll_machine m' m, Place.coerceAll_append,
    bind_assoc, Run.ends_bind_of_ok hbefore]
  exact Run.ends_bind_of_error (Run.ends_bind_of_error hp _) _

end LambdaText
