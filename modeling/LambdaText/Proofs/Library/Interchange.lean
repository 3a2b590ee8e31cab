import LambdaText.Proofs.Eval.CompileAnew
import LambdaText.Proofs.Library.Places

/-!
# Functions and texts that stand for them

A text may be passed to an operation wherever the function may be passed that the text is made into.
For the first functions of an operation nothing at all changes. A function that is made before those
in front of it changes what the compiler keeps: which texts share a function, and so whose global
names earlier calls have changed. Otherwise it changes nothing. What an operation has made is the
same in whatever environment it is called later.
-/

namespace LambdaText

open LambdaText.Code LambdaText.Function LambdaText.Log LambdaText.Text

/-! ### The same but for identity -/

/-- Whether two values are the same, or compiled texts with one source and one code. -/
inductive MadeAlike : Value → Value → Prop
  | same (v : Value) : MadeAlike v v
  | made {recipe : Except Value (Source × Routine)} {v w : Value} (hv : MadeBy recipe (.ok v))
    (hw : MadeBy recipe (.ok w)) : MadeAlike v w

/-- Calls a compiled text with code over global names. -/
def callMade (code : Routine) (globals : Nat) (positions : List Value)
    (keywords : List (String × Value)) : Run Value :=
  if (keywords.lookup "self").isSome then throw selfError
  else invoke (machineAt (topLevel - 2)) code ⟨[], globals, ""⟩ code.name [] positions keywords

theorem ends_call_made (k : Nat) (source : Source) (l : Nat) (code : Routine) (g : Nat)
    (positions : List Value) (keywords : List (String × Value)) (s : State) :
    (machine.call (.compiled k source (.function l code ⟨[], g, ""⟩ code.name [])) positions
      keywords).ends s = (callMade code g positions keywords).ends s := by
  rw [ends_call_compiled, callMade]
  split <;> rfl

/-- Whether two cells hold the names in two states that some code was compiled with: in both the
built-in names, or in both these and the name of a block. -/
inductive SameNames (code : Routine) (u u' : State) (g g' : Nat) : Prop
  | expression (hg : u.cells[g]? = some (.dict builtinEntries))
    (hg' : u'.cells[g']? = some (.dict builtinEntries))
  | block {l l' : Nat}
    (hg : u.cells[g]? = some (.dict (addEntry builtinEntries (.text blockName)
      (.function l code ⟨[], g, ""⟩ code.name []))))
    (hg' : u'.cells[g']? = some (.dict (addEntry builtinEntries (.text blockName)
      (.function l' code ⟨[], g', ""⟩ code.name []))))

/-- Whether two values are the same, or run one code in every call, each over global names of its
own, which on a condition are the same in two states. -/
inductive RunAlike (kept : Prop) (u u' : State) : Value → Value → Prop
  | same (v : Value) : RunAlike kept u u' v v
  | made {v w : Value} {code : Routine} {g g' : Nat}
    (calls : ∀ positions keywords s,
      (machine.call v positions keywords).ends s = (callMade code g positions keywords).ends s ∧
      (machine.call w positions keywords).ends s = (callMade code g' positions keywords).ends s)
    (names : kept → SameNames code u u' g g') : RunAlike kept u u' v w

variable {m : Machine} {s t u u' : State}

/-- Whether two values are the same but for identity, and if they are not the same have the global
names in two states that they were compiled with, unless compilers keep others. -/
structure AlikeIn (s u u' : State) (f g : Value) : Prop where
  alike : MadeAlike f g
  names : s.KeepsFirstNames → f = g ∨ u.HasFirstNames f ∧ u'.HasFirstNames g

theorem AlikeIn.refl (s u u' : State) (f : Value) : AlikeIn s u u' f f := ⟨.same f, fun _ => .inl rfl⟩

theorem AlikeIn.mono {v v' : State} {f g : Value} (h : AlikeIn s u u' f g) (hu : OnlyMade u v)
    (hu' : OnlyMade u' v') : AlikeIn s v v' f g :=
  ⟨h.alike, fun hs => (h.names hs).imp_right fun hfirst =>
    ⟨hfirst.1.mono hu.cells, hfirst.2.mono hu'.cells⟩⟩

theorem AlikeIn.runAlike {f g : Value} (h : AlikeIn s u u' f g) :
    RunAlike s.KeepsFirstNames u u' f g := by
  obtain ⟨halike, hnames⟩ := h
  cases halike with
  | same => exact .same f
  | made hf hg =>
    cases hf with | compiled source code k l a =>
    cases hg with | compiled _ _ k' l' a' =>
    by_cases hsame : Value.compiled k source (.function l code ⟨[], a, ""⟩ code.name []) =
        .compiled k' source (.function l' code ⟨[], a', ""⟩ code.name [])
    · rw [hsame]
      exact .same _
    · refine .made (fun positions keywords s => ⟨ends_call_made .., ends_call_made ..⟩) fun hs => ?_
      obtain ⟨hfirst, hfirst'⟩ := (hnames hs).resolve_left hsame
      change u.cells[a]? = some (.dict (firstNames source _)) at hfirst
      change u'.cells[a']? = some (.dict (firstNames source _)) at hfirst'
      unfold firstNames at hfirst hfirst'
      split at hfirst
      · exact .block hfirst (by rwa [if_pos ‹_›] at hfirst')
      · exact .expression hfirst (by rwa [if_neg ‹_›] at hfirst')

/-- How two results compare: both are one error, or both are values that compare in this way. -/
inductive EndsAlike {α : Type} (R : α → α → Prop) : Except Value α → Except Value α → Prop
  | error (e : Value) : EndsAlike R (.error e) (.error e)
  | ok {a b : α} (h : R a b) : EndsAlike R (.ok a) (.ok b)

/-- Whether a value is written in the same way when there are more cells, as every value is whose
cells exist. -/
def State.Holds (s : State) (v : Value) : Prop :=
  ∀ t : State, (∃ more, t.cells = s.cells ++ more) →
    ((shown v).ends t).map Prod.fst = ((shown v).ends s).map Prod.fst

/-- What may stand at one place in two runs that have come to these states, the second of which
started with more functions made than the first. -/
inductive MadeEarly (s u u' : State) : Value → Value → Prop
  | same {v : Value} (h : s.Holds v) : MadeEarly s u u' v v
  | text {text : String} {w : Value} (h : MadeBy (textRecipe s.sharedSettings text) (.ok w))
    (hw : s.KeepsFirstNames → u'.HasFirstNames w) : MadeEarly s u u' (.text text) w
  | done {f g : Value} (hf : f.isCallable = true) (hg : g.isCallable = true)
    (h : AlikeIn s u u' f g) : MadeEarly s u u' f g

theorem MadeEarly.mono {v v' : State} {f g : Value} (h : MadeEarly s u u' f g) (hu : OnlyMade u v)
    (hu' : OnlyMade u' v') : MadeEarly s v v' f g := by
  cases h with
  | same h => exact .same h
  | text h hw => exact .text h fun hs => (hw hs).mono hu'.cells
  | done hf hg h => exact .done hf hg (h.mono hu hu')

theorem ends_coerce_refused_twice {v : Value} (htext : ∀ text, v ≠ .text text)
    (hv : v.isCallable = false) (hholds : s.Holds v) (hu : OnlyMade s u) (hu' : OnlyMade s u') :
    ∃ e t t', (coerce m v).ends u = some (.error e, t) ∧
      (coerce m v).ends u' = some (.error e, t') := by
  obtain ⟨e, log, hend, hshown⟩ := ends_coerce_refused m htext hv u
  obtain ⟨e', log', hend', hshown'⟩ := ends_coerce_refused m htext hv u'
  obtain ⟨look, hlook⟩ := reads_shown v
  have hsame : look u.cells = look u'.cells := by
    have h := (hholds u hu.cells).trans (hholds u' hu'.cells).symm
    rw [hlook, hlook] at h
    exact Option.some.inj h
  have heq : e = e' := by
    rw [Run.ends_bind, hlook, hsame] at hshown
    rw [Run.ends_bind, hlook] at hshown'
    cases h : look u'.cells with
    | error _ =>
      rw [h] at hshown hshown'
      cases hshown
      cases hshown'
      rfl
    | ok _ =>
      rw [h] at hshown hshown'
      cases hshown
      cases hshown'
      rfl
  subst heq
  exact ⟨e, _, _, hend, hend'⟩

/-- Making a value callable now, and what it was made into earlier. -/
theorem ends_coerce_early {v w : Value} (h : MadeEarly s u u' v w) (hu : OnlyMade s u)
    (hu' : OnlyMade s u') (husound : u.Sound) (husound' : u'.Sound) :
    ∃ result result' t t', (coerce m v).ends u = some (result, t) ∧
      (coerce m w).ends u' = some (result', t') ∧ OnlyMade u t ∧ OnlyMade u' t' ∧
      EndsAlike (fun f g => AlikeIn s t t' f g ∧ MadeEarly s t t' f g) result result' := by
  have hmade {text : String} {f g : Value} {t t' : State}
      (hf : MadeBy (textRecipe s.sharedSettings text) (.ok f))
      (hg : MadeBy (textRecipe s.sharedSettings text) (.ok g))
      (hnames : s.KeepsFirstNames → t.HasFirstNames f ∧ t'.HasFirstNames g) :
      AlikeIn s t t' f g ∧ MadeEarly s t t' f g :=
    have halike : AlikeIn s t t' f g := ⟨.made hf hg, fun hs => .inr (hnames hs)⟩
    ⟨halike, .done hf.isCallable hg.isCallable halike⟩
  cases h with
  | same hholds =>
    by_cases htext : ∃ text, v = .text text
    · obtain ⟨text, rfl⟩ := htext
      obtain ⟨result, t, hend, honly, hresult, hnames⟩ := ends_coerce_text m text husound
      obtain ⟨result', t', hend', honly', hresult', hnames'⟩ := ends_coerce_text m text husound'
      rw [hu.settings] at hresult
      rw [hu'.settings] at hresult'
      refine ⟨result, result', t, t', hend, hend', honly, honly', ?_⟩
      cases result with
      | error e =>
        cases result' with
        | error e' =>
          obtain rfl := hresult.error_eq hresult'
          exact .error e
        | ok g => exact absurd hresult hresult'.ok
      | ok f =>
        cases result' with
        | error e => exact absurd hresult' hresult.ok
        | ok g => exact .ok (hmade hresult hresult' fun hs =>
            ⟨hnames (hu.names hs) f rfl, hnames' (hu'.names hs) g rfl⟩)
    · cases hv : v.isCallable with
      | true => exact ⟨_, _, _, _, coerce_callable hv m u, coerce_callable hv m u', .refl u, .refl u',
          .ok ⟨.refl s u u' v, .same hholds⟩⟩
      | false =>
        obtain ⟨e, t, t', hend, hend'⟩ :=
          ends_coerce_refused_twice (m := m) (not_exists.1 htext) hv hholds hu hu'
        exact ⟨_, _, _, _, hend, hend', onlyMade_of_coerce husound hend,
          onlyMade_of_coerce husound' hend', .error e⟩
  | @text text _ hw hfirst =>
    obtain ⟨result, t, hend, honly, hresult, hnames⟩ := ends_coerce_text m text husound
    rw [hu.settings] at hresult
    refine ⟨result, _, t, _, hend, coerce_callable hw.isCallable m u', honly, .refl u', ?_⟩
    cases result with
    | error e => exact absurd hresult hw.ok
    | ok f => exact .ok (hmade hresult hw fun hs => ⟨hnames (hu.names hs) f rfl, hfirst hs⟩)
  | done hv hw halike => exact ⟨_, _, _, _, coerce_callable hv m u, coerce_callable hw m u',
      .refl u, .refl u', .ok ⟨halike, .done hv hw halike⟩⟩

/-- What is made now of what stands in the second run may stand there as well. -/
theorem MadeEarly.of_coerce {v w f : Value} (h : MadeEarly s u u' v w) (hu' : OnlyMade s u')
    (husound : u'.Sound) (hf : (coerce m w).ends u' = some (.ok f, t)) : MadeEarly s u t v f := by
  have honly := onlyMade_of_coerce husound hf
  have hkept (hw : w.isCallable = true) : f = w := by
    rw [coerce_callable hw] at hf
    cases hf
    rfl
  cases h with
  | same hholds =>
    by_cases htext : ∃ text, v = .text text
    · obtain ⟨text, rfl⟩ := htext
      obtain ⟨result, t', hend, -, hmade, hnames⟩ := ends_coerce_text m text husound
      rw [hend] at hf
      cases hf
      exact .text (hu'.settings ▸ hmade) fun hs => hnames (hu'.names hs) f rfl
    · cases hv : v.isCallable with
      | true =>
        rw [hkept hv]
        exact .same hholds
      | false =>
        obtain ⟨e, log, hend, -⟩ := ends_coerce_refused m (not_exists.1 htext) hv u'
        rw [hend] at hf
        cases hf
  | text hw hfirst =>
    rw [hkept hw.isCallable]
    exact .text hw fun hs => (hfirst hs).mono honly.cells
  | done hv hw halike =>
    rw [hkept hw]
    exact .done hv hw (halike.mono (.refl u) honly)

namespace Place

variable {p : Place} {places : List Place} {a b : Arguments}

theorem isAbsent_of_ne_none (h : p.get a ≠ .none) : p.isAbsent a = false := by
  cases p with
  | present i =>
    change (present? (a.1.getD i .none)).isNone = false
    change a.1.getD i .none ≠ .none at h
    cases hget : a.1.getD i .none with
    | none => exact absurd hget h
    | _ => rfl
  | _ => rfl

theorem isAbsent_of_madeEarly (h : MadeEarly s u u' (p.get a) (p.get b)) :
    p.isAbsent a = p.isAbsent b := by
  have hcallable {v : Value} (hv : v.isCallable = true) : v ≠ .none := by
    rintro rfl
    cases hv
  generalize ha : p.get a = v at h
  generalize hb : p.get b = w at h
  cases h with
  | same => exact isAbsent_congr (ha.trans hb.symm)
  | text hw =>
    rw [isAbsent_of_ne_none (by rw [ha]; exact Value.noConfusion),
      isAbsent_of_ne_none (by rw [hb]; exact hcallable hw.isCallable)]
  | done hv hw =>
    rw [isAbsent_of_ne_none (by rw [ha]; exact hcallable hv),
      isAbsent_of_ne_none (by rw [hb]; exact hcallable hw)]

/-- Making the value at a place callable in two runs. -/
theorem ends_coerce_early (h : MadeEarly s u u' (p.get a) (p.get b)) (hu : OnlyMade s u)
    (hu' : OnlyMade s u') (husound : u.Sound) (husound' : u'.Sound) :
    ∃ result result' t t', (p.coerce m a).ends u = some (result.map fun f => p.set a f, t) ∧
      (p.coerce m b).ends u' = some (result'.map fun f => p.set b f, t') ∧
      EndsAlike (fun f g => AlikeIn s t t' f g ∧ MadeEarly s t t' f g) result result' := by
  have habsent := isAbsent_of_madeEarly h
  unfold Place.coerce
  rw [← habsent]
  cases hp : p.isAbsent a with
  | true =>
    have hnone {c : Arguments} (hc : p.isAbsent c = true) : p.get c = .none := by
      by_contra hne
      rw [isAbsent_of_ne_none hne] at hc
      cases hc
    have hsame : p.get b = p.get a := (hnone (habsent ▸ hp)).trans (hnone hp).symm
    rw [hsame] at h
    refine ⟨.ok (p.get a), .ok (p.get b), u, u', ?_, ?_, .ok ⟨?_, ?_⟩⟩
    · simp [Except.map]
    · simp [Except.map]
    · rw [hsame]
      exact .refl s u u' _
    · rw [hsame]
      exact h
  | false =>
    obtain ⟨result, result', t, t', hend, hend', -, -, halike⟩ :=
      LambdaText.ends_coerce_early (m := m) h hu hu' husound husound'
    simp only [Bool.false_eq_true, if_false]
    refine ⟨result, result', t, t', ?_, ?_, halike⟩
    · rw [Run.ends_bind, hend]
      cases result <;> rfl
    · rw [Run.ends_bind, hend']
      cases result' <;> rfl

/-- Making the values at places callable in two runs. -/
theorem ends_coerceAll_early
    (h : ∀ p ∈ places, p.IsIn a ∧ p.IsIn b ∧ MadeEarly s u u' (p.get a) (p.get b))
    (hu : OnlyMade s u) (hu' : OnlyMade s u') (husound : u.Sound) (husound' : u'.Sound) :
    ∃ result result' t t',
      (coerceAll m places a).ends u = some (result.map fun fs => setAll places fs a, t) ∧
      (coerceAll m places b).ends u' = some (result'.map fun fs => setAll places fs b, t') ∧
      EndsAlike (List.Forall₂ (AlikeIn s t t')) result result' ∧ OnlyMade u t ∧ OnlyMade u' t' ∧
      ∀ fs, result' = .ok fs → fs.length = places.length := by
  induction places generalizing a b u u' with
  | nil =>
    exact ⟨.ok [], .ok [], u, u', rfl, rfl, .ok .nil, .refl u, .refl u', fun fs hfs => by
      cases hfs
      rfl⟩
  | cons p places ih =>
    obtain ⟨⟨hina, hinb, hp⟩, hplaces⟩ := List.forall_mem_cons.1 h
    obtain ⟨result, result', t, t', hend, hend', halike⟩ :=
      ends_coerce_early (m := m) hp hu hu' husound husound'
    obtain ⟨honly, ht⟩ := onlyMade_of_coerce husound hend
    obtain ⟨honly', ht'⟩ := onlyMade_of_coerce husound' hend'
    cases halike with
    | error e =>
      exact ⟨.error e, .error e, t, t', Run.ends_bind_of_error hend _,
        Run.ends_bind_of_error hend' _, .error e, honly, honly', fun fs hfs => by cases hfs⟩
    | @ok f g hfg =>
      have hnext : ∀ q ∈ places, q.IsIn (p.set a f) ∧ q.IsIn (p.set b g) ∧
          MadeEarly s t t' (q.get (p.set a f)) (q.get (p.set b g)) := by
        intro q hq
        obtain ⟨hqa, hqb, hmade⟩ := hplaces q hq
        refine ⟨(isIn_set ..).2 hqa, (isIn_set ..).2 hqb, ?_⟩
        by_cases hslot : q.slot = p.slot
        · rw [get_set_of_eq hslot hina, get_set_of_eq hslot hinb]
          exact hfg.2
        · rw [get_set_of_ne hslot, get_set_of_ne hslot]
          exact hmade.mono honly honly'
      obtain ⟨rest, rest', v, v', hrest, hrest', hall, hv, hv', hlength⟩ :=
        ih hnext (hu.trans honly) (hu'.trans honly') ht ht'
      refine ⟨rest.map (f :: ·), rest'.map (g :: ·), v, v', ?_, ?_, ?_, honly.trans hv,
        honly'.trans hv', ?_⟩
      · rw [coerceAll, Run.ends_bind_of_ok hend, hrest]
        cases rest <;> rfl
      · rw [coerceAll, Run.ends_bind_of_ok hend', hrest']
        cases rest' <;> rfl
      · cases hall with
        | error e => exact .error e
        | ok hall => exact .ok (.cons (hfg.1.mono hv hv') hall)
      · intro fs hfs
        cases rest' with
        | error e => cases hfs
        | ok gs =>
          cases hfs
          rw [List.length_cons, List.length_cons, hlength gs rfl]

/-- Making values callable at some places replaces them by what they are made into. -/
theorem madeEarly_of_coerceAll {early : List Place} {c : Arguments}
    (hearly : ∀ p ∈ early, p ∈ places ∧ p.IsIn b)
    (hb : ∀ q ∈ places, MadeEarly s s u (q.get a) (q.get b)) (hu : OnlyMade s u) (husound : u.Sound)
    (h : (coerceAll m early b).ends u = some (.ok c, t)) :
    (∀ q ∈ places, MadeEarly s s t (q.get a) (q.get c)) ∧
      ∀ fs, fs.length = places.length → setAll places fs c = setAll places fs b := by
  induction early generalizing b u with
  | nil =>
    cases h
    exact ⟨hb, fun fs _ => rfl⟩
  | cons p early ih =>
    obtain ⟨⟨hp, hin⟩, hearly⟩ := List.forall_mem_cons.1 hearly
    obtain ⟨d, v, hd, hrest⟩ := Run.exists_of_ends_bind h
    obtain ⟨honly, hv⟩ := onlyMade_of_coerce husound hd
    rcases exists_of_coerce hd with ⟨-, rfl, rfl⟩ | ⟨f, hf, rfl⟩
    · exact ih hearly hb hu husound hrest
    · have hnext : ∀ q ∈ places, MadeEarly s s v (q.get a) (q.get (p.set b f)) := fun q hq => by
        by_cases hslot : q.slot = p.slot
        · rw [get_set_of_eq hslot hin, get_congr hslot a]
          exact (hb p hp).of_coerce hu husound hf
        · rw [get_set_of_ne hslot]
          exact (hb q hq).mono (.refl s) honly
      obtain ⟨hmade, hset⟩ := ih (fun q hq => ⟨(hearly q hq).1, (isIn_set ..).2 (hearly q hq).2⟩)
        hnext (hu.trans honly) hv hrest
      exact ⟨hmade, fun fs hfs => (hset fs hfs).trans (setAll_set hp hfs b f)⟩

end Place

/-! ### Functions made early -/

variable {op : Operation} {a b : Arguments}

/-- What an operation does with functions at its places, or with the error that there are none. -/
def Operation.goOn (m : Machine) (op : Operation) (a : Arguments) :
    Except Value (List Value) → Run Value
  | .error e => throw e
  | .ok fs => op.withFunctions m (Place.setAll (op.places a.2.length) fs a)

theorem Operation.ends_run_goOn (m : Machine) (hfits : op.Fits a) (hs : s.Sound)
    {result : Except Value (List Value)}
    (h : (Place.coerceAll m (op.places a.2.length) a).ends s =
      some (result.map fun fs => Place.setAll (op.places a.2.length) fs a, t)) :
    (op.run m a.1 a.2).ends s = (op.goOn m a result).ends t := by
  rw [ends_run m hfits hs]
  cases result with
  | error e => exact Run.ends_bind_of_error h _
  | ok fs => exact Run.ends_bind_of_ok h _

/-- An operation with functions some of which are made early, in any order, fails with the same error
as with the values that they are made from, or goes on with functions that are the same but for their
identity, and that have the same global names if no call has changed those of kept texts. -/
theorem Operation.ends_run_early (m : Machine) (hfits : op.Fits a) (hs : s.Sound)
    (hholds : ∀ p ∈ op.places a.2.length, s.Holds (p.get a)) {early : List Place}
    (hearly : ∀ p ∈ early, p ∈ op.places a.2.length)
    (h : (Place.coerceAll m early a).ends s = some (.ok b, t)) :
    ∃ result result' u u', (op.run m a.1 a.2).ends s = (op.goOn m a result).ends u ∧
      (op.run m b.1 b.2).ends t = (op.goOn m a result').ends u' ∧
      EndsAlike (List.Forall₂ fun f g =>
        MadeAlike f g ∧ RunAlike s.KeepsFirstNames u u' f g) result result' ∧
      OnlyMade s u ∧ OnlyMade s u' := by
  have hin : ∀ q ∈ op.places a.2.length, q.IsIn a := fun q hq => isIn_places hfits hq
  obtain ⟨honly, ht, hfst, hsnd⟩ := Place.onlyMade_of_coerceAll hs h
  have hfits' : op.Fits b := hfits.of_length hfst hsnd
  have hin' : ∀ q ∈ op.places a.2.length, q.IsIn b := fun q hq =>
    isIn_places hfits' (by rwa [hsnd])
  obtain ⟨hmade, hset⟩ := Place.madeEarly_of_coerceAll
    (fun p hp => ⟨hearly p hp, hin p (hearly p hp)⟩) (fun q hq => .same (hholds q hq)) (.refl s) hs h
  obtain ⟨result, result', u, u', hend, hend', halike, hu, hu', hlength⟩ :=
    Place.ends_coerceAll_early (m := m) (fun q hq => ⟨hin q hq, hin' q hq, hmade q hq⟩) (.refl s)
      honly hs ht
  have hanswer : EndsAlike (List.Forall₂ fun f g =>
      MadeAlike f g ∧ RunAlike s.KeepsFirstNames u u' f g) result result' := by
    cases halike with
    | error e => exact .error e
    | ok hall => exact .ok (hall.imp fun _ _ hfg => ⟨hfg.alike, hfg.runAlike⟩)
  have hresult : result'.map (fun fs => Place.setAll (op.places a.2.length) fs b) =
      result'.map fun fs => Place.setAll (op.places a.2.length) fs a := by
    cases result' with
    | error e => rfl
    | ok fs => exact congrArg Except.ok (hset fs (hlength fs rfl))
  refine ⟨result, result', u, u', ends_run_goOn m hfits hs hend, ?_, hanswer, hu, honly.trans hu'⟩
  rw [ends_run m hfits' ht, hsnd, Run.ends_bind, hend', hresult]
  cases result' <;> rfl

/-! ### Later calls -/

/-- What may happen after an operation has made something. -/
inductive Later where
  /-- A call of any value. -/
  | call (f : Value) (positions : List Value) (keywords : List (String × Value))
  /-- Gives the environment these variables. -/
  | setVariables (environment : List (String × String))
  /-- Drops the shared compiler. -/
  | reset

namespace Later

def isCall : Later → Bool
  | .call _ _ _ => true
  | _ => false

/-- Runs everything in turn and keeps how the calls end. -/
def runAll : List Later → Run (List (Except Value Value))
  | [] => return []
  | .call f positions keywords :: rest => do
    let result ← attempted (machine.call f positions keywords)
    return result :: (← runAll rest)
  | .setVariables environment :: rest => do
    modify fun s => { s with environment }
    runAll rest
  | .reset :: rest => do
    resetShared
    runAll rest

/-- Calls end as they would if nothing but calls happened. -/
theorem ends_runAll (events : List Later) (s : State) (log : Array Record)
    (environment : List (String × String)) (shared : Option Nat) :
    ∃ log' environment' shared',
      (runAll events).ends (s.within log environment shared) =
        ((runAll (events.filter isCall)).ends s).map fun e =>
          (e.1, e.2.within log' environment' shared') := by
  induction events generalizing s log environment shared with
  | nil => exact ⟨log, environment, shared, rfl⟩
  | cons event events ih =>
    cases event with
    | setVariables environment' => exact ih s log environment' shared
    | reset => exact ih s log environment none
    | call f positions keywords =>
      have hdetached : (attempted (machine.call f positions keywords)).Detached := inferInstance
      obtain ⟨log', hcall⟩ := hdetached.blind s log environment shared
      simp only [List.filter_cons, isCall, if_true, runAll]
      rw [Run.ends_bind, Run.ends_bind, hcall]
      cases (attempted (machine.call f positions keywords)).ends s with
      | none => exact ⟨log, environment, shared, rfl⟩
      | some e =>
        obtain ⟨result, t⟩ := e
        cases result with
        | error e => exact ⟨log', environment, shared, rfl⟩
        | ok result =>
          obtain ⟨log'', environment', shared', hrest⟩ := ih t log' environment shared
          refine ⟨log'', environment', shared', ?_⟩
          simp only [Option.map_some]
          rw [Run.ends_bind, Run.ends_bind, hrest]
          cases (runAll (events.filter isCall)).ends t with
          | none => rfl
          | some e =>
            obtain ⟨results, u⟩ := e
            cases results <;> rfl

end Later

/-! ### Operations -/

/-- What is made callable is not changed by making it callable again. -/
theorem coerce_again {s : State} (hs : s.Sound) (v : Value) :
    (coerce machine v >>= fun f => (f, ·) <$> coerce machine f).ends s =
      ((fun f => (f, f)) <$> coerce machine v).ends s := by
  rw [map_eq_pure_bind]
  refine Run.ends_bind_congr fun f t h => ?_
  rw [coerce_coerce hs h, map_pure]

/-- The first value that cannot be made callable is what an operation fails with, whatever calling
functions and advancing iterators would do, and then nothing that was there before has changed. -/
theorem Operation.onlyMade_of_refused (hfits : op.Fits a) (hs : s.Sound) {before after : List Place}
    {p : Place} {e : Value} (hplaces : op.places a.2.length = before ++ p :: after)
    (hbefore : (Place.coerceAll machine before a).ends s = some (.ok b, u))
    (hp : (p.coerce machine b).ends u = some (.error e, t)) :
    OnlyMade s t ∧ ∀ m, (op.run m a.1 a.2).ends s = some (.error e, t) := by
  obtain ⟨honly, hu, -⟩ := Place.onlyMade_of_coerceAll hs hbefore
  exact ⟨honly.trans (Place.onlyMade_of_coerce hu hp).1,
    ends_run_refused machine hfits hs hplaces hbefore hp⟩

/-- Texts and functions are interchangeable, and functions are made first and once. In every sound
state, as all states are that operations and calls lead to, and for all arguments: the first
functions may be made beforehand, and nothing changes; any functions may be made beforehand in any
order, and the operation fails with the same error or goes on with functions that are the same but
for their identity and run one code in every call, over the same global names if no call has changed
those of kept texts; what is made callable is not changed by making it callable again; the first
value that cannot be made callable is what the operation fails with, whatever calling functions and
advancing iterators would do, and then nothing that was there before has changed; and every call of
what the operation has made ends as if the environment and the shared compiler had not been changed
since. -/
theorem Operation.coercion_up_front (op : Operation) {a : Arguments} (hfits : op.Fits a)
    {s : State} (hs : s.Sound) :
    (∀ before after, op.places a.2.length = before ++ after →
      (op.run machine a.1 a.2).ends s =
        (Place.coerceAll machine before a >>= fun b => op.run machine b.1 b.2).ends s) ∧
    (∀ early b t, (∀ p ∈ early, p ∈ op.places a.2.length) →
      (∀ p ∈ op.places a.2.length, s.Holds (p.get a)) →
      (Place.coerceAll machine early a).ends s = some (.ok b, t) →
      ∃ result result' u u',
        (op.run machine a.1 a.2).ends s = (op.goOn machine a result).ends u ∧
        (op.run machine b.1 b.2).ends t = (op.goOn machine a result').ends u' ∧
        EndsAlike (List.Forall₂ fun f g =>
          MadeAlike f g ∧ RunAlike s.KeepsFirstNames u u' f g) result result' ∧
        OnlyMade s u ∧ OnlyMade s u') ∧
    (∀ v, (coerce machine v >>= fun f => (f, ·) <$> coerce machine f).ends s =
      ((fun f => (f, f)) <$> coerce machine v).ends s) ∧
    (∀ before p after b u e t, op.places a.2.length = before ++ p :: after →
      (Place.coerceAll machine before a).ends s = some (.ok b, u) →
      (p.coerce machine b).ends u = some (.error e, t) →
      OnlyMade s t ∧ ∀ m, (op.run m a.1 a.2).ends s = some (.error e, t)) ∧
    ∀ f t, (op.run machine a.1 a.2).ends s = some (.ok f, t) →
      ∀ events log environment shared, ∃ log' environment' shared',
        (Later.runAll events).ends (t.within log environment shared) =
          ((Later.runAll (events.filter Later.isCall)).ends t).map fun e =>
            (e.1, e.2.within log' environment' shared') :=
  ⟨fun _ _ hplaces => ends_run_beforehand machine hfits hs hplaces,
    fun _ _ _ hearly hholds h => ends_run_early machine hfits hs hholds hearly h, coerce_again hs,
    fun _ _ _ _ _ _ _ hplaces hbefore hp => onlyMade_of_refused hfits hs hplaces hbefore hp,
    fun _ t _ events log environment shared => Later.ends_runAll events t log environment shared⟩

/-- A text and a number for a composition: the number is refused after the text was made into a
function, and in the same way if the function is passed. -/
theorem Operation.coercion_up_front_compose :
    let a : Arguments := ([], [.text (String.ofList ['x']), .int 1])
    Operation.compose.Fits a ∧ State.Sound {} ∧ ∃ b u e t,
      (Place.coerceAll machine [.further 0] a).ends {} = some (.ok b, u) ∧
      (Operation.compose.run machine b.1 b.2).ends u = some (.error e, t) ∧
      ∀ m, (Operation.compose.run m a.1 a.2).ends {} = some (.error e, t) := by
  intro a
  have hfits : Operation.compose.Fits a := ⟨rfl, fun h => by cases h⟩
  obtain ⟨hfirst, -, -, hrefused, -⟩ := coercion_up_front .compose hfits State.sound_initial
  obtain ⟨result, u, hend, -, hmade, -⟩ :=
    ends_coerce_text machine (String.ofList ['x']) State.sound_initial
  have hrecipe : (textRecipe (State.sharedSettings {}) (String.ofList ['x'])).isOk = true := by
    decide +kernel
  cases result with
  | error e =>
    generalize textRecipe (State.sharedSettings {}) (String.ofList ['x']) = recipe at hmade hrecipe
    cases hmade
    cases hrecipe
  | ok f =>
    have hbefore : (Place.coerceAll machine [.further 0] a).ends {} =
        some (.ok ([], [f, .int 1]), u) :=
      Run.ends_bind_of_ok (Run.ends_bind_of_ok hend _) _
    obtain ⟨e, log, hint, -⟩ := ends_coerce_refused machine
      (show ∀ text, Value.int 1 ≠ .text text from fun _ => Value.noConfusion) rfl u
    have hall := (hrefused [.further 0] (.further 1) [] _ _ _ _ rfl hbefore
      (Run.ends_bind_of_error hint _)).2
    refine ⟨hfits, State.sound_initial, _, u, e, _, hbefore, ?_, hall⟩
    rw [← hall machine, hfirst [.further 0] [.further 1] rfl, Run.ends_bind_of_ok hbefore]

/-! ### Texts that are kept -/

/-- A function that changes its own global names, called where compilers keep one text. -/
def keepingText : Value := .text "x->globals().setdefault('c',x)"

/-- Composes the function with the one of another text, which may be made before, and calls the
composition. -/
def composeKept (isEarly : Bool) : Run Value := do
  let kept ← coerce machine keepingText
  let _ ← machine.call kept [.int 1] []
  let plain ← if isEarly then coerce machine (.text "x->x") else pure (.text "x->x")
  let composed ← Operation.compose.run machine [] [keepingText, plain]
  machine.call composed [.int 5] []

/-- A function that is made before those in front of it may change the outcome: if it is passed as a
text, the function in front is found with the global names that a call has changed; if it was made
before, that function is not kept any more. -/
theorem kept_names_interfere :
    let s : State := { environment := [("STRLAMBDA_CACHE_SIZE", "1")] }
    (∃ t, (composeKept false).ends s = some (.ok (.int 1), t)) ∧
      ∃ t, (composeKept true).ends s = some (.ok (.int 5), t) :=
  ⟨Run.exists_ends_of_comesTo (by decide +kernel), Run.exists_ends_of_comesTo (by decide +kernel)⟩

end LambdaText
