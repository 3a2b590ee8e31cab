import LambdaText.Proofs.Veiled.Evaluator

/-!
# Scopes that give names the same values

A scope is used for nothing but looking names up by an expression that makes no function and no
comprehension and gives neither names values nor items, unless a scope is shown on the way. Where
two scopes give all names the same values, and go on to do so, such an expression ends in the same
way in both.
-/

namespace LambdaText.Code

/-! ### Direct expressions -/

mutual

/-- Whether an expression makes no function and no comprehension and gives no name a value and no
item to a generator. -/
def Expr.isDirect : Expr → Bool
  | .constant _ | .name _ => true
  | .template pieces => arePiecesDirect pieces
  | .tuple items | .list items | .set items => areDirect items
  | .dict entries => areEntriesDirect entries
  | .unary _ e | .attribute e _ | .star e | .await e => e.isDirect
  | .binary _ a b | .subscript a b => a.isDirect && b.isDirect
  | .connective _ es => areDirect es
  | .comparison e rest => e.isDirect && areComparandsDirect rest
  | .conditional a b c => a.isDirect && b.isDirect && c.isDirect
  | .slice a b c => isOptionDirect a && isOptionDirect b && isOptionDirect c
  | .call f arguments => f.isDirect && areArgumentsDirect arguments
  | .lambda _ _ | .comprehension _ _ _ _ | .assignment _ _ | .yield _ | .yieldFrom _ => false

def areDirect : List Expr → Bool
  | [] => true
  | e :: rest => e.isDirect && areDirect rest

def isOptionDirect : Option Expr → Bool
  | none => true
  | some e => e.isDirect

/-- Whether the fields of a template are direct. -/
def arePiecesDirect : List Piece → Bool
  | [] => true
  | .text _ :: rest => arePiecesDirect rest
  | .field e _ format :: rest => e.isDirect && arePiecesDirect format && arePiecesDirect rest

def areEntriesDirect : List Entry → Bool
  | [] => true
  | .pair k v :: rest => k.isDirect && v.isDirect && areEntriesDirect rest
  | .spread e :: rest => e.isDirect && areEntriesDirect rest

def areComparandsDirect : List Comparand → Bool
  | [] => true
  | .mk _ e :: rest => e.isDirect && areComparandsDirect rest

def areArgumentsDirect : List Argument → Bool
  | [] => true
  | .positional e :: rest | .star e :: rest | .keyword _ e :: rest | .spread e :: rest =>
    e.isDirect && areArgumentsDirect rest

end

end LambdaText.Code

namespace LambdaText

open LambdaText.Code LambdaText.Function
open Run (Apart)

/-! ### Computations that end in the same way -/

namespace Run

variable {V : Veil} {c : Facts V} {α β : Type} [Valued α] [Valued β]

/-- Two computations that end in the same way or are both lost, if some facts hold when they start. -/
class Twins (c : Facts V) (r r' : Run α) : Prop where
  stays : r.StaysLost
  stays' : r'.StaysLost
  ends {s : State} (h : V.Alike s s) (hc : c.holds s.world) :
    IsLost (r.ends s) ∧ IsLost (r'.ends s) ∨ r'.ends s = r.ends s

instance (priority := low) twins_self (r : Run α) [hr : Apart c r] : Twins c r r :=
  ⟨hr.stays, hr.stays, fun _ _ => .inr rfl⟩

instance twins_bind (r r' : Run α) (f f' : α → Run β) [hr : Twins c r r'] [hapart : Apart c r]
    [hf : ∀ a, Twins (c.and a) (f a) (f' a)] : Twins c (r >>= f) (r' >>= f') := by
  refine ⟨hr.stays.bind fun a => (hf a).stays, hr.stays'.bind fun a => (hf a).stays',
    fun {s} h hc => ?_⟩
  have hlost (hfirst : IsLost (r.ends s)) (hsecond : IsLost (r'.ends s)) :
      IsLost ((r >>= f).ends s) ∧ IsLost ((r' >>= f').ends s) :=
    ⟨isLost_bind hfirst fun a => (hf a).stays, isLost_bind hsecond fun a => (hf a).stays'⟩
  rcases hr.ends h hc with ⟨hfirst, hsecond⟩ | heq
  · exact .inl (hlost hfirst hsecond)
  have halike := hapart.ends h hc
  generalize hends : r.ends s = e at halike
  cases halike with
  | lost hfirst => exact .inl (hlost (hends ▸ hfirst) (heq.trans hends ▸ hfirst))
  | @same result t _ halike hwithin hclear =>
    cases result with
    | error e =>
      rw [ends_bind_of_error hends, ends_bind_of_error (heq.trans hends)]
      exact .inr rfl
    | ok a =>
      rw [ends_bind_of_ok hends, ends_bind_of_ok (heq.trans hends)]
      exact (hf a).ends halike ⟨c.mono hwithin hc, hclear⟩

instance twins_ite (p : Prop) [Decidable p] (r r' q q' : Run α) [Twins c r r'] [Twins c q q'] :
    Twins c (if p then r else q) (if p then r' else q') := by
  split <;> infer_instance

instance twins_deeper (r r' : Run α) [hr : Twins c r r'] : Twins c (deeper r) (deeper r') := by
  refine ⟨hr.stays.deeper, hr.stays'.deeper, fun {s} h hc => ?_⟩
  have hinner : V.Alike { s with depth := s.depth + 1 } { s with depth := s.depth + 1 } :=
    h.map (g := fun u => { u with depth := s.depth + 1 }) (fun _ _ _ _ _ => rfl)
      (h.shows.keep rfl rfl rfl h.shows.handled)
  by_cases hdepth : s.depth < maxDepth
  · rcases hr.ends hinner hc with ⟨hfirst, hsecond⟩ | heq
    · exact .inl ⟨isLost_deeper hdepth hfirst, isLost_deeper hdepth hsecond⟩
    · exact .inr (by rw [ends_deeper hdepth, ends_deeper hdepth, heq])
  · right
    rw [deeper, deeper, ends_get_bind, ends_get_bind, if_pos (Nat.not_lt.1 hdepth),
      if_pos (Nat.not_lt.1 hdepth)]

instance twins_attempted (r r' : Run α) [hr : Twins c r r'] :
    Twins c (attempted r) (attempted r') := by
  have hstays {r : Run α} (h : r.StaysLost) : (attempted r).StaysLost := by
    have hmap : (Except.ok <$> r : Run (Except Value α)).StaysLost := by
      rw [map_eq_pure_bind]
      exact h.bind fun _ => staysLost _
    exact fun s hs => isLost_tryCatch (hmap s hs) fun _ => staysLost _
  have hlost {r : Run α} {s : State} (h : IsLost (r.ends s)) : IsLost ((attempted r).ends s) := by
    rw [attempted, ends_caught]
    rintro _ _ hends
    obtain ⟨⟨result, t⟩, hinner, heq⟩ := Option.map_eq_some_iff.1 hends
    cases heq
    exact h _ _ hinner
  refine ⟨hstays hr.stays, hstays hr.stays', fun h hc => (hr.ends h hc).imp
    (fun hboth => ⟨hlost hboth.1, hlost hboth.2⟩) fun heq => ?_⟩
  rw [attempted, attempted, ends_caught, ends_caught, heq]

theorem Twins.endsAlike {r r' : Run α} (hr : Twins c r r') {s : State} (h : V.Alike s s)
    (hc : c.holds s.world) {W : World} {e : Option (Except Value α × State)}
    (he : V.EndsAlike W e (r.ends s)) : V.EndsAlike W e (r'.ends s) := by
  rcases hr.ends h hc with ⟨hlost, hlost'⟩ | heq
  · generalize r.ends s = e' at he hlost
    cases he with
    | lost hfirst _ => exact .lost hfirst hlost'
    | @same result t t' halike _ _ =>
      have hexposed : t'.exposed = t.exposed := by rw [halike.rest]
      exact .lost (isLost_some (hexposed ▸ hlost _ _ rfl)) hlost'
  · exact heq ▸ he

omit [Valued α] in
/-- After a scope has been shown, both are lost. -/
theorem twins_expose_bind {f f' : PUnit → Run α} (hf : (f ⟨⟩).StaysLost)
    (hf' : (f' ⟨⟩).StaysLost) : Twins c (expose >>= f) (expose >>= f') :=
  ⟨(staysLost expose).bind fun _ => hf, (staysLost expose).bind fun _ => hf',
    fun _ _ => .inl ⟨hf _ rfl, hf' _ rfl⟩⟩

end Run

open Run (Twins)

variable {V : Veil} {c : Facts V}

/-- Two scopes that give all names the same values, as the facts say, for code that may look all
names up. -/
class SeeAlike (c : Facts V) (scope : Scope) (scope' : outParam Scope) : Prop where
  covers {W : World} (names : List String) : c.holds W → V.Covers W scope names
  lookup {s : State} (n : String) : V.Alike s s → c.holds s.world →
    (lookupName scope' n).ends s = (lookupName scope n).ends s

/-- A machine to which both scopes are one when it evaluates direct expressions. -/
class Machine.SeesAlike (V : Veil) (m : Machine) (scope scope' : Scope) : Prop where
  expr (c : Facts V) (e : Expr) [Fact (e.isDirect = true)] [SeeAlike c scope scope'] :
    Twins c (m.expr scope e) (m.expr scope' e)

attribute [instance] Machine.SeesAlike.expr

theorem fact_and {a b : Bool} (h : Fact ((a && b) = true)) :
    Fact (a = true) ∧ Fact (b = true) :=
  have h := Bool.and_eq_true_iff.1 h.out
  ⟨⟨h.1⟩, ⟨h.2⟩⟩

section Scopes

variable (m : Machine) [m.Apart V] {scope scope' : Scope}

instance seeAlike_and {α : Type} [Valued α] (a : α) [SeeAlike c scope scope'] :
    SeeAlike (c.and a) scope scope' :=
  ⟨fun names hc => SeeAlike.covers names hc.1, fun n h hc => SeeAlike.lookup n h hc.1⟩

instance covered_of_seeAlike (names : List String) [SeeAlike c scope scope'] :
    Covered c scope names :=
  ⟨SeeAlike.covers names⟩

instance twins_lookupName (n : String) [SeeAlike c scope scope'] :
    Twins c (lookupName scope n) (lookupName scope' n) :=
  ⟨Run.staysLost _, Run.staysLost _, fun h hc => .inr (SeeAlike.lookup n h hc)⟩

instance twins_nameValue (n : String) [SeeAlike c scope scope'] :
    Twins c (nameValue scope n) (nameValue scope' n) := by
  unfold nameValue
  infer_instance

/-! ### Parts of direct expressions -/

variable [m.SeesAlike V scope scope'] [SeeAlike c scope scope']

instance twins_evalItems (items : List Expr) [h : Fact (areDirect items = true)] :
    Twins c (evalItems m scope items) (evalItems m scope' items) := by
  induction items generalizing c h with
  | nil => exact Run.twins_self _
  | cons e rest ih =>
    have hdirect : Fact ((e.isDirect && areDirect rest) = true) := h
    obtain ⟨he, hrest⟩ := fact_and hdirect
    cases e with
    | star e =>
      have he : Fact (e.isDirect = true) := he
      unfold evalItems
      infer_instance
    | _ =>
      unfold evalItems
      infer_instance

instance twins_evalEntries (entries : Array (Value × Value)) (waiting : List (Value × Value))
    (rest : List Entry) [Has c entries] [Has c waiting] [h : Fact (areEntriesDirect rest = true)] :
    Twins c (evalEntries m scope entries waiting rest)
      (evalEntries m scope' entries waiting rest) := by
  induction rest generalizing entries waiting c h with
  | nil =>
    unfold evalEntries
    infer_instance
  | cons e rest ih =>
    cases e with
    | pair k v =>
      have hdirect : Fact ((k.isDirect && v.isDirect && areEntriesDirect rest) = true) := h
      obtain ⟨hpair, hrest⟩ := fact_and hdirect
      obtain ⟨hk, hv⟩ := fact_and hpair
      unfold evalEntries
      infer_instance
    | spread e =>
      have hdirect : Fact ((e.isDirect && areEntriesDirect rest) = true) := h
      obtain ⟨he, hrest⟩ := fact_and hdirect
      unfold evalEntries
      infer_instance

instance twins_evalPositions (arguments : List Argument)
    [h : Fact (areArgumentsDirect arguments = true)] :
    Twins c (evalPositions m scope arguments) (evalPositions m scope' arguments) := by
  induction arguments generalizing c h with
  | nil => exact Run.twins_self _
  | cons a rest ih =>
    cases a with
    | positional e | star e | keyword _ e | spread e =>
      have hdirect : Fact ((e.isDirect && areArgumentsDirect rest) = true) := h
      obtain ⟨he, hrest⟩ := fact_and hdirect
      unfold evalPositions
      infer_instance

instance twins_evalKeywords (keywords : Keywords) (arguments : List Argument) [Has c keywords]
    [h : Fact (areArgumentsDirect arguments = true)] :
    Twins c (evalKeywords m scope keywords arguments)
      (evalKeywords m scope' keywords arguments) := by
  induction arguments generalizing keywords c h with
  | nil => exact Run.twins_self _
  | cons a rest ih =>
    cases a with
    | positional e | star e | keyword _ e | spread e =>
      have hdirect : Fact ((e.isDirect && areArgumentsDirect rest) = true) := h
      obtain ⟨he, hrest⟩ := fact_and hdirect
      unfold evalKeywords
      infer_instance

instance twins_templateText (pieces : List Piece) [h : Fact (arePiecesDirect pieces = true)] :
    Twins c (templateText m scope pieces) (templateText m scope' pieces) := by
  fun_induction templateText m scope pieces generalizing c h with
  | case1 =>
    rw [templateText]
    infer_instance
  | case2 s rest ih =>
    have hrest : Fact (arePiecesDirect rest = true) := h
    rw [templateText]
    infer_instance
  | case3 e conversion format rest ihformat ihrest =>
    have hdirect : Fact ((e.isDirect && arePiecesDirect format && arePiecesDirect rest) = true) := h
    obtain ⟨hfield, hrest⟩ := fact_and hdirect
    obtain ⟨he, hformat⟩ := fact_and hfield
    rw [templateText]
    have hrest (v w : Value) (x : String) : Twins (((c.and v).and w).and x)
        (formatValue w x >>= fun written => do return written ++ (← templateText m scope rest))
        (formatValue w x >>= fun written => do return written ++ (← templateText m scope' rest)) :=
      inferInstance
    infer_instance

instance twins_compareChain (a : Value) (rest : List Comparand) [Has c a]
    [h : Fact (areComparandsDirect rest = true)] :
    Twins c (compareChain m scope a rest) (compareChain m scope' a rest) := by
  induction rest generalizing a c h with
  | nil => exact Run.twins_self _
  | cons e rest ih =>
    obtain ⟨op, e⟩ := e
    have hdirect : Fact ((e.isDirect && areComparandsDirect rest) = true) := h
    obtain ⟨he, hrest⟩ := fact_and hdirect
    unfold compareChain
    infer_instance

instance twins_connect (conjunction : Bool) (operands : List Expr)
    [h : Fact (areDirect operands = true)] :
    Twins c (connect m scope conjunction operands) (connect m scope' conjunction operands) := by
  induction operands generalizing c h with
  | nil => exact Run.twins_self _
  | cons e rest ih =>
    have hdirect : Fact ((e.isDirect && areDirect rest) = true) := h
    obtain ⟨he, hrest⟩ := fact_and hdirect
    cases rest with
    | nil => exact Machine.SeesAlike.expr c e
    | cons e' rest =>
      unfold connect
      infer_instance

instance twins_evalOption (e : Option Expr) [Fact (isOptionDirect e = true)] :
    Twins c (evalOption m scope e) (evalOption m scope' e) := by
  cases e with
  | none => exact Run.twins_self _
  | some e =>
    have he : Fact (e.isDirect = true) := ‹_›
    exact Machine.SeesAlike.expr c e

instance twins_callIn (f : Value) (positions : List Value) (keywords : Keywords) [Has c f]
    [Has c positions] [Has c keywords] :
    Twins c (callIn m scope f positions keywords) (callIn m scope' f positions keywords) := by
  unfold callIn
  split
  · exact Run.twins_expose_bind (Run.staysLost _) (Run.staysLost _)
  · exact Run.twins_expose_bind (Run.staysLost _) (Run.staysLost _)
  · infer_instance

instance twins_evalCall (function : Expr) (arguments : List Argument)
    [Fact (function.isDirect = true)] [Fact (areArgumentsDirect arguments = true)] :
    Twins c (evalCall m scope function arguments) (evalCall m scope' function arguments) := by
  unfold evalCall
  infer_instance

/-! ### Direct expressions in both scopes -/

instance twins_exprStep (e : Expr) [h : Fact (e.isDirect = true)] :
    Twins c (exprStep m scope e) (exprStep m scope' e) := by
  cases e <;> rw [Expr.isDirect] at h
  all_goals unfold exprStep
  case constant k =>
    dsimp only
    split
    · exact @Run.twins_self _ _ _ _ _ (.of_eq_some ‹_ = some _› inferInstance)
    · infer_instance
  case binary op a b =>
    obtain ⟨ha, hb⟩ := fact_and h
    infer_instance
  case comparison e rest =>
    obtain ⟨he, hrest⟩ := fact_and h
    infer_instance
  case conditional test yes no =>
    obtain ⟨hboth, hno⟩ := fact_and h
    obtain ⟨htest, hyes⟩ := fact_and hboth
    infer_instance
  case subscript e i =>
    obtain ⟨he, hi⟩ := fact_and h
    infer_instance
  case slice a b step =>
    obtain ⟨hboth, hstep⟩ := fact_and h
    obtain ⟨ha, hb⟩ := fact_and hboth
    infer_instance
  case call f arguments =>
    obtain ⟨hf, harguments⟩ := fact_and h
    infer_instance
  case lambda | comprehension | assignment | yield | yieldFrom => cases h.out
  all_goals infer_instance

end Scopes

instance seesAlike_machineAt (scope scope' : Scope) (n : Nat) :
    (machineAt n).SeesAlike V scope scope' := by
  induction n with
  | zero => exact ⟨fun c e _ _ => Run.twins_self _⟩
  | succ n ih => exact ⟨fun c e _ _ => twins_exprStep (machineAt n) e⟩

/-! ### A frame without names -/

/-- A frame without names gives none a value. -/
theorem ends_lookupIn_without_names {s : State} {b : Nat} (h : s.world b = some [])
    (globals : Nat) (n : String) (inner : Bool) (addresses : List Nat) :
    (lookupIn globals n inner (addresses ++ [b])).ends s =
      (lookupIn globals n inner addresses).ends s := by
  induction addresses generalizing inner with
  | nil =>
    obtain ⟨f, hf, hknown⟩ := Option.bind_eq_some_iff.1 h
    rw [Frame.known?] at hknown
    split at hknown
    · next hglobals =>
      rw [List.nil_append, lookupIn, lookupIn, Run.ends_bind_of_ok (Run.ends_frame b s), hf,
        Option.getD_some, List.isEmpty_iff.1 hglobals, slot?_eq, Option.some.inj hknown]
      rfl
    · cases hknown
  | cons a rest ih =>
    rw [List.cons_append, lookupIn, lookupIn, Run.ends_bind_of_ok (Run.ends_frame a s),
      Run.ends_bind_of_ok (Run.ends_frame a s)]
    split
    · rfl
    · split
      · rfl
      · exact ih false

end LambdaText
