import LambdaText.Library.Operation
import LambdaText.Proofs.Datum.Numerals
import LambdaText.Proofs.Eval.SharedCompiler

/-!
# Settings from variables

Settings are read from the variables that are set and not empty, each of which gives one field. The
texts of a setting's fields give the setting back. Each variable is read on its own: it decides its
field, or it is refused with one issue at this field.
-/

namespace LambdaText

open LambdaText.Text LambdaText.Operation

/-! ### Checks of one field -/

section

variable {α β : Type}

/-- Whether a check comes to a value, or to exactly one issue, at a place. -/
inductive Checked.Settles (path : List String) : Checked α → Prop
  | ok (a : α) : Settles path (.ok a)
  | issue (defect : Defect) : Settles path (.error [⟨path, defect⟩])

theorem Checked.Settles.bind {path : List String} {c : Checked α} {f : α → Checked β}
    (h : c.Settles path) (hf : ∀ a, (f a).Settles path) : (c >>= f).Settles path := by
  cases h with
  | ok a => exact hf a
  | issue defect => exact .issue defect

theorem Checked.Settles.at {c : Checked α} (h : c.Settles []) (step : String) :
    (c.at step).Settles [step] := by
  cases h with
  | ok a => exact .ok a
  | issue defect => exact .issue defect

theorem Checked.Settles.issues_eq_nil_iff {path : List String} {c : Checked α}
    (h : c.Settles path) : c.issues = [] ↔ ∃ a, c = .ok a := by
  cases h with
  | ok a => simp [Checked.issues]
  | issue defect => simp [Checked.issues]

end

theorem settles_asText (d : Datum) : d.asText.Settles [] := by
  unfold Datum.asText
  repeat' first | exact .ok _ | exact .issue _ | split

theorem settles_checkIdentifier (name : String) : (Settings.checkIdentifier name).Settles [] := by
  unfold Settings.checkIdentifier
  repeat' first | exact .ok _ | exact .issue _ | split

theorem settles_checkLevel (name : String) : (Settings.checkLevel name).Settles [] := by
  unfold Settings.checkLevel
  repeat' first | exact .ok _ | exact .issue _ | split

theorem settles_integerOfText (text : List Char) : (integerOfText text).Settles [] := by
  unfold integerOfText
  extract_lets trimmed unsigned
  repeat' first | exact .ok _ | exact .issue _ | split

theorem settles_asInteger (d : Datum) : d.asInteger.Settles [] := by
  unfold Datum.asInteger integerOfFloat
  repeat' first | exact .ok _ | exact .issue _ | exact settles_integerOfText _ | split

theorem settles_asNatural (d : Datum) : d.asNatural.Settles [] := by
  refine (settles_asInteger d).bind fun i => ?_
  repeat' first | exact .ok _ | exact .issue _ | split

namespace Settings

/-! ### Fields apart and together -/

def operandNameIn (fields : String → Option Datum) : Checked String :=
  checkField fields "section_param_prefix" (fun d => d.asText >>= checkIdentifier) "_arg"

def receiverIn (fields : String → Option Datum) : Checked String :=
  checkField fields "self_keyword" (fun d => d.asText >>= checkIdentifier) "self"

def cacheSizeIn (fields : String → Option Datum) : Checked Nat :=
  checkField fields "cache_size" Datum.asNatural 0

def logLevelIn (fields : String → Option Datum) : Checked Log.Level :=
  checkField fields "log_level" (fun d => d.asText >>= checkLevel) .warning

variable {fields : String → Option Datum} {s : Settings}

def issuesIn (fields : String → Option Datum) : List Issue :=
  (operandNameIn fields).issues ++ (receiverIn fields).issues ++ (cacheSizeIn fields).issues ++
    (logLevelIn fields).issues

theorem ofFields_eq (fields : String → Option Datum) :
    ofFields fields = match operandNameIn fields, receiverIn fields, cacheSizeIn fields,
        logLevelIn fields with
      | .ok operandName, .ok receiver, .ok cacheSize, .ok logLevel =>
        .ok { operandName, receiver, cacheSize, logLevel }
      | _, _, _, _ => .error (issuesIn fields) := rfl

theorem ofFields_eq_ok_iff :
    ofFields fields = .ok s ↔ operandNameIn fields = .ok s.operandName ∧
      receiverIn fields = .ok s.receiver ∧ cacheSizeIn fields = .ok s.cacheSize ∧
      logLevelIn fields = .ok s.logLevel := by
  rw [ofFields_eq]
  obtain ⟨_, _, _, _⟩ := s
  cases operandNameIn fields <;> cases receiverIn fields <;> cases cacheSizeIn fields <;>
    cases logLevelIn fields <;> simp

theorem issues_ofFields (fields : String → Option Datum) :
    (ofFields fields).issues = issuesIn fields := by
  rw [ofFields_eq, issuesIn]
  cases operandNameIn fields <;> cases receiverIn fields <;> cases cacheSizeIn fields <;>
    cases logLevelIn fields <;> rfl

theorem checkField_congr {α : Type} {fields fields' : String → Option Datum} {name : String}
    (h : fields name = fields' name) (check : Datum → Checked α) (default : α) :
    checkField fields name check default = checkField fields' name check default := by
  rw [checkField, checkField, h]

theorem settles_checkField {α : Type} {check : Datum → Checked α}
    (h : ∀ d, (check d).Settles []) (fields : String → Option Datum) (name : String) (default : α) :
    (checkField fields name check default).Settles [name] := by
  unfold checkField
  split
  · exact .ok _
  · exact (h _).at name

theorem settles_operandNameIn (fields : String → Option Datum) :
    (operandNameIn fields).Settles ["section_param_prefix"] :=
  settles_checkField (fun d => (settles_asText d).bind settles_checkIdentifier) ..

theorem settles_receiverIn (fields : String → Option Datum) :
    (receiverIn fields).Settles ["self_keyword"] :=
  settles_checkField (fun d => (settles_asText d).bind settles_checkIdentifier) ..

theorem settles_cacheSizeIn (fields : String → Option Datum) :
    (cacheSizeIn fields).Settles ["cache_size"] :=
  settles_checkField settles_asNatural ..

theorem settles_logLevelIn (fields : String → Option Datum) :
    (logLevelIn fields).Settles ["log_level"] :=
  settles_checkField (fun d => (settles_asText d).bind settles_checkLevel) ..

theorem exists_ok_iff (fields : String → Option Datum) :
    (∃ s, ofFields fields = .ok s) ↔ (ofFields fields).issues = [] := by
  simp only [issues_ofFields, issuesIn, List.append_eq_nil_iff,
    (settles_operandNameIn fields).issues_eq_nil_iff, (settles_receiverIn fields).issues_eq_nil_iff,
    (settles_cacheSizeIn fields).issues_eq_nil_iff, (settles_logLevelIn fields).issues_eq_nil_iff]
  constructor
  · rintro ⟨s, hs⟩
    obtain ⟨hoperand, hreceiver, hcache, hlevel⟩ := ofFields_eq_ok_iff.1 hs
    exact ⟨⟨⟨⟨_, hoperand⟩, _, hreceiver⟩, _, hcache⟩, _, hlevel⟩
  · rintro ⟨⟨⟨⟨operandName, hoperand⟩, receiver, hreceiver⟩, cacheSize, hcache⟩, logLevel, hlevel⟩
    exact ⟨⟨operandName, receiver, cacheSize, logLevel⟩,
      ofFields_eq_ok_iff.2 ⟨hoperand, hreceiver, hcache, hlevel⟩⟩

/-- One of the fields, without the others. -/
def alone (field : String) (fields : String → Option Datum) : String → Option Datum :=
  fun name => if name = field then fields name else none

theorem issues_ofFields_eq_flatMap (fields : String → Option Datum) :
    (ofFields fields).issues =
      variableFields.flatMap fun p => (ofFields (alone p.2 fields)).issues := by
  have hok {α : Type} (a : α) : Checked.issues (.ok a) = [] := rfl
  simp only [issues_ofFields]
  simp [variableFields, issuesIn, operandNameIn, receiverIn, cacheSizeIn, logLevelIn, checkField,
    alone, hok]

/-- A field on its own is in order, or has exactly one issue. -/
theorem issues_alone {p : String × String} (h : p ∈ variableFields)
    (fields : String → Option Datum) :
    (ofFields (alone p.2 fields)).issues = [] ∨
      ∃ defect, (ofFields (alone p.2 fields)).issues = [⟨[p.2], defect⟩] := by
  have hok {α : Type} (a : α) : Checked.issues (.ok a) = [] := rfl
  have hone {α : Type} {c : Checked α} (hc : c.Settles [p.2])
      (hissues : (ofFields (alone p.2 fields)).issues = c.issues) :
      (ofFields (alone p.2 fields)).issues = [] ∨
        ∃ defect, (ofFields (alone p.2 fields)).issues = [⟨[p.2], defect⟩] := by
    rw [hissues]
    cases hc with
    | ok a => exact .inl rfl
    | issue defect => exact .inr ⟨defect, rfl⟩
  simp only [variableFields, List.mem_cons, List.not_mem_nil, or_false] at h
  obtain rfl | rfl | rfl | rfl := h
  on_goal 1 => refine hone (settles_operandNameIn fields) ?_
  on_goal 2 => refine hone (settles_receiverIn fields) ?_
  on_goal 3 => refine hone (settles_cacheSizeIn fields) ?_
  on_goal 4 => refine hone (settles_logLevelIn fields) ?_
  all_goals
    simp [issues_ofFields, issuesIn, operandNameIn, receiverIn, cacheSizeIn, logLevelIn, checkField,
      alone, hok]

/-- A field of settings, as a datum. -/
def value? (s : Settings) : String → Option Datum
  | "section_param_prefix" => some (.text s.operandName)
  | "self_keyword" => some (.text s.receiver)
  | "cache_size" => some (.int s.cacheSize)
  | "log_level" => some (.text s.logLevel.name)
  | _ => none

theorem value?_eq_of_alone {fields fields' : String → Option Datum} {s s' : Settings}
    (h : ofFields fields = .ok s) (h' : ofFields fields' = .ok s') {name : String}
    (hname : fields name = fields' name) : s.value? name = s'.value? name := by
  obtain ⟨hoperand, hreceiver, hcache, hlevel⟩ := ofFields_eq_ok_iff.1 h
  obtain ⟨hoperand', hreceiver', hcache', hlevel'⟩ := ofFields_eq_ok_iff.1 h'
  unfold value?
  split
  · rw [operandNameIn, checkField_congr hname] at hoperand
    rw [Except.ok.inj (hoperand.symm.trans hoperand')]
  · rw [receiverIn, checkField_congr hname] at hreceiver
    rw [Except.ok.inj (hreceiver.symm.trans hreceiver')]
  · rw [cacheSizeIn, checkField_congr hname] at hcache
    rw [Except.ok.inj (hcache.symm.trans hcache')]
  · rw [logLevelIn, checkField_congr hname] at hlevel
    rw [Except.ok.inj (hlevel.symm.trans hlevel')]
  · rfl

/-! ### Settings as texts -/

theorem isIdentifier_of_checkField {name field default : String}
    (hdefault : isIdentifier default.toList)
    (h : checkField fields field (fun d => d.asText >>= checkIdentifier) default = .ok name) :
    isIdentifier name.toList = true := by
  unfold checkField at h
  split at h
  · cases h
    exact hdefault
  · next d _ =>
    cases htext : d.asText with
    | error issues => simp [htext, Checked.at, bind, Except.bind, Except.mapError] at h
    | ok given =>
      by_cases hgiven : isIdentifier given.toList = true
      · simp [htext, Checked.at, bind, Except.bind, Except.mapError, checkIdentifier, hgiven] at h
        exact h ▸ hgiven
      · simp [htext, Checked.at, bind, Except.bind, Except.mapError, checkIdentifier, hgiven,
          Checked.fail] at h

theorem checkField_text {α : Type} {fields : String → Option Datum} {field text : String}
    {check : String → Checked α} {a default : α} (hfield : fields field = some (.text text))
    (hcheck : check text = .ok a) :
    checkField fields field (fun d => d.asText >>= check) default = .ok a := by
  have hread : (Datum.text text).asText >>= check = .ok a := hcheck
  simp only [checkField, hfield, hread]
  rfl

theorem checkLevel_name (level : Log.Level) : checkLevel level.name = .ok level := by
  cases level <;> rfl

/-- The texts of the fields of settings, by the variables that give them. -/
def texts (s : Settings) : List (String × String) :=
  [("SECTION_PREFIX", s.operandName), ("SELF_KEYWORD", s.receiver),
   ("CACHE_SIZE", toString s.cacheSize), ("LOG_LEVEL", s.logLevel.name)]

/-- What a variable gives: it is set and not empty. -/
def given (variableOf : String → Option Datum) (suffix : String) : Option Datum :=
  (variableOf (variablePrefix ++ suffix)).filter counts

def givenFields (variableOf : String → Option Datum) (name : String) : Option Datum :=
  (overrides variableOf).lookup name

section

variable {l : List (String × String)} (give : String → Option Datum)

theorem lookup_filterMap_of_notMem {name : String} (h : name ∉ l.map Prod.snd) :
    (l.filterMap fun p => (give p.1).map fun d => (p.2, d)).lookup name = none := by
  refine List.lookup_eq_none_iff.2 fun entry hentry => ?_
  obtain ⟨p, hp, hgive⟩ := List.mem_filterMap.1 hentry
  obtain ⟨d, -, rfl⟩ := Option.map_eq_some_iff.1 hgive
  exact bne_iff_ne.2 fun heq : name = p.2 => h (heq ▸ List.mem_map_of_mem hp)

theorem lookup_filterMap_of_mem (hnodup : (l.map Prod.snd).Nodup) {p : String × String}
    (h : p ∈ l) : (l.filterMap fun p => (give p.1).map fun d => (p.2, d)).lookup p.2 = give p.1 := by
  induction l with
  | nil => cases h
  | cons q rest ih =>
    obtain ⟨hq, hrest⟩ := List.nodup_cons.1 hnodup
    rcases List.mem_cons.1 h with rfl | hp
    · cases hgive : give p.1 with
      | none => rw [List.filterMap_cons_none (by rw [hgive]; rfl), lookup_filterMap_of_notMem give hq]
      | some d => rw [List.filterMap_cons_some (by rw [hgive]; rfl), List.lookup_cons_self]
    · have hne : p.2 ≠ q.2 := fun heq => hq (heq ▸ List.mem_map_of_mem hp)
      cases hgive : give q.1 with
      | none => rw [List.filterMap_cons_none (by rw [hgive]; rfl), ih hrest hp]
      | some d =>
        rw [List.filterMap_cons_some (by rw [hgive]; rfl), List.lookup_cons,
          beq_false_of_ne hne, ih hrest hp]

end

theorem givenFields_of_mem (variableOf : String → Option Datum) {p : String × String}
    (h : p ∈ variableFields) : givenFields variableOf p.2 = given variableOf p.1 :=
  lookup_filterMap_of_mem (given variableOf) (by decide) h

theorem givenFields_of_notMem (variableOf : String → Option Datum) {name : String}
    (h : name ∉ variableFields.map Prod.snd) : givenFields variableOf name = none :=
  lookup_filterMap_of_notMem (given variableOf) h

/-- The fields depend on nothing but what the variables give. -/
theorem givenFields_congr {variableOf variableOf' : String → Option Datum}
    (h : ∀ p ∈ variableFields, given variableOf p.1 = given variableOf' p.1) :
    givenFields variableOf = givenFields variableOf' := by
  funext name
  by_cases hname : name ∈ variableFields.map Prod.snd
  · obtain ⟨p, hp, rfl⟩ := List.mem_map.1 hname
    rw [givenFields_of_mem _ hp, givenFields_of_mem _ hp, h p hp]
  · rw [givenFields_of_notMem _ hname, givenFields_of_notMem _ hname]

/-- A number that is too long to be read as a text. -/
def oversizedCache : List Issue := [⟨["cache_size"], .oversizedInteger⟩]

/-- Settings that were accepted come back from their texts, if the number among them can be read. -/
theorem ofFields_texts {fields : String → Option Datum} {s : Settings} (hs : ofFields fields = .ok s)
    {variableOf : String → Option Datum}
    (h : ∀ p ∈ s.texts, variableOf (variablePrefix ++ p.1) = some (.text p.2)) :
    ofFields (givenFields variableOf) =
      if (toString s.cacheSize).length ≤ maxIntegerLength then .ok s else .error oversizedCache := by
  obtain ⟨hoperand, hreceiver, -, -⟩ := ofFields_eq_ok_iff.1 hs
  have hoperand : isIdentifier s.operandName.toList = true :=
    isIdentifier_of_checkField (by decide) hoperand
  have hreceiver : isIdentifier s.receiver.toList = true :=
    isIdentifier_of_checkField (by decide) hreceiver
  have hgiven (p q : String × String) (hp : p ∈ s.texts) (hq : q ∈ variableFields) (hpq : p.1 = q.1)
      (hne : p.2 ≠ "") : givenFields variableOf q.2 = some (.text p.2) := by
    have hcounts : counts (.text p.2) = true := by simpa [counts] using hne
    rw [givenFields_of_mem _ hq, given, ← hpq, h p hp, Option.filter_some, if_pos hcounts]
  have hname {name : String} (hname : isIdentifier name.toList = true) : name ≠ "" := by
    rintro rfl
    cases hname
  have hoperandName : operandNameIn (givenFields variableOf) = .ok s.operandName :=
    checkField_text (hgiven (_, s.operandName) ("SECTION_PREFIX", _) (by simp [texts])
      (by simp [variableFields]) rfl (hname hoperand)) (if_pos hoperand)
  have hreceiverName : receiverIn (givenFields variableOf) = .ok s.receiver :=
    checkField_text (hgiven (_, s.receiver) ("SELF_KEYWORD", _) (by simp [texts])
      (by simp [variableFields]) rfl (hname hreceiver)) (if_pos hreceiver)
  have hcacheSize : cacheSizeIn (givenFields variableOf) =
      (Datum.text (toString s.cacheSize)).asNatural.at "cache_size" := by
    rw [cacheSizeIn, checkField, hgiven (_, toString s.cacheSize) ("CACHE_SIZE", "cache_size")
      (by simp [texts]) (by simp [variableFields]) rfl (toString_ne_empty s.cacheSize)]
  have hlogLevel : logLevelIn (givenFields variableOf) = .ok s.logLevel :=
    checkField_text (hgiven (_, s.logLevel.name) ("LOG_LEVEL", _) (by simp [texts])
      (by simp [variableFields]) rfl (by cases s.logLevel <;> decide)) (checkLevel_name s.logLevel)
  rw [ofFields_eq, issuesIn, hoperandName, hreceiverName, hcacheSize, hlogLevel, asNatural_toString]
  by_cases hlength : (toString s.cacheSize).length ≤ maxIntegerLength
  · rw [if_pos hlength, if_pos hlength]
    rfl
  · rw [if_neg hlength, if_neg hlength]
    rfl

end Settings

/-! ### Mappings -/

/-- The variables that a value holds: those of a mapping, or of the environment without one. -/
def State.variableOf (t : State) (v : Value) : String → Option Datum :=
  match v with
  | .none => environmentVariable t
  | v =>
    match v.datum.ends t with
    | some (.ok (.dict entries), _) => Datum.field? entries
    | _ => fun _ => none

theorem ends_datumWithin_dict {n : Nat} {t : State}
    (h : ∀ v : Value, ∃ d, (v.datumWithin n).ends t = some (.ok d, t)) (a : Nat) :
    ∃ entries, ((Value.dict a).datumWithin (n + 1)).ends t = some (.ok (.dict entries), t) := by
  have hentry (e : Value × Value) : ∃ entry, (do
      return (← Value.datumWithin n e.1, ← Value.datumWithin n e.2) : Run (Datum × Datum)).ends t =
        some (.ok entry, t) := by
    obtain ⟨k, hk⟩ := h e.1
    obtain ⟨d, hd⟩ := h e.2
    exact ⟨(k, d), (Run.ends_bind_of_ok hk _).trans (Run.ends_bind_of_ok hd _)⟩
  obtain ⟨entries, hentries⟩ :=
    Run.exists_ends_mapM fun e (_ : e ∈ (t.dictAt a).toList) => hentry e
  exact ⟨entries,
    (Run.ends_bind_of_ok (Run.ends_dictEntries a t) _).trans (Run.ends_bind_of_ok hentries _)⟩

theorem ends_datumWithin (n : Nat) (v : Value) (t : State) :
    ∃ d, (v.datumWithin n).ends t = some (.ok d, t) := by
  induction n generalizing v with
  | zero => exact ⟨_, rfl⟩
  | succ n ih =>
    have hall (items : List Value) : ∃ ds, (items.mapM (Value.datumWithin n)).ends t =
      some (.ok ds, t) := Run.exists_ends_mapM fun v _ => ih v
    cases v with
    | tuple items =>
      obtain ⟨ds, hds⟩ := hall items
      exact ⟨_, Run.ends_bind_of_ok hds _⟩
    | list a =>
      obtain ⟨items, hitems⟩ := Run.exists_ends_listItems a t
      obtain ⟨ds, hds⟩ := hall items.toList
      exact ⟨_, (Run.ends_bind_of_ok hitems _).trans (Run.ends_bind_of_ok hds _)⟩
    | set a =>
      obtain ⟨items, hitems⟩ := Run.exists_ends_setItems a t
      obtain ⟨ds, hds⟩ := hall items.toList
      exact ⟨_, (Run.ends_bind_of_ok hitems _).trans (Run.ends_bind_of_ok hds _)⟩
    | dict a =>
      obtain ⟨entries, hentries⟩ := ends_datumWithin_dict ih a
      exact ⟨_, hentries⟩
    | _ => exact ⟨_, rfl⟩

theorem ends_datum_dict (a : Nat) (t : State) :
    ∃ entries, (Value.datum (.dict a)).ends t = some (.ok (.dict entries), t) :=
  ends_datumWithin_dict (fun v => ends_datumWithin _ v t) a

/-- A dictionary of texts holds each of them as a variable; the last entry of a name counts. -/
theorem variableOf_texts {t : State} {a : Nat} {entries : List (String × String)}
    (h : (t.dictAt a).toList = entries.map fun e => (.text e.1, .text e.2)) (name : String) :
    t.variableOf (.dict a) name = (entries.reverse.lookup name).map .text := by
  have hread : (Value.datum (.dict a)).ends t =
      some (.ok (.dict (entries.map fun e => (.text e.1, .text e.2))), t) := by
    refine (Run.ends_bind_of_ok (Run.ends_dictEntries a t) _).trans ?_
    refine Run.ends_bind_of_ok ?_ _
    rw [h]
    clear h
    induction entries with
    | nil => rfl
    | cons e rest ih =>
      rw [List.map_cons, List.mapM_cons]
      refine (Run.ends_bind_of_ok rfl _).trans ((Run.ends_bind_of_ok ih _).trans rfl)
  simp only [State.variableOf, hread, Datum.field?, ← List.map_reverse]
  clear h hread
  induction entries.reverse with
  | nil => rfl
  | cons e rest ih =>
    rw [List.map_cons, List.find?_cons, List.lookup_cons]
    by_cases hname : e.1 = name
    · simp [hname]
    · have hforth : (e.1 == name) = false := beq_false_of_ne hname
      have hback : (name == e.1) = false := beq_false_of_ne (Ne.symm hname)
      simp only [hforth, hback]
      exact ih

/-- Settings are made with a serial number; their issues are an error. -/
def settingsEnd (c : Checked Settings) (t : State) : Option (Except Value Value × State) :=
  match c with
  | .ok s => some (.ok (.settings t.serial s), { t with serial := t.serial + 1 })
  | .error issues => some (.error (.error "ValidationError" [] (some (.issues issues))), t)

theorem ends_settingsOf {keywords : Keywords} {data : List (Datum × Datum)} {t : State}
    (h : (keywordData keywords).ends t = some (.ok data, t)) :
    (settingsOf keywords).ends t = settingsEnd (Settings.ofFields (Datum.field? data)) t := by
  rw [settingsOf, Run.ends_bind_of_ok h]
  cases Settings.ofFields (Datum.field? data) <;> rfl

theorem ends_settingsFrom {v : Value} (hv : v = .none ∨ ∃ a, v = .dict a) (t : State) :
    ∃ log, (settingsFrom v).ends t =
      settingsEnd (Settings.ofVariables (t.variableOf v)) { t with log } := by
  obtain ⟨log, hload⟩ := ends_loadSettings (t.variableOf v) t
  refine ⟨log, ?_⟩
  have hread : (settingsFrom v).ends t =
      (LambdaText.loadSettings (t.variableOf v) >>= fun s =>
        return .settings (← Run.fresh) s : Run Value).ends t := by
    obtain rfl | ⟨a, rfl⟩ := hv
    · rfl
    · obtain ⟨entries, hentries⟩ := ends_datum_dict a t
      have hvariables : t.variableOf (.dict a) = Datum.field? entries := by
        simp only [State.variableOf, hentries]
      rw [hvariables]
      exact Run.ends_bind_of_ok hentries _
  rw [hread]
  cases hchecked : Settings.ofVariables (t.variableOf v) with
  | error issues =>
    rw [hchecked] at hload
    exact Run.ends_bind_of_error hload _
  | ok s =>
    rw [hchecked] at hload
    exact Run.ends_bind_of_ok hload _

namespace Settings

theorem loadSettings_reads_fields (m : Machine) {v : Value} (hv : v = .none ∨ ∃ a, v = .dict a)
    (t : State) {fields : String → Option Datum} (hfields : fields = givenFields (t.variableOf v)) :
    (∃ log, (Operation.loadSettings.run m [v] []).ends t =
        settingsEnd (ofFields fields) { t with log }) ∧
      (∀ name keywords data, (keywordData keywords).ends t = some (.ok data, t) →
        Datum.field? data = fields →
        (Operation.newSettings.invokeWith m name [] keywords).ends t =
          settingsEnd (ofFields fields) t) ∧
      (∀ p ∈ variableFields, fields p.2 = (t.variableOf v (variablePrefix ++ p.1)).filter counts) ∧
      ∀ name ∉ variableFields.map Prod.snd, fields name = none := by
  subst hfields
  refine ⟨ends_settingsFrom hv t, fun name keywords data hdata hfields => ?_,
    fun p hp => givenFields_of_mem _ hp, fun name hname => givenFields_of_notMem _ hname⟩
  rw [← hfields]
  exact ends_settingsOf hdata

/-- A field of the settings depends on its own variable alone. -/
theorem value?_congr {variableOf variableOf' : String → Option Datum} {s s' : Settings}
    (hs : ofFields (givenFields variableOf) = .ok s)
    (hs' : ofFields (givenFields variableOf') = .ok s') {p : String × String}
    (hp : p ∈ variableFields) (h : given variableOf p.1 = given variableOf' p.1) :
    s.value? p.2 = s'.value? p.2 := by
  refine value?_eq_of_alone hs hs' ?_
  rw [givenFields_of_mem _ hp, givenFields_of_mem _ hp, h]

/-- There are settings unless one of the fields on its own has an issue. -/
theorem exists_settings_iff (fields : String → Option Datum) : (∃ s, ofFields fields = .ok s) ↔
    ∀ p ∈ variableFields, (ofFields (alone p.2 fields)).issues = [] := by
  rw [exists_ok_iff, issues_ofFields_eq_flatMap, List.flatMap_eq_nil_iff]

/-- Settings from variables are the settings from the fields that variables give: each variable that
is set and not empty gives its field, and nothing else counts. The texts of settings that were
accepted give these settings back, unless the number among them is too long to be read. A field of
the settings depends on its own variable alone. The issues are those of each variable on its own, at
most one, field by field, and there are settings unless one of the variables has an issue. -/
theorem loadSettings_from_variables (m : Machine) {v : Value} (hv : v = .none ∨ ∃ a, v = .dict a)
    (t : State) {fields : String → Option Datum} (hfields : fields = givenFields (t.variableOf v)) :
    ((∃ log, (Operation.loadSettings.run m [v] []).ends t =
          settingsEnd (ofFields fields) { t with log }) ∧
        (∀ name keywords data, (keywordData keywords).ends t = some (.ok data, t) →
          Datum.field? data = fields →
          (Operation.newSettings.invokeWith m name [] keywords).ends t =
            settingsEnd (ofFields fields) t) ∧
        (∀ p ∈ variableFields,
          fields p.2 = (t.variableOf v (variablePrefix ++ p.1)).filter counts) ∧
        ∀ name ∉ variableFields.map Prod.snd, fields name = none) ∧
      (∀ accepted s, ofFields accepted = .ok s →
        (∀ p ∈ s.texts, t.variableOf v (variablePrefix ++ p.1) = some (.text p.2)) →
        ofFields fields = if (toString s.cacheSize).length ≤ maxIntegerLength then .ok s
          else .error [⟨["cache_size"], .oversizedInteger⟩]) ∧
      (∀ variableOf' s s', ofFields fields = .ok s → ofFields (givenFields variableOf') = .ok s' →
        ∀ p ∈ variableFields, given (t.variableOf v) p.1 = given variableOf' p.1 →
          s.value? p.2 = s'.value? p.2) ∧
      (∀ variableOf', (∀ p ∈ variableFields, given (t.variableOf v) p.1 = given variableOf' p.1) →
        fields = givenFields variableOf') ∧
      (ofFields fields).issues =
        (variableFields.flatMap fun p => (ofFields (alone p.2 fields)).issues) ∧
      (∀ p ∈ variableFields, (ofFields (alone p.2 fields)).issues = [] ∨
        ∃ defect, (ofFields (alone p.2 fields)).issues = [⟨[p.2], defect⟩]) ∧
      ((∃ s, ofFields fields = .ok s) ↔
        ∀ p ∈ variableFields, (ofFields (alone p.2 fields)).issues = []) := by
  refine ⟨loadSettings_reads_fields m hv t hfields, ?_⟩
  subst hfields
  exact ⟨fun _ _ hs h => ofFields_texts hs h, fun _ _ _ hs hs' _ hp h => value?_congr hs hs' hp h,
    fun _ h => givenFields_congr h, issues_ofFields_eq_flatMap _, fun _ hp => issues_alone hp _,
    exists_settings_iff _⟩

/-- Settings that were written to a mapping, beside a variable that is no setting. -/
theorem loadSettings_from_variables_written :
    ∃ t log, (t.dictAt 0).toList = [("STRLAMBDA_SECTION_PREFIX", "x"),
        ("STRLAMBDA_SELF_KEYWORD", "this"), ("HOME", "/"), ("STRLAMBDA_CACHE_SIZE", "12"),
        ("STRLAMBDA_LOG_LEVEL", "INFO")].map (fun e => (.text e.1, .text e.2)) ∧
      (Operation.loadSettings.run machine [.dict 0] []).ends t =
        some (.ok (.settings 0 ⟨"x", "this", 12, .info⟩), { t with serial := 1, log }) := by
  let s : Settings := ⟨"x", "this", 12, .info⟩
  let entries : List (String × String) := [("STRLAMBDA_SECTION_PREFIX", "x"),
    ("STRLAMBDA_SELF_KEYWORD", "this"), ("HOME", "/"), ("STRLAMBDA_CACHE_SIZE", "12"),
    ("STRLAMBDA_LOG_LEVEL", "INFO")]
  let t : State := { cells := #[.dict (entries.map fun e => (.text e.1, .text e.2)).toArray] }
  have hentries : (t.dictAt 0).toList = entries.map fun e => (.text e.1, .text e.2) := rfl
  obtain ⟨⟨⟨log, hload⟩, -⟩, hback, -⟩ :=
    loadSettings_from_variables machine (.inr ⟨0, rfl⟩) t rfl
  have htexts : ∀ p ∈ s.texts, t.variableOf (.dict 0) (variablePrefix ++ p.1) = some (.text p.2) := by
    intro p hp
    rw [variableOf_texts hentries]
    simp only [texts, List.mem_cons, List.not_mem_nil, or_false] at hp
    have hsize : toString s.cacheSize = "12" := by decide
    obtain rfl | rfl | rfl | rfl := hp
    case inr.inr.inl =>
      rw [hsize]
      rfl
    all_goals rfl
  have haccepted : ofFields s.value? = .ok s := ofFields_eq_ok_iff.2 (by decide)
  have hs := hback s.value? s haccepted htexts
  rw [if_pos (by decide)] at hs
  rw [hs] at hload
  exact ⟨t, log, hentries, hload⟩

end Settings

end LambdaText
