import LambdaText.Proofs.Code.Tokens

/-!
# Reading tokens step by step

A step of the lexer passes over blanks, a comment, a line break or a token, and goes on with the
rest of the text. The steps get the text to its end or come to a halt, whatever the bound on their
number is, as long as it is large enough.
-/

namespace LambdaText.Code

open LambdaText.Text

/-! ### Steps -/

/-- Takes up a token. -/
def Lexer.take (x : Lexer) : Token → Option Lexer
  | .sign s => x.sign s
  | t => some (x.push t)

/-- A step at the start of a line, its margin passed over. -/
def Lexer.marginStep (x : Lexer) (col alt : Nat) : List Char → Option (Bool × Lexer × List Char)
  | [] => none
  | c :: rest =>
    if c = '#' then some (true, x, rest.dropWhile (· != '\n'))
    else if c = '\n' then some (true, x, rest)
    else (if x.brackets.isEmpty then x.startLine col alt else some x).map fun x =>
      (false, x, c :: rest)

def Lexer.lineStep (x : Lexer) (text : List Char) : Option (Bool × Lexer × List Char) :=
  (margin 0 0 0 text).bind fun (col, alt, rest) => x.marginStep col alt rest

/-- The next line behind a backslash that joins it. -/
def joinedLine? : List Char → Option (List Char)
  | '\n' :: c :: rest => some (c :: rest)
  | _ => none

/-- A step within a line. -/
def Lexer.wordStep (x : Lexer) : List Char → Option (Bool × Lexer × List Char)
  | [] => none
  | c :: rest =>
    if c = ' ' ∨ c = '\t' ∨ c = '\x0c' then some (false, x, rest)
    else if c = '#' then some (false, x, rest.dropWhile (· != '\n'))
    else if c = '\n' then some (true, if x.brackets.isEmpty then x.push .newline else x, rest)
    else if c = '\\' then (joinedLine? rest).map fun r => (false, x, r)
    else (token? (c :: rest)).bind fun (t, r) => (x.take t).map fun x => (false, x, r)

def Lexer.step (x : Lexer) : Bool → List Char → Option (Bool × Lexer × List Char)
  | true => x.lineStep
  | false => x.wordStep

/-- The tokens if the end of the text is reached. -/
def Lexer.ended (x : Lexer) : Bool → List Char → Option (List Token)
  | true, text =>
    match margin 0 0 0 text with
    | some (col, alt, []) =>
      if 0 < col && x.brackets.isEmpty then (x.startLine col alt).bind Lexer.finish else x.finish
    | _ => none
  | false, [] => x.finish
  | false, _ :: _ => none

theorem take_nameToken (x : Lexer) {run : List Char} {t : Token} (h : nameToken? run = some t) :
    x.take t = some (x.push t) := by
  unfold nameToken? at h
  split at h
  · cases h
    rfl
  · split at h
    · cases h
      rfl
    · cases h

/-- The rest of a run after a token. -/
theorem run_take (fuel : Nat) (x : Lexer) (c : Char) (rest : List Char) :
    (if startsNumeral (c :: rest) then do
      let (n, rest') ← numeral? (c :: rest)
      Lexer.run fuel false (x.push (.numeral n)) rest'
    else if startsQuote (c :: rest) then do
      let (body, rest') ← quotedBody? (c :: rest)
      Lexer.run fuel false (x.push (.quoted [] body)) rest'
    else if mayBelongToName c then
      let run := c :: rest.takeWhile mayBelongToName
      let rest' := rest.dropWhile mayBelongToName
      let mark := run.map Char.toLower
      if startsQuote rest' && quoteMarks.contains (String.ofList mark) then do
        let (body, rest'') ← quotedBody? rest'
        Lexer.run fuel false (x.push (.quoted mark body)) rest''
      else do
        let t ← nameToken? run
        Lexer.run fuel false (x.push t) rest'
    else do
      let (s, rest') ← sign? (c :: rest)
      let x ← x.sign s
      Lexer.run fuel false x rest') =
    (token? (c :: rest)).bind fun (t, r) => (x.take t).bind fun x => Lexer.run fuel false x r := by
  rw [token?]
  split
  · cases numeral? (c :: rest) <;> rfl
  · split
    · cases quotedBody? (c :: rest) <;> rfl
    · rw [List.head?_cons, Option.any_some]
      split
      · next hc =>
        rw [wordToken?, List.takeWhile_cons, List.dropWhile_cons, hc]
        simp only [if_true]
        split
        · cases quotedBody? (rest.dropWhile mayBelongToName) <;> rfl
        · cases ht : nameToken? (c :: rest.takeWhile mayBelongToName) with
          | none => rfl
          | some t =>
            simp only [Option.map_some, Option.bind_some, take_nameToken x ht]
            rfl
      · cases sign? (c :: rest) <;> rfl

theorem run_succ_true (fuel : Nat) (x : Lexer) (text : List Char) :
    Lexer.run (fuel + 1) true x text = match x.lineStep text with
      | some (lineStart, x, rest) => Lexer.run fuel lineStart x rest
      | none => x.ended true text := by
  rw [Lexer.run, Lexer.lineStep, Lexer.ended]
  cases margin 0 0 0 text with
  | none => rfl
  | some found =>
    obtain ⟨col, alt, rest⟩ := found
    cases rest with
    | nil => rfl
    | cons c rest =>
      rw [Option.bind_some]
      dsimp only [bind, Option.bind, Lexer.marginStep]
      by_cases hsharp : c = '#'
      · subst hsharp
        rfl
      by_cases hfeed : c = '\n'
      · subst hfeed
        rfl
      rw [if_neg hsharp, if_neg hfeed]
      split
      · next h => exact absurd (List.cons.inj h).1 hsharp
      · next h => exact absurd (List.cons.inj h).1 hfeed
      · next h => cases h
      · split
        · cases x.startLine col alt <;> rfl
        · rfl

theorem run_succ_false (fuel : Nat) (x : Lexer) (text : List Char) :
    Lexer.run (fuel + 1) false x text = match x.wordStep text with
      | some (lineStart, x, rest) => Lexer.run fuel lineStart x rest
      | none => x.ended false text := by
  cases text with
  | nil => rfl
  | cons c rest =>
    have hrun : Lexer.run (fuel + 1) false x (c :: rest) =
      if c = ' ' ∨ c = '\t' ∨ c = '\x0c' then Lexer.run fuel false x rest
      else if c = '#' then Lexer.run fuel false x (rest.dropWhile (· != '\n'))
      else if c = '\n' then
        if x.brackets.isEmpty then Lexer.run fuel true (x.push .newline) rest
        else Lexer.run fuel true x rest
      else if c = '\\' then
        match rest with
        | '\n' :: next :: rest' => Lexer.run fuel false x (next :: rest')
        | _ => none
      else (token? (c :: rest)).bind fun (t, r) => (x.take t).bind fun x =>
        Lexer.run fuel false x r := by
      rw [← run_take]
      rfl
    rw [hrun, Lexer.wordStep]
    by_cases hblank : c = ' ' ∨ c = '\t' ∨ c = '\x0c'
    · rw [if_pos hblank, if_pos hblank]
    rw [if_neg hblank, if_neg hblank]
    by_cases hsharp : c = '#'
    · rw [if_pos hsharp, if_pos hsharp]
    rw [if_neg hsharp, if_neg hsharp]
    by_cases hfeed : c = '\n'
    · rw [if_pos hfeed, if_pos hfeed]
      dsimp only
      split <;> rfl
    rw [if_neg hfeed, if_neg hfeed]
    by_cases hslash : c = '\\'
    · rw [if_pos hslash, if_pos hslash, joinedLine?.eq_def]
      split <;> rfl
    rw [if_neg hslash, if_neg hslash]
    cases token? (c :: rest) with
    | none => rfl
    | some found =>
      obtain ⟨t, r⟩ := found
      simp only [Option.bind_some]
      cases x.take t <;> rfl

theorem run_succ (fuel : Nat) (lineStart : Bool) (x : Lexer) (text : List Char) :
    Lexer.run (fuel + 1) lineStart x text = match x.step lineStart text with
      | some (lineStart, x, rest) => Lexer.run fuel lineStart x rest
      | none => x.ended lineStart text := by
  cases lineStart with
  | true => exact run_succ_true fuel x text
  | false => exact run_succ_false fuel x text

/-! ### What steps do to the text -/

/-- Whether a character may belong to a margin. -/
def opensMargin (c : Char) : Bool := c == ' ' || c == '\t' || c == '\x0c' || c == '\\'

theorem margin_stop {text : List Char} (h : text.head?.any opensMargin = false)
    (col alt joined : Nat) : margin col alt joined text =
      some (if joined = 0 then (col, alt, text) else (joined, joined, text)) := by
  cases text with
  | nil => rfl
  | cons c text =>
    simp only [List.head?_cons, Option.any_some, opensMargin, Bool.or_eq_false_iff,
      beq_eq_false_iff_ne] at h
    rw [margin] <;> simp [h]

/-- A margin is passed over up to a character that shows where it ends. -/
theorem eq_append_of_margin {col alt joined c a : Nat} {text rest : List Char}
    (h : margin col alt joined text = some (c, a, rest)) :
    ∃ taken, text = taken ++ rest ∧ ∀ other, other ≠ [] → other.head? = rest.head? →
      margin col alt joined (taken ++ other) = some (c, a, other) := by
  fun_induction margin col alt joined text with
  | case1 col alt joined text ih =>
    obtain ⟨taken, rfl, htaken⟩ := ih h
    exact ⟨' ' :: taken, rfl, htaken⟩
  | case2 col alt joined text ih =>
    obtain ⟨taken, rfl, htaken⟩ := ih h
    exact ⟨'\t' :: taken, rfl, htaken⟩
  | case3 col alt joined text ih =>
    obtain ⟨taken, rfl, htaken⟩ := ih h
    exact ⟨'\x0c' :: taken, rfl, htaken⟩
  | case4 => cases h
  | case5 col alt joined text hne ih =>
    obtain ⟨taken, rfl, htaken⟩ := ih h
    refine ⟨'\\' :: '\n' :: taken, rfl, fun other hother hhead => ?_⟩
    rw [List.cons_append, List.cons_append, margin]
    · exact htaken other hother hhead
    · intro hnil
      exact hother (List.append_eq_nil_iff.1 hnil).2
  | case6 => cases h
  | case7 col alt joined text hspace htab hform hslash hslash' hslash'' =>
    have hstop : text.head?.any opensMargin = false := by
      cases text with
      | nil => rfl
      | cons c text =>
        simp only [List.head?_cons, Option.any_some, opensMargin, Bool.or_eq_false_iff,
          beq_eq_false_iff_ne]
        refine ⟨⟨⟨?_, ?_⟩, ?_⟩, ?_⟩
        · rintro rfl
          exact hspace text rfl
        · rintro rfl
          exact htab text rfl
        · rintro rfl
          exact hform text rfl
        · rintro rfl
          exact hslash'' text rfl
    have hsame : text = rest := by
      split at h
      · cases h
        rfl
      · cases h
        rfl
    subst hsame
    refine ⟨[], rfl, fun other _ hhead => ?_⟩
    rw [List.nil_append, margin_stop (by rw [hhead, hstop])]
    split at h
    · next hjoined =>
      cases h
      rw [if_pos hjoined]
    · next hjoined =>
      cases h
      rw [if_neg hjoined]

/-- A comment is passed over up to a line feed. -/
theorem eq_append_of_comment (text : List Char) : ∃ taken,
    text = taken ++ text.dropWhile (· != '\n') ∧ ∀ other,
      other.head? = (text.dropWhile (· != '\n')).head? →
      (taken ++ other).dropWhile (· != '\n') = other := by
  have htake : ∀ c ∈ text.takeWhile (· != '\n'), (c != '\n') = true := fun c hc => by
    simpa using List.mem_takeWhile_imp hc
  refine ⟨text.takeWhile (· != '\n'), List.takeWhile_append_dropWhile.symm,
    fun other hhead => dropWhile_append_stop htake ?_⟩
  have hdrop := List.head?_dropWhile_not (· != '\n') text
  rw [hhead]
  cases hd : (text.dropWhile (· != '\n')).head? with
  | none => rfl
  | some d =>
    rw [hd] at hdrop
    exact hdrop

theorem Similar.ne_nil {rest other : List Char} (h : Similar rest other) : other ≠ [] := by
  cases h <;> exact List.cons_ne_nil _ _

/-- Whether two quotes stand in front is seen up to the character behind the closing quote. -/
theorem two_prefix_of_head {q : Char} {body rest other : List Char}
    (hhead : other.head? = rest.head?) (h : [q, q] <+: body ++ ([q] ++ other)) :
    [q, q] <+: body ++ ([q] ++ rest) := by
  match body with
  | [] =>
    simp only [List.nil_append, List.singleton_append, List.cons_prefix_cons] at h ⊢
    refine ⟨trivial, ?_⟩
    cases rest <;> cases other <;> simp_all
  | [c] =>
    simp only [List.cons_append, List.nil_append, List.cons_prefix_cons] at h ⊢
    exact ⟨h.1, trivial, List.nil_prefix⟩
  | c :: d :: body =>
    simp only [List.cons_append, List.cons_prefix_cons] at h ⊢
    exact ⟨h.1, h.2.1, List.nil_prefix⟩

/-- A token is also found where the text behind it is a similar one. -/
theorem eq_append_of_token {text rest : List Char} {t : Token}
    (h : token? text = some (t, rest)) : rest.length < text.length ∧
      ∃ taken, text = taken ++ rest ∧ ∀ other, Similar rest other → other.head? = rest.head? →
        token? (taken ++ other) = some (t, other) := by
  rcases token?_cases h with ⟨⟨taken, rfl, -, htaken⟩, hlt, -⟩ |
    ⟨run, q, triple, after, body, hrun, hq, rfl, hopen, hcloses, rfl⟩
  · exact ⟨hlt, taken, rfl, fun other hsim _ => htaken other hsim⟩
  · obtain rfl := hcloses.eq_append
    have hpos : 0 < (closing q triple).length := by cases triple <;> simp [closing]
    refine ⟨by simp only [List.length_append]; omega,
      run ++ (closing q triple ++ (body ++ closing q triple)), by simp, fun other hsim hhead => ?_⟩
    have hopen' : triple = false → ¬ [q, q] <+: body ++ (closing q triple ++ other) := by
      rintro rfl hin
      exact hopen rfl (two_prefix_of_head hhead hin)
    simpa using token?_quoted hrun hq hopen' (hcloses.change_rest other)

def stepBound (lineStart : Bool) (text : List Char) : Nat :=
  2 * text.length + if lineStart then 1 else 0

theorem lineStep_of_margin (x : Lexer) {col alt : Nat} {text rest : List Char}
    (h : margin 0 0 0 text = some (col, alt, rest)) :
    x.lineStep text = x.marginStep col alt rest := by
  rw [Lexer.lineStep, h]
  rfl

/-- Every step brings the end of the text nearer, and is taken alike where a similar text follows
what it passes over. -/
theorem eq_append_of_lineStep {x y : Lexer} {lineStart : Bool} {text rest : List Char}
    (h : x.lineStep text = some (lineStart, y, rest)) :
    stepBound lineStart rest < stepBound true text ∧ ∃ taken, text = taken ++ rest ∧
      ∀ other, Similar rest other → other.head? = rest.head? →
        x.lineStep (taken ++ other) = some (lineStart, y, other) := by
  obtain ⟨⟨col, alt, text'⟩, hmargin, hstep⟩ := Option.bind_eq_some_iff.1 h
  obtain ⟨taken, rfl, htaken⟩ := eq_append_of_margin hmargin
  cases text' with
  | nil => cases hstep
  | cons c text =>
    simp only [Lexer.marginStep] at hstep
    split at hstep
    · next hc =>
      subst hc
      cases hstep
      obtain ⟨more, hmore, hother⟩ := eq_append_of_comment text
      refine ⟨?_, taken ++ '#' :: more, ?_, fun other _ hhead => ?_⟩
      · have : (text.dropWhile (· != '\n')).length ≤ text.length := List.length_dropWhile_le _ _
        simp only [stepBound, List.length_append, List.length_cons, if_true]
        omega
      · rw [List.append_assoc, List.cons_append, ← hmore]
      · rw [List.append_assoc, List.cons_append,
          lineStep_of_margin x (htaken ('#' :: (more ++ other)) (List.cons_ne_nil _ _) rfl),
          Lexer.marginStep, if_pos rfl, hother other hhead]
    · split at hstep
      · next hc =>
        subst hc
        cases hstep
        refine ⟨?_, taken ++ ['\n'], by simp, fun other _ _ => ?_⟩
        · simp only [stepBound, List.length_append, List.length_cons, if_true]
          omega
        · rw [List.append_assoc, List.singleton_append,
            lineStep_of_margin x (htaken ('\n' :: other) (List.cons_ne_nil _ _) rfl),
            Lexer.marginStep, if_neg (by decide), if_pos rfl]
      · next hsharp hfeed =>
        obtain ⟨z, hz, heq⟩ := Option.map_eq_some_iff.1 hstep
        cases heq
        refine ⟨?_, taken, rfl, fun other hsim hhead => ?_⟩
        · simp only [stepBound, List.length_append, List.length_cons, Bool.false_eq_true, if_true,
            if_false]
          omega
        · rw [lineStep_of_margin x (htaken other hsim.ne_nil hhead)]
          cases other with
          | nil => cases hhead
          | cons d other =>
            cases hhead
            rw [Lexer.marginStep, if_neg hsharp, if_neg hfeed, hz, Option.map_some]

/-! ### Kinds of steps within a line -/

section Kinds

variable (x : Lexer) (rest : List Char)

/-- Whether a character is neither a blank of a line nor has a meaning for lines. -/
def startsToken (c : Char) : Bool :=
  !(c == ' ' || c == '\t' || c == '\x0c' || c == '#' || c == '\n' || c == '\\')

theorem wordStep_blank {c : Char} (h : c = ' ' ∨ c = '\t' ∨ c = '\x0c') :
    x.wordStep (c :: rest) = some (false, x, rest) := by
  rw [Lexer.wordStep, if_pos h]

theorem wordStep_comment :
    x.wordStep ('#' :: rest) = some (false, x, rest.dropWhile (· != '\n')) := rfl

theorem wordStep_feed : x.wordStep ('\n' :: rest) =
    some (true, if x.brackets.isEmpty then x.push .newline else x, rest) := rfl

theorem wordStep_slash :
    x.wordStep ('\\' :: rest) = (joinedLine? rest).map fun r => (false, x, r) := rfl

theorem wordStep_token {c : Char} (hc : startsToken c = true) : x.wordStep (c :: rest) =
    (token? (c :: rest)).bind fun found => (x.take found.1).map fun y => (false, y, found.2) := by
  simp only [startsToken, Bool.not_eq_true', Bool.or_eq_false_iff, beq_eq_false_iff_ne] at hc
  rw [Lexer.wordStep, if_neg (by simp [hc]), if_neg hc.1.1.2, if_neg hc.1.2, if_neg hc.2]

theorem cases_of_startsToken {c : Char} (h : startsToken c = false) :
    (c = ' ' ∨ c = '\t' ∨ c = '\x0c') ∨ c = '#' ∨ c = '\n' ∨ c = '\\' := by
  simp only [startsToken, Bool.not_eq_false', Bool.or_eq_true, beq_iff_eq] at h
  rcases h with ((((h | h) | h) | h) | h) | h <;> simp [h]

end Kinds

theorem eq_of_joinedLine {text rest : List Char} (h : joinedLine? text = some rest) :
    text = '\n' :: rest ∧ rest ≠ [] := by
  unfold joinedLine? at h
  split at h
  · cases h
    exact ⟨rfl, List.cons_ne_nil _ _⟩
  · cases h

theorem joinedLine?_of_ne_nil {rest : List Char} (h : rest ≠ []) :
    joinedLine? ('\n' :: rest) = some rest := by
  cases rest with
  | nil => exact absurd rfl h
  | cons c rest => rfl

/-- A token is taken up where it is found. -/
theorem wordStep_eq_some_of_token {x y : Lexer} {c : Char} {text rest : List Char}
    (hc : startsToken c = true) {lineStart : Bool}
    (h : x.wordStep (c :: text) = some (lineStart, y, rest)) :
    ∃ t, token? (c :: text) = some (t, rest) ∧ x.take t = some y ∧ lineStart = false := by
  rw [wordStep_token x text hc] at h
  obtain ⟨⟨t, r⟩, ht, htake⟩ := Option.bind_eq_some_iff.1 h
  obtain ⟨z, hz, heq⟩ := Option.map_eq_some_iff.1 htake
  cases heq
  exact ⟨t, ht, hz, rfl⟩

theorem eq_append_of_wordStep {x y : Lexer} {lineStart : Bool} {text rest : List Char}
    (h : x.wordStep text = some (lineStart, y, rest)) :
    stepBound lineStart rest < stepBound false text ∧ ∃ taken, text = taken ++ rest ∧
      ∀ other, Similar rest other → other.head? = rest.head? →
        x.wordStep (taken ++ other) = some (lineStart, y, other) := by
  cases text with
  | nil => cases h
  | cons c text =>
    have hbound : ∀ {b r}, r.length ≤ text.length →
        stepBound b r < stepBound false (c :: text) := by
      intro b r hr
      cases b <;> simp [stepBound] <;> omega
    cases hc : startsToken c with
    | true =>
      obtain ⟨t, ht, htake, rfl⟩ := wordStep_eq_some_of_token hc h
      obtain ⟨hlt, taken, htext, hother⟩ := eq_append_of_token ht
      refine ⟨hbound (Nat.le_of_lt_succ hlt), taken, htext, fun other hsim hhead => ?_⟩
      cases taken with
      | nil =>
        rw [htext] at hlt
        exact absurd hlt (Nat.lt_irrefl _)
      | cons d taken =>
        obtain ⟨rfl, -⟩ := List.cons.inj htext
        have htoken := hother other hsim hhead
        rw [List.cons_append] at htoken ⊢
        rw [wordStep_token x _ hc, htoken, Option.bind_some, htake]
        rfl
    | false =>
      rcases cases_of_startsToken hc with hblank | rfl | rfl | rfl
      · rw [wordStep_blank x text hblank] at h
        cases h
        exact ⟨hbound (Nat.le_refl _), [c], rfl, fun other _ _ => wordStep_blank x other hblank⟩
      · rw [wordStep_comment] at h
        cases h
        obtain ⟨more, hmore, hother⟩ := eq_append_of_comment text
        refine ⟨hbound (List.length_dropWhile_le _ _), '#' :: more,
          by rw [List.cons_append, ← hmore], fun other _ hhead => ?_⟩
        rw [List.cons_append, wordStep_comment, hother other hhead]
      · rw [wordStep_feed] at h
        cases h
        exact ⟨hbound (Nat.le_refl _), ['\n'], rfl, fun other _ _ => wordStep_feed x other⟩
      · rw [wordStep_slash] at h
        obtain ⟨r, hr, heq⟩ := Option.map_eq_some_iff.1 h
        cases heq
        obtain ⟨rfl, -⟩ := eq_of_joinedLine hr
        refine ⟨hbound (by simp), ['\\', '\n'], rfl, fun other hsim _ => ?_⟩
        rw [List.cons_append, List.singleton_append, wordStep_slash,
          joinedLine?_of_ne_nil hsim.ne_nil, Option.map_some]

theorem eq_append_of_step {x y : Lexer} {lineStart lineStart' : Bool} {text rest : List Char}
    (h : x.step lineStart text = some (lineStart', y, rest)) :
    stepBound lineStart' rest < stepBound lineStart text ∧ ∃ taken, text = taken ++ rest ∧
      ∀ other, Similar rest other → other.head? = rest.head? →
        x.step lineStart (taken ++ other) = some (lineStart', y, other) := by
  cases lineStart with
  | true => exact eq_append_of_lineStep h
  | false => exact eq_append_of_wordStep h

/-! ### Runs -/

/-- The tokens that steps to the end of a text give. -/
inductive Lexes : Bool → Lexer → List Char → List Token → Prop
  | step {lineStart lineStart' : Bool} {x y : Lexer} {text rest : List Char} {tokens : List Token}
      (h : x.step lineStart text = some (lineStart', y, rest))
      (hrest : Lexes lineStart' y rest tokens) : Lexes lineStart x text tokens
  | ended {lineStart : Bool} {x : Lexer} {text : List Char} {tokens : List Token}
      (h : x.step lineStart text = none) (hended : x.ended lineStart text = some tokens) :
      Lexes lineStart x text tokens

section Lexes

variable {lineStart lineStart' : Bool} {x y : Lexer} {text rest : List Char} {tokens : List Token}

theorem lexes_iff_of_step (h : x.step lineStart text = some (lineStart', y, rest)) :
    Lexes lineStart x text tokens ↔ Lexes lineStart' y rest tokens := by
  constructor
  · rintro (⟨h', hrest⟩ | ⟨h', -⟩)
    · rw [h] at h'
      cases h'
      exact hrest
    · rw [h] at h'
      cases h'
  · exact .step h

theorem lexes_iff_of_no_step (h : x.step lineStart text = none) :
    Lexes lineStart x text tokens ↔ x.ended lineStart text = some tokens := by
  constructor
  · rintro (⟨h', -⟩ | ⟨-, hended⟩)
    · rw [h] at h'
      cases h'
    · exact hended
  · exact .ended h

theorem lexes_of_run {fuel : Nat} (h : Lexer.run fuel lineStart x text = some tokens) :
    Lexes lineStart x text tokens := by
  induction fuel generalizing lineStart x text with
  | zero =>
    rw [Lexer.run] at h
    cases h
  | succ fuel ih =>
    rw [run_succ] at h
    cases hstep : x.step lineStart text with
    | none =>
      rw [hstep] at h
      exact .ended hstep h
    | some found =>
      obtain ⟨b, y, rest⟩ := found
      rw [hstep] at h
      exact .step hstep (ih h)

theorem run_of_lexes (h : Lexes lineStart x text tokens) {fuel : Nat}
    (hfuel : stepBound lineStart text < fuel) : Lexer.run fuel lineStart x text = some tokens := by
  induction h generalizing fuel with
  | step h _ ih =>
    cases fuel with
    | zero => exact absurd hfuel (Nat.not_lt_zero _)
    | succ fuel =>
      rw [run_succ, h]
      exact ih (Nat.lt_of_lt_of_le (eq_append_of_step h).1 (Nat.le_of_lt_succ hfuel))
  | ended h hended =>
    cases fuel with
    | zero => exact absurd hfuel (Nat.not_lt_zero _)
    | succ fuel =>
      rw [run_succ, h]
      exact hended

end Lexes

/-- The lexer before the first character. -/
def Lexer.start : Lexer := ⟨[], [(0, 0)], []⟩

theorem tokens?_eq_some {text : List Char} {tokens : List Token} :
    tokens? text = some tokens ↔ Lexes true Lexer.start (unifyBreaks text) tokens := by
  refine ⟨lexes_of_run, fun h => run_of_lexes h ?_⟩
  simp [stepBound]

end LambdaText.Code
