import LambdaText.Code.Quotation
import LambdaText.Proofs.Code.Tokens

/-!
# Brackets

A scan of a text from left to right that only knows brackets, quoted literals and comments. A
closing bracket has to match the opening one that was read last and is still open; brackets inside
literals and comments do not count. The scan reads one character after another, so the scan of a
whole is the scan of its parts in turn.
-/

namespace LambdaText.Code.Brackets

open LambdaText.Text

/-! ### The scan -/

/-- A character that opens literals. -/
abbrev Quote := { c : Char // isQuoteChar c = true }

/-- What the last characters before a place make of it. -/
inductive Spot where
  | code
  | comment
  /-- Behind one quote in code, or behind two. -/
  | opening (quote : Quote) (double : Bool)
  /-- In a literal of one quote or of three, behind so many quotes in a row. -/
  | literal (quote : Quote) (triple : Bool) (seen : Nat)
  /-- In a literal, behind a backslash. -/
  | escaped (quote : Quote) (triple : Bool)

/-- A place in a scan: the spot, and the closing brackets that are due, innermost first. -/
abbrev Scan := Spot × List Char

def isClosing (c : Char) : Bool := c == ')' || c == ']' || c == '\x7d'

/-- Reads a character outside of literals and comments. -/
def codeStep (due : List Char) (c : Char) : Option Scan :=
  if c = '#' then some (.comment, due)
  else if h : isQuoteChar c = true then some (.opening ⟨c, h⟩ false, due)
  else match closingBracket? c with
    | some closing => some (.code, closing :: due)
    | none =>
      if isClosing c then
        match due with
        | closing :: due => if c = closing then some (.code, due) else none
        | [] => none
      else some (.code, due)

/-- Reads a character of a literal; one that is closed by one quote ends on its line. -/
def literalStep (quote : Quote) (triple : Bool) (seen : Nat) (due : List Char) (c : Char) :
    Option Scan :=
  if c = '\\' then some (.escaped quote triple, due)
  else if c = quote.1 then
    some (if triple && seen < 2 then .literal quote triple (seen + 1) else .code, due)
  else if c = '\n' && !triple then none
  else some (.literal quote triple 0, due)

/-- Reads a character. -/
def step : Scan → Char → Option Scan
  | (.code, due), c => codeStep due c
  | (.comment, due), c => some (if c = '\n' then .code else .comment, due)
  | (.opening q false, due), c =>
    if c = q.1 then some (.opening q true, due) else literalStep q false 0 due c
  | (.opening q true, due), c =>
    if c = q.1 then some (.literal q true 0, due) else codeStep due c
  | (.literal q triple seen, due), c => literalStep q triple seen due c
  | (.escaped q triple, due), _ => some (.literal q triple 0, due)

/-- Reads a text from a place on, unless a closing bracket does not match. -/
def scan (s : Scan) (text : List Char) : Option Scan := text.foldlM step s

/-- Whether no literal is open at a spot. -/
def Spot.isOutside : Spot → Bool
  | .code | .comment | .opening _ true => true
  | _ => false

/-- The brackets that are due at a place, if no literal is open. -/
def finish (s : Scan) : Option (List Char) := if s.1.isOutside then some s.2 else none

/-- The brackets that are due behind a text, if it can be read and no literal is left open. -/
def due? (s : Scan) (text : List Char) : Option (List Char) := (scan s text).bind finish

/-- Whether a text is balanced on its own: it closes the brackets that it opens, and no others. -/
def IsBalanced (text : List Char) : Prop := due? (.code, []) text = some []

instance (text : List Char) : Decidable (IsBalanced text) := inferInstanceAs (Decidable (_ = _))

/-! ### Parts -/

theorem scan_append (s : Scan) (front back : List Char) :
    scan s (front ++ back) = (scan s front).bind fun t => scan t back :=
  List.foldlM_append

theorem due?_append (s : Scan) (front back : List Char) :
    due? s (front ++ back) = (scan s front).bind fun t => due? t back := by
  rw [due?, scan_append, Option.bind_assoc]
  rfl

theorem due?_cons (s : Scan) (c : Char) (text : List Char) :
    due? s (c :: text) = (step s c).bind fun t => due? t text := by
  rw [due?, scan, List.foldlM_cons, Option.bind_eq_bind, Option.bind_assoc]
  rfl

theorem due?_cons_of {s t : Scan} {c : Char} (h : step s c = some t) (text : List Char) :
    due? s (c :: text) = due? t text := by
  rw [due?_cons, h, Option.bind_some]

/-! ### Characters without a meaning for brackets -/

/-- The characters with a meaning for brackets. -/
def marks : List Char := ['#', '\'', '"', '(', ')', '[', ']', '\x7b', '\x7d']

/-- Whether a character has no meaning for brackets. -/
def isNeutral (c : Char) : Bool := !marks.contains c

theorem step_neutral {c : Char} (hc : isNeutral c = true) (due : List Char) :
    step (.code, due) c = some (.code, due) := by
  simp only [isNeutral, marks, Bool.not_eq_true', List.contains_eq_mem, decide_eq_false_iff_not,
    List.mem_cons, List.not_mem_nil, or_false, not_or] at hc
  obtain ⟨h₁, h₂, h₃, h₄, h₅, h₆, h₇, h₈, h₉⟩ := hc
  have hclosing : closingBracket? c = none := by
    unfold closingBracket?
    split <;> simp_all
  simp [step, codeStep, isQuoteChar, isClosing, hclosing, h₁, h₂, h₃, h₅, h₇, h₉]

theorem due?_neutral {run : List Char} (hrun : ∀ c ∈ run, isNeutral c = true)
    (due text : List Char) :
    due? (.code, due) (run ++ text) = due? (.code, due) text := by
  induction run with
  | nil => rfl
  | cons c run ih =>
    rw [List.forall_mem_cons] at hrun
    rw [List.cons_append, due?_cons_of (step_neutral hrun.1 due), ih hrun.2]

/-- A comment reaches to the end of its line. -/
theorem due?_comment (due text : List Char) :
    due? (.code, due) ('#' :: text) = due? (.code, due) (text.dropWhile (· != '\n')) := by
  have hopen : step (.code, due) '#' = some (.comment, due) := rfl
  rw [due?_cons_of hopen]
  induction text with
  | nil => rfl
  | cons c text ih =>
    by_cases hc : c = '\n'
    · subst hc
      rw [List.dropWhile_cons_of_neg (by simp),
        due?_cons_of (show step (.comment, due) '\n' = some (.code, due) from rfl),
        due?_cons_of (step_neutral (by decide) due)]
    · have hstep : step (.comment, due) c = some (.comment, due) := by
        simp [step, hc]
      rw [List.dropWhile_cons_of_pos (by simpa using hc), due?_cons_of hstep, ih]

/-! ### Literals -/

theorem Quote.ne_slash (q : Quote) : q.1 ≠ '\\' := ne_slash_of_quote q.2

theorem Quote.ne {c : Char} (hc : isQuoteChar c = false) (q : Quote) : c ≠ q.1 := by
  rintro rfl
  exact Bool.false_ne_true (hc.symm.trans q.2)

theorem isQuoteChar_of_neutral {c : Char} (hc : isNeutral c = true) : isQuoteChar c = false := by
  cases hq : isQuoteChar c with
  | false => rfl
  | true =>
    have hquote : c = '\'' ∨ c = '"' := by simpa [isQuoteChar] using hq
    rcases hquote with rfl | rfl <;> cases hc

/-- Within a literal that one quote closes. -/
theorem due?_single (q : Quote) {text body rest : List Char} (h : Closes q.1 false text body rest)
    (due : List Char) : due? (.literal q false 0, due) text = due? (.code, due) rest := by
  induction h with
  | done rest =>
    have hstep : step (.literal q false 0, due) q.1 = some (.code, due) := by
      simp [step, literalStep, q.ne_slash]
    exact due?_cons_of hstep rest
  | @escape c text body rest h ih =>
    have hopen : step (.literal q false 0, due) '\\' = some (.escaped q false, due) := rfl
    have hnext : step (.escaped q false, due) c = some (.literal q false 0, due) := rfl
    rw [due?_cons_of hopen, due?_cons_of hnext, ih]
  | @char c text body rest hc hopen hline h ih =>
    have hne : c ≠ q.1 := by
      rintro rfl
      exact hopen ⟨text, rfl⟩
    have hstep : step (.literal q false 0, due) c = some (.literal q false 0, due) := by
      simp [step, literalStep, hc, hne, hline rfl]
    rw [due?_cons_of hstep, ih]

/-- Quotes that are too few to close a literal belong to what it holds. -/
theorem closes_of_replicate {q : Quote} {c : Char} (hc : c ≠ q.1) {text body rest : List Char}
    {seen : Nat} (hseen : seen < 3)
    (h : Closes q.1 true (List.replicate seen q.1 ++ c :: text) body rest) :
    ∃ body, Closes q.1 true (c :: text) body rest := by
  induction seen generalizing body with
  | zero => exact ⟨body, h⟩
  | succ seen ih =>
    rw [List.replicate_succ, List.cons_append] at h
    generalize hwhole : q.1 :: (List.replicate seen q.1 ++ c :: text) = whole at h
    cases h with
    | done rest =>
      match seen with
      | 0 =>
        cases hwhole
        exact absurd rfl hc
      | 1 =>
        cases hwhole
        exact absurd rfl hc
    | escape d h => exact absurd (List.cons.inj hwhole).1 q.ne_slash
    | char hslash hopen hline h =>
      cases hwhole
      exact ih (Nat.lt_of_succ_lt hseen) h

/-- Within a literal that three quotes close, behind less than three of them in a row. -/
theorem due?_triple (q : Quote) {text body rest : List Char} {seen : Nat} (hseen : seen < 3)
    (h : Closes q.1 true (List.replicate seen q.1 ++ text) body rest) (due : List Char) :
    due? (.literal q true seen, due) text = due? (.code, due) rest := by
  induction hlength : text.length using Nat.strong_induction_on generalizing text body seen with
  | _ size ih =>
    subst hlength
    cases text with
    | nil =>
      have hlong := congrArg List.length h.eq_append
      simp [closing] at hlong
      omega
    | cons c text =>
      by_cases hc : c = q.1
      · subst hc
        by_cases hmore : seen < 2
        · have hstep : step (.literal q true seen, due) q.1 =
              some (.literal q true (seen + 1), due) := by
            simp [step, literalStep, q.ne_slash, hmore]
          have hnext : Closes q.1 true (List.replicate (seen + 1) q.1 ++ text) body rest := by
            rwa [List.replicate_succ', List.append_assoc]
          rw [due?_cons_of hstep]
          exact ih text.length (by simp) (by omega) hnext rfl
        · obtain rfl : seen = 2 := by omega
          have hstep : step (.literal q true 2, due) q.1 = some (.code, due) := by
            simp [step, literalStep, q.ne_slash]
          rw [due?_cons_of hstep]
          generalize hwhole : List.replicate 2 q.1 ++ q.1 :: text = whole at h
          cases h with
          | done rest =>
            cases hwhole
            rfl
          | escape d h => exact absurd (List.cons.inj hwhole).1 q.ne_slash
          | char hslash hopen hline h => exact absurd ⟨text, hwhole⟩ hopen
      · obtain ⟨body, h⟩ := closes_of_replicate hc hseen h
        generalize hwhole : c :: text = whole at h
        cases h with
        | done rest =>
          cases hwhole
          exact absurd rfl hc
        | @escape d tail body rest hrest =>
          cases hwhole
          have hopen : step (.literal q true seen, due) '\\' = some (.escaped q true, due) := rfl
          have hback : step (.escaped q true, due) d = some (.literal q true 0, due) := rfl
          have hnext : Closes q.1 true (List.replicate 0 q.1 ++ tail) body rest := hrest
          rw [due?_cons_of hopen, due?_cons_of hback]
          exact ih tail.length (by simp only [List.length_cons]; omega) (by omega) hnext rfl
        | @char d tail body rest hslash hopen hline hrest =>
          cases hwhole
          have hnext : Closes q.1 true (List.replicate 0 q.1 ++ text) body rest := hrest
          have hstep : step (.literal q true seen, due) c = some (.literal q true 0, due) := by
            simp [step, literalStep, hslash, hc]
          rw [due?_cons_of hstep]
          exact ih text.length (by simp) (by omega) hnext rfl

/-- Behind two quotes a text is read as code, if no third one comes. -/
theorem due?_empty {q : Quote} {rest : List Char} (h : ¬ [q.1] <+: rest) (due : List Char) :
    due? (.opening q true, due) rest = due? (.code, due) rest := by
  cases rest with
  | nil => rfl
  | cons c rest =>
    have hc : c ≠ q.1 := by
      rintro rfl
      exact h ⟨rest, rfl⟩
    rw [due?_cons, due?_cons]
    simp only [step, if_neg hc]

/-- Behind one quote a text is read as a literal, if no second one comes. -/
theorem due?_opening {q : Quote} {c : Char} (hc : c ≠ q.1) (text due : List Char) :
    due? (.opening q false, due) (c :: text) = due? (.literal q false 0, due) (c :: text) := by
  rw [due?_cons, due?_cons]
  simp only [step, if_neg hc]

theorem due?_literal (q : Quote) {triple : Bool} {after body rest : List Char}
    (hopen : triple = false → ¬ [q.1, q.1] <+: after) (h : Closes q.1 triple after body rest)
    (due : List Char) :
    due? (.code, due) (closing q.1 triple ++ after) = due? (.code, due) rest := by
  have hsharp : q.1 ≠ '#' := (Quote.ne rfl q).symm
  have hfirst : step (.code, due) q.1 = some (.opening q false, due) := by
    simp [step, codeStep, hsharp, q.2]
  have hsecond : step (.opening q false, due) q.1 = some (.opening q true, due) := by simp [step]
  cases triple with
  | true =>
    have hthird : step (.opening q true, due) q.1 = some (.literal q true 0, due) := by
      simp [step]
    have hwithin : Closes q.1 true (List.replicate 0 q.1 ++ after) body rest := h
    change due? (.code, due) (q.1 :: q.1 :: q.1 :: after) = _
    rw [due?_cons_of hfirst, due?_cons_of hsecond, due?_cons_of hthird]
    exact due?_triple q (by decide) hwithin due
  | false =>
    change due? (.code, due) (q.1 :: after) = _
    rw [due?_cons_of hfirst]
    cases h with
    | done rest =>
      change due? (.opening q false, due) (q.1 :: rest) = _
      rw [due?_cons_of hsecond]
      exact due?_empty (fun hin => hopen rfl (List.cons_prefix_cons.2 ⟨rfl, hin⟩)) due
    | escape c h =>
      exact (due?_opening q.ne_slash.symm _ due).trans (due?_single q (.escape c h) due)
    | @char c text body rest hslash hnot hline h =>
      have hne : c ≠ q.1 := by
        rintro rfl
        exact hnot ⟨text, rfl⟩
      exact (due?_opening hne _ due).trans (due?_single q (.char hslash hnot hline h) due)

/-! ### A parenthesis around -/

/-- Behind two quotes a character that is none is read as in code. -/
theorem step_empty {q : Quote} {c : Char} (hc : isQuoteChar c = false) (due : List Char) :
    step (.opening q true, due) c = step (.code, due) c := by
  simp only [step, if_neg (Quote.ne hc q)]

/-- Characters without a meaning for brackets leave what is due behind a text. -/
theorem due?_outside {s : Scan} (hs : s.1.isOutside = true) {gap : List Char}
    (hgap : ∀ c ∈ gap, isNeutral c = true) : due? s gap = some s.2 := by
  induction gap generalizing s with
  | nil => simp [due?, scan, finish, hs]
  | cons c gap ih =>
    rw [List.forall_mem_cons] at hgap
    obtain ⟨spot, due⟩ := s
    have hcode : due? (.code, due) gap = some due := ih rfl hgap.2
    match spot with
    | .code => rw [due?_cons_of (step_neutral hgap.1 due), hcode]
    | .comment =>
      rw [due?_cons_of (show step (.comment, due) c = some _ from rfl)]
      split
      · exact hcode
      · exact ih rfl hgap.2
    | .opening q true =>
      have hstep := (step_empty (q := q) (isQuoteChar_of_neutral hgap.1) due).trans
        (step_neutral hgap.1 due)
      rw [due?_cons_of hstep, hcode]

/-- A parenthesis on a line of its own closes what is due, and ends no literal. -/
theorem outside_of_closed {s : Scan} {due : List Char} (h : due? s ['\n', ')'] = some due) :
    s.1.isOutside = true ∧ s.2 = ')' :: due := by
  obtain ⟨spot, open_⟩ := s
  have hcode (h : due? (.code, open_) [')'] = some due) : open_ = ')' :: due := by
    rw [due?_cons] at h
    cases open_ with
    | nil => cases h
    | cons c rest =>
      by_cases hc : ')' = c
      · subst hc
        cases h
        rfl
      · simp [step, codeStep, closingBracket?, isClosing, hc, isQuoteChar] at h
  have hliteral (q : Quote) (triple : Bool) :
      due? (.literal q triple 0, open_) [')'] = none := by
    have hstep : step (.literal q triple 0, open_) ')' = some (.literal q triple 0, open_) := by
      simp [step, literalStep, Quote.ne (c := ')') rfl q]
    rw [due?_cons_of hstep]
    rfl
  have hline (q : Quote) (triple : Bool) (seen : Nat) :
      (literalStep q triple seen open_ '\n').bind (fun t => due? t [')']) = none := by
    cases triple with
    | false => simp [literalStep, Quote.ne (c := '\n') rfl q]
    | true => simp [literalStep, Quote.ne (c := '\n') rfl q, hliteral]
  rw [due?_cons] at h
  cases spot with
  | code => exact ⟨rfl, hcode h⟩
  | comment => exact ⟨rfl, hcode h⟩
  | opening q double =>
    cases double with
    | true =>
      rw [step_empty rfl] at h
      exact ⟨rfl, hcode h⟩
    | false =>
      rw [step, if_neg (Quote.ne rfl q), hline] at h
      cases h
  | literal q triple seen =>
    rw [step, hline] at h
    cases h
  | escaped q triple =>
    rw [step, Option.bind_some, hliteral] at h
    cases h

/-! ### More brackets around -/

/-- A place with more brackets open around. -/
def Scan.within (outer : List Char) (s : Scan) : Scan := (s.1, s.2 ++ outer)

theorem codeStep_within (outer due : List Char) (c : Char) :
    codeStep (due ++ outer) c = (codeStep due c).map (Scan.within outer) ∨
      due = [] ∧ isClosing c = true ∧ codeStep due c = none := by
  unfold codeStep
  split
  · exact .inl rfl
  · split
    · exact .inl rfl
    · split
      · exact .inl rfl
      · split
        · next hclosing =>
          cases due with
          | nil => exact .inr ⟨rfl, hclosing, rfl⟩
          | cons d due =>
            left
            rw [List.cons_append]
            dsimp only
            split <;> rfl
        · exact .inl rfl

theorem literalStep_within (outer : List Char) (q : Quote) (triple : Bool) (seen : Nat)
    (due : List Char) (c : Char) : literalStep q triple seen (due ++ outer) c =
      (literalStep q triple seen due c).map (Scan.within outer) := by
  unfold literalStep
  split
  · rfl
  · split
    · rfl
    · split <;> rfl

/-- More brackets around make no difference, but for a closing bracket outside of literals and
comments where nothing else is due. -/
theorem step_within (outer : List Char) (s : Scan) (c : Char) :
    step (s.within outer) c = (step s c).map (Scan.within outer) ∨
      s.1.isOutside = true ∧ s.2 = [] ∧ isClosing c = true ∧
        step (s.within outer) c = codeStep outer c := by
  obtain ⟨spot, due⟩ := s
  have hcode (hspot : spot.isOutside = true) :
      codeStep (due ++ outer) c = (codeStep due c).map (Scan.within outer) ∨
        spot.isOutside = true ∧ due = [] ∧ isClosing c = true ∧
          codeStep (due ++ outer) c = codeStep outer c := by
    rcases codeStep_within outer due c with heq | ⟨rfl, hclosing, -⟩
    · exact .inl heq
    · exact .inr ⟨hspot, rfl, hclosing, rfl⟩
  match spot with
  | .code => exact hcode rfl
  | .comment => exact .inl rfl
  | .opening q true =>
    simp only [step, Scan.within]
    split
    · exact .inl rfl
    · exact hcode rfl
  | .opening q false =>
    left
    simp only [step, Scan.within]
    split
    · rfl
    · exact literalStep_within outer q false 0 due c
  | .literal q triple seen => exact .inl (literalStep_within outer q triple seen due c)
  | .escaped q triple => exact .inl rfl

/-- A text that leaves one parenthesis open that was open before it leaves nothing open by itself,
or it closes that parenthesis and opens another one. -/
theorem due?_within {s : Scan} {text : List Char} (h : due? (s.within [')']) text = some [')']) :
    due? s text = some [] ∨ ∃ front back, text = front ++ ')' :: back ∧ due? s front = some [] ∧
      due? (s.within [')']) (front ++ [')']) = some [] ∧ due? (.code, []) back = some [')'] := by
  induction text generalizing s with
  | nil =>
    left
    obtain ⟨spot, due⟩ := s
    cases hspot : spot.isOutside with
    | false => simp [due?, scan, finish, Scan.within, hspot] at h
    | true =>
      have hdue : due = [] := by simpa [due?, scan, finish, Scan.within, hspot] using h
      simp [due?, scan, finish, hspot, hdue]
  | cons c text ih =>
    rw [due?_cons] at h
    rcases step_within [')'] s c with hstep | ⟨hspot, hdue, hclosing, hstep⟩
    · rw [hstep] at h
      cases ht : step s c with
      | none =>
        rw [ht] at h
        cases h
      | some t =>
        rw [ht] at h hstep
        rcases ih h with hown | ⟨front, back, rfl, hfront, hclosed, hback⟩
        · exact .inl ((due?_cons_of ht text).trans hown)
        · exact .inr ⟨c :: front, back, rfl, (due?_cons_of ht front).trans hfront,
            (due?_cons_of hstep _).trans hclosed, hback⟩
    · rw [hstep] at h
      have hc : c = ')' := by
        simp only [isClosing, Bool.or_eq_true, beq_iff_eq] at hclosing
        rcases hclosing with (rfl | rfl) | rfl
        · rfl
        all_goals cases h
      subst hc
      refine .inr ⟨[], text, rfl, ?_, due?_cons_of hstep [], h⟩
      simp [due?, scan, finish, hspot, hdue]

/-- Whether a text closes a parenthesis that was open before it, and opens another one for it. -/
def ClosesAround (text : List Char) : Prop :=
  ∃ front back, text = front ++ ')' :: back ∧ IsBalanced front ∧
    due? (.code, [')']) (front ++ [')']) = some [] ∧ due? (.code, []) back = some [')']

end LambdaText.Code.Brackets
