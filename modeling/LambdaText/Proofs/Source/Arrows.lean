import LambdaText.Proofs.Text.Words
import LambdaText.Source.Reading
import Mathlib.Data.List.DropRight
import Mathlib.Data.List.Induction
import Mathlib.Data.List.TakeWhile

/-!
# Texts with arrows

A text is cut at its arrows from the left, and the blanks next to an arrow belong to no piece. A
parameter list may be written with any blanks and commas around and between its names; what is read
from it are the names.
-/

namespace LambdaText.Source

open LambdaText.Text

/-! ### Cutting -/

def NoArrow (text : List Char) : Prop := ¬ ['-', '>'] <:+: text

theorem NoArrow.tail {c : Char} {text : List Char} (h : NoArrow (c :: text)) : NoArrow text :=
  fun hin => h (hin.trans (List.suffix_cons c text).isInfix)

theorem splitArrows_arrow (rest : List Char) :
    splitArrows ('-' :: '>' :: rest) = [] :: splitArrows rest := by
  rw [splitArrows]

theorem splitArrows_ne_nil (text : List Char) : splitArrows text ≠ [] := by
  fun_induction splitArrows text <;> simp_all

/-- A character that starts no arrow belongs to the first piece. -/
theorem splitArrows_cons {c : Char} {rest piece : List Char} {pieces : List (List Char)}
    (hc : ¬ ['-', '>'] <+: c :: rest) (h : splitArrows rest = piece :: pieces) :
    splitArrows (c :: rest) = (c :: piece) :: pieces := by
  rw [splitArrows, h]
  rintro rest' rfl rfl
  exact hc ⟨rest', rfl⟩

/-- The text up to an arrow is a piece if no arrow occurs in it. -/
theorem splitArrows_append {piece : List Char} (h : NoArrow piece) (rest : List Char) :
    splitArrows (piece ++ '-' :: '>' :: rest) = piece :: splitArrows rest := by
  induction piece with
  | nil => exact splitArrows_arrow rest
  | cons c piece ih =>
    refine splitArrows_cons ?_ (ih h.tail)
    rintro ⟨after, heq⟩
    cases piece with
    | nil => simp at heq
    | cons d piece =>
      simp only [List.cons_append, List.nil_append, List.cons.injEq] at heq
      obtain ⟨rfl, rfl, -⟩ := heq
      exact h ⟨[], piece, rfl⟩

/-- A text without arrows is one piece. -/
theorem splitArrows_of_noArrow {text : List Char} (h : NoArrow text) :
    splitArrows text = [text] := by
  induction text with
  | nil => rfl
  | cons c text ih =>
    refine splitArrows_cons (fun hin => h ?_) (ih h.tail)
    exact hin.isInfix

/-! ### Blanks around pieces -/

theorem trimEnd_concat_of_blank {c : Char} (hc : isBlank c = true) (text : List Char) :
    trimEnd (text ++ [c]) = trimEnd text := by
  simp [trimEnd, hc]

theorem trimEnd_concat_of_not {c : Char} (hc : isBlank c = false) (text : List Char) :
    trimEnd (text ++ [c]) = text ++ [c] := by
  simp [trimEnd, hc]

theorem trim_trimStart (text : List Char) : trim (trimStart text) = trim text := by
  rw [trim, trimStart, trimStart, List.dropWhile_idempotent, trim, trimStart]

/-- Blanks that belong to no run may be taken off the end. -/
theorem runs_trimEnd {test : Char → Bool} (h : ∀ c, isBlank c = true → test c = false)
    (text : List Char) : runs test (trimEnd text) = runs test text := by
  induction text using List.reverseRec with
  | nil => rfl
  | append_singleton text c ih =>
    cases hc : isBlank c with
    | false => rw [trimEnd_concat_of_not hc]
    | true =>
      rw [trimEnd_concat_of_blank hc, ih, runs_append_cons_of_not (h c hc)]
      simp

/-- Blanks that belong to no run may be taken off the front. -/
theorem runs_trimStart {test : Char → Bool} (h : ∀ c, isBlank c = true → test c = false)
    (text : List Char) : runs test (trimStart text) = runs test text := by
  have hsplit : text.takeWhile isBlank ++ trimStart text = text :=
    List.takeWhile_append_dropWhile
  conv_rhs => rw [← hsplit]
  exact (runs_append_of_none
    (fun c hc => h c (by simpa using List.mem_takeWhile_imp hc)) _).symm

theorem runs_trim {test : Char → Bool} (h : ∀ c, isBlank c = true → test c = false)
    (text : List Char) : runs test (trim text) = runs test text := by
  rw [trim, runs_trimEnd h, runs_trimStart h]

/-! ### Parameter lists -/

/-- Whether a character may stand between the names of a parameter list. -/
def isSeparator (c : Char) : Bool := isBlank c || c == ','

/-- A name that a parameter list can hold. -/
structure IsToken (name : String) : Prop where
  ne_nil : name.toList ≠ []
  noSeparator : ∀ c ∈ name.toList, isSeparator c = false

/-- A text that writes names in order, with separators between them and maybe around them. -/
inductive Spells : List String → List Char → Prop
  | done {gap : List Char} (hgap : ∀ c ∈ gap, isSeparator c = true) : Spells [] gap
  | name {gap rest : List Char} {name : String} {names : List String}
      (hgap : ∀ c ∈ gap, isSeparator c = true) (hrest : rest.head?.all isSeparator)
      (h : Spells names rest) : Spells (name :: names) (gap ++ name.toList ++ rest)

theorem parameterTokens_trim (segment : List Char) :
    parameterTokens (trim segment) = parameterTokens segment := by
  rw [parameterTokens, runs_trim (fun c hc => by simp [hc]), parameterTokens]

theorem parameterTokens_trimEnd (segment : List Char) :
    parameterTokens (trimEnd segment) = parameterTokens segment := by
  rw [parameterTokens, runs_trimEnd (fun c hc => by simp [hc]), parameterTokens]

/-- The names of a parameter list are read as they were written. -/
theorem parameterTokens_of_spells {names : List String} {segment : List Char}
    (h : Spells names segment) (hnames : ∀ name ∈ names, IsToken name) :
    parameterTokens segment = names := by
  have separates : ∀ c, isSeparator c = true → (!isBlank c && c != ',') = false := by
    intro c hc
    simp only [isSeparator, Bool.or_eq_true, beq_iff_eq] at hc
    rcases hc with hc | hc <;> simp [hc]
  induction h with
  | @done gap hgap =>
    have := runs_append_of_none (fun c hc => separates c (hgap c hc)) []
    simpa [parameterTokens] using congrArg (List.map String.ofList) this
  | @name gap rest name names hgap hrest _ ih =>
    have hname := hnames name (by simp)
    have hword : ∀ c ∈ name.toList, (!isBlank c && c != ',') = true := by
      intro c hc
      simpa [isSeparator] using hname.noSeparator c hc
    have hhead : rest.head?.all fun c => !(!isBlank c && c != ',') := by
      cases rest with
      | nil => rfl
      | cons c rest =>
        have := separates c (by simpa using hrest)
        simp only [List.head?_cons, Option.all_some, this, Bool.not_false]
    have ih := ih fun n hn => hnames n (by simp [hn])
    rw [parameterTokens, List.append_assoc,
      runs_append_of_none fun c hc => separates c (hgap c hc),
      runs_append_of_all hword hname.ne_nil hhead, List.map_cons, String.ofList_toList]
    exact congrArg _ ih

end LambdaText.Source
