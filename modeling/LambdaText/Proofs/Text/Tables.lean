import LambdaText.Text.Blank
import LambdaText.Text.Identifier

/-!
# What the tables leave out

A property of all ranges of a table is checked line by line. No letter, no numeric character and no
part of an identifier is a blank.
-/

namespace LambdaText.Text

/-- Whether all ranges on a line have a property. -/
def lineHolds (p : Nat × Nat → Bool) (line : List Char) : Bool :=
  ((pieces ' ' line).map readRange).all p

/-- The characters of a line are compared as a list, which is quicker than to decode its text. -/
theorem lineHolds_of_eq {p : Nat × Nat → Bool} {line : String} {chars : List Char}
    (hline : line = String.ofList chars) (h : lineHolds p chars = true) :
    lineHolds p line.toList = true := by
  rw [hline, String.toList_ofList]
  exact h

theorem contains_ofLines_eq_false {n : Nat} {lines : List String} {p : Nat × Nat → Bool}
    (h : ∀ line ∈ lines, lineHolds p line.toList = true)
    (hp : ∀ r : Nat × Nat, p r = true → (r.1 ≤ n && n ≤ r.2) = false) :
    (RangeTable.ofLines lines).contains n = false := by
  rw [RangeTable.contains, RangeTable.ofLines, Array.any_eq_false']
  intro r hr
  rw [List.mem_toArray, List.mem_flatMap] at hr
  obtain ⟨line, hline, hr⟩ := hr
  have := List.all_eq_true.1 (h line hline) r hr
  simpa using hp r this

/-- The blanks beyond ASCII. -/
def wideBlanks : List Nat :=
  [0x85, 0xA0, 0x1680, 0x2000, 0x2001, 0x2002, 0x2003, 0x2004, 0x2005, 0x2006, 0x2007, 0x2008,
   0x2009, 0x200A, 0x2028, 0x2029, 0x202F, 0x205F, 0x3000]

theorem mem_wideBlanks {c : Char} (hc : isBlank c = true) (hwide : ¬ c.toNat < 0x80) :
    c.toNat ∈ wideBlanks := by
  simp only [isBlank, Bool.or_eq_true, Bool.and_eq_true, decide_eq_true_eq, beq_iff_eq] at hc
  simp only [wideBlanks, List.mem_cons, List.not_mem_nil, or_false]
  omega

/-- Whether a range holds no blank beyond ASCII. -/
def avoidsBlanks (r : Nat × Nat) : Bool := wideBlanks.all fun n => !(r.1 ≤ n && n ≤ r.2)

theorem contains_eq_false_of_blank {lines : List String}
    (h : ∀ line ∈ lines, lineHolds avoidsBlanks line.toList = true) {c : Char}
    (hc : isBlank c = true) (hwide : ¬ c.toNat < 0x80) :
    (RangeTable.ofLines lines).contains c.toNat = false := by
  refine contains_ofLines_eq_false h fun r hr => ?_
  have := List.all_eq_true.1 hr _ (mem_wideBlanks hc hwide)
  rwa [Bool.not_eq_true'] at this

set_option maxRecDepth 8000 in
/-- No table of letters, of numeric characters or of parts of identifiers has a blank. -/
theorem tables_of_blank {c : Char} (hc : isBlank c = true) (hwide : ¬ c.toNat < 0x80) :
    letterTable.contains c.toNat = false ∧ numericTable.contains c.toNat = false ∧
      identifierStartTable.contains c.toNat = false ∧
      identifierRestTable.contains c.toNat = false := by
  refine ⟨?_, ?_, ?_, ?_⟩ <;>
  · refine contains_eq_false_of_blank ?_ hc hwide
    simp only [List.forall_mem_cons, List.not_mem_nil, false_imp_iff, implies_true, and_true]
    and_intros <;> exact lineHolds_of_eq rfl (by decide +kernel)

theorem ascii_of_blank {c : Char} (hc : isBlank c = true) (hascii : c.toNat < 0x80) :
    isAsciiLetter c = false ∧ isAsciiDigit c = false ∧ c ≠ '_' := by
  have hn : c.toNat ≤ 0x20 := by
    simp only [isBlank, Bool.or_eq_true, Bool.and_eq_true, decide_eq_true_eq, beq_iff_eq] at hc
    omega
  have below : ∀ d : Char, 0x20 < d.toNat → (d ≤ c) = False := by
    intro d hd
    rw [eq_iff_iff, iff_false, Char.le_def, UInt32.le_iff_toNat_le]
    exact Nat.not_le.2 (Nat.lt_of_le_of_lt hn hd)
  refine ⟨?_, ?_, ?_⟩
  · simp [isAsciiLetter, below 'a' (by decide), below 'A' (by decide)]
  · simp [isAsciiDigit, below '0' (by decide)]
  · rintro rfl
    exact absurd hn (by decide)

theorem isWordChar_of_blank {c : Char} (hc : isBlank c = true) : isWordChar c = false := by
  by_cases hn : c.toNat < 0x80
  · obtain ⟨hletter, hdigit, hline⟩ := ascii_of_blank hc hn
    simp [isWordChar, isLetter, isNumeric, hn, hletter, hdigit, hline]
  · obtain ⟨hletter, hnumeric, -, -⟩ := tables_of_blank hc hn
    have hline : c ≠ '_' := by
      rintro rfl
      exact hn (by decide)
    simp [isWordChar, isLetter, isNumeric, hn, hletter, hnumeric, hline]

theorem isIdentifierRest_of_blank {c : Char} (hc : isBlank c = true) :
    isIdentifierRest c = false := by
  by_cases hn : c.toNat < 0x80
  · obtain ⟨hletter, hdigit, hline⟩ := ascii_of_blank hc hn
    simp [isIdentifierRest, isAsciiNameStart, hn, hletter, hdigit, hline]
  · obtain ⟨-, -, hstart, hrest⟩ := tables_of_blank hc hn
    simp [isIdentifierRest, hn, hstart, hrest]

/-- What starts an identifier may also continue one. -/
theorem isIdentifierRest_of_start {c : Char} (hc : isIdentifierStart c = true) :
    isIdentifierRest c = true := by
  unfold isIdentifierStart at hc
  unfold isIdentifierRest
  split at hc <;> simp_all

/-- Every character of an identifier may continue one. -/
theorem isIdentifierRest_of_mem {name : List Char} (h : isIdentifier name = true) :
    ∀ c ∈ name, isIdentifierRest c = true := by
  cases name with
  | nil => simp [isIdentifier] at h
  | cons c rest =>
    rw [isIdentifier, Bool.and_eq_true, List.all_eq_true] at h
    exact List.forall_mem_cons.2 ⟨isIdentifierRest_of_start h.1, h.2⟩

end LambdaText.Text
