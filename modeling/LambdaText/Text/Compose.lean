import LambdaText.Text.ComposeTables

/-!
# Compatibility composition

The normal form in which compatibility variants are replaced by what they stand for and marks are
joined to their letters again (NFKC). Two spellings of a name are the same name when their
composed forms are equal.
-/

namespace LambdaText.Text

/-- The combining class of a code point; zero for everything that is not a reordered mark. -/
def combiningClass (n : Nat) : Nat :=
  if n < 0x300 then 0
  else ((combiningTable.find? fun (lo, hi, _) => lo ≤ n && n ≤ hi).map fun (_, _, k) => k).getD 0

/-- The full compatibility decomposition of a code point. -/
def decompose (n : Nat) : List Nat :=
  if n < 0x80 then [n]
  else if 0xAC00 ≤ n ∧ n ≤ 0xD7A3 then
    let s := n - 0xAC00
    let l := 0x1100 + s / 588
    let v := 0x1161 + s % 588 / 28
    if s % 28 = 0 then [l, v] else [l, v, 0x11A7 + s % 28]
  else match singletonTable.image? n with
    | some target => [target]
    | none => ((decompositionTable.find? fun entry => entry.1 == n).map Prod.snd).getD [n]

/-- Puts a mark behind those of its class or a lower one, without passing a starter. -/
def insertMark (n : Nat) : List Nat → List Nat
  | [] => [n]
  | m :: rest =>
    if combiningClass m ≤ combiningClass n then n :: m :: rest
    else m :: insertMark n rest

/-- Sorts each run of marks by class; the list is built last point first. -/
def orderMarks (points : List Nat) : List Nat :=
  (points.foldl (fun out n =>
    if combiningClass n = 0 then n :: out else insertMark n out) []).reverse

/-- The character two characters are joined to, if any. -/
def composite? (a b : Nat) : Option Nat :=
  if 0x1100 ≤ a ∧ a ≤ 0x1112 ∧ 0x1161 ≤ b ∧ b ≤ 0x1175 then
    some (0xAC00 + ((a - 0x1100) * 21 + (b - 0x1161)) * 28)
  else if 0xAC00 ≤ a ∧ a ≤ 0xD7A3 ∧ (a - 0xAC00) % 28 = 0 ∧ 0x11A8 ≤ b ∧ b ≤ 0x11C2 then
    some (a + (b - 0x11A7))
  else
    let rec search : List Nat → Option Nat
      | first :: whole :: rest => if first = a then some whole else search rest
      | _ => none
    (compositeTable.find? fun entry => entry.1 == b).bind fun entry => search entry.2

/-- Joining in progress: the output so far (last point first), the last starter, and the marks
behind it (last first) that it did not take up. -/
structure Joining where
  done : List Nat
  starter : Option Nat
  marks : List Nat

/-- Everything read so far, last point first. -/
def Joining.flush (j : Joining) : List Nat :=
  j.marks ++ j.starter.toList ++ j.done

def Joining.step (j : Joining) (n : Nat) : Joining :=
  let open? := match j.marks with
    | [] => true
    | m :: _ => combiningClass m < combiningClass n
  match j.starter.bind fun s => if open? then composite? s n else none with
  | some whole => { j with starter := some whole }
  | none =>
    if combiningClass n = 0 then ⟨j.flush, some n, []⟩
    else match j.starter with
      | some _ => { j with marks := n :: j.marks }
      | none => { j with done := n :: j.done }

def composePoints (points : List Nat) : List Nat :=
  ((orderMarks (points.flatMap decompose)).foldl Joining.step ⟨[], none, []⟩).flush.reverse

def compose (text : List Char) : List Char :=
  if text.all fun c => c.toNat < 0x80 then text
  else (composePoints (text.map Char.toNat)).map Char.ofNat

end LambdaText.Text
