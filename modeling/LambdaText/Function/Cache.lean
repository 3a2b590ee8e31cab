/-!
# Recently used results

A cache of bounded size. Entries are kept in the order of their last use, newest first; the oldest
entry is dropped when there is no room. Hits and misses are counted.
-/

namespace LambdaText.Function

/-- A cache with keys and results of any kind. -/
structure Cache (κ α : Type) where
  capacity : Nat
  entries : List (κ × α) := []
  hits : Nat := 0
  misses : Nat := 0

namespace Cache

variable {κ α : Type} [BEq κ]

/-- Looks a key up. A key that is found becomes the one used last. -/
def find (c : Cache κ α) (key : κ) : Option α × Cache κ α :=
  match c.entries.find? fun entry => entry.1 == key with
  | some entry =>
    (some entry.2,
      { c with
        entries := entry :: c.entries.filter fun other => !(other.1 == key)
        hits := c.hits + 1 })
  | none => (none, { c with misses := c.misses + 1 })

/-- Stores a result as the one used last, dropping the oldest ones for which there is no room. -/
def store (c : Cache κ α) (key : κ) (result : α) : Cache κ α :=
  { c with
    entries := ((key, result) :: c.entries.filter fun other => !(other.1 == key)).take c.capacity }

def size (c : Cache κ α) : Nat := c.entries.length

end Cache

end LambdaText.Function
