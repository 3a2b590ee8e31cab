import LambdaText.Function.Cache
import Mathlib.Data.Finset.Card
import Mathlib.Data.Finset.Dedup

/-!
# The entries of a cache

What has been looked up or stored, newest first, determines the entries of a cache: they are the
newest uses of every key, as many as there is room for. So a key is found exactly if, since its last
use, fewer other keys have been used than there is room for.
-/

namespace LambdaText.Function

variable {κ α : Type} [DecidableEq κ]

/-- The first use of every key in a row of uses. -/
def newest : List (κ × α) → List (κ × α)
  | [] => []
  | use :: uses => use :: (newest uses).filter fun other => !(other.1 == use.1)

theorem mem_keys_newest {key : κ} {uses : List (κ × α)} :
    key ∈ (newest uses).map Prod.fst ↔ key ∈ uses.map Prod.fst := by
  induction uses with
  | nil => rfl
  | cons use uses ih =>
    have hfilter : key ∈ ((newest uses).filter fun other => !(other.1 == use.1)).map Prod.fst ↔
        key ∈ (newest uses).map Prod.fst ∧ key ≠ use.1 := by
      simp only [List.mem_map, List.mem_filter]
      constructor
      · rintro ⟨other, ⟨hmem, hne⟩, rfl⟩
        exact ⟨⟨other, hmem, rfl⟩, by simpa using hne⟩
      · rintro ⟨⟨other, hmem, rfl⟩, hne⟩
        exact ⟨other, ⟨hmem, by simpa using hne⟩, rfl⟩
    rw [newest, List.map_cons, List.mem_cons, List.map_cons, List.mem_cons, hfilter, ih]
    by_cases hkey : key = use.1 <;> simp [hkey]

theorem nodup_keys_newest (uses : List (κ × α)) : ((newest uses).map Prod.fst).Nodup := by
  induction uses with
  | nil => exact List.nodup_nil
  | cons use uses ih =>
    rw [newest, List.map_cons, List.nodup_cons]
    constructor
    · simp
    · exact ih.sublist (List.filter_sublist.map _)

/-- There are as many newest uses as keys that are used. -/
theorem length_newest (uses : List (κ × α)) :
    (newest uses).length = (uses.map Prod.fst).toFinset.card := by
  have hsame : ((newest uses).map Prod.fst).toFinset = (uses.map Prod.fst).toFinset := by
    ext key
    simp only [List.mem_toFinset, mem_keys_newest]
  rw [← hsame, List.toFinset_card_of_nodup (nodup_keys_newest uses), List.length_map]

theorem newest_append (uses earlier : List (κ × α)) :
    newest (uses ++ earlier) =
      newest uses ++
        (newest earlier).filter fun other => !(uses.any fun use => other.1 == use.1) := by
  induction uses with
  | nil => simp [newest]
  | cons use uses ih =>
    rw [List.cons_append, newest, newest, ih, List.filter_append, List.filter_filter,
      List.cons_append]
    simp only [List.any_cons, Bool.not_or]

/-! ### Looking a key up -/

/-- The other keys that have been used since a key was used. -/
def othersSince (uses : List (κ × α)) (key : κ) : Finset κ :=
  ((uses.takeWhile fun use => use.1 != key).map Prod.fst).toFinset

theorem eq_append_of_lookup {key : κ} {value : α} {uses : List (κ × α)}
    (h : uses.lookup key = some value) :
    ∃ since earlier, uses = since ++ (key, value) :: earlier ∧ key ∉ since.map Prod.fst ∧
      othersSince uses key = (since.map Prod.fst).toFinset := by
  obtain ⟨since, earlier, rfl, hsince⟩ := List.lookup_eq_some_iff.1 h
  have hne : ∀ use ∈ since, (use.1 != key) = true := fun use huse =>
    bne_iff_ne.2 (bne_iff_ne.1 (hsince use huse)).symm
  refine ⟨since, earlier, rfl, fun hmem => ?_, ?_⟩
  · obtain ⟨use, huse, rfl⟩ := List.mem_map.1 hmem
    simpa using hne use huse
  · rw [othersSince, List.takeWhile_append_of_pos hne,
      List.takeWhile_cons_of_neg (by simp), List.append_nil]

theorem find?_key_eq_none {key : κ} {uses : List (κ × α)} (h : key ∉ uses.map Prod.fst) :
    (uses.find? fun use => use.1 == key) = none := by
  rw [List.find?_eq_none]
  intro use huse hkey
  exact h (List.mem_map.2 ⟨use, huse, by simpa using hkey⟩)

/-- A key is found among the newest uses for which there is room if few other keys have been used
since it was used. -/
theorem find?_newest (capacity : Nat) {key : κ} {value : α} {since earlier : List (κ × α)}
    (hsince : key ∉ since.map Prod.fst) :
    (((newest (since ++ (key, value) :: earlier)).take capacity).find? fun use => use.1 == key) =
      if (since.map Prod.fst).toFinset.card < capacity then some (key, value) else none := by
  have hnot : (since.any fun use => key == use.1) = false := by
    rw [List.any_eq_false]
    intro use huse heq
    exact hsince (List.mem_map.2 ⟨use, huse, by simpa using Eq.symm (eq_of_beq heq)⟩)
  have hfront : key ∉ ((newest since).take capacity).map Prod.fst := fun hmem => by
    rw [List.map_take] at hmem
    exact hsince (mem_keys_newest.1 (List.mem_of_mem_take hmem))
  rw [newest_append, newest, List.filter_cons_of_pos (by simp [hnot]), List.take_append,
    List.find?_append, find?_key_eq_none hfront, Option.none_or, ← length_newest]
  by_cases hroom : (newest since).length < capacity
  · obtain ⟨room, hroom'⟩ : ∃ room, capacity - (newest since).length = room + 1 :=
      ⟨capacity - (newest since).length - 1, by omega⟩
    rw [if_pos hroom, hroom', List.take_succ_cons, List.find?_cons_of_pos (by simp)]
  · rw [if_neg hroom, Nat.sub_eq_zero_of_le (Nat.not_lt.1 hroom)]
    rfl

/-! ### What a use leaves -/

/-- Taking a key out of a row that has it at most once makes room for one more. -/
theorem take_filter_key {key : κ} (room : Nat) {uses : List (κ × α)}
    (hnodup : (uses.map Prod.fst).Nodup) :
    (((uses.take (room + 1)).filter fun other => !(other.1 == key)).take room) =
      (uses.filter fun other => !(other.1 == key)).take room := by
  induction uses generalizing room with
  | nil => simp
  | cons use uses ih =>
    rw [List.map_cons, List.nodup_cons] at hnodup
    rw [List.take_succ_cons]
    by_cases hkey : use.1 = key
    · have hkeep : ∀ other ∈ uses, (!(other.1 == key)) = true := fun other hother => by
        have : other.1 ≠ use.1 := fun heq => hnodup.1 (List.mem_map.2 ⟨other, hother, heq⟩)
        simpa [hkey] using this
      rw [List.filter_cons_of_neg (by simp [hkey]), List.filter_cons_of_neg (by simp [hkey]),
        List.filter_eq_self.2 hkeep, List.filter_eq_self.2 fun other hother =>
          hkeep other (List.mem_of_mem_take hother), List.take_take, Nat.min_self]
    · rw [List.filter_cons_of_pos (by simp [hkey]), List.filter_cons_of_pos (by simp [hkey])]
      cases room with
      | zero => simp
      | succ room => rw [List.take_succ_cons, List.take_succ_cons, ih _ hnodup.2]

/-- A key that is used comes to the front, and the others stay as far as there is room. -/
theorem take_newest_cons (room : Nat) (key : κ) (value : α) (uses : List (κ × α)) :
    (newest ((key, value) :: uses)).take (room + 1) =
      ((key, value) :: ((newest uses).take (room + 1)).filter fun other =>
        !(other.1 == key)).take (room + 1) := by
  rw [newest, List.take_succ_cons, List.take_succ_cons, take_filter_key room
    (nodup_keys_newest uses)]

namespace Cache

/-- A cache that holds the newest of these uses. -/
def Holds (c : Cache κ α) (uses : List (κ × α)) : Prop :=
  c.entries = (newest uses).take c.capacity

theorem Holds.size {c : Cache κ α} {uses : List (κ × α)} (h : c.Holds uses) :
    c.size = min c.capacity (uses.map Prod.fst).toFinset.card := by
  rw [Cache.size, h, List.length_take, length_newest]

/-- A key is found if few other keys have been used since it was used. -/
theorem Holds.find?_entries {c : Cache κ α} {uses : List (κ × α)} (h : c.Holds uses) (key : κ) :
    (c.entries.find? fun entry => entry.1 == key) =
      if (othersSince uses key).card < c.capacity then (uses.lookup key).map (key, ·)
      else none := by
  rw [h]
  cases hlookup : uses.lookup key with
  | none =>
    have hunused : key ∉ uses.map Prod.fst := fun hmem => by
      obtain ⟨use, huse, rfl⟩ := List.mem_map.1 hmem
      simpa using List.lookup_eq_none_iff.1 hlookup use huse
    rw [Option.map_none, ite_self]
    refine find?_key_eq_none fun hmem => hunused (mem_keys_newest.1 ?_)
    rw [List.map_take] at hmem
    exact List.mem_of_mem_take hmem
  | some value =>
    obtain ⟨since, earlier, rfl, hsince, hothers⟩ := eq_append_of_lookup hlookup
    rw [find?_newest _ hsince, hothers, Option.map_some]

theorem find_of_find?_none {c : Cache κ α} {key : κ}
    (h : (c.entries.find? fun entry => entry.1 == key) = none) :
    c.find key = (none, { c with misses := c.misses + 1 }) := by
  rw [Cache.find, h]

/-- A key that is found is used. -/
theorem Holds.find_of_find?_some {c : Cache κ α} {uses : List (κ × α)} (h : c.Holds uses)
    {key : κ} {value : α}
    (hentry : (c.entries.find? fun entry => entry.1 == key) = some (key, value)) :
    ∃ entries, c.find key = (some value, { c with entries, hits := c.hits + 1 }) ∧
      Holds { c with entries, hits := c.hits + 1 } ((key, value) :: uses) := by
  refine ⟨(key, value) :: c.entries.filter fun other => !(other.1 == key), ?_, ?_⟩
  · rw [Cache.find, hentry]
  · have hmem := List.mem_of_find?_eq_some hentry
    have hless : (c.entries.filter fun other => !(other.1 == key)).length < c.entries.length :=
      List.length_filter_lt_length_iff_exists.2 ⟨_, hmem, by simp⟩
    have hroom : c.entries.length ≤ c.capacity := by
      rw [h]
      exact List.length_take_le _ _
    obtain ⟨room, hcapacity⟩ : ∃ room, c.capacity = room + 1 := ⟨c.capacity - 1, by omega⟩
    change _ = List.take c.capacity _
    rw [hcapacity, take_newest_cons, ← hcapacity, ← h, hcapacity, List.take_succ_cons,
      List.take_of_length_le (by omega)]

/-- A result that is stored is used. -/
theorem Holds.store {c : Cache κ α} {uses : List (κ × α)} (h : c.Holds uses)
    (hcapacity : 0 < c.capacity) (key : κ) (value : α) :
    (c.store key value).Holds ((key, value) :: uses) := by
  obtain ⟨room, hroom⟩ : ∃ room, c.capacity = room + 1 := ⟨c.capacity - 1, by omega⟩
  change List.take _ _ = List.take c.capacity _
  rw [hroom, take_newest_cons, ← hroom, ← h]

end Cache

end LambdaText.Function
