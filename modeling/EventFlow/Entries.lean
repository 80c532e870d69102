/-
  Lists of entries in the order of their first insertion.

  `Entries.put` writes the value of a key: a key that is
  present keeps its place, and a new one goes to the end.
  Looking a key up is `List.lookup`.

  Key definitions include:
    * `Entries.put`
    * `Entries.ofPairs`
    * `Entries.update`
    * `Entries.sorted`

  Key theorems include:
    * `Entries.lookup_put_self`
    * `Entries.lookup_put_of_ne`
    * `Entries.map_fst_put`
    * `Entries.mem_of_lookup`
-/

------------------------------------------------------------
-- Writing Entries
------------------------------------------------------------

namespace EventFlow

namespace Entries

variable {κ ν : Type}
variable [DecidableEq κ]

/- Write the value of a key. -/
def put
    (key : κ)
    (value : ν) :
    List (κ × ν) → List (κ × ν)
| [] => [(key, value)]
| (k, v) :: rest =>
    if k = key then
      (k, value) :: rest
    else
      (k, v) :: put key value rest

/-
  Entries from pairs in order: a repeated key keeps its first
  place and its last value.
-/
def ofPairs (pairs : List (κ × ν)) : List (κ × ν) :=
  pairs.foldl (fun es (k, v) => put k v es) []

/- Change the value of a key, with a default for a new key. -/
def update
    (key : κ)
    (default : ν)
    (change : ν → ν)
    (es : List (κ × ν)) : List (κ × ν) :=
  put key (change ((es.lookup key).getD default)) es

/- Entries in the order of their keys. -/
def sorted (es : List (String × ν)) : List (String × ν) :=
  es.mergeSort fun a b => !(b.1 < a.1)

end Entries

end EventFlow

------------------------------------------------------------
-- Facts About Writing
------------------------------------------------------------

namespace EventFlow

namespace Entries

variable {κ ν : Type}
variable [DecidableEq κ]

/- A written key has the written value. -/
theorem lookup_put_self
    (key : κ)
    (value : ν) :
    ∀ es : List (κ × ν),
      (put key value es).lookup key = some value
| [] => by
    simp [put]
| (k, v) :: rest => by
    by_cases hk : k = key
    · subst hk
      simp [put]
    · have hBeq : (key == k) = false := by
        simp [Ne.symm hk]
      simp [put, hk, List.lookup_cons, hBeq,
        lookup_put_self key value rest]

/- Other keys keep their values. -/
theorem lookup_put_of_ne
    {key other : κ}
    (hNe : other ≠ key)
    (value : ν) :
    ∀ es : List (κ × ν),
      (put key value es).lookup other = es.lookup other
| [] => by
    have hBeq : (other == key) = false := by
      simp [hNe]
    simp [put, List.lookup_cons, hBeq]
| (k, v) :: rest => by
    by_cases hk : k = key
    · subst hk
      have hBeq : (other == k) = false := by
        simp [hNe]
      simp [put, List.lookup_cons, hBeq]
    · simp only [put, hk, if_false, List.lookup_cons]
      rw [lookup_put_of_ne hNe value rest]

/- A new key goes to the end, and no key changes its place. -/
theorem map_fst_put
    (key : κ)
    (value : ν) :
    ∀ es : List (κ × ν),
      (put key value es).map Prod.fst =
        if key ∈ es.map Prod.fst then
          es.map Prod.fst
        else
          es.map Prod.fst ++ [key]
| [] => by
    simp [put]
| (k, v) :: rest => by
    by_cases hk : k = key
    · subst hk
      simp [put]
    · have hNe : key ≠ k := Ne.symm hk
      simp only [put, hk, if_false, List.map_cons,
        map_fst_put key value rest, List.mem_cons, hNe,
        false_or]
      split <;> simp

/- What a key looks up is among the entries. -/
theorem mem_of_lookup
    {es : List (κ × ν)}
    {key : κ}
    {value : ν}
    (hFound : es.lookup key = some value) :
    (key, value) ∈ es := by
  rcases List.lookup_eq_some_iff.mp hFound with
    ⟨before, behind, hEntries, -⟩
  rw [hEntries]
  simp

/- A value other than the default is there. -/
theorem getD_lookup_eq_iff
    {es : List (κ × ν)}
    {key : κ}
    {default value : ν}
    (hOther : value ≠ default) :
    (es.lookup key).getD default = value ↔
      es.lookup key = some value := by
  cases es.lookup key with
  | none => simp [hOther.symm]
  | some found => simp

end Entries

end EventFlow
