/-!
# Dictionaries

A dictionary holds one value for each of finitely many names. Its entries are kept in the order of
their names, without repetition, so two dictionaries with the same entries are equal, and going
through a dictionary meets the names in order.
-/

namespace VisualNovel

/-! ## Entries in order -/

/-- The entries with one name set to a value. -/
def insertEntry {α : Type} (name : String) (value : α) : List (String × α) → List (String × α)
  | [] => [(name, value)]
  | (other, old) :: entries =>
    if name < other then (name, value) :: (other, old) :: entries
    else if name = other then (name, value) :: entries
    else (other, old) :: insertEntry name value entries

/-- Entries whose names increase. -/
def InOrder {α : Type} (entries : List (String × α)) : Prop :=
  entries.Pairwise fun a b => a.1 < b.1

/-- A name of the new entries is the set one or an old one. -/
theorem mem_insertEntry {α : Type} {name : String} {value : α} {entries : List (String × α)}
    {e : String × α} (h : e ∈ insertEntry name value entries) :
    e = (name, value) ∨ e ∈ entries := by
  induction entries with
  | nil => simpa [insertEntry] using h
  | cons head entries ih =>
    obtain ⟨other, old⟩ := head
    simp only [insertEntry] at h
    split at h
    · simpa using h
    · split at h
      · rcases List.mem_cons.1 h with h | h
        · exact Or.inl h
        · exact Or.inr (List.mem_cons_of_mem _ h)
      · rcases List.mem_cons.1 h with h | h
        · exact Or.inr (h ▸ List.mem_cons_self)
        · exact (ih h).imp_right (List.mem_cons_of_mem _)

/-- Setting a name keeps the entries in order. -/
theorem InOrder.insertEntry {α : Type} {name : String} {value : α} {entries : List (String × α)}
    (h : InOrder entries) : InOrder (insertEntry name value entries) := by
  induction entries with
  | nil => simp [VisualNovel.insertEntry, InOrder]
  | cons head entries ih =>
    obtain ⟨other, old⟩ := head
    obtain ⟨above, rest⟩ := List.pairwise_cons.1 h
    simp only [VisualNovel.insertEntry]
    split
    next below =>
      refine List.pairwise_cons.2 ⟨fun e he => ?_, h⟩
      rcases List.mem_cons.1 he with rfl | he
      · exact below
      · exact String.lt_trans below (above e he)
    next notBelow =>
      split
      next same => exact List.pairwise_cons.2 ⟨same ▸ above, rest⟩
      next different =>
        refine List.pairwise_cons.2 ⟨fun e he => ?_, ih rest⟩
        rcases mem_insertEntry he with rfl | he
        · rcases String.le_total other name with le | le
          · exact Decidable.by_contra fun notAbove =>
              different (String.le_antisymm (String.not_lt.1 notAbove) le)
          · exact absurd (String.le_antisymm le (String.not_lt.1 notBelow)) different
        · exact above e he

/-! ## The type -/

/-- A value for each of finitely many names. -/
structure Dict (α : Type) where
  /-- The names with their values, in the order of the names. -/
  entries : List (String × α)
  /-- The names increase. -/
  inOrder : InOrder entries

namespace Dict

variable {α β : Type}

/-- A dictionary is its entries. -/
@[ext] theorem ext {a b : Dict α} (h : a.entries = b.entries) : a = b := by
  cases a
  cases b
  simp_all

instance [DecidableEq α] : DecidableEq (Dict α) := fun a b =>
  if h : a.entries = b.entries then isTrue (Dict.ext h)
  else isFalse fun same => h (congrArg Dict.entries same)

instance [Repr α] : Repr (Dict α) where
  reprPrec d n := reprPrec d.entries n

/-- The dictionary without entries. -/
def empty : Dict α := ⟨[], List.Pairwise.nil⟩

instance : Inhabited (Dict α) := ⟨empty⟩

/-- The value of a name. -/
def find? (d : Dict α) (name : String) : Option α :=
  d.entries.lookup name

/-- Whether a name has a value. -/
def contains (d : Dict α) (name : String) : Bool :=
  (d.find? name).isSome

/-- The dictionary with one name set to a value. -/
def insert (d : Dict α) (name : String) (value : α) : Dict α :=
  ⟨insertEntry name value d.entries, d.inOrder.insertEntry⟩

/-- The dictionary of some entries; of two values for a name, the later one counts. -/
def ofEntries (entries : List (String × α)) : Dict α :=
  entries.foldl (fun d e => d.insert e.1 e.2) empty

/-- The names, in order. -/
def names (d : Dict α) : List String :=
  d.entries.map Prod.fst

/-- The values, in the order of their names. -/
def values (d : Dict α) : List α :=
  d.entries.map Prod.snd

/-- The number of names. -/
def size (d : Dict α) : Nat :=
  d.entries.length

/-- Whether there is no name. -/
def isEmpty (d : Dict α) : Bool :=
  d.entries.isEmpty

/-- The first entry, in the order of the names, whose value satisfies `p`. -/
def findEntry? (d : Dict α) (p : α → Bool) : Option (String × α) :=
  d.entries.find? fun e => p e.2

/-- Changing the values changes no name. -/
theorem inOrder_map (f : α → β) (d : Dict α) : InOrder (d.entries.map fun e => (e.1, f e.2)) := by
  simpa [InOrder, List.pairwise_map] using d.inOrder

/-- The dictionary with every value changed. -/
def map (f : α → β) (d : Dict α) : Dict β :=
  ⟨d.entries.map fun e => (e.1, f e.2), inOrder_map f d⟩

end Dict

end VisualNovel
