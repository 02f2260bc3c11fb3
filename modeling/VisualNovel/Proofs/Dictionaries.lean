import Mathlib.Data.List.Basic
import VisualNovel.Dict

/-!
# What is found in a dictionary

Facts about dictionaries of any kind, told by what is found under a name: after a name is set
(`Dict.find?_insert`), after the values are changed (`Dict.find?_map`), and in a dictionary that is
made from entries (`Dict.find?_ofEntries`). Entries in order are the entries of their dictionary
(`Dict.entries_ofEntries`). The first value of a kind is the one with the least name
(`Dict.findEntry?_eq_some_iff`); that every value has a property, or that one value at most is of a
kind, outlasts the changes that keep it so (`Dict.All`, `Dict.AtMostOne`); and a value in the place
of another counts for it (`Dict.count_insert`).
-/

namespace VisualNovel

/-! ## Names -/

/-- The first entry with a name counts. -/
theorem lookup_cons_entry {α : Type} (entry : String × α) (entries : List (String × α))
    (name : String) :
    (entry :: entries).lookup name =
      if name = entry.1 then some entry.2 else entries.lookup name := by
  rw [List.lookup_cons]
  by_cases h : name = entry.1
  · rw [if_pos h, beq_iff_eq.2 h]
  · rw [if_neg h, beq_eq_false_iff_ne.2 h]

/-- The name that is set has its value, and the others have theirs. -/
theorem lookup_insertEntry {α : Type} (name : String) (value : α) (entries : List (String × α))
    (other : String) :
    (insertEntry name value entries).lookup other =
      if other = name then some value else entries.lookup other := by
  induction entries with
  | nil => exact lookup_cons_entry (name, value) [] other
  | cons head entries ih =>
    simp only [insertEntry]
    split
    · exact lookup_cons_entry (name, value) (head :: entries) other
    · split
      · next same => simp only [lookup_cons_entry, same]; split <;> rfl
      · next different =>
        simp only [lookup_cons_entry, ih]
        by_cases h : other = head.1
        · rw [if_pos h, if_pos h, if_neg fun same => different (same.symm.trans h)]
        · rw [if_neg h, if_neg h]

/-- Where the names increase, every entry is found. -/
theorem InOrder.lookup_of_mem {α : Type} {entries : List (String × α)} (h : InOrder entries)
    {entry : String × α} (mem : entry ∈ entries) : entries.lookup entry.1 = some entry.2 := by
  induction entries with
  | nil => cases mem
  | cons head entries ih =>
    obtain ⟨above, rest⟩ := List.pairwise_cons.1 h
    rw [lookup_cons_entry]
    rcases List.mem_cons.1 mem with rfl | mem
    · rw [if_pos rfl]
    · have different : entry.1 ≠ head.1 := fun same => String.lt_irrefl _ (same ▸ above _ mem)
      rw [if_neg different]
      exact ih rest mem

namespace Dict

variable {α β : Type} {d : Dict α} {p : α → Bool} {name : String} {value : α}

/-- The name that is set has its value, and the others have theirs. -/
theorem find?_insert (d : Dict α) (name : String) (value : α) (other : String) :
    (d.insert name value).find? other = if other = name then some value else d.find? other :=
  lookup_insertEntry name value d.entries other

/-- Every name has its changed value. -/
theorem find?_map (f : α → β) (d : Dict α) (name : String) :
    (d.map f).find? name = (d.find? name).map f := by
  show (d.entries.map fun e => (e.1, f e.2)).lookup name = (d.entries.lookup name).map f
  induction d.entries with
  | nil => rfl
  | cons head entries ih =>
    rw [List.map_cons, lookup_cons_entry, lookup_cons_entry, ih]
    split <;> rfl

/-- The entries are what is found. -/
theorem mem_entries_iff : (name, value) ∈ d.entries ↔ d.find? name = some value := by
  constructor
  · exact d.inOrder.lookup_of_mem
  · intro found
    obtain ⟨front, back, hentries, -⟩ := List.lookup_eq_some_iff.1 found
    simp [hentries]

/-- A value that is found is among the values. -/
theorem mem_values_of_find? (h : d.find? name = some value) : value ∈ d.values := by
  obtain ⟨front, back, hentries, -⟩ := List.lookup_eq_some_iff.1 h
  simp [values, hentries]

/-! ## Dictionaries of entries -/

/-- A name behind all others is set at the end. -/
theorem insertEntry_of_above {entries : List (String × α)} (above : ∀ e ∈ entries, e.1 < name) :
    insertEntry name value entries = entries ++ [(name, value)] := by
  induction entries with
  | nil => rfl
  | cons head entries ih =>
    obtain ⟨below, above⟩ := List.forall_mem_cons.1 above
    have notBelow : ¬ name < head.1 := fun lt => String.lt_irrefl _ (String.lt_trans lt below)
    have different : name ≠ head.1 := fun same => String.lt_irrefl _ (same ▸ below)
    rw [insertEntry, if_neg notBelow, if_neg different, ih above, List.cons_append]

/-- Entries whose names increase are the entries of their dictionary. -/
theorem entries_ofEntries {entries : List (String × α)} (inOrder : InOrder entries) :
    (ofEntries entries).entries = entries := by
  suffices ∀ d : Dict α, InOrder (d.entries ++ entries) →
      (entries.foldl (fun d e => d.insert e.1 e.2) d).entries = d.entries ++ entries from
    this empty inOrder
  clear inOrder
  induction entries with
  | nil => exact fun d _ => (List.append_nil _).symm
  | cons e entries ih =>
    intro d inOrder
    have last : (d.insert e.1 e.2).entries = d.entries ++ [e] :=
      insertEntry_of_above fun e' mem => (List.pairwise_append.1 inOrder).2.2 e' mem e
        List.mem_cons_self
    rw [List.foldl_cons, ih _ (by simpa [last] using inOrder), last, List.append_assoc,
      List.singleton_append]

/-- A dictionary is made from its entries. -/
@[simp] theorem ofEntries_entries (d : Dict α) : ofEntries d.entries = d :=
  Dict.ext (entries_ofEntries d.inOrder)

/-- Of the values for a name, the last one is found. -/
theorem find?_ofEntries (entries : List (String × α)) (name : String) :
    (ofEntries entries).find? name = entries.reverse.lookup name := by
  -- the dictionary that is there already answers for the names that are not among the entries
  have rest (d : Dict α) : (entries.foldl (fun d e => d.insert e.1 e.2) d).find? name =
      (entries.reverse.lookup name).or (d.find? name) := by
    induction entries generalizing d with
    | nil => rfl
    | cons entry entries ih =>
      rw [List.foldl_cons, ih, find?_insert, List.reverse_cons, List.lookup_append, Option.or_assoc]
      congr 1
      by_cases same : name = entry.1
      · rw [if_pos same, List.lookup_cons, same]
        simp
      · rw [if_neg same, List.lookup_cons, beq_false_of_ne same]
        rfl
  rw [ofEntries, rest, find?]
  exact Option.or_none

/-- The dictionary with every value changed in the light of its name. -/
def mapNamed (f : String → α → β) (d : Dict α) : Dict β where
  entries := d.entries.map fun e => (e.1, f e.1 e.2)
  inOrder := by simpa [InOrder, List.pairwise_map] using d.inOrder

/-- A name may be set before the values are changed, or afterwards. -/
theorem insertEntry_map (f : String → α → β) (name : String) (value : α)
    (entries : List (String × α)) :
    insertEntry name (f name value) (entries.map fun e => (e.1, f e.1 e.2)) =
      (insertEntry name value entries).map fun e => (e.1, f e.1 e.2) := by
  induction entries with
  | nil => rfl
  | cons head entries ih =>
    simp only [List.map_cons, insertEntry, ih]
    split
    · rfl
    · split <;> rfl

/-- So may a dictionary be made. -/
theorem ofEntries_map (f : String → α → β) (entries : List (String × α)) :
    ofEntries (entries.map fun e => (e.1, f e.1 e.2)) = (ofEntries entries).mapNamed f := by
  suffices ∀ d : Dict α, (entries.map fun e => (e.1, f e.1 e.2)).foldl (fun d e => d.insert e.1 e.2)
      (d.mapNamed f) = (entries.foldl (fun d e => d.insert e.1 e.2) d).mapNamed f from this empty
  induction entries with
  | nil => exact fun d => rfl
  | cons e entries ih =>
    intro d
    have step : (d.mapNamed f).insert e.1 (f e.1 e.2) = (d.insert e.1 e.2).mapNamed f :=
      Dict.ext (insertEntry_map f e.1 e.2 d.entries)
    rw [List.map_cons, List.foldl_cons, List.foldl_cons, step, ih]

/-! ## The first of a kind -/

/-- The entry that is found is that of its name. -/
theorem find?_of_findEntry?_eq_some {entry : String × α}
    (h : d.findEntry? p = some entry) : d.find? entry.1 = some entry.2 :=
  d.inOrder.lookup_of_mem (List.mem_of_find?_eq_some h)

/-- What is not found by its kind is not there. -/
theorem eq_false_of_findEntry?_eq_none (h : d.findEntry? p = none)
    (found : d.find? name = some value) : p value = false := by
  simpa using List.find?_eq_none.1 h (name, value) (mem_entries_iff.2 found)

/-- What is found by its kind is the first of that kind. -/
theorem findEntry?_eq_some_iff :
    d.findEntry? p = some (name, value) ↔
      d.find? name = some value ∧ p value = true ∧
        ∀ other value', d.find? other = some value' → p value' = true → other ≠ name →
        name < other := by
  have sound : ∀ {name : String} {value : α}, d.findEntry? p = some (name, value) →
      d.find? name = some value ∧ p value = true ∧
        ∀ other value', d.find? other = some value' → p value' = true → other ≠ name →
        name < other := by
    intro name value found
    obtain ⟨hp, front, back, hentries, earlier⟩ := List.find?_eq_some_iff_append.1 found
    refine ⟨find?_of_findEntry?_eq_some found, hp, fun other value' hother hp' different => ?_⟩
    have increasing := d.inOrder
    rw [hentries, InOrder, List.pairwise_append] at increasing
    have mem := mem_entries_iff.2 hother
    rw [hentries, List.mem_append, List.mem_cons] at mem
    rcases mem with before | here | behind
    · exact absurd hp' (by simpa using earlier _ before)
    · cases here
      exact absurd rfl different
    · exact (List.pairwise_cons.1 increasing.2.1).1 _ behind
  refine ⟨sound, ?_⟩
  rintro ⟨found, hp, first⟩
  -- The search finds something, and of two firsts neither comes before the other.
  rcases hsearch : d.findEntry? p with _ | ⟨other, value'⟩
  · exact absurd hp (Bool.eq_false_iff.1 (eq_false_of_findEntry?_eq_none hsearch found))
  · obtain ⟨found', hp', first'⟩ := sound hsearch
    by_cases same : other = name
    · rw [same, found] at found'
      rw [same, Option.some.inj found']
    · have before := first other value' found' hp' same
      exact absurd (String.lt_trans before (first' name value found hp (Ne.symm same)))
        (String.lt_irrefl _)

/-! ## Properties of all values -/

variable {P : String → α → Prop}

/-- Every value has a property, under its name. -/
def All (P : String → α → Prop) (d : Dict α) : Prop :=
  ∀ name value, d.find? name = some value → P name value

/-- There is no value in the empty dictionary. -/
theorem All.empty : All P .empty := by
  intro name value found
  cases found

/-- A value that has the property may be set. -/
theorem All.insert (h : d.All P) (new : P name value) : (d.insert name value).All P := by
  intro other found hfound
  rw [find?_insert] at hfound
  split at hfound
  · next same =>
    cases hfound
    exact same ▸ new
  · exact h other found hfound

/-- All values may be changed as long as they keep the property. -/
theorem All.map {f : α → α} (h : d.All P) (hf : ∀ name value, P name value → P name (f value)) :
    (d.map f).All P := by
  intro name changed hchanged
  rw [find?_map] at hchanged
  obtain ⟨value, hvalue, rfl⟩ := Option.map_eq_some_iff.1 hchanged
  exact hf name value (h name value hvalue)

/-! ## One value at most -/

/-- One value at most is of a kind. -/
def AtMostOne (p : α → Bool) (d : Dict α) : Prop :=
  ∀ name value other value', d.find? name = some value → p value = true →
    d.find? other = some value' → p value' = true → name = other

/-- There is no value in the empty dictionary. -/
theorem AtMostOne.empty : AtMostOne p .empty := by
  intro name value other value' found
  cases found

/-- One value at most is of the kind if all that are have one name. -/
theorem AtMostOne.of_forall (name : String)
    (h : ∀ other found, d.find? other = some found → p found = true → other = name) :
    d.AtMostOne p :=
  fun first found second found' hfirst hp hsecond hp' =>
    (h first found hfirst hp).trans (h second found' hsecond hp').symm

/-- A value may be set if it is not of the kind, or no other one is. -/
theorem AtMostOne.insert (h : d.AtMostOne p)
    (alone : p value = true → ∀ other found, d.find? other = some found → p found = true →
      other = name) :
    (d.insert name value).AtMostOne p := by
  intro first found second found' hfirst hp hsecond hp'
  rw [find?_insert] at hfirst hsecond
  split at hfirst
  · next isFirst =>
    cases hfirst
    split at hsecond
    · next isSecond => rw [isFirst, isSecond]
    · rw [isFirst, alone hp second found' hsecond hp']
  · split at hsecond
    · next isSecond =>
      cases hsecond
      rw [isSecond, alone hp' first found hfirst hp]
    · exact h first found second found' hfirst hp hsecond hp'

/-- A value that is changed does not become one of the kind. -/
theorem AtMostOne.replace {old : α} (h : d.AtMostOne p) (found : d.find? name = some old)
    (fewer : p value = true → p old = true) : (d.insert name value).AtMostOne p :=
  h.insert fun hp other value' hother hp' => h other value' name old hother hp' found (fewer hp)

/-- Values may be changed as long as none becomes one of the kind. -/
theorem AtMostOne.map {f : α → α} (h : d.AtMostOne p)
    (fewer : ∀ value, p (f value) = true → p value = true) :
    (d.map f).AtMostOne p := by
  intro first found second found' hfirst hp hsecond hp'
  rw [find?_map] at hfirst hsecond
  obtain ⟨value, hvalue, rfl⟩ := Option.map_eq_some_iff.1 hfirst
  obtain ⟨value', hvalue', rfl⟩ := Option.map_eq_some_iff.1 hsecond
  exact h first value second value' hvalue (fewer value hp) hvalue' (fewer value' hp')

/-- Whether one value at most is of a kind is told by what is found. -/
theorem AtMostOne.congr {e : Dict α} (h : d.AtMostOne p)
    (same : ∀ name, e.find? name = d.find? name) :
    e.AtMostOne p := by
  intro first found second found' hfirst hp hsecond hp'
  rw [same] at hfirst hsecond
  exact h first found second found' hfirst hp hsecond hp'

/-! ## How many there are of a kind -/

/-- The number of values of a kind. -/
def count (p : α → Bool) (d : Dict α) : Nat :=
  d.entries.countP fun entry => p entry.2

end Dict

/-- A value in the place of another counts for it. -/
theorem InOrder.countP_insertEntry {α : Type} (p : α → Bool) {name : String} {old value : α}
    {entries : List (String × α)} (h : InOrder entries) (found : entries.lookup name = some old) :
    (VisualNovel.insertEntry name value entries).countP (fun entry => p entry.2) + (p old).toNat =
      entries.countP (fun entry => p entry.2) + (p value).toNat := by
  induction entries with
  | nil => cases found
  | cons head entries ih =>
    obtain ⟨above, rest⟩ := List.pairwise_cons.1 h
    rw [lookup_cons_entry] at found
    rw [VisualNovel.insertEntry]
    split
    · next before =>
      -- A name that comes before the first one is not there.
      rw [if_neg fun same => String.lt_irrefl _ (same ▸ before)] at found
      have behind := above _ (Dict.mem_entries_iff (d := ⟨entries, rest⟩).2 found)
      exact absurd (String.lt_trans before behind) (String.lt_irrefl _)
    · split
      · next same =>
        rw [if_pos same] at found
        cases found
        rw [List.countP_cons, List.countP_cons]
        cases p value <;> cases p head.2 <;> rfl
      · next different =>
        rw [if_neg different] at found
        have step := ih rest found
        simp only [List.countP_cons]
        omega

/-- A value in the place of another counts for it. -/
theorem Dict.count_insert {α : Type} (p : α → Bool) {d : Dict α} {name : String} {old : α}
    (found : d.find? name = some old) (value : α) :
    (d.insert name value).count p + (p old).toNat = d.count p + (p value).toNat :=
  d.inOrder.countP_insertEntry p found

end VisualNovel
