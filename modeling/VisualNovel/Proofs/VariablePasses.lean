import Mathlib.Logic.Function.Iterate
import VisualNovel.Proofs.Dictionaries
import VisualNovel.Proofs.PlainLines

/-!
# Variables that are put into a line

A pass puts the values of variables into a line, and values are not looked at again in that pass.
Where a pass puts nothing in, it leaves the line as it is, and the line has no placeholder of a
variable that is set (`fillOnce_eq_of_unchanged`, `unchanged_iff_settled`). So passes that stop
there are as good as passes that go on with nothing to do (`fill_eq_iterate`), whatever the values
hold: passes compose, and a line that has settled stays.

A variable is written under a name that is checked by the characters it must not hold, and read
through a placeholder, whose name is checked by the characters it may hold, without the blanks
around it. The two rules differ. A name is read as it was written exactly if it is `legible`.
-/

namespace VisualNovel

open Placeholder (Token Lists Scan variableSigil)

namespace Variables

variable (store : Variables)

/-! ## One pass -/

/-- A pass asks the variables for the names of all placeholders of the line. -/
theorem fillOnce_eq {line : String} {found : List (Nat × Token variableSigil)}
    (scan : Scan variableSigil 0 line.toList found (Placeholder.pieces variableSigil line.toList)) :
    store.fillOnce line =
      Placeholder.filled line found (found.map fun entry => store.get? entry.2.name) := by
  have asked := scan.fill_eq (m := Except Empty) fun name => .ok (store.get? name)
  have answered : found.mapM (m := Except Empty) (fun entry => .ok (store.get? entry.2.name)) =
      .ok (found.map fun entry => store.get? entry.2.name) := List.mapM_pure
  rw [answered] at asked
  unfold fillOnce
  rw [asked]
  rfl

/-- Every line is scanned for variables. -/
theorem exists_scan (line : String) :
    ∃ found, Scan variableSigil 0 line.toList found
      (Placeholder.pieces variableSigil line.toList) :=
  Placeholder.exists_scan (by decide) 0 line.toList

/-- None of the placeholders of a line is one of a variable that is set. -/
def Settled (line : String) : Prop :=
  ∀ (token : Token variableSigil) (place : Nat),
    token.StandsAt line.toList place → store.get? token.name = none

/-- A pass puts nothing in exactly if the line has settled. -/
theorem unchanged_iff_settled (line : String) :
    (store.fillOnce line).2 = false ↔ store.Settled line := by
  obtain ⟨found, scan⟩ := exists_scan line
  have lists := scan.lists (by decide) (by decide)
  rw [store.fillOnce_eq scan]
  simp only [Placeholder.filled, List.any_map, List.any_eq_false, Function.comp_apply,
    Option.not_isSome_iff_eq_none]
  constructor
  · intro unanswered token place stands
    exact unanswered (place, token) ((lists.exact place token).2 stands)
  · rintro settled ⟨place, token⟩ mem
    exact settled token place ((lists.exact place token).1 mem)

/-- A pass that puts nothing in leaves the line. -/
theorem fillOnce_eq_of_unchanged {line : String} (unchanged : (store.fillOnce line).2 = false) :
    (store.fillOnce line).1 = line := by
  obtain ⟨found, scan⟩ := exists_scan line
  rw [store.fillOnce_eq scan] at unchanged ⊢
  have same := scan.rewrite_of_unanswered List.drop_zero unchanged
  simp [Placeholder.filled, same]

/-! ## Several passes -/

/-- Stopping where nothing is put in makes no difference. -/
theorem fill_eq_iterate (passes : Nat) (line : String) :
    store.fill passes line = (fun line => (store.fillOnce line).1)^[passes] line := by
  induction passes generalizing line with
  | zero => rfl
  | succ passes ih =>
    rw [fill, Function.iterate_succ_apply]
    dsimp only
    split
    · exact ih _
    · next unchanged =>
      have same := store.fillOnce_eq_of_unchanged (Bool.eq_false_iff.2 unchanged)
      rw [same, Function.iterate_fixed same]

/-- Passes compose, whatever the values hold. A pass puts nothing in exactly if the line has
settled; then what it gives has settled too, and more passes change nothing. -/
theorem passes_compose_and_settle (line : String) :
    (∀ k m, store.fill m (store.fill k line) = store.fill (k + m) line) ∧
    ∀ k, ((store.fillOnce (store.fill k line)).2 = false ↔ store.Settled (store.fill k line)) ∧
      ((store.fillOnce (store.fill k line)).2 = false →
        store.Settled (store.fillOnce (store.fill k line)).1 ∧
        ∀ n, k ≤ n → store.fill n line = (store.fillOnce (store.fill k line)).1) := by
  have compose (k m : Nat) : store.fill m (store.fill k line) = store.fill (k + m) line := by
    rw [fill_eq_iterate, fill_eq_iterate, fill_eq_iterate, Nat.add_comm, Function.iterate_add_apply]
  refine ⟨compose, fun k => ⟨store.unchanged_iff_settled _, fun unchanged => ?_⟩⟩
  have same := store.fillOnce_eq_of_unchanged unchanged
  rw [same]
  refine ⟨(store.unchanged_iff_settled _).1 unchanged, ?_⟩
  intro n le
  obtain ⟨more, rfl⟩ := Nat.exists_eq_add_of_le le
  rw [← compose, fill_eq_iterate, Function.iterate_fixed same]

/-- One value is half of a placeholder, and one stands for itself. -/
def halvesStore : Variables where
  values := .ofEntries [("half", "($whole"), ("whole", "done"), ("loop", "($loop)")]

/-- A placeholder that comes about by joining a value with what follows it is filled in the next
pass, and then the line has settled. -/
theorem halves_join_and_settle :
    halvesStore.fill 1 "($half))" = "($whole)" ∧
    (∀ n, 2 ≤ n → halvesStore.fill n "($half))" = "done") ∧
    halvesStore.fill 3 (halvesStore.fill 4 "($loop)") = halvesStore.fill 7 "($loop)" := by
  have joined : halvesStore.fill 1 "($half))" = "($whole)" ∧
      (halvesStore.fillOnce (halvesStore.fill 2 "($half))")).2 = false ∧
      (halvesStore.fillOnce (halvesStore.fill 2 "($half))")).1 = "done" := by
    decide +kernel
  refine ⟨joined.1, fun n le => ?_, (passes_compose_and_settle halvesStore "($loop)").1 4 3⟩
  rw [(((passes_compose_and_settle halvesStore "($half))").2 2).2 joined.2.1).2 n le, joined.2.2]

/-! ## Reading what was written -/

/-- Whether a name is made of letters, numbers and underscores. -/
def legible (name : String) : Bool :=
  name.toList.all fun c => c = '_' || Text.isAlphanumeric c

/-- Names that may be written hold neither parentheses nor spaces, and more than blanks. -/
theorem name_facts {name : String} (valid : isName name = true) :
    Text.trimChars name.toList ≠ [] ∧ '(' ∉ name.toList ∧ ')' ∉ name.toList ∧
      ' ' ∉ name.toList := by
  simp only [isName, Bool.and_eq_true, Bool.not_eq_true', List.isEmpty_eq_false_iff,
    List.any_eq_false] at valid
  have absent {c : Char} (hc : forbiddenChars.contains c = true) : c ∉ name.toList :=
    fun mem => valid.2 c mem hc
  exact ⟨valid.1, absent (by decide), absent (by decide), absent (by decide)⟩

/-- The text that reads a variable. -/
def mention (name : String) : String :=
  "($" ++ name ++ ")"

/-- A variable is mentioned by its sigil and its name in round brackets. -/
theorem toList_mention (name : String) :
    (mention name).toList = '(' :: variableSigil :: (name.toList ++ [')']) := by
  simp [mention, variableSigil]

/-- A text that mentions a name is a placeholder, if the name is one without the blanks around
it. -/
theorem fill_mention {name : String} (valid : isName name = true) :
    store.fill 1 (mention name) =
      if Placeholder.isName (Text.trimChars name.toList) = true then
        (store.get? (Text.trim name)).getD (mention name)
      else mention name := by
  obtain ⟨-, unopened, unclosed, -⟩ := name_facts valid
  split
  · next named =>
    obtain ⟨nonempty, legible⟩ := Placeholder.isName_iff.1 named
    -- The whole text is one placeholder.
    let token : Token variableSigil := ⟨0, name.toList, unclosed, nonempty, legible⟩
    have source : (mention name).toList = token.source := toList_mention name
    have scan : Scan variableSigil 0 (mention name).toList [(0, token)]
        (Placeholder.pieces variableSigil (mention name).toList) := by
      rw [source, ← List.append_nil token.source, Placeholder.pieces_source_append (by decide)]
      exact .hole token (.done _)
    rw [fill_eq_iterate, Function.iterate_one, store.fillOnce_eq scan]
    show String.ofList (Placeholder.rewrite _ _ [((0, token), store.get? (Text.trim name))]) = _
    rw [Placeholder.rewrite_here, Placeholder.rewrite, source]
    cases store.get? (Text.trim name) with
    | none => simp [← source]
    | some value => simp
  · next unnamed =>
    -- What has no name cannot be read as a placeholder, and nothing behind it begins another one.
    have absent : Placeholder.read? variableSigil (variableSigil :: (name.toList ++ [')'])) =
        none := by
      simp [Placeholder.read?, variableSigil, Text.cutChars_append, Text.cutChars_eq_none unclosed,
        Text.cutChars, unnamed]
    have later : Placeholder.occursIn variableSigil (variableSigil :: (name.toList ++ [')'])) =
        false := by
      refine Placeholder.occursIn_eq_false (by decide) ?_
      simp [variableSigil, unopened]
    have plain : Placeholder.occurs variableSigil (mention name) = false := by
      rw [Placeholder.occurs, toList_mention, Placeholder.occursIn, absent, later]
      rfl
    exact store.fill_of_not_occurs 1 plain

/-- A legible name has no blanks around it. -/
theorem trim_of_legible {name : String} (h : legible name = true) : Text.trim name = name := by
  have unblank : ∀ c ∈ name.toList, Text.isBlank c = false := by
    intro c mem
    have hc := List.all_eq_true.1 h c mem
    rw [Bool.or_eq_true, decide_eq_true_eq] at hc
    rcases hc with rfl | alphanumeric
    · decide
    · by_contra blank
      rw [Text.isAlphanumeric_of_isBlank (by simpa using blank)] at alphanumeric
      cases alphanumeric
  rw [Text.trim, Text.trimChars_eq_self unblank, String.ofList_toList]

/-- A name that may be written is one of a placeholder, if it is legible without the blanks around
it. -/
theorem isName_trimChars {name : String} (valid : isName name = true) :
    Placeholder.isName (Text.trimChars name.toList) = legible (Text.trim name) := by
  obtain ⟨nonempty, -, -, unspaced⟩ := name_facts valid
  have spaceless : ' ' ∉ Text.trimChars name.toList :=
    fun mem => unspaced ((Text.trimChars_infix name.toList).subset mem)
  rw [Bool.eq_iff_iff, Placeholder.isName_iff, legible, Text.toList_trim, List.all_eq_true]
  simp only [Bool.or_eq_true, decide_eq_true_eq]
  constructor
  · rintro ⟨-, named⟩ c mem
    rcases named c mem with alphanumeric | rfl | rfl
    · exact .inr alphanumeric
    · exact .inl rfl
    · exact absurd mem spaceless
  · intro named
    refine ⟨nonempty, fun c mem => ?_⟩
    rcases named c mem with rfl | alphanumeric
    · exact .inr (.inl rfl)
    · exact .inl alphanumeric

/-- Variables are written one by one. -/
theorem get?_set {name : String} (valid : isName name = true) (value other : String) :
    (store.set name value).get? other = if other = name then some value else store.get? other := by
  simp [set, set?, valid, get?, Dict.find?_insert]

/-- What is read after a variable was written: its value if the name is legible, else the value of
the variable whose name is left without the blanks around it, if that one is legible and set. -/
theorem fill_mention_of_set {name : String} (valid : isName name = true) (value : String) :
    (store.set name value).fill 1 (mention name) =
      if legible name = true then value
      else if legible (Text.trim name) = true then
        (store.get? (Text.trim name)).getD (mention name)
      else mention name := by
  rw [fill_mention _ valid, isName_trimChars valid, store.get?_set valid]
  by_cases h : legible name = true
  · rw [trim_of_legible h, if_pos h, if_pos h, if_pos rfl, Option.getD_some]
  · rw [if_neg h]
    by_cases trimmed : legible (Text.trim name) = true
    · have different : Text.trim name ≠ name := fun same => h (same ▸ trimmed)
      rw [if_pos trimmed, if_pos trimmed, if_neg different]
    · rw [if_neg trimmed, if_neg trimmed]

/-- A variable is read as it was written if its name is legible, and only then. Otherwise a
placeholder with its name is one of another variable, or none at all, and what is read does not
depend on what was written. -/
theorem variable_is_read_iff_legible {store store' : Variables} {name value : String}
    (written : store.set? name value = some store') :
    (legible name = true → store'.fill 1 (mention name) = value) ∧
    (legible name = false → legible (Text.trim name) = true →
      store'.fill 1 (mention name) = (store.get? (Text.trim name)).getD (mention name)) ∧
    (legible (Text.trim name) = false → store'.fill 1 (mention name) = mention name) ∧
    ((∀ other, (store.set name other).fill 1 (mention name) = other) ↔ legible name = true) := by
  have valid : isName name = true := by
    by_contra invalid
    simp [set?, invalid] at written
  have new : store' = store.set name value := by
    rw [set, written, Option.getD_some]
  subst new
  rw [store.fill_mention_of_set valid value]
  refine ⟨fun h => if_pos h, fun h trimmed => ?_, fun trimmed => ?_, ?_, fun h other => ?_⟩
  · rw [if_neg (by simp [h]), if_pos trimmed]
  · have h : legible name ≠ true := by
      intro h
      rw [trim_of_legible h, h] at trimmed
      cases trimmed
    rw [if_neg h, if_neg (by simp [trimmed])]
  · intro readable
    by_contra h
    -- what is read is the same text whatever was written, so it cannot be both of two texts
    have one := readable "on"
    have two := readable "off"
    rw [store.fill_mention_of_set valid, if_neg h] at one two
    exact absurd (one.symm.trans two) (by decide)
  · rw [store.fill_mention_of_set valid, if_pos h]

/-- Of three names that may be written, the first is read; the second has a blank before it, so that
its placeholder is one of another variable; the third has a hyphen, so that its placeholder is
none. -/
theorem three_names_are_read :
    ∃ first second third : Variables,
      Variables.set? {} "größe_2" "tall" = some first ∧
      first.set? "\tgröße_2" "short" = some second ∧ second.set? "a-b" "x" = some third ∧
      first.fill 1 (mention "größe_2") = "tall" ∧
      second.fill 1 (mention "\tgröße_2") = "tall" ∧
      third.fill 1 (mention "a-b") = mention "a-b" := by
  refine ⟨_, _, _, rfl, rfl, rfl, (variable_is_read_iff_legible rfl).1 (by decide +kernel), ?_, ?_⟩
  · refine ((variable_is_read_iff_legible rfl).2.1 ?_ ?_).trans ?_ <;> decide +kernel
  · exact (variable_is_read_iff_legible rfl).2.2.1 (by decide +kernel)

/-- A name with a hyphen may be written, and is not read. -/
theorem hyphenated_name_is_not_read :
    ∃ store : Variables, Variables.set? {} "a-b" "x" = some store ∧
      store.fill 1 (mention "a-b") = "($a-b)" ∧ "($a-b)" ≠ "x" :=
  ⟨_, rfl, by decide +kernel, by decide⟩

end Variables

end VisualNovel
