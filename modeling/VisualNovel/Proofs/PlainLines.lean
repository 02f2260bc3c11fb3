import VisualNovel.Proofs.PlaceholderGrammar
import VisualNovel.Review

/-!
# Lines that are read as they are written

A line without placeholders reaches a reader as it is written, whatever the variables and parameters
are (`Role.fill_of_not_hasPlaceholder`), and the arguments of its tag have no placeholders either
(`Tag.not_hasPlaceholder_arguments`). So what can be seen in such a line before a run holds in the
run.

The script of a scene is read behind that of its chapter, as one text. Its lines are those of the
two texts, up to what is not read anyway (`Text.map_tidy_lines_append`). Only the last line of the
chapter is cut in another way: a carriage return there belongs to the line as long as nothing
follows, and to the line end as soon as a line feed does, and a chapter without a line that waits
for its end gets an empty one (`Text.gap`).
-/

namespace VisualNovel

/-! ## Lines without placeholders -/

/-- Whether a line has a placeholder, of a variable or of a parameter. -/
def Line.hasPlaceholder (line : String) : Bool :=
  Placeholder.occurs Placeholder.variableSigil line ||
    Placeholder.occurs Placeholder.parameterSigil line

namespace Placeholder

variable {sigil : Char}

/-- Nothing is put into a line without placeholders. -/
theorem fill_of_not_occurs {m : Type → Type} [Monad m] [LawfulMonad m] (known : IsSigil sigil)
    (value : String → m (Option String)) {line : String} (h : occurs sigil line = false) :
    fill sigil value line = pure (line, false) := by
  obtain ⟨found, scan⟩ := exists_scan known.ne_space 0 line.toList
  have none_found : found = [] := by
    by_contra nonempty
    have stands := (scan.lists known.ne_space known.ne_paren).ne_nil_iff.1 nonempty
    rw [occurs, (occursIn_iff known.ne_space).2 stands] at h
    cases h
  subst none_found
  rw [scan.fill_eq value]
  simp [filled, rewrite]

end Placeholder

/-- A line without variables is not changed by them. -/
theorem Variables.fill_of_not_occurs (store : Variables) (passes : Nat) {line : String}
    (h : Placeholder.occurs Placeholder.variableSigil line = false) :
    store.fill passes line = line := by
  have once : store.fillOnce line = (line, false) := by
    unfold Variables.fillOnce
    rw [Placeholder.fill_of_not_occurs (.inl rfl) _ h]
    rfl
  cases passes with
  | zero => rfl
  | succ passes => simp [Variables.fill, once]

/-- A line without parameters is not changed by them. -/
theorem Parameters.fill_of_not_occurs (parameters : Option Parameters) (script : String)
    {line : String} (h : Placeholder.occurs Placeholder.parameterSigil line = false) :
    Parameters.fill parameters script line = .ok line := by
  unfold Parameters.fill
  rw [Placeholder.fill_of_not_occurs (.inr rfl) _ h]
  rfl

/-- A line without placeholders is read as it is written. -/
theorem Role.fill_of_not_hasPlaceholder (role : Role) (session : Session) {line : String}
    (h : Line.hasPlaceholder line = false) : role.fill session line = .ok line := by
  obtain ⟨noVariable, noParameter⟩ := Bool.or_eq_false_iff.1 h
  unfold Role.fill
  rw [Variables.fill_of_not_occurs _ _ noVariable]
  cases role with
  | main scene => rfl
  | background name parameters => exact Parameters.fill_of_not_occurs parameters name noParameter

/-! ## Placeholders in arguments -/

namespace Placeholder

variable {sigil : Char}

/-- A placeholder in a part of a text is one in the text. -/
theorem occursIn_of_infix (known : IsSigil sigil) {cs ds : List Char} (hpart : cs <:+: ds)
    (h : occursIn sigil cs = true) : occursIn sigil ds = true := by
  obtain ⟨start, more, rfl⟩ := hpart
  obtain ⟨token, place, stands⟩ := (occursIn_iff known.ne_space).1 h
  refine (occursIn_iff known.ne_space).2 ⟨token, start.length + place, ?_⟩
  rw [Token.StandsAt, List.append_assoc, ← List.drop_drop, List.drop_left, List.drop_append]
  exact stands.trans (List.prefix_append _ _)

end Placeholder

/-- A line without placeholders has none in the arguments of its tag. -/
theorem Tag.not_hasPlaceholder_arguments {line : String} {tag : Tag}
    (hread : Tag.read? line = some tag) (h : Line.hasPlaceholder line = false) :
    Review.hasPlaceholder tag.arguments = false := by
  obtain ⟨-, text, hline, harguments⟩ := Tag.eq_written_of_read? hread
  rw [harguments]
  cases text with
  | none => rfl
  | some text =>
    have part : Text.trimChars text <:+: line.toList := by
      refine (Text.trimChars_infix text).trans ⟨Tag.front tag.name (some text), ['>'], ?_⟩
      rw [hline]
      rfl
    have absent {sigil : Char} (known : Placeholder.IsSigil sigil)
        (hsigil : Placeholder.occursIn sigil line.toList = false) :
        Placeholder.occursIn sigil (Text.trimChars text) = false := by
      rw [← Bool.not_eq_true] at hsigil ⊢
      exact mt (Placeholder.occursIn_of_infix known part) hsigil
    obtain ⟨noVariable, noParameter⟩ := Bool.or_eq_false_iff.1 h
    simp [Review.hasPlaceholder, Placeholder.occurs, absent (.inl rfl) noVariable,
      absent (.inr rfl) noParameter]

/-! ## Lines of joined texts -/

namespace Text

/-- The line that a line feed behind a text adds to it, if it does: an empty one, where no line is
waiting for its end. -/
def gap (s : String) : List String :=
  if s = "" ∨ s.toList.getLast? = some '\n' then [""] else []

end Text

/-- A carriage return at the end of a line does not matter. -/
theorem Line.tidy_dropReturn (cs : List Char) :
    Line.tidy (String.ofList (Text.dropReturn cs)) = Line.tidy (String.ofList cs) := by
  rcases Text.dropReturn_eq cs with h | h
  · rw [h]
  · have blank : ∀ c ∈ ['\r'], Text.isBlank c = true := List.forall_mem_singleton.2 (by decide)
    have ending : ∀ c ∈ ['\r'], (c = '\r' || c = '\n') = true :=
      List.forall_mem_singleton.2 (by decide)
    have trimmed := Text.trimChars_append blank (Text.dropReturn cs)
    have ended := Text.dropEnd_append ending (Text.dropReturn cs)
    rw [← h] at trimmed ended
    simp only [Line.tidy, String.toList_ofList, trimmed, ended]

namespace Text

/-- Carriage returns do not matter to tidied lines, so that only the last piece is cut in another
way than the others. -/
theorem map_tidy_linesOfPieces_append (pieces : List (List Char)) {more : List (List Char)}
    (h : more ≠ []) :
    (linesOfPieces (pieces ++ more)).map (Line.tidy ∘ String.ofList) =
      pieces.map (Line.tidy ∘ String.ofList) ++
        (linesOfPieces more).map (Line.tidy ∘ String.ofList) := by
  have untouched : (Line.tidy ∘ String.ofList) ∘ dropReturn = Line.tidy ∘ String.ofList :=
    funext Line.tidy_dropReturn
  rw [linesOfPieces_append pieces h, List.map_append, List.map_map, untouched]

/-- Two texts with a line feed between them have the lines of the first and of the second, up to
what is not read anyway, and perhaps an empty line between them. -/
theorem map_tidy_lines_append (first second : String) :
    (lines (first ++ "\n" ++ second)).map Line.tidy =
      (lines first).map Line.tidy ++ gap first ++ (lines second).map Line.tidy := by
  have joined : (first ++ "\n" ++ second).toList = first.toList ++ '\n' :: second.toList := by
    simp
  obtain ⟨front, final, hsplit⟩ : ∃ front final, splitChars '\n' first.toList = front ++ [final] :=
    ⟨_, _, (List.dropLast_append_getLast (splitChars_ne_nil _ _)).symm⟩
  have ends : final = [] ↔ first = "" ∨ first.toList.getLast? = some '\n' := by
    rw [← String.toList_eq_nil_iff, ← getLast?_splitChars_eq_nil_iff, hsplit, List.getLast?_concat,
      Option.some_inj]
  simp only [lines, linesChars, List.map_map]
  rw [joined, splitChars_append, map_tidy_linesOfPieces_append _ (splitChars_ne_nil _ _), hsplit,
    map_tidy_linesOfPieces_append _ (List.cons_ne_nil _ _), List.map_append,
    List.append_assoc _ _ (gap first)]
  congr 2
  -- The last piece of the first text is a line of its own if it holds something, and the gap
  -- otherwise.
  rw [gap]
  by_cases hfinal : final = []
  · rw [if_pos (ends.1 hfinal), hfinal]
    decide
  · rw [if_neg (mt ends.2 hfinal)]
    simp [linesOfPieces, hfinal]

/-- Each line of the joined text is empty, or a line of the one text or of the other. -/
theorem tidy_mem_lines_append {first second raw : String}
    (h : raw ∈ lines (first ++ "\n" ++ second)) :
    Line.tidy raw = "" ∨ ∃ raw', (raw' ∈ lines first ∨ raw' ∈ lines second) ∧
      Line.tidy raw' = Line.tidy raw := by
  have tidied := List.mem_map_of_mem (f := Line.tidy) h
  rw [map_tidy_lines_append, List.mem_append, List.mem_append] at tidied
  rcases tidied with (hfirst | hgap) | hsecond
  · obtain ⟨raw', hraw', same⟩ := List.mem_map.1 hfirst
    exact .inr ⟨raw', .inl hraw', same⟩
  · exact .inl (List.mem_singleton.1 (List.mem_ite_nil_right.1 hgap).2)
  · obtain ⟨raw', hraw', same⟩ := List.mem_map.1 hsecond
    exact .inr ⟨raw', .inr hraw', same⟩

end Text

/-- The lines of a scene are those of the script of its chapter and of its own, joined. -/
theorem Story.sceneLines_eq {story : Story} {scene : SceneRef} {chapter : Chapter} {script : String}
    (hchapter : story.chapters.find? scene.chapter = some chapter)
    (hscript : chapter.scenes.find? scene.scene = some script) :
    story.sceneLines scene = .ok (Text.lines (chapter.script ++ "\n" ++ script)) := by
  simp [sceneLines, sceneText, hchapter, hscript, Except.map]

end VisualNovel
