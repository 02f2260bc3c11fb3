import VisualNovel.Proofs.LineGrammar
import VisualNovel.Proofs.VariablePasses

/-!
# Tags as they are written

An author writes a tag with blanks around it and with arguments that may hold brackets, colons and
parentheses. Before the tag is read, variables and parameters are put into the whole line, so a
placeholder might come about where parts of the line meet. It does not: the characters between the
parts of a tag stand in no placeholder (`Placeholder.Token.not_mem_source`), so a line has the
placeholders of its parts and no others (`Line.plain_append_cons`). Where the arguments hold none,
the tag is obeyed with the arguments that were written (`Role.plan_written`).
-/

namespace VisualNovel

namespace Variables

variable {name : String}

/-- A legible name holds nothing but letters, numbers and underscores. -/
theorem not_mem_of_legible (readable : legible name = true) {c : Char} (other : c ≠ '_')
    (unlettered : Text.isAlphanumeric c = false) : c ∉ name.toList := by
  intro mem
  have known := List.all_eq_true.1 readable c mem
  rw [unlettered, Bool.or_false, decide_eq_true_eq] at known
  exact other known

/-- A legible name has no blanks around it. -/
theorem tight_of_legible (readable : legible name = true) : Text.Tight name.toList := by
  rw [← Text.trimChars_eq_self_iff, ← Text.toList_trim, trim_of_legible readable]

end Variables

/-! ## Placeholders and the parts of a line -/

namespace Placeholder

/-- The characters between the parts of a tag. -/
def marks : List Char :=
  ['<', '>', ':', ',', '=']

variable {sigil : Char}

/-- None of them stands in a placeholder. -/
theorem Token.not_mem_source (known : IsSigil sigil) {c : Char} (mark : c ∈ marks)
    (token : Token sigil) :
    c ∉ token.source := by
  have inside : c ∉ token.body := by
    intro mem
    simp only [marks, List.mem_cons, List.not_mem_nil, or_false] at mark
    rcases mark with rfl | rfl | rfl | rfl | rfl <;>
      exact absurd (token.legible _ (Text.mem_trimChars mem (by decide))) (by decide)
  have outside : c ≠ '(' ∧ c ≠ ')' ∧ c ≠ ' ' ∧ c ≠ sigil := by
    simp only [marks, List.mem_cons, List.not_mem_nil, or_false] at mark
    rcases mark with rfl | rfl | rfl | rfl | rfl <;> rcases known with rfl | rfl <;> decide
  obtain ⟨unopened, unclosed, unspaced, unsigned⟩ := outside
  simp [source, inner, inside, unopened, unclosed, unspaced, unsigned]

/-- A legible name makes a placeholder. -/
theorem exists_token (sigil : Char) {name : String} (nonempty : name ≠ "")
    (readable : Variables.legible name = true) :
    ∃ token : Token sigil, token.source = '(' :: sigil :: (name.toList ++ [')']) ∧
      token.name = name := by
  have kept : Text.trimChars name.toList = name.toList := by
    rw [← Text.toList_trim, Variables.trim_of_legible readable]
  refine ⟨⟨0, name.toList, Variables.not_mem_of_legible readable (by decide) (by decide), ?_, ?_⟩,
    rfl, ?_⟩
  · rw [kept]
    simpa using nonempty
  · rw [kept]
    intro c mem
    have known := List.all_eq_true.1 readable c mem
    rw [Bool.or_eq_true, decide_eq_true_eq] at known
    exact known.elim (.inr ∘ .inl) .inl
  · rw [Token.name, kept, String.ofList_toList]

/-- A text in which one parenthesis opens has a placeholder there at most. -/
theorem Token.StandsAt.eq_length {token : Token sigil} {before after : List Char} {place : Nat}
    (stands : token.StandsAt (before ++ '(' :: after) place) (unopened : '(' ∉ before)
    (later : '(' ∉ after) : place = before.length := by
  rw [StandsAt] at stands
  rcases Nat.lt_trichotomy place before.length with lt | same | gt
  · obtain ⟨c, cs, split⟩ := List.exists_cons_of_ne_nil
      (List.ne_nil_of_length_pos (l := before.drop place) (by rw [List.length_drop]; omega))
    rw [List.drop_append_of_le_length lt.le, split] at stands
    obtain rfl := (List.cons_prefix_cons.1 stands).1
    exact absurd (List.mem_of_mem_drop (split ▸ List.mem_cons_self)) unopened
  · exact same
  · obtain ⟨offset, rfl⟩ := Nat.exists_eq_add_of_lt gt
    rw [Nat.add_assoc, List.drop_length_add_append, List.drop_succ_cons] at stands
    exact absurd (List.mem_of_mem_drop (stands.subset List.mem_cons_self)) later

/-- If there are placeholders at one place only, then there is one. -/
theorem Lists.eq_singleton (hspace : sigil ≠ ' ') {text : List Char}
    {found : List (Nat × Token sigil)} (lists : Lists text found) {token : Token sigil}
    {place : Nat} (stands : token.StandsAt text place)
    (only : ∀ (other : Token sigil) start, other.StandsAt text start → start = place) :
    found = [(place, token)] := by
  have one : ∀ entry ∈ found, entry = (place, token) := by
    rintro ⟨start, other⟩ mem
    have there := (lists.exact start other).1 mem
    obtain rfl := only other start there
    rw [Token.eq_of_begins hspace there stands]
  -- two entries would overlap, as both are that one
  rcases found with _ | ⟨entry, _ | ⟨next, more⟩⟩
  · exact absurd ((lists.exact _ token).2 stands) List.not_mem_nil
  · rw [one entry List.mem_cons_self]
  · have apart := List.rel_of_pairwise_cons lists.apart List.mem_cons_self
    rw [one entry List.mem_cons_self, one next (by simp), Token.source, List.length_cons] at apart
    omega

/-- The placeholder of a name is the only one of a text in which no other parenthesis opens. -/
theorem Lists.exists_eq_singleton (known : IsSigil sigil) (before after : List Char) {name : String}
    (nonempty : name ≠ "") (readable : Variables.legible name = true) (unopened : '(' ∉ before)
    (later : '(' ∉ after) {found : List (Nat × Token sigil)}
    (lists : Lists (before ++ '(' :: sigil :: (name.toList ++ ')' :: after)) found) :
    ∃ token : Token sigil, found = [(before.length, token)] ∧ token.name = name ∧
      token.source = '(' :: sigil :: (name.toList ++ [')']) := by
  obtain ⟨token, source, hname⟩ := exists_token sigil nonempty readable
  have absent : '(' ∉ name.toList := Variables.not_mem_of_legible readable (by decide) (by decide)
  refine ⟨token, lists.eq_singleton known.ne_space ?_ fun other place stands => ?_, hname, source⟩
  · rw [Token.StandsAt, List.drop_left, source]
    exact ⟨after, by simp⟩
  · refine stands.eq_length unopened ?_
    simp [absent, later, known.ne_paren.symm]

/-- What begins a text up to a character that it does not hold begins the part before that
character. -/
theorem begins_of_not_mem {c : Char} {cs ds es : List Char} (begins : cs <+: ds ++ c :: es)
    (absent : c ∉ cs) : cs <+: ds := by
  rcases List.prefix_or_prefix_of_prefix begins (List.prefix_append ds (c :: es))
    with short | ⟨more, rfl⟩
  · exact short
  · have rest : more <+: c :: es := (List.prefix_append_right_inj ds).1 begins
    cases more with
    | nil => rw [List.append_nil]
    | cons d more =>
      obtain rfl := (List.cons_prefix_cons.1 rest).1
      exact absurd (List.mem_append_right ds List.mem_cons_self) absent

/-- A placeholder is on one side of a mark. -/
theorem occursIn_append_cons (known : IsSigil sigil) {c : Char} (mark : c ∈ marks)
    (cs ds : List Char) :
    occursIn sigil (cs ++ c :: ds) = (occursIn sigil cs || occursIn sigil ds) := by
  rw [Bool.eq_iff_iff, Bool.or_eq_true]
  constructor
  · rw [occursIn_iff known.ne_space, occursIn_iff known.ne_space, occursIn_iff known.ne_space]
    rintro ⟨token, place, stands⟩
    rw [Token.StandsAt] at stands
    rcases Nat.lt_or_ge cs.length place with behind | before
    · obtain ⟨offset, rfl⟩ := Nat.exists_eq_add_of_lt behind
      rw [Nat.add_assoc, List.drop_length_add_append, List.drop_succ_cons] at stands
      exact .inr ⟨token, offset, stands⟩
    · rw [List.drop_append_of_le_length before] at stands
      exact .inl ⟨token, place, begins_of_not_mem stands (token.not_mem_source known mark)⟩
  · rintro (left | right)
    · exact occursIn_of_infix known (List.prefix_append cs (c :: ds)).isInfix left
    · exact occursIn_of_infix known ⟨cs ++ [c], [], by simp⟩ right

end Placeholder

namespace Line

/-- A text without placeholders. -/
def Plain (cs : List Char) : Prop :=
  ∀ sigil, Placeholder.IsSigil sigil → Placeholder.occursIn sigil cs = false

/-- A line without placeholders is a plain one. -/
theorem hasPlaceholder_eq_false_iff {line : String} :
    hasPlaceholder line = false ↔ Plain line.toList := by
  rw [hasPlaceholder, Bool.or_eq_false_iff]
  constructor
  · rintro ⟨noVariable, noParameter⟩ sigil (rfl | rfl)
    · exact noVariable
    · exact noParameter
  · exact fun plain => ⟨plain _ (.inl rfl), plain _ (.inr rfl)⟩

/-- Where no parenthesis opens there is no placeholder. -/
theorem plain_of_not_mem {cs : List Char} (unopened : '(' ∉ cs) : Plain cs :=
  fun _ known => Placeholder.occursIn_eq_false known.ne_space unopened

/-- A text has the placeholders before a mark and those behind it. -/
theorem plain_append_cons {c : Char} (mark : c ∈ Placeholder.marks) {cs ds : List Char} :
    Plain (cs ++ c :: ds) ↔ Plain cs ∧ Plain ds := by
  constructor
  · intro plain
    refine ⟨fun sigil known => ?_, fun sigil known => ?_⟩ <;>
      have parts := plain sigil known <;>
      rw [Placeholder.occursIn_append_cons known mark, Bool.or_eq_false_iff] at parts
    · exact parts.1
    · exact parts.2
  · rintro ⟨left, right⟩ sigil known
    rw [Placeholder.occursIn_append_cons known mark, left sigil known, right sigil known]
    rfl

/-- A blank before it does not make a text plain, or otherwise. -/
theorem plain_cons_blank {cs : List Char} : Plain (' ' :: cs) ↔ Plain cs := by
  have same (sigil : Char) : Placeholder.occursIn sigil (' ' :: cs) =
      Placeholder.occursIn sigil cs := by
    simp [Placeholder.occursIn]
  simp only [Plain, same]

end Line

/-! ## The plan of a tag -/

/-- The text of a tag with arguments has the placeholders of its arguments. -/
theorem Tag.plain_full {name rest : String} (named : Nameable name)
    (plain : Line.Plain rest.toList) :
    Line.Plain ("<" ++ name ++ ":" ++ rest ++ ">").toList := by
  have unopened : '(' ∉ '<' :: name.toList := by
    rw [List.mem_cons, not_or]
    exact ⟨by decide, not_mem_of_isName (isName_iff.2 named) (by decide)⟩
  have parts : ("<" ++ name ++ ":" ++ rest ++ ">").toList =
      ('<' :: name.toList) ++ ':' :: (rest.toList ++ '>' :: []) := by
    rw [toList_full, written, front]
    simp
  rw [parts, Line.plain_append_cons (by decide), Line.plain_append_cons (by decide)]
  exact ⟨Line.plain_of_not_mem unopened, plain, Line.plain_of_not_mem List.not_mem_nil⟩

/-- A tag whose arguments hold no placeholder is obeyed with the arguments that were written. -/
theorem Role.plan_written (role : Role) {blocks : Blocks} (session : Session)
    {raw name rest arguments : String} (reads : blocks.isSkipping = false)
    (named : Tag.Nameable name) (plain : Line.Plain rest.toList)
    (trimmed : Text.Trims rest arguments)
    (written : Text.Trims raw ("<" ++ name ++ ":" ++ rest ++ ">")) :
    role.plan blocks session raw = role.obey blocks session ⟨name, some arguments⟩ := by
  have spelled := Tag.Spelled.full named trimmed
  have inBrackets := Line.isBracketed_of_read? (Tag.spelled_iff.1 spelled).2
  have tidy := Line.tidy_of_isBracketed written inBrackets
  have read := (Line.Spelled.tag written spelled).read_tidy
  have filled := role.fill_of_not_hasPlaceholder session
    (Line.hasPlaceholder_eq_false_iff.2 (Tag.plain_full named plain))
  rw [tidy] at read
  rw [plan, tidy, reads, filled]
  simp only [Bool.false_and, Bool.false_eq_true, if_false]
  rw [obeyLine, read]

end VisualNovel
