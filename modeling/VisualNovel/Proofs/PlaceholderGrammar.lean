import VisualNovel.Proofs.TagText

/-!
# The grammar of placeholders

A placeholder is written as a grammar has it (`Token`), and a line has a placeholder wherever its
text goes on with one (`Token.StandsAt`). That says nothing of how a line is scanned: every place of
the line counts, and a scan that passes over what it has taken could miss a placeholder, or cut one
off.

It does neither. After its opening parenthesis a placeholder holds none, so two of them never
overlap, and a scan from left to right meets all of them (`Scan`, `Scan.lists`). Hence filling a
line is asking for the names of its placeholders one after the other, and then putting the answers
in (`Scan.fill_eq`). This holds however values are asked for; for those who may fail, and remember
what they were asked, it is spelled out with a record of the questions (`Resolver.noting`).
-/

namespace VisualNovel

namespace Placeholder

/-! ## The grammar -/

/-- The sigils of variables and of parameters. -/
def IsSigil (c : Char) : Prop :=
  c = variableSigil ∨ c = parameterSigil

/-- A sigil is no space. -/
theorem IsSigil.ne_space {c : Char} (h : IsSigil c) : c ≠ ' ' := by
  rcases h with rfl | rfl <;> decide

/-- A sigil is no bracket. -/
theorem IsSigil.ne_paren {c : Char} (h : IsSigil c) : c ≠ '(' := by
  rcases h with rfl | rfl <;> decide

/-- A placeholder as the grammar has it: an opening parenthesis, spaces, the sigil, a body and a
closing parenthesis. Without the blanks around it the body is a name. -/
structure Token (sigil : Char) where
  /-- The number of spaces before the sigil. -/
  spaces : Nat
  /-- What stands between the sigil and the closing parenthesis. -/
  body : List Char
  /-- The parenthesis that closes the placeholder is the first one. -/
  unclosed : ')' ∉ body
  /-- The name is not empty. -/
  named : Text.trimChars body ≠ []
  /-- The name is made of letters, numbers, underscores and spaces. -/
  legible : ∀ c ∈ Text.trimChars body, Text.isAlphanumeric c = true ∨ c = '_' ∨ c = ' '

namespace Token

variable {sigil : Char}

/-- What follows the opening parenthesis. -/
def inner (token : Token sigil) : List Char :=
  List.replicate token.spaces ' ' ++ sigil :: (token.body ++ [')'])

/-- The text of a placeholder. -/
def source (token : Token sigil) : List Char :=
  '(' :: token.inner

/-- The name that a placeholder asks a value for. -/
def name (token : Token sigil) : String :=
  String.ofList (Text.trimChars token.body)

/-- A text has a placeholder at a place: what begins there begins with it. -/
def StandsAt (token : Token sigil) (text : List Char) (place : Nat) : Prop :=
  token.source <+: text.drop place

/-- The inside of a token is its spaces, its sigil, its body and a bracket. -/
theorem length_inner (token : Token sigil) :
    token.inner.length = token.spaces + 1 + token.body.length + 1 := by
  simp only [inner, List.length_append, List.length_replicate, List.length_cons, List.length_nil]
  omega

/-- No placeholder begins inside of another. -/
theorem paren_not_mem_inner (hsigil : sigil ≠ '(') (token : Token sigil) : '(' ∉ token.inner := by
  have inside : '(' ∉ token.body := by
    intro mem
    have := token.legible '(' (Text.mem_trimChars mem (by decide))
    revert this
    decide
  simp [inner, inside, hsigil.symm]

/-- The spaces and the body of a placeholder are read off what follows its opening parenthesis. -/
theorem inner_injective (hsigil : sigil ≠ ' ') {token other : Token sigil}
    (same : token.inner = other.inner) : token = other := by
  have spaces : token.spaces = other.spaces := by
    have := congrArg (fun cs => (cs.takeWhile (· = ' ')).length) same
    simpa [inner, List.takeWhile_append, hsigil] using this
  have body : token.body = other.body := by
    simpa [inner, spaces] using same
  cases token
  cases other
  simp_all

end Token

/-! ## Reading a placeholder -/

variable {sigil : Char}

/-- A name of placeholders, by its characters. -/
theorem isName_iff {cs : List Char} :
    isName cs = true ↔ cs ≠ [] ∧ ∀ c ∈ cs, Text.isAlphanumeric c = true ∨ c = '_' ∨ c = ' ' := by
  simp only [isName, isNameChar, Bool.and_eq_true, Bool.not_eq_true', List.isEmpty_eq_false_iff,
    List.all_eq_true, Bool.or_eq_true, decide_eq_true_eq]
  refine and_congr_right fun _ => forall₂_congr fun c _ => ?_
  tauto

/-- What is read after an opening parenthesis is a placeholder of the grammar. -/
theorem exists_token_of_read? {cs name : List Char} {length : Nat}
    (h : read? sigil cs = some (name, length)) :
    ∃ (token : Token sigil) (after : List Char),
      cs = token.inner ++ after ∧ name = Text.trimChars token.body ∧
      length = token.inner.length := by
  have spaces : cs.takeWhile (· = ' ') =
      List.replicate (cs.takeWhile (· = ' ')).length ' ' := by
    rw [List.eq_replicate_iff]
    refine ⟨rfl, fun c mem => ?_⟩
    simpa using List.mem_takeWhile_imp mem
  have parts := List.prefix_iff_eq_append.1 (List.takeWhile_prefix (p := (· = ' ')) (l := cs))
  -- what is read is the spaces, the sigil, and what is cut off at the first closing parenthesis
  unfold read? at h
  dsimp only at h
  rcases hdrop : cs.drop (cs.takeWhile (· = ' ')).length with _ | ⟨c, rest⟩
  · simp [hdrop] at h
  · simp only [hdrop] at h parts
    split at h
    · next same =>
      rcases hcut : Text.cutChars ')' rest with _ | ⟨inside, after⟩
      · simp [hcut] at h
      · simp only [hcut] at h
        split at h
        · next hname =>
          obtain ⟨rfl, unclosed⟩ := Text.cutChars_eq_some hcut
          obtain ⟨named, legible⟩ := isName_iff.1 hname
          let token : Token sigil :=
            ⟨(cs.takeWhile (· = ' ')).length, inside, unclosed, named, legible⟩
          refine ⟨token, after, ?_, ?_⟩
          · rw [← parts, same]
            nth_rewrite 1 [spaces]
            simp [token, Token.inner]
          · simp only [Option.some.injEq, Prod.mk.injEq] at h
            obtain ⟨rfl, rfl⟩ := h
            exact ⟨rfl, token.length_inner.symm⟩
        · cases h
    · cases h

/-- A placeholder of the grammar is read, whatever follows it. -/
theorem read?_inner_append (hsigil : sigil ≠ ' ') (token : Token sigil) (after : List Char) :
    read? sigil (token.inner ++ after) = some (Text.trimChars token.body, token.inner.length) := by
  have spaces : (token.inner ++ after).takeWhile (· = ' ') = List.replicate token.spaces ' ' := by
    simp [Token.inner, hsigil]
  have rest : (token.inner ++ after).drop token.spaces = sigil :: (token.body ++ ')' :: after) := by
    simp [Token.inner]
  have cut : Text.cutChars ')' (token.body ++ ')' :: after) = some (token.body, after) := by
    simp [Text.cutChars_append, Text.cutChars_eq_none token.unclosed, Text.cutChars]
  have hname : isName (Text.trimChars token.body) = true :=
    isName_iff.2 ⟨token.named, token.legible⟩
  unfold read?
  dsimp only
  rw [spaces, List.length_replicate, rest]
  simp only [if_true, cut, hname, token.length_inner]

/-- A text has at most one placeholder at its beginning. -/
theorem Token.eq_of_begins (hsigil : sigil ≠ ' ') {token other : Token sigil} {cs : List Char}
    (one : token.source <+: cs) (two : other.source <+: cs) : token = other := by
  obtain ⟨after, rfl⟩ := one
  obtain ⟨later, same⟩ := two
  have inner : other.inner ++ later = token.inner ++ after := by
    simpa [source] using same
  have length : other.inner.length = token.inner.length := by
    have := read?_inner_append hsigil other later
    rw [inner, read?_inner_append hsigil token after] at this
    simp only [Option.some.injEq, Prod.mk.injEq] at this
    exact this.2.symm
  exact (inner_injective hsigil (List.append_inj_left inner length)).symm

/-- Whether a text begins with a placeholder is seen after its opening parenthesis. -/
theorem isSome_read?_iff (hsigil : sigil ≠ ' ') {cs : List Char} :
    (read? sigil cs).isSome = true ↔ ∃ token : Token sigil, token.source <+: '(' :: cs := by
  constructor
  · intro found
    obtain ⟨⟨name, length⟩, h⟩ := Option.isSome_iff_exists.1 found
    obtain ⟨token, after, rfl, -, -⟩ := exists_token_of_read? h
    exact ⟨token, after, rfl⟩
  · rintro ⟨token, after, same⟩
    have inner : token.inner ++ after = cs := by
      simpa [Token.source] using same
    rw [← inner, read?_inner_append hsigil]
    rfl

/-! ## The placeholders of a text -/

/-- The review finds a placeholder where there is one. -/
theorem occursIn_iff (hsigil : sigil ≠ ' ') {cs : List Char} :
    occursIn sigil cs = true ↔ ∃ (token : Token sigil) (place : Nat), token.StandsAt cs place := by
  induction cs with
  | nil => simp [occursIn, Token.StandsAt, Token.source]
  | cons c cs ih =>
    rw [occursIn, Bool.or_eq_true, Bool.and_eq_true, decide_eq_true_eq, isSome_read?_iff hsigil, ih]
    constructor
    · rintro (⟨rfl, token, here⟩ | ⟨token, place, later⟩)
      · exact ⟨token, 0, here⟩
      · exact ⟨token, place + 1, later⟩
    · rintro ⟨token, place, stands⟩
      cases place with
      | zero =>
        have paren : '(' = c := (List.cons_prefix_cons.1 stands).1
        exact .inl ⟨paren.symm, token, paren ▸ stands⟩
      | succ place => exact .inr ⟨token, place, stands⟩

/-- Where no parenthesis opens there is no placeholder. -/
theorem occursIn_eq_false (hsigil : sigil ≠ ' ') {cs : List Char} (unopened : '(' ∉ cs) :
    occursIn sigil cs = false := by
  rw [← Bool.not_eq_true, occursIn_iff hsigil]
  rintro ⟨token, place, stands⟩
  exact unopened (List.mem_of_mem_drop (stands.subset List.mem_cons_self))

section

variable {sigil other : Char}

/-- What begins behind the beginning of a placeholder begins behind its end. -/
theorem Token.length_le_of_prefix_drop (hparen : sigil ≠ '(') (token : Token sigil)
    {next : Token other} {cs : List Char} {offset : Nat} (behind : 0 < offset)
    (follows : next.source <+: (token.source ++ cs).drop offset) :
    token.source.length ≤ offset := by
  obtain ⟨place, rfl⟩ := Nat.exists_eq_add_of_lt behind
  by_contra inside
  rw [Nat.zero_add, source, List.length_cons] at inside
  have short : place < token.inner.length := by omega
  obtain ⟨c, rest, split⟩ := List.exists_cons_of_ne_nil (List.ne_nil_of_length_pos
    (l := token.inner.drop place) (by rw [List.length_drop]; omega))
  -- the parenthesis that opens there would be one of the first placeholder
  have paren : '(' ∈ token.inner := by
    rw [Nat.zero_add, source, source, List.cons_append, List.drop_succ_cons,
      List.drop_append_of_le_length short.le, split] at follows
    obtain ⟨rfl, -⟩ := List.cons_prefix_cons.1 follows
    exact List.mem_of_mem_drop (split ▸ List.mem_cons_self)
  exact token.paren_not_mem_inner hparen paren

/-- Two placeholders of a text do not overlap. -/
theorem Token.StandsAt.length_le (hparen : sigil ≠ '(') {token : Token sigil} {next : Token other}
    {text : List Char} {place later : Nat} (stands : token.StandsAt text place)
    (follows : next.StandsAt text later) (lt : place < later) :
    place + token.source.length ≤ later := by
  obtain ⟨after, split⟩ := stands
  obtain ⟨offset, rfl⟩ := Nat.exists_eq_add_of_lt lt
  rw [StandsAt, Nat.add_assoc, ← List.drop_drop, ← split] at follows
  have := token.length_le_of_prefix_drop hparen (Nat.succ_pos offset) follows
  omega

/-- At one place there are no placeholders of two sigils. -/
theorem Token.sigil_eq_of_begins (hsigil : sigil ≠ ' ') (hother : other ≠ ' ') {token : Token sigil}
    {next : Token other} {cs : List Char} (one : token.source <+: cs) (two : next.source <+: cs) :
    sigil = other := by
  obtain ⟨after, rfl⟩ := one
  obtain ⟨later, same⟩ := two
  have first := congrArg (fun cs => (cs.tail.dropWhile (· = ' ')).head?) same
  simpa [source, inner, List.dropWhile_append, hsigil, hother, eq_comm] using first

/-- Of two placeholders of a text, whatever their sigils, one ends before the other begins, unless
they are the same one. -/
theorem Token.StandsAt.apart (known : IsSigil sigil) (hother : IsSigil other) {token : Token sigil}
    {next : Token other} {text : List Char} {place later : Nat} (stands : token.StandsAt text place)
    (follows : next.StandsAt text later) :
    (place = later ∧ token.source = next.source) ∨ place + token.source.length ≤ later ∨
      later + next.source.length ≤ place := by
  rcases Nat.lt_trichotomy place later with lt | rfl | lt
  · exact .inr (.inl (stands.length_le known.ne_paren follows lt))
  · obtain rfl := sigil_eq_of_begins known.ne_space hother.ne_space stands follows
    exact .inl ⟨rfl, congrArg source (eq_of_begins known.ne_space stands follows)⟩
  · exact .inr (.inr (follows.length_le hother.ne_paren stands lt))

end

/-- After a placeholder, a text has those of what follows it and no other ones. -/
theorem Token.standsAt_source_append (hspace : sigil ≠ ' ') (hparen : sigil ≠ '(')
    (token other : Token sigil) (cs : List Char) (place : Nat) :
    other.StandsAt (token.source ++ cs) place ↔
      (place = 0 ∧ other = token) ∨
        ∃ later, place = token.source.length + later ∧ other.StandsAt cs later := by
  constructor
  · intro stands
    rcases Nat.eq_zero_or_pos place with rfl | behind
    · exact .inl ⟨rfl, eq_of_begins hspace stands (List.prefix_append token.source cs)⟩
    · obtain ⟨later, rfl⟩ := Nat.exists_eq_add_of_le
        (token.length_le_of_prefix_drop hparen behind stands)
      refine .inr ⟨later, rfl, ?_⟩
      rwa [StandsAt, List.drop_length_add_append] at stands
  · rintro (⟨rfl, rfl⟩ | ⟨later, rfl, stands⟩)
    · exact List.prefix_append other.source cs
    · rwa [StandsAt, List.drop_length_add_append]

/-- The placeholders of a text with their places, all of them and from left to right. -/
structure Lists (text : List Char) (found : List (Nat × Token sigil)) : Prop where
  /-- What is listed is what stands in the text. -/
  exact (place : Nat) (token : Token sigil) : (place, token) ∈ found ↔ token.StandsAt text place
  /-- Each one ends before the next one begins. -/
  apart : found.Pairwise fun one next => one.1 + one.2.source.length ≤ next.1

/-- A list of placeholders is empty where the text has none. -/
theorem Lists.ne_nil_iff {text : List Char} {found : List (Nat × Token sigil)}
    (lists : Lists text found) :
    found ≠ [] ↔ ∃ (token : Token sigil) (place : Nat), token.StandsAt text place := by
  constructor
  · intro nonempty
    obtain ⟨⟨place, token⟩, mem⟩ := List.exists_mem_of_ne_nil found nonempty
    exact ⟨token, place, (lists.exact place token).1 mem⟩
  · rintro ⟨token, place, stands⟩ rfl
    exact absurd ((lists.exact place token).2 stands) List.not_mem_nil

/-- A scan of a text that begins at a place of a line: its pieces, and the placeholders among
them. -/
inductive Scan (sigil : Char) :
    Nat → List Char → List (Nat × Token sigil) → List Piece → Prop where
  /-- Nothing is left. -/
  | done (place : Nat) : Scan sigil place [] [] []
  /-- No placeholder begins here. -/
  | char {place : Nat} {c : Char} {cs : List Char} {found : List (Nat × Token sigil)}
      {pieces : List Piece} (absent : ∀ token : Token sigil, ¬ token.source <+: c :: cs)
      (rest : Scan sigil (place + 1) cs found pieces) :
      Scan sigil place (c :: cs) found (.plain c :: pieces)
  /-- A placeholder begins here, and the scan goes on behind it. -/
  | hole {place : Nat} {cs : List Char} {found : List (Nat × Token sigil)} {pieces : List Piece}
      (token : Token sigil)
      (rest : Scan sigil (place + token.source.length) cs found pieces) :
      Scan sigil place (token.source ++ cs) ((place, token) :: found)
        (.hole token.source token.name :: pieces)

/-- A text that begins with a placeholder has it as its first piece. -/
theorem pieces_source_append (hspace : sigil ≠ ' ') (token : Token sigil) (cs : List Char) :
    pieces sigil (token.source ++ cs) = .hole token.source token.name :: pieces sigil cs := by
  rw [Token.source, List.cons_append, pieces, piecesAfter, if_pos rfl,
    read?_inner_append hspace token cs]
  simp only [piecesAfter_eq, List.take_left', List.drop_left']
  rfl

/-- The pieces of a text come from a scan. -/
theorem exists_scan (hspace : sigil ≠ ' ') (place : Nat) (cs : List Char) :
    ∃ found, Scan sigil place cs found (pieces sigil cs) := by
  -- by the length of the text, since the scan goes on behind what a placeholder takes
  induction hlength : cs.length using Nat.strongRecOn generalizing place cs with
  | ind _ ih =>
    subst hlength
    cases cs with
    | nil => exact ⟨[], .done place⟩
    | cons c cs =>
      by_cases hc : c = '('
      · subst hc
        rcases hread : read? sigil cs with _ | ⟨name, length⟩
        · have absent : ∀ token : Token sigil, ¬ token.source <+: '(' :: cs := by
            intro token here
            have := (isSome_read?_iff hspace).2 ⟨token, here⟩
            simp [hread] at this
          obtain ⟨found, rest⟩ := ih cs.length (by simp) (place + 1) cs rfl
          refine ⟨found, ?_⟩
          simp only [pieces, piecesAfter, if_true, hread]
          exact .char absent rest
        · obtain ⟨token, after, rfl, rfl, rfl⟩ := exists_token_of_read? hread
          have shorter : after.length < ('(' :: (token.inner ++ after)).length := by
            simp only [List.length_cons, List.length_append]
            omega
          obtain ⟨found, rest⟩ := ih after.length shorter (place + token.source.length) after rfl
          refine ⟨(place, token) :: found, ?_⟩
          show Scan sigil place (token.source ++ after) _ (pieces sigil (token.source ++ after))
          rw [pieces_source_append hspace]
          exact .hole token rest
      · have absent : ∀ token : Token sigil, ¬ token.source <+: c :: cs := by
          intro token here
          exact hc (List.cons_prefix_cons.1 here).1.symm
        obtain ⟨found, rest⟩ := ih cs.length (by simp) (place + 1) cs rfl
        rw [pieces_cons hc]
        exact ⟨found, .char absent rest⟩

namespace Scan

variable {place : Nat} {cs : List Char} {found : List (Nat × Token sigil)} {pieces : List Piece}

/-- A scan meets the placeholders of the text, at their places. -/
theorem mem_iff (hspace : sigil ≠ ' ') (hparen : sigil ≠ '(')
    (scan : Scan sigil place cs found pieces) (start : Nat) (token : Token sigil) :
    (start, token) ∈ found ↔ ∃ offset, start = place + offset ∧ token.StandsAt cs offset := by
  induction scan with
  | done place => simp [Token.StandsAt, Token.source]
  | @char place c cs found pieces absent rest ih =>
    rw [ih]
    constructor
    · rintro ⟨offset, rfl, stands⟩
      exact ⟨offset + 1, by omega, stands⟩
    · rintro ⟨offset, rfl, stands⟩
      cases offset with
      | zero => exact absurd stands (absent token)
      | succ offset => exact ⟨offset, by omega, stands⟩
  | @hole place cs found pieces first rest ih =>
    simp only [List.mem_cons, Prod.mk.injEq, ih, first.standsAt_source_append hspace hparen]
    constructor
    · rintro (⟨rfl, rfl⟩ | ⟨offset, rfl, stands⟩)
      · exact ⟨0, rfl, .inl ⟨rfl, rfl⟩⟩
      · exact ⟨first.source.length + offset, by omega, .inr ⟨offset, rfl, stands⟩⟩
    · rintro ⟨offset, rfl, ⟨rfl, rfl⟩ | ⟨later, rfl, stands⟩⟩
      · exact .inl ⟨rfl, rfl⟩
      · exact .inr ⟨later, by omega, stands⟩

/-- No placeholder that is met lies before the place where the scan begins. -/
theorem le_of_mem (scan : Scan sigil place cs found pieces) {entry : Nat × Token sigil}
    (mem : entry ∈ found) : place ≤ entry.1 := by
  induction scan with
  | done place => cases mem
  | char absent rest ih =>
    have := ih mem
    omega
  | hole token rest ih =>
    rcases List.mem_cons.1 mem with rfl | mem
    · exact le_rfl
    · have := ih mem
      omega

/-- They are met from left to right, and none before the one before it has ended. -/
theorem apart (scan : Scan sigil place cs found pieces) :
    found.Pairwise fun one next => one.1 + one.2.source.length ≤ next.1 := by
  induction scan with
  | done place => exact .nil
  | char absent rest ih => exact ih
  | hole token rest ih => exact .cons (fun entry mem => rest.le_of_mem mem) ih

/-- The names of the pieces are those of the placeholders that are met. -/
theorem names_eq (scan : Scan sigil place cs found pieces) :
    pieces.filterMap Piece.name? = found.map fun entry => entry.2.name := by
  induction scan with
  | done place => rfl
  | char absent rest ih => simpa [Piece.name?, List.filterMap_cons] using ih
  | hole token rest ih => simpa [Piece.name?, List.filterMap_cons] using ih

/-- So a scan of a text lists its placeholders. -/
theorem lists (hspace : sigil ≠ ' ') (hparen : sigil ≠ '(')
    (scan : Scan sigil 0 cs found pieces) : Lists cs found where
  exact place token := by simp [scan.mem_iff hspace hparen]
  apart := scan.apart

end Scan

/-! ## Filling -/

/-- A text from a place on, with the answers in the place of the placeholders. A placeholder without
an answer stays, as does all that belongs to none. -/
def rewrite (text : List Char) : Nat → List ((Nat × Token sigil) × Option String) → List Char
  | place, [] => text.drop place
  | place, ((start, token), answer) :: rest =>
    (text.take start).drop place ++ answer.elim token.source String.toList ++
      rewrite text (start + token.source.length) rest

/-- What follows a part of a text is found behind it. -/
theorem drop_behind {text cs : List Char} {place : Nat} (front : List Char)
    (split : text.drop place = front ++ cs) : text.drop (place + front.length) = cs := by
  rw [← List.drop_drop, split, List.drop_left]

/-- A character before all placeholders stays before what is put in. -/
theorem rewrite_cons {text cs : List Char} {c : Char} {place : Nat}
    (split : text.drop place = c :: cs) {answered : List ((Nat × Token sigil) × Option String)}
    (later : ∀ entry ∈ answered, place < entry.1.1) :
    rewrite text place answered = c :: rewrite text (place + 1) answered := by
  have next : text.drop (place + 1) = cs := drop_behind [c] split
  cases answered with
  | nil => rw [rewrite, rewrite, split, next]
  | cons entry answered =>
    obtain ⟨⟨start, token⟩, answer⟩ := entry
    have before : place < start := later _ List.mem_cons_self
    simp only [rewrite, List.drop_take, split, next]
    obtain ⟨gap, hgap⟩ : ∃ gap, start - place = gap + 1 := ⟨start - place - 1, by omega⟩
    have rest : start - (place + 1) = gap := by omega
    rw [hgap, rest]
    rfl

/-- At a placeholder its answer is put in, or the placeholder stays. -/
theorem rewrite_here (text : List Char) (place : Nat) (token : Token sigil) (answer : Option String)
    (answered : List ((Nat × Token sigil) × Option String)) :
    rewrite text place (((place, token), answer) :: answered) =
      answer.elim token.source String.toList ++
        rewrite text (place + token.source.length) answered := by
  simp [rewrite]

/-- A line with answers in the place of its placeholders, and whether there was one. -/
def filled (line : String) (found : List (Nat × Token sigil)) (answers : List (Option String)) :
    String × Bool :=
  (String.ofList (rewrite line.toList 0 (found.zip answers)), answers.any Option.isSome)

namespace Scan

variable {m : Type → Type} [Monad m] [LawfulMonad m]

/-- What filling has to do: ask for the names of the placeholders from left to right, and put the
answers in their place. -/
theorem fillPieces_eq {place : Nat} {cs text : List Char} {found : List (Nat × Token sigil)}
    {pieces : List Piece} (scan : Scan sigil place cs found pieces)
    (split : text.drop place = cs) (value : String → m (Option String)) :
    fillPieces value pieces =
      (fun answers => (rewrite text place (found.zip answers), answers.any Option.isSome)) <$>
        found.mapM fun entry => value entry.2.name := by
  induction scan with
  | done place => simp [fillPieces, rewrite, split]
  | @char place c cs found pieces absent rest ih =>
    have front (answers : List (Option String)) :
        rewrite text place (found.zip answers) =
          c :: rewrite text (place + 1) (found.zip answers) := by
      refine rewrite_cons split fun entry mem => ?_
      exact rest.le_of_mem (List.of_mem_zip mem).1
    simp only [fillPieces, ih (drop_behind [c] split), bind_pure_comp, Functor.map_map, front]
  | @hole place cs found pieces token rest ih =>
    have next := drop_behind token.source split
    simp only [fillPieces, List.mapM_cons, map_bind, bind_pure_comp, Functor.map_map]
    congr 1
    funext answer
    cases answer with
    | none => simp [ih next, rewrite_here]
    | some value => simp [ih next, rewrite_here]

/-- A line is filled by asking for the names of its placeholders from left to right. -/
theorem fill_eq {line : String} {found : List (Nat × Token sigil)}
    (scan : Scan sigil 0 line.toList found (pieces sigil line.toList))
    (value : String → m (Option String)) :
    fill sigil value line = filled line found <$> found.mapM fun entry => value entry.2.name := by
  have split : line.toList.drop 0 = line.toList := List.drop_zero
  rw [fill, scan.fillPieces_eq split value]
  simp only [bind_pure_comp, Functor.map_map]
  rfl

/-- Without an answer nothing changes. -/
theorem rewrite_of_unanswered {place : Nat} {cs text : List Char} {found : List (Nat × Token sigil)}
    {pieces : List Piece} (scan : Scan sigil place cs found pieces)
    (split : text.drop place = cs) {answers : List (Option String)}
    (unanswered : answers.any Option.isSome = false) :
    rewrite text place (found.zip answers) = cs := by
  induction scan generalizing answers with
  | done place => simpa [rewrite] using split
  | @char place c cs found pieces absent rest ih =>
    rw [rewrite_cons split fun entry mem => rest.le_of_mem (List.of_mem_zip mem).1,
      ih (drop_behind [c] split) unanswered]
  | @hole place cs found pieces token rest ih =>
    cases answers with
    | nil => simpa [rewrite] using split
    | cons answer answers =>
      obtain ⟨rfl, others⟩ : answer = none ∧ answers.any Option.isSome = false := by
        simpa using unanswered
      rw [List.zip_cons_cons, rewrite_here, ih (drop_behind token.source split) others]
      rfl

end Scan

/-! ## Those who are asked -/

/-- One who is asked for the values of names. They may fail to answer, and may remember what
happened before. -/
abbrev Resolver (σ ε : Type) : Type :=
  String → ExceptT ε (StateM σ) (Option String)

/-- What comes of some asking, and what is remembered after it. -/
def outcome {σ ε α : Type} (asking : ExceptT ε (StateM σ) α) (memory : σ) : Except ε α × σ :=
  (asking.run.run memory).run

/-- What comes of asking for a list of names. -/
structure Hearing (σ ε : Type) where
  /-- The names that were asked for, in order. -/
  asked : List String
  /-- The answers, or the failure that ended the asking. -/
  answers : Except ε (List (Option String))
  /-- What the one who was asked remembers. -/
  memory : σ

namespace Resolver

variable {σ ε : Type}

/-- Asking for names in order, up to the first failure. -/
def hear (resolver : Resolver σ ε) : σ → List String → Hearing σ ε
  | memory, [] => ⟨[], .ok [], memory⟩
  | memory, name :: names =>
    match outcome (resolver name) memory with
    | (.error failure, memory) => ⟨[name], .error failure, memory⟩
    | (.ok answer, memory) =>
      let later := resolver.hear memory names
      ⟨name :: later.asked, later.answers.map (answer :: ·), later.memory⟩

/-- The same resolver, with the names written down that it is asked for. -/
def noting (resolver : Resolver σ ε) : Resolver (σ × List String) ε := fun name =>
  ExceptT.mk fun (memory, asked) =>
    let (answer, memory) := outcome (resolver name) memory
    (answer, memory, asked ++ [name])

/-- Where the first of two questions is answered, the second one is asked. -/
theorem outcome_bind_of_ok {α β : Type} {first : ExceptT ε (StateM σ) α} {memory memory' : σ}
    {answer : α} (h : outcome first memory = (.ok answer, memory'))
    (next : α → ExceptT ε (StateM σ) β) :
    outcome (first >>= next) memory = outcome (next answer) memory' := by
  have run : first.run.run memory = (.ok answer, memory') := h
  simp only [outcome, ExceptT.run_bind, StateT.run_bind, run]
  rfl

/-- Where the first of two questions fails, the second one is not asked. -/
theorem outcome_bind_of_error {α β : Type} {first : ExceptT ε (StateM σ) α} {memory memory' : σ}
    {failure : ε} (h : outcome first memory = (.error failure, memory'))
    (next : α → ExceptT ε (StateM σ) β) :
    outcome (first >>= next) memory = (.error failure, memory') := by
  have run : first.run.run memory = (.error failure, memory') := h
  simp only [outcome, ExceptT.run_bind, StateT.run_bind, run]
  rfl

/-- Changing what comes of the asking changes nothing else. -/
theorem outcome_map {α β : Type} (f : α → β) (asking : ExceptT ε (StateM σ) α) (memory : σ) :
    outcome (f <$> asking) memory =
      ((outcome asking memory).1.map f, (outcome asking memory).2) := by
  rw [outcome, ExceptT.run_map, StateT.run_map]
  rfl

/-- A resolver that notes what it is asked does what it does without, and notes the name. -/
theorem outcome_noting (resolver : Resolver σ ε) (name : String) (memory : σ)
    (asked : List String) :
    outcome (resolver.noting name) (memory, asked) =
      ((outcome (resolver name) memory).1, (outcome (resolver name) memory).2, asked ++ [name]) :=
  rfl

/-- What is written down of the asking for a list of names is what is asked for. -/
theorem outcome_mapM_noting (resolver : Resolver σ ε) (names : List String) (memory : σ)
    (asked : List String) :
    outcome (names.mapM resolver.noting) (memory, asked) =
      ((resolver.hear memory names).answers, (resolver.hear memory names).memory,
        asked ++ (resolver.hear memory names).asked) := by
  induction names generalizing memory asked with
  | nil =>
    rw [List.mapM_nil, hear, List.append_nil]
    rfl
  | cons name names ih =>
    have first := resolver.outcome_noting name memory asked
    rw [List.mapM_cons, hear]
    rcases hanswer : outcome (resolver name) memory with ⟨failure | answer, memory'⟩
    · rw [hanswer] at first
      rw [outcome_bind_of_error first]
    · rw [hanswer] at first
      rw [outcome_bind_of_ok first]
      have rest := ih memory' (asked ++ [name])
      rcases hlater : (resolver.hear memory' names).answers with failure | answers
      · rw [hlater] at rest
        rw [outcome_bind_of_error rest, List.append_assoc]
        simp only [hlater]
        rfl
      · rw [hlater] at rest
        rw [outcome_bind_of_ok rest, List.append_assoc]
        simp only [hlater]
        rfl

/-- Where there is a name to ask for, it is asked for. -/
theorem asked_eq_nil_iff (resolver : Resolver σ ε) (memory : σ) (names : List String) :
    (resolver.hear memory names).asked = [] ↔ names = [] := by
  cases names with
  | nil => simp [hear]
  | cons name names =>
    rw [hear]
    split <;> simp

end Resolver

/-- Who is asked in filling a line is asked for the names of its placeholders, up to the first
failure. -/
theorem Scan.outcome_fill_noting {σ ε : Type} {line : String} {found : List (Nat × Token sigil)}
    (scan : Scan sigil 0 line.toList found (pieces sigil line.toList)) (resolver : Resolver σ ε)
    (memory : σ) :
    outcome (fill sigil resolver.noting line) (memory, []) =
      let heard := resolver.hear memory (found.map fun entry => entry.2.name)
      (heard.answers.map (filled line found), heard.memory, heard.asked) := by
  have asked := resolver.outcome_mapM_noting (found.map fun entry => entry.2.name) memory []
  rw [List.mapM_map, List.nil_append] at asked
  rw [scan.fill_eq, Resolver.outcome_map]
  exact congrArg (fun result => (result.1.map (filled line found), result.2)) asked

/-- Filling a line follows the grammar of placeholders. They do not overlap; their names are asked
for from left to right, up to the first failure, which is the result then; the answers are put in
the place of their placeholders, and all else stays. The review sees a placeholder just where one is
asked for. -/
theorem filling_follows_grammar {sigil : Char} (known : IsSigil sigil) (line : String) :
    (∀ (other : Char) (token : Token sigil) (next : Token other) (place later : Nat),
      IsSigil other → token.StandsAt line.toList place → next.StandsAt line.toList later →
        (place = later ∧ token.source = next.source) ∨ place + token.source.length ≤ later ∨
          later + next.source.length ≤ place) ∧
    ∃ found : List (Nat × Token sigil),
      Lists line.toList found ∧
      names sigil line = (found.map fun entry => entry.2.name) ∧
      (∀ (m : Type → Type) [Monad m] [LawfulMonad m] (value : String → m (Option String)),
        fill sigil value line =
          filled line found <$> found.mapM fun entry => value entry.2.name) ∧
      (∀ (σ ε : Type) (resolver : Resolver σ ε) (memory : σ),
        outcome (fill sigil resolver.noting line) (memory, []) =
          let heard := resolver.hear memory (found.map fun entry => entry.2.name)
          (heard.answers.map (filled line found), heard.memory, heard.asked)) ∧
      (occurs sigil line = true ↔
        ∃ (token : Token sigil) (place : Nat), token.StandsAt line.toList place) ∧
      ∀ (σ ε : Type) (resolver : Resolver σ ε) (memory : σ),
        occurs sigil line = true ↔
          (outcome (fill sigil resolver.noting line) (memory, [])).2.2 ≠ [] := by
  obtain ⟨found, scan⟩ := exists_scan known.ne_space 0 line.toList
  have lists := scan.lists known.ne_space known.ne_paren
  refine ⟨fun other token next place later hother stands follows =>
    stands.apart known hother follows, found, lists, scan.names_eq,
    fun m _ _ value => scan.fill_eq value,
    fun σ ε resolver memory => scan.outcome_fill_noting resolver memory,
    occursIn_iff known.ne_space, ?_⟩
  intro σ ε resolver memory
  rw [scan.outcome_fill_noting, occurs, occursIn_iff known.ne_space, ← lists.ne_nil_iff]
  simp [Resolver.asked_eq_nil_iff]

/-- A line with false starts: an unclosed parenthesis, an empty name, and a placeholder of a
parameter. -/
def tangledLine : String := "((( $name )) ($) (@mood) ($mood) ($name"

/-- A resolver that knows one name, and counts the questions. -/
def countingResolver : Resolver Nat String := fun name =>
  ExceptT.mk fun count => (.ok (if name = "name" then some "(Rave" else none), count + 1)

/-- In the tangled line two names are asked for, and the answer stands where the first one stood. -/
theorem tangledLine_follows_grammar :
    outcome (fill variableSigil countingResolver.noting tangledLine) (0, []) =
      (.ok ("(((Rave) ($) (@mood) ($mood) ($name", true), 2, ["name", "mood"]) ∧
    ∃ found : List (Nat × Token variableSigil), Lists tangledLine.toList found ∧
      (countingResolver.hear 0 (found.map fun entry => entry.2.name)).asked = ["name", "mood"] := by
  have run : outcome (fill variableSigil countingResolver.noting tangledLine) (0, []) =
      (.ok ("(((Rave) ($) (@mood) ($mood) ($name", true), 2, ["name", "mood"]) := by
    decide +kernel
  obtain ⟨-, found, lists, -, -, noted, -⟩ := filling_follows_grammar (.inl rfl) tangledLine
  refine ⟨run, found, lists, ?_⟩
  have heard := (noted Nat String countingResolver 0).symm.trans run
  exact congrArg (fun result => result.2.2) heard

end Placeholder

end VisualNovel
