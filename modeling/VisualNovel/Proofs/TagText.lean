import VisualNovel.Proofs.Effects
import VisualNovel.Proofs.Text.Splitting

/-!
# Tags and the values put into them

A tag is written `<name>` or `<name:arguments>`. A placeholder begins with a parenthesis, which no
name holds, and ends with one, so it reaches neither into the name of a tag nor over the bracket
that closes it. Whatever is put into a line, a tag stays a tag of its name, with arguments or
without as before: what is put in only changes the text of the arguments (`Tag.Wrote.fill`).

The tags of blocks of conditions are looked at even where lines are passed over. That they can be
recognised before anything is put in rests on this (`Line.block_tag_survives_filling`).
-/

namespace VisualNovel

/-! ## Pieces of a text -/

namespace Placeholder

variable {sigil : Char}

/-- A character that opens no parenthesis is a piece of its own. -/
theorem pieces_cons {c : Char} (h : c ≠ '(') (cs : List Char) :
    pieces sigil (c :: cs) = .plain c :: pieces sigil cs := by
  simp only [pieces, piecesAfter, if_neg h]

/-- So is every character of a text that opens none. -/
theorem pieces_append {start : List Char} (h : '(' ∉ start) (cs : List Char) :
    pieces sigil (start ++ cs) = start.map .plain ++ pieces sigil cs := by
  induction start with
  | nil => rfl
  | cons c start ih =>
    obtain ⟨hc, hstart⟩ := not_or.1 (mt List.mem_cons.2 h)
    rw [List.cons_append, pieces_cons (Ne.symm hc), ih hstart]
    rfl

/-- A placeholder is no longer than the text it stands in. -/
theorem read?_length_le {cs name : List Char} {length : Nat}
    (h : read? sigil cs = some (name, length)) : length ≤ cs.length := by
  unfold read? at h
  dsimp only at h
  split at h
  · cases h
  · next c body hdrop =>
    split at h
    · split at h
      · cases h
      · next inside after hcut =>
        split at h
        · obtain ⟨rfl, -⟩ := Text.cutChars_eq_some hcut
          have hlength := congrArg List.length hdrop
          simp only [List.length_drop, List.length_cons, List.length_append] at hlength
          cases h
          omega
        · cases h
    · cases h

/-- A bracket behind a text belongs to no placeholder in it. -/
theorem read?_append_bracket (h : sigil ≠ '>') (cs : List Char) :
    read? sigil (cs ++ ['>']) = read? sigil cs := by
  have spaces : (cs ++ ['>']).takeWhile (· = ' ') = cs.takeWhile (· = ' ') := by
    rw [List.takeWhile_append]
    split
    · next hall =>
      rw [(List.takeWhile_prefix _).eq_of_length hall]
      simp
    · rfl
  unfold read?
  dsimp only
  rw [spaces, List.drop_append_of_le_length (List.takeWhile_prefix _).length_le]
  rcases cs.drop (cs.takeWhile (· = ' ')).length with _ | ⟨c, body⟩
  · simp [Ne.symm h]
  · simp only [List.cons_append, Text.cutChars_append]
    split
    · rcases Text.cutChars ')' body with _ | ⟨inside, after⟩
      · simp [Text.cutChars]
      · rfl
    · rfl

/-- A bracket behind a text is a piece of its own. -/
theorem pieces_append_bracket (h : sigil ≠ '>') (cs : List Char) :
    pieces sigil (cs ++ ['>']) = pieces sigil cs ++ [.plain '>'] := by
  induction hlength : cs.length using Nat.strongRecOn generalizing cs with
  | ind _ ih =>
    subst hlength
    cases cs with
    | nil => exact pieces_cons (by decide) []
    | cons c cs =>
      by_cases hc : c = '('
      · subst hc
        simp only [pieces, List.cons_append, piecesAfter, if_pos, read?_append_bracket h]
        rcases hread : read? sigil cs with _ | ⟨name, length⟩
        · exact congrArg (Piece.plain '(' :: ·) (ih cs.length (by simp) cs rfl)
        · have hle := read?_length_le hread
          simp only [piecesAfter_eq, List.take_append_of_le_length hle,
            List.drop_append_of_le_length hle, List.cons_append, List.cons.injEq, true_and]
          have hshorter : (cs.drop length).length < cs.length + 1 := by
            rw [List.length_drop]
            omega
          exact ih _ hshorter (cs.drop length) rfl
      · rw [List.cons_append, pieces_cons hc, pieces_cons hc, ih cs.length (by simp) cs rfl]
        rfl

/-! ## Filling a text -/

section fillPieces

variable {ε : Type} (value : String → Except ε (Option String))

/-- Characters before a text stay before it. -/
theorem fillPieces_plain_append (start : List Char) (rest : List Piece) :
    fillPieces value (start.map .plain ++ rest) =
      (fillPieces value rest).map fun (filled, some?) => (start ++ filled, some?) := by
  induction start with
  | nil =>
    simp only [List.map_nil, List.nil_append]
    cases fillPieces value rest <;> rfl
  | cons c start ih =>
    simp only [List.map_cons, List.cons_append, fillPieces, ih]
    cases fillPieces value rest <;> rfl

/-- A character behind a text stays behind it. -/
theorem fillPieces_append_plain (c : Char) (pieces : List Piece) :
    fillPieces value (pieces ++ [.plain c]) =
      (fillPieces value pieces).map fun (filled, some?) => (filled ++ [c], some?) := by
  induction pieces with
  | nil => rfl
  | cons piece pieces ih =>
    cases piece with
    | plain d =>
      simp only [List.cons_append, fillPieces, ih]
      cases fillPieces value pieces <;> rfl
    | hole source name =>
      simp only [List.cons_append, fillPieces, ih]
      rcases value name with _ | _ | text
      · rfl
      · rcases fillPieces value pieces with _ | ⟨filled, _⟩
        · rfl
        · simp [Except.map, bind, Except.bind, pure, Except.pure]
      · rcases fillPieces value pieces with _ | ⟨filled, _⟩
        · rfl
        · simp [Except.map, bind, Except.bind, pure, Except.pure]

/-- A text between characters that belong to no placeholder is filled as if it stood alone. -/
theorem fillPieces_between (h : sigil ≠ '>') {start : List Char} (hstart : '(' ∉ start)
    (cs : List Char) :
    fillPieces value (pieces sigil (start ++ cs ++ ['>'])) =
      (fillPieces value (pieces sigil cs)).map fun (filled, some?) =>
        (start ++ filled ++ ['>'], some?) := by
  rw [List.append_assoc, pieces_append hstart, pieces_append_bracket h, fillPieces_plain_append,
    fillPieces_append_plain]
  cases fillPieces value (pieces sigil cs)
  · rfl
  · simp [Except.map]

end fillPieces

end Placeholder

/-! ## The written form of a tag -/

namespace Tag

/-- What stands before the arguments of a tag. -/
def front (name : String) : Option (List Char) → List Char
  | none => '<' :: name.toList
  | some _ => '<' :: name.toList ++ [':']

/-- The written form of a tag with a name, and with the text of its arguments if it has any. -/
def written (name : String) (text : Option (List Char)) : List Char :=
  front name text ++ text.getD [] ++ ['>']

/-- The name of a tag holds only characters of names. -/
theorem not_mem_of_isName {name : List Char} (h : isName name = true) {c : Char}
    (hc : isNameChar c = false) : c ∉ name := by
  cases name with
  | nil => cases h
  | cons first others =>
    obtain ⟨hfirst, hothers⟩ := Bool.and_eq_true_iff.1 h
    intro hmem
    rcases List.mem_cons.1 hmem with rfl | hmem
    · have halpha : c.isAlphanum = true := by
        show (c.isUpper || c.isLower || c.isDigit) = true
        rw [hfirst, Bool.or_true, Bool.true_or]
      rw [isNameChar, halpha, Bool.or_true] at hc
      cases hc
    · rw [List.all_eq_true.1 hothers c hmem] at hc
      cases hc

/-- What stands between brackets is found there. -/
theorem inside?_eq_some {cs inside : List Char} :
    inside? cs = some inside ↔ cs = '<' :: (inside ++ ['>']) := by
  unfold inside?
  split
  · next rest =>
    constructor
    · intro h
      split at h
      · next hlast =>
        obtain ⟨_, rfl⟩ := List.getLast?_eq_some_iff.1 hlast
        cases h
        simp
      · cases h
    · intro h
      obtain rfl := List.cons.inj h |>.2
      simp
  · next hne =>
    constructor
    · intro h
      cases h
    · intro h
      exact absurd h (hne _)

/-- A text that is read as a tag is the written form of that tag. -/
theorem eq_written_of_read? {line : String} {tag : Tag} (h : read? line = some tag) :
    isName tag.name.toList = true ∧ ∃ text, line.toList = written tag.name text ∧
      tag.arguments = text.map fun text => String.ofList (Text.trimChars text) := by
  unfold read? at h
  simp only [Option.bind_eq_bind, Option.bind_eq_some_iff, inside?_eq_some] at h
  obtain ⟨inside, hline, h⟩ := h
  unfold nameAndArguments at h
  rcases hcut : Text.cutChars ':' inside with _ | ⟨name, text⟩
  · simp only [hcut] at h
    split at h
    · next hname =>
      cases h
      exact ⟨by simpa using hname, none, by simp [hline, written, front], rfl⟩
    · cases h
  · simp only [hcut] at h
    obtain ⟨rfl, -⟩ := Text.cutChars_eq_some hcut
    split at h
    · next hname =>
      cases h
      exact ⟨by simpa using hname, some text, by simp [hline, written, front], rfl⟩
    · cases h

/-- The written form of a tag is read as that tag. -/
theorem read?_written {name : String} (h : isName name.toList = true) (text : Option (List Char)) :
    read? (String.ofList (written name text)) =
      some ⟨name, text.map fun text => String.ofList (Text.trimChars text)⟩ := by
  have hcut : Text.cutChars ':' name.toList = none :=
    Text.cutChars_eq_none (not_mem_of_isName h (by decide))
  cases text with
  | none =>
    have hinside : inside? (written name none) = some name.toList := by
      simp [inside?_eq_some, written, front]
    simp [read?, hinside, nameAndArguments, hcut, h]
  | some text =>
    have hinside : inside? (written name (some text)) = some (name.toList ++ ':' :: text) := by
      simp [inside?_eq_some, written, front]
    simp [read?, hinside, nameAndArguments, Text.cutChars_append, hcut, Text.cutChars, h]

/-- Nothing is put into the name of a tag, and its brackets stay. -/
theorem fillPieces_written {ε : Type} {value : String → Except ε (Option String)} {sigil : Char}
    (hsigil : sigil ≠ '>') {name : String} (h : isName name.toList = true)
    {text : Option (List Char)}
    {filled : List Char} {some? : Bool}
    (hfill : Placeholder.fillPieces value (Placeholder.pieces sigil (written name text)) =
      .ok (filled, some?)) :
    ∃ text', text'.isSome = text.isSome ∧ filled = written name text' := by
  have hname : '(' ∉ name.toList := not_mem_of_isName h (by decide)
  have hfront : '(' ∉ front name text := by
    cases text <;> simp [front, hname]
  rw [written, Placeholder.fillPieces_between value hsigil hfront] at hfill
  obtain ⟨⟨new, _⟩, hnew, hpair⟩ := map_eq_ok.1 hfill
  cases hpair
  cases text with
  | none =>
    cases hnew
    exact ⟨none, rfl, rfl⟩
  | some text => exact ⟨some new, rfl, rfl⟩

end Tag

/-! ## Lines -/

namespace Tag

/-- A line is the written form of a tag of a name, with arguments or without. -/
structure Wrote (name : String) (withArguments : Bool) (line : String) : Prop where
  /-- The name is the name of a tag. -/
  isName : isName name.toList = true
  /-- The line is its written form. -/
  text : ∃ text, text.isSome = withArguments ∧ line.toList = written name text

/-- A line that is read as a tag is one. -/
theorem wrote_of_read? {line : String} {tag : Tag} (h : read? line = some tag) :
    Wrote tag.name tag.arguments.isSome line := by
  obtain ⟨hname, text, hline, harguments⟩ := eq_written_of_read? h
  exact ⟨hname, text, by simp [harguments], hline⟩

namespace Wrote

variable {name : String} {withArguments : Bool} {line : String}

/-- A line that is a tag is read as one. -/
theorem read? (h : Wrote name withArguments line) :
    ∃ arguments, arguments.isSome = withArguments ∧ Tag.read? line = some ⟨name, arguments⟩ := by
  obtain ⟨hname, text, rfl, hline⟩ := h
  refine ⟨text.map fun text => String.ofList (Text.trimChars text), by simp, ?_⟩
  rw [← read?_written hname, ← hline, String.ofList_toList]

/-- A line that is a tag, and not one that stands for an empty line, is a tag for the reader. -/
theorem read_line (h : Wrote name withArguments line) (hname : name ≠ "line") :
    ∃ arguments, arguments.isSome = withArguments ∧ Line.read line = .tag ⟨name, arguments⟩ := by
  obtain ⟨arguments, hsome, hread⟩ := h.read?
  refine ⟨arguments, hsome, ?_⟩
  obtain ⟨-, text, -, hline⟩ := h
  have hhead : line.toList.head? = some '<' := by
    rw [hline]
    cases text <;> rfl
  have hempty : line.isEmpty = false := by
    rw [← Bool.not_eq_true, String.isEmpty_iff]
    rintro rfl
    cases hhead
  have hline : line ≠ Line.emptySpoken := by
    rintro rfl
    have hspoken : Tag.read? Line.emptySpoken = some ⟨"line", none⟩ := by decide
    rw [hspoken] at hread
    cases hread
    exact hname rfl
  simp [Line.read, hempty, hhead, hline, hread]

/-- What is put in for the placeholders of a sigil leaves the tag. -/
theorem fillPieces (h : Wrote name withArguments line) {ε : Type}
    {value : String → Except ε (Option String)} {sigil : Char} (hsigil : sigil ≠ '>')
    {filled : String} {some? : Bool}
    (hfill : Placeholder.fill sigil value line = .ok (filled, some?)) :
    Wrote name withArguments filled := by
  obtain ⟨hname, text, rfl, hline⟩ := h
  unfold Placeholder.fill at hfill
  rw [hline] at hfill
  rcases hpieces : Placeholder.fillPieces value (Placeholder.pieces sigil (written name text)) with
    _ | ⟨chars, _⟩
  · rw [hpieces] at hfill
    cases hfill
  · rw [hpieces] at hfill
    cases hfill
    obtain ⟨text', hsome, rfl⟩ := fillPieces_written hsigil hname hpieces
    exact ⟨hname, text', hsome, String.toList_ofList⟩

/-- The variables that are put into a line leave the tag. -/
theorem fill_variables (h : Wrote name withArguments line) (store : Variables) (passes : Nat) :
    Wrote name withArguments (store.fill passes line) := by
  induction passes generalizing line with
  | zero => exact h
  | succ passes ih =>
    have once : Wrote name withArguments (store.fillOnce line).1 := by
      unfold Variables.fillOnce
      split
      next hfill => exact h.fillPieces (by decide) hfill
    rw [Variables.fill]
    dsimp only
    split
    · exact ih once
    · exact once

/-- The parameters that are put into a line leave the tag. -/
theorem fill_parameters (h : Wrote name withArguments line) {parameters : Option Parameters}
    {script filled : String} (hfill : Parameters.fill parameters script line = .ok filled) :
    Wrote name withArguments filled := by
  unfold Parameters.fill at hfill
  rcases hpieces : Placeholder.fill (m := Except StoryError) Placeholder.parameterSigil _ line
    with _ | ⟨chars, _⟩
  · rw [hpieces] at hfill
    cases hfill
  · rw [hpieces] at hfill
    cases hfill
    exact h.fillPieces (by decide) hpieces

/-- Whatever a reader puts into a line, a tag stays a tag of its name. -/
theorem fill (h : Wrote name withArguments line) {role : Role} {session : Session} {filled : String}
    (hfill : role.fill session line = .ok filled) : Wrote name withArguments filled := by
  have written := h.fill_variables session.store session.settings.variablePasses
  cases role with
  | main scene =>
    cases hfill
    exact written
  | background script parameters => exact written.fill_parameters hfill

end Wrote

end Tag

/-! ## Tags of blocks -/

namespace Line

/-- A tag of a block is written as one, and is not the line that stands for an empty one. -/
theorem exists_of_isBlockTag {line : String} (h : isBlockTag line = true) :
    ∃ tag, Tag.read? line = some tag ∧ Tag.Wrote tag.name tag.arguments.isSome line ∧
      tag.name ≠ "line" := by
  unfold isBlockTag at h
  split at h
  · next tag hread =>
    refine ⟨tag, hread, Tag.wrote_of_read? hread, ?_⟩
    intro same
    rw [Tag.isBlock, same] at h
    exact absurd h (by decide)
  · cases h

/-- Whatever is put into a tag of a block, it stays a tag of its name, with arguments or without as
before: after any passes of variables, and after the parameters, where all of them are given. -/
theorem block_tag_survives_filling {line : String} (h : isBlockTag line = true) :
    ∃ tag, Tag.read? line = some tag ∧ ∀ (store : Variables) (passes : Nat),
      (∃ arguments, read (store.fill passes line) = .tag ⟨tag.name, arguments⟩ ∧
        arguments.isSome = tag.arguments.isSome) ∧
      ∀ (parameters : Option Parameters) (script filled : String),
        Parameters.fill parameters script (store.fill passes line) = .ok filled →
          ∃ arguments, read filled = .tag ⟨tag.name, arguments⟩ ∧
            arguments.isSome = tag.arguments.isSome := by
  obtain ⟨tag, hread, wrote, hname⟩ := exists_of_isBlockTag h
  refine ⟨tag, hread, fun store passes => ?_⟩
  have varied := wrote.fill_variables store passes
  constructor
  · obtain ⟨arguments, hsome, hline⟩ := varied.read_line hname
    exact ⟨arguments, hline, hsome⟩
  · intro parameters script filled hfill
    obtain ⟨arguments, hsome, hline⟩ := (varied.fill_parameters hfill).read_line hname
    exact ⟨arguments, hline, hsome⟩

/-- Variables whose values look like the end of a tag, a comment, and half of a placeholder. -/
def unrulyStore : Variables where
  values := .ofEntries [("end", "a>:\n#<case_end>,($half"), ("half", "(@to")]

/-- A tag stays one although its arguments come to hold brackets, colons, commas and line ends. -/
theorem unruly_case_survives_filling :
    Parameters.fill (some ⟨.ofEntries [("tone", "low>, <case_end>:($x)")]⟩) "bell"
        (unrulyStore.fill 4 "<case:($end)),is,(@tone)>") =
      .ok "<case:a>:\n#<case_end>,(@to,is,low>, <case_end>:($x)>" ∧
    ∃ arguments, read "<case:a>:\n#<case_end>,(@to,is,low>, <case_end>:($x)>" =
      .tag ⟨"case", arguments⟩ ∧ arguments.isSome = true := by
  have fills : Parameters.fill (some ⟨.ofEntries [("tone", "low>, <case_end>:($x)")]⟩) "bell"
      (unrulyStore.fill 4 "<case:($end)),is,(@tone)>") =
        .ok "<case:a>:\n#<case_end>,(@to,is,low>, <case_end>:($x)>" := by
    decide +kernel
  refine ⟨fills, ?_⟩
  have block : isBlockTag "<case:($end)),is,(@tone)>" = true := by decide +kernel
  obtain ⟨tag, hread, survives⟩ := block_tag_survives_filling block
  have found : Tag.read? "<case:($end)),is,(@tone)>" =
      some ⟨"case", some "($end)),is,(@tone)"⟩ := by
    decide +kernel
  rw [found] at hread
  cases hread
  exact (survives unrulyStore 4).2 _ _ _ fills

end Line

end VisualNovel
