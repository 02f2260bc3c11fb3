import VisualNovel.Proofs.PlainLines

/-!
# The grammar of lines

What a line of a script is follows from rules that do not mention how it is read: which blanks
around it do not count (`Text.Strips`), how a tag is written (`Tag.Spelled`), and what is left for
all other lines (`Line.Spelled`). A line is tidied first and then looked at character by character;
the arguments of a tag may hold brackets and colons, and only some lines lose the blanks around
them.

Main statement (`Line.reading_follows_grammar`): a line is read as the grammar has it and in no
other way, the parts of a tag are found again in its text, and tidying a line twice is tidying it
once.
-/

namespace VisualNovel

/-! ## Tags -/

namespace Tag

/-- The characters of a name behind the first one: underscores, and letters and digits of ASCII. -/
def InName (c : Char) : Prop :=
  c = '_' ∨ ('a' ≤ c ∧ c ≤ 'z') ∨ ('A' ≤ c ∧ c ≤ 'Z') ∨ ('0' ≤ c ∧ c ≤ '9')

/-- The names of tags, which begin with a small letter. -/
def Nameable (name : String) : Prop :=
  ∃ first others, name.toList = first :: others ∧ ('a' ≤ first ∧ first ≤ 'z') ∧
    ∀ c ∈ others, InName c

/-- A text in angle brackets that is a tag. A bare `line` is none: it stands for a line without
words. -/
inductive Spelled : String → Tag → Prop where
  /-- A name alone. -/
  | bare {name : String} (named : Nameable name) (other : name ≠ "line") :
    Spelled ("<" ++ name ++ ">") ⟨name, none⟩
  /-- A name with a colon and arguments, around which blanks do not count. -/
  | full {name rest arguments : String} (named : Nameable name)
    (trimmed : Text.Trims rest arguments) :
    Spelled ("<" ++ name ++ ":" ++ rest ++ ">") ⟨name, some arguments⟩

/-- The small letters are those from a to z. -/
theorem isLower_iff {c : Char} : c.isLower = true ↔ 'a' ≤ c ∧ c ≤ 'z' := by
  rw [show c.isLower = (decide ('a' ≤ c) && decide (c ≤ 'z')) from rfl, Bool.and_eq_true,
    decide_eq_true_eq, decide_eq_true_eq]

/-- The characters that are accepted in a name are those of a name. -/
theorem isNameChar_iff {c : Char} : isNameChar c = true ↔ InName c := by
  have upper : c.isUpper = true ↔ 'A' ≤ c ∧ c ≤ 'Z' := by
    rw [show c.isUpper = decide ('A' ≤ c ∧ c ≤ 'Z') from rfl, decide_eq_true_eq]
  have digit : c.isDigit = true ↔ '0' ≤ c ∧ c ≤ '9' := by
    rw [show c.isDigit = (decide ('0' ≤ c) && decide (c ≤ '9')) from rfl, Bool.and_eq_true,
      decide_eq_true_eq, decide_eq_true_eq]
  rw [isNameChar, show c.isAlphanum = (c.isUpper || c.isLower || c.isDigit) from rfl,
    Bool.or_eq_true, Bool.or_eq_true, Bool.or_eq_true, decide_eq_true_eq, upper, isLower_iff,
    digit, InName]
  tauto

/-- The names that are accepted are those of tags. -/
theorem isName_iff {name : String} : isName name.toList = true ↔ Nameable name := by
  unfold Nameable
  cases name.toList with
  | nil => simp [isName]
  | cons first others =>
    simp only [isName, Bool.and_eq_true, isLower_iff, List.all_eq_true, isNameChar_iff,
      List.cons.injEq]
    constructor
    · rintro ⟨small, rest⟩
      exact ⟨first, others, ⟨rfl, rfl⟩, small, rest⟩
    · rintro ⟨_, _, ⟨rfl, rfl⟩, small, rest⟩
      exact ⟨small, rest⟩

/-- A tag without arguments is its name in angle brackets. -/
theorem toList_bare (name : String) : ("<" ++ name ++ ">").toList = written name none := by
  simp [written, front]

/-- A tag with arguments is its name, a colon and the arguments in angle brackets. -/
theorem toList_full (name rest : String) :
    ("<" ++ name ++ ":" ++ rest ++ ">").toList = written name (some rest.toList) := by
  simp [written, front]

/-- A tag that is spelled is read, and what is read is spelled, but for the line without words. -/
theorem spelled_iff {line : String} {tag : Tag} :
    Spelled line tag ↔ line ≠ Line.emptySpoken ∧ read? line = some tag := by
  constructor
  · rintro (⟨named, other⟩ | ⟨named, trimmed⟩)
    · rename_i name
      refine ⟨?_, ?_⟩
      · intro same
        -- The line without words is the tag of the one name that is left out.
        have chars := congrArg String.toList same
        rw [toList_bare, written, front, Line.emptySpoken] at chars
        have letters : name.toList ++ ['>'] = ['l', 'i', 'n', 'e'] ++ ['>'] := by simpa using chars
        exact other (String.toList_inj.1 (List.append_cancel_right letters))
      · have read := read?_written (isName_iff.2 named) none
        rwa [← toList_bare, String.ofList_toList] at read
    · rename_i name rest arguments
      refine ⟨?_, ?_⟩
      · intro same
        -- The line without words has no colon.
        have colon : ':' ∈ Line.emptySpoken.toList := by
          rw [← same]
          simp
        exact absurd colon (by decide)
      · have read := read?_written (isName_iff.2 named) (some rest.toList)
        rw [← toList_full, String.ofList_toList] at read
        rw [read, ← Text.trims_iff.1 trimmed]
        rfl
  · rintro ⟨other, read⟩
    obtain ⟨hname, text, hline, harguments⟩ := eq_written_of_read? read
    obtain ⟨name, arguments⟩ := tag
    have named : Nameable name := isName_iff.1 hname
    cases text with
    | none =>
      obtain rfl : line = "<" ++ name ++ ">" := by
        rw [← String.toList_inj, toList_bare, hline]
      subst harguments
      refine .bare named ?_
      rintro rfl
      exact other rfl
    | some rest =>
      obtain rfl : line = "<" ++ name ++ ":" ++ String.ofList rest ++ ">" := by
        rw [← String.toList_inj, toList_full, String.toList_ofList, hline]
      subst harguments
      refine .full named (Text.trims_iff.2 ?_)
      simp [Text.trim]

/-- The name and the arguments of a tag are found again in its text, whatever the arguments hold. -/
theorem full_injective {name rest name' rest' : String} (named : Nameable name)
    (named' : Nameable name')
    (same : "<" ++ name ++ ":" ++ rest ++ ">" = "<" ++ name' ++ ":" ++ rest' ++ ">") :
    name = name' ∧ rest = rest' := by
  have colon {name : String} (named : Nameable name) (rest : List Char) :
      Text.cutChars ':' (name.toList ++ ':' :: rest) = some (name.toList, rest) :=
    Text.cutChars_append_cons (not_mem_of_isName (isName_iff.2 named) (by decide)) rest
  have chars : name.toList ++ ':' :: rest.toList = name'.toList ++ ':' :: rest'.toList := by
    have texts := congrArg String.toList same
    rw [toList_full, toList_full, written, written] at texts
    simpa [front] using List.append_cancel_right texts
  have parts := colon named rest.toList
  rw [chars, colon named'] at parts
  simpa [String.toList_inj, eq_comm] using parts

end Tag

/-! ## Lines -/

namespace Line

/-- What a line is, as it is written. Where the line without the blanks around it stands in angle
brackets, it is a tag or is spoken without those blanks; otherwise it counts with its blanks, but
without the line ends behind it. -/
inductive Spelled (raw : String) : Line → Prop where
  /-- A tag. -/
  | tag {inner : String} {tag : Tag} (trimmed : Text.Trims raw inner)
    (spelled : Tag.Spelled inner tag) :
    Spelled raw (.tag tag)
  /-- The line without words. -/
  | wordless (trimmed : Text.Trims raw emptySpoken) : Spelled raw (.spoken "")
  /-- Words in angle brackets that are no tag. -/
  | bracketed {inner : String} (trimmed : Text.Trims raw inner)
    (inBrackets : isBracketed inner.toList = true)
    (words : inner ≠ emptySpoken) (other : ∀ tag, ¬ Tag.Spelled inner tag) :
    Spelled raw (.spoken inner)
  /-- A line without characters. -/
  | blank {inner : String} (trimmed : Text.Trims raw inner)
    (bare : isBracketed inner.toList = false) (chomped : Text.Chomps raw "") : Spelled raw .blank
  /-- A comment. -/
  | comment {inner kept : String} (trimmed : Text.Trims raw inner)
    (bare : isBracketed inner.toList = false) (chomped : Text.Chomps raw kept)
    (marked : kept.toList.head? = some '#') : Spelled raw .comment
  /-- Any other line. -/
  | spoken {inner kept : String} (trimmed : Text.Trims raw inner)
    (bare : isBracketed inner.toList = false) (chomped : Text.Chomps raw kept)
    (nonempty : kept ≠ "")
    (unmarked : kept.toList.head? ≠ some '#') : Spelled raw (.spoken kept)

/-- A text stands in angle brackets if it begins with one and ends with the other. -/
theorem isBracketed_iff {cs : List Char} :
    isBracketed cs = true ↔ cs.head? = some '<' ∧ cs.getLast? = some '>' := by
  simp [isBracketed]

/-- A text in angle brackets is tight. -/
theorem tight_of_isBracketed {cs : List Char} (h : isBracketed cs = true) : Text.Tight cs := by
  obtain ⟨first, last⟩ := isBracketed_iff.1 h
  rw [Text.Tight, first, last]
  refine ⟨?_, ?_⟩ <;> rintro _ ⟨⟩ <;> decide

/-- A tag stands in angle brackets. -/
theorem isBracketed_of_read? {line : String} {tag : Tag} (h : Tag.read? line = some tag) :
    isBracketed line.toList = true := by
  obtain ⟨-, text, hline, -⟩ := Tag.eq_written_of_read? h
  rw [hline, isBracketed_iff, Tag.written, List.getLast?_concat]
  cases text <;> simp [Tag.front]

/-- A line in angle brackets loses the blanks around it. -/
theorem tidy_of_isBracketed {raw inner : String} (trimmed : Text.Trims raw inner)
    (inBrackets : isBracketed inner.toList = true) : tidy raw = inner := by
  obtain rfl := Text.trims_iff.1 trimmed
  rw [Text.toList_trim] at inBrackets
  rw [tidy]
  exact if_pos inBrackets

/-- Any other line loses the line ends behind it only. -/
theorem tidy_of_not_isBracketed {raw inner kept : String} (trimmed : Text.Trims raw inner)
    (bare : isBracketed inner.toList = false) (chomped : Text.Chomps raw kept) :
    tidy raw = kept := by
  obtain rfl := Text.trims_iff.1 trimmed
  obtain rfl := Text.chomps_iff.1 chomped
  rw [Text.toList_trim] at bare
  rw [tidy]
  exact if_neg (by simp [bare])

/-- Taking line ends away does not lay bare angle brackets that trimming does not. -/
theorem not_isBracketed_of_chomps {raw inner kept : String} (trimmed : Text.Trims raw inner)
    (bare : isBracketed inner.toList = false) (chomped : Text.Chomps raw kept) :
    isBracketed kept.toList = false := by
  by_contra inBrackets
  rw [Bool.not_eq_false] at inBrackets
  have same : inner = kept := (Text.trims_iff.1 trimmed).symm.trans
    (Text.trims_iff.1 (chomped.trims (.of_tight (tight_of_isBracketed inBrackets))))
  rw [same, inBrackets] at bare
  cases bare

/-- A line in angle brackets is a tag or is spoken. -/
theorem read_of_isBracketed {line : String} (inBrackets : isBracketed line.toList = true) :
    read line =
      if line = emptySpoken then .spoken "" else ((Tag.read? line).map .tag).getD
        (.spoken line) := by
  obtain ⟨first, -⟩ := isBracketed_iff.1 inBrackets
  have nonempty : line.isEmpty = false := by
    rw [← Bool.not_eq_true, String.isEmpty_iff]
    rintro rfl
    cases first
  simp only [read, nonempty, first]
  cases Tag.read? line <;> simp

/-- Any other line is no tag. -/
theorem read_of_not_isBracketed {line : String} (bare : isBracketed line.toList = false) :
    read line =
      if line = "" then .blank
      else if line.toList.head? = some '#' then .comment
      else .spoken line := by
  have untagged : Tag.read? line = none := by
    rcases h : Tag.read? line with _ | tag
    · rfl
    · rw [isBracketed_of_read? h] at bare
      cases bare
  have worded : line ≠ emptySpoken := by
    rintro rfl
    exact absurd bare (by decide)
  simp [read, String.isEmpty_iff, worded, untagged]

/-- A line is read as the grammar has it. -/
theorem spelled_read_tidy (raw : String) : Spelled raw (read (tidy raw)) := by
  have trimmed : Text.Trims raw (Text.trim raw) := Text.trims_iff.2 rfl
  cases bracketed : isBracketed (Text.trim raw).toList with
  | true =>
    rw [tidy_of_isBracketed trimmed bracketed, read_of_isBracketed bracketed]
    split
    · next wordless =>
      rw [wordless] at trimmed
      exact .wordless trimmed
    · next worded =>
      cases hread : Tag.read? (Text.trim raw) with
      | some tag => exact .tag trimmed (Tag.spelled_iff.2 ⟨worded, hread⟩)
      | none =>
        refine .bracketed trimmed bracketed worded fun tag spelled => ?_
        rw [(Tag.spelled_iff.1 spelled).2] at hread
        cases hread
  | false =>
    have chomped : Text.Chomps raw (String.ofList (Text.dropEnd Text.isLineEnd raw.toList)) :=
      Text.chomps_iff.2 rfl
    rw [tidy_of_not_isBracketed trimmed bracketed chomped,
      read_of_not_isBracketed (not_isBracketed_of_chomps trimmed bracketed chomped)]
    split
    · next empty => exact .blank trimmed bracketed (empty ▸ chomped)
    · next nonempty =>
      split
      · next marked => exact .comment trimmed bracketed chomped marked
      · next unmarked => exact .spoken trimmed bracketed chomped nonempty unmarked

/-- What the grammar has for a line is how it is read. -/
theorem Spelled.read_tidy {raw : String} {line : Line} (spelled : Spelled raw line) :
    read (tidy raw) = line := by
  cases spelled with
  | tag trimmed spelled =>
    obtain ⟨worded, hread⟩ := Tag.spelled_iff.1 spelled
    have bracketed := isBracketed_of_read? hread
    rw [tidy_of_isBracketed trimmed bracketed, read_of_isBracketed bracketed, if_neg worded, hread]
    rfl
  | wordless trimmed =>
    rw [tidy_of_isBracketed trimmed (by decide)]
    decide
  | bracketed trimmed bracketed worded other =>
    have untagged : Tag.read? _ = none := Option.eq_none_iff_forall_ne_some.2 fun tag hread =>
      other tag (Tag.spelled_iff.2 ⟨worded, hread⟩)
    rw [tidy_of_isBracketed trimmed bracketed, read_of_isBracketed bracketed,
      if_neg worded, untagged]
    rfl
  | blank trimmed bare chomped =>
    rw [tidy_of_not_isBracketed trimmed bare chomped]
    decide
  | @comment inner kept trimmed bare chomped marked =>
    have nonempty : kept ≠ "" := by
      rintro rfl
      cases marked
    rw [tidy_of_not_isBracketed trimmed bare chomped,
      read_of_not_isBracketed (not_isBracketed_of_chomps trimmed bare chomped), if_neg nonempty,
      if_pos marked]
  | spoken trimmed bare chomped nonempty unmarked =>
    rw [tidy_of_not_isBracketed trimmed bare chomped,
      read_of_not_isBracketed (not_isBracketed_of_chomps trimmed bare chomped), if_neg nonempty,
      if_neg unmarked]

/-- A tidy line is left as it is. -/
theorem tidy_tidy (raw : String) : tidy (tidy raw) = tidy raw := by
  have trimmed : Text.Trims raw (Text.trim raw) := Text.trims_iff.2 rfl
  cases bracketed : isBracketed (Text.trim raw).toList with
  | true =>
    rw [tidy_of_isBracketed trimmed bracketed,
      tidy_of_isBracketed (.of_tight (tight_of_isBracketed bracketed)) bracketed]
  | false =>
    obtain ⟨kept, chomped⟩ : ∃ kept, Text.Chomps raw kept := ⟨_, Text.chomps_iff.2 rfl⟩
    have again : Text.Chomps kept kept :=
      ⟨⟨[], [], by simp, by simp, by simp⟩, chomped.first, chomped.last⟩
    have inside : Text.Trims kept (Text.trim kept) := Text.trims_iff.2 rfl
    rw [← Text.trims_iff.1 (chomped.trims inside)] at inside
    rw [tidy_of_not_isBracketed trimmed bracketed chomped,
      tidy_of_not_isBracketed inside bracketed again]

/-- A line is read as the grammar has it, and in no other way. The name of a tag ends at the first
colon, and its arguments before the last bracket, so that both are found again whatever the
arguments hold. What is tidy stays as it is. -/
theorem reading_follows_grammar (raw : String) :
    (∀ line, read (tidy raw) = line ↔ Spelled raw line) ∧
    (∀ name rest name' rest', Tag.Nameable name → Tag.Nameable name' →
      Text.Trims raw ("<" ++ name ++ ":" ++ rest ++ ">") →
      Text.Trims raw ("<" ++ name' ++ ":" ++ rest' ++ ">") → name = name' ∧ rest = rest') ∧
    tidy (tidy raw) = tidy raw := by
  refine ⟨fun line => ⟨?_, Spelled.read_tidy⟩, ?_, tidy_tidy raw⟩
  · rintro rfl
    exact spelled_read_tidy raw
  · intro name rest name' rest' named named' one other
    exact Tag.full_injective named named'
      ((Text.trims_iff.1 one).symm.trans (Text.trims_iff.1 other))

/-- A tag between blanks, whose arguments hold what could be mistaken for its end and for its
colon. -/
def untidyTag : String := " \t<say_2: a>: <b> >\r\n"

/-- It is a tag by the grammar, and there is one way only to take it apart. -/
theorem untidyTag_follows_grammar :
    read (tidy untidyTag) = .tag ⟨"say_2", some "a>: <b>"⟩ ∧
    Spelled untidyTag (.tag ⟨"say_2", some "a>: <b>"⟩) ∧
    tidy (tidy untidyTag) = "<say_2: a>: <b> >" ∧
    ∀ name rest, Tag.Nameable name → Text.Trims untidyTag ("<" ++ name ++ ":" ++ rest ++ ">") →
      name = "say_2" ∧ rest = " a>: <b> " := by
  obtain ⟨lines, parts, again⟩ := reading_follows_grammar untidyTag
  have reads : read (tidy untidyTag) = .tag ⟨"say_2", some "a>: <b>"⟩ := by decide +kernel
  have named : Tag.Nameable "say_2" := Tag.isName_iff.1 (by decide +kernel)
  have trimmed : Text.Trims untidyTag ("<" ++ "say_2" ++ ":" ++ " a>: <b> " ++ ">") :=
    Text.trims_iff.2 (by decide +kernel)
  refine ⟨reads, (lines _).1 reads, again.trans (by decide +kernel),
    fun name rest named' other => ?_⟩
  exact parts name rest _ _ named' named other trimmed

end Line

end VisualNovel
