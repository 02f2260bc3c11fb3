import Mathlib.Data.List.Infix
import VisualNovel.Proofs.Text.Trimming
import VisualNovel.Text.Split

/-!
# The pieces of a text

A text is cut at its first separator, at all of them, or at as many as are wanted. What the pieces
are follows from one thing: joined again, with a separator between any two, they make up the text,
and there is no separator in any but the last (`Text.segments_iff`, `Text.splitAtMost_intercalate`).
So texts that are written with commas and blanks between them are found again
(`Text.map_trim_split`). A script is cut at its line feeds in the same way, but for what is behind
the last one (`Text.linesOfPieces_append`).

Other cuts are at the first occurrence of a word, and at an offset in bytes.
-/

namespace VisualNovel.Text

/-! ## The first separator -/

/-- The first separator of a text stays the first one, whatever is put behind. -/
theorem cutChars_append (sep : Char) (cs more : List Char) :
    cutChars sep (cs ++ more) =
      match cutChars sep cs with
      | some (before, after) => some (before, after ++ more)
      | none => (cutChars sep more).map fun (before, after) => (cs ++ before, after) := by
  induction cs with
  | nil => cases h : cutChars sep more <;> simp [cutChars, h]
  | cons c cs ih =>
    simp only [List.cons_append, cutChars]
    by_cases hc : c = sep
    · simp [hc]
    · rw [if_neg hc, if_neg hc, ih]
      rcases cutChars sep cs with _ | ⟨before, after⟩
      · cases cutChars sep more <;> rfl
      · rfl

/-- A text without the separator is not cut. -/
theorem cutChars_eq_none {sep : Char} {cs : List Char} (h : sep ∉ cs) :
    cutChars sep cs = none := by
  induction cs with
  | nil => rfl
  | cons c cs ih =>
    obtain ⟨hc, hcs⟩ := not_or.1 (mt List.mem_cons.2 h)
    rw [cutChars, if_neg (Ne.symm hc), ih hcs]
    rfl

/-- A text that is not cut is without the separator. -/
theorem not_mem_of_cutChars_eq_none {sep : Char} {cs : List Char} (h : cutChars sep cs = none) :
    sep ∉ cs := by
  induction cs with
  | nil => exact List.not_mem_nil
  | cons c cs ih =>
    rw [cutChars] at h
    split at h
    · cases h
    · next hc =>
      rw [List.mem_cons, not_or]
      exact ⟨Ne.symm hc, ih (by simpa using h)⟩

/-- What is before the first separator does not hold one, and the two parts make up the text. -/
theorem cutChars_eq_some {sep : Char} {cs before after : List Char}
    (h : cutChars sep cs = some (before, after)) : cs = before ++ sep :: after ∧ sep ∉ before := by
  induction cs generalizing before with
  | nil => cases h
  | cons c cs ih =>
    rw [cutChars] at h
    by_cases hc : c = sep
    · rw [if_pos hc] at h
      cases h
      exact ⟨by rw [hc]; rfl, by simp⟩
    · rw [if_neg hc, Option.map_eq_some_iff] at h
      obtain ⟨⟨front, back⟩, hcut, hpair⟩ := h
      cases hpair
      obtain ⟨rfl, hfront⟩ := ih hcut
      refine ⟨rfl, ?_⟩
      rw [List.mem_cons, not_or]
      exact ⟨Ne.symm hc, hfront⟩

/-- A text is cut at the first separator. -/
theorem cutChars_append_cons {sep : Char} {before : List Char} (absent : sep ∉ before)
    (after : List Char) :
    cutChars sep (before ++ sep :: after) = some (before, after) := by
  simp [cutChars_append, cutChars_eq_none absent, cutChars]

/-! ## All separators -/

/-- There is one piece at least, which may be empty. -/
theorem splitChars_ne_nil (sep : Char) (cs : List Char) : splitChars sep cs ≠ [] := by
  cases cs with
  | nil => simp [splitChars]
  | cons c cs =>
    rw [splitChars]
    split
    · simp
    · split <;> simp

/-- Two texts with a separator between them fall into the pieces of the first and of the second. -/
theorem splitChars_append (sep : Char) (cs ds : List Char) :
    splitChars sep (cs ++ sep :: ds) = splitChars sep cs ++ splitChars sep ds := by
  induction cs with
  | nil => simp [splitChars]
  | cons c cs ih =>
    rw [List.cons_append, splitChars, splitChars, ih]
    by_cases hc : c = sep
    · rw [if_pos hc, if_pos hc, List.cons_append]
    · rw [if_neg hc, if_neg hc]
      obtain ⟨piece, pieces, hsplit⟩ := List.exists_cons_of_ne_nil (splitChars_ne_nil sep cs)
      rw [hsplit]
      rfl

/-- The pieces are those of the library. -/
theorem splitChars_eq_splitOn (sep : Char) (cs : List Char) :
    splitChars sep cs = cs.splitOn sep := by
  induction cs with
  | nil => rfl
  | cons c cs ih =>
    rw [splitChars, ih, List.splitOn, List.splitOn, List.splitOnP_cons_eq_if_modifyHead]
    by_cases same : c = sep
    · rw [if_pos same, if_pos (beq_iff_eq.2 same)]
    · rw [if_neg same, if_neg (mt beq_iff_eq.1 same)]
      obtain ⟨piece, pieces, hsplit⟩ :=
        List.exists_cons_of_ne_nil (List.splitOnP_ne_nil (· == sep) cs)
      rw [hsplit]
      rfl

/-- No piece holds a separator. -/
theorem not_mem_of_mem_splitChars {sep : Char} {cs piece : List Char}
    (mem : piece ∈ splitChars sep cs) :
    sep ∉ piece := by
  induction cs generalizing piece with
  | nil =>
    rw [List.mem_singleton.1 mem]
    exact List.not_mem_nil
  | cons c cs ih =>
    rw [splitChars] at mem
    split at mem
    · rcases List.mem_cons.1 mem with rfl | mem
      · exact List.not_mem_nil
      · exact ih mem
    · next differ =>
      obtain ⟨first, others, hsplit⟩ := List.exists_cons_of_ne_nil (splitChars_ne_nil sep cs)
      rw [hsplit] at mem ih
      rcases List.mem_cons.1 mem with rfl | mem
      · rw [List.mem_cons, not_or]
        exact ⟨Ne.symm differ, ih List.mem_cons_self⟩
      · exact ih (List.mem_cons_of_mem _ mem)

/-- A text has one piece more than it has separators. -/
theorem length_splitChars (sep : Char) (cs : List Char) :
    (splitChars sep cs).length = cs.count sep + 1 := by
  induction cs with
  | nil => rfl
  | cons c cs ih =>
    rw [splitChars]
    split
    · next hc => rw [hc, List.length_cons, ih, List.count_cons_self]
    · next hc =>
      rw [List.count_cons_of_ne hc, ← ih]
      obtain ⟨piece, pieces, hsplit⟩ := List.exists_cons_of_ne_nil (splitChars_ne_nil sep cs)
      rw [hsplit]
      rfl

/-- With a limit, it has no more pieces than the limit. -/
theorem length_splitAtMostChars (sep : Char) (n : Nat) (cs : List Char) :
    (splitAtMostChars sep (n + 1) cs).length = min (n + 1) (cs.count sep + 1) := by
  induction n generalizing cs with
  | zero =>
    rw [splitAtMostChars, List.length_singleton]
    omega
  | succ n ih =>
    rw [splitAtMostChars]
    rcases hcut : cutChars sep cs with _ | ⟨before, after⟩
    · rw [List.count_eq_zero.2 (not_mem_of_cutChars_eq_none hcut)]
      exact (Nat.min_eq_right (Nat.succ_le_succ (Nat.zero_le _))).symm
    · obtain ⟨rfl, absent⟩ := cutChars_eq_some hcut
      rw [List.length_cons, ih, List.count_append, List.count_cons_self,
        List.count_eq_zero.2 absent]
      omega

/-- A text that does not end with a separator has something behind the last one. -/
theorem getLast?_splitChars_concat_ne_nil {sep c : Char} (h : c ≠ sep) (cs : List Char) :
    (splitChars sep (cs ++ [c])).getLast? ≠ some [] := by
  induction cs with
  | nil => simp [splitChars, h]
  | cons d cs ih =>
    obtain ⟨piece, pieces, hsplit⟩ := List.exists_cons_of_ne_nil (splitChars_ne_nil sep (cs ++ [c]))
    rw [List.cons_append, splitChars]
    rw [hsplit] at ih ⊢
    by_cases hd : d = sep
    · simpa [hd] using ih
    · cases pieces with
      | nil => simp [hd]
      | cons next pieces => simpa [hd] using ih

/-- The last piece of a text is empty if the text is, or ends with a separator. -/
theorem getLast?_splitChars_eq_nil_iff {sep : Char} {cs : List Char} :
    (splitChars sep cs).getLast? = some [] ↔ cs = [] ∨ cs.getLast? = some sep := by
  rcases List.eq_nil_or_concat cs with rfl | ⟨front, last, rfl⟩
  · simp [splitChars]
  · by_cases hlast : last = sep
    · subst hlast
      simp [splitChars_append, splitChars]
    · simp [getLast?_splitChars_concat_ne_nil hlast, hlast]

/-! ## Lines -/

/-- Pieces with others behind them all end with a line feed. -/
theorem linesOfPieces_append (pieces : List (List Char)) {more : List (List Char)} (h : more ≠ []) :
    linesOfPieces (pieces ++ more) = pieces.map dropReturn ++ linesOfPieces more := by
  induction pieces with
  | nil => rfl
  | cons piece pieces ih =>
    obtain ⟨next, rest, hrest⟩ : ∃ next rest, pieces ++ more = next :: rest :=
      List.exists_cons_of_ne_nil (by simp [h])
    rw [List.cons_append, hrest, linesOfPieces, ← hrest, ih]
    rfl

/-- A carriage return is all that a line may lose. -/
theorem dropReturn_eq (cs : List Char) : dropReturn cs = cs ∨ cs = dropReturn cs ++ ['\r'] := by
  fun_induction dropReturn cs with
  | case1 => exact .inl rfl
  | case2 => exact .inr rfl
  | case3 => exact .inl rfl
  | case4 c d cs ih => exact ih.imp (congrArg (c :: ·)) (congrArg (c :: ·))

/-! ## Commas -/

/-- The texts between the commas of a text, in their order. -/
structure Segments (s : String) (pieces : List String) : Prop where
  /-- There is one at least, which may be empty. -/
  nonempty : pieces ≠ []
  /-- All commas are between them. -/
  apart : ∀ piece ∈ pieces, ',' ∉ piece.toList
  /-- With the commas, they make up the text. -/
  joined : ",".intercalate pieces = s

/-- Texts without commas are found again when they are joined with commas. -/
theorem split_intercalate {pieces : List String} (nonempty : pieces ≠ [])
    (apart : ∀ piece ∈ pieces, ',' ∉ piece.toList) :
    split ',' (",".intercalate pieces) = pieces := by
  have chars : ∀ piece ∈ pieces.map String.toList, ',' ∉ piece := by simpa using apart
  rw [split, splitChars_eq_splitOn, String.toList_intercalate, show ",".toList = [','] from rfl,
    List.splitOn_intercalate ',' chars (by simpa using nonempty), List.map_map]
  exact List.map_id'' (fun piece => String.ofList_toList) pieces

/-- The pieces of a text are the texts between its commas. -/
theorem segments_split (s : String) : Segments s (split ',' s) := by
  refine ⟨?_, ?_, ?_⟩
  · simpa [split] using splitChars_ne_nil ',' s.toList
  · intro piece mem
    obtain ⟨chars, hchars, rfl⟩ := List.mem_map.1 mem
    rw [String.toList_ofList]
    exact not_mem_of_mem_splitChars hchars
  · have same : (split ',' s).map String.toList = s.toList.splitOn ',' := by
      rw [split, splitChars_eq_splitOn, List.map_map]
      exact List.map_id'' (fun piece => String.toList_ofList) _
    rw [← String.toList_inj, String.toList_intercalate, same]
    exact List.intercalate_splitOn ','

/-- There is one way to cut a text at its commas. -/
theorem segments_iff {s : String} {pieces : List String} :
    Segments s pieces ↔ pieces = split ',' s := by
  constructor
  · rintro ⟨nonempty, apart, rfl⟩
    exact (split_intercalate nonempty apart).symm
  · rintro rfl
    exact segments_split s

/-- A text has one piece more than it has commas. -/
theorem length_split (s : String) : (split ',' s).length = s.toList.count ',' + 1 := by
  rw [split, List.length_map, length_splitChars]

/-- With a limit, it has as many pieces, but no more than the limit. -/
theorem length_splitAtMost (n : Nat) (s : String) :
    (splitAtMost ',' (n + 1) s).length = min (n + 1) (split ',' s).length := by
  rw [splitAtMost, List.length_map, length_splitAtMostChars, length_split]

/-- A text without commas in front is the first piece. -/
theorem splitAtMost_comma {first : String} (apart : ',' ∉ first.toList) (n : Nat) (rest : String) :
    splitAtMost ',' (n + 2) (first ++ "," ++ rest) = first :: splitAtMost ',' (n + 1) rest := by
  have cut : cutChars ',' (first ++ "," ++ rest).toList = some (first.toList, rest.toList) := by
    rw [String.toList_append, String.toList_append, List.append_assoc]
    exact cutChars_append_cons apart rest.toList
  rw [splitAtMost, splitAtMostChars, cut]
  simp [splitAtMost]

/-- Cutting stops at the last piece, which may hold commas. -/
theorem splitAtMost_intercalate {n : Nat} {pieces : List String} (hlength : pieces.length = n + 1)
    (apart : ∀ piece ∈ pieces.dropLast, ',' ∉ piece.toList) :
    splitAtMost ',' (n + 1) (",".intercalate pieces) = pieces := by
  induction n generalizing pieces with
  | zero =>
    obtain ⟨piece, rfl⟩ := List.length_eq_one_iff.1 hlength
    simp [splitAtMost, splitAtMostChars]
  | succ n ih =>
    obtain ⟨first, rest, rfl⟩ := List.exists_cons_of_length_eq_add_one hlength
    rw [List.length_cons, Nat.add_right_cancel_iff] at hlength
    have nonempty : rest ≠ [] := List.ne_nil_of_length_eq_add_one hlength
    rw [List.dropLast_cons_of_ne_nil nonempty, List.forall_mem_cons] at apart
    rw [String.intercalate_cons_of_ne_nil nonempty, splitAtMost_comma apart.1, ih hlength apart.2]

/-- Texts may be joined first to one and then with those before it. -/
theorem intercalate_append_intercalate (front : List String) {back : List String}
    (nonempty : back ≠ []) :
    ",".intercalate (front ++ [",".intercalate back]) = ",".intercalate (front ++ back) := by
  rcases eq_or_ne front [] with rfl | some
  · simp
  · rw [String.intercalate_append_of_ne_nil some nonempty,
      String.intercalate_append_of_ne_nil some (List.cons_ne_nil _ _), String.intercalate_singleton]

/-- The last piece takes what the others leave. -/
theorem splitAtMost_eq {s : String} {n : Nat} (enough : n < (split ',' s).length) :
    splitAtMost ',' (n + 1) s =
      (split ',' s).take n ++ [",".intercalate ((split ',' s).drop n)] := by
  obtain ⟨-, apart, joined⟩ := segments_split s
  generalize split ',' s = pieces at enough apart joined ⊢
  have left : pieces.drop n ≠ [] := by simpa using enough
  have whole : ",".intercalate (pieces.take n ++ [",".intercalate (pieces.drop n)]) = s := by
    rw [intercalate_append_intercalate _ left, List.take_append_drop, joined]
  nth_rewrite 1 [← whole]
  refine splitAtMost_intercalate ?_ ?_
  · rw [List.length_append, List.length_take, Nat.min_eq_left enough.le, List.length_singleton]
  · rw [List.dropLast_concat]
    exact fun piece mem => apart piece (List.mem_of_mem_take mem)

/-! ## Commas with blanks behind them -/

/-- The blank behind a comma may be taken for one in front of the next text. -/
theorem intercalate_comma_blank (first : String) (others : List String) :
    ", ".intercalate (first :: others) = ",".intercalate (first :: others.map (" " ++ ·)) := by
  induction others generalizing first with
  | nil => simp
  | cons second others ih =>
    rw [String.intercalate_cons_cons, ih, List.map_cons, String.intercalate_cons_cons,
      String.intercalate_cons_append, show ", " = "," ++ " " from rfl]
    simp only [String.append_assoc]

/-- It makes no comma. -/
theorem comma_not_mem_blank_append {s : String} (apart : ',' ∉ s.toList) :
    ',' ∉ (" " ++ s).toList := by
  rw [String.toList_append, List.mem_append, not_or]
  exact ⟨by decide, apart⟩

/-- It is taken away from tight texts. -/
theorem map_trim_spaced {first : String} {others : List String}
    (tight : ∀ text ∈ first :: others, Tight text.toList) :
    (first :: others.map (" " ++ ·)).map trim = first :: others := by
  rw [List.forall_mem_cons] at tight
  rw [List.map_cons, trim_of_tight tight.1, List.map_map]
  exact congrArg _ ((List.map_congr_left fun text mem => trim_blank_append (tight.2 text mem)).trans
    (List.map_id others))

/-- Tight texts that are joined are found again. -/
theorem map_trim_split {texts : List String} (nonempty : texts ≠ [])
    (tight : ∀ text ∈ texts, Tight text.toList) (apart : ∀ text ∈ texts, ',' ∉ text.toList) :
    (split ',' (", ".intercalate texts)).map trim = texts := by
  obtain ⟨first, others, rfl⟩ := List.exists_cons_of_ne_nil nonempty
  rw [List.forall_mem_cons] at apart
  have spaced : ∀ piece ∈ first :: others.map (" " ++ ·), ',' ∉ piece.toList := by
    rw [List.forall_mem_cons, List.forall_mem_map]
    exact ⟨apart.1, fun text mem => comma_not_mem_blank_append (apart.2 text mem)⟩
  rw [intercalate_comma_blank, split_intercalate (List.cons_ne_nil _ _) spaced,
    map_trim_spaced tight]

/-- So are they where the last one may hold commas, if it is known how many there are. -/
theorem map_trim_splitAtMost {n : Nat} {texts : List String} (hlength : texts.length = n + 1)
    (tight : ∀ text ∈ texts, Tight text.toList)
    (apart : ∀ text ∈ texts.dropLast, ',' ∉ text.toList) :
    (splitAtMost ',' (n + 1) (", ".intercalate texts)).map trim = texts := by
  obtain ⟨first, others, rfl⟩ := List.exists_cons_of_length_eq_add_one hlength
  have spaced : ∀ piece ∈ (first :: others.map (" " ++ ·)).dropLast, ',' ∉ piece.toList := by
    rcases eq_or_ne others [] with rfl | some
    · simp
    · rw [List.dropLast_cons_of_ne_nil some, List.forall_mem_cons] at apart
      rw [List.dropLast_cons_of_ne_nil (by simpa using some), ← List.map_dropLast,
        List.forall_mem_cons, List.forall_mem_map]
      exact ⟨apart.1, fun text mem => comma_not_mem_blank_append (apart.2 text mem)⟩
  rw [intercalate_comma_blank, splitAtMost_intercalate (by simpa using hlength) spaced,
    map_trim_spaced tight]

/-- Tight texts, none of which is empty, are tight when they are joined. -/
theorem tight_intercalate {texts : List String} (tight : ∀ text ∈ texts, Tight text.toList)
    (full : ∀ text ∈ texts, text ≠ "") :
    Tight (", ".intercalate texts).toList ∧ (texts ≠ [] → ", ".intercalate texts ≠ "") := by
  induction texts with
  | nil => exact ⟨by decide, fun some => absurd rfl some⟩
  | cons first others ih =>
    rw [List.forall_mem_cons] at tight full
    obtain ⟨tightOthers, fullOthers⟩ := ih tight.2 full.2
    have begins : first.toList ≠ [] := by simpa using full.1
    rcases eq_or_ne others [] with rfl | some
    · simpa using And.intro tight.1 full.1
    · rw [String.intercalate_cons_of_ne_nil some]
      refine ⟨?_, fun _ => ?_⟩
      · have ends : (", ".intercalate others).toList ≠ [] :=
          String.toList_eq_nil_iff.not.2 (fullOthers some)
        simpa using tight.1.append_append tightOthers begins ends [',', ' ']
      · simp [full.1]

/-! ## Offsets and words -/

/-- Whether a byte offset is the end of some front of the text. -/
def isPosition (offset : Nat) (cs : List Char) : Bool :=
  cs.inits.any fun front => byteLength front == offset

/-- Lengths in bytes add up. -/
@[simp] theorem byteLength_append (cs ds : List Char) :
    byteLength (cs ++ ds) = byteLength cs + byteLength ds := by
  induction cs with
  | nil => simp [byteLength]
  | cons c cs ih =>
    simp only [List.cons_append, byteLength, ih]
    omega

/-- Only the empty text has no bytes. -/
theorem byteLength_eq_zero {cs : List Char} : byteLength cs = 0 ↔ cs = [] := by
  cases cs with
  | nil => simp [byteLength]
  | cons c cs =>
    have := c.utf8Size_pos
    simp only [byteLength, reduceCtorEq, iff_false]
    omega

/-- A cut at a byte offset takes the front of that length, and the rest. -/
theorem cutAtByte_eq_some {offset : Nat} {cs front back : List Char} :
    cutAtByte offset cs = some (front, back) ↔ front ++ back = cs ∧ byteLength front = offset := by
  -- By induction on the cut, which goes on as long as a whole character fits before the offset.
  fun_induction cutAtByte offset cs generalizing front back with
  | case1 cs =>
    rw [byteLength_eq_zero]
    constructor
    · rintro ⟨⟩
      simp
    · rintro ⟨rfl, rfl⟩
      simp
  | case2 n =>
    simp only [reduceCtorEq, List.append_eq_nil_iff, false_iff, not_and]
    rintro ⟨rfl, -⟩
    simp [byteLength]
  | case3 n c cs fits ih =>
    cases front with
    | nil => simp [byteLength]
    | cons d front =>
      simp only [Option.map_eq_some_iff, Prod.exists, Prod.mk.injEq, List.cons.injEq, ih,
        List.cons_append, byteLength]
      constructor
      · rintro ⟨front, back, ⟨rfl, length⟩, ⟨rfl, rfl⟩, rfl⟩
        exact ⟨⟨rfl, rfl⟩, by omega⟩
      · rintro ⟨⟨rfl, rfl⟩, length⟩
        exact ⟨front, back, ⟨rfl, by omega⟩, ⟨rfl, rfl⟩, rfl⟩
  | case4 n c cs big =>
    cases front with
    | nil => simp [byteLength]
    | cons d front =>
      simp only [reduceCtorEq, List.cons_append, List.cons.injEq, byteLength, false_iff, not_and]
      rintro ⟨rfl, -⟩
      omega

/-- A text can be cut at its positions and nowhere else. -/
theorem isSome_cutAtByte (offset : Nat) (cs : List Char) :
    (cutAtByte offset cs).isSome = isPosition offset cs := by
  rw [Bool.eq_iff_iff]
  simp only [Option.isSome_iff_exists, Prod.exists, cutAtByte_eq_some, isPosition, List.any_eq_true,
    List.mem_inits, beq_iff_eq]
  constructor
  · rintro ⟨front, back, whole, length⟩
    exact ⟨front, ⟨back, whole⟩, length⟩
  · rintro ⟨front, ⟨back, whole⟩, length⟩
    exact ⟨front, back, whole, length⟩

/-- A front that is longer than the text before a character holds the character. -/
theorem mem_of_byteLength_lt {front back before after : List Char} {c : Char}
    (same : front ++ back = before ++ c :: after) (longer : byteLength before < byteLength front) :
    c ∈ front := by
  obtain ⟨rest, rfl, -⟩ | ⟨rest, rfl, tail⟩ := List.append_eq_append_iff.1 same
  · simp only [byteLength_append] at longer
    omega
  · cases rest with
    | nil => simp at longer
    | cons d rest =>
      obtain ⟨rfl, -⟩ := List.cons.inj tail
      simp

/-- A word that the text begins with is found at once. -/
theorem breakOn_of_isPrefixOf {needle cs : List Char} (start : needle.isPrefixOf cs = true) :
    breakOn needle cs = some ([], cs.drop needle.length) := by
  cases cs with
  | nil =>
    cases needle with
    | nil => rfl
    | cons c needle => cases start
  | cons c cs => rw [breakOn, if_pos start]

end VisualNovel.Text
