import Mathlib.Data.List.DropRight
import VisualNovel.Text.Alphanumeric
import VisualNovel.Text.Blank

/-!
# The ends of a text

What a text loses at its ends, told without a word about how it is taken away: characters of one
kind at the beginning and of another kind at the end, as many as there are (`Text.Strips`). Trimming
a text and cutting off its line ends both come from this rule (`Text.trims_iff`, `Text.chomps_iff`).
A text that loses nothing when it is trimmed is tight (`Text.Tight`).

No blank is a letter or a number (`Text.isAlphanumeric_of_isBlank`), so names are tight.
-/

namespace VisualNovel.Text

/-! ## Taking characters away -/

/-- What is left of a text without characters of one kind at its beginning and of another kind at
its end, as many as there are. -/
structure Strips (front back : Char → Bool) (cs kept : List Char) : Prop where
  /-- Only such characters are taken away. -/
  around : ∃ before after, cs = before ++ kept ++ after ∧ (∀ c ∈ before, front c = true) ∧
    ∀ c ∈ after, back c = true
  /-- None is left at the beginning. -/
  first : ∀ c ∈ kept.head?, front c = false
  /-- None is left at the end. -/
  last : ∀ c ∈ kept.getLast?, back c = false

section

variable {p front back : Char → Bool} {cs kept : List Char}

/-- Nothing is taken away where the first character is of another kind. -/
theorem dropStart_of_head? (h : ∀ c ∈ cs.head?, p c = false) : dropStart p cs = cs := by
  cases cs with
  | nil => rfl
  | cons c cs => simp [dropStart, h c rfl]

/-- What is left does not begin with a character of the kind. -/
theorem head?_dropStart : ∀ c ∈ (dropStart p cs).head?, p c = false := by
  intro c mem
  have head := List.head?_dropWhile_not p cs
  rw [Option.mem_def] at mem
  rw [dropStart] at mem
  rwa [mem] at head

/-- The end of a text is the beginning of the text backwards. -/
theorem dropEnd_eq_reverse : dropEnd p cs = (dropStart p cs.reverse).reverse := rfl

/-- What is left does not end with a character of the kind. -/
theorem getLast?_dropEnd : ∀ c ∈ (dropEnd p cs).getLast?, p c = false := by
  rw [dropEnd_eq_reverse, List.getLast?_reverse]
  exact head?_dropStart

/-- Nothing is taken away where the last character is of another kind. -/
theorem dropEnd_of_getLast? (h : ∀ c ∈ cs.getLast?, p c = false) : dropEnd p cs = cs := by
  rw [dropEnd_eq_reverse, dropStart_of_head? (by rwa [List.head?_reverse]), List.reverse_reverse]

/-- What may be taken away in front of a text is. -/
theorem dropStart_append {before : List Char} (h : ∀ c ∈ before, p c = true) (cs : List Char) :
    dropStart p (before ++ cs) = dropStart p cs :=
  List.dropWhile_append_of_pos h

/-- What may be taken away behind a text is. -/
theorem dropEnd_append {after : List Char} (h : ∀ c ∈ after, p c = true) (cs : List Char) :
    dropEnd p (cs ++ after) = dropEnd p cs := by
  rw [dropEnd_eq_reverse, List.reverse_append, dropStart_append (by simpa using h),
    dropEnd_eq_reverse]

/-- What is left before trailing characters is a beginning of the text. -/
theorem isPrefix_dropEnd (p : Char → Bool) (cs : List Char) : dropEnd p cs <+: cs := by
  have front := List.reverse_prefix.2 (List.dropWhile_suffix p (l := cs.reverse))
  rwa [List.reverse_reverse] at front

/-- Taking characters away at both ends leaves what the rule leaves. -/
theorem strips_iff : Strips front back cs kept ↔ dropEnd back (dropStart front cs) = kept := by
  constructor
  · rintro ⟨⟨before, after, rfl, hbefore, hafter⟩, first, last⟩
    -- Where nothing is kept, the characters behind may be among those that are dropped first.
    rw [List.append_assoc, dropStart_append hbefore]
    cases kept with
    | nil =>
      have part : ∀ c ∈ dropStart front after, back c = true :=
        fun c mem => hafter c ((List.dropWhile_suffix front).subset mem)
      rw [List.nil_append, ← List.nil_append (dropStart front after), dropEnd_append part]
      rfl
    | cons c kept =>
      rw [dropStart_of_head? (by simpa using first), dropEnd_append hafter,
        dropEnd_of_getLast? last]
  · rintro rfl
    refine ⟨⟨cs.takeWhile front, (dropStart front cs).rtakeWhile back, ?_, ?_, ?_⟩, ?_,
      getLast?_dropEnd⟩
    · have whole : dropEnd back (dropStart front cs) = (dropStart front cs).rdropWhile back := rfl
      rw [List.append_assoc, whole, List.rdropWhile_append_rtakeWhile]
      exact List.takeWhile_append_dropWhile.symm
    · exact fun c mem => List.mem_takeWhile_imp mem
    · exact fun c mem => List.mem_rtakeWhile_imp mem
    · intro c mem
      obtain ⟨rest, hrest⟩ := List.head?_eq_some_iff.1 mem
      obtain ⟨more, hmore⟩ := isPrefix_dropEnd back (dropStart front cs)
      have whole : c ∈ (dropStart front cs).head? := by
        rw [← hmore, hrest]
        rfl
      exact head?_dropStart c whole

end

/-! ## Blanks and line ends -/

/-- The characters that end a line. -/
def isLineEnd (c : Char) : Bool :=
  c = '\r' || c = '\n'

/-- A text without the blanks around it. -/
def Trims (s inner : String) : Prop :=
  Strips isBlank isBlank s.toList inner.toList

/-- A text without the line ends behind it. -/
def Chomps (s kept : String) : Prop :=
  Strips (fun _ => false) isLineEnd s.toList kept.toList

/-- Trimming leaves a text without the blanks around it. -/
theorem trims_iff {s inner : String} : Trims s inner ↔ trim s = inner := by
  rw [Trims, strips_iff, trim, ← String.toList_inj, String.toList_ofList]
  rfl

/-- Cutting line ends off leaves a text without the line ends behind it. -/
theorem chomps_iff {s kept : String} :
    Chomps s kept ↔ String.ofList (dropEnd isLineEnd s.toList) = kept := by
  have whole : dropStart (fun _ => false) s.toList = s.toList := dropStart_of_head? (by simp)
  rw [Chomps, strips_iff, whole, ← String.toList_inj, String.toList_ofList]

/-- Line ends are blanks, so that it makes no difference to trimming whether they are taken away. -/
theorem Chomps.trims {s kept inner : String} (chomped : Chomps s kept)
    (trimmed : Trims kept inner) : Trims s inner := by
  obtain ⟨none, ends, hs, hnone, hends⟩ := chomped.around
  obtain rfl : none = [] := List.eq_nil_iff_forall_not_mem.2 fun c mem => by cases hnone c mem
  obtain ⟨before, after, hkept, hbefore, hafter⟩ := trimmed.around
  refine ⟨⟨before, after ++ ends, ?_, hbefore, ?_⟩, trimmed.first, trimmed.last⟩
  · rw [hs, hkept, List.nil_append, List.append_assoc]
  · refine List.forall_mem_append.2 ⟨hafter, fun c mem => ?_⟩
    have ending := hends c mem
    rw [isLineEnd, Bool.or_eq_true, decide_eq_true_eq, decide_eq_true_eq] at ending
    rcases ending with rfl | rfl <;> decide

/-- Trimming strips a text of the blanks around it. -/
theorem strips_trimChars (cs : List Char) : Strips isBlank isBlank cs (trimChars cs) :=
  strips_iff.2 rfl

/-- Blanks behind a text do not matter to trimming. -/
theorem trimChars_append {after : List Char} (blank : ∀ c ∈ after, isBlank c = true)
    (cs : List Char) : trimChars (cs ++ after) = trimChars cs := by
  obtain ⟨⟨before, behind, whole, hbefore, hbehind⟩, first, last⟩ := strips_trimChars cs
  refine strips_iff.1 ⟨⟨before, behind ++ after, ?_, hbefore, ?_⟩, first, last⟩
  · rw [← List.append_assoc, ← whole]
  · exact List.forall_mem_append.2 ⟨hbehind, blank⟩

/-- Trimming leaves a part of a text. -/
theorem trimChars_infix (cs : List Char) : trimChars cs <:+: cs :=
  (isPrefix_dropEnd _ _).isInfix.trans (List.dropWhile_suffix _).isInfix

/-- Trimming takes away blanks only. -/
theorem mem_trimChars {cs : List Char} {c : Char} (mem : c ∈ cs) (blank : isBlank c = false) :
    c ∈ trimChars cs := by
  obtain ⟨before, behind, whole, hbefore, hbehind⟩ := (strips_trimChars cs).around
  rw [whole, List.mem_append, List.mem_append] at mem
  rcases mem with (front | kept) | back
  · cases (hbefore c front).symm.trans blank
  · exact kept
  · cases (hbehind c back).symm.trans blank

/-! ## Tight texts -/

/-- A text that neither begins nor ends with a blank. -/
def Tight (cs : List Char) : Prop :=
  (∀ c ∈ cs.head?, isBlank c = false) ∧ ∀ c ∈ cs.getLast?, isBlank c = false

/-- A tight text is its own inner part. -/
theorem Trims.of_tight {s : String} (tight : Tight s.toList) : Trims s s :=
  ⟨⟨[], [], by simp, by simp, by simp⟩, tight.1, tight.2⟩

/-- Blanks around a tight text are taken away. -/
theorem trimChars_around {before inner after : List Char}
    (hbefore : ∀ c ∈ before, isBlank c = true) (tight : Tight inner)
    (hafter : ∀ c ∈ after, isBlank c = true) : trimChars (before ++ inner ++ after) = inner :=
  strips_iff.1 ⟨⟨before, after, rfl, hbefore, hafter⟩, tight.1, tight.2⟩

/-- A tight text is left as it is, and no other one. -/
theorem trimChars_eq_self_iff {cs : List Char} : trimChars cs = cs ↔ Tight cs := by
  constructor
  · intro same
    have strips : Strips isBlank isBlank cs cs := strips_iff.2 same
    exact ⟨strips.first, strips.last⟩
  · intro tight
    have bare : trimChars ([] ++ cs ++ []) = cs := trimChars_around (by simp) tight (by simp)
    rwa [List.nil_append, List.append_nil] at bare

instance (cs : List Char) : Decidable (Tight cs) :=
  decidable_of_iff _ trimChars_eq_self_iff

/-- A text without blanks has none around it. -/
theorem trimChars_eq_self {cs : List Char} (h : ∀ c ∈ cs, isBlank c = false) :
    trimChars cs = cs :=
  trimChars_eq_self_iff.2
    ⟨fun c mem => h c (List.mem_of_mem_head? mem), fun c mem => h c (List.mem_of_mem_getLast? mem)⟩

/-- A tight text is trimmed already. -/
theorem trim_of_tight {s : String} (tight : Tight s.toList) : trim s = s :=
  trims_iff.1 (.of_tight tight)

/-- A blank in front of a tight text is taken away. -/
theorem trim_blank_append {s : String} (tight : Tight s.toList) : trim (" " ++ s) = s := by
  refine trims_iff.1 ⟨⟨[' '], [], ?_, List.forall_mem_singleton.2 (by decide), by simp⟩, tight.1,
    tight.2⟩
  rw [String.toList_append, List.append_nil]
  rfl

/-- A text is tight if it begins with one that is, and ends with one. -/
theorem Tight.append_append {cs ds : List Char} (begins : Tight cs) (ends : Tight ds)
    (hcs : cs ≠ []) (hds : ds ≠ []) (middle : List Char) : Tight (cs ++ (middle ++ ds)) := by
  rw [Tight, List.head?_append_of_ne_nil cs hcs, ← List.append_assoc,
    List.getLast?_append_of_ne_nil _ hds]
  exact ⟨begins.1, ends.2⟩

/-! ## Which characters are blanks -/

/-- The blanks of ASCII. -/
def lowBlanks : List Nat :=
  [9, 10, 11, 12, 13, 32]

/-- The blanks above ASCII. -/
def highBlanks : List Nat :=
  [0x85, 0xA0, 0x1680, 0x2000, 0x2001, 0x2002, 0x2003, 0x2004, 0x2005, 0x2006, 0x2007, 0x2008,
    0x2009, 0x200A, 0x2028, 0x2029, 0x202F, 0x205F, 0x3000]

/-- All blanks of ASCII are listed. -/
theorem mem_lowBlanks {c : Char} (blank : isBlank c = true) (low : c.toNat < 0x80) :
    c.toNat ∈ lowBlanks := by
  simp only [isBlank, Bool.or_eq_true, Bool.and_eq_true, decide_eq_true_eq, beq_iff_eq] at blank
  simp only [lowBlanks, List.mem_cons, List.not_mem_nil, or_false]
  omega

/-- All blanks above ASCII are listed. -/
theorem mem_highBlanks {c : Char} (blank : isBlank c = true) (high : 0x80 ≤ c.toNat) :
    c.toNat ∈ highBlanks := by
  simp only [isBlank, Bool.or_eq_true, Bool.and_eq_true, decide_eq_true_eq, beq_iff_eq] at blank
  simp only [highBlanks, List.mem_cons, List.not_mem_nil, or_false]
  omega

/-- No blank of ASCII is a letter or a digit. -/
theorem isAlphanum_of_mem_lowBlanks : ∀ n ∈ lowBlanks, (Char.ofNat n).isAlphanum = false := by
  decide

/-- No blank above ASCII is in a range of letters and numbers. -/
theorem inRanges_of_mem_highBlanks :
    ∀ n ∈ highBlanks, inRanges n (alphanumericRanges n) = false := by
  decide +kernel

/-- No blank is a letter or a number. -/
theorem isAlphanumeric_of_isBlank {c : Char} (blank : isBlank c = true) :
    isAlphanumeric c = false := by
  by_cases low : c.toNat < 0x80
  · have other := isAlphanum_of_mem_lowBlanks c.toNat (mem_lowBlanks blank low)
    rw [Char.ofNat_toNat] at other
    rw [isAlphanumeric, if_pos low, other]
  · rw [isAlphanumeric, if_neg low,
      inRanges_of_mem_highBlanks c.toNat (mem_highBlanks blank (by omega))]

end VisualNovel.Text
