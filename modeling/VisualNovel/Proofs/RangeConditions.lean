import VisualNovel.Condition.Operator
import VisualNovel.Proofs.Text.LowerCase

/-!
# Range conditions

A range is cut where its lower-case form has the word `and`, by counting bytes. Here the same cut is
made in the range itself, at the first place where its next characters spell the word in any letter
case (`Operator.splitRange`), and a range condition is compared with what that cut says
(`Operator.inRange`).

The two agree wherever the offset is a position of the range, although they need not cut at the same
place: a character that lower case lengthens or shortens stands before both cuts, and a text with
such a character is no number. Where the offset is no position the condition has no answer, and the
range was none to begin with.
-/

namespace VisualNovel

open Number

/-! ## Numbers -/

namespace Number

open Text (IsAscii)

/-- A digit is a character of ASCII. -/
theorem toNat_lt_of_isDigit {c : Char} (digit : c.isDigit = true) : c.toNat < 0x80 := by
  simp only [Char.isDigit, Bool.and_eq_true, decide_eq_true_eq] at digit
  have high : c.val.toNat ≤ 57 := UInt32.le_iff_toNat_le.1 digit.2
  have : c.val.toNat = c.toNat := rfl
  omega

/-- What is read as digits is ASCII. -/
theorem isAscii_of_readDigits {cs : List Char} {n : Nat} (read : readDigits cs = some n) :
    IsAscii cs := by
  unfold readDigits at read
  split at read
  next => cases read
  next digits =>
    simp only [Bool.or_eq_true, Bool.not_eq_true', not_or, Bool.not_eq_false, List.all_eq_true]
      at digits
    exact fun c mem => toNat_lt_of_isDigit (digits.2 c mem)

namespace Decimal

/-- What is read as a power is ASCII. -/
theorem isAscii_of_readPower {cs : List Char} {n : Int} (read : readPower cs = some n) :
    IsAscii cs := by
  unfold readPower at read
  split at read
  all_goals
    obtain ⟨n, number, -⟩ := Option.map_eq_some_iff.1 read
    obtain ⟨n, digits, -⟩ := Option.bind_eq_some_iff.1 number
    simp [isAscii_of_readDigits digits]

/-- What is read as an exponent is ASCII. -/
theorem isAscii_of_readExponent {cs : List Char} {n : Int} (read : readExponent cs = some n) :
    IsAscii cs := by
  unfold readExponent at read
  split at read
  next => simp
  next c cs =>
    split at read
    next mark =>
      simp only [Bool.or_eq_true, decide_eq_true_eq] at mark
      obtain rfl | rfl := mark <;> simp [isAscii_of_readPower read]
    next => cases read

/-- If what follows the digits is ASCII, all of it is. -/
theorem isAscii_of_spanDigits {cs : List Char} (rest : IsAscii (spanDigits cs).2) :
    IsAscii cs := by
  rw [← List.takeWhile_append_dropWhile (p := Char.isDigit) (l := cs), Text.isAscii_append]
  exact ⟨fun c mem => toNat_lt_of_isDigit (List.mem_takeWhile_imp mem), rest⟩

/-- What stands before a rest of ASCII in a fraction is ASCII. -/
theorem isAscii_of_spanFraction {cs : List Char} (rest : IsAscii (spanFraction cs).2) :
    IsAscii cs := by
  unfold spanFraction at rest
  split at rest
  next => simp [isAscii_of_spanDigits rest]
  next => exact rest

/-- What is a word of ASCII in lower case is ASCII. -/
theorem isAscii_of_map_toLower {cs word : List Char} (same : cs.map Char.toLower = word)
    (ascii : word.all (·.toNat < 0x80) = true) : IsAscii cs := by
  intro c mem
  have lower : c.toLower ∈ word := by
    rw [← same]
    exact List.mem_map_of_mem mem
  exact Text.toNat_toLower_lt.1 (of_decide_eq_true (List.all_eq_true.1 ascii _ lower))

/-- What is read as a number is ASCII. -/
theorem isAscii_of_readUnsigned {negative : Bool} {cs : List Char} {d : Decimal}
    (read : readUnsigned negative cs = some d) : IsAscii cs := by
  unfold readUnsigned at read
  dsimp only at read
  split at read
  next word =>
    simp only [Bool.or_eq_true, decide_eq_true_eq] at word
    obtain word | word := word
    · exact isAscii_of_map_toLower word (by decide)
    · exact isAscii_of_map_toLower word (by decide)
  next =>
    split at read
    next word => exact isAscii_of_map_toLower word (by decide)
    next =>
      split at read
      next => cases read
      next =>
        obtain ⟨power, exponent, -⟩ := Option.map_eq_some_iff.1 read
        exact isAscii_of_spanDigits (isAscii_of_spanFraction (isAscii_of_readExponent exponent))

/-- A literal is ASCII. -/
theorem isAscii_of_read {s : String} {d : Decimal} (read : Decimal.read s = some d) :
    IsAscii s.toList := by
  unfold Decimal.read at read
  split at read
  all_goals simp_all [isAscii_of_readUnsigned read]

end Decimal

end Number

/-! ## Ranges -/

namespace Operator

open Text

/-- The text before and the text after the first place where a range spells its word, in any letter
case. -/
def splitRange : List Char → Option (List Char × List Char)
  | [] => none
  | c :: cs =>
    if lowerChars ((c :: cs).take rangeWord.length) = rangeWord then
      some ([], (c :: cs).drop rangeWord.length)
    else (splitRange cs).map fun (low, high) => (c :: low, high)

/-- The two numbers that two texts are. -/
def numbers? (low high : List Char) : Option (Floating × Floating) := do
  return (← readNumber (String.ofList low), ← readNumber (String.ofList high))

/-- The bounds of a range; none if its word is missing or one of its bounds is no number. -/
def bounds? (b : String) : Option (Floating × Floating) := do
  let (low, high) ← splitRange b.toList
  numbers? low high

/-- Whether `a` lies in the range `b`, or outside it if `within` is `false`. What is no number lies
outside every range; of what is no range neither holds. -/
def inRange (within : Bool) (a b : String) : Bool :=
  match bounds? b with
  | some (low, high) =>
    ((readNumber a).any fun x => low.atMost x && x.atMost high) == within
  | none => false

/-- Whether the number of bytes before the word of a range, counted in lower case, is no position of
the range, or the word cut there would end at none. -/
def cutsAstray (b : String) : Bool :=
  match splitRange b.toList with
  | some (low, _) =>
    let offset := byteLength (lowerChars low)
    !isPosition offset b.toList || !isPosition (offset + byteLength rangeWord) b.toList
  | none => false

/-- The operator that asks for a number within a range, or for one that is not. -/
def ofRange (within : Bool) : Operator :=
  if within then .between else .notBetween

/-! ### The word of a range -/

/-- The small letters of the capitals above ASCII come after the letters of the word, but for the
`k` that the Kelvin sign becomes. -/
theorem shift_of_mem_capitalRuns :
    ∀ run ∈ capitalRuns, 110 < run.first + run.shift ∨
      run.first = run.last ∧ run.first + run.shift = 107 := by
  decide +kernel

/-- The word of a range has four different characters. -/
theorem toNat_of_mem_rangeWord {x : Char} (mem : x ∈ rangeWord) : x.toNat ∈ [32, 97, 110, 100] := by
  have letters : rangeWord.all (fun x => [32, 97, 110, 100].contains x.toNat) = true := by decide
  exact List.contains_iff_mem.1 (List.all_eq_true.1 letters x mem)

/-- No character above ASCII becomes a character of the word. -/
theorem toNat_lt_of_lowerChar {c x : Char} (lower : lowerChar c = [x]) (mem : x ∈ rangeWord) :
    c.toNat < 0x80 := by
  by_contra high
  have code := toNat_of_mem_rangeWord mem
  simp only [List.mem_cons, List.not_mem_nil, or_false] at code
  unfold lowerChar at lower
  rw [if_neg high] at lower
  split at lower
  · cases lower
  · obtain ⟨rfl⟩ := lower
    unfold lowerListed at code
    split at code
    next run found =>
      have listed := shift_of_mem_capitalRuns run (List.mem_of_find?_eq_some found)
      have holds := List.find?_some found
      simp only [CapitalRun.holds, Bool.and_eq_true, decide_eq_true_eq] at holds
      obtain same | zero := toNat_ofNat (c.toNat + run.shift).toNat
      all_goals omega
    next =>
      rw [Char.ofNat_toNat] at code
      omega

/-- What spells the word, or a part of it, has its length. -/
theorem byteLength_of_lowerChars {cs word : List Char} (lower : lowerChars cs = word)
    (part : word ⊆ rangeWord) : byteLength cs = byteLength word := by
  induction cs generalizing word with
  | nil => simp [← lower, lowerChars]
  | cons c cs ih =>
    subst lower
    rw [lowerChars_cons] at part ⊢
    have first : lowerChar c ⊆ rangeWord := List.Subset.trans (List.subset_append_left _ _) part
    have rest := ih rfl (List.Subset.trans (List.subset_append_right _ _) part)
    obtain ⟨d, single⟩ | pair := lowerChar_cases c
    · have ascii := toNat_lt_of_lowerChar single (first (by simp [single]))
      rw [byteLength_append, byteLength_lowerChar_of_lt ascii, byteLength, rest]
    · rw [pair] at first
      exact absurd (first List.mem_cons_self) (by decide)

/-- A word without an `i` begins a lower-case form exactly if as many characters spell it. -/
theorem isPrefixOf_lowerChars {word : List Char} (plain : 'i' ∉ word) (cs : List Char) :
    word.isPrefixOf (lowerChars cs) = true ↔ lowerChars (cs.take word.length) = word := by
  rw [List.isPrefixOf_iff_prefix]
  induction word generalizing cs with
  | nil => simp [lowerChars]
  | cons x word ih =>
    simp only [List.mem_cons, not_or] at plain
    cases cs with
    | nil => simp [lowerChars]
    | cons c cs =>
      rw [List.length_cons, List.take_succ_cons, lowerChars_cons, lowerChars_cons]
      obtain ⟨d, single⟩ | pair := lowerChar_cases c
      · rw [single, List.singleton_append, List.singleton_append, List.cons_prefix_cons,
          List.cons.injEq, ih plain.2, eq_comm]
      · simp [pair, List.cons_prefix_cons, Ne.symm plain.1, plain.1]

/-- Where the word begins, the rest of the lower-case form is that of the rest. -/
theorem drop_lowerChars {cs : List Char}
    (spelt : lowerChars (cs.take rangeWord.length) = rangeWord) :
    (lowerChars cs).drop rangeWord.length = lowerChars (cs.drop rangeWord.length) := by
  conv_lhs => rw [← List.take_append_drop rangeWord.length cs, lowerChars_append, spelt]
  exact List.drop_left

/-- The word is found in the lower-case form where the range spells it. -/
theorem breakOn_lowerChars (cs : List Char) :
    breakOn rangeWord (lowerChars cs) =
      (splitRange cs).map fun (low, high) => (lowerChars low, lowerChars high) := by
  have plain : 'i' ∉ rangeWord := by decide
  induction cs with
  | nil => rfl
  | cons c cs ih =>
    have start := isPrefixOf_lowerChars plain (c :: cs)
    by_cases spelt : lowerChars ((c :: cs).take rangeWord.length) = rangeWord
    · rw [splitRange, if_pos spelt, breakOn_of_isPrefixOf (start.2 spelt), drop_lowerChars spelt]
      rfl
    · rw [splitRange, if_neg spelt, Option.map_map]
      rw [lowerChars_cons] at start ⊢
      obtain ⟨d, single⟩ | pair := lowerChar_cases c
      · rw [single, List.singleton_append] at start ⊢
        rw [breakOn, if_neg (mt start.1 spelt), ih, Option.map_map]
        simp [Function.comp_def, lowerChars_cons, single]
      · -- neither of the two characters begins the word
        have first : ∀ rest, rangeWord.isPrefixOf ('i' :: rest) = false := fun _ => rfl
        have second : ∀ rest, rangeWord.isPrefixOf ('\u0307' :: rest) = false := fun _ => rfl
        rw [pair, List.cons_append, List.singleton_append]
        simp [breakOn, first, second, ih, Function.comp_def, lowerChars_cons, pair]

/-! ### The cut -/

/-- A split leaves out characters of the word's length, and nothing else. -/
theorem exists_of_splitRange {cs low high : List Char} (found : splitRange cs = some (low, high)) :
    ∃ word, cs = low ++ (word ++ high) ∧ byteLength word = byteLength rangeWord := by
  induction cs generalizing low with
  | nil => cases found
  | cons c cs ih =>
    unfold splitRange at found
    split at found
    next spelt =>
      obtain ⟨rfl, rfl⟩ : [] = low ∧ _ = high := by simpa using found
      refine ⟨(c :: cs).take rangeWord.length, ?_,
        byteLength_of_lowerChars spelt (List.Subset.refl _)⟩
      rw [List.nil_append, List.take_append_drop]
    next =>
      obtain ⟨⟨front, back⟩, later, same⟩ := Option.map_eq_some_iff.1 found
      obtain ⟨rfl, rfl⟩ := Prod.mk.inj same
      obtain ⟨word, rfl, length⟩ := ih later
      exact ⟨word, rfl, length⟩

/-- A text with a character that lower case lengthens or shortens is no number: the character is
neither ASCII nor a blank that trimming takes away. -/
theorem readNumber_eq_none {cs : List Char} {c : Char} (mem : c ∈ cs)
    (changed : byteLength (lowerChar c) ≠ c.utf8Size) : readNumber (String.ofList cs) = none := by
  have blank : isBlank c = false := by
    rw [← Bool.not_eq_true]
    exact mt byteLength_lowerChar_of_isBlank changed
  unfold readNumber Format.read
  rw [Option.map_eq_none_iff, Option.eq_none_iff_forall_ne_some]
  intro d read
  have ascii := Decimal.isAscii_of_read read
  rw [toList_trim, String.toList_ofList] at ascii
  exact changed (byteLength_lowerChar_of_lt (ascii c (mem_trimChars mem blank)))

/-- A text that is no number gives no bound. -/
theorem numbers?_eq_none {low high : List Char} (unread : readNumber (String.ofList low) = none) :
    numbers? low high = none := by
  simp [numbers?, unread]

/-- Of a range that can be cut, the bounds are the numbers before and after the cut. -/
theorem readRange_of_cutRange {b : String} {front back : List Char}
    (cut : cutRange b = .ok (some (String.ofList front, String.ofList back))) :
    ∃ result, readRange b = .ok result ∧ result.toOption = numbers? front back := by
  simp only [readRange, cut, numbers?, bind, Except.bind, pure, Except.pure]
  cases readNumber (String.ofList front) with
  | none => exact ⟨_, rfl, rfl⟩
  | some low =>
    cases readNumber (String.ofList back) with
    | none => exact ⟨_, rfl, rfl⟩
    | some high => exact ⟨_, rfl, rfl⟩

section cut

variable {b : String} {low high : List Char}

/-- The bounds of a range are the numbers before and after its word. -/
theorem bounds?_of_splitRange (found : splitRange b.toList = some (low, high)) :
    bounds? b = numbers? low high := by
  simp [bounds?, found]

/-- Where lower case keeps the length of the text before the word, the cut is the split. -/
theorem cutAtByte_of_splitRange (found : splitRange b.toList = some (low, high))
    (kept : byteLength (lowerChars low) = byteLength low) :
    ∃ word, cutAtByte (byteLength (lowerChars low)) b.toList = some (low, word ++ high) ∧
      cutAtByte (byteLength (lowerChars low) + byteLength rangeWord) b.toList =
        some (low ++ word, high) := by
  obtain ⟨word, whole, length⟩ := exists_of_splitRange found
  refine ⟨word, cutAtByte_eq_some.2 ⟨whole.symm, kept.symm⟩, cutAtByte_eq_some.2 ⟨?_, ?_⟩⟩
  · rw [whole, List.append_assoc]
  · rw [byteLength_append, length, kept]

/-- Where lower case changes that length, the text before the word is no number, and neither is any
text that the offset cuts off. -/
theorem readNumber_of_splitRange (found : splitRange b.toList = some (low, high))
    (changed : byteLength (lowerChars low) ≠ byteLength low) :
    readNumber (String.ofList low) = none ∧
      ∀ front back, cutAtByte (byteLength (lowerChars low)) b.toList = some (front, back) →
        readNumber (String.ofList front) = none := by
  obtain ⟨before, c, after, rfl, kept, change⟩ := exists_of_byteLength_lowerChars_ne changed
  obtain ⟨word, whole, -⟩ := exists_of_splitRange found
  refine ⟨readNumber_eq_none (by simp) change, fun front back cut => ?_⟩
  obtain ⟨same, length⟩ := cutAtByte_eq_some.1 cut
  rw [whole, List.append_assoc, List.cons_append] at same
  have longer : byteLength before < byteLength front := by
    have := byteLength_lowerChar_pos c
    rw [length, lowerChars_append, lowerChars_cons, byteLength_append, byteLength_append, kept]
    omega
  exact readNumber_eq_none (mem_of_byteLength_lt same longer) change

end cut

/-- A range that is cut astray is none: lower case changes the length of the text before its
word. -/
theorem bounds?_of_cutsAstray {b : String} (astray : cutsAstray b = true) :
    bounds? b = none ∧ ∃ low high, splitRange b.toList = some (low, high) ∧
      byteLength (lowerChars low) ≠ byteLength low := by
  cases found : splitRange b.toList with
  | none => simp [cutsAstray, found] at astray
  | some parts =>
    obtain ⟨low, high⟩ := parts
    have changed : byteLength (lowerChars low) ≠ byteLength low := by
      intro kept
      obtain ⟨word, front, back⟩ := cutAtByte_of_splitRange found kept
      simp [cutsAstray, found, ← isSome_cutAtByte, front, back] at astray
    refine ⟨?_, low, high, rfl, changed⟩
    rw [bounds?_of_splitRange found, numbers?_eq_none (readNumber_of_splitRange found changed).1]

/-- A range that is cut at no position of it cannot be read. -/
theorem readRange_of_cutsAstray {b : String} (astray : cutsAstray b = true) :
    readRange b = .error .cut := by
  cases found : splitRange b.toList with
  | none => simp [cutsAstray, found] at astray
  | some parts =>
    obtain ⟨low, high⟩ := parts
    simp only [cutsAstray, found, ← isSome_cutAtByte, Option.not_isSome, Bool.or_eq_true,
      Option.isNone_iff_eq_none] at astray
    have cut : cutRange b = .error .cut := by
      unfold cutRange
      rw [breakOn_lowerChars, found, Option.map_some]
      obtain front | back := astray
      · simp only [front]
      · simp only [back]
        cases cutAtByte (byteLength (lowerChars low)) b.toList <;> rfl
    simp [readRange, cut, bind, Except.bind]

/-- Any other range is read as the split says. -/
theorem readRange_of_not_cutsAstray {b : String} (straight : cutsAstray b = false) :
    ∃ result, readRange b = .ok result ∧ result.toOption = bounds? b := by
  cases found : splitRange b.toList with
  | none =>
    have cut : cutRange b = .ok none := by
      simp [cutRange, breakOn_lowerChars, found]
    refine ⟨.error (.invalid b .rangeForm), ?_, ?_⟩
    · simp [readRange, cut, bind, Except.bind, pure, Except.pure]
    · simp [bounds?, found, Except.toOption]
  | some parts =>
    obtain ⟨low, high⟩ := parts
    simp only [cutsAstray, found, ← isSome_cutAtByte, Bool.or_eq_false_iff, Bool.not_eq_false',
      Option.isSome_iff_exists, Prod.exists] at straight
    obtain ⟨⟨front, afterFront, hfront⟩, beforeBack, back, hback⟩ := straight
    have cut : cutRange b = .ok (some (String.ofList front, String.ofList back)) := by
      simp [cutRange, breakOn_lowerChars, found, hfront, hback]
    have same : numbers? front back = bounds? b := by
      rw [bounds?_of_splitRange found]
      by_cases kept : byteLength (lowerChars low) = byteLength low
      · obtain ⟨word, wholeFront, wholeBack⟩ := cutAtByte_of_splitRange found kept
        rw [wholeFront] at hfront
        rw [wholeBack] at hback
        obtain ⟨⟩ := hfront
        obtain ⟨⟩ := hback
        rfl
      · -- the two cuts may differ here, and no text before either is a number
        obtain ⟨lowNone, frontNone⟩ := readNumber_of_splitRange found kept
        rw [numbers?_eq_none lowNone, numbers?_eq_none (frontNone _ _ hfront)]
    rw [← same]
    exact readRange_of_cutRange cut

/-! ### The condition -/

/-- A condition asks of the bounds that were read what its operator says. -/
theorem holds_of_readRange {within : Bool} {a word b : String}
    {result : Except ArgumentError (Floating × Floating)}
    (named : vocabulary.read word = .ok (ofRange within)) (read : readRange b = .ok result)
    (same : result.toOption = bounds? b) : holds a word b = .ok (inRange within a b) := by
  have between : ∀ low high, isBetween a low high =
      (readNumber a).any fun x => low.atMost x && x.atMost high := by
    intro low high
    unfold isBetween
    cases readNumber a <;> rfl
  unfold holds evaluateNamed inRange
  rw [named, ← same]
  cases within <;> cases result <;>
    simp [ofRange, evaluate, read, bind, Except.bind, pure, Except.pure, Except.map,
      Except.toOption, between]

/-- A range condition says whether the number lies in the range that is split at its word, except
where the bytes before the word in lower case are no position of the range: there it has no answer,
and the range is none. -/
theorem range_condition_agrees_unless_cut_astray (within : Bool) (a word b : String)
    (named : vocabulary.read word = .ok (ofRange within)) :
    holds a word b = (if cutsAstray b then .error .cut else .ok (inRange within a b)) ∧
      (cutsAstray b = true → inRange within a b = false ∧
        ∃ low high, splitRange b.toList = some (low, high) ∧
          byteLength (lowerChars low) ≠ byteLength low) := by
  constructor
  · split
    next astray =>
      unfold holds evaluateNamed
      rw [named]
      cases within <;>
        simp [ofRange, evaluate, readRange_of_cutsAstray astray, bind, Except.bind]
    next straight =>
      rw [Bool.not_eq_true] at straight
      obtain ⟨result, read, same⟩ := readRange_of_not_cutsAstray straight
      exact holds_of_readRange named read same
  · intro astray
    obtain ⟨unbounded, changed⟩ := bounds?_of_cutsAstray astray
    exact ⟨by simp [inRange, unbounded], changed⟩

/-- A range in capitals with blanks around its bounds. -/
theorem range_condition_agrees_in_capitals :
    vocabulary.read " Not Between " = .ok (ofRange false) ∧
      holds "ten" " Not Between " " 1 AND 10 " = .ok true := by
  have named : vocabulary.read " Not Between " = .ok (ofRange false) := by decide +kernel
  have agrees := (range_condition_agrees_unless_cut_astray false "ten" _ " 1 AND 10 " named).1
  refine ⟨named, agrees.trans ?_⟩
  decide +kernel

/-- The Kelvin sign is of three bytes and its small letter of one: the offset of the word lies
inside it, and a condition on a range that is none ends without an answer. -/
theorem kelvin_range_cut_astray :
    holds "5" "between" "\u212A and 9" = .error .cut ∧ inRange true "5" "\u212A and 9" = false := by
  decide +kernel

end Operator

end VisualNovel
