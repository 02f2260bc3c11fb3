import VisualNovel.Proofs.Text.Splitting
import VisualNovel.Text.Lowercase

/-!
# Lower case

Lower case takes a text character by character, and most characters to one character. It may change
how many bytes a text has; if it does, there is a first character where it does
(`Text.exists_of_byteLength_lowerChars_ne`). Neither a blank nor a character of ASCII is one.
-/

namespace VisualNovel.Text

/-! ## ASCII -/

/-- A text of ASCII characters. -/
def IsAscii (cs : List Char) : Prop :=
  ∀ c ∈ cs, c.toNat < 0x80

/-- The empty text is of ASCII. -/
@[simp] theorem isAscii_nil : IsAscii [] := by
  simp [IsAscii]

/-- A text is of ASCII if its characters are. -/
@[simp] theorem isAscii_cons {c : Char} {cs : List Char} :
    IsAscii (c :: cs) ↔ c.toNat < 0x80 ∧ IsAscii cs := by
  simp [IsAscii]

/-- Joined texts are of ASCII if both are. -/
@[simp] theorem isAscii_append {cs ds : List Char} :
    IsAscii (cs ++ ds) ↔ IsAscii cs ∧ IsAscii ds := by
  simp [IsAscii, or_imp, forall_and]

/-- A character of ASCII has one byte. -/
theorem utf8Size_eq_one {c : Char} (ascii : c.toNat < 0x80) : c.utf8Size = 1 := by
  rw [Char.utf8Size_eq_one_iff, UInt32.le_iff_toNat_le]
  exact Nat.le_of_lt_succ ascii

/-- The mapping of ASCII letters takes ASCII characters, and no others, to ASCII characters. -/
theorem toNat_toLower_lt {c : Char} : c.toLower.toNat < 0x80 ↔ c.toNat < 0x80 := by
  unfold Char.toLower
  split
  next capital =>
    have low : 65 ≤ c.val.toNat := UInt32.le_iff_toNat_le.1 capital.1
    have high : c.val.toNat ≤ 90 := UInt32.le_iff_toNat_le.1 capital.2
    have shifted : (c.val + ('a'.val - 'A'.val)).toNat = c.val.toNat + 32 := by
      rw [UInt32.toNat_add]
      have : ('a'.val - 'A'.val).toNat = 32 := rfl
      omega
    simp only [Char.toNat, shifted]
    omega
  next => rfl

/-! ## Characters and texts -/

/-- The character of a number has that number, or none has. -/
theorem toNat_ofNat (n : Nat) : (Char.ofNat n).toNat = n ∨ (Char.ofNat n).toNat = 0 := by
  by_cases valid : n.isValidChar
  · left
    rw [Char.ofNat, dif_pos valid]
    rfl
  · right
    rw [Char.ofNat, dif_neg valid]
    rfl

/-- The lower-case form of a character is one character, or that of `İ`. -/
theorem lowerChar_cases (c : Char) :
    (∃ d, lowerChar c = [d]) ∨ lowerChar c = ['i', '\u0307'] := by
  unfold lowerChar
  split
  · exact .inl ⟨_, rfl⟩
  · split
    · exact .inr rfl
    · exact .inl ⟨_, rfl⟩

/-- Lower case goes through a text character by character. -/
theorem lowerChars_cons (c : Char) (cs : List Char) :
    lowerChars (c :: cs) = lowerChar c ++ lowerChars cs :=
  List.flatMap_cons

/-- Joined texts are taken to lower case one by one. -/
theorem lowerChars_append (cs ds : List Char) :
    lowerChars (cs ++ ds) = lowerChars cs ++ lowerChars ds :=
  List.flatMap_append

/-! ## Lengths in bytes -/

/-- No character is lost in lower case. -/
theorem byteLength_lowerChar_pos (c : Char) : 0 < byteLength (lowerChar c) := by
  obtain ⟨d, single⟩ | pair := lowerChar_cases c
  · have := d.utf8Size_pos
    simpa [single, byteLength] using this
  · simp only [pair]
    decide

/-- Lower case keeps the length of ASCII characters. -/
theorem byteLength_lowerChar_of_lt {c : Char} (ascii : c.toNat < 0x80) :
    byteLength (lowerChar c) = c.utf8Size := by
  have lower := utf8Size_eq_one (toNat_toLower_lt.2 ascii)
  simp [lowerChar, ascii, byteLength, lower, utf8Size_eq_one ascii]

/-- No blank is a capital. -/
theorem find?_capitalRuns_of_mem :
    ∀ n ∈ highBlanks, capitalRuns.find? (·.holds n) = none := by
  decide

/-- Lower case keeps the length of blanks. -/
theorem byteLength_lowerChar_of_isBlank {c : Char} (blank : isBlank c = true) :
    byteLength (lowerChar c) = c.utf8Size := by
  by_cases ascii : c.toNat < 0x80
  · exact byteLength_lowerChar_of_lt ascii
  · have unlisted := find?_capitalRuns_of_mem c.toNat (mem_highBlanks blank (by omega))
    have other : c ≠ 'İ' := by
      rintro rfl
      exact absurd blank (by decide)
    simp [lowerChar, ascii, other, lowerListed, unlisted, Char.ofNat_toNat, byteLength]

/-- Where lower case changes the length of a text, it changes the length of one of its characters
for the first time. -/
theorem exists_of_byteLength_lowerChars_ne {cs : List Char}
    (changed : byteLength (lowerChars cs) ≠ byteLength cs) :
    ∃ before c after, cs = before ++ c :: after ∧
      byteLength (lowerChars before) = byteLength before ∧
      byteLength (lowerChar c) ≠ c.utf8Size := by
  induction cs with
  | nil => exact absurd rfl changed
  | cons d cs ih =>
    by_cases kept : byteLength (lowerChar d) = d.utf8Size
    · have later : byteLength (lowerChars cs) ≠ byteLength cs := by
        intro same
        apply changed
        simp [lowerChars_cons, byteLength, kept, same]
      obtain ⟨before, c, after, rfl, same, change⟩ := ih later
      refine ⟨d :: before, c, after, rfl, ?_, change⟩
      simp [lowerChars_cons, byteLength, kept, same]
    · exact ⟨[], d, cs, rfl, rfl, kept⟩

end VisualNovel.Text
