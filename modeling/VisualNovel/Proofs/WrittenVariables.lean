import VisualNovel.Proofs.ArgumentDecoding
import VisualNovel.Proofs.Chronicle
import VisualNovel.Proofs.VariablePasses
import VisualNovel.Proofs.WrittenTags

/-!
# What is written to a variable

A line that sets a variable is tidied, filled, taken apart at a colon and at a comma, and trimmed; a
line that mentions the variable is filled, and then looked at again for what it is. The value goes
through all of it as it is, although it may hold the characters at which lines are taken apart.

Between the two lines anything may happen that does not set the variable again (`Session.Later`):
only a tag that sets it and a write of the host do (`Happening.get?_apply`), so that it keeps its
value.

Main statement: `Role.variable_is_stored_and_shown`.
-/

namespace VisualNovel

open Placeholder (Token variableSigil)

/-! ## Writing -/

namespace Variables

variable {name : String}

/-- A legible name may be that of a variable. -/
theorem isName_of_legible (nonempty : name ≠ "") (readable : legible name = true) :
    isName name = true := by
  have kept : Text.trimChars name.toList = name.toList := by
    rw [← Text.toList_trim, trim_of_legible readable]
  have allowed : forbiddenChars.all (fun c => c ≠ '_' && !Text.isAlphanumeric c) = true := by decide
  rw [isName, kept, Bool.and_eq_true, Bool.not_eq_true', Bool.not_eq_true', List.any_eq_false]
  refine ⟨by simpa using nonempty, fun c mem forbidden => ?_⟩
  have outside := List.all_eq_true.1 allowed c (List.contains_iff_mem.1 forbidden)
  rw [Bool.and_eq_true, decide_eq_true_eq, Bool.not_eq_true'] at outside
  exact not_mem_of_legible readable outside.1 outside.2 mem

end Variables

/-- What is written behind the name of the tag is a name, a comma, and what is the value without the
blanks around it. -/
theorem Text.exists_trim_eq {name value : String} (nonempty : name ≠ "")
    (tightName : Tight name.toList) (tight : Tight value.toList) :
    ∃ rest, Trims (" " ++ name ++ ", " ++ value) (name ++ "," ++ rest) ∧ trim rest = value := by
  have some : name.toList ≠ [] := by simpa using nonempty
  have blank : ∀ c ∈ [' '], isBlank c = true := List.forall_mem_singleton.2 (by decide)
  by_cases empty : value = ""
  · -- the blank behind the comma is then the last one of the text
    subst empty
    have comma : Tight [','] := by decide
    have bare : Tight (name ++ "," ++ "").toList := by
      simpa using tightName.append_append comma some (by simp) []
    exact ⟨"", ⟨⟨[' '], [' '], by simp, blank, blank⟩, bare.1, bare.2⟩, rfl⟩
  · have whole : Tight (name ++ "," ++ (" " ++ value)).toList := by
      simpa using tightName.append_append tight some (by simpa using empty) [',', ' ']
    exact ⟨" " ++ value, ⟨⟨[' '], [], by simp, blank, by simp⟩, whole.1, whole.2⟩,
      trim_blank_append tight⟩

/-- It is decoded to the name and the value. -/
theorem Shape.decode?_setVariable {name value arguments : String} (nonempty : name ≠ "")
    (readable : Variables.legible name = true) (tight : Text.Tight value.toList)
    (trimmed : Text.Trims (" " ++ name ++ ", " ++ value) arguments) :
    Shape.setVariable.decode? (some arguments) = some (name, value, ()) := by
  have unparted : ',' ∉ name.toList := Variables.not_mem_of_legible readable (by decide) (by decide)
  have tightName := Variables.tight_of_legible readable
  obtain ⟨rest, whole, hrest⟩ := Text.exists_trim_eq nonempty tightName tight
  obtain rfl : name ++ "," ++ rest = arguments :=
    (Text.trims_iff.1 whole).symm.trans (Text.trims_iff.1 trimmed)
  have fields : splitFields (name ++ "," ++ rest) 2 true = .ok [name, value] := by
    rw [splitFields, if_pos rfl, Text.splitAtMost_comma unparted]
    simp [Text.splitAtMost, Text.splitAtMostChars, Text.trim_of_tight tightName, hrest]
  rw [decode?, decode, show splitFields (name ++ "," ++ rest) Shape.setVariable.length
    Shape.setVariable.isFree = .ok [name, value] from fields]
  rfl

/-- A line that sets a variable asks for that and nothing else. -/
theorem Role.plan_setVariable (role : Role) {blocks : Blocks} (session : Session)
    {raw name value : String} (reads : blocks.isSkipping = false) (nonempty : name ≠ "")
    (readable : Variables.legible name = true) (tight : Text.Tight value.toList)
    (plain : Line.hasPlaceholder value = false)
    (written : Text.Trims raw ("<variable_set: " ++ name ++ ", " ++ value ++ ">")) :
    role.plan blocks session raw =
      .idle { session with store := session.store.set name value } blocks .look := by
  have unopened : '(' ∉ name.toList := Variables.not_mem_of_legible readable (by decide) (by decide)
  have bare : Line.Plain (" " ++ name ++ ", " ++ value).toList := by
    have parts : (" " ++ name ++ ", " ++ value).toList =
        (' ' :: name.toList) ++ ',' :: (' ' :: value.toList) := by simp
    rw [parts, Line.plain_append_cons (by decide), Line.plain_cons_blank, Line.plain_cons_blank]
    exact ⟨Line.plain_of_not_mem unopened, Line.hasPlaceholder_eq_false_iff.1 plain⟩
  have named : Tag.Nameable "variable_set" := Tag.isName_iff.1 (by decide)
  have trimmed :
      Text.Trims (" " ++ name ++ ", " ++ value) (Text.trim (" " ++ name ++ ", " ++ value)) :=
    Text.trims_iff.2 rfl
  have decoded := Shape.decode?_setVariable nonempty readable tight trimmed
  have line : "<variable_set: " ++ name ++ ", " ++ value ++ ">" =
      "<" ++ "variable_set" ++ ":" ++ (" " ++ name ++ ", " ++ value) ++ ">" := by
    rw [← String.toList_inj]
    simp
  rw [line] at written
  rw [role.plan_written session reads named bare trimmed written, obey,
    show Instruction.ofName? "variable_set" = some .setVariable from by decide +kernel]
  show Plan.mk (Outcome.ofSession (session.setVariable _)).effect blocks .look = _
  rw [Session.setVariable, decoded]
  rfl

/-! ## Keeping -/

/-- A variable that is not set keeps its value. -/
theorem Variables.get?_set_of_ne (store : Variables) {name other : String} (differ : name ≠ other)
    (value : String) : (store.set other value).get? name = store.get? name := by
  by_cases valid : isName other = true
  · rw [store.get?_set valid, if_neg differ]
  · rw [set, set?, if_neg valid]
    rfl

namespace Happening

/-- A variable is set. -/
def Sets (name : String) : Happening → Prop
  | .obeyed _ _ .setVariable tag =>
    ∃ value, Shape.setVariable.decode? tag.arguments = some (name, value, ())
  | _ => False

/-- Whatever else happens, a variable keeps its value. -/
theorem get?_apply {happening : Happening} {name : String} (other : ¬ happening.Sets name)
    (s : Session) :
    (apply s happening).store.get? name = s.store.get? name := by
  by_cases touched : happening.reach.store = true
  · cases happening with
    | obeyed isMain freshNames instruction tag =>
      cases instruction with
      | setVariable =>
        show (Session.setVariable { s with freshNames } tag.arguments).store.get? name = _
        rw [Session.setVariable]
        split
        · next set value decoded =>
          refine s.store.get?_set_of_ne ?_ value
          rintro rfl
          exact other ⟨value, decoded⟩
        · rfl
      | _ => cases touched
    | received signal => cases signal <;> cases touched
    | _ => cases touched
  · rw [(happening.scope s).store (Bool.eq_false_iff.2 touched)]

end Happening

/-- The sessions that come later while a variable is not set again: after anything else that happens
in a frame, and after any other write of the host between frames. -/
inductive Session.Later (name : String) (s : Session) : Session → Prop where
  /-- At once. -/
  | here : Later name s s
  /-- After something has happened. -/
  | happened {t : Session} (later : Later name s t) {happening : Happening}
    (other : ¬ happening.Sets name) : Later name s (happening.apply t)
  /-- After a write of the host. -/
  | written {t : Session} (later : Later name s t) (main : Reader) {write : Engine.Write}
    (other : ∀ value, write ≠ .store name value) :
    Later name s (Engine.write ⟨main, t⟩ write).session

namespace Session.Later

variable {name : String} {s t : Session}

/-- The variable has its value still. -/
theorem get?_eq (later : s.Later name t) : t.store.get? name = s.store.get? name := by
  induction later with
  | here => rfl
  | happened _ other ih => rw [Happening.get?_apply other, ih]
  | @written t _ main write other ih =>
    rw [← ih]
    cases write with
    | store set value =>
      have differ : name ≠ set := by
        rintro rfl
        exact other value rfl
      have kept := t.store.get?_set_of_ne differ value
      rw [Variables.set] at kept
      show ((Engine.setVariable? ⟨main, t⟩ set value).getD ⟨main, t⟩).session.store.get? name = _
      unfold Engine.setVariable?
      cases hset : t.store.set? set value with
      | none => rfl
      | some store =>
        rw [hset] at kept
        exact kept
    | stage _ => rfl
    | time _ => rfl
    | freshNames _ => rfl

/-- The settings are the same. -/
theorem settings_eq (later : s.Later name t) : t.settings = s.settings := by
  induction later with
  | here => rfl
  | happened _ _ ih => rw [(Happening.scope _ _).settings, ih]
  | @written t _ main write _ ih =>
    obtain ⟨store, stage, clock, freshNames, same⟩ := Engine.write_session ⟨main, t⟩ write
    rw [same]
    exact ih

end Session.Later

/-! ## Showing -/

/-- A line that mentions a variable once, with texts before and behind, and mentions no other one.
It is as it is when it is tidied. -/
structure Line.MentionsOnly (name before after : String) : Prop where
  /-- The line is tidy. -/
  tidy_eq : Line.tidy (before ++ Variables.mention name ++ after) =
    before ++ Variables.mention name ++ after
  /-- There is no other placeholder of a variable. -/
  only (token : Token variableSigil) (place : Nat) :
    token.StandsAt (before ++ Variables.mention name ++ after).toList place →
      place = before.toList.length

namespace Variables

variable {name : String}

/-- A pass puts the value of the only variable in its place. -/
theorem fillOnce_mention (store : Variables) {before after value : String} (nonempty : name ≠ "")
    (readable : legible name = true) (set : store.get? name = some value)
    (mentions : Line.MentionsOnly name before after) :
    store.fillOnce (before ++ mention name ++ after) = (before ++ value ++ after, true) := by
  obtain ⟨token, source, hname⟩ := Placeholder.exists_token variableSigil nonempty readable
  obtain ⟨found, scan⟩ := exists_scan (before ++ mention name ++ after)
  have chars : (before ++ mention name ++ after).toList =
      before.toList ++ (token.source ++ after.toList) := by
    rw [String.toList_append, String.toList_append, toList_mention, source, List.append_assoc]
  have stands : token.StandsAt (before ++ mention name ++ after).toList before.toList.length := by
    rw [Token.StandsAt, chars, List.drop_left]
    exact List.prefix_append _ _
  obtain rfl := (scan.lists (by decide) (by decide)).eq_singleton (by decide) stands mentions.only
  have behind :
      (before ++ mention name ++ after).toList.drop (before.toList.length + token.source.length) =
      after.toList := by
    rw [chars, List.drop_length_add_append, List.drop_left]
  have front : (before ++ mention name ++ after).toList.take before.toList.length =
      before.toList := by
    rw [chars, List.take_left]
  rw [store.fillOnce_eq scan, List.map_singleton, hname, set, Placeholder.filled,
    List.zip_cons_cons, List.zip_nil_left, Placeholder.rewrite, front, Placeholder.rewrite, behind]
  simp [String.append_assoc]

end Variables

/-- A line that mentions a variable is filled with its value, which is not looked at again if it
brings no placeholder about. -/
theorem Variables.fill_mention_between (store : Variables) {name before after value : String}
    {passes : Nat} (nonempty : name ≠ "") (readable : legible name = true)
    (set : store.get? name = some value) (mentions : Line.MentionsOnly name before after)
    (some : 1 ≤ passes) (plain : Line.hasPlaceholder (before ++ value ++ after) = false) :
    store.fill passes (before ++ mention name ++ after) = before ++ value ++ after := by
  obtain ⟨more, rfl⟩ := Nat.exists_eq_add_of_le' some
  rw [fill, store.fillOnce_mention nonempty readable set mentions]
  exact store.fill_of_not_occurs more (Bool.or_eq_false_iff.1 plain).1

/-- What holds the main script is not among the variables. -/
theorem Session.heldBy_with_store (s : Session) (store : Variables) :
    heldBy { s with store } = (s.heldBy.1, { s.heldBy.2 with store }) := by
  rw [heldBy_eq, heldBy_eq]
  rfl

/-- A look that finds nothing to wait for does so with other variables too. -/
theorem Role.lookUp_with_store (role : Role) {session : Session} (store : Variables)
    (free : role.lookUp session = (false, session)) :
    role.lookUp { session with store } = (false, { session with store }) := by
  unfold lookUp at free ⊢
  split at free
  · next main =>
    rw [if_pos main]
    unfold Session.isHeld at free ⊢
    rw [session.heldBy_with_store store]
    rcases hheld : session.heldBy with ⟨reason, t⟩
    rw [hheld] at free
    obtain ⟨unheld, rfl⟩ := Prod.mk.inj free
    exact congrArg (·, _) unheld
  · next other => rw [if_neg other]

/-- What is written to a variable is stored and shown. A line that sets it, in any script and with
any blanks around it, binds it to the value as it is written, and does nothing else. As long as it
is not set again, a line of the main script that mentions it is shown with the value in the place of
the mention. -/
theorem Role.variable_is_stored_and_shown (role : Role) {blocks : Blocks} (session : Session)
    (start : Starter) {raw name value : String} (reads : blocks.isSkipping = false)
    (nonempty : name ≠ "") (readable : Variables.legible name = true)
    (tight : Text.Tight value.toList) (plain : Line.hasPlaceholder value = false)
    (written : Text.Trims raw ("<variable_set: " ++ name ++ ", " ++ value ++ ">")) :
    ∃ store : Variables,
      (role.plan blocks session raw).carryOut start = ⟨{ session with store }, blocks, .look⟩ ∧
      (role.lookUp session = (false, session) → ∀ lines,
        role.readLines start (raw :: lines) blocks session =
          role.readLines start lines blocks { session with store }) ∧
      store.get? name = some value ∧
      (∀ other, other ≠ name → store.get? other = session.store.get? other) ∧
      ∀ later, Session.Later name { session with store } later →
      1 ≤ session.settings.variablePasses →
        ∀ (scene : SceneRef) (others : Blocks) (next : Starter) (before after : String),
          others.isSkipping = false → Line.MentionsOnly name before after →
          Line.hasPlaceholder (before ++ value ++ after) = false →
          Line.read (before ++ value ++ after) = .spoken (before ++ value ++ after) →
          (Role.plan (.main scene) others later (before ++ Variables.mention name ++
            after)).carryOut next =
            ⟨later.speak (before ++ value ++ after), others, .look⟩ := by
  have valid := Variables.isName_of_legible nonempty readable
  have plan := role.plan_setVariable session reads nonempty readable tight plain written
  have stored (other : String) := session.store.get?_set valid value other
  refine ⟨session.store.set name value, ?_, fun free lines => ?_, ?_, fun other differ => ?_, ?_⟩
  · rw [plan]
    rfl
  · have look := role.lookUp_with_store (session.store.set name value) free
    rw [readLines, plan]
    simp only [Plan.carryOut, Plan.idle, Effect.perform, look]
  · rw [stored, if_pos rfl]
  · rw [stored, if_neg differ]
  · intro later reached some scene others next before after reading mentions settled spoken
    have set : later.store.get? name = Option.some value := by
      rw [reached.get?_eq, stored, if_pos rfl]
    rw [← reached.settings_eq] at some
    have filled := later.store.fill_mention_between nonempty readable set mentions some settled
    have text : Role.fill (.main scene) later (before ++ Variables.mention name ++ after) =
        .ok (before ++ value ++ after) := congrArg _ filled
    rw [Role.plan, mentions.tidy_eq, reading, text]
    simp only [Bool.false_and, Bool.false_eq_true, if_false]
    rw [obeyLine, spoken]
    rfl

/-- A line with one opening parenthesis mentions one variable at most. -/
theorem Line.mentionsOnly_of_unopened {name before after : String}
    (tidy : Line.tidy (before ++ Variables.mention name ++ after) =
      before ++ Variables.mention name ++ after)
    (unopened : '(' ∉ before.toList)
    (later : '(' ∉ variableSigil :: (name.toList ++ ')' :: after.toList)) :
    MentionsOnly name before after := by
  refine ⟨tidy, fun token place stands => ?_⟩
  have chars : (before ++ Variables.mention name ++ after).toList =
      before.toList ++ '(' :: (variableSigil :: (name.toList ++ ')' :: after.toList)) := by
    rw [String.toList_append, String.toList_append, Variables.toList_mention]
    simp
  rw [chars] at stands
  exact stands.eq_length unopened later

/-- A reusable script sets a variable to a text with commas, brackets and an open parenthesis; the
host sets another one, and a line is spoken; then the main script shows the value. -/
theorem Role.size_is_stored_and_shown :
    ∃ store : Variables, store.get? "größe_2" = some "a, b: <(c>" ∧
      (Role.plan (.background "measure" none) {} (.fresh {} {})
        "\t<variable_set: größe_2, a, b: <(c>> \r").carryOut Session.start =
          ⟨{ Session.fresh {} {} with store }, {}, .look⟩ ∧
      ∃ later : Session, later = Happening.apply
        (Engine.write ⟨.ofScene ⟨"dawn", "street"⟩, { Session.fresh {} {} with store }⟩
          (.store "mood" "calm")).session (.spoken "Well?") ∧
        (Role.plan (.main ⟨"dawn", "street"⟩) {} later "Size: ($größe_2)!").carryOut Session.start =
          ⟨later.speak "Size: a, b: <(c>!", {}, .look⟩ := by
  have reads : Blocks.isSkipping {} = false := rfl
  have written : Text.Trims "\t<variable_set: größe_2, a, b: <(c>> \r"
      ("<variable_set: " ++ "größe_2" ++ ", " ++ "a, b: <(c>" ++ ">") :=
        Text.trims_iff.2 (by decide +kernel)
  obtain ⟨store, carried, -, stored, -, shown⟩ := Role.variable_is_stored_and_shown
    (.background "measure" none) (.fresh {} {}) Session.start reads (by decide) (by decide +kernel)
    (by decide +kernel) (by decide +kernel) written
  refine ⟨store, stored, carried, _, rfl, ?_⟩
  have mentions : Line.MentionsOnly "größe_2" "Size: " "!" :=
    Line.mentionsOnly_of_unopened (by decide +kernel) (by decide +kernel) (by decide +kernel)
  refine shown _ (.happened (.written .here _ ?_) id) (by decide) _ {} Session.start "Size: " "!"
    rfl mentions
    (by decide +kernel) (by decide +kernel)
  intro value same
  exact absurd (Engine.Write.store.inj same).1 (by decide)

end VisualNovel
