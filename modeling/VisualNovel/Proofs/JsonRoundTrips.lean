import VisualNovel.History
import VisualNovel.Proofs.Dictionaries
import VisualNovel.Settings
import VisualNovel.Signal

/-!
# What is written in JSON is read back

Stories and settings come from files, signals come from the host, and the host is told what the main
script waits for and what has happened. All of them have a form in JSON, and each form has a reader
of its own: names of groups, signals and reasons are spelled by tables, dictionaries are objects,
sets are lists.

* A value is read back from its form exactly if its numbers have the width that they are read with
  (`Settings.ofJson?_toJson` and so on). Dictionaries are read back because their entries are in
  order (`Dict.ofEntries_entries`).
* A field that has a default may be left out of an object (`Json.withDefault_without`), so any of
  them may be, in settings, in stories and in the chapters of a story (`Settings.ofJson?_without`,
  `Story.ofJson?_without`, `Story.ofJson?_cutMember`).

Main statement: `Json.forms_are_read_back`.
-/

namespace VisualNovel

open Json Number

/-! ## Plain values and dictionaries in JSON -/

namespace Json

variable {α : Type} {read : Json → Option α} {write : α → Json}

/-- A number that is written is read if it is in range. -/
theorem signed?_ofInt (i : Int) : signed? (ofInt i) = if fitsSigned i then some i else none :=
  Option.filter_some

/-- A natural number that is written is read if it is below the bound. -/
theorem natBelow?_ofNat (bound n : Nat) :
    natBelow? bound (ofNat n) = if n < bound then some n else none :=
  rfl

/-- A value that is read back and not written `null` may as well be absent. -/
theorem option?_ofOption (value : Option α) (back : ∀ a, read (write a) = some a)
    (there : ∀ a, write a ≠ .null) :
    option? read (ofOption write value) = some value := by
  cases value with
  | none => rfl
  | some a =>
    rw [ofOption, option?, back, Option.map_some]
    exact there a

/-- The names of a dictionary are read back, whatever its values are read as. -/
theorem names_of_mapM {entries : List (String × Json)} {found : List (String × α)}
    (reads : (entries.mapM fun m => (read m.2).map fun a => (m.1, a)) = some found) :
    found.map Prod.fst = entries.map Prod.fst := by
  induction entries generalizing found with
  | nil => cases reads; rfl
  | cons m entries ih =>
    rw [List.mapM_cons] at reads
    obtain ⟨e, head, reads⟩ := Option.bind_eq_some_iff.1 reads
    obtain ⟨a, -, rfl⟩ := Option.map_eq_some_iff.1 head
    obtain ⟨rest, tail, reads⟩ := Option.bind_eq_some_iff.1 reads
    cases reads
    rw [List.map_cons, List.map_cons, ih tail]

/-- All members of an object are read as they were if each of them is. -/
theorem mapM_eq_self {entries : List (String × α)} :
    ((entries.map fun e => (e.1, write e.2)).mapM fun m => (read m.2).map fun a => (m.1, a)) =
        some entries ↔
      ∀ e ∈ entries, read (write e.2) = some e.2 := by
  induction entries with
  | nil => simp
  | cons e entries ih =>
    obtain ⟨name, value⟩ := e
    rw [List.map_cons, List.mapM_cons, List.forall_mem_cons, ← ih]
    generalize List.mapM (m := Option) _ (entries.map fun e => (e.1, write e.2)) = found
    cases read (write value) <;> cases found <;> simp

/-- A dictionary is read back exactly if each of its values is. -/
theorem dict?_ofDict {d : Dict α} :
    dict? read (ofDict write d) = some d ↔ ∀ e ∈ d.entries, read (write e.2) = some e.2 := by
  rw [← mapM_eq_self, ofDict, dict?, Option.map_eq_some_iff]
  constructor
  · rintro ⟨found, reads, rfl⟩
    have names : found.map Prod.fst = (Dict.ofEntries found).entries.map Prod.fst := by
      rw [names_of_mapM reads, List.map_map, Function.comp_def]
    have inOrder : InOrder found :=
      List.pairwise_map.1 (names ▸ List.pairwise_map.2 (Dict.ofEntries found).inOrder)
    rw [reads, Dict.entries_ofEntries inOrder]
  · intro reads
    exact ⟨d.entries, reads, d.ofEntries_entries⟩

end Json

/-! ## Stories -/

/-- A scene is read as it was written. -/
theorem SceneRef.ofJson?_toJson (ref : SceneRef) : ofJson? ref.toJson = some ref :=
  rfl

/-- So is a scene that may be missing. -/
theorem SceneRef.option?_toJson (startup : Option SceneRef) :
    option? SceneRef.ofJson? (ofOption SceneRef.toJson startup) = some startup :=
  option?_ofOption startup SceneRef.ofJson?_toJson fun _ => Json.noConfusion

/-- So is a dictionary of texts. -/
theorem dict?_text (d : Dict String) : dict? text? (ofDict .text d) = some d :=
  dict?_ofDict.2 fun _ _ => rfl

/-- So is a chapter. -/
theorem Chapter.ofJson?_toJson (chapter : Chapter) : ofJson? chapter.toJson = some chapter := by
  show (dict? text? (ofDict .text chapter.scenes)).bind
    (fun scenes => some { chapter with scenes }) = some chapter
  rw [dict?_text, Option.bind_some]

/-- The size of a picture can be read. -/
def Size.Fits (size : Size) : Prop :=
  fitsSigned size.width = true ∧ fitsSigned size.height = true

/-- So is the size of a picture, exactly if its numbers are in range. -/
theorem Size.ofJson?_toJson (size : Size) : ofJson? size.toJson = some size ↔ size.Fits := by
  show (signed? (ofInt size.width)).bind (fun width =>
    (signed? (ofInt size.height)).bind fun height =>
    some { width, height }) = some size ↔ _
  rw [signed?_ofInt, signed?_ofInt, Fits]
  cases fitsSigned size.width <;> cases fitsSigned size.height <;> simp

namespace Assets

/-- The sizes of all pictures can be read. -/
def Fits (assets : Assets) : Prop :=
  ∀ group sizes, assets.ofGroup group = some sizes → ∀ e ∈ sizes.entries, e.2.Fits

/-- The member of the form in JSON for a group. -/
def member (assets : Assets) (group : Group) : Option (String × Json) :=
  (assets.ofGroup group).map fun sizes => (group.name, ofDict Size.toJson sizes)

/-- A member with the name of a group holds the sizes of the group. -/
theorem addMember?_name (assets : Assets) (group : Group) (j : Json) :
    assets.addMember? (group.name, j) = (dict? Size.ofJson? j).map (assets.setGroup group) := by
  have named : named? Group.all Group.name group.name = some group := by cases group <;> rfl
  rw [addMember?, named, Option.map_eq_bind]
  rfl

/-- New sizes for a group are the sizes of that group, and the other groups keep theirs. -/
theorem ofGroup_setGroup (assets : Assets) (group other : Group) (sizes : Dict Size) :
    (assets.setGroup group sizes).ofGroup other =
      if other = group then some sizes else assets.ofGroup other := by
  cases group <;> cases other <;> rfl

variable {assets acc result : Assets} {groups : List Group}

/-- Reading the members of some groups changes no other group. -/
theorem ofGroup_of_foldlM
    (reads : (groups.filterMap assets.member).foldlM addMember? acc = some result) {group : Group}
    (other : group ∉ groups) : result.ofGroup group = acc.ofGroup group := by
  induction groups generalizing acc with
  | nil => cases reads; rfl
  | cons head groups ih =>
    obtain ⟨different, other⟩ := not_or.1 (mt List.mem_cons.2 other)
    rw [List.filterMap_cons, member] at reads
    cases present : assets.ofGroup head with
    | none => rw [present] at reads; exact ih reads other
    | some sizes =>
      rw [present, Option.map_some, List.foldlM_cons, addMember?_name] at reads
      obtain ⟨next, step, reads⟩ := Option.bind_eq_some_iff.1 reads
      obtain ⟨found, -, rfl⟩ := Option.map_eq_some_iff.1 step
      rw [ih reads other, ofGroup_setGroup, if_neg different]

/-- Reading the members of some groups reads the sizes of each. -/
theorem dict?_of_foldlM (nodup : groups.Nodup)
    (reads : (groups.filterMap assets.member).foldlM addMember? acc = some result) {group : Group}
    (mem : group ∈ groups) {sizes : Dict Size} (present : assets.ofGroup group = some sizes) :
    dict? Size.ofJson? (ofDict Size.toJson sizes) = result.ofGroup group := by
  induction groups generalizing acc with
  | nil => cases mem
  | cons head groups ih =>
    obtain ⟨fresh, nodup⟩ := List.nodup_cons.1 nodup
    rw [List.filterMap_cons, member] at reads
    rcases List.mem_cons.1 mem with rfl | mem
    · rw [present, Option.map_some, List.foldlM_cons, addMember?_name] at reads
      obtain ⟨next, step, reads⟩ := Option.bind_eq_some_iff.1 reads
      obtain ⟨found, readable, rfl⟩ := Option.map_eq_some_iff.1 step
      rw [ofGroup_of_foldlM reads fresh, ofGroup_setGroup, if_pos rfl, readable]
    · cases absent : assets.ofGroup head with
      | none => rw [absent] at reads; exact ih nodup reads mem
      | some others =>
        rw [absent, Option.map_some, List.foldlM_cons] at reads
        obtain ⟨next, -, reads⟩ := Option.bind_eq_some_iff.1 reads
        exact ih nodup reads mem

/-- Assets are read as they were written, exactly if all sizes are in range. -/
theorem ofJson?_toJson : ofJson? assets.toJson = some assets ↔ assets.Fits := by
  have readable : assets.Fits ↔ ∀ group sizes, assets.ofGroup group = some sizes →
      dict? Size.ofJson? (ofDict Size.toJson sizes) = some sizes := by
    simp only [Fits, dict?_ofDict, Size.ofJson?_toJson]
  rw [readable]
  constructor
  · intro reads group sizes present
    rw [dict?_of_foldlM (by decide) reads (by cases group <;> decide) present, present]
  · intro back
    obtain ⟨background, character, object, dialogSprite⟩ := assets
    have b := back .background
    have c := back .character
    have o := back .object
    have d := back .dialogSprite
    cases background <;> cases character <;> cases object <;> cases dialogSprite <;>
      simp_all [ofJson?, toJson, Group.all, ofGroup, addMember?_name, setGroup]

end Assets

namespace Story

/-- The sizes of the pictures of a story can be read. -/
def Fits (story : Story) : Prop :=
  story.assets.Fits

/-- Names are read as they were written. -/
theorem names?_names (d : Dict Unit) : names? (.array (d.names.map .text)) = some d := by
  have texts (names : List String) : (names.map Json.text).mapM text? = some names := by
    induction names with
    | nil => rfl
    | cons name names ih => rw [List.map_cons, List.mapM_cons, ih]; rfl
  have entries : d.names.map (fun name => (name, ())) = d.entries :=
    List.map_map.trans (List.map_id _)
  rw [names?, list?, texts, Option.map_some, entries, Dict.ofEntries_entries]

/-- A story is read as it was written, exactly if all its sizes are in range. -/
theorem ofJson?_toJson (story : Story) : ofJson? story.toJson = some story ↔ story.Fits := by
  have reads : ofJson? story.toJson =
      (Assets.ofJson? story.assets.toJson).bind fun assets => some { story with assets } := by
    show ((option? SceneRef.ofJson? (ofOption SceneRef.toJson story.startup)).bind fun startup =>
      (dict? Chapter.ofJson? (ofDict Chapter.toJson story.chapters)).bind fun chapters =>
      (dict? text? (ofDict .text story.reusables)).bind fun reusables =>
      (Assets.ofJson? story.assets.toJson).bind fun assets =>
      (names? (.array (story.fonts.names.map .text))).bind fun fonts =>
        some (Story.mk startup chapters reusables assets fonts)) = _
    rw [SceneRef.option?_toJson, dict?_ofDict.2 fun e _ => e.2.ofJson?_toJson, dict?_text,
      names?_names]
    rfl
  rw [reads, Fits, ← Assets.ofJson?_toJson, Option.bind_eq_some_iff]
  constructor
  · rintro ⟨assets, found, same⟩
    rw [found, ← congrArg Story.assets (Option.some.inj same)]
  · exact fun found => ⟨_, found, rfl⟩

end Story

/-! ## Settings and messages -/

namespace Settings

/-- The numbers in settings can be read. -/
def Fits (settings : Settings) : Prop :=
  fitsSigned settings.displayWidth = true ∧ fitsSigned settings.displayHeight = true ∧
    settings.historyLimit < 18446744073709551616 ∧ settings.variablePasses < 18446744073709551616

/-- Settings are read as they were written, exactly if their numbers are in range. -/
theorem ofJson?_toJson (settings : Settings) :
    ofJson? settings.toJson = some settings ↔ settings.Fits := by
  have reads : ofJson? settings.toJson =
      (signed? (ofInt settings.displayWidth)).bind fun displayWidth =>
      (signed? (ofInt settings.displayHeight)).bind fun displayHeight =>
      (size? (ofNat settings.historyLimit)).bind fun historyLimit =>
      (size? (ofNat settings.variablePasses)).bind fun variablePasses =>
        some { settings with displayWidth, displayHeight, historyLimit, variablePasses } := by
    show (_ >>= fun _ => _ >>= fun _ => _ >>= fun _ => _ >>= fun _ =>
      option? SceneRef.ofJson? (ofOption SceneRef.toJson settings.startup) >>= _) = _
    rw [SceneRef.option?_toJson]
    rfl
  rw [reads, signed?_ofInt, signed?_ofInt, size?, natBelow?_ofNat, size?, natBelow?_ofNat, Fits]
  simp only [Option.bind_eq_some_iff, Option.ite_none_right_eq_some, Option.some.injEq]
  grind

end Settings

/-- A signal is read as it was written. -/
theorem Signal.ofJson?_toJson (signal : Signal) : ofJson? signal.toJson = some signal := by
  cases signal with
  | spriteAnimationStopped group name animation => cases group <;> cases animation <;> rfl
  | _ => rfl

namespace Waiting

/-- The number of frames can be read. -/
def Fits : Waiting → Prop
  | .haltAuto remaining => remaining < 4294967296
  | .rest remaining => remaining < 4294967296
  | _ => True

/-- What is waited for is read as it was written, exactly if its frames are in range. -/
theorem ofJson?_toJson (waiting : Waiting) :
    ofJson? waiting.toJson = some waiting ↔ waiting.Fits := by
  cases waiting with
  | haltAuto remaining =>
    show (natBelow? 4294967296 (ofNat remaining)).bind
      (fun frames => some (Waiting.haltAuto frames)) = _ ↔ _
    rw [natBelow?_ofNat, Fits]
    split <;> simp [*]
  | rest remaining =>
    show (natBelow? 4294967296 (ofNat remaining)).bind
      (fun frames => some (Waiting.rest frames)) = _ ↔ _
    rw [natBelow?_ofNat, Fits]
    split <;> simp [*]
  | _ => exact iff_of_true rfl trivial

end Waiting

namespace Entry

/-- The time of an event can be read. -/
def Fits (entry : Entry) : Prop :=
  entry.timestamp < 18446744073709551616

/-- An event is read as it was written, exactly if its time is in range. -/
theorem ofJson?_toJson (entry : Entry) : ofJson? entry.toJson = some entry ↔ entry.Fits := by
  have reads : ofJson? entry.toJson =
      (size? (ofNat entry.timestamp)).bind fun timestamp => some { entry with timestamp } := by
    obtain ⟨event, timestamp⟩ := entry
    cases event <;> rfl
  rw [reads, size?, natBelow?_ofNat, Fits]
  split <;> simp [*]

end Entry

/-! ## Fields that are left out -/

namespace Json

/-- Members without those of some names. -/
def without (dropped : List String) (members : List (String × Json)) : List (String × Json) :=
  members.filter fun m => m.1 ∉ dropped

/-- Members with their values changed in the light of their names. -/
def mapMembers (change : String → Json → Json) (members : List (String × Json)) :
    List (String × Json) :=
  members.map fun m => (m.1, change m.1 m.2)

/-- An object without the members of some names. -/
def prune (dropped : List String) : Json → Json
  | .object members => .object (without dropped members)
  | j => j

/-- A value is an object. -/
def IsObject : Json → Prop
  | .object _ => True
  | _ => False

variable {α : Type} {read : Json → Option α} {names dropped : List String}
  {members : List (String × Json)}
  {change : String → Json → Json} {name : String}

/-- A member is found unless it was left out. -/
theorem lookup_without :
    (without dropped members).lookup name =
      if name ∈ dropped then none else members.lookup name := by
  induction members with
  | nil => exact (ite_self none).symm
  | cons m members ih =>
    obtain ⟨other, value⟩ := m
    rw [without] at ih ⊢
    by_cases gone : other ∈ dropped
    · rw [List.filter_cons_of_neg (by simpa using gone), ih, List.lookup_cons]
      by_cases same : name = other
      · rw [same, if_pos gone, if_pos gone]
      · rw [beq_false_of_ne same]
    · rw [List.filter_cons_of_pos (by simpa using gone), List.lookup_cons, List.lookup_cons, ih]
      by_cases same : name = other
      · rw [same, if_neg gone, if_neg gone]
      · rw [beq_false_of_ne same]

/-- A member is found as it was changed. -/
theorem lookup_mapMembers :
    (mapMembers change members).lookup name = (members.lookup name).map (change name) := by
  induction members with
  | nil => rfl
  | cons m members ih =>
    obtain ⟨other, value⟩ := m
    rw [mapMembers, List.map_cons, List.lookup_cons, List.lookup_cons]
    by_cases same : name = other
    · rw [same, beq_self_eq_true, Option.map_some]
    · rw [beq_false_of_ne same]
      exact ih

/-- The members of an object are the fields of a record exactly if no field is named twice. -/
theorem fields?_object {fields : Fields} : (object members).fields? names = some fields ↔
    (∀ name ∈ names, members.countP (·.1 == name) ≤ 1) ∧ fields = ⟨false, members⟩ := by
  have refused : (names.any fun name => decide (1 < members.countP (·.1 == name))) = true ↔
      ¬ ∀ name ∈ names, members.countP (·.1 == name) ≤ 1 := by
    simp
  rw [fields?]
  split
  next repeated => simp [refused.1 repeated]
  next unrepeated =>
    rw [and_iff_right (Classical.not_not.1 (mt refused.2 unrepeated)), Option.some.injEq, eq_comm]

/-- A name that stood once at most still does when members are left out. -/
theorem once_without (once : ∀ name ∈ names, members.countP (·.1 == name) ≤ 1) :
    ∀ name ∈ names, (without dropped members).countP (·.1 == name) ≤ 1 :=
  fun name mem => Nat.le_trans (List.Sublist.countP_le List.filter_sublist) (once name mem)

/-- A name that stood once at most still does when values are changed. -/
theorem once_mapMembers (once : ∀ name ∈ names, members.countP (·.1 == name) ≤ 1) :
    ∀ name ∈ names, (mapMembers change members).countP (·.1 == name) ≤ 1 := by
  intro name mem
  rw [mapMembers, List.countP_map]
  exact once name mem

/-- A field with a default may be left out: it has that default then, and the others are as they
were. -/
theorem withDefault_without {default value : α}
    (reads : Fields.withDefault ⟨false, members⟩ name default read = some value) :
    Fields.withDefault ⟨false, without dropped members⟩ name default read =
      some (if name ∈ dropped then default else value) := by
  rw [Fields.withDefault, lookup_without]
  by_cases gone : name ∈ dropped
  · rw [if_pos gone, if_pos gone]
  · rw [if_neg gone, if_neg gone]
    exact reads

/-- A field is read as before if its value is not changed. -/
theorem withDefault_mapMembers_of_same {default : α} (same : ∀ j, change name j = j) :
    Fields.withDefault ⟨false, mapMembers change members⟩ name default read =
      Fields.withDefault ⟨false, members⟩ name default read := by
  rw [Fields.withDefault, lookup_mapMembers, funext same, Option.map_id']
  rfl

/-- If every change of a member changes what is read of it, all members are read as changed. -/
theorem mapM_mapMembers {f : String → α → α} {found : List (String × α)}
    (changes : ∀ m ∈ members, ∀ a, read m.2 = some a → read (change m.1 m.2) = some (f m.1 a))
    (reads : (members.mapM fun m => (read m.2).map fun a => (m.1, a)) = some found) :
    ((mapMembers change members).mapM fun m => (read m.2).map fun a => (m.1, a)) =
      some (found.map fun e => (e.1, f e.1 e.2)) := by
  induction members generalizing found with
  | nil => cases reads; rfl
  | cons m members ih =>
    obtain ⟨changed, changes⟩ := List.forall_mem_cons.1 changes
    rw [List.mapM_cons] at reads
    obtain ⟨e, head, reads⟩ := Option.bind_eq_some_iff.1 reads
    obtain ⟨a, readable, rfl⟩ := Option.map_eq_some_iff.1 head
    obtain ⟨rest, tail, reads⟩ := Option.bind_eq_some_iff.1 reads
    cases reads
    have tail := ih changes tail
    rw [mapMembers] at tail ⊢
    rw [List.map_cons, List.mapM_cons, changed a readable, tail]
    rfl

/-- A dictionary with its values changed is read as the dictionary of what the changed values are
read as. -/
theorem dict?_mapMembers {f : String → α → α} {d : Dict α}
    (changes : ∀ m ∈ members, ∀ a, read m.2 = some a → read (change m.1 m.2) = some (f m.1 a))
    (reads : dict? read (.object members) = some d) :
    dict? read (.object (mapMembers change members)) = some (d.mapNamed f) := by
  obtain ⟨found, finds, rfl⟩ := Option.map_eq_some_iff.1 reads
  rw [dict?, mapM_mapMembers changes finds, Option.map_some, Dict.ofEntries_map]

end Json

/-- Settings with the defaults for some fields. -/
def Settings.reset (dropped : List String) (settings : Settings) : Settings where
  displayWidth := if "display_width" ∈ dropped then 640 else settings.displayWidth
  displayHeight := if "display_height" ∈ dropped then 480 else settings.displayHeight
  historyLimit := if "history_limit" ∈ dropped then 1000 else settings.historyLimit
  variablePasses := if "variable_passes" ∈ dropped then 4 else settings.variablePasses
  startup := if "startup" ∈ dropped then none else settings.startup

/-- Settings with fields left out are read with the defaults for them. -/
theorem Settings.ofJson?_without {members : List (String × Json)} {settings : Settings}
    (reads : ofJson? (.object members) = some settings) (dropped : List String) :
    ofJson? (.object (without dropped members)) = some (settings.reset dropped) := by
  obtain ⟨fields, found, reads⟩ := Option.bind_eq_some_iff.1 reads
  obtain ⟨once, rfl⟩ := fields?_object.1 found
  obtain ⟨displayWidth, hwidth, reads⟩ := Option.bind_eq_some_iff.1 reads
  obtain ⟨displayHeight, hheight, reads⟩ := Option.bind_eq_some_iff.1 reads
  obtain ⟨historyLimit, hlimit, reads⟩ := Option.bind_eq_some_iff.1 reads
  obtain ⟨variablePasses, hpasses, reads⟩ := Option.bind_eq_some_iff.1 reads
  obtain ⟨startup, hstartup, reads⟩ := Option.bind_eq_some_iff.1 reads
  cases reads
  rw [ofJson?, fields?_object.2 ⟨once_without once, rfl⟩, Option.bind_eq_bind, Option.bind_some,
    withDefault_without hwidth]
  rw [withDefault_without hheight, withDefault_without hlimit, withDefault_without hpasses,
    withDefault_without hstartup]
  rfl

/-- A chapter with the defaults for some fields. -/
def Chapter.reset (dropped : List String) (chapter : Chapter) : Chapter where
  script := if "script" ∈ dropped then "" else chapter.script
  scenes := if "scenes" ∈ dropped then .empty else chapter.scenes

/-- A chapter with fields left out is read with the defaults for them. -/
theorem Chapter.ofJson?_prune {j : Json} {chapter : Chapter} {dropped : List String}
    (form : j.IsObject ∨ dropped = []) (reads : ofJson? j = some chapter) :
    ofJson? (j.prune dropped) = some (chapter.reset dropped) := by
  rcases form with form | rfl
  · obtain ⟨members, rfl⟩ : ∃ members, j = .object members := by
      cases j with
      | object members => exact ⟨members, rfl⟩
      | _ => exact form.elim
    obtain ⟨fields, found, reads⟩ := Option.bind_eq_some_iff.1 reads
    obtain ⟨once, rfl⟩ := fields?_object.1 found
    obtain ⟨script, hscript, reads⟩ := Option.bind_eq_some_iff.1 reads
    obtain ⟨scenes, hscenes, reads⟩ := Option.bind_eq_some_iff.1 reads
    cases reads
    rw [prune, ofJson?, fields?_object.2 ⟨once_without once, rfl⟩, Option.bind_eq_bind,
      Option.bind_some, withDefault_without hscript, withDefault_without hscenes]
    rfl
  · have same : j.prune [] = j := by
      cases j with
      | object members => simp [prune, without]
      | _ => rfl
    rw [same]
    exact reads

namespace Story

/-- A story with the defaults for some fields. -/
def reset (dropped : List String) (story : Story) : Story where
  startup := if "startup" ∈ dropped then none else story.startup
  chapters := if "chapters" ∈ dropped then .empty else story.chapters
  reusables := if "reusables" ∈ dropped then .empty else story.reusables
  assets := if "sprites" ∈ dropped then {} else story.assets
  fonts := if "fonts" ∈ dropped then .empty else story.fonts

variable {members : List (String × Json)} {story : Story}

/-- An object is read as a story field by field. -/
theorem ofJson?_object : ofJson? (.object members) = some story ↔
    (∀ name ∈ ["startup", "chapters", "reusables", "sprites", "fonts"],
      members.countP (·.1 == name) ≤ 1) ∧
    Fields.withDefault ⟨false, members⟩ "startup" none (option? SceneRef.ofJson?) =
      some story.startup ∧
    Fields.withDefault ⟨false, members⟩ "chapters" .empty (dict? Chapter.ofJson?) =
      some story.chapters ∧
    Fields.withDefault ⟨false, members⟩ "reusables" .empty (dict? text?) = some story.reusables ∧
    Fields.withDefault ⟨false, members⟩ "sprites" {} Assets.ofJson? = some story.assets ∧
    Fields.withDefault ⟨false, members⟩ "fonts" .empty names? = some story.fonts := by
  constructor
  · intro reads
    obtain ⟨fields, found, reads⟩ := Option.bind_eq_some_iff.1 reads
    obtain ⟨once, rfl⟩ := fields?_object.1 found
    obtain ⟨startup, hstartup, reads⟩ := Option.bind_eq_some_iff.1 reads
    obtain ⟨chapters, hchapters, reads⟩ := Option.bind_eq_some_iff.1 reads
    obtain ⟨reusables, hreusables, reads⟩ := Option.bind_eq_some_iff.1 reads
    obtain ⟨assets, hassets, reads⟩ := Option.bind_eq_some_iff.1 reads
    obtain ⟨fonts, hfonts, reads⟩ := Option.bind_eq_some_iff.1 reads
    cases reads
    exact ⟨once, hstartup, hchapters, hreusables, hassets, hfonts⟩
  · rintro ⟨once, hstartup, hchapters, hreusables, hassets, hfonts⟩
    rw [ofJson?, fields?_object.2 ⟨once, rfl⟩, Option.bind_eq_bind, Option.bind_some, hstartup,
      hchapters, hreusables, hassets, hfonts]
    rfl

/-- A story with fields left out is read with the defaults for them. -/
theorem ofJson?_without (reads : ofJson? (.object members) = some story) (dropped : List String) :
    ofJson? (.object (without dropped members)) = some (story.reset dropped) := by
  obtain ⟨once, hstartup, hchapters, hreusables, hassets, hfonts⟩ := ofJson?_object.1 reads
  exact ofJson?_object.2 ⟨once_without once, withDefault_without hstartup,
    withDefault_without hchapters, withDefault_without hreusables, withDefault_without hassets,
    withDefault_without hfonts⟩

/-- A member of a story, with some fields left out of its chapters if it is the one that holds
them. -/
def cutMember (cut : String → List String) (field : String) : Json → Json
  | .object chapters =>
    if field = "chapters" then .object (mapMembers (fun name => prune (cut name)) chapters)
    else .object chapters
  | j => j

/-- A story with the defaults for some fields of its chapters. -/
def resetChapters (cut : String → List String) (story : Story) : Story :=
  { story with chapters := story.chapters.mapNamed fun name => Chapter.reset (cut name) }

/-- A story with fields of its chapters left out is read with the defaults for them. -/
theorem ofJson?_cutMember (reads : ofJson? (.object members) = some story)
    {cut : String → List String}
    (forms : ∀ chapters, members.lookup "chapters" = some (.object chapters) →
      ∀ m ∈ chapters, m.2.IsObject ∨ cut m.1 = []) :
    ofJson? (.object (mapMembers (cutMember cut) members)) = some (story.resetChapters cut) := by
  obtain ⟨once, hstartup, hchapters, hreusables, hassets, hfonts⟩ := ofJson?_object.1 reads
  -- All members but the chapters stay as they are.
  have same {field : String} (other : field ≠ "chapters") (j : Json) :
      cutMember cut field j = j := by
    cases j with
    | object chapters => exact if_neg other
    | _ => rfl
  have hcut : Fields.withDefault ⟨false, mapMembers (cutMember cut) members⟩ "chapters" .empty
      (dict? Chapter.ofJson?) =
        some (story.chapters.mapNamed fun name => Chapter.reset (cut name)) := by
    rw [Fields.withDefault] at hchapters ⊢
    rw [lookup_mapMembers]
    cases present : members.lookup "chapters" with
    | none =>
      rw [present] at hchapters
      rw [← Option.some.inj hchapters]
      rfl
    | some j =>
      rw [present] at hchapters
      cases j with
      | object named =>
        exact dict?_mapMembers (fun m mem chapter =>
          Chapter.ofJson?_prune (forms named present m mem)) hchapters
      | _ => cases hchapters
  exact ofJson?_object.2 ⟨once_mapMembers once,
    (withDefault_mapMembers_of_same (same (by decide))).trans hstartup, hcut,
    (withDefault_mapMembers_of_same (same (by decide))).trans hreusables,
    (withDefault_mapMembers_of_same (same (by decide))).trans hassets,
    (withDefault_mapMembers_of_same (same (by decide))).trans hfonts⟩

end Story

/-! ## The round trip -/

/-- **What is written in JSON is read back.** Every story, all settings, every signal, every reason
to wait and every event of the history are read back from their forms in JSON, as long as their
numbers have the width that they are read with; a signal has no numbers. From an object that is read
as settings or as a story, any fields may be left out, and any fields of any chapters that are
objects themselves: what is read then has the defaults for them, and is the same in all else. -/
theorem Json.forms_are_read_back :
    (∀ story : Story, Story.ofJson? story.toJson = some story ↔ story.Fits) ∧
    (∀ settings : Settings, Settings.ofJson? settings.toJson = some settings ↔ settings.Fits) ∧
    (∀ signal : Signal, Signal.ofJson? signal.toJson = some signal) ∧
    (∀ waiting : Waiting, Waiting.ofJson? waiting.toJson = some waiting ↔ waiting.Fits) ∧
    (∀ entry : Entry, Entry.ofJson? entry.toJson = some entry ↔ entry.Fits) ∧
    (∀ members settings, Settings.ofJson? (.object members) = some settings →
      ∀ dropped, Settings.ofJson? (.object (without dropped members)) =
        some (settings.reset dropped)) ∧
    ∀ members story, Story.ofJson? (.object members) = some story →
      ∀ dropped cut, (∀ chapters, members.lookup "chapters" = some (.object chapters) →
          ∀ chapter ∈ chapters, chapter.2.IsObject ∨ cut chapter.1 = []) →
        Story.ofJson? (.object (without dropped (mapMembers (Story.cutMember cut) members))) =
          some ((story.resetChapters cut).reset dropped) := by
  refine ⟨Story.ofJson?_toJson, Settings.ofJson?_toJson, Signal.ofJson?_toJson,
    Waiting.ofJson?_toJson, Entry.ofJson?_toJson,
    fun members settings reads => Settings.ofJson?_without reads, ?_⟩
  intro members story reads dropped cut forms
  exact Story.ofJson?_without (Story.ofJson?_cutMember reads forms) dropped

/-- The members of some settings: a field is missing, and a member names no field. -/
def Settings.sample : List (String × Json) :=
  [("startup", (SceneRef.mk "dawn" "street").toJson), ("display_width", ofInt 320),
    ("volume", .bool true), ("history_limit", ofNat 18446744073709551615),
    ("variable_passes", ofNat 9)]

/-- The members of a story with three chapters, the last of which is written as a list. -/
def Story.sample : List (String × Json) :=
  [("fonts", .array [.text "serif", .text "mono", .text "serif"]),
    ("chapters", .object [
      ("dusk", .object [("scenes", .object [("end", .text "Bye.")]),
        ("script", .text "<font:mono>")]),
      ("dawn", .object [("script", .text "<font:serif>"),
        ("scenes", .object [("street", .text "Hello.")])]),
      ("noon", .array [.text "Heat."])]),
    ("sprites",
      .object [("dialog_sprite", .object [("bow", (Size.mk 2147483647 (-2147483648)).toJson)])])]

/-- Fields are left out of the settings, of the story and of two of its chapters. -/
theorem Json.samples_are_read_back :
    (∃ settings, Settings.ofJson? (.object Settings.sample) = some settings ∧ settings.Fits ∧
      settings.startup = some ⟨"dawn", "street"⟩ ∧
      Settings.ofJson? (.object (without ["startup", "history_limit"] Settings.sample)) =
        some { displayWidth := 320, variablePasses := 9 }) ∧
    ∃ story cut, Story.ofJson? (.object Story.sample) = some story ∧ story.Fits ∧
      Story.ofJson? (.object (without ["fonts"] (mapMembers (Story.cutMember cut) Story.sample))) =
        some { story with
          fonts := .empty
          chapters := .ofEntries [("dawn", { scenes := .ofEntries [("street", "Hello.")] }),
            ("dusk", {}), ("noon", { script := "Heat." })] } := by
  obtain ⟨stories, settings, -, -, -, fewerSettings, fewerFields⟩ := Json.forms_are_read_back
  constructor
  · have reads : Settings.ofJson? (.object Settings.sample) =
        some ⟨320, 480, 18446744073709551615, 9, some ⟨"dawn", "street"⟩⟩ := by
      decide +kernel
    exact ⟨_, reads, (settings _).1 (by decide +kernel), rfl, fewerSettings _ _ reads _⟩
  · let cut (name : String) : List String :=
      if name = "dawn" then ["script"] else if name = "dusk" then ["scenes", "script"] else []
    obtain ⟨story, reads, written, results⟩ : ∃ story,
        Story.ofJson? (.object Story.sample) = some story ∧
        Story.ofJson? story.toJson = some story ∧
        (story.resetChapters cut).reset ["fonts"] = { story with
          fonts := .empty
          chapters := .ofEntries [("dawn", { scenes := .ofEntries [("street", "Hello.")] }),
            ("dusk", {}), ("noon", { script := "Heat." })] } := by
      refine ⟨(Story.ofJson? (.object Story.sample)).getD {}, ?_⟩
      decide +kernel
    refine ⟨story, cut, reads, (stories story).1 written, results ▸ fewerFields _ _ reads _ cut ?_⟩
    intro chapters found
    cases found
    exact List.forall_mem_cons.2 ⟨.inl trivial, List.forall_mem_cons.2 ⟨.inl trivial,
      List.forall_mem_singleton.2 (.inr rfl)⟩⟩

end VisualNovel
