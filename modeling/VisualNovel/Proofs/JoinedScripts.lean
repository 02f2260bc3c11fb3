import VisualNovel.Proofs.LineGrammar

/-!
# A chapter and a scene as one text

A scene is read as one text: the script of its chapter, a line feed, and its own script. A review
looks at the two scripts one by one. Between the lines of the one text and those of the two there is
at most an empty line (`Text.map_tidy_lines_append`), so that the lines that hold something
(`Line.condense`) are those of the chapter and then those of the scene, whatever the chapter ends
with.

Nobody who reads these lines can tell the one text from the two. Lines that hold nothing can be left
out before reading or afterwards (`Role.readLines_condense`), so a reader does the same in every
frame of a run (`Reader.map_condense_attend`). A review says the same about every line
(`Review.asides_ofScript_append`), apart from blocks, which may begin in a chapter and end in a
scene.
-/

namespace VisualNovel

/-! ## Lines that hold something -/

namespace Line

/-- The lines of a script that hold something, each of them tidy. -/
def condense (lines : List String) : List String :=
  (lines.map tidy).filter (· ≠ "")

/-- The lines that hold something of two lists are those of the first and those of the second. -/
theorem condense_append (front back : List String) :
    condense (front ++ back) = condense front ++ condense back := by
  rw [condense, List.map_append, List.filter_append]
  rfl

/-- An empty line is left out. -/
theorem condense_cons_of_blank {raw : String} (blank : tidy raw = "") (lines : List String) :
    condense (raw :: lines) = condense lines := by
  simp [condense, blank]

/-- A line that holds something is kept, and is made tidy. -/
theorem condense_cons {raw : String} (nonblank : tidy raw ≠ "") (lines : List String) :
    condense (raw :: lines) = tidy raw :: condense lines := by
  simp [condense, nonblank]

/-- Joining two texts neither loses nor merges lines. -/
theorem condense_lines_append (first second : String) :
    condense (Text.lines (first ++ "\n" ++ second)) =
      condense (Text.lines first) ++ condense (Text.lines second) := by
  have silent : (Text.gap first).filter (· ≠ "") = [] := by
    unfold Text.gap
    split <;> rfl
  rw [condense, Text.map_tidy_lines_append, List.filter_append, List.filter_append, silent,
    List.append_nil]
  rfl

end Line

/-! ## Reading -/

namespace Role

variable (role : Role) (blocks : Blocks) (s : Session)

/-- A line that holds nothing asks for nothing. -/
theorem plan_of_blank {raw : String} (blank : Line.tidy raw = "") :
    role.plan blocks s raw = .idle s blocks .onward := by
  have unfilled : role.fill s "" = .ok "" := role.fill_of_not_hasPlaceholder s (by decide)
  unfold plan
  dsimp only
  rw [blank, unfilled]
  split <;> rfl

/-- What a line asks for is what it asks for when it is tidy. -/
theorem plan_tidy (raw : String) : role.plan blocks s (Line.tidy raw) = role.plan blocks s raw := by
  unfold plan
  rw [Line.tidy_tidy]

end Role

/-- A reader that has before it only lines that hold something. -/
def Reader.condense (reader : Reader) : Reader :=
  { reader with lines := Line.condense reader.lines }

/-- What a reader did, with only lines before it that hold something. -/
def Reading.condense (reading : Reading) : Reading :=
  { reading with reader := reading.reader.condense }

/-- Lines that hold nothing can be left out before reading or afterwards. -/
theorem Role.readLines_condense (role : Role) (start : Starter) (lines : List String)
    (blocks : Blocks) (s : Session) :
    role.readLines start (Line.condense lines) blocks s =
      (role.readLines start lines blocks s).condense := by
  induction lines generalizing blocks s with
  | nil => rfl
  | cons raw lines ih =>
    by_cases blank : Line.tidy raw = ""
    · rw [Line.condense_cons_of_blank blank, ih, readLines, role.plan_of_blank blocks s blank]
      rfl
    · -- The line is read in both, and what is left behind it is condensed or not.
      rw [Line.condense_cons blank, readLines, readLines, role.plan_tidy]
      rcases ((role.plan blocks s raw).carryOut start).verdict with _ | _ | _ | failure
      · exact ih _ _
      · dsimp only
        rcases role.lookUp ((role.plan blocks s raw).carryOut start).session with ⟨_ | _, looked⟩
        · exact ih _ _
        · rfl
      · rfl
      · rfl

namespace Reader

variable {a b : Reader} (start : Starter)

/-- A reader that goes on does the same without empty lines. -/
theorem proceed_condense (reader : Reader) (s : Session) :
    reader.condense.proceed start s = (reader.proceed start s).condense :=
  reader.role.readLines_condense start reader.lines reader.blocks s

/-- So does one that has its lines and looks whether it is held. -/
theorem advance_condense (reader : Reader) (s : Session) :
    reader.condense.advance start s = (reader.advance start s).condense := by
  have proceeds (t : Session) := reader.proceed_condense start t
  unfold advance
  rw [show reader.condense.role = reader.role from rfl]
  rcases reader.role.lookUp s with ⟨_ | _, t⟩
  · exact proceeds t
  · dsimp only
    rcases t.elapse start with ⟨u, _ | failure⟩
    · dsimp only
      rcases reader.role.lookUp u with ⟨_ | _, v⟩
      · exact proceeds v
      · rfl
    · rfl

/-- Readers with the same lines before them take the same lines from a story. -/
theorem map_condense_load (same : a.condense = b.condense) (story : Story) :
    (a.load story).map condense = (b.load story).map condense := by
  obtain ⟨role, lines, blocks, loaded, finished⟩ := a
  obtain ⟨role', lines', blocks', loaded', finished'⟩ := b
  simp only [condense, mk.injEq] at same
  obtain ⟨rfl, alike, rfl, rfl, rfl⟩ := same
  cases role with
  | main scene => simp only [load]
  | background name parameters => simp [load, Except.map, condense, alike]

/-- Readers with the same lines before them do the same in a frame. -/
theorem condense_step (same : a.condense = b.condense) (s : Session) :
    (a.step start s).condense = (b.step start s).condense := by
  have ended : a.finished = b.finished :=
    show a.condense.finished = b.condense.finished by rw [same]
  have ready : a.loaded = b.loaded := show a.condense.loaded = b.condense.loaded by rw [same]
  unfold step
  rw [ended, ready]
  split
  · exact congrArg (Reading.mk · s none) same
  · split
    · rw [← advance_condense, ← advance_condense, same]
    · have loads := map_condense_load same s.story
      rcases hone : a.load s.story with error | reader <;> rcases htwo :
        b.load s.story with error' | reader'
      all_goals rw [hone, htwo] at loads
      · cases loads
        exact congrArg (Reading.mk · s (some (.story error))) same
      · cases loads
      · cases loads
      · dsimp only
        rw [← advance_condense, ← advance_condense, Except.ok.inj loads]

/-- What a reader does in frame after frame. The session of each frame is any, since the other parts
of the engine change it between two steps of the reader. -/
def attend : Reader → List Session → List Reading
  | _, [] => []
  | reader, s :: sessions =>
    let reading := reader.step start s
    reading :: attend reading.reader sessions

/-- Readers with the same lines before them do the same in a run. -/
theorem map_condense_attend (same : a.condense = b.condense) (sessions : List Session) :
    (a.attend start sessions).map Reading.condense =
      (b.attend start sessions).map Reading.condense := by
  induction sessions generalizing a b with
  | nil => rfl
  | cons s sessions ih =>
    have frame := condense_step start same s
    rw [attend, attend, List.map_cons, List.map_cons, frame, ih (congrArg Reading.reader frame)]

/-- A reader at the beginning of a scene is one that has all of its lines before it. -/
theorem attend_ofScene {scene : SceneRef} {s : Session} {lines : List String}
    (found : s.story.sceneLines scene = .ok lines) (sessions : List Session) :
    (ofScene scene).attend start (s :: sessions) =
      ({ role := .main scene, lines } : Reader).attend start (s :: sessions) := by
  have loads : (ofScene scene).load s.story = .ok { role := .main scene, lines } := by
    simp [load, ofScene, found, Except.map]
  have frame : (ofScene scene).step start s =
      ({ role := .main scene, lines } : Reader).step start s := by
    rw [step, if_neg (show ¬ (ofScene scene).finished = true from Bool.false_ne_true),
      if_neg (show ¬ (ofScene scene).loaded = true from Bool.false_ne_true), loads]
    rfl
  rw [attend, attend, frame]

end Reader

/-! ## Reviews -/

/-- Whether a finding is about where blocks begin and end. -/
def Finding.isOfBlocks : Finding → Bool
  | .strayEnd | .strayBranch _ | .unclosedCase => true
  | _ => false

namespace Review

variable (story : Story) (kind : ScriptKind) (script : String)

/-- What remarks say, with the lines that they say it about, apart from blocks and places. -/
def asides (remarks : List Remark) : List (Finding × Option String) :=
  (remarks.filter (!·.finding.isOfBlocks)).map fun remark => (remark.finding, remark.detail)

/-- The asides of two lists are those of the first and those of the second. -/
theorem asides_append (front back : List Remark) :
    asides (front ++ back) = asides front ++ asides back := by
  rw [asides, List.filter_append, List.map_append]
  rfl

/-- Remarks on one line say what is found there. -/
theorem asides_map (findings : List Finding) (line : Option Nat) (detail : Option String) :
    asides (findings.map fun finding => { finding, script, line, detail }) =
      (findings.filter (!·.isOfBlocks)).map (·, detail) := by
  simp [asides, List.filter_map, Function.comp_def]

/-- What is found about blocks is no aside. -/
theorem filter_blockFindings (opened : List Nat) (name : String) (instruction : Instruction) :
    (blockFindings opened name instruction).filter (!·.isOfBlocks) = [] := by
  cases instruction with
  | caseEnd | orCase | caseElse => cases opened <;> rfl
  | _ => rfl

/-- What is said about a line, apart from blocks, does not depend on where it stands. -/
theorem asides_lineRemarks (opened : List Nat) (number : Nat) (line : String) :
    asides (lineRemarks story kind script opened number line) =
      asides (lineRemarks story kind "" [] 0 line) := by
  unfold lineRemarks
  dsimp only
  rw [asides_append, asides_append]
  congr 1
  · cases kind != .reusable && Placeholder.occurs Placeholder.parameterSigil line <;> rfl
  · rcases tag? line with _ | found
    · rfl
    · dsimp only
      rcases Instruction.ofName? found.name with _ | instruction
      · rfl
      · dsimp only
        rw [asides_append, asides_append, asides_map, asides_map, asides_map, asides_map,
          filter_blockFindings, filter_blockFindings]

/-- What is said about an empty line is nothing. -/
theorem asides_lineRemarks_empty (opened : List Nat) (number : Nat) :
    asides (lineRemarks story kind script opened number "") = [] := by
  have unparameterized : Placeholder.occurs Placeholder.parameterSigil "" = false := by decide
  have untagged : tag? "" = none := by decide
  unfold lineRemarks
  rw [untagged, unparameterized, Bool.and_false]
  rfl

/-- Apart from blocks, a review goes through the lines that hold something, one by one. -/
theorem asides_linesRemarks (opened : List Nat) (number : Nat) (lines : List String) :
    asides (linesRemarks story kind script opened number lines) =
      (Line.condense lines).flatMap fun line => asides (lineRemarks story kind "" [] 0 line) := by
  induction lines generalizing opened number with
  | nil => simp [linesRemarks, asides, Finding.isOfBlocks, Line.condense]
  | cons raw lines ih =>
    rw [linesRemarks, asides_append, ih]
    by_cases blank : Line.tidy raw = ""
    · rw [Line.condense_cons_of_blank blank, blank, asides_lineRemarks_empty, List.nil_append]
    · rw [Line.condense_cons blank, List.flatMap_cons, asides_lineRemarks]

/-- Apart from blocks, the review of two joined texts says what the reviews of the two say. -/
theorem asides_ofScript_append (whole front back first second : String) :
    asides (ofScript story .scene whole (first ++ "\n" ++ second)) =
      asides (ofScript story .chapter front first) ++
        asides (ofScript story .scene back second) := by
  -- A chapter and a scene are scripts of the same rights, so that their lines are reviewed alike.
  have alike : lineRemarks story .chapter = lineRemarks story .scene := rfl
  simp only [ofScript, asides_linesRemarks, Line.condense_lines_append, List.flatMap_append, alike]

end Review

/-! ## Joined scripts -/

namespace Story

/-- **Joined scripts.** Take any two texts, with whatever line ends, and a line feed between them.
The lines that hold something, each of them tidy, are those of the first text and then those of the
second. With the empty ones there is at most one line more, between the two. So the lines of a scene
are those of its chapter and its own; in every frame of a run a reader of the scene does what a
reader of the lines of the one text and then of the other does; and apart from blocks, a review of
the joined text says what the reviews of the two texts say. -/
theorem joined_scripts_keep_their_lines (first second : String) :
    Line.condense (Text.lines (first ++ "\n" ++ second)) =
      Line.condense (Text.lines first) ++ Line.condense (Text.lines second) ∧
    (Text.lines (first ++ "\n" ++ second)).map Line.tidy =
      (Text.lines first).map Line.tidy ++ Text.gap first ++ (Text.lines second).map Line.tidy ∧
    (∀ (story : Story) (scene : SceneRef) (chapter : Chapter),
      story.chapters.find? scene.chapter = some chapter → chapter.script = first →
      chapter.scenes.find? scene.scene = some second →
      (∃ lines, story.sceneLines scene = .ok lines ∧
        Line.condense lines =
          Line.condense (Text.lines first) ++ Line.condense (Text.lines second)) ∧
      ∀ (start : Starter) (s : Session) (sessions : List Session), s.story = story →
        ((Reader.ofScene scene).attend start (s :: sessions)).map Reading.condense =
          (({ role := .main scene, lines := Text.lines first ++ Text.lines second } : Reader).attend
            start (s :: sessions)).map Reading.condense) ∧
    ∀ (story : Story) (whole front back : String),
      Review.asides (Review.ofScript story .scene whole (first ++ "\n" ++ second)) =
        Review.asides (Review.ofScript story .chapter front first) ++
          Review.asides (Review.ofScript story .scene back second) := by
  refine ⟨Line.condense_lines_append first second, Text.map_tidy_lines_append first second, ?_,
    fun story whole front back => Review.asides_ofScript_append story whole front back first second⟩
  rintro story scene chapter hchapter rfl hscript
  have found := sceneLines_eq hchapter hscript
  refine ⟨⟨_, found, Line.condense_lines_append _ _⟩, ?_⟩
  rintro start s sessions rfl
  rw [Reader.attend_ofScene start found]
  refine Reader.map_condense_attend start ?_ _
  simp only [Reader.condense, Line.condense_lines_append, Line.condense_append]

/-- A chapter whose last line ends in carriage returns only, with a scene that begins with an empty
line. -/
def dawn : Chapter where
  script := "Morning.\r\n <rest: 2> \r\r"
  scenes := .ofEntries [("street", "\r\n<call: bell>\nHello\r")]

/-- The scene loses and merges no line, and its first frame is that of the lines of the two
texts. -/
theorem dawn_keeps_its_lines :
    let story : Story := { chapters := .ofEntries [("dawn", dawn)] }
    (∃ lines, story.sceneLines ⟨"dawn", "street"⟩ = .ok lines ∧
      Line.condense lines = ["Morning.", "<rest: 2>", "<call: bell>", "Hello"]) ∧
    ((Reader.ofScene ⟨"dawn", "street"⟩).attend Session.start [.fresh story {}]).map
      Reading.condense =
      (({ role := .main ⟨"dawn", "street"⟩
          lines := ["Morning.", " <rest: 2> \r\r", "", "<call: bell>", "Hello\r"] } : Reader).attend
        Session.start [.fresh story {}]).map Reading.condense := by
  intro story
  obtain ⟨-, -, plays, -⟩ := joined_scripts_keep_their_lines dawn.script "\r\n<call: bell>\nHello\r"
  obtain ⟨⟨lines, found, condensed⟩, frames⟩ :=
    plays story ⟨"dawn", "street"⟩ dawn (by decide +kernel) rfl (by decide +kernel)
  have apart : Text.lines dawn.script ++ Text.lines "\r\n<call: bell>\nHello\r" =
      ["Morning.", " <rest: 2> \r\r", "", "<call: bell>", "Hello\r"] := by decide +kernel
  rw [← apart]
  exact ⟨⟨lines, found, condensed.trans (by decide +kernel)⟩, frames Session.start _ [] rfl⟩

end Story

end VisualNovel
