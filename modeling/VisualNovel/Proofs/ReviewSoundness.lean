import VisualNovel.Proofs.BlockNesting
import VisualNovel.Proofs.Dictionaries
import VisualNovel.Proofs.Invariants
import VisualNovel.Proofs.Slots

/-!
# A reviewed story meets no missing scene

A frame fails by a mistake of the author in few ways: a scene is not there, a parameter is not
given, or the dialog gets a sound before it is defined. Where no line of a story has a placeholder,
the first two can be seen before the story is run: if the review of such a story finds no error, the
third one is all that is left.

The review looks at each text by itself, and a run goes by other ways: the scene of the settings,
scenes that wait for a cover, scripts that are started, and texts that are joined. The invariant is
that every scene to go to is there (`Session.Clean`), and that every line that a reader has before
it is approved (`Reader.Clean`).
-/

namespace VisualNovel

/-! ## The texts of a story -/

namespace Story

/-- The texts of all scripts of a story. -/
def texts (story : Story) : List String :=
  story.chapters.values.flatMap (fun chapter => chapter.script :: chapter.scenes.values) ++
    story.reusables.values

/-- No line of a story has a placeholder. -/
def Plain (story : Story) : Prop :=
  ∀ text ∈ story.texts, ∀ raw ∈ Text.lines text, Line.hasPlaceholder (Line.tidy raw) = false

instance (story : Story) : Decidable story.Plain :=
  inferInstanceAs (Decidable (∀ text ∈ story.texts, ∀ raw ∈ Text.lines text,
    Line.hasPlaceholder (Line.tidy raw) = false))

variable {story : Story}

/-- The script of a reusable script is one of the texts. -/
theorem mem_texts_of_reusable {name script : String}
    (h : story.reusables.find? name = some script) :
    script ∈ story.texts :=
  List.mem_append_right _ (Dict.mem_values_of_find? h)

/-- A scene that is there has lines, and its text is made of two of the texts. -/
theorem sceneLines_of_checkScene {scene : SceneRef} (h : story.checkScene scene = .ok ()) :
    ∃ first second, first ∈ story.texts ∧ second ∈ story.texts ∧
      story.sceneLines scene = .ok (Text.lines (first ++ "\n" ++ second)) := by
  unfold checkScene at h
  split at h
  · cases h
  · next chapter hchapter =>
    split at h
    · next hscene =>
      obtain ⟨script, hscript⟩ := Option.isSome_iff_exists.1 hscene
      have mem {text : String} (htext : text ∈ chapter.script :: chapter.scenes.values) :
          text ∈ story.texts :=
        List.mem_append_left _
          (List.mem_flatMap.2 ⟨chapter, Dict.mem_values_of_find? hchapter, htext⟩)
      refine ⟨chapter.script, script, mem (by simp), mem ?_, ?_⟩
      · exact List.mem_cons_of_mem _ (Dict.mem_values_of_find? hscript)
      · exact sceneLines_eq hchapter hscript
    · cases h

/-! ## Approved lines -/

/-- A line that a review has nothing grave to say about: it has no placeholder, and goes to no scene
that is not there. -/
structure Approves (story : Story) (line : String) : Prop where
  /-- It has no placeholder. -/
  plain : Line.hasPlaceholder line = false
  /-- The scene that it goes to is there. -/
  target : ∀ found instruction scene, Review.tag? line = some found →
    Instruction.ofName? found.name = some instruction →
    Review.sceneTarget? instruction found.arguments = some scene → story.checkScene scene = .ok ()

/-- The review finds nothing in an empty text. -/
theorem approves_empty (story : Story) : story.Approves "" :=
  ⟨by decide, fun _ _ _ h => by cases h⟩

end Story

/-! ## What a review finds -/

namespace Review

variable {story : Story}

/-- Without errors, no remark is one. -/
theorem level_ne_error_of_not_hasErrors {remarks : List Remark} (h : hasErrors remarks = false) :
    ∀ remark ∈ remarks, remark.level ≠ .error := by
  intro remark hremark hlevel
  have counted : 0 < count remarks .error :=
    List.length_pos_of_mem (List.mem_filter.2 ⟨hremark, by simp [hlevel]⟩)
  simp [hasErrors, counted] at h

/-- A line is remarked on in the review of its script. -/
theorem exists_lineRemarks_subset {text raw : String} (hraw : raw ∈ Text.lines text)
    (kind : ScriptKind) (script : String) :
    ∃ opened number, ∀ remark ∈ lineRemarks story kind script opened number (Line.tidy raw),
      remark ∈ ofScript story kind script text := by
  obtain ⟨front, back, hlines⟩ := List.append_of_mem hraw
  obtain ⟨remarks, hremarks⟩ := linesRemarks_append story kind script [] 1 front (raw :: back)
  refine ⟨openAfterLines [] 1 front, 1 + front.length, fun remark hremark => ?_⟩
  rw [ofScript, hlines, hremarks]
  exact List.mem_append_right _ (List.mem_append_left _ hremark)

/-- A scene that is not there is remarked on, if it can be seen where the line goes. -/
theorem missingScene_mem_lineRemarks (kind : ScriptKind) (script : String) (opened : List Nat)
    (number : Nat) {line : String} {found : Tag} {instruction : Instruction} {scene : SceneRef}
    {error : StoryError} (hfound : tag? line = some found)
    (hname : Instruction.ofName? found.name = some instruction)
    (known : hasPlaceholder found.arguments = false)
    (hscene : sceneTarget? instruction found.arguments = some scene)
    (hcheck : story.checkScene scene = .error error) :
    { finding := .missingScene error, script, line := some number, detail := some line } ∈
      lineRemarks story kind script opened number line := by
  simp [lineRemarks, hfound, hname, targetFindings, known, hscene, hcheck]

/-- Every text of a story is reviewed. -/
theorem exists_ofScript_subset {text : String} (h : text ∈ story.texts) :
    ∃ kind script, ∀ remark ∈ ofScript story kind script text, remark ∈ ofStory story := by
  rcases List.mem_append.1 h with h | h
  · obtain ⟨_, hchapter, htext⟩ := List.mem_flatMap.1 h
    obtain ⟨⟨name, chapter⟩, hentry, rfl⟩ := List.mem_map.1 hchapter
    have reviewed {remark : Remark} (hremark : remark ∈ ofChapter story name chapter) :
        remark ∈ ofStory story :=
      List.mem_append_left _ (List.mem_append_right _ (List.mem_flatMap.2 ⟨_, hentry, hremark⟩))
    rcases List.mem_cons.1 htext with rfl | htext
    · exact ⟨.chapter, s!"chapter:{name}", fun remark hremark =>
        reviewed (List.mem_append_left _ hremark)⟩
    · obtain ⟨⟨scene, _⟩, hscene, rfl⟩ := List.mem_map.1 htext
      refine ⟨.scene, s!"scene:{name}/{scene}", fun remark hremark =>
        reviewed (List.mem_append_right _ ?_)⟩
      exact List.mem_flatMap.2 ⟨_, hscene, hremark⟩
  · obtain ⟨⟨name, _⟩, hentry, rfl⟩ := List.mem_map.1 h
    refine ⟨.reusable, s!"reusable:{name}", fun remark hremark => List.mem_append_right _ ?_⟩
    exact List.mem_flatMap.2 ⟨_, hentry, hremark⟩

/-- If the review of a story without placeholders finds no error, every line is approved. -/
theorem approves_of_not_hasErrors (plain : story.Plain) (ok : hasErrors (ofStory story) = false)
    {text raw : String} (htext : text ∈ story.texts) (hraw : raw ∈ Text.lines text) :
    story.Approves (Line.tidy raw) := by
  have hplain := plain text htext raw hraw
  refine ⟨hplain, fun found instruction scene hfound hname hscene => ?_⟩
  rcases hcheck : story.checkScene scene with error | ⟨⟩
  · exfalso
    obtain ⟨kind, script, reviewed⟩ := exists_ofScript_subset htext
    obtain ⟨opened, number, remarked⟩ := exists_lineRemarks_subset hraw kind script
    have known := Tag.not_hasPlaceholder_arguments (Line.read?_of_read (read_of_tag? hfound)) hplain
    have missing := missingScene_mem_lineRemarks kind script opened number hfound hname known hscene
      hcheck
    exact level_ne_error_of_not_hasErrors ok _ (reviewed _ (remarked _ missing)) rfl
  · rfl

end Review

/-! ## Failures of lines -/

/-- A failure that a review does not look for: an author has given the dialog a sound before it was
defined, or the run came to an end for another reason. -/
def Failure.Harmless (failure : Failure) : Prop :=
  ∀ error, failure = .story error → ∃ tag, error = .dialogUndefined tag

/-- A failure that is no error of the story is harmless. -/
theorem Failure.harmless_crash (crash : Crash) : (Failure.crash crash).Harmless := by
  rintro _ ⟨⟩

/-- A sound that cannot be set is harmless. -/
theorem Session.harmless_of_setTextSound {s : Session} {tag : String} {arguments : Option String}
    {error : StoryError} (h : s.setTextSound tag arguments = .error error) :
    (Failure.story error).Harmless := by
  rintro _ ⟨⟩
  unfold Session.setTextSound at h
  split at h
  · split at h <;> cases h
  · cases h
    exact ⟨tag, rfl⟩

/-- Going to a scene fails if the scene that a review sees is not there. -/
theorem Session.goToScene_eq_error {s : Session} {arguments : Option String} {error : StoryError}
    (h : s.goToScene arguments = .error error) :
    ∃ scene, Review.sceneTarget? .scene arguments = some scene ∧
      s.story.checkScene scene = .error error := by
  unfold Session.goToScene at h
  split at h
  · cases h
  · next chapter scene hdecode =>
    refine ⟨⟨chapter, scene⟩, by simp [Review.sceneTarget?, hdecode], ?_⟩
    rcases hcheck : s.story.checkScene ⟨chapter, scene⟩ with error' | ⟨⟩
    · rw [hcheck] at h
      cases h
      rfl
    · rw [hcheck] at h
      cases h

/-- A change of scene behind a cover fails because the scene is not there. -/
theorem Session.goToCoveredScene_eq_error {s : Session} {arguments : Option String}
    {error : StoryError} (h : s.goToCoveredScene arguments = .error error) :
    ∃ scene, Review.sceneTarget? .sceneWithFade arguments = some scene ∧
      s.story.checkScene scene = .error error := by
  unfold Session.goToCoveredScene at h
  split at h
  · cases h
  · next chapter scene hdecode =>
    refine ⟨⟨chapter, scene⟩, by simp [Review.sceneTarget?, hdecode], ?_⟩
    rcases hcheck : s.story.checkScene ⟨chapter, scene⟩ with error' | ⟨⟩
    · rw [hcheck] at h
      cases h
      rfl
    · rw [hcheck] at h
      cases h

/-- A tag fails without harm, or because the scene is not there that a review sees. -/
theorem Session.execute_eq_error {s : Session} {isMain : Bool} {instruction : Instruction}
    {tag : Tag} {failure : Failure} (h : s.execute isMain instruction tag = .error failure) :
    failure.Harmless ∨ ∃ scene error, failure = .story error ∧
      Review.sceneTarget? instruction tag.arguments = some scene ∧
      s.story.checkScene scene = .error error := by
  have safe {α : Type} {x : Safe α} (hx : liftSafe x = .error failure) : failure.Harmless := by
    obtain ⟨crash, -, rfl⟩ := liftSafe_eq_error.1 hx
    exact Failure.harmless_crash crash
  cases instruction with
  | sprite group action => exact .inl (safe h)
  | showBackground => exact .inl (safe h)
  | hideBackground => exact .inl (safe h)
  | rest => exact .inl (safe h)
  | textSound =>
    obtain ⟨error, herror, rfl⟩ := liftStory_eq_error.1 h
    exact .inl (Session.harmless_of_setTextSound (map_eq_error.1 herror))
  | scene =>
    obtain ⟨error, herror, rfl⟩ := liftStory_eq_error.1 h
    obtain ⟨scene, htarget, hcheck⟩ := Session.goToScene_eq_error herror
    exact .inr ⟨scene, error, rfl, htarget, hcheck⟩
  | sceneWithFade =>
    obtain ⟨error, herror, rfl⟩ := liftStory_eq_error.1 h
    obtain ⟨scene, htarget, hcheck⟩ := Session.goToCoveredScene_eq_error herror
    exact .inr ⟨scene, error, rfl, htarget, hcheck⟩
  | _ => cases h

section fail

variable {role : Role} {blocks : Blocks} {s : Session} {failure : Failure}

/-- A tag fails by a crash while its blocks change, or when it is carried out. -/
theorem Role.fail_of_obey {tag : Tag} (h : (role.obey blocks s tag).verdict = .fail failure) :
    failure.Harmless ∨ ∃ instruction freshNames, Instruction.ofName? tag.name = some instruction ∧
      Session.execute { s with freshNames } role.isMain instruction tag = .error failure := by
  unfold Role.obey at h
  split at h
  · cases h
  · next instruction hname =>
    split at h
    · next crash _ =>
      cases h
      exact .inl (Failure.harmless_crash crash)
    · next freshNames _ =>
      dsimp only at h
      split at h
      · next failure' hexecute =>
        cases h
        exact .inr ⟨instruction, freshNames, hname, hexecute⟩
      · next outcome _ => cases hflow : outcome.flow <;> simp [hflow, Flow.verdict] at h

/-- A line fails only by its tag. -/
theorem Role.fail_of_obeyLine {line : String}
    (h : (role.obeyLine blocks s line).verdict = .fail failure) :
    ∃ found, Review.tag? line = some found ∧
      (role.obey blocks s found).verdict = .fail failure := by
  unfold Role.obeyLine at h
  split at h
  · cases h
  · cases h
  · split at h <;> cases h
  · next found hread => exact ⟨found, by simp [Review.tag?, hread], h⟩

/-- An approved line fails without harm. -/
theorem Role.harmless_of_plan {raw : String} (approved : s.story.Approves (Line.tidy raw))
    (h : (role.plan blocks s raw).verdict = .fail failure) : failure.Harmless := by
  unfold Role.plan at h
  dsimp only at h
  split at h
  · cases h
  · rw [role.fill_of_not_hasPlaceholder s approved.plain] at h
    obtain ⟨found, hfound, hobey⟩ := Role.fail_of_obeyLine h
    rcases Role.fail_of_obey hobey with harmless | ⟨instruction, freshNames, hname, hexecute⟩
    · exact harmless
    · rcases Session.execute_eq_error hexecute with harmless | ⟨scene, error, -, htarget, hcheck⟩
      · exact harmless
      · have there := approved.target found instruction scene hfound hname htarget
        cases there.symm.trans hcheck

end fail

/-! ## Clean runs -/

section clean

variable {story : Story}

/-- A session of a story in which every scene to go to is there. -/
structure Session.Clean (story : Story) (s : Session) : Prop where
  /-- The session is of that story. -/
  runs : s.story = story
  /-- The scene to go to in this frame is there. -/
  pending : ∀ scene, s.pendingScene = some scene → story.checkScene scene = .ok ()
  /-- The scene to go to when the screen is covered is there. -/
  covered : ∀ scene, s.coveredScene = some scene → story.checkScene scene = .ok ()

/-- A reader with approved lines before it, of a scene that is there. -/
structure Reader.Clean (story : Story) (reader : Reader) : Prop where
  /-- The lines that are not read yet are approved. -/
  lines : ∀ raw ∈ reader.lines, story.Approves (Line.tidy raw)
  /-- Its scene is there. -/
  scene : ∀ scene, reader.role = .main scene → story.checkScene scene = .ok ()

/-- A run that ends with a clean session, and fails at most without harm. -/
structure Session.CleanRun (story : Story) (failure : Option Failure) (s t : Session) : Prop where
  /-- The session is clean. -/
  clean : t.Clean story
  /-- The failure is harmless. -/
  harmless : ∀ f, failure = some f → f.Harmless

/-- What leaves the scenes alone keeps a session clean. -/
theorem Session.Stays.clean {s t : Session} (h : s.Stays t) (clean : s.Clean story) :
    t.Clean story where
  runs := h.story.trans clean.runs
  pending := by rw [h.pendingScene]; exact clean.pending
  covered := by rw [h.coveredScene]; exact clean.covered

/-- What a script does keeps a session clean. -/
theorem Session.Deed.clean {s t : Session} (h : s.Deed t) (clean : s.Clean story) :
    t.Clean story := by
  cases h with
  | ordinary ordinary => exact ordinary.stays.clean clean
  | defineDialog arguments =>
    rw [defineDialog_amend]
    exact (s.amend_stays rfl rfl _).clean clean
  | showDialog =>
    rw [showDialog_amend]
    exact (s.amend_stays rfl rfl _).clean clean
  | closeDialog =>
    rw [closeDialog_amend]
    exact (s.amend_stays rfl rfl _).clean clean
  | halt budget =>
    rw [halt_amend]
    exact (s.amend_stays rfl rfl _).clean clean
  | goTo scene found =>
    refine ⟨clean.runs, ?_, clean.covered⟩
    rintro _ ⟨⟩
    rwa [clean.runs] at found
  | goToCovered scene found _ =>
    refine ⟨clean.runs, clean.pending, ?_⟩
    rintro _ ⟨⟩
    rwa [clean.runs] at found

/-- What a reader does keeps a session clean. -/
theorem Role.Acts.clean {role : Role} {s t : Session} (h : role.Acts s t) (clean : s.Clean story) :
    t.Clean story := by
  cases h with
  | speaks words _ => exact (s.speak_stays words).clean clean
  | obeys freshNames deed => exact deed.clean ⟨clean.runs, clean.pending, clean.covered⟩

/-- A session that receives a signal stays clean. -/
theorem Session.Clean.receive {s : Session} (clean : s.Clean story) (signal : Option Signal) :
    (s.receive signal).Clean story := by
  cases signal with
  | none => exact clean
  | some signal =>
    by_cases hsignal : signal = .screenCovered
    · subst hsignal
      show s.screenCovered.Clean story
      unfold Session.screenCovered
      split
      · exact clean
      · next scene hscene =>
        refine ⟨clean.runs, ?_, by rintro _ ⟨⟩⟩
        rintro _ ⟨⟩
        exact clean.covered scene hscene
    · exact (Signal.effect_stays hsignal s).clean clean

/-- A reader whose scene is there gets its lines. -/
theorem Reader.load_ne_error {reader : Reader}
    (there : ∀ scene, reader.role = .main scene → story.checkScene scene = .ok ())
    {error : StoryError} :
    reader.load story ≠ .error error := by
  intro h
  unfold Reader.load at h
  split at h
  · next scene hrole =>
    obtain ⟨_, _, _, _, hlines⟩ := Story.sceneLines_of_checkScene (there scene hrole)
    rw [hlines] at h
    cases h
  · cases h

variable (approved : ∀ text ∈ story.texts, ∀ raw ∈ Text.lines text, story.Approves (Line.tidy raw))

include approved

/-- The lines of a scene that is there are approved. -/
theorem Story.approves_sceneLines {scene : SceneRef} {lines : List String}
    (hscene : story.checkScene scene = .ok ()) (hlines : story.sceneLines scene = .ok lines) :
    ∀ raw ∈ lines, story.Approves (Line.tidy raw) := by
  intro raw hraw
  obtain ⟨first, second, hfirst, hsecond, hjoined⟩ := Story.sceneLines_of_checkScene hscene
  cases hlines.symm.trans hjoined
  rcases Text.tidy_mem_lines_append hraw with hempty | ⟨raw', hraw' | hraw', hsame⟩
  · rw [hempty]
    exact story.approves_empty
  · exact hsame ▸ approved first hfirst raw' hraw'
  · exact hsame ▸ approved second hsecond raw' hraw'

/-- A reader that gets its lines stays clean. -/
theorem Reader.Clean.load {reader loaded : Reader} (clean : reader.Clean story)
    (h : reader.load story = .ok loaded) : loaded.Clean story := by
  unfold Reader.load at h
  split at h
  · next scene hrole =>
    obtain ⟨lines, hlines, rfl⟩ := map_eq_ok.1 h
    exact ⟨Story.approves_sceneLines approved (clean.scene scene hrole) hlines, clean.scene⟩
  · cases h
    exact ⟨clean.lines, clean.scene⟩

/-- Every step of a frame is clean. -/
theorem Session.cleanRun_frameRules :
    FrameRules (Session.Clean story) (Reader.Clean story) (Session.CleanRun story) := by
  have ok {s t : Session} (clean : t.Clean story) : CleanRun story none s t :=
    ⟨clean, by rintro _ ⟨⟩⟩
  exact {
    refl := ok
    trans := fun _ run => ⟨run.clean, run.harmless⟩
    keeps := fun _ run => run.clean
    line := by
      intro role lines blocks s raw hs hreader
      refine ⟨ok ((role.plan_acts blocks s raw).clean hs), ?_, hreader.scene⟩
      exact fun line hline => hreader.lines line (List.mem_cons_of_mem raw hline)
    fails := by
      intro role lines blocks s t raw failure hs hreader hv run
      refine ⟨run.clean, ?_⟩
      rintro _ ⟨⟩
      exact Role.harmless_of_plan (hs.runs ▸ hreader.lines raw List.mem_cons_self) hv
    finish := fun hreader => ⟨by simp, hreader.scene⟩
    look := fun {s} hs => ok (s.heldBy_ordinary.stays.clean hs)
    halt := fun {s} hs => ok (s.advanceHalt_stays.clean hs)
    rest := fun {s} hs => ok (s.advanceRest_ordinary.stays.clean hs)
    load := fun hs hreader hload => hreader.load approved (hs.runs ▸ hload)
    -- A scene that a clean session leads to is there, so that its script can be loaded.
    unloaded := by
      intro reader s error hs hreader hload
      exfalso
      exact Reader.load_ne_error hreader.scene (hs.runs ▸ hload)
    slots := fun background run =>
      ⟨⟨run.clean.runs, run.clean.pending, run.clean.covered⟩, run.harmless⟩
    starts := by
      intro s launch script hs hscript
      obtain ⟨-, -, hfound⟩ := startable?_eq_some hscript
      rw [hs.runs] at hfound
      refine ⟨⟨approved script (Story.mem_texts_of_reusable hfound), ?_⟩, ok ?_⟩
      · rintro _ ⟨⟩
      · exact ⟨hs.runs, hs.pending, hs.covered⟩
    timers := fun timers hs => ok ⟨hs.runs, hs.pending, hs.covered⟩
    scene := by
      intro s scene hs _ there
      rw [hs.runs] at there
      refine ⟨⟨by simp [Reader.ofScene], ?_⟩, ok ⟨hs.runs, ?_, ?_⟩⟩
      · rintro _ ⟨⟩
        exact there
      · rintro _ ⟨⟩
      · rintro _ ⟨⟩
    missing := by
      intro s scene error hs pending missing
      rw [hs.runs] at missing
      cases (hs.pending scene pending).symm.trans missing }

/-! ## Clean engines -/

/-- An engine of a story in which every scene to go to is there, and every line before a reader is
approved. -/
structure Engine.Clean (story : Story) (engine : Engine) : Prop where
  /-- The session. -/
  session : engine.session.Clean story
  /-- The readers in all slots. -/
  slots : engine.session.background.All (Reader.Clean story)
  /-- The reader of the main script. -/
  main : engine.main.Clean story

/-- A frame leaves a clean engine, and fails at most without harm. -/
theorem Engine.Clean.tick {engine : Engine} (clean : engine.Clean story) (signal : Option Signal) :
    (engine.tick signal).2.Clean story ∧
      ∀ failure, (engine.tick signal).1 = .error failure → failure.Harmless := by
  obtain ⟨failed, ok⟩ := (Session.cleanRun_frameRules approved).tick engine signal
    (clean.session.receive signal) clean.slots clean.main
  rcases htick : engine.tick signal with ⟨failure | ⟨cues, waiting⟩, after⟩
  · have ran := failed failure after htick
    refine ⟨⟨ran.run.clean, ran.slots, ran.main⟩, ?_⟩
    rintro _ ⟨⟩
    exact ran.run.harmless failure rfl
  · obtain ⟨last, ran, taken⟩ := ok cues waiting after htick
    cases taken
    have session := ran.run.clean
    refine ⟨⟨⟨session.runs, session.pending, session.covered⟩, ran.slots, ran.main⟩, ?_⟩
    rintro _ ⟨⟩

/-- All engines that the story can come to are clean. -/
theorem Engine.Reachable.clean {settings : Settings} {engine : Engine}
    (h : Reachable story settings engine) : engine.Clean story := by
  induction h with
  | create created =>
    obtain ⟨scene, there, rfl⟩ := create_eq_ok created
    refine ⟨⟨rfl, ?_, ?_⟩, .empty, by simp [opening, Reader.ofScene], ?_⟩
    · rintro _ ⟨⟩
    · rintro _ ⟨⟩
    · rintro _ ⟨⟩
      exact there
  | tick _ signal _ ih => exact (ih.tick approved signal).1
  | @write engine _ write ih =>
    have stays := (engine.write_ordinary write).stays
    exact ⟨stays.clean ih.session, stays.background ▸ ih.slots, engine.write_main write ▸ ih.main⟩

end clean

/-- If no line of a story has a placeholder and its review finds no error, then of all mistakes of
an author only one can end a frame: a tag that needs the dialog before the dialog is defined. No run
meets a chapter or a scene that is not there, or a parameter that is not given. -/
theorem reviewed_story_fails_only_by_undefined_dialog {story : Story} (plain : story.Plain)
    (reviewed : Review.hasErrors (Review.ofStory story) = false) {settings : Settings}
    {engine : Engine} (reachable : Engine.Reachable story settings engine)
    (signal : Option Signal) {error : StoryError}
    (failed : (engine.tick signal).1 = .error (.story error)) :
    ∃ tag, error = .dialogUndefined tag := by
  have approved (text : String) (htext : text ∈ story.texts) (raw : String)
      (hraw : raw ∈ Text.lines text) : story.Approves (Line.tidy raw) :=
    Review.approves_of_not_hasErrors plain reviewed htext hraw
  have harmless := ((reachable.clean approved).tick approved signal).2
  exact harmless _ failed error rfl

/-- A story in which a script of its own goes to a scene, which gives the dialog a sound too
early. -/
def hasty : Story where
  startup := some ⟨"dawn", "street"⟩
  chapters := .ofEntries [("dawn", {
    script := "Dawn.\n"
    scenes := .ofEntries [("street", "<call:bell>"), ("garden", "<dialog_text_sound:tick>")] })]
  reusables := .ofEntries [("bell", "<scene:dawn,garden>")]

/-- The review of the story finds no error, and its first frame goes to the other scene and fails
there. -/
theorem hasty_fails_by_undefined_dialog :
    hasty.Plain ∧ Review.hasErrors (Review.ofStory hasty) = false ∧
      ∃ engine error, Engine.Reachable hasty {} engine ∧
        (engine.tick none).1 = .error (.story error) ∧
        (engine.tick none).2.scene? = some ⟨"dawn", "garden"⟩ ∧
        ∃ tag, error = .dialogUndefined tag := by
  let new : Engine := .opening hasty {} ⟨"dawn", "street"⟩
  have reachable : Engine.Reachable hasty {} new := .create (by decide +kernel)
  have plain : hasty.Plain := by decide +kernel
  have reviewed : Review.hasErrors (Review.ofStory hasty) = false := by decide +kernel
  have frame : (new.tick none).1 = .error (.story (.dialogUndefined "dialog_text_sound")) ∧
      (new.tick none).2.scene? = some ⟨"dawn", "garden"⟩ := by decide +kernel
  exact ⟨plain, reviewed, new, _, reachable, frame.1, frame.2,
    reviewed_story_fails_only_by_undefined_dialog plain reviewed reachable none frame.1⟩

end VisualNovel
