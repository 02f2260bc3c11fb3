import VisualNovel.Proofs.Countdowns
import VisualNovel.Proofs.FailingTags

/-!
# Scenes to go to

A tag names a scene long before it begins: the scene waits until the frame comes to a point where
scenes begin, or until the screen is covered, frames later. Meanwhile other scripts name other
scenes, and a scene that begins forgets them all. A tag looks for its scene before it changes
anything, and that is the only look that can fail: every scene that an engine refers to is there, at
every moment of every frame, and a frame that fails for want of a scene fails at a tag
(`scene_references_stay_valid`).

What waits is followed along the log of a frame, happening by happening (`Happening.clean`). The
scene of the main script is the one that began last (`SceneRef.after`).
-/

namespace VisualNovel

/-! ## Scenes of a story -/

/-- A scene of a story: its chapter is there, and has it. -/
def Story.HasScene (story : Story) (scene : SceneRef) : Prop :=
  ∃ chapter script, story.chapters.find? scene.chapter = some chapter ∧
    chapter.scenes.find? scene.scene = some script

/-- A scene is there if the check finds it. -/
theorem Story.hasScene_iff {story : Story} {scene : SceneRef} :
    story.HasScene scene ↔ story.checkScene scene = .ok () := by
  unfold HasScene checkScene
  rcases story.chapters.find? scene.chapter with _ | chapter
  · simp
  · rcases hscene : chapter.scenes.find? scene.scene with _ | script
    · simp [Dict.contains, hscene]
    · simp [Dict.contains, hscene]

/-- Tags of two kinds go to a scene. -/
theorem Review.eq_of_sceneTarget?_eq_some {instruction : Instruction} {arguments : Option String}
    {scene : SceneRef} (h : sceneTarget? instruction arguments = some scene) :
    instruction = .scene ∨ instruction = .sceneWithFade := by
  unfold sceneTarget? at h
  split at h
  · exact .inl rfl
  · exact .inr rfl
  · cases h

/-! ## Scenes along a log -/

section clean

variable {story : Story}

/-- Whatever happens, every scene to go to is there. -/
theorem Happening.clean (happening : Happening) {s : Session} (clean : s.Clean story) :
    (happening.apply s).Clean story := by
  cases happening with
  | received signal => exact clean.receive (some signal)
  | spoken words => exact (s.speak_stays words).clean clean
  | obeyed isMain freshNames instruction tag =>
    have clean' : Session.Clean story { s with freshNames } :=
      ⟨clean.runs, clean.pending, clean.covered⟩
    unfold apply
    dsimp only
    split
    · next hexecute => exact (Session.execute_deed _ hexecute).clean clean'
    · exact clean'
  | looked => exact s.heldBy_ordinary.stays.clean clean
  | haltWent => exact s.advanceHalt_stays.clean clean
  | sceneBegan scene => exact ⟨clean.runs, nofun, nofun⟩
  | sceneMissing => exact ⟨clean.runs, nofun, clean.covered⟩
  | _ => exact ⟨clean.runs, clean.pending, clean.covered⟩

/-- A clean session stays so through a log. -/
theorem Session.Clean.replay {s : Session} (clean : s.Clean story) (log : List Happening) :
    (s.replay log).Clean story := by
  induction log generalizing s with
  | nil => exact clean
  | cons happening log ih => exact ih (happening.clean clean)

end clean

/-- The scene that something begins. -/
def Happening.began? : Happening → Option SceneRef
  | sceneBegan scene => some scene
  | _ => none

/-- The scene that is read after a log, if this one was read before. -/
def SceneRef.after (scene : SceneRef) (log : List Happening) : SceneRef :=
  log.foldl (fun scene happening => happening.began?.getD scene) scene

namespace SceneRef

variable (scene : SceneRef)

/-- Two logs begin scenes one after the other. -/
@[simp] theorem after_append (log log' : List Happening) :
    scene.after (log ++ log') = (scene.after log).after log' :=
  List.foldl_append

/-- The scene that is read after a log is the one before, or it has begun in the log. -/
theorem after_eq_or_mem (log : List Happening) :
    scene.after log = scene ∨ .sceneBegan (scene.after log) ∈ log := by
  induction log generalizing scene with
  | nil => exact .inl rfl
  | cons happening log ih =>
    rcases ih (happening.began?.getD scene) with same | mem
    · cases happening with
      | sceneBegan begun =>
        right
        rw [show scene.after (.sceneBegan begun :: log) = begun from same]
        exact List.mem_cons_self
      | _ => exact .inl same
    · exact .inr (List.mem_cons_of_mem _ mem)

end SceneRef

/-- Nothing that begins a scene, or fails to. -/
def Happening.keepsScene : Happening → Bool
  | sceneBegan _ => false
  | sceneMissing => false
  | _ => true

/-- What happens when a script is read begins no scene. -/
theorem Happening.keepsScene_of_isRead {happening : Happening} (h : happening.isRead = true) :
    happening.keepsScene = true := by
  cases happening with
  | sceneBegan => cases h
  | sceneMissing => cases h
  | _ => rfl

/-- Where no scene begins, the same one is read. -/
theorem SceneRef.after_of_keepsScene (scene : SceneRef) {log : List Happening}
    (h : ∀ happening ∈ log, happening.keepsScene = true) : scene.after log = scene := by
  rcases scene.after_eq_or_mem log with same | mem
  · exact same
  · cases h _ mem

/-! ## Engines that know their way -/

namespace Engine

/-- The scenes that an engine refers to: that of the main script, the one that is to begin, and the
one that is to begin once the screen is covered. -/
def scenes (engine : Engine) : List SceneRef :=
  engine.scene?.toList ++ engine.session.pendingScene.toList ++ engine.session.coveredScene.toList

/-- An engine of a story that refers to scenes of the story only, and reads one of them. -/
structure Guided (story : Story) (engine : Engine) : Prop where
  /-- The engine runs the story. -/
  runs : engine.session.story = story
  /-- The main script is that of a scene. -/
  main : engine.scene?.isSome = true
  /-- Every scene that it refers to is there. -/
  there : ∀ scene ∈ engine.scenes, story.HasScene scene

/-- Nothing that looks for a scene fails. -/
structure FindsScenes (engine : Engine) : Prop where
  /-- The scene that is to begin begins. -/
  begins : ∀ failure, (Part.beginScene.outcome engine).1 ≠ .error failure
  /-- So does any scene that the engine refers to. -/
  switches : ∀ scene ∈ engine.scenes,
    (Part.switchScene scene).outcome engine = (.ok (), engine.enterScene scene)
  /-- The reader of the main script gets its lines. -/
  loads : ∀ error, engine.main.load engine.session.story ≠ .error error
  /-- Every scene that the engine refers to has a text. -/
  texts : ∀ scene ∈ engine.scenes, ∃ text, engine.session.story.sceneText scene = .ok text

variable {story : Story} {engine : Engine}

/-- An engine refers to the scene of its main script, the one that is to begin and the covered one.
-/
theorem mem_scenes {scene : SceneRef} :
    scene ∈ engine.scenes ↔ engine.scene? = some scene ∨
      engine.session.pendingScene = some scene ∨ engine.session.coveredScene = some scene := by
  simp [scenes]

/-- The scene of an engine is that of its main reader. -/
theorem scene?_eq_some {scene : SceneRef} :
    engine.scene? = some scene ↔ engine.main.role = .main scene := by
  unfold scene?
  cases engine.main.role <;> simp

/-- A clean engine that reads a scene of the story is guided. -/
theorem Guided.of_clean {scene : SceneRef} (clean : engine.session.Clean story)
    (reads : engine.scene? = some scene) (there : story.checkScene scene = .ok ()) :
    engine.Guided story where
  runs := clean.runs
  main := Option.isSome_of_eq_some reads
  there target mem := by
    rw [Story.hasScene_iff]
    rcases mem_scenes.1 mem with main | pending | covered
    · cases reads.symm.trans main
      exact there
    · exact clean.pending target pending
    · exact clean.covered target covered

/-- In a guided engine every scene that is looked for is found. -/
theorem Guided.findsScenes (h : engine.Guided story) : engine.FindsScenes := by
  have check (scene : SceneRef) (mem : scene ∈ engine.scenes) :
      engine.session.story.checkScene scene = .ok () :=
    h.runs ▸ Story.hasScene_iff.1 (h.there scene mem)
  refine ⟨fun failure => ?_, fun scene mem => ?_, fun error => ?_, fun scene mem => ?_⟩
  · rw [Part.outcome_beginScene]
    rcases hscene : engine.session.pendingScene with _ | scene
    · simp
    · simp [check scene (mem_scenes.2 (.inr (.inl hscene)))]
  · rw [Part.outcome_switchScene, check scene mem]
  · exact Reader.load_ne_error fun scene role =>
      check scene (mem_scenes.2 (.inl (scene?_eq_some.2 role)))
  · obtain ⟨chapter, script, hchapter, hscript⟩ := Story.hasScene_iff.2 (check scene mem)
    exact ⟨chapter.script ++ "\n" ++ script, by simp [Story.sceneText, hchapter, hscript]⟩

/-! ### The course of a frame -/

open Account

/-- A moment of a frame of an engine that read a scene: what came of the scenes since then. -/
structure OnTrack (story : Story) (scene : SceneRef) (engine : Engine) (log : List Happening) :
    Prop where
  /-- The slots have their readers. -/
  settled : engine.Settled story
  /-- Every scene to go to is there. -/
  clean : engine.session.Clean story
  /-- The scene that began last is read. -/
  role : engine.main.role = .main (scene.after log)
  /-- The scenes that began are there. -/
  there : ∀ begun, begun = scene ∨ .sceneBegan begun ∈ log → story.checkScene begun = .ok ()
  /-- No scene was missing. -/
  found : .sceneMissing ∉ log

variable {s : Session} {scene : SceneRef} {log past : List Happening}

/-- The scene of the main script is there, at this moment and before. -/
theorem OnTrack.checkScene_after (h : engine.OnTrack story scene log) (earlier : past <+: log) :
    story.checkScene (scene.after past) = .ok () := by
  refine h.there _ ?_
  rcases scene.after_eq_or_mem past with same | mem
  · exact .inl same
  · exact .inr (earlier.subset mem)

/-- On its track, an engine reads the scene that has begun last. -/
theorem OnTrack.scene?_eq (h : engine.OnTrack story scene log) :
    engine.scene? = some (scene.after log) :=
  scene?_eq_some.2 h.role

/-- A frame that failed on its way: if it was for want of a scene, it was at a tag. -/
def Strays (story : Story) (scene : SceneRef) (s : Session) (failure : Failure) (engine : Engine)
    (log : List Happening) : Prop :=
  engine.OnTrack story scene log ∧ (failure.missesScene = true → s.FailsAt failure log)

/-- No scene begins meanwhile, and the main script is where it was. -/
theorem OnTrack.append {engine' : Engine} (h : engine.OnTrack story scene past)
    (settled : engine'.Settled story) (clean : engine'.session.Clean story)
    (role : engine'.main.role = engine.main.role)
    (kinds : ∀ happening ∈ log, happening.keepsScene = true) :
    engine'.OnTrack story scene (past ++ log) := by
  refine ⟨settled, clean, ?_, ?_, ?_⟩
  · rw [role, SceneRef.after_append, SceneRef.after_of_keepsScene _ kinds, h.role]
  · rintro begun (rfl | mem)
    · exact h.there begun (.inl rfl)
    · rcases List.mem_append.1 mem with mem | mem
      · exact h.there begun (.inr mem)
      · cases kinds _ mem
  · intro mem
    rcases List.mem_append.1 mem with mem | mem
    · exact h.found mem
    · cases kinds _ mem

/-- The rule for a part in which no scene begins and that leaves the main script where it is. -/
theorem onTrack_of_keepsScene {α : Type} {x : Account α} (settles : Part.Settles story x.part)
    (role : ∀ engine, (x.part.outcome engine).2.main.role = engine.main.role)
    (kinds : ∀ engine, ∀ happening ∈ x.log engine, happening.keepsScene = true)
    (blames : ∀ engine past failure, engine.OnTrack story scene past →
      (x.part.outcome engine).1 = .error failure → failure.missesScene = true →
      engine.session.FailsAt failure (x.log engine)) :
    Account.Ensures s (OnTrack story scene) x (fun _ => OnTrack story scene)
      (Strays story scene s) := by
  intro engine past hs course
  have clean := course.clean.replay (x.log engine)
  rw [x.replay engine] at clean
  have onward (settled : (x.part.outcome engine).2.Settled story) :=
    course.append settled clean (role engine) (kinds engine)
  obtain ⟨ok, failed⟩ := settles engine course.settled
  rcases hout : x.part.outcome engine with ⟨failure | a, engine'⟩
  · rw [hout] at onward
    refine ⟨by rintro _ _ ⟨⟩, ?_⟩
    rintro _ _ ⟨⟩
    refine ⟨onward (failed failure engine' hout), fun misses => .behind past ?_⟩
    exact hs ▸ blames engine past failure course (congrArg Prod.fst hout) misses
  · rw [hout] at onward
    refine ⟨?_, by rintro _ _ ⟨⟩⟩
    rintro _ _ ⟨⟩
    exact onward (ok a engine' hout)

/-- The beginning of a scene stays on track. -/
theorem onTrack_beginScene :
    Account.Ensures s (OnTrack story scene) beginScene (fun _ => OnTrack story scene)
      (Strays story scene s) := by
  refine .beginScene (fun _ _ course _ => course) ?_ ?_
  · -- The scene was there when it was named, and the story does not change.
    intro engine past target error course pending missing
    rw [course.settled.runs] at missing
    cases (course.clean.pending target pending).symm.trans missing
  · intro engine past target course pending found
    rw [course.settled.runs] at found
    refine ⟨settled_enterScene engine.unpend course.settled.runs target,
      Happening.clean (.sceneBegan target) course.clean, ?_, ?_, ?_⟩
    · rw [SceneRef.after_append]
      rfl
    · rintro begun (rfl | mem)
      · exact course.there begun (.inl rfl)
      · rcases List.mem_append.1 mem with mem | mem
        · exact course.there begun (.inr mem)
        · cases List.mem_singleton.1 mem
          exact found
    · simp [course.found]

/-- The start of a script stays on track. -/
theorem onTrack_launch (launch : Launch) :
    Account.Ensures s (OnTrack story scene) (Account.launch launch) (fun _ => OnTrack story scene)
      (Strays story scene s) := by
  have outcome := Part.outcome_perform fun session => { session, launch := some launch }
  refine onTrack_of_keepsScene (Part.settles_launch launch) (fun engine => ?_) ?_ ?_
  · exact congrArg (fun outcome => outcome.2.main.role) (outcome engine)
  · exact fun engine happening mem => Happening.keepsScene_of_isRead
      (Happening.isRead_of_isScripted (engine.session.logStart_scripted launch happening mem))
  · intro engine past failure _ failed misses
    have failed' := (congrArg Prod.fst (outcome engine)).symm.trans failed
    exact Session.logStart_blames _ launch failure (Part.resultOf_eq_error.1 failed') misses

/-- A signal stays on track. -/
theorem onTrack_receive (signal : Signal) :
    Account.Ensures s (OnTrack story scene) (receive signal) (fun _ => OnTrack story scene)
      (Strays story scene s) := by
  have outcome (engine : Engine) :=
    Part.receive_eq signal ▸ Part.outcome_perform signal.effect engine
  refine onTrack_of_keepsScene (Part.settles_receive signal) (fun engine => ?_) ?_ ?_
  · exact congrArg (fun outcome => outcome.2.main.role) (outcome engine)
  · intro engine happening mem
    rcases eq_or_scripted_of_mem_receive happening mem with rfl | scripted
    · rfl
    · exact Happening.keepsScene_of_isRead (Happening.isRead_of_isScripted scripted)
  · intro engine past failure _ failed misses
    have failed' := (congrArg Prod.fst (outcome engine)).symm.trans failed
    exact .behind [.received signal]
      (Effect.failsAt_log Session.logStart_blames (Part.resultOf_eq_error.1 failed') misses)

/-- The turn of the main script stays on track. -/
theorem onTrack_readMain :
    Account.Ensures s (OnTrack story scene) readMain (fun _ => OnTrack story scene)
      (Strays story scene s) := by
  refine onTrack_of_keepsScene Part.settles_readMain (fun engine => ?_) ?_ ?_
  · show (Part.readMain.outcome engine).2.main.role = _
    rw [Part.outcome_readMain]
    exact engine.main.step_role _ _
  · exact fun engine happening mem =>
      Happening.keepsScene_of_isRead (isRead_of_mem_readMain happening mem)
  · intro engine past failure course failed misses
    have failed' := (congrArg Prod.fst (Part.outcome_readMain engine)).symm.trans failed
    refine Reader.failsAt_log Session.logStart_faithful Session.logStart_blames ?_
      (Part.resultOf_eq_error.1 failed') misses
    intro target role
    cases course.role.symm.trans role
    rw [course.settled.runs]
    exact course.checkScene_after (List.prefix_refl past)

/-- The turn of a new scene stays on track. -/
theorem onTrack_readNewScene :
    Account.Ensures s (OnTrack story scene) readNewScene (fun _ => OnTrack story scene)
      (Strays story scene s) := by
  refine .bind onTrack_beginScene fun begun => ?_
  cases begun with
  | false => exact .pure fun _ _ course => course
  | true => exact onTrack_readMain

/-- The turn of a background script stays on track. -/
theorem onTrack_readBackground (index : Nat) :
    Account.Ensures s (OnTrack story scene) (readBackground index) (fun _ => OnTrack story scene)
      (Strays story scene s) := by
  refine onTrack_of_keepsScene (Part.settles_readBackground index) (fun engine => ?_) ?_ ?_
  · show ((Part.readBackground index).outcome engine).2.main.role = _
    rw [Part.outcome_readBackground]
    split
    · rfl
    · split <;> rfl
  · exact fun engine happening mem =>
      Happening.keepsScene_of_isRead (isRead_of_mem_readBackground happening mem)
  · intro engine past failure course failed misses
    rw [show (readBackground index).part = Part.readBackground index from rfl,
      Part.outcome_readBackground] at failed
    unfold readBackground
    dsimp only
    by_cases pending : engine.session.pendingScene.isSome
    · rw [if_pos pending] at failed
      cases failed
    · rw [if_neg pending] at failed ⊢
      rcases out : engine.session.background.checkOut? index with _ | ⟨reader, background⟩
      · rw [out] at failed
        cases failed
      · rw [out] at failed
        have fails : Session.FailsAt { engine.session with background } failure
            (reader.log Session.start Session.logStart { engine.session with background }) := by
          refine Reader.failsAt_log Session.logStart_faithful Session.logStart_blames ?_
            (Part.resultOf_eq_error.1 failed) misses
          -- A reader in a slot reads no scene, so that its own script cannot be the one that is
          -- missing.
          intro target role
          cases (course.settled.isMain_of_checkOut? out).symm.trans (congrArg Role.isMain role)
        exact (Session.FailsAt.behind [.slots background] fails).checkIn _

/-- The timers stay on track. -/
theorem onTrack_runTimers :
    Account.Ensures s (OnTrack story scene) runTimers (fun _ => OnTrack story scene)
      (Strays story scene s) := by
  refine .runTimers (fun _ => OnTrack story scene) ?_ fun launch _ => onTrack_launch launch
  intro engine past _ course
  exact course.append ⟨course.settled.runs, course.settled.slots⟩
    (Happening.clean .timersRan course.clean) rfl (List.forall_mem_singleton.2 rfl)

/-- Through all parts of a frame. -/
theorem onTrack_phases (s : Session) (signal : Option Signal) :
    Phases s signal (OnTrack story scene) (OnTrack story scene) (OnTrack story scene)
      (Strays story scene s) where
  receive signal _ := onTrack_receive signal
  early := onTrack_beginScene
  timers := onTrack_runTimers
  late := onTrack_beginScene
  main := onTrack_readMain
  scene := onTrack_readNewScene
  slot := onTrack_readBackground
  purge := by
    have settles : Part.Settles story purge.part :=
      .of_outcome (Part.outcome_change fun session =>
        { session with background := session.background.purge })
        (fun _ _ settled _ => ⟨settled.runs, settled.slots.purge⟩)
        fun _ _ _ failed => by cases failed
    exact onTrack_of_keepsScene settles (fun _ => rfl) (fun _ => List.forall_mem_singleton.2 rfl)
      fun _ _ _ _ failed => by cases failed
  look := by
    refine onTrack_of_keepsScene ?_ (fun engine => ?_) (fun _ => List.forall_mem_singleton.2 rfl)
      fun _ _ _ _ failed => by cases failed
    · exact .modifyGet fun engine settled => settled.grown (engine.waiting_keeps.grown none) _
    · exact congrArg (fun after => after.main.role) engine.waiting_engine

/-- A frame stays on track, and if it fails for want of a scene, it does so at a tag. -/
theorem OnTrack.tick (h : engine.OnTrack story scene []) (signal : Option Signal) :
    (engine.tick signal).2.OnTrack story scene (engine.log signal) ∧
      ∀ failure, (engine.tick signal).1 = .error failure → failure.missesScene = true →
        engine.session.FailsAt failure (engine.log signal) := by
  obtain ⟨ok, failed⟩ := (onTrack_phases engine.session signal).frame.tick h
  rcases htick : engine.tick signal with ⟨failure | ⟨cues, waiting⟩, after⟩
  · obtain ⟨course, blames⟩ := failed failure after htick
    refine ⟨course, ?_⟩
    rintro _ ⟨⟩
    exact blames
  · obtain ⟨past, ⟨last, course, -, taken, -⟩, hlog⟩ := ok cues waiting after htick
    cases taken
    refine ⟨?_, by rintro _ ⟨⟩⟩
    rw [hlog]
    exact course.append ⟨course.settled.runs, course.settled.slots⟩
      (Happening.clean .handedOut course.clean) rfl (List.forall_mem_singleton.2 rfl)

/-- A reachable engine reads a scene of the story, and every scene to go to is there. -/
theorem Reachable.onTrack {settings : Settings} (h : Reachable story settings engine) :
    ∃ scene, engine.OnTrack story scene [] := by
  induction h with
  | create created =>
    obtain ⟨scene, there, rfl⟩ := create_eq_ok created
    exact ⟨scene, settled_enterScene ⟨.ofScene scene, .fresh story settings⟩ rfl scene,
      ⟨rfl, nofun, nofun⟩, rfl, by simpa using there, List.not_mem_nil⟩
  | @tick engine _ signal _ ih =>
    obtain ⟨scene, course⟩ := ih
    have after := (course.tick signal).1
    refine ⟨scene.after (engine.log signal), after.settled, after.clean, after.role, ?_,
      List.not_mem_nil⟩
    simpa using after.checkScene_after (List.prefix_refl _)
  | @write engine reachable write ih =>
    obtain ⟨scene, course⟩ := ih
    refine ⟨scene, (reachable.write write).settled,
      (engine.write_ordinary write).stays.clean course.clean, ?_, course.there, course.found⟩
    rw [engine.write_main write]
    exact course.role

/-- **Scenes to go to.** The scenes that a reachable engine refers to are there: that of the main
script, the one that is to begin, and the one behind a cover. They are there at every moment of
every frame, so that whatever looks for them finds them; no scene that is to begin is ever missing.
If a frame still fails for want of a scene, then at a tag of one of the two kinds that go to a
scene, which asked for one that is not there. All is left then as it was just before the tag, but
for the names that blocks draw and the slots: the scenes to go to, the cover and the cues among the
rest. -/
theorem scene_references_stay_valid {settings : Settings}
    (reachable : Reachable story settings engine) (signal : Option Signal) :
    engine.Guided story ∧ ∃ scene, engine.scene? = some scene ∧
      (∀ past, ∀ now : Engine, past <+: engine.log signal →
        now.session = engine.session.replay past →
        now.scene? = some (scene.after past) → now.Guided story ∧ now.FindsScenes) ∧
      .sceneMissing ∉ engine.log signal ∧
      (engine.tick signal).2.scene? = some (scene.after (engine.log signal)) ∧
      ∀ error, (engine.tick signal).1 = .error (.story error) → error.missesScene = true →
        ∃ past isMain freshNames instruction tag target, ∃ slots : List Background,
          engine.log signal = past ++ .obeyed isMain freshNames instruction tag ::
            slots.map .slots ∧
          (instruction = .scene ∨ instruction = .sceneWithFade) ∧
          Review.sceneTarget? instruction tag.arguments = some target ∧
          story.checkScene target = .error error ∧
          (engine.tick signal).2.session = { engine.session.replay past with
            freshNames, background := (engine.tick signal).2.session.background } := by
  obtain ⟨scene, course⟩ := reachable.onTrack
  obtain ⟨after, blames⟩ := course.tick signal
  have guided {past : List Happening} (earlier : past <+: engine.log signal) {now : Engine}
      (session : now.session = engine.session.replay past)
      (reads : now.scene? = some (scene.after past)) :
      now.Guided story :=
    .of_clean (session ▸ course.clean.replay past) reads (after.checkScene_after earlier)
  refine ⟨guided List.nil_prefix rfl course.scene?_eq, scene, course.scene?_eq, ?_, after.found,
    after.scene?_eq, ?_⟩
  · intro past now earlier session reads
    exact ⟨guided earlier session reads, (guided earlier session reads).findsScenes⟩
  · intro error failed misses
    obtain ⟨past, isMain, freshNames, instruction, tag, slots, hlog, fails, left⟩ :=
      (blames (.story error) failed misses).replay_eq
    rw [engine.replay_log signal] at left
    have story_eq : (engine.session.replay past).story = story := (course.clean.replay past).runs
    rcases Session.execute_eq_error fails with harmless | ⟨target, _, ⟨⟩, asked, missing⟩
    · cases misses.symm.trans harmless.not_missesScene
    · exact ⟨past, isMain, freshNames, instruction, tag, target, slots, hlog,
        Review.eq_of_sceneTarget?_eq_some asked, asked, story_eq ▸ missing, left⟩

/-- A story whose scene starts two scripts: one goes to another scene, and the next one, after a
sound, to a scene that is not there. -/
def astray : Story where
  startup := some ⟨"dawn", "street"⟩
  chapters := .ofEntries [("dawn", { scenes := .ofEntries [
    ("street", "<call:first>\n<call:second>"), ("garden", "Roses.")] })]
  reusables := .ofEntries [("first", "<scene:dawn,garden>"),
    ("second", "<play_sound:ding>\n<scene:dawn,harbour>")]

/-- The engine of that story at the beginning. -/
def astrayNew : Engine :=
  .opening astray {} ⟨"dawn", "street"⟩

/-- The first frame fails at the second of the tags. The scene of the first one still is to begin
and the sound is still to be played, as just before the tag that failed; the next frame goes
there. -/
theorem astray_keeps_first_scene :
    Reachable astray {} astrayNew ∧
      (astrayNew.tick none).1 = .error (.story (.unknownScene "dawn" "harbour")) ∧
      (astrayNew.tick none).2.session.pendingScene = some ⟨"dawn", "garden"⟩ ∧
      (astrayNew.tick none).2.session.cues = [.playAudio .fx "ding" false] ∧
      ((astrayNew.tick none).2.tick none).2.scene? = some ⟨"dawn", "garden"⟩ ∧
      ∃ past isMain freshNames instruction tag, ∃ slots : List Background,
        astrayNew.log none = past ++ .obeyed isMain freshNames instruction tag :: slots.map .slots ∧
        (instruction = .scene ∨ instruction = .sceneWithFade) ∧
        (astrayNew.tick none).2.session = { astrayNew.session.replay past with
          freshNames, background := (astrayNew.tick none).2.session.background } := by
  obtain ⟨created, failed, pending, cues, next⟩ :
      Engine.create astray {} = .ok astrayNew ∧
      (astrayNew.tick none).1 = .error (.story (.unknownScene "dawn" "harbour")) ∧
      (astrayNew.tick none).2.session.pendingScene = some ⟨"dawn", "garden"⟩ ∧
      (astrayNew.tick none).2.session.cues = [.playAudio .fx "ding" false] ∧
      ((astrayNew.tick none).2.tick none).2.scene? = some ⟨"dawn", "garden"⟩ := by
    decide +kernel
  have reachable : Reachable astray {} astrayNew := .create created
  obtain ⟨-, scene, -, -, -, -, fails⟩ := scene_references_stay_valid reachable none
  obtain ⟨past, isMain, freshNames, instruction, tag, target, slots, hlog, kind, -, -, left⟩ :=
    fails _ failed rfl
  exact ⟨reachable, failed, pending, cues, next, past, isMain, freshNames, instruction, tag,
    slots, hlog, kind, left⟩

end Engine

end VisualNovel
