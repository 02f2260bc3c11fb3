import VisualNovel.Proofs.Effects

/-!
# What a run keeps

A reader carries out its lines one after another, and some of them start other readers, which run
inside it. So what is true of every run is proved by two inductions, over the lines of a script and
over the bound on the nesting of starts. They are done here once, for any invariants of sessions and
of readers, and any relation between the session before and the session after: `LineRules` and
`StartRules` list what has to be shown of a single step, `StartRules.start` and `StartRules.step`
give it for whole runs. A relation that asks nothing of sessions and readers is `Lasting`.

The relation may depend on the failure that ended the run. It is the strict form, without a failure,
that composes: a run goes on only after lines that did not fail.
-/

namespace VisualNovel

/-! ## Readers -/

namespace Role

variable (role : Role) (start : Starter)

/-- A reader keeps its role. -/
theorem readLines_role (lines : List String) (blocks : Blocks) (session : Session) :
    (role.readLines start lines blocks session).reader.role = role := by
  induction lines generalizing blocks session with
  | nil => rfl
  | cons raw lines ih =>
    unfold readLines
    dsimp only
    split
    · exact ih _ _
    · split
      · rfl
      · exact ih _ _
    · rfl
    · rfl

/-- A reader of a reusable script that does not fail reads to the end. -/
theorem readLines_finished (h : role.isMain = false) (lines : List String) (blocks : Blocks)
    (session : Session) (ok : (role.readLines start lines blocks session).failure = none) :
    (role.readLines start lines blocks session).reader.finished = true := by
  induction lines generalizing blocks session with
  | nil => rfl
  | cons raw lines ih =>
    unfold readLines at ok ⊢
    dsimp only at ok ⊢
    split at ok
    · exact ih _ _ ok
    · split at ok
      · next held => simp [lookUp, h] at held
      · exact ih _ _ ok
    · rfl
    · cases ok

end Role

namespace Reader

variable (reader : Reader) (start : Starter) (session : Session)

/-- A reader that gets its lines changes in nothing else. -/
theorem eq_of_load {reader loaded : Reader} {story : Story} (h : reader.load story = .ok loaded) :
    ∃ lines, loaded = { reader with lines, loaded := true } := by
  unfold load at h
  split at h
  · obtain ⟨lines, -, rfl⟩ := map_eq_ok.1 h
    exact ⟨lines, rfl⟩
  · cases h
    exact ⟨reader.lines, rfl⟩

/-- A reader that gets its lines keeps its role. -/
theorem load_role {reader loaded : Reader} {story : Story} (h : reader.load story = .ok loaded) :
    loaded.role = reader.role := by
  obtain ⟨lines, rfl⟩ := eq_of_load h
  rfl

/-- A reader stays that of its script. -/
theorem advance_role : (reader.advance start session).reader.role = reader.role := by
  unfold advance
  split
  · exact Role.readLines_role _ _ _ _ _
  · split
    · rfl
    · split
      · rfl
      · exact Role.readLines_role _ _ _ _ _

/-- A reader keeps its role in a frame. -/
theorem step_role : (reader.step start session).reader.role = reader.role := by
  unfold step
  split
  · rfl
  · split
    · exact reader.advance_role start session
    · split
      · rfl
      · next loaded hload => exact (loaded.advance_role start session).trans (load_role hload)

/-- A background reader that does not fail is over after its turn. -/
theorem advance_finished (h : reader.role.isMain = false)
    (ok : (reader.advance start session).failure = none) :
    (reader.advance start session).reader.finished = true := by
  have look : reader.role.lookUp session = (false, session) := by simp [Role.lookUp, h]
  unfold advance at ok ⊢
  rw [look] at ok ⊢
  exact Role.readLines_finished _ _ h _ _ _ ok

/-- A reader of a reusable script that does not fail in a frame is over after it. -/
theorem step_finished (h : reader.role.isMain = false)
    (ok : (reader.step start session).failure = none) :
    (reader.step start session).reader.finished = true := by
  unfold step at ok ⊢
  by_cases isOver : reader.finished
  · rw [if_pos isOver]
    exact isOver
  · rw [if_neg isOver] at ok ⊢
    by_cases ready : reader.loaded
    · rw [if_pos ready] at ok ⊢
      exact reader.advance_finished start session h ok
    · rw [if_neg ready] at ok ⊢
      split at ok
      · cases ok
      · next loaded hload =>
        exact loaded.advance_finished start session (load_role hload ▸ h) ok

end Reader

/-! ## Lines -/

/-- The failure that follows a line. -/
def Verdict.failure? : Verdict → Option Failure
  | .fail failure => some failure
  | _ => none

/-- A script that is started inside a line leaves the blocks of the line alone. -/
theorem Plan.blocks_carryOut (plan : Plan) (start : Starter) :
    (plan.carryOut start).blocks = plan.blocks := by
  unfold carryOut
  rcases plan.effect.perform start with ⟨_, _ | _⟩ <;> rfl

/-- What the steps of a reader have to show, for an invariant `I` of sessions, an invariant `G` of
readers and a relation `R` between the session before and the session after, given the failure that
ended the run. -/
structure LineRules (I : Session → Prop) (G : Reader → Prop)
    (R : Option Failure → Session → Session → Prop) : Prop where
  /-- Nothing has happened. -/
  refl {s : Session} : I s → R none s s
  /-- One run after another. -/
  trans {s t u : Session} {failure : Option Failure} : R none s t → R failure t u → R failure s u
  /-- The invariant of sessions outlasts a run. -/
  keeps {s t : Session} {failure : Option Failure} : I s → R failure s t → I t
  /-- What a line does to the session and to its reader. -/
  line {role : Role} {lines : List String} {blocks : Blocks} {s : Session} {raw : String} :
    I s → G { role, lines := raw :: lines, blocks } →
      R none s (role.plan blocks s raw).effect.session ∧
        G { role, lines, blocks := (role.plan blocks s raw).blocks }
  /-- A line that fails. -/
  fails {role : Role} {lines : List String} {blocks : Blocks} {s t : Session} {raw : String}
    {failure : Failure} :
    I s → G { role, lines := raw :: lines, blocks } →
      (role.plan blocks s raw).verdict = .fail failure → R none s t → R (some failure) s t
  /-- A script that is over or left. -/
  finish {role : Role} {lines : List String} {blocks : Blocks} :
    G { role, lines, blocks } → G { role, lines := [], blocks, finished := true }
  /-- A look at what holds the session. -/
  look {s : Session} : I s → R none s s.heldBy.2
  /-- A frame of a halt. -/
  halt {s : Session} : I s → R none s s.advanceHalt.session
  /-- A frame of a rest. -/
  rest {s : Session} : I s → R none s s.advanceRest
  /-- A reader that gets its lines. -/
  load {reader loaded : Reader} {s : Session} :
    I s → G reader → reader.load s.story = .ok loaded → G loaded
  /-- A reader that does not get its lines. -/
  unloaded {reader : Reader} {s : Session} {error : StoryError} :
    I s → G reader → reader.load s.story = .error error → R (some (.story error)) s s

section run

variable {I : Session → Prop} {G : Reader → Prop} {R : Option Failure → Session → Session → Prop}

namespace LineRules

/-- A reader looks at what holds the session only if it reads the main script. -/
theorem lookUp (h : LineRules I G R) (role : Role) {s : Session} (hs : I s) :
    R none s (role.lookUp s).2 := by
  unfold Role.lookUp
  split
  · exact h.look hs
  · exact h.refl hs

variable (h : LineRules I G R) {start : Starter}
  (hstart : ∀ s launch, I s → R (start s launch).2 s (start s launch).1)

include h hstart

/-- Carrying out an effect. -/
theorem perform {s : Session} {effect : Effect} (hs : I s) (he : R none s effect.session) :
    R (effect.perform start).2 s (effect.perform start).1 := by
  unfold Effect.perform
  split
  · exact he
  · exact h.trans he (hstart _ _ (h.keeps hs he))

/-- Carrying out a line. -/
theorem carryOut {role : Role} {lines : List String} {blocks : Blocks} {s : Session} {raw : String}
    (hs : I s) (hreader : G { role, lines := raw :: lines, blocks }) :
    R ((role.plan blocks s raw).carryOut start).verdict.failure? s
      ((role.plan blocks s raw).carryOut start).session := by
  have run := h.perform hstart hs (h.line hs hreader).1
  unfold Plan.carryOut
  rcases hp : (role.plan blocks s raw).effect.perform start with ⟨t, _ | failure⟩
  · rw [hp] at run
    rcases hv : (role.plan blocks s raw).verdict with _ | _ | _ | failure
    · exact run
    · exact run
    · exact run
    · exact h.fails hs hreader hv run
  · rw [hp] at run
    exact run

/-- Reading lines, by induction on them. -/
theorem readLines (role : Role) {lines : List String} {blocks : Blocks} {s : Session} (hs : I s)
    (hreader : G { role, lines, blocks }) :
    G (role.readLines start lines blocks s).reader ∧
      R (role.readLines start lines blocks s).failure s
        (role.readLines start lines blocks s).session := by
  -- By induction on the lines, with what the reader and the session keep from line to line.
  induction lines generalizing blocks s with
  | nil => exact ⟨h.finish hreader, h.refl hs⟩
  | cons raw lines ih =>
    have line := h.carryOut hstart hs hreader
    have hreader' := (h.line hs hreader).2
    rw [← Plan.blocks_carryOut _ start] at hreader'
    unfold Role.readLines
    generalize (role.plan blocks s raw).carryOut start = progress at line hreader'
    obtain ⟨t, blocks', verdict⟩ := progress
    cases verdict with
    | onward =>
      obtain ⟨hlast, rest⟩ := ih (h.keeps hs line) hreader'
      exact ⟨hlast, h.trans line rest⟩
    | look =>
      have looked : R none s (role.lookUp t).2 := h.trans line (h.lookUp role (h.keeps hs line))
      dsimp only
      split
      · next hlook =>
        rw [hlook] at looked
        exact ⟨hreader', looked⟩
      · next hlook =>
        rw [hlook] at looked
        obtain ⟨hlast, rest⟩ := ih (h.keeps hs looked) hreader'
        exact ⟨hlast, h.trans looked rest⟩
    | finish => exact ⟨h.finish hreader', line⟩
    | fail failure => exact ⟨hreader', line⟩

/-- A frame in which the main script is held. -/
theorem elapse {s : Session} (hs : I s) : R (s.elapse start).2 s (s.elapse start).1 := by
  have run := h.perform hstart hs (h.halt hs)
  unfold Session.elapse
  split
  · next t hp =>
    rw [hp] at run
    exact h.trans run (h.rest (h.keeps hs run))
  · next hp => rwa [hp] at run

/-- A frame of a reader with its lines. -/
theorem advance {role : Role} {lines : List String} {blocks : Blocks} {s : Session} (hs : I s)
    (hreader : G { role, lines, blocks }) :
    G (Reader.advance { role, lines, blocks } start s).reader ∧
      R (Reader.advance { role, lines, blocks } start s).failure s
        (Reader.advance { role, lines, blocks } start s).session := by
  have looked := h.lookUp role hs
  unfold Reader.advance
  split
  · next t hlook =>
    rw [hlook] at looked
    obtain ⟨hlast, rest⟩ := h.readLines hstart role (h.keeps hs looked) hreader
    exact ⟨hlast, h.trans looked rest⟩
  · next t hlook =>
    rw [hlook] at looked
    have held := h.elapse hstart (h.keeps hs looked)
    split
    · next hel =>
      rw [hel] at held
      exact ⟨hreader, h.trans looked held⟩
    · next u hel =>
      rw [hel] at held
      have until_now := h.trans looked held
      have again := h.trans until_now (h.lookUp role (h.keeps hs until_now))
      split
      · next hlook' =>
        rw [hlook'] at again
        exact ⟨hreader, again⟩
      · next hlook' =>
        rw [hlook'] at again
        obtain ⟨hlast, rest⟩ := h.readLines hstart role (h.keeps hs again) hreader
        exact ⟨hlast, h.trans again rest⟩

/-- A frame of a reader. -/
theorem stepWith {reader : Reader} {s : Session} (hs : I s) (hreader : G reader) :
    G (reader.step start s).reader ∧
      R (reader.step start s).failure s (reader.step start s).session := by
  obtain ⟨role, lines, blocks, loaded, finished⟩ := reader
  unfold Reader.step
  cases finished with
  | true => exact ⟨hreader, h.refl hs⟩
  | false =>
    cases loaded with
    | true => exact h.advance hstart hs hreader
    | false =>
      rcases hload : Reader.load { role, lines, blocks, loaded := false } s.story with error | full
      · exact ⟨hreader, h.unloaded hs hreader hload⟩
      · have hfull := h.load hs hreader hload
        obtain ⟨lines', rfl⟩ := Reader.eq_of_load hload
        exact h.advance hstart hs hfull

end LineRules

/-! ## Starts -/

/-- What starts have to show besides. -/
structure StartRules (I : Session → Prop) (G : Reader → Prop)
    (R : Option Failure → Session → Session → Prop) : Prop extends LineRules I G R where
  /-- A script that is about to be read. -/
  begins {s : Session} {launch : Launch} {script : String} :
    I s → s.startable? launch = some script → G (.ofScript launch script) ∧ I (s.enlist launch)
  /-- A script that has been read, and is put into its slot. -/
  ends {s : Session} {launch : Launch} {script : String} {reading : Reading} :
    I s → s.startable? launch = some script →
      reading.reader.role = .background launch.name launch.parameters →
      (reading.failure = none → reading.reader.finished = true) → G reading.reader →
      R reading.failure (s.enlist launch) reading.session →
      R reading.failure s (reading.checkIn s.background.size).1

namespace StartRules

variable (h : StartRules I G R)

include h

/-- Starting a script, by induction on the bound on nesting. -/
theorem startWithin (bound : Nat) (s : Session) (launch : Launch) (hs : I s) :
    R (Session.startWithin bound s launch).2 s (Session.startWithin bound s launch).1 := by
  induction bound generalizing s launch with
  | zero => exact h.refl hs
  | succ bound ih =>
    unfold Session.startWithin
    split
    · exact h.refl hs
    · next script hscript =>
      obtain ⟨hreader, henlist⟩ := h.begins hs hscript
      obtain ⟨hlast, run⟩ := h.stepWith ih henlist hreader
      exact h.ends hs hscript (Reader.step_role _ _ _) (Reader.step_finished _ _ _ rfl) hlast run

/-- Starting a script. -/
theorem start (s : Session) (launch : Launch) (hs : I s) :
    R (s.start launch).2 s (s.start launch).1 :=
  h.startWithin _ s launch hs

/-- A frame of a reader. -/
theorem step (reader : Reader) {s : Session} (hs : I s) (hreader : G reader) :
    G (reader.step Session.start s).reader ∧
      R (reader.step Session.start s).failure s (reader.step Session.start s).session :=
  h.stepWith h.start hs hreader

end StartRules

end run

/-! ## Lasting relations -/

/-- A relation between the session before and the session after, given the failure that ended the
run, that every step of a run allows. -/
structure Lasting (R : Option Failure → Session → Session → Prop) : Prop where
  /-- Nothing has happened. -/
  refl (s : Session) : R none s s
  /-- A run that failed has done no more than one that did not. -/
  weaken {s t : Session} (failure : Option Failure) : R none s t → R failure s t
  /-- One run after another. -/
  trans {s t u : Session} {failure : Option Failure} : R none s t → R failure t u → R failure s u
  /-- What a line does to the session. -/
  plan (role : Role) (blocks : Blocks) (s : Session) (raw : String) :
    R none s (role.plan blocks s raw).effect.session
  /-- A look at what holds the session. -/
  look (role : Role) (s : Session) : R none s (role.lookUp s).2
  /-- A frame of a halt. -/
  halt (s : Session) : R none s s.advanceHalt.session
  /-- A frame of a rest. -/
  rest (s : Session) : R none s s.advanceRest
  /-- A script that is started, read, and put into its slot. -/
  started {s : Session} {launch : Launch} {script : String} {reading : Reading}
    (startable : s.startable? launch = some script)
    (role : reading.reader.role = .background launch.name launch.parameters)
    (finished : reading.failure = none → reading.reader.finished = true)
    (run : R reading.failure (s.enlist launch) reading.session) :
    R reading.failure s (reading.checkIn s.background.size).1

section lasting

variable {R : Option Failure → Session → Session → Prop}

/-- A lasting relation asks nothing of sessions and readers. -/
theorem Lasting.rules (h : Lasting R) : StartRules (fun _ => True) (fun _ => True) R where
  refl _ := h.refl _
  trans := h.trans
  keeps _ _ := trivial
  line _ _ := ⟨h.plan _ _ _ _, trivial⟩
  fails _ _ _ run := h.weaken _ run
  finish _ := trivial
  look _ := h.look (.main ⟨"", ""⟩) _
  halt _ := h.halt _
  rest _ := h.rest _
  load _ _ _ := trivial
  unloaded _ _ _ := h.weaken _ (h.refl _)
  begins _ _ := ⟨trivial, trivial⟩
  ends _ startable role finished _ run := h.started startable role finished run

/-- A lasting relation holds of an effect that is carried out. -/
theorem Lasting.perform (h : Lasting R) {start : Starter}
    (hstart : ∀ s launch, R (start s launch).2 s (start s launch).1) {s : Session} {effect : Effect}
    (he : R none s effect.session) : R (effect.perform start).2 s (effect.perform start).1 :=
  h.rules.perform (fun s launch _ => hstart s launch) trivial he

/-- A lasting relation holds of every start within a bound on nesting. -/
theorem Session.startWithin_lasting (h : Lasting R) (bound : Nat) (s : Session) (launch : Launch) :
    R (startWithin bound s launch).2 s (startWithin bound s launch).1 :=
  h.rules.startWithin bound s launch trivial

/-- A lasting relation holds of every start. -/
theorem Session.start_lasting (h : Lasting R) (s : Session) (launch : Launch) :
    R (s.start launch).2 s (s.start launch).1 :=
  h.rules.start s launch trivial

/-- A lasting relation holds of every frame of a reader. -/
theorem Reader.step_lasting (h : Lasting R) (reader : Reader) (s : Session) :
    R (reader.step Session.start s).failure s (reader.step Session.start s).session :=
  (h.rules.step reader trivial trivial).2

end lasting

end VisualNovel
