import VisualNovel.Proofs.Evaluation
import VisualNovel.Proofs.Slots

/-!
# Frames come to an end

Reading a script may start another one, which is read at once, and so on; scripts may call each
other or themselves, and scenes may lead to each other in a circle. A frame ends all the same.

`Session.start` carries a bound on the nesting. Here it is compared with the evaluation relations,
which have none, and found to be without effect. Main statements:

* every effect is performed, and every list of lines is read, with the result that the bounded
  functions give and no other (`Effect.performs_iff`, `Role.reads_iff`): the bound is never felt;
* a frame of a reader and of the engine likewise (`Reader.steps_iff`,
  `Engine.Evaluation.Agrees.frame`); at most four scenes begin in a frame, and a main script is read
  at most three times;
* the recursion descends: a nested start leaves fewer names of reusable scripts without a slot
  (`Activation.Nests.freeNames_lt`), and the next turn of a loop leaves fewer lines
  (`Activation.Turns.lines_lt`).
-/

namespace VisualNovel

/-! ## Free names -/

namespace Session

/-- How many reusable scripts of the story have no slot. -/
def freeNames (s : Session) : Nat :=
  (s.story.reusables.names.filter (fun name => !s.background.names.contains name)).length

/-- There are no more of them than reusable scripts. -/
theorem freeNames_le_size (s : Session) : s.freeNames ≤ s.story.reusables.size := by
  have hsize : s.story.reusables.size = s.story.reusables.names.length := by
    simp [Dict.size, Dict.names]
  rw [hsize]
  exact List.length_filter_le _ _

/-- With more slots, no more names are free. -/
theorem freeNames_le {s t : Session} (story : t.story = s.story)
    (names : s.background.names ⊆ t.background.names) : t.freeNames ≤ s.freeNames := by
  unfold freeNames
  rw [story]
  apply List.Sublist.length_le
  apply List.monotone_filter_right
  intro name hfree
  simp only [Bool.not_eq_true', List.contains_eq_mem, decide_eq_false_iff_not] at hfree ⊢
  exact fun hmem => hfree (names hmem)

/-- A run gives no name free. -/
theorem Grown.freeNames_le {failure : Option Failure} {s t : Session} (h : Grown failure s t) :
    t.freeNames ≤ s.freeNames := by
  obtain ⟨added, hadded, -, -⟩ := h.added
  refine Session.freeNames_le h.story ?_
  simp [Background.names, hadded]

/-- A script that is started takes a free name. -/
theorem freeNames_enlist_lt {s : Session} {launch : Launch} {script : String}
    (h : s.startable? launch = some script) : (s.enlist launch).freeNames < s.freeNames := by
  obtain ⟨-, hfree, hscript⟩ := startable?_eq_some h
  have hknown : launch.name ∈ s.story.reusables.names := by
    obtain ⟨front, back, hentries, -⟩ := List.lookup_eq_some_iff.1 hscript
    simp [Dict.names, hentries]
  have hnames : (s.enlist launch).background.names = s.background.names ++ [launch.name] := by
    simp [enlist, Background.reserve, Background.names]
  have hstory : (s.enlist launch).story = s.story := rfl
  unfold freeNames
  rw [hstory, hnames]
  -- What is free afterwards is what was free, without the name that is taken.
  have hfewer : s.story.reusables.names.filter
        (fun name => !(s.background.names ++ [launch.name]).contains name) =
      (s.story.reusables.names.filter (fun name => !s.background.names.contains name)).filter
        (fun name => name != launch.name) := by
    rw [List.filter_filter]
    apply List.filter_congr
    intro name _
    rw [Bool.eq_iff_iff]
    simp [and_comm]
  rw [hfewer, List.length_filter_lt_length_iff_exists]
  exact ⟨launch.name, by simp [hknown, hfree], by simp⟩

/-- Where no name is free, nothing can be started. -/
theorem startable?_eq_none {s : Session} (h : s.freeNames = 0) (launch : Launch) :
    s.startable? launch = none := by
  rcases hscript : s.startable? launch with _ | script
  · rfl
  · have := freeNames_enlist_lt hscript
    omega

end Session

/-! ## The bounded functions agree with it -/

section starter

variable {start : Starter} {bound : Nat}
  (starts : ∀ (s : Session) (launch : Launch), s.freeNames ≤ bound →
    Effect.Performs ⟨s, some launch⟩ (start s launch))

include starts

/-- Effects, if starts are performed where at most so many names are free. -/
theorem Effect.performs_perform (effect : Effect) (h : effect.session.freeNames ≤ bound) :
    effect.Performs (effect.perform start) := by
  obtain ⟨s, _ | launch⟩ := effect
  · exact .plain
  · exact starts s launch h

/-- Lines, if starts are performed where at most so many names are free. That lasts for the lines
that follow, since no line gives a name free. -/
theorem Role.reads_readLines
    (grows : ∀ (s : Session) (launch : Launch),
      Session.Grown (start s launch).2 s (start s launch).1)
    (role : Role) (lines : List String) (blocks : Blocks) (s : Session) (h : s.freeNames ≤ bound) :
    role.Reads lines blocks s (role.readLines start lines blocks s) := by
  -- By induction on the lines. No step gives back a name, so that the bound holds for the next one.
  induction lines generalizing blocks s with
  | nil => exact .nil
  | cons raw lines ih =>
    have hplan := (role.plan_keeps blocks s raw).grown none
    have performs := Effect.performs_perform starts (role.plan blocks s raw).effect
      (Nat.le_trans hplan.freeNames_le h)
    have run := Session.Grown.lasting.perform grows hplan
    rw [Role.readLines]
    unfold Plan.carryOut
    rcases hperform : (role.plan blocks s raw).effect.perform start with ⟨t, _ | failure⟩
    · rw [hperform] at performs run
      have hfree : t.freeNames ≤ bound := Nat.le_trans run.freeNames_le h
      dsimp only
      rcases hverdict : (role.plan blocks s raw).verdict with _ | _ | _ | failure
      · exact .cons performs (.onward hverdict (ih _ t hfree))
      · have looked := ((role.lookUp_keeps t).grown none).freeNames_le
        dsimp only
        rcases hlook : role.lookUp t with ⟨_ | _, u⟩
        · rw [hlook] at looked
          exact .cons performs (.looks hverdict hlook (ih _ u (Nat.le_trans looked hfree)))
        · exact .cons performs (.held hverdict hlook)
      · exact .cons performs (.finishes hverdict)
      · exact .cons performs (.fails hverdict)
    · rw [hperform] at performs
      exact .cons performs .startFailed

end starter

/-- A bound of as many nestings as there are free names is enough. -/
theorem Session.performs_startWithin (bound : Nat) (s : Session) (launch : Launch)
    (h : s.freeNames ≤ bound) : Effect.Performs ⟨s, some launch⟩ (s.startWithin bound launch) := by
  induction bound generalizing s launch with
  | zero =>
    rw [startWithin]
    exact .refused (startable?_eq_none (Nat.le_zero.1 h) launch)
  | succ bound ih =>
    rw [startWithin]
    rcases hscript : s.startable? launch with _ | script
    · exact .refused hscript
    · have hless := freeNames_enlist_lt hscript
      have run := Role.reads_readLines ih (startWithin_lasting Grown.lasting bound)
        (.background launch.name launch.parameters) (Text.lines script) {}
        (s.enlist launch) (by omega)
      exact .started hscript run

mutual

/-- An effect has one result. -/
theorem Effect.Performs.unique {effect : Effect} {result result' : Session × Option Failure} :
    effect.Performs result → effect.Performs result' → result = result'
  | .plain, .plain => rfl
  | .refused _, .refused _ => rfl
  | .refused refused, .started startable _ => by
    rw [refused] at startable
    cases startable
  | .started startable _, .refused refused => by
    rw [refused] at startable
    cases startable
  | .started startable run, .started startable' run' => by
    rw [startable] at startable'
    cases startable'
    rw [run.unique run']

/-- Lines are read in one way. -/
theorem Role.Reads.unique {role : Role} {lines : List String} {blocks : Blocks} {s : Session}
    {reading reading' : Reading} :
    role.Reads lines blocks s reading → role.Reads lines blocks s reading' → reading = reading'
  | .nil, .nil => rfl
  | .cons effect rest, .cons effect' rest' => by
    cases effect.unique effect'
    exact rest.unique rest'

/-- One thing follows a line. -/
theorem Role.Continues.unique {role : Role} {lines : List String} {plan : Plan} {t : Session}
    {failure : Option Failure} {reading reading' : Reading} :
    role.Continues lines plan t failure reading → role.Continues lines plan t failure reading' →
      reading = reading'
  | .startFailed, .startFailed => rfl
  | .fails verdict, h' => by cases h' <;> simp_all
  | .finishes verdict, h' => by cases h' <;> simp_all
  | .held verdict look, h' => by cases h' <;> simp_all
  | .looks verdict look next, h' => by
    cases h' with
    | looks verdict' look' next' =>
      rw [look] at look'
      cases look'
      exact next.unique next'
    | _ => simp_all
  | .onward verdict next, h' => by
    cases h' with
    | onward verdict' next' => exact next.unique next'
    | _ => simp_all

end

/-- Starting a script is performing the start: the bound on nesting is never felt. -/
theorem Session.performs_start (s : Session) (launch : Launch) :
    Effect.Performs ⟨s, some launch⟩ (s.start launch) :=
  s.performs_startWithin _ launch s.freeNames_le_size

/-- Every effect is performed, with the result that is computed for it. -/
theorem Effect.performs_iff {effect : Effect} {result : Session × Option Failure} :
    effect.Performs result ↔ result = effect.perform Session.start := by
  have performs : effect.Performs (effect.perform Session.start) :=
    Effect.performs_perform (fun s launch _ => s.performs_start launch) effect (Nat.le_refl _)
  constructor
  · exact fun h => h.unique performs
  · rintro rfl
    exact performs

/-- All lines are read, with the result that is computed for them. -/
theorem Role.reads_iff {role : Role} {lines : List String} {blocks : Blocks} {s : Session}
    {reading : Reading} :
    role.Reads lines blocks s reading ↔ reading = role.readLines Session.start lines blocks s := by
  have reads : role.Reads lines blocks s (role.readLines Session.start lines blocks s) :=
    Role.reads_readLines (fun s launch _ => s.performs_start launch)
      (Session.start_lasting Session.Grown.lasting) role lines blocks s (Nat.le_refl _)
  constructor
  · exact fun h => h.unique reads
  · rintro rfl
    exact reads

/-- A reader with its lines does in a frame what is computed for it. -/
theorem Reader.advances_iff {reader : Reader} {s : Session} {reading : Reading} :
    reader.Advances s reading ↔ reading = reader.advance Session.start s := by
  unfold Reader.advance Session.elapse
  constructor
  · intro h
    cases h with
    | reads look lines =>
      rw [look]
      exact Role.reads_iff.1 lines
    | haltFails look halt =>
      rw [look]
      simp only [← Effect.performs_iff.1 halt]
    | held look halt still =>
      rw [look]
      simp only [← Effect.performs_iff.1 halt, still]
    | released look halt free lines =>
      rw [look]
      simp only [← Effect.performs_iff.1 halt, free]
      exact Role.reads_iff.1 lines
  · rintro rfl
    rcases look : reader.role.lookUp s with ⟨_ | _, t⟩
    · exact .reads look (Role.reads_iff.2 rfl)
    · dsimp only
      rcases hhalt : t.advanceHalt.perform Session.start with ⟨u, _ | failure⟩
      · have halt : t.advanceHalt.Performs (u, none) := Effect.performs_iff.2 hhalt.symm
        dsimp only
        rcases still : reader.role.lookUp u.advanceRest with ⟨_ | _, v⟩
        · exact .released look halt still (Role.reads_iff.2 rfl)
        · exact .held look halt still
      · exact .haltFails look (Effect.performs_iff.2 hhalt.symm)

/-- A reader does in a frame what is computed for it. -/
theorem Reader.steps_iff {reader : Reader} {s : Session} {reading : Reading} :
    reader.Steps s reading ↔ reading = reader.step Session.start s := by
  unfold Reader.step
  constructor
  · intro h
    cases h with
    | stays finished => rw [if_pos finished]
    | advances going loaded advance =>
      rw [if_neg (by simp [going]), if_pos loaded]
      exact Reader.advances_iff.1 advance
    | missing going unloaded load =>
      rw [if_neg (by simp [going]), if_neg (by simp [unloaded]), load]
    | loads going unloaded load advance =>
      rw [if_neg (by simp [going]), if_neg (by simp [unloaded]), load]
      exact Reader.advances_iff.1 advance
  · rintro rfl
    by_cases finished : reader.finished = true
    · rw [if_pos finished]
      exact .stays finished
    · rw [if_neg finished]
      rw [Bool.not_eq_true] at finished
      by_cases loaded : reader.loaded = true
      · rw [if_pos loaded]
        exact .advances finished loaded (Reader.advances_iff.2 rfl)
      · rw [if_neg loaded]
        rw [Bool.not_eq_true] at loaded
        rcases load : reader.load s.story with error | full
        · exact .missing finished loaded load
        · exact .loads finished loaded load (Reader.advances_iff.2 rfl)

/-! ## The recursion descends -/

/-- Lines that are about to be read. -/
structure Activation where
  /-- Who reads them. -/
  role : Role
  /-- The lines. -/
  lines : List String
  /-- The open blocks. -/
  blocks : Blocks
  /-- The session. -/
  session : Session

namespace Activation

/-- The lines of a script that the first of some lines starts. -/
inductive Nests : Activation → Activation → Prop where
  /-- The script can be started. -/
  | started {role : Role} {raw : String} {lines : List String} {blocks : Blocks} {s : Session}
    {launch : Launch} {script : String}
    (launches : (role.plan blocks s raw).effect.launch = some launch)
    (startable : (role.plan blocks s raw).effect.session.startable? launch = some script) :
    Nests ⟨role, raw :: lines, blocks, s⟩
      ⟨.background launch.name launch.parameters, Text.lines script, {},
        (role.plan blocks s raw).effect.session.enlist launch⟩

/-- The lines behind the first of some lines, in the next turn of the loop. -/
inductive Turns : Activation → Activation → Prop where
  /-- The next line follows at once. -/
  | onward {role : Role} {raw : String} {lines : List String} {blocks : Blocks} {s t : Session}
    (effect : (role.plan blocks s raw).effect.Performs (t, none)) :
    Turns ⟨role, raw :: lines, blocks, s⟩ ⟨role, lines, (role.plan blocks s raw).blocks, t⟩
  /-- The next line follows after a look. -/
  | looks {role : Role} {raw : String} {lines : List String} {blocks : Blocks} {s t u : Session}
    (effect : (role.plan blocks s raw).effect.Performs (t, none))
    (look : role.lookUp t = (false, u)) :
    Turns ⟨role, raw :: lines, blocks, s⟩ ⟨role, lines, (role.plan blocks s raw).blocks, u⟩

/-- A nested start leaves fewer names free. -/
theorem Nests.freeNames_lt {a b : Activation} (h : Nests a b) :
    b.session.freeNames < a.session.freeNames := by
  obtain @⟨role, raw, lines, blocks, s, launch, script, -, startable⟩ := h
  have hplan := ((role.plan_keeps blocks s raw).grown none).freeNames_le
  exact Nat.lt_of_lt_of_le (Session.freeNames_enlist_lt startable) hplan

/-- A line gives no name free. -/
theorem freeNames_le_of_performs {role : Role} {blocks : Blocks} {s t : Session} {raw : String}
    {failure : Option Failure} (effect : (role.plan blocks s raw).effect.Performs (t, failure)) :
    t.freeNames ≤ s.freeNames := by
  have run := Session.Grown.lasting.perform (Session.start_lasting Session.Grown.lasting)
    ((role.plan_keeps blocks s raw).grown none)
  rw [← Effect.performs_iff.1 effect] at run
  exact run.freeNames_le

/-- The next turn of the loop gives no name free. -/
theorem Turns.freeNames_le {a b : Activation} (h : Turns a b) :
    b.session.freeNames ≤ a.session.freeNames := by
  cases h with
  | onward effect => exact freeNames_le_of_performs effect
  | @looks role raw lines blocks s t u effect look =>
    have looked := ((role.lookUp_keeps t).grown none).freeNames_le
    rw [look] at looked
    exact Nat.le_trans looked (freeNames_le_of_performs effect)

/-- The next turn of the loop leaves fewer lines. -/
theorem Turns.lines_lt {a b : Activation} (h : Turns a b) : b.lines.length < a.lines.length := by
  cases h with
  | onward effect => simp
  | looks effect look => simp

/-- So the recursion of starts and turns cannot go on for ever. -/
theorem wellFounded_calls : WellFounded fun b a => Nests a b ∨ Turns a b := by
  refine Subrelation.wf (fun {b a} (h : Nests a b ∨ Turns a b) => ?_)
    (InvImage.wf (fun a : Activation => (a.session.freeNames, a.lines.length))
      (Prod.lex Nat.lt_wfRel Nat.lt_wfRel).wf)
  rcases h with nests | turns
  · exact Prod.Lex.left _ _ nests.freeNames_lt
  · rcases Nat.lt_or_eq_of_le turns.freeNames_le with hless | hsame
    · exact Prod.Lex.left _ _ hless
    · exact Prod.lex_def.2 (.inr ⟨hsame, turns.lines_lt⟩)

end Activation

/-! ## Frames -/

namespace Engine.Evaluation

variable {α β : Type}

/-- An effect is evaluated as it is carried out, and nothing is counted. -/
theorem perform_eq (f : Session → Effect) : Evaluation.perform f = .ofPart (.perform f) := by
  funext engine tally result engine' tally'
  unfold Evaluation.ofPart
  rw [Part.outcome_perform, eq_iff_iff]
  constructor
  · rintro ⟨session, failure, performs, rfl, rfl, rfl⟩
    rw [← Effect.performs_iff.1 performs]
    exact ⟨rfl, rfl⟩
  · rintro ⟨hout, rfl⟩
    cases hout
    exact ⟨_, _, Effect.performs_iff.2 rfl, rfl, rfl, rfl⟩

/-- A signal is evaluated as it is taken, and nothing is counted. -/
theorem receive_eq (signal : Signal) : Evaluation.receive signal = .ofPart (.receive signal) := by
  cases signal with
  | click => exact perform_eq _
  | dialogAnimationFinished => exact perform_eq _
  | spriteAnimationStopped group name animation =>
    exact perform_eq (·.spriteAnimationStopped group name animation)
  | _ => rfl

/-- The main script is evaluated as it is read, and counted. -/
theorem readMain_iff {engine engine' : Engine} {tally tally' : Tally}
    {result : Except Failure Unit} :
    Evaluation.readMain engine tally result engine' tally' ↔
      Part.readMain.outcome engine = (result, engine') ∧
        tally' = { tally with readings := tally.readings + 1 } := by
  rw [Part.outcome_readMain]
  constructor
  · rintro ⟨reading, steps, rfl, rfl, rfl⟩
    rw [← Reader.steps_iff.1 steps]
    exact ⟨rfl, rfl⟩
  · rintro ⟨hout, rfl⟩
    cases hout
    exact ⟨_, Reader.steps_iff.2 rfl, rfl, rfl, rfl⟩

/-- The script in a slot is evaluated as it is read, and nothing is counted. -/
theorem readBackground_eq (index : Nat) :
    Evaluation.readBackground index = .ofPart (.readBackground index) := by
  funext engine tally result engine' tally'
  unfold Evaluation.ofPart Evaluation.readBackground
  rw [Part.outcome_readBackground, eq_iff_iff, and_comm]
  refine and_congr_left fun _ => ?_
  by_cases pending : engine.session.pendingScene.isSome = true
  · rw [if_pos pending, if_pos pending, Prod.mk.injEq, eq_comm, @eq_comm _ engine]
  · rw [if_neg pending, if_neg pending]
    rcases engine.session.background.checkOut? index with _ | ⟨reader, background⟩
    · simp only [Prod.mk.injEq, eq_comm]
    · constructor
      · rintro ⟨reading, steps, rfl, rfl⟩
        obtain rfl := Reader.steps_iff.1 steps
        rfl
      · intro hout
        cases hout
        exact ⟨_, Reader.steps_iff.2 rfl, rfl, rfl⟩

/-- An evaluation gives what a part of a frame computes, and nothing else. At most so many scenes
begin in it, and a main script is read at most so often. -/
structure Agrees (evaluation : Evaluation α) (part : Part α) (scenes readings : Nat) : Prop where
  /-- What is computed is evaluated. -/
  total (engine : Engine) (tally : Tally) :
    ∃ tally', evaluation engine tally (part.outcome engine).1 (part.outcome engine).2 tally'
  /-- What is evaluated is computed, with a count in the bounds. -/
  sound {engine engine' : Engine} {tally tally' : Tally} {result : Except Failure α}
    (h : evaluation engine tally result engine' tally') :
    part.outcome engine = (result, engine') ∧ tally'.scenes ≤ tally.scenes + scenes ∧
      tally'.readings ≤ tally.readings + readings

namespace Agrees

variable {evaluation : Evaluation α} {part : Part α} {m n p q : Nat}

/-- An evaluation that is known, with its count. -/
theorem of_iff (count : Tally → Except Failure α → Tally)
    (h : ∀ engine tally result engine' tally', evaluation engine tally result engine' tally' ↔
      part.outcome engine = (result, engine') ∧ tally' = count tally result)
    (scenes : ∀ tally result, (count tally result).scenes ≤ tally.scenes + m)
    (readings : ∀ tally result, (count tally result).readings ≤ tally.readings + n) :
    Agrees evaluation part m n where
  total engine tally := ⟨_, (h _ _ _ _ _).2 ⟨rfl, rfl⟩⟩
  sound hevaluation := by
    obtain ⟨hout, rfl⟩ := (h _ _ _ _ _).1 hevaluation
    exact ⟨hout, scenes _ _, readings _ _⟩

/-- The bounds may be larger. -/
theorem mono (h : Agrees evaluation part m n) (hm : m ≤ p) (hn : n ≤ q) :
    Agrees evaluation part p q where
  total := h.total
  sound hevaluation := by
    obtain ⟨hout, scenes, readings⟩ := h.sound hevaluation
    exact ⟨hout, by omega, by omega⟩

/-- An evaluation that is known, and counts nothing. -/
theorem of_iff_uncounted
    (h : ∀ engine tally result engine' tally', evaluation engine tally result engine' tally' ↔
      part.outcome engine = (result, engine') ∧ tally' = tally) : Agrees evaluation part 0 0 :=
  .of_iff (fun tally _ => tally) h (fun _ _ => Nat.le_refl _) fun _ _ => Nat.le_refl _

/-- A part that is evaluated in one step gives what it computes, without a scene or a reading. -/
theorem ofPart (part : Part α) : Agrees (.ofPart part) part 0 0 :=
  .of_iff_uncounted fun _ _ _ _ _ => Iff.rfl

/-- So does a part that does nothing. -/
theorem pure (a : α) : Agrees (Pure.pure a) (Pure.pure a) 0 0 := by
  refine .of_iff_uncounted fun engine tally result engine' tally' => ?_
  rw [Part.outcome_pure, Prod.mk.injEq, eq_comm, @eq_comm _ engine, and_assoc]
  rfl

/-- What one part after another does at most, it does at most in both together. -/
theorem bind {next : α → Evaluation β} {part' : α → Part β} (h : Agrees evaluation part m n)
    (h' : ∀ a, Agrees (next a) (part' a) p q) :
    Agrees (evaluation >>= next) (part >>= part') (m + p) (n + q) where
  total engine tally := by
    obtain ⟨tally₁, first⟩ := h.total engine tally
    rw [Part.outcome_bind]
    rcases hout : part.outcome engine with ⟨failure | a, middle⟩
    · rw [hout] at first
      exact ⟨tally₁, .inl ⟨failure, first, rfl⟩⟩
    · rw [hout] at first
      obtain ⟨tally₂, second⟩ := (h' a).total middle tally₁
      exact ⟨tally₂, .inr ⟨a, middle, tally₁, first, second⟩⟩
  sound hevaluation := by
    rw [Part.outcome_bind]
    rcases hevaluation with ⟨failure, first, rfl⟩ | ⟨a, middle, tally₁, first, second⟩
    · obtain ⟨hout, scenes, readings⟩ := h.sound first
      rw [hout]
      exact ⟨rfl, by omega, by omega⟩
    · obtain ⟨hout, scenes, readings⟩ := h.sound first
      obtain ⟨hout', scenes', readings'⟩ := (h' a).sound second
      rw [hout]
      exact ⟨hout', by omega, by omega⟩

/-- A part for each element of a list, none of which begins a scene or reads a main script. -/
theorem forM {body : β → Evaluation Unit} {body' : β → Part Unit}
    (h : ∀ b, Agrees (body b) (body' b) 0 0) (list : List β) :
    Agrees (list.forM body) (list.forM body') 0 0 := by
  induction list with
  | nil => exact pure ()
  | cons b list ih => exact bind (h b) fun _ => ih

/-- A part for the element that there may be. -/
theorem optionForM {body : β → Evaluation Unit} {body' : β → Part Unit}
    (h : ∀ b, Agrees (body b) (body' b) 0 0) (option : Option β) :
    Agrees (option.forM body) (option.forM body') 0 0 := by
  cases option with
  | none => exact pure ()
  | some b => exact h b

/-! ### The parts of a frame -/

/-- So does an effect. -/
theorem perform (f : Session → Effect) : Agrees (.perform f) (.perform f) 0 0 :=
  perform_eq f ▸ ofPart _

/-- So does a signal. -/
theorem receive (signal : Signal) : Agrees (.receive signal) (.receive signal) 0 0 :=
  receive_eq signal ▸ ofPart _

/-- The change to another scene begins one. -/
theorem switchScene (scene : SceneRef) : Agrees (.switchScene scene) (.switchScene scene) 1 0 := by
  refine .of_iff _ (fun _ _ _ _ _ => Iff.rfl) ?_ ?_
  · rintro tally (_ | ⟨⟩) <;> simp
  · rintro tally (_ | ⟨⟩) <;> simp

/-- At most one scene begins where one is to begin. -/
theorem beginScene : Agrees .beginScene .beginScene 1 0 := by
  unfold Evaluation.beginScene Part.beginScene
  refine mono (bind (p := 1) (q := 0) (ofPart get) fun engine => ?_) (Nat.le_refl 1) (Nat.le_refl 0)
  rcases engine.session.pendingScene with _ | scene
  · exact mono (pure false) (Nat.zero_le 1) (Nat.le_refl 0)
  · exact bind (ofPart _) fun _ => bind (switchScene scene) fun _ => pure true

/-- The timers begin no scene, and read no main script. -/
theorem runTimers : Agrees .runTimers .runTimers 0 0 :=
  bind (ofPart get) fun _ => bind (ofPart _) fun _ => forM (fun _ => perform _) _

/-- The turn of the main script reads one. -/
theorem readMain : Agrees .readMain .readMain 0 1 :=
  .of_iff (fun tally _ => { tally with readings := tally.readings + 1 })
    (fun _ _ _ _ _ => readMain_iff) (fun _ _ => Nat.le_refl _) fun _ _ => Nat.le_refl _

/-- The turn of a background script reads none. -/
theorem readBackground (index : Nat) : Agrees (.readBackground index) (.readBackground index) 0 0 :=
  readBackground_eq index ▸ ofPart _

/-- The turn of a new scene begins one and reads one at most. -/
theorem readNewScene : Agrees .readNewScene .readNewScene 1 1 := by
  have next (began : Bool) :
      Agrees (if began then Evaluation.readMain else Pure.pure ())
        (if began then Part.readMain else Pure.pure ()) 0 1 := by
    cases began with
    | false => exact mono (pure ()) (Nat.le_refl 0) (Nat.zero_le 1)
    | true => exact readMain
  exact bind beginScene next

/-- A scene may begin in four places of a frame, and a main script is read in three. -/
theorem frame (signal : Option Signal) : Agrees (.frame signal) (Engine.frame signal) 4 3 := by
  refine mono (bind (optionForM receive signal) fun _ => bind beginScene fun _ =>
    bind runTimers fun _ => bind beginScene fun _ => bind readMain fun _ =>
      bind readNewScene fun _ =>
    bind (ofPart _) fun _ => bind (forM readBackground _) fun _ => bind readNewScene fun _ =>
    bind (ofPart _) fun _ => bind (ofPart _) fun _ => bind (ofPart _) fun _ => pure _) ?_ ?_
  · decide
  · decide

end Agrees

/-- A frame comes to an end, for every engine and every signal, though nothing bounds the nesting of
starts in its evaluation: there is an evaluation, and every evaluation gives what is computed. At
most four scenes begin in it, and a main script is read at most three times. The recursion of starts
and lines is well founded: a nested start leaves fewer names of reusable scripts without a slot, and
the next turn of a loop leaves fewer lines and gives no name free. -/
theorem frame_comes_to_an_end (engine : Engine) (signal : Option Signal) :
    (∃ tally, frame signal engine {} (engine.tick signal).1 (engine.tick signal).2 tally) ∧
      (∀ result after tally, frame signal engine {} result after tally →
        engine.tick signal = (result, after) ∧ tally.scenes ≤ 4 ∧ tally.readings ≤ 3) ∧
      (∀ a b, Activation.Nests a b → b.session.freeNames < a.session.freeNames) ∧
      (∀ a b, Activation.Turns a b → b.session.freeNames ≤ a.session.freeNames ∧
        b.lines.length < a.lines.length) ∧
      WellFounded fun b a => Activation.Nests a b ∨ Activation.Turns a b := by
  have agrees := Agrees.frame signal
  refine ⟨agrees.total engine {}, fun result after tally h => ?_,
    fun a b nests => nests.freeNames_lt, fun a b turns => ⟨turns.freeNames_le, turns.lines_lt⟩,
    Activation.wellFounded_calls⟩
  obtain ⟨hout, scenes, readings⟩ := agrees.sound h
  exact ⟨hout, by simpa using scenes, by simpa using readings⟩

/-- A story in which two scenes lead to each other, and two scripts start each other and
themselves. -/
def circling : Story where
  startup := some ⟨"maze", "left"⟩
  chapters := .ofEntries [("maze", {
    script := "<call: echo>",
    scenes := .ofEntries [("left", "<scene: maze, right>"), ("right", "<scene: maze, left>")] })]
  reusables := .ofEntries [("echo", "<call: echo>\n<call: answer>"), ("answer", "<call: echo>")]

/-- Its first frame ends in the middle of the circle: a scene is still to begin. -/
theorem circling_comes_to_an_end :
    let engine : Engine := .opening circling {} ⟨"maze", "left"⟩
    (∃ tally, frame none engine {} (.ok ([], .nothing)) (engine.tick none).2 tally ∧
      tally.scenes ≤ 4 ∧ tally.readings ≤ 3) ∧
      (engine.tick none).2.session.pendingScene = some ⟨"maze", "right"⟩ := by
  intro engine
  have hresult : (engine.tick none).1 = .ok ([], .nothing) := by decide +kernel
  obtain ⟨⟨tally, evaluated⟩, bounded, -⟩ := frame_comes_to_an_end engine none
  obtain ⟨-, scenes, readings⟩ := bounded _ _ _ evaluated
  rw [hresult] at evaluated
  exact ⟨⟨tally, evaluated, scenes, readings⟩, by decide +kernel⟩

end Engine.Evaluation

end VisualNovel
