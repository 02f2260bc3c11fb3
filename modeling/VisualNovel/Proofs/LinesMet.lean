import Mathlib.Logic.Relation
import VisualNovel.Proofs.Chronicle
import VisualNovel.Proofs.Termination

/-!
# The lines that are met in a frame

A frame reads lines in many places: of the main script, of scripts in their slots, and of scripts
that are started by a signal, a timer, the end of a halt, or a line of another script.
`Engine.Meets` says which lines it comes to, with who reads them and with the session at that
moment. It is put together from rules: what an effect opens (`Effect.Opens`), where reading goes
from a line (`Activation.Goes`), what a reader opens (`Reader.Opens`), and what the parts of a frame
open one after the other (`Engine.Survey`).

* A frame in which lines are met whose reading fails, fails with that failure
  (`Engine.Meets.tick_eq_error`), however deep scripts have started each other.
* No line is left out that does something: a tag that is obeyed in a frame and words that are spoken
  are those of a line that is met (`Engine.exists_meets_of_mem_log`).
-/

namespace VisualNovel

open Relation (ReflTransGen)

/-! ## Lines -/

/-- The lines that an effect is about to read, if it starts a script. -/
inductive Effect.Opens : Effect → Activation → Prop where
  /-- The script can be started. -/
  | started {s : Session} {launch : Launch} {script : String}
    (startable : s.startable? launch = some script) :
    Effect.Opens ⟨s, some launch⟩
      ⟨.background launch.name launch.parameters, Text.lines script, {}, s.enlist launch⟩

namespace Activation

/-- What reading the lines comes to. -/
def reading (a : Activation) : Reading :=
  a.role.readLines Session.start a.lines a.blocks a.session

/-- What is read after the first of some lines has been taken up. -/
inductive Goes : Activation → Activation → Prop where
  /-- A script that the line starts. -/
  | into {role : Role} {raw : String} {lines : List String} {blocks : Blocks} {s : Session}
    {b : Activation}
    (opens : (role.plan blocks s raw).effect.Opens b) : Goes ⟨role, raw :: lines, blocks, s⟩ b
  /-- The lines behind it, at once. -/
  | onward {role : Role} {raw : String} {lines : List String} {blocks : Blocks} {s t : Session}
    (effect : (role.plan blocks s raw).effect.Performs (t, none))
    (verdict : (role.plan blocks s raw).verdict = .onward) :
    Goes ⟨role, raw :: lines, blocks, s⟩ ⟨role, lines, (role.plan blocks s raw).blocks, t⟩
  /-- The lines behind it, after a look that finds the script free. -/
  | looks {role : Role} {raw : String} {lines : List String} {blocks : Blocks} {s t u : Session}
    (effect : (role.plan blocks s raw).effect.Performs (t, none))
    (verdict : (role.plan blocks s raw).verdict = .look) (look : role.lookUp t = (false, u)) :
    Goes ⟨role, raw :: lines, blocks, s⟩ ⟨role, lines, (role.plan blocks s raw).blocks, u⟩

end Activation

/-- An effect that opens lines does what reading them comes to. -/
theorem Effect.Opens.perform_eq {effect : Effect} {a : Activation} (opens : effect.Opens a) :
    effect.perform Session.start = a.reading.checkIn effect.session.background.size := by
  cases opens with
  | started startable =>
    exact (Effect.performs_iff.1 (.started startable (Role.reads_iff.2 rfl))).symm

namespace Activation

variable {a b : Activation} {failure : Failure}

/-- A failure of what is read next is one of the reading. -/
theorem Goes.failure_eq (goes : Goes a b) (failed : b.reading.failure = some failure) :
    a.reading.failure = some failure := by
  cases goes with
  | @into role raw lines blocks s b opens =>
    have result : (role.plan blocks s raw).effect.perform Session.start =
        ((b.reading.checkIn (role.plan blocks s raw).effect.session.background.size).1,
          some failure) := by
      rw [opens.perform_eq, ← failed]
      rfl
    have performs := Effect.performs_iff.2 result.symm
    have reads : role.Reads (raw :: lines) blocks s _ := .cons performs .startFailed
    exact congrArg Reading.failure (Role.reads_iff.1 reads).symm
  | @onward role raw lines blocks s t effect verdict =>
    have reads : role.Reads (raw :: lines) blocks s _ :=
      .cons effect (.onward verdict (Role.reads_iff.2 rfl))
    exact (congrArg Reading.failure (Role.reads_iff.1 reads)).symm.trans failed
  | @looks role raw lines blocks s t u effect verdict look =>
    have reads : role.Reads (raw :: lines) blocks s _ :=
      .cons effect (.looks verdict look (Role.reads_iff.2 rfl))
    exact (congrArg Reading.failure (Role.reads_iff.1 reads)).symm.trans failed

/-- So is a failure of anything that is read in the course of it. -/
theorem failure_eq_of_goes (goes : ReflTransGen Goes a b)
    (failed : b.reading.failure = some failure) :
    a.reading.failure = some failure := by
  induction goes using ReflTransGen.head_induction_on with
  | refl => exact failed
  | head step _ ih => exact step.failure_eq ih

/-- A line that fails ends the reading. -/
theorem failure_of_verdict {role : Role} {raw : String} {lines : List String}
    {blocks blocks' : Blocks} {s t : Session}
    (plan : role.plan blocks s raw = .idle t blocks' (.fail failure)) :
    (reading ⟨role, raw :: lines, blocks, s⟩).failure = some failure := by
  rw [reading, Role.readLines, plan]
  rfl

end Activation

/-! ## Readers -/

namespace Reader

variable {reader : Reader} {s : Session} {a : Activation} {failure : Failure}

/-- The lines that a reader with its lines is about to read in a frame, of its own script or of one
that the end of a halt starts. -/
inductive Unrolls (reader : Reader) (s : Session) : Activation → Prop where
  /-- Nothing holds the script. -/
  | reads {t : Session} (look : reader.role.lookUp s = (false, t)) :
    Unrolls reader s ⟨reader.role, reader.lines, reader.blocks, t⟩
  /-- It is held, and a halt ends. -/
  | haltEnds {t : Session} {a : Activation} (look : reader.role.lookUp s = (true, t))
    (opens : t.advanceHalt.Opens a) : Unrolls reader s a
  /-- It was held, and is not any longer. -/
  | released {t u v : Session} (look : reader.role.lookUp s = (true, t))
    (halt : t.advanceHalt.Performs (u, none))
    (free : reader.role.lookUp u.advanceRest = (false, v)) :
    Unrolls reader s ⟨reader.role, reader.lines, reader.blocks, v⟩

/-- The lines that a reader is about to read in a frame. -/
inductive Opens (reader : Reader) (s : Session) : Activation → Prop where
  /-- It has its lines. -/
  | advances {a : Activation} (going : reader.finished = false) (loaded : reader.loaded = true)
    (unrolls : reader.Unrolls s a) : Opens reader s a
  /-- It gets its lines. -/
  | loads {full : Reader} {a : Activation} (going : reader.finished = false)
    (unloaded : reader.loaded = false) (load : reader.load s.story = .ok full)
    (unrolls : full.Unrolls s a) : Opens reader s a

/-- If reading the lines of a reader fails, so does its turn. -/
theorem Unrolls.failure_eq (unrolls : reader.Unrolls s a)
    (failed : a.reading.failure = some failure) :
    (reader.advance Session.start s).failure = some failure := by
  cases unrolls with
  | reads look =>
    have same := Reader.advances_iff.1 (.reads look (Role.reads_iff.2 rfl))
    exact (congrArg Reading.failure same).symm.trans failed
  | @haltEnds t a look opens =>
    have result : t.advanceHalt.perform Session.start =
        ((a.reading.checkIn t.advanceHalt.session.background.size).1, some failure) := by
      rw [opens.perform_eq, ← failed]
      rfl
    have performs := Effect.performs_iff.2 result.symm
    exact (congrArg Reading.failure (Reader.advances_iff.1 (.haltFails look performs))).symm
  | released look halt free =>
    have same := Reader.advances_iff.1 (.released look halt free (Role.reads_iff.2 rfl))
    exact (congrArg Reading.failure same).symm.trans failed

/-- A failure of what a reader reads is one of the reader. -/
theorem Opens.failure_eq (opens : reader.Opens s a) (failed : a.reading.failure = some failure) :
    (reader.step Session.start s).failure = some failure := by
  cases opens with
  | advances going loaded unrolls =>
    rw [step, if_neg (by simp [going]), if_pos loaded]
    exact unrolls.failure_eq failed
  | loads going unloaded load unrolls =>
    rw [step, if_neg (by simp [going]), if_neg (by simp [unloaded]), load]
    exact unrolls.failure_eq failed

end Reader

/-! ## What lines tell -/

/-- Whether something happens because a line says so: a tag is obeyed, or words are spoken. -/
def Happening.ofLine : Happening → Bool
  | .spoken _ => true
  | .obeyed .. => true
  | _ => false

/-- In the course of reading lines, one is met at which something happens. -/
def Activation.Tells (a : Activation) (happening : Happening) : Prop :=
  ∃ role raw lines blocks s, ReflTransGen Goes a ⟨role, raw :: lines, blocks, s⟩ ∧
    happening ∈ role.logPlan blocks s raw

/-- What is met later on is met from the start. -/
theorem Activation.Tells.of_goes {a b : Activation} {happening : Happening} (goes : Goes a b)
    (tells : b.Tells happening) : a.Tells happening := by
  obtain ⟨role, raw, lines, blocks, s, course, mem⟩ := tells
  exact ⟨role, raw, lines, blocks, s, .head goes course, mem⟩

/-- A look is not because of a line. -/
theorem Role.not_mem_logLook (role : Role) {happening : Happening}
    (ofLine : happening.ofLine = true) :
    happening ∉ role.logLook := by
  unfold logLook
  split
  · rw [List.mem_singleton]
    rintro rfl
    cases ofLine
  · exact List.not_mem_nil

section scribe

variable {start : Starter} {scribe : Scribe} {bound : Nat}
  (starts : ∀ (s : Session) (launch : Launch), s.freeNames ≤ bound →
    Effect.Performs ⟨s, some launch⟩ (start s launch))
  (tells : ∀ (s : Session) (launch : Launch), s.freeNames ≤ bound → ∀ happening ∈ scribe s launch,
    happening.ofLine = true → ∃ a, Effect.Opens ⟨s, some launch⟩ a ∧ a.Tells happening)

include tells

/-- Where a line of a script that an effect starts says so, the effect opened the lines. -/
theorem Effect.exists_opens_of_mem_log {effect : Effect} (free : effect.session.freeNames ≤ bound)
    {happening : Happening} (mem : happening ∈ effect.log scribe)
    (ofLine : happening.ofLine = true) :
    ∃ a, effect.Opens a ∧ a.Tells happening := by
  obtain ⟨s, _ | launch⟩ := effect
  · cases mem
  · exact tells s launch free happening mem ofLine

include starts

/-- What happens in lines is told by one of them or by a line of a script that they start. By
induction on the lines; no line gives a name free, so that starts are known to be complete behind it
too. -/
theorem Role.tells_of_mem_logLines
    (grows : ∀ (s : Session) (launch : Launch),
      Session.Grown (start s launch).2 s (start s launch).1)
    (role : Role) (lines : List String) (blocks : Blocks) (s : Session) (free : s.freeNames ≤ bound)
    {happening : Happening} (mem : happening ∈ role.logLines start scribe lines blocks s)
    (ofLine : happening.ofLine = true) : Activation.Tells ⟨role, lines, blocks, s⟩ happening := by
  induction lines generalizing blocks s with
  | nil => cases mem
  | cons raw lines ih =>
    have hplan := (role.plan_keeps blocks s raw).grown none
    have planFree := Nat.le_trans hplan.freeNames_le free
    have performs := Effect.performs_perform starts (role.plan blocks s raw).effect planFree
    have run := Session.Grown.lasting.perform grows hplan
    rw [logLines, logLine, List.append_assoc, List.mem_append, List.mem_append] at mem
    -- It happens at the first line, in a script that this line starts, or at a later line.
    rcases mem with here | started | behind
    · exact ⟨role, raw, lines, blocks, s, .refl, here⟩
    · obtain ⟨b, opens, told⟩ := Effect.exists_opens_of_mem_log tells planFree started ofLine
      exact told.of_goes (.into opens)
    · unfold Plan.carryOut at behind
      rcases hperform : (role.plan blocks s raw).effect.perform start with ⟨t, _ | failure⟩
      · rw [hperform] at performs run
        simp only [hperform] at behind
        have after : t.freeNames ≤ bound := Nat.le_trans run.freeNames_le free
        rcases hverdict : (role.plan blocks s raw).verdict with _ | _ | _ | failure
        · simp only [hverdict] at behind
          exact (ih _ t after behind).of_goes (.onward performs hverdict)
        · have looked := ((role.lookUp_keeps t).grown none).freeNames_le
          simp only [hverdict, List.mem_append, role.not_mem_logLook ofLine, false_or] at behind
          rcases hlook : role.lookUp t with ⟨_ | _, u⟩
          · rw [hlook] at looked
            simp only [hlook] at behind
            exact (ih _ u (Nat.le_trans looked after) behind).of_goes
              (.looks performs hverdict hlook)
          · simp [hlook] at behind
        · simp [hverdict] at behind
        · simp [hverdict] at behind
      · simp [hperform] at behind

end scribe

/-- What happens in a start is told by the script that is started. By induction on the bound, which
is never felt. -/
theorem Session.exists_opens_of_mem_logStartWithin (bound : Nat) (s : Session) (launch : Launch)
    (free : s.freeNames ≤ bound) {happening : Happening}
    (mem : happening ∈ s.logStartWithin bound launch) (ofLine : happening.ofLine = true) :
    ∃ a, Effect.Opens ⟨s, some launch⟩ a ∧ a.Tells happening := by
  induction bound generalizing s launch happening with
  | zero =>
    rw [logStartWithin, List.mem_singleton] at mem
    subst mem
    cases ofLine
  | succ bound ih =>
    rw [logStartWithin] at mem
    rcases hscript : s.startable? launch with _ | script
    · simp only [hscript, List.mem_singleton] at mem
      subst mem
      cases ofLine
    · have less := freeNames_enlist_lt hscript
      simp only [hscript, List.mem_append, List.mem_cons, List.not_mem_nil, or_false] at mem
      rcases mem with (rfl | read) | rfl
      · cases ofLine
      · refine ⟨_, .started hscript, ?_⟩
        exact Role.tells_of_mem_logLines (performs_startWithin bound)
          (fun t launch free happening mem ofLine => ih t launch free mem ofLine)
          (startWithin_lasting Grown.lasting bound) _ _ _ _ (by omega) read ofLine
      · cases ofLine

/-- The same for the start of a script by name. -/
theorem Session.exists_opens_of_mem_logStart (s : Session) (launch : Launch) {happening : Happening}
    (mem : happening ∈ s.logStart launch) (ofLine : happening.ofLine = true) :
    ∃ a, Effect.Opens ⟨s, some launch⟩ a ∧ a.Tells happening :=
  s.exists_opens_of_mem_logStartWithin _ launch s.freeNames_le_size mem ofLine

/-- The same for an effect, with the starts that there are. -/
theorem Effect.exists_opens_of_mem_logStart {effect : Effect} {happening : Happening}
    (mem : happening ∈ effect.log Session.logStart) (ofLine : happening.ofLine = true) :
    ∃ a, effect.Opens a ∧ a.Tells happening :=
  effect.exists_opens_of_mem_log (fun s launch _ _ => s.exists_opens_of_mem_logStart launch)
    (Nat.le_refl _)
    mem ofLine

namespace Reader

variable {reader : Reader} {s : Session} {happening : Happening}

/-- What happens when a reader reads on is told by its lines. -/
theorem tells_of_mem_logProceed
    (mem : happening ∈ reader.logProceed Session.start Session.logStart s)
    (ofLine : happening.ofLine = true) :
    Activation.Tells ⟨reader.role, reader.lines, reader.blocks, s⟩ happening :=
  Role.tells_of_mem_logLines (fun s launch _ => s.performs_start launch)
    (fun s launch _ _ => s.exists_opens_of_mem_logStart launch)
    (Session.start_lasting Session.Grown.lasting) _ _ _ _ (Nat.le_refl _) mem ofLine

/-- Where a line says so in the turn of a reader, the reader was about to read the lines. -/
theorem exists_unrolls_of_mem_logAdvance
    (mem : happening ∈ reader.logAdvance Session.start Session.logStart s)
    (ofLine : happening.ofLine = true) : ∃ a, reader.Unrolls s a ∧ a.Tells happening := by
  rw [logAdvance, List.mem_append] at mem
  replace mem := mem.resolve_left (reader.role.not_mem_logLook ofLine)
  rcases look : reader.role.lookUp s with ⟨_ | _, t⟩
  · simp only [look] at mem
    exact ⟨_, .reads look, tells_of_mem_logProceed mem ofLine⟩
  · simp only [look, List.mem_append, Session.logElapse, Session.elapse, List.mem_cons] at mem
    rcases mem with ((rfl | halt) | rest) | behind
    · cases ofLine
    · obtain ⟨a, opens, tells⟩ := Effect.exists_opens_of_mem_logStart halt ofLine
      exact ⟨a, .haltEnds look opens, tells⟩
    · split at rest
      · cases List.mem_singleton.1 rest
        cases ofLine
      · cases rest
    · rcases hhalt : t.advanceHalt.perform Session.start with ⟨u, _ | failure⟩
      · simp only [hhalt, List.mem_append, reader.role.not_mem_logLook ofLine, false_or] at behind
        rcases free : reader.role.lookUp u.advanceRest with ⟨_ | _, v⟩
        · simp only [free] at behind
          exact ⟨_, .released look (Effect.performs_iff.2 hhalt.symm) free,
            tells_of_mem_logProceed behind ofLine⟩
        · simp [free] at behind
      · simp [hhalt] at behind

/-- What happens in a frame of a reader is told by lines that it opens. -/
theorem exists_opens_of_mem_log (mem : happening ∈ reader.log Session.start Session.logStart s)
    (ofLine : happening.ofLine = true) : ∃ a, reader.Opens s a ∧ a.Tells happening := by
  rw [log] at mem
  by_cases finished : reader.finished = true
  · rw [if_pos finished] at mem
    cases mem
  · rw [if_neg finished] at mem
    by_cases loaded : reader.loaded = true
    · rw [if_pos loaded] at mem
      obtain ⟨a, unrolls, tells⟩ := exists_unrolls_of_mem_logAdvance mem ofLine
      exact ⟨a, .advances (by simpa using finished) loaded unrolls, tells⟩
    · rw [if_neg loaded] at mem
      rcases load : reader.load s.story with error | full
      · rw [load] at mem
        cases mem
      · rw [load] at mem
        obtain ⟨a, unrolls, tells⟩ := exists_unrolls_of_mem_logAdvance mem ofLine
        exact ⟨a, .loads (by simpa using finished) (by simpa using loaded) load unrolls, tells⟩

end Reader

/-! ## Frames -/

namespace Engine

/-- A part of a frame with its log and the lines that it opens. -/
structure Survey (α : Type) extends Account α where
  /-- The lines that are opened, from an engine on. -/
  opens : Engine → Activation → Prop
  /-- A failure in reading them is one of the part. -/
  fatal : ∀ {engine a failure}, opens engine a → a.reading.failure = some failure →
    (part.outcome engine).1 = .error failure
  /-- What happens because of a line is told by them. -/
  tells : ∀ {engine happening}, happening ∈ log engine → happening.ofLine = true →
    ∃ a, opens engine a ∧ a.Tells happening

namespace Survey

variable {α β : Type}

/-- A part that opens no lines. -/
def still (account : Account α)
    (silent : ∀ engine, ∀ happening ∈ account.log engine, happening.ofLine = false) : Survey α where
  toAccount := account
  opens _ _ := False
  fatal opened := opened.elim
  tells mem ofLine := absurd ofLine (by simp [silent _ _ mem])

/-- The lines of a part that follows another one are opened unless that one fails. -/
instance : Monad Survey where
  pure a := still (pure a) fun _ _ mem => by cases mem
  bind x next :=
    { toAccount := x.toAccount >>= fun a => (next a).toAccount
      opens := fun engine b => x.opens engine b ∨
        ∃ a engine', x.part.outcome engine = (.ok a, engine') ∧ (next a).opens engine' b
      fatal := by
        intro engine b failure opened failed
        rw [Account.part_bind, Part.outcome_bind]
        rcases opened with first | ⟨a, engine', hout, later⟩
        · have ends := x.fatal first failed
          rcases hout : x.part.outcome engine with ⟨other | a, engine'⟩
          · rw [hout] at ends
            obtain rfl := Except.error.inj ends
            rfl
          · rw [hout] at ends
            cases ends
        · rw [hout]
          exact (next a).fatal later failed
      tells := by
        intro engine happening mem ofLine
        rcases List.mem_append.1 mem with first | later
        · obtain ⟨b, opened, tells⟩ := x.tells first ofLine
          exact ⟨b, .inl opened, tells⟩
        · rcases hout : x.part.outcome engine with ⟨failure | a, engine'⟩
          · rw [hout] at later
            cases later
          · rw [hout] at later
            obtain ⟨b, opened, tells⟩ := (next a).tells later ofLine
            exact ⟨b, .inr ⟨a, engine', rfl, opened⟩, tells⟩ }

/-- The account of two surveys in a row is that of their accounts in a row. -/
theorem toAccount_bind (x : Survey α) (next : α → Survey β) :
    (x >>= next).toAccount = x.toAccount >>= fun a => (next a).toAccount := rfl

/-- The account of surveys for each member of a list is that of their accounts. -/
theorem toAccount_forM (body : β → Survey Unit) (list : List β) :
    (list.forM body).toAccount = list.forM fun b => (body b).toAccount := by
  induction list with
  | nil => rfl
  | cons b list ih =>
    show (body b).toAccount >>= (fun _ => (list.forM body).toAccount) = _
    rw [ih]
    rfl

/-- Taking a signal. -/
def receive (signal : Signal) : Survey Unit where
  toAccount := .receive signal
  opens engine := (signal.effect engine.session).Opens
  fatal := by
    intro engine a failure opened failed
    show (Part.outcome (Part.receive signal) engine).1 = _
    rw [Part.receive_eq, Part.outcome_perform, opened.perform_eq, Part.resultOf_eq_error]
    exact failed
  tells := by
    intro engine happening mem ofLine
    rcases List.mem_cons.1 mem with rfl | mem
    · cases ofLine
    · exact Effect.exists_opens_of_mem_logStart mem ofLine

/-- Beginning the scene that is to begin. -/
def beginScene : Survey Bool :=
  still .beginScene <| by
    intro engine happening mem
    unfold Account.beginScene at mem
    dsimp only at mem
    rcases hscene : engine.session.pendingScene with _ | scene
    · rw [hscene] at mem
      cases mem
    · rw [hscene] at mem
      dsimp only at mem
      rcases hcheck : engine.session.story.checkScene scene with error | _
      · rw [hcheck] at mem
        cases List.mem_singleton.1 mem
        rfl
      · rw [hcheck] at mem
        cases List.mem_singleton.1 mem
        rfl

/-- Starting a script. -/
def launch (launch : Launch) : Survey Unit where
  toAccount := .launch launch
  opens engine := Effect.Opens ⟨engine.session, some launch⟩
  fatal := by
    intro engine a failure opened failed
    show (Part.outcome (Part.launch launch) engine).1 = _
    rw [Part.launch, Part.outcome_perform, opened.perform_eq, Part.resultOf_eq_error]
    exact failed
  tells mem ofLine := Session.exists_opens_of_mem_logStart _ launch mem ofLine

/-- The timers run, and those that are due start their scripts. -/
def runTimers : Survey Unit where
  toAccount := .runTimers
  opens engine := (engine.session.timers.tick.1.forM launch).opens (engine.after .timersRan)
  fatal := by
    intro engine a failure opened failed
    have ends := (engine.session.timers.tick.1.forM launch).fatal opened failed
    rw [toAccount_forM, Account.part_forM] at ends
    exact ends
  tells := by
    intro engine happening mem ofLine
    rcases List.mem_cons.1 mem with rfl | mem
    · cases ofLine
    · refine (engine.session.timers.tick.1.forM launch).tells ?_ ofLine
      rw [toAccount_forM]
      exact mem

/-- Reading the main script. -/
def readMain : Survey Unit where
  toAccount := .readMain
  opens engine := engine.main.Opens engine.session
  fatal := by
    intro engine a failure opened failed
    show (Part.outcome Part.readMain engine).1 = _
    rw [Part.outcome_readMain, opened.failure_eq failed]
    rfl
  tells mem ofLine := Reader.exists_opens_of_mem_log mem ofLine

/-- Reading the script in the slot at a place. -/
def readBackground (index : Nat) : Survey Unit where
  toAccount := .readBackground index
  opens engine a := engine.session.pendingScene = none ∧ ∃ reader background,
    engine.session.background.checkOut? index = some (reader, background) ∧
    reader.Opens { engine.session with background } a
  fatal := by
    rintro engine a failure ⟨stays, reader, background, hout, opened⟩ failed
    show (Part.outcome (Part.readBackground index) engine).1 = _
    rw [Part.outcome_readBackground, stays, hout]
    show Part.resultOf (reader.step Session.start { engine.session with background }).failure = _
    rw [opened.failure_eq failed]
    rfl
  tells := by
    intro engine happening mem ofLine
    unfold Account.readBackground at mem
    dsimp only at mem
    split at mem
    · cases mem
    · next stays =>
      rcases hout : engine.session.background.checkOut? index with _ | ⟨reader, background⟩
      · rw [hout] at mem
        cases mem
      · simp only [hout, List.cons_append, List.mem_cons, List.mem_append, List.not_mem_nil,
          or_false] at mem
        rcases mem with rfl | mem | rfl
        · cases ofLine
        · obtain ⟨a, opened, tells⟩ := Reader.exists_opens_of_mem_log mem ofLine
          exact ⟨a, ⟨by simpa using stays, reader, background, rfl, opened⟩, tells⟩
        · cases ofLine

/-- Beginning the scene that is to begin, and reading its script. -/
def readNewScene : Survey Unit := do
  if ← beginScene then readMain

/-- All parts of a frame. -/
def frame (signal : Option Signal) : Survey (List Cue × Waiting) := do
  signal.forM receive
  let _ ← beginScene
  runTimers
  let _ ← beginScene
  readMain
  readNewScene
  let engine ← still .get fun _ _ mem => by cases mem
  (List.range engine.session.background.size).forM readBackground
  readNewScene
  still .purge fun _ _ mem => by cases List.mem_singleton.1 mem; rfl
  let waiting ← still .waiting fun _ _ mem => by cases List.mem_singleton.1 mem; rfl
  let cues ← still .takeCues fun _ _ mem => by cases List.mem_singleton.1 mem; rfl
  return (cues, waiting)

/-! ### The parts are those of a frame -/

/-- The survey of a signal is about what a signal does. -/
theorem toAccount_receive (signal : Option Signal) :
    (signal.forM receive : Survey Unit).toAccount = signal.forM Account.receive := by
  cases signal <;> rfl

/-- The survey of the turn of a new scene is about that turn. -/
theorem toAccount_readNewScene : readNewScene.toAccount = Account.readNewScene := by
  show (Account.beginScene >>= fun begun => (if begun then readMain else pure ()).toAccount) = _
  unfold Account.readNewScene
  congr 1
  funext begun
  cases begun <;> rfl

/-- The survey of a frame is about the frame. -/
theorem toAccount_frame (signal : Option Signal) :
    (frame signal).toAccount = Account.frame signal := by
  unfold frame Account.frame
  simp only [toAccount_bind, toAccount_receive, toAccount_readNewScene, toAccount_forM]
  rfl

end Survey

/-- Lines that a frame comes to, with who reads them, the open blocks, and the session at that
moment. -/
def Meets (engine : Engine) (signal : Option Signal) (b : Activation) : Prop :=
  ∃ a, (Survey.frame signal).opens engine a ∧ ReflTransGen Activation.Goes a b

variable {engine : Engine} {signal : Option Signal}

/-- What is read next in the course of a frame is met in it. -/
theorem Meets.goes {b c : Activation} (meets : engine.Meets signal b) (goes : b.Goes c) :
    engine.Meets signal c := by
  obtain ⟨a, opened, course⟩ := meets
  exact ⟨a, opened, course.tail goes⟩

/-- Without a signal, a timer that is due and a scene that is to begin, a frame begins with the main
script. -/
theorem meets_of_main {a : Activation} (stays : engine.session.pendingScene = none)
    (untimed : engine.session.timers.tick.1 = [])
    (opened : engine.main.Opens (engine.after .timersRan).session a) : engine.Meets none a := by
  have noScene (other : Engine) (none : other.session.pendingScene = none) :
      Part.beginScene.outcome other = (.ok false, other) := by
    rw [Part.outcome_beginScene, none]
  have timers : Part.runTimers.outcome engine = (.ok (), engine.after .timersRan) := by
    show Part.outcome (engine.session.timers.tick.1.forM Part.launch) (engine.after .timersRan) = _
    rw [untimed]
    rfl
  exact ⟨a, .inr ⟨(), engine, rfl, .inr ⟨false, engine, noScene engine stays, .inr ⟨(), _, timers,
    .inr ⟨false, _, noScene _ stays, .inl opened⟩⟩⟩⟩, .refl⟩

/-- A frame fails with the failure of lines that it comes to. -/
theorem Meets.tick_eq_error {b : Activation} {failure : Failure} (meets : engine.Meets signal b)
    (failed : b.reading.failure = some failure) : (engine.tick signal).1 = .error failure := by
  obtain ⟨a, opened, course⟩ := meets
  have ends := (Survey.frame signal).fatal opened (Activation.failure_eq_of_goes course failed)
  rw [Survey.toAccount_frame, Account.part_frame] at ends
  exact ends

/-- What happens in a frame because of a line is told by a line that the frame comes to. -/
theorem exists_meets_of_mem_log {happening : Happening} (mem : happening ∈ engine.log signal)
    (ofLine : happening.ofLine = true) :
    ∃ role raw lines blocks s, engine.Meets signal ⟨role, raw :: lines, blocks, s⟩ ∧
      happening ∈ role.logPlan blocks s raw := by
  rw [Engine.log, ← Survey.toAccount_frame] at mem
  obtain ⟨a, opened, role, raw, lines, blocks, s, course, told⟩ :=
    (Survey.frame signal).tells mem ofLine
  exact ⟨role, raw, lines, blocks, s, ⟨a, opened, course⟩, told⟩

end Engine

end VisualNovel
