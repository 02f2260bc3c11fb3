import VisualNovel.Proofs.DueTimers
import VisualNovel.Proofs.Termination

/-!
# Rosters of running scripts

A script that is asked for again while it has a slot is not started again, wherever the request
comes from: a tag, a hook of the dialog, the end of a halt, a timer, in any script that is being
read. So within a scene every name is started once at most in a frame, and the script that runs
under the name has the parameters of the launch that started it.

The slots do not show this by themselves. A slot is empty while its reader is at work, and nothing
in the session says then with which parameters. The roster does: it lists the launches of the
running scripts in the order of their slots, and grows with every start until a scene begins.
`Session.Orderly` says of a log what is to be shown, at every place in it. It is proved along with
the slots being those of the roster (`Background.Hosts`), from a line to readers, starts and the
parts of a frame.
-/

namespace VisualNovel

/-! ## Rosters -/

/-- Whose script the reader of a launch reads. -/
def Launch.role (launch : Launch) : Role :=
  .background launch.name launch.parameters

/-- The launch with which a reusable script was started. -/
def Role.launch? : Role → Option Launch
  | .main _ => none
  | .background name parameters => some ⟨name, parameters⟩

namespace Happening

/-- The script that is asked for, whether it is started or not. -/
def wanted? : Happening → Option Launch
  | started launch => some launch
  | refused launch => some launch
  | _ => none

/-- The script that is started. -/
def start? : Happening → Option Launch
  | started launch => some launch
  | _ => none

/-- The roster after something has happened. A scene begins without running scripts. -/
def enrol (roster : List Launch) : Happening → List Launch
  | started launch => roster ++ [launch]
  | sceneBegan _ => []
  | _ => roster

/-- Whether the slots and the roster are left alone, and nothing is asked for. -/
def isStill : Happening → Bool
  | started _ => false
  | refused _ => false
  | slots _ => false
  | sceneBegan _ => false
  | _ => true

end Happening

namespace Roster

/-- The names of the running scripts. -/
def names (roster : List Launch) : List String :=
  roster.map (·.name)

/-- The roster after a log. -/
def after (roster : List Launch) (log : List Happening) : List Launch :=
  log.foldl Happening.enrol roster

/-- The scripts that are started in a log. -/
def starts (log : List Happening) : List Launch :=
  log.filterMap Happening.start?

/-- An empty log leaves the roster. -/
@[simp] theorem after_nil (roster : List Launch) : after roster [] = roster := rfl

/-- The first entry of a log changes the roster before the others do. -/
@[simp] theorem after_cons (roster : List Launch) (happening : Happening) (log : List Happening) :
    after roster (happening :: log) = after (happening.enrol roster) log := rfl

/-- Two logs change the roster one after the other. -/
@[simp] theorem after_append (roster : List Launch) (log log' : List Happening) :
    after roster (log ++ log') = after (after roster log) log' :=
  List.foldl_append

/-- As long as no scene begins, the roster grows by the scripts that are started. -/
theorem after_eq {log : List Happening} (unbroken : ∀ scene, .sceneBegan scene ∉ log)
    (roster : List Launch) : after roster log = roster ++ starts log := by
  induction log generalizing roster with
  | nil => simp [starts]
  | cons happening log ih =>
    have rest : ∀ scene, .sceneBegan scene ∉ log := fun scene mem =>
      unbroken scene (List.mem_cons_of_mem _ mem)
    rw [after_cons, ih rest]
    cases happening with
    | started launch => simp [Happening.enrol, starts, Happening.start?]
    | sceneBegan scene => exact absurd List.mem_cons_self (unbroken scene)
    | _ => rfl

/-- In scripts, the roster only grows, by the scripts that are started. -/
theorem after_of_scripted {log : List Happening} (scripted : Happening.Scripted log)
    (roster : List Launch) : after roster log = roster ++ starts log :=
  after_eq (fun scene mem => by cases scripted _ mem) roster

end Roster

/-! ## Slots of a roster -/

/-- The slots are those of the launches, in their order: each has the name, and whoever is in it
reads for the launch. -/
structure Background.Hosts (background : Background) (roster : List Launch) : Prop where
  /-- The names of the slots. -/
  names : background.names = Roster.names roster
  /-- The readers in the slots. -/
  role : ∀ (index : Nat) slot launch reader, background.slots[index]? = some slot →
    roster[index]? = some launch → slot.reader = some reader → reader.role = launch.role

/-- Whoever is in a slot reads for the launch of that name. -/
def Background.Hosted (background : Background) (roster : List Launch) : Prop :=
  ∀ slot ∈ background.slots, ∀ reader, slot.reader = some reader →
    ∃ launch ∈ roster, launch.name = slot.name ∧ reader.role = launch.role

/-- The launches of the scripts whose readers are in their slots. -/
def Background.launches (background : Background) : List Launch :=
  background.slots.filterMap fun slot => slot.reader.bind (·.role.launch?)

namespace Background.Hosts

variable {background : Background} {roster : List Launch}

/-- Without a slot, the slots are those of no launches. -/
theorem empty : Background.Hosts {} [] :=
  ⟨rfl, by simp⟩

variable (hosts : background.Hosts roster)

include hosts

/-- There are as many slots as launches. -/
theorem size_eq : background.size = roster.length := by
  have length := congrArg List.length hosts.names
  simpa [Background.names, Roster.names, Background.size] using length

/-- The launch of a slot stands at its place. -/
theorem exists_launch {index : Nat} {slot : Slot} (hslot : background.slots[index]? = some slot) :
    ∃ launch, roster[index]? = some launch ∧ launch.name = slot.name := by
  have name : (Roster.names roster)[index]? = some slot.name := by
    rw [← hosts.names]
    simp [Background.names, hslot]
  rw [Roster.names, List.getElem?_map] at name
  exact Option.map_eq_some_iff.1 name

/-- Slots that are those of the launches are read for them. -/
theorem hosted : background.Hosted roster := by
  intro slot mem reader hreader
  obtain ⟨index, hslot⟩ := List.mem_iff_getElem?.1 mem
  obtain ⟨launch, hlaunch, same⟩ := hosts.exists_launch hslot
  have role := hosts.role index slot launch reader hslot hlaunch hreader
  exact ⟨launch, List.mem_of_getElem? hlaunch, same, role⟩

/-- A script that is started gets the slot of its launch. -/
theorem reserve (launch : Launch) :
    (background.reserve launch.name).Hosts (roster ++ [launch]) where
  names := by
    simpa [Background.reserve, Background.names, Roster.names] using hosts.names
  role := by
    intro index slot launch' reader hslot hlaunch hreader
    simp only [Background.reserve, List.getElem?_append] at hslot
    rw [List.getElem?_append, ← hosts.size_eq, Background.size] at hlaunch
    split at hslot
    next inside =>
      rw [if_pos inside] at hlaunch
      exact hosts.role index slot launch' reader hslot hlaunch hreader
    next =>
      -- the new slot is empty
      have new := List.mem_singleton.1 (List.mem_of_getElem? hslot)
      rw [new] at hreader
      cases hreader

/-- The reader of a launch comes back into its slot. -/
theorem checkIn {index : Nat} {launch : Launch} {reader : Reader}
    (place : roster[index]? = some launch) (role : reader.role = launch.role) :
    (background.checkIn index reader).Hosts roster where
  names := (background.checkIn_names index reader).trans hosts.names
  role := by
    intro i slot launch' reader' hslot hlaunch hreader
    have name : reader.role.name? = some launch.name := by rw [role]; rfl
    simp only [Background.checkIn, name, List.getElem?_modify, Option.map_eq_map,
      Option.map_eq_some_iff] at hslot
    obtain ⟨old, hold, rfl⟩ := hslot
    split at hreader
    next same =>
      subst same
      unfold Slot.refill at hreader
      split at hreader
      next =>
        cases hreader
        rw [role, Option.some.inj (place.symm.trans hlaunch)]
      next => exact hosts.role index old launch' reader' hold hlaunch hreader
    next => exact hosts.role i old launch' reader' hold hlaunch hreader

/-- A reader that is taken out of its slot reads for the launch of the slot. -/
theorem checkOut? {index : Nat} {reader : Reader} {out : Background}
    (hout : background.checkOut? index = some (reader, out)) :
    ∃ launch, roster[index]? = some launch ∧ reader.role = launch.role ∧ out.Hosts roster := by
  have names : out.names = background.names := by
    obtain ⟨front, name, rest, -, hslots, rfl⟩ := Background.checkOut?_eq_some hout
    simp [Background.names, hslots]
  simp only [Background.checkOut?, Option.bind_eq_bind, Option.bind_eq_some_iff, Option.pure_def,
    Option.some.injEq, Prod.mk.injEq] at hout
  obtain ⟨slot, hslot, _, hreader, rfl, rfl⟩ := hout
  obtain ⟨launch, place, -⟩ := hosts.exists_launch hslot
  refine ⟨launch, place, hosts.role index slot launch _ hslot place hreader,
    names.trans hosts.names, ?_⟩
  intro i slot' launch' reader' hslot' hlaunch hreader'
  dsimp only at hslot'
  rw [List.getElem?_set] at hslot'
  split at hslot'
  next =>
    -- the slot at the place is empty now
    split at hslot' <;> cases hslot'
    cases hreader'
  next => exact hosts.role i slot' launch' reader' hslot' hlaunch hreader'

end Background.Hosts

/-- The reader in a filled slot shows the launch of the slot. -/
theorem Slot.Filled.exists_launch {story : Story} {slot : Slot} (filled : slot.Filled story) :
    ∃ launch, slot.reader.bind (·.role.launch?) = some launch ∧ launch.name = slot.name ∧
      ∀ reader, slot.reader = some reader → reader.role = launch.role := by
  obtain ⟨reader, hreader, carried⟩ := filled.reader
  cases hrole : reader.role with
  | main => simp [hrole, Role.name?] at carried
  | background name parameters =>
    rw [hrole] at carried
    refine ⟨⟨name, parameters⟩, by simp [hreader, hrole, Role.launch?], Option.some.inj carried, ?_⟩
    intro reader' hreader'
    rw [hreader] at hreader'
    cases hreader'
    exact hrole

/-- Where every slot is filled, the roster can be read off the slots. -/
theorem Background.hosts_launches {story : Story} (slots : List Slot) (ended : List String)
    (filled : ∀ slot ∈ slots, slot.Filled story) :
    Background.Hosts ⟨slots, ended⟩ (Background.launches ⟨slots, ended⟩) := by
  induction slots with
  | nil => exact ⟨rfl, by simp⟩
  | cons slot slots ih =>
    obtain ⟨first, rest⟩ := List.forall_mem_cons.1 filled
    obtain ⟨launch, found, name, role⟩ := first.exists_launch
    have hosts := ih rest
    have launches : Background.launches ⟨slot :: slots, ended⟩ =
        launch :: Background.launches ⟨slots, ended⟩ := by
      simp [Background.launches, found]
    rw [launches]
    constructor
    · have names := hosts.names
      simp only [Background.names, Roster.names, List.map_cons] at names ⊢
      rw [name, names]
    · intro index slot' launch' reader hslot hlaunch hreader
      cases index with
      | zero =>
        cases hslot
        cases hlaunch
        exact role reader hreader
      | succ index => exact hosts.role index slot' launch' reader hslot hlaunch hreader

/-- What leaves the slots alone. -/
theorem Happening.keeps_of_isStill {happening : Happening} (still : happening.isStill = true)
    (s : Session) : s.Keeps (happening.apply s) := by
  cases happening with
  | received signal => exact signal.effect_keeps s
  | obeyed isMain freshNames instruction tag =>
    have drawn : s.Keeps { s with freshNames } := ⟨rfl, rfl, rfl⟩
    unfold apply
    dsimp only
    split
    next executed => exact drawn.trans (Session.execute_deed _ executed).keeps
    next => exact drawn
  | looked => exact s.heldBy_ordinary.keeps
  | haltWent => exact s.advanceHalt_stays.toKeeps
  | restWent => exact s.advanceRest_ordinary.keeps
  | started | refused | slots | sceneBegan => cases still
  | _ => exact ⟨rfl, rfl, rfl⟩

/-- What is still asks for nothing. -/
theorem Happening.wanted?_of_isStill {happening : Happening} (still : happening.isStill = true) :
    happening.wanted? = none := by
  cases happening with
  | started | refused | slots | sceneBegan => cases still
  | _ => rfl

/-- What is still leaves the roster alone. -/
theorem Happening.enrol_of_isStill {happening : Happening} (still : happening.isStill = true)
    (roster : List Launch) : happening.enrol roster = roster := by
  cases happening with
  | started | refused | slots | sceneBegan => cases still
  | _ => rfl

/-! ## Orderly logs -/

/-- What comes of a request, in a session with a roster. -/
structure Session.Answers (s : Session) (roster : List Launch) (launch : Launch)
    (happening : Happening) (rest : List Happening) : Prop where
  /-- A script whose name is on the roster is refused, and nothing changes. -/
  again : launch.name ∈ Roster.names roster → happening = .refused launch ∧
    s.start launch = (s, none)
  /-- Any other that is there is started, and read at once by a reader with the parameters of the
  launch. -/
  first : launch.name ∉ Roster.names roster → launch.name ≠ "" → ∀ script,
    s.story.reusables.find? launch.name = some script →
      happening = .started launch ∧ ∃ bound more,
        rest = (Reader.ofScript launch script).log (startWithin bound) (logStartWithin bound)
          (s.enlist launch) ++ more

/-- A log from a session with a roster, in which at every place the readers in slots are those of
the roster, and requests are answered by it. -/
def Session.Orderly : Session → List Launch → List Happening → Prop
  | s, roster, [] => s.background.Hosted roster
  | s, roster, happening :: rest =>
    s.background.Hosted roster ∧
      (∀ launch, happening.wanted? = some launch → s.Answers roster launch happening rest) ∧
      (happening.apply s).Orderly (happening.enrol roster) rest

namespace Session

variable {s : Session} {roster : List Launch}

/-- An answer to a request stays one when more happens. -/
theorem Answers.append {launch : Launch} {happening : Happening} {rest : List Happening}
    (answers : s.Answers roster launch happening rest) (more : List Happening) :
    s.Answers roster launch happening (rest ++ more) where
  again := answers.again
  first new named script found := by
    obtain ⟨started, bound, more', rfl⟩ := answers.first new named script found
    exact ⟨started, bound, more' ++ more, List.append_assoc ..⟩

namespace Orderly

/-- Orderly logs are orderly one after the other. -/
theorem append {log log' : List Happening} (first : s.Orderly roster log)
    (second : (s.replay log).Orderly (Roster.after roster log) log') :
    s.Orderly roster (log ++ log') := by
  induction log generalizing s roster with
  | nil => exact second
  | cons happening log ih =>
    obtain ⟨hosted, answers, rest⟩ := first
    exact ⟨hosted, fun launch asked => (answers launch asked).append log', ih rest second⟩

/-- What remains of an orderly log is orderly. -/
theorem drop {past rest : List Happening} (orderly : s.Orderly roster (past ++ rest)) :
    (s.replay past).Orderly (Roster.after roster past) rest := by
  induction past generalizing s roster with
  | nil => exact orderly
  | cons happening past ih => exact ih orderly.2.2

/-- An orderly log begins with readers of the roster. -/
theorem hosted {log : List Happening} (orderly : s.Orderly roster log) :
    s.background.Hosted roster := by
  cases log with
  | nil => exact orderly
  | cons => exact orderly.1

/-- No name comes on the roster twice. -/
theorem nodup {log rest : List Happening} (orderly : s.Orderly roster (log ++ rest))
    (distinct : (Roster.names roster).Nodup) : (Roster.names (Roster.after roster log)).Nodup := by
  induction log generalizing s roster with
  | nil => exact distinct
  | cons happening log ih =>
    obtain ⟨-, answers, later⟩ := orderly
    apply ih later
    cases happening with
    | started launch =>
      have new : launch.name ∉ Roster.names roster := fun mem => by
        cases ((answers launch rfl).again mem).1
      simp only [Happening.enrol, Roster.names, List.map_append, List.map_cons, List.map_nil]
        at new ⊢
      rw [List.nodup_append]
      refine ⟨distinct, by simp, ?_⟩
      intro name mem name' mem' same
      rw [same, List.mem_singleton.1 mem'] at mem
      exact new mem
    | sceneBegan => exact List.nodup_nil
    | _ => exact distinct

end Orderly

/-- The slots are those of the roster, and a bound on nested starts is large enough. -/
structure Ready (bound : Nat) (roster : List Launch) (s : Session) : Prop where
  /-- The slots are those of the roster. -/
  hosts : s.background.Hosts roster
  /-- There are no more free names than starts that can be nested. -/
  free : s.freeNames ≤ bound

/-- A log that is orderly, and leaves the session ready, if it begins with a session that is. -/
def Runs (bound : Nat) (roster : List Launch) (s : Session) (log : List Happening) : Prop :=
  s.Ready bound roster →
    s.Orderly roster log ∧ (s.replay log).Ready bound (Roster.after roster log)

/-- A change that keeps the running scripts keeps the session ready. -/
theorem Ready.keeps {bound : Nat} (ready : s.Ready bound roster) {t : Session} (keeps : s.Keeps t) :
    t.Ready bound roster := by
  constructor
  · rw [keeps.background]
    exact ready.hosts
  · unfold freeNames
    rw [keeps.story, keeps.background]
    exact ready.free

/-- The names that can be started are not on the roster. -/
theorem Ready.answers_started {bound : Nat} (ready : s.Ready bound roster) {launch : Launch}
    {script : String} (startable : s.startable? launch = some script) (within : Nat)
    (more : List Happening) :
    s.Answers roster launch (.started launch)
      ((Reader.ofScript launch script).log (startWithin within) (logStartWithin within)
        (s.enlist launch) ++ more) := by
  obtain ⟨-, new, found⟩ := startable?_eq_some startable
  rw [ready.hosts.names] at new
  refine ⟨fun mem => absurd mem new, fun _ _ script' found' => ⟨rfl, within, more, ?_⟩⟩
  rw [Option.some.inj (found.symm.trans found')]

/-- The names that cannot are on it, or are those of no script. -/
theorem Ready.answers_refused {bound : Nat} (ready : s.Ready bound roster) {launch : Launch}
    (refused : s.startable? launch = none) (rest : List Happening) :
    s.Answers roster launch (.refused launch) rest where
  again _ := by
    refine ⟨rfl, ?_⟩
    unfold start
    cases s.story.reusables.size with
    | zero => rfl
    | succ bound => rw [startWithin, refused]
  first new named script found := by
    rw [← ready.hosts.names] at new
    rw [startable?, if_neg (by simp [named, Background.contains, new]), found] at refused
    cases refused

namespace Runs

variable {bound : Nat}

/-- A log without an entry runs in order. -/
theorem nil : Runs bound roster s [] :=
  fun ready => ⟨ready.hosts.hosted, ready⟩

/-- Runs go on one after the other. -/
theorem append {log log' : List Happening} (first : Runs bound roster s log)
    (second : Runs bound (Roster.after roster log) (s.replay log) log') :
    Runs bound roster s (log ++ log') := by
  intro ready
  obtain ⟨orderly, ready⟩ := first ready
  obtain ⟨orderly', ready⟩ := second ready
  rw [replay_append, Roster.after_append]
  exact ⟨orderly.append orderly', ready⟩

/-- A run goes on behind its first happening. -/
theorem cons {happening : Happening} {log : List Happening}
    (first : Runs bound roster s [happening])
    (second : Runs bound (happening.enrol roster) (happening.apply s) log) :
    Runs bound roster s (happening :: log) :=
  append first second

/-- What leaves the slots and the roster alone. -/
theorem of_still {log : List Happening} (still : ∀ happening ∈ log, happening.isStill = true) :
    Runs bound roster s log := by
  induction log generalizing s with
  | nil => exact nil
  | cons happening log ih =>
    obtain ⟨first, rest⟩ := List.forall_mem_cons.1 still
    intro ready
    have same := Happening.enrol_of_isStill first roster
    obtain ⟨orderly, ready'⟩ := ih rest (ready.keeps (Happening.keeps_of_isStill first s))
    rw [replay_cons, Roster.after_cons, same]
    refine ⟨⟨ready.hosts.hosted, ?_, by rwa [same]⟩, ready'⟩
    simp [Happening.wanted?_of_isStill first]

/-- What cannot be started is refused. -/
theorem refused {launch : Launch}
    (unstartable : s.Ready bound roster → s.startable? launch = none) :
    Runs bound roster s [.refused launch] := by
  intro ready
  refine ⟨⟨ready.hosts.hosted, ?_, ready.hosts.hosted⟩, ready⟩
  rintro _ ⟨⟩
  exact ready.answers_refused (unstartable ready) []

/-- A reader goes back into its slot, or out of it. -/
theorem slots {background : Background}
    (hosts : s.background.Hosts roster → background.Hosts roster) :
    Runs bound roster s [.slots background] := by
  intro ready
  have hosts := hosts ready.hosts
  refine ⟨⟨ready.hosts.hosted, nofun, hosts.hosted⟩, hosts, ?_⟩
  have names : background.names = s.background.names := hosts.names.trans ready.hosts.names.symm
  have free := ready.free
  unfold freeNames at free ⊢
  rw [← names] at free
  exact free

end Runs

end Session

/-! ## Readers and starts -/

/-- A line that is read leaves slots and roster alone. -/
theorem Role.still_logPlan (role : Role) (blocks : Blocks) (s : Session) (raw : String) :
    ∀ happening ∈ role.logPlan blocks s raw, happening.isStill = true :=
  role.forall_mem_logPlan blocks s (fun _ => rfl) (fun _ _ _ _ => rfl) raw

/-- So does a look at the pauses. -/
theorem Role.still_logLook (role : Role) :
    ∀ happening ∈ role.logLook, happening.isStill = true := by
  unfold logLook
  split <;> simp [Happening.isStill]

section readers

open Session (Runs)

variable {bound : Nat} {start : Starter} {scribe : Scribe} (faithful : scribe.Faithful start)
  (runs : ∀ s roster launch, Runs bound roster s (scribe s launch))

include runs in
/-- The script that an effect starts runs in order. -/
theorem Effect.runs_log (effect : Effect) (roster : List Launch) :
    Runs bound roster effect.session (effect.log scribe) := by
  unfold log
  split
  · exact .nil
  · exact runs _ _ _

include runs in
/-- A line with what it starts runs in order. -/
theorem Role.runs_logLine (role : Role) (blocks : Blocks) (s : Session) (raw : String)
    (roster : List Launch) : Runs bound roster s (role.logLine scribe blocks s raw) := by
  refine .append (.of_still (role.still_logPlan blocks s raw)) ?_
  rw [role.replay_logPlan]
  exact Effect.runs_log runs _ _

include runs in
/-- A turn of the pauses runs in order. -/
theorem Session.runs_logElapse (s : Session) (roster : List Launch) :
    Runs bound roster s (s.logElapse start scribe) := by
  unfold logElapse
  refine .cons (.of_still (by simp [Happening.isStill])) ?_
  refine .append (Effect.runs_log runs s.advanceHalt _) ?_
  split
  · exact .of_still (by simp [Happening.isStill])
  · exact .nil

include faithful runs

/-- By induction on the lines. -/
theorem Role.runs_logLines (role : Role) (lines : List String) (blocks : Blocks) (s : Session)
    (roster : List Launch) : Runs bound roster s (role.logLines start scribe lines blocks s) := by
  induction lines generalizing blocks s roster with
  | nil => exact .nil
  | cons raw lines ih =>
    unfold logLines
    refine .append (role.runs_logLine runs blocks s raw roster) ?_
    rw [faithful.replay_logLine]
    split
    · exact ih _ _ _
    · refine .append (.of_still role.still_logLook) ?_
      rw [role.replay_logLook]
      split
      · exact .nil
      next hlook =>
        rw [hlook]
        exact ih _ _ _
    · exact .nil
    · exact .nil

/-- A turn of a reader with its lines runs in order. -/
theorem Reader.runs_logAdvance (reader : Reader) (s : Session) (roster : List Launch) :
    Runs bound roster s (reader.logAdvance start scribe s) := by
  unfold logAdvance
  refine .append (.of_still reader.role.still_logLook) ?_
  rw [reader.role.replay_logLook]
  split
  next hlook =>
    rw [hlook]
    exact Role.runs_logLines faithful runs _ _ _ _ _
  next hlook =>
    rw [hlook]
    refine .append (Session.runs_logElapse runs _ _) ?_
    rw [faithful.replay_logElapse]
    split
    · exact .nil
    next helapse =>
      rw [helapse]
      refine .append (.of_still reader.role.still_logLook) ?_
      rw [reader.role.replay_logLook]
      split
      · exact .nil
      next hlook =>
        rw [hlook]
        exact Role.runs_logLines faithful runs _ _ _ _ _

/-- So does any turn of a reader. -/
theorem Reader.runs_log (reader : Reader) (s : Session) (roster : List Launch) :
    Runs bound roster s (reader.log start scribe s) := by
  unfold log
  split
  · exact .nil
  · split
    · exact Reader.runs_logAdvance faithful runs reader s roster
    · split
      · exact .nil
      · exact Reader.runs_logAdvance faithful runs _ s roster

end readers

namespace Session

/-- A reader of a launch that is at work goes back into the slot of the launch, whatever its run has
started meanwhile. -/
theorem Runs.checkIn {bound : Nat} {roster : List Launch} {s : Session} {start : Starter}
    {scribe : Scribe} (faithful : scribe.Faithful start)
    (runs : ∀ s roster launch, Runs bound roster s (scribe s launch))
    (scripted : ∀ s launch, Happening.Scripted (scribe s launch)) (reader : Reader) {index : Nat}
    {launch : Launch} (place : roster[index]? = some launch) (role : reader.role = launch.role) :
    Runs bound roster s (reader.log start scribe s ++
      [.slots ((reader.step start s).checkIn index).1.background]) := by
  refine .append (reader.runs_log faithful runs s roster) (.slots fun hosts => ?_)
  rw [faithful.replay_log] at hosts
  have background : reader.role.isMain = false := by rw [role]; rfl
  rw [Roster.after_of_scripted (reader.log_scripted scripted background s)] at hosts ⊢
  refine hosts.checkIn ?_ ((reader.step_role start s).trans role)
  rw [List.getElem?_append_left (List.getElem?_eq_some_iff.1 place).1, place]

/-- By induction on the bound. A start takes a free name, so the bound for what is started in turn
is still large enough. -/
theorem runs_logStartWithin (bound : Nat) (s : Session) (roster : List Launch) (launch : Launch) :
    Runs bound roster s (logStartWithin bound s launch) := by
  induction bound generalizing s roster launch with
  | zero => exact .refused fun ready => startable?_eq_none (Nat.le_zero.1 ready.free) launch
  | succ bound ih =>
    unfold logStartWithin
    split
    next unstartable => exact .refused fun _ => unstartable
    next script startable =>
      intro ready
      have place : (roster ++ [launch])[s.background.size]? = some launch := by
        simp [ready.hosts.size_eq]
      have inside : Runs bound (roster ++ [launch]) (s.enlist launch) _ :=
        .checkIn (logStartWithin_faithful bound) ih (logStartWithin_scripted bound)
          (Reader.ofScript launch script) place rfl
      have less := freeNames_enlist_lt startable
      have free := ready.free
      obtain ⟨orderly, ready'⟩ := inside ⟨ready.hosts.reserve launch, by omega⟩
      refine ⟨⟨ready.hosts.hosted, ?_, orderly⟩, ready'.hosts, Nat.le_succ_of_le ready'.free⟩
      rintro _ ⟨⟩
      exact ready.answers_started startable bound _

/-- Whatever the bound is, the one that starts have is large enough. -/
theorem runs_logStart {bound : Nat} (s : Session) (roster : List Launch) (launch : Launch) :
    Runs bound roster s (s.logStart launch) := by
  intro ready
  obtain ⟨orderly, ready'⟩ :=
    runs_logStartWithin _ s roster launch ⟨ready.hosts, s.freeNames_le_size⟩
  refine ⟨orderly, ready'.hosts, ?_⟩
  have fewer := (start_lasting Grown.lasting s launch).freeNames_le
  rw [logStart_faithful s launch]
  exact Nat.le_trans fewer ready.free

end Session

/-! ## Frames -/

namespace Engine.Account

open Session (Runs)

variable {s : Session} {roster : List Launch} {α : Type} {x : Account α}

/-- The log so far is orderly, and the slots are those of the roster. -/
def Enrolled (s : Session) (roster : List Launch) (_ : Engine) (past : List Happening) : Prop :=
  s.Orderly roster past ∧ (s.replay past).background.Hosts (Roster.after roster past)

/-- A part that keeps it so, whether it fails or not. -/
abbrev Enrols (s : Session) (roster : List Launch) (x : Account α) : Prop :=
  Ensures s (Enrolled s roster) x (fun _ => Enrolled s roster) (fun _ => Enrolled s roster)

/-- A part whose log is orderly, and hosts the roster after it, keeps it so. -/
theorem enrols_of_log
    (step : ∀ (engine : Engine) roster, engine.session.background.Hosts roster →
      engine.session.Orderly roster (x.log engine) ∧
        (engine.session.replay (x.log engine)).background.Hosts
        (Roster.after roster (x.log engine))) :
    Enrols s roster x := by
  intro engine past hs ⟨orderly, hosts⟩
  have kept : Enrolled s roster engine (past ++ x.log engine) := by
    rw [← hs] at hosts
    obtain ⟨orderly', hosts'⟩ := step engine _ hosts
    rw [hs] at orderly' hosts'
    refine ⟨orderly.append orderly', ?_⟩
    rw [Session.replay_append, Roster.after_append]
    exact hosts'
  exact ⟨fun _ _ _ => kept, fun _ _ _ => kept⟩

/-- A part whose log runs in order keeps it so. -/
theorem enrols_of_runs
    (runs : ∀ (engine : Engine) roster,
      Runs engine.session.story.reusables.size roster engine.session (x.log engine)) :
    Enrols s roster x := by
  refine enrols_of_log fun engine roster hosts => ?_
  obtain ⟨orderly, ready⟩ := runs engine roster ⟨hosts, engine.session.freeNames_le_size⟩
  exact ⟨orderly, ready.hosts⟩

/-- A signal keeps it so. -/
theorem enrols_receive (signal : Signal) : Enrols s roster (receive signal) :=
  enrols_of_runs fun engine roster =>
    .cons (.of_still (by simp [Happening.isStill])) (Effect.runs_log Session.runs_logStart _ _)

/-- The start of a script keeps it so. -/
theorem enrols_launch (l : Launch) : Enrols s roster (launch l) :=
  enrols_of_runs fun engine roster => engine.session.runs_logStart roster l

/-- The turn of the main script keeps it so. -/
theorem enrols_readMain : Enrols s roster readMain :=
  enrols_of_runs fun engine roster =>
    engine.main.runs_log Session.logStart_faithful Session.runs_logStart engine.session roster

/-- A scene begins without slots and without a roster. -/
theorem enrols_beginScene : Enrols s roster beginScene := by
  refine enrols_of_log fun engine roster hosts => ?_
  unfold beginScene
  dsimp only
  split
  · exact ⟨hosts.hosted, hosts⟩
  · split
    · exact ⟨⟨hosts.hosted, nofun, hosts.hosted⟩, hosts⟩
    · exact ⟨⟨hosts.hosted, nofun, Background.Hosts.empty.hosted⟩, .empty⟩

/-- The timers keep it so. -/
theorem enrols_runTimers : Enrols s roster runTimers := by
  refine .runTimers (fun _ => Enrolled s roster) ?_ fun launch _ => enrols_launch launch
  rintro engine past - ⟨orderly, hosts⟩
  refine ⟨orderly.append ⟨hosts.hosted, nofun, hosts.hosted⟩, ?_⟩
  rw [Session.replay_append, Roster.after_append]
  exact hosts

/-- The turn of a new scene keeps it so. -/
theorem enrols_readNewScene : Enrols s roster readNewScene := by
  refine .bind enrols_beginScene fun began => ?_
  cases began with
  | false => exact .pure fun _ _ enrolled => enrolled
  | true => exact enrols_readMain

/-- The turn of a background script keeps it so. -/
theorem enrols_readBackground (index : Nat) : Enrols s roster (readBackground index) := by
  refine enrols_of_runs fun engine roster => ?_
  unfold readBackground
  dsimp only
  split
  · exact .nil
  · split
    · exact .nil
    next reader background hout =>
      intro ready
      obtain ⟨launch, place, role, hosts⟩ := ready.hosts.checkOut? hout
      refine Runs.cons (.slots fun _ => hosts) ?_ ready
      exact .checkIn Session.logStart_faithful Session.runs_logStart Session.logStart_scripted
        reader
        place role

/-! ### The end of a frame -/

/-- The slots of scripts that are over are given up. -/
theorem orderly_purge :
    Ensures s (Enrolled s roster) purge (fun _ _ => s.Orderly roster)
      (fun _ _ => s.Orderly roster) := by
  rintro engine past hs ⟨orderly, hosts⟩
  have purged : s.Orderly roster (past ++ purge.log engine) := by
    refine orderly.append ⟨hosts.hosted, nofun, fun slot mem => hosts.hosted slot ?_⟩
    rw [← hs]
    exact (List.mem_filter.1 mem).1
  exact ⟨fun _ _ _ => purged, fun _ _ _ => purged⟩

/-- Slots that nothing moves need no roster of their own. -/
theorem orderly_of_still {happening : Happening} (still : happening.isStill = true)
    (log : ∀ engine, x.log engine = [happening]) :
    Ensures s (fun _ => s.Orderly roster) x (fun _ _ => s.Orderly roster)
      (fun _ _ => s.Orderly roster) := by
  rintro engine past - orderly
  have hosted : (s.replay past).background.Hosted (Roster.after roster past) := by
    rw [← List.append_nil past] at orderly
    exact orderly.drop
  have next : s.Orderly roster (past ++ x.log engine) := by
    rw [log]
    refine orderly.append ⟨hosted, by simp [Happening.wanted?_of_isStill still], ?_⟩
    have keeps := Happening.keeps_of_isStill still (s.replay past)
    rw [Happening.enrol_of_isStill still, Session.Orderly, keeps.background]
    exact hosted
  exact ⟨fun _ _ _ => next, fun _ _ _ => next⟩

/-- Through all parts of a frame. Slots are given up when nothing more is asked for. -/
theorem orderly_frame (signal : Option Signal) :
    Ensures s (Enrolled s roster) (frame signal) (fun _ _ => s.Orderly roster)
      (fun _ _ => s.Orderly roster) := by
  have part {β : Type} {y : Account β} (enrols : Enrols s roster y) :
      Ensures s (Enrolled s roster) y (fun _ => Enrolled s roster) (fun _ _ => s.Orderly roster) :=
    enrols.imp (fun _ _ h => h) (fun _ _ _ h => h) fun _ _ _ h => h.1
  have received : Enrols s roster (signal.forM receive) := by
    cases signal with
    | none => exact .pure fun _ _ enrolled => enrolled
    | some signal => exact enrols_receive signal
  refine .bind (part received) fun _ => .bind (part enrols_beginScene) fun _ => ?_
  refine .bind (part enrols_runTimers) fun _ => .bind (part enrols_beginScene) fun _ => ?_
  refine .bind (part enrols_readMain) fun _ => .bind (part enrols_readNewScene) fun _ => ?_
  refine .bind .get fun seen => ?_
  have slots : Enrols s roster ((List.range seen.session.background.size).forM readBackground) :=
    .forM (fun _ => Enrolled s roster) (fun index _ => enrols_readBackground index) _
  refine .bind ((part slots).imp (fun _ _ h => h.2) (fun _ _ _ h => h) fun _ _ _ h => h) fun _ => ?_
  refine .bind (part enrols_readNewScene) fun _ => .bind orderly_purge fun _ => ?_
  refine .bind (orderly_of_still rfl fun _ => rfl) fun _ => ?_
  exact .bind (orderly_of_still rfl fun _ => rfl) fun _ => .pure fun _ _ orderly => orderly

end Engine.Account

namespace Engine

/-- The log of a frame is orderly, from the scripts that have slots at its beginning. -/
theorem Reachable.orderly {story : Story} {settings : Settings} {engine : Engine}
    (reachable : Reachable story settings engine) (signal : Option Signal) :
    engine.session.Orderly engine.session.background.launches (engine.log signal) := by
  have hosts := Background.hosts_launches _ engine.session.background.ended
    reachable.settled.slots.filled
  obtain ⟨ok, failed⟩ := (Account.orderly_frame signal).tick ⟨hosts.hosted, hosts⟩
  rcases htick : engine.tick signal with ⟨failure | ⟨cues, waiting⟩, after⟩
  · exact failed failure after htick
  · exact ok cues waiting after htick

/-- From one scene to the next within a frame, every name is started once at most, and not at all if
it runs already. At every place in between, whoever is in a slot reads for the launch by which its
script was started; a request for a name that runs is refused and changes nothing, and one for
another script of the story starts it with the parameters of the request. -/
theorem scripts_start_once_between_scenes {story : Story} {settings : Settings} {engine : Engine}
    (reachable : Reachable story settings engine) (signal : Option Signal)
    {before between rest : List Happening} (parts : engine.log signal = before ++ (between ++ rest))
    (unbroken : ∀ scene, .sceneBegan scene ∉ between) :
    let running := Roster.after engine.session.background.launches before
    (Roster.names (running ++ Roster.starts between)).Nodup ∧
      ∀ past more, between = past ++ more →
        let session := engine.session.replay (before ++ past)
        session.background.Hosted (running ++ Roster.starts past) ∧
          ∀ happening later launch, more = happening :: later → happening.wanted? = some launch →
            session.Answers (running ++ Roster.starts past) launch happening (later ++ rest) := by
  intro running
  have settled := reachable.settled.slots
  have hosts := Background.hosts_launches _ engine.session.background.ended settled.filled
  have orderly := reachable.orderly signal
  rw [parts] at orderly
  constructor
  · have distinct := settled.nodup
    rw [hosts.names] at distinct
    rw [← List.append_assoc] at orderly
    have names := orderly.nodup distinct
    rwa [Roster.after_append, Roster.after_eq unbroken] at names
  · rintro past more rfl session
    have unbroken' : ∀ scene, .sceneBegan scene ∉ past := fun scene mem =>
      unbroken scene (List.mem_append_left _ mem)
    rw [List.append_assoc, ← List.append_assoc before] at orderly
    have remaining := orderly.drop
    rw [Roster.after_append, Roster.after_eq unbroken'] at remaining
    refine ⟨remaining.hosted, ?_⟩
    rintro happening later launch rfl wanted
    exact remaining.2.1 launch wanted

/-- A story whose main script calls another one, which calls itself in a different tone. -/
def insistent : Story where
  startup := some ⟨"dawn", "street"⟩
  chapters := .ofEntries [("dawn", { scenes := .ofEntries [("street", "<call:bell,tone=low>")] })]
  reusables := .ofEntries [("bell", "<call:bell,tone=high>\n<play_sound:(@tone)>")]

/-- A launch of its script. -/
def insistentBell (tone : String) : Launch :=
  ⟨"bell", some { values := .ofEntries [("tone", tone)] }⟩

/-- The engine of that story at the beginning. -/
def insistentNew : Engine :=
  .opening insistent {} ⟨"dawn", "street"⟩

/-- The bell is started in the first tone. The call from within changes nothing, and the sound is
that of the first tone. -/
theorem insistent_bell_starts_once :
    ∃ past later, Reachable insistent {} insistentNew ∧
      insistentNew.log none = past ++ .refused (insistentBell "high") :: later ∧
      (∀ scene, .sceneBegan scene ∉ insistentNew.log none) ∧
      Roster.starts (insistentNew.log none) = [insistentBell "low"] ∧
      (insistentNew.session.replay past).start (insistentBell "high") =
        (insistentNew.session.replay past, none) ∧
      (insistentNew.tick none).1 = .ok ([.playAudio .fx "low" false], .finished) := by
  obtain ⟨created, refused, began, starts, sound⟩ :
      Engine.create insistent {} = .ok insistentNew ∧
      .refused (insistentBell "high") ∈ insistentNew.log none ∧
      (insistentNew.log none).all (fun happening =>
        happening.isRead || happening == .timersRan || happening == .handedOut) = true ∧
      Roster.starts (insistentNew.log none) = [insistentBell "low"] ∧
      (insistentNew.tick none).1 = .ok ([.playAudio .fx "low" false], .finished) := by
    decide +kernel
  have reachable : Reachable insistent {} insistentNew := .create created
  have unbroken : ∀ scene, .sceneBegan scene ∉ insistentNew.log none := by
    intro scene mem
    cases List.all_eq_true.1 began _ mem
  obtain ⟨past, later, hlog⟩ := List.append_of_mem refused
  have parts : insistentNew.log none = [] ++ (insistentNew.log none ++ []) := by simp
  obtain ⟨-, places⟩ := scripts_start_once_between_scenes reachable none parts unbroken
  obtain ⟨-, answers⟩ := places past _ hlog
  have answer := answers _ later (insistentBell "high") rfl rfl
  refine ⟨past, later, reachable, hlog, unbroken, starts, ?_, sound⟩
  by_cases runs : "bell" ∈ Roster.names
      (Roster.after insistentNew.session.background.launches [] ++ Roster.starts past)
  · exact (answer.again runs).2
  · cases (answer.first runs (by decide) _ (by rw [Session.story_replay]; rfl)).1

end Engine

end VisualNovel
