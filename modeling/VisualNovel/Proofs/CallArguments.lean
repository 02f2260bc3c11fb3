import VisualNovel.Proofs.ArgumentDecoding
import VisualNovel.Proofs.Dictionaries
import VisualNovel.Proofs.LinesMet
import VisualNovel.Proofs.WrittenTags

/-!
# What is given to a script arrives

A script is called with parameters that are written behind its name, each as a name, an equals sign
and a value. The line is taken apart at a colon, at its first comma, at the commas behind, and each
pair at its first equals sign, with blanks taken away at every stage; then the values are put into
the lines of the script. Values may hold colons, equals signs, brackets and parentheses all the
same.

* The call is decoded to what was written (`Launch.ofCall?_written`), and a later value for a name
  takes the place of an earlier one (`Dict.find?_ofEntries`).
* In each line of the script that is met in a frame, the placeholders of parameters are replaced one
  by one, and the first one that has no value makes the frame fail (`Parameters.fill_eq_ok`,
  `Parameters.fill_eq_error`).

Main statement: `Launch.call_arguments_arrive`.
-/

namespace VisualNovel

open Placeholder (Token Lists Scan parameterSigil)

/-! ## Writing a call -/

/-- A parameter as it is written. -/
def Parameters.written (pair : String × String) : String :=
  pair.1 ++ "=" ++ pair.2

namespace Launch

/-- What stands behind the colon of a call, but for the blank. -/
def callText (script : String) (pairs : List (String × String)) : String :=
  ", ".intercalate (script :: pairs.map Parameters.written)

/-- A line that calls a script with parameters. -/
def callLine (script : String) (pairs : List (String × String)) : String :=
  "<call: " ++ callText script pairs ++ ">"

/-- The name of a script and parameters that may be written in a call. Names of parameters are
words; no text has blanks around it, commas, or placeholders. -/
structure Callable (script : String) (pairs : List (String × String)) : Prop where
  /-- The script has a name. -/
  named : script ≠ ""
  /-- There are no blanks around it. -/
  tight : Text.Tight script.toList
  /-- It holds no comma. -/
  apart : ',' ∉ script.toList
  /-- It holds no placeholder. -/
  plain : Line.hasPlaceholder script = false
  /-- The parameters have names. -/
  keyed : ∀ pair ∈ pairs, pair.1 ≠ ""
  /-- They are made of letters, numbers and underscores. -/
  legible : ∀ pair ∈ pairs, Variables.legible pair.1 = true
  /-- There are no blanks around values. -/
  tightValue : ∀ pair ∈ pairs, Text.Tight pair.2.toList
  /-- Values hold no commas. -/
  apartValue : ∀ pair ∈ pairs, ',' ∉ pair.2.toList
  /-- They hold no placeholders. -/
  plainValue : ∀ pair ∈ pairs, Line.hasPlaceholder pair.2 = false

end Launch

namespace Parameters

variable {key value : String}

/-- A parameter is written as its key, an equals sign and its value. -/
theorem toList_written (key value : String) :
    (written (key, value)).toList = key.toList ++ '=' :: value.toList := by
  simp [written]

/-- A pair is read as it is written. -/
theorem readPair_written (keyed : key ≠ "") (readable : Variables.legible key = true)
    (tight : Text.Tight value.toList) : readPair (written (key, value)) = .ok (key, value) := by
  have absent : '=' ∉ key.toList := Variables.not_mem_of_legible readable (by decide) (by decide)
  have cut : Text.cut '=' (written (key, value)) = some (key, value) := by
    rw [Text.cut, toList_written, Text.cutChars_append_cons absent]
    simp
  rw [readPair, cut]
  simp [Variables.trim_of_legible readable, Text.trim_of_tight tight, keyed]

/-- A parameter with a key is written without spaces around it if its value is. -/
theorem tight_written (keyed : key ≠ "") (readable : Variables.legible key = true)
    (tight : Text.Tight value.toList) : Text.Tight (written (key, value)).toList := by
  have some : key.toList ≠ [] := by simpa using keyed
  have tightKey := Variables.tight_of_legible readable
  rw [toList_written]
  by_cases empty : value = ""
  · subst empty
    have equals : Text.Tight ['='] := by decide
    simpa using tightKey.append_append equals some (by simp) []
  · simpa using tightKey.append_append tight some (by simpa using empty) ['=']

/-- A parameter is written without placeholders if its value has none. -/
theorem plain_written (readable : Variables.legible key = true)
    (plain : Line.hasPlaceholder value = false) :
    Line.Plain (written (key, value)).toList := by
  have unopened : '(' ∉ key.toList := Variables.not_mem_of_legible readable (by decide) (by decide)
  rw [toList_written, Line.plain_append_cons (by decide)]
  exact ⟨Line.plain_of_not_mem unopened, Line.hasPlaceholder_eq_false_iff.1 plain⟩

/-- A written parameter is not empty. -/
theorem written_ne_empty {pairs : List (String × String)} : ∀ text ∈ pairs.map written, text ≠ "" :=
  List.forall_mem_map.2 fun pair _ => by simp [written]

/-- A parameter is written without a comma if its value has none. -/
theorem comma_not_mem_written (readable : Variables.legible key = true)
    (apart : ',' ∉ value.toList) :
    ',' ∉ (written (key, value)).toList := by
  have absent : ',' ∉ key.toList := Variables.not_mem_of_legible readable (by decide) (by decide)
  simp [toList_written, absent, apart]

end Parameters

/-! ## Texts that are joined -/

/-- Texts without placeholders make none when they are joined with commas. -/
theorem Line.plain_intercalate {texts : List String} (plain : ∀ text ∈ texts, Plain text.toList) :
    Plain (", ".intercalate texts).toList := by
  induction texts with
  | nil => exact plain_of_not_mem (by simp)
  | cons first others ih =>
    rw [List.forall_mem_cons] at plain
    rcases eq_or_ne others [] with rfl | some
    · simpa using plain.1
    · have parts : (", ".intercalate (first :: others)).toList =
          first.toList ++ ',' :: (' ' :: (", ".intercalate others).toList) := by
        rw [String.intercalate_cons_of_ne_nil some]
        simp
      rw [parts, plain_append_cons (by decide), plain_cons_blank]
      exact ⟨plain.1, ih plain.2⟩

/-! ## Decoding a call -/

/-- What is given to a script in a call. -/
def Launch.given (pairs : List (String × String)) : Option Parameters :=
  if pairs.isEmpty then none else some { values := .ofEntries pairs }

/-- Of the values given for one key, the last one counts. -/
theorem Launch.given_bind (pairs : List (String × String)) (key : String) :
    (given pairs).bind (·.get? key) = pairs.reverse.lookup key := by
  cases pairs with
  | nil => rfl
  | cons pair pairs => exact Dict.find?_ofEntries _ key

section

variable {α β ε : Type} {f : α → Except ε β}

/-- If a function succeeds on all members of a list, it succeeds on the list. -/
theorem mapM_eq_ok {g : α → β} {list : List α} (h : ∀ a ∈ list, f a = .ok (g a)) :
    list.mapM f = .ok (list.map g) := by
  induction list with
  | nil => rfl
  | cons a list ih =>
    rw [List.forall_mem_cons] at h
    rw [List.mapM_cons, h.1, ih h.2]
    rfl

/-- The first failure is the result. -/
theorem mapM_eq_error {front back : List α} {a : α} {g : α → β} (error : ε)
    (h : ∀ b ∈ front, f b = .ok (g b)) (failed : f a = .error error) :
    (front ++ a :: back).mapM f = .error error := by
  rw [List.mapM_append, mapM_eq_ok h, List.mapM_cons, failed]
  rfl

end

namespace Launch

variable {script : String} {pairs : List (String × String)}

namespace Callable

/-- The parameters of a call are written without spaces around them. -/
theorem tight_written (callable : Callable script pairs) :
    ∀ text ∈ pairs.map Parameters.written, Text.Tight text.toList :=
  List.forall_mem_map.2 fun pair mem => Parameters.tight_written (callable.keyed pair mem)
    (callable.legible pair mem) (callable.tightValue pair mem)

/-- So are all of them together. -/
theorem tight_parameters (callable : Callable script pairs) :
    Text.Tight (", ".intercalate (pairs.map Parameters.written)).toList :=
  (Text.tight_intercalate callable.tight_written Parameters.written_ne_empty).1

/-- There are no blanks around what stands behind the colon. -/
theorem tight_callText (callable : Callable script pairs) :
    Text.Tight (callText script pairs).toList :=
  (Text.tight_intercalate (List.forall_mem_cons.2 ⟨callable.tight, callable.tight_written⟩)
    (List.forall_mem_cons.2 ⟨callable.named, Parameters.written_ne_empty⟩)).1

/-- It holds no placeholder. -/
theorem plain_callText (callable : Callable script pairs) :
    Line.Plain (callText script pairs).toList := by
  refine Line.plain_intercalate (List.forall_mem_cons.2 ⟨?_,
    List.forall_mem_map.2 fun pair mem => ?_⟩)
  · exact Line.hasPlaceholder_eq_false_iff.1 callable.plain
  · exact Parameters.plain_written (callable.legible pair mem) (callable.plainValue pair mem)

/-- Parameters are read as they are written. -/
theorem read_written (callable : Callable script pairs) (some : pairs ≠ []) :
    Parameters.read (", ".intercalate (pairs.map Parameters.written)) =
      .ok { values := .ofEntries pairs } := by
  have trimmed : (Text.split ',' (", ".intercalate (pairs.map Parameters.written))).map Text.trim =
      pairs.map Parameters.written := by
    refine Text.map_trim_split (by simpa using some) callable.tight_written ?_
    exact List.forall_mem_map.2 fun pair mem =>
      Parameters.comma_not_mem_written (callable.legible pair mem) (callable.apartValue pair mem)
  have full : (pairs.map Parameters.written).filter (fun pair => !pair.isEmpty) =
      pairs.map Parameters.written := by
    rw [List.filter_eq_self]
    intro text mem
    simpa using Parameters.written_ne_empty text mem
  have entries : (pairs.map Parameters.written).mapM Parameters.readPair = .ok pairs := by
    rw [List.mapM_map]
    refine (mapM_eq_ok (g := id) fun pair mem => ?_).trans (by rw [List.map_id])
    exact Parameters.readPair_written (callable.keyed pair mem) (callable.legible pair mem)
      (callable.tightValue pair mem)
  rw [Parameters.read, trimmed, full, entries]
  rfl

end Callable

/-- A call is decoded to the script and the parameters that were written. -/
theorem ofCall?_written (callable : Callable script pairs) :
    ofCall? (some (callText script pairs)) = some ⟨script, given pairs⟩ := by
  cases pairs with
  | nil =>
    have writable : Shape.name.Writable [script] :=
      ⟨List.cons_ne_nil _ _, rfl, by simp [callable.tight], by simp [callable.apart]⟩
    have decoded : Shape.name.decode? (some script) = some (script, ()) := by
      have whole : Shape.name.decode (some (", ".intercalate [script])) = .ok (script, ()) :=
        writable.decode ⟨rfl, trivial⟩
      rw [String.intercalate_singleton] at whole
      rw [Shape.decode?, whole]
      rfl
    rw [callText, List.map_nil, String.intercalate_singleton, ofCall?,
      Shape.decode?_callWith_eq_none decoded, decoded]
    rfl
  | cons pair pairs =>
    -- the name ends at the first comma, and the parameters keep theirs
    have text : callText script (pair :: pairs) =
        ", ".intercalate [script, ", ".intercalate ((pair :: pairs).map Parameters.written)] := by
      simp [callText, String.intercalate_cons_cons]
    have free : Shape.callWith.isFree = true := rfl
    have writable : Shape.callWith.Writable
        [script, ", ".intercalate ((pair :: pairs).map Parameters.written)] := by
      refine ⟨List.cons_ne_nil _ _, rfl, ?_, ?_⟩
      · simpa using And.intro callable.tight callable.tight_parameters
      · rw [if_pos free]
        simpa using callable.apart
    have decoded : Shape.callWith.decode (some (", ".intercalate
        [script, ", ".intercalate ((pair :: pairs).map Parameters.written)])) =
          .ok (script, _, ()) :=
      writable.decode ⟨rfl, rfl, trivial⟩
    rw [text, ofCall?, Shape.decode?, decoded]
    simp only [Except.toOption, callable.read_written (List.cons_ne_nil pair pairs)]
    rfl

/-- A call holds no placeholder, so it is obeyed as it is written. -/
theorem plan_callLine (role : Role) {blocks : Blocks} (session : Session) {raw : String}
    (reads : blocks.isSkipping = false) (callable : Callable script pairs)
    (written : Text.Trims raw (callLine script pairs)) :
    role.plan blocks session raw = ⟨⟨session, some ⟨script, given pairs⟩⟩, blocks, .look⟩ := by
  have named : Tag.Nameable "call" := Tag.isName_iff.1 (by decide)
  have line : callLine script pairs =
      "<" ++ "call" ++ ":" ++ (" " ++ callText script pairs) ++ ">" := by
    rw [callLine, ← String.toList_inj]
    simp
  have plain : Line.Plain (" " ++ callText script pairs).toList := by
    rw [String.toList_append]
    exact Line.plain_cons_blank.2 callable.plain_callText
  have trimmed : Text.Trims (" " ++ callText script pairs) (callText script pairs) :=
    Text.trims_iff.2 (Text.trim_blank_append callable.tight_callText)
  rw [line] at written
  rw [role.plan_written session reads named plain trimmed written, Role.obey,
    show Instruction.ofName? "call" = some .call from by decide +kernel]
  show Plan.mk ⟨session, ofCall? _⟩ blocks .look = _
  rw [ofCall?_written callable]

end Launch

/-! ## Putting parameters in -/

namespace Parameters

variable {parameters : Option Parameters} (script : String) {line : String}
  {found : List (Nat × Token parameterSigil)}

/-- With a value for each of its placeholders a line is filled. -/
theorem fill_eq_ok
    (scan : Scan parameterSigil 0 line.toList found (Placeholder.pieces parameterSigil line.toList))
    (bound : ∀ entry ∈ found, (parameters.bind (·.get? entry.2.name)).isSome = true) :
    fill parameters script line =
      .ok (Placeholder.filled line found
        (found.map fun entry => parameters.bind (·.get? entry.2.name))).1 := by
  rw [fill, scan.fill_eq, mapM_eq_ok (g := fun entry => parameters.bind (·.get? entry.2.name))]
  · rfl
  · intro entry mem
    obtain ⟨value, hvalue⟩ := Option.isSome_iff_exists.1 (bound entry mem)
    simp only [hvalue]

/-- The first placeholder without a value is the one that is complained about. -/
theorem fill_eq_error
    (scan : Scan parameterSigil 0 line.toList found (Placeholder.pieces parameterSigil line.toList))
    {front back : List (Nat × Token parameterSigil)} {entry : Nat × Token parameterSigil}
    (split : found = front ++ entry :: back)
    (bound : ∀ earlier ∈ front, (parameters.bind (·.get? earlier.2.name)).isSome = true)
    (unbound : parameters.bind (·.get? entry.2.name) = none) :
    fill parameters script line = .error (.unboundParameter script entry.2.name) := by
  subst split
  rw [fill, scan.fill_eq, mapM_eq_error (g := fun entry => parameters.bind (·.get? entry.2.name))
    (.unboundParameter script entry.2.name)]
  · rfl
  · intro earlier mem
    obtain ⟨value, hvalue⟩ := Option.isSome_iff_exists.1 (bound earlier mem)
    simp only [hvalue]
  · simp only [unbound]

end Parameters

/-! ## The lines of a script that is called -/

namespace Activation

variable {script : String} {parameters : Option Parameters} {a b : Activation}

/-- A script runs, and if these are lines of it then they are read with its parameters. -/
structure Within (script : String) (parameters : Option Parameters) (a : Activation) : Prop where
  /-- The script has its slot. -/
  runs : script ∈ a.session.background.names
  /-- Its lines have its parameters. -/
  role_eq : a.role.name? = some script → a.role = .background script parameters

/-- A script that runs goes on to run. -/
theorem runs_of_grown {s t : Session} {failure : Option Failure} (grown : Session.Grown failure s t)
    (runs : script ∈ s.background.names) : script ∈ t.background.names := by
  obtain ⟨added, slots, -⟩ := grown.added
  rw [Background.names, slots, List.map_append]
  exact List.mem_append_left _ runs

/-- A reader that goes on stays within its script and its parameters. -/
theorem Within.goes (within : a.Within script parameters) (goes : a.Goes b) :
    b.Within script parameters := by
  have grows := Session.start_lasting Session.Grown.lasting
  cases goes with
  | @into role raw lines blocks s b opens =>
    have kept := runs_of_grown (Session.Grown.lasting.plan role blocks s raw) within.runs
    generalize (role.plan blocks s raw).effect = effect at opens kept
    cases opens with
    | @started t launch text startable =>
      obtain ⟨-, fresh, -⟩ := Session.startable?_eq_some startable
      refine ⟨?_, ?_⟩
      · simpa [Session.enlist, Background.reserve, Background.names] using Or.inl kept
      · -- what is started is another script, as this one runs
        intro same
        obtain rfl : launch.name = script := Option.some.inj same
        exact absurd kept fresh
  | @onward role raw lines blocks s t effect verdict =>
    have grown := Session.Grown.lasting.perform grows (Session.Grown.lasting.plan role blocks s raw)
    rw [← Effect.performs_iff.1 effect] at grown
    exact ⟨runs_of_grown grown within.runs, within.role_eq⟩
  | @looks role raw lines blocks s t u effect verdict look =>
    have grown := Session.Grown.lasting.perform grows (Session.Grown.lasting.plan role blocks s raw)
    have looked := Session.Grown.lasting.look role t
    rw [← Effect.performs_iff.1 effect] at grown
    rw [look] at looked
    exact ⟨runs_of_grown looked (runs_of_grown grown within.runs), within.role_eq⟩

/-- Whatever is read in the course of it, the lines of the script are read with its parameters. -/
theorem Within.course (within : a.Within script parameters)
    (course : Relation.ReflTransGen Goes a b) :
    b.Within script parameters := by
  induction course with
  | refl => exact within
  | tail _ step ih => exact ih.goes step

end Activation

/-- What is written in a call arrives. A line that calls a script, with any blanks around it, starts
the script with the value that was written last for each name and with no other ones, unless it runs
already. Its lines are met in the frame, and all of them are read with these values. In a line that
is not skipped, once variables are put in, each placeholder of a parameter is replaced by its value;
the first one that has none makes the frame fail, with the names of the script and of the
parameter. -/
theorem Launch.call_arguments_arrive (role : Role) {blocks : Blocks} (session : Session)
    {raw script : String} {pairs : List (String × String)} (reads : blocks.isSkipping = false)
    (callable : Callable script pairs) (written : Text.Trims raw (callLine script pairs)) :
    ∃ parameters : Option Parameters,
      (∀ key, parameters.bind (·.get? key) = pairs.reverse.lookup key) ∧
      role.plan blocks session raw = ⟨⟨session, some ⟨script, parameters⟩⟩, blocks, .look⟩ ∧
      (script ∈ session.background.names →
        (role.plan blocks session raw).carryOut Session.start = ⟨session, blocks, .look⟩) ∧
      (∀ text, session.story.reusables.find? script = some text →
        script ∉ session.background.names →
        ∃ begun : Activation,
          begun = ⟨.background script parameters, Text.lines text, {},
            session.enlist ⟨script, parameters⟩⟩ ∧
          (role.plan blocks session raw).effect.perform Session.start =
            begun.reading.checkIn session.background.size ∧
          begun.reading.reader.role = .background script parameters ∧
          (∀ (engine : Engine) signal lines, engine.Meets signal ⟨role, raw :: lines,
            blocks, session⟩ → engine.Meets signal begun) ∧
          ∀ a, Relation.ReflTransGen Activation.Goes begun a → a.role.name? = some script →
            a.role = .background script parameters) ∧
      ∀ (engine : Engine) signal line lines others (s : Session),
        engine.Meets signal ⟨.background script parameters, line :: lines, others, s⟩ →
        others.isSkipping = false →
        ∃ found : List (Nat × Token parameterSigil),
          Lists (s.store.fill s.settings.variablePasses (Line.tidy line)).toList found ∧
          ((∀ entry ∈ found, (pairs.reverse.lookup entry.2.name).isSome = true) →
            Role.plan (.background script parameters) others s line =
              Role.obeyLine (.background script parameters) others s
                (Placeholder.filled (s.store.fill s.settings.variablePasses (Line.tidy line)) found
                  (found.map fun entry => pairs.reverse.lookup entry.2.name)).1) ∧
          ∀ front entry back, found = front ++ entry :: back →
            (∀ earlier ∈ front, (pairs.reverse.lookup earlier.2.name).isSome = true) →
            pairs.reverse.lookup entry.2.name = none →
            (engine.tick signal).1 = .error (.story (.unboundParameter script entry.2.name)) := by
  have plan := plan_callLine role session reads callable written
  refine ⟨given pairs, given_bind pairs, plan, fun running => ?_, fun text known free => ?_, ?_⟩
  · -- A script that is running is not started again.
    have refused : session.startable? ⟨script, given pairs⟩ = none := by
      simp [Session.startable?, Background.contains, running]
    rw [plan, Plan.carryOut, ← Effect.performs_iff.1 (.refused refused)]
  · have idle : session.background.contains script = false := by
      simpa [Background.contains] using free
    have startable : session.startable? ⟨script, given pairs⟩ = some text :=
      (Session.startable?_of_not_contains callable.named idle).trans known
    have opens : (role.plan blocks session raw).effect.Opens
        ⟨.background script (given pairs), Text.lines text, {},
          session.enlist ⟨script, given pairs⟩⟩ := by
      rw [plan]
      exact .started startable
    refine ⟨_, rfl, ?_, Role.readLines_role _ _ _ _ _, ?_, ?_⟩
    · rw [opens.perform_eq, plan]
    · exact fun engine signal lines meets => meets.goes (.into opens)
    · intro a course
      refine (Activation.Within.course ⟨?_, fun _ => rfl⟩ course).role_eq
      simp [Session.enlist, Background.reserve, Background.names]
  · intro engine signal line lines others s meets reading
    have notSpace : parameterSigil ≠ ' ' := by decide
    obtain ⟨found, scan⟩ := Placeholder.exists_scan notSpace 0
      (s.store.fill s.settings.variablePasses (Line.tidy line)).toList
    simp only [← given_bind pairs]
    refine ⟨found, scan.lists notSpace (by decide), fun bound => ?_, ?_⟩
    · -- With a value for every placeholder the line is filled, and obeyed as it is then.
      have filled := Parameters.fill_eq_ok script scan bound
      rw [Role.plan, reading, Role.fill, filled]
      simp
    · intro front entry back split bound unbound
      -- The first placeholder without a value fails the line, and with it the frame.
      have failed : Role.plan (.background script (given pairs)) others s line =
          .idle s others (.fail (.story (.unboundParameter script entry.2.name))) := by
        rw [Role.plan, reading, Role.fill, Parameters.fill_eq_error script scan split bound unbound]
        simp
      exact meets.tick_eq_error (Activation.failure_of_verdict failed)

/-- A story whose scene greets someone, in a tone whose text holds the marks of tags and pairs. Two
names are given for who is greeted, and no mood is. -/
def Story.greeting : Story where
  startup := some ⟨"dawn", "street"⟩
  chapters := .ofEntries [("dawn", { scenes := .ofEntries [
    ("street", "\t<call: greet, who=Ann, tone=<x: y=(z>, who=Bo> ")] })]
  reusables := .ofEntries [("greet", "<variable_set: last, (@tone)>\n<wait: (@mood)>")]

/-- The engine of that story before its first frame. -/
def Engine.greeting : Engine :=
  .opening .greeting {} ⟨"dawn", "street"⟩

/-- The frame comes to the call, behind the line that is left for what every scene begins with. -/
theorem Engine.greeting_meets_call : Engine.greeting.Meets none ⟨.main ⟨"dawn", "street"⟩,
    ["\t<call: greet, who=Ann, tone=<x: y=(z>, who=Bo> "], {}, Engine.greeting.session⟩ := by
  have load : Engine.greeting.main.load .greeting = .ok ⟨.main ⟨"dawn", "street"⟩,
      ["", "\t<call: greet, who=Ann, tone=<x: y=(z>, who=Bo> "], {}, true, false⟩ := by
        decide +kernel
  have begun : Engine.greeting.Meets none ⟨.main ⟨"dawn", "street"⟩,
      ["", "\t<call: greet, who=Ann, tone=<x: y=(z>, who=Bo> "], {}, Engine.greeting.session⟩ :=
    meets_of_main rfl rfl (.loads rfl rfl load (.reads (by decide +kernel)))
  have blank : Role.plan (.main ⟨"dawn", "street"⟩) {} Engine.greeting.session "" =
      .idle Engine.greeting.session {} .onward := by decide +kernel
  have next := begun.goes (.onward (by rw [blank]; exact .plain) (by rw [blank]; rfl))
  rwa [blank] at next

/-- The tone is put into the first line of the script, and the second one makes the frame fail. -/
theorem Launch.greeting_arguments_arrive :
    ∃ parameters : Parameters, parameters.get? "who" = some "Bo" ∧
      parameters.get? "tone" = some "<x: y=(z>" ∧ parameters.get? "mood" = none ∧
      ∃ s : Session,
        Engine.greeting.Meets none ⟨.background "greet" parameters,
          ["<variable_set: last, (@tone)>", "<wait: (@mood)>"], {}, s⟩ ∧
        Role.plan (.background "greet" parameters) {} s "<variable_set: last, (@tone)>" =
          Role.obeyLine (.background "greet" parameters) {} s "<variable_set: last, <x: y=(z>>" ∧
        (Engine.greeting.tick none).1 = .error (.story (.unboundParameter "greet" "mood")) := by
  have callable : Callable "greet" [("who", "Ann"), ("tone", "<x: y=(z>"), ("who", "Bo")] := by
    constructor <;> decide +kernel
  have known : Engine.greeting.session.story.reusables.find? "greet" =
      some "<variable_set: last, (@tone)>\n<wait: (@mood)>" := by decide +kernel
  have free : "greet" ∉ Engine.greeting.session.background.names := by decide +kernel
  have reads : Blocks.isSkipping {} = false := rfl
  have written : Text.Trims "\t<call: greet, who=Ann, tone=<x: y=(z>, who=Bo> "
      (callLine "greet" [("who", "Ann"), ("tone", "<x: y=(z>"), ("who", "Bo")]) :=
    Text.trims_iff.2 (by decide +kernel)
  obtain ⟨_ | parameters, values, -, -, starts, lines⟩ := Launch.call_arguments_arrive
    (.main ⟨"dawn", "street"⟩) Engine.greeting.session reads callable written
  · exact absurd (values "who") (by decide +kernel)
  have who := values "who"
  have tone := values "tone"
  have mood := values "mood"
  obtain ⟨_, rfl, -, -, reached, -⟩ := starts _ known free
  have first := reached _ none [] Engine.greeting_meets_call
  rw [show Text.lines "<variable_set: last, (@tone)>\n<wait: (@mood)>" =
    ["<variable_set: last, (@tone)>", "<wait: (@mood)>"] from by decide +kernel] at first
  generalize Engine.greeting.session.enlist _ = s at first
  have legibleTone : "tone" ≠ "" ∧ Variables.legible "tone" = true := by decide +kernel
  have legibleMood : "mood" ≠ "" ∧ Variables.legible "mood" = true := by decide +kernel
  -- The first line has one placeholder, and the value stands in its place as it was given.
  have plan : Role.plan (.background "greet" parameters) {} s "<variable_set: last, (@tone)>" =
      Role.obeyLine (.background "greet" parameters) {} s "<variable_set: last, <x: y=(z>>" := by
    obtain ⟨found, lists, filled, -⟩ := lines _ none _ _ _ _ first rfl
    rw [show Line.tidy "<variable_set: last, (@tone)>" = "<variable_set: last, (@tone)>"
      from by decide +kernel,
      s.store.fill_of_not_occurs _ (by decide +kernel)] at lists filled
    obtain ⟨token, rfl, name, source⟩ := Lists.exists_eq_singleton (.inr rfl)
      "<variable_set: last, ".toList ['>'] legibleTone.1 legibleTone.2 (by decide) (by decide) lists
    have text :
        (Placeholder.filled "<variable_set: last, (@tone)>" [(21, token)] [some "<x: y=(z>"]).1 =
        "<variable_set: last, <x: y=(z>>" := by
      rw [Placeholder.filled, List.zip_cons_cons, Placeholder.rewrite, source]
      decide +kernel
    rw [filled (by simp [name]), List.map_singleton, name]
    exact congrArg _ text
  have obeyed :
      Role.obeyLine (.background "greet" parameters) {} s "<variable_set: last, <x: y=(z>>" =
      ⟨⟨s.setVariable (some "last, <x: y=(z>"), none⟩, {}, .look⟩ := by
    rw [Role.obeyLine,
      show Line.read "<variable_set: last, <x: y=(z>>" =
        .tag ⟨"variable_set", some "last, <x: y=(z>"⟩ from by decide +kernel]
    show Role.obey _ _ _ _ = _
    rw [Role.obey,
      show Instruction.ofName? "variable_set" = some .setVariable from by decide +kernel]
    rfl
  have second := first.goes (.looks (by rw [plan, obeyed]; exact .plain) (by rw [plan, obeyed]) rfl)
  rw [plan, obeyed] at second
  refine ⟨parameters, who, tone, mood, s, first, plan, ?_⟩
  -- No value was given for the placeholder of the second line.
  obtain ⟨found, lists, -, fails⟩ := lines _ none _ _ _ _ second rfl
  rw [show Line.tidy "<wait: (@mood)>" = "<wait: (@mood)>" from by decide +kernel,
    Variables.fill_of_not_occurs _ _ (by decide +kernel)] at lists
  obtain ⟨token, rfl, name, -⟩ := Lists.exists_eq_singleton (.inr rfl) "<wait: ".toList ['>']
    legibleMood.1 legibleMood.2 (by decide) (by decide) lists
  rw [← name]
  exact fails [] _ [] rfl (by simp) (by rw [name]; rfl)

end VisualNovel
