import VisualNovel.Engine.Reading

/-!
# Blocks of conditions as trees

A reader knows of blocks only what its stack of frames says: it takes the lines one by one, and
decides by the innermost frame whether a line is passed over. An author thinks of blocks as trees.
This module has the trees (`Item`, `Body`) with their lines (`Item.flatten`), what a tree means on
its own terms (`Item.run`), and what reading lines to their end means for a reader (`Role.through`).

In a tree, a block is either passing or skipping under a name. While it passes, its plain lines and
the blocks in it are run; while it skips, they are ignored, a block in it as a whole. Nothing of a
frame or a stack is said there, and the state of a block is gone at its end.

Both ways of running give nothing if a line on the way pauses, finishes or fails the script, or if
what is put into a plain line makes it a tag of a block. There is one thing that a tree cannot hide:
the tags of an ignored block are ignored only after what stands in their placeholders has been put
in, so a parameter without a value fails the script even there (`Role.passesOver`).
-/

namespace VisualNovel

/-! ## Trees of lines -/

/-- A line that is no tag of a block. -/
structure PlainLine where
  /-- The line as it is written. -/
  raw : String
  /-- It is no tag of a block. -/
  plain : Line.isBlockTag (Line.tidy raw) = false

/-- A line that is a tag of a name. -/
structure TagLine (name : String) where
  /-- The line as it is written. -/
  raw : String
  /-- It is a tag of the name. -/
  tag : (Tag.read? (Line.tidy raw)).map (·.name) = some name

mutual

/-- A plain line or a block. -/
inductive Item where
  /-- A plain line. -/
  | plain (line : PlainLine)
  /-- A block, from the tag that opens it to the tag that closes it. -/
  | block (opening : TagLine "case") (body : Body) (closing : TagLine "case_end")

/-- What stands in a block. -/
inductive Body where
  /-- Nothing more. -/
  | nil
  /-- A plain line or a block, and what follows. -/
  | item (item : Item) (rest : Body)
  /-- Another condition for the block, and what follows. -/
  | orCase (line : TagLine "or_case") (rest : Body)
  /-- The turn of the block, and what follows. -/
  | caseElse (line : TagLine "case_else") (rest : Body)

end

mutual

/-- The lines of an item. -/
def Item.flatten : Item → List String
  | .plain line => [line.raw]
  | .block opening body closing => opening.raw :: (body.flatten ++ [closing.raw])

/-- The lines of a body. -/
def Body.flatten : Body → List String
  | .nil => []
  | .item item rest => item.flatten ++ rest.flatten
  | .orCase line rest => line.raw :: rest.flatten
  | .caseElse line rest => line.raw :: rest.flatten

end

/-! ## Running a tree -/

/-- The state of a block. -/
inductive Mode where
  /-- What stands in it is run. -/
  | passing
  /-- What stands in it is ignored, until the block of that name is let in or it is turned round. -/
  | skipping (name : Option String)

namespace Mode

/-- The state that a condition opens a block with. -/
def ofCondition (passed : Bool) (name : Option String) : Mode :=
  if passed then .passing else .skipping name

/-- The state after another condition. It is for the block that skips under its name; for any other,
and if it cannot be read, nothing changes. -/
def orCase (mode : Mode) (arguments : Option String) : Safe Mode :=
  match mode, Shape.orCondition.decode? arguments with
  | .skipping name, some (wanted, a, operator, b, ()) =>
    if name = some wanted then do
      let passed ← Operator.holds a operator b
      return if passed then .passing else .skipping name
    else .ok (.skipping name)
  | mode, _ => .ok mode

/-- The state after a turn. -/
def caseElse : Mode → Mode
  | .passing => .skipping (some Blocks.elseName)
  | .skipping _ => .passing

end Mode

section running

variable (role : Role) (start : Starter)

/-- The session after a look, unless it is held. -/
def Role.goOn? (session : Session) : Option Session :=
  match role.lookUp session with
  | (false, session) => some session
  | (true, _) => none

/-- The session after a plain line, unless the line pauses, finishes or fails the script, or turns
out to be the tag of a block. -/
def PlainLine.run (line : PlainLine) (session : Session) : Option Session :=
  match role.fill session (Line.tidy line.raw) with
  | .error _ => none
  | .ok filled =>
    if Line.isBlockTag filled then none
    else
      let progress := (role.obeyLine {} session filled).carryOut start
      match progress.verdict with
      | .onward => some progress.session
      | .look => role.goOn? progress.session
      | .finish => none
      | .fail _ => none

/-- The arguments of a tag with everything put in. -/
def TagLine.arguments? {name : String} (line : TagLine name) (session : Session) :
    Option (Option String) :=
  match role.fill session (Line.tidy line.raw) with
  | .error _ => none
  | .ok filled => (Tag.read? filled).map (·.arguments)

/-- The state that a block is opened with, and the session then: a name may have been drawn. -/
def TagLine.open? (line : TagLine "case") (session : Session) : Option (Mode × Session) := do
  let arguments ← line.arguments? role session
  let (passed, name, freshNames) ← (Blocks.judge session.freshNames arguments).toOption
  let session ← role.goOn? { session with freshNames }
  return (.ofCondition passed name, session)

/-- Whether a line can be passed over. The tag of a block can only if everything can be put in. -/
def Role.passesOver (session : Session) (raw : String) : Bool :=
  !Line.isBlockTag (Line.tidy raw) || (role.fill session (Line.tidy raw)).isOk

mutual

/-- The session after an item that is run. -/
def Item.run : Item → Session → Option Session
  | .plain line, session => line.run role start session
  | .block opening body closing, session => do
    let (mode, session) ← opening.open? role session
    let (_, session) ← body.run mode session
    let _ ← closing.arguments? role session
    role.goOn? session

/-- The state of a block and the session after what stands in it. -/
def Body.run : Body → Mode → Session → Option (Mode × Session)
  | .nil, mode, session => some (mode, session)
  | .item item rest, .passing, session => do
    let session ← item.run session
    rest.run .passing session
  | .item item rest, .skipping name, session =>
    if item.flatten.all (role.passesOver session) then rest.run (.skipping name) session else none
  | .orCase line rest, mode, session => do
    let arguments ← line.arguments? role session
    let mode ← (mode.orCase arguments).toOption
    let session ← role.goOn? session
    rest.run mode session
  | .caseElse line rest, mode, session => do
    let _ ← line.arguments? role session
    let session ← role.goOn? session
    rest.run mode.caseElse session

end

/-- The session after items that are run one after another. -/
def Item.runAll : List Item → Session → Option Session
  | [], session => some session
  | item :: items, session => do
    let session ← item.run role start session
    runAll items session

/-- The session after items that stand in open blocks: if those let lines in, they are run, and
otherwise they are ignored. -/
def Item.runIn (blocks : Blocks) (items : List Item) (session : Session) : Option Session :=
  if blocks.isSkipping then
    if (items.flatMap Item.flatten).all (role.passesOver session) then some session else none
  else Item.runAll role start items session

/-! ## Reading lines flat -/

/-- The session that the reading of a frame begins with, unless the script is held. A halt or a rest
may end in the look before. -/
def Role.begin? (session : Session) : Option Session :=
  match role.lookUp session with
  | (false, session) => some session
  | (true, session) =>
    match session.elapse start with
    | (session, none) => role.goOn? session
    | (_, some _) => none

/-- The blocks and the session after one line, unless the line pauses, finishes or fails the script,
or a plain line that is read turns out to be the tag of a block. -/
def Role.pass? (blocks : Blocks) (session : Session) (raw : String) : Option (Blocks × Session) :=
  let line := Line.tidy raw
  if !blocks.isSkipping && !Line.isBlockTag line &&
      (role.fill session line).toOption.any Line.isBlockTag then none
  else
    let progress := (role.plan blocks session raw).carryOut start
    match progress.verdict with
    | .onward => some (progress.blocks, progress.session)
    | .look => (role.goOn? progress.session).map (progress.blocks, ·)
    | .finish => none
    | .fail _ => none

/-- The blocks and the session after lines that are read to their end. -/
def Role.through : List String → Blocks → Session → Option (Blocks × Session)
  | [], blocks, session => some (blocks, session)
  | raw :: lines, blocks, session => do
    let (blocks, session) ← role.pass? start blocks session raw
    through lines blocks session

end running

end VisualNovel
