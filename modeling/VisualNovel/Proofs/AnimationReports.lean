import VisualNovel.Proofs.Handshake

/-!
# Reports on animations

A host without a screen reports the end of every animation that is switched on at the end of a
frame. The reports wait in a queue, and each frame takes one. While a report waits its animation
stays on, and the next frame reports it again: an animation is reported once for every frame at
whose end it was on, and not once for every time that it was switched on. A report that comes late
may find its animation switched off, and starts the script that is to follow it all the same
(`twirl_ends_twice`).

What holds is this (`report_finds_animation_unless_switched_off`). A report that is delivered was
put into the queue after an earlier frame, at whose end the animation was on, and reports are
delivered in the order in which they were put there. If the animation is off when the report is
delivered, it was switched off since: by an earlier report, by a tag that stops it, by a sprite that
took the place of its own, or by a scene. And if a report finds the animation on after another one
was delivered, then the animation was switched on in between.
-/

namespace VisualNovel

/-! ## Switches -/

/-- Whether a happening can switch an animation of the sprite of a name on, or off. -/
def Happening.maySwitch (group : Group) (name : String) (animation : Animation) (active : Bool) :
    Happening → Bool
  | received (.spriteAnimationStopped other stopped ended) =>
    !active && other == group && stopped == name && ended == animation
  | obeyed _ _ instruction _ => instruction.maySwitch group animation active
  | sceneBegan _ => !active
  | _ => false

section switches

variable (group : Group) (name : String) (animation : Animation)

/-- A report switches its animation off, and no other one. -/
theorem Session.animates_spriteAnimationStopped (s : Session) (other : Group) (stopped : String)
    (ended : Animation) :
    (s.spriteAnimationStopped other stopped ended).session.stage.animates group name animation =
      (s.stage.animates group name animation &&
        !(other == group && stopped == name && ended == animation)) := by
  unfold spriteAnimationStopped
  dsimp only
  split
  · next absent =>
    by_cases same : other = group ∧ stopped = name
    · obtain ⟨rfl, rfl⟩ := same
      have off : s.stage.animates other stopped animation = false := by
        rw [Stage.animates, Cast.animates, absent]
        rfl
      rw [off, Bool.false_and]
    · have other : (other == group && stopped == name) = false := by simpa using same
      rw [other, Bool.false_and, Bool.not_false, Bool.and_true]
  · next sprite found =>
    show (s.stage.setCast other _).animates group name animation = _
    rw [Stage.animates_setCast]
    -- Only the animation that is reported, of the sprite that is reported, is switched off.
    by_cases here : group = other
    · subst here
      rw [if_pos rfl, Cast.animates_insert]
      by_cases named : name = stopped
      · subst named
        have on : s.stage.animates group name animation = sprite.isActive animation := by
          rw [Stage.animates, Cast.animates, found]
          rfl
        rw [if_pos rfl, on, Sprite.isActive_setActive]
        by_cases same : animation = ended
        · simp [same]
        · simp [same, Ne.symm same]
      · rw [if_neg named]
        simp [Ne.symm named, Stage.animates]
    · rw [if_neg here]
      simp [Ne.symm here]

/-- What a signal does to an animation. -/
theorem Signal.animates_effect (signal : Signal) (s : Session) :
    (signal.effect s).session.stage.animates group name animation =
        s.stage.animates group name animation ∨
      (Happening.received signal).maySwitch group name animation
        ((signal.effect s).session.stage.animates group name animation) = true := by
  by_cases uncovers : signal = .coverFinished
  · subst uncovers
    exact .inl rfl
  · by_cases stops : ∃ other stopped ended, signal = .spriteAnimationStopped other stopped ended
    · obtain ⟨other, stopped, ended, rfl⟩ := stops
      have after := s.animates_spriteAnimationStopped group name animation other stopped ended
      rw [show (effect (.spriteAnimationStopped other stopped ended) s).session =
        (s.spriteAnimationStopped other stopped ended).session from rfl, after]
      cases hits : (other == group && stopped == name && ended == animation) with
      | false => exact .inl (by simp)
      | true => exact .inr (by simpa [Happening.maySwitch] using hits)
    · have others (other : Group) (stopped : String) (ended : Animation) :
          signal ≠ .spriteAnimationStopped other stopped ended :=
        fun same => stops ⟨other, stopped, ended, same⟩
      have turns : Stage.Turns .exit s.stage (signal.effect s).session.stage :=
        effect_turns uncovers others s
      exact .inl ((turns.animates group name animation).resolve_right nofun)

/-- **Switches.** Whatever happens, an animation stays as it was, or is as the happening can switch
it. -/
theorem Happening.animates_apply (happening : Happening) (s : Session) :
    (happening.apply s).stage.animates group name animation =
      s.stage.animates group name animation ∨
      happening.maySwitch group name animation
        ((happening.apply s).stage.animates group name animation) = true := by
  by_cases touched : happening.reach.stage = true
  · cases happening with
    | received signal => exact signal.animates_effect group name animation s
    | obeyed isMain freshNames instruction tag =>
      unfold apply
      dsimp only
      rcases hexecute : Session.execute { s with freshNames } isMain instruction tag
        with _ | outcome
      · exact .inl rfl
      · dsimp only
        by_cases covers : instruction = .sceneWithFade
        · subst covers
          rcases Session.execute_sceneWithFade hexecute with same | ⟨_, _, _, _, _, same⟩
          · exact .inl (by rw [same])
          · exact .inl (by rw [same]; cases group <;> rfl)
        · exact (Session.execute_turns hexecute covers).1.animates group name animation
    | sceneBegan scene =>
      have off : (apply s (.sceneBegan scene)).stage.animates group name animation = false := by
        cases group <;> rfl
      exact .inr (by rw [off]; rfl)
    | _ => cases touched
  · exact .inl (by rw [(happening.scope s).stage (Bool.eq_false_iff.2 touched)])

/-- At one point of a log, an animation is switched on, or off. -/
def Session.SwitchesIn (s : Session) (log : List Happening) (active : Bool) : Prop :=
  ∃ past happening later, log = past ++ happening :: later ∧
    happening.maySwitch group name animation active = true ∧
    (s.replay past).stage.animates group name animation ≠ active ∧
    (s.replay (past ++ [happening])).stage.animates group name animation = active

variable {group name animation}

/-- What a later part of a log switches, the whole log switches. -/
theorem Session.SwitchesIn.cons {s : Session} {happening : Happening} {log : List Happening}
    {active : Bool} (h : (happening.apply s).SwitchesIn group name animation log active) :
    s.SwitchesIn group name animation (happening :: log) active := by
  obtain ⟨past, switch, later, rfl, switches, before, after⟩ := h
  exact ⟨happening :: past, switch, later, rfl, switches, before, after⟩

/-- An animation that is on at the end of a log and not at its beginning, or the other way round, is
switched in it. -/
theorem Session.switchesIn_of_ne {s : Session} {log : List Happening} {active : Bool}
    (before : s.stage.animates group name animation ≠ active)
    (after : (s.replay log).stage.animates group name animation = active) :
    s.SwitchesIn group name animation log active := by
  induction log generalizing s with
  | nil => exact absurd after before
  | cons happening log ih =>
    by_cases now : (happening.apply s).stage.animates group name animation = active
    · have switched := (happening.animates_apply group name animation s).resolve_left
        fun same => before (same.symm.trans now)
      rw [now] at switched
      exact ⟨[], happening, log, rfl, switched, before, now⟩
    · exact (ih now after).cons

end switches

/-! ## Reports of the stage -/

namespace Stage

variable {group : Group} {name : String} {animation : Animation}

/-- What is reported is switched on. -/
theorem animates_of_mem_reports {stage : Stage}
    (h : .spriteAnimationStopped group name animation ∈ stage.reports) :
    stage.animates group name animation = true := by
  obtain ⟨other, -, h⟩ := List.mem_flatMap.1 h
  obtain ⟨⟨found, sprite⟩, entry, h⟩ := List.mem_flatMap.1 h
  obtain ⟨ended, settling, ⟨⟩⟩ := List.mem_map.1 h
  have on : sprite.isActive animation = true := by
    unfold Sprite.settling at settling
    split at settling
    · exact (List.mem_filter.1 settling).2
    · cases settling
  have found : (stage.cast group).find? name = some sprite :=
    (stage.cast group).inOrder.lookup_of_mem entry
  rw [animates, Cast.animates, found]
  exact on

/-- A sprite that is brought to the end of its animations still has them switched on. -/
theorem animates_settled (stage : Stage) :
    stage.settled.animates group name animation = stage.animates group name animation := by
  have settles (cast : Cast) :
      Cast.animates (cast.map Sprite.settled) name animation = cast.animates name animation := by
    refine cast.animates_map (fun sprite animation => ?_) name animation
    unfold Sprite.settled
    split
    · cases animation <;> rfl
    · rfl
  cases group with
  | background => exact settles stage.background
  | character => exact settles stage.character
  | object => exact settles stage.object
  | dialogSprite => exact settles stage.dialog

end Stage

/-! ## Frames of a screening -/

namespace Take

/-- The report that a frame takes. -/
def delivered (take : Take) : Option Signal :=
  take.before.queue.head?

/-- What is put into the queue after a frame. -/
def reported (take : Take) : List Signal :=
  take.shown.next.queue.drop take.before.queue.tail.length

/-- What happens in a frame. -/
def log (take : Take) : List Happening :=
  take.before.engine.log take.delivered

/-- In a frame, an animation is switched on, or off. -/
def Switches (take : Take) (group : Group) (name : String) (animation : Animation) (active : Bool) :
    Prop :=
  take.before.engine.session.SwitchesIn group name animation take.log active

end Take

namespace Playback

/-- Frames that are played one after another. -/
inductive Screens (autoClick : Bool) : Playback → List Take → Playback → Prop where
  /-- No frame. -/
  | nil (playback : Playback) : Screens autoClick playback [] playback
  /-- A frame comes first. -/
  | cons {playback last : Playback} {shown : Shown} {takes : List Take}
    (played : playback.frame autoClick = .ok shown)
    (rest : Screens autoClick shown.next takes last) :
    Screens autoClick playback (⟨playback, shown⟩ :: takes) last

variable {autoClick : Bool} {playback last : Playback} {takes : List Take}

/-- Every frame of a screening begins where the frames before it end. -/
theorem screens_of_screening {limit : Nat} {front late : List Take} {take : Take}
    (h : screening autoClick limit playback = front ++ take :: late) :
    playback.Screens autoClick front take.before := by
  induction limit generalizing playback front with
  | zero => simp [screening] at h
  | succ limit ih =>
    unfold screening at h
    split at h
    · simp at h
    · next shown played =>
      cases front with
      | nil =>
        cases (List.cons.inj h).1
        exact .nil playback
      | cons first front =>
        obtain ⟨rfl, rest⟩ := List.cons.inj h
        split at rest
        · simp at rest
        · exact .cons played (ih rest)

/-! ### The queue -/

/-- Behind what is left of the queue comes what is reported after the frame. -/
theorem queue_of_frame {shown : Shown} (played : playback.frame autoClick = .ok shown) :
    shown.next.queue = playback.queue.tail ++ Take.reported ⟨playback, shown⟩ := by
  obtain ⟨waiting, after, -, -, same | ⟨empty, clicked⟩⟩ := exists_tick_of_frame played
  · rw [Take.reported, same, List.append_assoc, List.drop_left]
  · simp only [List.append_eq_nil_iff] at empty
    rw [Take.reported, empty.1.1, List.length_nil, List.drop_zero, List.nil_append]

/-- **First in, first out.** Reports are delivered in the order in which they were put into the
queue, and those that were not delivered wait. -/
theorem Screens.queue (h : playback.Screens autoClick takes last) :
    playback.queue ++ takes.flatMap Take.reported =
      takes.filterMap Take.delivered ++ last.queue := by
  induction h with
  | nil playback => simp
  | @cons playback last shown takes played rest ih =>
    rw [queue_of_frame played, List.append_assoc] at ih
    rw [List.flatMap_cons]
    cases hqueue : playback.queue with
    | nil =>
      rw [List.filterMap_cons_none (by simp [Take.delivered, hqueue])]
      simpa [hqueue] using ih
    | cons signal queue =>
      rw [List.filterMap_cons_some (b := signal) (by simp [Take.delivered, hqueue])]
      simpa [hqueue] using ih

/-! ### The stage -/

/-- The engine after a frame has the stage that the log of the frame leads to, as far as animations
go. -/
theorem animates_of_frame {shown : Shown} (played : playback.frame autoClick = .ok shown)
    (group : Group) (name : String) (animation : Animation) :
    shown.next.engine.session.stage.animates group name animation =
      (playback.engine.session.replay (Take.log ⟨playback, shown⟩)).stage.animates group name
        animation := by
  obtain ⟨waiting, after, ok, hengine, -⟩ := exists_tick_of_frame played
  have replayed := playback.engine.replay_log playback.queue.head?
  rw [ok] at replayed
  rw [hengine, show Take.log ⟨playback, shown⟩ = playback.engine.log playback.queue.head? from rfl,
    replayed]
  exact Stage.animates_settled _

/-- An animation that is reported after a frame is switched on then. -/
theorem animates_of_mem_reported {shown : Shown} (played : playback.frame autoClick = .ok shown)
    {group : Group} {name : String} {animation : Animation}
    (h : .spriteAnimationStopped group name animation ∈ Take.reported ⟨playback, shown⟩) :
    shown.next.engine.session.stage.animates group name animation = true := by
  obtain ⟨waiting, after, -, hengine, hqueue⟩ := exists_tick_of_frame played
  have mem : .spriteAnimationStopped group name animation ∈ after.session.stage.reports := by
    rcases hqueue with same | ⟨empty, clicked⟩
    · rw [Take.reported, same, List.append_assoc, List.drop_left] at h
      refine (List.mem_append.1 h).resolve_left fun mem => ?_
      obtain ⟨cue, -, mem⟩ := List.mem_flatMap.1 mem
      unfold Cue.reports at mem
      split at mem <;> simp at mem
    · rw [Take.reported, clicked] at h
      cases List.mem_singleton.1 (List.mem_of_mem_drop h)
  rw [hengine]
  exact (Stage.animates_settled _).trans (Stage.animates_of_mem_reports mem)

/-- An animation that is on after some frames and not before them, or the other way round, is
switched in one of them. -/
theorem Screens.switches_of_ne {group : Group} {name : String} {animation : Animation}
    {active : Bool} (h : playback.Screens autoClick takes last)
    (before : playback.engine.session.stage.animates group name animation ≠ active)
    (after : last.engine.session.stage.animates group name animation = active) :
    ∃ take ∈ takes, take.Switches group name animation active := by
  induction h with
  | nil playback => exact absurd after before
  | @cons playback last shown takes played rest ih =>
    by_cases now : shown.next.engine.session.stage.animates group name animation = active
    · rw [animates_of_frame played] at now
      exact ⟨_, List.mem_cons_self, Session.switchesIn_of_ne before now⟩
    · obtain ⟨take, mem, switches⟩ := ih now after
      exact ⟨take, List.mem_cons_of_mem _ mem, switches⟩

/-- An animation that is on after a frame with the report of its end is switched on in that
frame. -/
theorem switches_of_delivered {shown : Shown} (played : playback.frame autoClick = .ok shown)
    {group : Group} {name : String} {animation : Animation}
    (delivered : playback.queue.head? = some (.spriteAnimationStopped group name animation))
    (on : shown.next.engine.session.stage.animates group name animation = true) :
    Take.Switches ⟨playback, shown⟩ group name animation true := by
  obtain ⟨rest, hlog, -⟩ := Engine.exists_log_eq_received playback.engine playback.queue.head?
  rw [animates_of_frame played] at on
  unfold Take.Switches
  rw [show Take.log ⟨playback, shown⟩ = playback.engine.log playback.queue.head? from rfl, hlog,
    delivered] at on ⊢
  have off :=
    playback.engine.session.animates_spriteAnimationStopped group name animation group name
    animation
  simp only [BEq.rfl, Bool.and_self, Bool.not_true, Bool.and_false] at off
  refine Session.SwitchesIn.cons (Session.switchesIn_of_ne ?_ on)
  exact fun same => Bool.false_ne_true (off.symm.trans same)

/-- A part of the frames is played one after another too. -/
theorem Screens.split {front back : List Take}
    (h : playback.Screens autoClick (front ++ back) last) :
    ∃ middle, playback.Screens autoClick front middle ∧ middle.Screens autoClick back last := by
  induction front generalizing playback with
  | nil => exact ⟨playback, .nil playback, h⟩
  | cons first front ih =>
    cases h with
    | cons played rest =>
      obtain ⟨middle, before, after⟩ := ih rest
      exact ⟨middle, .cons played before, after⟩

end Playback

/-- What stands in the middle of all that is collected from a list comes from one of its
elements. -/
theorem exists_of_flatMap_eq {α β : Type} {f : α → List β} {list : List α} {done rest : List β}
    {b : β} (h : list.flatMap f = done ++ b :: rest) :
    ∃ early a late ahead behind, list = early ++ a :: late ∧ f a = ahead ++ b :: behind ∧
      early.flatMap f ++ ahead = done := by
  induction list generalizing done with
  | nil => simp at h
  | cons a list ih =>
    rw [List.flatMap_cons] at h
    -- Either it comes behind all that is collected from the head, or from the head itself.
    have behind (done' : List β) (hdone : done = f a ++ done')
        (hlist : list.flatMap f = done' ++ b :: rest) :
        ∃ early a' late ahead behind, a :: list = early ++ a' :: late ∧
          f a' = ahead ++ b :: behind ∧
          early.flatMap f ++ ahead = done := by
      obtain ⟨early, a', late, ahead, behind, rfl, ha, rfl⟩ := ih hlist
      exact ⟨a :: early, a', late, ahead, behind, rfl, ha, by simp [hdone]⟩
    rcases List.append_eq_append_iff.1 h with ⟨done', hdone, hlist⟩ | ⟨own, ha, hrest⟩
    · exact behind done' hdone hlist
    · cases own with
      | nil => exact behind [] (by simpa using ha.symm) (by simpa using hrest.symm)
      | cons b' own =>
        obtain ⟨rfl, -⟩ := List.cons.inj hrest
        exact ⟨[], a, list, done, own, rfl, ha, rfl⟩

namespace Playback

/-- **Reports and their animations.** Of a frame that takes the report of the end of an animation,
after the frames before it:
* the report was put into the queue after one of these, the origin, at whose end the animation was
  on; up to it, all that was reported has been delivered, in that order;
* the animation is on when the report is delivered, or it was switched off in a frame after the
  origin;
* if the same report was delivered in one of these and the animation is on now, then it was switched
  on in that frame or in a frame after it. -/
theorem report_finds_animation_unless_switched_off {story : Story} {settings : Settings}
    {playback : Playback} (created : create story settings = .ok playback) {autoClick : Bool}
    {limit : Nat} {front late : List Take} {take : Take}
    (played : screening autoClick limit playback = front ++ take :: late) {group : Group}
    {name : String} {animation : Animation}
    (delivered : take.delivered = some (.spriteAnimationStopped group name animation)) :
    (∃ early origin between ahead behind, front = early ++ origin :: between ∧
      origin.reported = ahead ++ .spriteAnimationStopped group name animation :: behind ∧
      early.flatMap Take.reported ++ ahead = front.filterMap Take.delivered ∧
      origin.shown.next.engine.session.stage.animates group name animation = true ∧
      (take.before.engine.session.stage.animates group name animation = true ∨
        ∃ frame ∈ between, frame.Switches group name animation false)) ∧
    ∀ early first between, front = early ++ first :: between →
      first.delivered = some (.spriteAnimationStopped group name animation) →
      take.before.engine.session.stage.animates group name animation = true →
      ∃ frame ∈ first :: between, frame.Switches group name animation true := by
  have screens := screens_of_screening played
  refine ⟨?_, ?_⟩
  · -- The queue was empty at the beginning, so that every report in it comes from an earlier frame.
    have empty : playback.queue = [] := by
      obtain ⟨engine, -, rfl⟩ := map_eq_ok.1 created
      rfl
    have all := screens.queue
    rw [empty, List.nil_append, List.eq_cons_of_mem_head? delivered] at all
    obtain ⟨early, origin, between, ahead, behind, rfl, reported, done⟩ := exists_of_flatMap_eq all
    obtain ⟨middle, -, rest⟩ := screens.split
    cases rest with
    | @cons _ _ shown _ played' after =>
      have mem : .spriteAnimationStopped group name animation ∈ Take.reported ⟨middle, shown⟩ := by
        rw [reported]
        simp
      have on := animates_of_mem_reported played' mem
      refine ⟨early, _, between, ahead, behind, rfl, reported, done, on, ?_⟩
      by_cases still : take.before.engine.session.stage.animates group name animation = true
      · exact .inl still
      · exact .inr (after.switches_of_ne (by simp [on]) (by simpa using still))
  · rintro early first between rfl delivered' now
    obtain ⟨middle, -, rest⟩ := screens.split
    cases rest with
    | @cons _ _ shown _ played' after =>
      by_cases on : shown.next.engine.session.stage.animates group name animation = true
      · exact ⟨_, List.mem_cons_self, switches_of_delivered played' delivered' on⟩
      · obtain ⟨frame, mem, switches⟩ := after.switches_of_ne on now
        exact ⟨frame, List.mem_cons_of_mem _ mem, switches⟩

/-- A story with a character that moves and changes its scale at once; a bell is to ring when the
change of scale is over. -/
def twirl : Story where
  startup := some ⟨"dawn", "street"⟩
  chapters := .ofEntries [("dawn", { scenes := .ofEntries [
    ("street",
      "<load_character:ann,a>\n<character_show:ann>\n<character_after_scaling_stop:a,bell>\n" ++
        "<character_start_moving:a>\n<character_start_scaling:a>")] })]
  reusables := .ofEntries [("bell", "<play_sound:ding>")]
  assets := { character := some (.ofEntries [("ann", { width := 10, height := 10 })]) }

/-- The playback of that story at the beginning. -/
def twirlNew : Playback where
  engine := .opening twirl {} ⟨"dawn", "street"⟩

/-- The fourth frame takes the second report on the change of scale, which was switched off a frame
earlier, by the first one. -/
theorem twirl_report_is_late :
    ∃ playback front take late, create twirl {} = .ok playback ∧
      screening false 9 playback = front ++ take :: late ∧
      take.delivered = some (.spriteAnimationStopped .character "ann" .scale) ∧
      take.before.engine.session.stage.animates .character "ann" .scale = false ∧
      ∃ frame ∈ front, frame.Switches .character "ann" .scale false := by
  obtain ⟨created, hlate⟩ : create twirl {} = .ok twirlNew ∧
      (screening false 9 twirlNew)[3]?.map (fun take => (take.delivered,
        take.before.engine.session.stage.animates .character "ann" .scale)) =
          some (some (.spriteAnimationStopped .character "ann" .scale), false) := by
    decide +kernel
  generalize twirlNew = playback at created hlate
  obtain ⟨take, htake, facts⟩ := Option.map_eq_some_iff.1 hlate
  obtain ⟨delivered, off⟩ := Prod.mk.inj facts
  obtain ⟨front, late, played⟩ := List.append_of_mem (List.mem_of_getElem? htake)
  obtain ⟨⟨early, origin, between, _, _, rfl, -, -, -, on | ⟨frame, mem, switches⟩⟩, -⟩ :=
    report_finds_animation_unless_switched_off created played delivered
  · exact absurd (off.symm.trans on) Bool.false_ne_true
  · exact ⟨playback, _, take, late, created, played, delivered, off, frame, by simp [mem], switches⟩

/-- A report finds its sprite on the stage and the animation switched off, and the script that was
to be started when the animation is over, which was switched on once, is started twice. -/
theorem twirl_ends_twice :
    ∃ playback take, create twirl {} = .ok playback ∧ take ∈ screening false 9 playback ∧
      take.delivered = some (.spriteAnimationStopped .character "ann" .scale) ∧
      (take.before.engine.session.stage.character.find? "ann").isSome = true ∧
      take.before.engine.session.stage.animates .character "ann" .scale = false ∧
      (play false 9 playback #[]).1.toList =
        [.playAudio .fx "ding" false, .playAudio .fx "ding" false] := by
  obtain ⟨created, hlate, rings⟩ : create twirl {} = .ok twirlNew ∧
      (screening false 9 twirlNew)[3]?.map (fun take => (take.delivered,
        (take.before.engine.session.stage.character.find? "ann").isSome,
        take.before.engine.session.stage.animates .character "ann" .scale)) =
          some (some (.spriteAnimationStopped .character "ann" .scale), true, false) ∧
      (play false 9 twirlNew #[]).1.toList =
        [.playAudio .fx "ding" false, .playAudio .fx "ding" false] := by
    decide +kernel
  obtain ⟨take, htake, facts⟩ := Option.map_eq_some_iff.1 hlate
  simp only [Prod.mk.injEq] at facts
  exact ⟨twirlNew, take, created, List.mem_of_getElem? htake, facts.1, facts.2.1, facts.2.2, rings⟩

end Playback

end VisualNovel
