import HeliumSync.System

/-! Operations that are performed by programs over a lower interface: what parties do below, with their
steps interleaved, is something they may do above. -/
namespace HeliumSync.Interaction

variable {ι Cmd Cmd' Out W Choice Choice' Op Op' Link α R : Type} {Reply : Op → Type}
  {Reply' : Op' → Type}

/-- Every operation performed below, with a state that is handed on. -/
def Prog.implement (perform : (op : Op) → Link → Prog Op' Reply' (Reply op × Link)) :
    Prog Op Reply α → Link → Prog Op' Reply' α
  | .done a, _ => .done a
  | .call op next, s => (perform op s).bind fun out => (next out.1).implement perform out.2

/-- What is left of the performance of an operation: a step before the last leaves the world, and the
last does what the operation may. -/
def Prog.Performs (exec' : (op : Op') → Choice' → W → Option (W × Reply' op))
    (allow : Op' → Choice' → W → Prop) (inv : W → Prop) (keep : Link → Prop)
    (exec : Choice → W → Option (W × R)) : Prog Op' Reply' (R × Link) → Prop
  | .done out => keep out.2 ∧ ∀ w, ∃ choice, exec choice w = some (w, out.1)
  | .call op next => ∀ choice w w' reply, inv w → allow op choice w →
      exec' op choice w = some (w', reply) → inv w' ∧
        (w' = w ∧ (next reply).Performs exec' allow inv keep exec ∨
          ∃ out choice', next reply = .done out ∧ keep out.2 ∧ exec choice' w = some (w', out.1))

/-- How a lower system stands to an upper one. -/
structure Layering (S : System ι Cmd Out W Choice Op Reply)
    (S' : System ι Cmd' Out W Choice' Op' Reply') (Link : Type) where
  perform : (op : Op) → Link → Prog Op' Reply' (Reply op × Link)
  /-- The command above that a command below stands for. -/
  command : Cmd' → Cmd
  /-- The state that it finds. -/
  start : Cmd' → Link
  keep : ι → Link → Prop
  begins : ι → Cmd → W → Prop
  allow : ι → Op' → Choice' → W → Prop
  good : Op → Prop
  inv : W → Prop

variable [DecidableEq ι]

namespace Layering
variable {S : System ι Cmd Out W Choice Op Reply} {S' : System ι Cmd' Out W Choice' Op' Reply'}
  (L : Layering S S' Link)

/-- The lower system runs the commands of the upper one, each operation performed. -/
structure Holds : Prop where
  program : ∀ i command, S'.program i command =
    (S.program i (L.command command)).implement L.perform (L.start command)
  issues : ∀ {i command w}, L.begins i command w → (S.program i command).Issues L.good
  performs : ∀ {i op s}, L.good op → L.keep i s →
    (L.perform op s).Performs (S'.exec i) (L.allow i) L.inv (L.keep i) (S.exec i op)
  edits : ∀ {i choice w w'}, L.inv w → S'.edit i choice w = some w' →
    L.inv w' ∧ ∃ choice', S.edit i choice' w = some w'

/-- The condition on a run above. -/
def above : Condition ι Cmd W Choice Op Reply where
  begins := L.begins
  acts := fun _ _ _ _ _ _ _ => True

/-- The condition on a run below. -/
def below : Condition ι Cmd' W Choice' Op' Reply' where
  begins i command w := L.begins i (L.command command) w ∧ L.keep i (L.start command)
  acts i _ _ _ op choice w := L.allow i op choice w

/-- Below, the operation that is next above is being performed. -/
inductive Behind (i : ι) : Prog Op' Reply' Out → Prog Op Reply Out → Prop
  | done (out : Out) : Behind i (.done out) (.done out)
  | call {op next op' next'} : (∀ reply, (next reply).Issues L.good) →
      (Prog.call op' next').Performs (S'.exec i) (L.allow i) L.inv (L.keep i) (S.exec i op) →
      Behind i
        (.call op' fun reply => (next' reply).bind fun out => (next out.1).implement L.perform out.2)
        (.call op next)

/-- The same command, at the same point. -/
inductive Follows (i : ι) :
    Option (Task Cmd' Out W Op' Reply') → Option (Task Cmd Out W Op Reply) → Prop
  | none : Follows i none none
  | some {command began journal' rest' journal rest} : L.Behind i rest' rest →
      Follows i (some ⟨command, began, journal', rest'⟩)
        (some ⟨L.command command, began, journal, rest⟩)

/-- What the user of a command sees of it: where it was begun and, when it is over, its outcome. -/
def seen {Op : Type} {Reply : Op → Type} (named : Cmd' → Cmd) :
    Option (Task Cmd' Out W Op Reply) → Option (Cmd × W × Option Out)
  | some ⟨command, began, _, .done out⟩ => some (named command, began, some out)
  | some ⟨command, began, _, .call _ _⟩ => some (named command, began, none)
  | none => none

/-- Two configurations look the same: the world is, and every party has come as far with its command. -/
structure Alike (named : Cmd' → Cmd) (cfg : Config ι Cmd Out W Op Reply)
    (cfg' : Config ι Cmd' Out W Op' Reply') : Prop where
  world : cfg.world = cfg'.world
  seen : ∀ i, seen id (cfg.task i) = Layering.seen named (cfg'.task i)

/-- A run above passes through what a run below does, in the same order. For a step below it stands
still, or it takes some steps in the world that this one leads to. -/
inductive Mirrors (named : Cmd' → Cmd) :
    List (Config ι Cmd Out W Op Reply) → List (Config ι Cmd' Out W Op' Reply') → Prop
  | init {cfg cfg'} : Alike named cfg cfg' → Mirrors named [cfg] [cfg']
  | stay {cfg cfg' past past'} : Alike named cfg cfg' → Mirrors named (cfg :: past) past' →
      Mirrors named (cfg :: past) (cfg' :: past')
  | step {cfg cfg' between past past'} : Alike named cfg cfg' →
      (∀ c ∈ between, c.world = cfg'.world) → Mirrors named past past' →
      Mirrors named (cfg :: (between ++ past)) (cfg' :: past')

/-- A run above mirrors this one, and its parties have come to the same point. -/
def Matched (init : W → Prop) (past' : List (Config ι Cmd' Out W Op' Reply'))
    (cfg' : Config ι Cmd' Out W Op' Reply') : Prop :=
  ∃ past cfg, S.Trace L.above init (cfg :: past) ∧ Mirrors L.command (cfg :: past) (cfg' :: past') ∧
    cfg.world = cfg'.world ∧ ∀ i, L.Follows i (cfg'.task i) (cfg.task i)

variable {L} {init : W → Prop} {i : ι}

omit [DecidableEq ι] in
theorem meets_above {cfg : Config ι Cmd Out W Op Reply} {event : Event ι Cmd Choice}
    (begun : ∀ i command, event = .begin i command → L.begins i command cfg.world) :
    L.above.Meets cfg event := by
  cases event with
  | begin i command => exact begun i command rfl
  | act => exact fun _ _ _ _ _ _ => trivial
  | edit => exact trivial

omit [DecidableEq ι] in
theorem Follows.idle {task' : Option (Task Cmd' Out W Op' Reply')}
    {task : Option (Task Cmd Out W Op Reply)} (follows : L.Follows i task' task) :
    Idle task' = Idle task := by
  cases follows with
  | none => rfl
  | some behind => cases behind <;> rfl

omit [DecidableEq ι] in
theorem Follows.seen {task' : Option (Task Cmd' Out W Op' Reply')}
    {task : Option (Task Cmd Out W Op Reply)} (follows : L.Follows i task' task) :
    seen id task = Layering.seen L.command task' := by
  cases follows with
  | none => rfl
  | some behind => cases behind <;> rfl

omit [DecidableEq ι] in
theorem alike {cfg : Config ι Cmd Out W Op Reply} {cfg' : Config ι Cmd' Out W Op' Reply'}
    (world : cfg.world = cfg'.world) (follows : ∀ i, L.Follows i (cfg'.task i) (cfg.task i)) :
    Alike L.command cfg cfg' where
  world := world
  seen i := (follows i).seen

/-- The others are where they were. -/
theorem follows_update {task' : ι → Option (Task Cmd' Out W Op' Reply')}
    {task : ι → Option (Task Cmd Out W Op Reply)} (follows : ∀ j, L.Follows j (task' j) (task j))
    {here' : Option (Task Cmd' Out W Op' Reply')} {here : Option (Task Cmd Out W Op Reply)}
    (at' : L.Follows i here' here) (j : ι) :
    L.Follows j (Function.update task' i here' j) (Function.update task i here j) := by
  by_cases same : j = i
  · subst same
    rw [Function.update_self, Function.update_self]
    exact at'
  · rw [Function.update_of_ne same, Function.update_of_ne same]
    exact follows j

namespace Holds
variable (holds : L.Holds) {past : List (Config ι Cmd Out W Op Reply)}
  {cfg : Config ι Cmd Out W Op Reply} {command : Cmd} {began : W} {journal : List (Entry Op Reply)}
include holds

/-- Operations that are performed without a step below are performed above at once. -/
theorem catches {rest : Prog Op Reply Out} {s : Link} (trace : S.Trace L.above init (cfg :: past))
    (waiting : cfg.task i = some ⟨command, began, journal, rest⟩) (issues : rest.Issues L.good)
    (kept : L.keep i s) :
    ∃ between journal₁ rest₁, S.Trace L.above init
        (⟨cfg.world, Function.update cfg.task i (some ⟨command, began, journal₁, rest₁⟩)⟩ ::
          (between ++ past)) ∧
      (∀ c ∈ between, c.world = cfg.world) ∧ L.Behind i (rest.implement L.perform s) rest₁ := by
  induction rest generalizing past cfg journal s with
  | done out =>
      refine ⟨[], journal, .done out, ?_, List.forall_mem_nil _, .done out⟩
      rw [← waiting, Function.update_eq_self]
      exact trace
  | call op next ih =>
      have performs := holds.performs issues.1 kept
      rw [Prog.implement]
      cases shape : L.perform op s with
      | call op' next' =>
          refine ⟨[], journal, .call op next, ?_, List.forall_mem_nil _,
            .call issues.2 (shape ▸ performs)⟩
          rw [← waiting, Function.update_eq_self]
          exact trace
      | done out =>
          rw [shape] at performs
          obtain ⟨kept, acts⟩ := performs
          obtain ⟨choice, ran⟩ := acts cfg.world
          have stepped : S.next cfg (.act i choice) = some ⟨cfg.world, Function.update cfg.task i
              (some ⟨command, began, journal ++ [⟨op, out.1⟩], next out.1⟩)⟩ := by
            simp only [System.next, waiting, ran, Option.map_some]
          obtain ⟨between, journal₁, rest₁, trace₁, same, behind⟩ := ih out.1
            (trace.next (meets_above fun _ _ same => by cases same) stepped)
            (Function.update_self ..) (issues.2 out.1) kept
          rw [Function.update_idem] at trace₁
          refine ⟨between ++ [cfg], journal₁, rest₁, ?_, fun c member => ?_, behind⟩
          · rw [List.append_assoc]
            exact trace₁
          · rcases List.mem_append.mp member with earlier | here
            · exact same c earlier
            · rw [List.mem_singleton.mp here]

/-- The last step of a performance is the operation above. -/
theorem acts {w' : W} {op : Op} {next : Reply op → Prog Op Reply Out} {choice : Choice}
    {reply : Reply op} {s : Link} (trace : S.Trace L.above init (cfg :: past))
    (waiting : cfg.task i = some ⟨command, began, journal, .call op next⟩)
    (issues : (next reply).Issues L.good) (kept : L.keep i s)
    (ran : S.exec i op choice cfg.world = some (w', reply)) :
    ∃ between journal₁ rest₁, S.Trace L.above init
        (⟨w', Function.update cfg.task i (some ⟨command, began, journal₁, rest₁⟩)⟩ ::
          (between ++ cfg :: past)) ∧
      (∀ c ∈ between, c.world = w') ∧ L.Behind i ((next reply).implement L.perform s) rest₁ := by
  have stepped : S.next cfg (.act i choice) = some ⟨w', Function.update cfg.task i
      (some ⟨command, began, journal ++ [⟨op, reply⟩], next reply⟩)⟩ := by
    simp only [System.next, waiting, ran, Option.map_some]
  obtain ⟨between, journal₁, rest₁, trace₁, same, behind⟩ := holds.catches
    (trace.next (meets_above fun _ _ same => by cases same) stepped) (Function.update_self ..) issues
    kept
  rw [Function.update_idem] at trace₁
  exact ⟨between, journal₁, rest₁, trace₁, same, behind⟩

variable {past' : List (Config ι Cmd' Out W Op' Reply')} {cfg' : Config ι Cmd' Out W Op' Reply'}
  {command' : Cmd'}

theorem matched_begin (matched : L.Matched init past' cfg')
    (begun : L.begins i (L.command command') cfg'.world) (kept : L.keep i (L.start command')) :
    L.Matched init (cfg' :: past') ⟨cfg'.world, Function.update cfg'.task i
      (some ⟨command', cfg'.world, [], S'.program i command'⟩)⟩ := by
  obtain ⟨past, cfg, trace, mirrors, world, follows⟩ := matched
  rw [← world] at begun ⊢
  have stepped : S.next cfg (.begin i (L.command command')) = some ⟨cfg.world,
      Function.update cfg.task i
        (some ⟨L.command command', cfg.world, [], S.program i (L.command command')⟩)⟩ := rfl
  obtain ⟨between, journal₁, rest₁, trace₁, same, behind⟩ := holds.catches
    (trace.next (meets_above fun _ _ same => by cases same; exact begun) stepped)
    (Function.update_self ..) (holds.issues begun) kept
  rw [Function.update_idem] at trace₁
  have here : ∀ j, L.Follows j
      (Function.update cfg'.task i (some ⟨command', cfg.world, [], S'.program i command'⟩) j)
      (Function.update cfg.task i (some ⟨L.command command', cfg.world, journal₁, rest₁⟩) j) := by
    refine follows_update follows ?_
    rw [holds.program]
    exact .some behind
  exact ⟨_, _, trace₁, .step (alike rfl here) same mirrors, rfl, here⟩

/-- A step below is no step above, or the operation, and those after it that need none. -/
theorem matched_act {journal' : List (Entry Op' Reply')} {op' : Op'}
    {next' : Reply' op' → Prog Op' Reply' Out} {choice : Choice'} {w' : W} {reply : Reply' op'}
    (matched : L.Matched init past' cfg') (held : L.inv cfg'.world)
    (waiting' : cfg'.task i = some ⟨command', began, journal', .call op' next'⟩)
    (allowed : L.allow i op' choice cfg'.world)
    (ran : S'.exec i op' choice cfg'.world = some (w', reply)) :
    L.inv w' ∧ L.Matched init (cfg' :: past') ⟨w', Function.update cfg'.task i
      (some ⟨command', began, journal' ++ [⟨op', reply⟩], next' reply⟩)⟩ := by
  obtain ⟨past, cfg, trace, mirrors, world, follows⟩ := matched
  have tracked := follows i
  rw [waiting'] at tracked
  generalize at' : cfg.task i = task at tracked
  cases tracked with
  | @some _ _ _ _ journal _ behind =>
      cases behind with
      | @call op next _ next₁ issues performs =>
          obtain ⟨kept, step⟩ := performs choice cfg'.world w' reply held allowed ran
          refine ⟨kept, ?_⟩
          dsimp only
          -- The operation is over, whether with this step or without one.
          have ends {out choice'} (ended : next₁ reply = .done out) (keeps : L.keep i out.2)
              (acted : S.exec i op choice' cfg'.world = some (w', out.1)) :
              L.Matched init (cfg' :: past') ⟨w', Function.update cfg'.task i
                (some ⟨command', began, journal' ++ [⟨op', reply⟩], (next₁ reply).bind fun out =>
                  (next out.1).implement L.perform out.2⟩)⟩ := by
            obtain ⟨between, journal₁, rest₁, trace₁, same, behind⟩ := holds.acts trace at'
              (issues out.1) keeps (world ▸ acted)
            have here : ∀ j, L.Follows j (Function.update cfg'.task i (some ⟨command', began,
                journal' ++ [⟨op', reply⟩], (next out.1).implement L.perform out.2⟩) j)
                (Function.update cfg.task i (some ⟨L.command command', began, journal₁, rest₁⟩) j) :=
              follows_update follows (.some behind)
            rw [ended]
            exact ⟨_, _, trace₁, .step (alike rfl here) same mirrors, rfl, here⟩
          rcases step with ⟨rfl, performs⟩ | ⟨out, choice', ended, keeps, acted⟩
          · cases shape : next₁ reply with
            | done out =>
                rw [shape] at performs
                obtain ⟨choice', acted⟩ := performs.2 cfg'.world
                exact shape ▸ ends shape performs.1 acted
            | call op₂ next₂ =>
                have here : ∀ j, L.Follows j (Function.update cfg'.task i (some ⟨command', began,
                    journal' ++ [⟨op', reply⟩], (Prog.call op₂ next₂).bind fun out =>
                      (next out.1).implement L.perform out.2⟩) j) (cfg.task j) := by
                  intro j
                  rw [← Function.update_eq_self i cfg.task, at']
                  exact follows_update follows (.some (.call issues (shape ▸ performs))) j
                exact ⟨past, cfg, trace, .stay (alike world here) mirrors, world, here⟩
          · exact ends ended keeps acted

omit holds in
theorem matched_edit {choice' : Choice} {w' : W} (matched : L.Matched init past' cfg')
    (idle : Idle (cfg'.task i)) (edited : S.edit i choice' cfg'.world = some w') :
    L.Matched init (cfg' :: past') ⟨w', Function.update cfg'.task i none⟩ := by
  obtain ⟨past, cfg, trace, mirrors, world, follows⟩ := matched
  have stepped : S.next cfg (.edit i choice') = some ⟨w', Function.update cfg.task i none⟩ := by
    rw [System.next, ← (follows i).idle, if_pos idle, world, edited, Option.map_some]
  have here : ∀ j, L.Follows j (Function.update cfg'.task i none j)
      (Function.update cfg.task i none j) := follows_update follows .none
  have mirrors₁ : Mirrors L.command (⟨w', Function.update cfg.task i none⟩ :: ([] ++ cfg :: past))
      (⟨w', Function.update cfg'.task i none⟩ :: cfg' :: past') :=
    .step (alike rfl here) (List.forall_mem_nil _) mirrors
  exact ⟨_, _, trace.next (meets_above fun _ _ same => by cases same) stepped, mirrors₁, rfl, here⟩

/-- Every run below is mirrored by one above. -/
theorem mirrored (first : ∀ w, init w → L.inv w) {past' : List (Config ι Cmd' Out W Op' Reply')}
    (trace' : S'.Trace L.below init past') :
    ∃ past, S.Trace L.above init past ∧ Mirrors L.command past past' := by
  have matched : ∃ before cfg', past' = cfg' :: before ∧ L.inv cfg'.world ∧
      L.Matched init before cfg' := by
    induction trace' with
    | @init w begun =>
        have here : ∀ i, L.Follows i none none := fun _ => .none
        exact ⟨[], _, rfl, first w begun, [], ⟨w, fun _ => none⟩, .init begun,
          .init (alike rfl here), rfl, here⟩
    | @next before cfg₀ cfg₁ event _ meets ran ih =>
        obtain ⟨_, _, same, held, matched⟩ := ih
        cases same
        refine ⟨_, _, rfl, ?_⟩
        cases event with
        | begin i command =>
            cases ran
            exact ⟨held, holds.matched_begin matched meets.1 meets.2⟩
        | act i choice =>
            obtain ⟨command, began, journal', op', next', reply, w', waiting', exec', rfl⟩ :=
              Discipline.next_act ran
            exact holds.matched_act matched held waiting'
              (meets command began journal' op' next' waiting') exec'
        | edit i choice =>
            obtain ⟨idle, w', edited', rfl⟩ := Discipline.next_edit ran
            obtain ⟨kept, choice', edited⟩ := holds.edits held edited'
            exact ⟨kept, matched_edit matched idle edited⟩
  obtain ⟨_, _, rfl, _, _, _, trace, mirrors, _⟩ := matched
  exact ⟨_, trace, mirrors⟩

end Holds
end Layering
end HeliumSync.Interaction
