import HeliumSync.Interaction

/-! Many parties that run commands against one world, their operations interleaved in any
order. A party may drop its command at any point and begin another. -/
namespace HeliumSync.Interaction

variable {ι Cmd Out W Choice Op : Type} {Reply : Op → Type}

structure System (ι Cmd Out W Choice Op : Type) (Reply : Op → Type) where
  exec : ι → (op : Op) → Choice → W → Option (W × Reply op)
  program : ι → Cmd → Prog Op Reply Out
  /-- What may happen to a party between its commands. -/
  edit : ι → Choice → W → Option W

structure Task (Cmd Out W Op : Type) (Reply : Op → Type) where
  command : Cmd
  start : W
  journal : List (Entry Op Reply)
  rest : Prog Op Reply Out

structure Config (ι Cmd Out W Op : Type) (Reply : Op → Type) where
  world : W
  task : ι → Option (Task Cmd Out W Op Reply)

inductive Event (ι Cmd Choice : Type) where
  | begin (party : ι) (command : Cmd)
  | act (party : ι) (choice : Choice)
  | edit (party : ι) (choice : Choice)

/-- The command, if any, has come to its end. -/
def Idle : Option (Task Cmd Out W Op Reply) → Bool
  | some ⟨_, _, _, .call _ _⟩ => false
  | _ => true

/-- A condition on the steps of a run. -/
structure Condition (ι Cmd W Choice Op : Type) (Reply : Op → Type) where
  begins : ι → Cmd → W → Prop
  acts : ι → Cmd → W → List (Entry Op Reply) → Op → Choice → W → Prop

def Condition.none : Condition ι Cmd W Choice Op Reply where
  begins := fun _ _ _ => True
  acts := fun _ _ _ _ _ _ _ => True

variable [DecidableEq ι]

def System.next (S : System ι Cmd Out W Choice Op Reply) (cfg : Config ι Cmd Out W Op Reply) :
    Event ι Cmd Choice → Option (Config ι Cmd Out W Op Reply)
  | .begin i command =>
      some ⟨cfg.world, Function.update cfg.task i
        (some ⟨command, cfg.world, [], S.program i command⟩)⟩
  | .act i choice =>
      match cfg.task i with
      | some ⟨command, start, journal, .call op next⟩ =>
          (S.exec i op choice cfg.world).map fun (world, reply) =>
            ⟨world, Function.update cfg.task i
              (some ⟨command, start, journal ++ [⟨op, reply⟩], next reply⟩)⟩
      | _ => none
  | .edit i choice =>
      if Idle (cfg.task i) then
        (S.edit i choice cfg.world).map fun world => ⟨world, Function.update cfg.task i none⟩
      else none

def Condition.Meets (cond : Condition ι Cmd W Choice Op Reply)
    (cfg : Config ι Cmd Out W Op Reply) : Event ι Cmd Choice → Prop
  | .begin i command => cond.begins i command cfg.world
  | .act i choice => ∀ command start journal op next,
      cfg.task i = some ⟨command, start, journal, .call op next⟩ →
      cond.acts i command start journal op choice cfg.world
  | .edit _ _ => True

omit [DecidableEq ι] in
theorem Condition.none_meets (cfg : Config ι Cmd Out W Op Reply) (event : Event ι Cmd Choice) :
    Condition.none.Meets cfg event := by
  cases event <;> simp [Meets, none]

/-- The configurations of the runs whose steps all meet the condition. -/
inductive System.Reachable (S : System ι Cmd Out W Choice Op Reply)
    (cond : Condition ι Cmd W Choice Op Reply) (init : W → Prop) :
    Config ι Cmd Out W Op Reply → Prop
  | init {w} : init w → Reachable S cond init ⟨w, fun _ => none⟩
  | next {cfg cfg' event} : Reachable S cond init cfg → cond.Meets cfg event →
      S.next cfg event = some cfg' → Reachable S cond init cfg'

/-- A run with the worlds that it has been through, the last one first. -/
inductive System.Run (S : System ι Cmd Out W Choice Op Reply)
    (cond : Condition ι Cmd W Choice Op Reply) (init : W → Prop) :
    List W → Config ι Cmd Out W Op Reply → Prop
  | init {w} : init w → Run S cond init [w] ⟨w, fun _ => none⟩
  | next {past cfg cfg' event} : Run S cond init past cfg → cond.Meets cfg event →
      S.next cfg event = some cfg' → Run S cond init (cfg'.world :: past) cfg'

/-- The configurations that a run has been through, the last one first. -/
inductive System.Trace (S : System ι Cmd Out W Choice Op Reply)
    (cond : Condition ι Cmd W Choice Op Reply) (init : W → Prop) :
    List (Config ι Cmd Out W Op Reply) → Prop
  | init {w} : init w → Trace S cond init [⟨w, fun _ => none⟩]
  | next {past cfg cfg' event} : Trace S cond init (cfg :: past) → cond.Meets cfg event →
      S.next cfg event = some cfg' → Trace S cond init (cfg' :: cfg :: past)

/-- The condition that steps lead only to worlds that are seen. -/
def Condition.within (cond : Condition ι Cmd W Choice Op Reply)
    (S : System ι Cmd Out W Choice Op Reply) (seen : W → Prop) :
    Condition ι Cmd W Choice Op Reply where
  begins := cond.begins
  acts i command start journal op choice w :=
    cond.acts i command start journal op choice w ∧
      ∀ w' reply, S.exec i op choice w = some (w', reply) → seen w'

/-- A run stays within any set that holds all its worlds. -/
theorem System.Run.within {S : System ι Cmd Out W Choice Op Reply}
    {cond : Condition ι Cmd W Choice Op Reply} {init : W → Prop} {past : List W}
    {cfg : Config ι Cmd Out W Op Reply} (run : S.Run cond init past cfg) {seen : W → Prop}
    (all : ∀ w ∈ past, seen w) :
    S.Reachable (cond.within S seen) (fun w => init w ∧ seen w) cfg := by
  induction run with
  | init first => exact .init ⟨first, all _ List.mem_cons_self⟩
  | @next past cfg cfg' event before meets ran ih =>
      have earlier := ih fun w member => all w (List.mem_cons_of_mem _ member)
      refine .next earlier ?_ ran
      cases event with
      | begin i command => exact meets
      | edit i choice => exact trivial
      | act i choice =>
          intro command start journal op next found
          refine ⟨meets command start journal op next found, ?_⟩
          intro w' reply exec
          have here := all _ List.mem_cons_self
          simp only [System.next, found, exec, Option.map_some] at ran
          cases ran
          exact here

/-- A schedule, run as far as its events are possible. -/
def System.play (S : System ι Cmd Out W Choice Op Reply) :
    List (Event ι Cmd Choice) → Config ι Cmd Out W Op Reply →
      Option (Config ι Cmd Out W Op Reply)
  | [], cfg => some cfg
  | event :: events, cfg => (S.next cfg event).bind (S.play events)

theorem System.Reachable.play {S : System ι Cmd Out W Choice Op Reply} {init : W → Prop}
    {cfg cfg' : Config ι Cmd Out W Op Reply} (reached : S.Reachable .none init cfg)
    (events : List (Event ι Cmd Choice)) (ran : S.play events cfg = some cfg') :
    S.Reachable .none init cfg' := by
  induction events generalizing cfg with
  | nil => cases ran; exact reached
  | cons event events ih =>
      obtain ⟨between, first, rest⟩ := Option.bind_eq_some_iff.mp ran
      exact ih (.next reached (Condition.none_meets cfg event) first) rest

theorem System.Run.play {S : System ι Cmd Out W Choice Op Reply}
    {cond : Condition ι Cmd W Choice Op Reply} {init : W → Prop} {past : List W}
    {cfg cfg' : Config ι Cmd Out W Op Reply} (run : S.Run cond init past cfg)
    (events : List (Event ι Cmd Choice))
    (meets : ∀ event ∈ events, ∀ cfg : Config ι Cmd Out W Op Reply, cond.Meets cfg event)
    (ran : S.play events cfg = some cfg') : ∃ past', S.Run cond init past' cfg' := by
  induction events generalizing cfg past with
  | nil => cases ran; exact ⟨past, run⟩
  | cons event events ih =>
      obtain ⟨between, first, rest⟩ := Option.bind_eq_some_iff.mp ran
      exact ih (.next run (meets event List.mem_cons_self cfg) first)
        (fun other later => meets other (List.mem_cons_of_mem event later)) rest

/-- A schedule whose events are checked, each before it happens. -/
def System.checked (S : System ι Cmd Out W Choice Op Reply)
    (check : Config ι Cmd Out W Op Reply → Event ι Cmd Choice → Bool) :
    List (Event ι Cmd Choice) → Config ι Cmd Out W Op Reply →
      Option (Config ι Cmd Out W Op Reply)
  | [], cfg => some cfg
  | event :: events, cfg =>
      if check cfg event then (S.next cfg event).bind (S.checked check events) else none

theorem System.Trace.checked {S : System ι Cmd Out W Choice Op Reply}
    {cond : Condition ι Cmd W Choice Op Reply} {init : W → Prop}
    {past : List (Config ι Cmd Out W Op Reply)} {cfg cfg' : Config ι Cmd Out W Op Reply}
    (trace : S.Trace cond init (cfg :: past))
    {check : Config ι Cmd Out W Op Reply → Event ι Cmd Choice → Bool}
    (sound : ∀ cfg event, check cfg event → cond.Meets cfg event)
    (events : List (Event ι Cmd Choice)) (ran : S.checked check events cfg = some cfg') :
    ∃ past', S.Trace cond init (cfg' :: past') := by
  induction events generalizing cfg past with
  | nil => cases ran; exact ⟨past, trace⟩
  | cons event events ih =>
      rw [System.checked] at ran
      split_ifs at ran with meets
      obtain ⟨between, first, rest⟩ := Option.bind_eq_some_iff.mp ran
      exact ih (.next trace (sound cfg event meets) first) rest

/-- An invariant and what every party may rely on, owes at each step and reaches at its end. -/
structure Discipline (S : System ι Cmd Out W Choice Op Reply)
    (cond : Condition ι Cmd W Choice Op Reply) where
  inv : W → Prop
  rely : ι → W → W → Prop
  guar : ι → Cmd → W → List (Entry Op Reply) → (op : Op) → W → Reply op → W → Prop
  post : ι → Cmd → W → Out → List (Entry Op Reply) → W → Prop

namespace Discipline
variable {S : System ι Cmd Out W Choice Op Reply} {cond : Condition ι Cmd W Choice Op Reply}
  (D : Discipline S cond)

def contract (i : ι) (command : Cmd) (start : W) : Contract Op Reply W Choice where
  exec := S.exec i
  inv := D.inv
  rely := D.rely i
  allow := cond.acts i command start
  guar := D.guar i command start

/-- The obligations of a discipline. -/
structure Holds : Prop where
  refl : ∀ i w, D.rely i w w
  trans : ∀ i {a b c}, D.rely i a b → D.rely i b c → D.rely i a c
  others : ∀ {i command start journal op choice w reply w'}, D.inv w → D.inv w' →
    S.exec i op choice w = some (w', reply) → D.guar i command start journal op w reply w' →
    ∀ j, j ≠ i → D.rely j w w'
  edits : ∀ {i choice w w'}, D.inv w → S.edit i choice w = some w' →
    D.inv w' ∧ ∀ j, j ≠ i → D.rely j w w'
  programs : ∀ {i command w}, D.inv w → cond.begins i command w →
    (S.program i command).Ensures (D.contract i command w) (D.post i command w) [] w

/-- What the discipline says of a task: it is safe from a world its party could rely on. -/
def Sound (w : W) (i : ι) (task : Task Cmd Out W Op Reply) : Prop :=
  ∃ w₀, D.rely i w₀ w ∧ task.rest.Ensures (D.contract i task.command task.start)
    (D.post i task.command task.start) task.journal w₀

/-- What one step of a reachable configuration does. -/
theorem next_act {cfg cfg' : Config ι Cmd Out W Op Reply} {i : ι} {choice : Choice}
    (ran : S.next cfg (.act i choice) = some cfg') :
    ∃ command start journal op next reply w',
      cfg.task i = some ⟨command, start, journal, .call op next⟩ ∧
      S.exec i op choice cfg.world = some (w', reply) ∧
      cfg' = ⟨w', Function.update cfg.task i
        (some ⟨command, start, journal ++ [⟨op, reply⟩], next reply⟩)⟩ := by
  simp only [System.next] at ran
  split at ran
  · next command start journal op next found =>
      obtain ⟨⟨w', reply⟩, exec, rfl⟩ := Option.map_eq_some_iff.mp ran
      exact ⟨command, start, journal, op, next, reply, w', found, exec, rfl⟩
  · cases ran

theorem next_edit {cfg cfg' : Config ι Cmd Out W Op Reply} {i : ι} {choice : Choice}
    (ran : S.next cfg (.edit i choice) = some cfg') :
    Idle (cfg.task i) ∧ ∃ w', S.edit i choice cfg.world = some w' ∧
      cfg' = ⟨w', Function.update cfg.task i none⟩ := by
  simp only [System.next] at ran
  split at ran
  · next idle =>
      obtain ⟨w', edited, rfl⟩ := Option.map_eq_some_iff.mp ran
      exact ⟨idle, w', edited, rfl⟩
  · cases ran

variable {D}

theorem Holds.step (holds : D.Holds) {cfg cfg' : Config ι Cmd Out W Op Reply}
    {event : Event ι Cmd Choice} (held : D.inv cfg.world)
    (sound : ∀ i task, cfg.task i = some task → D.Sound cfg.world i task)
    (meets : cond.Meets cfg event) (ran : S.next cfg event = some cfg') :
    D.inv cfg'.world ∧ ∀ i task, cfg'.task i = some task → D.Sound cfg'.world i task := by
  have others {w'} {k : ι} (moved : ∀ j, j ≠ k → D.rely j cfg.world w') (j : ι) (other : j ≠ k)
      {task} (found : cfg.task j = some task) : D.Sound w' j task := by
    obtain ⟨w₀, relied, safe⟩ := sound j task found
    exact ⟨w₀, holds.trans j relied (moved j other), safe⟩
  cases event with
  | begin i command =>
      cases ran
      refine ⟨held, fun j task found => ?_⟩
      dsimp only at found ⊢
      by_cases here : j = i
      · subst here
        rw [Function.update_self] at found
        cases found
        exact ⟨cfg.world, holds.refl j _, holds.programs held meets⟩
      · rw [Function.update_of_ne here] at found
        exact sound j task found
  | act i choice =>
      obtain ⟨command, start, journal, op, next, reply, w', found, exec, rfl⟩ := next_act ran
      obtain ⟨w₀, relied, safe⟩ := sound i _ found
      obtain ⟨kept, owed, rest⟩ := safe cfg.world relied held choice w' reply
        (meets command start journal op next found) exec
      refine ⟨kept, fun j task held' => ?_⟩
      dsimp only at held' ⊢
      by_cases here : j = i
      · subst here
        rw [Function.update_self] at held'
        cases held'
        exact ⟨w', holds.refl j _, rest⟩
      · rw [Function.update_of_ne here] at held'
        exact others (holds.others held kept exec owed) j here held'
  | edit i choice =>
      obtain ⟨_, w', edited, rfl⟩ := next_edit ran
      obtain ⟨kept, moved⟩ := holds.edits held edited
      refine ⟨kept, fun j task found => ?_⟩
      dsimp only at found ⊢
      by_cases here : j = i
      · subst here
        rw [Function.update_self] at found
        cases found
      · rw [Function.update_of_ne here] at found
        exact others moved j here found

/-- The run rule: the invariant holds of every reachable world and every task is sound there. -/
theorem Holds.reachable (holds : D.Holds) {init : W → Prop} (start : ∀ w, init w → D.inv w)
    {cfg : Config ι Cmd Out W Op Reply} (reached : S.Reachable cond init cfg) :
    D.inv cfg.world ∧ ∀ i task, cfg.task i = some task → D.Sound cfg.world i task := by
  induction reached with
  | init first => exact ⟨start _ first, nofun⟩
  | next _ meets ran ih => exact holds.step ih.1 ih.2 meets ran

/-- Every step of a run keeps the guarantee. -/
theorem Holds.guarantee (holds : D.Holds) {init : W → Prop} (start : ∀ w, init w → D.inv w)
    {cfg : Config ι Cmd Out W Op Reply} (reached : S.Reachable cond init cfg)
    {i : ι} {command : Cmd} {begun : W} {journal : List (Entry Op Reply)} {op : Op}
    {next : Reply op → Prog Op Reply Out} {choice : Choice} {w' : W} {reply : Reply op}
    (found : cfg.task i = some ⟨command, begun, journal, .call op next⟩)
    (allowed : cond.acts i command begun journal op choice cfg.world)
    (ran : S.exec i op choice cfg.world = some (w', reply)) :
    D.inv w' ∧ D.guar i command begun journal op cfg.world reply w' := by
  obtain ⟨held, sound⟩ := holds.reachable start reached
  obtain ⟨w₀, relied, safe⟩ := sound i _ found
  obtain ⟨kept, owed, _⟩ := safe cfg.world relied held choice w' reply allowed ran
  exact ⟨kept, owed⟩

/-- A fact about a command's past that others keep and its own steps extend. -/
theorem Holds.tracked (holds : D.Holds) {init : W → Prop} (start : ∀ w, init w → D.inv w)
    (track : ι → Cmd → W → List (Entry Op Reply) → W → Prop)
    (begins : ∀ i command w, track i command w [] w)
    (kept : ∀ {i command begun journal w w'}, D.rely i w w' → track i command begun journal w →
      track i command begun journal w')
    (steps : ∀ {i command begun journal op w reply w'},
      D.guar i command begun journal op w reply w' → track i command begun journal w →
      track i command begun (journal ++ [⟨op, reply⟩]) w')
    {cfg : Config ι Cmd Out W Op Reply} (reached : S.Reachable cond init cfg) (i : ι)
    (task : Task Cmd Out W Op Reply) (found : cfg.task i = some task) :
    track i task.command task.start task.journal cfg.world := by
  induction reached generalizing i task with
  | init first => cases found
  | @next cfg cfg' event before meets ran ih =>
      obtain ⟨held, sound⟩ := holds.reachable start before
      cases event with
      | begin k command =>
          cases ran
          dsimp only at found ⊢
          by_cases here : i = k
          · subst here
            rw [Function.update_self] at found
            cases found
            exact begins i command cfg.world
          · rw [Function.update_of_ne here] at found
            exact ih i task found
      | act k choice =>
          obtain ⟨command, begun, journal, op, next, reply, w', waiting, exec, rfl⟩ := next_act ran
          obtain ⟨kept', owed⟩ := holds.guarantee start before waiting
            (meets command begun journal op next waiting) exec
          dsimp only at found ⊢
          by_cases here : i = k
          · subst here
            rw [Function.update_self] at found
            cases found
            exact steps owed (ih i _ waiting)
          · rw [Function.update_of_ne here] at found
            exact kept (holds.others held kept' exec owed i here) (ih i task found)
      | edit k choice =>
          obtain ⟨_, w', edited, rfl⟩ := next_edit ran
          obtain ⟨_, moved⟩ := holds.edits held edited
          dsimp only at found ⊢
          by_cases here : i = k
          · subst here
            rw [Function.update_self] at found
            cases found
          · rw [Function.update_of_ne here] at found
            exact kept (moved i here) (ih i task found)

end Discipline
end HeliumSync.Interaction
