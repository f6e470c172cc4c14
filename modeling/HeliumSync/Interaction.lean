import Mathlib.Logic.Function.Basic
import Mathlib.Tactic.SplitIfs

/-! Programs that act on a shared world one operation at a time. `Ensures` is the rule of a
program under interference, `Discipline` the rule of a whole system of programs. -/
namespace HeliumSync.Interaction

variable {Op : Type} {Reply : Op → Type} {α β ε ε' W Choice : Type}

inductive Prog (Op : Type) (Reply : Op → Type) (α : Type) where
  | done (value : α)
  | call (op : Op) (next : Reply op → Prog Op Reply α)

namespace Prog

def bind : Prog Op Reply α → (α → Prog Op Reply β) → Prog Op Reply β
  | .done a, f => f a
  | .call op next, f => .call op fun reply => (next reply).bind f

instance : Monad (Prog Op Reply) where
  pure := .done
  bind := .bind

def perform (op : Op) : Prog Op Reply (Reply op) := .call op .done

end Prog

/-- A program that may stop with an error. -/
abbrev Action (Op : Type) (Reply : Op → Type) (ε α : Type) := ExceptT ε (Prog Op Reply) α

namespace Action

/-- A program whose own reply is a result or an error. -/
def ask (program : Prog Op Reply (Except ε α)) : Action Op Reply ε α := .mk program

def observe (program : Prog Op Reply α) : Action Op Reply ε α := .mk (program.bind (.done ∘ .ok))

def ofExcept (x : Except ε α) : Action Op Reply ε α := .mk (.done x)

def mapErr (f : ε → ε') (x : Action Op Reply ε α) : Action Op Reply ε' α :=
  .mk (x.run.bind fun
    | .ok a => .done (.ok a)
    | .error e => .done (.error (f e)))

/-- The outcome of a program as a value. -/
def outcome (x : Action Op Reply ε α) : Action Op Reply ε' (Except ε α) :=
  .mk (x.run.bind (.done ∘ .ok))

/-- A program that is run for its effect, whatever its outcome. -/
def ignore (x : Action Op Reply ε α) : Action Op Reply ε' Unit :=
  .mk (x.run.bind fun _ => .done (.ok ()))

end Action

/-- One answered operation. -/
structure Entry (Op : Type) (Reply : Op → Type) where
  op : Op
  reply : Reply op

/-- What a program may rely on between its steps and what it owes at each of them. -/
structure Contract (Op : Type) (Reply : Op → Type) (W Choice : Type) where
  exec : (op : Op) → Choice → W → Option (W × Reply op)
  inv : W → Prop
  rely : W → W → Prop
  allow : List (Entry Op Reply) → Op → Choice → W → Prop
  guar : List (Entry Op Reply) → (op : Op) → W → Reply op → W → Prop

/-- One step from a world that others may have moved on. -/
def Contract.Step (C : Contract Op Reply W Choice) (journal : List (Entry Op Reply)) (op : Op)
    (w : W) (after : W → Reply op → W → Prop) : Prop :=
  ∀ w₁, C.rely w w₁ → C.inv w₁ → ∀ choice w₂ reply, C.allow journal op choice w₁ →
    C.exec op choice w₁ = some (w₂, reply) →
    C.inv w₂ ∧ C.guar journal op w₁ reply w₂ ∧ after w₁ reply w₂

theorem Contract.Step.mono {C : Contract Op Reply W Choice} {journal : List (Entry Op Reply)}
    {w : W} {op : Op} {after after' : W → Reply op → W → Prop} (h : C.Step journal op w after)
    (imp : ∀ w₁ reply w₂, after w₁ reply w₂ → after' w₁ reply w₂) :
    C.Step journal op w after' := fun w₁ moved held choice w₂ reply allowed ran =>
  (h w₁ moved held choice w₂ reply allowed ran).imp_right fun rest =>
    rest.imp_right (imp w₁ reply w₂)

/-- Every step of the program keeps the contract and every end meets `post`. -/
def Prog.Ensures (C : Contract Op Reply W Choice) (post : α → List (Entry Op Reply) → W → Prop) :
    Prog Op Reply α → List (Entry Op Reply) → W → Prop
  | .done a, journal, w => post a journal w
  | .call op next, journal, w =>
      C.Step journal op w fun _ reply w₂ => (next reply).Ensures C post (journal ++ [⟨op, reply⟩]) w₂

namespace Prog
variable {C : Contract Op Reply W Choice} {journal : List (Entry Op Reply)} {w : W}

theorem Ensures.mono {post post' : α → List (Entry Op Reply) → W → Prop} {p : Prog Op Reply α}
    (h : p.Ensures C post journal w) (imp : ∀ a journal w, post a journal w → post' a journal w) :
    p.Ensures C post' journal w := by
  induction p generalizing journal w with
  | done a => exact imp a journal w h
  | call op next ih => exact Contract.Step.mono h fun _ reply _ rest => ih reply rest

/-- Sequencing: the second program starts where the first ends. -/
theorem ensures_bind {post : β → List (Entry Op Reply) → W → Prop} {p : Prog Op Reply α}
    {f : α → Prog Op Reply β} :
    (p.bind f).Ensures C post journal w ↔
      p.Ensures C (fun a journal w => (f a).Ensures C post journal w) journal w := by
  induction p generalizing journal w with
  | done a => exact Iff.rfl
  | call op next ih =>
      exact ⟨fun h => Contract.Step.mono h fun _ reply _ => (ih reply).mp,
        fun h => Contract.Step.mono h fun _ reply _ => (ih reply).mpr⟩

end Prog

/-- `Ensures` for a program that may stop with an error. -/
def Action.Attempts (C : Contract Op Reply W Choice) (ok : α → List (Entry Op Reply) → W → Prop)
    (error : ε → List (Entry Op Reply) → W → Prop) (x : Action Op Reply ε α)
    (journal : List (Entry Op Reply)) (w : W) : Prop :=
  Prog.Ensures C (fun
    | .ok a => ok a
    | .error e => error e) x.run journal w

theorem Prog.ensures_of_attempts {C : Contract Op Reply W Choice} {x : Action Op Reply ε α}
    {q : Except ε α → List (Entry Op Reply) → W → Prop} {journal : List (Entry Op Reply)} {w : W}
    (h : x.Attempts C (fun a => q (.ok a)) (fun e => q (.error e)) journal w) :
    x.run.Ensures C q journal w :=
  Ensures.mono h fun r _ _ => by cases r <;> exact id

namespace Action
variable {C : Contract Op Reply W Choice} {journal : List (Entry Op Reply)} {w : W}
  {ok : α → List (Entry Op Reply) → W → Prop} {error : ε → List (Entry Op Reply) → W → Prop}

theorem attempts_pure {a : α} :
    (pure a : Action Op Reply ε α).Attempts C ok error journal w ↔ ok a journal w := Iff.rfl

theorem attempts_throw {e : ε} :
    (throw e : Action Op Reply ε α).Attempts C ok error journal w ↔ error e journal w := Iff.rfl

theorem attempts_ofExcept {x : Except ε α} :
    (ofExcept x : Action Op Reply ε α).Attempts C ok error journal w ↔
      (∀ a, x = .ok a → ok a journal w) ∧ ∀ e, x = .error e → error e journal w := by
  cases x with
  | ok a => exact ⟨fun h => ⟨fun _ same => by cases same; exact h, nofun⟩, fun h => h.1 a rfl⟩
  | error e => exact ⟨fun h => ⟨nofun, fun _ same => by cases same; exact h⟩, fun h => h.2 e rfl⟩

theorem Attempts.mono {ok' : α → List (Entry Op Reply) → W → Prop}
    {error' : ε → List (Entry Op Reply) → W → Prop} {x : Action Op Reply ε α}
    (h : x.Attempts C ok error journal w) (good : ∀ a journal w, ok a journal w → ok' a journal w)
    (bad : ∀ e journal w, error e journal w → error' e journal w) :
    x.Attempts C ok' error' journal w :=
  Prog.Ensures.mono h fun r journal w => by
    cases r with
    | ok a => exact good a journal w
    | error e => exact bad e journal w

theorem attempts_bind {ok : β → List (Entry Op Reply) → W → Prop} {x : Action Op Reply ε α}
    {f : α → Action Op Reply ε β} :
    (x >>= f).Attempts C ok error journal w ↔
      x.Attempts C (fun a journal w => (f a).Attempts C ok error journal w) error journal w := by
  refine Prog.ensures_bind.trans ⟨fun h => Prog.Ensures.mono h ?_, fun h => Prog.Ensures.mono h ?_⟩ <;>
    · rintro (_ | _) _ _ h <;> exact h

theorem attempts_mapErr {error' : ε' → List (Entry Op Reply) → W → Prop} {f : ε → ε'}
    {x : Action Op Reply ε α} :
    (mapErr f x).Attempts C ok error' journal w ↔
      x.Attempts C ok (fun e => error' (f e)) journal w := by
  refine Prog.ensures_bind.trans ⟨fun h => Prog.Ensures.mono h ?_, fun h => Prog.Ensures.mono h ?_⟩ <;>
    · rintro (_ | _) _ _ h <;> exact h

theorem attempts_outcome {error' : ε' → List (Entry Op Reply) → W → Prop}
    {ok : Except ε α → List (Entry Op Reply) → W → Prop} {x : Action Op Reply ε α} :
    (outcome x).Attempts C ok error' journal w ↔
      x.Attempts C (fun a => ok (.ok a)) (fun e => ok (.error e)) journal w := by
  refine Prog.ensures_bind.trans ⟨fun h => Prog.Ensures.mono h ?_, fun h => Prog.Ensures.mono h ?_⟩ <;>
    · rintro (_ | _) _ _ h <;> exact h

theorem attempts_ignore {error' : ε' → List (Entry Op Reply) → W → Prop}
    {ok : Unit → List (Entry Op Reply) → W → Prop} {x : Action Op Reply ε α} :
    (ignore x).Attempts C ok error' journal w ↔
      x.Attempts C (fun _ => ok ()) (fun _ => ok ()) journal w := by
  refine Prog.ensures_bind.trans ⟨fun h => Prog.Ensures.mono h ?_, fun h => Prog.Ensures.mono h ?_⟩ <;>
    · rintro (_ | _) _ _ h <;> exact h

end Action

/-- The program may come to this operation. -/
inductive Prog.Asks (op : Op) : Prog Op Reply α → Prop
  | here {next} : Asks op (.call op next)
  | later {first next} (reply : Reply first) : Asks op (next reply) → Asks op (.call first next)

/-- Every operation that the program may come to is of this kind. -/
def Prog.Issues (good : Op → Prop) : Prog Op Reply α → Prop
  | .done _ => True
  | .call op next => good op ∧ ∀ reply, (next reply).Issues good

/-- What a program comes to when its replies come from elsewhere. -/
def Prog.against (answers : (op : Op) → Reply op) : Prog Op Reply α → α
  | .done a => a
  | .call op next => (next (answers op)).against answers

section
variable {good : Op → Prop}

theorem Prog.Issues.asked {p : Prog Op Reply α} (issues : p.Issues good) {op : Op}
    (asked : p.Asks op) : good op := by
  induction asked with
  | here => exact issues.1
  | later reply _ ih => exact ih (issues.2 reply)

theorem Prog.Asks.bind {op : Op} {p : Prog Op Reply α} {f : α → Prog Op Reply β}
    (asks : p.Asks op) : (p.bind f).Asks op := by
  induction asks with
  | here => exact .here
  | later reply _ ih => exact .later reply ih

theorem Prog.Issues.bind {p : Prog Op Reply α} {f : α → Prog Op Reply β} (issues : p.Issues good)
    (rest : ∀ a, (f a).Issues good) : (p.bind f).Issues good := by
  induction p with
  | done a => exact rest a
  | call op next ih => exact ⟨issues.1, fun reply => ih reply (issues.2 reply)⟩

namespace Action

theorem issues_pure {a : α} : (pure a : Action Op Reply ε α).run.Issues good := trivial

theorem issues_throw {e : ε} : (throw e : Action Op Reply ε α).run.Issues good := trivial

theorem issues_ofExcept {x : Except ε α} :
    (ofExcept x : Action Op Reply ε α).run.Issues good := trivial

theorem issues_bind {x : Action Op Reply ε α} {f : α → Action Op Reply ε β}
    (issues : x.run.Issues good) (rest : ∀ a, (f a).run.Issues good) :
    (x >>= f).run.Issues good := by
  refine Prog.Issues.bind issues ?_
  rintro (e | a)
  · exact trivial
  · exact rest a

theorem issues_bind_ofExcept {x : Except ε α} {f : α → Action Op Reply ε β}
    (rest : ∀ a, x = .ok a → (f a).run.Issues good) : (ofExcept x >>= f).run.Issues good := by
  cases x with
  | ok a => exact rest a rfl
  | error e => exact trivial

theorem asks_bind {op : Op} {x : Action Op Reply ε α} {f : α → Action Op Reply ε β}
    (asks : x.run.Asks op) : (x >>= f).run.Asks op := Prog.Asks.bind asks

theorem asks_outcome {op : Op} {x : Action Op Reply ε α} (asks : x.run.Asks op) :
    (outcome x : Action Op Reply ε' (Except ε α)).run.Asks op := Prog.Asks.bind asks

theorem asks_bind_ofExcept {op : Op} {x : Except ε α} {a : α} {f : α → Action Op Reply ε β}
    (found : x = .ok a) (asks : (f a).run.Asks op) : (ofExcept x >>= f).run.Asks op := by
  subst found
  exact asks

theorem issues_mapErr {f : ε → ε'} {x : Action Op Reply ε α} (issues : x.run.Issues good) :
    (mapErr f x).run.Issues good := by
  refine Prog.Issues.bind issues ?_
  rintro (e | a) <;> exact trivial

theorem issues_ignore {x : Action Op Reply ε α} (issues : x.run.Issues good) :
    (ignore x : Action Op Reply ε' Unit).run.Issues good := Prog.Issues.bind issues fun _ => trivial

theorem issues_outcome {x : Action Op Reply ε α} (issues : x.run.Issues good) :
    (outcome x : Action Op Reply ε' (Except ε α)).run.Issues good :=
  Prog.Issues.bind issues fun _ => trivial

end Action
end

theorem Prog.against_bind {answers : (op : Op) → Reply op} (p : Prog Op Reply α)
    (f : α → Prog Op Reply β) :
    (p.bind f).against answers = (f (p.against answers)).against answers := by
  induction p with
  | done a => rfl
  | call op next ih => exact ih (answers op)

theorem Action.against_bind {answers : (op : Op) → Reply op} (x : Action Op Reply ε α)
    (f : α → Action Op Reply ε β) :
    (x >>= f).run.against answers =
      x.run.against answers >>= fun a => (f a).run.against answers := by
  refine (Prog.against_bind x.run _).trans ?_
  cases x.run.against answers <;> rfl

theorem Action.against_outcome {answers : (op : Op) → Reply op} (x : Action Op Reply ε α) :
    (outcome x : Action Op Reply ε' (Except ε α)).run.against answers =
      .ok (x.run.against answers) :=
  Prog.against_bind x.run _

/-- A program all of whose operations keep what holds now keeps it to its end. -/
theorem Prog.ensures_of_issues {C : Contract Op Reply W Choice} {good : Op → Prop} (now : W → Prop)
    (rely : ∀ {a b}, now a → C.rely a b → now b)
    (steps : ∀ {journal op choice w w' reply}, good op → now w → C.inv w →
      C.allow journal op choice w → C.exec op choice w = some (w', reply) →
      C.inv w' ∧ C.guar journal op w reply w' ∧ now w')
    {p : Prog Op Reply α} (issues : p.Issues good) {journal : List (Entry Op Reply)} {w : W}
    (before : now w) : p.Ensures C (fun _ _ w' => now w') journal w := by
  induction p generalizing journal w with
  | done a => exact before
  | call op next ih =>
      intro w₁ moved held choice w₂ reply allowed ran
      obtain ⟨kept, owed, after⟩ := steps issues.1 (rely before moved) held allowed ran
      exact ⟨kept, owed, ih reply (issues.2 reply) after⟩

/-- The journal of a program has only operations that it may come to. -/
theorem Prog.Issues.ensures {C : Contract Op Reply W Choice} {good : Op → Prop}
    {post : α → List (Entry Op Reply) → W → Prop} {p : Prog Op Reply α} (issues : p.Issues good)
    {journal : List (Entry Op Reply)} {w : W} (h : p.Ensures C post journal w) :
    p.Ensures C (fun a later w => post a later w ∧
      ∃ rest, later = journal ++ rest ∧ ∀ entry ∈ rest, good entry.op) journal w := by
  induction p generalizing journal w with
  | done a => exact ⟨h, [], (List.append_nil journal).symm, nofun⟩
  | call op next ih =>
      refine Contract.Step.mono h fun _ reply _ rest => ?_
      refine (ih reply (issues.2 reply) rest).mono fun a _ _ ⟨met, rest, same, each⟩ => ⟨met, ?_⟩
      refine ⟨⟨op, reply⟩ :: rest, by simp [same], fun entry member => ?_⟩
      rcases List.mem_cons.mp member with rfl | member
      · exact issues.1
      · exact each entry member

theorem Action.issues_attempts {C : Contract Op Reply W Choice} {good : Op → Prop}
    {x : Action Op Reply ε α} (issues : x.run.Issues good) {journal : List (Entry Op Reply)} {w : W}
    {ok : α → List (Entry Op Reply) → W → Prop} {error : ε → List (Entry Op Reply) → W → Prop}
    (h : x.Attempts C ok error journal w) :
    x.Attempts C
      (fun a later w => ok a later w ∧
        ∃ rest, later = journal ++ rest ∧ ∀ entry ∈ rest, good entry.op)
      (fun e later w => error e later w ∧
        ∃ rest, later = journal ++ rest ∧ ∀ entry ∈ rest, good entry.op) journal w :=
  (Prog.Issues.ensures issues h).mono fun r _ _ met => by
    cases r <;> exact met

theorem Action.attempts_of_issues {C : Contract Op Reply W Choice} {good : Op → Prop}
    (now : W → Prop) (rely : ∀ {a b}, now a → C.rely a b → now b)
    (steps : ∀ {journal op choice w w' reply}, good op → now w → C.inv w →
      C.allow journal op choice w → C.exec op choice w = some (w', reply) →
      C.inv w' ∧ C.guar journal op w reply w' ∧ now w')
    {x : Action Op Reply ε α} (issues : x.run.Issues good) {journal : List (Entry Op Reply)} {w : W}
    (before : now w) :
    x.Attempts C (fun _ _ w' => now w') (fun _ _ w' => now w') journal w :=
  (Prog.ensures_of_issues now rely steps issues before).mono fun r _ _ kept => by
    cases r <;> exact kept

/-- A run of one program with nobody else about. -/
inductive Prog.Runs (exec : (op : Op) → Choice → W → Option (W × Reply op))
    (allow : Op → Choice → W → Prop) : Prog Op Reply α → W → α → W → Prop
  | done {a w} : Runs exec allow (.done a) w a w
  | call {op next choice w w₁ reply a w₂} : allow op choice w → exec op choice w = some (w₁, reply) →
      Runs exec allow (next reply) w₁ a w₂ → Runs exec allow (.call op next) w a w₂

/-- What a run comes to when all its replies are these. -/
theorem Prog.Runs.against {exec : (op : Op) → Choice → W → Option (W × Reply op)}
    {allow : Op → Choice → W → Prop} {answers : (op : Op) → Reply op} {I : W → Prop}
    (answered : ∀ {op choice w w' reply}, I w → allow op choice w →
      exec op choice w = some (w', reply) → reply = answers op ∧ I w')
    {p : Prog Op Reply α} {w w' : W} {a : α} (run : p.Runs exec allow w a w') (held : I w) :
    p.against answers = a := by
  induction run with
  | done => rfl
  | call allowed ran _ ih =>
      obtain ⟨rfl, kept⟩ := answered held allowed ran
      exact ih kept

theorem Prog.Runs.keeps {exec : (op : Op) → Choice → W → Option (W × Reply op)}
    {allow : Op → Choice → W → Prop} {I : W → Prop}
    (kept : ∀ {op choice w w' reply}, exec op choice w = some (w', reply) → I w → I w')
    {p : Prog Op Reply α} {w w' : W} {a : α} (run : p.Runs exec allow w a w') (held : I w) :
    I w' := by
  induction run with
  | done => exact held
  | call _ ran _ ih => exact ih (kept ran held)

theorem Prog.Runs.mono {exec : (op : Op) → Choice → W → Option (W × Reply op)}
    {allow allow' : Op → Choice → W → Prop} {p : Prog Op Reply α} {w w' : W} {a : α}
    (run : p.Runs exec allow w a w') (imp : ∀ op choice w, allow op choice w → allow' op choice w) :
    p.Runs exec allow' w a w' := by
  induction run with
  | done => exact .done
  | call allowed ran _ ih => exact .call (imp _ _ _ allowed) ran ih

theorem Prog.Runs.bind {exec : (op : Op) → Choice → W → Option (W × Reply op)}
    {allow : Op → Choice → W → Prop} {p : Prog Op Reply α} {f : α → Prog Op Reply β}
    {w w₁ w₂ : W} {a : α} {b : β} (first : p.Runs exec allow w a w₁)
    (rest : (f a).Runs exec allow w₁ b w₂) : (p.bind f).Runs exec allow w b w₂ := by
  induction first with
  | done => exact rest
  | call allowed ran _ ih => exact .call allowed ran (ih rest)

namespace Action
variable {exec : (op : Op) → Choice → W → Option (W × Reply op)} {allow : Op → Choice → W → Prop}
  {w w₁ w₂ : W}

theorem runs_ofExcept {x r : Except ε α} (same : x = r) :
    (ofExcept x : Action Op Reply ε α).run.Runs exec allow w r w := by
  cases same
  exact .done

theorem runs_bind {x : Action Op Reply ε α} {f : α → Action Op Reply ε β} {a : α} {r : Except ε β}
    (first : x.run.Runs exec allow w (.ok a) w₁) (rest : (f a).run.Runs exec allow w₁ r w₂) :
    (x >>= f).run.Runs exec allow w r w₂ :=
  first.bind rest

theorem runs_bind_error {x : Action Op Reply ε α} {f : α → Action Op Reply ε β} {e : ε}
    (first : x.run.Runs exec allow w (.error e) w₁) :
    (x >>= f).run.Runs exec allow w (.error e) w₁ :=
  first.bind .done

theorem runs_mapErr_ok {x : Action Op Reply ε α} {f : ε → ε'} {a : α}
    (run : x.run.Runs exec allow w (.ok a) w₁) : (x.mapErr f).run.Runs exec allow w (.ok a) w₁ :=
  run.bind .done

theorem runs_mapErr_error {x : Action Op Reply ε α} {f : ε → ε'} {e : ε}
    (run : x.run.Runs exec allow w (.error e) w₁) :
    (x.mapErr f).run.Runs exec allow w (.error (f e)) w₁ :=
  run.bind .done

end Action

/-- No end of the program is of this kind. -/
def Prog.Never (last : α → Prop) : Prog Op Reply α → Prop
  | .done a => ¬ last a
  | .call _ next => ∀ reply, (next reply).Never last

/-- A run that ends in this way has had good entries only. -/
def Prog.Only (good : Entry Op Reply → Prop) (last : α → Prop) : Prog Op Reply α → Prop
  | .done _ => True
  | .call op next => ∀ reply,
      (good ⟨op, reply⟩ ∧ (next reply).Only good last) ∨ (next reply).Never last

/-- A run that has had good entries only ends in this way. -/
def Prog.Ends (good : Entry Op Reply → Prop) (last : α → Prop) : Prog Op Reply α → Prop
  | .done a => last a
  | .call op next => ∀ reply, good ⟨op, reply⟩ → (next reply).Ends good last

section
variable {good : Entry Op Reply → Prop} {last : α → Prop}

theorem Prog.Ends.bind {last' : β → Prop} {p : Prog Op Reply β} {f : β → Prog Op Reply α}
    (ends : p.Ends good last') (rest : ∀ b, last' b → (f b).Ends good last) :
    (p.bind f).Ends good last := by
  induction p with
  | done b => exact rest b ends
  | call op next ih => exact fun reply fine => ih reply (ends reply fine)

theorem Prog.Never.bind {p : Prog Op Reply β} {f : β → Prog Op Reply α}
    (never : ∀ b, (f b).Never last) : (p.bind f).Never last := by
  induction p with
  | done b => exact never b
  | call op next ih => exact fun reply => ih reply

theorem Prog.Never.bind_left {last' : β → Prop} {p : Prog Op Reply β} {f : β → Prog Op Reply α}
    (never : p.Never last') (rest : ∀ b, ¬ last' b → (f b).Never last) :
    (p.bind f).Never last := by
  induction p with
  | done b => exact rest b never
  | call op next ih => exact fun reply => ih reply (never reply)

theorem Prog.Never.only {p : Prog Op Reply α} (never : p.Never last) : p.Only good last := by
  cases p with
  | done a => exact trivial
  | call op next => exact fun reply => .inr (never reply)

/-- Sequencing: nothing ends well after an end of another kind. -/
theorem Prog.Only.bind {last' : β → Prop} {p : Prog Op Reply β} {f : β → Prog Op Reply α}
    (only : p.Only good last') (rest : ∀ b, last' b → (f b).Only good last)
    (otherwise : ∀ b, ¬ last' b → (f b).Never last) : (p.bind f).Only good last := by
  induction p with
  | done b =>
      by_cases ends : last' b
      · exact rest b ends
      · exact (otherwise b ends).only
  | call op next ih =>
      intro reply
      rcases only reply with ⟨fine, later⟩ | never
      · exact .inl ⟨fine, ih reply later⟩
      · exact .inr (never.bind_left otherwise)

end

namespace Action
variable {good : Entry Op Reply → Prop}

/-- A run that succeeds has had good entries only. -/
def Clean (good : Entry Op Reply → Prop) (x : Action Op Reply ε α) : Prop :=
  x.run.Only good fun r => ∃ a, r = .ok a

def Fails (x : Action Op Reply ε α) : Prop := x.run.Never fun r => ∃ a, r = .ok a

theorem clean_pure {a : α} : (pure a : Action Op Reply ε α).Clean good := trivial

theorem clean_throw {e : ε} : (throw e : Action Op Reply ε α).Clean good := trivial

theorem clean_ofExcept {x : Except ε α} : (ofExcept x : Action Op Reply ε α).Clean good := trivial

theorem fails_throw {e : ε} : (throw e : Action Op Reply ε α).Fails :=
  fun ⟨_, same⟩ => by cases same

theorem fails_bind {x : Action Op Reply ε β} {f : β → Action Op Reply ε α}
    (fails : ∀ b, (f b).Fails) : (x >>= f).Fails := by
  refine Prog.Never.bind ?_
  rintro (e | b)
  · exact fails_throw
  · exact fails b

/-- What follows a program that fails is not run. -/
theorem issues_bind_fails {good : Op → Prop} {x : Action Op Reply ε β}
    {f : β → Action Op Reply ε α} (issues : x.run.Issues good) (fails : x.Fails) :
    (x >>= f).run.Issues good := by
  have joined : ∀ p : Prog Op Reply (Except ε β), p.Issues good →
      (p.Never fun r => ∃ a, r = .ok a) → ((.mk p : Action Op Reply ε β) >>= f).run.Issues good := by
    intro p
    induction p with
    | done r =>
        intro _ never
        cases r with
        | ok b => exact absurd ⟨b, rfl⟩ never
        | error e => exact trivial
    | call op next ih =>
        exact fun issues never => ⟨issues.1, fun reply => ih reply (issues.2 reply) (never reply)⟩
  exact joined x.run issues fails

theorem fails_bind_left {x : Action Op Reply ε β} {f : β → Action Op Reply ε α} (fails : x.Fails) :
    (x >>= f).Fails := by
  refine Prog.Never.bind_left fails ?_
  rintro (e | b) other
  · exact fails_throw
  · exact absurd ⟨b, rfl⟩ other

theorem clean_bind {x : Action Op Reply ε β} {f : β → Action Op Reply ε α} (clean : x.Clean good)
    (rest : ∀ b, (f b).Clean good) : (x >>= f).Clean good := by
  refine Prog.Only.bind clean ?_ ?_
  · rintro _ ⟨b, rfl⟩
    exact rest b
  · rintro (e | b) other
    · exact fails_throw
    · exact absurd ⟨b, rfl⟩ other

/-- A run that has had good entries only succeeds. -/
def Succeeds (good : Entry Op Reply → Prop) (x : Action Op Reply ε α) : Prop :=
  x.run.Ends good fun r => ∃ a, r = .ok a

theorem succeeds_pure {a : α} : (pure a : Action Op Reply ε α).Succeeds good := ⟨a, rfl⟩

theorem succeeds_bind {x : Action Op Reply ε β} {f : β → Action Op Reply ε α}
    (first : x.Succeeds good) (rest : ∀ b, (f b).Succeeds good) : (x >>= f).Succeeds good := by
  refine Prog.Ends.bind first ?_
  rintro _ ⟨b, rfl⟩
  exact rest b

theorem succeeds_mapErr {f : ε → ε'} {x : Action Op Reply ε α} (inner : x.Succeeds good) :
    (mapErr f x).Succeeds good := by
  refine Prog.Ends.bind inner ?_
  rintro _ ⟨b, rfl⟩
  exact ⟨b, rfl⟩

theorem clean_mapErr {f : ε → ε'} {x : Action Op Reply ε α} (clean : x.Clean good) :
    (mapErr f x).Clean good := by
  refine Prog.Only.bind clean ?_ ?_
  · rintro _ ⟨b, rfl⟩
    exact trivial
  · rintro (e | b) other
    · exact fails_throw
    · exact absurd ⟨b, rfl⟩ other

theorem run_outcome_bind (x : Action Op Reply ε β) (f : Except ε β → Action Op Reply ε' α) :
    (outcome x >>= f).run = x.run.bind fun r => (f r).run := by
  have joined : ∀ p : Prog Op Reply (Except ε β), ((outcome (.mk p) : Action Op Reply ε' _) >>= f).run =
      p.bind fun r => (f r).run := by
    intro p
    induction p with
    | done r => rfl
    | call op next ih => exact congrArg (Prog.call op) (funext ih)
  exact joined x.run

theorem succeeds_outcome_bind {x : Action Op Reply ε β} {f : Except ε β → Action Op Reply ε' α}
    (inner : x.Succeeds good) (rest : ∀ b, (f (.ok b)).Succeeds good) :
    (outcome x >>= f).Succeeds good := by
  rw [Succeeds, run_outcome_bind]
  refine Prog.Ends.bind inner ?_
  rintro _ ⟨b, rfl⟩
  exact rest b

/-- A program that goes on from an outcome must fail after an error. -/
theorem clean_outcome_bind {x : Action Op Reply ε β} {f : Except ε β → Action Op Reply ε' α}
    (clean : x.Clean good) (rest : ∀ b, (f (.ok b)).Clean good)
    (otherwise : ∀ e, (f (.error e)).Fails) : (outcome x >>= f).Clean good := by
  rw [Clean, run_outcome_bind]
  refine Prog.Only.bind clean ?_ ?_
  · rintro _ ⟨b, rfl⟩
    exact rest b
  · rintro (e | b) other
    · exact otherwise e
    · exact absurd ⟨b, rfl⟩ other

end Action

/-- The contract of a program that runs alone. -/
def Contract.alone (exec : (op : Op) → Choice → W → Option (W × Reply op))
    (allow : Op → Choice → W → Prop) : Contract Op Reply W Choice where
  exec
  inv := fun _ => True
  rely := Eq
  allow := fun _ => allow
  guar := fun _ _ _ _ _ => True

theorem Prog.Runs.post {exec : (op : Op) → Choice → W → Option (W × Reply op)}
    {allow : Op → Choice → W → Prop} {p : Prog Op Reply α} {w w' : W} {a : α}
    {post : α → List (Entry Op Reply) → W → Prop} {journal : List (Entry Op Reply)}
    (run : p.Runs exec allow w a w') (h : p.Ensures (.alone exec allow) post journal w) :
    ∃ journal, post a journal w' := by
  induction run generalizing journal with
  | done => exact ⟨journal, h⟩
  | call allowed ran _ ih => exact ih (h _ rfl trivial _ _ _ allowed ran).2.2

/-- A run with the record of its operations. -/
inductive Prog.Logs (exec : (op : Op) → Choice → W → Option (W × Reply op))
    (allow : Op → Choice → W → Prop) :
    Prog Op Reply α → W → List (Entry Op Reply) → α → W → Prop
  | done {a w} : Logs exec allow (.done a) w [] a w
  | call {op next choice w w₁ reply journal a w₂} : allow op choice w →
      exec op choice w = some (w₁, reply) → Logs exec allow (next reply) w₁ journal a w₂ →
      Logs exec allow (.call op next) w (⟨op, reply⟩ :: journal) a w₂

theorem Prog.Logs.post {exec : (op : Op) → Choice → W → Option (W × Reply op)}
    {allow : Op → Choice → W → Prop} {p : Prog Op Reply α} {w w' : W} {a : α}
    {post : α → List (Entry Op Reply) → W → Prop} {before journal : List (Entry Op Reply)}
    (run : p.Logs exec allow w journal a w') (h : p.Ensures (.alone exec allow) post before w) :
    post a (before ++ journal) w' := by
  induction run generalizing before with
  | done =>
      rw [List.append_nil]
      exact h
  | call allowed ran _ ih =>
      have rest := ih (h _ rfl trivial _ _ _ allowed ran).2.2
      rwa [List.append_assoc] at rest

theorem Prog.Never.logs {exec : (op : Op) → Choice → W → Option (W × Reply op)}
    {allow : Op → Choice → W → Prop} {last : α → Prop} {p : Prog Op Reply α} (never : p.Never last)
    {w w' : W} {journal : List (Entry Op Reply)} {a : α} (run : p.Logs exec allow w journal a w') :
    ¬ last a := by
  induction run with
  | done => exact never
  | call _ _ _ ih => exact ih (never _)

theorem Prog.Only.logs {exec : (op : Op) → Choice → W → Option (W × Reply op)}
    {allow : Op → Choice → W → Prop} {good : Entry Op Reply → Prop} {last : α → Prop}
    {p : Prog Op Reply α} (only : p.Only good last) {w w' : W} {journal : List (Entry Op Reply)}
    {a : α} (run : p.Logs exec allow w journal a w') (ends : last a) :
    ∀ entry ∈ journal, good entry := by
  induction run with
  | done => exact nofun
  | call _ _ run ih =>
      rcases only _ with ⟨fine, later⟩ | never
      · intro entry member
        rcases List.mem_cons.mp member with rfl | member
        · exact fine
        · exact ih later ends entry member
      · exact absurd ends (never.logs run)

theorem Prog.Ends.logs {exec : (op : Op) → Choice → W → Option (W × Reply op)}
    {allow : Op → Choice → W → Prop} {good : Entry Op Reply → Prop} {last : α → Prop}
    {p : Prog Op Reply α} (ends : p.Ends good last) {w w' : W} {journal : List (Entry Op Reply)}
    {a : α} (run : p.Logs exec allow w journal a w') (each : ∀ entry ∈ journal, good entry) :
    last a := by
  induction run with
  | done => exact ends
  | call _ _ _ ih =>
      exact ih (ends _ (each _ List.mem_cons_self)) fun entry member =>
        each entry (List.mem_cons_of_mem _ member)

/-- A run in which each operation is allowed otherwise, too. -/
theorem Prog.Logs.allowed {exec : (op : Op) → Choice → W → Option (W × Reply op)}
    {allow allow' : Op → Choice → W → Prop} {p : Prog Op Reply α} {w w' : W} {a : α}
    {journal : List (Entry Op Reply)} (run : p.Logs exec allow w journal a w')
    (imp : ∀ entry ∈ journal, ∀ choice w, allow entry.op choice w → allow' entry.op choice w) :
    p.Logs exec allow' w journal a w' := by
  induction run with
  | done => exact .done
  | call ok ran _ ih =>
      exact .call (imp _ List.mem_cons_self _ _ ok) ran
        (ih fun entry member => imp entry (List.mem_cons_of_mem _ member))

theorem Prog.Issues.logs {exec : (op : Op) → Choice → W → Option (W × Reply op)}
    {allow : Op → Choice → W → Prop} {good : Op → Prop} {p : Prog Op Reply α}
    (issues : p.Issues good) {w w' : W} {journal : List (Entry Op Reply)} {a : α}
    (run : p.Logs exec allow w journal a w') : ∀ entry ∈ journal, good entry.op := by
  induction run with
  | done => exact nofun
  | call _ _ _ ih =>
      intro entry member
      rcases List.mem_cons.mp member with rfl | member
      · exact issues.1
      · exact ih (issues.2 _) entry member

theorem Prog.Logs.called {exec : (op : Op) → Choice → W → Option (W × Reply op)}
    {allow : Op → Choice → W → Prop} {op : Op} {next : Reply op → Prog Op Reply α} {w w' : W}
    {journal : List (Entry Op Reply)} {a : α}
    (run : (Prog.call op next).Logs exec allow w journal a w') :
    ∃ choice w₁ reply later, allow op choice w ∧ exec op choice w = some (w₁, reply) ∧
      journal = ⟨op, reply⟩ :: later ∧ (next reply).Logs exec allow w₁ later a w' := by
  cases run with
  | call ok ran rest => exact ⟨_, _, _, _, ok, ran, rfl, rest⟩

/-- The run with these choices, of which each is checked. -/
def Prog.record (exec : (op : Op) → Choice → W → Option (W × Reply op))
    (checked : Op → Choice → Bool) :
    List Choice → Prog Op Reply α → W → Option (List (Entry Op Reply) × α × W)
  | [], .done a, w => some ([], a, w)
  | choice :: choices, .call op next, w =>
      if checked op choice then
        (exec op choice w).bind fun (w₁, reply) =>
          ((next reply).record exec checked choices w₁).map fun (journal, a, w₂) =>
            (⟨op, reply⟩ :: journal, a, w₂)
      else none
  | _, _, _ => none

theorem Prog.logs_of_record {exec : (op : Op) → Choice → W → Option (W × Reply op)}
    {checked : Op → Choice → Bool} {allow : Op → Choice → W → Prop}
    (sound : ∀ {op choice w}, checked op choice = true → allow op choice w)
    {choices : List Choice} {p : Prog Op Reply α} {w w' : W} {journal : List (Entry Op Reply)}
    {a : α} (ran : p.record exec checked choices w = some (journal, a, w')) :
    p.Logs exec allow w journal a w' := by
  induction choices generalizing p w journal with
  | nil =>
      cases p with
      | done a =>
          cases ran
          exact .done
      | call op next => cases ran
  | cons choice choices ih =>
      cases p with
      | done a => cases ran
      | call op next =>
          rw [Prog.record] at ran
          split_ifs at ran with ok
          obtain ⟨⟨w₁, reply⟩, step, ran⟩ := Option.bind_eq_some_iff.mp ran
          obtain ⟨⟨later, a', w₂⟩, rest, same⟩ := Option.map_eq_some_iff.mp ran
          cases same
          exact .call (sound ok) step (ih rest)

/-- Where the program stands after some operations, and the world then. -/
def Prog.after (exec : (op : Op) → Choice → W → Option (W × Reply op)) :
    List Choice → Prog Op Reply α → W → Option (Prog Op Reply α × W)
  | [], p, w => some (p, w)
  | choice :: choices, .call op next, w =>
      (exec op choice w).bind fun (w', reply) => (next reply).after exec choices w'
  | _ :: _, .done _, _ => none

/-- A program that has ended after these choices has run. -/
theorem Prog.runs_of_after {exec : (op : Op) → Choice → W → Option (W × Reply op)}
    {allow : Op → Choice → W → Prop} {choices : List Choice}
    (allowed : ∀ {op choice w w' reply}, choice ∈ choices →
      exec op choice w = some (w', reply) → allow op choice w)
    {p : Prog Op Reply α} {w w' : W} {a : α} (ran : p.after exec choices w = some (.done a, w')) :
    p.Runs exec allow w a w' := by
  induction choices generalizing p w with
  | nil =>
      cases ran
      exact .done
  | cons choice choices ih =>
      cases p with
      | done a => cases ran
      | call op next =>
          obtain ⟨⟨w₁, reply⟩, exec, ran⟩ := Option.bind_eq_some_iff.mp ran
          exact .call (allowed List.mem_cons_self exec) exec
            (ih (fun member => allowed (List.mem_cons_of_mem choice member)) ran)

/-- The operations with the choices that are checked. -/
def guarded (exec : (op : Op) → Choice → W → Option (W × Reply op))
    (check : Op → Choice → W → Bool) (op : Op) (choice : Choice) (w : W) : Option (W × Reply op) :=
  if check op choice w then exec op choice w else none

/-- A program that has ended after checked choices has run. -/
theorem Prog.runs_of_guarded {exec : (op : Op) → Choice → W → Option (W × Reply op)}
    {check : Op → Choice → W → Bool} {allow : Op → Choice → W → Prop}
    (sound : ∀ {op choice w}, check op choice w = true → allow op choice w)
    {choices : List Choice} {p : Prog Op Reply α} {w w' : W} {a : α}
    (ran : p.after (guarded exec check) choices w = some (.done a, w')) :
    p.Runs exec allow w a w' := by
  induction choices generalizing p w with
  | nil =>
      cases ran
      exact .done
  | cons choice choices ih =>
      cases p with
      | done a => cases ran
      | call op next =>
          obtain ⟨⟨w₁, reply⟩, step, ran⟩ := Option.bind_eq_some_iff.mp ran
          unfold guarded at step
          split_ifs at step with checked
          exact .call (sound checked) step (ih ran)

theorem Prog.logs_of_guarded {exec : (op : Op) → Choice → W → Option (W × Reply op)}
    {check : Op → Choice → W → Bool} {allow : Op → Choice → W → Prop}
    (sound : ∀ {op choice w}, check op choice w = true → allow op choice w)
    {choices : List Choice} {p : Prog Op Reply α} {w w' : W} {journal : List (Entry Op Reply)}
    {a : α}
    (ran : p.record (guarded exec check) (fun _ _ => true) choices w = some (journal, a, w')) :
    p.Logs exec allow w journal a w' := by
  induction choices generalizing p w journal with
  | nil =>
      cases p with
      | done a =>
          cases ran
          exact .done
      | call op next => cases ran
  | cons choice choices ih =>
      cases p with
      | done a => cases ran
      | call op next =>
          rw [Prog.record, if_pos rfl] at ran
          obtain ⟨⟨w₁, reply⟩, step, ran⟩ := Option.bind_eq_some_iff.mp ran
          obtain ⟨⟨later, a', w₂⟩, rest, same⟩ := Option.map_eq_some_iff.mp ran
          cases same
          unfold guarded at step
          split_ifs at step with checked
          exact .call (sound checked) step (ih rest)

/-- The contract of a program alone that keeps an invariant. -/
def Contract.keeping (exec : (op : Op) → Choice → W → Option (W × Reply op)) (I : W → Prop) :
    Contract Op Reply W Choice where
  exec
  inv := I
  rely := Eq
  allow := fun _ _ _ _ => True
  guar := fun _ _ _ _ _ => True

theorem Prog.Ensures.after_keeps {exec : (op : Op) → Choice → W → Option (W × Reply op)}
    {I : W → Prop} {post : α → List (Entry Op Reply) → W → Prop} {p rest : Prog Op Reply α}
    {journal : List (Entry Op Reply)} {w w' : W} {choices : List Choice}
    (ensures : p.Ensures (.keeping exec I) post journal w) (held : I w)
    (ran : p.after exec choices w = some (rest, w')) : I w' := by
  induction choices generalizing p journal w with
  | nil =>
      cases ran
      exact held
  | cons choice choices ih =>
      cases p with
      | done a => cases ran
      | call op next =>
          obtain ⟨⟨w₁, reply⟩, exec, ran⟩ := Option.bind_eq_some_iff.mp ran
          obtain ⟨kept, _, ensures⟩ := ensures w rfl held choice w₁ reply trivial exec
          exact ih ensures kept ran

/-- Every program has a run when every operation has an allowed outcome. -/
theorem Prog.exists_runs {exec : (op : Op) → Choice → W → Option (W × Reply op)}
    {allow : Op → Choice → W → Prop}
    (total : ∀ op w, ∃ choice w' reply, allow op choice w ∧ exec op choice w = some (w', reply))
    (p : Prog Op Reply α) (w : W) : ∃ a w', p.Runs exec allow w a w' := by
  induction p generalizing w with
  | done a => exact ⟨a, w, .done⟩
  | call op next ih =>
      obtain ⟨choice, w', reply, allowed, ran⟩ := total op w
      obtain ⟨a, last, run⟩ := ih reply w'
      exact ⟨a, last, .call allowed ran run⟩

end HeliumSync.Interaction
