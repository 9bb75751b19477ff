import Mathlib.Data.Int.Notation
import Mathlib.Data.Nat.Notation
import Mathlib.Tactic.Common

/-!
# Programs over a family of commands

A program of `Prog C` issues commands of the family `C` and branches on their answers. What a
command does is left to a `Handler`, so one program can be run on several machines: on the machine
as the code has it, and on an idealised machine that the proofs compute with.

Three groups of results make this usable. The equations of `run` execute a program symbolically
(`run_bind`, `run_perform`, `run_ite`). `Triple` is partial correctness for one machine, with the
rules of sequence, choice, consequence, and conjunction. `Simulates` says that a machine follows an
idealised one command by command; `run_simulates` lifts this to whole programs by induction on the
program, so that a fact computed on the idealised machine holds of the other. The idealised machine
may refuse a command (`none` as its error), and then nothing is promised.
-/

universe u

namespace Commands

/-- A program that issues commands of `C` and returns an `α`. -/
inductive Prog (C : Type → Type u) (α : Type) : Type (max 1 u) where
  /-- Returns a value. -/
  | ret (a : α) : Prog C α
  /-- Issues a command and goes on with its answer. -/
  | cmd {β : Type} (c : C β) (k : β → Prog C α) : Prog C α

namespace Prog

variable {C : Type → Type u} {α β γ : Type}

/-- Sequencing: the second program goes on where the first returns. -/
def andThen : Prog C α → (α → Prog C β) → Prog C β
  | ret a, f => f a
  | cmd c k, f => cmd c fun b => andThen (k b) f

instance : Monad (Prog C) where
  pure := ret
  bind := andThen

/-- The program that issues one command. -/
def perform (c : C α) : Prog C α := cmd c ret

/-- `for i in range(start, start + n)`, with the state `a` that the body updates. -/
def forRange (start : ℤ) : ℕ → α → (ℤ → α → Prog C α) → Prog C α
  | 0, a, _ => ret a
  | n + 1, a, body => andThen (body start a) fun a => forRange (start + 1) n a body

/-- The bind of the monad. -/
theorem bind_eq_andThen (p : Prog C α) (f : α → Prog C β) : p >>= f = p.andThen f := rfl

/-- To return at the end adds nothing. -/
theorem andThen_ret (p : Prog C α) : p.andThen ret = p := by
  induction p with
  | ret a => rfl
  | cmd c k ih => exact congrArg (cmd c) (funext ih)

/-- Programs are put together in any order. -/
theorem andThen_assoc (p : Prog C α) (f : α → Prog C β) (g : β → Prog C γ) :
    (p.andThen f).andThen g = p.andThen fun a => (f a).andThen g := by
  induction p with
  | ret a => rfl
  | cmd c k ih => exact congrArg (cmd c) (funext ih)

instance : LawfulMonad (Prog C) :=
  LawfulMonad.mk' _ (fun p => andThen_ret p) (fun _ _ => rfl) (fun p f g => andThen_assoc p f g)

end Prog

/-- A machine: what each command does to its state, with the answer or an error. -/
def Handler (C : Type → Type u) (ε σ : Type) : Type (max 1 u) :=
  ∀ β : Type, C β → σ → Except ε (β × σ)

variable {C : Type → Type u} {ε σ τ α β : Type}

/-- The run of a program on a machine. An error ends it. -/
def run (h : Handler C ε σ) : Prog C α → σ → Except ε (α × σ)
  | .ret a, s => .ok (a, s)
  | .cmd c k, s =>
    match h _ c s with
    | .error e => .error e
    | .ok (b, s') => run h (k b) s'

/-! ## Equations -/

/-- A return gives its value in the same state. -/
@[simp] theorem run_pure (h : Handler C ε σ) (a : α) (s : σ) :
    run h (pure a) s = .ok (a, s) := rfl

/-- A command runs its handler and, unless that fails, the rest in the state it leaves. -/
theorem run_command (h : Handler C ε σ) (c : C β) (k : β → Prog C α) (s : σ) :
    run h (.cmd c k) s = (h β c s).bind fun r => run h (k r.1) r.2 := by
  rw [run]
  cases h β c s with
  | error e => rfl
  | ok r => rfl

/-- A single command is run by its handler. -/
@[simp] theorem run_perform (h : Handler C ε σ) (c : C α) (s : σ) :
    run h (Prog.perform c) s = h α c s := by
  unfold Prog.perform
  rw [run_command]
  cases h α c s with
  | error e => rfl
  | ok r => rfl

/-- A sequence runs its first part and, unless that fails, the second in the state it leaves. -/
theorem run_bind (h : Handler C ε σ) (p : Prog C α) (f : α → Prog C β) (s : σ) :
    run h (p >>= f) s = (run h p s).bind fun r => run h (f r.1) r.2 := by
  rw [Prog.bind_eq_andThen]
  induction p generalizing s with
  | ret a => rfl
  | cmd c k ih =>
    rw [Prog.andThen, run_command, run_command]
    cases h _ c s with
    | error e => rfl
    | ok r => exact ih r.1 r.2

/-- Where the first part succeeds, the second one is run from there. -/
theorem run_bind_ok {h : Handler C ε σ} {p : Prog C α} {s s' : σ} {a : α}
    (hp : run h p s = .ok (a, s')) (f : α → Prog C β) :
    run h (p >>= f) s = run h (f a) s' := by
  rw [run_bind, hp]; rfl

/-- The result of a program can be mapped. -/
theorem run_map_ok {h : Handler C ε σ} {p : Prog C α} {s s' : σ} {a : α}
    (hp : run h p s = .ok (a, s')) (f : α → β) : run h (f <$> p) s = .ok (f a, s') := by
  rw [map_eq_pure_bind, run_bind_ok hp, run_pure]

/-- Where the first part fails, so does the whole. -/
theorem run_bind_error {h : Handler C ε σ} {p : Prog C α} {s : σ} {e : ε}
    (hp : run h p s = .error e) (f : α → Prog C β) :
    run h (p >>= f) s = .error e := by
  rw [run_bind, hp]; rfl

/-- What a sequence that returns did: its first part returned, and the second from there. -/
theorem run_bind_eq_ok {h : Handler C ε σ} {p : Prog C α} {f : α → Prog C β} {s s' : σ} {b : β} :
    run h (p >>= f) s = .ok (b, s') ↔
      ∃ a t, run h p s = .ok (a, t) ∧ run h (f a) t = .ok (b, s') := by
  rw [run_bind]
  cases hp : run h p s with
  | error e => simp [Except.bind]
  | ok r => obtain ⟨a, t⟩ := r; simp [Except.bind]

/-- A loop whose body returns from every state that the invariant allows, and keeps it, returns. -/
theorem run_forRange {h : Handler C ε σ} {start : ℤ} {n : ℕ} {body : ℤ → α → Prog C α}
    (I : ℕ → α → σ → Prop)
    (hbody : ∀ k < n, ∀ a s, I k a s →
      ∃ a' s', run h (body (start + k) a) s = .ok (a', s') ∧ I (k + 1) a' s')
    {a : α} {s : σ} (h0 : I 0 a s) :
    ∃ a' s', run h (Prog.forRange start n a body) s = .ok (a', s') ∧ I n a' s' := by
  induction n generalizing start I a s with
  | zero => exact ⟨a, s, rfl, h0⟩
  | succ n ih =>
    obtain ⟨a₁, s₁, hrun, h1⟩ := hbody 0 (Nat.succ_pos n) a s h0
    rw [Int.natCast_zero, Int.add_zero] at hrun
    obtain ⟨a', s', hrest, hn⟩ := @ih (start + 1) (fun k => I (k + 1)) (fun k hk a s hI => by
      have := hbody (k + 1) (Nat.succ_lt_succ hk) a s hI
      rwa [Int.natCast_add, Int.natCast_one, Int.add_comm (k : ℤ) 1, ← Int.add_assoc] at this) a₁ s₁ h1
    refine ⟨a', s', ?_, hn⟩
    rw [Prog.forRange, ← Prog.bind_eq_andThen, run_bind_ok hrun, hrest]

/-! ## Partial correctness -/

/-- Whenever `p` starts in `P` and returns, it returns in `Q`. -/
def Triple (h : Handler C ε σ) (P : σ → Prop) (p : Prog C α) (Q : α → σ → Prop) : Prop :=
  ∀ s, P s → ∀ a s', run h p s = .ok (a, s') → Q a s'

/-- The rule of a return. -/
theorem Triple.ret {h : Handler C ε σ} {P : σ → Prop} {Q : α → σ → Prop} {a : α}
    (hQ : ∀ s, P s → Q a s) : Triple h P (pure a) Q := by
  intro s hs a' s' hr
  simp only [run_pure, Except.ok.injEq, Prod.mk.injEq] at hr
  obtain ⟨rfl, rfl⟩ := hr
  exact hQ s hs

/-- The rule of a single command. -/
theorem Triple.perform {h : Handler C ε σ} {P : σ → Prop} {Q : α → σ → Prop} {c : C α}
    (hc : ∀ s, P s → ∀ a s', h α c s = .ok (a, s') → Q a s') : Triple h P (Prog.perform c) Q := by
  intro s hs a s' hr
  rw [run_perform] at hr
  exact hc s hs a s' hr

/-- The rule of two programs one after the other. -/
theorem Triple.bind {h : Handler C ε σ} {P : σ → Prop} {R : α → σ → Prop} {Q : β → σ → Prop}
    {p : Prog C α} {f : α → Prog C β} (hp : Triple h P p R) (hf : ∀ a, Triple h (R a) (f a) Q) :
    Triple h P (p >>= f) Q := by
  intro s hs b s' hr
  obtain ⟨a, t, hpa, hfb⟩ := run_bind_eq_ok.mp hr
  exact hf a t (hp s hs a t hpa) b s' hfb

/-- The rule of a choice. -/
theorem Triple.ite {h : Handler C ε σ} {P : σ → Prop} {Q : α → σ → Prop} {p q : Prog C α}
    {c : Prop} [Decidable c] (hp : c → Triple h P p Q) (hq : ¬ c → Triple h P q Q) :
    Triple h P (if c then p else q) Q := by
  by_cases hc : c
  · rw [if_pos hc]; exact hp hc
  · rw [if_neg hc]; exact hq hc

/-- The rule of consequence. -/
theorem Triple.conseq {h : Handler C ε σ} {P P' : σ → Prop} {Q Q' : α → σ → Prop} {p : Prog C α}
    (hp : Triple h P' p Q') (hP : ∀ s, P s → P' s) (hQ : ∀ a s, Q' a s → Q a s) :
    Triple h P p Q :=
  fun s hs a s' hr => hQ a s' (hp s (hP s hs) a s' hr)

/-! ## Programs with commands of one kind -/

namespace Prog

/-- Every command that the program can issue satisfies `P`. -/
def All (P : ∀ β, C β → Prop) : Prog C α → Prop
  | ret _ => True
  | cmd c k => P _ c ∧ ∀ b, (k b).All P

variable {P : ∀ β, C β → Prop}

/-- A return has no commands. -/
theorem All.pure (a : α) : (Pure.pure a : Prog C α).All P := trivial

/-- A single command. -/
theorem All.perform {c : C α} (h : P α c) : (Prog.perform c).All P := ⟨h, fun _ => trivial⟩

/-- The commands of two programs one after the other. -/
theorem All.bind {p : Prog C α} {f : α → Prog C β} (hp : p.All P) (hf : ∀ a, (f a).All P) :
    (p >>= f).All P := by
  rw [bind_eq_andThen]
  induction p with
  | ret a => exact hf a
  | cmd c k ih => exact ⟨hp.1, fun b => ih b (hp.2 b)⟩

/-- The commands of a choice. -/
theorem All.ite {c : Prop} [Decidable c] {p q : Prog C α} (hp : p.All P) (hq : q.All P) :
    (if c then p else q).All P := by
  split_ifs
  · exact hp
  · exact hq

end Prog

/-- What every command of a program preserves, its run preserves. -/
theorem run_preserves {h : Handler C ε σ} {P : ∀ β, C β → Prop} {I : σ → Prop}
    (hI : ∀ β (c : C β), P β c → ∀ s b s', I s → h β c s = .ok (b, s') → I s')
    {p : Prog C α} (hp : p.All P) {s s' : σ} {a : α} (hs : I s) (hr : run h p s = .ok (a, s')) :
    I s' := by
  induction p generalizing s with
  | ret b =>
    simp only [run, Except.ok.injEq, Prod.mk.injEq] at hr
    rw [← hr.2]
    exact hs
  | cmd c k ih =>
    rw [run_command] at hr
    cases hc : h _ c s with
    | error e => rw [hc] at hr; cases hr
    | ok r =>
      rw [hc] at hr
      exact ih r.1 (hp.2 r.1) (hI _ c hp.1 s r.1 r.2 hs hc) hr

/-- What every command of a program preserves, the program preserves where it returns. -/
theorem Triple.of_preserves {h : Handler C ε σ} {K : ∀ β, C β → Prop} {I : σ → Prop}
    (hI : ∀ β (c : C β), K β c → ∀ s b s', I s → h β c s = .ok (b, s') → I s')
    {p : Prog C α} (hp : p.All K) : Triple h I p fun _ => I :=
  fun _ hs _ _ hr => run_preserves hI hp hs hr

/-- A loop whose body keeps an invariant keeps it. -/
theorem Triple.forRange {h : Handler C ε σ} {start : ℤ} {n : ℕ} {body : ℤ → α → Prog C α}
    (I : ℕ → α → σ → Prop) (hbody : ∀ k a, Triple h (I k a) (body (start + k) a) (I (k + 1)))
    {a : α} : Triple h (I 0 a) (Prog.forRange start n a body) (I n) := by
  induction n generalizing start I a with
  | zero => exact Triple.ret fun s hs => hs
  | succ n ih =>
    rw [Prog.forRange, ← Prog.bind_eq_andThen]
    refine Triple.bind (R := I 1) (by simpa using hbody 0 a) fun a => ?_
    refine @ih (start + 1) (fun k => I (k + 1)) (fun k a => ?_) a
    have := hbody (k + 1) a
    rwa [Int.natCast_add, Int.natCast_one, Int.add_comm (k : ℤ) 1, ← Int.add_assoc] at this

/-! ## The state at an error -/

/-- The run of a program, with the state it ends in also where an error ends it. A command that
fails leaves the state alone. -/
def runTo (h : Handler C ε σ) : Prog C α → σ → Except ε α × σ
  | .ret a, s => (.ok a, s)
  | .cmd c k, s =>
    match h _ c s with
    | .error e => (.error e, s)
    | .ok (b, s') => runTo h (k b) s'

/-- A command runs its handler and, unless that fails, the rest in the state it leaves. -/
theorem runTo_command (h : Handler C ε σ) (c : C β) (k : β → Prog C α) (s : σ) :
    runTo h (.cmd c k) s =
      match h β c s with
      | .error e => (.error e, s)
      | .ok (b, s') => runTo h (k b) s' := by
  rw [runTo]

/-- Up to the state at an error, this is the run. -/
theorem runTo_eq_ok_iff {h : Handler C ε σ} {p : Prog C α} {s s' : σ} {a : α} :
    runTo h p s = (.ok a, s') ↔ run h p s = .ok (a, s') := by
  induction p generalizing s with
  | ret b =>
    simp only [runTo, run, Prod.mk.injEq, Except.ok.injEq]
  | cmd c k ih =>
    rw [run_command, runTo_command]
    cases hc : h _ c s with
    | error e => simp [Except.bind]
    | ok r => exact ih r.1

/-- A program that succeeds is run to its end. -/
theorem runTo_of_run {h : Handler C ε σ} {p : Prog C α} {s s' : σ} {a : α}
    (hr : run h p s = .ok (a, s')) : runTo h p s = (.ok a, s') := runTo_eq_ok_iff.mpr hr

/-- A sequence: the second part runs where the first returns. -/
theorem runTo_bind (h : Handler C ε σ) (p : Prog C α) (f : α → Prog C β) (s : σ) :
    runTo h (p >>= f) s =
      match runTo h p s with
      | (.ok a, s') => runTo h (f a) s'
      | (.error e, s') => (.error e, s') := by
  rw [Prog.bind_eq_andThen]
  induction p generalizing s with
  | ret a => rfl
  | cmd c k ih =>
    rw [Prog.andThen, runTo_command, runTo_command]
    cases h _ c s with
    | error e => rfl
    | ok r => exact ih r.1 r.2

/-- What every command of a program preserves, its run preserves, wherever it ends. -/
theorem runTo_preserves {h : Handler C ε σ} {P : ∀ β, C β → Prop} {I : σ → Prop}
    (hI : ∀ β (c : C β), P β c → ∀ s b s', I s → h β c s = .ok (b, s') → I s')
    {p : Prog C α} (hp : p.All P) {s : σ} (hs : I s) : I (runTo h p s).2 := by
  induction p generalizing s with
  | ret b => exact hs
  | cmd c k ih =>
    rw [runTo_command]
    cases hc : h _ c s with
    | error e => exact hs
    | ok r => exact ih r.1 (hp.2 r.1) (hI _ c hp.1 s r.1 r.2 hs hc)

/-- Whenever `p` starts in `P` and an error ends it, it leaves a state in `E`. -/
def Fails (h : Handler C ε σ) (P : σ → Prop) (p : Prog C α) (E : σ → Prop) : Prop :=
  ∀ s, P s → ∀ e s', runTo h p s = (.error e, s') → E s'

section fails

variable {h : Handler C ε σ} {P E : σ → Prop}

/-- A return does not fail. -/
theorem Fails.ret {a : α} : Fails h P (pure a) E :=
  fun _ _ _ _ hr => by cases (Prod.mk.inj hr).1

/-- A command leaves the state alone where it fails. -/
theorem Fails.perform {c : C α} (hc : ∀ s, P s → ∀ e, h α c s = .error e → E s) :
    Fails h P (Prog.perform c) E := by
  intro s hs e s' hr
  unfold Prog.perform at hr
  rw [runTo_command] at hr
  cases hcs : h α c s with
  | error e' =>
    rw [hcs] at hr
    obtain ⟨-, rfl⟩ := Prod.mk.inj hr
    exact hc s hs e' hcs
  | ok r => rw [hcs] at hr; cases (Prod.mk.inj hr).1

/-- A sequence fails in its first part, or in the second after the first returned. -/
theorem Fails.bind {R : α → σ → Prop} {p : Prog C α} {f : α → Prog C β} (hp : Fails h P p E)
    (hR : Triple h P p R) (hf : ∀ a, Fails h (R a) (f a) E) : Fails h P (p >>= f) E := by
  intro s hs e s' hr
  rw [runTo_bind] at hr
  cases hps : runTo h p s with
  | mk r t =>
    rw [hps] at hr
    cases r with
    | error e' =>
      obtain ⟨-, rfl⟩ := Prod.mk.inj hr
      exact hp s hs e' t hps
    | ok a => exact hf a t (hR s hs a t (runTo_eq_ok_iff.mp hps)) e s' hr

/-- The rule of a choice. -/
theorem Fails.ite {p q : Prog C α} {c : Prop} [Decidable c] (hp : c → Fails h P p E)
    (hq : ¬ c → Fails h P q E) : Fails h P (if c then p else q) E := by
  by_cases hc : c
  · rw [if_pos hc]; exact hp hc
  · rw [if_neg hc]; exact hq hc

/-- What every command of a program preserves holds where the program fails. -/
theorem Fails.of_preserves {K : ∀ β, C β → Prop}
    (hI : ∀ β (c : C β), K β c → ∀ s b s', E s → h β c s = .ok (b, s') → E s')
    {p : Prog C α} (hp : p.All K) : Fails h E p E := by
  intro s hs e s' hr
  have := runTo_preserves hI hp hs
  rwa [hr] at this

end fails

/-- Every program is one of commands of any kind. -/
theorem Prog.All.of_forall {P : ∀ β, C β → Prop} (hP : ∀ β c, P β c) (p : Prog C α) : p.All P := by
  induction p with
  | ret a => exact trivial
  | cmd c k ih => exact ⟨hP _ c, ih⟩

/-! ## Programs over another family -/

/-- The program with its commands replaced. -/
def Prog.mapCmd {D : Type → Type u} (f : ∀ β, C β → D β) : Prog C α → Prog D α
  | .ret a => .ret a
  | .cmd c k => .cmd (f _ c) fun b => (k b).mapCmd f

/-- The commands of the replaced program are replacements. -/
theorem Prog.All.mapCmd {D : Type → Type u} {f : ∀ β, C β → D β} {P : ∀ β, D β → Prop}
    (hP : ∀ β (c : C β), P β (f β c)) (p : Prog C α) : (p.mapCmd f).All P := by
  induction p with
  | ret a => exact trivial
  | cmd c k ih => exact ⟨hP _ c, ih⟩

/-- Where each command does on the image of a state what the one that it replaces does on the state,
so does the program. -/
theorem runTo_mapCmd {D : Type → Type u} {f : ∀ β, C β → D β} {h : Handler C ε σ}
    {h' : Handler D ε τ} {image : σ → τ} {p : Prog C α}
    (hp : p.All fun β c => ∀ s, h' β (f β c) (image s) = (h β c s).map fun x => (x.1, image x.2))
    (s : σ) :
    runTo h' (p.mapCmd f) (image s) = ((runTo h p s).1, image (runTo h p s).2) := by
  induction p generalizing s with
  | ret a => rfl
  | cmd c k ih =>
    rw [Prog.mapCmd, runTo_command, runTo_command, hp.1 s]
    cases h _ c s with
    | error e => rfl
    | ok x => exact ih x.1 (hp.2 x.1) x.2

/-! ## Simulation -/

/-- How an outcome follows an idealised one: the same answer in related states, the same error, and
anything where the idealised machine refused. -/
def Follows (R : σ → τ → Prop) : Except ε (α × σ) → Except (Option ε) (α × τ) → Prop
  | r, .ok (a, t) => ∃ s, r = .ok (a, s) ∧ R s t
  | r, .error (some e) => r = .error e
  | _, .error none => True

/-- A machine follows an idealised one, command by command. -/
def Simulates (R : σ → τ → Prop) (h : Handler C ε σ) (h' : Handler C (Option ε) τ) : Prop :=
  ∀ (β : Type) (c : C β) (s : σ) (t : τ), R s t → Follows R (h β c s) (h' β c t)

/-- A machine that follows an idealised one command by command follows it on whole programs. -/
theorem run_simulates {R : σ → τ → Prop} {h : Handler C ε σ} {h' : Handler C (Option ε) τ}
    (hR : Simulates R h h') (p : Prog C α) :
    ∀ s t, R s t → Follows R (run h p s) (run h' p t) := by
  induction p with
  | ret a => exact fun s t hst => ⟨s, rfl, hst⟩
  | cmd c k ih =>
    intro s t hst
    have hc := hR _ c s t hst
    rw [run_command, run_command]
    cases ht : h' _ c t with
    | error e =>
      rw [ht] at hc
      cases e with
      | none => exact trivial
      | some e => rw [show h _ c s = .error e from hc]; rfl
    | ok r =>
      obtain ⟨b, t'⟩ := r
      rw [ht] at hc
      obtain ⟨s', hs', hst'⟩ := hc
      rw [hs']
      exact ih b s' t' hst'

/-! ## Acceptance -/

/-- From a state in `P`, the idealised machine does not refuse the program, and where the program
returns it returns in `Q`. -/
def Accepts (h : Handler C (Option ε) σ) (P : σ → Prop) (p : Prog C α) (Q : α → σ → Prop) : Prop :=
  ∀ s, P s → run h p s ≠ .error none ∧ ∀ a s', run h p s = .ok (a, s') → Q a s'

section acceptance

variable {h : Handler C (Option ε) σ} {P : σ → Prop} {Q : α → σ → Prop}

/-- A return is accepted. -/
theorem Accepts.pure {a : α} (hQ : ∀ s, P s → Q a s) : Accepts h P (pure a) Q := by
  intro s hs
  refine ⟨by simp, fun b s' hr => ?_⟩
  simp only [run_pure, Except.ok.injEq, Prod.mk.injEq] at hr
  obtain ⟨rfl, rfl⟩ := hr
  exact hQ s hs

/-- The rule of two programs one after the other. -/
theorem Accepts.bind {R : α → σ → Prop} {Q : β → σ → Prop} {p : Prog C α} {f : α → Prog C β}
    (hp : Accepts h P p R) (hf : ∀ a, Accepts h (R a) (f a) Q) : Accepts h P (p >>= f) Q := by
  intro s hs
  obtain ⟨hne, hR⟩ := hp s hs
  rw [run_bind]
  cases hr : run h p s with
  | error e =>
    refine ⟨fun heq => hne ?_, fun _ _ heq => by cases heq⟩
    rw [hr, Except.error.inj heq]
  | ok r => exact hf r.1 r.2 (hR r.1 r.2 hr)

/-- The rule of a choice. -/
theorem Accepts.ite {p q : Prog C α} {c : Prop} [Decidable c] (hp : c → Accepts h P p Q)
    (hq : ¬ c → Accepts h P q Q) : Accepts h P (if c then p else q) Q := by
  by_cases hc : c
  · rw [if_pos hc]; exact hp hc
  · rw [if_neg hc]; exact hq hc

/-- The rule of consequence. -/
theorem Accepts.conseq {P' : σ → Prop} {Q' : α → σ → Prop} {p : Prog C α} (hp : Accepts h P' p Q')
    (hP : ∀ s, P s → P' s) (hQ : ∀ a s, Q' a s → Q a s) : Accepts h P p Q := by
  intro s hs
  obtain ⟨hne, hq⟩ := hp s (hP s hs)
  exact ⟨hne, fun a s' hr => hQ a s' (hq a s' hr)⟩

/-- A loop whose body keeps an invariant. -/
theorem Accepts.forRange {I : σ → Prop} {start : ℤ} {n : ℕ} {a : α} {body : ℤ → α → Prog C α}
    (hbody : ∀ i a, Accepts h I (body i a) fun _ => I) :
    Accepts h I (Prog.forRange start n a body) fun _ => I := by
  induction n generalizing start a with
  | zero => exact Accepts.pure fun s hs => hs
  | succ n ih =>
    rw [Prog.forRange, ← Prog.bind_eq_andThen]
    exact (hbody start a).bind fun a => ih

end acceptance

end Commands
