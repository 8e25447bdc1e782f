import Scaffold.Session

set_option autoImplicit false

/-!
# What actions do to a session

Actions run one after the other up to a failure. Those that only ask, tell and consult leave the
files as they are, however they end.
-/
namespace Scaffold

/-- What holds of programs that do nothing, and of one program after another, holds of loops. -/
theorem forIn_closed {m : Type → Type} [Monad m] {α : Type} {p : {γ : Type} → m γ → Prop}
    (hpure : ∀ {γ : Type} (x : γ), p (pure x))
    (hbind : ∀ {γ δ : Type} {a : m γ} {f : γ → m δ}, p a → (∀ x, p (f x)) → p (a >>= f))
    (xs : List α) {step : α → PUnit → m (ForInStep PUnit)} (h : ∀ x u, p (step x u)) :
    p (forIn xs PUnit.unit step) := by
  induction xs with
  | nil => exact hpure _
  | cons x xs ih =>
    rw [List.forIn_cons]
    refine hbind (h x _) fun next => ?_
    cases next with
    | done _ => exact hpure _
    | yield _ => exact ih

namespace Act

variable {α β : Type}

theorem bind_run (a : Act α) (f : α → Act β) (s : Session) :
    (a >>= f) s = match a s with
      | (.ok x, s') => f x s'
      | (.error e, s') => (.error e, s') := by
  change (ExceptT.bind a f : Act β) s = _
  simp only [ExceptT.bind, ExceptT.mk, bind, StateT.bind]
  rcases a s with ⟨_ | x, s'⟩ <;> rfl

theorem bind_ok {a : Act α} {f : α → Act β} {s s' : Session} {y : β}
    (h : (a >>= f) s = (.ok y, s')) : ∃ x s₁, a s = (.ok x, s₁) ∧ f x s₁ = (.ok y, s') := by
  rw [bind_run] at h
  rcases ha : a s with ⟨e | x, s₁⟩ <;> rw [ha] at h
  · cases h
  · exact ⟨x, s₁, rfl, h⟩

theorem ok_of_bind {x : Except Failure α} {f : α → Except Failure β} {y : β}
    (h : (x >>= f) = .ok y) : ∃ a, x = .ok a ∧ f a = .ok y := by
  cases x with
  | error e => cases h
  | ok a => exact ⟨a, rfl, h⟩

theorem ok_of_toOption {x : Except Failure α} {a : α} (h : x.toOption = some a) : x = .ok a := by
  cases x with
  | error e => cases h
  | ok b => exact congrArg Except.ok (Option.some.inj h)

theorem bind_congr_ok {a : Act α} {f g : α → Act β} {s : Session}
    (h : ∀ x s₁, a s = (.ok x, s₁) → f x s₁ = g x s₁) : (a >>= f) s = (a >>= g) s := by
  rw [bind_run, bind_run]
  rcases ha : a s with ⟨e | x, s₁⟩
  · rfl
  · exact h x s₁ ha

theorem consult_ok {q : Files → Except Failure α} {s s' : Session} {x : α}
    (h : consult q s = (.ok x, s')) : q s.files = .ok x ∧ s' = s := by
  unfold consult at h
  rw [Prod.mk.injEq] at h
  exact ⟨h.1, h.2.symm⟩

theorem talk_run {c : Talk α} {t t' : Terminal} {res : Except Failure α} (h : c t = (res, t'))
    (fs : Files) : talk c ⟨fs, t⟩ = (res, ⟨fs, t'⟩) := by
  unfold talk
  rw [h]

theorem talk_ok {t : Talk α} {s s' : Session} {x : α} (h : talk t s = (.ok x, s')) :
    t s.terminal = (.ok x, s'.terminal) ∧ s'.files = s.files := by
  unfold talk at h
  rcases ht : t s.terminal with ⟨res, terminal⟩
  rw [ht] at h
  cases h
  exact ⟨rfl, rfl⟩

def Quiet (a : Act α) : Prop := ∀ s, (a s).2.files = s.files

theorem quiet_pure (x : α) : Quiet (pure x) := fun _ => rfl

theorem quiet_throw (e : Failure) : Quiet (throw e : Act α) := fun _ => rfl

theorem quiet_get : Quiet (get : Act Session) := fun _ => rfl

theorem quiet_talk (t : Talk α) : Quiet (talk t) := talk_files t

theorem quiet_consult (q : Files → Except Failure α) : Quiet (consult q) := fun _ => rfl

theorem Quiet.bind {a : Act α} {f : α → Act β} (ha : Quiet a) (hf : ∀ x, Quiet (f x)) :
    Quiet (a >>= f) := by
  intro s
  rw [bind_run]
  have hs := ha s
  generalize a s = done at hs
  rcases done with ⟨_ | x, s'⟩
  · exact hs
  · exact (hf x s').trans hs

theorem quiet_forIn (xs : List α) {step : α → PUnit → Act (ForInStep PUnit)}
    (h : ∀ x u, Quiet (step x u)) : Quiet (forIn xs PUnit.unit step) :=
  forIn_closed quiet_pure Quiet.bind xs h

/-- The action has to do with the terminal alone, and is the same over any files. -/
def Aside (a : Act α) : Prop :=
  ∀ t, ∃ res t', ∀ fs, a ⟨fs, t⟩ = (res, ⟨fs, t'⟩)

theorem aside_pure (x : α) : Aside (pure x) := fun t => ⟨.ok x, t, fun _ => rfl⟩

theorem aside_talk (t : Talk α) : Aside (talk t) := fun terminal =>
  ⟨(t terminal).1, (t terminal).2, fun _ => rfl⟩

theorem Aside.bind {a : Act α} {f : α → Act β} (ha : Aside a) (hf : ∀ x, Aside (f x)) :
    Aside (a >>= f) := by
  intro t
  obtain ⟨res, t', hrun⟩ := ha t
  cases res with
  | error e => exact ⟨.error e, t', fun fs => by rw [bind_run, hrun]⟩
  | ok x =>
    obtain ⟨res', t'', hrun'⟩ := hf x t'
    exact ⟨res', t'', fun fs => by rw [bind_run, hrun]; exact hrun' fs⟩

theorem aside_forIn (xs : List α) {step : α → PUnit → Act (ForInStep PUnit)}
    (h : ∀ x u, Aside (step x u)) : Aside (forIn xs PUnit.unit step) :=
  forIn_closed aside_pure Aside.bind xs h

end Act

def Session.print (s : Session) (text : String) : Session :=
  { s with terminal := { s.terminal with printed := s.terminal.printed ++ text } }

section
variable (show? : Console.Markup → Nat → Except Console.Unreadable String)

theorem Talk.put_eq (t : Terminal) :
    Talk.put show? t =
      match show? t.markup t.width with
      | .ok text => (.ok (), { t with printed := t.printed ++ text })
      | .error e => (.error (.ofUnreadable e), t) := by
  have hput : Talk.put show? t =
      (match show? t.markup t.width with
        | .ok text => Talk.write text
        | .error e => throw (.ofUnreadable e) : Talk Unit) t := rfl
  rw [hput]
  cases show? t.markup t.width <;> rfl

theorem Talk.put_run (s : Session) :
    Act.talk (Talk.put show?) s =
      match show? s.terminal.markup s.terminal.width with
      | .ok text => (.ok (), s.print text)
      | .error e => (.error (.ofUnreadable e), s) := by
  rw [Act.talk, Talk.put_eq]
  cases show? s.terminal.markup s.terminal.width <;> rfl

end

/-- Two sessions over the same files, at terminals of one width that read markup in one way. -/
structure Session.Alike (s s' : Session) : Prop where
  files : s'.files = s.files
  width : s'.terminal.width = s.terminal.width
  markup : s'.terminal.markup = s.terminal.markup

namespace Session.Alike
variable {s s' s'' : Session}

theorem refl (s : Session) : s.Alike s := ⟨rfl, rfl, rfl⟩

theorem symm (h : s.Alike s') : s'.Alike s := ⟨h.files.symm, h.width.symm, h.markup.symm⟩

theorem trans (h : s.Alike s') (h' : s'.Alike s'') : s.Alike s'' :=
  ⟨h'.files.trans h.files, h'.width.trans h.width, h'.markup.trans h.markup⟩

end Session.Alike

namespace Act
variable {α β : Type}

/-- The action has to do with the files, and may print: answers that wait at the terminal are
nothing to it. -/
def Steady (a : Act α) : Prop :=
  ∀ ⦃s s' : Session⦄, s.Alike s' → (a s').1 = (a s).1 ∧ (a s).2.Alike (a s').2

theorem steady_pure (x : α) : Steady (pure x) := fun _ _ h => ⟨rfl, h⟩

theorem steady_step (c : Walk.Step α) : Steady (step c) := by
  intro s s' h
  unfold step
  rw [h.files]
  exact ⟨rfl, rfl, h.width, h.markup⟩

theorem steady_change (c : Files.Change α) : Steady (change c) := by
  intro s s' h
  unfold change
  rw [h.files]
  exact ⟨rfl, rfl, h.width, h.markup⟩

theorem steady_put (show? : Console.Markup → Nat → Except Console.Unreadable String) :
    Steady (talk (Talk.put show?)) := by
  intro s s' h
  rw [Talk.put_run, Talk.put_run, h.width, h.markup]
  cases show? s.terminal.markup s.terminal.width with
  | error e => exact ⟨rfl, h⟩
  | ok text => exact ⟨rfl, h.files, h.width, h.markup⟩

theorem Steady.bind {a : Act α} {f : α → Act β} (ha : Steady a) (hf : ∀ x, Steady (f x)) :
    Steady (a >>= f) := by
  intro s s' h
  obtain ⟨hresult, hafter⟩ := ha h
  rw [bind_run, bind_run]
  rcases hrun : a s with ⟨e | x, s₁⟩ <;> rcases hrun' : a s' with ⟨e' | x', s₁'⟩ <;>
    rw [hrun, hrun'] at hresult hafter <;> cases hresult
  · exact ⟨rfl, hafter⟩
  · exact hf x hafter

theorem steady_forIn (xs : List α) {step : α → PUnit → Act (ForInStep PUnit)}
    (h : ∀ x u, Steady (step x u)) : Steady (forIn xs PUnit.unit step) :=
  forIn_closed steady_pure Steady.bind xs h

end Act

theorem Walk.materialize_steady (w : Walk) (source dest : Path) :
    (w.materialize source dest).Steady :=
  (Act.steady_step _).bind fun r =>
    (Act.steady_forIn r.missing fun _ _ => (Act.steady_put _).bind fun _ => Act.steady_pure _).bind
      fun _ => Act.steady_pure r

end Scaffold
