import Mathlib.Order.Defs.Unbundled
import GameScript.Proofs.Faults

/-!
# How a computation on a session ends

A computation of `Sim` run from a session either answers a value or raises a
fault, and in both cases leaves a session.  `Sim.Ends m s ok err` says that
the run of `m` from `s` ends where `ok` holds of the answer and the final
session, or where `err` holds of the fault and the final session: the
weakest-precondition reading of the state-and-exception monad.  Its rules,
one per combinator the interpreter is written with (`pure`, `bind`, `get`,
`set`, `modify`, `throw`, `tryCatch`, `tryFinally`, a loop over a list), are
proved here once, so that a proof about a function of the interpreter reads
its body step by step and never unfolds the monad.

`Sim.Keeps R E m` is the summary a caller cites: from every session `s`, `m`
ends in a session related to `s` by `R`, and any fault it raises lies in
`E`.  With `R` a preorder, summaries compose along `bind` and loops.
-/

namespace GameScript.Sim

/-- The run of `m` from `s` ends where `ok` holds of its answer, or `err` of its fault, and the final session. -/
def Ends (m : Sim α) (s : Session) (ok : α → Session → Prop) (err : Fault → Session → Prop) :
    Prop :=
  match m.run s with
  | .ok a t => ok a t
  | .error fault t => err fault t

section Rules

variable {m : Sim α} {s : Session} {ok : β → Session → Prop} {err : Fault → Session → Prop}

@[simp]
theorem ends_pure (a : β) : Ends (pure a) s ok err ↔ ok a s := Iff.rfl

@[simp]
theorem ends_bind (f : α → Sim β) :
    Ends (m >>= f) s ok err ↔ Ends m s (fun a t => Ends (f a) t ok err) err := by
  unfold Ends
  cases h : m.run s <;> simp only [EStateM.run, bind, EStateM.bind] at h ⊢ <;> rw [h]

@[simp]
theorem ends_map (f : α → β) :
    Ends (f <$> m) s ok err ↔ Ends m s (fun a t => ok (f a) t) err := by
  unfold Ends
  cases h : m.run s <;> simp only [EStateM.run, Functor.map, EStateM.map] at h ⊢ <;> rw [h]

theorem ends_discard {ok : PUnit → Session → Prop} :
    Ends (discard m) s ok err ↔ Ends m s (fun _ t => ok ⟨⟩ t) err :=
  ends_map _

@[simp]
theorem ends_get {ok : Session → Session → Prop} : Ends get s ok err ↔ ok s s := Iff.rfl

@[simp]
theorem ends_set {ok : PUnit → Session → Prop} (t : Session) :
    Ends (set t) s ok err ↔ ok ⟨⟩ t := Iff.rfl

@[simp]
theorem ends_modify {ok : PUnit → Session → Prop} (g : Session → Session) :
    Ends (modify g) s ok err ↔ ok ⟨⟩ (g s) := Iff.rfl

@[simp]
theorem ends_throw (fault : Fault) : Ends (throw fault : Sim β) s ok err ↔ err fault s := Iff.rfl

@[simp]
theorem ends_tryCatch {m : Sim β} (handler : Fault → Sim β) :
    Ends (tryCatch m handler) s ok err ↔ Ends m s ok (fun fault t => Ends (handler fault) t ok err) := by
  unfold Ends EStateM.run
  change (match EStateM.tryCatch m handler s with
    | .ok a t => ok a t
    | .error fault t => err fault t) ↔ _
  unfold EStateM.tryCatch
  cases m s <;> rfl

/-- A finalizer runs after the body whatever its outcome; the body's fault wins unless the finalizer fails. -/
@[simp]
theorem ends_tryFinally {m : Sim β} (h : Sim γ) :
    Ends (tryFinally m h) s ok err ↔
      Ends m s (fun a t => Ends h t (fun _ u => ok a u) err)
        (fun fault t => Ends h t (fun _ u => err fault u) err) := by
  unfold Ends EStateM.run
  simp only [tryFinally, tryFinally', Functor.map, EStateM.map]
  cases m s with
  | ok a t => dsimp only; cases h t <;> rfl
  | error fault t => dsimp only; cases h t <;> rfl

@[simp]
theorem ends_ofExcept (x : Except Fault β) :
    Ends (ofExcept x) s ok err ↔ (∀ a, x = .ok a → ok a s) ∧ (∀ fault, x = .error fault → err fault s) := by
  cases x <;> simp [ofExcept]

theorem Ends.mono {ok' : α → Session → Prop} {err' : Fault → Session → Prop}
    {ok : α → Session → Prop} (ends : Ends m s ok err)
    (onOk : ∀ a t, ok a t → ok' a t) (onError : ∀ fault t, err fault t → err' fault t) :
    Ends m s ok' err' := by
  unfold Ends at *
  cases h : m.run s with
  | ok a t =>
      rw [h] at ends
      exact onOk a t ends
  | error fault t =>
      rw [h] at ends
      exact onError fault t ends

/-- A run ends where it does. -/
theorem ends_of_run {a : α} {t : Session} (ran : m.run s = .ok a t) {ok : α → Session → Prop}
    (answered : ok a t) : Ends m s ok err := by
  unfold Ends
  rw [ran]
  exact answered

/-- Two computations whose runs agree end alike. -/
theorem ends_congr_run {m' : Sim α} {s' : Session} {ok : α → Session → Prop} (same : m.run s = m'.run s') :
    Ends m s ok err ↔ Ends m' s' ok err := by
  unfold Ends
  rw [same]

/-- What holds of every end of a run holds of the end it has. -/
theorem Ends.of_run {ok : α → Session → Prop} (ends : Ends m s ok err) {a : α} {t : Session}
    (ran : m.run s = .ok a t) : ok a t := by
  unfold Ends at ends
  rwa [ran] at ends

/-- Mapping the answer of a run that ends well. -/
theorem run_map_of_run {f : α → β} {a : α} {t : Session} (ran : m.run s = .ok a t) :
    (f <$> m).run s = .ok (f a) t := by
  simp only [EStateM.run, Functor.map, EStateM.map] at ran ⊢
  rw [ran]

/-- A run that cannot end in a fault ends with an answer. -/
theorem Ends.answers {ok : α → Session → Prop} (ends : Ends m s ok err)
    (never : ∀ fault t, ¬ err fault t) : ∃ a t, m.run s = .ok a t ∧ ok a t := by
  unfold Ends at ends
  cases ran : m.run s with
  | ok a t =>
      rw [ran] at ends
      exact ⟨a, t, rfl, ends⟩
  | error fault t =>
      rw [ran] at ends
      exact absurd ends (never fault t)

/-- No run ends nowhere. -/
theorem Ends.elim {ok : α → Session → Prop} (ends : Ends m s ok err)
    (noAnswer : ∀ a t, ¬ ok a t) (never : ∀ fault t, ¬ err fault t) : False := by
  obtain ⟨a, t, _, answered⟩ := ends.answers never
  exact noAnswer a t answered

end Rules

/-! ## Summaries -/

/-- From every session, `m` ends in one related to it by `R`, raising only faults in `E`. -/
def Keeps (R : Session → Session → Prop) (E : Fault → Prop) (m : Sim α) : Prop :=
  ∀ s, Ends m s (fun _ t => R s t) (fun fault t => E fault ∧ R s t)

/-- The relation of a step that keeps `P`: if `P` held before it, `P` holds after it. -/
def Preserves (P : Session → Prop) (s t : Session) : Prop := P s → P t

instance (P : Session → Prop) : IsPreorder Session (Preserves P) where
  refl _ := id
  trans _ _ _ first second := second ∘ first

section Summaries

variable {R : Session → Session → Prop} {E : Fault → Prop}

/-- A summary is used at a call: whatever holds of every end related to the start holds of the call's end. -/
theorem Keeps.ends {m : Sim α} {ok : α → Session → Prop} {err : Fault → Session → Prop}
    (keeps : Keeps R E m) (s : Session) (onOk : ∀ a t, R s t → ok a t)
    (onError : ∀ fault t, E fault → R s t → err fault t) : Ends m s ok err :=
  (keeps s).mono (fun a t related => onOk a t related)
    (fun fault t raised => onError fault t raised.1 raised.2)

theorem Keeps.weaken {m : Sim α} {E' : Fault → Prop} (keeps : Keeps R E m)
    (widen : ∀ fault, E fault → E' fault) : Keeps R E' m := fun s =>
  keeps.ends s (fun _ _ related => related) fun fault _ raised related =>
    ⟨widen fault raised, related⟩

theorem Keeps.relax {m : Sim α} {R' : Session → Session → Prop} (keeps : Keeps R E m)
    (relax : ∀ s t, R s t → R' s t) : Keeps R' E m := fun s =>
  keeps.ends s (fun _ t related => relax s t related) fun _ t raised related =>
    ⟨raised, relax s t related⟩

theorem Keeps.modify {g : Session → Session} (step : ∀ s, R s (g s)) :
    Keeps R E (modify g) := fun s => step s

theorem Keeps.map {m : Sim α} (f : α → β) (keeps : Keeps R E m) : Keeps R E (f <$> m) :=
  fun s => by
    rw [ends_map]
    exact keeps s

theorem Keeps.discard {m : Sim α} (keeps : Keeps R E m) : Keeps R E (discard m) :=
  keeps.map _

/-- A step that reads the session, then goes on as it found it. -/
theorem get_bind_keeps {k : Session → Sim α} (each : ∀ s, Keeps R E (k s)) :
    Keeps R E (get >>= k) := fun s => by
  rw [ends_bind, ends_get]
  exact each s s

/-- Where a run ends is related to where it began. -/
theorem Keeps.of_run {m : Sim α} (keeps : Keeps R E m) {s t : Session} {a : α}
    (ran : m.run s = .ok a t) : R s t := by
  have ends := keeps s
  unfold Ends at ends
  rwa [ran] at ends

variable [IsPreorder Session R]

theorem Keeps.pure (a : α) : Keeps R E (pure a : Sim α) := fun s => refl_of R s

theorem Keeps.throw {fault : Fault} (raised : E fault) : Keeps R E (throw fault : Sim α) :=
  fun s => ⟨raised, refl_of R s⟩

/-- A summary used from a session `t` that a step reached from `s`: the end stays related to `s`. -/
theorem Keeps.after {m : Sim α} (keeps : Keeps R E m) {s t : Session} (related : R s t) :
    Ends m t (fun _ u => R s u) (fun fault u => E fault ∧ R s u) :=
  keeps.ends t (fun _ _ later => trans_of R related later) fun _ _ raised later =>
    ⟨raised, trans_of R related later⟩

/-- A step that fails ends the run there, whatever was to follow. -/
theorem Keeps.throw_bind {fault : Fault} {f : α → Sim β} (raised : E fault) :
    Keeps R E (MonadExcept.throw fault >>= f) :=
  fun s => ⟨raised, refl_of R s⟩

theorem Keeps.bind {m : Sim α} {f : α → Sim β} (first : Keeps R E m)
    (rest : ∀ a, Keeps R E (f a)) : Keeps R E (m >>= f) := fun s => by
  rw [ends_bind]
  exact first.ends s (fun a t related => (rest a).after related) fun fault t raised related =>
    ⟨raised, related⟩

/-- A handler that keeps `R` for every fault of the body makes the caught run keep `R`, raising what the handler raises. -/
theorem Keeps.tryCatch {E' : Fault → Prop} {m : Sim α} {handler : Fault → Sim α}
    (body : Keeps R E m) (handled : ∀ fault, E fault → Keeps R E' (handler fault)) :
    Keeps R E' (tryCatch m handler) := fun s => by
  rw [ends_tryCatch]
  exact body.ends s (fun _ _ related => related) fun fault _ raised related =>
    (handled fault raised).after related

/-- A finalizer runs on both outcomes of the body; what both keep, the whole keeps. -/
theorem Keeps.tryFinally {m : Sim α} {h : Sim β} (body : Keeps R E m) (final : Keeps R E h) :
    Keeps R E (tryFinally m h) := fun s => by
  rw [ends_tryFinally]
  refine body.ends s (fun _ _ related => final.after related) fun fault t raised related => ?_
  exact (final.after related).mono (fun _ _ later => ⟨raised, later⟩) fun _ _ failed => failed

/-- A loop over a list keeps what each round keeps. -/
theorem Keeps.forIn {xs : List α} {init : β} {body : α → β → Sim (ForInStep β)}
    (round : ∀ x b, Keeps R E (body x b)) : Keeps R E (forIn xs init body) := by
  induction xs generalizing init with
  | nil => exact Keeps.pure init
  | cons x xs more =>
      rw [List.forIn_cons]
      refine Keeps.bind (round x init) fun step => ?_
      cases step with
      | done b => exact Keeps.pure b
      | yield b => exact more

theorem Keeps.mapM {xs : List α} {f : α → Sim β} (each : ∀ x, Keeps R E (f x)) :
    Keeps R E (xs.mapM f) := by
  induction xs with
  | nil => exact Keeps.pure []
  | cons x xs more =>
      rw [List.mapM_cons]
      exact (each x).bind fun b => more.bind fun bs => Keeps.pure (b :: bs)

theorem Keeps.ofExcept {α : Type} {x : Except Fault α} (raised : Raises E x) :
    Keeps R E (Sim.ofExcept x) :=
  fun s => by
    rw [ends_ofExcept]
    exact ⟨fun _ _ => refl_of R s, fun fault failed => ⟨raised fault failed, refl_of R s⟩⟩

/-- A step that may fail without touching the session, then the rest. -/
theorem Keeps.ofExcept_bind {α β : Type} {x : Except Fault α} {f : α → Sim β} (raised : Raises E x)
    (rest : ∀ a, Keeps R E (f a)) : Keeps R E (Sim.ofExcept x >>= f) :=
  (Keeps.ofExcept raised).bind rest

end Summaries

end GameScript.Sim
