import GameScript.Proofs.Invariants

/-!
# How making an instance names it

An instance is made under the name asked for, when one is given and is not
empty, and otherwise under its declaration's name made unique: the first of
`name`, `name_2`, `name_3`, … that no registered instance has. `FirstFree`
says what that first free name is, apart from the search `uniqueName` makes
for it, and `uniqueName_firstFree` proves the search finds it: it tries one
candidate more than names are taken, so its fallback is never used.

`Sim.instantiate_registers_last` then says everything making an instance
does to the registry. A name asked for that is taken is refused with
`componentExists`, and nothing changes. Otherwise the instance is new, it is
registered after every other under the name it carries, and the only failure
left is arithmetic in the initial value of one of its fields, which leaves
the registry as it was.
-/

namespace GameScript

/-! ## The first free name -/

/-- The name `base` followed by `_` and the decimal digits of `k`. -/
def suffixedName (base : String) (k : Nat) : String := base ++ "_" ++ digitText k

/-- `name` is the first of `base`, `base_2`, `base_3`, … that `taken` does not hold. -/
def FirstFree (taken : List String) (base name : String) : Prop :=
  (base ∉ taken ∧ name = base) ∨
    (base ∈ taken ∧ ∃ k, 2 ≤ k ∧ name = suffixedName base k ∧ name ∉ taken ∧
      ∀ j, 2 ≤ j → j < k → suffixedName base j ∈ taken)

theorem uniqueName_of_not_mem {taken : List String} {base : String} (free : base ∉ taken) :
    uniqueName taken base = base := by
  simp [uniqueName, free]

/--
A taken name is followed by the first suffix past a run of taken ones. The
search never falls back on the base, which is taken.
-/
theorem uniqueName_of_mem {taken : List String} {base : String} (taken_base : base ∈ taken) :
    ∃ i, uniqueName taken base = suffixedName base (i + 2) ∧
      ∀ j < i, suffixedName base (j + 2) ∈ taken := by
  have fresh := uniqueName_not_mem taken base
  have searched : (!taken.contains base) = false := by simpa using taken_base
  rw [uniqueName, if_neg (by rw [searched]; decide)] at fresh ⊢
  extract_lets candidates at fresh
  extract_lets at ⊢
  cases found : candidates.find? (!taken.contains ·) with
  | none =>
    rw [found, Option.getD_none] at fresh
    exact absurd taken_base fresh
  | some name =>
    obtain ⟨_, i, below, rfl, earlier⟩ := List.find?_eq_some_iff_getElem.1 found
    refine ⟨i, by simp [candidates, suffixedName], fun j shorter => ?_⟩
    have skipped := earlier j shorter
    simpa [candidates, suffixedName] using skipped

/-- The search for a free name finds the first free one. -/
theorem uniqueName_firstFree (taken : List String) (base : String) :
    FirstFree taken base (uniqueName taken base) := by
  by_cases taken_base : base ∈ taken
  · obtain ⟨i, chosen, earlier⟩ := uniqueName_of_mem taken_base
    refine .inr ⟨taken_base, i + 2, by omega, chosen, chosen ▸ uniqueName_not_mem taken base,
      fun j low high => ?_⟩
    simpa [Nat.sub_add_cancel low] using earlier (j - 2) (by omega)
  · exact .inl ⟨taken_base, uniqueName_of_not_mem taken_base⟩

example : uniqueName ["A", "A_2", "B"] "A" = "A_3" := by decide

/-- A name that is not empty stays so when made unique. -/
theorem uniqueName_ne_empty (taken : List String) {base : String} (named : base ≠ "") :
    uniqueName taken base ≠ "" := by
  rcases uniqueName_firstFree taken base with ⟨-, same⟩ | ⟨-, k, -, suffixed, -⟩
  · rwa [same]
  · rw [suffixed, suffixedName]
    intro empty
    simpa using congrArg String.length empty

/-! ## The name an instance is made under -/

/-- The name an instance of `d` is made under, `taken` being registered: the name asked for unless it is empty, else `d`'s name made unique. -/
def madeName (taken : List String) (d : Declaration) (instanceName : Option String) : String :=
  (instanceName.filter (!·.isEmpty)).getD (uniqueName taken d.name)

@[simp]
theorem madeName_none (taken : List String) (d : Declaration) :
    madeName taken d none = uniqueName taken d.name := rfl

theorem madeName_some (taken : List String) (d : Declaration) (n : String) :
    madeName taken d (some n) = if n.isEmpty then uniqueName taken d.name else n := by
  cases empty : n.isEmpty <;> simp [madeName, Option.filter, empty]

theorem madeName_ne_empty (taken : List String) {d : Declaration} (named : d.name ≠ "")
    (instanceName : Option String) : madeName taken d instanceName ≠ "" := by
  cases instanceName with
  | none => exact uniqueName_ne_empty taken named
  | some n =>
    rw [madeName_some]
    split
    · exact uniqueName_ne_empty taken named
    · next given => simpa using given

namespace Session

/-- A name looks up an instance exactly when it is registered. -/
theorem lookup?_isSome_iff {s : Session} {name : String} :
    (s.lookup? name).isSome ↔ name ∈ s.registry.map (·.1) := by
  simp [lookup?, List.find?_isSome]

end Session

namespace Sim

open Session

/-! ## Two summaries at once, and loops over their own members -/

section Summaries

variable {α β : Type} {R R' : Session → Session → Prop} {E E' : Fault → Prop}

/-- Two summaries of one computation hold together. -/
theorem Keeps.and {m : Sim α} (first : Keeps R E m) (second : Keeps R' E' m) :
    Keeps (fun s t => R s t ∧ R' s t) (fun fault => E fault ∧ E' fault) m := fun s => by
  have both := first s
  have other := second s
  unfold Ends at both other ⊢
  split at both <;> rename_i ran <;> rw [ran] at other
  · exact ⟨both, other⟩
  · exact ⟨⟨both.1, other.1⟩, both.2, other.2⟩

/-- A loop keeps what each round on a member of its list keeps. -/
theorem Keeps.forIn_mem [IsPreorder Session R] {xs : List α} {init : β}
    {body : α → β → Sim (ForInStep β)} (round : ∀ x ∈ xs, ∀ b, Keeps R E (body x b)) :
    Keeps R E (ForIn.forIn xs init body) := by
  induction xs generalizing init with
  | nil => exact Keeps.pure init
  | cons x xs more =>
    rw [List.forIn_cons]
    refine Keeps.bind (round x List.mem_cons_self init) fun step => ?_
    cases step with
    | done b => exact Keeps.pure b
    | yield b => exact more fun y member => round y (List.mem_cons_of_mem x member)

end Summaries

/-! ## Making an instance -/

/--
Making an instance of `d` either refuses a name asked for that is taken,
changing nothing, or registers a new instance after all others under
`madeName`, the name it carries. Its fields take their values in between, by
running scripts that keep the registry and every instance's name, so the only
other failure is arithmetic in an initial value, which registers nothing. An
initial value that runs out of host stack is logged.
-/
theorem instantiate_registers_last (d : Declaration) (instanceName : Option String) (frames : Nat)
    (s : Session) :
    Ends (instantiate d instanceName frames) s
      (fun serial t => serial = s.store.size ∧
        t.registry = s.registry ++ [(madeName (s.registry.map (·.1)) d instanceName, serial)] ∧
        (t.component serial).name = madeName (s.registry.map (·.1)) d instanceName)
      (fun fault t =>
        (∃ n, instanceName = some n ∧ n ∈ s.registry.map (·.1) ∧ fault = .componentExists n ∧ t = s) ∨
          (fault.isArithmetic ∧ (∃ fd ∈ d.fields, fd.init.isSome) ∧ t.registry = s.registry)) := by
  rw [instantiate, ends_bind, ends_get]
  cases instanceName <;> extract_lets name serial make
  all_goals
    have made : ∀ r, Ends (make r) s
        (fun result t => result = s.store.size ∧ t.registry = s.registry ++ [(name, result)] ∧
          (t.component result).name = name)
        (fun fault t => fault.isArithmetic ∧ (∃ fd ∈ d.fields, fd.init.isSome) ∧
          t.registry = s.registry) := by
      intro r
      simp only [make]
      rw [ends_bind, ends_set, ends_bind]
      refine (Keeps.forIn_mem (R := Evolves)
        (E := fun fault => fault.isArithmetic ∧ ∃ fd ∈ d.fields, fd.init.isSome)
        fun fd member _ => ?_).ends _ (fun _ u evolves => ?_)
          fun _ u raised evolves => ⟨raised.1, raised.2, evolves.registry⟩
      · have stored : ∀ v, Keeps Evolves (fun fault => fault.isArithmetic ∧ ∃ fd ∈ d.fields, fd.init.isSome)
            (do modifyComponent serial (·.setField fd.name v); pure (ForInStep.yield PUnit.unit)) :=
          fun v => Keeps.bind (Keeps.modify fun u => Evolves.modifyComponent u serial _
            fun c => c.setField_name _ _) fun _ => Keeps.pure _
        split
        · exact Keeps.bind (Keeps.pure _) stored
        · next e initial =>
          have computed := ((evolves_runs frames).evaluateTop [] (some serial) e).and
            ((safe frames).evaluateTop [] (some serial) e)
          refine Keeps.bind (Keeps.tryCatch (computed.relax fun _ _ both => both.1)
            fun fault raised => ?_) stored
          split
          · exact Keeps.bind ((log_quiet _ _ _ _).relax fun _ _ quiet => Evolves.of_quiet quiet)
              fun _ => Keeps.pure _
          · exact Keeps.throw ⟨raised.2.resolve_left ‹_›, fd, member, by simp [initial]⟩
      · simp only [ends_bind, ends_modify, ends_pure, note, log]
        refine ⟨rfl, by rw [evolves.registry], ?_⟩
        show (u.component serial).name = name
        rw [evolves.names]
        show ((s.store.push _).getD s.store.size default).name = name
        rw [Array.getD_eq_getD_getElem?, Array.getElem?_push_size]
        rfl
  · exact (made ()).mono (fun _ _ done => done) fun _ _ failed => .inr failed
  · next asked =>
    dsimp only
    split
    · next taken => exact .inl ⟨asked, rfl, lookup?_isSome_iff.1 taken, rfl, rfl⟩
    · rw [madeName_some]
      exact (made ()).mono (fun _ _ done => done) fun _ _ failed => .inr failed

/-- A run that can only fail, and only with one fault in one session, is that failure. -/
theorem Ends.run_of_fails {m : Sim α} {s t : Session} {fault : Fault}
    (ends : Ends m s (fun _ _ => False) (fun raised u => raised = fault ∧ u = t)) :
    m.run s = .error fault t := by
  unfold Ends at ends
  split at ends
  · exact ends.elim
  · next ran =>
    obtain ⟨rfl, rfl⟩ := ends
    exact ran

/-- A name asked for that is taken is refused, and nothing changes. -/
theorem instantiate_refuses_taken (d : Declaration) (frames : Nat) {s : Session} {n : String}
    (taken : n ∈ s.registry.map (·.1)) :
    (instantiate d (some n) frames).run s = .error (.componentExists n) s := by
  apply Ends.run_of_fails
  rw [instantiate, ends_bind, ends_get]
  dsimp only
  rw [if_pos (lookup?_isSome_iff.2 taken), ends_bind, ends_throw]
  exact ⟨rfl, rfl⟩

/--
Asking for no name, or for an empty one while no instance has the empty name,
makes a new instance under the first free one of its declaration's name,
`name_2`, `name_3`, …. Only the empty name could have been asked for, and it
is free.
-/
theorem instantiate_unasked_ends (s : Session) (d : Declaration) {instanceName : Option String}
    (asked : instanceName.getD "" = "") (emptyFree : "" ∉ s.registry.map (·.1)) (frames : Nat) :
    Ends (instantiate d instanceName frames) s
      (fun serial t => serial = s.store.size ∧ ∃ name, FirstFree (s.registry.map (·.1)) d.name name ∧
        t.registry = s.registry ++ [(name, serial)] ∧ (t.component serial).name = name)
      (fun fault t => fault.isArithmetic ∧ (∃ fd ∈ d.fields, fd.init.isSome) ∧
        t.registry = s.registry) := by
  have unique : madeName (s.registry.map (·.1)) d instanceName =
      uniqueName (s.registry.map (·.1)) d.name := by
    cases instanceName with
    | none => rfl
    | some n =>
      obtain rfl : n = "" := asked
      rfl
  refine (instantiate_registers_last d instanceName frames s).mono
    (fun _ _ made => ⟨made.1, _, unique ▸ uniqueName_firstFree _ _, made.2⟩) fun _ _ failed => ?_
  rcases failed with ⟨n, given, taken, -⟩ | failed
  · obtain rfl : n = "" := by rw [given] at asked; exact asked
    exact absurd taken emptyFree
  · exact failed

/-- A name asked for that is free names a new instance, registered last. -/
theorem instantiate_asked_ends (s : Session) (d : Declaration) {n : String} (given : n ≠ "")
    (free : n ∉ s.registry.map (·.1)) (frames : Nat) :
    Ends (instantiate d (some n) frames) s
      (fun serial t => serial = s.store.size ∧ t.registry = s.registry ++ [(n, serial)] ∧
        (t.component serial).name = n)
      (fun fault t => fault.isArithmetic ∧ (∃ fd ∈ d.fields, fd.init.isSome) ∧
        t.registry = s.registry) := by
  have chosen : madeName (s.registry.map (·.1)) d (some n) = n := by
    rw [madeName_some, if_neg (by simpa using given)]
  refine (instantiate_registers_last d (some n) frames s).mono (fun _ _ made => chosen ▸ made)
    fun _ _ failed => ?_
  rcases failed with ⟨_, given, taken, -⟩ | failed
  · obtain rfl := Option.some.inj given
    exact absurd taken free
  · exact failed

end Sim

end GameScript
