import GameScript.Proofs.SceneRuns
import GameScript.Session.Host

/-!
# Loading text in one piece or in two

Two texts that each read as declarations, joined by a line feed, load as the
first and then the second: the same instances, fields, entities and `init`
runs, in the same order.  The joined text scans as the first text's tokens
and the second's moved down (`Token.scan_append_feed`) and reads as the
first text's declarations and the second's moved down
(`Declaration.ofSource_append_feed`); a declaration moved down makes an
instance that runs as the declaration's own (`instantiate_shiftLines`), since
no run reads a position; so loading the joined text ends as loading the two
one after the other, in sessions holding the same scene
(`joined_source_loads_as_parts`).  What differs is where the second text's
warnings stand in the trace: the joined text's come first, all of them.
-/

namespace GameScript

/-- The host's trace records of scan errors logged as warnings, in order. -/
def ScanError.warnings (errors : List ScanError) : Array HostRecord :=
  (errors.map fun e => (⟨.warning, "soulscript.simulation", e.logText⟩ : HostRecord)).toArray

theorem ScanError.warnings_append (errors more : List ScanError) :
    ScanError.warnings (errors ++ more) = ScanError.warnings errors ++ ScanError.warnings more := by
  simp only [ScanError.warnings, List.map_append, List.append_toArray]

namespace Sim

open Session

/--
One round of `load`: make an instance of a declaration, bind it to a new
entity when the settings say so, run its `init`, and add its name to those
made so far.
-/
def loadRound (positions : List (String × Vec2)) (d : Declaration) (names : List String) :
    Sim (ForInStep (List String)) := do
  let serial ← instantiate d none (hostFrames - 4)
  let c ← component serial
  let position ← if (← get).settings.bindEntities then do
      let requested := (positions.find? (·.1 == c.name)).orElse fun _ =>
        positions.find? (·.1 == d.name)
      let id ← createEntity (hostFrames - 1) d.name (requested.map (·.2)) (some serial)
      pure ((((← get).world.find? id).map (Value.vec2 ·.position)).getD .null)
    else pure .null
  match c.method? "init" with
  | some m => runMethod (hostFrames - 1) serial m [position] ("Error in init for " ++ c.name)
  | none => pure ()
  return .yield (names ++ [c.name])

/-- Logging scan errors as warnings writes one record each to the trace and changes nothing but the log. -/
theorem warn_run (errors : List ScanError) (s : Session) :
    ∃ log, (forIn errors PUnit.unit fun (e : ScanError) _ => do
        Sim.log .warning e.logText
        pure (ForInStep.yield PUnit.unit)).run s =
      .ok PUnit.unit { s with log, trace := s.trace ++ ScanError.warnings errors } := by
  induction errors generalizing s with
  | nil => exact ⟨s.log, by simp [ScanError.warnings]⟩
  | cons e rest more =>
    rw [List.forIn_cons]
    obtain ⟨log, run⟩ := more { s with
      log := s.log.push ⟨.warning, e.logText, s.currentEntity?.map (·.id)⟩
      trace := s.trace.push ⟨.warning, "soulscript.simulation", e.logText⟩ }
    refine ⟨log, ?_⟩
    rw [EStateM.run_bind]
    refine run.trans ?_
    simp [ScanError.warnings]

theorem parse_run (source : String) (s : Session) :
    ∃ log, (parse source).run s =
      .ok (Declaration.ofTokens (Token.scan source).1, (Token.scan source).2)
        { s with log, trace := s.trace ++ ScanError.warnings (Token.scan source).2 } := by
  unfold parse
  obtain ⟨log, run⟩ := warn_run (Token.scan source).2 s
  refine ⟨log, ?_⟩
  rw [EStateM.run_bind, run]
  rfl

theorem load_run {source : String} {ds : List Declaration}
    (read : Declaration.ofTokens (Token.scan source).1 = .ok ds) (positions : List (String × Vec2))
    (s : Session) :
    ∃ log, (load source positions).run s =
      (forIn ds [] (loadRound positions) >>= fun names => pure ⟨names, (Token.scan source).2, none⟩).run
        { s with log, trace := s.trace ++ ScanError.warnings (Token.scan source).2 } := by
  obtain ⟨log, parsed⟩ := parse_run source s
  refine ⟨log, ?_⟩
  unfold load
  rw [EStateM.run_bind, parsed]
  dsimp only
  rw [read]
  rfl

/-- Running an expression moved down some lines is running it where it stood. -/
theorem evaluateTop_shiftLines (frames k : Nat) (scope : Scope) (self : Option Nat) (e : Expr) :
    evaluateTop frames scope self (e.shiftLines k) = evaluateTop frames scope self e := by
  rw [← (ignoresPositions frames).evaluateTop scope self (e.shiftLines k), Expr.strip_shiftLines,
    (ignoresPositions frames).evaluateTop]

variable {lead : Array HostRecord × Array HostRecord}

/--
A declaration moved down some lines makes an instance as the declaration
itself does. The instance goes in with its methods moved, its fields take
their initial values, then it is registered.
-/
theorem instantiate_shiftLines (k : Nat) (d : Declaration) (instanceName : Option String) (frames : Nat) :
    Related (SameScene lead) Eq (instantiate (d.shiftLines k) instanceName frames)
      (instantiate d instanceName frames) := by
  unfold instantiate
  refine Related.get_bind fun s t same => ?_
  extract_lets name_l serial_l make_l name_r serial_r make_r
  have named : name_l = name_r := by simp only [name_l, name_r, same.registry, Declaration.shiftLines]
  have numbered : serial_l = serial_r := by simp only [serial_l, serial_r, same.storeSize]
  have made : ∀ r, Related (SameScene lead) Eq (make_l r) (make_r r) := by
    intro r
    simp -zeta only [make_l, make_r]
    rw [named, numbered]
    refine (Related.set (same.push ?_)).bind_same fun _ => ?_
    · simp only [Component.strip, Declaration.methodTable_shiftLines]
      rfl
    refine (Related.forIn (S := Eq) rfl fun fd _ _ _ => ?_).bind_same fun _ => ?_
    · have stored : ∀ v, Related (SameScene lead) (StepsRelated Eq)
          (modifyComponent serial_r (·.setField fd.name v) >>= fun _ => pure (ForInStep.yield PUnit.unit))
          (modifyComponent serial_r (·.setField fd.name v) >>= fun _ => pure (ForInStep.yield PUnit.unit)) :=
        fun v => (modifyComponent_matched serial_r fun c c' stripped => by
          rw [Component.setField_strip, Component.setField_strip, stripped]).bind_same fun _ => Related.pure rfl
      dsimp only [FieldDecl.shiftLines]
      cases fd.init with
      | none => exact (Related.pure rfl).bind_same stored
      | some e =>
        dsimp only [Option.map]
        rw [evaluateTop_shiftLines]
        refine (Related.tryCatch ((runsMatched frames).evaluateTop [] (some serial_r) e) fun fault => ?_).bind_same
          stored
        split
        · exact (log_matched _ _ _).bind_same fun _ => Related.pure rfl
        · exact Related.throw _
    refine (Related.modify fun s t same => { same with registry := by rw [same.registry] }).bind_same fun _ => ?_
    exact (note_matched _ _ _).bind_same fun _ => (log_matched _ _ _).bind_same fun _ => Related.pure rfl
  simp only [same.lookup?]
  split
  · exact Related.ite _ (fun _ => Related.throw_bind _) fun _ => made ()
  · exact made ()

/-- Rounds of two loops that both go on, the names of the first being `pre` and then those of the second. -/
def GoOnAfter (pre : List String) (step step' : ForInStep (List String)) : Prop :=
  ∃ names, step = .yield (pre ++ names) ∧ step' = .yield names

/--
One round of loading a declaration moved down some lines goes as the round of
the declaration itself, and adds the same name to the names made so far.
`init` runs alike on both sides, with the position the entity got, if any.
-/
theorem loadRound_shiftLines (positions : List (String × Vec2)) (k : Nat) (pre : List String)
    (d : Declaration) {names names' : List String} (earlier : names = pre ++ names') :
    Related (SameScene lead) (GoOnAfter pre)
      (loadRound positions (d.shiftLines k) names) (loadRound positions d names') := by
  unfold loadRound
  refine (instantiate_shiftLines k d none _).bind_same fun serial => ?_
  refine (component_matched serial).bind fun c c' stripped => ?_
  have added : GoOnAfter pre (ForInStep.yield (names ++ [c'.name])) (ForInStep.yield (names' ++ [c'.name])) :=
    ⟨names' ++ [c'.name], by rw [earlier, List.append_assoc], rfl⟩
  rw [Component.name_of_strip stripped]
  dsimp only [Declaration.shiftLines]
  have started : ∀ position : Value, Related (SameScene lead) (GoOnAfter pre)
      (match c.method? "init" with
        | some m => do
          runMethod (hostFrames - 1) serial m [position] ("Error in init for " ++ c'.name)
          pure (ForInStep.yield (names ++ [c'.name]))
        | none => pure (ForInStep.yield (names ++ [c'.name])))
      (match c'.method? "init" with
        | some m => do
          runMethod (hostFrames - 1) serial m [position] ("Error in init for " ++ c'.name)
          pure (ForInStep.yield (names' ++ [c'.name]))
        | none => pure (ForInStep.yield (names' ++ [c'.name]))) := by
    intro position
    rcases Component.method?_cases stripped "init" with ⟨found, found'⟩ | ⟨m, m', found, found', methods⟩
    · rw [found, found']
      exact Related.pure added
    · rw [found, found']
      exact (runMethod_of_strip (runsMatched _).runMethod serial methods _ _).bind_same fun _ =>
        Related.pure added
  refine Related.get_bind fun u v same => ?_
  rw [same.settings]
  refine Related.ite _ (fun _ => ?_) fun _ => (Related.pure rfl).bind_same started
  refine ((runsMatched _).createEntity _ _ _).bind_same fun id => Related.get_bind fun w x same => ?_
  rw [same.world]
  exact (Related.pure rfl).bind_same started

/--
The rounds of loading declarations moved down some lines, after names made
before, go as the rounds of the declarations themselves from no names.
-/
theorem rounds_shiftLines (positions : List (String × Vec2)) (k : Nat) (pre : List String)
    (ds : List Declaration) :
    Related (SameScene lead) (fun a b => a = pre ++ b)
      (forIn (ds.map (Declaration.shiftLines k)) pre (loadRound positions))
      (forIn ds [] (loadRound positions)) :=
  Related.forIn (List.append_nil pre).symm fun d _ _ earlier =>
    (loadRound_shiftLines positions k pre d earlier).weaken fun _ _ ⟨_, left, right⟩ => by
      rw [left, right]
      rfl

/-- A round of loading never stops the loop early. -/
theorem loadRound_yields (positions : List (String × Vec2)) (d : Declaration) (names : List String)
    (s : Session) (step : ForInStep (List String)) (s' : Session)
    (ran : (loadRound positions d names).run s = .ok step s') : ∃ names', step = .yield names' := by
  have alike := loadRound_shiftLines positions 0 [] d (show names = [] ++ names from rfl) s s
    (SameScene.refl s)
  rw [Declaration.shiftLines_zero, id, ran] at alike
  obtain ⟨⟨names', yielded, _⟩, _⟩ := alike
  exact ⟨[] ++ names', yielded⟩

/--
How loading two texts joined by a line feed ends (`joined`), against loading
the first and then the second (`apart`), from a session whose trace was
`start`; `errors₁` and `errors₂` are the scan errors of the two texts and `k`
the lines the second moves down.  Both load, the joined text making the
instances of the first and then those of the second, with the scan errors of
the first and then those of the second moved; and the sessions hold the same
scene, the trace of each having the warnings of both texts, then what the
first text's instances did, then the same after that, save that loading apart
writes the second text's warnings only after the first text's instances are
made.  Or both fail with one fault, in sessions holding the same scene.
-/
def LoadsJoined (k : Nat) (start : Array HostRecord) (errors₁ errors₂ : List ScanError) :
    EStateM.Result Fault Session LoadReport → EStateM.Result Fault Session (LoadReport × LoadReport) → Prop
  | .ok joined s, .ok apart t =>
    joined.components = apart.1.components ++ apart.2.components ∧
    joined.scanErrors = apart.1.scanErrors ++ apart.2.scanErrors.map (ScanError.shiftLines k) ∧
    joined.syntaxError = none ∧ apart.1.syntaxError = none ∧ apart.2.syntaxError = none ∧
    ∃ made, s.SameScene
      (start ++ ScanError.warnings errors₁ ++ ScanError.warnings (errors₂.map (ScanError.shiftLines k)) ++ made,
        start ++ ScanError.warnings errors₁ ++ made ++ ScanError.warnings errors₂) t
  | .error e s, .error e' t => e = e' ∧ ∃ lead, s.SameScene lead t
  | _, _ => False

/--
Loading two texts joined, against loading one and then the other, both read as
declarations. Loading apart runs the first text's rounds after its warnings,
then the second text; loading joined runs the first text's rounds after both
texts' warnings, then the second's moved.  The rounds run alike, the two sides
differing in their logs and traces only: what the first text's instances did
comes after both texts' warnings in one, before the second's in the other.
-/
theorem load_append_feed {first second : String} {ds₁ ds₂ : List Declaration}
    (readFirst : Declaration.ofTokens (Token.scan first).1 = .ok ds₁)
    (readSecond : Declaration.ofTokens (Token.scan second).1 = .ok ds₂)
    (readJoined : Declaration.ofTokens (Token.scan (first ++ "\n" ++ second)).1 =
      .ok (ds₁ ++ ds₂.map (Declaration.shiftLines (1 + first.toList.count '\n'))))
    (positions : List (String × Vec2)) (s : Session) :
    LoadsJoined (1 + first.toList.count '\n') s.trace (Token.scan first).2 (Token.scan second).2
      ((load (first ++ "\n" ++ second) positions).run s)
      ((do let r₁ ← load first positions; let r₂ ← load second positions; pure (r₁, r₂)).run s) := by
  obtain ⟨logJ, joinedRun⟩ := load_run readJoined positions s
  obtain ⟨log₁, firstRun⟩ := load_run readFirst positions s
  have errors := congrArg Prod.snd (Token.scan_append_feed first second)
  have apart : (do let r₁ ← load first positions; let r₂ ← load second positions; pure (r₁, r₂)).run s =
      ((forIn ds₁ [] (loadRound positions) >>= fun names => pure ⟨names, (Token.scan first).2, none⟩) >>=
        fun r₁ => load second positions >>= fun r₂ => pure (r₁, r₂)).run
        { s with log := log₁, trace := s.trace ++ ScanError.warnings (Token.scan first).2 } := by
    rw [EStateM.run_bind, firstRun]
    rfl
  rw [joinedRun, apart, forIn_append_of_yields (loadRound_yields positions)]
  simp only [bind_assoc, pure_bind]
  have firstRounds := rounds_shiftLines positions 0 [] ds₁ _ _
    ((SameScene.refl s).retrace logJ log₁
      (s.trace ++ ScanError.warnings (Token.scan (first ++ "\n" ++ second)).2)
      (s.trace ++ ScanError.warnings (Token.scan first).2))
  rw [Declaration.shiftLines_zero, List.map_id] at firstRounds
  refine firstRounds.run_bind (fun _ u v same => ⟨rfl, _, same⟩) fun n₁ n₁' u v named same => ?_
  rw [List.nil_append] at named
  subst named
  obtain ⟨log₂, secondRun⟩ := load_run readSecond positions v
  rw [EStateM.run_bind (load second positions), secondRun, ← EStateM.run_bind]
  simp only [bind_assoc, pure_bind]
  refine (rounds_shiftLines positions (1 + first.toList.count '\n') n₁ ds₂ u _
    (same.retrace u.log log₂ u.trace (v.trace ++ ScanError.warnings (Token.scan second).2))).run_bind
    (fun _ _ _ same₂ => ⟨rfl, _, same₂⟩) fun n n₂ u₂ v₂ named same₂ => ?_
  refine ⟨named, errors, rfl, rfl, rfl, ?_⟩
  obtain ⟨made, before, after⟩ := same.trace
  refine ⟨made, ?_⟩
  dsimp only at before after
  rw [before, after, errors, ScanError.warnings_append] at same₂
  simpa only [Array.append_assoc] using same₂

/--
Two texts that each read as declarations, joined by a line feed: the joined
text scans as the first's tokens without its end and the second's moved down
by the first's lines, with the scan errors of both, the second's moved alike;
it reads as the first's declarations and the second's moved down; and it loads
as the first and then the second (`LoadsJoined`). A text that reads gives its
declarations, and its tokens read as them.
-/
theorem joined_source_loads_as_parts {first second : String}
    (readFirst : (Declaration.ofSource false first).isOk)
    (readSecond : (Declaration.ofSource false second).isOk) :
    Token.scan (first ++ "\n" ++ second) =
        ((Token.scan first).1.dropLast ++
            (Token.scan second).1.map (Token.shiftLines (1 + first.toList.count '\n')),
          (Token.scan first).2 ++
            (Token.scan second).2.map (ScanError.shiftLines (1 + first.toList.count '\n'))) ∧
      (∃ ds₁ ds₂, Declaration.ofSource false first = .ok ds₁ ∧ Declaration.ofSource false second = .ok ds₂ ∧
        Declaration.ofSource false (first ++ "\n" ++ second) =
          .ok (ds₁ ++ ds₂.map (Declaration.shiftLines (1 + first.toList.count '\n')))) ∧
      ∀ positions s, LoadsJoined (1 + first.toList.count '\n') s.trace (Token.scan first).2
        (Token.scan second).2 ((load (first ++ "\n" ++ second) positions).run s)
        ((do let r₁ ← load first positions; let r₂ ← load second positions; pure (r₁, r₂)).run s) := by
  have declarations : ∀ {source : String}, (Declaration.ofSource false source).isOk →
      ∃ ds, Declaration.ofSource false source = .ok ds := by
    intro source read
    cases found : Declaration.ofSource false source with
    | ok ds => exact ⟨ds, rfl⟩
    | error => simp [found, Except.isOk, Except.toBool] at read
  have tokens : ∀ {source : String} {ds : List Declaration}, Declaration.ofSource false source = .ok ds →
      Declaration.ofTokens (Token.scan source).1 = .ok ds := by
    intro source ds read
    rw [Declaration.ofSource_lenient] at read
    cases found : Declaration.ofTokens (Token.scan source).1 with
    | ok ds' => simpa [found, Except.mapError] using read
    | error => simp [found, Except.mapError] at read
  obtain ⟨ds₁, read₁⟩ := declarations readFirst
  obtain ⟨ds₂, read₂⟩ := declarations readSecond
  have joined := Declaration.ofSource_append_feed read₁ read₂
  exact ⟨Token.scan_append_feed first second, ⟨ds₁, ds₂, read₁, read₂, joined⟩,
    fun positions s => load_append_feed (tokens read₁) (tokens read₂) (tokens joined) positions s⟩

/-- Two components, each on a line of its own: both read, so the joined text loads as the two. -/
theorem two_components_load_joined :
    (Declaration.ofSource false "component A \x7b \x7d").isOk ∧ (Declaration.ofSource false "component B \x7b \x7d").isOk ∧
      (Token.scan ("component A \x7b \x7d" ++ "\n" ++ "component B \x7b \x7d") =
          ((Token.scan "component A \x7b \x7d").1.dropLast ++
              (Token.scan "component B \x7b \x7d").1.map (Token.shiftLines (1 + "component A \x7b \x7d".toList.count '\n')),
            (Token.scan "component A \x7b \x7d").2 ++
              (Token.scan "component B \x7b \x7d").2.map (ScanError.shiftLines (1 + "component A \x7b \x7d".toList.count '\n'))) ∧
        (∃ ds₁ ds₂, Declaration.ofSource false "component A \x7b \x7d" = .ok ds₁ ∧
          Declaration.ofSource false "component B \x7b \x7d" = .ok ds₂ ∧
          Declaration.ofSource false ("component A \x7b \x7d" ++ "\n" ++ "component B \x7b \x7d") =
            .ok (ds₁ ++ ds₂.map (Declaration.shiftLines (1 + "component A \x7b \x7d".toList.count '\n')))) ∧
        ∀ positions s, LoadsJoined (1 + "component A \x7b \x7d".toList.count '\n') s.trace (Token.scan "component A \x7b \x7d").2
          (Token.scan "component B \x7b \x7d").2 ((load ("component A \x7b \x7d" ++ "\n" ++ "component B \x7b \x7d") positions).run s)
          ((do let r₁ ← load "component A \x7b \x7d" positions; let r₂ ← load "component B \x7b \x7d" positions; pure (r₁, r₂)).run s)) :=
  ⟨by decide +kernel, by decide +kernel, joined_source_loads_as_parts (by decide +kernel) (by decide +kernel)⟩

end Sim

end GameScript
