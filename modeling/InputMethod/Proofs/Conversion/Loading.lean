import InputMethod.Conversion.Engine

/-! # Loading an engine once

An engine reads its configuration on first use, from the files as they are at that moment. A
load succeeds when the configuration and all its dictionaries load and the converter has
conversions; then the converter is kept for good. A load that fails stores nothing, the engine
answers as if it had nothing to convert, and the next call tries again.

A run is a list of calls, each made with the files as they are then (`performAll`). The main
statement, `performAll_loads_once`, says for every run from a fresh engine:

* the converter kept is the one of the first call whose load succeeded (`firstLoad`), so the
  engine is ready exactly when some load succeeded;
* a ready engine stays ready with the same converter after any call;
* a call on an engine that is not ready, when its load fails or it loads nothing, is refused
  and leaves the engine as it was;
* once ready, what later calls answer is fixed by the converter, the random generator and the
  calls alone, whatever the files hold and whatever path the engine was made for (`Agree`).

One step can do little: `converter_perform` says what a call does to the converter, and
`Agree.perform` that two ready engines with one converter and one generator answer alike.
-/

namespace InputMethod

namespace Engine

/-- A call on an engine. -/
inductive Call where
  /-- Load the configuration unless it is loaded. -/
  | prepare
  | convertWord (text : String)
  /-- The default conversion of a text. -/
  | convertText (text : String)
  /-- A conversion with values chosen at random. -/
  | convertRandomly (text : String)

/-- What a call answers. -/
inductive Reply where
  | ready (ready : Bool)
  /-- The forms of a word. -/
  | forms (forms : Option (List String))
  | converted (text : Option String)

def Call.loads : Call → Bool
  | .prepare => true
  | .convertWord text | .convertText text | .convertRandomly text => !text.isEmpty

def Call.refusal : Call → Reply
  | .prepare => .ready false
  | .convertWord _ => .forms none
  | .convertText _ | .convertRandomly _ => .converted none

/-- A call with the files as they are when it is made: its reply and the engine after it. -/
def Call.perform (e : Engine) (fs : Files) : Call → Reply × Engine
  | .prepare => (e.prepare fs).map .ready id
  | .convertWord text => (e.convertWord fs text).map .forms id
  | .convertText text => (e.convertText fs text).map .converted id
  | .convertRandomly text => (e.convertRandomly fs text).map .converted id

/-- Calls one after another, each with the files as they are when it is made: their replies,
    and the engine after the last. -/
def performAll : List (Files × Call) → Engine → List Reply × Engine
  | [], e => ([], e)
  | (fs, c) :: rest, e =>
    let (reply, e') := c.perform e fs
    let (replies, e'') := performAll rest e'
    (reply :: replies, e'')

def usableLoad (fs : Files) (path : String) : Option Converter :=
  match ConverterConfig.load fs path with
  | .ok cv => if cv.stages.isEmpty then none else some cv
  | .error _ => none

/-- The converter of the first call of a run whose load of `path` succeeds. -/
def firstLoad (path : String) (calls : List (Files × Call)) : Option Converter :=
  calls.findSome? fun (fs, c) => if c.loads then usableLoad fs path else none

@[simp] theorem performAll_nil (e : Engine) : performAll [] e = ([], e) := rfl

theorem performAll_cons (fs : Files) (c : Call) (rest : List (Files × Call)) (e : Engine) :
    performAll ((fs, c) :: rest) e =
      ((c.perform e fs).1 :: (performAll rest (c.perform e fs).2).1,
        (performAll rest (c.perform e fs).2).2) :=
  rfl

theorem firstLoad_cons (path : String) (fs : Files) (c : Call) (rest : List (Files × Call)) :
    firstLoad path ((fs, c) :: rest) =
      (if c.loads then usableLoad fs path else none).or (firstLoad path rest) := by
  rw [firstLoad, List.findSome?_cons]
  dsimp only
  cases (if c.loads then usableLoad fs path else none) <;> rfl

theorem usableLoad_eq_some {fs : Files} {path : String} {cv : Converter} :
    usableLoad fs path = some cv ↔ ConverterConfig.load fs path = .ok cv ∧ cv.stages ≠ [] := by
  unfold usableLoad
  cases ConverterConfig.load fs path with
  | error => simp
  | ok loaded =>
    simp only [Except.ok.injEq]
    constructor
    · intro found
      split at found
      · cases found
      · next nonempty =>
        cases found
        exact ⟨rfl, fun noStages => nonempty (List.isEmpty_iff.mpr noStages)⟩
    · rintro ⟨rfl, nonempty⟩
      rw [if_neg fun empty => nonempty (List.isEmpty_iff.mp empty)]

/-! ## One call -/

theorem prepare_of_ready {e : Engine} {cv : Converter} (ready : e.converter = some cv)
    (fs : Files) : e.prepare fs = (true, e) := by
  rw [prepare, ready]

theorem prepare_of_unready {e : Engine} (unready : e.converter = none) (fs : Files) :
    e.prepare fs = match usableLoad fs e.configPath with
      | some cv => (true, { e with converter := some cv })
      | none => (false, e) := by
  rw [prepare, unready, usableLoad]
  cases ConverterConfig.load fs e.configPath with
  | error => rfl
  | ok cv => by_cases empty : cv.stages.isEmpty <;> simp [empty]

theorem loaded_of_ready {e : Engine} {cv : Converter} (ready : e.converter = some cv)
    (fs : Files) : e.loaded fs = (some cv, e) := by
  simp only [loaded, prepare_of_ready ready, ready]

theorem loaded_of_failed {e : Engine} (unready : e.converter = none) {fs : Files}
    (failed : usableLoad fs e.configPath = none) : e.loaded fs = (none, e) := by
  simp only [loaded, prepare_of_unready unready, failed, unready]

theorem loaded_of_usable {e : Engine} (unready : e.converter = none) {fs : Files} {cv : Converter}
    (usable : usableLoad fs e.configPath = some cv) :
    e.loaded fs = (some cv, { e with converter := some cv }) := by
  simp only [loaded, prepare_of_unready unready, usable]

/-- A call keeps the path the engine was made for. -/
@[simp] theorem configPath_perform (e : Engine) (fs : Files) (c : Call) :
    (c.perform e fs).2.configPath = e.configPath := by
  cases known : e.converter with
  | some cv =>
    cases c <;>
      simp [Call.perform, prepare_of_ready known, convertWord, convertText, convertRandomly,
        loaded_of_ready known, apply_ite]
  | none =>
    cases usable : usableLoad fs e.configPath <;> cases c <;>
      simp [Call.perform, prepare_of_unready known, convertWord, convertText, convertRandomly,
        loaded_of_failed known, loaded_of_usable known, usable, apply_ite]

/-- What a call does to the converter: a loaded one stays, and an engine that is not loaded
    keeps what a load gives, when the call loads. -/
theorem converter_perform (e : Engine) (fs : Files) (c : Call) :
    (c.perform e fs).2.converter =
      e.converter.or (if c.loads then usableLoad fs e.configPath else none) := by
  cases known : e.converter with
  | some cv =>
    cases c <;>
      simp [Call.perform, prepare_of_ready known, convertWord, convertText, convertRandomly,
        loaded_of_ready known, apply_ite, known]
  | none =>
    cases usable : usableLoad fs e.configPath <;> cases c <;>
      simp [Call.perform, prepare_of_unready known, convertWord, convertText, convertRandomly,
        loaded_of_failed known, loaded_of_usable known, Call.loads, usable, apply_ite, known]

theorem perform_of_unready {e : Engine} (unready : e.converter = none) (fs : Files) (c : Call)
    (failed : c.loads = true → usableLoad fs e.configPath = none) :
    c.perform e fs = (c.refusal, e) := by
  cases c with
  | prepare =>
    simp [Call.perform, prepare_of_unready unready, failed rfl, Call.refusal]
  | convertWord text | convertText text | convertRandomly text =>
    by_cases empty : text.isEmpty
    · simp [Call.perform, convertWord, convertText, convertRandomly, empty, Call.refusal]
    · have nothing := failed (by simp [Call.loads, empty])
      simp [Call.perform, convertWord, convertText, convertRandomly, empty, Call.refusal,
        loaded_of_failed unready nothing]

/-! ## Engines that answer alike -/

/-- Two loaded engines with one converter and one generator, whatever their paths. -/
def Agree (e e' : Engine) : Prop :=
  e.isReady = true ∧ e.converter = e'.converter ∧ e.generator = e'.generator

/-- Two engines that agree answer one call alike, whatever files each sees, and still agree. -/
theorem Agree.perform {e e' : Engine} (agree : Agree e e') (fs fs' : Files) (c : Call) :
    (c.perform e fs).1 = (c.perform e' fs').1 ∧ Agree (c.perform e fs).2 (c.perform e' fs').2 := by
  obtain ⟨ready, sameConverter, sameGenerator⟩ := agree
  obtain ⟨cv, known⟩ := Option.isSome_iff_exists.mp ready
  have known' : e'.converter = some cv := sameConverter ▸ known
  have stillReady : ∀ g, Agree { e with generator := g } { e' with generator := g } :=
    fun g => ⟨by simp [isReady, known], sameConverter, rfl⟩
  cases c with
  | prepare =>
    simp only [Call.perform, prepare_of_ready known, prepare_of_ready known']
    exact ⟨rfl, ready, sameConverter, sameGenerator⟩
  | convertWord text | convertText text =>
    by_cases empty : text.isEmpty <;>
      simp only [Call.perform, convertWord, convertText, loaded_of_ready known,
        loaded_of_ready known', empty, if_true, if_false, Bool.false_eq_true, Prod.map] <;>
      exact ⟨trivial, ready, sameConverter, sameGenerator⟩
  -- both draw from one generator, so both draw alike and keep one generator
  | convertRandomly text =>
    by_cases empty : text.isEmpty
    · simp only [Call.perform, convertRandomly, empty, if_true, Prod.map]
      exact ⟨trivial, ready, sameConverter, sameGenerator⟩
    · simp only [Call.perform, convertRandomly, loaded_of_ready known, loaded_of_ready known',
        empty, if_false, Bool.false_eq_true, Prod.map, sameGenerator]
      exact ⟨trivial, stillReady _⟩

/-- Two engines that agree answer every run of calls alike, whatever files each call sees. -/
theorem Agree.performAll {e e' : Engine} (agree : Agree e e') :
    ∀ calls calls' : List (Files × Call), calls.map Prod.snd = calls'.map Prod.snd →
      (Engine.performAll calls e).1 = (Engine.performAll calls' e').1
  | [], [], _ => rfl
  | [], _ :: _, same | _ :: _, [], same => nomatch same
  | (fs, c) :: rest, (fs', c') :: rest', same => by
    simp only [List.map_cons, List.cons.injEq] at same
    obtain ⟨rfl, sameRest⟩ := same
    obtain ⟨sameReply, stillAgree⟩ := agree.perform fs fs' c
    rw [performAll_cons, performAll_cons, sameReply,
      stillAgree.performAll rest rest' sameRest]

/-! ## Whole runs -/

theorem converter_performAll (calls : List (Files × Call)) (e : Engine) :
    (performAll calls e).2.converter = e.converter.or (firstLoad e.configPath calls) := by
  induction calls generalizing e with
  | nil => simp [firstLoad]
  | cons call rest inductionHypothesis =>
    obtain ⟨fs, c⟩ := call
    rw [performAll_cons, inductionHypothesis, converter_perform, configPath_perform,
      firstLoad_cons, Option.or_assoc]

/-- A run keeps the path the engine was made for. -/
@[simp] theorem configPath_performAll (calls : List (Files × Call)) (e : Engine) :
    (performAll calls e).2.configPath = e.configPath := by
  induction calls generalizing e with
  | nil => rfl
  | cons call rest inductionHypothesis =>
    obtain ⟨fs, c⟩ := call
    rw [performAll_cons, inductionHypothesis, configPath_perform]

theorem isSome_firstLoad (path : String) (calls : List (Files × Call)) :
    (firstLoad path calls).isSome = true ↔ ∃ fs c, (fs, c) ∈ calls ∧ c.loads = true ∧
      ∃ cv, ConverterConfig.load fs path = .ok cv ∧ cv.stages ≠ [] := by
  rw [firstLoad, List.findSome?_isSome_iff]
  constructor
  · rintro ⟨⟨fs, c⟩, member, found⟩
    by_cases loads : c.loads
    · simp only [loads, if_true] at found
      obtain ⟨cv, usable⟩ := Option.isSome_iff_exists.mp found
      exact ⟨fs, c, member, loads, cv, usableLoad_eq_some.mp usable⟩
    · simp [loads] at found
  · rintro ⟨fs, c, member, loads, cv, loadedOk⟩
    exact ⟨(fs, c), member, by simp [loads, usableLoad_eq_some.mpr loadedOk]⟩

/-- For every run of calls on a fresh engine, each call made with the files as they are then:
    the converter kept is the one of the first call whose load succeeded, so the engine is
    ready exactly when some load read the configuration and every dictionary and found
    conversions. A ready engine stays ready with the same converter after any call. A call on an
    engine that is not ready, when its load fails or it loads nothing, is refused (not ready,
    nothing converted) and leaves the engine unchanged, with no converter, so the next call
    loads again. Once ready, what every later run answers is fixed by the converter, the
    generator and the calls alone, whatever the files hold then. -/
theorem performAll_loads_once (path : String) (seed : UInt64) (calls : List (Files × Call)) :
    let e := (performAll calls (create path seed)).2
    e.converter = firstLoad path calls ∧
      (e.isReady = true ↔ ∃ fs c, (fs, c) ∈ calls ∧ c.loads = true ∧
        ∃ cv, ConverterConfig.load fs path = .ok cv ∧ cv.stages ≠ []) ∧
      (∀ fs (c : Call), e.isReady = true →
        (c.perform e fs).2.isReady = true ∧ (c.perform e fs).2.converter = e.converter) ∧
      (∀ fs (c : Call), e.isReady = false → (c.loads = true → usableLoad fs path = none) →
        c.perform e fs = (c.refusal, e)) ∧
      (e.isReady = true → ∀ e' : Engine, e'.converter = e.converter →
        e'.generator = e.generator → ∀ more more' : List (Files × Call),
          more.map Prod.snd = more'.map Prod.snd →
          (performAll more e).1 = (performAll more' e').1) := by
  intro e
  have kept : e.converter = firstLoad path calls := by
    simp [e, converter_performAll, create]
  have samePath : e.configPath = path := by
    simp [e, create]
  refine ⟨kept, ?_, ?_, ?_, ?_⟩
  · rw [isReady, kept]
    exact isSome_firstLoad path calls
  · intro fs c ready
    obtain ⟨cv, known⟩ := Option.isSome_iff_exists.mp ready
    have after := converter_perform e fs c
    rw [known, Option.some_or] at after
    exact ⟨by rw [isReady, after]; rfl, by rw [after, known]⟩
  · intro fs c unready failed
    exact perform_of_unready (Option.not_isSome_iff_eq_none.mp (by simpa [isReady] using unready)) fs c
      (samePath ▸ failed)
  · intro ready e' sameConverter sameGenerator more more' same
    exact (Agree.performAll ⟨ready, sameConverter.symm, sameGenerator.symm⟩) more more' same

end Engine

end InputMethod
