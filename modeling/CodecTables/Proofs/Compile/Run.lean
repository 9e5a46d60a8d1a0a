import CodecTables.Compile.Rule
import CodecTables.Proofs.Source.Declared

/-!
# Runs of steps

A step of compiling goes through, giving a value, or stops; either way it leaves a state. The
lemmas here take a run of several steps apart into the runs of each (`takes_bind`, `takes_mapM`),
and say for the steps that change a state what they change.
-/

namespace CodecTables.Compile

open Source (Node)

variable {α β : Type}

/-- What a step gives, or why it stops, and the state that it leaves. -/
def outcome (step : Step α) (s : State) : Except Stop α × State := step s

/-- The step goes through from the state `s` to the state `t` and gives a value. -/
def Takes (step : Step α) (s : State) (value : α) (t : State) : Prop :=
  outcome step s = (.ok value, t)

/-- Why a step stops, if it does. -/
def stopOf (step : Step α) (s : State) : Option Stop :=
  match (outcome step s).1 with
  | .error stop => some stop
  | .ok _ => none

/-- A step that goes through does not stop. -/
theorem stopOf_of_takes {step : Step α} {s t : State} {a : α} (run : Takes step s a t) :
    stopOf step s = none := by
  rw [stopOf, show outcome step s = _ from run]

/-- A step that does not stop goes through. -/
theorem exists_takes_of_stopOf {step : Step α} {s : State} (goes : stopOf step s = none) :
    ∃ a t, Takes step s a t := by
  rw [stopOf] at goes
  rcases run : outcome step s with ⟨stop | a, t⟩
  · rw [run] at goes
    cases goes
  · exact ⟨a, t, run⟩

/-! ### Several steps -/

/-- Two steps stop where the first one does, or else end as the second one does. -/
theorem outcome_bind (step : Step α) (next : α → Step β) (s : State) :
    outcome (step >>= next) s =
      match outcome step s with
      | (.ok a, t) => outcome (next a) t
      | (.error e, t) => (.error e, t) := by
  simp only [outcome, bind, ExceptT.bind, ExceptT.mk, StateT.bind, ExceptT.bindCont]
  rcases step s with ⟨_ | a, t⟩ <;> rfl

/-- Two steps go through if the second goes through from where the first leads. -/
theorem takes_bind {step : Step α} {next : α → Step β} {s u : State} {b : β} :
    Takes (step >>= next) s b u ↔ ∃ a t, Takes step s a t ∧ Takes (next a) t b u := by
  unfold Takes
  rw [outcome_bind]
  rcases outcome step s with ⟨_ | a, t⟩ <;> simp [and_assoc]

theorem takes_pure {a b : α} {s t : State} : Takes (pure a) s b t ↔ b = a ∧ t = s := by
  have run : outcome (pure a) s = (.ok a, s) := rfl
  simp [Takes, run, eq_comm]

theorem not_takes_throw {e : Stop} {s t : State} {a : α} : ¬ Takes (throw e) s a t := by
  have run : outcome (throw e : Step α) s = (.error e, s) := rfl
  simp [Takes, run]

/-- A step for each element of a list, one after the other. -/
inductive TakesEach (step : α → Step β) : State → List α → List β → State → Prop
  | nil (s : State) : TakesEach step s [] [] s
  | cons {s t u : State} {a : α} {b : β} {as : List α} {bs : List β} :
      Takes (step a) s b t → TakesEach step t as bs u → TakesEach step s (a :: as) (b :: bs) u

/-- Steps over a list go through if each of them does, from where the one before leads. -/
theorem takes_mapM {step : α → Step β} {as : List α} {bs : List β} {s t : State} :
    Takes (as.mapM step) s bs t ↔ TakesEach step s as bs t := by
  induction as generalizing s bs with
  | nil =>
    rw [List.mapM_nil, takes_pure]
    constructor
    · rintro ⟨rfl, rfl⟩
      exact .nil _
    · rintro ⟨⟩
      exact ⟨rfl, rfl⟩
  | cons a as ih =>
    simp only [List.mapM_cons, takes_bind, takes_pure]
    constructor
    · rintro ⟨b, u, first, bs', v, rest, rfl, rfl⟩
      exact .cons first (ih.mp rest)
    · intro run
      cases run with
      | cons first rest => exact ⟨_, _, first, _, _, ih.mpr rest, rfl, rfl⟩

/-! ### Single changes of the state -/

namespace State

/-- The state with one more statement. -/
def add (s : State) (statement : Node) : State :=
  { s with statements := s.statements ++ [statement] }

/-- The state with one more section. -/
def headed (s : State) (title : String) : State := s.add (.comment ("MARK:- " ++ title ++ "\n"))

/-- The state after a number of a stem was given out. -/
def mint (s : State) (stem : String) : State := { s with names := s.names.advance stem }

/-- The state in which a struct type is in use. -/
def use (s : State) (name : String) : State := { s with types := s.types.use name }

/-- The state in which the array of the bytes with a digest is known. -/
def hold (s : State) (digest name : String) : State :=
  { s with buffers := s.buffers ++ [(digest, name)] }

/-- The state with other kexts. -/
def register (s : State) (kexts : List (Plist.Scalar × Nat)) : State := { s with kexts := kexts }

/-- The name of a stem that is given out next. -/
def nextName (s : State) (stem : String) : String := NameSupply.name stem (s.names.index stem)

/-- The state in which new bytes are in an array of their own, which is known by their digest. -/
def store (s : State) (data : List UInt8) (stem : String) : State :=
  ((s.mint stem).add (Source.declareBytes data (s.nextName stem))).hold
    (Data.Sha256.hexDigest data) (s.nextName stem)

end State

theorem outcome_get (s : State) : outcome get s = (.ok s, s) := rfl

theorem takes_get {s t r : State} : Takes get s r t ↔ r = s ∧ t = s := by
  simp [Takes, outcome_get, eq_comm]

theorem outcome_modify (f : State → State) (s : State) : outcome (modify f) s = (.ok (), f s) := rfl

/-- A change of the state goes through. -/
theorem takes_modify {f : State → State} {s t : State} {u : Unit} :
    Takes (modify f) s u t ↔ t = f s := by
  simp [Takes, outcome_modify, eq_comm]

/-- A statement is added to the source. -/
theorem takes_emit {statement : Node} {s t : State} {u : Unit} :
    Takes (emit statement) s u t ↔ t = s.add statement :=
  takes_modify

theorem takes_openSection {title : String} {s t : State} {u : Unit} :
    Takes (openSection title) s u t ↔ t = s.headed title :=
  takes_modify

theorem takes_warn {message : String} {s t : State} {u : Unit} :
    Takes (warn message) s u t ↔ t = { s with log := s.log ++ [⟨.warning, .compiler, message⟩] } :=
  takes_modify

/-- The next name of a stem is given, and counted. -/
theorem takes_fresh {stem name : String} {s t : State} :
    Takes (fresh stem) s name t ↔ name = s.nextName stem ∧ t = s.mint stem := by
  have run : outcome (fresh stem) s = (.ok (s.nextName stem), s.mint stem) := rfl
  simp [Takes, run, eq_comm]

/-- The use of a struct type is noted. -/
theorem takes_structArray {name : String} {type : Node} {s t : State} :
    Takes (structArray name) s type t ↔ type = Source.structArray name ∧ t = s.use name := by
  have run : outcome (structArray name) s = (.ok (Source.structArray name), s.use name) := rfl
  simp [Takes, run, eq_comm]

/-- A new array of strings takes one name and adds one declaration. -/
theorem takes_stringArray {stem name : String} {strings : List String} {s t : State} :
    Takes (stringArray stem strings) s name t ↔
      name = s.nextName stem ∧ t = (s.mint stem).add
        (.declareStaticConst Source.stringArray name (.literal (strings.map .string))) := by
  unfold stringArray
  simp only [takes_bind, takes_fresh, takes_emit, takes_pure]
  constructor
  · rintro ⟨_, _, ⟨rfl, rfl⟩, _, _, rfl, rfl, rfl⟩
    exact ⟨rfl, rfl⟩
  · rintro ⟨rfl, rfl⟩
    exact ⟨_, _, ⟨rfl, rfl⟩, (), _, rfl, rfl, rfl⟩

/-- Bytes whose digest is known are held by the known array; other bytes take one name, which is
known from then on, and add one declaration. -/
theorem takes_buffer {data : List UInt8} {stem name : String} {s t : State} :
    Takes (buffer data stem) s name t ↔
      (s.buffers.lookup (Data.Sha256.hexDigest data) = some name ∧ t = s) ∨
      (s.buffers.lookup (Data.Sha256.hexDigest data) = none ∧ name = s.nextName stem ∧
        t = s.store data stem) := by
  unfold buffer
  simp only [takes_bind, takes_get]
  cases known : s.buffers.lookup (Data.Sha256.hexDigest data) with
  | some old =>
    simp only [Option.some.injEq, reduceCtorEq, false_and, or_false]
    constructor
    · rintro ⟨_, _, ⟨rfl, rfl⟩, run⟩
      rw [known] at run
      obtain ⟨rfl, rfl⟩ := takes_pure.mp run
      exact ⟨rfl, rfl⟩
    · rintro ⟨rfl, rfl⟩
      refine ⟨_, _, ⟨rfl, rfl⟩, ?_⟩
      rw [known]
      exact takes_pure.mpr ⟨rfl, rfl⟩
  | none =>
    simp only [reduceCtorEq, false_and, true_and, false_or]
    constructor
    · rintro ⟨_, _, ⟨rfl, rfl⟩, run⟩
      rw [known] at run
      simp only [takes_bind, takes_fresh, takes_emit, takes_modify, takes_pure] at run
      obtain ⟨_, _, ⟨rfl, rfl⟩, _, _, rfl, _, _, rfl, rfl, rfl⟩ := run
      exact ⟨rfl, rfl⟩
    · rintro ⟨rfl, rfl⟩
      refine ⟨_, _, ⟨rfl, rfl⟩, ?_⟩
      rw [known]
      simp only [takes_bind, takes_fresh, takes_emit, takes_modify, takes_pure]
      exact ⟨_, _, ⟨rfl, rfl⟩, (), _, rfl, (), _, rfl, rfl, rfl⟩

/-- Storing bytes with one array for each digest always goes through. -/
theorem exists_takes_buffer (data : List UInt8) (stem : String) (s : State) :
    ∃ name t, Takes (buffer data stem) s name t := by
  cases known : s.buffers.lookup (Data.Sha256.hexDigest data) with
  | some name => exact ⟨name, s, takes_buffer.mpr (.inl ⟨known, rfl⟩)⟩
  | none => exact ⟨_, _, takes_buffer.mpr (.inr ⟨known, rfl, rfl⟩)⟩

end CodecTables.Compile
