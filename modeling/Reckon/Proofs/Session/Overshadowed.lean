import Reckon.Proofs.Session.Purity
import Reckon.Proofs.Table

/-!
# Built-in functions come first

A user function may be defined under the name of a built-in one, in any spelling, but a call by that
name never comes to it. What calls can come to are the functions under the other names (`callable`).

* Evaluation goes the same way with other functions under the names of the built-in ones, and the
  tables keep differing in nothing else (`Evaluates.withFunctions`).
* So the statements that define such functions can be left out of a session: the other ones are
  answered as before (`transcript_without_overshadowed`).
-/

namespace Reckon

/-- A name stands for a built-in function if it is one of their names, apart from case. -/
theorem Builtin.ofName?_eq_none_iff {name : String} :
    ofName? name = none ↔ names.contains (Text.fold name) = false := by
  have hall : ∀ f : Builtin, f ∈ all := fun f => by cases f <;> decide
  unfold ofName? names
  rw [List.find?_eq_none, ← Bool.not_eq_true, List.contains_iff_mem, List.mem_mergeSort,
    List.mem_flatMap]
  constructor
  · rintro h ⟨f, hf, hmem⟩
    exact h f hf (List.contains_iff_mem.mpr hmem)
  · intro h f hf hmem
    exact h ⟨f, hall f, List.contains_iff_mem.mp hmem⟩

namespace Session

/-- The functions that calls can come to: those without the name of a built-in function. -/
def callable (functions : Table UserFunction) : Table UserFunction :=
  functions.restrict fun key => !Builtin.names.contains key

/-- Replaces the functions. -/
def withFunctions (s : Session) (functions : Table UserFunction) : Session :=
  { s with functions := functions }

/-! ### What a session does in one step -/

section Steps

variable {s s' : Session} {functions : Table UserFunction} {name : String}
  {o : Except Failure Value}

theorem function?_withFunctions (h : callable functions = callable s.functions)
    (hbuiltin : Builtin.ofName? name = none) :
    (s.withFunctions functions).function? name = s.function? name := by
  have hkey : (!Builtin.names.contains (Text.fold name)) = true := by
    rw [Builtin.ofName?_eq_none_iff.mp hbuiltin]
    rfl
  calc Table.get? functions (Text.fold name)
      = Table.get? (callable functions) (Text.fold name) :=
        (Table.get?_restrict functions hkey).symm
    _ = Table.get? (callable s.functions) (Text.fold name) := by rw [h]
    _ = Table.get? s.functions (Text.fold name) := Table.get?_restrict s.functions hkey

theorem literal_withFunctions {x : Float} {unit : Option String} (hs : s.literal x unit = (o, s')) :
    (s.withFunctions functions).literal x unit = (o, s'.withFunctions functions) := by
  rcases literal_cases hs with ⟨rfl, hany⟩ | ⟨text, -, rfl, hany⟩
  · exact hany _
  · exact hany _ rfl

theorem operate_withFunctions {operator : String} {l r : Value}
    (hs : s.operate operator l r = (o, s')) :
    (s.withFunctions functions).operate operator l r = (o, s'.withFunctions functions) := by
  cases hs
  rfl

theorem enter_withFunctions (s : Session) (f : UserFunction) (arguments : List Value) :
    (s.withFunctions functions).enter f arguments =
      (s.enter f arguments).withFunctions functions := by
  rw [enter_eq_frame, enter_eq_frame]
  rfl

/-- Functions that can be called are stored as before, and others go unnoticed. -/
theorem callable_insert (h : callable functions = callable s.functions) (f : UserFunction) :
    callable (functions.insert name f) = callable (s.functions.insert name f) := by
  unfold callable at h ⊢
  by_cases hname : (!Builtin.names.contains name) = true
  · rw [Table.restrict_insert _ _ hname, Table.restrict_insert _ _ hname, h]
  · rw [Bool.not_eq_true] at hname
    rw [Table.restrict_insert_of_not _ _ hname, Table.restrict_insert_of_not _ _ hname, h]

theorem define_withFunctions (h : callable functions = callable s.functions)
    {parameters : List String} {body : Node} (hs : s.define name parameters body = (o, s')) :
    ∃ functions', (s.withFunctions functions).define name parameters body =
        (o, s'.withFunctions functions') ∧
      callable functions' = callable s'.functions := by
  unfold define at hs ⊢
  split at hs
  · rename_i htwice
    cases hs
    exact ⟨functions, if_pos htwice, h⟩
  · rename_i honce
    cases hs
    exact ⟨_, if_neg honce, callable_insert h _⟩

/-- A definition under the name of a built-in function changes nothing that can be called. -/
theorem callable_define (hname : Builtin.names.contains (Text.fold name) = true)
    {parameters : List String} {body : Node} (hs : s.define name parameters body = (o, s')) :
    ∃ functions, s' = s.withFunctions functions ∧ callable functions = callable s.functions := by
  unfold define at hs
  split at hs
  · cases hs
    exact ⟨s.functions, rfl, rfl⟩
  · cases hs
    exact ⟨_, rfl, Table.restrict_insert_of_not _ _ (by rw [hname]; rfl)⟩

end Steps

/-! ### Whole evaluations -/

mutual

/-- **Evaluation does not depend on functions with the names of built-in ones**: with others in their
place a node has the same outcome, and the functions that can be called stay the same. -/
theorem Evaluates.withFunctions : ∀ {calls : Nat} {room : Room} {s s' : Session} {n : Node}
    {o : Except Failure Value}, Evaluates calls room s n o s' →
    ∀ {functions : Table UserFunction}, callable functions = callable s.functions →
    ∃ functions', Evaluates calls room (s.withFunctions functions) n o
        (s'.withFunctions functions') ∧ callable functions' = callable s'.functions
  | _, _, _, _, _, _, .tooDeep hroom => fun h => ⟨_, .tooDeep hroom, h⟩
  | _, _, _, _, _, _, .number hroom hs => fun h =>
    ⟨_, .number hroom (literal_withFunctions hs), by rw [(sameBindings_of_literal hs).2]; exact h⟩
  | _, _, _, _, _, _, .reference hroom => fun h => ⟨_, .reference hroom, h⟩
  | _, _, _, _, _, _, .comment hroom => fun h => ⟨_, .comment hroom, h⟩
  | _, _, _, _, _, _, .unknown hroom => fun h => ⟨_, .unknown hroom, h⟩
  | _, _, _, _, _, _, .definition hroom hs => fun h => by
    obtain ⟨functions', hs', h'⟩ := define_withFunctions h hs
    exact ⟨functions', .definition hroom hs', h'⟩
  | _, _, _, _, _, _, .unaryFails hroom hs => fun h => by
    obtain ⟨functions', hs', h'⟩ := hs.withFunctions h
    exact ⟨functions', .unaryFails hroom hs', h'⟩
  | _, _, _, _, _, _, .unary hroom hs => fun h => by
    obtain ⟨functions', hs', h'⟩ := hs.withFunctions h
    exact ⟨functions', .unary hroom hs', h'⟩
  | _, _, _, _, _, _, .leftFails hroom hs => fun h => by
    obtain ⟨functions', hs', h'⟩ := hs.withFunctions h
    exact ⟨functions', .leftFails hroom hs', h'⟩
  | _, _, _, _, _, _, .rightFails hroom hl hr => fun h => by
    obtain ⟨_, hl', h₁⟩ := hl.withFunctions h
    obtain ⟨functions', hr', h'⟩ := hr.withFunctions h₁
    exact ⟨functions', .rightFails hroom hl' hr', h'⟩
  | _, _, _, _, _, _, .binary hroom hl hr hs => fun h => by
    obtain ⟨_, hl', h₁⟩ := hl.withFunctions h
    obtain ⟨functions', hr', h'⟩ := hr.withFunctions h₁
    rw [← (sameBindings_of_operate hs).2] at h'
    exact ⟨functions', .binary hroom hl' hr' (operate_withFunctions hs), h'⟩
  | _, _, _, _, _, _, .assignmentFails hroom hs => fun h => by
    obtain ⟨functions', hs', h'⟩ := hs.withFunctions h
    exact ⟨functions', .assignmentFails hroom hs', h'⟩
  | _, _, _, _, _, _, .assignment hroom hs => fun h => by
    obtain ⟨functions', hs', h'⟩ := hs.withFunctions h
    exact ⟨functions', .assignment hroom hs', h'⟩
  | _, _, _, _, _, _, .argumentFails hroom hs => fun h => by
    obtain ⟨functions', hs', h'⟩ := hs.withFunctions h
    exact ⟨functions', .argumentFails hroom hs', h'⟩
  | _, _, _, _, _, _, .builtin hroom hs hf => fun h => by
    obtain ⟨functions', hs', h'⟩ := hs.withFunctions h
    exact ⟨functions', .builtin hroom hs' hf, h'⟩
  | _, _, _, _, _, _, .undefinedFunction hroom hs hbuiltin hf => fun h => by
    obtain ⟨functions', hs', h'⟩ := hs.withFunctions h
    rw [← function?_withFunctions h' hbuiltin] at hf
    exact ⟨functions', .undefinedFunction hroom hs' hbuiltin hf, h'⟩
  | _, _, _, _, _, _, .argumentCount hroom hs hbuiltin hf hcount => fun h => by
    obtain ⟨functions', hs', h'⟩ := hs.withFunctions h
    rw [← function?_withFunctions h' hbuiltin] at hf
    exact ⟨functions', .argumentCount hroom hs' hbuiltin hf hcount, h'⟩
  | _, _, _, _, _, _, .callDepth hroom hs hbuiltin hf hcount => fun h => by
    obtain ⟨functions', hs', h'⟩ := hs.withFunctions h
    rw [← function?_withFunctions h' hbuiltin] at hf
    exact ⟨functions', .callDepth hroom hs' hbuiltin hf hcount, h'⟩
  | _, _, _, _, _, _, .entryFails hroom hs hbuiltin hf hcount hadmits => fun h => by
    obtain ⟨functions', hs', h'⟩ := hs.withFunctions h
    rw [← function?_withFunctions h' hbuiltin] at hf
    exact ⟨functions', .entryFails hroom hs' hbuiltin hf hcount hadmits, h'⟩
  | _, _, _, _, _, _, .call hroom hs hbuiltin hf hcount hadmits hbody => fun h => by
    obtain ⟨_, hs', h₁⟩ := hs.withFunctions h
    -- the callee has no built-in name, so both sessions have the same function for it
    rw [← function?_withFunctions h₁ hbuiltin] at hf
    obtain ⟨functions', hbody', h'⟩ := hbody.withFunctions (h₁.trans (by rw [functions_enter]))
    rw [← enter_withFunctions] at hbody'
    exact ⟨functions', .call hroom hs' hbuiltin hf hcount hadmits hbody', h'⟩

theorem EvaluatesAll.withFunctions : ∀ {calls : Nat} {room : Room} {s s' : Session}
    {ns : List Node} {o : Except Failure (List Value)}, EvaluatesAll calls room s ns o s' →
    ∀ {functions : Table UserFunction}, callable functions = callable s.functions →
    ∃ functions', EvaluatesAll calls room (s.withFunctions functions) ns o
        (s'.withFunctions functions') ∧ callable functions' = callable s'.functions
  | _, _, _, _, _, _, .nil => fun h => ⟨_, .nil, h⟩
  | _, _, _, _, _, _, .headFails hs => fun h => by
    obtain ⟨functions', hs', h'⟩ := hs.withFunctions h
    exact ⟨functions', .headFails hs', h'⟩
  | _, _, _, _, _, _, .tailFails hs hrest => fun h => by
    obtain ⟨_, hs', h₁⟩ := hs.withFunctions h
    obtain ⟨functions', hrest', h'⟩ := hrest.withFunctions h₁
    exact ⟨functions', .tailFails hs' hrest', h'⟩
  | _, _, _, _, _, _, .cons hs hrest => fun h => by
    obtain ⟨_, hs', h₁⟩ := hs.withFunctions h
    obtain ⟨functions', hrest', h'⟩ := hrest.withFunctions h₁
    exact ⟨functions', .cons hs' hrest', h'⟩

end

theorem evaluate_withFunctions (limits : Limits) (n : Node) {s : Session}
    {functions : Table UserFunction} (h : callable functions = callable s.functions) :
    ∃ functions', (s.withFunctions functions).evaluate limits n =
        ((s.evaluate limits n).1, (s.evaluate limits n).2.withFunctions functions') ∧
      callable functions' = callable (s.evaluate limits n).2.functions := by
  have hcalls : (s.withFunctions functions).callsLeft limits = s.callsLeft limits := rfl
  unfold evaluate
  rcases heval : eval (s.callsLeft limits) limits.nesting s n with ⟨o, s'⟩
  obtain ⟨functions', h', hcallable⟩ := (eval_evaluates heval).withFunctions h
  rw [hcalls, h'.eval_eq]
  refine ⟨functions', ?_⟩
  rcases o with (e | a) | v
  · exact ⟨rfl, hcallable⟩
  · cases a <;> exact ⟨rfl, hcallable⟩
  · exact ⟨rfl, hcallable⟩

/-! ### Sessions, statement by statement -/

/-- A statement as it is put to a session: as text, or as a node of any form. -/
inductive Entry where
  /-- The text of a statement. -/
  | text (text : String)
  /-- A node. -/
  | node (n : Node)

/-- What an entry is read as, unless its text is malformed. -/
def Entry.statement? : Entry → Option Node
  | .text raw => (parseSingle raw).toOption
  | .node n => some n

/-- Whether an entry defines a function under the name of a built-in one. -/
def Entry.isOvershadowed (e : Entry) : Bool :=
  match e.statement? with
  | some (.definition name _ _ _) => Builtin.names.contains (Text.fold name)
  | _ => false

/-- The answer of a session to an entry. -/
def answer (limits : Limits) (s : Session) : Entry → Except Abort Result × Session
  | .text raw => s.evaluateText limits raw
  | .node n => s.evaluate limits n

/-- The answers to entries one after the other, whatever becomes of those before. -/
def transcript (limits : Limits) (s : Session) :
    List Entry → List (Entry × Except Abort Result) × Session
  | [] => ([], s)
  | e :: rest =>
    let (result, s) := s.answer limits e
    let (answers, s) := s.transcript limits rest
    ((e, result) :: answers, s)

section Transcript

variable (limits : Limits) {s : Session} {functions : Table UserFunction}

theorem answer_withFunctions (h : callable functions = callable s.functions) (e : Entry) :
    ∃ functions', (s.withFunctions functions).answer limits e =
        ((s.answer limits e).1, (s.answer limits e).2.withFunctions functions') ∧
      callable functions' = callable (s.answer limits e).2.functions := by
  cases e with
  | node n => exact evaluate_withFunctions limits n h
  | text text =>
    unfold answer evaluateText
    simp only
    cases parseSingle text with
    | error d => exact ⟨functions, rfl, h⟩
    | ok n => exact evaluate_withFunctions limits n h

/-- What is defined under the name of a built-in function makes no difference to any call. -/
theorem answer_overshadowed {e : Entry} (he : e.isOvershadowed = true) (s : Session) :
    ∃ functions, (s.answer limits e).2 = s.withFunctions functions ∧
      callable functions = callable s.functions := by
  have hdefinition : ∀ n, e.statement? = some n → ∃ functions,
      (s.evaluate limits n).2 = s.withFunctions functions ∧
        callable functions = callable s.functions := by
    intro n hn
    unfold Entry.isOvershadowed at he
    rw [hn] at he
    cases n with
    | definition name parameters body span =>
      unfold evaluate
      generalize s.callsLeft limits = calls
      rcases heval : eval calls limits.nesting s _ with ⟨o, s'⟩
      have hs' : ∃ functions, s' = s.withFunctions functions ∧
          callable functions = callable s.functions := by
        cases eval_evaluates heval with
        | tooDeep => exact ⟨s.functions, rfl, rfl⟩
        | definition _ hs => exact callable_define he hs
      rcases o with (e | a) | v
      · exact hs'
      · cases a <;> exact hs'
      · exact hs'
    | _ => cases he
  cases e with
  | node n => exact hdefinition n rfl
  | text text =>
    unfold answer evaluateText
    unfold Entry.statement? at hdefinition
    simp only at hdefinition ⊢
    cases hparse : parseSingle text with
    | error d =>
      simp only [Entry.isOvershadowed, Entry.statement?, hparse, Except.toOption] at he
      cases he
    | ok n =>
      rw [hparse] at hdefinition
      exact hdefinition n rfl

/-- The entries that are left are answered alike in sessions with the same callable functions. -/
theorem transcript_withFunctions (entries : List Entry) :
    ∀ (s : Session) (functions : Table UserFunction), callable functions = callable s.functions →
    ∃ functions', (s.withFunctions functions).transcript limits
          (entries.filter fun e => !e.isOvershadowed) =
        ((s.transcript limits entries).1.filter fun a => !a.1.isOvershadowed,
          (s.transcript limits entries).2.withFunctions functions') ∧
      callable functions' = callable (s.transcript limits entries).2.functions := by
  induction entries with
  | nil => exact fun _ functions h => ⟨functions, rfl, h⟩
  | cons e rest ih =>
    intro s functions h
    cases he : e.isOvershadowed with
    | true =>
      -- only the session that holds the definition moves on
      obtain ⟨stored, hs, hstored⟩ := answer_overshadowed limits he s
      obtain ⟨functions', hrest, h'⟩ := ih (s.answer limits e).2 functions
        (by rw [hs]; exact h.trans hstored.symm)
      refine ⟨functions', ?_, h'⟩
      rw [hs] at hrest
      rw [List.filter_cons_of_neg (by simp [he])]
      simp only [transcript]
      rw [List.filter_cons_of_neg (by simp [he]), hs]
      exact hrest
    | false =>
      obtain ⟨middle, hanswer, hmiddle⟩ := answer_withFunctions limits h e
      obtain ⟨functions', hrest, h'⟩ := ih _ middle hmiddle
      refine ⟨functions', ?_, h'⟩
      rw [List.filter_cons_of_pos (by simp [he])]
      simp only [transcript]
      rw [List.filter_cons_of_pos (by simp [he]), hanswer]
      simp only [hrest]

end Transcript

/-- **A function with the name of a built-in one is never called.** From the entries that are put to
a fresh session, leave out those that define a function under the name of a built-in one. The others
are answered as before, the session ends with the same variables and knows the same about units, and
its functions differ in nothing but entries under the names of built-in functions. -/
theorem transcript_without_overshadowed (limits : Limits) (catalog : Catalog)
    (entries : List Entry) :
    let (answers, s) := (fresh catalog).transcript limits entries
    let (answers', t) :=
      (fresh catalog).transcript limits (entries.filter fun e => !e.isOvershadowed)
    answers' = answers.filter (fun a => !a.1.isOvershadowed) ∧ t.context = s.context ∧
      t.catalog = s.catalog ∧
      t.functions.filter (fun f => !Builtin.names.contains f.1) =
        s.functions.filter (fun f => !Builtin.names.contains f.1) := by
  obtain ⟨functions, hrun, hcallable⟩ :=
    transcript_withFunctions limits entries (fresh catalog) [] rfl
  have hfresh : (fresh catalog).withFunctions [] = fresh catalog := rfl
  rw [hfresh] at hrun
  rw [hrun]
  exact ⟨rfl, rfl, rfl, hcallable⟩

end Session

end Reckon
