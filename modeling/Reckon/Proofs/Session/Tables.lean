import Mathlib.Data.List.Nodup
import Reckon.Proofs.Session.Deeds
import Reckon.Proofs.Session.Depth

/-!
# The tables of a session

A session registers variables and functions under their folded names. Whatever it goes through, its
tables are made of what it has been told since it was last cleared, in that order: `recent` lists
this from the evaluations that its steps come to. An entry is in the place where its name came up
first, and in the form in which it came up last (`Registers`). So no two entries have the same name,
and none is lost where they are shown by their spellings (`history_tables`).
-/

namespace Reckon

namespace Session

/-! ### What a session has been told -/

/-- The variables that are bound, with their values. Once a call has been begun that is not left, names
are bound in its frame. -/
def bindings : List Deed → List Binding
  | [] => []
  | .bind name value :: rest => ⟨name, value⟩ :: bindings rest
  | .define .. :: rest => bindings rest
  | .begin _ :: _ => []

/-- The functions that are stored. -/
def definitions (deeds : List Deed) : List UserFunction :=
  deeds.filterMap fun
    | .bind .. | .begin _ => none
    | .define f _ => some f

/-- What is done in the task and outlasts it. -/
def Task.deeds (t : Task) : List Deed := Session.deeds t.calls t.room t.session t.node

/-- What is done in a line of a document and outlasts it. -/
def lineDeeds (limits : Limits) (s : Session) (line : Nat) (raw : String) : List Deed :=
  if Text.isBlankText raw then []
  else
    match parseLine raw line with
    | .error _ => []
    | .ok n => (s.task limits n).deeds

/-- What is done in numbered lines, up to the first one that aborts, and outlasts them. -/
def linesDeeds (limits : Limits) : Session → List (Nat × String) → List Deed
  | _, [] => []
  | s, (line, raw) :: rest =>
    lineDeeds limits s line raw ++
      match Document.evaluateLine s limits line raw with
      | (.error _, _) => []
      | (.ok _, s) => linesDeeds limits s rest

/-- What has been done since the session was cleared, after one more step. A document begins with
clearing the session. -/
def note (limits : Limits) (s : Session) (deeds : List Deed) : Step → List Deed
  | .lookup _ => deeds
  | .request (.node n) => deeds ++ (s.task limits n).deeds
  | .request (.text text) =>
    match parseSingle text with
    | .error _ => deeds
    | .ok n => deeds ++ (s.task limits n).deeds
  | .request (.document text) =>
    if Text.isBlankText text then [] else linesDeeds limits s.clear (numberedLines text)
  | .request .clear => []

/-- What has been done in several steps since the session was cleared. -/
def noteAll (limits : Limits) : Session → List Deed → List Step → List Deed
  | _, deeds, [] => deeds
  | s, deeds, step :: rest => noteAll limits (s.perform limits step) (s.note limits deeds step) rest

/-- What has been done in a history since the session was last cleared. -/
def recent (limits : Limits) (catalog : Catalog) (steps : List Step) : List Deed :=
  noteAll limits (fresh catalog) [] steps

/-! ### Doing it again -/

section Redo

variable (limits : Limits) (s : Session)

theorem redo_evaluate (n : Node) :
    SameFrames (s.redoAll (s.task limits n).deeds) (s.evaluate limits n).2 := by
  obtain ⟨o, h, -⟩ := exists_evaluates (rfl : s.evaluate limits n = _)
  exact h.redo

theorem deeds_comment (calls : Nat) (room : Room) (text : String) (span : Span) :
    deeds calls room s (.comment text span) = [] := by
  rw [deeds.eq_def]
  split <;> rfl

theorem redo_evaluateLine (line : Nat) (raw : String) :
    SameFrames (s.redoAll (lineDeeds limits s line raw))
      (Document.evaluateLine s limits line raw).2 := by
  unfold lineDeeds Document.evaluateLine
  split
  · exact .refl s
  · cases parseLine raw line with
    | error d => exact .refl s
    | ok n =>
      simp only
      split
      · rename_i h
        cases h
      · rename_i h
        cases h
        unfold Task.deeds task
        rw [deeds_comment]
        exact .refl s
      · rename_i n' _ h
        cases h
        have hn := redo_evaluate limits s n
        split <;> rename_i heval <;> rw [heval] at hn <;> exact hn

theorem redo_evaluateLines (lines : List (Nat × String)) :
    SameFrames (s.redoAll (linesDeeds limits s lines))
      (Document.evaluateLines s limits lines).2 := by
  induction lines generalizing s with
  | nil => exact .refl s
  | cons l rest ih =>
    have hline := redo_evaluateLine limits s l.1 l.2
    unfold linesDeeds Document.evaluateLines
    rcases hrun : Document.evaluateLine s limits l.1 l.2 with ⟨a | o, s'⟩ <;> rw [hrun] at hline
    · simp only [List.append_nil]
      exact hline
    · have hrest := ih s'
      simp only
      split <;> rename_i hrun' <;> rw [hrun'] at hrest <;> exact hline.redoAll_append hrest

end Redo

/-- A fresh session that is told everything again has the variables and functions of `s`. -/
def MadeBy (catalog : Catalog) (deeds : List Deed) (s : Session) : Prop :=
  SameFrames ((fresh catalog).redoAll deeds) s

section MadeBy

variable {catalog : Catalog} {deeds later : List Deed} {s s' : Session}

theorem MadeBy.append (h : MadeBy catalog deeds s) (h' : SameFrames (s.redoAll later) s') :
    MadeBy catalog (deeds ++ later) s' := h.redoAll_append h'

theorem madeBy_clear (hs : s.Idle) : MadeBy catalog [] s.clear := by
  rw [hs.clear_eq]
  exact ⟨rfl, rfl, rfl, rfl⟩

/-- **One more step is noted as it is made.** -/
theorem MadeBy.step {limits : Limits} (h : MadeBy catalog deeds s) (hs : s.Idle) (step : Step) :
    MadeBy catalog (s.note limits deeds step) (s.perform limits step) := by
  cases step with
  | lookup text => exact ⟨h.globals, h.current, h.suspended, h.functions⟩
  | request r =>
    cases r with
    | node n => exact h.append (redo_evaluate limits _ n)
    | text text =>
      unfold note perform serve evaluateText
      simp only
      cases parseSingle text with
      | error d => exact h
      | ok n => exact h.append (redo_evaluate limits _ n)
    | document text =>
      have hclear : MadeBy catalog [] s.clear := madeBy_clear hs
      unfold note perform serve Document.evaluate
      simp only
      split
      · exact hclear
      · have hlines := hclear.append (redo_evaluateLines limits _ (numberedLines text))
        split <;> rename_i hrun <;> rw [hrun] at hlines <;> exact hlines
    | clear => exact madeBy_clear hs

end MadeBy

section Redo

variable {s : Session} (deeds : List Deed)

/-- In the frame of a call, no variable of the session is bound. -/
theorem globals_redoAll_of_frame (h : s.context.current.isSome = true) :
    (s.redoAll deeds).context.globals = s.context.globals := by
  induction deeds generalizing s with
  | nil => rfl
  | cons d rest ih =>
    cases d with
    | bind name value =>
      obtain ⟨frame, hframe⟩ := Option.isSome_iff_exists.mp h
      have hbind : (s.bind name value).context = { s.context with
          current := some { frame with bindings := frame.bindings.bind name value } } := by
        unfold bind Context.set
        rw [hframe]
      exact (ih (s := s.bind name value) (by rw [hbind]; rfl)).trans (by rw [hbind])
    | define f => exact ih h
    | begin f => exact ih rfl

/-- In the global frame, the variables are bound one after the other. -/
theorem globals_redoAll (h : s.context.current = none) :
    (s.redoAll deeds).context.globals = ((bindings deeds).map fun b => (Text.fold b.name, b)).foldl
      (fun globals e => Table.insert globals e.1 e.2) s.context.globals := by
  induction deeds generalizing s with
  | nil => rfl
  | cons d rest ih =>
    cases d with
    | bind name value =>
      have hbind : (s.bind name value).context =
          { s.context with globals := s.context.globals.bind name value } := by
        unfold bind Context.set
        simp only [h]
      refine (ih (s := s.bind name value) (by rw [hbind]; exact h)).trans ?_
      rw [hbind]
      rfl
    | define f => exact ih h
    | begin f => exact globals_redoAll_of_frame rest rfl

theorem functions_redoAll : (s.redoAll deeds).functions =
    ((definitions deeds).map fun f => (Text.fold f.name, f)).foldl
      (fun functions e => Table.insert functions e.1 e.2) s.functions := by
  induction deeds generalizing s with
  | nil => rfl
  | cons d rest ih => cases d <;> exact ih

end Redo

theorem MadeBy.globals_eq {catalog : Catalog} {deeds : List Deed} {s : Session}
    (h : MadeBy catalog deeds s) :
    s.context.globals = .ofList ((bindings deeds).map fun b => (Text.fold b.name, b)) :=
  h.globals.trans (globals_redoAll deeds rfl)

theorem MadeBy.functions_eq {catalog : Catalog} {deeds : List Deed} {s : Session}
    (h : MadeBy catalog deeds s) :
    s.functions = .ofList ((definitions deeds).map fun f => (Text.fold f.name, f)) :=
  h.functions.trans (functions_redoAll deeds)

/-- **The tables of a session are made of what it has been told since it was last cleared.** -/
theorem history_madeBy (limits : Limits) (catalog : Catalog) (steps : List Step) :
    MadeBy catalog (recent limits catalog steps) (history limits catalog steps) := by
  have hfresh : MadeBy catalog [] (fresh catalog) ∧ (fresh catalog).Idle := ⟨.refl _, rfl⟩
  unfold recent history
  generalize fresh catalog = s, ([] : List Deed) = deeds at hfresh
  induction steps generalizing s deeds with
  | nil => exact hfresh.1
  | cons step rest ih =>
    exact ih _ _ ⟨hfresh.1.step hfresh.2 step, hfresh.2.perform limits step⟩

end Session

/-! ### Registers -/

/-- The table registers `xs` under their folded names. -/
structure Table.Registers {α : Type} (t : Table α) (name : α → String) (xs : List α) : Prop where
  /-- No two entries have the same key. -/
  distinct : t.keys.Nodup
  /-- The keys are in the order in which they came up first. -/
  keys : t.keys = (xs.map fun x => Text.fold (name x)).eraseDups
  /-- An entry stands at its folded name, and is what came up last under it. -/
  entry : ∀ key x, (key, x) ∈ t →
    key = Text.fold (name x) ∧ xs.findRev? (fun y => Text.fold (name y) == key) = some x
  /-- The entries can be told apart by their spellings. -/
  spellings : (t.values.map name).Nodup

theorem Table.registers_ofList {α : Type} (name : α → String) (xs : List α) :
    (Table.ofList (xs.map fun x => (Text.fold (name x), x))).Registers name xs := by
  generalize htable : Table.ofList (xs.map fun x => (Text.fold (name x), x)) = t
  have hdistinct : t.keys.Nodup := by
    rw [← htable]
    exact Table.nodup_keys_ofList _
  have hentry : ∀ key x, (key, x) ∈ t →
      key = Text.fold (name x) ∧ xs.findRev? (fun y => Text.fold (name y) == key) = some x := by
    intro key x hx
    have hlast := Table.get?_of_mem hdistinct hx
    rw [← htable, Table.get?_ofList_map] at hlast
    refine ⟨?_, hlast⟩
    rw [List.findRev?_eq_find?_reverse, List.find?_eq_some_iff_append] at hlast
    exact (eq_of_beq hlast.1).symm
  refine ⟨hdistinct, ?_, hentry, ?_⟩
  · rw [← htable, Table.keys_ofList, List.map_map]
    rfl
  · -- entries with one spelling would have one key
    have hkeys : (t.values.map name).map Text.fold = t.keys := by
      unfold Table.values Table.keys
      rw [List.map_map, List.map_map]
      exact List.map_congr_left fun e he => (hentry e.1 e.2 he).1.symm
    rw [← hkeys] at hdistinct
    exact List.Nodup.of_map Text.fold hdistinct

/-- Shown by their spellings, the entries of a register are as they are. -/
theorem Table.Registers.ofList_values {α β : Type} {t : Table α} {name : α → String} {xs : List α}
    (h : t.Registers name xs) (g : α → β) : Table.ofList (t.values.map fun x => (name x, g x)) =
      t.values.map fun x => (name x, g x) := by
  refine Table.ofList_of_nodup ?_
  rw [List.map_map]
  exact h.spellings

namespace Session

/-- The variables by their spellings. -/
def variablesByName (s : Session) : Table Value := .ofList (s.globals.map fun b => (b.name, b.value))

/-- The user functions by their spellings. -/
def functionsByName (s : Session) : Table UserFunction :=
  .ofList (s.userFunctions.map fun f => (f.name, f))

/-- **The tables of a session stay well formed.** Whatever a session has gone through, its variables
and its functions are registered under their folded names, distinct from each other, in the order in
which they were first bound or defined since the session was last cleared, and each as it was bound
or defined last. So shown by their spellings there is exactly one variable for each entry, and exactly
one function. No variable has an error for its value, and no function has two parameters of the same
name. -/
theorem history_tables (limits : Limits) (catalog : Catalog) (steps : List Step) :
    let s := history limits catalog steps
    let deeds := recent limits catalog steps
    s.context.globals.Registers Binding.name (bindings deeds) ∧
    s.functions.Registers UserFunction.name (definitions deeds) ∧
    s.variablesByName = s.globals.map (fun b => (b.name, b.value)) ∧
    s.functionsByName = s.userFunctions.map (fun f => (f.name, f)) ∧
    (∀ b ∈ s.globals, (Result.value b.value).hasError = false) ∧
    ∀ f ∈ s.userFunctions, (f.parameters.map Text.fold).Nodup := by
  intro s deeds
  have hs : MadeBy catalog deeds s := history_madeBy limits catalog steps
  have hglobals : s.context.globals.Registers Binding.name (bindings deeds) := by
    rw [hs.globals_eq]
    exact Table.registers_ofList ..
  have hfunctions : s.functions.Registers UserFunction.name (definitions deeds) := by
    rw [hs.functions_eq]
    exact Table.registers_ofList ..
  refine ⟨hglobals, hfunctions, hglobals.ofList_values _, hfunctions.ofList_values _,
    fun _ _ => rfl, fun f hf => ?_⟩
  -- a function that is in the table has been defined
  obtain ⟨⟨key, f'⟩, hmem, rfl⟩ := List.mem_map.mp hf
  have hdefined := (hfunctions.entry key f' hmem).2
  rw [List.findRev?_eq_find?_reverse] at hdefined
  obtain ⟨d, -, hd⟩ := List.mem_filterMap.mp (List.mem_reverse.mp (List.mem_of_find?_eq_some hdefined))
  cases d with
  | bind | begin => cases hd
  | define g hg =>
    cases hd
    exact hg

end Session

end Reckon
