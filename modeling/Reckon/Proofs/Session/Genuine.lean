import Reckon.Proofs.Session.Frames
import Reckon.Proofs.Session.History
import Reckon.Proofs.Session.Memory
import Reckon.Proofs.Shape

/-!
# Sessions hold genuine units only

Whatever a session of the standard registry is asked, the units of its variables are genuine, and so
is what its catalog and its memory hold (`history_genuine`). Evaluation preserves this, and its values
are genuine too (`Evaluates.genuine`).
-/

namespace Reckon

/-- The units of all bound values are genuine. -/
def Bindings.Genuine (b : Bindings) : Prop :=
  ∀ key binding, Table.get? b key = some binding → binding.value.Genuine

theorem Bindings.genuine_nil : Bindings.Genuine [] := fun _ _ h => nomatch h

theorem Bindings.Genuine.bind {b : Bindings} (hb : b.Genuine) (name : String) {v : Value}
    (hv : v.Genuine) : (b.bind name v).Genuine := by
  intro key binding h
  unfold Bindings.bind at h
  rw [Table.get?_insert] at h
  split at h
  · cases h
    exact hv
  · exact hb key binding h

theorem Bindings.Genuine.value? {b : Bindings} (hb : b.Genuine) {name : String} {v : Value}
    (h : b.value? name = some v) : v.Genuine := by
  unfold Bindings.value? at h
  obtain ⟨binding, hbinding, rfl⟩ := Option.map_eq_some_iff.mp h
  exact hb _ _ hbinding

/-- The units of all variables in all frames are genuine. -/
structure Context.Genuine (c : Context) : Prop where
  globals : c.globals.Genuine
  current : ∀ frame, c.current = some frame → frame.bindings.Genuine
  suspended : ∀ frame, some frame ∈ c.suspended → frame.bindings.Genuine

theorem Context.genuine_iff {c : Context} : c.Genuine ↔ c.Frames Bindings.Genuine :=
  ⟨fun h => ⟨h.globals, h.current, h.suspended⟩, fun h => ⟨h.globals, h.current, h.suspended⟩⟩

namespace Context.Genuine

variable {c : Context} (hc : c.Genuine)
include hc

theorem get? {name : String} {v : Value} (h : c.get? name = some v) : v.Genuine :=
  (genuine_iff.mp hc).get? (fun _ hb hvalue => hb.value? hvalue) h

theorem set (name : String) {v : Value} (hv : v.Genuine) : (c.set name v).Genuine :=
  genuine_iff.mpr ((genuine_iff.mp hc).set fun _ hb => hb.bind name hv)

theorem enter (name : String) : (c.enter name).Genuine :=
  genuine_iff.mpr ((genuine_iff.mp hc).enter Bindings.genuine_nil name)

theorem leave : c.leave.Genuine := genuine_iff.mpr (genuine_iff.mp hc).leave

theorem begin (name : String) : (c.begin name).Genuine :=
  genuine_iff.mpr ((genuine_iff.mp hc).begin Bindings.genuine_nil name)

theorem reset : c.reset.Genuine := genuine_iff.mpr ((genuine_iff.mp hc).reset Bindings.genuine_nil)

end Context.Genuine

namespace Session

/-- The units of the variables are genuine, and so is what is known about units. -/
structure Genuine (s : Session) : Prop where
  context : s.context.Genuine
  catalog : s.catalog.Standard
  memory : s.catalog.memory.Nameable

variable {s s' : Session} {o : Except Failure Value} {v : Value}

theorem Genuine.fetch (hs : s.Genuine) {name : String} (h : s.fetch name = .ok v) : v.Genuine := by
  unfold Session.fetch at h
  split at h
  · rename_i hget
    cases h
    exact hs.context.get? hget
  · cases h

theorem Genuine.bind (hs : s.Genuine) (name : String) (hv : v.Genuine) : (s.bind name v).Genuine :=
  ⟨hs.context.set name hv, hs.catalog, hs.memory⟩

theorem Genuine.bindAll {bindings : List (String × Value)} : ∀ {s : Session}, s.Genuine →
    (∀ b ∈ bindings, b.2.Genuine) → (s.bindAll bindings).Genuine := by
  induction bindings with
  | nil => exact fun hs _ => hs
  | cons b rest ih =>
    intro s hs hbindings
    obtain ⟨hb, hrest⟩ := List.forall_mem_cons.mp hbindings
    exact ih (hs.bind b.1 hb) hrest

theorem Genuine.enter (hs : s.Genuine) (f : UserFunction) {arguments : List Value}
    (harguments : ∀ v ∈ arguments, v.Genuine) : (s.enter f arguments).Genuine :=
  bindAll ⟨hs.context.enter f.name, hs.catalog, hs.memory⟩
    fun _ hb => harguments _ (List.of_mem_zip hb).2

theorem Genuine.leave (hs : s.Genuine) : s.leave.Genuine :=
  ⟨hs.context.leave, hs.catalog, hs.memory⟩

theorem Genuine.literal (hs : s.Genuine) {x : Float} {unit : Option String}
    (h : s.literal x unit = (o, s')) : s'.Genuine ∧ ∀ v, o = .ok v → v.Genuine := by
  have hnumber : ∀ v, (.ok (.number x) : Except Failure Value) = .ok v → v.Genuine := by
    intro v hv
    cases hv
    exact trivial
  cases unit with
  | none =>
    cases h
    exact ⟨hs, hnumber⟩
  | some text =>
    by_cases hblank : Text.isBlankText text = true
    · rw [Session.literal, if_pos hblank] at h
      cases h
      exact ⟨hs, hnumber⟩
    · rw [literal_eq_of_text s x hblank] at h
      -- resolving leaves the memory as it is, and finds genuine units
      have hmemory := s.catalog.resolve_memory text
      rcases hresolve : s.catalog.resolve text with ⟨units, c⟩
      obtain ⟨hc, hunits⟩ := Catalog.resolve_genuine hs.catalog hresolve
      rw [hresolve] at h hmemory
      obtain ⟨rfl, rfl⟩ := Prod.mk.inj h
      refine ⟨⟨hs.context, hc, ?_⟩, fun v hv => ?_⟩
      · rw [hmemory]
        exact hs.memory
      · cases units with
        | error e => cases hv
        | ok u =>
          cases hv
          exact hunits u rfl

theorem Genuine.define (hs : s.Genuine) {name : String} {parameters : List String} {body : Node}
    (h : s.define name parameters body = (o, s')) : s'.Genuine := by
  unfold Session.define at h
  split at h <;> cases h
  · exact hs
  · exact ⟨hs.context, hs.catalog, hs.memory⟩

/-- The units of kinds can be named, so operators ask about nothing else. -/
theorem Genuine.operate (hs : s.Genuine) {operator : String} {left right : Value}
    (hl : left.Genuine) (hr : right.Genuine) (h : s.operate operator left right = (o, s')) :
    s'.Genuine ∧ ∀ v, o = .ok v → v.Genuine := by
  have hconcerns := Inquiry.concerns_binary (fun k => k.genuine_units.nameable) operator
    hl.of_nameable hr.of_nameable
  have hmemory := Inquiry.run_concerns _ hconcerns hs.memory
  have hbinary := Inquiry.run_binary (m := s.catalog.memory) operator left right
  rw [operate_eq] at h
  obtain ⟨rfl, rfl⟩ := Prod.mk.inj h
  refine ⟨⟨hs.context, hs.catalog.withMemory _, hmemory⟩, fun v hv => ?_⟩
  rcases hrun : (Inquiry.binary operator left right).run s.catalog.memory with ⟨o, m⟩
  rw [hrun] at hbinary hmemory hv
  obtain rfl : o = .ok v := hv
  exact (Arithmetic.binary_sound hl hr (.refl m) hmemory hbinary.symm).2

theorem genuine_produces : Produces (fun _ => True) Genuine Value.Genuine where
  literal _ hs h := (hs.literal h).2 _ rfl
  fetch hs h := hs.fetch h
  zero := trivial
  unary hv h := (Arithmetic.unary_sound .empty hv h).2
  operate hs hl hr h := (hs.operate hl hr h).2 _ rfl
  builtin _ h := (Builtin.call_sound (m := .empty) h).2.2

theorem genuine_guarantee : Guarantee (fun _ => True) Genuine Value.Genuine
    (fun s s' => s.Genuine → s'.Genuine) (fun s s' => s.Genuine → s'.Genuine) where
  values := genuine_produces
  refl _ := id
  trans h h' hs := h' (h hs)
  keeps hs h := h hs
  literal _ _ h hs := (hs.literal h).1
  define _ _ h hs := hs.define h
  bind _ _ hv hs := hs.bind _ hv
  operate _ hl hr h hs := (hs.operate hl hr h).1
  enter hs hvs := hs.enter _ hvs
  leave hs hvs h _ := (h (hs.enter _ hvs)).leave
  begin _ hs := ⟨hs.context.begin _, hs.catalog, hs.memory⟩
  after h h' hs := h' (h hs)
  abandon hs hvs h _ := (h (hs.enter _ hvs)).leave

/-- **Evaluation keeps units genuine.** -/
theorem Evaluates.genuine {calls : Nat} {room : Room} {n : Node}
    (h : Evaluates calls room s n o s') (hs : s.Genuine) :
    s'.Genuine ∧ ∀ v, o = .ok v → v.Genuine := by
  obtain ⟨hkeeps, hvalue⟩ := h.guarantee genuine_guarantee trivial hs
  exact ⟨hkeeps hs, hvalue⟩

theorem EvaluatesAll.genuine {calls : Nat} {room : Room} {ns : List Node}
    {o : Except Failure (List Value)} (h : EvaluatesAll calls room s ns o s') (hs : s.Genuine) :
    s'.Genuine ∧ ∀ vs, o = .ok vs → ∀ v ∈ vs, v.Genuine := by
  obtain ⟨hkeeps, hvalues⟩ := h.guarantee genuine_guarantee (fun _ _ => trivial) hs
  exact ⟨hkeeps hs, hvalues⟩

theorem genuine_preserved (limits : Limits) : Preserved limits (fun _ => True) Genuine where
  statement := fun _ _ => trivial
  evaluate := fun {s n} _ hs => by
    obtain ⟨o, h, -⟩ := exists_evaluates (rfl : s.evaluate limits n = _)
    exact (h.genuine hs).1
  clear := fun hs => ⟨hs.context.reset, hs.catalog, hs.memory⟩

theorem fresh_genuine (aliases : Aliases) : (fresh (.withAliases aliases)).Genuine where
  context := Context.genuine_iff.mpr (.empty Bindings.genuine_nil)
  catalog := Catalog.withAliases_standard aliases
  memory := fun _ h => nomatch h

theorem Genuine.lookup {s : Session} (hs : s.Genuine) (text : String) :
    ({ s with catalog := (s.catalog.resolve text).2 } : Session).Genuine where
  context := hs.context
  catalog := (Catalog.resolve_genuine hs.catalog rfl).1
  memory := by
    simp only
    rw [Catalog.resolve_memory]
    exact hs.memory

/-- **Every session of the standard registry holds genuine units only**, whatever it has gone
through. -/
theorem history_genuine (aliases : Aliases) (limits : Limits) (steps : List Step) :
    (history limits (.withAliases aliases) steps).Genuine :=
  (genuine_preserved limits).history (fun text hs => hs.lookup text) (fresh_genuine aliases) steps

end Session

end Reckon
